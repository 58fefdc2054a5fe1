import ProviderRouting.Text.Quoted
import ProviderRouting.Logging.FieldValue

/-!
# Log filter directives

A log filter is a comma-separated list of directives; empty parts are skipped, so an empty
filter is valid and filters nothing in. The directives are read in order and reading stops at
the first one that is not accepted.

A directive with white space trimmed from both ends must not be empty. It is a target, then an
optional span, then an optional `=level`:

* the target is the text before the first `[` or `=`; unless it is empty it starts with a
  letter or number of any script, `_`, `-` or `:`; a directive with neither target nor span is
  refused;
* a span is `[name]` or `[name{field}]`: the name runs to the first `{` or `]`, the field to
  the first `}`, which `]` must follow; the field is not empty, and its value, after `=`, must
  be valid (`valueValid`);
* after the span comes nothing or the `=` of the level, which runs to the end; a level is
  empty, or `trace`, `debug`, `info`, `warn`, `error` or `off` in any ASCII case, or a whole
  number from 0 to 5 with an optional `+`.

A level alone is thus read as a target, and accepted. The target is checked in the trimmed
text. A directive that is a target alone is then accepted; the pieces of any other are cut from
the untrimmed text at the byte positions found in the trimmed one (`Layout`). With white space
in front the pieces shift: the target cut is not looked at again, but the field and the level
are checked as cut, and a cut may fall inside a character: reading then stops as a slice that
is out of bounds does, and `Reading.stopped` carries the message.
-/

namespace ProviderRouting.Logging

open ProviderRouting.Text

/-- What reading a filter comes to. -/
inductive Reading where
  | accepted
  | refused
  | stopped (message : String)
  deriving Repr, DecidableEq

def splitAt (sep : Char) : List Char → List (List Char)
  | [] => [[]]
  | c :: cs =>
    if c == sep then [] :: splitAt sep cs
    else
      match splitAt sep cs with
      | [] => [[c]]
      | p :: ps => (c :: p) :: ps

def byteLength : List Char → Nat
  | [] => 0
  | c :: cs => c.utf8Size + byteLength cs

/-! ## Cutting text at byte positions -/

/-- The character that byte `b` falls inside, with the byte where that character starts, the
first character starting at byte `pos`; none when `b` is where a character starts or past the
end. -/
def insideAt (b : Nat) : Nat → List Char → Option (Nat × Char)
  | _, [] => none
  | pos, c :: cs =>
    if b ≤ pos then none
    else if b < pos + c.utf8Size then some (pos, c)
    else insideAt b (pos + c.utf8Size) cs

/-- The characters that start at a byte from `lo` up to `hi`, the first starting at byte
`pos`. -/
def bytesFromTo (lo hi : Nat) : Nat → List Char → List Char
  | _, [] => []
  | pos, c :: cs =>
    if hi ≤ pos then []
    else if pos < lo then bytesFromTo lo hi (pos + c.utf8Size) cs
    else c :: bytesFromTo lo hi (pos + c.utf8Size) cs

def insideMessage (edge : String) (b start : Nat) (c : Char) : String :=
  edge ++ " byte index " ++ toString b ++ " is not a char boundary; it is inside " ++
    quotedCharacter c ++ " (bytes " ++ toString start ++ ".." ++
    toString (start + c.utf8Size) ++ " of string)"

/-- The characters of `cs` from byte `lo` up to byte `hi` (to the end when none), or the
message of the first end that falls inside a character. -/
def slice (cs : List Char) (lo : Nat) (hi : Option Nat) : Except String (List Char) :=
  match insideAt lo 0 cs with
  | some (start, c) => .error (insideMessage "start" lo start c)
  | none =>
    match hi with
    | some h =>
      match insideAt h 0 cs with
      | some (start, c) => .error (insideMessage "end" h start c)
      | none => .ok (bytesFromTo lo h 0 cs)
    | none => .ok (bytesFromTo lo (byteLength cs) 0 cs)

/-! ## Directives -/

/-- The pieces of a directive, as byte positions of its trimmed text. -/
structure Layout where
  targetEnd : Nat
  span : Option ((Nat × Nat) × Option (Nat × Nat)) := none
  level : Option Nat := none
  deriving Repr, DecidableEq

/-- Where the level starts after a span ending before byte `pos`, with the characters after it:
none when something other than `=` follows. -/
def levelAfter (pos : Nat) : List Char → Option (Option Nat)
  | [] => some none
  | '=' :: _ => some (some (pos + 1))
  | _ => none

def layout (t : List Char) : Option Layout :=
  let target := t.takeWhile fun c => c != '[' && c != '='
  let te := byteLength target
  match t.drop target.length with
  | [] => some { targetEnd := te }
  | '=' :: _ => some { targetEnd := te, level := some (te + 1) }
  | _ :: r =>
    let name := r.takeWhile fun c => c != '{' && c != ']'
    let ne := te + 1 + byteLength name
    match r.drop name.length with
    | ']' :: after =>
      (levelAfter (ne + 1) after).map fun level =>
        { targetEnd := te, span := some ((te + 1, ne), none), level := level }
    | '{' :: r2 =>
      let field := r2.takeWhile (· != '}')
      let fe := ne + 1 + byteLength field
      match r2.drop field.length with
      | '}' :: ']' :: after =>
        (levelAfter (fe + 2) after).map fun level =>
          { targetEnd := te, span := some ((te + 1, ne), some (ne + 1, fe)), level := level }
      | _ => none
    | _ => none

def isLevel (cs : List Char) : Bool :=
  isUnsignedBelow 6 cs ||
    ["trace", "debug", "info", "warn", "error", "off"].contains
      (String.ofList (cs.map Char.toLower))

def targetStart (c : Char) : Bool := isAlphanumeric c || c == '_' || c == '-' || c == ':'

/-- Whether a field is valid: any name, and after the first `=` a valid value, which a second
`=` ends. -/
def fieldValid (cs : List Char) : Bool :=
  match cs.dropWhile (· != '=') with
  | [] => true
  | _ :: value => valueValid (value.takeWhile (· != '='))

/-- Whether the target of a trimmed directive may stand: an empty one only before a span, any
other starting with a letter or number of any script, `_`, `-` or `:`. -/
def targetValid (target : List Char) (hasSpan : Bool) : Bool :=
  match target with
  | [] => hasSpan
  | c :: _ => targetStart c

/-- The pieces of a directive that are checked once cut from its untrimmed text: the span's
field and the level. -/
structure Pieces where
  field : Option (List Char)
  level : Option (List Char)

/-- Cuts the pieces of a layout from the untrimmed text, target first, then the span's name
and field, then the level. -/
def Layout.cut (l : Layout) (d : List Char) : Except String Pieces := do
  let _ ← slice d 0 (some l.targetEnd)
  let field ← match l.span with
    | none => pure none
    | some ((ns, ne), f) => do
      let _ ← slice d ns (some ne)
      match f with
      | some (fs, fe) => pure (some (← slice d fs (some fe)))
      | none => pure none
  let level ← match l.level with
    | some ls => pure (some (← slice d ls none))
    | none => pure none
  pure { field := field, level := level }

def Pieces.valid (p : Pieces) : Bool :=
  (match p.field with
    | some f => !f.isEmpty && fieldValid f
    | none => true) &&
  (match p.level with
    | some l => l.isEmpty || isLevel l
    | none => true)

def readDirective (d : List Char) : Reading :=
  let t := trimBlankList d
  if t.isEmpty then .refused
  else
    match layout t with
    | none => .refused
    | some l =>
      if !targetValid (t.takeWhile fun c => c != '[' && c != '=') l.span.isSome then .refused
      else if l.span.isNone && l.level.isNone then .accepted
      else
        match l.cut d with
        | .error message => .stopped message
        | .ok p => if p.valid then .accepted else .refused

def readDirectives : List (List Char) → Reading
  | [] => .accepted
  | d :: ds =>
    match readDirective d with
    | .accepted => readDirectives ds
    | r => r

def Filter.read (s : String) : Reading :=
  readDirectives ((splitAt ',' s.toList).filter (!·.isEmpty))

example : Filter.read "a=info,[span{x=1}]=warn" = .accepted := by decide +kernel

example : Filter.read "[a]b" = .refused ∧ Filter.read "=info" = .refused ∧
    Filter.read "a, ,b" = .refused ∧ Filter.read "+5" = .refused ∧ Filter.read "x=+5" = .accepted ∧
    Filter.read "\u3000ab" = .accepted ∧ Filter.read " a[s]" = .accepted := by
  decide +kernel

example : Filter.read "\u00A0x=info" =
    .stopped ("end byte index 1 is not a char boundary; it is inside '\\u\x7ba0\x7d' " ++
      "(bytes 0..2 of string)") := by
  decide +kernel

end ProviderRouting.Logging
