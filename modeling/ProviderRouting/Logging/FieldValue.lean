import ProviderRouting.Text.Blank
import ProviderRouting.Text.Alphanumeric

/-!
# Values of span fields

A directive of a log filter may ask for spans whose fields have given values. A value is a
boolean, a number (unsigned, signed or floating), or else a regular expression, and the
directive is refused when the expression does not compile (`valueValid`).

Compiling an expression (`Pattern.compiles`) asks two things of it.

* It is well formed: escapes that exist, groups that close, named groups whose names are
  distinct and start with a letter of any script or `_`, flag groups with known flags and no
  dangling `-`, classes that close, ranges between single characters that do not run
  backwards, repetitions that follow something to repeat, and counts that are in order. The
  tree it reads as is at most `nestLimit` deep.
* It compiles without Unicode tables to an automaton over UTF-8 text. With Unicode on, as it is
  unless `(?-u)` turns it off, the classes `\d`, `\s`, `\w` and their complements, the classes
  `\p`, word boundaries, and matching without regard to case (`(?i)`) all need tables and are
  refused. With Unicode off, whatever can match a byte that is not UTF-8 text is refused:
  `.`, the complements `\D`, `\S`, `\W`, negated classes and the bytes `\x80` to `\xFF`; and a
  class may name only ASCII characters.

With the flag `x`, white space and comments from `#` to the end of the line are skipped, also
between the digits of a hexadecimal escape.
-/

namespace ProviderRouting.Logging

open ProviderRouting.Text

/-! ## Numbers -/

def allDigits (cs : List Char) : Bool := !cs.isEmpty && cs.all Char.isDigit

def digitsValue (cs : List Char) : Nat :=
  cs.foldl (fun n c => 10 * n + (c.toNat - '0'.toNat)) 0

def isUnsignedBelow (bound : Nat) : List Char → Bool
  | '+' :: ds => allDigits ds && digitsValue ds < bound
  | ds => allDigits ds && digitsValue ds < bound

def isU64 (cs : List Char) : Bool := isUnsignedBelow (Nat.pow 2 64) cs

def isI64 : List Char → Bool
  | '-' :: ds => allDigits ds && digitsValue ds ≤ Nat.pow 2 63
  | cs => isUnsignedBelow (Nat.pow 2 63) cs

def isSpecialFloat (cs : List Char) : Bool :=
  ["inf", "infinity", "nan"].contains (String.ofList (cs.map Char.toLower))

/-- Whether a text is a decimal float without sign: digits with an optional point and
fraction, at least one digit in all, and an optional exponent with digits. -/
def isDecimalFloat (cs : List Char) : Bool :=
  let whole := cs.takeWhile Char.isDigit
  let rest := cs.dropWhile Char.isDigit
  let (fraction, rest) := match rest with
    | '.' :: more => (more.takeWhile Char.isDigit, more.dropWhile Char.isDigit)
    | _ => ([], rest)
  let exponentOk := match rest with
    | [] => true
    | e :: more =>
      (e == 'e' || e == 'E') &&
        allDigits (match more with
          | '+' :: ds | '-' :: ds => ds
          | ds => ds)
  (whole.length + fraction.length != 0) && exponentOk

def isFloat : List Char → Bool
  | '+' :: cs | '-' :: cs => isSpecialFloat cs || isDecimalFloat cs
  | cs => isSpecialFloat cs || isDecimalFloat cs

/-! ## Patterns -/

namespace Pattern

/-- The flags in force at a point of a pattern that bear on compiling it. -/
structure Flags where
  caseless : Bool := false
  unicode : Bool := true
  spaced : Bool := false
  deriving Repr, DecidableEq

/-- Characters after white space and comments, when they are skipped; `inComment` says a
comment is open. -/
def skipFrom (spaced inComment : Bool) : List Char → List Char
  | [] => []
  | c :: cs =>
    if !spaced then c :: cs
    else if inComment then skipFrom spaced (c != '\n') cs
    else if isBlank c then skipFrom spaced false cs
    else if c == '#' then skipFrom spaced true cs
    else c :: cs

def skip (f : Flags) (cs : List Char) : List Char := skipFrom f.spaced false cs

/-- What an escape stands for. -/
inductive Escape where
  | char (c : Char) (byte : Bool)
  | perl (negated : Bool)
  | assertion (wordBoundary : Bool)
  deriving Repr, DecidableEq

def isHex (c : Char) : Bool := c.isDigit || ('a' ≤ c && c ≤ 'f') || ('A' ≤ c && c ≤ 'F')

def hexDigit (c : Char) : Nat :=
  if c.isDigit then c.toNat - '0'.toNat
  else if 'a' ≤ c && c ≤ 'f' then c.toNat - 'a'.toNat + 10
  else c.toNat - 'A'.toNat + 10

def hexValue (cs : List Char) : Nat := cs.foldl (fun n c => 16 * n + hexDigit c) 0

def isScalar (n : Nat) : Bool := n ≤ 0x10FFFF && !(0xD800 ≤ n && n ≤ 0xDFFF)

/-- Reads hexadecimal digits after `{` up to `}`, skipping white space and comments between
them when the flags say so: at least one digit, naming a Unicode scalar value. `digits` holds
those read so far and `fuel` bounds the steps. -/
def hexBraced (f : Flags) : Nat → List Char → List Char → Option (Escape × List Char)
  | 0, _, _ => none
  | fuel + 1, digits, cs =>
    match skip f cs with
    | '}' :: rest =>
      if !digits.isEmpty && isScalar (hexValue digits) then
        some (.char (Char.ofNat (hexValue digits)) false, rest)
      else none
    | c :: rest => if isHex c then hexBraced f fuel (digits ++ [c]) rest else none
    | [] => none

/-- Reads `width` hexadecimal digits, skipping white space and comments between them when the
flags say so. -/
def hexDigits (f : Flags) : Nat → List Char → Option (List Char × List Char)
  | 0, cs => some ([], cs)
  | _ + 1, [] => none
  | n + 1, c :: cs =>
    if isHex c then
      (hexDigits f n (if n == 0 then cs else skip f cs)).map fun (ds, rest) => (c :: ds, rest)
    else none

/-- Reads a hexadecimal escape after its letter: `width` digits, or one or more in braces. The
fixed form of `\x` names a byte. -/
def hexEscape (f : Flags) (width : Nat) (byteForm : Bool) (cs : List Char) :
    Option (Escape × List Char) :=
  match skip f cs with
  | '{' :: rest => hexBraced f (rest.length + 1) [] rest
  | cs' =>
    match hexDigits f width cs' with
    | some (ds, rest) =>
      if isScalar (hexValue ds) then some (.char (Char.ofNat (hexValue ds)) byteForm, rest)
      else none
    | none => none

/-- Whether a backslash makes a character stand for itself: every ASCII character that is
neither a letter, a digit, `<` nor `>`. -/
def escapable (c : Char) : Bool := c.toNat < 128 && !c.isAlphanum && c != '<' && c != '>'

def boundaryNames : List String := ["start", "end", "start-half", "end-half"]

def isBoundaryChar (c : Char) : Bool := c.isAlpha || c == '-'

/-- Reads a word boundary after `\b`: a name in braces, if braces with a name follow; braces
with anything else are left to be read as a count. -/
def boundary : List Char → Option (Escape × List Char)
  | '{' :: c :: cs =>
    if isBoundaryChar c then
      match (c :: cs).dropWhile isBoundaryChar with
      | '}' :: rest =>
        if boundaryNames.contains (String.ofList ((c :: cs).takeWhile isBoundaryChar)) then
          some (.assertion true, rest)
        else none
      | _ => none
    else some (.assertion true, '{' :: c :: cs)
  | ['{'] => none
  | cs => some (.assertion true, cs)

/-- Reads an escape after its backslash; none when no escape is written so. Octal and back
references are not escapes, nor are letters other than those below, nor characters beyond
ASCII. The classes `\p` and `\P` need tables whatever the flags, so they fail here. -/
def escape (f : Flags) : List Char → Option (Escape × List Char)
  | [] => none
  | c :: cs =>
    if c.isDigit then none
    else if c == 'x' then hexEscape f 2 true cs
    else if c == 'u' then hexEscape f 4 false cs
    else if c == 'U' then hexEscape f 8 false cs
    else if c == 'd' || c == 's' || c == 'w' then some (.perl false, cs)
    else if c == 'D' || c == 'S' || c == 'W' then some (.perl true, cs)
    else if escapable c then some (.char c false, cs)
    else if c == 'a' then some (.char (Char.ofNat 7) false, cs)
    else if c == 't' then some (.char (Char.ofNat 9) false, cs)
    else if c == 'n' then some (.char (Char.ofNat 10) false, cs)
    else if c == 'v' then some (.char (Char.ofNat 11) false, cs)
    else if c == 'f' then some (.char (Char.ofNat 12) false, cs)
    else if c == 'r' then some (.char (Char.ofNat 13) false, cs)
    else if c == 'A' || c == 'z' then some (.assertion false, cs)
    else if c == 'b' then boundary cs
    else if c == 'B' || c == '<' || c == '>' then some (.assertion true, cs)
    else none

/-- Whether a character compiles where it stands alone: without regard to case it needs the
case tables when Unicode is on, and a byte above `0x7F` is not UTF-8 text. -/
def literalCompiles (f : Flags) (c : Char) (byte : Bool) : Bool :=
  if f.unicode then !f.caseless else !(byte && 0x7F < c.toNat)

def escapeCompiles (f : Flags) : Escape → Bool
  | .char c byte => literalCompiles f c byte
  | .perl negated => !f.unicode && !negated
  | .assertion wordBoundary => !(wordBoundary && f.unicode)

/-! ### Classes -/

def asciiNames : List String :=
  ["alnum", "alpha", "ascii", "blank", "cntrl", "digit", "graph", "lower", "print", "punct",
    "space", "upper", "word", "xdigit"]

/-- Reads an ASCII class after its `[`, giving whether it is negated; none when the characters
are not one, and the `[` then opens a class inside the class. -/
def asciiClass : List Char → Option (Bool × List Char)
  | ':' :: cs =>
    let (negated, body) := match cs with
      | '^' :: more => (true, more)
      | more => (false, more)
    match body.dropWhile (· != ':') with
    | ':' :: ']' :: rest =>
      if asciiNames.contains (String.ofList (body.takeWhile (· != ':'))) then some (negated, rest)
      else none
    | _ => none
  | _ => none

/-- A member of a class: a single character, which may start or end a range, or a class. -/
inductive Member where
  | char (c : Char) (byte : Bool)
  | other
  deriving Repr, DecidableEq

/-- Reads one member of a class; none when it is not one or does not compile there. The
classes `\d`, `\s`, `\w` need tables with Unicode on and their complements reach beyond ASCII
with it off; assertions are no members. -/
def member (f : Flags) : List Char → Option (Member × List Char)
  | '\\' :: cs =>
    match escape f cs with
    | some (.char c byte, rest) => some (.char c byte, rest)
    | some (.perl negated, rest) => if f.unicode || negated then none else some (.other, rest)
    | _ => none
  | c :: cs => some (.char c false, cs)
  | [] => none

def memberCompiles (f : Flags) : Member → Bool
  | .char c _ => f.unicode || c.toNat < 0x80
  | .other => true

/-- Reads a member or a range of two characters; none when it does not compile or the range
runs backwards. A `-` before `]` or another `-` is no range. -/
def rangeOrMember (f : Flags) (cs : List Char) : Option (List Char) :=
  match member f cs with
  | none => none
  | some (first, rest) =>
    if !memberCompiles f first then none
    else
      match skip f rest with
      | [] => none
      | '-' :: more =>
        match skip f more with
        | ']' :: _ | '-' :: _ => some (skip f rest)
        | [] => none
        | more' =>
          match first, member f more' with
          | .char lo _, some (.char hi hb, after) =>
            if hi < lo || !memberCompiles f (.char hi hb) then none else some after
          | _, _ => none
      | rest' => some rest'

/-- A class being read, for the depth of the tree it makes: the depth of the left side of an
operator waiting for its right side, and the members read since, how many and the greatest
depth among them. -/
structure ClassLevel where
  left : Option Nat := none
  members : Nat := 0
  deepest : Nat := 0
  deriving Repr, DecidableEq

def ClassLevel.add (l : ClassLevel) (d : Nat) : ClassLevel :=
  { l with members := l.members + 1, deepest := max l.deepest d }

def ClassLevel.unionDepth (l : ClassLevel) : Nat :=
  if l.members ≤ 1 then l.deepest else l.deepest + 1

def ClassLevel.setDepth (l : ClassLevel) : Nat :=
  match l.left with
  | none => l.unionDepth
  | some d => max d l.unionDepth + 1

def ClassLevel.operator (l : ClassLevel) : ClassLevel := { left := some l.setDepth }

/-- Reads the `-` that open a class, each a member, white space and comments skipped after each
when the flags say so; `fuel` bounds the steps. -/
def leadingDashes (f : Flags) : Nat → List Char → Nat × List Char
  | 0, cs => (0, cs)
  | fuel + 1, '-' :: cs =>
    let (n, rest) := leadingDashes f fuel (skip f cs)
    (n + 1, rest)
  | _ + 1, cs => (0, cs)

/-- Reads the start of a class after its `[`: an optional `^`, then any number of `-`, or else
a `]`, which all stand for themselves as members. With Unicode off a negated class reaches bytes
that are not UTF-8 text. -/
def classOpen (f : Flags) (cs : List Char) : Option (ClassLevel × List Char) :=
  let (negated, cs) := match skip f cs with
    | '^' :: more => (true, skip f more)
    | more => (false, more)
  if negated && !f.unicode then none
  else
    match leadingDashes f cs.length cs with
    | (0, ']' :: more) => some ({ members := 1 }, more)
    | (n, more) => some ({ members := n }, more)

/-- Reads the members of a class up to the `]` that closes the outermost, giving its depth:
`level` is the class being read and `outer` the classes around it, innermost first. The
operators `&&`, `--` and `~~` may stand between members. `fuel` bounds the steps. -/
def classBody (f : Flags) : Nat → ClassLevel → List ClassLevel → List Char → Option (Nat × List Char)
  | 0, _, _, _ => none
  | fuel + 1, level, outer, cs =>
    match skip f cs with
    | [] => none
    | '[' :: rest =>
      match asciiClass rest with
      | some (negated, after) =>
        if negated && !f.unicode then none else classBody f fuel (level.add 0) outer after
      | none =>
        match classOpen f rest with
        | some (inner, after) => classBody f fuel inner (level :: outer) after
        | none => none
    | ']' :: rest =>
      match outer with
      | [] => some (level.setDepth + 1, rest)
      | parent :: outer' => classBody f fuel (parent.add (level.setDepth + 1)) outer' rest
    | '&' :: '&' :: rest | '-' :: '-' :: rest | '~' :: '~' :: rest =>
      classBody f fuel level.operator outer rest
    | cs' =>
      match rangeOrMember f cs' with
      | some rest => classBody f fuel (level.add 0) outer rest
      | none => none

/-- Reads a class after its `[`, giving its depth. Without regard to case a class needs the case
tables when Unicode is on. -/
def bracketed (f : Flags) (cs : List Char) : Option (Nat × List Char) :=
  if f.unicode && f.caseless then none
  else
    match classOpen f cs with
    | some (level, items) => classBody f (items.length + 1) level [] items
    | none => none

/-! ### Groups and repetitions -/

/-- A group being read, for the depth of the tree it makes. -/
structure Level where
  branches : Nat := 0
  deepestBranch : Nat := 0
  items : Nat := 0
  deepestItem : Nat := 0
  last : Option Nat := none
  deriving Repr, DecidableEq

def Level.add (l : Level) (d : Nat) (repeatable : Bool) : Level :=
  { l with
    items := l.items + 1
    deepestItem := max l.deepestItem d
    last := if repeatable then some d else none }

def Level.repeated (l : Level) : Option Level :=
  l.last.map fun d => { l with deepestItem := max l.deepestItem (d + 1), last := some (d + 1) }

/-- The depth of the alternative being read: one item is itself, several make a sequence one
deeper. -/
def Level.sequenceDepth (l : Level) : Nat :=
  if l.items ≤ 1 then l.deepestItem else l.deepestItem + 1

def Level.alternative (l : Level) : Level :=
  { branches := l.branches + 1, deepestBranch := max l.deepestBranch l.sequenceDepth }

def Level.depth (l : Level) : Nat :=
  if l.branches = 0 then l.sequenceDepth else max l.deepestBranch l.sequenceDepth + 1

/-- How deep the tree of a pattern may be. Groups, sequences of more than one item, choices
between alternatives, repetitions and classes each add a level, and so do unions of class
members and operators between classes. -/
def nestLimit : Nat := 250

/-- The state of a scan outside classes. -/
structure Scan where
  flags : Flags := {}
  level : Level := {}
  outer : List (Flags × Level) := []
  names : List String := []

/-- Reads a group's name after `<` up to `>`: a letter or `_`, then letters, digits, `_`, `.`,
`[` and `]`. -/
def captureName (cs : List Char) : Option (String × List Char) :=
  let name := cs.takeWhile (· != '>')
  match cs.dropWhile (· != '>') with
  | '>' :: rest =>
    match name with
    | c :: more =>
      if (c == '_' || isAlphabetic c) &&
          more.all (fun d => d == '_' || d == '.' || d == '[' || d == ']' || isAlphanumeric d) then
        some (String.ofList name, rest)
      else none
    | [] => none
  | _ => none

def flagLetters : List Char := ['i', 'm', 's', 'U', 'u', 'x', 'R']

/-- Reads flags up to `:` or `)`, each letter at most once and at most one `-`, which turns the
letters after it off and may not come last. Gives the letters with their settings, whether
any letter was written, and the characters from the `:` or `)` on. -/
def flagItems (negating lastDash : Bool) (acc : List (Char × Bool)) :
    List Char → Option (List (Char × Bool) × List Char)
  | [] => none
  | c :: cs =>
    if c == ':' || c == ')' then
      if lastDash then none else some (acc, c :: cs)
    else if c == '-' then
      if negating then none else flagItems true true acc cs
    else if flagLetters.contains c && !(acc.any (·.1 == c)) then
      flagItems negating false (acc ++ [(c, !negating)]) cs
    else none

def Flags.apply (f : Flags) : List (Char × Bool) → Flags
  | [] => f
  | (c, on) :: rest =>
    let f := if c == 'i' then { f with caseless := on }
      else if c == 'u' then { f with unicode := on }
      else if c == 'x' then { f with spaced := on }
      else f
    f.apply rest

/-- Reads the head of a group after `(`: a look-around is refused; a named group needs a new
name; a head of flags alone sets them for the rest of the enclosing group, and may not be
empty. -/
def groupHead (st : Scan) (cs : List Char) : Option (Scan × List Char) :=
  let opened := { st with outer := (st.flags, st.level) :: st.outer, level := {} }
  match skip st.flags cs with
  | '?' :: '=' :: _ | '?' :: '!' :: _ | '?' :: '<' :: '=' :: _ | '?' :: '<' :: '!' :: _ => none
  | '?' :: 'P' :: '<' :: more | '?' :: '<' :: more =>
    match captureName more with
    | some (name, after) =>
      if st.names.contains name then none else some ({ opened with names := name :: st.names }, after)
    | none => none
  | '?' :: more =>
    match flagItems false false [] more with
    | some (items, ')' :: after) =>
      if items.isEmpty then none
      else some ({ st with flags := st.flags.apply items, level := st.level.add 0 false }, after)
    | some (items, _ :: after) => some ({ opened with flags := st.flags.apply items }, after)
    | _ => none
  | cs' => some (opened, cs')

/-- Reads a count after `{`: a least count, then optionally `,` and a greatest count not below
it, then `}`; counts fit in 32 bits. -/
def counted (f : Flags) (cs : List Char) : Option (List Char) :=
  let cs := cs.dropWhile isBlank
  let least := cs.takeWhile Char.isDigit
  let rest := (cs.dropWhile Char.isDigit).dropWhile isBlank
  if least.isEmpty || Nat.pow 2 32 ≤ digitsValue least then none
  else
    match rest with
    | '}' :: after => some after
    | ',' :: more =>
      match skip f more with
      | '}' :: after => some after
      | more' =>
        let more' := more'.dropWhile isBlank
        let most := more'.takeWhile Char.isDigit
        let tail := (more'.dropWhile Char.isDigit).dropWhile isBlank
        if most.isEmpty || Nat.pow 2 32 ≤ digitsValue most || digitsValue most < digitsValue least
        then none
        else
          match tail with
          | '}' :: after => some after
          | _ => none
    | _ => none

def lazy : List Char → List Char
  | '?' :: cs => cs
  | cs => cs

def scan : Nat → Scan → List Char → Bool
  | 0, _, _ => false
  | fuel + 1, st, cs =>
    let atom (d : Nat) := { st with level := st.level.add d true }
    match skip st.flags cs with
    | [] => st.outer.isEmpty && st.level.depth ≤ nestLimit
    | c :: rest =>
      if c == '(' then
        match groupHead st rest with
        | some (st', after) => scan fuel st' after
        | none => false
      else if c == ')' then
        match st.outer with
        | [] => false
        | (saved, parent) :: outer =>
          scan fuel { st with
            flags := saved
            outer := outer
            level := parent.add (st.level.depth + 1) true } rest
      else if c == '|' then scan fuel { st with level := st.level.alternative } rest
      else if c == '[' then
        match bracketed st.flags rest with
        | some (d, after) => scan fuel (atom d) after
        | none => false
      else if c == '*' || c == '+' || c == '?' then
        match st.level.repeated with
        | some l => scan fuel { st with level := l } (lazy rest)
        | none => false
      else if c == '{' then
        match st.level.repeated, counted st.flags rest with
        | some l, some after => scan fuel { st with level := l } (lazy (skip st.flags after))
        | _, _ => false
      else if c == '\\' then
        match escape st.flags rest with
        | some (e, after) => escapeCompiles st.flags e && scan fuel (atom 0) after
        | none => false
      else if c == '.' then st.flags.unicode && scan fuel (atom 0) rest
      else if c == '^' || c == '$' then scan fuel (atom 0) rest
      else literalCompiles st.flags c false && scan fuel (atom 0) rest

def compiles (cs : List Char) : Bool := scan (cs.length + 1) {} cs

end Pattern

def valueValid (cs : List Char) : Bool :=
  cs == "true".toList || cs == "false".toList || isU64 cs || isI64 cs || isFloat cs ||
    Pattern.compiles cs

example : Pattern.compiles "a[b-d]+(?-u:\\d)\\x7F".toList = true := by decide +kernel

example : Pattern.compiles "(?x)\\x 4 1[\\x 41-\\x5 A]".toList = true ∧
    Pattern.compiles "(?<\u00B2>x)".toList = false ∧
    Pattern.compiles (List.replicate 251 '(' ++ ['a'] ++ List.replicate 251 ')') = false ∧
    Pattern.compiles (List.replicate 250 '(' ++ ['a'] ++ List.replicate 250 ')') = true := by
  decide +kernel

example : Pattern.compiles "[a--b]".toList = true ∧ Pattern.compiles "[\\d-z]".toList = false ∧
    Pattern.compiles "(?i)x".toList = false ∧ Pattern.compiles "(?-u).".toList = false := by
  decide +kernel

end ProviderRouting.Logging
