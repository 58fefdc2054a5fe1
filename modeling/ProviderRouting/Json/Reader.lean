import ProviderRouting.Json.Value

/-!
# Reading JSON text

A reader over the characters of a text that keeps its place as a line (from one) and a column
counted in bytes from the start of the line. Every error carries a place:

* an error found on the character about to be read is placed one byte past the place before it
  (`Cursor.peekMark`); a line break there moves the place to the start of the next line;
* an error found after reading some characters is placed where reading stopped (`Cursor.here`);
* an error raised while decoding a value has no place of its own; the reader that called the
  decoder places it where it stopped (`ReadError.place`).

Numbers follow the usual three shapes: an integer below `2^64` is `Number.nat`, a negative one
down to `-2^63` is `Number.neg`, and anything else (a fraction, an exponent, a larger integer,
`-0`) becomes a double. A double is formed as the integer significand times a power of ten taken
from a table, dividing by `1e308` while the exponent is below the table.

`Value.parse` reads one value and refuses trailing characters; nesting deeper than 127 arrays or
objects is refused.
-/

namespace ProviderRouting.Json

open ProviderRouting.Number

/-- A place in a text: line from one, column in bytes from the start of the line. -/
structure Mark where
  line : Nat
  col : Nat
  deriving Repr, DecidableEq

/-- What went wrong while reading or decoding JSON text. -/
inductive Problem where
  | eofValue
  | eofList
  | eofObject
  | eofString
  | expectedColon
  | expectedListCommaOrEnd
  | expectedObjectCommaOrEnd
  | expectedIdent
  | expectedValue
  | invalidEscape
  | invalidNumber
  | numberOutOfRange
  | controlChar
  | keyMustBeString
  | loneLeadingSurrogate
  | trailingComma
  | trailingCharacters
  | unexpectedEndOfHexEscape
  | recursionLimit
  | custom (msg : String)
  deriving Repr, DecidableEq

def Problem.text : Problem → String
  | .eofValue => "EOF while parsing a value"
  | .eofList => "EOF while parsing a list"
  | .eofObject => "EOF while parsing an object"
  | .eofString => "EOF while parsing a string"
  | .expectedColon => "expected `:`"
  | .expectedListCommaOrEnd => "expected `,` or `]`"
  | .expectedObjectCommaOrEnd => "expected `,` or `\x7d`"
  | .expectedIdent => "expected ident"
  | .expectedValue => "expected value"
  | .invalidEscape => "invalid escape"
  | .invalidNumber => "invalid number"
  | .numberOutOfRange => "number out of range"
  | .controlChar => "control character (\\u0000-\\u001F) found while parsing a string"
  | .keyMustBeString => "key must be a string"
  | .loneLeadingSurrogate => "lone leading surrogate in hex escape"
  | .trailingComma => "trailing comma"
  | .trailingCharacters => "trailing characters"
  | .unexpectedEndOfHexEscape => "unexpected end of hex escape"
  | .recursionLimit => "recursion limit exceeded"
  | .custom msg => msg

/-- A problem and, once known, its place. -/
structure ReadError where
  problem : Problem
  mark : Option Mark := none
  deriving Repr

def ReadError.message (e : ReadError) : String :=
  match e.mark with
  | some m => e.problem.text ++ " at line " ++ toString m.line ++ " column " ++ toString m.col
  | none => e.problem.text

def ReadError.place (e : ReadError) (m : Mark) : ReadError :=
  match e.mark with
  | some _ => e
  | none => { e with mark := some m }

/-- The characters still to read and the place before them. -/
structure Cursor where
  rest : List Char
  line : Nat
  col : Nat

def Cursor.start (s : String) : Cursor := ⟨s.toList, 1, 0⟩

def Cursor.peek? (c : Cursor) : Option Char := c.rest.head?

def Cursor.bump (c : Cursor) : Cursor :=
  match c.rest with
  | [] => c
  | ch :: rest => if ch = '\n' then ⟨rest, c.line + 1, 0⟩ else ⟨rest, c.line, c.col + ch.utf8Size⟩

def Cursor.here (c : Cursor) : Mark := ⟨c.line, c.col⟩

def Cursor.peekMark (c : Cursor) : Mark :=
  match c.rest with
  | [] => ⟨c.line, c.col⟩
  | ch :: _ => if ch = '\n' then ⟨c.line + 1, 0⟩ else ⟨c.line, c.col + 1⟩

def Cursor.fail {α : Type} (c : Cursor) (p : Problem) : Except ReadError α :=
  .error ⟨p, some c.here⟩

def Cursor.failPeek {α : Type} (c : Cursor) (p : Problem) : Except ReadError α :=
  .error ⟨p, some c.peekMark⟩

def isBlank (ch : Char) : Bool := ch = ' ' || ch = '\n' || ch = '\t' || ch = '\r'

def Cursor.blank (c : Cursor) : Cursor :=
  go c.rest.length c
where
  go : Nat → Cursor → Cursor
    | 0, c => c
    | n + 1, c =>
      match c.rest with
      | ch :: _ => if isBlank ch then go n c.bump else c
      | [] => c

def Cursor.toEnd (c : Cursor) : Cursor :=
  go c.rest.length c
where
  go : Nat → Cursor → Cursor
    | 0, c => c
    | n + 1, c => go n c.bump

def Cursor.skipDigits (c : Cursor) : Cursor :=
  go c.rest.length c
where
  go : Nat → Cursor → Cursor
    | 0, c => c
    | n + 1, c =>
      match c.rest with
      | ch :: _ => if ch.isDigit then go n c.bump else c
      | [] => c

def hexValue? (ch : Char) : Option Nat :=
  if '0' ≤ ch ∧ ch ≤ '9' then some (ch.toNat - 48)
  else if 'a' ≤ ch ∧ ch ≤ 'f' then some (ch.toNat - 87)
  else if 'A' ≤ ch ∧ ch ≤ 'F' then some (ch.toNat - 55)
  else none

/-- Reads the four bytes of a `\u` escape. Fewer than four bytes left is the end of the string;
four bytes that are not all hexadecimal digits are an invalid escape placed after them. -/
def Cursor.hex4 (c : Cursor) : Except ReadError (Nat × Cursor) :=
  let bytes := (c.rest.take 4).foldl (fun n ch => n + ch.utf8Size) 0
  if bytes < 4 then c.toEnd.fail .eofString
  else
    match c.rest with
    | a :: b :: d :: e :: rest =>
      match hexValue? a, hexValue? b, hexValue? d, hexValue? e with
      | some x, some y, some z, some w =>
        .ok (((x * 16 + y) * 16 + z) * 16 + w, ⟨rest, c.line, c.col + 4⟩)
      | _, _, _, _ => .error ⟨.invalidEscape, some (fourBytesOn c)⟩
    | _ => .error ⟨.invalidEscape, some (fourBytesOn c)⟩
where
  fourBytesOn (c : Cursor) : Mark :=
    let step := fun (st : Nat × Mark) (ch : Char) =>
      if st.1 ≥ 4 then st
      else if ch = '\n' then (st.1 + 1, ⟨st.2.line + 1, 0⟩)
      else
        let k := min ch.utf8Size (4 - st.1)
        (st.1 + k, ⟨st.2.line, st.2.col + k⟩)
    ((c.rest.take 4).foldl step (0, c.here)).2

/-- Reads the escape after a backslash inside a string, adding its character to `acc`
(reversed). -/
def Cursor.escape (c : Cursor) (acc : List Char) : Except ReadError (List Char × Cursor) :=
  match c.rest with
  | [] => c.fail .eofString
  | ch :: _ =>
    let c1 := c.bump
    if ch = '"' then .ok ('"' :: acc, c1)
    else if ch = '\\' then .ok ('\\' :: acc, c1)
    else if ch = '/' then .ok ('/' :: acc, c1)
    else if ch = 'b' then .ok (Char.ofNat 8 :: acc, c1)
    else if ch = 'f' then .ok (Char.ofNat 12 :: acc, c1)
    else if ch = 'n' then .ok ('\n' :: acc, c1)
    else if ch = 'r' then .ok ('\r' :: acc, c1)
    else if ch = 't' then .ok ('\t' :: acc, c1)
    else if ch = 'u' then
      match c1.hex4 with
      | .error e => .error e
      | .ok (n, c2) =>
        if 0xDC00 ≤ n ∧ n ≤ 0xDFFF then c2.fail .loneLeadingSurrogate
        else if n < 0xD800 ∨ n > 0xDBFF then .ok (Char.ofNat n :: acc, c2)
        else
          match c2.rest with
          | [] => c2.fail .eofString
          | '\\' :: _ =>
            let c3 := c2.bump
            match c3.rest with
            | [] => c3.fail .eofString
            | 'u' :: _ =>
              match c3.bump.hex4 with
              | .error e => .error e
              | .ok (n2, c4) =>
                if 0xDC00 ≤ n2 ∧ n2 ≤ 0xDFFF then
                  .ok (Char.ofNat (((n - 0xD800) * 1024 + (n2 - 0xDC00)) + 0x10000) :: acc, c4)
                else c4.fail .loneLeadingSurrogate
            | _ => c3.bump.fail .unexpectedEndOfHexEscape
          | _ => c2.bump.fail .unexpectedEndOfHexEscape
    else c1.fail .invalidEscape

def Cursor.string (c : Cursor) : Except ReadError (String × Cursor) :=
  go c.rest.length c []
where
  go : Nat → Cursor → List Char → Except ReadError (String × Cursor)
    | 0, c, _ => c.toEnd.fail .eofString
    | n + 1, c, acc =>
      match c.rest with
      | [] => c.fail .eofString
      | ch :: _ =>
        if ch = '"' then .ok (String.ofList acc.reverse, c.bump)
        else if ch = '\\' then
          match c.bump.escape acc with
          | .ok (acc', c') => go n c' acc'
          | .error e => .error e
        else if ch.toNat < 32 then c.bump.fail .controlChar
        else go n c.bump (ch :: acc)

/-- Skips a string after its opening quote. Escapes are checked only for their form, and a
control character is placed on itself. -/
def Cursor.skipString (c : Cursor) : Except ReadError Cursor :=
  go c.rest.length c
where
  go : Nat → Cursor → Except ReadError Cursor
    | 0, c => c.toEnd.fail .eofString
    | n + 1, c =>
      match c.rest with
      | [] => c.fail .eofString
      | ch :: _ =>
        if ch = '"' then .ok c.bump
        else if ch = '\\' then
          let c1 := c.bump
          match c1.rest with
          | [] => c1.fail .eofString
          | e :: _ =>
            if e = 'u' then
              match c1.bump.hex4 with
              | .ok (_, c2) => go n c2
              | .error err => .error err
            else if e = '"' ∨ e = '\\' ∨ e = '/' ∨ e = 'b' ∨ e = 'f' ∨ e = 'n' ∨ e = 'r' ∨
                e = 't' then go n c1.bump
            else c1.bump.fail .invalidEscape
        else if ch.toNat < 32 then c.fail .controlChar
        else go n c.bump

def Cursor.ident (c : Cursor) (word : List Char) : Except ReadError Cursor :=
  match word with
  | [] => .ok c
  | w :: ws =>
    match c.rest with
    | [] => c.fail .eofValue
    | ch :: _ => if ch = w then c.bump.ident ws else c.bump.fail .expectedIdent

def maxU64 : Nat := Nat.pow 2 64 - 1

def maxI32 : Int := Nat.pow 2 31 - 1

def roundedFloat (n : Nat) : Float :=
  if n < Nat.pow 2 53 then n.toUInt64.toFloat
  else
    let shift := Nat.log2 n - 52
    let q := n >>> shift
    let r := n % Nat.pow 2 shift
    let half := Nat.pow 2 (shift - 1)
    let q := if r > half ∨ (r = half ∧ q % 2 = 1) then q + 1 else q
    q.toUInt64.toFloat.scaleB shift

def pow10 (i : Nat) : Float := roundedFloat (Nat.pow 10 i)

/-- A double from a significand and a decimal exponent: multiply or divide by a power of ten
from the table, dividing by `1e308` first while the exponent is below it. -/
def Cursor.floatOf (c : Cursor) (positive : Bool) (sig : Nat) (exp : Int) :
    Except ReadError Float :=
  match go 8 (roundedFloat sig) exp with
  | some f => .ok (if positive then f else -f)
  | none => c.fail .numberOutOfRange
where
  go : Nat → Float → Int → Option Float
    | 0, f, _ => some f
    | fuel + 1, f, e =>
      if e.natAbs ≤ 308 then
        if 0 ≤ e then
          let g := f * pow10 e.natAbs
          if g.isInf then none else some g
        else some (f / pow10 e.natAbs)
      else if f == 0 then some f
      else if 0 ≤ e then none
      else go fuel (f / pow10 308) (e + 308)

def saturate (x : Int) : Int := max (-(Nat.pow 2 31)) (min (Nat.pow 2 31 - 1) x)

def Cursor.exponent (c : Cursor) (positive : Bool) (sig : Nat) (start : Int) :
    Except ReadError (Float × Cursor) :=
  let c1 := c.bump
  let (up, c2) : Bool × Cursor :=
    match c1.rest with
    | '+' :: _ => (true, c1.bump)
    | '-' :: _ => (false, c1.bump)
    | _ => (true, c1)
  match c2.rest with
  | [] => c2.fail .eofValue
  | ch :: _ =>
    if ch.isDigit then digits c2.rest.length c2.bump up (ch.toNat - 48)
    else c2.bump.fail .invalidNumber
where
  digits : Nat → Cursor → Bool → Nat → Except ReadError (Float × Cursor)
    | 0, c, up, e => finish c up e
    | n + 1, c, up, e =>
      match c.rest with
      | ch :: _ =>
        if ch.isDigit then
          let c' := c.bump
          let e' := e * 10 + (ch.toNat - 48)
          if (e' : Int) > maxI32 then
            if sig ≠ 0 ∧ up then c'.fail .numberOutOfRange
            else .ok (if positive then 0.0 else -0.0, c'.skipDigits)
          else digits n c' up e'
        else finish c up e
      | [] => finish c up e
  finish (c : Cursor) (up : Bool) (e : Nat) : Except ReadError (Float × Cursor) :=
    let total := saturate (if up then start + e else start - e)
    match c.floatOf positive sig total with
    | .ok f => .ok (f, c)
    | .error err => .error err

def Cursor.fraction (c : Cursor) (positive : Bool) (sig : Nat) (before : Int) :
    Except ReadError (Float × Cursor) :=
  go c.rest.length c.bump sig 0
where
  go : Nat → Cursor → Nat → Int → Except ReadError (Float × Cursor)
    | 0, c, s, after => done c s after
    | n + 1, c, s, after =>
      match c.rest with
      | ch :: _ =>
        if ch.isDigit then
          let s' := s * 10 + (ch.toNat - 48)
          if s' > maxU64 then
            let c' := c.skipDigits
            match c'.rest with
            | e :: _ =>
              if e = 'e' ∨ e = 'E' then c'.exponent positive s (before + after)
              else finishAt c' s (before + after)
            | [] => finishAt c' s (before + after)
          else go n c.bump s' (after - 1)
        else done c s after
      | [] => done c s after
  done (c : Cursor) (s : Nat) (after : Int) : Except ReadError (Float × Cursor) :=
    if after = 0 then
      match c.rest with
      | [] => c.failPeek .eofValue
      | _ => c.failPeek .invalidNumber
    else
      match c.rest with
      | e :: _ =>
        if e = 'e' ∨ e = 'E' then c.exponent positive s (before + after)
        else finishAt c s (before + after)
      | [] => finishAt c s (before + after)
  finishAt (c : Cursor) (s : Nat) (exp : Int) : Except ReadError (Float × Cursor) :=
    match c.floatOf positive s exp with
    | .ok f => .ok (f, c)
    | .error err => .error err

def Cursor.afterInteger (c : Cursor) (positive : Bool) (sig : Nat) :
    Except ReadError (Number × Cursor) :=
  match c.rest with
  | '.' :: _ =>
    match c.fraction positive sig 0 with
    | .ok (f, c') => .ok (.float f, c')
    | .error e => .error e
  | e :: _ =>
    if e = 'e' ∨ e = 'E' then
      match c.exponent positive sig 0 with
      | .ok (f, c') => .ok (.float f, c')
      | .error err => .error err
    else .ok (integer, c)
  | [] => .ok (integer, c)
where
  integer : Number :=
    if positive then .nat sig
    else if 1 ≤ sig ∧ sig ≤ Nat.pow 2 63 then .neg (-(sig : Int))
    else .float (-(roundedFloat sig))

def Cursor.longInteger (c : Cursor) (positive : Bool) (sig : Nat) :
    Except ReadError (Number × Cursor) :=
  go c.rest.length c 0
where
  go : Nat → Cursor → Int → Except ReadError (Number × Cursor)
    | 0, c, e => last c e
    | n + 1, c, e =>
      match c.rest with
      | ch :: _ =>
        if ch.isDigit then go n c.bump (e + 1)
        else if ch = '.' then
          match c.fraction positive sig e with
          | .ok (f, c') => .ok (.float f, c')
          | .error err => .error err
        else if ch = 'e' ∨ ch = 'E' then
          match c.exponent positive sig e with
          | .ok (f, c') => .ok (.float f, c')
          | .error err => .error err
        else last c e
      | [] => last c e
  last (c : Cursor) (e : Int) : Except ReadError (Number × Cursor) :=
    match c.floatOf positive sig e with
    | .ok f => .ok (.float f, c)
    | .error err => .error err

def Cursor.number (c : Cursor) (positive : Bool) : Except ReadError (Number × Cursor) :=
  match c.rest with
  | [] => c.fail .eofValue
  | ch :: _ =>
    let c1 := c.bump
    if ch = '0' then
      match c1.rest with
      | d :: _ => if d.isDigit then c1.failPeek .invalidNumber else c1.afterInteger positive 0
      | [] => c1.afterInteger positive 0
    else if ch.isDigit then go c1.rest.length c1 (ch.toNat - 48)
    else c1.fail .invalidNumber
where
  go : Nat → Cursor → Nat → Except ReadError (Number × Cursor)
    | 0, c, s => c.afterInteger positive s
    | n + 1, c, s =>
      match c.rest with
      | d :: _ =>
        if d.isDigit then
          let s' := s * 10 + (d.toNat - 48)
          if s' > maxU64 then c.longInteger positive s else go n c.bump s'
        else c.afterInteger positive s
      | [] => c.afterInteger positive s

def Cursor.skipNumber (c : Cursor) : Except ReadError Cursor :=
  match c.rest with
  | ch :: _ =>
    if ch = '0' then
      let c1 := c.bump
      match c1.rest with
      | d :: _ => if d.isDigit then c1.failPeek .invalidNumber else tail c1
      | [] => tail c1
    else if ch.isDigit then tail c.bump.skipDigits
    else c.bump.fail .invalidNumber
  | [] => c.fail .invalidNumber
where
  expPart (c : Cursor) : Except ReadError Cursor :=
    let c1 := c.bump
    let c2 := match c1.rest with
      | '+' :: _ | '-' :: _ => c1.bump
      | _ => c1
    match c2.rest with
    | d :: _ => if d.isDigit then .ok c2.bump.skipDigits else c2.bump.fail .invalidNumber
    | [] => c2.fail .invalidNumber
  tail (c : Cursor) : Except ReadError Cursor :=
    match c.rest with
    | '.' :: _ =>
      let c1 := c.bump
      match c1.rest with
      | d :: _ =>
        if d.isDigit then
          let c2 := c1.skipDigits
          match c2.rest with
          | e :: _ => if e = 'e' ∨ e = 'E' then expPart c2 else .ok c2
          | [] => .ok c2
        else c1.failPeek .invalidNumber
      | [] => c1.failPeek .invalidNumber
    | e :: _ => if e = 'e' ∨ e = 'E' then expPart c else .ok c
    | [] => .ok c

def Cursor.colon (c : Cursor) : Except ReadError Cursor :=
  let c := c.blank
  match c.rest with
  | ':' :: _ => .ok c.bump
  | [] => c.failPeek .eofObject
  | _ => c.failPeek .expectedColon

def Cursor.endList (c : Cursor) : Except ReadError Cursor :=
  let c := c.blank
  match c.rest with
  | ']' :: _ => .ok c.bump
  | ',' :: _ =>
    let c1 := c.bump.blank
    match c1.rest with
    | ']' :: _ => c1.failPeek .trailingComma
    | _ => c1.failPeek .trailingCharacters
  | [] => c.failPeek .eofList
  | _ => c.failPeek .trailingCharacters

def Cursor.endObject (c : Cursor) : Except ReadError Cursor :=
  let c := c.blank
  match c.rest with
  | '}' :: _ => .ok c.bump
  | ',' :: _ => c.failPeek .trailingComma
  | [] => c.failPeek .eofObject
  | _ => c.failPeek .trailingCharacters

/-- What the skipping loop expects next: a value, or a comma or closing bracket. -/
inductive SkipMode where
  | value
  | close (accept : Bool)

/-- Skips one value without building it, with no limit on nesting. Open brackets are kept on a
stack; a comma right before a closing bracket is met as a missing value. -/
def Cursor.skipValue (c : Cursor) : Except ReadError Cursor :=
  go (2 * c.rest.length + 4) c .value []
where
  go : Nat → Cursor → SkipMode → List Char → Except ReadError Cursor
    | 0, c, _, _ => c.failPeek .eofValue
    | fuel + 1, c, .value, stack =>
      let c := c.blank
      match c.rest with
      | [] => c.failPeek .eofValue
      | ch :: _ =>
        let scalar : Option (Except ReadError Cursor) :=
          if ch = 'n' then some (c.bump.ident ['u', 'l', 'l'])
          else if ch = 't' then some (c.bump.ident ['r', 'u', 'e'])
          else if ch = 'f' then some (c.bump.ident ['a', 'l', 's', 'e'])
          else if ch = '-' then some c.bump.skipNumber
          else if ch.isDigit then some c.skipNumber
          else if ch = '"' then some c.bump.skipString
          else none
        match scalar with
        | some (.error e) => .error e
        | some (.ok c') => if stack.isEmpty then .ok c' else go fuel c' (.close true) stack
        | none =>
          if ch = '[' ∨ ch = '{' then go fuel c.bump (.close false) (ch :: stack)
          else c.failPeek .expectedValue
    | fuel + 1, c, .close accept, stack =>
      let frame := stack.headD '['
      let c := c.blank
      match c.rest with
      | [] => c.failPeek (if frame = '[' then .eofList else .eofObject)
      | ch :: _ =>
        if ch = ',' ∧ accept then key fuel c.bump frame stack
        else if (ch = ']' ∧ frame = '[') ∨ (ch = '}' ∧ frame = '{') then
          let stack' := stack.tail
          if stack'.isEmpty then .ok c.bump else go fuel c.bump (.close true) stack'
        else if accept then
          c.failPeek (if frame = '[' then .expectedListCommaOrEnd else .expectedObjectCommaOrEnd)
        else key fuel c frame stack
  key (fuel : Nat) (c : Cursor) (frame : Char) (stack : List Char) : Except ReadError Cursor :=
    if frame = '{' then
      let c := c.blank
      match c.rest with
      | '"' :: _ =>
        match c.bump.skipString with
        | .error e => .error e
        | .ok c1 =>
          match c1.colon with
          | .error e => .error e
          | .ok c2 => go fuel c2 .value stack
      | [] => c.failPeek .eofObject
      | _ => c.failPeek .keyMustBeString
    else go fuel c .value stack

def depthLimit : Nat := 128

mutual
def Cursor.value : Nat → Nat → Cursor → Except ReadError (Value × Cursor)
  | 0, _, c => c.failPeek .eofValue
  | fuel + 1, depth, c =>
    let c := c.blank
    match c.rest with
    | [] => c.failPeek .eofValue
    | ch :: _ =>
      if ch = 'n' then (c.bump.ident ['u', 'l', 'l']).map (fun c' => (.null, c'))
      else if ch = 't' then (c.bump.ident ['r', 'u', 'e']).map (fun c' => (.bool true, c'))
      else if ch = 'f' then
        (c.bump.ident ['a', 'l', 's', 'e']).map (fun c' => (.bool false, c'))
      else if ch = '-' then (c.bump.number false).map (fun (n, c') => (.num n, c'))
      else if ch.isDigit then (c.number true).map (fun (n, c') => (.num n, c'))
      else if ch = '"' then (c.bump.string).map (fun (s, c') => (.str s, c'))
      else if ch = '[' then
        if depth ≤ 1 then c.failPeek .recursionLimit
        else
          match Cursor.items fuel (depth - 1) c.bump [] true with
          | .error e => .error e
          | .ok (xs, c') => (c'.endList).map (fun c'' => (.arr xs, c''))
      else if ch = '{' then
        if depth ≤ 1 then c.failPeek .recursionLimit
        else
          match Cursor.members fuel (depth - 1) c.bump [] true with
          | .error e => .error e
          | .ok (fs, c') => (c'.endObject).map (fun c'' => (.obj fs, c''))
      else c.failPeek .expectedValue

def Cursor.items : Nat → Nat → Cursor → List Value → Bool →
    Except ReadError (List Value × Cursor)
  | 0, _, c, _, _ => c.failPeek .eofList
  | fuel + 1, depth, c, acc, first =>
    let c := c.blank
    match c.rest with
    | [] => c.failPeek .eofList
    | ch :: _ =>
      if ch = ']' then .ok (acc.reverse, c)
      else
        let next : Except ReadError Cursor :=
          if ch = ',' ∧ !first then .ok c.bump.blank
          else if first then .ok c
          else c.failPeek .expectedListCommaOrEnd
        match next with
        | .error e => .error e
        | .ok c1 =>
          match c1.rest with
          | [] => c1.failPeek .eofValue
          | ']' :: _ => c1.failPeek .trailingComma
          | _ =>
            match Cursor.value fuel depth c1 with
            | .error e => .error e
            | .ok (v, c2) => Cursor.items fuel depth c2 (v :: acc) false

/-- Reads object members up to (not past) the closing brace; a later key replaces an earlier
one. -/
def Cursor.members : Nat → Nat → Cursor → List (String × Value) → Bool →
    Except ReadError (List (String × Value) × Cursor)
  | 0, _, c, _, _ => c.failPeek .eofObject
  | fuel + 1, depth, c, acc, first =>
    let c := c.blank
    match c.rest with
    | [] => c.failPeek .eofObject
    | ch :: _ =>
      if ch = '}' then .ok (acc, c)
      else
        let next : Except ReadError Cursor :=
          if ch = ',' ∧ !first then .ok c.bump.blank
          else if first then .ok c
          else c.failPeek .expectedObjectCommaOrEnd
        match next with
        | .error e => .error e
        | .ok c1 =>
          match c1.rest with
          | [] => c1.failPeek .eofValue
          | '}' :: _ => c1.failPeek .trailingComma
          | '"' :: _ =>
            match c1.bump.string with
            | .error e => .error e
            | .ok (k, c2) =>
              match c2.colon with
              | .error e => .error e
              | .ok c3 =>
                match Cursor.value fuel depth c3 with
                | .error e => .error e
                | .ok (v, c4) => Cursor.members fuel depth c4 (Object.insert k v acc) false
          | _ => c1.failPeek .keyMustBeString
end

def Value.parse (s : String) : Except ReadError Value :=
  let c := Cursor.start s
  match Cursor.value (c.rest.length + 2) depthLimit c with
  | .error e => .error e
  | .ok (v, c') =>
    let c'' := c'.blank
    match c''.rest with
    | [] => .ok v
    | _ => c''.failPeek .trailingCharacters

end ProviderRouting.Json
