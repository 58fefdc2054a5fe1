import ProviderRouting.Yaml.Scalar
import ProviderRouting.Yaml.Token

/-!
# Writing YAML

A tree of mappings with null, boolean and string leaves is written as block mappings indented
by two spaces, one entry per line.

A string is written plain when it reads back as the same string; otherwise it is quoted. Single
quotes serve when the string holds only printable characters and no blank around a line break;
double quotes, with escapes, serve for everything else. A string with a line feed is written as
a literal block (`|`) when it can be. Lines are never folded, however long, and characters
outside ASCII are written as they are when printable.
-/

namespace ProviderRouting.Yaml

/-! ## Trees -/

/-- What is written: a null, a boolean, a string, or a mapping from names to trees. -/
inductive Tree where
  | null
  | bool (b : Bool)
  | str (s : String)
  | mapping (entries : List (String × Tree))
  deriving Repr, Inhabited

/-- The style a scalar is asked to be written in. -/
inductive Wanted where
  | any
  | plain
  | singleQuoted
  | literal
  deriving Repr, DecidableEq

/-- The style a string is asked for: literal with a line feed, quoted when it would read as
another type, and any style otherwise. -/
def wantedFor (s : String) : Wanted :=
  if s.contains '\n' then .literal
  else match resolvePlain s with
    | .str _ => if leadingZeroDigits s then .singleQuoted else .any
    | _ => .singleQuoted

/-! ## Analysis -/

/-- A character that can be written as it is: a line feed, printable ASCII, and the rest of
Unicode from U+00A0 on except the byte order mark and the noncharacters U+FFFE and U+FFFF. -/
def isPrintable (c : Char) : Bool :=
  let v := c.toNat
  v == 0x0A || (0x20 ≤ v && v ≤ 0x7E) || (0xA0 ≤ v && v ≤ 0xD7FF) ||
    (0xE000 ≤ v && v ≤ 0xFFFD && v != 0xFEFF) || 0x10000 ≤ v

/-- Which styles can carry a scalar. -/
structure Allowed where
  multiline : Bool := false
  plain : Bool := true
  singleQuoted : Bool := true
  block : Bool := true
  deriving Repr

/-- What the characters of a scalar forbid, scanned one by one. -/
structure CharFlags where
  blockIndicators : Bool := false
  lineBreaks : Bool := false
  special : Bool := false
  leadingSpace : Bool := false
  leadingBreak : Bool := false
  trailingSpace : Bool := false
  trailingBreak : Bool := false
  breakSpace : Bool := false
  spaceBreak : Bool := false
  previousSpace : Bool := false
  previousBreak : Bool := false
  deriving Repr

def scanChars (cs : Array Char) : Nat → Nat → Bool → CharFlags → CharFlags
  | 0, _, _, acc => acc
  | n + 1, i, preceded, acc =>
    match cs[i]? with
    | none => acc
    | some c =>
      let followed := isBlankZ (cs.getD (i + 1) endChar)
      let last := i + 1 == cs.size
      let block :=
        if i == 0 then
          "#,[]&*!|>\"%@".contains c || c == '\'' || c == '\x7b' || c == '\x7d' ||
            c.toNat == 0x60 || ((c == '?' || c == ':' || c == '-') && followed)
        else (c == ':' && followed) || (c == '#' && preceded)
      let acc := { acc with
        blockIndicators := acc.blockIndicators || block,
        special := acc.special || !isPrintable c,
        lineBreaks := acc.lineBreaks || isBreak c }
      let acc :=
        if c == ' ' then
          { acc with
            leadingSpace := acc.leadingSpace || i == 0,
            trailingSpace := acc.trailingSpace || last,
            breakSpace := acc.breakSpace || acc.previousBreak,
            previousSpace := true, previousBreak := false }
        else if isBreak c then
          { acc with
            leadingBreak := acc.leadingBreak || i == 0,
            trailingBreak := acc.trailingBreak || last,
            spaceBreak := acc.spaceBreak || acc.previousSpace,
            previousSpace := false, previousBreak := true }
        else { acc with previousSpace := false, previousBreak := false }
      scanChars cs n (i + 1) (isBlankZ c) acc

def analyze (s : String) : Allowed :=
  if s.isEmpty then { plain := true, singleQuoted := true, block := false }
  else
    let cs := s.toList.toArray
    let marker := s.startsWith "---" || s.startsWith "..."
    let r := scanChars cs cs.size 0 true {}
    let edges := r.leadingSpace || r.leadingBreak || r.trailingSpace || r.trailingBreak
    { multiline := r.lineBreaks,
      plain := !(edges || r.breakSpace || r.spaceBreak || r.special || r.lineBreaks ||
        r.blockIndicators || marker),
      singleQuoted := !(r.breakSpace || r.spaceBreak || r.special),
      block := !(r.trailingSpace || r.spaceBreak || r.special) }

/-- How a scalar is written. -/
inductive Style where
  | plain
  | singleQuoted
  | doubleQuoted
  | literal
  deriving Repr, DecidableEq

def chooseStyle (s : String) (wanted : Wanted) (simpleKey : Bool) : Style :=
  let a := analyze s
  let style : Style := match wanted with
    | .any | .plain => .plain
    | .singleQuoted => .singleQuoted
    | .literal => .literal
  let style := if simpleKey && a.multiline then .doubleQuoted else style
  let style :=
    if style == .plain && (!a.plain || (s.isEmpty && simpleKey)) then .singleQuoted else style
  let style := if style == .singleQuoted && !a.singleQuoted then .doubleQuoted else style
  if style == .literal && (!a.block || simpleKey) then .doubleQuoted else style

/-! ## The writer -/

/-- The text written so far and where the writer stands. -/
structure Writer where
  out : String := ""
  column : Nat := 0
  whitespace : Bool := true
  indention : Bool := true
  indent : Int := -1
  openEnded : Bool := false
  deriving Repr, Inhabited

abbrev WriteM := StateM Writer

def put (c : Char) : WriteM Unit :=
  modify fun e => { e with out := e.out.push c, column := e.column + 1 }

def putBreak : WriteM Unit := modify fun e => { e with out := e.out.push '\n', column := 0 }

def writeBreak (c : Char) : WriteM Unit :=
  if c == '\n' then putBreak else modify fun e => { e with out := e.out.push c, column := 0 }

def writeIndent : WriteM Unit := do
  let e ← get
  let indent := e.indent.toNat
  if !e.indention || e.column > indent || (e.column == indent && !e.whitespace) then putBreak
  let e ← get
  for _ in [0:indent - e.column] do put ' '
  modify fun e => { e with whitespace := true, indention := true }

/-- Writes an indicator, after a space if one is needed. Any indicator closes a document left
open by a block scalar. -/
def writeIndicator (text : String) (needWhitespace isWhitespace isIndention : Bool) :
    WriteM Unit := do
  if needWhitespace && !(← get).whitespace then put ' '
  for c in text.toList do put c
  modify fun e => { e with
    whitespace := isWhitespace
    indention := e.indention && isIndention
    openEnded := false }

def writeRun (cs : Array Char) (quoted : Bool) : WriteM Unit := do
  let mut breaks := false
  for i in [0:cs.size] do
    let c := cs.getD i ' '
    if c == ' ' then
      put c
    else if isBreak c then
      if !breaks && c == '\n' then putBreak
      writeBreak c
      modify fun e => { e with indention := true }
      breaks := true
    else
      if breaks then writeIndent
      if quoted && c == '\'' then put '\''
      put c
      modify fun e => { e with indention := false }
      breaks := false
  if quoted && breaks then writeIndent

def writePlain (s : String) : WriteM Unit := do
  if !(← get).whitespace && !s.isEmpty then put ' '
  writeRun s.toList.toArray false
  modify fun e => { e with whitespace := false, indention := false }

def writeSingleQuoted (s : String) : WriteM Unit := do
  writeIndicator "'" true false false
  writeRun s.toList.toArray true
  writeIndicator "'" false false false
  modify fun e => { e with whitespace := false, indention := false }

def hexDigits (v width : Nat) : List Char :=
  (List.range width).reverse.map fun k =>
    let d := v / Nat.pow 16 k % 16
    if d < 10 then Char.ofNat (d + '0'.toNat) else Char.ofNat (d - 10 + 'A'.toNat)

def escapeText (c : Char) : List Char :=
  match c.toNat with
  | 0x00 => ['0']
  | 0x07 => ['a']
  | 0x08 => ['b']
  | 0x09 => ['t']
  | 0x0A => ['n']
  | 0x0B => ['v']
  | 0x0C => ['f']
  | 0x0D => ['r']
  | 0x1B => ['e']
  | 0x22 => ['"']
  | 0x5C => ['\\']
  | 0x85 => ['N']
  | 0xA0 => ['_']
  | 0x2028 => ['L']
  | 0x2029 => ['P']
  | v =>
    if v ≤ 0xFF then 'x' :: hexDigits v 2
    else if v ≤ 0xFFFF then 'u' :: hexDigits v 4
    else 'U' :: hexDigits v 8

def writeDoubleQuoted (s : String) : WriteM Unit := do
  writeIndicator "\"" true false false
  for c in s.toList do
    if !isPrintable c || isBreak c || c == '"' || c == '\\' then
      put '\\'
      for d in escapeText c do put d
    else put c
  writeIndicator "\"" false false false
  modify fun e => { e with whitespace := false, indention := false }

/-- Writes the indentation and chomping indicators of a block scalar. A scalar ending in more
than one line break keeps them all (`+`), which leaves the document open. -/
def writeBlockHints (cs : List Char) : WriteM Unit := do
  match cs.head? with
  | some c => if c == ' ' || isBreak c then writeIndicator "2" false false false
  | none => pure ()
  modify fun e => { e with openEnded := false }
  let rev := cs.reverse
  match rev with
  | [] => writeIndicator "-" false false false
  | c :: rest =>
    if !isBreak c then writeIndicator "-" false false false
    else
      match rest with
      | [] =>
        writeIndicator "+" false false false
        modify fun e => { e with openEnded := true }
      | d :: _ =>
        if isBreak d then
          writeIndicator "+" false false false
          modify fun e => { e with openEnded := true }

def writeLiteral (s : String) : WriteM Unit := do
  writeIndicator "|" true false false
  writeBlockHints s.toList
  putBreak
  modify fun e => { e with indention := true, whitespace := true }
  let mut breaks := true
  for c in s.toList do
    if isBreak c then
      writeBreak c
      modify fun e => { e with indention := true }
      breaks := true
    else
      if breaks then writeIndent
      put c
      modify fun e => { e with indention := false }
      breaks := false

def writeScalar (s : String) (wanted : Wanted) (simpleKey : Bool) : WriteM Unit := do
  let saved := (← get).indent
  modify fun e => { e with indent := if e.indent < 0 then 2 else e.indent + 2 }
  match chooseStyle s wanted simpleKey with
  | .plain => writePlain s
  | .singleQuoted => writeSingleQuoted s
  | .doubleQuoted => writeDoubleQuoted s
  | .literal => writeLiteral s
  modify fun e => { e with indent := saved }

def writeTree : Tree → WriteM Unit
  | .null => writeScalar "null" .plain false
  | .bool b => writeScalar (if b then "true" else "false") .plain false
  | .str s => writeScalar s (wantedFor s) false
  | .mapping entries => do
    let saved := (← get).indent
    modify fun e => { e with indent := if e.indent < 0 then 0 else e.indent + 2 }
    writeEntries entries
    modify fun e => { e with indent := saved }
where
  writeEntries : List (String × Tree) → WriteM Unit
    | [] => pure ()
    | (k, v) :: rest => do
      writeIndent
      writeScalar k (wantedFor k) true
      writeIndicator ":" false false false
      writeTree v
      writeEntries rest

def Tree.render (t : Tree) : String :=
  let e := (do
    writeTree t
    writeIndent
    if (← get).openEnded then
      writeIndicator "..." true false false
      writeIndent : WriteM Unit).run {} |>.2
  e.out

end ProviderRouting.Yaml
