import ProviderRouting.Yaml.Mark

/-!
# YAML tokens

The lexer turns the characters of a YAML stream into tokens: indicators, scalars with their
styles, anchors, aliases, tags and directives, with the marks (character index, line, column and
byte offset, all from zero) where each starts and stops.

Block structure is found from indentation: a deeper column opens a block collection and a
shallower one closes it, so `BLOCK-MAPPING-START`, `BLOCK-SEQUENCE-START` and `BLOCK-END` are
made by the lexer. A key without `?` (a simple key) is only known to be a key when the `:`
after it is met, on the same line and within 1024 characters; its `KEY` token is then put back
in the queue before it. So a token at the head of the queue is handed out only when no pending
simple key could still go before it (`fetchMoreTokens`).

The first problem met stops the scan, with the words a reader of YAML knows them by, the mark
where it was met and, most of the time, what was being read and where that began.
-/

namespace ProviderRouting.Yaml

/-! ## Tokens -/

/-- How a scalar was written. -/
inductive ScalarStyle where
  | plain
  | singleQuoted
  | doubleQuoted
  | literal
  | folded
  deriving Repr, DecidableEq, Inhabited

/-- What a token is. -/
inductive TokenKind where
  | streamStart
  | streamEnd
  | versionDirective (major minor : Nat)
  | tagDirective (handle pre : String)
  | documentStart
  | documentEnd
  | blockSequenceStart
  | blockMappingStart
  | blockEnd
  | flowSequenceStart
  | flowSequenceEnd
  | flowMappingStart
  | flowMappingEnd
  | blockEntry
  | flowEntry
  | key
  | value
  | alias (name : String)
  | anchor (name : String)
  | tag (handle suffix : String)
  | scalar (text : String) (style : ScalarStyle)
  deriving Repr, Inhabited

/-- A token with the marks where it starts and stops. -/
structure Token where
  kind : TokenKind
  start : Mark
  stop : Mark
  deriving Repr, Inhabited

/-! ## Characters -/

def endChar : Char := '\x00'

def isBreak (c : Char) : Bool :=
  c == '\r' || c == '\n' || c.toNat == 0x85 || c.toNat == 0x2028 || c.toNat == 0x2029

def isBlank (c : Char) : Bool := c == ' ' || c == '\t'

def isBreakZ (c : Char) : Bool := isBreak c || c == endChar

def isBlankZ (c : Char) : Bool := isBlank c || isBreakZ c

def isWordChar (c : Char) : Bool :=
  ('0' ≤ c && c ≤ '9') || ('a' ≤ c && c ≤ 'z') || ('A' ≤ c && c ≤ 'Z') || c == '_' ||
    c == '-'

def isHex (c : Char) : Bool :=
  ('0' ≤ c && c ≤ '9') || ('a' ≤ c && c ≤ 'f') || ('A' ≤ c && c ≤ 'F')

def hexValue (c : Char) : Nat :=
  if 'a' ≤ c && c ≤ 'f' then c.toNat - 'a'.toNat + 10
  else if 'A' ≤ c && c ≤ 'F' then c.toNat - 'A'.toNat + 10
  else c.toNat - '0'.toNat

def isFlowIndicator (c : Char) : Bool :=
  c == ',' || c == '[' || c == ']' || c == '\x7b' || c == '\x7d'

def isIndicator (c : Char) : Bool :=
  "-?:,[]#&*!|>\"%@".contains c || c == '\'' || c == '\x7b' || c == '\x7d' || c.toNat == 0x60

def isUriChar (c : Char) : Bool := isWordChar c || ";/?:@&=+$.%!~*()".contains c || c == '\''

/-! ## Lexer state -/

/-- A place where a simple key may start, waiting for its `:`. -/
structure SimpleKey where
  possible : Bool := false
  required : Bool := false
  number : Nat := 0
  mark : Mark := {}
  deriving Repr, Inhabited

/-- The lexer's state: the stream and the place in it, the queue of tokens not handed out,
the open indentation levels and the pending simple keys, one per flow level, innermost first. -/
structure Lexer where
  input : Array Char
  mark : Mark := {}
  started : Bool := false
  flowLevel : Nat := 0
  tokens : List Token := []
  parsed : Nat := 0
  available : Bool := false
  indent : Int := -1
  indents : List Int := []
  keyAllowed : Bool := false
  keys : List SimpleKey := []
  deriving Repr, Inhabited

abbrev LexM := StateT Lexer (Except Problem)

def ch (k : Nat) : LexM Char := do
  let s ← get
  pure (s.input.getD (s.mark.index + k) endChar)

def fuel : LexM Nat := do
  let s ← get
  pure (s.input.size + 2 - s.mark.index)

def Lexer.bytesAt (s : Lexer) (i n : Nat) : Nat :=
  ((s.input.extract i (i + n)).toList.map Char.utf8Size).foldl (· + ·) 0

def skip : LexM Unit :=
  modify fun s => { s with
    mark := { s.mark with
      index := s.mark.index + 1
      column := s.mark.column + 1
      offset := s.mark.offset + s.bytesAt s.mark.index 1 } }

def nextLine (n : Nat) : LexM Unit :=
  modify fun s => { s with mark := ⟨s.mark.index + n, s.mark.line + 1, 0,
    s.mark.offset + s.bytesAt s.mark.index n⟩ }

def skipLine : LexM Unit := do
  let c ← ch 0
  if c == '\r' && (← ch 1) == '\n' then nextLine 2
  else if isBreak c then nextLine 1

/-- Reads a line break: a line feed for CR, LF, CR LF and NEL; the line and paragraph
separators as they are. -/
def readLine : LexM String := do
  let c ← ch 0
  if c == '\r' && (← ch 1) == '\n' then
    nextLine 2
    pure "\n"
  else if c == '\r' || c == '\n' || c.toNat == 0x85 then
    nextLine 1
    pure "\n"
  else if isBreak c then
    nextLine 1
    pure (String.singleton c)
  else pure ""

def skipWhile (p : Lexer → Char → Bool) : Nat → LexM Unit
  | 0 => pure ()
  | n + 1 => do
    if p (← get) (← ch 0) then
      skip
      skipWhile p n

def readWhile (p : Char → Bool) : String → Nat → LexM String
  | acc, 0 => pure acc
  | acc, n + 1 => do
    let c ← ch 0
    if p c then
      skip
      readWhile p (acc.push c) n
    else pure acc

def scanError {α : Type} (context : Option String) (contextMark : Mark) (problem : String) :
    LexM α := do
  throw { problem := problem, mark := (← get).mark, context := context.map (·, contextMark) }

def atDocumentMarker : LexM Bool := do
  let c ← ch 0
  pure ((← get).mark.column == 0 && (c == '-' || c == '.') && (← ch 1) == c &&
    (← ch 2) == c && isBlankZ (← ch 3))

/-! ## The token queue -/

def enqueue (kind : TokenKind) (start stop : Mark) : LexM Unit :=
  modify fun s => { s with tokens := s.tokens ++ [⟨kind, start, stop⟩] }

def insertAt {α : Type} : Nat → α → List α → List α
  | 0, x, xs => x :: xs
  | _ + 1, x, [] => [x]
  | n + 1, x, y :: ys => y :: insertAt n x ys

def insertToken (number : Nat) (t : Token) : LexM Unit :=
  modify fun s => { s with tokens := insertAt (number - s.parsed) t s.tokens }

/-! ## Simple keys and indentation -/

/-- Drops pending simple keys that can no longer be keys: they began on an earlier line or
more than 1024 bytes back. A key that had to be one is a problem. -/
def staleKeys : LexM Unit := do
  let s ← get
  let stale := fun (k : SimpleKey) =>
    k.possible && (k.mark.line < s.mark.line || k.mark.offset + 1024 < s.mark.offset)
  match s.keys.reverse.find? (fun k => stale k && k.required) with
  | some k => scanError (some "while scanning a simple key") k.mark "could not find expected ':'"
  | none =>
    set { s with keys := s.keys.map fun k => if stale k then { k with possible := false } else k }

def removeKey : LexM Unit := do
  let s ← get
  match s.keys with
  | k :: rest =>
    if k.possible && k.required then
      scanError (some "while scanning a simple key") k.mark "could not find expected ':'"
    else set { s with keys := { k with possible := false } :: rest }
  | [] => pure ()

/-- Notes that a simple key may start here, at the next token. It must be a key when it
starts a line at the block's indentation. -/
def saveKey : LexM Unit := do
  let s ← get
  if s.keyAllowed then
    let k : SimpleKey := {
      possible := true,
      required := s.flowLevel == 0 && s.indent == (s.mark.column : Int),
      number := s.parsed + s.tokens.length,
      mark := s.mark }
    removeKey
    modify fun s => { s with keys := k :: s.keys.drop 1 }

def increaseFlow : LexM Unit :=
  modify fun s => { s with keys := ({} : SimpleKey) :: s.keys, flowLevel := s.flowLevel + 1 }

def decreaseFlow : LexM Unit :=
  modify fun s =>
    if s.flowLevel > 0 then { s with flowLevel := s.flowLevel - 1, keys := s.keys.drop 1 } else s

/-- Opens a block collection at `column` if it is deeper than the current one, putting its
start token at the end of the queue or at the place of token `number`. -/
def rollIndent (column : Int) (number : Option Nat) (kind : TokenKind) (mark : Mark) :
    LexM Unit := do
  let s ← get
  if s.flowLevel == 0 && s.indent < column then
    set { s with indents := s.indent :: s.indents, indent := column }
    match number with
    | none => enqueue kind mark mark
    | some n => insertToken n ⟨kind, mark, mark⟩

def unrollIndent (column : Int) : LexM Unit := do
  if (← get).flowLevel == 0 then go ((← get).indents.length + 1)
where
  go : Nat → LexM Unit
    | 0 => pure ()
    | n + 1 => do
      let s ← get
      if s.indent > column then
        enqueue .blockEnd s.mark s.mark
        modify fun s => { s with indent := s.indents.headD (-1), indents := s.indents.drop 1 }
        go n

/-! ## Between tokens -/

/-- Steps over blanks, comments and line breaks up to the next token. Tabs are skipped only
where a simple key cannot start, so not at the start of a block line. -/
def scanToNextToken : Nat → LexM Unit
  | 0 => pure ()
  | n + 1 => do
    if (← get).mark.column == 0 && (← ch 0).toNat == 0xFEFF then skip
    skipWhile (fun s c => c == ' ' || ((s.flowLevel > 0 || !s.keyAllowed) && c == '\t'))
      (← fuel)
    if (← ch 0) == '#' then skipWhile (fun _ c => !isBreakZ c) (← fuel)
    if isBreak (← ch 0) then
      skipLine
      if (← get).flowLevel == 0 then modify fun s => { s with keyAllowed := true }
      scanToNextToken n

/-! ## Directives -/

def versionNumber (start : Mark) : LexM Nat := do
  let digits ← readWhile Char.isDigit "" 9
  if (← ch 0).isDigit then
    scanError (some "while scanning a %YAML directive") start "found extremely long version number"
  if digits.isEmpty then
    scanError (some "while scanning a %YAML directive") start "did not find expected version number"
  pure digits.toNat!

def uriEscapes (directive : Bool) (start : Mark) : Nat → Nat → List UInt8 → LexM (List UInt8)
  | 0, _, acc => pure acc
  | n + 1, width, acc => do
    let context := if directive then "while parsing a %TAG directive" else "while parsing a tag"
    let c1 ← ch 1
    let c2 ← ch 2
    if !((← ch 0) == '%' && isHex c1 && isHex c2) then
      scanError (some context) start "did not find URI escaped octet"
    let octet := hexValue c1 * 16 + hexValue c2
    let width ← if width == 0 then do
        let w := if octet < 0x80 then 1 else if octet / 32 == 6 then 2
          else if octet / 16 == 14 then 3 else if octet / 8 == 30 then 4 else 0
        if w == 0 then scanError (some context) start "found an incorrect leading UTF-8 octet"
        pure w
      else do
        if octet / 64 != 2 then
          scanError (some context) start "found an incorrect trailing UTF-8 octet"
        pure width
    skip; skip; skip
    let acc := acc ++ [octet.toUInt8]
    if acc.length < width then uriEscapes directive start n width acc else pure acc

/-- Reads the characters of a tag after its handle, `head` being what was read as a handle
without its leading `!`. Inside `!<…>` flow indicators belong to the tag too. -/
def tagUri (verbatim directive : Bool) (head : String) (start : Mark) :
    Nat → String → LexM String
  | 0, acc => pure acc
  | n + 1, acc => do
    let c ← ch 0
    if isUriChar c || (verbatim && (c == ',' || c == '[' || c == ']')) then
      if c == '%' then
        let bytes ← uriEscapes directive start 4 0 []
        let text := (String.fromUTF8? (ByteArray.mk bytes.toArray)).getD ""
        tagUri verbatim directive head start n (acc ++ text)
      else
        skip
        tagUri verbatim directive head start n (acc.push c)
    else if acc.isEmpty && head.isEmpty then
      let context := if directive then "while parsing a %TAG directive" else "while parsing a tag"
      scanError (some context) start "did not find expected tag URI"
    else pure (String.ofList (head.toList.drop 1) ++ acc)

/-- Reads a tag handle: `!`, `!!` or `!name!`, or a `!` followed by word characters that
turn out to be the start of a tag's suffix. -/
def tagHandle (directive : Bool) (start : Mark) : LexM String := do
  if (← ch 0) != '!' then
    let context := if directive then "while scanning a tag directive" else "while scanning a tag"
    scanError (some context) start "did not find expected '!'"
  skip
  let name ← readWhile isWordChar "!" (← fuel)
  if (← ch 0) == '!' then
    skip
    pure (name.push '!')
  else
    if directive && name != "!" then
      scanError (some "while parsing a tag directive") start "did not find expected '!'"
    pure name

def scanDirective : LexM Unit := do
  let start := (← get).mark
  skip
  let name ← readWhile isWordChar "" (← fuel)
  if name.isEmpty then
    scanError (some "while scanning a directive") start "could not find expected directive name"
  if !isBlankZ (← ch 0) then
    scanError (some "while scanning a directive") start
      "found unexpected non-alphabetical character"
  let kind ← if name == "YAML" then do
      skipWhile (fun _ c => isBlank c) (← fuel)
      let major ← versionNumber start
      if (← ch 0) != '.' then
        scanError (some "while scanning a %YAML directive") start
          "did not find expected digit or '.' character"
      skip
      let minor ← versionNumber start
      pure (TokenKind.versionDirective major minor)
    else if name == "TAG" then do
      skipWhile (fun _ c => isBlank c) (← fuel)
      let handle ← tagHandle true start
      if !isBlank (← ch 0) then
        scanError (some "while scanning a %TAG directive") start
          "did not find expected whitespace"
      skipWhile (fun _ c => isBlank c) (← fuel)
      let pre ← tagUri true true "" start (← fuel) ""
      if !isBlankZ (← ch 0) then
        scanError (some "while scanning a %TAG directive") start
          "did not find expected whitespace or line break"
      pure (TokenKind.tagDirective handle pre)
    else scanError (some "while scanning a directive") start "found unknown directive name"
  enqueue kind start (← get).mark
  skipWhile (fun _ c => isBlank c) (← fuel)
  if (← ch 0) == '#' then skipWhile (fun _ c => !isBreakZ c) (← fuel)
  if !isBreakZ (← ch 0) then
    scanError (some "while scanning a directive") start
      "did not find expected comment or line break"
  skipLine

/-! ## Anchors and tags -/

def scanAnchor (isAlias : Bool) : LexM Unit := do
  let start := (← get).mark
  skip
  let name ← readWhile isWordChar "" (← fuel)
  let stop := (← get).mark
  let c ← ch 0
  if name.isEmpty || !(isBlankZ c || "?:,]%@".contains c || c == '\x7d' || c.toNat == 0x60) then
    let context := if isAlias then "while scanning an alias" else "while scanning an anchor"
    scanError (some context) start "did not find expected alphabetic or numeric character"
  enqueue (if isAlias then .alias name else .anchor name) start stop

def scanTag : LexM Unit := do
  let start := (← get).mark
  let (handle, suffix) ← if (← ch 1) == '<' then do
      skip; skip
      let suffix ← tagUri true false "" start (← fuel) ""
      if (← ch 0) != '>' then
        scanError (some "while scanning a tag") start "did not find the expected '>'"
      skip
      pure ("", suffix)
    else do
      let handle ← tagHandle false start
      if handle.length > 1 && handle.startsWith "!" && handle.endsWith "!" then
        pure (handle, ← tagUri false false "" start (← fuel) "")
      else
        let suffix ← tagUri false false handle start (← fuel) ""
        if suffix.isEmpty then pure ("", "!") else pure ("!", suffix)
  let c ← ch 0
  if !isBlankZ c && !((← get).flowLevel > 0 && c == ',') then
    scanError (some "while scanning a tag") start "did not find expected whitespace or line break"
  enqueue (.tag handle suffix) start (← get).mark

/-! ## Scalars -/

/-- A scalar being read: its text, and the blanks and line breaks not yet added to it. -/
structure Folding where
  text : String := ""
  leadingBreak : String := ""
  trailingBreaks : String := ""
  whitespaces : String := ""
  leadingBlanks : Bool := false
  deriving Repr, Inhabited

/-- Adds the pending blanks to the text. After a line break, a single line feed folds into a
space and further breaks stay as they are; blanks within a line stay as they are. -/
def Folding.join (f : Folding) : Folding :=
  if f.leadingBlanks then
    let text :=
      if f.leadingBreak.startsWith "\n" then
        if f.trailingBreaks.isEmpty then f.text.push ' ' else f.text ++ f.trailingBreaks
      else f.text ++ f.leadingBreak ++ f.trailingBreaks
    { f with text := text, leadingBreak := "", trailingBreaks := "", leadingBlanks := false }
  else { f with text := f.text ++ f.whitespaces, whitespaces := "" }

def Folding.blank (f : Folding) (c : Char) : Folding :=
  if f.leadingBlanks then f else { f with whitespaces := f.whitespaces.push c }

def Folding.lineBreak (f : Folding) (b : String) : Folding :=
  if f.leadingBlanks then { f with trailingBreaks := f.trailingBreaks ++ b }
  else { f with whitespaces := "", leadingBreak := b, leadingBlanks := true }

def plainChars (start : Mark) : Folding → Mark → Nat → LexM (Folding × Mark)
  | f, stop, 0 => pure (f, stop)
  | f, stop, n + 1 => do
    let c ← ch 0
    if isBlankZ c then return (f, stop)
    let c1 ← ch 1
    let flow := (← get).flowLevel > 0
    if flow && c == ':' && (c1 == '?' || isFlowIndicator c1) then
      scanError (some "while scanning a plain scalar") start "found unexpected ':'"
    if (c == ':' && isBlankZ c1) || (flow && isFlowIndicator c) then return (f, stop)
    let f := f.join
    skip
    plainChars start { f with text := f.text.push c } (← get).mark n

def plainBlanks (start : Mark) (indent : Int) : Folding → Nat → LexM Folding
  | f, 0 => pure f
  | f, n + 1 => do
    let c ← ch 0
    if isBlank c then
      if f.leadingBlanks && ((← get).mark.column : Int) < indent && c == '\t' then
        scanError (some "while scanning a plain scalar") start
          "found a tab character that violates indentation"
      skip
      plainBlanks start indent (f.blank c) n
    else if isBreak c then
      let b ← readLine
      plainBlanks start indent (f.lineBreak b) n
    else pure f

/-- Reads a plain scalar line by line, up to a comment, a document marker, an indicator, or a
line indented less than the block it is in. -/
def plainLines (start : Mark) (indent : Int) : Folding → Mark → Nat → LexM (Folding × Mark)
  | f, stop, 0 => pure (f, stop)
  | f, stop, n + 1 => do
    if (← atDocumentMarker) || (← ch 0) == '#' then return (f, stop)
    let (f, stop) ← plainChars start f stop (← fuel)
    let c ← ch 0
    if !(isBlank c || isBreak c) then return (f, stop)
    let f ← plainBlanks start indent f (← fuel)
    let s ← get
    if s.flowLevel == 0 && (s.mark.column : Int) < indent then return (f, stop)
    plainLines start indent f stop n

def scanPlain : LexM Unit := do
  let s ← get
  let (f, stop) ← plainLines s.mark (s.indent + 1) {} s.mark (← fuel)
  enqueue (.scalar f.text .plain) s.mark stop
  if f.leadingBlanks then modify fun s => { s with keyAllowed := true }

/-- What an escape in a double-quoted scalar stands for: a character, or the number of
hexadecimal digits of a code point that follow. -/
def escapeOf (c : Char) : Option (Char ⊕ Nat) :=
  match c with
  | '0' => some (.inl (Char.ofNat 0))
  | 'a' => some (.inl (Char.ofNat 7))
  | 'b' => some (.inl (Char.ofNat 8))
  | 't' | '\t' => some (.inl '\t')
  | 'n' => some (.inl '\n')
  | 'v' => some (.inl (Char.ofNat 11))
  | 'f' => some (.inl (Char.ofNat 12))
  | 'r' => some (.inl '\r')
  | 'e' => some (.inl (Char.ofNat 27))
  | ' ' => some (.inl ' ')
  | '"' => some (.inl '"')
  | '/' => some (.inl '/')
  | '\'' => some (.inl '\'')
  | '\\' => some (.inl '\\')
  | 'N' => some (.inl (Char.ofNat 0x85))
  | '_' => some (.inl (Char.ofNat 0xA0))
  | 'L' => some (.inl (Char.ofNat 0x2028))
  | 'P' => some (.inl (Char.ofNat 0x2029))
  | 'x' => some (.inr 2)
  | 'u' => some (.inr 4)
  | 'U' => some (.inr 8)
  | _ => none

/-- The value of the `n` hexadecimal digits from `k` places ahead, or none if one of them is
not a digit. -/
def hexAhead : Nat → Nat → Nat → LexM (Option Nat)
  | 0, _, acc => pure (some acc)
  | n + 1, k, acc => do
    let c ← ch k
    if isHex c then hexAhead n (k + 1) (acc * 16 + hexValue c) else pure none

def quotedChars (single : Bool) (start : Mark) : Folding → Nat → LexM Folding
  | f, 0 => pure f
  | f, n + 1 => do
    let c ← ch 0
    if isBlankZ c then return f
    let c1 ← ch 1
    let quote := if single then '\'' else '"'
    if single && c == '\'' && c1 == '\'' then
      skip; skip
      quotedChars single start { f with text := f.text.push '\'' } n
    else if c == quote then pure f
    else if !single && c == '\\' && isBreak c1 then
      skip
      skipLine
      pure { f with leadingBlanks := true }
    else if !single && c == '\\' then
      match escapeOf c1 with
      | some (.inl e) =>
        skip; skip
        quotedChars single start { f with text := f.text.push e } n
      | some (.inr width) =>
        skip; skip
        match ← hexAhead width 0 0 with
        | none =>
          scanError (some "while parsing a quoted scalar") start
            "did not find expected hexadecimal number"
        | some v =>
          if (0xD800 ≤ v && v ≤ 0xDFFF) || v > 0x10FFFF then
            scanError (some "while parsing a quoted scalar") start
              "found invalid Unicode character escape code"
          for _ in [0:width] do skip
          quotedChars single start { f with text := f.text.push (Char.ofNat v) } n
      | none =>
        scanError (some "while parsing a quoted scalar") start "found unknown escape character"
    else
      skip
      quotedChars single start { f with text := f.text.push c } n

def quotedBlanks : Folding → Nat → LexM Folding
  | f, 0 => pure f
  | f, n + 1 => do
    let c ← ch 0
    if isBlank c then
      skip
      quotedBlanks (f.blank c) n
    else if isBreak c then
      let b ← readLine
      quotedBlanks (f.lineBreak b) n
    else pure f

def quotedLines (single : Bool) (start : Mark) : Folding → Nat → LexM Folding
  | f, 0 => pure f
  | f, n + 1 => do
    if ← atDocumentMarker then
      scanError (some "while scanning a quoted scalar") start "found unexpected document indicator"
    if (← ch 0) == endChar then
      scanError (some "while scanning a quoted scalar") start "found unexpected end of stream"
    let f ← quotedChars single start { f with leadingBlanks := false } (← fuel)
    if (← ch 0) == (if single then '\'' else '"') then return f
    let f ← quotedBlanks f (← fuel)
    quotedLines single start f.join n

def scanQuoted (single : Bool) : LexM Unit := do
  let start := (← get).mark
  skip
  let f ← quotedLines single start {} (← fuel)
  skip
  enqueue (.scalar f.text (if single then .singleQuoted else .doubleQuoted)) start (← get).mark

/-- Reads the indentation and empty lines before a block scalar's line, fixing the
indentation from the deepest of them when it is not known yet. -/
def blockBreaks (start : Mark) (indent : Nat) (breaks : String) :
    LexM (Nat × String × Mark) := do
  let (maxIndent, breaks, stop) ← go (← fuel) 0 breaks (← get).mark
  if indent == 0 then
    let s ← get
    pure (max (max maxIndent (s.indent + 1).toNat) 1, breaks, stop)
  else pure (indent, breaks, stop)
where
  go : Nat → Nat → String → Mark → LexM (Nat × String × Mark)
    | 0, m, b, stop => pure (m, b, stop)
    | n + 1, m, b, stop => do
      skipWhile (fun s c => (indent == 0 || s.mark.column < indent) && c == ' ') (← fuel)
      let col := (← get).mark.column
      let m := max m col
      let c ← ch 0
      if (indent == 0 || col < indent) && c == '\t' then
        scanError (some "while scanning a block scalar") start
          "found a tab character where an indentation space is expected"
      if !isBreak c then return (m, b, stop)
      let line ← readLine
      go n m (b ++ line) (← get).mark

/-- Reads the lines of a block scalar at its indentation. A folded scalar joins two lines
that do not start with a blank by a space. -/
def blockLines (literal : Bool) (start : Mark) (indent : Nat) :
    Nat → String → String → String → Bool → Mark →
      LexM (String × String × String × Mark)
  | 0, text, lead, trail, _, stop => pure (text, lead, trail, stop)
  | n + 1, text, lead, trail, leadingBlank, stop => do
    let c ← ch 0
    if (← get).mark.column != indent || c == endChar then return (text, lead, trail, stop)
    let trailingBlank := isBlank c
    let text :=
      if !literal && lead.startsWith "\n" && !leadingBlank && !trailingBlank then
        if trail.isEmpty then text.push ' ' else text
      else text ++ lead
    let text := text ++ trail
    let text ← readWhile (fun c => !isBreakZ c) text (← fuel)
    let lead ← readLine
    let (_, trail, stop) ← blockBreaks start indent ""
    blockLines literal start indent n text lead trail (isBlank c) stop

/-- Reads a literal (`|`) or folded (`>`) block scalar with its chomping (`+`, `-`) and
indentation (a digit) indicators. -/
def scanBlockScalar (literal : Bool) : LexM Unit := do
  let start := (← get).mark
  skip
  let context := some "while scanning a block scalar"
  let chompOf := fun (c : Char) => if c == '+' then (1 : Int) else if c == '-' then -1 else 0
  let c ← ch 0
  let (chomping, increment) ← if c == '+' || c == '-' then do
      skip
      let d ← ch 0
      if d.isDigit then
        if d == '0' then scanError context start "found an indentation indicator equal to 0"
        skip
        pure (chompOf c, d.toNat - '0'.toNat)
      else pure (chompOf c, 0)
    else if c.isDigit then do
      if c == '0' then scanError context start "found an indentation indicator equal to 0"
      skip
      let e ← ch 0
      if e == '+' || e == '-' then skip
      pure (chompOf e, c.toNat - '0'.toNat)
    else pure (0, 0)
  skipWhile (fun _ c => isBlank c) (← fuel)
  if (← ch 0) == '#' then skipWhile (fun _ c => !isBreakZ c) (← fuel)
  if !isBreakZ (← ch 0) then scanError context start "did not find expected comment or line break"
  skipLine
  let s ← get
  let indent :=
    if increment == 0 then 0 else if s.indent ≥ 0 then s.indent.toNat + increment else increment
  let (indent, trail, stop) ← blockBreaks start indent ""
  let (text, lead, trail, stop) ←
    blockLines literal start indent (← fuel) "" "" trail false stop
  let text := if chomping != -1 then text ++ lead else text
  let text := if chomping == 1 then text ++ trail else text
  enqueue (.scalar text (if literal then .literal else .folded)) start stop

/-! ## Fetching tokens -/

def fetchStreamStart : LexM Unit := do
  modify fun s => { s with indent := -1, keys := [{}], keyAllowed := true, started := true }
  let m := (← get).mark
  enqueue .streamStart m m

def fetchStreamEnd : LexM Unit := do
  let s ← get
  if s.mark.column != 0 then
    set { s with mark := { s.mark with column := 0, line := s.mark.line + 1 } }
  unrollIndent (-1)
  removeKey
  modify fun s => { s with keyAllowed := false }
  let m := (← get).mark
  enqueue .streamEnd m m

def fetchIndicator (kind : TokenKind) : LexM Unit := do
  let start := (← get).mark
  skip
  enqueue kind start (← get).mark

def fetchDocumentIndicator (kind : TokenKind) : LexM Unit := do
  unrollIndent (-1)
  removeKey
  modify fun s => { s with keyAllowed := false }
  let start := (← get).mark
  skip; skip; skip
  enqueue kind start (← get).mark

def fetchCollectionStart (kind : TokenKind) : LexM Unit := do
  saveKey
  increaseFlow
  modify fun s => { s with keyAllowed := true }
  fetchIndicator kind

def fetchCollectionEnd (kind : TokenKind) : LexM Unit := do
  removeKey
  decreaseFlow
  modify fun s => { s with keyAllowed := false }
  fetchIndicator kind

def fetchFlowEntry : LexM Unit := do
  removeKey
  modify fun s => { s with keyAllowed := true }
  fetchIndicator .flowEntry

def fetchBlockEntry : LexM Unit := do
  let s ← get
  if s.flowLevel == 0 then
    if !s.keyAllowed then
      scanError none s.mark "block sequence entries are not allowed in this context"
    rollIndent s.mark.column none .blockSequenceStart s.mark
  removeKey
  modify fun s => { s with keyAllowed := true }
  fetchIndicator .blockEntry

def fetchKey : LexM Unit := do
  let s ← get
  if s.flowLevel == 0 then
    if !s.keyAllowed then scanError none s.mark "mapping keys are not allowed in this context"
    rollIndent s.mark.column none .blockMappingStart s.mark
  removeKey
  modify fun s => { s with keyAllowed := s.flowLevel == 0 }
  fetchIndicator .key

/-- Reads `:`. After a pending simple key it makes that a key, opening a block mapping at its
column if needed; otherwise it follows a complex key. -/
def fetchValue : LexM Unit := do
  let s ← get
  match s.keys with
  | k :: rest =>
    if k.possible then
      insertToken k.number ⟨.key, k.mark, k.mark⟩
      rollIndent k.mark.column (some k.number) .blockMappingStart k.mark
      modify fun s => { s with keys := { k with possible := false } :: rest, keyAllowed := false }
    else
      if s.flowLevel == 0 then
        if !s.keyAllowed then
          scanError none s.mark "mapping values are not allowed in this context"
        rollIndent s.mark.column none .blockMappingStart s.mark
      modify fun s => { s with keyAllowed := s.flowLevel == 0 }
  | [] => pure ()
  fetchIndicator .value

def fetchNextToken : LexM Unit := do
  if !(← get).started then return (← fetchStreamStart)
  scanToNextToken (← fuel)
  staleKeys
  unrollIndent (← get).mark.column
  let c ← ch 0
  let c1 ← ch 1
  let s ← get
  let blankAfter := isBlankZ c1
  if c == endChar then fetchStreamEnd
  else if s.mark.column == 0 && c == '%' then
    unrollIndent (-1)
    removeKey
    modify fun s => { s with keyAllowed := false }
    scanDirective
  else if (← atDocumentMarker) then
    fetchDocumentIndicator (if c == '-' then .documentStart else .documentEnd)
  else if c == '[' then fetchCollectionStart .flowSequenceStart
  else if c == '\x7b' then fetchCollectionStart .flowMappingStart
  else if c == ']' then fetchCollectionEnd .flowSequenceEnd
  else if c == '\x7d' then fetchCollectionEnd .flowMappingEnd
  else if c == ',' then fetchFlowEntry
  else if c == '-' && blankAfter then fetchBlockEntry
  else if c == '?' && (s.flowLevel > 0 || blankAfter) then fetchKey
  else if c == ':' && (s.flowLevel > 0 || blankAfter) then fetchValue
  else if c == '*' || c == '&' then
    saveKey
    modify fun s => { s with keyAllowed := false }
    scanAnchor (c == '*')
  else if c == '!' then
    saveKey
    modify fun s => { s with keyAllowed := false }
    scanTag
  else if (c == '|' || c == '>') && s.flowLevel == 0 then
    removeKey
    modify fun s => { s with keyAllowed := true }
    scanBlockScalar (c == '|')
  else if c == '\'' || c == '"' then
    saveKey
    modify fun s => { s with keyAllowed := false }
    scanQuoted (c == '\'')
  else if !(isBlankZ c || isIndicator c) || (c == '-' && !isBlank c1) ||
      (s.flowLevel == 0 && (c == '?' || c == ':') && !blankAfter) then
    saveKey
    modify fun s => { s with keyAllowed := false }
    scanPlain
  else
    scanError (some "while scanning for the next token") s.mark
      "found character that cannot start any token"

/-- Whether the head of the queue may still change: the queue is empty, or a pending simple
key would put its `KEY` token at the head. -/
def needMore : LexM Bool := do
  if (← get).tokens.isEmpty then return true
  staleKeys
  let s ← get
  pure (s.keys.any fun k => k.possible && k.number == s.parsed)

def fetchMoreTokens : Nat → LexM Unit
  | 0 => modify fun s => { s with available := true }
  | n + 1 => do
    if ← needMore then
      fetchNextToken
      fetchMoreTokens n
    else modify fun s => { s with available := true }

end ProviderRouting.Yaml
