import ProviderRouting.Yaml.Token

/-!
# YAML events

The parser reads tokens and hands out events: the stream and its documents, and within a
document the nodes — scalars, aliases, and the starts and ends of sequences and mappings —
with their anchors and tags, each at the mark where it starts. A key or value left out becomes
an empty plain scalar.

It is a machine whose state says what may come next, with a stack of the states to return to
when a collection ends and of the marks where the open collections began (named when one is
not closed). Tag handles are resolved through the `%TAG` directives of the document and the
two standard ones, `!` and `!!`.
-/

namespace ProviderRouting.Yaml

/-! ## Events -/

/-- What an event is. -/
inductive EventKind where
  | streamStart
  | streamEnd
  | documentStart
  | documentEnd
  | alias (name : String)
  | scalar (anchor tag : Option String) (text : String) (style : ScalarStyle)
  | sequenceStart (anchor tag : Option String)
  | sequenceEnd
  | mappingStart (anchor tag : Option String)
  | mappingEnd
  deriving Repr, Inhabited

/-- An event at the mark where it starts. -/
structure Event where
  kind : EventKind
  mark : Mark
  deriving Repr, Inhabited

/-- What the parser expects next. -/
inductive ParseState where
  | streamStart
  | implicitDocumentStart
  | documentStart
  | documentContent
  | documentEnd
  | blockNode
  | blockNodeOrIndentlessSequence
  | flowNode
  | blockSequenceFirstEntry
  | blockSequenceEntry
  | indentlessSequenceEntry
  | blockMappingFirstKey
  | blockMappingKey
  | blockMappingValue
  | flowSequenceFirstEntry
  | flowSequenceEntry
  | flowSequenceEntryMappingKey
  | flowSequenceEntryMappingValue
  | flowSequenceEntryMappingEnd
  | flowMappingFirstKey
  | flowMappingKey
  | flowMappingValue
  | flowMappingEmptyValue
  | finished
  deriving Repr, DecidableEq, Inhabited

/-- The reader of events: the lexer, the state, the states and marks of the open collections, and the
tag handles of the current document. -/
structure EventReader where
  lexer : Lexer
  state : ParseState := .streamStart
  states : List ParseState := []
  marks : List Mark := []
  tagHandles : List (String × String) := []
  streamEnded : Bool := false
  deriving Repr, Inhabited

abbrev EventM := StateT EventReader (Except Problem)

def EventReader.ofChars (cs : Array Char) : EventReader := { lexer := { input := cs } }

/-! ## Tokens -/

def lex {α : Type} (m : LexM α) : EventM α := do
  let p ← get
  match m.run p.lexer with
  | .ok (a, sc) =>
    set { p with lexer := sc }
    pure a
  | .error e => throw e

def peekToken : EventM Token := do
  lex do
    if !(← get).available then fetchMoreTokens (← fuel)
  match (← get).lexer.tokens with
  | t :: _ => pure t
  | [] => pure ⟨.streamEnd, (← get).lexer.mark, (← get).lexer.mark⟩

def skipToken : EventM Unit :=
  modify fun p =>
    let sc := p.lexer
    let ended := match sc.tokens with
      | ⟨.streamEnd, _, _⟩ :: _ => true
      | _ => false
    { p with
      lexer :=
        { sc with available := false, parsed := sc.parsed + 1, tokens := sc.tokens.drop 1 },
      streamEnded := ended }

def TokenKind.same : TokenKind → TokenKind → Bool
  | .streamStart, .streamStart | .streamEnd, .streamEnd | .documentStart, .documentStart
  | .documentEnd, .documentEnd | .blockSequenceStart, .blockSequenceStart
  | .blockMappingStart, .blockMappingStart | .blockEnd, .blockEnd
  | .flowSequenceStart, .flowSequenceStart | .flowSequenceEnd, .flowSequenceEnd
  | .flowMappingStart, .flowMappingStart | .flowMappingEnd, .flowMappingEnd
  | .blockEntry, .blockEntry | .flowEntry, .flowEntry | .key, .key | .value, .value => true
  | .versionDirective _ _, .versionDirective _ _ | .tagDirective _ _, .tagDirective _ _ => true
  | .alias _, .alias _ | .anchor _, .anchor _ | .tag _ _, .tag _ _ | .scalar _ _, .scalar _ _ =>
    true
  | _, _ => false

def Token.isAny (t : Token) (ks : List TokenKind) : Bool := ks.any t.kind.same

/-! ## Stacks and problems -/

def popState : EventM Unit :=
  modify fun p => { p with state := p.states.headD .finished, states := p.states.drop 1 }

def pushState (st : ParseState) : EventM Unit := modify fun p => { p with states := st :: p.states }

def pushMark (m : Mark) : EventM Unit := modify fun p => { p with marks := m :: p.marks }

def popMark : EventM Mark := do
  let p ← get
  set { p with marks := p.marks.drop 1 }
  pure (p.marks.headD {})

def parseError {α : Type} (problem : String) (mark : Mark) : EventM α :=
  throw { problem := problem, mark := mark }

def parseErrorIn {α : Type} (context : String) (contextMark : Mark) (problem : String)
    (mark : Mark) : EventM α :=
  throw { problem := problem, mark := mark, context := some (context, contextMark) }

def emptyScalar (m : Mark) : Event := ⟨.scalar none none "" .plain, m⟩

/-! ## Documents -/

def standardHandles : List (String × String) := [("!", "!"), ("!!", "tag:yaml.org,2002:")]

def processDirectives : Nat → Bool → List (String × String) → EventM Unit
  | 0, _, handles => modify fun p => { p with tagHandles := handles }
  | n + 1, versionSeen, handles => do
    let t ← peekToken
    match t.kind with
    | .versionDirective major minor =>
      if versionSeen then parseError "found duplicate %YAML directive" t.start
      if major != 1 || (minor != 1 && minor != 2) then
        parseError "found incompatible YAML document" t.start
      skipToken
      processDirectives n true handles
    | .tagDirective handle pre =>
      if handles.any (·.1 == handle) then parseError "found duplicate %TAG directive" t.start
      skipToken
      processDirectives n versionSeen (handles ++ [(handle, pre)])
    | _ =>
      let extra := standardHandles.filter fun (h, _) => !handles.any (·.1 == h)
      modify fun p => { p with tagHandles := handles ++ extra }

def parseDocumentStart (implicit : Bool) : EventM Event := do
  let mut t ← peekToken
  if !implicit then
    for _ in [0:(← get).lexer.input.size + 2] do
      if t.kind.same .documentEnd then
        skipToken
        t ← peekToken
  if implicit && !t.isAny [.versionDirective 0 0, .tagDirective "" "", .documentStart, .streamEnd]
  then
    processDirectives ((← get).lexer.input.size + 2) false []
    pushState .documentEnd
    modify fun p => { p with state := .blockNode }
    pure ⟨.documentStart, t.start⟩
  else if !t.kind.same .streamEnd then
    let start := t.start
    processDirectives ((← get).lexer.input.size + 2) false []
    let marker ← peekToken
    if !marker.kind.same .documentStart then
      parseError "did not find expected <document start>" marker.start
    pushState .documentEnd
    modify fun p => { p with state := .documentContent }
    skipToken
    pure ⟨.documentStart, start⟩
  else
    modify fun p => { p with state := .finished }
    skipToken
    pure ⟨.streamEnd, t.start⟩

def parseDocumentEnd : EventM Event := do
  let t ← peekToken
  if t.kind.same .documentEnd then skipToken
  modify fun p => { p with state := .documentStart, tagHandles := [] }
  pure ⟨.documentEnd, t.start⟩

/-! ## Nodes -/

def parseNode (block indentlessSequence : Bool) : EventM Event := do
  let first ← peekToken
  match first.kind with
  | .alias name =>
    popState
    skipToken
    pure ⟨.alias name, first.start⟩
  | _ =>
    let start := first.start
    let mut anchor : Option String := none
    let mut tag : Option (String × String × Mark) := none
    let mut t := first
    if let .anchor name := t.kind then
      anchor := some name
      skipToken
      t ← peekToken
      if let .tag h s := t.kind then
        tag := some (h, s, t.start)
        skipToken
        t ← peekToken
    else if let .tag h s := t.kind then
      tag := some (h, s, t.start)
      skipToken
      t ← peekToken
      if let .anchor name := t.kind then
        anchor := some name
        skipToken
        t ← peekToken
    let resolved ← match tag with
      | none => pure none
      | some ("", suffix, _) => pure (some suffix)
      | some (handle, suffix, tagMark) =>
        match (← get).tagHandles.lookup handle with
        | some pre => pure (some (pre ++ suffix))
        | none => parseErrorIn "while parsing a node" start "found undefined tag handle" tagMark
    if indentlessSequence && t.kind.same .blockEntry then
      modify fun p => { p with state := .indentlessSequenceEntry }
      return ⟨.sequenceStart anchor resolved, start⟩
    match t.kind with
    | .scalar text style =>
      popState
      skipToken
      pure ⟨.scalar anchor resolved text style, start⟩
    | .flowSequenceStart =>
      modify fun p => { p with state := .flowSequenceFirstEntry }
      pure ⟨.sequenceStart anchor resolved, start⟩
    | .flowMappingStart =>
      modify fun p => { p with state := .flowMappingFirstKey }
      pure ⟨.mappingStart anchor resolved, start⟩
    | .blockSequenceStart =>
      if block then
        modify fun p => { p with state := .blockSequenceFirstEntry }
        pure ⟨.sequenceStart anchor resolved, start⟩
      else noContent block anchor tag.isSome resolved start t.start
    | .blockMappingStart =>
      if block then
        modify fun p => { p with state := .blockMappingFirstKey }
        pure ⟨.mappingStart anchor resolved, start⟩
      else noContent block anchor tag.isSome resolved start t.start
    | _ => noContent block anchor tag.isSome resolved start t.start
where
  noContent (block : Bool) (anchor : Option String) (tagged : Bool) (resolved : Option String)
      (start here : Mark) : EventM Event := do
    if anchor.isSome || tagged then
      popState
      pure ⟨.scalar anchor resolved "" .plain, start⟩
    else
      parseErrorIn (if block then "while parsing a block node" else "while parsing a flow node")
        start "did not find expected node content" here

/-! ## Block collections -/

def parseBlockSequenceEntry (first : Bool) : EventM Event := do
  if first then
    pushMark (← peekToken).start
    skipToken
  let t ← peekToken
  if t.kind.same .blockEntry then
    skipToken
    let t' ← peekToken
    if !t'.isAny [.blockEntry, .blockEnd] then
      pushState .blockSequenceEntry
      parseNode true false
    else
      modify fun p => { p with state := .blockSequenceEntry }
      pure (emptyScalar t.stop)
  else if t.kind.same .blockEnd then
    popState
    discard popMark
    skipToken
    pure ⟨.sequenceEnd, t.start⟩
  else
    parseErrorIn "while parsing a block collection" (← popMark)
      "did not find expected '-' indicator" t.start

def parseIndentlessSequenceEntry : EventM Event := do
  let t ← peekToken
  if t.kind.same .blockEntry then
    skipToken
    let t' ← peekToken
    if !t'.isAny [.blockEntry, .key, .value, .blockEnd] then
      pushState .indentlessSequenceEntry
      parseNode true false
    else
      modify fun p => { p with state := .indentlessSequenceEntry }
      pure (emptyScalar t.stop)
  else
    popState
    pure ⟨.sequenceEnd, t.start⟩

def parseBlockMappingKey (first : Bool) : EventM Event := do
  if first then
    pushMark (← peekToken).start
    skipToken
  let t ← peekToken
  if t.kind.same .key then
    skipToken
    let t' ← peekToken
    if !t'.isAny [.key, .value, .blockEnd] then
      pushState .blockMappingValue
      parseNode true true
    else
      modify fun p => { p with state := .blockMappingValue }
      pure (emptyScalar t.stop)
  else if t.kind.same .blockEnd then
    popState
    discard popMark
    skipToken
    pure ⟨.mappingEnd, t.start⟩
  else
    parseErrorIn "while parsing a block mapping" (← popMark) "did not find expected key" t.start

def parseBlockMappingValue : EventM Event := do
  let t ← peekToken
  if t.kind.same .value then
    skipToken
    let t' ← peekToken
    if !t'.isAny [.key, .value, .blockEnd] then
      pushState .blockMappingKey
      parseNode true true
    else
      modify fun p => { p with state := .blockMappingKey }
      pure (emptyScalar t.stop)
  else
    modify fun p => { p with state := .blockMappingKey }
    pure (emptyScalar t.start)

/-! ## Flow collections -/

def parseFlowSequenceEntry (first : Bool) : EventM Event := do
  if first then
    pushMark (← peekToken).start
    skipToken
  let mut t ← peekToken
  if !t.kind.same .flowSequenceEnd then
    if !first then
      if t.kind.same .flowEntry then
        skipToken
        t ← peekToken
      else
        parseErrorIn "while parsing a flow sequence" (← popMark)
          "did not find expected ',' or ']'" t.start
    if t.kind.same .key then
      modify fun p => { p with state := .flowSequenceEntryMappingKey }
      skipToken
      return ⟨.mappingStart none none, t.start⟩
    else if !t.kind.same .flowSequenceEnd then
      pushState .flowSequenceEntry
      return (← parseNode false false)
  popState
  discard popMark
  skipToken
  pure ⟨.sequenceEnd, t.start⟩

def parseFlowSequenceEntryMappingKey : EventM Event := do
  let t ← peekToken
  if !t.isAny [.value, .flowEntry, .flowSequenceEnd] then
    pushState .flowSequenceEntryMappingValue
    parseNode false false
  else
    modify fun p => { p with state := .flowSequenceEntryMappingValue }
    pure (emptyScalar t.stop)

def parseFlowSequenceEntryMappingValue : EventM Event := do
  let mut t ← peekToken
  if t.kind.same .value then
    skipToken
    t ← peekToken
    if !t.isAny [.flowEntry, .flowSequenceEnd] then
      pushState .flowSequenceEntryMappingEnd
      return (← parseNode false false)
  modify fun p => { p with state := .flowSequenceEntryMappingEnd }
  pure (emptyScalar t.start)

def parseFlowSequenceEntryMappingEnd : EventM Event := do
  let t ← peekToken
  modify fun p => { p with state := .flowSequenceEntry }
  pure ⟨.mappingEnd, t.start⟩

def parseFlowMappingKey (first : Bool) : EventM Event := do
  if first then
    pushMark (← peekToken).start
    skipToken
  let mut t ← peekToken
  if !t.kind.same .flowMappingEnd then
    if !first then
      if t.kind.same .flowEntry then
        skipToken
        t ← peekToken
      else
        parseErrorIn "while parsing a flow mapping" (← popMark)
          "did not find expected ',' or '\x7d'" t.start
    if t.kind.same .key then
      skipToken
      let t' ← peekToken
      if !t'.isAny [.value, .flowEntry, .flowMappingEnd] then
        pushState .flowMappingValue
        return (← parseNode false false)
      else
        modify fun p => { p with state := .flowMappingValue }
        return emptyScalar t'.start
    else if !t.kind.same .flowMappingEnd then
      pushState .flowMappingEmptyValue
      return (← parseNode false false)
  popState
  discard popMark
  skipToken
  pure ⟨.mappingEnd, t.start⟩

def parseFlowMappingValue (empty : Bool) : EventM Event := do
  let mut t ← peekToken
  if empty then
    modify fun p => { p with state := .flowMappingKey }
    return emptyScalar t.start
  if t.kind.same .value then
    skipToken
    t ← peekToken
    if !t.isAny [.flowEntry, .flowMappingEnd] then
      pushState .flowMappingKey
      return (← parseNode false false)
  modify fun p => { p with state := .flowMappingKey }
  pure (emptyScalar t.start)

/-! ## The machine -/

def nextEvent : EventM (Option Event) := do
  let p ← get
  if p.streamEnded || p.state == .finished then return none
  let e ← match p.state with
    | .streamStart => do
      let t ← peekToken
      if !t.kind.same .streamStart then parseError "did not find expected <stream-start>" t.start
      modify fun p => { p with state := .implicitDocumentStart }
      skipToken
      pure ⟨.streamStart, t.start⟩
    | .implicitDocumentStart => parseDocumentStart true
    | .documentStart => parseDocumentStart false
    | .documentContent => do
      let t ← peekToken
      if t.isAny [.versionDirective 0 0, .tagDirective "" "", .documentStart, .documentEnd,
          .streamEnd] then
        popState
        pure (emptyScalar t.start)
      else parseNode true false
    | .documentEnd => parseDocumentEnd
    | .blockNode => parseNode true false
    | .blockNodeOrIndentlessSequence => parseNode true true
    | .flowNode => parseNode false false
    | .blockSequenceFirstEntry => parseBlockSequenceEntry true
    | .blockSequenceEntry => parseBlockSequenceEntry false
    | .indentlessSequenceEntry => parseIndentlessSequenceEntry
    | .blockMappingFirstKey => parseBlockMappingKey true
    | .blockMappingKey => parseBlockMappingKey false
    | .blockMappingValue => parseBlockMappingValue
    | .flowSequenceFirstEntry => parseFlowSequenceEntry true
    | .flowSequenceEntry => parseFlowSequenceEntry false
    | .flowSequenceEntryMappingKey => parseFlowSequenceEntryMappingKey
    | .flowSequenceEntryMappingValue => parseFlowSequenceEntryMappingValue
    | .flowSequenceEntryMappingEnd => parseFlowSequenceEntryMappingEnd
    | .flowMappingFirstKey => parseFlowMappingKey true
    | .flowMappingKey => parseFlowMappingKey false
    | .flowMappingValue => parseFlowMappingValue false
    | .flowMappingEmptyValue => parseFlowMappingValue true
    | .finished => pure ⟨.streamEnd, {}⟩
  pure (some e)

end ProviderRouting.Yaml
