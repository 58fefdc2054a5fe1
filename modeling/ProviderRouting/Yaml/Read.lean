import ProviderRouting.Yaml.Document
import ProviderRouting.Json.Decode

/-!
# Reading typed data from a YAML document

Readers walk a loaded document's events from a cursor. An alias is read as the node its anchor
was set on; the cursor then goes on after the alias. More than a hundred alias readings per
event is a loop, and an error.

A complaint names what was found the way the scalar reads (see `resolvePlain`): a quoted scalar
is always a string, and a scalar with a standard tag is read as that tag says. A complaint gets
the mark and the path of the node it is about from the innermost reader that knows them.

A boolean is a scalar spelled `true` or `false` (also capitalized or in capitals) that is plain,
whatever its tag, or a literal block (`|`) tagged `!!bool`; any other scalar is refused, with the
complaint naming what it reads as, so a quoted `!!bool "true"` or a folded `!!bool >-` block is
refused as a boolean found where a boolean was expected. Strings accept every
scalar as it is written. A struct is a mapping whose keys name its fields;
keys it does not know are skipped with everything under them, a key given twice is an error, and
an empty node is a struct with every field at its default. A unit variant of an enumeration is a
scalar naming it, or a tag `!name` on an empty scalar.
-/

namespace ProviderRouting.Yaml

/-! ## The cursor -/

/-- Where a reader is: the next event, and the aliases followed so far. -/
structure Cursor where
  pos : Nat := 0
  jumps : Nat := 0
  deriving Repr, Inhabited

abbrev ReadM := ReaderT Document (StateT Cursor (Except LoadError))

def nextNode : ReadM (Node × Mark) := do
  let d ← read
  let c ← get
  match d.events[c.pos]? with
  | some e =>
    set { c with pos := c.pos + 1 }
    pure e
  | none => throw (d.error.getD .endOfStream)

def peekNode : ReadM (Node × Mark) := do
  let d ← read
  match d.events[(← get).pos]? with
  | some e => pure e
  | none => throw (d.error.getD .endOfStream)

def jump {α : Type} (target : Nat) (m : ReadM α) : ReadM α := do
  let d ← read
  let c ← get
  if c.jumps + 1 > d.events.size * 100 then throw .repetitionLimit
  set { c with pos := target, jumps := c.jumps + 1 }
  let a ← m
  modify fun c' => { c' with pos := c.pos }
  pure a

def followAlias {α : Type} (path : Path) (body : Path → ReadM α) : ReadM α := do
  match (← peekNode).1 with
  | .alias t =>
    discard nextNode
    jump t (body (.alias path))
  | _ => body path

def fixing {α : Type} (m : Mark) (p : Path) (x : ReadM α) : ReadM α :=
  tryCatch x fun e => throw (e.fix m p)

/-! ## What was found -/

def standardTag (name : String) : String := "tag:yaml.org,2002:" ++ name

def strFound (s : String) : String := (Resolved.str s).text

def scalarValue (tag : Option String) (text : String) (style : ScalarStyle) :
    Except LoadError Resolved :=
  match tag with
  | some t =>
    if t == standardTag "bool" then
      match boolOfText text with
      | some b => .ok (.bool b)
      | none => .error (invalidValue (strFound text) "a boolean")
    else if t == standardTag "int" then
      match intOfText text with
      | some r => .ok r
      | none => .error (invalidValue (strFound text) "an integer")
    else if t == standardTag "float" then
      match floatOfText text with
      | some (neg, m) => .ok (.float neg m)
      | none => .error (invalidValue (strFound text) "a float")
    else if t == standardTag "null" then
      if isNullText text then .ok .null else .error (invalidValue (strFound text) "null")
    else if t.startsWith "!" && style == .plain then .ok (resolvePlain text)
    else .ok (.str text)
  | none => .ok (if style == .plain then resolvePlain text else .str text)

def Node.complaint (n : Node) (expected : String) : LoadError :=
  match n with
  | .scalar tag text style =>
    match scalarValue tag text style with
    | .ok r => invalidType r.text expected
    | .error e => e
  | .sequenceStart _ => invalidType "sequence" expected
  | .mappingStart _ => invalidType "map" expected
  | _ => .endOfStream

/-! ## Scalars -/

def readBool (path : Path) : ReadM Bool :=
  followAlias path fun path => do
    let (n, m) ← nextNode
    fixing m path do
      match n with
      | .scalar tag text style =>
        match style == .plain || (style == .literal && tag == some (standardTag "bool")),
            boolOfText text with
        | true, some b => pure b
        | _, _ =>
          match scalarValue tag text style with
          | .ok r => throw (invalidType r.text "a boolean")
          | .error e => throw e
      | _ => throw (n.complaint "a boolean")

def readString (path : Path) (expected : String) : ReadM String :=
  followAlias path fun path => do
    let (n, m) ← nextNode
    fixing m path do
      match n with
      | .scalar _ text _ => pure text
      | _ => throw (n.complaint expected)

def readOptional {α : Type} (path : Path) (inner : Path → ReadM α) : ReadM (Option α) :=
  followAlias path fun path => do
    let present ← match (← peekNode).1 with
      | .scalar tag text style =>
        if style != .plain then pure true
        else match tag with
          | some t =>
            if t == standardTag "null" then
              if isNullText text then pure false
              else throw (invalidValue (strFound text) "null")
            else pure true
          | none => pure (!text.isEmpty && !isNullText text)
      | .sequenceStart _ | .mappingStart _ => pure true
      | _ => pure false
    if present then some <$> inner path
    else
      discard nextNode
      pure none

/-! ## Skipping -/

def skipNode : ReadM Unit := do
  go ((← read).events.size + 1) 0
where
  go : Nat → Nat → ReadM Unit
    | 0, _ => pure ()
    | n + 1, depth => do
      match (← nextNode).1 with
      | .sequenceStart _ | .mappingStart _ => go n (depth + 1)
      | .sequenceEnd | .mappingEnd => if depth ≤ 1 then pure () else go n (depth - 1)
      | _ => if depth == 0 then pure () else go n depth

/-! ## Enumerations -/

def tagName (tag : Option String) : Option String :=
  match tag with
  | some t =>
    if t.startsWith "!" then some (if t.length > 1 then String.ofList (t.toList.drop 1) else t)
    else none
  | none => none

def unknownVariant (name : String) (names : List String) : LoadError :=
  .message ("unknown variant `" ++ name ++ "`, " ++ Json.variantsText names) none

def variantNamed {α : Type} (table : List (String × α)) (name : String) : ReadM α :=
  match table.lookup name with
  | some v => pure v
  | none => throw (unknownVariant name (table.map (·.1)))

def readUnit (path : Path) : ReadM Unit :=
  followAlias path fun path => do
    let (n, m) ← nextNode
    fixing m path do
      match n with
      | .scalar _ text style =>
        if style == .plain && (text.isEmpty || isNullText text) then pure ()
        else throw (invalidValue (strFound text) "null")
      | .empty => pure ()
      | _ => throw (n.complaint "unit")

def readVariant {α : Type} (path : Path) (table : List (String × α)) : ReadM α :=
  followAlias path fun path => do
    let (n, m) ← peekNode
    let tagged := fun (name : String) => do
      let v ← variantNamed table name
      readUnit path
      pure v
    match n with
    | .scalar tag text _ =>
      match tagName tag with
      | some name => tagged name
      | none =>
        fixing m path do
          discard nextNode
          variantNamed table text
    | .mappingStart tag | .sequenceStart tag =>
      match tagName tag with
      | some name => tagged name
      | none =>
        let found := match n with
          | .mappingStart _ => "map"
          | _ => "sequence"
        throw ((invalidType found "a YAML tag starting with '!'").fix m path)
    | _ => throw .endOfStream

/-! ## Structs -/

def readKey (path : Path) : ReadM (Option (String × Path)) := do
  let (n, _) ← peekNode
  match n with
  | .mappingEnd | .empty => pure none
  | .scalar _ text _ =>
    let key ← readString path "field identifier"
    pure (some (key, .key path text))
  | _ =>
    let key ← readString path "field identifier"
    pure (some (key, .unknown path))

def readEntries {α : Type} (fields : List String) (field : String → Path → α → ReadM α)
    (path : Path) : Nat → List String → α → ReadM α
  | 0, _, acc => pure acc
  | n + 1, seen, acc => do
    match ← readKey path with
    | none => pure acc
    | some (key, valuePath) =>
      if fields.contains key then
        if seen.contains key then
          throw (.message ("duplicate field `" ++ key ++ "`") none)
        let acc ← field key valuePath acc
        readEntries fields field path n (key :: seen) acc
      else
        skipNode
        readEntries fields field path n seen acc

def readStruct {α : Type} (path : Path) (what : String) (init : α) (fields : List String)
    (field : String → Path → α → ReadM α) : ReadM α :=
  followAlias path fun path => do
    let (n, m) ← nextNode
    fixing m path do
      match n with
      | .mappingStart _ =>
        let acc ← readEntries fields field path ((← read).events.size + 1) [] init
        discard nextNode
        pure acc
      | .empty => pure init
      | .scalar _ text .plain => if text.isEmpty then pure init else throw (n.complaint what)
      | _ => throw (n.complaint what)

end ProviderRouting.Yaml
