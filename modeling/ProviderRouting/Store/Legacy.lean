import ProviderRouting.Store.Table
import ProviderRouting.Json.Stream
import ProviderRouting.Rule.Wire
import ProviderRouting.Guard

/-!
# Importing the legacy settings file

Before rules lived in the database they lived in a JSON settings file: an object whose
`providers` lists `{id, name}` and whose `routingRules` lists rules in their wire form (with both
times and the enabled flag given). Either list may be left out, and other members are ignored.

`importLegacy` reads that file once per store:

* a store that has imported before, or a missing file, imports nothing;
* into an empty rule table the providers are written in file order, each with its index as its
  place in the listing, and then every rule whose pattern is not blank and claims no reserved
  namespace, with its pattern trimmed; a rule id met twice undoes the whole import;
* into a table that already holds rules nothing is imported.

Unless it failed, the import is then marked done. A file that does not read as settings fails
with the reader's message and place.
-/

namespace ProviderRouting

open ProviderRouting.Json ProviderRouting.Text ProviderRouting.Time

/-! ## Reading the file -/

def legacyProviderFields : List TextField :=
  [⟨"id", .required, readString⟩, ⟨"name", .required, readString⟩]

def ruleTextFields : List TextField :=
  let instant := readStringWith "an RFC 3339 formatted date and time string" fun s =>
    match Instant.parse s with
    | .ok _ => none
    | .error e => some (.custom e.text)
  [⟨"id", .required, readString⟩, ⟨"ruleType", .defaulted, readNamed RuleKind.table⟩,
    ⟨"apiGroup", .defaulted, readNamed Group.table⟩, ⟨"providerId", .required, readString⟩,
    ⟨"matchPattern", .required, readString⟩, ⟨"modelRewrite", .optional, readOption readString⟩,
    ⟨"priority", .required, readInt Decoder.i32 "i32"⟩, ⟨"enabled", .required, readBool⟩,
    ⟨"createdAt", .required, instant⟩, ⟨"updatedAt", .required, instant⟩]

def legacyFields : List TextField :=
  [⟨"providers", .defaulted, readList (readObject "struct LegacyProvider" legacyProviderFields)⟩,
    ⟨"routingRules", .defaulted, readList (readObject "struct RoutingRule" ruleTextFields)⟩]

/-- What the settings file holds. -/
structure Legacy where
  providers : List (String × String)
  rules : List Rule
  deriving DecidableEq

def legacyProvider (v : Value) : Except DecodeError (String × String) :=
  Decoder.record "struct LegacyProvider" (legacyProviderFields.map fun f =>
      Field.of f.name f.absent Decoder.string) (fun m => do
    pure (← need m "id" Decoder.string, ← need m "name" Decoder.string)) v

def Legacy.parse (text : String) : Except StoreError Legacy :=
  match readText (readObject "struct LegacySettings" legacyFields) text with
  | .error e => .error (.json e.message)
  | .ok v =>
    let built : Except DecodeError Legacy := do
      let providers ← either (members v) "providers" (Decoder.list legacyProvider) []
      let rules ← either (members v) "routingRules" (Decoder.list Rule.decode) []
      pure ⟨providers, rules⟩
    built.mapError fun e => .json e.message
where
  members : Value → List (String × Value)
    | .obj ms => ms
    | _ => []

/-! ## Importing -/

/-- Whether a legacy rule is imported: a pattern that is not blank and claims no reserved
namespace. -/
def importable (r : Rule) : Bool :=
  (validatePattern r.pattern >>= fun _ => checkNamespace r.group r.kind (trimBlank r.pattern)).isOk

def Store.importSettings (st : Store) (l : Legacy) (stamp : Int) :
    Except StoreError (Store × Nat) := do
  let st := (l.providers.zipIdx).foldl (fun acc ((id, name), i) =>
    acc.putProvider { id := id, name := name, sortIndex := some i, createdAt := some stamp }) st
  (l.rules.filter importable).foldlM (fun (acc, n) r => do
    pure (← acc.insertRule { r with pattern := trimBlank r.pattern }, n + 1)) (st, 0)

/-- What stands at the path of the settings file. -/
inductive SettingsFile where
  | missing
  | text (content : String)
  | unreadable (e : StoreError)
  deriving Repr, DecidableEq

def SettingsFile.ofText : Option String → SettingsFile
  | some t => .text t
  | none => .missing

/-- Imports the settings file, if there is one, giving how many rules were imported. `stamp`
is the second the providers are recorded as made. The file is read only when the rule table is
empty. -/
def Store.importLegacy (st : Store) (file : SettingsFile) (stamp : Int) :
    Except StoreError Nat × Store :=
  if st.imported then (.ok 0, st)
  else
    let read : Option (Except StoreError String) := match file with
      | .missing => none
      | .text t => some (.ok t)
      | .unreadable e => some (.error e)
    match read with
    | none => (.ok 0, st)
    | some text =>
      let outcome : Except StoreError (Store × Nat) :=
        if st.rules.isEmpty then do st.importSettings (← Legacy.parse (← text)) stamp
        else .ok (st, 0)
      match outcome with
      | .error e => (.error e, st)
      | .ok (st', n) => (.ok n, { st' with imported := true })

end ProviderRouting
