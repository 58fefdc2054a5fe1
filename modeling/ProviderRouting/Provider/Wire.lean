import ProviderRouting.Provider.Basic
import ProviderRouting.Json.Decode

/-!
# Providers on the wire

A provider is `{id, name, sortIndex?, createdAt?}`. A deletion policy is written by name. A
removal is `{providerId, rulesToDrop}`, the list left out meaning none, and a report is
`{dropped, reassigned, dangling}`, each list required. An event carries its
variant in a `type` member beside its own fields: `{"type": "added", "providerId": id}` or
`{"type": "deleted", "providerId": id, "rulesToDrop": [...]}`. An event may also be an array
whose first item is the type and whose other items are the fields in order; items beyond the
fields are counted against the ones the fields took.
-/

namespace ProviderRouting

open ProviderRouting.Json

def Provider.fields : List Field :=
  [.of "id" .required Decoder.string, .of "name" .required Decoder.string,
    .of "sortIndex" .optional (Decoder.option Decoder.i32),
    .of "createdAt" .optional (Decoder.option Decoder.i64)]

def Provider.decode : Decoder Provider :=
  Decoder.record "struct ProviderSummary" Provider.fields fun m => do
    pure { id := ← need m "id" Decoder.string, name := ← need m "name" Decoder.string,
           sortIndex := ← maybe m "sortIndex" Decoder.i32,
           createdAt := ← maybe m "createdAt" Decoder.i64 }

def DeletionPolicy.decode : Decoder DeletionPolicy :=
  Decoder.named [("cascade", .cascade), ("flag", .flag)]

def Removal.fields : List Field :=
  [.of "providerId" .required Decoder.string,
    .of "rulesToDrop" .defaulted (Decoder.list Decoder.string)]

def Removal.decode : Decoder Removal :=
  Decoder.record "struct ProviderRemoval" Removal.fields fun m => do
    pure { provider := ← need m "providerId" Decoder.string,
           rulesToDrop := ← either m "rulesToDrop" (Decoder.list Decoder.string) [] }

def Report.fields : List Field :=
  [.of "dropped" .required (Decoder.list Decoder.string),
    .of "reassigned" .required (Decoder.list Decoder.string),
    .of "dangling" .required (Decoder.list Decoder.string)]

def Report.decode : Decoder Report :=
  Decoder.record "struct ReconcileReport" Report.fields fun m => do
    pure { dropped := ← need m "dropped" (Decoder.list Decoder.string),
           reassigned := ← need m "reassigned" (Decoder.list Decoder.string),
           dangling := ← need m "dangling" (Decoder.list Decoder.string) }

def Event.addedFields : List Field := [.of "providerId" .required Decoder.string]

def Event.tag : Decoder Bool
  | .str s => variantOf [("added", false), ("deleted", true)] s
  | v => .error (.invalidType v.found "variant identifier")

def Event.body (deleted : Bool) (rest : Value) : Except DecodeError Event :=
  if deleted then Event.deleted <$> Removal.decode rest
  else
    Decoder.record "struct variant ProviderEvent::Added" Event.addedFields
      (fun m => Event.added <$> need m "providerId" Decoder.string) rest

def Event.decode : Decoder Event
  | .obj members =>
    match members.lookup "type" with
    | none => .error (.missingField "type")
    | some t => do
      let deleted ← Event.tag t
      Event.body deleted (.obj (members.filter (·.1 != "type")))
  | .arr [] => .error (.missingField "type")
  | .arr (t :: rest) => do
    let deleted ← Event.tag t
    let width := if deleted then Removal.fields.length else Event.addedFields.length
    let event ← Event.body deleted (.arr (rest.take width))
    if width < rest.length then
      throw (.invalidLength rest.length (toString width ++
        (if width = 1 then " element in sequence" else " elements in sequence")))
    pure event
  | v => .error (.invalidType v.found "internally tagged enum ProviderEvent")

def Event.toValue : Event → Value
  | .added p => Value.record [("type", .str "added"), ("providerId", .str p)]
  | .deleted r => Value.record [("type", .str "deleted"), ("providerId", .str r.provider),
      ("rulesToDrop", .arr (r.rulesToDrop.map .str))]

end ProviderRouting
