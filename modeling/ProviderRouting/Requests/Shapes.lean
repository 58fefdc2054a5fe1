import ProviderRouting.Requests.Reply
import ProviderRouting.Rule.Wire
import ProviderRouting.Provider.Wire

/-!
# Shapes of request arguments and replies

A rule in a reply is `{id, ruleType, apiGroup, providerId, matchPattern, modelRewrite, priority,
enabled, locked}`: no times, since they are set from the clock, and whether it is a locked
default. A provider is `{id, name, sortIndex}`.

A rule in a request may leave out its times and whether it is enabled: the times are then the
first instant of 2025 and the rule is enabled. A provider in a request is its id alone, named
after itself, or `{id, name?, sortIndex?, createdAt?}`, named after its id when no name is given
and otherwise read as a provider is.
-/

namespace ProviderRouting.Requests

open ProviderRouting.Json

/-! ## Replies -/

def ruleValue (r : Rule) : Value :=
  Value.record [("id", .str r.id), ("ruleType", .str r.kind.name),
    ("apiGroup", .str r.group.name), ("providerId", .str r.provider),
    ("matchPattern", .str r.pattern), ("modelRewrite", Value.ofOption r.rewrite),
    ("priority", Value.int r.priority), ("enabled", .bool r.enabled),
    ("locked", .bool r.locked)]

def rulesValue (rs : List Rule) : Value := .arr (rs.map ruleValue)

def providerValue (p : Provider) : Value :=
  Value.record [("id", .str p.id), ("name", .str p.name),
    ("sortIndex", match p.sortIndex with
      | some i => Value.int i
      | none => .null)]

def idsValue (ids : List String) : Value := .arr (ids.map .str)

/-! ## Arguments -/

def defaultStamp : String := "2025-01-01T00:00:00Z"

def withRuleDefaults : Value → Value
  | .obj fields =>
    let fill (k : String) (v : Value) (fs : List (String × Value)) :=
      if (fs.lookup k).isSome then fs else Object.insert k v fs
    .obj (fill "enabled" (.bool true) (fill "updatedAt" (.str defaultStamp)
      (fill "createdAt" (.str defaultStamp) fields)))
  | v => v

def decoded {α : Type} (r : Except DecodeError α) : Reply α :=
  r.mapError fun e => decodeReply e.message

def ruleArg (v : Value) : Reply Rule := decoded (Rule.decode (withRuleDefaults v))

def ruleArgs : List Value → Reply (List Rule)
  | [] => pure []
  | v :: vs => do
    let r ← ruleArg v
    let rs ← ruleArgs vs
    pure (r :: rs)

def rulesMember (req : Value) : Reply (List Rule) := do
  ruleArgs (← listMember req "rules" "rules must be an array")

def withProviderDefaults : Value → Value
  | .obj fields =>
    match fields.lookup "name", fields.lookup "id" with
    | none, some id => .obj (Object.insert "name" id fields)
    | _, _ => .obj fields
  | v => v

def providerArg : Value → Reply Provider
  | .str id => pure { id := id, name := id }
  | v@(.obj _) => decoded (Provider.decode (withProviderDefaults v))
  | _ => throw (badRequest "provider must be a string or object")

def providerArgs : List Value → Reply (List Provider)
  | [] => pure []
  | v :: vs => do
    let p ← providerArg v
    let ps ← providerArgs vs
    pure (p :: ps)

def providersMember (req : Value) : Reply (List Provider) := do
  providerArgs (← listMember req "providers" "providers must be an array")

def decodedMember {α : Type} (req : Value) (name : String) (d : Decoder α) : Reply α := do
  decoded (d (← member req name))

end ProviderRouting.Requests
