import ProviderRouting.Rule.Input
import ProviderRouting.Json.Decode

/-!
# Rules on the wire

The JSON forms of rules and of the inputs that make and change them. Names are camelCase; a
kind and a group are written by name. A rule may leave out its kind (a model rule) and its group
(generic); its rewrite may be left out or null. A new rule may also leave out whether it is
enabled (it is) and its position (last). Every field of a patch and of a default edit may be
left out. A position is `"last"` or `{"before": {"ruleId": id}}`.
-/

namespace ProviderRouting

open ProviderRouting.Json ProviderRouting.Time

/-! ## Names -/

def RuleKind.table : List (String × RuleKind) := [("path", .path), ("model", .model)]

def Group.table : List (String × Group) :=
  [("openai", .openai), ("anthropic", .anthropic), ("generic", .generic)]

def RuleKind.decode : Decoder RuleKind := Decoder.named RuleKind.table

def Group.decode : Decoder Group := Decoder.named Group.table

def Instant.decode : Decoder Instant
  | .str s =>
    match Instant.parse s with
    | .ok t => .ok t
    | .error e => .error (.custom e.text)
  | v => .error (.invalidType v.found "an RFC 3339 formatted date and time string")

/-! ## Scopes and rules -/

def Scope.fields : List Field :=
  [.of "apiGroup" .required Group.decode, .of "ruleType" .required RuleKind.decode]

def Scope.decode : Decoder Scope :=
  Decoder.record "struct RuleScope" Scope.fields fun m => do
    pure ⟨← need m "apiGroup" Group.decode, ← need m "ruleType" RuleKind.decode⟩

def Rule.fields : List Field :=
  [.of "id" .required Decoder.string, .of "ruleType" .defaulted RuleKind.decode,
    .of "apiGroup" .defaulted Group.decode, .of "providerId" .required Decoder.string,
    .of "matchPattern" .required Decoder.string,
    .of "modelRewrite" .optional (Decoder.option Decoder.string),
    .of "priority" .required Decoder.i32, .of "enabled" .required Decoder.bool,
    .of "createdAt" .required Instant.decode, .of "updatedAt" .required Instant.decode]

def Rule.decode : Decoder Rule :=
  Decoder.record "struct RoutingRule" Rule.fields fun m => do
    pure {
      id := ← need m "id" Decoder.string
      kind := ← either m "ruleType" RuleKind.decode .model
      group := ← either m "apiGroup" Group.decode .generic
      provider := ← need m "providerId" Decoder.string
      pattern := ← need m "matchPattern" Decoder.string
      rewrite := ← maybe m "modelRewrite" Decoder.string
      priority := ← need m "priority" Decoder.i32
      enabled := ← need m "enabled" Decoder.bool
      createdAt := ← need m "createdAt" Instant.decode
      updatedAt := ← need m "updatedAt" Instant.decode }

def Rule.toValue (r : Rule) : Value :=
  Value.record [("id", .str r.id), ("ruleType", .str r.kind.name),
    ("apiGroup", .str r.group.name), ("providerId", .str r.provider),
    ("matchPattern", .str r.pattern), ("modelRewrite", Value.ofOption r.rewrite),
    ("priority", Value.int r.priority), ("enabled", .bool r.enabled),
    ("createdAt", .str r.createdAt.rfc3339), ("updatedAt", .str r.updatedAt.rfc3339)]

/-! ## New rules -/

def Position.beforeFields : List Field := [.of "ruleId" .required Decoder.string]

def Position.decode : Decoder Position := fun v => do
  let (name, payload) ← variantParts v
  let tag ← variantOf [("last", false), ("before", true)] name
  match tag, payload with
  | false, none | false, some .null => pure .last
  | false, some p => throw (.invalidType p.found "unit")
  | true, none => throw (.invalidType .unitVariant "struct variant")
  | true, some (.obj members) =>
    Decoder.record "struct variant InsertPosition::Before" Position.beforeFields
      (fun m => Position.before <$> need m "ruleId" Decoder.string) (.obj members)
  | true, some p => throw (.invalidType p.found "struct variant")

def NewRule.fields : List Field :=
  [.of "ruleType" .defaulted RuleKind.decode, .of "apiGroup" .defaulted Group.decode,
    .of "providerId" .required Decoder.string, .of "matchPattern" .required Decoder.string,
    .of "modelRewrite" .optional (Decoder.option Decoder.string),
    .of "enabled" .defaulted Decoder.bool, .of "position" .defaulted Position.decode]

def NewRule.decode : Decoder NewRule :=
  Decoder.record "struct CreateRuleInput" NewRule.fields fun m => do
    pure {
      kind := ← either m "ruleType" RuleKind.decode .model
      group := ← either m "apiGroup" Group.decode .generic
      provider := ← need m "providerId" Decoder.string
      pattern := ← need m "matchPattern" Decoder.string
      rewrite := ← maybe m "modelRewrite" Decoder.string
      enabled := ← either m "enabled" Decoder.bool true
      position := ← either m "position" Position.decode .last }

def Position.toValue : Position → Value
  | .last => .str "last"
  | .before id => Value.record [("before", Value.record [("ruleId", .str id)])]

def NewRule.toValue (n : NewRule) : Value :=
  Value.record [("ruleType", .str n.kind.name), ("apiGroup", .str n.group.name),
    ("providerId", .str n.provider), ("matchPattern", .str n.pattern),
    ("modelRewrite", Value.ofOption n.rewrite), ("enabled", .bool n.enabled),
    ("position", n.position.toValue)]

/-! ## Patches -/

def Patch.fields : List Field :=
  [.of "ruleType" .optional (Decoder.option RuleKind.decode),
    .of "apiGroup" .optional (Decoder.option Group.decode),
    .of "providerId" .optional (Decoder.option Decoder.string),
    .of "matchPattern" .optional (Decoder.option Decoder.string),
    .of "modelRewrite" .optional (Decoder.option Decoder.string),
    .of "enabled" .optional (Decoder.option Decoder.bool)]

def Patch.decode : Decoder Patch :=
  Decoder.record "struct UpdateRuleInput" Patch.fields fun m => do
    pure {
      kind := ← maybe m "ruleType" RuleKind.decode
      group := ← maybe m "apiGroup" Group.decode
      provider := ← maybe m "providerId" Decoder.string
      pattern := ← maybe m "matchPattern" Decoder.string
      rewrite := ← maybe m "modelRewrite" Decoder.string
      enabled := ← maybe m "enabled" Decoder.bool }

def DefaultEdit.fields : List Field :=
  [.of "providerId" .optional (Decoder.option Decoder.string),
    .of "enabled" .optional (Decoder.option Decoder.bool)]

def DefaultEdit.decode : Decoder DefaultEdit :=
  Decoder.record "struct DefaultRuleInput" DefaultEdit.fields fun m => do
    pure { provider := ← maybe m "providerId" Decoder.string,
           enabled := ← maybe m "enabled" Decoder.bool }

end ProviderRouting
