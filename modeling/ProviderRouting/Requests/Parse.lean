import ProviderRouting.Requests.Shapes
import ProviderRouting.Guard

/-!
# Requests on single values

Operations that read one rule, input, patch, event or list of scopes, and give it back as the
library understands it: decoded with its defaults, patched, sorted or checked.
-/

namespace ProviderRouting.Requests

open ProviderRouting.Json

def parseRuleRequest (req : Value) : Reply Value := do
  pure (ruleValue (← ruleArg (← member req "rule")))

def parseNewRuleRequest (req : Value) : Reply Value := do
  pure (← decodedMember req "input" NewRule.decode).toValue

def newRuleRequest (req : Value) : Reply Value := do
  let group ← groupNamed (← strMember req "apiGroup")
  let kind ← kindNamed (← strMember req "ruleType")
  let provider ← strMember req "providerId"
  let pattern ← strMember req "matchPattern"
  let n : NewRule := { group := group, kind := kind, provider := provider, pattern := pattern }
  pure (Value.record [("input", n.toValue), ("scope", .str n.scope.name)])

def parseEventRequest (req : Value) : Reply Value := do
  pure (← decodedMember req "event" Event.decode).toValue

def applyPatchRequest (req : Value) : Reply Value := do
  let r ← ruleArg (← member req "rule")
  let p ← decoded (Patch.decode (memberOr req "patch" (.obj [])))
  pure (ruleValue (p.apply r))

def sortScopesRequest (req : Value) : Reply Value := do
  let scopes ← decodedMember req "scopes" (Decoder.list Scope.decode)
  let sorted := scopes.mergeSort fun a b => a.rank ≤ b.rank
  pure (.arr (sorted.map fun s => .str s.name))

def validatePatternRequest (req : Value) : Reply Value := do
  ofRouter (validatePattern (← strMember req "pattern"))
  pure .null

def checkNamespaceRequest (req : Value) : Reply Value := do
  let group ← groupNamed (← strMember req "apiGroup")
  let kind ← kindNamed (← strMember req "ruleType")
  ofRouter (checkNamespace group kind (← strMember req "pattern"))
  pure .null

end ProviderRouting.Requests
