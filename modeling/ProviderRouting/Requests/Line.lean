import ProviderRouting.Requests.Pure
import ProviderRouting.Requests.Parse
import ProviderRouting.Requests.Plans
import ProviderRouting.Requests.Files
import ProviderRouting.Requests.Setup

/-!
# One request line

`answer` reads one line of JSON text as a request, runs the operation it names and writes the
reply as compact JSON text. A line that is not JSON is refused with the reader's message.
-/

namespace ProviderRouting.Requests

open ProviderRouting.Json

def dispatch (req : Value) : Reply Value := do
  let op ← strMember req "op"
  if op = "matches" then matchesRequest req
  else if op = "group_from_path" then groupFromPathRequest req
  else if op = "is_protected" then isProtectedRequest req
  else if op = "parse_group" then parseGroupRequest req
  else if op = "parse_rule_type" then parseKindRequest req
  else if op = "default_paths" then pure defaultPathsRequest
  else if op = "parse_rule" then parseRuleRequest req
  else if op = "parse_create_input" then parseNewRuleRequest req
  else if op = "new_create_input" then newRuleRequest req
  else if op = "parse_event" then parseEventRequest req
  else if op = "apply_patch" then applyPatchRequest req
  else if op = "sort_scopes" then sortScopesRequest req
  else if op = "validate_pattern" then validatePatternRequest req
  else if op = "check_namespace" then checkNamespaceRequest req
  else if op = "route" then routeRequest req
  else if op = "next_priority" then nextPriorityRequest req
  else if op = "plan_reorder" then planReorderRequest req
  else if op = "plan_insert_before" then planInsertRequest req
  else if op = "plan_tie_break" then planTieBreakRequest req
  else if op = "plan_bootstrap" then planBootstrapRequest req
  else if op = "guard" then guardRequest req
  else if op = "session" then sessionRequest req
  else if op = "migrate" then migrateRequest req
  else if op = "open" then openRequest req
  else if op = "logging" then loggingRequest req
  else if op = "config_load" then configLoadRequest req
  else if op = "config_save" then configSaveRequest req
  else throw (badRequest ("unknown op " ++ op))

def labelsAsItGoes (req : Value) : Bool :=
  match req.get? "op" with
  | some (.str op) => op = "session" || op = "open"
  | _ => false

def reply (req : Value) : Value :=
  match dispatch req with
  | .ok v => okReply (if labelsAsItGoes req then v else labelled v)
  | .error e => e

def answer (line : String) : String :=
  match Value.parse line with
  | .ok req => (reply req).compact
  | .error e => (badRequest e.message).compact

end ProviderRouting.Requests
