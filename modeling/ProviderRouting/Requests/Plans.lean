import ProviderRouting.Requests.Shapes
import ProviderRouting.Guard
import ProviderRouting.Plan.Bootstrap
import ProviderRouting.Route.Table

/-!
# Requests on a set of rules

Operations that take rules (and providers) from the request and answer from them alone: the
route table and routing, the priority plans, the default-rule plan and the edit guards.
-/

namespace ProviderRouting.Requests

open ProviderRouting.Json ProviderRouting.Time

def planStamp : Instant := ⟨1735689600, 0⟩

/-! ## Routing -/

def tableFields (t : RouteTable) : List (String × Value) :=
  [("partitions", .arr (t.partitions.map fun (s, rs) =>
      Value.record [("scope", .str s.name), ("ids", idsValue (rs.map (·.id)))])),
    ("len", .num (.nat t.size)), ("isEmpty", .bool (t.size == 0))]

def hitValue (g : Group) : Option RouteHit → Value
  | none => Value.record [("group", .str g.name), ("ruleId", .null)]
  | some h => Value.record [("group", .str g.name), ("ruleId", .str h.ruleId),
      ("providerId", .str h.provider), ("finalModel", Value.ofOption h.finalModel),
      ("modelRewritten", .bool h.rewritten), ("viaGeneric", .bool h.viaGeneric)]

def routeQuery (t : RouteTable) (q : Value) : Reply Value := do
  let path ← strMember q "path"
  let g ← match ← optStrMember q "group" with
    | some name => groupNamed name
    | none => pure (Group.ofPath path)
  let model ← optStrMember q "model"
  pure (hitValue g (t.route g path model))

def routeQueries (t : RouteTable) (req : Value) : Reply (List Value) := do
  (← listMember req "queries" "queries must be an array").mapM (routeQuery t)

def routeRequest (req : Value) : Reply Value := do
  let t := RouteTable.ofRules (← rulesMember req)
  let results ← routeQueries t req
  pure (Value.record (tableFields t ++ [("results", .arr results)]))

/-! ## Priorities -/

def assignmentValue (a : Assignment) : Value :=
  Value.record [("id", .str a.id), ("priority", Value.int a.priority)]

def idsMember (req : Value) : Reply (List String) := do
  (← listMember req "ids" "ids must be an array").mapM fun
    | .str s => pure s
    | _ => throw (badRequest "ids must be strings")

def nextPriorityRequest (req : Value) : Reply Value := do
  let rules ← rulesMember req
  let s ← decodedMember req "scope" Scope.decode
  pure (Value.int (← ofFailure (nextPriority rules s)))

def planReorderRequest (req : Value) : Reply Value := do
  let rules ← rulesMember req
  let ids ← idsMember req
  let plan ← ofRouter (planReorder rules ids planStamp)
  pure (Value.record [("assignments", .arr (plan.map assignmentValue)),
    ("priorities", .arr ((applyAssignments rules plan).map fun r =>
      .arr [.str r.id, Value.int r.priority]))])

def planInsertRequest (req : Value) : Reply Value := do
  let rules ← rulesMember req
  let anchor ← strMember req "anchor"
  let s ← decodedMember req "scope" Scope.decode
  let (p, shifted) ← ofFailure (planInsertBefore rules s anchor planStamp)
  pure (Value.record [("priority", Value.int p), ("shifted", .arr (shifted.map assignmentValue))])

def planTieBreakRequest (req : Value) : Reply Value := do
  let rules ← rulesMember req
  pure (.arr ((← ofFailure (planTieBreak rules planStamp)).map assignmentValue))

/-! ## Default rules -/

def defaultPlanValue (p : DefaultPlan) : Value :=
  let r := p.toRule "" planStamp
  Value.record [("ruleType", .str r.kind.name), ("apiGroup", .str r.group.name),
    ("providerId", .str r.provider), ("matchPattern", .str r.pattern),
    ("modelRewrite", Value.ofOption r.rewrite), ("priority", Value.int r.priority),
    ("enabled", .bool r.enabled), ("locked", .bool r.locked)]

def planBootstrapRequest (req : Value) : Reply Value := do
  let rules ← rulesMember req
  let providers ← providersMember req
  let plan ← match planBootstrap rules providers with
    | .ok ps => pure (.arr (ps.map defaultPlanValue))
    | .error (.error e) => pure (routerReply e)
    | .error .overflow => throw (failureReply .overflow)
  pure (Value.record [
    ("missing", .arr ((missingDefaults rules).map fun g => .str g.name)),
    ("hasDefault", .arr ([Group.openai, .anthropic, .generic].map fun g =>
      .bool (hasDefault rules g))),
    ("plan", plan)])

/-! ## Guards -/

def ruleNamed (rules : List Rule) (id : String) : Reply Rule :=
  match rules.find? (·.id == id) with
  | some r => pure r
  | none => throw (badRequest ("no rule " ++ id ++ " in rules"))

def guardRequest (req : Value) : Reply Value := do
  let rules ← rulesMember req
  let providers ← providersMember req
  let g : Guard := ⟨rules, providers⟩
  let check ← strMember req "check"
  if check = "create" then
    ofRouter (g.checkCreate (← decodedMember req "input" NewRule.decode))
    pure .null
  else if check = "update" then
    let r ← ruleNamed rules (← strMember req "id")
    let p ← decoded (Patch.decode (memberOr req "patch" (.obj [])))
    pure (ruleValue (← ofRouter (g.checkUpdate r p)))
  else if check = "delete" then
    ofRouter (Guard.checkDelete (← ruleNamed rules (← strMember req "id")))
    pure .null
  else if check = "duplicate" then
    ofRouter (g.checkDuplicate (← ruleNamed rules (← strMember req "id")))
    pure .null
  else if check = "provider" then
    ofRouter (g.checkProvider (← strMember req "providerId"))
    pure .null
  else throw (badRequest ("unknown check " ++ check))

end ProviderRouting.Requests
