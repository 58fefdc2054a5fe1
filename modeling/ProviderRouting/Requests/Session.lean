import ProviderRouting.Requests.Plans
import ProviderRouting.Requests.Labels
import ProviderRouting.Service.Providers
import ProviderRouting.Store.Legacy

/-!
# Sessions

A session request builds a service over a fresh store and runs a list of steps on it. Each step
answers its result, or its error, together with the rule listing after the step; a step that
fails leaves the service as far as it got, and the next step goes on from there.

Rule ids the service made are shown as labels (see `Labels`), numbered over the load listing
and then over each step's answer in turn, and a step may name a rule by its label.
-/

namespace ProviderRouting.Requests

open ProviderRouting.Json

abbrev StepM := ExceptT Value (StateM Service)

def serviceStep {α : Type} (m : ServiceM α) : StepM α :=
  ExceptT.mk do
    match ← m.run with
    | .ok a => pure (.ok a)
    | .error f => pure (.error (failureReply f))

def parsed {α : Type} (r : Reply α) : StepM α :=
  match r with
  | .ok a => pure a
  | .error e => throw e

def stored {α : Type} (r : Except StoreError α) : StepM α :=
  match r with
  | .ok a => pure a
  | .error e => throw (storeReply e)

def reportValue (r : Report) : Value :=
  Value.record [("dropped", idsValue r.dropped), ("reassigned", idsValue r.reassigned),
    ("dangling", idsValue r.dangling)]

def removalValue (r : Removal) : Value :=
  Value.record [("providerId", .str r.provider), ("rulesToDrop", idsValue r.rulesToDrop)]

def optDecodedMember {α : Type} (req : Value) (name : String) (d : Decoder α) :
    Reply (Option α) :=
  match req.get? name with
  | none | some .null => pure none
  | some v => some <$> decoded (d v)

/-! ## Registry steps -/

def addProvider (p : Provider) : StepM Unit :=
  modify fun s => match s.registry with
    | .fixed ps => { s with registry := .fixed (ps.filter (·.id != p.id) ++ [p]) }
    | .stored => { s with store := s.store.putProvider p }

def removeProvider (id : String) : StepM Bool := do
  let s ← get
  match s.registry with
  | .fixed ps =>
    set { s with registry := .fixed (ps.filter (·.id != id)) }
    pure (ps.any (·.id == id))
  | .stored =>
    match s.store.providerById id with
    | none => pure false
    | some _ =>
      set { s with store := s.store.dropProvider id }
      pure true

def setFaults (step : Value) : StepM Unit :=
  modify fun s =>
    let all := match step.get? "all" with
      | some (.bool b) => b
      | _ => s.faults.all
    let create := match step.get? "create" with
      | some (.bool b) => b
      | _ => s.faults.create
    { s with faults := { all := all, create := create } }

def corruptStep (step : Value) : StepM Value := do
  let id ← parsed (strMember step "id")
  let column ← parsed (strMember step "column")
  let kindColumn ← if column = "rule_type" then pure true
    else if column = "api_group" then pure false
    else throw (badRequest "column must be rule_type or api_group")
  let text ← parsed (strMember step "value")
  let s ← get
  let (st, n) := s.store.overwrite id kindColumn text
  set { s with store := st }
  pure (.num (.nat n))

def repoDeleteStep (step : Value) : StepM Value := do
  let id ← parsed (strMember step "id")
  let s ← get
  let (st, n) := s.store.deleteRule id
  if n = 0 then throw (storeReply (.missingRecord id))
  set { s with store := st }
  pure .null

/-- The `capacity` of a `watch` step: a whole number that fits in 64 bits, which must not be
zero; anything else, or nothing, is sixteen. -/
def capacityMember (step : Value) : Reply Nat :=
  match step.get? "capacity" with
  | some (.num (.nat n)) =>
    if n ≥ Nat.pow 2 64 then pure 16
    else if 0 < n then pure n
    else throw (badRequest "capacity must be positive")
  | _ => pure 16

def watchStep (step : Value) : StepM Value := do
  let capacity ← parsed (capacityMember step)
  let events ← parsed (arrMember step "events" "events must be an array")
  let events ← parsed (events.mapM fun e => decoded (Event.decode e))
  serviceStep (watch capacity events)
  pure .null

/-- The text of a legacy settings file given in a request: a string as it is, another value as
compact JSON, and null or nothing for no file. -/
def legacyFile : Option Value → Option String
  | none | some .null => none
  | some (.str s) => some s
  | some v => some v.compact

def importAnswer : Except StoreError Nat → Reply Value
  | .ok n => pure (.num (.nat n))
  | .error e => throw (storeReply e)

def migrateStep (step : Value) : StepM Value := do
  let s ← get
  let stamp := (clockInstant s.clock).secs
  let (result, st) := s.store.importLegacy (.ofText (legacyFile (step.get? "legacy"))) stamp
  set { s with store := st }
  parsed (importAnswer result)

/-! ## Steps -/

/-- Runs one step, its labels already resolved; `faults` is a step only where store calls can
be set to fail. -/
def runStep (faultsAllowed : Bool) (step : Value) : StepM Value := do
  let op ← parsed (strMember step "op")
  if op = "create" then
    let n ← parsed (decodedMember step "input" NewRule.decode)
    ruleValue <$> serviceStep (create n)
  else if op = "update" then
    let id ← parsed (strMember step "id")
    let p ← parsed (decoded (Patch.decode (memberOr step "patch" (.obj []))))
    ruleValue <$> serviceStep (update id p)
  else if op = "delete" then
    serviceStep (delete (← parsed (strMember step "id")))
    pure .null
  else if op = "duplicate" then
    ruleValue <$> serviceStep (duplicate (← parsed (strMember step "id")))
  else if op = "get" then
    ruleValue <$> serviceStep (getRule (← parsed (strMember step "id")))
  else if op = "reorder" then
    serviceStep (reorder (← parsed (idsMember step)))
    pure .null
  else if op = "bootstrap" then
    rulesValue <$> serviceStep bootstrap
  else if op = "reload" then
    serviceStep reload
    pure .null
  else if op = "list" then
    let scope ← parsed (optDecodedMember step "scope" Scope.decode)
    rulesValue <$> serviceStep (list scope)
  else if op = "default_rule" then
    let g ← parsed (groupNamed (← parsed (strMember step "group")))
    (fun r => match r with
      | some r => ruleValue r
      | none => .null) <$> serviceStep (defaultRule g)
  else if op = "set_default" then
    let g ← parsed (groupNamed (← parsed (strMember step "group")))
    let edit ← parsed (decoded (DefaultEdit.decode (memberOr step "input" (.obj []))))
    ruleValue <$> serviceStep (setDefault g edit)
  else if op = "route" then
    let t ← serviceStep routeTable
    .arr <$> parsed (routeQueries t step)
  else if op = "route_table" then
    (fun t => Value.record (tableFields t)) <$> serviceStep routeTable
  else if op = "dangling" then
    (fun rs => idsValue (rs.map (·.id))) <$> serviceStep danglingRules
  else if op = "plan_removal" then
    let provider ← parsed (strMember step "providerId")
    let policy ← match step.get? "policy" with
      | some v => parsed (decoded (DeletionPolicy.decode v))
      | none => pure (← get).policy
    removalValue <$> serviceStep (planRemoval provider policy)
  else if op = "apply_removal" then
    let r ← parsed (decodedMember step "removal" Removal.decode)
    reportValue <$> serviceStep (applyRemoval r)
  else if op = "reconcile" then
    reportValue <$> serviceStep (reconcile (← parsed (strMember step "providerId")))
  else if op = "event" then
    let e ← parsed (decodedMember step "event" Event.decode)
    serviceStep (handleEvent e)
    pure .null
  else if op = "faults" then
    if !faultsAllowed then throw (badRequest "faults need a session op")
    setFaults step
    pure .null
  else if op = "providers" then
    (fun ps => .arr (ps.map providerValue)) <$> serviceStep listProviders
  else if op = "provider_add" then
    addProvider (← parsed (providerArg (← parsed (member step "provider"))))
    pure .null
  else if op = "provider_remove" then
    .bool <$> removeProvider (← parsed (strMember step "id"))
  else if op = "provider_replace" then
    match (← get).registry with
    | .fixed _ =>
      let ps ← parsed (providersMember step)
      modify fun s => { s with registry := .fixed ps }
      pure .null
    | .stored => throw (badRequest "provider_replace needs the static registry")
  else if op = "provider_get" then
    match (← get).registry with
    | .stored =>
      let id ← parsed (strMember step "id")
      pure (match (← get).store.providerById id with
        | some p => providerValue p
        | none => .null)
    | .fixed _ => throw (badRequest "provider_get needs the sqlite registry")
  else if op = "repo_delete" then repoDeleteStep step
  else if op = "corrupt" then corruptStep step
  else if op = "watch" then watchStep step
  else if op = "migrate" then migrateStep step
  else throw (badRequest ("unknown step op " ++ op))

def stepAnswer (result : Reply Value) (rules : List Rule) : Value :=
  let listing := ("rules", rulesValue rules)
  match result with
  | .ok v => Value.record [("ok", v), listing]
  | .error (.obj fields) => Value.record (fields ++ [listing])
  | .error e => Value.record [("error", e), listing]

def listing (s : Service) : List Rule := (s.cache.mergeSort listsBefore)

def runSteps (faultsAllowed : Bool) (s : Service) (ls : Labels) :
    List Value → List Value × Service × Labels
  | [] => ([], s, ls)
  | step :: rest =>
    let (result, s') := ((runStep faultsAllowed (ls.resolveStep step)).run).run s
    let (ls', answer) := ls.relabel (stepAnswer result (listing s'))
    let (answers, s'', ls'') := runSteps faultsAllowed s' ls' rest
    (answer :: answers, s'', ls'')

/-! ## Building a session -/

def loadAnswer (result : Except Failure Unit) (s : Service) : Value :=
  match result with
  | .ok () => Value.record [("policy", .str s.policy.name), ("rules", rulesValue (listing s))]
  | .error f => failureReply f

def seedStore : Store → List Rule → Reply Store
  | st, [] => pure st
  | st, r :: rs =>
    match st.insertRule r with
    | .ok st' => seedStore st' rs
    | .error e => throw (storeReply e)

def policyMember (req : Value) : Reply DeletionPolicy := do
  pure ((← optDecodedMember req "policy" DeletionPolicy.decode).getD .cascade)

def autoBootstrapMember (req : Value) : Bool :=
  match req.get? "autoBootstrap" with
  | some (.bool b) => b
  | _ => true

/-- The answer to a load and, if it loaded, the step answers, with the service as the steps
left it. The steps are looked at only once the service has loaded. An overflow while loading is
not a load answer: it ends the whole request. -/
def afterLoad (faultsAllowed : Bool) (result : Except Failure Unit) (s : Service)
    (steps : Reply (List Value)) (ls : Labels) :
    Reply (List (String × Value) × Service × Labels) :=
  match result with
  | .error .overflow => .error (failureReply .overflow)
  | _ =>
    let (ls, load) := ls.relabel (loadAnswer result s)
    match result with
    | .error _ => .ok ([("load", load)], s, ls)
    | .ok () => do
      let (answers, s', ls') := runSteps faultsAllowed s ls (← steps)
      pure ([("load", load), ("steps", .arr answers)], s', ls')

def runService (faultsAllowed : Bool) (s : Service) (policy : DeletionPolicy)
    (steps : Reply (List Value)) (ls : Labels) :
    Reply (List (String × Value) × Service × Labels) :=
  let (result, s) := s.load
  afterLoad faultsAllowed result { s with policy := policy } steps ls

def registryMember (req : Value) : String :=
  match req.get? "registry" with
  | some (.str r) => r
  | _ => "static"

/-- `session {providers, registry?, autoBootstrap?, policy?, seed?, legacy?, steps}`: the legacy
file is imported first, then the seed rules are stored, and only then are the providers, the
registry and the policy read; the steps are read once the service has loaded. -/
def sessionRequest (req : Value) : Reply Value := do
  let (migrated, st) := match req.get? "legacy" with
    | none => (none, ({} : Store))
    | some v =>
      let (result, st) := ({} : Store).importLegacy (.ofText (legacyFile (some v))) clockStart
      (some (match importAnswer result with
        | .ok n => okReply n
        | .error e => e), st)
  let seeds ← match req.get? "seed" with
    | none | some .null => pure []
    | some _ => ruleArgs (← listMember req "seed" "rules must be an array")
  let st ← seedStore st seeds
  let providers ← providersMember req
  let registryName := registryMember req
  let (registry, st) ← if registryName = "static" then pure (Registry.fixed providers, st)
    else if registryName = "sqlite" then
      pure (Registry.stored, providers.foldl Store.putProvider st)
    else throw (badRequest ("unknown registry " ++ registryName))
  let policy ← policyMember req
  let s : Service := { store := st, registry := registry, autoBootstrap := autoBootstrapMember req }
  let steps := listMember req "steps" "steps must be an array"
  let (fields, _, ls) ← runService true s policy steps []
  pure (ls.replaceKnown (Value.record (match migrated with
    | some m => ("migrated", m) :: fields
    | none => fields)))

end ProviderRouting.Requests
