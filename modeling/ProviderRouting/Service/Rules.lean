import ProviderRouting.Service.State
import ProviderRouting.Guard
import ProviderRouting.Plan.Bootstrap
import ProviderRouting.Route.Table

/-!
# Operations on rules

Every write is checked against the cached rules and the listed providers first (see `Guard`),
then stored, then reflected in the cache, so the cache always holds what the store was last told.

`reload` rebuilds the cache from the store. On the way it settles two kinds of inconsistency a
store may hold: a second locked default for the same group and pattern is deleted (the oldest,
then the smallest id, stays), and rules of one scope that share a priority are renumbered (see
`planTieBreak`). With `autoBootstrap` it then creates the missing default rules; having no
provider to send them to is not an error there.

A rule created before an anchor shifts later rules up first; if storing the new rule then fails,
the shifted rules get their old priorities back, as far as the store allows.
-/

namespace ProviderRouting

open ProviderRouting.Text

/-! ## Reading -/

def listsBefore (a b : Rule) : Bool :=
  if a.scope.rank ≠ b.scope.rank then a.scope.rank < b.scope.rank
  else if a.priority ≠ b.priority then a.priority < b.priority
  else compare a.createdAt b.createdAt != .gt

def list (scope : Option Scope) : ServiceM (List Rule) := do
  let rs := (← snapshot).filter fun r => scope.all (r.scope == ·)
  pure (rs.mergeSort listsBefore)

def getRule (id : String) : ServiceM Rule := do findIn (← snapshot) id

def routeTable : ServiceM RouteTable := do pure (RouteTable.ofRules (← snapshot))

def isDefaultOf (g : Group) (r : Rule) : Bool :=
  r.group == g && r.kind == .path && r.pattern == g.catchAll

def defaultRule (g : Group) : ServiceM (Option Rule) := do
  pure ((← snapshot).find? (isDefaultOf g))

/-! ## Loading -/

/-- The locked rules to delete so that each group and locked pattern keeps one rule: the oldest,
then the one with the smallest id. -/
def duplicateDefaults (rules : List Rule) : List String :=
  let step := fun (acc : List ((Group × String) × Rule) × List String) (r : Rule) =>
    let (kept, dropped) := acc
    let key := (r.group, r.pattern)
    match kept.lookup key with
    | none => (kept ++ [(key, r)], dropped)
    | some cur =>
      let curFirst := match compare cur.createdAt r.createdAt with
        | .lt => true
        | .gt => false
        | .eq => cur.id ≤ r.id
      if curFirst then (kept, dropped ++ [r.id])
      else (kept.map fun (k, x) => if k = key then (k, r) else (k, x), dropped ++ [cur.id])
  ((rules.filter (·.locked)).foldl step ([], [])).2

def dropDefaults :
    List String → List Rule → StateM Service (List Rule × Except StoreError Unit)
  | [], rules => pure (rules, .ok ())
  | id :: ids, rules => do
    match ← (deleteRule id).run with
    | .error e => pure (rules, .error e)
    | .ok () => dropDefaults ids (rules.filter (·.id != id))

/-- Renumbers rules that share a priority, giving the rules and how it ended. A priority past
the 32-bit range stops the operation outright. -/
def renumberTies (rules : List Rule) : ServiceM (List Rule × Except Failure Unit) := do
  let plan ← planned (planTieBreak rules (← now))
  if plan.isEmpty then return (rules, .ok ())
  match ← (reorderRules plan).run with
  | .error e => pure (rules, .error (.error (.storage e)))
  | .ok () => pure (applyAssignments rules plan, .ok ())

def bootstrap : ServiceM (List Rule) := do
  let snap ← snapshot
  let plan ← planned (planBootstrap snap (← listProviders))
  plan.mapM fun p => do
    let id ← freshId
    persistCreate (p.toRule id (← now))

def unlessNoProvider {α : Type} (m : ServiceM α) : ServiceM Unit :=
  tryCatch (do discard m) fun
    | .error .noProviderAvailable => pure ()
    | e => throw e

def reload : ServiceM Unit := do
  let rules ← listRules.lift
  let (rules, dropped) ← (dropDefaults (duplicateDefaults rules) rules : StateM Service _)
  let (rules, result) ← match dropped with
    | .error e => pure (rules, .error (.error (.storage e)))
    | .ok () => renumberTies rules
  setCache rules
  planned result
  if (← get).autoBootstrap then unlessNoProvider bootstrap

/-! ## Writing -/

def originalPriorities (snap : List Rule) (shifted : List Assignment) : List Assignment :=
  shifted.filterMap fun a =>
    (snap.find? (·.id == a.id)).map fun r => ⟨r.id, r.priority, r.updatedAt⟩

def placeNew (snap : List Rule) (n : NewRule) (t : Time.Instant) :
    Except Failure (Int × List Assignment) :=
  match n.position with
  | .last => do pure (← nextPriority snap n.scope, [])
  | .before anchor => planInsertBefore snap n.scope anchor t

def storeNew (snap : List Rule) (rule : Rule) (shifted : List Assignment) : ServiceM Rule := do
  if !shifted.isEmpty then persistAssignments shifted
  tryCatch (persistCreate rule) fun e => do
    if !shifted.isEmpty then
      tryCatch (persistAssignments (originalPriorities snap shifted)) fun _ => pure ()
    throw e

def create (n : NewRule) : ServiceM Rule := do
  let snap ← snapshot
  refuse (Guard.checkCreate ⟨snap, ← listProviders⟩ n)
  let (priority, shifted) ← planned (placeNew snap n (← now))
  let id ← freshId
  let t ← now
  storeNew snap {
    id := id, kind := n.kind, group := n.group, provider := n.provider,
    pattern := trimBlank n.pattern, rewrite := n.rewrite.filter (!isAllBlank ·),
    priority := priority, enabled := n.enabled, createdAt := t, updatedAt := t } shifted

def update (id : String) (p : Patch) : ServiceM Rule := do
  let snap ← snapshot
  let existing ← findIn snap id
  let c ← refuse (Guard.checkUpdate ⟨snap, ← listProviders⟩ existing p)
  let c ← if c.scope = existing.scope then pure c
    else pure { c with priority := ← planned (nextPriority snap c.scope) }
  persistUpdate { c with updatedAt := ← now }

def delete (id : String) : ServiceM Unit := do
  let existing ← findIn (← snapshot) id
  refuse (Guard.checkDelete existing)
  persistDelete id

def duplicate (id : String) : ServiceM Rule := do
  let snap ← snapshot
  let source ← findIn snap id
  refuse (Guard.checkDuplicate ⟨snap, ← listProviders⟩ source)
  let priority ← planned (nextPriority snap source.scope)
  let id' ← freshId
  let t ← now
  persistCreate { source with
    id := id', priority := priority, enabled := true, createdAt := t, updatedAt := t }

def reorder (ids : List String) : ServiceM Unit := do
  let plan ← refuse (planReorder (← snapshot) ids (← now))
  if !plan.isEmpty then persistAssignments plan

def setDefault (g : Group) (edit : DefaultEdit) : ServiceM Rule := do
  let snap ← snapshot
  let some rule := snap.find? (isDefaultOf g) | throw (.error (.notFound g.catchAll))
  let rule ← match edit.provider with
    | some p => do
      refuse (Guard.checkProvider ⟨snap, ← listProviders⟩ p)
      pure { rule with provider := p }
    | none => pure rule
  let rule := { rule with enabled := edit.enabled.getD rule.enabled }
  persistUpdate { rule with updatedAt := ← now }

def Service.load (s : Service) : Except Failure Unit × Service := (reload.run).run s

end ProviderRouting
