import ProviderRouting.Service.Rules

/-!
# Following the provider registry

When a provider goes away, `planRemoval` names the rules to drop under a deletion policy (all of
the provider's rules under `cascade`, none under `flag`) and `applyRemoval` carries it out: a
locked default is handed to the first other listed provider when there is one, and every other
named rule is deleted. Names of rules that do not exist, or that were named before, are passed
over. The report then lists the rules left pointing at the removed provider or at no listed
provider.

Registry events arrive through a channel that keeps only the newest `capacity` events, rounded up
to a power of two; a listener that fell behind reloads before handling what is left. Errors
while following events are dropped: the next event or reload is the remedy.
-/

namespace ProviderRouting

def planRemoval (provider : String) (policy : DeletionPolicy) : ServiceM Removal := do
  match policy with
  | .cascade =>
    pure ⟨provider, ((← snapshot).filter (·.provider == provider)).map (·.id)⟩
  | .flag => pure ⟨provider, []⟩

def removeOne (fallback : Option Provider) (snap : List Rule) (report : Report) (id : String) :
    ServiceM Report := do
  match snap.find? (·.id == id) with
  | none => pure report
  | some rule =>
    match fallback with
    | some p =>
      if rule.locked then
        let r ← persistUpdate { rule with provider := p.id, updatedAt := ← now }
        return { report with reassigned := report.reassigned ++ [r.id] }
      persistDelete id
      pure { report with dropped := report.dropped ++ [id] }
    | none =>
      persistDelete id
      pure { report with dropped := report.dropped ++ [id] }

def applyRemoval (removal : Removal) : ServiceM Report := do
  let snap ← snapshot
  let providers ← listProviders
  let fallback := providers.find? (·.id != removal.provider)
  let named := removal.rulesToDrop.foldl (fun acc id => if id ∈ acc then acc else acc ++ [id]) []
  let report ← named.foldlM (removeOne fallback snap) {}
  let dangling := (← snapshot).filter fun r =>
    r.provider == removal.provider || !providers.any (·.id == r.provider)
  pure { report with dangling := dangling.map (·.id) }

def reconcile (provider : String) : ServiceM Report := do
  applyRemoval (← planRemoval provider (← get).policy)

def danglingRules : ServiceM (List Rule) := do
  let providers ← listProviders
  pure ((← list none).filter fun r => !providers.any (·.id == r.provider))

def handleEvent : Event → ServiceM Unit
  | .added _ => unlessNoProvider bootstrap
  | .deleted r => discard (applyRemoval r)

def powerOfTwoAtLeast (n : Nat) : Nat := go n 1
where
  go : Nat → Nat → Nat
    | 0, p => p
    | fuel + 1, p => if n ≤ p then p else go fuel (2 * p)

def quietly {α : Type} (m : ServiceM α) : ServiceM Unit :=
  tryCatch (discard m) fun _ => pure ()

def watch (capacity : Nat) (events : List Event) : ServiceM Unit := do
  let cap := powerOfTwoAtLeast capacity
  if cap < events.length then quietly reload
  (events.drop (events.length - cap)).forM fun e => quietly (handleEvent e)

end ProviderRouting
