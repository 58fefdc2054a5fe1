import ProviderRouting.Plan.Priority
import ProviderRouting.Provider.Basic

/-!
# Default rules

The OpenAI and Anthropic groups each need a locked catch-all path rule, so that every request of
the group is routable. `planBootstrap` lists the defaults that are missing, each sent to the
first provider at the end of its scope; with a default missing and no provider at all it is
refused. When nothing is missing it plans nothing, whatever the providers.
-/

namespace ProviderRouting

open ProviderRouting.Time

def bootstrapGroups : List Group := [.openai, .anthropic]

def hasDefault (rules : List Rule) (g : Group) : Bool :=
  rules.any fun r => r.group == g && r.locked && r.pattern == g.catchAll

def missingDefaults (rules : List Rule) : List Group :=
  bootstrapGroups.filter fun g => !hasDefault rules g

/-- A default rule to create: its group's catch-all path, a provider and a priority. -/
structure DefaultPlan where
  group : Group
  provider : String
  priority : Int
  deriving Repr, DecidableEq

def DefaultPlan.toRule (p : DefaultPlan) (id : String) (now : Instant) : Rule :=
  { id := id, kind := .path, group := p.group, provider := p.provider,
    pattern := p.group.catchAll, rewrite := none, priority := p.priority, enabled := true,
    createdAt := now, updatedAt := now }

def planBootstrap (rules : List Rule) (providers : List Provider) :
    Except Failure (List DefaultPlan) :=
  match missingDefaults rules with
  | [] => .ok []
  | missing =>
    match providers with
    | [] => .error (.error .noProviderAvailable)
    | p :: _ => missing.mapM fun g => do
      pure ⟨g, p.id, ← nextPriority rules ⟨g, .path⟩⟩

end ProviderRouting
