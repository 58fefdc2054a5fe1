import ProviderRouting.Rule.Basic
import ProviderRouting.Text.Glob

/-!
# The route table

`RouteTable.ofRules` keeps the enabled rules and files them by scope, scopes in scope order and
empty scopes left out. Within a scope, unlocked rules come before locked ones so that a
catch-all never hides a narrower rule, and then lower priority first; rules that tie keep the
order they were given in.

`RouteTable.route` answers a request of a group, with a path and maybe a model name: first the
group's model rules against the model name (when there is one), then its path rules against the
path; a group other than the generic one then tries the generic group the same way. The first
matching rule wins. Its rewrite replaces the model name, if the request named one.
-/

namespace ProviderRouting

/-- Enabled rules by scope, each scope's rules in matching order. -/
structure RouteTable where
  partitions : List (Scope × List Rule)

def matchOrder (a b : Rule) : Bool :=
  if a.locked ≠ b.locked then b.locked else a.priority ≤ b.priority

def RouteTable.ofRules (rules : List Rule) : RouteTable :=
  ⟨Scope.all.filterMap fun s =>
    match (rules.filter fun r => r.enabled && r.scope == s).mergeSort matchOrder with
    | [] => none
    | rs => some (s, rs)⟩

def RouteTable.partition (t : RouteTable) (s : Scope) : List Rule :=
  ((t.partitions.find? (·.1 == s)).map (·.2)).getD []

def RouteTable.size (t : RouteTable) : Nat :=
  t.partitions.foldl (fun n p => n + p.2.length) 0

/-- Where a request goes. -/
structure RouteHit where
  ruleId : String
  provider : String
  finalModel : Option String
  rewritten : Bool
  viaGeneric : Bool
  deriving Repr, DecidableEq

def RouteTable.matchIn (t : RouteTable) (g : Group) (path : String) (model : Option String) :
    Option Rule :=
  let byModel := match model with
    | some m => (t.partition ⟨g, .model⟩).find? fun r => Glob.accepts r.pattern m
    | none => none
  match byModel with
  | some r => some r
  | none => (t.partition ⟨g, .path⟩).find? fun r => Glob.accepts r.pattern path

def RouteTable.route (t : RouteTable) (g : Group) (path : String) (model : Option String) :
    Option RouteHit :=
  let found : Option (Rule × Bool) := match t.matchIn g path model with
    | some r => some (r, false)
    | none => if g = .generic then none else (t.matchIn .generic path model).map fun r => (r, true)
  found.map fun (r, viaGeneric) =>
    { ruleId := r.id, provider := r.provider,
      finalModel := model.map fun m => r.rewrite.getD m,
      rewritten := r.rewrite.isSome && model.isSome, viaGeneric := viaGeneric }

end ProviderRouting
