import ProviderRouting.Rule.Basic
import ProviderRouting.Text.Blank

/-!
# Inputs that make and change rules

A `NewRule` describes a rule to create: everything but its id, priority and times, and where in
its scope it goes (`Position`). A `Patch` lists the fields to change on an existing rule; a field
left out keeps the rule's value. A `DefaultEdit` is the narrower edit allowed on a group's
default rule.

`Patch.apply` is the one place a patch meets a rule: the pattern is stored without surrounding
blanks, and a rewrite that is blank through and through clears the rewrite while any other is
kept exactly as given. Priority and times are never touched by a patch.
-/

namespace ProviderRouting

open ProviderRouting.Text

/-- Where a new rule goes in its scope: after every other rule, or just before a given one. -/
inductive Position where
  | last
  | before (ruleId : String)
  deriving Repr, DecidableEq, Inhabited

/-- A rule to create. -/
structure NewRule where
  kind : RuleKind := .model
  group : Group := .generic
  provider : String
  pattern : String
  rewrite : Option String := none
  enabled : Bool := true
  position : Position := .last
  deriving Repr, DecidableEq

def NewRule.scope (n : NewRule) : Scope := ⟨n.group, n.kind⟩

/-- Changes to a rule; a field that is `none` is left as it is. -/
structure Patch where
  kind : Option RuleKind := none
  group : Option Group := none
  provider : Option String := none
  pattern : Option String := none
  rewrite : Option String := none
  enabled : Option Bool := none
  deriving Repr, DecidableEq

def Patch.rewriteOn (p : Patch) (old : Option String) : Option String :=
  match p.rewrite with
  | none => old
  | some s => if isAllBlank s then none else some s

def Patch.apply (p : Patch) (r : Rule) : Rule :=
  { r with
    kind := p.kind.getD r.kind
    group := p.group.getD r.group
    provider := p.provider.getD r.provider
    pattern := match p.pattern with
      | some s => trimBlank s
      | none => r.pattern
    rewrite := p.rewriteOn r.rewrite
    enabled := p.enabled.getD r.enabled }

/-- An edit of a default rule: its provider and whether it is enabled. -/
structure DefaultEdit where
  provider : Option String := none
  enabled : Option Bool := none
  deriving Repr, DecidableEq

@[simp] theorem Patch.apply_priority (p : Patch) (r : Rule) : (p.apply r).priority = r.priority :=
  rfl

@[simp] theorem Patch.apply_id (p : Patch) (r : Rule) : (p.apply r).id = r.id := rfl

end ProviderRouting
