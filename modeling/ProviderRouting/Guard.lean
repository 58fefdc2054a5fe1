import ProviderRouting.Rule.Input
import ProviderRouting.Provider.Basic
import ProviderRouting.Error

/-!
# Edit guards

A `Guard` holds the rules and providers an edit is checked against. Every check runs before any
write, so a refused edit changes nothing.

A candidate rule (a new rule, or a rule with a patch made) passes when

* its pattern is not blank (`validatePattern`),
* a generic path rule does not claim the OpenAI or Anthropic namespace (`checkNamespace`),
* it is not a second default of its group: a locked pattern already held by another locked rule
  of the group, and
* its provider is known.

A locked rule keeps its pattern and scope: a patch that would change either is refused before
anything else. Locked rules cannot be deleted or duplicated, and a rule is duplicated only
while its provider is known.
-/

namespace ProviderRouting

open ProviderRouting.Text

def validatePattern (pattern : String) : Except RouterError Unit :=
  if isAllBlank pattern then .error (.invalidPattern pattern) else .ok ()

def checkNamespace (group : Group) (kind : RuleKind) (pattern : String) :
    Except RouterError Unit :=
  if group = .generic ∧ kind = .path ∧ reservedPrefixes.any (fun pre => pattern.startsWith pre)
  then .error (.namespaceCollision pattern)
  else .ok ()

/-- The rules and providers an edit is checked against. -/
structure Guard where
  rules : List Rule
  providers : List Provider

namespace Guard

def checkProvider (g : Guard) (id : String) : Except RouterError Unit :=
  if g.providers.any (·.id == id) then .ok () else .error (.unknownProvider id)

def heldDefault (g : Guard) (group : Group) (pattern : String) (exclude : Option String) :
    Option Rule :=
  g.rules.find? fun r =>
    some r.id != exclude && r.group == group && r.locked && r.pattern == pattern

def checkCandidate (g : Guard) (group : Group) (kind : RuleKind) (provider pattern : String)
    (exclude : Option String) : Except RouterError Unit := do
  validatePattern pattern
  let p := trimBlank pattern
  checkNamespace group kind p
  if isProtected kind p then
    if let some held := g.heldDefault group p exclude then
      throw (.locked held.id .createDefault)
  g.checkProvider provider

def checkCreate (g : Guard) (n : NewRule) : Except RouterError Unit :=
  g.checkCandidate n.group n.kind n.provider n.pattern none

def checkUpdate (g : Guard) (r : Rule) (p : Patch) : Except RouterError Rule := do
  if r.locked then
    if let some pat := p.pattern then
      if trimBlank pat != r.pattern then throw (.locked r.id .editPattern)
    if p.kind.any (· != r.kind) || p.group.any (· != r.group) then
      throw (.locked r.id .editScope)
  let c := p.apply r
  g.checkCandidate c.group c.kind c.provider c.pattern (some r.id)
  pure c

def checkDelete (r : Rule) : Except RouterError Unit :=
  if r.locked then .error (.locked r.id .delete) else .ok ()

def checkDuplicate (g : Guard) (r : Rule) : Except RouterError Unit :=
  if r.locked then .error (.locked r.id .duplicate) else g.checkProvider r.provider

end Guard

end ProviderRouting
