import ProviderRouting.Time.Instant

/-!
# Rules

A routing rule sends the requests it matches to a provider. Its `kind` says what the pattern is
matched against (the request path or the model name) and its `group` which API surface it
serves. Rules of one group and kind form a partition, its `Scope`; priorities order rules within
a scope only, lower first.

Scopes are ordered by group (OpenAI, Anthropic, generic) and then by kind (path before model).

A rule is *locked* when it is a path rule whose pattern is one of the three catch-alls
`/api/openai/*`, `/api/anthropic/*` and `/api/*`: these are the defaults that keep every request
routable, and editing guards protect them.

A priority is a 32-bit signed integer: `Priority.succ?` refuses to step past the largest one.
-/

namespace ProviderRouting

open ProviderRouting.Time

/-- What a rule's pattern is matched against. -/
inductive RuleKind where
  | path
  | model
  deriving Repr, DecidableEq, Inhabited

/-- The API surface a request belongs to. -/
inductive Group where
  | openai
  | anthropic
  | generic
  deriving Repr, DecidableEq, Inhabited

def RuleKind.name : RuleKind → String
  | .path => "path"
  | .model => "model"

def Group.name : Group → String
  | .openai => "openai"
  | .anthropic => "anthropic"
  | .generic => "generic"

def RuleKind.ofName? (s : String) : Option RuleKind :=
  if s = "path" then some .path else if s = "model" then some .model else none

def Group.ofName? (s : String) : Option Group :=
  if s = "openai" then some .openai
  else if s = "anthropic" then some .anthropic
  else if s = "generic" then some .generic
  else none

def RuleKind.rank : RuleKind → Nat
  | .path => 0
  | .model => 1

def Group.rank : Group → Nat
  | .openai => 0
  | .anthropic => 1
  | .generic => 2

def Group.catchAll : Group → String
  | .openai => "/api/openai/*"
  | .anthropic => "/api/anthropic/*"
  | .generic => "/api/*"

/-- A partition of rules: one group and one kind. -/
structure Scope where
  group : Group
  kind : RuleKind
  deriving Repr, DecidableEq, Inhabited

def Scope.rank (s : Scope) : Nat := s.group.rank * 2 + s.kind.rank

def Scope.name (s : Scope) : String := s.group.name ++ "/" ++ s.kind.name

def Scope.all : List Scope :=
  [⟨.openai, .path⟩, ⟨.openai, .model⟩, ⟨.anthropic, .path⟩, ⟨.anthropic, .model⟩,
    ⟨.generic, .path⟩, ⟨.generic, .model⟩]

def protectedPatterns : List String := ["/api/openai/*", "/api/anthropic/*", "/api/*"]

def reservedPrefixes : List String := ["/api/openai", "/api/anthropic"]

def isProtected (k : RuleKind) (pattern : String) : Bool :=
  k == .path && protectedPatterns.contains pattern

def isUnder (path pre : String) : Bool :=
  pre.toList.isPrefixOf path.toList &&
    match path.toList.drop pre.length with
    | [] => true
    | c :: _ => c = '/'

def Group.ofPath (path : String) : Group :=
  if isUnder path "/api/openai" then .openai
  else if isUnder path "/api/anthropic" then .anthropic
  else .generic

def Priority.max : Int := 2147483647

def Priority.min : Int := -2147483648

def Priority.succ? (p : Int) : Option Int :=
  if p < Priority.max then some (p + 1) else none

/-- A routing rule. -/
structure Rule where
  id : String
  kind : RuleKind
  group : Group
  provider : String
  pattern : String
  rewrite : Option String
  priority : Int
  enabled : Bool
  createdAt : Instant
  updatedAt : Instant
  deriving Repr, DecidableEq, Inhabited

def Rule.scope (r : Rule) : Scope := ⟨r.group, r.kind⟩

def Rule.locked (r : Rule) : Bool := isProtected r.kind r.pattern

end ProviderRouting
