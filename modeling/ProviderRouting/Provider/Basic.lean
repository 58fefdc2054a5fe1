import ProviderRouting.Rule.Basic

/-!
# Providers and their removal

A provider is known to the router by its id; its name, its place in a listing and the second it
was made are carried along. When a provider goes away its rules are either dropped with it
(`cascade`) or kept and flagged as dangling (`flag`). A `Removal` names the provider and the
rules to drop, a `Report` says what became of each affected rule, and an `Event` is what a
provider registry announces: a provider added, or one removed.
-/

namespace ProviderRouting

/-- A provider as the router sees it. -/
structure Provider where
  id : String
  name : String
  sortIndex : Option Int := none
  createdAt : Option Int := none
  deriving Repr, DecidableEq, Inhabited

/-- What happens to the rules of a removed provider. -/
inductive DeletionPolicy where
  | cascade
  | flag
  deriving Repr, DecidableEq, Inhabited

def DeletionPolicy.name : DeletionPolicy → String
  | .cascade => "cascade"
  | .flag => "flag"

/-- A provider's removal, with the rules to drop along with it. -/
structure Removal where
  provider : String
  rulesToDrop : List String := []
  deriving Repr, DecidableEq

/-- What became of the rules of a removed provider. -/
structure Report where
  dropped : List String := []
  reassigned : List String := []
  dangling : List String := []
  deriving Repr, DecidableEq

/-- A change in the set of providers. -/
inductive Event where
  | added (provider : String)
  | deleted (removal : Removal)
  deriving Repr, DecidableEq

end ProviderRouting
