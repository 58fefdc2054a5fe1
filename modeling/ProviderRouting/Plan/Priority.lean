import ProviderRouting.Rule.Basic
import ProviderRouting.Error
import ProviderRouting.Sort

/-!
# Priorities within a scope

Priorities are compared only between rules of one scope, lower first. Four plans place rules:

* `nextPriority`: a new or copied rule goes one past the largest priority of its scope.
* `planReorder`: listed rules take, in the order listed, the smallest priorities of their scope
  that unlisted rules do not hold. Locked rules are skipped, an id listed twice counts once,
  and an unknown id refuses the whole plan.
* `planInsertBefore`: a rule put before an anchor takes the anchor's priority; the anchor and
  the unlocked rules after it move up one at a time, stepping over priorities that locked rules
  hold, until a gap absorbs the shift.
* `planTieBreak`: where rules of a scope share a priority, one keeps it (a locked one first,
  then the oldest, then the smallest id) and the others go past the end of the scope.

Each plan is a list of `Assignment`s, applied by `applyAssignments`. Priorities are 32-bit: a
step past the largest stops the plan with `Failure.overflow`.
-/

namespace ProviderRouting

open ProviderRouting.Time

/-- A new priority for a rule, and when it was given. -/
structure Assignment where
  id : String
  priority : Int
  stamp : Instant
  deriving Repr, DecidableEq

def stepUp (p : Int) : Except Failure Int :=
  match Priority.succ? p with
  | some q => .ok q
  | none => .error .overflow

def scopePriorities (rules : List Rule) (s : Scope) : List Int :=
  (rules.filter (·.scope == s)).map (·.priority)

def nextPriority (rules : List Rule) (s : Scope) : Except Failure Int :=
  stepUp (((scopePriorities rules s).max?).getD 0)

/-! ## Reordering -/

/-- The first value after `slot` not in `held`; `fuel` values are tried before the last one is
taken, which is enough when `fuel` is the length of `held`. -/
def freeAfter (held : List Int) : Nat → Int → Int
  | 0, slot => slot + 1
  | fuel + 1, slot => if slot + 1 ∈ held then freeAfter held fuel (slot + 1) else slot + 1

def reorderListed (rules : List Rule) : List String → List String →
    Except RouterError (List Rule)
  | _, [] => .ok []
  | seen, id :: ids =>
    if id ∈ seen then reorderListed rules seen ids
    else
      match rules.find? (·.id == id) with
      | none => .error (.notFound id)
      | some r => do
        let rest ← reorderListed rules (id :: seen) ids
        pure (if r.locked then rest else r :: rest)

def scopesInOrder (rules : List Rule) : List Scope :=
  rules.foldl (fun acc r => if r.scope ∈ acc then acc else acc ++ [r.scope]) []

def assignSlots (held : List Int) (now : Instant) : Int → List Rule → List Assignment
  | _, [] => []
  | slot, r :: rs =>
    let s := freeAfter held held.length slot
    ⟨r.id, s, now⟩ :: assignSlots held now s rs

def planReorder (rules : List Rule) (ids : List String) (now : Instant) :
    Except RouterError (List Assignment) := do
  let listed ← reorderListed rules [] ids
  let listedIds := listed.map (·.id)
  pure <| (scopesInOrder listed).flatMap fun s =>
    let held := (rules.filter fun r => r.scope == s && !(r.id ∈ listedIds)).map (·.priority)
    assignSlots held now 0 (listed.filter (·.scope == s))

/-! ## Insertion before an anchor -/

def skipHeld (held : List Int) : Nat → Int → Except Failure Int
  | 0, p => .ok p
  | fuel + 1, p => if p ∈ held then do skipHeld held fuel (← stepUp p) else .ok p

def shiftUp (held : List Int) (now : Instant) :
    Int → List Rule → Except Failure (List Assignment)
  | _, [] => .ok []
  | cursor, r :: rs => do
    let next ← skipHeld held held.length (← stepUp cursor)
    if next ≤ r.priority then pure []
    else
      let rest ← shiftUp held now next rs
      pure (⟨r.id, next, now⟩ :: rest)

def planInsertBefore (rules : List Rule) (s : Scope) (anchor : String) (now : Instant) :
    Except Failure (Int × List Assignment) := do
  let some a := rules.find? (fun r => r.id == anchor && r.scope == s)
    | throw (.error (.notFound anchor))
  if a.locked then throw (.error (.locked anchor .reorder))
  let held := ((rules.filter fun r => r.scope == s && r.locked).map (·.priority))
  let later := (rules.filter fun r => r.scope == s && !r.locked && a.priority ≤ r.priority)
    |>.mergeSort fun x y => x.priority ≤ y.priority
  pure (a.priority, ← shiftUp held now a.priority later)

/-! ## Breaking ties -/

def keepsFirst (a b : Rule) : Bool :=
  if a.priority ≠ b.priority then a.priority < b.priority
  else if a.locked ≠ b.locked then a.locked
  else match compare a.createdAt b.createdAt with
    | .lt => true
    | .gt => false
    | .eq => a.id ≤ b.id

def pushTies (now : Instant) : List Int → Int → List Rule → Except Failure (List Assignment)
  | _, _, [] => .ok []
  | seen, top, r :: rs =>
    if r.priority ∈ seen then do
      let top' ← stepUp top
      let rest ← pushTies now seen top' rs
      pure (⟨r.id, top', now⟩ :: rest)
    else pushTies now (r.priority :: seen) top rs

def planTieBreak (rules : List Rule) (now : Instant) : Except Failure (List Assignment) :=
  (scopesInOrder rules).flatMapM fun s =>
    let part := stableSort (rules.filter (·.scope == s)) keepsFirst
    pushTies now [] ((part.map (·.priority)).max?.getD 0) part

/-! ## Applying a plan -/

def applyAssignment (a : Assignment) : List Rule → List Rule
  | [] => []
  | r :: rs =>
    if r.id = a.id then { r with priority := a.priority, updatedAt := a.stamp } :: rs
    else r :: applyAssignment a rs

def applyAssignments (rules : List Rule) (plan : List Assignment) : List Rule :=
  plan.foldl (fun acc a => applyAssignment a acc) rules

end ProviderRouting
