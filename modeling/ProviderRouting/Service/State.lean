import ProviderRouting.Store.Table
import ProviderRouting.Plan.Priority

/-!
# The router service's state

A `Service` holds the store, where providers are listed from, the cache of rules that answers
reads, whether default rules are made on load, the deletion policy, the store calls set to fail,
and two counters: the clock and the ids handed out.

Service operations run in `ServiceM`: a failure stops the operation but keeps what it had
already written, since the writes before it happened.

The store calls (`listRules`, `createRule`, `updateRule`, `deleteRule`, `reorderRules`) run in
`StoreM` and fail with a store error. With `Faults.all` set every one of them fails before
touching the store, and with `Faults.create` set so does `createRule`; `Faults.queue` sets the
outcomes of the next calls one by one, so that a failure can be put at any single call.
`reorderRules` writes all its assignments or, when one names no rule, none.

A caller's provider list is always read. The store's provider table is read through the
database connection, which can fail (a poisoned lock, a failed query): `Faults.registry` is the
error such a read gives, and an operation that reads the providers then stops with it.
-/

namespace ProviderRouting

open ProviderRouting.Time

/-- Store calls set to fail: every call, every `createRule`, the next calls whose queued
outcome is `true`, and reads of the store's provider table. -/
structure Faults where
  all : Bool := false
  create : Bool := false
  queue : List Bool := []
  registry : Option StoreError := none
  deriving Repr, DecidableEq

/-- Where the service lists providers from. -/
inductive Registry where
  | fixed (providers : List Provider)
  | stored
  deriving Repr

/-- The state of a router service. -/
structure Service where
  store : Store
  registry : Registry
  cache : List Rule := []
  autoBootstrap : Bool := true
  policy : DeletionPolicy := .cascade
  faults : Faults := {}
  clock : Nat := 0
  minted : Nat := 0
  deriving Repr

abbrev ServiceM := ExceptT Failure (StateM Service)

abbrev StoreM := ExceptT StoreError (StateM Service)

def StoreM.lift {α : Type} (m : StoreM α) : ServiceM α :=
  ExceptT.mk do
    match ← m.run with
    | .ok a => pure (.ok a)
    | .error e => pure (.error (.error (.storage e)))

def refuse {α : Type} (r : Except RouterError α) : ServiceM α :=
  match r with
  | .ok a => pure a
  | .error e => throw (.error e)

def planned {α : Type} (r : Except Failure α) : ServiceM α :=
  match r with
  | .ok a => pure a
  | .error e => throw e

/-! ## Clock and ids -/

def clockStart : Int := 1794528000

def clockInstant (n : Nat) : Instant := ⟨clockStart + (n / 1000 : Nat), (n % 1000) * 1000000⟩

def now : ServiceM Instant := do
  let s ← get
  set { s with clock := s.clock + 1 }
  pure (clockInstant (s.clock + 1))

def paddedHex (width n : Nat) : String :=
  let ds := Nat.toDigits 16 (n % Nat.pow 16 width)
  String.ofList (List.replicate (width - ds.length) '0' ++ ds)

/-- A 64-bit mixing function (the finaliser of SplitMix64): consecutive inputs give outputs
that share no visible pattern, so ids made from a counter look random. -/
def mix64 (x : Nat) : Nat :=
  let m := Nat.pow 2 64
  let z := (x * 0x9E3779B97F4A7C15 + 0x9E3779B97F4A7C15) % m
  let z := ((z ^^^ (z >>> 30)) * 0xBF58476D1CE4E5B9) % m
  let z := ((z ^^^ (z >>> 27)) * 0x94D049BB133111EB) % m
  z ^^^ (z >>> 31)

/-- The id of the `n`th rule the service makes: a version 4 UUID whose random bits come from
mixing the counter. -/
def mintedId (n : Nat) : String :=
  let hi := mix64 (2 * n)
  let lo := mix64 (2 * n + 1)
  paddedHex 8 (hi >>> 32) ++ "-" ++ paddedHex 4 (hi >>> 16) ++ "-4" ++ paddedHex 3 hi ++ "-" ++
    paddedHex 4 (0x8000 + (lo >>> 50) % 0x4000) ++ "-" ++ paddedHex 12 lo

def freshId : ServiceM String := do
  let s ← get
  set { s with minted := s.minted + 1 }
  pure (mintedId (s.minted + 1))

/-! ## Store calls -/

def injected : StoreError := .backend "injected failure"

def checkFaults (createCall : Bool) : StoreM Unit := do
  let s ← get
  let f := s.faults
  set { s with faults := { f with queue := f.queue.tail } }
  if f.queue.head? = some true || f.all || (createCall && f.create) then throw injected

def listRules : StoreM (List Rule) := do
  checkFaults false
  match (← get).store.allRules with
  | .ok rs => pure rs
  | .error e => throw e

def createRule (r : Rule) : StoreM Rule := do
  checkFaults true
  let s ← get
  match s.store.insertRule r with
  | .ok st => set { s with store := st }; pure r
  | .error e => throw e

def updateRule (id : String) (r : Rule) : StoreM Rule := do
  checkFaults false
  let s ← get
  let (st, n) := s.store.updateRule id r
  set { s with store := st }
  if n = 0 then throw (.missingRecord id)
  match st.ruleById id with
  | .ok (some r') => pure r'
  | .ok none => throw (.missingRecord id)
  | .error e => throw e

def deleteRule (id : String) : StoreM Unit := do
  checkFaults false
  let s ← get
  let (st, n) := s.store.deleteRule id
  if n = 0 then throw (.missingRecord id)
  set { s with store := st }

def writeAssignments : Store → List Assignment → Except StoreError Store
  | st, [] => .ok st
  | st, a :: rest =>
    let (st', n) := st.updatePriority a.id a.priority a.stamp
    if n = 0 then .error (.missingRecord a.id) else writeAssignments st' rest

def reorderRules (plan : List Assignment) : StoreM Unit := do
  checkFaults false
  let s ← get
  match writeAssignments s.store plan with
  | .ok st => set { s with store := st }
  | .error e => throw e

/-! ## Providers and the cache -/

def Service.readProviders (s : Service) : Except StoreError (List Provider) :=
  match s.registry, s.faults.registry with
  | .fixed ps, _ => .ok ps
  | .stored, some e => .error e
  | .stored, none => .ok s.store.listProviders

def listProviders : ServiceM (List Provider) := do
  match (← get).readProviders with
  | .ok ps => pure ps
  | .error e => throw (.error (.storage e))

def snapshot : ServiceM (List Rule) := do pure (← get).cache

def setCache (rules : List Rule) : ServiceM Unit :=
  modify fun s => { s with cache := rules }

def findIn (rules : List Rule) (id : String) : ServiceM Rule :=
  match rules.find? (·.id == id) with
  | some r => pure r
  | none => throw (.error (.notFound id))

def replaceFirst (r : Rule) : List Rule → List Rule
  | [] => []
  | x :: xs => if x.id = r.id then r :: xs else x :: replaceFirst r xs

def persistUpdate (r : Rule) : ServiceM Rule := do
  let u ← (updateRule r.id r).lift
  setCache (replaceFirst u (← snapshot))
  pure u

def persistDelete (id : String) : ServiceM Unit := do
  (deleteRule id).lift
  setCache ((← snapshot).filter (·.id != id))

def persistAssignments (plan : List Assignment) : ServiceM Unit := do
  (reorderRules plan).lift
  setCache (applyAssignments (← snapshot) plan)

def persistCreate (r : Rule) : ServiceM Rule := do
  let c ← (createRule r).lift
  setCache ((← snapshot) ++ [c])
  pure c

end ProviderRouting
