import ProviderRouting.Rule.Basic
import ProviderRouting.Provider.Basic
import ProviderRouting.Error
import ProviderRouting.Sort

/-!
# The stored tables

A `Store` is what the database holds: the rule rows, the provider rows and whether the legacy
settings file has been imported. Rows are kept in the order they were written, which is the
order that decides between rows that tie on every sorted column.

A rule row keeps its kind and group as the text written in their columns, so a damaged row can
be held; reading it back as a `Rule` fails on the first column that names no kind or group.
Rules are read in column order: group text, then kind text, then priority, then the stored text
of the creation time. Providers are read with those that have a place in the listing first, by
place, then by creation second (none first).

A provider written under an id already present replaces it and moves to the end.
-/

namespace ProviderRouting

open ProviderRouting.Time

/-- A stored rule row. -/
structure Row where
  id : String
  kind : String
  group : String
  provider : String
  pattern : String
  rewrite : Option String
  priority : Int
  enabled : Bool
  createdAt : Instant
  updatedAt : Instant
  deriving Repr, DecidableEq

def Row.ofRule (r : Rule) : Row :=
  { id := r.id, kind := r.kind.name, group := r.group.name, provider := r.provider,
    pattern := r.pattern, rewrite := r.rewrite, priority := r.priority, enabled := r.enabled,
    createdAt := r.createdAt, updatedAt := r.updatedAt }

def conversionError (column : Nat) (text : String) : StoreError :=
  .database ("Conversion error from type Text at index: " ++ toString column ++
    ", 无法识别的取值: " ++ text)

def Row.toRule (w : Row) : Except StoreError Rule := do
  let some kind := RuleKind.ofName? w.kind | throw (conversionError 1 w.kind)
  let some group := Group.ofName? w.group | throw (conversionError 2 w.group)
  pure {
    id := w.id, kind := kind, group := group, provider := w.provider,
    pattern := w.pattern, rewrite := w.rewrite, priority := w.priority, enabled := w.enabled,
    createdAt := w.createdAt, updatedAt := w.updatedAt }

@[simp] theorem Row.toRule_ofRule (r : Rule) : (Row.ofRule r).toRule = .ok r := by
  cases r with
  | mk id kind group provider pattern rewrite priority enabled createdAt updatedAt =>
    cases kind <;> cases group <;>
      simp [Row.toRule, Row.ofRule, RuleKind.ofName?, Group.ofName?, RuleKind.name,
        Group.name] <;> rfl

def Row.readsBefore (a b : Row) : Bool :=
  if a.group ≠ b.group then a.group < b.group
  else if a.kind ≠ b.kind then a.kind < b.kind
  else if a.priority ≠ b.priority then a.priority < b.priority
  else a.createdAt.stored ≤ b.createdAt.stored

def optionBefore (a b : Option Int) : Bool :=
  match a, b with
  | none, _ => true
  | some _, none => false
  | some x, some y => x ≤ y

def Provider.listsBefore (a b : Provider) : Bool :=
  if a.sortIndex.isNone ≠ b.sortIndex.isNone then a.sortIndex.isSome
  else if a.sortIndex ≠ b.sortIndex then optionBefore a.sortIndex b.sortIndex
  else optionBefore a.createdAt b.createdAt

/-- The database's tables. -/
structure Store where
  rules : List Row := []
  providers : List Provider := []
  imported : Bool := false
  deriving Repr

namespace Store

/-! ## Rules -/

def sortedRows (s : Store) : List Row := stableSort s.rules Row.readsBefore

def allRules (s : Store) : Except StoreError (List Rule) := s.sortedRows.mapM Row.toRule

def ruleById (s : Store) (id : String) : Except StoreError (Option Rule) :=
  match s.rules.find? (·.id == id) with
  | none => .ok none
  | some w => some <$> w.toRule

def insertRule (s : Store) (r : Rule) : Except StoreError Store :=
  if s.rules.any (·.id == r.id) then
    .error (.database "UNIQUE constraint failed: routing_rules.id")
  else .ok { s with rules := s.rules ++ [Row.ofRule r] }

def changeRows (s : Store) (id : String) (f : Row → Row) : Store × Nat :=
  ({ s with rules := s.rules.map fun w => if w.id = id then f w else w },
    (s.rules.filter (·.id == id)).length)

def updateRule (s : Store) (id : String) (r : Rule) : Store × Nat :=
  s.changeRows id fun w =>
    { w with
      kind := r.kind.name, group := r.group.name, provider := r.provider,
      pattern := r.pattern, rewrite := r.rewrite, priority := r.priority,
      enabled := r.enabled, updatedAt := r.updatedAt }

def updatePriority (s : Store) (id : String) (p : Int) (t : Instant) : Store × Nat :=
  s.changeRows id fun w => { w with priority := p, updatedAt := t }

def overwrite (s : Store) (id : String) (kindColumn : Bool) (text : String) : Store × Nat :=
  s.changeRows id fun w =>
    if kindColumn then { w with kind := text }
    else { w with group := text }

def deleteRule (s : Store) (id : String) : Store × Nat :=
  ({ s with rules := s.rules.filter (·.id != id) }, (s.rules.filter (·.id == id)).length)

/-! ## Providers -/

def listProviders (s : Store) : List Provider := s.providers.mergeSort Provider.listsBefore

def providerById (s : Store) (id : String) : Option Provider := s.providers.find? (·.id == id)

def putProvider (s : Store) (p : Provider) : Store :=
  { s with providers := s.providers.filter (·.id != p.id) ++ [p] }

def dropProvider (s : Store) (id : String) : Store :=
  { s with providers := s.providers.filter (·.id != id) }

end Store

end ProviderRouting
