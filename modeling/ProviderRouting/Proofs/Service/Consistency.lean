import ProviderRouting.Proofs.Service.Reachable

/-!
# What a reachable service shows its callers

Two consequences of the service invariant, read in the terms a caller sees. A group holds at
most one path rule of each catch-all pattern, among the cached rules and among the stored rows
alike; and the rules the service lists are, field for field, the rules its store reads back.
-/

namespace ProviderRouting

/-! ## One default per group and pattern -/

@[simp] theorem Row.ofRule_group (r : Rule) : (Row.ofRule r).group = r.group.name := rfl

@[simp] theorem Row.ofRule_kind (r : Rule) : (Row.ofRule r).kind = r.kind.name := rfl

@[simp] theorem Row.ofRule_pattern (r : Rule) : (Row.ofRule r).pattern = r.pattern := rfl

@[simp] theorem Group.name_beq (a b : Group) : (a.name == b.name) = (a == b) := by
  cases a <;> cases b <;> decide

@[simp] theorem RuleKind.name_beq (a b : RuleKind) : (a.name == b.name) = (a == b) := by
  cases a <;> cases b <;> decide

theorem length_le_one_of_pairwise {α : Type} {R : α → α → Prop} :
    ∀ {l : List α}, l.Pairwise R → (∀ a ∈ l, ∀ b ∈ l, ¬R a b) → l.length ≤ 1
  | [], _, _ | [_], _, _ => by simp
  | a :: b :: _, h, hn =>
    absurd (List.rel_of_pairwise_cons h List.mem_cons_self)
      (hn a List.mem_cons_self b (List.mem_cons_of_mem _ List.mem_cons_self))

theorem Rule.locked_of_path {r : Rule} {p : String} (hp : p ∈ protectedPatterns)
    (hk : r.kind = .path) (hpat : r.pattern = p) : r.locked = true := by
  simp [Rule.locked, isProtected, hk, hpat, hp]

theorem OneDefault.length_filter_le {rules : List Rule} (h : OneDefault rules) (g : Group)
    {p : String} (hp : p ∈ protectedPatterns) :
    (rules.filter fun r => r.group == g && r.kind == .path && r.pattern == p).length ≤ 1 := by
  refine length_le_one_of_pairwise (h.filter _) fun a ha b hb hab => ?_
  simp only [List.mem_filter, Bool.and_eq_true, beq_iff_eq] at ha hb
  obtain ⟨-, ⟨hag, hak⟩, hap⟩ := ha
  obtain ⟨-, ⟨hbg, hbk⟩, hbp⟩ := hb
  -- two such rules would be two locked defaults of one group and pattern
  exact hab (Rule.locked_of_path hp hak hap) (Rule.locked_of_path hp hbk hbp) (hag.trans hbg.symm)
    (hap.trans hbp.symm)

theorem Mirrors.length_filter {st : Store} {rules : List Rule} (h : Mirrors st rules)
    (q : Row → Bool) : (st.rules.filter q).length = (rules.filter (q ∘ Row.ofRule)).length := by
  rw [(h.filter q).length_eq, List.filter_map, List.length_map]

/-- In every reachable service a group has at most one path rule of each catch-all pattern, in
the cache and among the stored rows. -/
theorem reachable_one_default_each {s : Service} (h : Reachable s) (g : Group) {p : String}
    (hp : p ∈ protectedPatterns) :
    (s.cache.filter fun r => r.group == g && r.kind == .path && r.pattern == p).length ≤ 1 ∧
      (s.store.rules.filter fun w =>
        w.group == g.name && w.kind == RuleKind.path.name && w.pattern == p).length ≤ 1 := by
  have hs := h.sound
  have hcache := hs.oneDefault.length_filter_le g hp
  refine ⟨hcache, ?_⟩
  rw [hs.mirrors.length_filter]
  simpa only [Function.comp_def, Row.ofRule_group, Row.ofRule_kind, Row.ofRule_pattern,
    Group.name_beq, RuleKind.name_beq] using hcache

/-- The service loaded from an empty store with one provider, which makes both defaults. -/
theorem loaded_one_default_each :
    let s : Service :=
      ({ store := {}, registry := .fixed [{ id := "p1", name := "p1" }] } : Service).load.2
    Reachable s ∧
      ((s.cache.filter fun r =>
          r.group == .openai && r.kind == .path && r.pattern == "/api/openai/*").length ≤ 1 ∧
        (s.store.rules.filter fun w => w.group == Group.openai.name &&
          w.kind == RuleKind.path.name && w.pattern == "/api/openai/*").length ≤ 1) :=
  have h := Reachable.load (by decide) (by decide +kernel)
  ⟨h, reachable_one_default_each h .openai (by decide)⟩

/-! ## The listing is what the store holds -/

theorem list_none_run (s : Service) :
    (list none).run.run s = (.ok (s.cache.mergeSort listsBefore), s) := by
  simp [list, snapshot]
  rfl

/-- In every reachable service, whatever the operations before returned, the rules the service
lists are, field for field, the rules its store reads back. -/
theorem reachable_listing_matches_store {s : Service} (h : Reachable s) :
    ∃ listed stored, ((list none).run.run s).1 = .ok listed ∧ s.store.allRules = .ok stored ∧
      listed.Perm stored := by
  obtain ⟨stored, hread, hperm, -⟩ := h.sound.mirrors.allRules
  refine ⟨_, stored, by rw [list_none_run], hread, ?_⟩
  exact (List.mergeSort_perm _ _).trans hperm.symm

theorem loaded_listing_matches_store :
    let s : Service :=
      ({ store := {}, registry := .fixed [{ id := "p1", name := "p1" }] } : Service).load.2
    Reachable s ∧ ∃ listed stored, ((list none).run.run s).1 = .ok listed ∧
      s.store.allRules = .ok stored ∧ listed.Perm stored :=
  have h := Reachable.load (by decide) (by decide +kernel)
  ⟨h, reachable_listing_matches_store h⟩

end ProviderRouting
