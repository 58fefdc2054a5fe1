import ProviderRouting.Proofs.Service.Defaults
import Mathlib.Data.String.Basic
import Mathlib.Data.Prod.Lex

/-!
# The default a load keeps

A store may hold several locked rules of one group and pattern. A load keeps, of each such
class, the rule made first (by creation instant, then by id) and deletes the others; it keeps
every unlocked rule. `duplicateDefaults` finds the ids to delete in one pass that holds a running
first rule per class, whatever order the store reads the rules in. `filter_duplicateDefaults`
says the rules left are exactly those `loadKeeps` describes, and `existsUnique_loadKeeps` that
each class keeps one.
-/

namespace ProviderRouting

/-! ## Creation order -/

namespace Time.Instant

def key (a : Instant) : Lex (Int × Nat) := toLex (a.secs, a.nanos)

theorem key_injective : Function.Injective key := by
  intro a b h
  obtain ⟨hs, hn⟩ := Prod.mk.inj (toLex.injective h)
  cases a
  cases b
  congr

theorem compare_eq_lt {a b : Instant} : Ord.compare a b = .lt ↔ a.key < b.key := by
  rw [key, key, Prod.Lex.toLex_lt_toLex]
  show Instant.compare a b = .lt ↔ _
  unfold Instant.compare
  rcases lt_trichotomy a.secs b.secs with h | h | h
  · simp [Int.compare_eq_lt.2 h, h]
  · simp [h, Nat.compare_eq_lt]
  · simp [Int.compare_eq_gt.2 h, h.ne', not_lt.2 h.le]

theorem compare_eq_eq {a b : Instant} : Ord.compare a b = .eq ↔ a = b := by
  rw [← key_injective.eq_iff, key, key, toLex_inj, Prod.mk.injEq]
  show Instant.compare a b = .eq ↔ _
  unfold Instant.compare
  rcases lt_trichotomy a.secs b.secs with h | h | h
  · simp [Int.compare_eq_lt.2 h, h.ne]
  · simp [h]
  · simp [Int.compare_eq_gt.2 h, h.ne']

end Time.Instant

def Rule.MadeFirst (a b : Rule) : Prop :=
  compare a.createdAt b.createdAt = .lt ∨ a.createdAt = b.createdAt ∧ a.id ≤ b.id

instance : DecidableRel Rule.MadeFirst := fun _ _ => inferInstanceAs (Decidable (_ ∨ _))

def Rule.madeKey (r : Rule) : Lex (Lex (Int × Nat) × String) := toLex (r.createdAt.key, r.id)

theorem Rule.madeFirst_iff {a b : Rule} : a.MadeFirst b ↔ a.madeKey ≤ b.madeKey := by
  rw [Rule.MadeFirst, Rule.madeKey, Rule.madeKey, Prod.Lex.toLex_le_toLex,
    Time.Instant.compare_eq_lt, Time.Instant.key_injective.eq_iff]

theorem Rule.MadeFirst.refl (a : Rule) : a.MadeFirst a := Rule.madeFirst_iff.2 le_rfl

theorem Rule.MadeFirst.trans {a b c : Rule} (hab : a.MadeFirst b) (hbc : b.MadeFirst c) :
    a.MadeFirst c :=
  Rule.madeFirst_iff.2 ((Rule.madeFirst_iff.1 hab).trans (Rule.madeFirst_iff.1 hbc))

theorem Rule.MadeFirst.total (a b : Rule) : a.MadeFirst b ∨ b.MadeFirst a := by
  rw [Rule.madeFirst_iff, Rule.madeFirst_iff]
  exact le_total _ _

theorem Rule.MadeFirst.id_eq {a b : Rule} (hab : a.MadeFirst b) (hba : b.MadeFirst a) :
    a.id = b.id :=
  congrArg Prod.snd (toLex.injective (le_antisymm (Rule.madeFirst_iff.1 hab)
    (Rule.madeFirst_iff.1 hba)))

theorem Rule.MadeFirst.of_compare_lt {a b : Rule} (h : compare a.createdAt b.createdAt = .lt) :
    a.MadeFirst b := .inl h

theorem Rule.not_madeFirst_of_compare_gt {a b : Rule}
    (h : compare a.createdAt b.createdAt = .gt) : ¬a.MadeFirst b := by
  rintro (hl | ⟨he, -⟩)
  · rw [h] at hl
    cases hl
  · rw [he, Time.Instant.compare_eq_eq.2 rfl] at h
    cases h

theorem Rule.madeFirst_iff_of_compare_eq {a b : Rule}
    (h : compare a.createdAt b.createdAt = .eq) : a.MadeFirst b ↔ a.id ≤ b.id := by
  rw [Rule.MadeFirst, h, Time.Instant.compare_eq_eq.1 h]
  simp

/-! ## The pass over the locked rules -/

theorem dedupStep_eq_of_some {kept : List ((Group × String) × Rule)} {dropped : List String}
    {r cur : Rule} (hl : kept.lookup (r.group, r.pattern) = some cur) :
    dedupStep (kept, dropped) r = if cur.MadeFirst r then (kept, dropped ++ [r.id]) else
      (kept.map fun (k, x) => if k = (r.group, r.pattern) then (k, r) else (k, x),
        dropped ++ [cur.id]) := by
  unfold dedupStep
  dsimp only
  rw [hl]
  dsimp only
  -- the comparison made is `MadeFirst`, read off the order of the creation instants
  split
  · rename_i h
    rw [if_pos rfl, if_pos (Rule.MadeFirst.of_compare_lt h)]
  · rename_i h
    rw [if_neg Bool.false_ne_true, if_neg (Rule.not_madeFirst_of_compare_gt h)]
  · rename_i h
    simp only [decide_eq_true_eq, Rule.madeFirst_iff_of_compare_eq h]

/-- What `duplicateDefaults` knows of the order of the locked rules `seen` it has read: the rule
it holds for a group and pattern is one of them, made first among those of its group and
pattern; every group and pattern read has a rule held; and every id dropped is of a rule read
with one of its group and pattern made before it. -/
structure DedupOrder (seen : List Rule) (acc : List ((Group × String) × Rule) × List String) :
    Prop where
  mem : ∀ k x, (k, x) ∈ acc.1 → x ∈ seen
  first : ∀ k x, (k, x) ∈ acc.1 → ∀ y ∈ seen, (y.group, y.pattern) = k → x.MadeFirst y
  covers : ∀ y ∈ seen, ∃ x, ((y.group, y.pattern), x) ∈ acc.1
  beaten : ∀ d ∈ acc.2, ∃ y ∈ seen, y.id = d ∧
    ∃ z ∈ seen, z.group = y.group ∧ z.pattern = y.pattern ∧ ¬y.MadeFirst z

theorem dedupOrder_nil : DedupOrder [] ([], []) :=
  ⟨by simp, by simp, by simp, by simp⟩

section Step

variable {seen : List Rule} {kept : List ((Group × String) × Rule)} {dropped : List String}
  {r cur : Rule}

theorem DedupOrder.beaten_append {acc : List ((Group × String) × Rule) × List String}
    (h : DedupOrder seen acc) {d : String} (hd : d ∈ acc.2) : ∃ y ∈ seen ++ [r], y.id = d ∧
      ∃ z ∈ seen ++ [r], z.group = y.group ∧ z.pattern = y.pattern ∧ ¬y.MadeFirst z := by
  obtain ⟨y, hy, hid, z, hz, hg, hp, hnf⟩ := h.beaten d hd
  exact ⟨y, List.mem_append_left _ hy, hid, z, List.mem_append_left _ hz, hg, hp, hnf⟩

theorem DedupOrder.step_none (h : DedupOrder seen (kept, dropped))
    (hl : kept.lookup (r.group, r.pattern) = none) :
    DedupOrder (seen ++ [r]) (kept ++ [((r.group, r.pattern), r)], dropped) := by
  have hfresh : ∀ x, ((r.group, r.pattern), x) ∉ kept := fun x hx => by
    simpa using List.lookup_eq_none_iff.1 hl _ hx
  refine ⟨fun k x hx => ?_, fun k x hx y hy hk => ?_, fun y hy => ?_, fun d hd => ?_⟩
  · rcases List.mem_append.1 hx with hx | hx
    · exact List.mem_append_left _ (h.mem k x hx)
    · obtain ⟨-, rfl⟩ := Prod.mk.inj (List.mem_singleton.1 hx)
      exact List.mem_append_right _ (List.mem_singleton_self _)
  · rcases List.mem_append.1 hx with hx | hx <;> rcases List.mem_append.1 hy with hy | hy
    · exact h.first k x hx y hy hk
    · rw [List.mem_singleton.1 hy] at hk
      exact absurd (hk ▸ hx) (hfresh x)
    · -- no rule read before had the group and pattern of `r`
      obtain ⟨z, hz⟩ := h.covers y hy
      obtain ⟨rfl, rfl⟩ := Prod.mk.inj (List.mem_singleton.1 hx)
      exact absurd (hk ▸ hz) (hfresh z)
    · obtain ⟨-, rfl⟩ := Prod.mk.inj (List.mem_singleton.1 hx)
      rw [List.mem_singleton.1 hy]
      exact Rule.MadeFirst.refl _
  · rcases List.mem_append.1 hy with hy | hy
    · obtain ⟨x, hx⟩ := h.covers y hy
      exact ⟨x, List.mem_append_left _ hx⟩
    · rw [List.mem_singleton.1 hy]
      exact ⟨r, List.mem_append_right _ (List.mem_singleton_self _)⟩
  · exact h.beaten_append hd

theorem DedupOrder.step_keep (hi : DedupInv seen (kept, dropped))
    (h : DedupOrder seen (kept, dropped)) (hr : ∀ y ∈ seen, y.id ≠ r.id)
    (hcur : ((r.group, r.pattern), cur) ∈ kept) (hf : cur.MadeFirst r) :
    DedupOrder (seen ++ [r]) (kept, dropped ++ [r.id]) := by
  have hcs : cur ∈ seen := h.mem _ _ hcur
  obtain ⟨hg, hp⟩ := Prod.mk.inj (hi.key _ _ hcur)
  refine ⟨fun k x hx => List.mem_append_left _ (h.mem k x hx), fun k x hx y hy hk => ?_,
    fun y hy => ?_, fun d hd => ?_⟩
  · rcases List.mem_append.1 hy with hy | hy
    · exact h.first k x hx y hy hk
    · rw [List.mem_singleton.1 hy] at hk ⊢
      rw [← hk] at hx
      rw [hi.eq hx hcur]
      exact hf
  · rcases List.mem_append.1 hy with hy | hy
    · exact h.covers y hy
    · rw [List.mem_singleton.1 hy]
      exact ⟨cur, hcur⟩
  · rcases List.mem_append.1 hd with hd | hd
    · exact h.beaten_append hd
    · -- the held rule was made strictly first: both ways would give `r` its id
      rw [List.mem_singleton.1 hd]
      refine ⟨r, List.mem_append_right _ (List.mem_singleton_self _), rfl, cur,
        List.mem_append_left _ hcs, hg.symm, hp.symm, fun hrf => hr cur hcs ?_⟩
      exact hf.id_eq hrf

theorem DedupOrder.step_replace (hi : DedupInv seen (kept, dropped))
    (h : DedupOrder seen (kept, dropped)) (hcur : ((r.group, r.pattern), cur) ∈ kept)
    (hf : ¬cur.MadeFirst r) :
    DedupOrder (seen ++ [r])
      (kept.map fun (k, x) => if k = (r.group, r.pattern) then (k, r) else (k, x),
        dropped ++ [cur.id]) := by
  have hcs : cur ∈ seen := h.mem _ _ hcur
  obtain ⟨hg, hp⟩ := Prod.mk.inj (hi.key _ _ hcur)
  have hrc : r.MadeFirst cur := (Rule.MadeFirst.total cur r).resolve_left hf
  have hr : ((r.group, r.pattern), r) ∈
      kept.map fun (k, x) => if k = (r.group, r.pattern) then (k, r) else (k, x) :=
    mem_hold_iff.2 (.inl ⟨rfl, rfl, cur, hcur⟩)
  refine ⟨fun k x hx => ?_, fun k x hx y hy hk => ?_, fun y hy => ?_, fun d hd => ?_⟩
  · rcases mem_hold_iff.1 hx with ⟨-, rfl, -⟩ | ⟨-, hx⟩
    · exact List.mem_append_right _ (List.mem_singleton_self _)
    · exact List.mem_append_left _ (h.mem k x hx)
  · rcases mem_hold_iff.1 hx with ⟨rfl, rfl, -⟩ | ⟨hne, hx⟩
    · -- `r` comes before the rule it replaces, which came before every other of its class
      rcases List.mem_append.1 hy with hy | hy
      · exact hrc.trans (h.first _ _ hcur y hy hk)
      · rw [List.mem_singleton.1 hy]
        exact Rule.MadeFirst.refl _
    · rcases List.mem_append.1 hy with hy | hy
      · exact h.first k x hx y hy hk
      · rw [List.mem_singleton.1 hy] at hk
        exact absurd hk.symm hne
  · rcases List.mem_append.1 hy with hy | hy
    · obtain ⟨x, hx⟩ := h.covers y hy
      by_cases hk : (y.group, y.pattern) = (r.group, r.pattern)
      · exact ⟨r, hk ▸ hr⟩
      · exact ⟨x, mem_hold_iff.2 (.inr ⟨hk, hx⟩)⟩
    · rw [List.mem_singleton.1 hy]
      exact ⟨r, hr⟩
  · rcases List.mem_append.1 hd with hd | hd
    · exact h.beaten_append hd
    · rw [List.mem_singleton.1 hd]
      exact ⟨cur, List.mem_append_left _ hcs, rfl, r,
        List.mem_append_right _ (List.mem_singleton_self _), hg, hp, hf⟩

theorem dedupOrder_step {acc : List ((Group × String) × Rule) × List String}
    (hi : DedupInv seen acc) (h : DedupOrder seen acc) (hr : ∀ y ∈ seen, y.id ≠ r.id) :
    DedupOrder (seen ++ [r]) (dedupStep acc r) := by
  obtain ⟨kept, dropped⟩ := acc
  -- a class not read before, a rule made after the one held, a rule made before it
  cases hl : kept.lookup (r.group, r.pattern) with
  | none =>
    rw [dedupStep_of_none hl]
    exact h.step_none hl
  | some cur =>
    obtain ⟨l₁, l₂, hsplit, -⟩ := List.lookup_eq_some_iff.1 hl
    have hcur : ((r.group, r.pattern), cur) ∈ kept :=
      hsplit ▸ List.mem_append_right _ List.mem_cons_self
    rw [dedupStep_eq_of_some hl]
    split_ifs with hf
    · exact h.step_keep hi hr hcur hf
    · exact h.step_replace hi hcur hf

end Step

theorem dedupOrder_foldl :
    ∀ (rs seen : List Rule) (acc : List ((Group × String) × Rule) × List String),
    Keyed (seen ++ rs) → DedupInv seen acc → DedupOrder seen acc →
      DedupOrder (seen ++ rs) (rs.foldl dedupStep acc)
  | [], seen, acc, _, _, h => by simpa using h
  | r :: rs, seen, acc, hk, hi, h => by
    have hr : ∀ y ∈ seen, y.id ≠ r.id := fun y hy => by
      have hn := hk
      unfold Keyed at hn
      rw [List.map_append, List.nodup_append] at hn
      exact hn.2.2 _ (List.mem_map_of_mem hy) _ (List.mem_map_of_mem List.mem_cons_self)
    have e : seen ++ r :: rs = (seen ++ [r]) ++ rs := by simp
    rw [List.foldl_cons]
    rw [e] at hk ⊢
    exact dedupOrder_foldl rs _ _ hk (dedupInv_step hi r) (dedupOrder_step hi h hr)

/-! ## The rules a load keeps -/

def Eldest (rules : List Rule) (x : Rule) : Prop :=
  ∀ y ∈ rules, y.locked = true → y.group = x.group → y.pattern = x.pattern → x.MadeFirst y

instance (rules : List Rule) (x : Rule) : Decidable (Eldest rules x) :=
  inferInstanceAs (Decidable (∀ y ∈ rules, _))

def loadKeeps (rules : List Rule) : List Rule :=
  rules.filter fun x => !x.locked || decide (Eldest rules x)

@[simp] theorem mem_loadKeeps {rules : List Rule} {x : Rule} :
    x ∈ loadKeeps rules ↔ x ∈ rules ∧ (x.locked = true → Eldest rules x) := by
  unfold loadKeeps
  rw [List.mem_filter]
  cases x.locked <;> simp

theorem dedup_read_all {rules : List Rule} (hk : Keyed rules) :
    DedupInv (rules.filter (·.locked)) ((rules.filter (·.locked)).foldl dedupStep ([], [])) ∧
      DedupOrder (rules.filter (·.locked))
        ((rules.filter (·.locked)).foldl dedupStep ([], [])) := by
  have hinv := dedupInv_foldl (rules.filter (·.locked)) [] ([], []) ⟨List.nodup_nil, by simp,
    by simp⟩
  have hord := dedupOrder_foldl (rules.filter (·.locked)) [] ([], [])
    (by simpa using hk.sublist List.filter_sublist) ⟨List.nodup_nil, by simp, by simp⟩
    dedupOrder_nil
  rw [List.nil_append] at hinv hord
  exact ⟨hinv, hord⟩

theorem mem_duplicateDefaults_iff {rules : List Rule} (hk : Keyed rules) {x : Rule}
    (hx : x ∈ rules) :
    x.id ∈ duplicateDefaults rules ↔ x.locked = true ∧ ¬Eldest rules x := by
  obtain ⟨hi, h⟩ := dedup_read_all hk
  rw [duplicateDefaults_eq]
  constructor
  · intro hd
    obtain ⟨y, hy, hid, z, hz, hg, hp, hnf⟩ := h.beaten _ hd
    obtain ⟨hyr, hyl⟩ := List.mem_filter.1 hy
    obtain ⟨hzr, hzl⟩ := List.mem_filter.1 hz
    obtain rfl := hk.eq_of_id hyr hx hid
    exact ⟨hyl, fun he => hnf (he z hzr hzl hg hp)⟩
  · rintro ⟨hl, hne⟩
    by_contra hd
    have hheld := hi.kept x (List.mem_filter.2 ⟨hx, hl⟩) hd
    exact hne fun y hy hyl hg hp =>
      h.first _ _ hheld y (List.mem_filter.2 ⟨hy, hyl⟩) (by rw [hg, hp])

theorem filter_duplicateDefaults {rules : List Rule} (hk : Keyed rules) :
    rules.filter (fun r => r.id ∉ duplicateDefaults rules) = loadKeeps rules := by
  refine List.filter_congr fun x hx => ?_
  simp only [mem_duplicateDefaults_iff hk hx]
  cases x.locked <;> simp

theorem existsUnique_loadKeeps {rules : List Rule} (hk : Keyed rules) {x : Rule} (hx : x ∈ rules)
    (hl : x.locked = true) :
    ∃! y, y ∈ loadKeeps rules ∧ y.locked = true ∧ y.group = x.group ∧
      y.pattern = x.pattern := by
  obtain ⟨hi, h⟩ := dedup_read_all hk
  obtain ⟨y, hy⟩ := h.covers x (List.mem_filter.2 ⟨hx, hl⟩)
  obtain ⟨hg, hp⟩ := Prod.mk.inj (hi.key _ _ hy)
  obtain ⟨hyr, hyl⟩ := List.mem_filter.1 (h.mem _ _ hy)
  have hfirst : Eldest rules y := fun z hz hzl hzg hzp =>
    h.first _ _ hy z (List.mem_filter.2 ⟨hz, hzl⟩) (by rw [hzg, hzp, hg, hp])
  refine ⟨y, ⟨mem_loadKeeps.2 ⟨hyr, fun _ => hfirst⟩, hyl, hg.symm, hp.symm⟩, ?_⟩
  rintro z ⟨hz, hzl, hzg, hzp⟩
  obtain ⟨hzr, hzfirst⟩ := mem_loadKeeps.1 hz
  have hzy := hzfirst hzl y hyr hyl (by rw [← hg, hzg]) (by rw [← hp, hzp])
  have hyz := hfirst z hzr hzl (by rw [← hg, hzg]) (by rw [← hp, hzp])
  exact hk.eq_of_id hzr hyr (hzy.id_eq hyz)

end ProviderRouting
