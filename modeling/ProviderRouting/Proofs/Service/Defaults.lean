import ProviderRouting.Proofs.Plan.Apart
import ProviderRouting.Service.Rules
import Mathlib.Tactic.SplitIfs

/-!
# One default per group and pattern

`OneDefault rules`: no two locked rules share a group and a pattern. Loading drops every locked
rule of a group and pattern but one (`oneDefault_filter_duplicateDefaults`) and finds nothing to
drop once that holds (`duplicateDefaults_eq_nil`); the guards refuse a second default, and
bootstrapping creates only the defaults that are missing, one per group.
-/

namespace ProviderRouting

open ProviderRouting.Text

def DefaultsApart (a b : Rule) : Prop :=
  a.locked = true → b.locked = true → a.group = b.group → a.pattern ≠ b.pattern

instance : Std.Symm DefaultsApart := ⟨fun _ _ h ha hb hg hp => h hb ha hg.symm hp.symm⟩

def OneDefault (rules : List Rule) : Prop := rules.Pairwise DefaultsApart

/-! ## Dropping duplicate defaults -/

def dedupStep (acc : List ((Group × String) × Rule) × List String) (r : Rule) :
    List ((Group × String) × Rule) × List String :=
  let (kept, dropped) := acc
  let key := (r.group, r.pattern)
  match kept.lookup key with
  | none => (kept ++ [(key, r)], dropped)
  | some cur =>
    let curFirst := match compare cur.createdAt r.createdAt with
      | .lt => true
      | .gt => false
      | .eq => cur.id ≤ r.id
    if curFirst then (kept, dropped ++ [r.id])
    else (kept.map fun (k, x) => if k = key then (k, r) else (k, x), dropped ++ [cur.id])

theorem duplicateDefaults_eq (rules : List Rule) :
    duplicateDefaults rules = ((rules.filter (·.locked)).foldl dedupStep ([], [])).2 := rfl

/-- What `duplicateDefaults` knows once it has read the rules `seen`: one kept rule per group and
pattern, and every rule read and not dropped is the kept one of its group and pattern. -/
structure DedupInv (seen : List Rule) (acc : List ((Group × String) × Rule) × List String) :
    Prop where
  nodup : (acc.1.map (·.1)).Nodup
  key : ∀ k x, (k, x) ∈ acc.1 → k = (x.group, x.pattern)
  kept : ∀ x ∈ seen, x.id ∉ acc.2 → ((x.group, x.pattern), x) ∈ acc.1

theorem DedupInv.eq {seen : List Rule} {acc : List ((Group × String) × Rule) × List String}
    (h : DedupInv seen acc) {k : Group × String} {x y : Rule} (hx : (k, x) ∈ acc.1)
    (hy : (k, y) ∈ acc.1) : x = y :=
  congrArg Prod.snd (List.inj_on_of_nodup_map h.nodup hx hy rfl)

theorem dedupStep_of_none {kept : List ((Group × String) × Rule)} {dropped : List String}
    {r : Rule} (hl : kept.lookup (r.group, r.pattern) = none) :
    dedupStep (kept, dropped) r = (kept ++ [((r.group, r.pattern), r)], dropped) := by
  unfold dedupStep
  dsimp only
  rw [hl]

theorem dedupStep_of_some {kept : List ((Group × String) × Rule)} {dropped : List String}
    {r cur : Rule} (hl : kept.lookup (r.group, r.pattern) = some cur) :
    dedupStep (kept, dropped) r = (kept, dropped ++ [r.id]) ∨
      dedupStep (kept, dropped) r = (kept.map fun (k, x) =>
        if k = (r.group, r.pattern) then (k, r) else (k, x), dropped ++ [cur.id]) := by
  unfold dedupStep
  dsimp only
  rw [hl]
  dsimp only
  split_ifs
  exacts [Or.inl rfl, Or.inr rfl]

theorem mem_hold_iff {kept : List ((Group × String) × Rule)} {key k : Group × String}
    {r x : Rule} :
    (k, x) ∈ kept.map (fun (k, x) => if k = key then (k, r) else (k, x)) ↔
      (k = key ∧ x = r ∧ ∃ y, (key, y) ∈ kept) ∨ (k ≠ key ∧ (k, x) ∈ kept) := by
  constructor
  · intro h
    obtain ⟨⟨k', x'⟩, hp, e⟩ := List.mem_map.1 h
    dsimp only at e
    split at e
    · rename_i hk
      obtain ⟨rfl, rfl⟩ := Prod.mk.inj e
      exact .inl ⟨hk, rfl, x', hk ▸ hp⟩
    · rename_i hk
      obtain ⟨rfl, rfl⟩ := Prod.mk.inj e
      exact .inr ⟨hk, hp⟩
  · rintro (⟨rfl, rfl, y, hy⟩ | ⟨hk, hp⟩)
    · exact List.mem_map.2 ⟨(k, y), hy, by simp⟩
    · exact List.mem_map.2 ⟨(k, x), hp, by simp [hk]⟩

section Step

variable {seen : List Rule} {kept : List ((Group × String) × Rule)} {dropped : List String}
  {r cur : Rule}

theorem DedupInv.step_none (h : DedupInv seen (kept, dropped))
    (hl : kept.lookup (r.group, r.pattern) = none) :
    DedupInv (seen ++ [r]) (kept ++ [((r.group, r.pattern), r)], dropped) := by
  have hfresh : (r.group, r.pattern) ∉ kept.map (·.1) := fun hm => by
    obtain ⟨p, hp, e⟩ := List.mem_map.1 hm
    have := List.lookup_eq_none_iff.1 hl p hp
    simp [e] at this
  refine ⟨?_, fun k x hkx => ?_, fun x hx hxd => ?_⟩
  · rw [List.map_append, List.map_singleton]
    exact List.nodup_append.2 ⟨h.nodup, List.nodup_singleton _, fun a ha b hb e => by
      rw [List.mem_singleton] at hb
      rw [e, hb] at ha
      exact hfresh ha⟩
  · rcases List.mem_append.1 hkx with hkx | hkx
    · exact h.key k x hkx
    · obtain ⟨rfl, rfl⟩ := Prod.mk.inj (List.mem_singleton.1 hkx)
      rfl
  · rcases List.mem_append.1 hx with hx | hx
    · exact List.mem_append_left _ (h.kept x hx hxd)
    · rw [List.mem_singleton.1 hx]
      exact List.mem_append_right _ (List.mem_singleton_self _)

theorem DedupInv.step_keep (h : DedupInv seen (kept, dropped)) :
    DedupInv (seen ++ [r]) (kept, dropped ++ [r.id]) := by
  refine ⟨h.nodup, h.key, fun x hx hxd => ?_⟩
  rcases List.mem_append.1 hx with hx | hx
  · exact h.kept x hx fun e => hxd (List.mem_append_left _ e)
  · rw [List.mem_singleton.1 hx] at hxd
    exact absurd (List.mem_append_right _ (List.mem_singleton_self _)) hxd

theorem DedupInv.step_replace (h : DedupInv seen (kept, dropped))
    (hcur : ((r.group, r.pattern), cur) ∈ kept) :
    DedupInv (seen ++ [r])
      (kept.map fun (k, x) => if k = (r.group, r.pattern) then (k, r) else (k, x),
        dropped ++ [cur.id]) := by
  refine ⟨?_, fun k x hkx => ?_, fun x hx hxd => ?_⟩
  · rw [List.map_map]
    convert h.nodup using 1
    exact List.map_congr_left fun p _ => by
      obtain ⟨k, x⟩ := p
      simp only [Function.comp_apply]
      split <;> rfl
  · rcases mem_hold_iff.1 hkx with ⟨rfl, rfl, -⟩ | ⟨-, hkx⟩
    · rfl
    · exact h.key k x hkx
  · rcases List.mem_append.1 hx with hx | hx
    · have hxk := h.kept x hx fun e => hxd (List.mem_append_left _ e)
      by_cases hk : (x.group, x.pattern) = (r.group, r.pattern)
      · -- only the replaced rule had that key, and it is dropped now
        rw [hk] at hxk
        rw [h.eq hxk hcur] at hxd
        exact absurd (List.mem_append_right _ (List.mem_singleton_self _)) hxd
      · exact mem_hold_iff.2 (.inr ⟨hk, hxk⟩)
    · rw [List.mem_singleton.1 hx]
      exact mem_hold_iff.2 (.inl ⟨rfl, rfl, cur, hcur⟩)

end Step

theorem dedupInv_step {seen : List Rule} {acc : List ((Group × String) × Rule) × List String}
    (h : DedupInv seen acc) (r : Rule) : DedupInv (seen ++ [r]) (dedupStep acc r) := by
  obtain ⟨kept, dropped⟩ := acc
  -- a key not held before, a rule made after the one held, a rule made before it
  cases hl : kept.lookup (r.group, r.pattern) with
  | none =>
    rw [dedupStep_of_none hl]
    exact h.step_none hl
  | some cur =>
    obtain ⟨l₁, l₂, hsplit, -⟩ := List.lookup_eq_some_iff.1 hl
    have hcur : ((r.group, r.pattern), cur) ∈ kept := hsplit ▸ List.mem_append_right _
      List.mem_cons_self
    rcases @dedupStep_of_some kept dropped r cur hl with e | e <;> rw [e]
    · exact h.step_keep
    · exact h.step_replace hcur

theorem dedupInv_foldl : ∀ (rs seen : List Rule) (acc : List ((Group × String) × Rule) × List String),
    DedupInv seen acc → DedupInv (seen ++ rs) (rs.foldl dedupStep acc)
  | [], seen, acc, h => by simpa using h
  | r :: rs, seen, acc, h => by
    rw [List.foldl_cons, show seen ++ r :: rs = (seen ++ [r]) ++ rs by simp]
    exact dedupInv_foldl rs _ _ (dedupInv_step h r)

theorem oneDefault_filter_duplicateDefaults {rules : List Rule} (hk : Keyed rules) :
    OneDefault (rules.filter fun r => r.id ∉ duplicateDefaults rules) := by
  have hinv := dedupInv_foldl (rules.filter (·.locked)) [] ([], []) ⟨List.nodup_nil, by simp,
    by simp⟩
  rw [List.nil_append] at hinv
  apply (hk.sublist List.filter_sublist).pairwise
  intro a ha b hb hne hal hbl hg hp
  have hmem : ∀ {x : Rule}, x ∈ rules.filter (fun r => r.id ∉ duplicateDefaults rules) →
      x.locked = true → ((x.group, x.pattern), x) ∈
        ((rules.filter (·.locked)).foldl dedupStep ([], [])).1 := fun hx hl => by
    rw [List.mem_filter] at hx
    exact hinv.kept _ (List.mem_filter.2 ⟨hx.1, hl⟩) (of_decide_eq_true hx.2)
  have ha' := hmem ha hal
  rw [hg, hp] at ha'
  exact hne (congrArg Rule.id (hinv.eq ha' (hmem hb hbl)))

theorem duplicateDefaults_eq_nil {rules : List Rule} (h : OneDefault rules) :
    duplicateDefaults rules = [] := by
  rw [duplicateDefaults_eq]
  -- every locked rule read so far is kept, under its own key
  suffices ∀ (rs : List Rule) (kept : List ((Group × String) × Rule)),
      rs.Pairwise (fun a b => (a.group, a.pattern) ≠ (b.group, b.pattern)) →
      (∀ r ∈ rs, (r.group, r.pattern) ∉ kept.map (·.1)) →
      (rs.foldl dedupStep (kept, [])).2 = [] from
    this _ [] ((List.Pairwise.sublist List.filter_sublist h).imp_of_mem fun ha hb hab e => by
      obtain ⟨hg, hp⟩ := Prod.mk.inj e
      exact hab (List.mem_filter.1 ha).2 (List.mem_filter.1 hb).2 hg hp) (by simp)
  intro rs
  induction rs with
  | nil => intro _ _ _; rfl
  | cons r rs ih =>
    intro kept hpair hfresh
    obtain ⟨hr, hpair⟩ := List.pairwise_cons.1 hpair
    have hl : kept.lookup (r.group, r.pattern) = none := List.lookup_eq_none_iff.2 fun p hp => by
      have := hfresh r List.mem_cons_self
      simp only [bne_iff_ne, ne_eq]
      exact fun e => this (e ▸ List.mem_map_of_mem hp)
    rw [List.foldl_cons]
    unfold dedupStep
    dsimp only
    rw [hl]
    refine ih _ hpair fun x hx hm => ?_
    rw [List.map_append, List.mem_append, List.map_singleton, List.mem_singleton] at hm
    rcases hm with hm | hm
    · exact hfresh x (List.mem_cons_of_mem _ hx) hm
    · exact hr x hx hm.symm

/-! ## The guards -/

theorem trimBlank_of_isProtected {k : RuleKind} {p : String} (h : isProtected k p = true) :
    trimBlank p = p := by
  have hp : p ∈ protectedPatterns := by
    simp only [isProtected, Bool.and_eq_true, List.contains_iff_mem] at h
    exact h.2
  have : ∀ q ∈ protectedPatterns, trimBlank q = q := by decide
  exact this p hp

theorem checkCandidate_no_rival {g : Guard} {group : Group} {kind : RuleKind}
    {provider pattern : String} {exclude : Option String}
    (h : g.checkCandidate group kind provider pattern exclude = .ok ())
    (hp : isProtected kind (trimBlank pattern) = true) :
    ∀ x ∈ g.rules, some x.id ≠ exclude → x.group = group → x.locked = true →
      x.pattern ≠ trimBlank pattern := by
  unfold Guard.checkCandidate at h
  obtain ⟨_, -, h⟩ := bind_eq_ok h
  obtain ⟨_, -, h⟩ := bind_eq_ok h
  dsimp only at h
  rw [if_pos hp] at h
  cases hh : g.heldDefault group (trimBlank pattern) exclude with
  | some held =>
    rw [hh] at h
    cases h
  | none =>
    intro x hx hex hg hl he
    have := List.find?_eq_none.1 hh x hx
    simp [hex, hg, hl, he] at this

theorem checkCreate_no_rival {g : Guard} {n : NewRule} (h : g.checkCreate n = .ok ())
    (hp : isProtected n.kind (trimBlank n.pattern) = true) :
    ∀ x ∈ g.rules, x.group = n.group → x.locked = true → x.pattern ≠ trimBlank n.pattern :=
  fun x hx => checkCandidate_no_rival h hp x hx (by simp)

theorem checkCandidate_defaultsApart {g : Guard} {group : Group} {kind : RuleKind}
    {provider pattern : String} {exclude : Option String}
    (h : g.checkCandidate group kind provider pattern exclude = .ok ()) {r : Rule}
    (hg : r.group = group) (hk : r.kind = kind) (hp : r.pattern = pattern) :
    ∀ x ∈ g.rules, some x.id ≠ exclude → DefaultsApart x r := by
  intro x hx hex hxl hrl hxg
  have hprot : isProtected kind pattern = true := hk ▸ hp ▸ hrl
  have htrim := trimBlank_of_isProtected hprot
  rw [hp, ← htrim]
  exact checkCandidate_no_rival h (htrim.symm ▸ hprot) x hx hex (hxg.trans hg) hxl

theorem getD_of_any_ne {α : Type} [BEq α] [LawfulBEq α] {o : Option α} {a : α}
    (h : o.any (· != a) = false) : o.getD a = a := by
  cases o with
  | none => rfl
  | some b => simpa using h

theorem checkUpdate_spec {g : Guard} {r c : Rule} {p : Patch} (h : g.checkUpdate r p = .ok c) :
    c = p.apply r ∧ g.checkCandidate c.group c.kind c.provider c.pattern (some r.id) = .ok () ∧
      (r.locked = true → c.kind = r.kind ∧ c.group = r.group ∧ c.pattern = r.pattern) := by
  unfold Guard.checkUpdate at h
  dsimp only at h
  by_cases hl : r.locked = true
  · rw [if_pos hl] at h
    cases hp : p.pattern with
    | none =>
      rw [hp] at h
      dsimp only at h
      split_ifs at h with hs
      · cases h
      obtain ⟨_, hcand, h⟩ := bind_eq_ok h
      cases Except.ok.inj h
      simp only [Bool.or_eq_true, not_or, Bool.not_eq_true] at hs
      exact ⟨rfl, hcand, fun _ => ⟨getD_of_any_ne hs.1, getD_of_any_ne hs.2, by
        simp [Patch.apply, hp]⟩⟩
    | some pat =>
      rw [hp] at h
      dsimp only at h
      by_cases he : (trimBlank pat != r.pattern) = true
      · rw [if_pos he] at h
        cases h
      rw [if_neg he] at h
      split_ifs at h with hs
      · cases h
      obtain ⟨_, hcand, h⟩ := bind_eq_ok h
      cases Except.ok.inj h
      simp only [Bool.or_eq_true, not_or, Bool.not_eq_true] at hs
      exact ⟨rfl, hcand, fun _ => ⟨getD_of_any_ne hs.1, getD_of_any_ne hs.2, by
        simpa [Patch.apply, hp] using he⟩⟩
  · rw [if_neg hl] at h
    obtain ⟨_, hcand, h⟩ := bind_eq_ok h
    cases Except.ok.inj h
    exact ⟨rfl, hcand, fun h' => absurd h' hl⟩

theorem checkDelete_unlocked {r : Rule} (h : Guard.checkDelete r = .ok ()) : r.locked = false := by
  unfold Guard.checkDelete at h
  split at h
  · cases h
  · simpa using ‹¬r.locked = true›

theorem checkDuplicate_unlocked {g : Guard} {r : Rule} (h : g.checkDuplicate r = .ok ()) :
    r.locked = false := by
  unfold Guard.checkDuplicate at h
  split at h
  · cases h
  · simpa using ‹¬r.locked = true›

theorem checkProvider_listed {g : Guard} {id : String} (h : g.checkProvider id = .ok ()) :
    ∃ p ∈ g.providers, p.id = id := by
  unfold Guard.checkProvider at h
  split at h
  · simpa using ‹g.providers.any (·.id == id) = true›
  · cases h

theorem checkCandidate_listed {g : Guard} {group : Group} {kind : RuleKind}
    {provider pattern : String} {exclude : Option String}
    (h : g.checkCandidate group kind provider pattern exclude = .ok ()) :
    ∃ p ∈ g.providers, p.id = provider := by
  unfold Guard.checkCandidate at h
  obtain ⟨_, -, h⟩ := bind_eq_ok h
  obtain ⟨_, -, h⟩ := bind_eq_ok h
  dsimp only at h
  -- the provider is checked last, once no locked rival has stopped the candidate
  split at h
  · split at h
    · cases h
    · exact checkProvider_listed h
  · exact checkProvider_listed h

theorem checkDuplicate_listed {g : Guard} {r : Rule} (h : g.checkDuplicate r = .ok ()) :
    ∃ p ∈ g.providers, p.id = r.provider := by
  unfold Guard.checkDuplicate at h
  split at h
  · cases h
  · exact checkProvider_listed h

/-! ## Bootstrapping -/

theorem mapM_eq_ok {α β ε : Type} {f : α → Except ε β} {g : β → α} {P : β → Prop}
    (hf : ∀ a b, f a = .ok b → g b = a ∧ P b) :
    ∀ {l : List α} {bs : List β}, l.mapM f = .ok bs → bs.map g = l ∧ ∀ b ∈ bs, P b
  | [], _, h => by
    cases Except.ok.inj h
    simp
  | a :: l, _, h => by
    rw [List.mapM_cons] at h
    obtain ⟨b, hb, h⟩ := bind_eq_ok h
    obtain ⟨bs, hbs, h⟩ := bind_eq_ok h
    cases Except.ok.inj h
    obtain ⟨hga, hpb⟩ := hf a b hb
    obtain ⟨hmap, hall⟩ := mapM_eq_ok hf hbs
    refine ⟨by rw [List.map_cons, hga, hmap], fun c hc => ?_⟩
    rcases List.mem_cons.1 hc with rfl | hc
    · exact hpb
    · exact hall c hc

theorem DefaultPlan.toRule_locked (d : DefaultPlan) (id : String) (now : Time.Instant) :
    (d.toRule id now).locked = true := by
  cases h : d.group <;> simp [DefaultPlan.toRule, h, Rule.locked, isProtected, Group.catchAll,
    protectedPatterns]

theorem nodup_missingDefaults (rules : List Rule) : (missingDefaults rules).Nodup :=
  List.Nodup.filter _ (by decide)

theorem mem_missingDefaults {rules : List Rule} {g : Group} (h : g ∈ missingDefaults rules) :
    hasDefault rules g = false := by
  simpa [missingDefaults] using (List.mem_filter.1 h).2

theorem planBootstrap_spec {rules : List Rule} {providers : List Provider} {plan : List DefaultPlan}
    (h : planBootstrap rules providers = .ok plan) :
    plan.map (·.group) = missingDefaults rules ∧
      ∀ d ∈ plan, nextPriority rules ⟨d.group, .path⟩ = .ok d.priority := by
  unfold planBootstrap at h
  split at h
  · rename_i hm
    cases Except.ok.inj h
    simp [hm]
  · split at h
    · cases h
    · refine mapM_eq_ok (fun g d hd => ?_) h
      obtain ⟨q, hq, hd⟩ := bind_eq_ok hd
      cases Except.ok.inj hd
      exact ⟨rfl, hq⟩

end ProviderRouting
