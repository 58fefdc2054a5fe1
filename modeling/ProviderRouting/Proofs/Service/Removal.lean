import ProviderRouting.Proofs.Service.Sound
import ProviderRouting.Proofs.Service.Steps

/-!
# Removing a provider's rules

`applyRemoval` reads the cached rules and the listed providers once, then takes the named ids in
order, each once. An id of a cached rule hands the rule to the fallback provider, the first listed
provider other than the removed one, when the rule is locked and there is such a provider, and
deletes it otherwise (`removalOutcome`); an id of no rule is passed over. The report then lists
the remaining rules that point at the removed provider or at no listed provider.

`removal_drops_or_hands_over` says what every run that returns leaves (`Removed`), from a state
whose store holds the cached rules, no two with one id: under the cascade policy no rule is left
pointing at the removed provider, and under the flag policy nothing changes. A stored rule that
the cache lacks escapes the cascade (`cascade_misses_uncached_row`).
-/

namespace ProviderRouting

open Time

/-! ## What becomes of a rule -/

/-- What a removal that has taken the ids `named` makes of a cached rule: a rule not named stays;
a named locked rule goes to the fallback provider when there is one, stamped at its handover; any
other named rule goes. -/
def removalOutcome (fallback : Option Provider) (named : List String) (stamp : String → Instant)
    (r : Rule) : Option Rule :=
  if r.id ∈ named then
    match fallback with
    | some q => if r.locked then some { r with provider := q.id, updatedAt := stamp r.id } else none
    | none => none
  else some r

def handsOver (fallback : Option Provider) (r : Rule) : Bool := r.locked && fallback.isSome

section Outcome

variable {fallback : Option Provider} {named : List String} {stamp : String → Instant}
  {r x : Rule}

theorem removalOutcome_id (h : removalOutcome fallback named stamp r = some x) : x.id = r.id := by
  unfold removalOutcome at h
  split at h
  · split at h
    · split at h
      · cases h
        rfl
      · cases h
    · cases h
  · cases h
    rfl

theorem removalOutcome_of_not_mem (h : r.id ∉ named) :
    removalOutcome fallback named stamp r = some r := by
  simp [removalOutcome, h]

theorem removalOutcome_of_handsOver {q : Provider} (hn : r.id ∈ named) (hq : fallback = some q)
    (hl : r.locked = true) :
    removalOutcome fallback named stamp r =
      some { r with provider := q.id, updatedAt := stamp r.id } := by
  simp [removalOutcome, hn, hq, hl]

theorem removalOutcome_eq_none (hn : r.id ∈ named) (hh : handsOver fallback r = false) :
    removalOutcome fallback named stamp r = none := by
  unfold removalOutcome handsOver at *
  rw [if_pos hn]
  cases fallback with
  | none => rfl
  | some q => simp_all

theorem removalOutcome_append_of_ne {id : String} {stamp' : String → Instant} (h : r.id ≠ id)
    (hs : stamp' r.id = stamp r.id) :
    removalOutcome fallback (named ++ [id]) stamp' r = removalOutcome fallback named stamp r := by
  simp [removalOutcome, h, hs]

theorem filterMap_removalOutcome_nil (rules : List Rule) :
    rules.filterMap (removalOutcome fallback [] stamp) = rules := by
  induction rules with
  | nil => rfl
  | cons r rs ih => rw [List.filterMap_cons_some (removalOutcome_of_not_mem List.not_mem_nil), ih]

theorem removalOutcome_cases (h : removalOutcome fallback named stamp r = some x) :
    (r.id ∉ named ∧ x = r) ∨ ∃ q, fallback = some q ∧ x.provider = q.id := by
  by_cases hn : r.id ∈ named
  · cases fallback with
    | none => simp [removalOutcome, hn] at h
    | some q =>
      refine .inr ⟨q, rfl, ?_⟩
      by_cases hl : r.locked = true
      · simp only [removalOutcome, hn, hl, if_true, Option.some.injEq] at h
        rw [← h]
      · simp [removalOutcome, hn, hl] at h
  · exact .inl ⟨hn, by simpa [removalOutcome, hn] using h.symm⟩

theorem removalOutcome_congr {named' : List String} (h : ∀ i, i ∈ named ↔ i ∈ named') :
    removalOutcome fallback named stamp = removalOutcome fallback named' stamp := by
  funext r
  simp only [removalOutcome, h]

end Outcome

theorem keyed_filterMap {rules : List Rule} {f : Rule → Option Rule}
    (hf : ∀ r x, f r = some x → x.id = r.id) (hk : Keyed rules) : Keyed (rules.filterMap f) := by
  induction rules with
  | nil => exact List.nodup_nil
  | cons r rs ih =>
    obtain ⟨hr, hk⟩ := List.nodup_cons.1 hk
    rw [List.filterMap_cons]
    cases h : f r with
    | none => exact ih hk
    | some x =>
      refine List.nodup_cons.2 ⟨fun hx => hr ?_, ih hk⟩
      obtain ⟨y, hy, e⟩ := List.mem_map.1 hx
      obtain ⟨z, hz, hzy⟩ := List.mem_filterMap.1 hy
      have e' : y.id = x.id := e
      show r.id ∈ rs.map (·.id)
      rw [← hf r x h, ← e', hf z y hzy]
      exact List.mem_map_of_mem hz

/-! ## The loop over the named ids -/

def namedRules (snap : List Rule) (named : List String) : List Rule :=
  named.filterMap fun id => snap.find? (·.id == id)

theorem mem_namedRules {snap : List Rule} (hk : Keyed snap) {named : List String} {x : Rule} :
    x ∈ namedRules snap named ↔ x ∈ snap ∧ x.id ∈ named := by
  rw [namedRules, List.mem_filterMap]
  constructor
  · rintro ⟨id, hid, hx⟩
    have e : x.id = id := by simpa using List.find?_some hx
    exact ⟨List.mem_of_find?_eq_some hx, e ▸ hid⟩
  · rintro ⟨hx, hid⟩
    exact ⟨x.id, hid, hk.find?_eq hx⟩

theorem map_id_namedRules_sublist (snap : List Rule) :
    ∀ named : List String, ((namedRules snap named).map (·.id)).Sublist named
  | [] => .slnil
  | id :: named => by
    have ih := map_id_namedRules_sublist snap named
    rw [namedRules, List.filterMap_cons]
    cases h : snap.find? (·.id == id) with
    | none => exact ih.cons id
    | some x =>
      have e : x.id = id := by simpa using List.find?_some h
      rw [List.map_cons, e]
      exact ih.cons_cons id

/-- What holds once the ids `done` have been taken: every cached rule is as `removalOutcome` makes
it, the store holds the cached rules, and the report lists, in the order named, the rules handed
over and the rules dropped. -/
structure Handled (s : Service) (fallback : Option Provider) (done : List String) (report : Report)
    (t : Service) : Prop where
  cache : ∃ stamp, t.cache = s.cache.filterMap (removalOutcome fallback done stamp)
  mirrors : Mirrors t.store t.cache
  reassigned :
    report.reassigned = ((namedRules s.cache done).filter (handsOver fallback)).map (·.id)
  dropped :
    report.dropped = ((namedRules s.cache done).filter fun r => !handsOver fallback r).map (·.id)

section Loop

variable {s t u : Service} {fallback : Option Provider} {done : List String} {report : Report}

theorem Handled.keyed (hk : Keyed s.cache) (ht : Handled s fallback done report t) :
    Keyed t.cache := by
  obtain ⟨stamp, hc⟩ := ht.cache
  rw [hc]
  exact keyed_filterMap (fun _ _ => removalOutcome_id) hk

theorem Handled.row_eq (hk : Keyed s.cache) (ht : Handled s fallback done report t) {rule : Rule}
    (hr : rule ∈ s.cache) (hn : rule.id ∉ done) {w : Row} (hw : w ∈ t.store.rules)
    (hid : w.id = rule.id) : w = Row.ofRule rule := by
  obtain ⟨stamp, hc⟩ := ht.cache
  obtain ⟨x, hx, rfl⟩ := List.mem_map.1 (ht.mirrors.subset hw)
  rw [hc] at hx
  obtain ⟨r, hr', hrx⟩ := List.mem_filterMap.1 hx
  have e : r = rule := hk.eq_of_id hr' hr ((removalOutcome_id hrx).symm.trans hid)
  subst e
  rw [removalOutcome_of_not_mem hn] at hrx
  cases hrx
  rfl

theorem namedRules_append_of_find? {snap : List Rule} {id : String} {rule : Rule}
    (hr : snap.find? (·.id == id) = some rule) :
    namedRules snap (done ++ [id]) = namedRules snap done ++ [rule] := by
  simp [namedRules, List.filterMap_append, hr]

theorem Handled.skip {id : String} (ht : Handled s fallback done report t)
    (hr : s.cache.find? (·.id == id) = none) : Handled s fallback (done ++ [id]) report t := by
  obtain ⟨stamp, hc⟩ := ht.cache
  have hne : ∀ r ∈ s.cache, r.id ≠ id := fun r hr' e => by
    simpa [e] using List.find?_eq_none.1 hr r hr'
  have hnamed : namedRules s.cache (done ++ [id]) = namedRules s.cache done := by
    simp [namedRules, List.filterMap_append, hr]
  refine ⟨⟨stamp, hc.trans (List.filterMap_congr fun r hr' => ?_)⟩, ht.mirrors, ?_, ?_⟩
  · exact (removalOutcome_append_of_ne (hne r hr') rfl).symm
  · rw [hnamed]
    exact ht.reassigned
  · rw [hnamed]
    exact ht.dropped

theorem Handled.delete (hk : Keyed s.cache) {id : String} (hid : id ∉ done)
    (ht : Handled s fallback done report t) {rule : Rule}
    (hr : s.cache.find? (·.id == id) = some rule) (hh : handsOver fallback rule = false)
    (hus : u.store = (t.store.deleteRule id).1) (huc : u.cache = t.cache.filter (·.id != id)) :
    Handled s fallback (done ++ [id]) { report with dropped := report.dropped ++ [id] } u := by
  obtain ⟨stamp, hc⟩ := ht.cache
  have hrm := List.mem_of_find?_eq_some hr
  have hrid : rule.id = id := by simpa using List.find?_some hr
  refine ⟨⟨stamp, ?_⟩, hus ▸ huc ▸ ht.mirrors.delete id, ?_, ?_⟩
  · rw [huc, hc, List.filter_filterMap]
    refine List.filterMap_congr fun r hr' => ?_
    by_cases e : r.id = id
    · -- the rule of the id goes
      rw [hk.eq_of_id hr' hrm (e.trans hrid.symm), removalOutcome_of_not_mem (hrid ▸ hid),
        removalOutcome_eq_none (by simp [hrid]) hh]
      simp [hrid]
    · rw [removalOutcome_append_of_ne e rfl]
      cases ho : removalOutcome fallback done stamp r with
      | none => rfl
      | some x => simp [removalOutcome_id ho, e]
  · rw [namedRules_append_of_find? hr, List.filter_append, ht.reassigned]
    simp [hh]
  · rw [namedRules_append_of_find? hr, List.filter_append, ht.dropped]
    simp [hh, hrid]

theorem Handled.update (hk : Keyed s.cache) {id : String} (hid : id ∉ done)
    (ht : Handled s fallback done report t) {rule : Rule}
    (hr : s.cache.find? (·.id == id) = some rule) {q : Provider} (hq : fallback = some q)
    (hl : rule.locked = true) (t0 : Instant) {w : Row}
    (hw : t.store.rules.find? (·.id == rule.id) = some w)
    (hus : u.store = (t.store.updateRule rule.id { rule with provider := q.id, updatedAt := t0 }).1)
    (huc : u.cache = replaceFirst
      { rule with provider := q.id, updatedAt := t0, createdAt := w.createdAt } t.cache) :
    Handled s fallback (done ++ [id]) { report with reassigned := report.reassigned ++ [rule.id] }
      u := by
  obtain ⟨stamp, hc⟩ := ht.cache
  have hrm := List.mem_of_find?_eq_some hr
  have hrid : rule.id = id := by simpa using List.find?_some hr
  have hwr : w = Row.ofRule rule := ht.row_eq hk hrm (hrid ▸ hid)
    (List.mem_of_find?_eq_some hw) (by simpa using List.find?_some hw)
  have hmoved : ({ rule with provider := q.id, updatedAt := t0, createdAt := w.createdAt } : Rule) =
      { rule with provider := q.id, updatedAt := t0 } := by
    rw [hwr]
    rfl
  rw [hmoved] at huc
  refine ⟨⟨fun i => if i = id then t0 else stamp i, ?_⟩, ?_, ?_, ?_⟩
  · rw [huc, replaceFirst_eq_map _ (ht.keyed hk), hc, List.map_filterMap]
    refine List.filterMap_congr fun r hr' => ?_
    by_cases e : r.id = id
    · -- the rule of the id is handed over
      rw [hk.eq_of_id hr' hrm (e.trans hrid.symm), removalOutcome_of_not_mem (hrid ▸ hid),
        removalOutcome_of_handsOver (by simp [hrid]) hq hl]
      simp [hrid]
    · rw [removalOutcome_append_of_ne e
        (show (fun i => if i = id then t0 else stamp i) r.id = stamp r.id by simp [e])]
      cases ho : removalOutcome fallback done stamp r with
      | none => rfl
      | some x => simp [removalOutcome_id ho, e, hrid]
  · have hw' : t.store.rules.find? (·.id == ({ rule with provider := q.id, updatedAt := t0 } :
        Rule).id) = some w := hw
    rw [hus, huc, ← hmoved]
    exact ht.mirrors.updateRule (ht.keyed hk) hw'
  · rw [namedRules_append_of_find? hr, List.filter_append, ht.reassigned]
    simp [handsOver, hl, hq]
  · rw [namedRules_append_of_find? hr, List.filter_append, ht.dropped]
    simp [handsOver, hl, hq]

theorem removeOne_handled (hk : Keyed s.cache) {id : String} (hid : id ∉ done)
    (ht : Handled s fallback done report t) :
    Ends (removeOne fallback s.cache report id) (Handled s fallback (done ++ [id]))
      (fun _ _ => True) t := by
  refine ends_removeOne fallback s.cache report id ht.skip (fun rule q t0 hr hq hl => ?_)
    fun rule hr hdrop => ?_
  · refine ends_persistUpdate _ (fun w hw => ?_) fun _ => trivial
    show Handled s _ (done ++ [id]) { report with reassigned := report.reassigned ++ [rule.id] } _
    exact ht.update hk hid hr hq hl t0 hw rfl rfl
  · refine ends_persistDelete id (fun _ => ?_) fun _ => trivial
    exact ht.delete hk hid hr hdrop rfl rfl

theorem Handled.reported_perm (ht : Handled s fallback done report t) :
    (report.dropped ++ report.reassigned).Perm ((namedRules s.cache done).map (·.id)) := by
  rw [ht.dropped, ht.reassigned, ← List.map_append]
  exact (List.perm_append_comm.trans (List.filter_append_perm _ _)).map _

theorem Handled.mem_reassigned (hk : Keyed s.cache) (ht : Handled s fallback done report t)
    {r : Rule} (hr : r ∈ s.cache) :
    r.id ∈ report.reassigned ↔ r.id ∈ done ∧ handsOver fallback r = true := by
  rw [ht.reassigned, List.mem_map]
  constructor
  · rintro ⟨x, hx, e⟩
    obtain ⟨hx, hh⟩ := List.mem_filter.1 hx
    obtain ⟨hx, hxn⟩ := (mem_namedRules hk).1 hx
    rw [hk.eq_of_id hx hr e] at hxn hh
    exact ⟨hxn, hh⟩
  · rintro ⟨hn, hh⟩
    exact ⟨r, List.mem_filter.2 ⟨(mem_namedRules hk).2 ⟨hr, hn⟩, hh⟩, rfl⟩

theorem Handled.gone (hk : Keyed s.cache) (ht : Handled s fallback done report t) {id : String}
    (hid : id ∈ report.dropped) :
    (∀ r ∈ t.cache, r.id ≠ id) ∧ ∀ w ∈ t.store.rules, w.id ≠ id := by
  obtain ⟨stamp, hc⟩ := ht.cache
  rw [ht.dropped, List.mem_map] at hid
  obtain ⟨x, hx, rfl⟩ := hid
  obtain ⟨hx, hh⟩ := List.mem_filter.1 hx
  obtain ⟨hx, hxn⟩ := (mem_namedRules hk).1 hx
  have hcache : ∀ y ∈ t.cache, y.id ≠ x.id := by
    intro y hy e
    rw [hc] at hy
    obtain ⟨r, hr, hry⟩ := List.mem_filterMap.1 hy
    rw [hk.eq_of_id hr hx ((removalOutcome_id hry).symm.trans e),
      removalOutcome_eq_none hxn (by simpa using hh)] at hry
    cases hry
  refine ⟨hcache, fun w hw e => ?_⟩
  obtain ⟨y, hy, rfl⟩ := List.mem_map.1 (ht.mirrors.subset hw)
  exact hcache y hy e

end Loop

/-! ## What a removal leaves -/

/-- What a removal that returns leaves, from `s`: each named id of a cached rule is reported once,
as reassigned when the rule is locked and another provider is listed, as dropped otherwise; the
cached rules are as `removalOutcome` makes them and the store holds them; a dropped rule is gone
from both, a rule not named is untouched, a reassigned one changes only its provider, the first
other listed one, and its stamp; and the dangling ids are those of the remaining rules that point
at the removed provider or at none of the providers listed at the start. -/
structure Removed (s : Service) (rm : Removal) (report : Report) (t : Service) : Prop where
  once : (report.dropped ++ report.reassigned).Nodup
  handled : ∀ id, id ∈ report.dropped ++ report.reassigned ↔
    id ∈ rm.rulesToDrop ∧ ∃ r ∈ s.cache, r.id = id
  reassigned : ∀ r ∈ s.cache, r.id ∈ rm.rulesToDrop →
    (r.id ∈ report.reassigned ↔ r.locked = true ∧ ∃ q ∈ s.providers, q.id ≠ rm.provider)
  cache : ∃ stamp, t.cache = s.cache.filterMap
    (removalOutcome (s.providers.find? (·.id != rm.provider)) rm.rulesToDrop stamp)
  mirrors : Mirrors t.store t.cache
  gone : ∀ id ∈ report.dropped, (∀ r ∈ t.cache, r.id ≠ id) ∧ ∀ w ∈ t.store.rules, w.id ≠ id
  unlisted : ∀ r ∈ s.cache, r.id ∉ rm.rulesToDrop → r ∈ t.cache ∧ Row.ofRule r ∈ t.store.rules
  handedOver : ∀ r ∈ s.cache, r.id ∈ report.reassigned →
    ∃ q, s.providers.find? (·.id != rm.provider) = some q ∧
      ∃ stamp, { r with provider := q.id, updatedAt := stamp } ∈ t.cache
  dangling : report.dangling.Nodup ∧ ∀ id, id ∈ report.dangling ↔
    ∃ r ∈ t.cache, r.id = id ∧ (r.provider = rm.provider ∨ ∀ q ∈ s.providers, q.id ≠ r.provider)

section Removed

variable {s t : Service} {rm : Removal} {report : Report} {named : List String}

theorem handsOver_iff {r : Rule} :
    handsOver (s.providers.find? (·.id != rm.provider)) r = true ↔
      r.locked = true ∧ ∃ q ∈ s.providers, q.id ≠ rm.provider := by
  simp [handsOver, List.find?_isSome]

theorem Handled.removed (hk : Keyed s.cache)
    (ht : Handled s (s.providers.find? (·.id != rm.provider)) named report t)
    (hmem : ∀ i, i ∈ named ↔ i ∈ rm.rulesToDrop) (hnd : named.Nodup) :
    Removed s rm { report with dangling := (t.cache.filter fun r => r.provider == rm.provider ||
      !s.providers.any (·.id == r.provider)).map (·.id) } t := by
  obtain ⟨stamp, hc⟩ := ht.cache
  rw [removalOutcome_congr hmem] at hc
  have hout : ∀ r ∈ s.cache, ∀ x, removalOutcome (s.providers.find? (·.id != rm.provider))
      rm.rulesToDrop stamp r = some x → x ∈ t.cache := fun r hr x hx => by
    rw [hc]
    exact List.mem_filterMap.2 ⟨r, hr, hx⟩
  refine ⟨ht.reported_perm.nodup_iff.2 ((map_id_namedRules_sublist _ _).nodup hnd), fun id => ?_,
    fun r hr hn => ?_, ⟨stamp, hc⟩, ht.mirrors, fun id hid => ht.gone hk hid, fun r hr hn => ?_,
    fun r hr hre => ?_, ⟨(List.filter_sublist.map _).nodup (ht.keyed hk), fun id => ?_⟩⟩
  · -- each named id of a cached rule, once
    rw [ht.reported_perm.mem_iff, List.mem_map]
    constructor
    · rintro ⟨x, hx, rfl⟩
      obtain ⟨hx, hxn⟩ := (mem_namedRules hk).1 hx
      exact ⟨(hmem _).1 hxn, x, hx, rfl⟩
    · rintro ⟨hn, x, hx, rfl⟩
      exact ⟨x, (mem_namedRules hk).2 ⟨hx, (hmem _).2 hn⟩, rfl⟩
  · rw [ht.mem_reassigned hk hr, hmem, handsOver_iff]
    exact and_iff_right hn
  · -- a rule not named stays, and so does its row
    have hy := hout r hr r (removalOutcome_of_not_mem hn)
    exact ⟨hy, ht.mirrors.symm.subset (List.mem_map_of_mem hy)⟩
  · -- a reassigned rule is the rule handed over
    obtain ⟨hn, hh⟩ := (ht.mem_reassigned hk hr).1 hre
    obtain ⟨hl, hsome⟩ := Bool.and_eq_true_iff.1 hh
    obtain ⟨q, hq⟩ := Option.isSome_iff_exists.1 hsome
    exact ⟨q, hq, stamp r.id, hout r hr _ (removalOutcome_of_handsOver ((hmem _).1 hn) hq hl)⟩
  · simp only [List.mem_map, List.mem_filter, Bool.or_eq_true, beq_iff_eq, Bool.not_eq_true',
      List.any_eq_false, ne_eq]
    constructor
    · rintro ⟨r, ⟨hr, hp⟩, rfl⟩
      exact ⟨r, hr, rfl, hp.imp_right fun h q hq e => h q hq (by simp [e])⟩
    · rintro ⟨r, hr, rfl, hp⟩
      exact ⟨r, ⟨hr, hp.imp_right fun h q hq e => h q hq (by simpa using e)⟩, rfl⟩

theorem applyRemoval_removed (hm : Mirrors s.store s.cache) (hk : Keyed s.cache) (rm : Removal) :
    Ends (applyRemoval rm) (Removed s rm) (fun _ _ => True) s := by
  have hmem : ∀ i, i ∈ rm.rulesToDrop.foldl
      (fun acc id => if id ∈ acc then acc else acc ++ [id]) [] ↔ i ∈ rm.rulesToDrop :=
    fun i => by simpa using (foldl_firsts (fun id : String => id) _ []).1 i
  have hnd : (rm.rulesToDrop.foldl
      (fun acc id => if id ∈ acc then acc else acc ++ [id]) []).Nodup :=
    (foldl_firsts (fun id : String => id) _ []).2 List.nodup_nil
  rw [ends_applyRemoval]
  split
  · -- the loop's invariant: the ids taken so far come first among the named ones
    refine (@ends_foldlM Failure String Report (fun _ _ => True) _ (fun l report t => ∃ done,
        rm.rulesToDrop.foldl (fun acc id => if id ∈ acc then acc else acc ++ [id]) [] = done ++ l ∧
        Handled s (s.providers.find? (·.id != rm.provider)) done report t)
      (fun id l report t ⟨done, hsplit, ht⟩ => ?_) _ _ _
      ⟨[], rfl, ⟨⟨fun _ => ⟨0, 0⟩, (filterMap_removalOutcome_nil _).symm⟩, hm, rfl, rfl⟩⟩).mono
      (fun report t ⟨done, hsplit, ht⟩ => ?_) fun _ _ h => h
    · have hid : id ∉ done := fun h => by
        have := hsplit ▸ hnd
        exact (List.nodup_append.1 this).2.2 id h id List.mem_cons_self rfl
      exact (removeOne_handled hk hid ht).mono
        (fun report' t' ht' => ⟨done ++ [id], by simp [hsplit], ht'⟩) fun _ _ _ => trivial
    · rw [List.append_nil] at hsplit
      rw [← hsplit] at ht
      exact ht.removed hk hmem hnd
  · trivial

end Removed

/-! ## Reconciling a provider's deletion -/

section Reconcile

variable {s : Service}

theorem reconcile_cascade (hm : Mirrors s.store s.cache) (hk : Keyed s.cache) (p : String)
    (hpol : s.policy = .cascade) :
    Ends (reconcile p) (fun _ t => (∀ r ∈ t.cache, r.provider ≠ p) ∧
      ∀ w ∈ t.store.rules, w.provider ≠ p) (fun _ _ => True) s := by
  rw [ends_reconcile, hpol]
  refine (applyRemoval_removed hm hk _).mono (fun _ t ht => ?_) fun _ _ _ => trivial
  obtain ⟨stamp, hc⟩ := ht.cache
  have hcache : ∀ y ∈ t.cache, y.provider ≠ p := by
    intro y hy
    rw [hc] at hy
    obtain ⟨r, hr, hry⟩ := List.mem_filterMap.1 hy
    rcases removalOutcome_cases hry with ⟨hn, rfl⟩ | ⟨q, hq, hyq⟩
    · intro e
      exact hn (List.mem_map.2 ⟨y, List.mem_filter.2 ⟨hr, by simp [e]⟩, rfl⟩)
    · rw [hyq]
      simpa using List.find?_some hq
  refine ⟨hcache, fun w hw => ?_⟩
  obtain ⟨y, hy, rfl⟩ := List.mem_map.1 (ht.mirrors.subset hw)
  exact hcache y hy

theorem reconcile_flag (p : String) (hpol : s.policy = .flag) :
    Ends (reconcile p) (fun _ t => t.cache = s.cache ∧ t.store = s.store) (fun _ _ => True) s := by
  rw [ends_reconcile, hpol, ends_applyRemoval]
  split
  · exact ⟨rfl, rfl⟩
  · trivial

end Reconcile

/-- From a state whose store holds exactly the cached rules, no two with one id: a removal that
returns reports each named rule once, hands the locked ones to the first other listed provider
and deletes the others, leaves the rest alone and reports the rules left dangling; a cascade
leaves no rule of the removed provider, and a flag changes nothing. -/
theorem removal_drops_or_hands_over (s : Service) (hm : Mirrors s.store s.cache)
    (hk : Keyed s.cache) :
    (∀ rm : Removal, Ends (applyRemoval rm) (Removed s rm) (fun _ _ => True) s) ∧
    (∀ p, s.policy = .cascade → Ends (reconcile p) (fun _ t => (∀ r ∈ t.cache, r.provider ≠ p) ∧
      ∀ w ∈ t.store.rules, w.provider ≠ p) (fun _ _ => True) s) ∧
    (∀ p, s.policy = .flag →
      Ends (reconcile p) (fun _ t => t.cache = s.cache ∧ t.store = s.store) (fun _ _ => True) s) :=
  ⟨applyRemoval_removed hm hk, reconcile_cascade hm hk, fun p => reconcile_flag p⟩

/-- A locked default and a custom rule of a removed provider, another provider listed: after a
cascade no cached rule points at the removed provider. -/
theorem cascade_clears_provider :
    let d : Rule :=
      { id := "d", kind := .path, group := .openai, provider := "p1", pattern := "/api/openai/*",
        rewrite := none, priority := 1, enabled := true, createdAt := ⟨0, 0⟩,
        updatedAt := ⟨0, 0⟩ }
    let c : Rule := { d with id := "c", pattern := "/v1/x", priority := 2 }
    let s : Service :=
      { store := { rules := [Row.ofRule d, Row.ofRule c] }, cache := [d, c],
        registry := .fixed [{ id := "p1", name := "p1" }, { id := "p2", name := "p2" }] }
    Mirrors s.store s.cache ∧ Keyed s.cache ∧
      Ends (reconcile "p1") (fun _ t => ∀ r ∈ t.cache, r.provider ≠ "p1") (fun _ _ => True) s := by
  intro d c s
  have hm : Mirrors s.store s.cache := List.Perm.refl _
  have hk : Keyed s.cache := by unfold Keyed; decide
  exact ⟨hm, hk, ((removal_drops_or_hands_over s hm hk).2.1 "p1" rfl).mono (fun _ _ h => h.1)
    fun _ _ h => h⟩

/-- A stored rule of the removed provider that the cache lacks: a cascade names only cached rules,
so the reconciliation returns and the stored rule still points at the removed provider. -/
theorem cascade_misses_uncached_row :
    let y : Rule :=
      { id := "y", kind := .model, group := .openai, provider := "p1", pattern := "gpt-3*",
        rewrite := none, priority := 2, enabled := true, createdAt := ⟨1735689600, 0⟩,
        updatedAt := ⟨1735689600, 0⟩ }
    let s : Service :=
      { store := { rules := [Row.ofRule y] },
        registry := .fixed [{ id := "p1", name := "p1" }, { id := "p2", name := "p2" }] }
    s.policy = .cascade ∧
      Ends (reconcile "p1") (fun _ t => ∃ w ∈ t.store.rules, w.provider = "p1")
        (fun _ _ => False) s := by
  intro y s
  exact ⟨rfl, ⟨Row.ofRule y, List.mem_singleton_self _, rfl⟩⟩

end ProviderRouting
