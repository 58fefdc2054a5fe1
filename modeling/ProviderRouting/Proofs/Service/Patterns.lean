import ProviderRouting.Proofs.Service.Reachable
import ProviderRouting.Proofs.Service.Consistency
import Mathlib.Data.List.DropRight
import Mathlib.Data.List.TakeWhile

/-!
# Stored patterns stay well formed

A pattern is fit to store when it is not empty, has no blanks at either end, and, for a generic
path rule, starts in neither reserved namespace (`PatternFits`). Every write of a pattern is
checked or copies one already stored: creation and update check the trimmed pattern and store it
trimmed, duplication and the provider changes copy a cached rule's pattern, and the defaults have
catch-all patterns. So every operation keeps each cached and stored rule's pattern fit, whether it
returns or fails, and the import of the legacy settings file writes only rules that pass the same
checks, trimmed (`patterns_stay_fit`).
-/

namespace ProviderRouting.Text

theorem trimBlankList_eq (cs : List Char) :
    trimBlankList cs = (cs.dropWhile isBlank).rdropWhile isBlank := rfl

theorem dropWhile_trimBlankList (cs : List Char) :
    (trimBlankList cs).dropWhile isBlank = trimBlankList cs := by
  rw [List.dropWhile_eq_self_iff]
  intro hl
  have hpre : trimBlankList cs <+: cs.dropWhile isBlank := List.rdropWhile_prefix _ _
  rw [hpre.getElem hl]
  simpa using List.dropWhile_get_zero_not isBlank cs (hpre.length_le.trans_lt' hl)

theorem trimBlankList_trimBlankList (cs : List Char) :
    trimBlankList (trimBlankList cs) = trimBlankList cs := by
  rw [trimBlankList_eq (trimBlankList cs), dropWhile_trimBlankList, trimBlankList_eq,
    List.rdropWhile_idempotent]

theorem trimBlankList_eq_nil_iff (cs : List Char) :
    trimBlankList cs = [] ↔ ∀ c ∈ cs, isBlank c = true := by
  rw [trimBlankList_eq, List.rdropWhile_eq_nil_iff]
  constructor
  · intro hall
    refine List.dropWhile_eq_nil_iff.1 ?_
    by_contra hne
    have hl : 0 < (cs.dropWhile isBlank).length := List.length_pos_iff.2 hne
    exact List.dropWhile_get_zero_not isBlank cs hl (hall _ (List.get_mem _ _))
  · intro h c hc
    rw [List.dropWhile_eq_nil_iff.2 h] at hc
    cases hc

@[simp] theorem trimBlank_trimBlank (s : String) : trimBlank (trimBlank s) = trimBlank s := by
  unfold trimBlank
  rw [String.toList_ofList, trimBlankList_trimBlankList]

theorem trimBlank_eq_empty_iff (s : String) : trimBlank s = "" ↔ isAllBlank s = true := by
  rw [trimBlank, ← String.ofList_nil, String.ofList_inj, trimBlankList_eq_nil_iff, isAllBlank,
    List.all_eq_true]

end ProviderRouting.Text

namespace ProviderRouting

open ProviderRouting.Text

/-! ## Patterns fit to store -/

def PatternFits (genericPath : Bool) (pattern : String) : Prop :=
  pattern ≠ "" ∧ trimBlank pattern = pattern ∧
    (genericPath = true → reservedPrefixes.any (pattern.startsWith ·) = false)

instance (genericPath : Bool) (pattern : String) : Decidable (PatternFits genericPath pattern) :=
  inferInstanceAs (Decidable (_ ∧ _ ∧ _))

def Rule.genericPath (r : Rule) : Bool := r.group == .generic && r.kind == .path

def Row.genericPath (w : Row) : Bool :=
  w.group == Group.generic.name && w.kind == RuleKind.path.name

def Rule.FitPattern (r : Rule) : Prop := PatternFits r.genericPath r.pattern

def Row.FitPattern (w : Row) : Prop := PatternFits w.genericPath w.pattern

@[simp] theorem Row.genericPath_ofRule (r : Rule) : (Row.ofRule r).genericPath = r.genericPath := by
  simp [Row.genericPath, Rule.genericPath]

theorem Row.fitPattern_ofRule {r : Rule} : (Row.ofRule r).FitPattern ↔ r.FitPattern := by
  simp [Row.FitPattern, Rule.FitPattern]

theorem Row.FitPattern.toRule {w : Row} {r : Rule} (hw : w.FitPattern) (h : w.toRule = .ok r) :
    r.FitPattern := by
  rw [← Row.ofRule_of_toRule h] at hw
  exact Row.fitPattern_ofRule.1 hw

theorem patternFits_trimBlank {group : Group} {kind : RuleKind} {pattern : String}
    (hv : validatePattern pattern = .ok ())
    (hn : checkNamespace group kind (trimBlank pattern) = .ok ()) :
    PatternFits (group == .generic && kind == .path) (trimBlank pattern) := by
  refine ⟨fun he => ?_, trimBlank_trimBlank pattern, fun hg => ?_⟩
  · have hblank := (trimBlank_eq_empty_iff pattern).1 he
    simp [validatePattern, hblank] at hv
  · unfold checkNamespace at hn
    simp only [Bool.and_eq_true, beq_iff_eq] at hg
    simpa [hg] using hn

theorem checkCandidate_patternFits {g : Guard} {group : Group} {kind : RuleKind}
    {provider pattern : String} {exclude : Option String}
    (h : g.checkCandidate group kind provider pattern exclude = .ok ()) :
    PatternFits (group == .generic && kind == .path) (trimBlank pattern) := by
  unfold Guard.checkCandidate at h
  obtain ⟨_, hv, h⟩ := bind_eq_ok h
  obtain ⟨_, hn, -⟩ := bind_eq_ok h
  exact patternFits_trimBlank hv hn

theorem checkUpdate_fitPattern {g : Guard} {r c : Rule} {p : Patch} (h : g.checkUpdate r p = .ok c)
    (hr : r.FitPattern) : c.FitPattern := by
  obtain ⟨rfl, hc, -⟩ := checkUpdate_spec h
  have htrim : trimBlank (p.apply r).pattern = (p.apply r).pattern := by
    unfold Patch.apply
    split
    · exact trimBlank_trimBlank _
    · exact hr.2.1
  have := checkCandidate_patternFits hc
  rw [htrim] at this
  exact this

theorem catchAll_fits (g : Group) : PatternFits (g == .generic && RuleKind.path == .path) g.catchAll := by
  cases g <;> decide

theorem DefaultPlan.toRule_fitPattern (d : DefaultPlan) (id : String) (now : Time.Instant) :
    (d.toRule id now).FitPattern :=
  catchAll_fits d.group

/-! ## Writes that keep patterns fit -/

theorem fitPattern_applyAssignment (a : Assignment) : ∀ {rules : List Rule},
    (∀ x ∈ rules, x.FitPattern) → ∀ x ∈ applyAssignment a rules, x.FitPattern
  | [], _ => by simp [applyAssignment]
  | r :: rs, h => by
    have hr := h r List.mem_cons_self
    have hrs : ∀ x ∈ rs, x.FitPattern := fun x hx => h x (List.mem_cons_of_mem _ hx)
    unfold applyAssignment
    split
    · -- the rule of the id changes its priority and stamp only
      intro x hx
      rcases List.mem_cons.1 hx with rfl | hx
      · exact hr
      · exact hrs x hx
    · intro x hx
      rcases List.mem_cons.1 hx with rfl | hx
      · exact hr
      · exact fitPattern_applyAssignment a hrs x hx

theorem fitPattern_applyAssignments : ∀ (plan : List Assignment) {rules : List Rule},
    (∀ x ∈ rules, x.FitPattern) → ∀ x ∈ applyAssignments rules plan, x.FitPattern
  | [], _, h => h
  | a :: plan, _, h => fitPattern_applyAssignments plan (fitPattern_applyAssignment a h)

theorem fitPattern_replaceFirst {r : Rule} {rules : List Rule} (hr : r.FitPattern)
    (h : ∀ x ∈ rules, x.FitPattern) : ∀ x ∈ replaceFirst r rules, x.FitPattern := by
  intro x hx
  rcases mem_replaceFirst hx with rfl | hx
  · exact hr
  · exact h x hx

section Rows

variable {st st' : Store}

theorem mem_insertRule {r : Rule} (h : st.insertRule r = .ok st') :
    ∀ w ∈ st'.rules, w ∈ st.rules ∨ w = Row.ofRule r := by
  unfold Store.insertRule at h
  split at h
  · cases h
  · cases h
    intro w hw
    exact (List.mem_append.1 hw).imp_right List.mem_singleton.1

theorem fitPattern_insertRule {r : Rule} (h : st.insertRule r = .ok st')
    (hst : ∀ w ∈ st.rules, w.FitPattern) (hr : r.FitPattern) : ∀ w ∈ st'.rules, w.FitPattern := by
  intro w hw
  rcases mem_insertRule h w hw with hw | rfl
  · exact hst w hw
  · exact Row.fitPattern_ofRule.2 hr

theorem fitPattern_changeRows {id : String} {f : Row → Row} (hf : ∀ w, w.FitPattern → (f w).FitPattern)
    (hst : ∀ w ∈ st.rules, w.FitPattern) : ∀ w ∈ (st.changeRows id f).1.rules, w.FitPattern := by
  intro w hw
  obtain ⟨v, hv, rfl⟩ := List.mem_map.1 hw
  split
  · exact hf v (hst v hv)
  · exact hst v hv

theorem fitPattern_updateRule {id : String} {r : Rule} (hst : ∀ w ∈ st.rules, w.FitPattern)
    (hr : r.FitPattern) : ∀ w ∈ (st.updateRule id r).1.rules, w.FitPattern := by
  refine fitPattern_changeRows (fun w _ => ?_) hst
  exact Row.fitPattern_ofRule.2 hr

theorem fitPattern_writeAssignments : ∀ (plan : List Assignment) {st st' : Store},
    writeAssignments st plan = .ok st' → (∀ w ∈ st.rules, w.FitPattern) →
      ∀ w ∈ st'.rules, w.FitPattern
  | [], _, _, h, hst => by
    cases h
    exact hst
  | a :: plan, st, _, h, hst => by
    unfold writeAssignments at h
    have hst₁ : ∀ w ∈ (st.updatePriority a.id a.priority a.stamp).1.rules, w.FitPattern :=
      fitPattern_changeRows (fun _ hw => hw) hst
    rcases hu : st.updatePriority a.id a.priority a.stamp with ⟨st₁, n⟩
    rw [hu] at h
    dsimp only at h
    by_cases hn : n = 0
    · rw [if_pos hn] at h
      cases h
    · rw [if_neg hn] at h
      have hst₁' : ∀ w ∈ st₁.rules, w.FitPattern := by
        rw [show st₁ = (st.updatePriority a.id a.priority a.stamp).1 by rw [hu]]
        exact hst₁
      exact fitPattern_writeAssignments plan h hst₁'

theorem fitPattern_deleteRule {id : String} (hst : ∀ w ∈ st.rules, w.FitPattern) :
    ∀ w ∈ (st.deleteRule id).1.rules, w.FitPattern :=
  fun w hw => hst w (List.mem_filter.1 hw).1

theorem fitPattern_allRules {rs : List Rule} (h : st.allRules = .ok rs)
    (hst : ∀ w ∈ st.rules, w.FitPattern) : ∀ r ∈ rs, r.FitPattern := by
  intro r hr
  have hw : Row.ofRule r ∈ st.rules := (mirrors_of_allRules h).mem_iff.2 (List.mem_map_of_mem hr)
  exact Row.fitPattern_ofRule.1 (hst _ hw)

end Rows

/-! ## The service -/

/-- Every rule the service holds, in its cache and in its store, has a pattern fit to store. -/
structure PatternsFit (s : Service) : Prop where
  cache : ∀ r ∈ s.cache, r.FitPattern
  store : ∀ w ∈ s.store.rules, w.FitPattern

section Primitives

variable {s : Service}

theorem PatternsFit.congr {t : Service} (h : PatternsFit s) (hc : t.cache = s.cache)
    (hst : t.store.rules = s.store.rules) : PatternsFit t :=
  ⟨hc ▸ h.cache, hst ▸ h.store⟩

theorem persistCreate_fits (h : PatternsFit s) {r : Rule} (hr : r.FitPattern) :
    Ends (persistCreate r) (fun _ => PatternsFit) (fun _ => PatternsFit) s := by
  refine ends_persistCreate r (fun st hst => ⟨fun x hx => ?_, fitPattern_insertRule hst h.store hr⟩)
    fun _ => h.congr rfl rfl
  rcases List.mem_append.1 hx with hx | hx
  · exact h.cache x hx
  · rw [List.mem_singleton.1 hx]
    exact hr

theorem persistUpdate_fits (h : PatternsFit s) {r : Rule} (hr : r.FitPattern) :
    Ends (persistUpdate r) (fun _ => PatternsFit) (fun _ => PatternsFit) s :=
  ends_persistUpdate r (fun _ _ => ⟨fitPattern_replaceFirst hr h.cache,
    fitPattern_updateRule h.store hr⟩) fun _ => h.congr rfl rfl

theorem persistDelete_fits (h : PatternsFit s) (id : String) :
    Ends (persistDelete id) (fun _ => PatternsFit) (fun _ => PatternsFit) s :=
  ends_persistDelete id (fun _ => ⟨fun x hx => h.cache x (List.mem_filter.1 hx).1,
    fitPattern_deleteRule h.store⟩) fun _ => h.congr rfl rfl

theorem persistAssignments_fits (h : PatternsFit s) (plan : List Assignment) :
    Ends (persistAssignments plan) (fun _ => PatternsFit) (fun _ => PatternsFit) s :=
  ends_persistAssignments plan (fun _ hw => ⟨fitPattern_applyAssignments plan h.cache,
    fitPattern_writeAssignments plan hw h.store⟩) fun _ => h.congr rfl rfl

end Primitives

/-! ## Operations -/

section Ops

variable {s : Service}

theorem storeNew_fits (h : PatternsFit s) {snap : List Rule} {r : Rule}
    {shifted : List Assignment} (hr : r.FitPattern) :
    Ends (storeNew snap r shifted) (fun _ => PatternsFit) (fun _ => PatternsFit) s := by
  refine ends_storeNew (fun _ => persistCreate_fits h hr) fun _ => ?_
  refine (persistAssignments_fits h shifted).mono (fun _ t ht => ?_) fun _ _ ht => ht
  refine (persistCreate_fits ht hr).mono (fun _ _ hu => hu) fun _ u hu => ?_
  -- storing the rule failed: the moves are put back, as far as the store allows
  exact (persistAssignments_fits hu _).mono (fun _ _ hv => hv) fun _ _ hv => hv

theorem create_fits (h : PatternsFit s) (n : NewRule) :
    Ends (create n) (fun _ => PatternsFit) (fun _ => PatternsFit) s := by
  refine ends_create n (fun _ _ => h) (fun _ _ => h) (fun _ _ _ _ => h.congr rfl rfl)
    fun _ _ _ _ _ hc _ => ?_
  refine storeNew_fits ?_ (checkCandidate_patternFits hc)
  exact h.congr rfl rfl

theorem update_fits (h : PatternsFit s) (id : String) (p : Patch) :
    Ends (update id p) (fun _ => PatternsFit) (fun _ => PatternsFit) s := by
  refine ends_update id p (fun _ => h) (fun _ _ _ _ => h) (fun _ _ _ _ => h) (fun x _ _ hx hc _ => ?_)
    (fun _ _ _ _ _ _ _ => h) fun x _ _ _ hx hc _ _ => ?_
  all_goals
    have hcf := checkUpdate_fitPattern hc (h.cache x (List.mem_of_find?_eq_some hx))
    refine persistUpdate_fits ?_ hcf
    exact h.congr rfl rfl

theorem delete_fits (h : PatternsFit s) (id : String) :
    Ends (delete id) (fun _ => PatternsFit) (fun _ => PatternsFit) s :=
  ends_delete id (fun _ => h) (fun _ _ _ _ => h) fun _ _ _ => persistDelete_fits h id

theorem duplicate_fits (h : PatternsFit s) (id : String) :
    Ends (duplicate id) (fun _ => PatternsFit) (fun _ => PatternsFit) s := by
  refine ends_duplicate id (fun _ => h) (fun _ _ _ _ => h) (fun _ _ _ _ => h) (fun _ _ _ _ _ => h)
    fun x _ _ _ hx _ _ => ?_
  refine persistCreate_fits ?_ (h.cache x (List.mem_of_find?_eq_some hx))
  exact h.congr rfl rfl

theorem reorder_fits (h : PatternsFit s) (ids : List String) :
    Ends (reorder ids) (fun _ => PatternsFit) (fun _ => PatternsFit) s := by
  refine ends_reorder ids (fun _ _ _ => h.congr rfl rfl) (fun _ _ => h.congr rfl rfl)
    fun _ plan _ _ => ?_
  refine persistAssignments_fits ?_ plan
  exact h.congr rfl rfl

theorem bootstrap_fits (h : PatternsFit s) :
    Ends bootstrap (fun _ => PatternsFit) (fun _ => PatternsFit) s := by
  rw [ends_bootstrap]
  split
  · split
    · refine ends_storeDefaults (fun _ => PatternsFit) (fun d _ t id now ht => ?_) _ h
      refine persistCreate_fits ?_ (d.toRule_fitPattern id now)
      exact ht.congr rfl rfl
    · exact h
  · exact h

theorem setDefault_fits (h : PatternsFit s) (g : Group) (edit : DefaultEdit) :
    Ends (setDefault g edit) (fun _ => PatternsFit) (fun _ => PatternsFit) s := by
  refine ends_setDefault g edit (fun _ => h) (fun _ _ _ _ _ _ => h) (fun _ _ _ _ _ _ => h)
    fun x _ hx _ => ?_
  refine persistUpdate_fits ?_ (h.cache x (List.mem_of_find?_eq_some hx))
  exact h.congr rfl rfl

theorem removeOne_fits {fallback : Option Provider} {snap : List Rule}
    (hsnap : ∀ r ∈ snap, r.FitPattern) (h : PatternsFit s) (report : Report) (id : String) :
    Ends (removeOne fallback snap report id) (fun _ => PatternsFit) (fun _ => PatternsFit) s := by
  refine ends_removeOne fallback snap report id (fun _ => h) (fun rule _ _ hr _ _ => ?_)
    fun _ _ _ => persistDelete_fits h id
  refine persistUpdate_fits ?_ ?_
  · exact h.congr rfl rfl
  · exact hsnap rule (List.mem_of_find?_eq_some hr)

theorem applyRemoval_fits (h : PatternsFit s) (rm : Removal) :
    Ends (applyRemoval rm) (fun _ => PatternsFit) (fun _ => PatternsFit) s := by
  rw [ends_applyRemoval]
  split
  · -- every rule the removal hands over is one of the cache it started from
    exact ends_foldlM (fun _ _ => PatternsFit)
      (fun id _ report _ ht => removeOne_fits h.cache ht report id) _ h
  · exact h

theorem reconcile_fits (h : PatternsFit s) (provider : String) :
    Ends (reconcile provider) (fun _ => PatternsFit) (fun _ => PatternsFit) s := by
  rw [ends_reconcile]
  exact applyRemoval_fits h _

theorem dropDefaults_fits : ∀ (ids : List String) (rules : List Rule) (s : Service)
    {rest : List Rule} {res : Except StoreError Unit} {t : Service},
    PatternsFit s → (∀ r ∈ rules, r.FitPattern) →
    (dropDefaults ids rules).run s = ((rest, res), t) → PatternsFit t ∧ ∀ r ∈ rest, r.FitPattern :=
  fun ids rules s _ _ _ h hr hd =>
    dropDefaults_keeps (fun rules t => PatternsFit t ∧ ∀ r ∈ rules, r.FitPattern)
      (fun _ _ h => ⟨h.1.congr rfl rfl, h.2⟩)
      (fun _ _ _ h _ => ⟨⟨h.1.cache, fitPattern_deleteRule h.1.store⟩,
        fun r hr => h.2 r (List.mem_filter.1 hr).1⟩) ids rules s ⟨h, hr⟩ hd

theorem renumberTies_fits {rules : List Rule} (h : PatternsFit s) (hr : ∀ r ∈ rules, r.FitPattern) :
    Ends (renumberTies rules) (fun out t => PatternsFit t ∧ ∀ r ∈ out.1, r.FitPattern)
      (fun _ => PatternsFit) s :=
  ends_renumberTies (fun _ _ => ⟨h.congr rfl rfl, hr⟩)
    (fun _ plan _ _ _ hw => ⟨⟨h.cache, fitPattern_writeAssignments plan hw h.store⟩,
      fitPattern_applyAssignments plan hr⟩)
    (fun _ _ _ _ _ => ⟨h.congr rfl rfl, hr⟩) fun _ _ _ => h.congr rfl rfl

theorem reload_fits (h : PatternsFit s) :
    Ends reload (fun _ => PatternsFit) (fun _ => PatternsFit) s := by
  refine ends_reload (fun _ _ => h.congr rfl rfl) fun rs _ hrs => ?_
  rcases hd : (dropDefaults (duplicateDefaults rs) rs).run s.tick with ⟨⟨rest, res⟩, t⟩
  obtain ⟨ht, hrest⟩ := dropDefaults_fits _ _ s.tick (h.congr rfl rfl)
    (fitPattern_allRules hrs h.store) hd
  cases res with
  | error e => exact ⟨hrest, ht.store⟩
  | ok u =>
    refine (renumberTies_fits ht hrest).mono (fun out t' ⟨ht', hout⟩ => ?_) fun _ _ ht' => ht'
    have hcached : PatternsFit { t' with cache := out.1 } := ⟨hout, ht'.store⟩
    split
    · exact hcached
    · split
      · exact ends_unlessNoProvider (bootstrap_fits hcached)
      · exact hcached

theorem handleEvent_fits (h : PatternsFit s) (e : Event) :
    Ends (handleEvent e) (fun _ => PatternsFit) (fun _ => PatternsFit) s := by
  cases e with
  | added _ => exact ends_unlessNoProvider (bootstrap_fits h)
  | deleted r =>
    rw [handleEvent, ends_discard]
    exact applyRemoval_fits h r

theorem watch_fits (h : PatternsFit s) (capacity : Nat) (events : List Event) :
    Ends (watch capacity events) (fun _ => PatternsFit) (fun _ => PatternsFit) s :=
  ends_watch capacity events (fun _ => PatternsFit) h (reload_fits h)
    fun e _ _ ht => handleEvent_fits ht e

theorem perform_fits (h : PatternsFit s) (o : Op) : PatternsFit (perform o s) := by
  cases o with
  | create n => exact (create_fits h n).final
  | update id p => exact (update_fits h id p).final
  | delete id => exact (delete_fits h id).final
  | duplicate id => exact (duplicate_fits h id).final
  | reorder ids => exact (reorder_fits h ids).final
  | bootstrap => exact (bootstrap_fits h).final
  | setDefault g edit => exact (setDefault_fits h g edit).final
  | applyRemoval rm => exact (applyRemoval_fits h rm).final
  | reconcile provider => exact (reconcile_fits h provider).final
  | event e => exact (handleEvent_fits h e).final
  | watch capacity events => exact (watch_fits h capacity events).final
  | reload => exact (reload_fits h).final
  | faults f => exact h.congr rfl rfl
  | addProvider p =>
    refine Ends.final (m := Requests.addProvider p) ?_
    unfold Requests.addProvider
    rw [ends_modify]
    split <;> exact h.congr rfl rfl
  | removeProvider id =>
    refine Ends.final (m := Requests.removeProvider id) ?_
    unfold Requests.removeProvider
    rw [ends_bind, ends_get]
    split
    · rw [ends_bind, ends_set, ends_pure]
      exact h.congr rfl rfl
    · split
      · rw [ends_pure]
        exact h
      · rw [ends_bind, ends_set, ends_pure]
        exact h.congr rfl rfl

end Ops

/-! ## The legacy import -/

theorem importable_fitPattern {r : Rule} (h : importable r = true) :
    ({ r with pattern := trimBlank r.pattern } : Rule).FitPattern := by
  unfold importable at h
  cases hc : (validatePattern r.pattern >>= fun _ =>
      checkNamespace r.group r.kind (trimBlank r.pattern)) with
  | error _ =>
    rw [hc] at h
    cases h
  | ok u =>
    obtain ⟨⟨⟩, hv, hn⟩ := bind_eq_ok hc
    cases u
    exact patternFits_trimBlank hv hn

theorem foldl_keeps {α β : Type} (I : β → Prop) (f : β → α → β) (hf : ∀ acc x, I acc → I (f acc x)) :
    ∀ (xs : List α) {acc : β}, I acc → I (xs.foldl f acc)
  | [], _, h => h
  | x :: xs, acc, h => foldl_keeps I f hf xs (hf acc x h)

theorem foldlM_keeps {α β ε : Type} (I : β → Prop) (f : β → α → Except ε β) :
    ∀ (xs : List α) {acc out : β}, (∀ x ∈ xs, ∀ acc out, I acc → f acc x = .ok out → I out) →
      I acc → xs.foldlM f acc = .ok out → I out
  | [], _, _, _, hacc, h => by
    cases h
    exact hacc
  | x :: xs, acc, out, hf, hacc, h => by
    rw [List.foldlM_cons] at h
    obtain ⟨mid, hmid, h⟩ := bind_eq_ok h
    exact foldlM_keeps I f xs (fun y hy => hf y (List.mem_cons_of_mem _ hy))
      (hf x List.mem_cons_self acc mid hacc hmid) h

section Import

/-! What writing a provider, writing a legacy rule that passes the import's checks, and marking
the import done each keep, the whole import keeps, however it ends. -/

variable (I : Store → Prop) (hprovider : ∀ st p, I st → I (st.putProvider p))
  (hinsert : ∀ st st' r, importable r = true →
    st.insertRule { r with pattern := trimBlank r.pattern } = .ok st' → I st → I st')

include hprovider hinsert

theorem importSettings_keeps {st st' : Store} {l : Legacy} {stamp : Int} {n : Nat}
    (h : st.importSettings l stamp = .ok (st', n)) (hst : I st) : I st' := by
  unfold Store.importSettings at h
  refine foldlM_keeps (fun acc => I acc.1) _ _ (fun r hr acc out hacc hstep => ?_) ?_ h
  · obtain ⟨st₁, hins, hout⟩ := bind_eq_ok hstep
    cases hout
    exact hinsert _ _ r (List.mem_filter.1 hr).2 hins hacc
  · exact foldl_keeps I _ (fun acc _ => hprovider acc _) _ hst

theorem importLegacy_keeps (hmark : ∀ st, I st → I { st with imported := true })
    (st : Store) (file : SettingsFile) (stamp : Int) (hst : I st) :
    I (st.importLegacy file stamp).2 := by
  unfold Store.importLegacy
  split
  · exact hst
  · dsimp only
    split
    · exact hst
    · split
      · exact hst
      · rename_i st' n hout
        refine hmark _ ?_
        split at hout
        · -- the file was read and parsed, and its rules written into the empty table
          obtain ⟨_, -, hout⟩ := bind_eq_ok hout
          obtain ⟨_, -, hout⟩ := bind_eq_ok hout
          exact importSettings_keeps I hprovider hinsert hout hst
        · cases hout
          exact hst

end Import

theorem importLegacy_rows (st : Store) (file : SettingsFile) (stamp : Int) :
    ∀ w ∈ (st.importLegacy file stamp).2.rules, w ∈ st.rules ∨ w.FitPattern := by
  refine importLegacy_keeps (fun st' => ∀ w ∈ st'.rules, w ∈ st.rules ∨ w.FitPattern)
    (fun _ _ h => h) (fun _ _ r hr hins h w hw => ?_) (fun _ h => h) st file stamp
    (fun w hw => .inl hw)
  rcases mem_insertRule hins w hw with hw | rfl
  · exact h w hw
  · exact .inr (Row.fitPattern_ofRule.2 (importable_fitPattern hr))

/-- Stored patterns stay well formed: importing the legacy settings file adds only rows with fit
patterns, and from a service whose cached and stored rules all have fit patterns every operation,
returning or failing, leaves a service whose rules all have fit patterns. -/
theorem patterns_stay_fit :
    (∀ (st : Store) (file : SettingsFile) (stamp : Int),
      ∀ w ∈ (st.importLegacy file stamp).2.rules, w ∈ st.rules ∨ w.FitPattern) ∧
    ∀ (o : Op) (s : Service), PatternsFit s → PatternsFit (perform o s) :=
  ⟨importLegacy_rows, fun o _ h => perform_fits h o⟩

/-- A new service keeps its patterns fit through the creation of a rule whose pattern has blanks
around it. -/
theorem padded_pattern_created_fit :
    let s : Service := { store := {}, registry := .fixed [⟨"p1", "P1", none, none⟩] }
    PatternsFit s ∧
      PatternsFit (perform (.create { provider := "p1", pattern := "  /v1/chat  " }) s) :=
  have h : PatternsFit { store := {}, registry := .fixed [⟨"p1", "P1", none, none⟩] } :=
    ⟨fun _ hr => absurd hr List.not_mem_nil, fun _ hw => absurd hw List.not_mem_nil⟩
  ⟨h, patterns_stay_fit.2 _ _ h⟩

end ProviderRouting
