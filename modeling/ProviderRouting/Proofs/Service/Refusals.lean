import ProviderRouting.Proofs.Service.Run
import ProviderRouting.Proofs.Service.Defaults
import Mathlib.Tactic.Tauto

/-!
# The order of refusals

Every edit is checked before anything is written, and its checks come in a fixed order. A
`Check` is a condition together with the error reported when it fails. A list of checks passes
when every condition holds (`Passes`), and otherwise fails with the error of the first condition
that does not (`FailsFirst`); `Decides m l` says that `m` makes the checks `l` in this way.

A candidate rule is checked for a blank pattern, then for a generic path pattern inside a
reserved namespace, then against each rule of the guard in turn for a locked default it would
repeat, and last for its provider (`candidateChecks`). The namespace and default checks look at
the trimmed pattern. An update of a locked rule first checks that the patch keeps its pattern
and then its scope, both read off the raw patch, and then checks the patched rule as a candidate
(`updateChecks`). At the service the rule of an id is looked up first, then the providers are
read from the registry, and only then does the guard check the edit against them; an edit
refused at any of these steps leaves the service exactly as it was (`Refuses`).
-/

namespace ProviderRouting

open ProviderRouting.Text

/-- A condition an edit must meet, and the error it is refused with otherwise. -/
structure Check where
  holds : Prop
  error : RouterError

def Passes (l : List Check) : Prop := ∀ c ∈ l, c.holds

/-- The first check of the list that fails reports `e`. -/
inductive FailsFirst : List Check → RouterError → Prop
  | here {c : Check} {rest : List Check} : ¬ c.holds → FailsFirst (c :: rest) c.error
  | later {c : Check} {rest : List Check} {e : RouterError} :
      c.holds → FailsFirst rest e → FailsFirst (c :: rest) e

/-- `m` makes the checks of `l` in order: it succeeds when they all hold, and otherwise reports
the error of the first that fails. -/
structure Decides {α : Type} (m : Except RouterError α) (l : List Check) : Prop where
  ok : (∃ a, m = .ok a) ↔ Passes l
  error : ∀ e, m = .error e ↔ FailsFirst l e

section Checks

variable {c : Check} {l l' : List Check} {e e' : RouterError}

theorem passes_cons : Passes (c :: l) ↔ c.holds ∧ Passes l := List.forall_mem_cons

theorem passes_append : Passes (l ++ l') ↔ Passes l ∧ Passes l' := List.forall_mem_append

theorem FailsFirst.not_passes (h : FailsFirst l e) : ¬ Passes l := by
  induction h with
  | here hc => exact fun hp => hc (passes_cons.1 hp).1
  | later _ _ ih => exact fun hp => ih (passes_cons.1 hp).2

theorem FailsFirst.unique (h : FailsFirst l e) (h' : FailsFirst l e') : e = e' := by
  induction h generalizing e' with
  | here hc =>
    cases h' with
    | here _ => rfl
    | later hc' _ => exact absurd hc' hc
  | later hc _ ih =>
    cases h' with
    | here hc' => exact absurd hc hc'
    | later _ h' => exact ih h'

theorem failsFirst_cons :
    FailsFirst (c :: l) e ↔ (¬ c.holds ∧ e = c.error) ∨ (c.holds ∧ FailsFirst l e) := by
  constructor
  · intro h
    cases h with
    | here hc => exact .inl ⟨hc, rfl⟩
    | later hc h => exact .inr ⟨hc, h⟩
  · rintro (⟨hc, rfl⟩ | ⟨hc, h⟩)
    · exact .here hc
    · exact .later hc h

theorem failsFirst_append : FailsFirst (l ++ l') e ↔ FailsFirst l e ∨ (Passes l ∧ FailsFirst l' e) := by
  induction l with
  | nil =>
    have hnil : ¬ FailsFirst [] e := nofun
    simp [hnil, Passes]
  | cons c l ih =>
    rw [List.cons_append, failsFirst_cons, failsFirst_cons, ih, passes_cons]
    tauto

theorem Decides.of_run {α : Type} {m : Except RouterError α} (hok : ∀ a, m = .ok a → Passes l)
    (herr : ∀ e, m = .error e → FailsFirst l e) : Decides m l := by
  constructor
  · constructor
    · rintro ⟨a, ha⟩
      exact hok a ha
    · intro hp
      cases hm : m with
      | error e => exact absurd hp (herr e hm).not_passes
      | ok a => exact ⟨a, rfl⟩
  · intro e
    constructor
    · exact herr e
    · intro hf
      cases hm : m with
      | error e' => rw [(herr e' hm).unique hf]
      | ok a => exact absurd (hok a hm) hf.not_passes

theorem decides_pure {α : Type} (a : α) : Decides (pure a : Except RouterError α) [] :=
  Decides.of_run (fun _ _ => nofun) fun _ h => nomatch h

theorem Decides.of_failsFirst {α : Type} (h : FailsFirst l e) :
    Decides (.error e : Except RouterError α) l :=
  Decides.of_run (fun _ h => nomatch h) fun _ he => by
    cases he
    exact h

theorem Decides.skip {α : Type} {m : Except RouterError α} (hc : c.holds) (h : Decides m l) :
    Decides m (c :: l) :=
  Decides.of_run (fun a hm => passes_cons.2 ⟨hc, h.ok.1 ⟨a, hm⟩⟩)
    fun e hm => .later hc ((h.error e).1 hm)

theorem Decides.skipAll {α : Type} {m : Except RouterError α} (hp : Passes l) (h : Decides m l') :
    Decides m (l ++ l') := by
  induction l with
  | nil => exact h
  | cons c l ih =>
    have hp := passes_cons.1 hp
    exact Decides.skip hp.1 (ih hp.2)

theorem Decides.bind {α β : Type} {m : Except RouterError α} {f : α → Except RouterError β}
    (h₁ : Decides m l) (h₂ : ∀ a, m = .ok a → Decides (f a) l') : Decides (m >>= f) (l ++ l') := by
  apply Decides.of_run
  · intro b hb
    obtain ⟨a, ha, hf⟩ := bind_eq_ok hb
    exact passes_append.2 ⟨h₁.ok.1 ⟨a, ha⟩, (h₂ a ha).ok.1 ⟨b, hf⟩⟩
  · intro e he
    rw [failsFirst_append]
    cases hm : m with
    | error e₁ =>
      rw [hm] at he
      cases he
      exact .inl ((h₁.error e).1 hm)
    | ok a =>
      rw [hm] at he
      exact .inr ⟨h₁.ok.1 ⟨a, hm⟩, ((h₂ a hm).error e).1 he⟩

theorem decides_unless {bad : Prop} [Decidable bad] {good : Prop} (h : good ↔ ¬ bad)
    (e : RouterError) :
    Decides (if bad then .error e else .ok ()) [⟨good, e⟩] := by
  by_cases hb : bad
  · rw [if_pos hb]
    exact Decides.of_failsFirst (.here fun hg => h.1 hg hb)
  · rw [if_neg hb]
    exact Decides.skip (h.2 hb) (decides_pure ())

end Checks

/-! ## The guard's checks -/

def defaultChecks (rules : List Rule) (group : Group) (kind : RuleKind) (p : String)
    (exclude : Option String) : List Check :=
  rules.map fun x =>
    ⟨¬ (isProtected kind p = true ∧ some x.id ≠ exclude ∧ x.group = group ∧ x.locked = true ∧
      x.pattern = p), .locked x.id .createDefault⟩

def candidateChecks (g : Guard) (group : Group) (kind : RuleKind) (provider pattern : String)
    (exclude : Option String) : List Check :=
  ⟨isAllBlank pattern = false, .invalidPattern pattern⟩ ::
    ⟨¬ (group = .generic ∧ kind = .path ∧
        ∃ pre ∈ reservedPrefixes, (trimBlank pattern).startsWith pre = true),
      .namespaceCollision (trimBlank pattern)⟩ ::
    (defaultChecks g.rules group kind (trimBlank pattern) exclude ++
      [⟨∃ q ∈ g.providers, q.id = provider, .unknownProvider provider⟩])

def updateChecks (g : Guard) (e : Rule) (u : Patch) : List Check :=
  ⟨e.locked = true → ∀ pat ∈ u.pattern, trimBlank pat = e.pattern, .locked e.id .editPattern⟩ ::
    ⟨e.locked = true → (∀ k ∈ u.kind, k = e.kind) ∧ ∀ gr ∈ u.group, gr = e.group,
      .locked e.id .editScope⟩ ::
    candidateChecks g (u.apply e).group (u.apply e).kind (u.apply e).provider (u.apply e).pattern
      (some e.id)

section Guard

variable {group : Group} {kind : RuleKind} {p : String} {exclude : Option String}

theorem decides_validatePattern (pattern : String) :
    Decides (validatePattern pattern) [⟨isAllBlank pattern = false, .invalidPattern pattern⟩] :=
  decides_unless (by simp) _

theorem decides_checkNamespace (group : Group) (kind : RuleKind) (p : String) :
    Decides (checkNamespace group kind p)
      [⟨¬ (group = .generic ∧ kind = .path ∧ ∃ pre ∈ reservedPrefixes, p.startsWith pre = true),
        .namespaceCollision p⟩] :=
  decides_unless (by rw [List.any_eq_true]) _

theorem decides_checkProvider (g : Guard) (id : String) :
    Decides (g.checkProvider id) [⟨∃ q ∈ g.providers, q.id = id, .unknownProvider id⟩] := by
  unfold Guard.checkProvider
  by_cases hq : g.providers.any (·.id == id) = true
  · rw [if_pos hq]
    exact Decides.skip (by simpa using hq) (decides_pure ())
  · rw [if_neg hq]
    exact Decides.of_failsFirst (.here (by simpa using hq))

theorem heldBy_iff (x : Rule) :
    (some x.id != exclude && x.group == group && x.locked && x.pattern == p) = true ↔
      some x.id ≠ exclude ∧ x.group = group ∧ x.locked = true ∧ x.pattern = p := by
  simp [and_assoc]

theorem failsFirst_defaultChecks (hp : isProtected kind p = true) {held : Rule} (l' : List Check) :
    ∀ {rules : List Rule}, rules.find? (fun x => some x.id != exclude && x.group == group &&
        x.locked && x.pattern == p) = some held →
      FailsFirst (defaultChecks rules group kind p exclude ++ l') (.locked held.id .createDefault)
  | [], h => nomatch h
  | x :: rules, h => by
    rw [List.find?_cons] at h
    unfold defaultChecks
    rw [List.map_cons, List.cons_append]
    by_cases hx : (some x.id != exclude && x.group == group && x.locked && x.pattern == p) = true
    · rw [hx] at h
      cases h
      exact .here fun hc => hc ⟨hp, (heldBy_iff held).1 hx⟩
    · rw [Bool.not_eq_true] at hx
      rw [hx] at h
      exact .later (fun hc => by simp_all) (failsFirst_defaultChecks hp l' h)

theorem passes_defaultChecks {rules : List Rule}
    (h : isProtected kind p = true → rules.find? (fun x => some x.id != exclude &&
      x.group == group && x.locked && x.pattern == p) = none) :
    Passes (defaultChecks rules group kind p exclude) := by
  intro c hc
  obtain ⟨x, hx, rfl⟩ := List.mem_map.1 hc
  rintro ⟨hp, hheld⟩
  have := List.find?_eq_none.1 (h hp) x hx
  exact this ((heldBy_iff x).2 hheld)

theorem decides_checkCandidate (g : Guard) (group : Group) (kind : RuleKind)
    (provider pattern : String) (exclude : Option String) :
    Decides (g.checkCandidate group kind provider pattern exclude)
      (candidateChecks g group kind provider pattern exclude) := by
  unfold Guard.checkCandidate
  refine (decides_validatePattern pattern).bind fun _ _ => ?_
  refine (decides_checkNamespace group kind _).bind fun _ _ => ?_
  -- a protected pattern is checked against the guard's rules; any other passes them all
  by_cases hp : isProtected kind (trimBlank pattern) = true
  · rw [if_pos hp]
    cases hh : g.heldDefault group (trimBlank pattern) exclude with
    | none =>
      exact Decides.skipAll (passes_defaultChecks fun _ => hh) (decides_checkProvider g provider)
    | some held =>
      exact Decides.of_failsFirst (failsFirst_defaultChecks hp _ hh)
  · rw [if_neg hp]
    exact Decides.skipAll (passes_defaultChecks fun h => absurd h hp)
      (decides_checkProvider g provider)

theorem decides_keepsScope {β : Type} {e : Rule} {u : Patch} {l : List Check}
    {k : Except RouterError β} (hl : e.locked = true) (hk : Decides k l) :
    Decides (if (u.kind.any (· != e.kind) || u.group.any (· != e.group)) = true then
        (throw (.locked e.id .editScope) : Except RouterError PUnit) >>= fun _ => k
      else k)
      (⟨e.locked = true → (∀ x ∈ u.kind, x = e.kind) ∧ ∀ gr ∈ u.group, gr = e.group,
        .locked e.id .editScope⟩ :: l) := by
  by_cases hs : (u.kind.any (· != e.kind) || u.group.any (· != e.group)) = true
  · rw [if_pos hs]
    refine Decides.of_failsFirst (.here fun h => ?_)
    obtain ⟨hk, hg⟩ := h hl
    simp only [Bool.or_eq_true, Option.any_eq_true, bne_iff_ne] at hs
    rcases hs with ⟨x, hx, hne⟩ | ⟨gr, hgr, hne⟩
    · exact hne (hk x hx)
    · exact hne (hg gr hgr)
  · rw [if_neg hs]
    refine Decides.skip (fun _ => ?_) hk
    simp only [Bool.or_eq_true, Option.any_eq_true, bne_iff_ne, not_or, not_exists, not_and,
      not_not] at hs
    exact ⟨hs.1, hs.2⟩

theorem decides_checkUpdate (g : Guard) (e : Rule) (u : Patch) :
    Decides (g.checkUpdate e u) (updateChecks g e u) := by
  have hcand : Decides (g.checkCandidate (u.apply e).group (u.apply e).kind (u.apply e).provider
      (u.apply e).pattern (some e.id) >>= fun _ => pure (u.apply e))
      (candidateChecks g (u.apply e).group (u.apply e).kind (u.apply e).provider
        (u.apply e).pattern (some e.id)) := by
    have := (decides_checkCandidate g (u.apply e).group (u.apply e).kind (u.apply e).provider
      (u.apply e).pattern (some e.id)).bind fun _ _ => decides_pure (u.apply e)
    rwa [List.append_nil] at this
  unfold Guard.checkUpdate
  dsimp only
  by_cases hl : e.locked = true
  · rw [if_pos hl]
    cases hpat : u.pattern with
    | none =>
      exact Decides.skip (fun _ _ h => nomatch hpat ▸ h) (decides_keepsScope hl hcand)
    | some pat =>
      dsimp only
      by_cases hp : (trimBlank pat != e.pattern) = true
      · rw [if_pos hp]
        refine Decides.of_failsFirst (.here fun h => ?_)
        have := h hl pat (by rw [hpat]; rfl)
        simp [this] at hp
      · rw [if_neg hp]
        refine Decides.skip (fun _ pat' h => ?_) (decides_keepsScope hl hcand)
        rw [hpat, Option.mem_some_iff] at h
        subst h
        simpa using hp
  · rw [if_neg hl]
    exact Decides.skip (fun h => absurd h hl) (Decides.skip (fun h => absurd h hl) hcand)

theorem checkUpdate_eq_ok_iff (g : Guard) (e : Rule) (u : Patch) (c : Rule) :
    g.checkUpdate e u = .ok c ↔ Passes (updateChecks g e u) ∧ c = u.apply e := by
  have hd := decides_checkUpdate g e u
  constructor
  · intro h
    exact ⟨hd.ok.1 ⟨c, h⟩, (checkUpdate_spec h).1⟩
  · rintro ⟨hp, rfl⟩
    obtain ⟨c', hc'⟩ := hd.ok.2 hp
    rw [hc', (checkUpdate_spec hc').1]

theorem decides_checkCreate (g : Guard) (n : NewRule) :
    Decides (g.checkCreate n) (candidateChecks g n.group n.kind n.provider n.pattern none) :=
  decides_checkCandidate g n.group n.kind n.provider n.pattern none

end Guard

/-! ## Refusals at the service -/

def Refuses {α : Type} (m : ServiceM α) (s : Service) (e : RouterError) : Prop :=
  m.run.run s = (.error (.error e), s)

theorem Refuses.of_ends {α : Type} {m : ServiceM α} {s : Service} {e : RouterError}
    (h : Ends m (fun _ _ => False) (fun f t => f = .error e ∧ t = s) s) : Refuses m s e := by
  unfold Ends at h
  unfold Refuses
  revert h
  rcases m.run.run s with ⟨_ | a, t⟩
  · rintro ⟨rfl, rfl⟩
    rfl
  · exact False.elim

section Service

variable {s : Service} {id : String} {err : RouterError} {fault : StoreError}
  {ps : List Provider}

theorem create_unread {n : NewRule} (h : s.readProviders = .error fault) :
    Refuses (create n) s (.storage fault) := by
  apply Refuses.of_ends
  unfold create
  rw [ends_bind, ends_snapshot, ends_bind, ends_listProviders, h]
  exact ⟨rfl, rfl⟩

theorem create_refused {n : NewRule} (hread : s.readProviders = .ok ps)
    (h : Guard.checkCreate ⟨s.cache, ps⟩ n = .error err) : Refuses (create n) s err := by
  apply Refuses.of_ends
  unfold create
  rw [ends_bind, ends_snapshot, ends_bind, ends_listProviders, hread]
  dsimp only
  rw [Service.providers_of_read hread, ends_bind, ends_refuse, h]
  exact ⟨rfl, rfl⟩

theorem update_refused_missing {u : Patch} (h : s.cache.find? (·.id == id) = none) :
    Refuses (update id u) s (.notFound id) := by
  apply Refuses.of_ends
  unfold update
  rw [ends_bind, ends_snapshot, ends_bind, ends_findIn, h]
  exact ⟨rfl, rfl⟩

theorem update_unread {u : Patch} {x : Rule} (hx : s.cache.find? (·.id == id) = some x)
    (h : s.readProviders = .error fault) : Refuses (update id u) s (.storage fault) := by
  apply Refuses.of_ends
  unfold update
  rw [ends_bind, ends_snapshot, ends_bind, ends_findIn, hx]
  dsimp only
  rw [ends_bind, ends_listProviders, h]
  exact ⟨rfl, rfl⟩

theorem update_refused {u : Patch} {x : Rule} (hx : s.cache.find? (·.id == id) = some x)
    (hread : s.readProviders = .ok ps) (h : Guard.checkUpdate ⟨s.cache, ps⟩ x u = .error err) :
    Refuses (update id u) s err := by
  apply Refuses.of_ends
  unfold update
  rw [ends_bind, ends_snapshot, ends_bind, ends_findIn, hx]
  dsimp only
  rw [ends_bind, ends_listProviders, hread]
  dsimp only
  rw [Service.providers_of_read hread, ends_bind, ends_refuse, h]
  exact ⟨rfl, rfl⟩

theorem delete_refused_missing (h : s.cache.find? (·.id == id) = none) :
    Refuses (delete id) s (.notFound id) := by
  apply Refuses.of_ends
  unfold delete
  rw [ends_bind, ends_snapshot, ends_bind, ends_findIn, h]
  exact ⟨rfl, rfl⟩

theorem delete_refused {x : Rule} (hx : s.cache.find? (·.id == id) = some x)
    (h : Guard.checkDelete x = .error err) : Refuses (delete id) s err := by
  apply Refuses.of_ends
  unfold delete
  rw [ends_bind, ends_snapshot, ends_bind, ends_findIn, hx]
  dsimp only
  rw [ends_bind, ends_refuse, h]
  exact ⟨rfl, rfl⟩

theorem duplicate_refused_missing (h : s.cache.find? (·.id == id) = none) :
    Refuses (duplicate id) s (.notFound id) := by
  apply Refuses.of_ends
  unfold duplicate
  rw [ends_bind, ends_snapshot, ends_bind, ends_findIn, h]
  exact ⟨rfl, rfl⟩

theorem duplicate_unread {x : Rule} (hx : s.cache.find? (·.id == id) = some x)
    (h : s.readProviders = .error fault) : Refuses (duplicate id) s (.storage fault) := by
  apply Refuses.of_ends
  unfold duplicate
  rw [ends_bind, ends_snapshot, ends_bind, ends_findIn, hx]
  dsimp only
  rw [ends_bind, ends_listProviders, h]
  exact ⟨rfl, rfl⟩

theorem duplicate_refused {x : Rule} (hx : s.cache.find? (·.id == id) = some x)
    (hread : s.readProviders = .ok ps) (h : Guard.checkDuplicate ⟨s.cache, ps⟩ x = .error err) :
    Refuses (duplicate id) s err := by
  apply Refuses.of_ends
  unfold duplicate
  rw [ends_bind, ends_snapshot, ends_bind, ends_findIn, hx]
  dsimp only
  rw [ends_bind, ends_listProviders, hread]
  dsimp only
  rw [Service.providers_of_read hread, ends_bind, ends_refuse, h]
  exact ⟨rfl, rfl⟩

end Service

/-- An update is decided by its checks in order and gives the patched rule; a creation is decided
by the candidate checks with no rule excluded. The service refuses an edit of an id it does not
cache first, then a failed read of the registry (update, copy and creation read it; a deletion
does not), and then what the guard finds against the providers read; each refusal leaves the
service as it was. -/
theorem edits_refused_in_order (g : Guard) (e : Rule) (u : Patch) (n : NewRule) :
    (∀ c, g.checkUpdate e u = .ok c ↔ Passes (updateChecks g e u) ∧ c = u.apply e) ∧
    (∀ err, g.checkUpdate e u = .error err ↔ FailsFirst (updateChecks g e u) err) ∧
    Decides (g.checkCreate n) (candidateChecks g n.group n.kind n.provider n.pattern none) ∧
    ∀ (s : Service) (id : String),
      (s.cache.find? (·.id == id) = none →
        Refuses (update id u) s (.notFound id) ∧ Refuses (delete id) s (.notFound id) ∧
          Refuses (duplicate id) s (.notFound id)) ∧
      (∀ x, s.cache.find? (·.id == id) = some x →
        (∀ fault, s.readProviders = .error fault →
          Refuses (update id u) s (.storage fault) ∧ Refuses (duplicate id) s (.storage fault)) ∧
        (∀ ps err, s.readProviders = .ok ps →
          (Guard.checkUpdate ⟨s.cache, ps⟩ x u = .error err → Refuses (update id u) s err) ∧
          (Guard.checkDuplicate ⟨s.cache, ps⟩ x = .error err → Refuses (duplicate id) s err)) ∧
        ∀ err, Guard.checkDelete x = .error err → Refuses (delete id) s err) ∧
      (∀ fault, s.readProviders = .error fault → Refuses (create n) s (.storage fault)) ∧
      ∀ ps err, s.readProviders = .ok ps → Guard.checkCreate ⟨s.cache, ps⟩ n = .error err →
        Refuses (create n) s err :=
  ⟨checkUpdate_eq_ok_iff g e u, (decides_checkUpdate g e u).error, decides_checkCreate g n,
    fun _ _ => ⟨fun h => ⟨update_refused_missing h, delete_refused_missing h,
      duplicate_refused_missing h⟩,
      fun _ hx => ⟨fun _ h => ⟨update_unread hx h, duplicate_unread hx h⟩,
        fun _ _ hread => ⟨update_refused hx hread, duplicate_refused hx hread⟩,
        fun _ => delete_refused hx⟩,
      fun _ => create_unread, fun _ _ => create_refused⟩⟩

/-- Three refusals whose order matters: a blank pattern on a default is refused as an edit of its
pattern, not as a blank one; an unlocked path rule moved to the generic group with a pattern in a
reserved namespace is refused for the namespace; and where the store's provider table cannot be
read, the same blank pattern on the cached default is refused for the read, before the guard
sees it. -/
theorem edit_before_blank_refusals :
    let at2025 : Time.Instant := ⟨1735689600, 0⟩
    let d : Rule :=
      { id := "d", kind := .path, group := .openai, provider := "p1", pattern := "/api/openai/*",
        rewrite := none, priority := 1, enabled := true, createdAt := at2025,
        updatedAt := at2025 }
    let r : Rule := { d with id := "r", pattern := "/api/openai/v1" }
    let g : Guard := ⟨[d, r], [{ id := "p1", name := "p1" }]⟩
    let s : Service :=
      { store := {}, registry := .stored, cache := [d], faults := { registry := some .lockPoisoned } }
    g.checkUpdate d { pattern := some " " } = .error (.locked "d" .editPattern) ∧
      g.checkUpdate r { group := some .generic } = .error (.namespaceCollision "/api/openai/v1") ∧
      Refuses (update "d" { pattern := some " " }) s (.storage .lockPoisoned) := by
  intro at2025 d r g s
  let n : NewRule := { kind := .path, group := .openai, provider := "p1", pattern := "/v1/x" }
  refine ⟨?_, ?_, ?_⟩
  · refine ((edits_refused_in_order g d { pattern := some " " } n).2.1 _).2 (.here fun h => ?_)
    have hkept := h rfl " " rfl
    revert hkept
    decide +kernel
  · -- the rule is unlocked and its pattern not blank, so the namespace check is the first to fail
    have hf : FailsFirst (updateChecks g r { group := some .generic })
        (.namespaceCollision (trimBlank "/api/openai/v1")) :=
      .later (fun h => absurd h (by decide +kernel)) (.later (fun h => absurd h (by decide +kernel))
        (.later (by decide +kernel)
          (.here fun h => h ⟨rfl, rfl, "/api/openai", by decide, by decide +kernel⟩)))
    have htrim : trimBlank "/api/openai/v1" = "/api/openai/v1" := by decide +kernel
    rw [htrim] at hf
    exact ((edits_refused_in_order g r { group := some .generic } n).2.1 _).2 hf
  · -- the default is cached, and the registry read fails first
    have hfound : s.cache.find? (·.id == "d") = some d := by decide
    exact ((((edits_refused_in_order g d { pattern := some " " } n).2.2.2 s "d").2.1 d
      hfound).1 _ rfl).1

end ProviderRouting
