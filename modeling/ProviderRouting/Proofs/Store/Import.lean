import ProviderRouting.Proofs.Service.Reopen

/-!
# The legacy import happens once, whole or not at all

Importing the legacy settings file into a store that has not imported before does one of three
things. With no file it answers `0` and changes nothing. Into a rule table that already holds
rules it answers `0` and only marks the import done. Into an empty table it reads the file and
writes its providers and the rules that pass the checks; a file that cannot be read or parsed,
or whose written rules repeat an id, fails, and the store is left as it was.

So the answers of a run of imports over one store (`Store.importEach`) are a count followed by
zeros, the store fixed after the first, or one error repeated, the store never changed
(`legacy_import_runs_once`). The rules written are the file's rules that pass the checks, with
trimmed patterns (`Imported.rules`); each provider id of the file is written once, from its last
entry, placed by that entry's index (`Imported.providers`).
-/

namespace ProviderRouting

open ProviderRouting.Text

namespace Store

def importEach (st : Store) (file : SettingsFile) : List Int → List (Except StoreError Nat) × Store
  | [] => ([], st)
  | t :: ts =>
    let (r, st₁) := st.importLegacy file t
    let (rs, st₂) := st₁.importEach file ts
    (r :: rs, st₂)

variable {st st₁ : Store} {file : SettingsFile}

theorem importEach_of_fixed {r : Except StoreError Nat} (h : ∀ t, st.importLegacy file t = (r, st)) :
    ∀ ts, st.importEach file ts = (ts.map fun _ => r, st)
  | [] => rfl
  | t :: ts => by
    simp only [importEach, h t, importEach_of_fixed h ts, List.map_cons]

theorem importEach_after_mark {t : Int} {r : Except StoreError Nat}
    (h : st.importLegacy file t = (r, st₁)) (hm : st₁.imported = true) (ts : List Int) :
    st.importEach file (t :: ts) = (r :: ts.map fun _ => .ok 0, st₁) := by
  have hidle := importEach_of_fixed
    (fun t' => (importLegacy_idle t' (.inl hm) : st₁.importLegacy file t' = (.ok 0, st₁))) ts
  simp only [importEach, h, hidle]

/-! ## Writing the providers -/

theorem putProvider_filter (st : Store) (p : Provider) (pid : String) :
    (st.putProvider p).providers.filter (·.id == pid) =
      if p.id = pid then [p] else st.providers.filter (·.id == pid) := by
  unfold putProvider
  dsimp only
  rw [List.filter_append, List.filter_filter]
  by_cases hp : p.id = pid
  · -- the old rows of the id are dropped, and the new one is the only one left
    subst hp
    simp
  · rw [if_neg hp]
    have hold : st.providers.filter (fun q => (q.id == pid) && (q.id != p.id)) =
        st.providers.filter (·.id == pid) := by
      refine List.filter_congr fun q _ => ?_
      by_cases hq : q.id = pid
      · simp [hq, Ne.symm hp]
      · simp [hq]
    simp [hold, hp]

theorem foldl_putProvider_filter {f : Store → (String × String) × Nat → Store} {stamp : Int}
    (hf : ∀ acc id name i, f acc ((id, name), i) =
      acc.putProvider { id := id, name := name, sortIndex := some (i : Int), createdAt := some stamp })
    (pid : String) (st : Store) (xs : List ((String × String) × Nat)) :
    (xs.foldl f st).providers.filter (·.id == pid) =
      match (xs.filter (·.1.1 == pid)).getLast? with
      | some ((_, name), i) =>
        [{ id := pid, name := name, sortIndex := some (i : Int), createdAt := some stamp }]
      | none => st.providers.filter (·.id == pid) := by
  induction xs using List.reverseRecOn with
  | nil => rfl
  | append_singleton xs x ih =>
    obtain ⟨⟨id, name⟩, i⟩ := x
    rw [List.foldl_append, List.foldl_cons, List.foldl_nil, hf, putProvider_filter,
      List.filter_append]
    by_cases hid : id = pid
    · subst hid
      simp
    · simp [hid, ih]

theorem foldl_putProvider_keeps {α : Type} {f : Store → α → Store}
    (hf : ∀ acc x, ∃ p, f acc x = acc.putProvider p) :
    ∀ (xs : List α) (st : Store), (xs.foldl f st).rules = st.rules ∧
      (xs.foldl f st).imported = st.imported
  | [], _ => ⟨rfl, rfl⟩
  | x :: xs, st => by
    obtain ⟨p, hp⟩ := hf st x
    rw [List.foldl_cons, hp]
    exact foldl_putProvider_keeps hf xs _

/-! ## Writing the rules -/

section Rules

variable {f : Store × Nat → Rule → Except StoreError (Store × Nat)} {g : Rule → Rule}

def uniqueViolation : StoreError := .database "UNIQUE constraint failed: routing_rules.id"

theorem insertRule_of_fresh {r : Rule} (h : ∀ w ∈ st.rules, w.id ≠ r.id) :
    st.insertRule r = .ok { st with rules := st.rules ++ [Row.ofRule r] } := by
  unfold insertRule
  rw [if_neg]
  intro hany
  obtain ⟨w, hw, he⟩ := List.any_eq_true.1 hany
  exact h w hw (by simpa using he)

theorem insertRule_of_held {r : Rule} {w : Row} (hw : w ∈ st.rules) (he : w.id = r.id) :
    st.insertRule r = .error uniqueViolation := by
  unfold insertRule
  rw [if_pos (List.any_eq_true.2 ⟨w, hw, by simp [he]⟩)]
  rfl

theorem fresh_append_row {rs : List Rule} {x : Rule} :
    (∀ r ∈ rs, ∀ w ∈ st.rules ++ [Row.ofRule x], w.id ≠ r.id) ↔
      x.id ∉ rs.map (·.id) ∧ ∀ r ∈ rs, ∀ w ∈ st.rules, w.id ≠ r.id := by
  constructor
  · intro h
    refine ⟨fun hmem => ?_, fun r hr w hw => h r hr w (List.mem_append_left _ hw)⟩
    obtain ⟨r, hr, he⟩ := List.mem_map.1 hmem
    exact h r hr (Row.ofRule x) (by simp) (by rw [Row.ofRule_id, he])
  · rintro ⟨hx, h⟩ r hr w hw
    rcases List.mem_append.1 hw with hw | hw
    · exact h r hr w hw
    · rw [List.mem_singleton.1 hw, Row.ofRule_id]
      exact fun he => hx (he ▸ List.mem_map_of_mem hr)

variable (hg : ∀ r, (g r).id = r.id)
  (hf : ∀ acc n r, f (acc, n) r = (acc.insertRule (g r)).map fun acc' => (acc', n + 1))
include hg hf

theorem foldlM_insertRule_ok : ∀ (rs : List Rule) (st : Store) (n : Nat),
    (rs.map (·.id)).Nodup → (∀ r ∈ rs, ∀ w ∈ st.rules, w.id ≠ r.id) →
    rs.foldlM f (st, n) =
      .ok ({ st with rules := st.rules ++ rs.map fun r => Row.ofRule (g r) }, n + rs.length)
  | [], st, n, _, _ => by simp [pure, Except.pure]
  | r :: rs, st, n, hnd, hfresh => by
    rw [List.map_cons, List.nodup_cons] at hnd
    rw [List.foldlM_cons, hf, insertRule_of_fresh fun w hw => (hg r).symm ▸ hfresh r
      List.mem_cons_self w hw]
    have hfresh' := fresh_append_row.2 ⟨by rw [hg]; exact hnd.1,
      fun r' hr' => hfresh r' (List.mem_cons_of_mem _ hr')⟩
    have := foldlM_insertRule_ok rs { st with rules := st.rules ++ [Row.ofRule (g r)] } (n + 1)
      hnd.2 hfresh'
    simp only [Except.map, bind, Except.bind] at this ⊢
    rw [this]
    simp only [List.append_assoc, List.singleton_append, List.length_cons, List.map_cons]
    congr 2
    omega

theorem foldlM_insertRule_error : ∀ (rs : List Rule) (st : Store) (n : Nat),
    ¬ ((rs.map (·.id)).Nodup ∧ ∀ r ∈ rs, ∀ w ∈ st.rules, w.id ≠ r.id) →
    rs.foldlM f (st, n) = .error uniqueViolation
  | [], st, n, h => absurd ⟨List.nodup_nil, fun _ h => nomatch h⟩ h
  | r :: rs, st, n, h => by
    rw [List.foldlM_cons, hf]
    by_cases hr : ∀ w ∈ st.rules, w.id ≠ (g r).id
    · rw [insertRule_of_fresh hr]
      refine foldlM_insertRule_error rs { st with rules := st.rules ++ [Row.ofRule (g r)] }
        (n + 1) fun ⟨hnd, hfresh⟩ => h ?_
      obtain ⟨hx, hfresh⟩ := fresh_append_row.1 hfresh
      rw [hg] at hx
      refine ⟨List.nodup_cons.2 ⟨hx, hnd⟩, fun r' hr' w hw => ?_⟩
      rcases List.mem_cons.1 hr' with rfl | hr'
      · exact hg r' ▸ hr w hw
      · exact hfresh r' hr' w hw
    · simp only [not_forall, not_not, exists_prop] at hr
      obtain ⟨w, hw, he⟩ := hr
      rw [insertRule_of_held hw he]
      rfl

end Rules

/-! ## One import -/

variable {l : Legacy}

theorem importSettings_ok (hnil : st.rules = [])
    (hnd : ((l.rules.filter importable).map (·.id)).Nodup) (stamp : Int) :
    ∃ st₁, st.importSettings l stamp = .ok (st₁, (l.rules.filter importable).length) ∧
      st₁.rules = (l.rules.filter importable).map
        (fun r => Row.ofRule { r with pattern := trimBlank r.pattern }) ∧
      (∀ pid, st₁.providers.filter (·.id == pid) =
        match (l.providers.zipIdx.filter (·.1.1 == pid)).getLast? with
        | some ((_, name), i) =>
          [{ id := pid, name := name, sortIndex := some (i : Int), createdAt := some stamp }]
        | none => st.providers.filter (·.id == pid)) ∧
      st₁.imported = st.imported := by
  unfold importSettings
  dsimp only
  have hkeep := foldl_putProvider_keeps (f := fun acc x => acc.putProvider
    { id := x.1.1, name := x.1.2, sortIndex := some (x.2 : Int), createdAt := some stamp })
    (fun _ _ => ⟨_, rfl⟩) l.providers.zipIdx st
  rw [foldlM_insertRule_ok (g := fun r => { r with pattern := trimBlank r.pattern }) (fun _ => rfl)
    ?step _ _ 0 hnd ?fresh, Nat.zero_add]
  · refine ⟨_, rfl, by rw [hkeep.1, hnil, List.nil_append], fun pid => ?_, hkeep.2⟩
    exact foldl_putProvider_filter (fun _ _ _ _ => rfl) pid st _
  · intro acc n r
    dsimp only
    cases acc.insertRule { r with pattern := trimBlank r.pattern } <;> rfl
  · intro r _ w hw
    rw [hkeep.1, hnil] at hw
    cases hw

theorem importSettings_error {stamp : Int}
    (hdup : ¬ ((l.rules.filter importable).map (·.id)).Nodup) :
    st.importSettings l stamp = .error uniqueViolation := by
  unfold importSettings
  dsimp only
  refine foldlM_insertRule_error (g := fun r => { r with pattern := trimBlank r.pattern })
    (fun _ => rfl) ?step _ _ 0 fun h => hdup h.1
  intro acc n r
  dsimp only
  cases acc.insertRule { r with pattern := trimBlank r.pattern } <;> rfl

/-- What importing the settings `l` into the empty rule table of `st` leaves: the rules that pass
the checks, with trimmed patterns, in file order; each provider id of the file once, from its
last entry and placed by that entry's index; the other providers as they were; and the mark. -/
structure Imported (st : Store) (l : Legacy) (stamp : Int) (st₁ : Store) : Prop where
  rules : st₁.rules =
    (l.rules.filter importable).map fun r => Row.ofRule { r with pattern := trimBlank r.pattern }
  providers : ∀ pid, st₁.providers.filter (·.id == pid) =
    match (l.providers.zipIdx.filter (·.1.1 == pid)).getLast? with
    | some ((_, name), i) =>
      [{ id := pid, name := name, sortIndex := some (i : Int), createdAt := some stamp }]
    | none => st.providers.filter (·.id == pid)
  marked : st₁.imported = true

/-! ## One import into a store that has not imported -/

section Fresh

variable (hfresh : st.imported = false)
include hfresh

theorem importLegacy_of_rules (hrules : st.rules ≠ []) (hfile : file ≠ .missing) (stamp : Int) :
    st.importLegacy file stamp = (.ok 0, { st with imported := true }) := by
  have hne : st.rules.isEmpty = false := List.isEmpty_eq_false_iff.2 hrules
  unfold importLegacy
  cases file with
  | missing => exact absurd rfl hfile
  | text s => simp [hfresh, hne]
  | unreadable e => simp [hfresh, hne]

theorem importLegacy_unreadable (hnil : st.rules = []) (e : StoreError) (stamp : Int) :
    st.importLegacy (.unreadable e) stamp = (.error e, st) := by
  unfold importLegacy
  simp [hfresh, hnil, bind, Except.bind]

theorem importLegacy_unparsed (hnil : st.rules = []) {s : String} {e : StoreError}
    (hp : Legacy.parse s = .error e) (stamp : Int) :
    st.importLegacy (.text s) stamp = (.error e, st) := by
  unfold importLegacy
  simp [hfresh, hnil, hp, bind, Except.bind]

theorem importLegacy_repeated (hnil : st.rules = []) {s : String} (hp : Legacy.parse s = .ok l)
    (hdup : ¬ ((l.rules.filter importable).map (·.id)).Nodup) (stamp : Int) :
    st.importLegacy (.text s) stamp = (.error uniqueViolation, st) := by
  rw [importLegacy_text hfresh hnil hp, importSettings_error hdup]

theorem importLegacy_imports (hnil : st.rules = []) {s : String} (hp : Legacy.parse s = .ok l)
    (hnd : ((l.rules.filter importable).map (·.id)).Nodup) (stamp : Int) :
    ∃ st₁, st.importLegacy (.text s) stamp = (.ok (l.rules.filter importable).length, st₁) ∧
      Imported st l stamp st₁ := by
  obtain ⟨st₁, hset, hrules, hprov, -⟩ := importSettings_ok hnil hnd stamp
  refine ⟨{ st₁ with imported := true }, ?_, ⟨hrules, hprov, rfl⟩⟩
  rw [importLegacy_text hfresh hnil hp, hset]

end Fresh

end Store

open Store in
/-- Repeated imports of one file into a store that has not imported: with no file, `0` every time
and nothing written. Otherwise either the first run answers a count and every later run `0`,
the store as the first left it; or every run fails with one error, the store never changed. A
count is `0` over a rule table that holds rules, and otherwise the file's rules that pass the
checks, written as `Imported` says; a failure is an unreadable or unparsable file, or a repeated
id among the rules written, over an empty rule table. -/
theorem legacy_import_runs_once (st : Store) (hfresh : st.imported = false) (file : SettingsFile)
    (t : Int) (ts : List Int) :
    (file = .missing → st.importEach file (t :: ts) = ((t :: ts).map fun _ => .ok 0, st)) ∧
    (file ≠ .missing →
      (∃ k st₁, st.importEach file (t :: ts) = (.ok k :: ts.map (fun _ => .ok 0), st₁) ∧
        (∀ t', st₁.importLegacy file t' = (.ok 0, st₁)) ∧
        (st.rules ≠ [] → k = 0 ∧ st₁ = { st with imported := true }) ∧
        (st.rules = [] → ∃ s l, file = .text s ∧ Legacy.parse s = .ok l ∧
          k = (l.rules.filter importable).length ∧ Imported st l t st₁)) ∨
      (∃ e, st.importEach file (t :: ts) = ((t :: ts).map fun _ => .error e, st) ∧
        (∀ t', st.importLegacy file t' = (.error e, st)) ∧ st.rules = [] ∧
        (file = .unreadable e ∨ ∃ s, file = .text s ∧ (Legacy.parse s = .error e ∨
          ∃ l, Legacy.parse s = .ok l ∧ ¬ ((l.rules.filter importable).map (·.id)).Nodup ∧
            e = .database "UNIQUE constraint failed: routing_rules.id")))) := by
  refine ⟨fun hm => ?_, fun hm => ?_⟩
  · subst hm
    exact importEach_of_fixed (fun t' => importLegacy_idle t' (.inr rfl)) _
  have hfails : ∀ e, (∀ t', st.importLegacy file t' = (.error e, st)) →
      st.importEach file (t :: ts) = ((t :: ts).map fun _ => .error e, st) :=
    fun e h => importEach_of_fixed h _
  by_cases hrules : st.rules = []
  · cases file with
    | missing => exact absurd rfl hm
    | unreadable e =>
      have hrun := importLegacy_unreadable hfresh hrules e
      exact .inr ⟨e, hfails e hrun, hrun, hrules, .inl rfl⟩
    | text s =>
      cases hp : Legacy.parse s with
      | error e =>
        have hrun := fun t' => importLegacy_unparsed hfresh hrules hp t'
        exact .inr ⟨e, hfails e hrun, hrun, hrules, .inr ⟨s, rfl, .inl hp⟩⟩
      | ok l =>
        by_cases hnd : ((l.rules.filter importable).map (·.id)).Nodup
        · obtain ⟨st₁, hrun, himp⟩ := importLegacy_imports hfresh hrules hp hnd t
          exact .inl ⟨_, st₁, importEach_after_mark hrun himp.marked ts,
            fun t' => importLegacy_idle t' (.inl himp.marked), fun h => absurd hrules h,
            fun _ => ⟨s, l, rfl, hp, rfl, himp⟩⟩
        · have hrun := fun t' => importLegacy_repeated hfresh hrules hp hnd t'
          exact .inr ⟨_, hfails _ hrun, hrun, hrules, .inr ⟨s, rfl, .inr ⟨l, hp, hnd, rfl⟩⟩⟩
  · -- a rule table that holds rules: the file is not read, and the import is marked done
    have hrun := importLegacy_of_rules hfresh hrules hm t
    exact .inl ⟨0, _, importEach_after_mark hrun rfl ts, fun t' => importLegacy_idle t' (.inl rfl),
      fun _ => ⟨rfl, rfl⟩, fun h => absurd h hrules⟩

/-- A settings file that cannot be read fails every import alike, over a new store, and the store
stays new. -/
theorem unreadable_settings_fail_alike :
    let e : StoreError := .io "Is a directory (os error 21)"
    ({} : Store).importEach (.unreadable e) [0, 1, 2] = ([.error e, .error e, .error e], {}) := by
  intro e
  rcases (legacy_import_runs_once {} rfl (.unreadable e) 0 [1, 2]).2 nofun with
    ⟨k, st₁, -, -, -, hread⟩ | ⟨e', hruns, -, -, hwhy⟩
  · obtain ⟨s, l, hfile, -⟩ := hread rfl
    cases hfile
  · -- the failure is the file's own
    rcases hwhy with hfile | ⟨s, hfile, -⟩
    · cases hfile
      exact hruns
    · cases hfile

end ProviderRouting
