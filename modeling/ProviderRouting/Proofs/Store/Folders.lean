import ProviderRouting.Store.Disk
import ProviderRouting.Proofs.Plan.Apart

/-!
# Opening the database twice

Nothing an opening does takes a folder away: it makes folders where nothing stands, and puts the
database where no folder stands (`FoldersKept`). So every path that was followed once is followed
the same way after, and every folder found stays found. The folders of the database are then
all there, and the database stands at its place, so a second opening makes nothing and finds
the disk as the first left it (`openDatabase_again`).
-/

namespace ProviderRouting

namespace Disk

variable {d d' d'' : Disk}

theorem node_put_self (d : Disk) (p : Place) (n : Node) :
    (d.put p n).node p = if p.all (· == "..") then some .folder else some n := by
  unfold Disk.node Disk.put
  split
  · rfl
  · -- the old entries at `p` are filtered out, so the new one is found
    have hold : (d.made.filter (·.1 != p)).find? (·.1 == p) = none :=
      List.find?_eq_none.2 fun x hx => by
        simp only [List.mem_filter, bne_iff_ne, ne_eq] at hx
        simpa using hx.2
    simp [List.find?_append, hold]

theorem node_put_ne (d : Disk) {p q : Place} (n : Node) (h : q ≠ p) :
    (d.put p n).node q = d.node q := by
  unfold Disk.node Disk.put
  split
  · rfl
  · -- an entry at `q` passes the filter that drops the entries at `p`
    have hpq : (fun x : Place × Node => decide ((x.1 != p) = true ∧ (x.1 == q) = true)) =
        (·.1 == q) := by
      funext x
      by_cases e : x.1 = q
      · simp [e, h]
      · simp [e]
    rw [List.find?_append, List.find?_filter, hpq]
    cases d.made.find? (·.1 == q) with
    | some x => rfl
    | none => simp [Ne.symm h]

def FoldersKept (d d' : Disk) : Prop :=
  ∀ p, d.node p = some .folder → d'.node p = some .folder

theorem FoldersKept.refl (d : Disk) : FoldersKept d d := fun _ h => h

theorem FoldersKept.trans (h₁ : FoldersKept d d') (h₂ : FoldersKept d' d'') :
    FoldersKept d d'' :=
  fun p h => h₂ p (h₁ p h)

theorem foldersKept_put {p : Place} {n : Node} (h : d.node p ≠ some .folder ∨ n = .folder) :
    FoldersKept d (d.put p n) := by
  intro q hq
  by_cases e : q = p
  · subst e
    rcases h with h | rfl
    · exact absurd hq h
    · rw [node_put_self]
      split <;> rfl
  · rw [node_put_ne d n e]
    exact hq

theorem FoldersKept.follow (h : FoldersKept d d') :
    ∀ {here r : Place} {steps : List String}, d.follow here steps = .ok r →
      d'.follow here steps = .ok r
  | _, _, [], hf => hf
  | here, _, s :: rest, hf => by
    unfold Disk.follow at hf ⊢
    dsimp only at hf ⊢
    split at hf
    · rename_i he
      rw [if_pos he]
      exact hf
    · rename_i he
      rw [if_neg he]
      split at hf
      · rename_i hn
        rw [h _ hn]
        exact h.follow hf
      · cases hf
      · cases hf

theorem isFolder_iff {steps : List String} :
    d.isFolder steps = true ↔ ∃ p, d.follow [] steps = .ok p ∧ d.node p = some .folder := by
  unfold Disk.isFolder
  cases d.follow [] steps with
  | error e => simp
  | ok p => simp

theorem FoldersKept.isFolder (h : FoldersKept d d') {steps : List String}
    (hf : d.isFolder steps = true) : d'.isFolder steps = true := by
  obtain ⟨p, hp, hn⟩ := isFolder_iff.1 hf
  exact isFolder_iff.2 ⟨p, h.follow hp, h p hn⟩

/-! ## Making folders -/

theorem makeFolder_ok {steps : List String} (h : d.makeFolder steps = .ok d') :
    FoldersKept d d' ∧ d'.isFolder steps = true := by
  unfold Disk.makeFolder at h
  obtain ⟨p, hp, h⟩ := bind_eq_ok h
  split at h
  · cases h
  · cases h
    have hkept : FoldersKept d (d.put p .folder) := foldersKept_put (.inr rfl)
    refine ⟨hkept, isFolder_iff.2 ⟨p, hkept.follow hp, ?_⟩⟩
    rw [node_put_self]
    split <;> rfl

theorem makeFolder_of_isFolder {steps : List String} (h : d.isFolder steps = true) :
    d.makeFolder steps = .error .alreadyExists := by
  obtain ⟨p, hp, hn⟩ := isFolder_iff.1 h
  unfold Disk.makeFolder
  rw [hp]
  dsimp only [bind, Except.bind]
  rw [hn]
  rfl

theorem makeFoldersBack_ok : ∀ {d d' : Disk} {l : List String}, d.makeFoldersBack l = .ok d' →
    FoldersKept d d' ∧ (l = [] ∨ d'.isFolder l.reverse = true)
  | d, _, [], h => by
    cases h
    exact ⟨FoldersKept.refl d, .inl rfl⟩
  | d, d', last :: above, h => by
    unfold Disk.makeFoldersBack at h
    dsimp only at h
    split at h
    · cases h
      obtain ⟨hk, hf⟩ := makeFolder_ok ‹_›
      exact ⟨hk, .inr hf⟩
    · -- a folder above was missing: those are made first, then the folder again
      obtain ⟨d₁, h₁, h⟩ := bind_eq_ok h
      have hk₁ := (makeFoldersBack_ok h₁).1
      split at h
      · cases h
        obtain ⟨hk, hf⟩ := makeFolder_ok ‹_›
        exact ⟨hk₁.trans hk, .inr hf⟩
      · split at h
        · cases h
          exact ⟨hk₁, .inr ‹_›⟩
        · cases h
    · split at h
      · cases h
        exact ⟨FoldersKept.refl _, .inr ‹_›⟩
      · cases h

theorem makeFoldersBack_of_isFolder {l : List String} (h : l = [] ∨ d.isFolder l.reverse = true) :
    d.makeFoldersBack l = .ok d := by
  cases l with
  | nil => rfl
  | cons last above =>
    have hf := h.resolve_left (List.cons_ne_nil _ _)
    unfold Disk.makeFoldersBack
    dsimp only
    rw [makeFolder_of_isFolder hf]
    simp only [hf, if_true]

/-! ## Opening the database -/

theorem openDatabaseAt_ok {p : Place} {path : String} (h : d.openDatabaseAt p path = .ok d') :
    FoldersKept d d' ∧ d'.openDatabaseAt p path = .ok d' := by
  unfold Disk.openDatabaseAt at h
  split at h
  · rename_i hdirs
    have hput : d.node p ≠ some .folder → FoldersKept d (d.put p .database) ∧
        (d.put p .database).openDatabaseAt p path = .ok (d.put p .database) := fun hn => by
      have hkept : FoldersKept d (d.put p .database) := foldersKept_put (.inl hn)
      refine ⟨hkept, ?_⟩
      have hall : ¬ p.all (· == "..") = true := fun ha => hn (by simp [Disk.node, ha])
      unfold Disk.openDatabaseAt
      rw [if_pos, node_put_self, if_neg hall]
      simp only [List.all_eq_true, beq_iff_eq] at hdirs ⊢
      exact fun q hq => hkept q (hdirs q hq)
    split at h
    · cases h
    · cases h
      refine ⟨FoldersKept.refl _, ?_⟩
      unfold Disk.openDatabaseAt
      rw [if_pos hdirs, ‹d.node p = some .database›]
    · split at h
      · cases h
        exact hput (by simp [‹d.node p = some (.text _)›])
      · cases h
    · cases h
      exact hput (by simp [‹d.node p = none›])
  · cases h

theorem openDatabase_again {path : String} (h : d.openDatabase path = .ok d') :
    d'.openDatabase path = .ok d' := by
  unfold Disk.openDatabase at h ⊢
  obtain ⟨d₁, h₁, h₂⟩ := bind_eq_ok h
  have hmade : d.makeFolders (folderSteps path) = .ok d₁ := by
    cases hm : d.makeFolders (folderSteps path) with
    | error e =>
      rw [hm] at h₁
      cases h₁
    | ok x =>
      rw [hm] at h₁
      cases h₁
      rfl
  have hfolders := (makeFoldersBack_ok hmade).2
  obtain ⟨hkept, hagain⟩ := openDatabaseAt_ok h₂
  have hremade : d'.makeFolders (folderSteps path) = .ok d' :=
    makeFoldersBack_of_isFolder (hfolders.imp_right hkept.isFolder)
  rw [hremade]
  dsimp only [Except.mapError, bind, Except.bind]
  exact hagain

end Disk

end ProviderRouting
