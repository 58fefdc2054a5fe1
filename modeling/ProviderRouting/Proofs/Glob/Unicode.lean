import ProviderRouting.Proofs.Glob.Backtrack
import Mathlib.Tactic.SplitIfs

/-!
# Matching bytes is matching characters

`Glob.accepts` runs the scan on the UTF-8 bytes of pattern and value. The star is the single
byte `0x2A` and no other character's bytes contain it, so the byte pieces of a pattern are the
bytes of its character pieces (`splitOn_bytes`). A cut of the value's bytes that lands before a
nonempty piece lands before a lead byte, hence between two characters (`split_at_lead`), so the
runs between pieces are runs of whole characters. Together with `scan_iff` this gives
`accepts_iff_spelled`: a value matches exactly when it is the pattern's literal pieces in order
with any text between them.
-/

namespace ProviderRouting.Glob

theorem toList_loop (bs : ByteArray) (i : Nat) (r : List UInt8) :
    ByteArray.toList.loop bs i r = r.reverse ++ bs.data.toList.drop i := by
  fun_induction ByteArray.toList.loop bs i r with
  | case1 i r hi ih =>
    have hi' : i < bs.data.toList.length := by simpa using hi
    rw [ih, List.reverse_cons, List.append_assoc, List.singleton_append,
      List.drop_eq_getElem_cons hi']
    simp [ByteArray.get!, getElem!_pos bs.data i hi]
  | case2 i r hi =>
    have hi' : bs.data.toList.length ≤ i := by simpa using hi
    simp [List.drop_eq_nil_of_le hi']

theorem toList_toUTF8 (s : String) : s.toUTF8.toList = s.toList.flatMap String.utf8EncodeChar := by
  rw [ByteArray.toList, toList_loop, String.toUTF8_eq_toByteArray, ← String.utf8Encode_toList]
  simp [List.utf8Encode]

def IsTail (b : UInt8) : Prop := 128 ≤ b.toNat ∧ b.toNat < 192

theorem utf8EncodeChar_shape (c : Char) :
    ∃ b bs, String.utf8EncodeChar c = b :: bs ∧ ¬ IsTail b ∧ ∀ x ∈ bs, IsTail x := by
  have hc := c.valid
  simp only [String.utf8EncodeChar]
  split_ifs with h1 h2 h3
  · exact ⟨_, [], rfl, by simp only [IsTail, UInt8.toNat_ofNat']; omega, by simp⟩
  · exact ⟨_, _, rfl, by simp only [IsTail, UInt8.toNat_ofNat']; omega,
      by simp only [IsTail, UInt8.toNat_ofNat', List.mem_singleton, forall_eq]; omega⟩
  · refine ⟨_, _, rfl, by simp only [IsTail, UInt8.toNat_ofNat']; omega, ?_⟩
    simp only [IsTail, UInt8.toNat_ofNat', List.mem_cons, List.not_mem_nil, forall_eq_or_imp,
      false_imp_iff, implies_true, and_true]
    omega
  · refine ⟨_, _, rfl, by simp only [IsTail, UInt8.toNat_ofNat']; omega, ?_⟩
    simp only [IsTail, UInt8.toNat_ofNat', List.mem_cons, List.not_mem_nil, forall_eq_or_imp,
      false_imp_iff, implies_true, and_true]
    omega

theorem star_mem_utf8EncodeChar {c : Char} : star ∈ String.utf8EncodeChar c ↔ c = '*' := by
  constructor
  · intro h
    have hv : c.val.toNat = 42 := by
      simp only [String.utf8EncodeChar] at h
      split_ifs at h with h1 h2 h3 <;>
        simp only [star, List.mem_cons, List.not_mem_nil, or_false, ← UInt8.toNat_inj,
          UInt8.toNat_ofNat', UInt8.toNat_ofNat] at h <;> omega
    exact Char.ext (UInt32.toNat_inj.1 (by rw [hv]; rfl))
  · rintro rfl; decide

def bytes (l : List Char) : List UInt8 := l.flatMap String.utf8EncodeChar

@[simp] theorem bytes_nil : bytes [] = [] := rfl

theorem bytes_cons (c : Char) (l : List Char) :
    bytes (c :: l) = String.utf8EncodeChar c ++ bytes l := rfl

@[simp] theorem bytes_append (l m : List Char) : bytes (l ++ m) = bytes l ++ bytes m := by
  simp [bytes]

theorem prefix_of_bytes {l m : List Char} {r : List UInt8} (h : bytes l ++ r = bytes m) :
    ∃ m', m = l ++ m' ∧ bytes m' = r := by
  have hp : l <+: m := List.isPrefix_of_utf8Encode_append_eq_utf8Encode r.toByteArray (by
    simp only [List.utf8Encode, ← List.toByteArray_append]
    exact congrArg List.toByteArray h)
  obtain ⟨m', rfl⟩ := hp
  exact ⟨m', rfl, (List.append_cancel_left (h.trans (bytes_append l m'))).symm⟩

theorem bytes_inj {l m : List Char} (h : bytes l = bytes m) : l = m := by
  obtain ⟨m', rfl, hm'⟩ := prefix_of_bytes (l := l) (m := m) (r := []) (by rw [List.append_nil, h])
  cases m' with
  | nil => simp
  | cons c m' =>
    obtain ⟨b, bs, hb, -⟩ := utf8EncodeChar_shape c
    simp [bytes_cons, hb] at hm'

theorem split_at_lead {V : List Char} {s r : List UInt8} {b : UInt8} (hb : ¬ IsTail b)
    (h : bytes V = s ++ b :: r) : ∃ S R, V = S ++ R ∧ bytes S = s ∧ bytes R = b :: r := by
  induction V generalizing s with
  | nil => simp at h
  | cons c V ih =>
    cases s with
    | nil => exact ⟨[], c :: V, rfl, rfl, h⟩
    | cons x s =>
      rw [bytes_cons] at h
      rcases List.append_eq_append_iff.1 h.symm with ⟨a', he, hr⟩ | ⟨c', hs, hV⟩
      · cases a' with
        | nil => exact ⟨[c], V, rfl, by simpa [bytes_cons] using he, by simpa using hr.symm⟩
        | cons y a' =>
          obtain ⟨b0, bs, hc, -, htail⟩ := utf8EncodeChar_shape c
          rw [hc] at he
          simp only [List.cons_append, List.cons.injEq] at he hr
          exact absurd (htail b (he.2 ▸ by simp [hr.1])) hb
      · obtain ⟨S, R, rfl, hS, hR⟩ := ih hV
        exact ⟨c :: S, R, rfl, by rw [bytes_cons, hS, hs], hR⟩

theorem splitOn_literal_append {α : Type} [DecidableEq α] {w : α} {e : List α} (he : w ∉ e)
    (x : List α) : (e ++ x).splitOn w = (x.splitOn w).modifyHead (e ++ ·) := by
  induction e with
  | nil => rw [List.nil_append]; cases x.splitOn w <;> rfl
  | cons a e ih =>
    have ha : a ≠ w := fun h => he (h ▸ List.mem_cons_self)
    rw [List.cons_append, List.splitOn_cons_eq_if_modifyHead, if_neg (by simpa using ha),
      ih (fun h => he (List.mem_cons_of_mem _ h)), List.modifyHead_modifyHead]
    rfl

theorem splitOn_bytes (P : List Char) : (bytes P).splitOn star = (P.splitOn '*').map bytes := by
  induction P with
  | nil => rfl
  | cons c P ih =>
    obtain ⟨m, ls, hm⟩ := List.exists_cons_of_ne_nil (List.splitOn_ne_nil '*' P)
    rw [bytes_cons, List.splitOn_cons_eq_if_modifyHead]
    by_cases hc : c = '*'
    · subst hc
      have : String.utf8EncodeChar '*' = [star] := by decide
      rw [this, List.singleton_append, List.splitOn_cons_eq_if_modifyHead, ih]
      simp
    · rw [splitOn_literal_append (fun h => hc (star_mem_utf8EncodeChar.1 h)), ih, hm,
        if_neg (by simpa using hc)]
      simp [bytes_cons]

def Gapped {α : Type} (ls : List (List α)) (v : List α) : Prop :=
  ∃ s rest, v = s ++ rest ∧ Spelled ls rest

theorem spelled_bytes {ls : List (List Char)} {V : List Char} (h : Spelled ls V) :
    Spelled (ls.map bytes) (bytes V) := by
  induction ls generalizing V with
  | nil => exact h.elim
  | cons l ls ih =>
    cases ls with
    | nil => simp only [Spelled] at h ⊢; rw [h]; rfl
    | cons m ls =>
      obtain ⟨s, rest, rfl, h⟩ := h
      exact ⟨bytes s, bytes rest, by simp, ih h⟩

theorem gapped_of_bytes {ls : List (List Char)} {V : List Char} (hls : ls ≠ [])
    (h : Gapped (ls.map bytes) (bytes V)) : Gapped ls V := by
  induction ls generalizing V with
  | nil => exact absurd rfl hls
  | cons m ls ih =>
    obtain ⟨s, rest, hV, hrest⟩ := h
    cases m with
    | nil =>
      cases ls with
      | nil => exact ⟨V, [], by simp, rfl⟩
      | cons m2 ls =>
        obtain ⟨s2, rest2, rfl, h2⟩ := hrest
        obtain ⟨S, R, rfl, hR⟩ := ih (List.cons_ne_nil _ _)
          ⟨s ++ s2, rest2, by simpa using hV, h2⟩
        exact ⟨S, R, rfl, [], R, rfl, hR⟩
    | cons c m =>
      obtain ⟨b, bs, hc, hb, -⟩ := utf8EncodeChar_shape c
      have hlead : ∀ t, bytes (c :: m) ++ t = b :: (bs ++ bytes m ++ t) := by
        intro t; simp [bytes_cons, hc]
      cases ls with
      | nil =>
        simp only [List.map_cons, List.map_nil, Spelled] at hrest
        subst hrest
        obtain ⟨S, R, rfl, -, hR⟩ := split_at_lead hb (by rw [hV, ← List.append_nil (bytes _), hlead])
        exact ⟨S, R, rfl, bytes_inj (by rw [hR, ← hlead, List.append_nil])⟩
      | cons m2 ls =>
        obtain ⟨s2, rest2, rfl, h2⟩ := hrest
        obtain ⟨S, R, rfl, -, hR⟩ := split_at_lead hb (by rw [hV, List.append_assoc, hlead])
        obtain ⟨R', rfl, hR'⟩ := prefix_of_bytes (l := c :: m) (m := R) (r := s2 ++ rest2)
          (by rw [hR, ← hlead])
        obtain ⟨S2, R2, rfl, hR2⟩ := ih (List.cons_ne_nil _ _) ⟨s2, rest2, hR', h2⟩
        exact ⟨S, (c :: m) ++ S2 ++ R2, by simp, S2, R2, rfl, hR2⟩

theorem spelled_of_bytes {ls : List (List Char)} {V : List Char}
    (h : Spelled (ls.map bytes) (bytes V)) : Spelled ls V := by
  match ls, h with
  | [l], h => exact bytes_inj h
  | l :: m :: ls, ⟨s, rest, hV, hrest⟩ =>
    obtain ⟨V', rfl, hV'⟩ := prefix_of_bytes (l := l) (m := V) (r := s ++ rest)
      (by rw [hV, List.append_assoc])
    obtain ⟨S, R, rfl, hR⟩ := gapped_of_bytes (List.cons_ne_nil m ls) ⟨s, rest, hV', hrest⟩
    exact ⟨S, R, by simp, hR⟩

/-- A pattern matches a value exactly when, writing the pattern as its literal pieces
`l₀ * l₁ * … * lₖ`, the value is `l₀ ++ s₁ ++ l₁ ++ … ++ sₖ ++ lₖ` for some texts `sᵢ`; with no
star, when the value is the pattern. -/
theorem accepts_iff_spelled (pattern value : String) :
    accepts pattern value = true ↔ Spelled (pattern.toList.splitOn '*') value.toList := by
  rw [accepts, toList_toUTF8, toList_toUTF8, scan_iff (show Aligned none _ from trivial)]
  simp only [Later, or_false]
  rw [fits_iff_spelled]
  change Spelled ((bytes pattern.toList).splitOn star) (bytes value.toList) ↔ _
  rw [splitOn_bytes]
  exact ⟨spelled_of_bytes, spelled_bytes⟩

end ProviderRouting.Glob
