import ProviderRouting.Json.Decode

/-!
# Reading records and the values written for them

`Decoder.record` checks an object as a whole before it builds anything: every member whose
key names a field must pass that field's check (`firstBadMember`), and every required field
must be present (`firstMissing`). When both hold, the record is whatever `build` makes of the
members (`Decoder.record_obj`). The two checks are discharged member by member and field by
field (`firstBadMember_eq_none`, `firstMissing_eq_none`).

The rest are the readers of the values the encoders write: strings, booleans, 32-bit
integers, optional strings and lists of strings. `ReadsBack` names the law a wire form keeps,
decoding what was encoded, and a form that keeps it is injective (`ReadsBack.injective`).
-/

namespace ProviderRouting.Json

def ReadsBack {α : Type} (decode : Decoder α) (encode : α → Value) (valid : α → Prop) : Prop :=
  ∀ x, valid x → decode (encode x) = .ok x

theorem ReadsBack.injective {α : Type} {decode : Decoder α} {encode : α → Value}
    {valid : α → Prop} (h : ReadsBack decode encode valid) {x y : α} (hx : valid x)
    (hy : valid y) (he : encode x = encode y) : x = y := by
  have hxy : (Except.ok x : Except DecodeError α) = .ok y := by
    rw [← h x hx, ← h y hy, he]
  exact Except.ok.inj hxy

/-! ## Objects

An object keeps its members sorted by key, so where `Object.insert` puts a key is decided by
comparing it with the keys already there.
-/

theorem Object.insert_nil (k : String) (v : Value) : Object.insert k v [] = [(k, v)] := rfl

theorem Object.insert_cons_of_lt {k k' : String} (h : k < k') (v v' : Value)
    (rest : List (String × Value)) :
    Object.insert k v ((k', v') :: rest) = (k, v) :: (k', v') :: rest := by
  have hne : k ≠ k' := fun e => String.lt_irrefl k (e ▸ h)
  simp only [Object.insert, if_neg hne, if_pos h]

theorem Object.insert_cons_of_gt {k k' : String} (h : k' < k) (v v' : Value)
    (rest : List (String × Value)) :
    Object.insert k v ((k', v') :: rest) = (k', v') :: Object.insert k v rest := by
  have hne : k ≠ k' := fun e => String.lt_irrefl k (e ▸ h)
  simp only [Object.insert, if_neg hne, if_neg (String.lt_asymm h)]

/-! ## Records -/

@[simp] theorem Field.of_name {α : Type} (n : String) (a : Absent) (d : Decoder α) :
    (Field.of n a d).name = n := rfl

@[simp] theorem Field.of_absent {α : Type} (n : String) (a : Absent) (d : Decoder α) :
    (Field.of n a d).absent = a := rfl

theorem firstBadMember_eq_none {fields : List Field} :
    ∀ {ms : List (String × Value)},
      (∀ p ∈ ms, ∀ f ∈ fields.find? (·.name == p.1), f.check p.2 = none) →
      firstBadMember fields ms = none
  | [], _ => rfl
  | (k, v) :: rest, h => by
    have hrest := firstBadMember_eq_none (fun p hp => h p (List.mem_cons_of_mem _ hp))
    unfold firstBadMember
    split
    · rename_i f hf
      rw [h (k, v) List.mem_cons_self f hf]
      exact hrest
    · exact hrest

theorem firstMissing_eq_none {ms : List (String × Value)} :
    ∀ {fields : List Field},
      (∀ f ∈ fields, f.absent = .required → (ms.lookup f.name).isSome) →
      firstMissing ms fields = none
  | [], _ => rfl
  | f :: rest, h => by
    have hrest := firstMissing_eq_none (fun g hg => h g (List.mem_cons_of_mem _ hg))
    unfold firstMissing
    split
    · rename_i hreq hnone
      have := h f List.mem_cons_self hreq
      simp [hnone] at this
    · exact hrest

theorem Decoder.record_obj {α : Type} {what : String} {fields : List Field}
    {build : List (String × Value) → Except DecodeError α} {ms : List (String × Value)}
    (hbad : ∀ p ∈ ms, ∀ f ∈ fields.find? (·.name == p.1), f.check p.2 = none)
    (hmiss : ∀ f ∈ fields, f.absent = .required → (ms.lookup f.name).isSome) :
    Decoder.record what fields build (.obj ms) = build ms := by
  simp [Decoder.record, recordMembers, firstBadMember_eq_none hbad, firstMissing_eq_none hmiss,
    bind, Except.bind]

/-! ## Readers of written values -/

@[simp] theorem Decoder.string_str (s : String) : Decoder.string (.str s) = .ok s := rfl

@[simp] theorem Decoder.bool_bool (b : Bool) : Decoder.bool (.bool b) = .ok b := rfl

theorem Decoder.i32_int {n : Int} (h : -2147483648 ≤ n ∧ n ≤ 2147483647) :
    Decoder.i32 (Value.int n) = .ok n := by
  by_cases h0 : 0 ≤ n
  · simp [Value.int, h0, Decoder.i32, Decoder.int, Int.toNat_of_nonneg h0, h.2]
  · simp [Value.int, h0, Decoder.i32, Decoder.int, h.1]

@[simp] theorem Decoder.option_ofOption (s : Option String) :
    Decoder.option Decoder.string (Value.ofOption s) = .ok s := by
  cases s <;> rfl

@[simp] theorem Decoder.items_strs (ids : List String) :
    Decoder.items Decoder.string (ids.map .str) = .ok ids := by
  induction ids with
  | nil => rfl
  | cons id ids ih => simp [Decoder.items, ih, bind, Except.bind, pure, Except.pure]

@[simp] theorem Decoder.list_strs (ids : List String) :
    Decoder.list Decoder.string (.arr (ids.map .str)) = .ok ids :=
  Decoder.items_strs ids

end ProviderRouting.Json
