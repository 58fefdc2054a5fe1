/-!
# Glob patterns

A pattern matches a value when the value can be cut into the pattern's literal pieces, in order,
with anything at all (including nothing) where the pattern has a `*`. Matching is exact and works
on the UTF-8 bytes of both texts, so letter case and composed or decomposed accents count.

`Glob.scan` is the matcher: a left-to-right scan that remembers only the latest `*`, and on a
mismatch lets that star swallow one more byte and resumes after it. Its state is the pattern and
value still to match and, after a star, the pattern after that star together with the bytes taken
since the star (`pre`). The scan ends because the pair (bytes left from the star's restart point,
bytes left of pattern and value) falls at every step.
-/

namespace ProviderRouting.Glob

def star : UInt8 := 42

/-- The bytes left from the latest star's restart point: all of the value when no star has been
seen, else the bytes taken since the star and those still to match. -/
def backLength (back : Option (List UInt8 × List UInt8)) (val : List UInt8) : Nat :=
  match back with
  | none => val.length + 1
  | some (_, pre) => pre.length + val.length

/-- After a mismatch the latest star takes one more byte: the scan resumes with the pattern
after the star and the value after that byte. With no star seen there is nothing to resume. -/
def restart (back : Option (List UInt8 × List UInt8)) (c : UInt8) (vs : List UInt8) :
    Option (List UInt8 × List UInt8) :=
  match back with
  | none => none
  | some (q, pre) => some (q, (pre ++ c :: vs).tail)

theorem restart_length {back : Option (List UInt8 × List UInt8)} {c : UInt8}
    {vs q rest : List UInt8} (h : restart back c vs = some (q, rest)) :
    rest.length < backLength back (c :: vs) := by
  cases back with
  | none => simp [restart] at h
  | some b =>
    obtain ⟨q', pre⟩ := b
    simp only [restart, Option.some.injEq, Prod.mk.injEq] at h
    obtain ⟨rfl, rfl⟩ := h
    simp [backLength]

/-- Matches pattern bytes against value bytes. `back` is the pattern after the latest star and
the value bytes read since that star took its share. -/
def scan (pat val : List UInt8) (back : Option (List UInt8 × List UInt8)) : Bool :=
  match val with
  | [] => pat.all (· == star)
  | c :: vs =>
    match pat with
    | d :: ps =>
      if d == star then scan ps (c :: vs) (some (ps, []))
      else if d == c then scan ps vs (back.map fun (q, pre) => (q, pre ++ [c]))
      else
        match _h : restart back c vs with
        | some (q, rest) => scan q rest (some (q, []))
        | none => false
    | [] =>
      match _h : restart back c vs with
      | some (q, rest) => scan q rest (some (q, []))
      | none => false
termination_by (backLength back val, pat.length + val.length)
decreasing_by
  · cases back with
    | none => exact Prod.Lex.left _ _ (by simp [backLength])
    | some b =>
      obtain ⟨q, pre⟩ := b
      cases pre with
      | nil => exact Prod.Lex.right _ (by simp)
      | cons x xs => exact Prod.Lex.left _ _ (by simp [backLength])
  · cases back with
    | none => exact Prod.Lex.left _ _ (by simp [backLength])
    | some b =>
      obtain ⟨q, pre⟩ := b
      have e : backLength (some (q, pre ++ [c])) vs = backLength (some (q, pre)) (c :: vs) := by
        simp [backLength]; omega
      simp only [Option.map_some]
      rw [e]
      exact Prod.Lex.right _ (by simp; omega)
  · exact Prod.Lex.left _ _ (by have := restart_length _h; simpa [backLength] using this)
  · exact Prod.Lex.left _ _ (by have := restart_length _h; simpa [backLength] using this)

def accepts (pattern value : String) : Bool :=
  scan pattern.toUTF8.toList value.toUTF8.toList none

end ProviderRouting.Glob
