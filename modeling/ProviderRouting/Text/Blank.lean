/-!
# Blank characters

The characters with the Unicode `White_Space` property: the ASCII tab, line feed, vertical tab,
form feed, carriage return and space, next line (U+0085), no-break space (U+00A0), Ogham space
mark (U+1680), the spaces U+2000 to U+200A, line and paragraph separators (U+2028, U+2029),
narrow no-break space (U+202F), medium mathematical space (U+205F) and ideographic space
(U+3000). Zero width space (U+200B) is not one of them.

`trimBlank` drops blanks at both ends, `trimBlankStart` at the start only.
-/

namespace ProviderRouting.Text

def isBlank (c : Char) : Bool :=
  let n := c.toNat
  (9 ≤ n && n ≤ 13) || n == 32 || n == 0x85 || n == 0xA0 || n == 0x1680 ||
    (0x2000 ≤ n && n ≤ 0x200A) || n == 0x2028 || n == 0x2029 || n == 0x202F || n == 0x205F ||
    n == 0x3000

theorem isBlank_of_isWhitespace (c : Char) (h : c.isWhitespace = true) : isBlank c = true := by
  simp only [Char.isWhitespace, Bool.or_eq_true, decide_eq_true_eq] at h
  simp only [isBlank, Bool.or_eq_true, Bool.and_eq_true, decide_eq_true_eq, beq_iff_eq]
  rcases h with ((h | h) | h) | h <;> simp [h]

def trimBlankStartList (cs : List Char) : List Char := cs.dropWhile isBlank

def trimBlankList (cs : List Char) : List Char :=
  ((cs.dropWhile isBlank).reverse.dropWhile isBlank).reverse

def trimBlankStart (s : String) : String := String.ofList (trimBlankStartList s.toList)

def trimBlank (s : String) : String := String.ofList (trimBlankList s.toList)

def isAllBlank (s : String) : Bool := s.toList.all isBlank

example : isBlank ' ' = true ∧ isBlank (Char.ofNat 0x3000) = true ∧
    isBlank (Char.ofNat 0x200B) = false := by decide

end ProviderRouting.Text
