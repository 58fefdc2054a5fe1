import ProviderRouting.Number.Shortest

/-!
# Reading decimals as doubles

`nearestDouble d k` is the double nearest to `d · 10^k`, an exact tie going to the even
significand, as reading a decimal is required to round. It is found with exact integers: the
binary exponent that puts the significand in `[2^52, 2^53)` (or the subnormal exponent), then
one division rounded to nearest.

`Decimal.parse` reads the decimal forms a number may be written in — digits with an optional
fraction and exponent, `inf`, `infinity` or `nan` in any case, each after an optional sign — and
gives the sign and the magnitude of the double it denotes.
-/

namespace ProviderRouting.Number

def cmpPow2 (num den : Nat) (k : Int) : Ordering :=
  compare (num * Nat.pow 2 (-k).toNat) (den * Nat.pow 2 k.toNat)

def log2Floor (num den : Nat) : Int :=
  let est : Int := (Nat.log2 num : Int) - Nat.log2 den
  if cmpPow2 num den (est + 1) != .lt then est + 1
  else if cmpPow2 num den est != .lt then est
  else est - 1

def divNearest (a b : Nat) : Nat :=
  let q := a / b
  match compare (2 * (a % b)) b with
  | .gt => q + 1
  | .lt => q
  | .eq => if q % 2 == 1 then q + 1 else q

def nearestDouble (digits : Nat) (exp : Int) : Magnitude :=
  if digits == 0 then .zero
  else
    let len : Int := (toString digits).length
    if exp + len > 310 then .infinite
    else if exp + len < -330 then .zero
    else
      let num := digits * Nat.pow 10 exp.toNat
      let den := Nat.pow 10 (-exp).toNat
      let e2 := max (log2Floor num den - 52) (-1074)
      let m := divNearest (num * Nat.pow 2 (-e2).toNat) (den * Nat.pow 2 e2.toNat)
      let (m, e2) := if m == Nat.pow 2 53 then (Nat.pow 2 52, e2 + 1) else (m, e2)
      if m == 0 then .zero
      else if e2 > 971 then .infinite
      else .finite (shortest m e2 (m == Nat.pow 2 52 && e2 > -1074))

def digitIn (radix : Nat) (c : Char) : Option Nat :=
  let v :=
    if '0' ≤ c && c ≤ '9' then c.toNat - '0'.toNat
    else if 'a' ≤ c && c ≤ 'z' then c.toNat - 'a'.toNat + 10
    else if 'A' ≤ c && c ≤ 'Z' then c.toNat - 'A'.toNat + 10
    else 36
  if v < radix then some v else none

def digitsIn (radix : Nat) (cs : List Char) : Option Nat :=
  if cs.isEmpty then none
  else cs.foldlM (fun acc c => (digitIn radix c).map (acc * radix + ·)) 0

/-- Reads a decimal number: `[sign] (inf | infinity | nan | digits[.digits][e[sign]digits])`,
the names in any case and at least one digit before the exponent. -/
def Decimal.parse (s : String) : Option (Bool × Magnitude) :=
  let (neg, body) := match s.toList with
    | '-' :: rest => (true, rest)
    | '+' :: rest => (false, rest)
    | cs => (false, cs)
  let lower := String.ofList (body.map Char.toLower)
  if lower == "inf" || lower == "infinity" then some (neg, .infinite)
  else if lower == "nan" then some (neg, .nan)
  else
    let whole := body.takeWhile Char.isDigit
    let rest := body.dropWhile Char.isDigit
    let (frac, rest) := match rest with
      | '.' :: more => (more.takeWhile Char.isDigit, more.dropWhile Char.isDigit)
      | _ => ([], rest)
    let exp : Option Int := match rest with
      | [] => some 0
      | e :: more =>
        if e == 'e' || e == 'E' then
          match more with
          | '-' :: ds => (digitsIn 10 ds).map fun n => -(n : Int)
          | '+' :: ds => (digitsIn 10 ds).map Int.ofNat
          | ds => (digitsIn 10 ds).map Int.ofNat
        else none
    let dotted := body.length > whole.length && body[whole.length]? == some '.'
    if whole.isEmpty && frac.isEmpty then none
    else if !dotted && !frac.isEmpty then none
    else
      match exp, digitsIn 10 (whole ++ frac) with
      | some e, some d => some (neg, nearestDouble d (e - frac.length))
      | _, _ => none

end ProviderRouting.Number
