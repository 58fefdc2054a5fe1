/-!
# Shortest decimal form of a double

`Decimal.ofFloat f` splits a double into its sign and magnitude; a finite nonzero magnitude is
given as the decimal `d · 10^k` with the fewest digits that reads back to the same double. Of the
two candidates on one decimal grid the nearer wins, and an exact tie goes to the even digit
string. The interval of reals that round to the double keeps its ends exactly when the
significand is even, as reading with ties to even does.

Two layouts are built on it: `Decimal.positional` never writes an exponent, and
`Decimal.scientific` writes `1.5e-7` or `1e+16` outside sixteen places and always keeps a
fraction part otherwise (`100.0`).
-/

namespace ProviderRouting.Number

/-- A positive decimal `digits · 10^exp`, with `digits` free of trailing zeros. -/
structure Decimal where
  digits : Nat
  exp : Int
  deriving Repr, DecidableEq

/-- What a double holds, apart from its sign. -/
inductive Magnitude where
  | zero
  | finite (d : Decimal)
  | infinite
  | nan
  deriving Repr, DecidableEq

def cmpScaled (a : Nat) (ka : Int) (b : Nat) (sb : Int) : Ordering :=
  compare (a * Nat.pow 10 ka.toNat * Nat.pow 2 (-sb).toNat) (b * Nat.pow 2 sb.toNat * Nat.pow 10 (-ka).toNat)

def floorScaled (b : Nat) (sb : Int) (k : Int) : Nat :=
  (b * Nat.pow 2 sb.toNat * Nat.pow 10 (-k).toNat) / (Nat.pow 2 (-sb).toNat * Nat.pow 10 k.toNat)

/-- The largest `t` with `10^t ≤ v · 2^s`, for `v > 0`: an estimate from the bit length,
corrected by exact comparison. -/
def log10Floor (v : Nat) (s : Int) : Int :=
  let est : Int := ((Nat.log2 v : Int) + s) * 30103 / 100000
  let up := fun (t : Int) => if cmpScaled 1 (t + 1) v s != .gt then t + 1 else t
  let down := fun (t : Int) => if cmpScaled 1 t v s == .gt then t - 1 else t
  down (down (down (up (up (up est)))))

def Decimal.normal (d : Nat) (k : Int) : Decimal :=
  go 24 d k
where
  go : Nat → Nat → Int → Decimal
    | 0, d, k => ⟨d, k⟩
    | fuel + 1, d, k => if d != 0 && d % 10 == 0 then go fuel (d / 10) (k + 1) else ⟨d, k⟩

/-- The shortest decimal inside the rounding interval of `m · 2^e`. The interval runs from
`lo · 2^(e-2)` to `(4m+2) · 2^(e-2)`, where `lo` is `4m-1` when the gap below is halved
(`narrow`) and `4m-2` otherwise. -/
def shortest (m : Nat) (e : Int) (narrow : Bool) : Decimal :=
  let s := e - 2
  let v := 4 * m
  let hi := 4 * m + 2
  let lo := if narrow then 4 * m - 1 else 4 * m - 2
  let closed := m % 2 == 0
  let inside := fun (d : Nat) (k : Int) =>
    let c1 := cmpScaled d k lo s
    let c2 := cmpScaled d k hi s
    (c1 == .gt || (closed && c1 == .eq)) && (c2 == .lt || (closed && c2 == .eq))
  let top := log10Floor v s
  let pick := fun (n : Nat) =>
    let k := top - n + 1
    let d := floorScaled v s k
    match inside d k, inside (d + 1) k with
    | true, true =>
      match cmpScaled (2 * d + 1) k (2 * v) s with
      | .gt => some (d, k)
      | .lt => some (d + 1, k)
      | .eq => some (if d % 2 == 0 then d else d + 1, k)
    | true, false => some (d, k)
    | false, true => some (d + 1, k)
    | false, false => none
  match (List.range 17).findSome? (fun n => pick (n + 1)) with
  | some (d, k) => Decimal.normal d k
  | none => Decimal.normal (floorScaled v s (top - 16)) (top - 16)

def Decimal.ofFloat (f : Float) : Bool × Magnitude :=
  let b := f.toBits.toNat
  let neg := b / Nat.pow 2 63 % 2 == 1
  let ex : Nat := b / Nat.pow 2 52 % Nat.pow 2 11
  let frac : Nat := b % Nat.pow 2 52
  if ex == 2047 then (neg, if frac == 0 then .infinite else .nan)
  else if ex == 0 && frac == 0 then (neg, .zero)
  else if ex == 0 then (neg, .finite (shortest frac (-1074) false))
  else (neg, .finite (shortest (frac + Nat.pow 2 52) ((ex : Int) - 1075) (frac == 0 && ex > 1)))

def zeros (n : Nat) : String := String.ofList (List.replicate n '0')

def Decimal.positional (d : Decimal) : String :=
  let ds := toString d.digits
  let len : Int := ds.length
  if 0 ≤ d.exp then ds ++ zeros d.exp.toNat
  else
    let kk := len + d.exp
    if 0 < kk then
      String.ofList (ds.toList.take kk.toNat) ++ "." ++ String.ofList (ds.toList.drop kk.toNat)
    else "0." ++ zeros (-kk).toNat ++ ds

def expText (x : Int) : String :=
  if x < 0 then "-" ++ toString x.natAbs else "+" ++ toString x.natAbs

/-- The layout with a fraction part always present and an exponent outside sixteen places:
`1234e7` is `12340000000.0`, `1234e-2` is `12.34`, `1234e-6` is `0.001234`, `1e30` is
`1e+30`, `1234e30` is `1.234e+33`, and `15e-8` is `1.5e-7`. -/
def Decimal.scientific (d : Decimal) : String :=
  let ds := toString d.digits
  let len : Int := ds.length
  let kk := len + d.exp
  if 0 ≤ d.exp ∧ kk ≤ 16 then ds ++ zeros d.exp.toNat ++ ".0"
  else if 0 < kk ∧ kk ≤ 16 then
    String.ofList (ds.toList.take kk.toNat) ++ "." ++ String.ofList (ds.toList.drop kk.toNat)
  else if -5 < kk ∧ kk ≤ 0 then "0." ++ zeros (-kk).toNat ++ ds
  else if len == 1 then ds ++ "e" ++ expText (kk - 1)
  else String.ofList (ds.toList.take 1) ++ "." ++ String.ofList (ds.toList.drop 1) ++ "e" ++
    expText (kk - 1)

end ProviderRouting.Number
