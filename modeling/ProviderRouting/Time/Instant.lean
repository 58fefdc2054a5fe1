import ProviderRouting.Text.Blank

/-!
# Instants

An `Instant` is a moment in UTC: whole seconds since 1970-01-01T00:00:00Z (rounded down) and
nanoseconds within that second. The nanoseconds reach up to `2·10^9 - 1` so that a leap second
`23:59:60.x` sits after every instant of `23:59:59` and before the next day.

`Instant.stored` is the text kept in a store column: `2025-01-01 00:00:00+00:00`, with a fraction
of three, six or nine digits only when there is one, a leap second as second 60, and years
outside `0..9999` signed. `Instant.rfc3339` is the same layout in the form written on the wire,
`2025-01-01T00:00:00Z`.

`Instant.parse` reads an RFC 3339 date and time in its relaxed form: `T`, `t` or a space between
date and time, blanks allowed before each number and around the separators, up to nine fraction
digits (more are read and dropped), and an offset that is `Z`, `UTC` in any case, or `±hh:mm`
(the colon may be blanks or absent). A four digit year needs no sign; a signed year may be longer.
-/

namespace ProviderRouting.Time

open ProviderRouting.Text

/-- A moment in UTC. -/
structure Instant where
  secs : Int
  nanos : Nat
  deriving Repr, DecidableEq, Inhabited

def Instant.compare (a b : Instant) : Ordering :=
  match Ord.compare a.secs b.secs with
  | .eq => Ord.compare a.nanos b.nanos
  | o => o

instance : Ord Instant := ⟨Instant.compare⟩

def daysOfCivil (y : Int) (m d : Nat) : Int :=
  let y := if m ≤ 2 then y - 1 else y
  let era := y / 400
  let yoe := y - era * 400
  let mp : Int := if m > 2 then (m : Int) - 3 else (m : Int) + 9
  let doy := (153 * mp + 2) / 5 + (d : Int) - 1
  let doe := yoe * 365 + yoe / 4 - yoe / 100 + doy
  era * 146097 + doe - 719468

def civilOfDays (z : Int) : Int × Nat × Nat :=
  let z := z + 719468
  let era := z / 146097
  let doe := z - era * 146097
  let yoe := (doe - doe / 1460 + doe / 36524 - doe / 146096) / 365
  let y := yoe + era * 400
  let doy := doe - (365 * yoe + yoe / 4 - yoe / 100)
  let mp := (5 * doy + 2) / 153
  let d := doy - (153 * mp + 2) / 5 + 1
  let m := if mp < 10 then mp + 3 else mp - 9
  (if m ≤ 2 then y + 1 else y, m.toNat, d.toNat)

def leapYear (y : Int) : Bool := y % 4 == 0 && (y % 100 != 0 || y % 400 == 0)

def monthDays (y : Int) (m : Nat) : Nat :=
  if m = 2 then (if leapYear y then 29 else 28)
  else if m = 4 ∨ m = 6 ∨ m = 9 ∨ m = 11 then 30 else 31

def padded (width : Nat) (n : Nat) : String :=
  let s := toString n
  String.ofList (List.replicate (width - s.length) '0') ++ s

def yearText (y : Int) : String :=
  if 0 ≤ y ∧ y ≤ 9999 then padded 4 y.toNat
  else (if y < 0 then "-" else "+") ++ padded 4 y.natAbs

def fractionText (nanos : Nat) : String :=
  if nanos = 0 then ""
  else if nanos % 1000000 = 0 then "." ++ padded 3 (nanos / 1000000)
  else if nanos % 1000 = 0 then "." ++ padded 6 (nanos / 1000)
  else "." ++ padded 9 nanos

def Instant.stored (t : Instant) : String :=
  let days := t.secs / 86400
  let rem := (t.secs - days * 86400).toNat
  let (y, m, d) := civilOfDays days
  let leap := if t.nanos ≥ 1000000000 then 1 else 0
  yearText y ++ "-" ++ padded 2 m ++ "-" ++ padded 2 d ++ " " ++
    padded 2 (rem / 3600) ++ ":" ++ padded 2 (rem / 60 % 60) ++ ":" ++
    padded 2 (rem % 60 + leap) ++ fractionText (t.nanos % 1000000000) ++ "+00:00"

/-- The RFC 3339 text of an instant as a date and time value is written on the wire:
`2025-01-01T00:00:00Z`, laid out as `Instant.stored` is, with `T` between date and time and `Z`
for the offset. -/
def Instant.rfc3339 (t : Instant) : String :=
  let days := t.secs / 86400
  let rem := (t.secs - days * 86400).toNat
  let (y, m, d) := civilOfDays days
  let leap := if t.nanos ≥ 1000000000 then 1 else 0
  yearText y ++ "-" ++ padded 2 m ++ "-" ++ padded 2 d ++ "T" ++
    padded 2 (rem / 3600) ++ ":" ++ padded 2 (rem / 60 % 60) ++ ":" ++
    padded 2 (rem % 60 + leap) ++ fractionText (t.nanos % 1000000000) ++ "Z"

/-- Why a date and time could not be read. -/
inductive TimeError where
  | outOfRange
  | impossible
  | notEnough
  | invalid
  | tooShort
  | tooLong
  deriving Repr, DecidableEq

def TimeError.text : TimeError → String
  | .outOfRange => "input is out of range"
  | .impossible => "no possible date and time matching input"
  | .notEnough => "input is not enough for unique date and time"
  | .invalid => "input contains invalid characters"
  | .tooShort => "premature end of input"
  | .tooLong => "trailing input"

/-- Reads between `lo` and `hi` ASCII digits. Too few characters is a premature end, a
non-digit before `lo` digits is an invalid character, and a value beyond 64 bits is out of
range. -/
def digitsIn (lo hi : Nat) (s : List Char) : Except TimeError (Int × List Char) :=
  if s.length < lo then .error .tooShort
  else go hi s 0 0
where
  go : Nat → List Char → Nat → Nat → Except TimeError (Int × List Char)
    | 0, s, _, n => .ok (n, s)
    | k + 1, s, i, n =>
      match s with
      | c :: rest =>
        if c.isDigit then
          let n' := n * 10 + (c.toNat - 48)
          if n' ≥ Nat.pow 2 63 then .error .outOfRange else go k rest (i + 1) n'
        else if i < lo then .error .invalid
        else .ok (n, s)
      | [] => .ok (n, [])

def numberField (width : Nat) (signed : Bool) (s : List Char) :
    Except TimeError (Int × List Char) :=
  let s := trimBlankStartList s
  match s with
  | '-' :: rest => if signed then (digitsIn 1 1000 rest).map (fun (v, r) => (-v, r))
                   else digitsIn 1 width s
  | '+' :: rest => if signed then digitsIn 1 1000 rest else digitsIn 1 width s
  | _ => digitsIn 1 width s

def literal (c : Char) (s : List Char) : Except TimeError (List Char) :=
  match s with
  | [] => .error .tooShort
  | d :: rest => if d = c then .ok rest else .error .invalid

def inRange (lo hi : Int) (v : Int) : Except TimeError Nat :=
  if lo ≤ v ∧ v ≤ hi then .ok v.toNat else .error .outOfRange

/-- Reads a fraction after the point: one to nine digits scaled to nanoseconds, further digits
dropped. -/
def fractionField (s : List Char) : Except TimeError (Nat × List Char) :=
  match digitsIn 1 9 s with
  | .error e => .error e
  | .ok (v, rest) =>
    let used := s.length - rest.length
    .ok (v.toNat * Nat.pow 10 (9 - used), rest.dropWhile Char.isDigit)

/-- The error of a two-digit field that does not start with two digits: the field is read as
two bytes, so one character that takes two bytes or more is enough to make it invalid, and only
less is a premature end. -/
def pairError : List Char → TimeError
  | [c] => if c.utf8Size ≥ 2 then .invalid else .tooShort
  | [] => .tooShort
  | _ => .invalid

/-- Reads a `±hh:mm` offset in seconds east of UTC; `Z` or `z` is zero. The separator may be
colons or blanks, and U+2212 stands for a minus. -/
def offsetField (s : List Char) : Except TimeError (Int × List Char) :=
  match s with
  | 'Z' :: rest | 'z' :: rest => .ok (0, rest)
  | [] => .error .tooShort
  | c :: rest =>
    let sign : Option Int :=
      if c = '+' then some 1 else if c = '-' ∨ c.toNat = 0x2212 then some (-1) else none
    match sign with
    | none => .error .invalid
    | some sg =>
      match rest with
      | h1 :: h2 :: more =>
        if h1.isDigit ∧ h2.isDigit then
          let hours : Int := (h1.toNat - 48) * 10 + (h2.toNat - 48)
          let more := more.dropWhile (fun c => c = ':' || isBlank c)
          match more with
          | m1 :: m2 :: tail =>
            if '0' ≤ m1 ∧ m1 ≤ '5' ∧ m2.isDigit then
              let mins : Int := (m1.toNat - 48) * 10 + (m2.toNat - 48)
              .ok (sg * (hours * 3600 + mins * 60), tail)
            else if '6' ≤ m1 ∧ m1 ≤ '9' ∧ m2.isDigit then .error .outOfRange
            else .error .invalid
          | more => .error (pairError more)
        else .error .invalid
      | rest => .error (pairError rest)

def earliestSecs : Int := daysOfCivil (-262143) 1 1 * 86400

def latestSecs : Int := daysOfCivil 262142 12 31 * 86400 + 86399

/-- Reads an RFC 3339 date and time in its relaxed form as an instant. A local time whose offset
moves it outside the instants that can be held matches no instant. -/
def Instant.parse (text : String) : Except TimeError Instant := do
  let s := text.toList
  let (year, s) ← numberField 4 true s
  if year < -(Nat.pow 2 31) ∨ year ≥ Nat.pow 2 31 then throw .outOfRange
  let s ← literal '-' (trimBlankStartList s)
  let (month, s) ← numberField 2 false s
  let month ← inRange 1 12 month
  let s ← literal '-' (trimBlankStartList s)
  let (day, s) ← numberField 2 false s
  let day ← inRange 1 31 day
  let s ← match s with
    | c :: rest => if c = 'T' ∨ c = 't' ∨ c = ' ' then pure rest else throw .invalid
    | [] => throw .tooShort
  let (hour, s) ← numberField 2 false s
  let hour ← inRange 0 23 hour
  let s ← literal ':' (trimBlankStartList s)
  let (minute, s) ← numberField 2 false s
  let minute ← inRange 0 59 minute
  let s ← literal ':' (trimBlankStartList s)
  let (second, s) ← numberField 2 false s
  let second ← inRange 0 60 second
  let (nanos, s) ← match s with
    | '.' :: rest => fractionField rest
    | _ => pure (0, s)
  let s := trimBlankStartList s
  let (offset, s) ← match s with
    | a :: b :: c :: rest =>
      if a.toLower = 'u' ∧ b.toLower = 't' ∧ c.toLower = 'c' then pure (0, rest)
      else offsetField s
    | _ => offsetField s
  if !(trimBlankStartList s).isEmpty then throw .tooLong
  if day > monthDays year month then throw .outOfRange
  if year < -262143 ∨ year > 262142 then throw .outOfRange
  if offset.natAbs ≥ 86400 then throw .outOfRange
  let (second, nanos) := if second = 60 then (59, nanos + 1000000000) else (second, nanos)
  let secs := daysOfCivil year month day * 86400 + hour * 3600 + minute * 60 + second - offset
  if secs < earliestSecs ∨ secs > latestSecs then throw .impossible
  pure ⟨secs, nanos⟩

example : (match Instant.parse "2025-01-01T00:00:00Z" with
    | .ok t => t.stored
    | .error e => e.text) = "2025-01-01 00:00:00+00:00" := by decide +kernel

end ProviderRouting.Time
