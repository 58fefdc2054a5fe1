import ProviderRouting.Number.Nearest
import ProviderRouting.Text.Quoted

/-!
# What a plain scalar denotes

A plain scalar without a tag is read as null (`~`, `null`, `Null`, `NULL` or nothing), a
boolean (`true`, `True`, `TRUE`, `false`, `False`, `FALSE`), an integer (decimal, or `0x`, `0o`,
`0b` with an optional sign), a finite float, or else a string. Digits with a leading zero, such as
`012`, are a string, not a number.

The same reading decides how a string is written back: a string that would read as something
else must be quoted.
-/

namespace ProviderRouting.Yaml

open ProviderRouting.Number

/-- What a scalar denotes, with integers sorted by the width they fit in. -/
inductive Resolved where
  | null
  | bool (b : Bool)
  | unsigned (n : Nat)
  | signed (n : Int)
  | wideUnsigned (n : Nat)
  | wideSigned (n : Int)
  | float (neg : Bool) (m : Magnitude)
  | str (s : String)
  deriving Repr

def isNullText (s : String) : Bool := s == "~" || s == "null" || s == "Null" || s == "NULL"

def boolOfText (s : String) : Option Bool :=
  if s == "true" || s == "True" || s == "TRUE" then some true
  else if s == "false" || s == "False" || s == "FALSE" then some false
  else none

def leadingZeroDigits (s : String) : Bool :=
  let cs := match s.toList with
    | '-' :: rest | '+' :: rest => rest
    | cs => cs
  cs.length > 1 && cs.head? == some '0' && (cs.drop 1).all Char.isDigit

def intIn (signed : Bool) (radix : Nat) (cs : List Char) : Option Int :=
  match cs with
  | [] | ['+'] | ['-'] => none
  | '+' :: rest => (digitsIn radix rest).map Int.ofNat
  | '-' :: rest => if signed then (digitsIn radix rest).map fun n => -(n : Int) else none
  | cs => (digitsIn radix cs).map Int.ofNat

def unsignedText (bound : Nat) (s : String) : Option Nat :=
  let cs := match s.toList with
    | '+' :: rest => rest
    | cs => cs
  let fits := fun (v : Int) => if 0 ≤ v && v < bound then some v.toNat else none
  let radixed := fun (radix : Nat) (rest : List Char) =>
    match rest with
    | '+' :: _ | '-' :: _ => some none
    | _ => (intIn false radix rest).bind fits |>.map some
  let prefixed := match cs with
    | '0' :: 'x' :: rest => radixed 16 rest
    | '0' :: 'o' :: rest => radixed 8 rest
    | '0' :: 'b' :: rest => radixed 2 rest
    | _ => none
  match prefixed with
  | some r => r
  | none =>
    match cs with
    | '+' :: _ | '-' :: _ => none
    | _ => if leadingZeroDigits s then none else (intIn false 10 cs).bind fits

def signedText (bound : Nat) (s : String) : Option Int :=
  let fits := fun (v : Int) => if -(bound : Int) ≤ v && v < bound then some v else none
  let prefixed := match s.toList with
    | '-' :: '0' :: 'x' :: rest => (intIn true 16 ('-' :: rest)).bind fits
    | '-' :: '0' :: 'o' :: rest => (intIn true 8 ('-' :: rest)).bind fits
    | '-' :: '0' :: 'b' :: rest => (intIn true 2 ('-' :: rest)).bind fits
    | _ => none
  match prefixed with
  | some v => some v
  | none => if leadingZeroDigits s then none else (intIn true 10 s.toList).bind fits

def intOfText (s : String) : Option Resolved :=
  match unsignedText (Nat.pow 2 64) s with
  | some n => some (.unsigned n)
  | none =>
    match signedText (Nat.pow 2 63) s with
    | some n => some (.signed n)
    | none =>
      match unsignedText (Nat.pow 2 128) s with
      | some n => some (.wideUnsigned n)
      | none => (signedText (Nat.pow 2 127) s).map .wideSigned

def floatOfText (s : String) : Option (Bool × Magnitude) :=
  let unsigned := match s.toList with
    | '+' :: rest => some (String.ofList rest)
    | _ => some s
  match unsigned with
  | none => none
  | some u =>
    if s.startsWith "+" && (u.startsWith "+" || u.startsWith "-") then none
    else if u == ".inf" || u == ".Inf" || u == ".INF" then some (false, .infinite)
    else if s == "-.inf" || s == "-.Inf" || s == "-.INF" then some (true, .infinite)
    else if s == ".nan" || s == ".NaN" || s == ".NAN" then some (false, .nan)
    else
      match Decimal.parse u with
      | some (neg, .finite d) => some (neg, .finite d)
      | some (neg, .zero) => some (neg, .zero)
      | _ => none

def resolvePlain (s : String) : Resolved :=
  if s.isEmpty || isNullText s then .null
  else match boolOfText s with
    | some b => .bool b
    | none =>
      match intOfText s with
      | some r => r
      | none =>
        match (if leadingZeroDigits s then none else floatOfText s) with
        | some (neg, m) => .float neg m
        | none => .str s

def floatShown (neg : Bool) : Magnitude → String
  | .nan => "NaN"
  | .infinite => if neg then "-inf" else "inf"
  | .zero => if neg then "-0.0" else "0.0"
  | .finite d =>
    let t := d.positional
    (if neg then "-" else "") ++ (if t.contains '.' then t else t ++ ".0")

def Resolved.text : Resolved → String
  | .null => "unit value"
  | .bool b => "boolean `" ++ (if b then "true" else "false") ++ "`"
  | .unsigned n => "integer `" ++ toString n ++ "`"
  | .signed n => "integer `" ++ toString n ++ "`"
  | .wideUnsigned n => "integer `" ++ toString n ++ "` as u128"
  | .wideSigned n => "integer `" ++ toString n ++ "` as i128"
  | .float neg m => "floating point `" ++ floatShown neg m ++ "`"
  | .str s => "string " ++ Text.quoted s

end ProviderRouting.Yaml
