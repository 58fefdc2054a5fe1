import ProviderRouting.Number.Shortest

/-!
# JSON values

The value tree of the request interface. A number keeps the shape a reader gives it: a
non-negative integer below `2^64`, a negative integer of 64 bits, or a double. An object holds
its members in increasing key order with no key twice; `Object.insert` keeps that shape, and a
later member of one key replaces an earlier one.

`Value.compact` writes the compact text: no blanks, members in the order held, characters outside
ASCII written as they are, quotes, backslashes and control characters escaped, and doubles in
the `Decimal.scientific` layout.
-/

namespace ProviderRouting.Json

open ProviderRouting.Number

/-- A JSON number as read: `nat` below `2^64`, `neg` from `-2^63` to `-1`, else `float`. -/
inductive Number where
  | nat (n : Nat)
  | neg (n : Int)
  | float (f : Float)

/-- A JSON value. Objects keep their members sorted by key, each key once. -/
inductive Value where
  | null
  | bool (b : Bool)
  | num (n : Number)
  | str (s : String)
  | arr (items : List Value)
  | obj (fields : List (String × Value))

instance : Inhabited Value := ⟨.null⟩

def Object.insert (k : String) (v : Value) : List (String × Value) → List (String × Value)
  | [] => [(k, v)]
  | (k', v') :: rest =>
    if k = k' then (k, v) :: rest
    else if k < k' then (k, v) :: (k', v') :: rest
    else (k', v') :: Object.insert k v rest

def Value.record (fields : List (String × Value)) : Value :=
  .obj (fields.foldl (fun acc (k, v) => Object.insert k v acc) [])

def Value.get? : Value → String → Option Value
  | .obj fields, k => fields.lookup k
  | _, _ => none

def Value.ofOption (s : Option String) : Value :=
  match s with
  | some s => .str s
  | none => .null

def Value.int (n : Int) : Value :=
  if 0 ≤ n then .num (.nat n.toNat) else .num (.neg n)

def hexDigit (n : Nat) : Char :=
  if n < 10 then Char.ofNat (48 + n) else Char.ofNat (87 + n)

def escapeChar (c : Char) : List Char :=
  if c = '"' then ['\\', '"']
  else if c = '\\' then ['\\', '\\']
  else if c = '\n' then ['\\', 'n']
  else if c = '\r' then ['\\', 'r']
  else if c = '\t' then ['\\', 't']
  else if c.toNat = 8 then ['\\', 'b']
  else if c.toNat = 12 then ['\\', 'f']
  else if c.toNat < 32 then ['\\', 'u', '0', '0', hexDigit (c.toNat / 16), hexDigit (c.toNat % 16)]
  else [c]

def quote (s : String) : String :=
  String.ofList ('"' :: (s.toList.flatMap escapeChar ++ ['"']))

def floatText (f : Float) : String :=
  match Decimal.ofFloat f with
  | (_, .nan) | (_, .infinite) => "null"
  | (neg, .zero) => if neg then "-0.0" else "0.0"
  | (neg, .finite d) => (if neg then "-" else "") ++ d.scientific

def Number.text : Number → String
  | .nat n => toString n
  | .neg n => toString n
  | .float f => floatText f

mutual
def Value.compact : Value → String
  | .null => "null"
  | .bool b => if b then "true" else "false"
  | .num n => n.text
  | .str s => quote s
  | .arr items => "[" ++ Value.compactItems items ++ "]"
  | .obj fields => "\x7b" ++ Value.compactFields fields ++ "\x7d"

def Value.compactItems : List Value → String
  | [] => ""
  | [v] => v.compact
  | v :: rest => v.compact ++ "," ++ Value.compactItems rest

def Value.compactFields : List (String × Value) → String
  | [] => ""
  | [(k, v)] => quote k ++ ":" ++ v.compact
  | (k, v) :: rest => quote k ++ ":" ++ v.compact ++ "," ++ Value.compactFields rest
end

end ProviderRouting.Json
