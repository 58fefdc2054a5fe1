import ProviderRouting.Json.Value
import ProviderRouting.Text.Quoted

/-!
# Decoding values into typed data

A `Decoder α` reads an `α` out of a JSON value or names what was wrong with it. The messages
follow one grammar: what was found (`Found.text`), what was expected, a missing or repeated
member, a name that is no variant of an enumeration.

Records are read by `Decoder.record`. An object's members are checked in key order, which is
the order the value holds them in, so the first member that fails to decode is reported; only
when all present members decode is a missing one reported, in the order the record declares its
fields. Members the record does not know are ignored. An array is read as the record's fields
in declaration order: a short array fails at the first element that is not there (unless that
field has a default), and a long one fails after the last field.
-/

namespace ProviderRouting.Json

/-! ## What was found -/

/-- The shape of a value a decoder did not expect. -/
inductive Found where
  | null
  | bool (b : Bool)
  | unsigned (n : Nat)
  | signed (n : Int)
  | float (f : Float)
  | str (s : String)
  | seq
  | map
  | unitVariant

def Found.text : Found → String
  | .null => "null"
  | .bool b => "boolean `" ++ (if b then "true" else "false") ++ "`"
  | .unsigned n => "integer `" ++ toString n ++ "`"
  | .signed n => "integer `" ++ toString n ++ "`"
  | .float f => "floating point `" ++ floatText f ++ "`"
  | .str s => "string " ++ Text.quoted s
  | .seq => "sequence"
  | .map => "map"
  | .unitVariant => "unit variant"

def Value.found : Value → Found
  | .null => .null
  | .bool b => .bool b
  | .num (.nat n) => .unsigned n
  | .num (.neg n) => .signed n
  | .num (.float f) => .float f
  | .str s => .str s
  | .arr _ => .seq
  | .obj _ => .map

/-! ## Errors -/

/-- Why a value could not be decoded. -/
inductive DecodeError where
  | invalidType (found : Found) (expected : String)
  | invalidValue (found : Found) (expected : String)
  | invalidLength (n : Nat) (expected : String)
  | unknownVariant (name : String) (expected : List String)
  | missingField (name : String)
  | duplicateField (name : String)
  | custom (message : String)

def ticked : List String → String
  | [] => ""
  | [a] => "`" ++ a ++ "`"
  | a :: rest => "`" ++ a ++ "`, " ++ ticked rest

def variantsText : List String → String
  | [] => "there are no variants"
  | [a] => "expected `" ++ a ++ "`"
  | [a, b] => "expected `" ++ a ++ "` or `" ++ b ++ "`"
  | names => "expected one of " ++ ticked names

def DecodeError.message : DecodeError → String
  | .invalidType f e => "invalid type: " ++ f.text ++ ", expected " ++ e
  | .invalidValue f e => "invalid value: " ++ f.text ++ ", expected " ++ e
  | .invalidLength n e => "invalid length " ++ toString n ++ ", expected " ++ e
  | .unknownVariant name names => "unknown variant `" ++ name ++ "`, " ++ variantsText names
  | .missingField name => "missing field `" ++ name ++ "`"
  | .duplicateField name => "duplicate field `" ++ name ++ "`"
  | .custom m => m

/-! ## Decoders of scalars and lists -/

abbrev Decoder (α : Type) := Value → Except DecodeError α

def Decoder.string : Decoder String
  | .str s => .ok s
  | v => .error (.invalidType v.found "a string")

def Decoder.bool : Decoder Bool
  | .bool b => .ok b
  | v => .error (.invalidType v.found "a boolean")

def Decoder.int (what : String) (lo hi : Int) : Decoder Int
  | .num (.nat n) =>
    if (n : Int) ≤ hi then .ok n else .error (.invalidValue (.unsigned n) what)
  | .num (.neg n) =>
    if lo ≤ n then .ok n else .error (.invalidValue (.signed n) what)
  | v => .error (.invalidType v.found what)

def Decoder.i32 : Decoder Int := Decoder.int "i32" (-2147483648) 2147483647

def Decoder.i64 : Decoder Int :=
  Decoder.int "i64" (-9223372036854775808) 9223372036854775807

def Decoder.option {α : Type} (d : Decoder α) : Decoder (Option α)
  | .null => .ok none
  | v => some <$> d v

def Decoder.items {α : Type} (d : Decoder α) : List Value → Except DecodeError (List α)
  | [] => .ok []
  | v :: vs => do
    let a ← d v
    let as ← Decoder.items d vs
    pure (a :: as)

def Decoder.list {α : Type} (d : Decoder α) : Decoder (List α)
  | .arr vs => Decoder.items d vs
  | v => .error (.invalidType v.found "a sequence")

/-! ## Enumerations -/

def variantOf {α : Type} (table : List (String × α)) (name : String) : Except DecodeError α :=
  match table.lookup name with
  | some a => .ok a
  | none => .error (.unknownVariant name (table.map Prod.fst))

def variantParts : Value → Except DecodeError (String × Option Value)
  | .str s => .ok (s, none)
  | .obj [(k, v)] => .ok (k, some v)
  | .obj _ => .error (.invalidValue .map "map with a single key")
  | v => .error (.invalidType v.found "string or map")

def Decoder.named {α : Type} (table : List (String × α)) : Decoder α := fun v => do
  let (name, payload) ← variantParts v
  let a ← variantOf table name
  match payload with
  | none | some .null => pure a
  | some p => throw (.invalidType p.found "unit")

/-! ## Records -/

/-- What a record does when a field is not given. -/
inductive Absent where
  | required
  | optional
  | defaulted

/-- A field of a record: its wire name, what its absence means, and whether a value decodes. -/
structure Field where
  name : String
  absent : Absent
  check : Value → Option DecodeError

def Field.of {α : Type} (name : String) (absent : Absent) (d : Decoder α) : Field :=
  ⟨name, absent, fun v => match d v with
    | .ok _ => none
    | .error e => some e⟩

def firstBadMember (fields : List Field) : List (String × Value) → Option DecodeError
  | [] => none
  | (k, v) :: rest =>
    match fields.find? (·.name == k) with
    | some f =>
      match f.check v with
      | some e => some e
      | none => firstBadMember fields rest
    | none => firstBadMember fields rest

def firstMissing (members : List (String × Value)) : List Field → Option DecodeError
  | [] => none
  | f :: rest =>
    match f.absent, members.lookup f.name with
    | .required, none => some (.missingField f.name)
    | _, _ => firstMissing members rest

def positional (what : String) (count : Nat) :
    Nat → List Field → List Value → Except DecodeError (List (String × Value))
  | _, [], _ => .ok []
  | i, f :: fs, v :: vs =>
    match f.check v with
    | some e => .error e
    | none => do
      let rest ← positional what count (i + 1) fs vs
      pure ((f.name, v) :: rest)
  | i, f :: fs, [] =>
    match f.absent with
    | .defaulted => positional what count i fs []
    | _ => .error (.invalidLength i (what ++ " with " ++ toString count ++
        (if count = 1 then " element" else " elements")))

def recordMembers (what : String) (fields : List Field) :
    Value → Except DecodeError (List (String × Value))
  | .obj members =>
    match firstBadMember fields members with
    | some e => .error e
    | none =>
      match firstMissing members fields with
      | some e => .error e
      | none => .ok members
  | .arr items => do
    let members ← positional what fields.length 0 fields items
    if fields.length < items.length then
      throw (.invalidLength items.length "fewer elements in array")
    pure members
  | v => .error (.invalidType v.found what)

def Decoder.record {α : Type} (what : String) (fields : List Field)
    (build : List (String × Value) → Except DecodeError α) : Decoder α := fun v => do
  build (← recordMembers what fields v)

def need {α : Type} (members : List (String × Value)) (name : String) (d : Decoder α) :
    Except DecodeError α :=
  match members.lookup name with
  | some v => d v
  | none => .error (.missingField name)

def maybe {α : Type} (members : List (String × Value)) (name : String) (d : Decoder α) :
    Except DecodeError (Option α) :=
  match members.lookup name with
  | some v => Decoder.option d v
  | none => .ok none

def either {α : Type} (members : List (String × Value)) (name : String) (d : Decoder α)
    (default : α) : Except DecodeError α :=
  match members.lookup name with
  | some v => d v
  | none => .ok default

end ProviderRouting.Json
