import ProviderRouting.Json.Reader
import ProviderRouting.Json.Decode

/-!
# Typed reading straight from text

Reading a typed record from JSON text checks each value as it is met, so the first error in the
text is the one reported, with the place where reading stood when it was found:

* a value of the wrong type is reported after it when it is a scalar, and at its bracket when
  it is an array or object;
* a value of the right type that its reader refuses (a name that is no variant, a time that does
  not parse, an integer out of range) is reported just after it;
* a record's missing field is reported after the record's closing bracket, and a repeated field
  right after the repeated key (past any blanks).

A `TextField` reads one field's value and gives it back as a `Value`, already checked, so that
the record can then be built by the value decoders of `Json.Decode`. Values of members a record
does not know are skipped without being built, at any depth.
-/

namespace ProviderRouting.Json

/-! ## Complaints about the value at hand -/

def DecodeError.problem (e : DecodeError) : Problem := .custom e.message

def Number.found : Number → Found
  | .nat n => .unsigned n
  | .neg n => .signed n
  | .float f => .float f

/-- The error for a value of the wrong type: scalars are read first and the error placed after
them; an array or object is reported at its bracket. -/
def Cursor.invalid (c : Cursor) (expected : String) : ReadError :=
  let c := c.blank
  let after := fun (found : Found) (c' : Cursor) =>
    ReadError.mk (DecodeError.invalidType found expected).problem (some c'.here)
  match c.rest with
  | 'n' :: _ => match c.bump.ident ['u', 'l', 'l'] with
    | .error e => e
    | .ok c' => after .null c'
  | 't' :: _ => match c.bump.ident ['r', 'u', 'e'] with
    | .error e => e
    | .ok c' => after (.bool true) c'
  | 'f' :: _ => match c.bump.ident ['a', 'l', 's', 'e'] with
    | .error e => e
    | .ok c' => after (.bool false) c'
  | '-' :: _ => match c.bump.number false with
    | .error e => e
    | .ok (n, c') => after n.found c'
  | '"' :: _ => match c.bump.string with
    | .error e => e
    | .ok (s, c') => after (.str s) c'
  | '[' :: _ => ⟨(DecodeError.invalidType .seq expected).problem, some c.here⟩
  | '{' :: _ => ⟨(DecodeError.invalidType .map expected).problem, some c.here⟩
  | [] => ⟨.eofValue, some c.peekMark⟩
  | ch :: _ =>
    if ch.isDigit then
      match c.number true with
      | .error e => e
      | .ok (n, c') => after n.found c'
    else ⟨.expectedValue, some c.peekMark⟩

abbrev TextReader := Cursor → Except ReadError (Value × Cursor)

def refusedAt {α : Type} (c : Cursor) (e : DecodeError) : Except ReadError α :=
  .error ⟨e.problem, some c.here⟩

/-! ## Scalars -/

def readStringWith (expected : String) (accept : String → Option DecodeError) : TextReader :=
  fun c =>
    let c := c.blank
    match c.rest with
    | [] => c.failPeek .eofValue
    | '"' :: _ => do
      let (s, c') ← c.bump.string
      match accept s with
      | some e => refusedAt c' e
      | none => pure (.str s, c')
    | _ => .error (c.invalid expected)

def readString : TextReader := readStringWith "a string" fun _ => none

def readBool : TextReader := fun c =>
  let c := c.blank
  match c.rest with
  | [] => c.failPeek .eofValue
  | 't' :: _ => (c.bump.ident ['r', 'u', 'e']).map fun c' => (.bool true, c')
  | 'f' :: _ => (c.bump.ident ['a', 'l', 's', 'e']).map fun c' => (.bool false, c')
  | _ => .error (c.invalid "a boolean")

def readInt (d : Decoder Int) (expected : String) : TextReader := fun c =>
  let c := c.blank
  let check := fun (n : Number) (c' : Cursor) =>
    match d (.num n) with
    | .ok _ => .ok (.num n, c')
    | .error e => refusedAt c' e
  match c.rest with
  | [] => c.failPeek .eofValue
  | '-' :: _ => do
    let (n, c') ← c.bump.number false
    check n c'
  | ch :: _ =>
    if ch.isDigit then do
      let (n, c') ← c.number true
      check n c'
    else .error (c.invalid expected)

def readOption (r : TextReader) : TextReader := fun c =>
  let c := c.blank
  match c.rest with
  | 'n' :: _ => (c.bump.ident ['u', 'l', 'l']).map fun c' => (.null, c')
  | _ => r c

def readNamed {α : Type} (table : List (String × α)) : TextReader := fun c =>
  let c := c.blank
  let known := fun (name : String) (c' : Cursor) =>
    match variantOf table name with
    | .ok _ => Except.ok c'
    | .error e => refusedAt c' e
  match c.rest with
  | [] => c.failPeek .eofValue
  | '"' :: _ => do
    let (name, c') ← c.bump.string
    let c'' ← known name c'
    pure (.str name, c'')
  | '{' :: _ => do
    let c1 := c.bump.blank
    let (name, c2) ← match c1.rest with
      | [] => c1.failPeek .eofValue
      | '"' :: _ => do
        let (name, c') ← c1.bump.string
        pure (name, ← known name c')
      | _ => .error (c1.invalid "variant identifier")
    let c3 := (← c2.colon).blank
    let c4 ← match c3.rest with
      | [] => c3.failPeek .eofValue
      | 'n' :: _ => c3.bump.ident ['u', 'l', 'l']
      | _ => .error (c3.invalid "unit")
    let c5 := c4.blank
    match c5.rest with
    | '}' :: _ => pure (.str name, c5.bump)
    | [] => c5.fail .eofObject
    | _ => c5.fail .expectedValue
  | _ => c.failPeek .expectedValue

/-! ## Records and lists -/

/-- A field of a record read from text: its wire name, what its absence means, and its reader. -/
structure TextField where
  name : String
  absent : Absent
  read : TextReader

def Cursor.nextItem (c : Cursor) (first : Bool) : Except ReadError (Bool × Cursor) :=
  let c := c.blank
  match c.rest with
  | [] => c.failPeek .eofList
  | ']' :: _ => .ok (false, c)
  | ch :: _ =>
    if first then .ok (true, c)
    else if ch = ',' then
      let c1 := c.bump.blank
      match c1.rest with
      | ']' :: _ => c1.failPeek .trailingComma
      | [] => c1.failPeek .eofValue
      | _ => .ok (true, c1)
    else c.failPeek .expectedListCommaOrEnd

def Cursor.nextKey (c : Cursor) (first : Bool) : Except ReadError (Option String × Cursor) :=
  let c := c.blank
  match c.rest with
  | [] => c.failPeek .eofObject
  | '}' :: _ => .ok (none, c)
  | ch :: _ => do
    let c1 ← if ch = ',' ∧ !first then pure c.bump.blank
      else if first then pure c
      else c.failPeek .expectedObjectCommaOrEnd
    match c1.rest with
    | '"' :: _ => do
      let (k, c2) ← c1.bump.string
      pure (some k, c2)
    | '}' :: _ => c1.failPeek .trailingComma
    | [] => c1.failPeek .eofValue
    | _ => c1.failPeek .keyMustBeString

/-- How reading a record's members ended: with its members, or with a problem that takes its
place from where the record closes. -/
inductive Members where
  | done (members : List (String × Value))
  | loose (p : Problem)

def readMembers (fields : List TextField) : Nat → Cursor → List (String × Value) → Bool →
    Except ReadError (Members × Cursor)
  | 0, c, _, _ => c.failPeek .eofObject
  | fuel + 1, c, acc, first => do
    let (key, c1) ← c.nextKey first
    match key with
    | none => pure (.done acc, c1)
    | some k =>
      match fields.find? (·.name == k) with
      | some f =>
        if (acc.lookup k).isSome then pure (.loose (DecodeError.duplicateField k).problem, c1)
        else
          let (v, c2) ← f.read (← c1.colon)
          readMembers fields fuel c2 (acc ++ [(k, v)]) false
      | none =>
        let c2 ← (← c1.colon).skipValue
        readMembers fields fuel c2 acc false

def readPositional (what : String) (count : Nat) : List TextField → Nat → Cursor →
    List (String × Value) → Bool → Except ReadError (Members × Cursor)
  | [], _, c, acc, _ => .ok (.done acc, c)
  | f :: fs, i, c, acc, first => do
    let (more, c1) ← c.nextItem first
    if more then
      let (v, c2) ← f.read c1
      readPositional what count fs (i + 1) c2 (acc ++ [(f.name, v)]) false
    else
      match f.absent with
      | .defaulted => readPositional what count fs i c1 acc first
      | _ => pure (.loose (DecodeError.invalidLength i (what ++ " with " ++ toString count ++
          (if count = 1 then " element" else " elements"))).problem, c1)

def Cursor.closeQuietly (c : Cursor) (close : Char) : Cursor :=
  let c := c.blank
  match c.rest with
  | ch :: _ => if ch = close then c.bump else c
  | [] => c

/-- A record read from an object or from an array of its fields in order. Its members come
back checked, in the order read; a field without a default that is not given is an error. -/
def readRecord (what : String) (fields : List TextField) : Cursor →
    Except ReadError (List (String × Value) × Cursor) := fun c =>
  let c := c.blank
  let fuel := c.rest.length + 1
  match c.rest with
  | [] => c.failPeek .eofValue
  | '{' :: _ => do
    let (ms, c1) ← readMembers fields fuel c.bump [] true
    match ms with
    | .loose p => .error ⟨p, some (c1.closeQuietly '}').here⟩
    | .done members =>
      let c2 ← c1.endObject
      match firstMissing members (fields.map fun f => ⟨f.name, f.absent, fun _ => none⟩) with
      | some e => .error ⟨e.problem, some c2.here⟩
      | none => pure (members, c2)
  | '[' :: _ => do
    let (ms, c1) ← readPositional what fields.length fields 0 c.bump [] true
    match ms with
    | .loose p => .error ⟨p, some (c1.closeQuietly ']').here⟩
    | .done members => pure (members, ← c1.endList)
  | _ => .error (c.invalid what)

def readItems (r : TextReader) : Nat → Cursor → List Value → Bool →
    Except ReadError (List Value × Cursor)
  | 0, c, _, _ => c.failPeek .eofList
  | fuel + 1, c, acc, first => do
    let (more, c1) ← c.nextItem first
    if more then
      let (v, c2) ← r c1
      readItems r fuel c2 (acc ++ [v]) false
    else pure (acc, c1)

def readList (r : TextReader) : TextReader := fun c =>
  let c := c.blank
  match c.rest with
  | [] => c.failPeek .eofValue
  | '[' :: _ => do
    let (items, c1) ← readItems r (c.rest.length + 1) c.bump [] true
    pure (.arr items, ← c1.endList)
  | _ => .error (c.invalid "a sequence")

def readObject (what : String) (fields : List TextField) : TextReader := fun c => do
  let (members, c') ← readRecord what fields c
  pure (.obj members, c')

def readText (r : TextReader) (s : String) : Except ReadError Value := do
  let (v, c) ← r (Cursor.start s)
  let c := c.blank
  match c.rest with
  | [] => pure v
  | _ => c.failPeek .trailingCharacters

end ProviderRouting.Json
