import ProviderRouting.Json.Value

/-!
# Labels for generated ids

Rules made by a service get ids of the random UUID form, which differ from run to run. A reply
shows each such id as a label `@1`, `@2`, … and a request may name a rule by the label it was
shown. Labelling takes two passes over a reply.

* `Labels.relabel` walks a value in the order it is written (members in key order, items in
  order) and gives every string that is a lowercase hyphenated UUID its label, numbered when
  new. A session runs this pass on each answer as it is made, so that later steps may name the
  labels already shown.
* `Labels.replaceKnown` then replaces, in every string of the whole reply, each UUID that has
  a label by that label. A UUID inside a longer string, such as an error message, thus shows
  as a label only when the same UUID stands alone somewhere in the reply, earlier or later,
  and keeps its text otherwise.
-/

namespace ProviderRouting.Requests

open ProviderRouting.Json

abbrev Labels := List (String × String)

def isLowerHex (c : Char) : Bool := c.isDigit || ('a' ≤ c && c ≤ 'f')

def uuidShape : List Bool :=
  List.replicate 8 true ++ [false] ++ List.replicate 4 true ++ [false] ++
    List.replicate 4 true ++ [false] ++ List.replicate 4 true ++ [false] ++
    List.replicate 12 true

def fitsShape : List Bool → List Char → Bool
  | [], _ => true
  | _ :: _, [] => false
  | b :: bs, c :: cs => (if b then isLowerHex c else c == '-') && fitsShape bs cs

def Labels.labelOf (ls : Labels) (uuid : String) : Labels × String :=
  match ls.lookup uuid with
  | some l => (ls, l)
  | none =>
    let l := "@" ++ toString (ls.length + 1)
    (ls ++ [(uuid, l)], l)

def isUuid (s : String) : Bool := s.length == 36 && fitsShape uuidShape s.toList

/-- Replaces the UUIDs that have labels in characters by their labels; `fuel` bounds the
characters read. -/
def Labels.replaceKnownChars (ls : Labels) : Nat → List Char → List Char
  | 0, cs => cs
  | _ + 1, [] => []
  | fuel + 1, c :: cs =>
    match (if fitsShape uuidShape (c :: cs) then ls.lookup (String.ofList ((c :: cs).take 36))
      else none) with
    | some l => l.toList ++ ls.replaceKnownChars fuel ((c :: cs).drop 36)
    | none => c :: ls.replaceKnownChars fuel cs

def Labels.replaceKnownString (ls : Labels) (s : String) : String :=
  String.ofList (ls.replaceKnownChars s.length s.toList)

def Labels.relabelString (ls : Labels) (s : String) : Labels × String :=
  if isUuid s then ls.labelOf s else (ls, s)

mutual
def Labels.relabel (ls : Labels) : Value → Labels × Value
  | .str s => let (ls', s') := ls.relabelString s; (ls', .str s')
  | .arr items => let (ls', items') := ls.relabelItems items; (ls', .arr items')
  | .obj fields => let (ls', fields') := ls.relabelFields fields; (ls', .obj fields')
  | v => (ls, v)

def Labels.relabelItems (ls : Labels) : List Value → Labels × List Value
  | [] => (ls, [])
  | v :: vs =>
    let (ls', v') := ls.relabel v
    let (ls'', vs') := ls'.relabelItems vs
    (ls'', v' :: vs')

def Labels.relabelFields (ls : Labels) : List (String × Value) → Labels × List (String × Value)
  | [] => (ls, [])
  | (k, v) :: rest =>
    let (ls', v') := ls.relabel v
    let (ls'', rest') := ls'.relabelFields rest
    (ls'', (k, v') :: rest')
end

mutual
def Labels.replaceKnown (ls : Labels) : Value → Value
  | .str s => .str (ls.replaceKnownString s)
  | .arr items => .arr (ls.replaceKnownItems items)
  | .obj fields => .obj (ls.replaceKnownFields fields)
  | v => v

def Labels.replaceKnownItems (ls : Labels) : List Value → List Value
  | [] => []
  | v :: vs => ls.replaceKnown v :: ls.replaceKnownItems vs

def Labels.replaceKnownFields (ls : Labels) : List (String × Value) → List (String × Value)
  | [] => []
  | (k, v) :: rest => (k, ls.replaceKnown v) :: ls.replaceKnownFields rest
end

def labelled (v : Value) : Value :=
  let (ls, v) := Labels.relabel [] v
  Labels.replaceKnown ls v

def Labels.resolve (ls : Labels) (s : String) : String :=
  match ls.find? (·.2 == s) with
  | some (uuid, _) => uuid
  | none => s

def Labels.resolveValue (ls : Labels) : Value → Value
  | .str s => .str (ls.resolve s)
  | v => v

def Labels.resolveList (ls : Labels) : Value → Value
  | .arr items => .arr (items.map ls.resolveValue)
  | v => v

def Value.modify (k : String) (f : Value → Value) : Value → Value
  | .obj fields => .obj (fields.map fun (k', v) => if k' = k then (k', f v) else (k', v))
  | v => v

def Value.modifyItems (f : Value → Value) : Value → Value
  | .arr items => .arr (items.map f)
  | v => v

/-- A session step with the labels in its rule ids resolved: `id`, `ids`,
`input.position.before.ruleId`, and the `rulesToDrop` of a removal or of events. -/
def Labels.resolveStep (ls : Labels) (step : Value) : Value :=
  step
  |> Value.modify "id" ls.resolveValue
  |> Value.modify "ids" ls.resolveList
  |> Value.modify "input" (Value.modify "position" (Value.modify "before"
      (Value.modify "ruleId" ls.resolveValue)))
  |> Value.modify "removal" (Value.modify "rulesToDrop" ls.resolveList)
  |> Value.modify "event" (Value.modify "rulesToDrop" ls.resolveList)
  |> Value.modify "events" (Value.modifyItems (Value.modify "rulesToDrop" ls.resolveList))

end ProviderRouting.Requests
