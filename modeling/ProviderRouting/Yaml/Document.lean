import ProviderRouting.Yaml.Event
import ProviderRouting.Yaml.Scalar

/-!
# YAML documents

A document is loaded as the list of its node events, each at its mark, with aliases pointing at
the event their anchor was last set on. Loading stops at the end of the document or at the
first problem, keeping the events read before it: typed reading goes through them first, so a
wrong type met before the problem is the one reported. A stream with no document loads as one
empty node.

Errors met while loading or reading carry what went wrong and, once known, the mark and the path
of keys to the node, shown as `logging.level: … at line 2 column 10`.
-/

namespace ProviderRouting.Yaml

/-! ## Nodes -/

/-- A node event of a loaded document. -/
inductive Node where
  | alias (target : Nat)
  | scalar (tag : Option String) (text : String) (style : ScalarStyle)
  | sequenceStart (tag : Option String)
  | sequenceEnd
  | mappingStart (tag : Option String)
  | mappingEnd
  | empty
  deriving Repr, Inhabited

/-- The path of keys from the root to a node. -/
inductive Path where
  | root
  | key (parent : Path) (name : String)
  | unknown (parent : Path)
  | alias (parent : Path)
  deriving Repr, Inhabited

def Path.text : Path → String
  | .root => "."
  | .key .root k => k
  | .key p k => Path.text p ++ "." ++ k
  | .unknown .root => "?"
  | .unknown p => Path.text p ++ ".?"
  | .alias p => Path.text p

/-! ## Errors -/

/-- Why a document could not be loaded or read. -/
inductive LoadError where
  | malformed (p : Problem)
  | unknownAnchor (mark : Mark)
  | message (text : String) (place : Option (Mark × Path))
  | endOfStream
  | moreThanOneDocument
  | repetitionLimit
  deriving Repr, Inhabited

def LoadError.fix (e : LoadError) (m : Mark) (p : Path) : LoadError :=
  match e with
  | .message t none => .message t (some (m, p))
  | e => e

def Mark.suffix (m : Mark) : String := if m.isStart then "" else " at " ++ m.text

def LoadError.text : LoadError → String
  | .malformed p => p.text
  | .unknownAnchor m => "unknown anchor" ++ m.suffix
  | .message t none => t
  | .message t (some (m, p)) =>
    (if p.text == "." then "" else p.text ++ ": ") ++ t ++ m.suffix
  | .endOfStream => "EOF while parsing a value"
  | .moreThanOneDocument =>
    "deserializing from YAML containing more than one document is not supported"
  | .repetitionLimit => "repetition limit exceeded"

def invalidType (found expected : String) : LoadError :=
  .message ("invalid type: " ++ found ++ ", expected " ++ expected) none

def invalidValue (found expected : String) : LoadError :=
  .message ("invalid value: " ++ found ++ ", expected " ++ expected) none

/-! ## Loading -/

/-- A loaded document: its node events and the problem that ended it early, if any. -/
structure Document where
  events : Array (Node × Mark)
  error : Option LoadError := none
  deriving Repr, Inhabited

/-- Reads events to the end of a document. The first document of a stream ends with the stream
too, as one empty node if it had none; a later one is none then. -/
def collect (first : Bool) : Nat → List (String × Nat) → Array (Node × Mark) → EventReader →
    Option Document × EventReader
  | 0, _, evs, p => (some { events := evs }, p)
  | n + 1, anchors, evs, p =>
    let noted := fun (anchor : Option String) =>
      match anchor with
      | some a => (a, evs.size) :: anchors
      | none => anchors
    match nextEvent.run p with
    | .error e => (some { events := evs, error := some (.malformed e) }, p)
    | .ok (none, p') =>
      if first then (some { events := if evs.isEmpty then #[(.empty, {})] else evs }, p')
      else (none, p')
    | .ok (some ev, p') =>
      match ev.kind with
      | .streamStart | .documentStart => collect first n anchors evs p'
      | .streamEnd =>
        if first then (some { events := if evs.isEmpty then #[(.empty, ev.mark)] else evs }, p')
        else (none, p')
      | .documentEnd => (some { events := evs }, p')
      | .alias name =>
        match anchors.lookup name with
        | some i => collect first n anchors (evs.push (.alias i, ev.mark)) p'
        | none => (some { events := evs, error := some (.unknownAnchor ev.mark) }, p')
      | .scalar anchor tag text style =>
        collect first n (noted anchor) (evs.push (.scalar tag text style, ev.mark)) p'
      | .sequenceStart anchor tag =>
        collect first n (noted anchor) (evs.push (.sequenceStart tag, ev.mark)) p'
      | .sequenceEnd => collect first n anchors (evs.push (.sequenceEnd, ev.mark)) p'
      | .mappingStart anchor tag =>
        collect first n (noted anchor) (evs.push (.mappingStart tag, ev.mark)) p'
      | .mappingEnd => collect first n anchors (evs.push (.mappingEnd, ev.mark)) p'

/-- The byte offset of the first character a YAML stream may not hold: a control character
other than tab, line feed, carriage return and next line, or one of U+FEFF's neighbours U+FFFE
and U+FFFF. -/
def firstControl (s : String) : Option Nat :=
  let allowed := fun (c : Char) =>
    let v := c.toNat
    v == 0x09 || v == 0x0A || v == 0x0D || (0x20 ≤ v && v ≤ 0x7E) || v == 0x85 ||
      (0xA0 ≤ v && v ≤ 0xD7FF) || (0xE000 ≤ v && v ≤ 0xFFFD) ||
      (0x10000 ≤ v && v ≤ 0x10FFFF)
  let rec go : List Char → Nat → Option Nat
    | [], _ => none
    | c :: cs, offset => if allowed c then go cs (offset + c.utf8Size) else some offset
  go s.toList 0

/-- The reader of events over a stream, past a leading byte order mark, or the problem with
its text. -/
def EventReader.ofText (s : String) : Except Problem EventReader :=
  match firstControl s with
  | some offset => .error { problem := "control characters are not allowed", offset := offset }
  | none =>
    let cs := match s.toList with
      | c :: rest => if c.toNat == 0xFEFF then rest else c :: rest
      | [] => []
    .ok (EventReader.ofChars cs.toArray)

def EventReader.eventBound (p : EventReader) : Nat := 4 * p.lexer.input.size + 8

def Document.first (p : EventReader) : Document × EventReader :=
  match collect true p.eventBound [] #[] p with
  | (some d, p') => (d, p')
  | (none, p') => ({ events := #[(.empty, {})] }, p')

def EventReader.hasMore (p : EventReader) : Bool := (collect false p.eventBound [] #[] p).1.isSome

end ProviderRouting.Yaml
