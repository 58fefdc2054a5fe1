/-!
# Places in a YAML stream and problems met there

A mark counts characters, bytes of UTF-8, lines and columns from zero; it is shown counted from
one. A problem names what went wrong, where, and often what was being read and where that
began.
-/

namespace ProviderRouting.Yaml

/-- A place in the stream: characters before it, its line and column from zero, and the bytes
before it in UTF-8. -/
structure Mark where
  index : Nat := 0
  line : Nat := 0
  column : Nat := 0
  offset : Nat := 0
  deriving Repr, DecidableEq, Inhabited

def Mark.text (m : Mark) : String :=
  "line " ++ toString (m.line + 1) ++ " column " ++ toString (m.column + 1)

def Mark.isStart (m : Mark) : Bool := m.line == 0 && m.column == 0

/-- A problem that stops reading: what went wrong and where, and what was being read. -/
structure Problem where
  problem : String
  mark : Mark := {}
  offset : Nat := 0
  context : Option (String × Mark) := none
  deriving Repr, Inhabited

/-- The words of a problem: the mark is shown unless it is the start (then the byte offset,
if any), and the context's mark only when it is elsewhere. -/
def Problem.text (p : Problem) : String :=
  let place :=
    if !p.mark.isStart then " at " ++ p.mark.text
    else if p.offset != 0 then " at position " ++ toString p.offset
    else ""
  let context := match p.context with
    | none => ""
    | some (c, m) =>
      ", " ++ c ++
        (if !m.isStart && (m.line != p.mark.line || m.column != p.mark.column) then
          " at " ++ m.text
        else "")
  p.problem ++ place ++ context

end ProviderRouting.Yaml
