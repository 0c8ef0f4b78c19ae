import Signpost.Regex.Circuit
import Signpost.Regex.Footprint
import Signpost.Regex.Read

/-!
# Compiled expressions

Expressions that are ready to match texts.

## Main definitions

* `Regex`: an expression with the names of its groups and its circuit.
* `Regex.ofSource`: the expression of a text, if it is one and not too large.
* `Regex.isMatch`: whether a text has a match.
* `Regex.groups?`: what the groups matched in the leftmost match of a text.
-/

namespace Signpost

/-- An expression that is ready to match texts. -/
structure Regex where
  /-- The expression with the names of its groups. -/
  reading : Regex.Reading
  /-- Its circuit before it has read anything. -/
  circuit : Regex.Circuit
deriving Repr

namespace Regex

/-- The expression of a text. -/
def ofSource (source : String) : Except Fault Regex := do
  let reading ← read source
  if maxFootprint < reading.expr.footprint then .error .tooLarge
  else .ok ⟨reading, reading.expr.circuit⟩

/-- The trace of the leftmost match in a text. -/
def trace? (r : Regex) (text : List Char) : Outcome := (r.circuit.sweep none 0 text).2

/-- The text has a match. -/
def isMatch (r : Regex) (text : String) : Bool := (r.trace? text.toList).isSome

/-- The last place at which a group opens or closes. -/
def lastMark (trace : Trace) (group : Nat) (opens : Bool) : Option Nat :=
  ((trace.filter fun m => m.group == group && m.opens == opens).getLast?).map Mark.place

/-- The part of a text between two places. -/
def slice (text : List Char) (start stop : Nat) : String :=
  String.ofList ((text.drop start).take (stop - start))

/-- What a group matched last in a match with the given trace. -/
def groupText (text : List Char) (trace : Trace) (group : Nat) : Option String :=
  match lastMark trace group true, lastMark trace group false with
  | some start, some stop => some (slice text start stop)
  | _, _ => none

/-- The greatest number of a group. -/
def groupCount (r : Regex) : Nat := r.reading.expr.groups.foldl max 0

/-- The number of the group with a name, if the group is still part of the expression. -/
def groupNamed? (r : Regex) (name : String) : Option Nat :=
  (r.reading.names.lookup name).filter fun group => r.reading.expr.groups.contains group

/-- What the groups matched in the leftmost match of a text, group 1 first. -/
def groups? (r : Regex) (text : String) : Option (List (Option String)) :=
  let cs := text.toList
  (r.trace? cs).map fun trace =>
    (List.range r.groupCount).map fun i => groupText cs trace (i + 1)

/-- The values of named groups in the leftmost match of a text, in the order of `names`. A group
that took no part has none. -/
def named? (r : Regex) (names : List String) (text : String) : Option (List (String × String)) :=
  let cs := text.toList
  (r.trace? cs).map fun trace =>
    names.filterMap fun name =>
      (r.groupNamed? name).bind fun group => (groupText cs trace group).map (name, ·)

end Regex

end Signpost
