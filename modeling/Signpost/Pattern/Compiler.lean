import Signpost.Pattern

/-!
# Compilers

A compiler keeps the patterns that it has made, and gives the same one again for the same
template.

## Main definitions

* `Compiler`: a catalog and the patterns made so far.
* `Compiler.compile`: the pattern of a template, new or kept.
* `Compiler.clear`: forgets the patterns.
-/

namespace Signpost

/-- A pattern with the number of the compilation that made it. -/
structure Compiled where
  /-- How many patterns the compiler had made before. -/
  number : Nat
  pattern : Pattern

/-- A catalog and the patterns made with it. -/
structure Compiler where
  catalog : Template.Catalog := .builtin
  /-- The patterns that are kept, by template. -/
  kept : Dict Compiled := .empty
  /-- How many patterns have been made, those forgotten included. -/
  made : Nat := 0

namespace Compiler

/-- The pattern of a template. A pattern that is kept is given again; a new one is kept. -/
def compile (c : Compiler) (template : String) : Except Template.Error Compiled × Compiler :=
  match c.kept.get? template with
  | some compiled => (.ok compiled, c)
  | none =>
    match Pattern.compile template c.catalog with
    | .error e => (.error e, c)
    | .ok pattern =>
      let compiled := ⟨c.made, pattern⟩
      (.ok compiled, { c with kept := c.kept.insert template compiled, made := c.made + 1 })

/-- Forgets all patterns. -/
def clear (c : Compiler) : Compiler := { c with kept := .empty }

/-- How many patterns are kept. -/
def keptCount (c : Compiler) : Nat := c.kept.size

end Compiler

end Signpost
