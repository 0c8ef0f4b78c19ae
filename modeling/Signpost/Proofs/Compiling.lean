import Signpost.Pattern.Compiler

/-!
# Kept patterns

A compiler answers as if it kept nothing: what it keeps for a template is the pattern of that very
template.

## Main definitions

* `Compiler.IsCoherent`: each pattern that is kept is that of its template.

## Main statements

* `Compiler.compile_cases`: an answer is kept, or an error, or new.
* `Compiler.compile_of_error`: a template that is refused changes nothing.
* `Compiler.IsCoherent.map_pattern_compile`: the answer is the pattern of the template.
* `Compiler.IsCoherent.compile`, `Compiler.IsCoherent.clear`: what a compiler keeps stays so.
-/

namespace Signpost.Compiler

/-- Each pattern that is kept is that of its template. -/
def IsCoherent (c : Compiler) : Prop :=
  ∀ template compiled, c.kept.get? template = some compiled →
    Pattern.compile template c.catalog = .ok compiled.pattern

/-- An answer that is kept is given again. Else the template is refused, which changes nothing, or a
new pattern is kept for it. -/
theorem compile_cases (c : Compiler) (template : String) :
    (∃ compiled, c.kept.get? template = some compiled ∧ c.compile template = (.ok compiled, c)) ∨
    (∃ e, c.kept.get? template = none ∧ Pattern.compile template c.catalog = .error e ∧
      c.compile template = (.error e, c)) ∨
    ∃ pattern, c.kept.get? template = none ∧ Pattern.compile template c.catalog = .ok pattern ∧
      c.compile template = (.ok ⟨c.made, pattern⟩,
        { c with kept := c.kept.insert template ⟨c.made, pattern⟩, made := c.made + 1 }) := by
  unfold compile
  cases hkept : c.kept.get? template with
  | some compiled => exact .inl ⟨compiled, rfl, rfl⟩
  | none =>
    cases hpattern : Pattern.compile template c.catalog with
    | error e => exact .inr (.inl ⟨e, rfl, rfl, rfl⟩)
    | ok pattern => exact .inr (.inr ⟨pattern, rfl, rfl, rfl⟩)

/-- Compiling changes the catalog in no way. -/
@[simp] theorem catalog_compile (c : Compiler) (template : String) :
    (c.compile template).2.catalog = c.catalog := by
  obtain ⟨_, _, h⟩ | ⟨_, _, _, h⟩ | ⟨_, _, _, h⟩ := c.compile_cases template <;> rw [h]

/-- A template that is refused changes nothing. -/
theorem compile_of_error {c : Compiler} {template : String} {e : Template.Error}
    (he : (c.compile template).1 = .error e) : (c.compile template).2 = c := by
  obtain ⟨_, _, h⟩ | ⟨_, _, _, h⟩ | ⟨_, _, _, h⟩ := c.compile_cases template
  · rw [h]
  · rw [h]
  · rw [h] at he
    cases he

namespace IsCoherent

variable {c : Compiler}

/-- A compiler that keeps nothing. -/
theorem empty (catalog : Template.Catalog) : IsCoherent { catalog } := by
  intro template compiled h
  cases h

theorem clear : c.clear.IsCoherent := by
  intro template compiled h
  cases h

/-- The answer is the pattern of the template, kept or not. -/
theorem map_pattern_compile (h : c.IsCoherent) (template : String) :
    (c.compile template).1.map Compiled.pattern = Pattern.compile template c.catalog := by
  obtain ⟨x, hkept, hx⟩ | ⟨e, -, he, hx⟩ | ⟨p, -, hp, hx⟩ := c.compile_cases template
  · rw [hx, h template x hkept]
    rfl
  · rw [hx, he]
    rfl
  · rw [hx, hp]
    rfl

theorem compile (h : c.IsCoherent) (template : String) : (c.compile template).2.IsCoherent := by
  obtain ⟨_, _, hx⟩ | ⟨_, _, _, hx⟩ | ⟨p, -, hp, hx⟩ := c.compile_cases template
  · rwa [hx]
  · rwa [hx]
  · rw [hx]
    intro other compiled hkept
    rw [Dict.get?_insert] at hkept
    split at hkept
    · next heq =>
      subst heq
      cases hkept
      exact hp
    · exact h other compiled hkept

end IsCoherent

end Signpost.Compiler
