import Signpost.Regex
import Signpost.Template.Source

/-!
# Patterns

Templates that are ready to match paths.

## Main definitions

* `Pattern`: a template with its expression. Two patterns are the same if the texts of their
  expressions are.
* `Pattern.compile`: the pattern of a template.
* `Pattern.isMatch`, `Pattern.captures`, `Pattern.allCaptures`: what a pattern finds in a path.
-/

namespace Signpost

/-- A template that is ready to match paths. -/
structure Pattern where
  /-- The template. -/
  template : String
  /-- The text of its expression. -/
  source : String
  /-- The parameter names in the order in which the template declares them. -/
  names : List String
  /-- Its expression. -/
  regex : Regex
  /-- The expression is that of the text. -/
  regex_eq : Regex.ofSource source = .ok regex

namespace Pattern

/-- The patterns have the same expression. -/
instance : BEq Pattern := ⟨fun p q => p.source == q.source⟩

theorem beq_iff {p q : Pattern} : (p == q) = true ↔ p.source = q.source := by
  simp [BEq.beq]

/-- Patterns with the same text have the same expression. -/
theorem regex_eq_of_source_eq {p q : Pattern} (h : p.source = q.source) : p.regex = q.regex :=
  Except.ok.inj (p.regex_eq.symm.trans (h ▸ q.regex_eq))

/-- The pattern of a template, whose codes have the classes of a catalog. -/
def compile (template : String) (catalog : Template.Catalog) : Except Template.Error Pattern :=
  match Template.source template catalog with
  | .error e => .error e
  | .ok s =>
    match h : Regex.ofSource s.text with
    | .error cause => .error ⟨template, .expression cause⟩
    | .ok regex => .ok ⟨template, s.text, s.names, regex, h⟩

/-- The pattern matches a path. -/
def isMatch (p : Pattern) (path : String) : Bool := p.regex.isMatch path

/-- The named parameters of a path that took part in the match, in the order of the names. -/
def captures (p : Pattern) (path : String) : Option (List (String × String)) :=
  p.regex.named? p.names path

/-- The values of all groups in the match of a path, those without a name included. -/
def allCaptures (p : Pattern) (path : String) : Option (List (Option String)) :=
  p.regex.groups? path

end Pattern

end Signpost
