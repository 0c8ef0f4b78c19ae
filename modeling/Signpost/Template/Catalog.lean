import Signpost.Dict

/-!
# Catalog of placeholder types

A catalog gives the codes of placeholders their classes, which are texts of regular expressions.
A code without an entry is its own class.

## Main definitions

* `builtinTypes`: the codes that every catalog starts with.
* `Catalog.resolve`: the class of a code.
-/

namespace Signpost.Template

/-- The codes that every catalog starts with, with their classes. -/
def builtinTypes : List (String × String) :=
  [("i", "[0-9]+"),
   ("a", "[0-9A-Za-z]+"),
   ("c", "[A-Za-z][0-9A-Za-z_]*"),
   ("h", "[0-9A-Fa-f]+"),
   ("s", "[0-9A-Za-z\\-_]+"),
   ("*", ".+?"),
   ("**", ".+"),
   ("", "[^/]+?")]

/-- The classes of placeholder codes. -/
structure Catalog where
  /-- The class of each code that has one of its own. -/
  classes : Dict String
deriving DecidableEq, Repr

namespace Catalog

/-- The catalog of the codes that every catalog starts with. -/
def builtin : Catalog := ⟨.ofList builtinTypes⟩

instance : Inhabited Catalog := ⟨builtin⟩

/-- Gives `code` the class `cls`, in place of the one it had. -/
def insert (catalog : Catalog) (code cls : String) : Catalog := ⟨catalog.classes.insert code cls⟩

/-- The builtin codes and further ones; a further one replaces a builtin of the same code. -/
def withExtra (extra : List (String × String)) : Catalog := ⟨builtin.classes.insertAll extra⟩

/-- The class of `code`, which is `code` itself if the catalog has none for it. -/
def resolve (catalog : Catalog) (code : String) : String := (catalog.classes.get? code).getD code

/-- How many codes have a class. -/
def size (catalog : Catalog) : Nat := catalog.classes.size

/-- No code has a class. -/
def isEmpty (catalog : Catalog) : Bool := catalog.classes.isEmpty

end Catalog

end Signpost.Template
