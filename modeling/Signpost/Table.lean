import Signpost.Method
import Signpost.Pattern
import Signpost.Text.Quoted

/-!
# Route tables

The handlers of a router, by pattern. Patterns stand in the order of their first registration, and
so do the bindings of a pattern, which differ in method or hosts. An index leads from the text of a
pattern to its entry.

## Main definitions

* `Binding`: a handler with its method and hosts.
* `Entry`: a pattern with its bindings.
* `Table`: the entries and their index.
* `Table.insert`: registers a handler.
-/

namespace Signpost

universe u

/-- A handler that is bound to a method and to hosts. -/
structure Binding (α : Type u) where
  /-- The method that it handles. -/
  method : MethodToken
  /-- The hosts, in small letters, all of which a request's host must be. -/
  hosts : List String
  /-- The handler. -/
  handler : α
  /-- How many registrations came before. -/
  seq : Nat
deriving DecidableEq, Repr

namespace Binding

variable {α : Type u}

/-- The bindings have the same method and hosts, so that the later one replaces the earlier. -/
def sameSlot (a b : Binding α) : Bool := a.method == b.method && a.hosts == b.hosts

/-- The binding handles requests with a method and a host. -/
def accepts (b : Binding α) (method host : String) : Bool :=
  b.method.accepts method && b.hosts.all (· == host)

/-- The binding as a text, without its handler. -/
def describe (b : Binding α) : String :=
  let method := match b.method with
    | .any => "Any"
    | .verb name => "Verb(" ++ Text.quoted name ++ ")"
  "RouteBinding \x7b method: " ++ method ++ ", hosts: " ++ Text.quotedList b.hosts ++ ", seq: " ++
    toString b.seq ++ ", .. \x7d"

/-- The bindings with one more, which takes the place of one with the same slot. -/
def put (b : Binding α) : List (Binding α) → List (Binding α)
  | [] => [b]
  | a :: as => if a.sameSlot b then b :: as else a :: put b as

end Binding

/-- A pattern with its bindings. -/
structure Entry (α : Type u) where
  pattern : Pattern
  bindings : List (Binding α)

namespace Entry

variable {α : Type u}

/-- The text of the pattern. -/
def source (e : Entry α) : String := e.pattern.source

/-- The entry with one more binding. -/
def put (b : Binding α) (e : Entry α) : Entry α := { e with bindings := b.put e.bindings }

end Entry

/-- How many handlers were registered. -/
structure Metrics where
  /-- All of them. -/
  registered : Nat := 0
  /-- Those that took the place of another. -/
  replaced : Nat := 0
deriving DecidableEq, Repr, Inhabited

/-- What a registration did. -/
inductive Inserted
  | added
  | replaced
deriving DecidableEq, Repr

/-- The entries of a router. -/
structure Table (α : Type u) where
  entries : List (Entry α) := []
  /-- The place of each pattern among the entries, by its text. -/
  index : Dict Nat := .empty
  /-- The number of the next registration. -/
  nextSeq : Nat := 0
  metrics : Metrics := {}

namespace Table

variable {α : Type u}

instance : Inhabited (Table α) := ⟨{}⟩

/-- The entry of a pattern text. -/
def get? (t : Table α) (source : String) : Option (Entry α) :=
  (t.index.get? source).bind fun place => t.entries[place]?

/-- The place of a pattern, and the table with an entry there. A new pattern goes to the end; a
known one stays as it is. -/
def reserve (t : Table α) (p : Pattern) : Nat × Table α :=
  match t.index.get? p.source with
  | some place => (place, t)
  | none =>
    let place := t.entries.length
    (place, { t with entries := t.entries ++ [⟨p, []⟩], index := t.index.insert p.source place })

/-- Registers a handler. It replaces the handler of the same pattern, method and hosts. -/
def insert (t : Table α) (p : Pattern) (method : MethodToken) (hosts : List String) (handler : α) :
    Inserted × Table α :=
  let (place, t) := t.reserve p
  let b : Binding α := ⟨method, hosts, handler, t.nextSeq⟩
  let known := t.entries[place]?.any fun e => e.bindings.any (·.sameSlot b)
  (if known then .replaced else .added,
    { t with
      entries := t.entries.modify place (·.put b)
      nextSeq := t.nextSeq + 1
      metrics := ⟨t.metrics.registered + 1, t.metrics.replaced + known.toNat⟩ })

/-- How many patterns there are. -/
def size (t : Table α) : Nat := t.entries.length

/-- There is no pattern. -/
def isEmpty (t : Table α) : Bool := t.entries.isEmpty

end Table

end Signpost
