import Signpost.Proofs.Distinct
import Signpost.Table

/-!
# Logs of registrations

A log is a sequence of registrations. It settles which patterns there are, which slots each of them
has, and which registration fills a slot.

## Main definitions

* `Registration`: what one registration hands over.
* `Registration.sources`, `Registration.slots`: the pattern texts of a log and the slots of a
  pattern, each by first occurrence.
* `Registration.latest?`: the registration that fills a slot.

## Main statements

* `Registration.slots_concat`, `Registration.latest?_concat`: what one more registration changes.
* `Binding.map_slot_put`, `Binding.mem_put`: what a binding changes in the entry it is put into.
-/

namespace Signpost

universe u

variable {α : Type u}

/-- What tells the bindings of one pattern apart: the method and the hosts. -/
abbrev Slot := MethodToken × List String

/-- One registration of a handler. -/
structure Registration (α : Type u) where
  pattern : Pattern
  method : MethodToken
  hosts : List String
  handler : α

/-- The slot of a binding. -/
def Binding.slot (b : Binding α) : Slot := (b.method, b.hosts)

@[simp] theorem Binding.sameSlot_iff {a b : Binding α} : a.sameSlot b = true ↔ a.slot = b.slot := by
  simp [sameSlot, slot, Prod.ext_iff]

namespace Registration

/-- The text of the pattern. -/
def source (r : Registration α) : String := r.pattern.source

/-- The slot that the registration fills. -/
def slot (r : Registration α) : Slot := (r.method, r.hosts)

/-- The texts of the patterns of a log, in the order of their first occurrence. -/
def sources (log : List (Registration α)) : List String := (log.map source).eraseDups

/-- The registrations of a log under one pattern text. -/
def under (log : List (Registration α)) (s : String) : List (Registration α) :=
  log.filter (·.source = s)

/-- The slots that a log fills under one pattern text, in the order of their first occurrence. -/
def slots (log : List (Registration α)) (s : String) : List Slot :=
  ((under log s).map slot).eraseDups

/-- The last registration of a log that fills a slot of a pattern, with its place in the log. -/
def latest? (log : List (Registration α)) (s : String) (σ : Slot) : Option (Registration α × Nat) :=
  lastWith? (fun r => r.source = s ∧ r.slot = σ) log

theorem mem_sources {log : List (Registration α)} {s : String} :
    s ∈ sources log ↔ ∃ r ∈ log, r.source = s := by
  simp [sources]

theorem mem_slots {log : List (Registration α)} {s : String} {σ : Slot} :
    σ ∈ slots log s ↔ ∃ r ∈ log, r.source = s ∧ r.slot = σ := by
  simp [slots, under, and_assoc]

theorem sources_concat (log : List (Registration α)) (r : Registration α) :
    sources (log ++ [r]) =
      if r.source ∈ sources log then sources log else sources log ++ [r.source] := by
  rw [sources, List.map_append, List.map_singleton, eraseDups_concat]
  simp [sources]

theorem nodup_sources (log : List (Registration α)) : (sources log).Nodup := nodup_eraseDups _

theorem nodup_slots (log : List (Registration α)) (s : String) : (slots log s).Nodup :=
  nodup_eraseDups _

theorem under_concat (log : List (Registration α)) (r : Registration α) (s : String) :
    under (log ++ [r]) s = if r.source = s then under log s ++ [r] else under log s := by
  by_cases h : r.source = s <;> simp [under, h]

theorem slots_concat (log : List (Registration α)) (r : Registration α) (s : String) :
    slots (log ++ [r]) s =
      if r.source = s ∧ r.slot ∉ slots log s then slots log s ++ [r.slot] else slots log s := by
  rw [slots, under_concat]
  by_cases hs : r.source = s
  · rw [if_pos hs, List.map_append, List.map_singleton, eraseDups_concat]
    by_cases h : r.slot ∈ (under log s).map slot <;> simp [slots, hs, h]
  · simp [slots, hs]

theorem latest?_concat (log : List (Registration α)) (r : Registration α) (s : String) (σ : Slot) :
    latest? (log ++ [r]) s σ =
      if r.source = s ∧ r.slot = σ then some (r, log.length) else latest? log s σ := by
  simp [latest?, lastWith?_concat]

/-- The last registration under a slot stands at its place, and none of that slot comes later. -/
theorem latest?_eq_some_iff {log : List (Registration α)} {s : String} {σ : Slot}
    {r : Registration α} {i : Nat} :
    latest? log s σ = some (r, i) ↔
      (log[i]? = some r ∧ r.source = s ∧ r.slot = σ) ∧
        ∀ j x, i < j → log[j]? = some x → x.source = s → x.slot ≠ σ := by
  simp [latest?, lastWith?_eq_some_iff]

/-- The binding that the registration makes if `seq` others came before. -/
def binding (r : Registration α) (seq : Nat) : Binding α := ⟨r.method, r.hosts, r.handler, seq⟩

@[simp] theorem slot_binding (r : Registration α) (seq : Nat) : (r.binding seq).slot = r.slot := rfl

end Registration

namespace Binding

theorem map_slot_put (b : Binding α) (as : List (Binding α)) :
    (b.put as).map slot =
      if b.slot ∈ as.map slot then as.map slot else as.map slot ++ [b.slot] := by
  fun_induction put b as with
  | case1 => simp
  | case2 a as h => simp [sameSlot_iff.1 h]
  | case3 a as h ih =>
    have hne : b.slot ≠ a.slot := fun heq => h (sameSlot_iff.2 heq.symm)
    rw [List.map_cons, ih]
    by_cases hb : b.slot ∈ as.map slot <;> simp [hb, hne]

/-- Of the bindings from before, those with other slots stay. -/
theorem mem_put {b c : Binding α} {as : List (Binding α)} (has : (as.map slot).Nodup) :
    c ∈ b.put as ↔ c = b ∨ c ∈ as ∧ c.slot ≠ b.slot := by
  fun_induction put b as with
  | case1 => simp
  | case2 a as h =>
    obtain ⟨ha, -⟩ := List.nodup_cons.1 has
    have hslot := sameSlot_iff.1 h
    have hrest : c ∈ as → c.slot ≠ b.slot := fun hc heq =>
      ha (List.mem_map.2 ⟨c, hc, heq.trans hslot.symm⟩)
    grind
  | case3 a as h ih =>
    obtain ⟨-, has⟩ := List.nodup_cons.1 has
    have hne : a.slot ≠ b.slot := fun heq => h (sameSlot_iff.2 heq)
    rw [List.mem_cons, List.mem_cons, ih has]
    grind

theorem length_put (b : Binding α) (as : List (Binding α)) :
    (b.put as).length = as.length + if b.slot ∈ as.map slot then 0 else 1 := by
  have h := congrArg List.length (map_slot_put b as)
  rw [List.length_map] at h
  rw [h]
  split <;> simp

end Binding

@[simp] theorem Entry.source_mk (r : Registration α) (bs : List (Binding α)) :
    (⟨r.pattern, bs⟩ : Entry α).source = r.source := rfl

@[simp] theorem Entry.source_put (b : Binding α) (e : Entry α) : (e.put b).source = e.source := rfl

/-- A binding put into the entry of a pattern adds to the number of all bindings unless its slot is
filled there. -/
theorem length_flatMap_put {es : List (Entry α)} (hes : (es.map Entry.source).Nodup)
    {e : Entry α} (he : e ∈ es) (b : Binding α) :
    ((es.map fun x => if x.source = e.source then x.put b else x).flatMap Entry.bindings).length =
      (es.flatMap Entry.bindings).length +
        if b.slot ∈ e.bindings.map Binding.slot then 0 else 1 := by
  induction es with
  | nil => simp at he
  | cons x xs ih =>
    obtain ⟨hx, hxs⟩ := List.nodup_cons.1 hes
    rcases List.mem_cons.1 he with rfl | he
    · have hmap : xs.map (fun y => if y.source = e.source then y.put b else y) = xs :=
        (List.map_congr_left fun y hy => if_neg fun heq =>
          hx (List.mem_map.2 ⟨y, hy, heq⟩)).trans (List.map_id' xs)
      rw [List.map_cons, if_pos rfl, hmap, List.flatMap_cons, List.flatMap_cons,
        List.length_append, List.length_append, Entry.put, Binding.length_put]
      omega
    · have hne : x.source ≠ e.source := fun heq => hx (heq ▸ List.mem_map_of_mem he)
      rw [List.map_cons, if_neg hne, List.flatMap_cons, List.flatMap_cons, List.length_append,
        List.length_append, ih hxs he]
      omega

end Signpost
