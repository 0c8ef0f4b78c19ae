import Mathlib.Data.List.Basic
import Signpost.Options.Wire

/-!
# Settings read back

Settings come back from their wire form as they were. An object may leave settings out, give them
in any order and have other members between them: what it does not give is left at the default. A
list gives settings by place, and stands for the object that gives the same ones by name.

## Main definitions

* `Options.Given`: some of the settings, each with a value of its kind.
* `Options.Given.onto`: settings with those in place of their own.
* `Options.Given.IsWritten`: the objects that give those settings.

## Main statements

* `Options.setMembers_of_isWritten`: an object leads to the settings that it gives.
* `Options.setItems_eq_setMembers`: settings by place are settings by name.
* `Options.ofWire_given`: what is read from the wire forms of settings.
-/

namespace Signpost.Options

namespace Field

theorem mem_all (f : Field) : f ∈ all := by
  cases f <;> decide

theorem nodup_all : all.Nodup := by decide

theorem name_inj {f k : Field} : f.name = k.name ↔ f = k := by
  cases f <;> cases k <;> decide

theorem ofName?_eq_some_iff {name : String} {f : Field} :
    ofName? name = some f ↔ f.name = name := by
  constructor
  · intro h
    simpa using List.find?_some h
  · rintro rfl
    cases f <;> decide

end Field

/-! ## Given settings -/

/-- Some of the settings, each with a value of its kind. -/
structure Given where
  requestUriSource : Option String := none
  urlSuffix : Option String := none
  ajaxParamName : Option String := none
  /-- Codes with their classes, the last one of a code being the one that counts. -/
  matchTypes : Option (List (String × String)) := none
  /-- A host, or that there is none. -/
  host : Option (Option String) := none
deriving DecidableEq, Repr

namespace Given

/-- The value of a setting as it is written, if it is given. -/
def wire? (g : Given) : Field → Option Wire
  | .requestUriSource => g.requestUriSource.map .text
  | .urlSuffix => g.urlSuffix.map .text
  | .ajaxParamName => g.ajaxParamName.map .text
  | .matchTypes => g.matchTypes.map fun types => .object (types.map fun e => (e.1, .text e.2))
  | .host => g.host.map fun host => host.elim .null .text

/-- The settings with the given ones in place of their own. -/
def onto (g : Given) (o : Options) : Options where
  requestUriSource := g.requestUriSource.getD o.requestUriSource
  urlSuffix := g.urlSuffix.getD o.urlSuffix
  ajaxParamName := g.ajaxParamName.getD o.ajaxParamName
  matchTypes := (g.matchTypes.map .ofList).getD o.matchTypes
  host := g.host.getD o.host

/-- An object gives the settings: each of them is a member once, and all other members have names
that are no settings. -/
structure IsWritten (g : Given) (members : List (String × Wire)) : Prop where
  /-- No setting is given twice. -/
  nodup : (members.filterMap fun m => Field.ofName? m.1).Nodup
  /-- The members with the names of settings are those that are given. -/
  mem_iff : ∀ (f : Field) (v : Wire), (f.name, v) ∈ members ↔ g.wire? f = some v

/-- The object of the given settings in their order, with nothing between them. -/
def members (g : Given) : List (String × Wire) :=
  Field.all.filterMap fun f => (g.wire? f).map (f.name, ·)

/-- All settings are given. -/
def ofOptions (o : Options) : Given where
  requestUriSource := some o.requestUriSource
  urlSuffix := some o.urlSuffix
  ajaxParamName := some o.ajaxParamName
  matchTypes := some o.matchTypes.entries
  host := some o.host

/-- The given settings but one. -/
def without (g : Given) : Field → Given
  | .requestUriSource => { g with requestUriSource := none }
  | .urlSuffix => { g with urlSuffix := none }
  | .ajaxParamName => { g with ajaxParamName := none }
  | .matchTypes => { g with matchTypes := none }
  | .host => { g with host := none }

theorem wire?_without (g : Given) (f k : Field) :
    (g.without f).wire? k = if k = f then none else g.wire? k := by
  cases f <;> cases k <;> rfl

theorem onto_of_wire?_eq_none {g : Given} (h : ∀ f, g.wire? f = none) (o : Options) :
    g.onto o = o := by
  obtain ⟨source, suffix, ajax, types, host⟩ := g
  have hsource := h .requestUriSource
  have hsuffix := h .urlSuffix
  have hajax := h .ajaxParamName
  have htypes := h .matchTypes
  have hhost := h .host
  simp only [wire?, Option.map_eq_none_iff] at hsource hsuffix hajax htypes hhost
  subst hsource hsuffix hajax htypes hhost
  rfl

@[simp] theorem onto_ofOptions (o o' : Options) : (ofOptions o).onto o' = o := by
  simp [onto, ofOptions, Dict.ofList_entries]

theorem toWire_eq (o : Options) : o.toWire = .object (ofOptions o).members := by
  obtain ⟨source, suffix, ajax, types, host⟩ := o
  cases host <;> rfl

theorem filterMap_ofName?_members (g : Given) :
    g.members.filterMap (fun m => Field.ofName? m.1) =
      Field.all.filter fun f => (g.wire? f).isSome := by
  rw [members, List.filterMap_filterMap, ← List.filterMap_eq_filter]
  refine List.filterMap_congr fun f _ => ?_
  cases hv : g.wire? f with
  | none => simp [Option.guard, hv]
  | some v => simp [Option.guard, hv, Field.ofName?_eq_some_iff]

theorem isWritten_members (g : Given) : g.IsWritten g.members where
  nodup := by
    rw [filterMap_ofName?_members]
    exact Field.nodup_all.filter _
  mem_iff f v := by
    simp [members, Field.mem_all, Field.name_inj]

namespace IsWritten

variable {g : Given} {name : String} {v : Wire} {members : List (String × Wire)}

/-- A member whose name is no setting does not count. -/
theorem tail_of_ofName?_eq_none (h : g.IsWritten ((name, v) :: members))
    (hname : Field.ofName? name = none) : g.IsWritten members where
  nodup := by simpa [hname] using h.nodup
  mem_iff f w := by
    have hne : f.name ≠ name := fun heq => by simp [Field.ofName?_eq_some_iff.2 heq] at hname
    simpa [hne] using h.mem_iff f w

/-- Behind the member of a setting, the others are given. -/
theorem tail {f : Field} (h : g.IsWritten ((f.name, v) :: members)) :
    g.wire? f = some v ∧ (g.without f).IsWritten members := by
  have hname : Field.ofName? f.name = some f := Field.ofName?_eq_some_iff.2 rfl
  have hv : g.wire? f = some v := (h.mem_iff f v).1 List.mem_cons_self
  have hnodup := h.nodup
  simp only [List.filterMap_cons, hname, List.nodup_cons] at hnodup
  refine ⟨hv, hnodup.2, fun k w => ?_⟩
  rw [wire?_without]
  split
  · next hk =>
    subst hk
    have hmem : (k.name, w) ∉ members := fun hmem =>
      hnodup.1 (List.mem_filterMap.2 ⟨_, hmem, hname⟩)
    simp [hmem]
  · next hk => simpa [Field.name_inj, hk] using h.mem_iff k w

end IsWritten

end Given

/-! ## Settings by name -/

theorem texts?_map (types : List (String × String)) :
    texts? (types.map fun e => (e.1, .text e.2)) = some types := by
  induction types with
  | nil => rfl
  | cons e types ih => simp [texts?, ih]

/-- A given setting can be set, and is then no longer missing. -/
theorem set_of_wire? {g : Given} {f : Field} {v : Wire} (h : g.wire? f = some v) (o : Options) :
    ∃ o', o.set f v = .ok o' ∧ (g.without f).onto o' = g.onto o := by
  cases f with
  | matchTypes =>
    obtain ⟨types, htypes, rfl⟩ := Option.map_eq_some_iff.1 h
    exact ⟨{ o with matchTypes := .ofList types }, by simp [set, texts?_map],
      by simp [Given.onto, Given.without, htypes]⟩
  | host =>
    obtain ⟨host, hhost, rfl⟩ := Option.map_eq_some_iff.1 h
    refine ⟨{ o with host := host }, ?_, by simp [Given.onto, Given.without, hhost]⟩
    cases host <;> rfl
  | _ =>
    obtain ⟨text, htext, rfl⟩ := Option.map_eq_some_iff.1 h
    exact ⟨_, rfl, by simp [Given.onto, Given.without, htext]⟩

/-- An object leads to the settings that it gives. -/
theorem setMembers_of_isWritten {g : Given} {members : List (String × Wire)}
    (h : g.IsWritten members) (o : Options) {seen : List Field}
    (hseen : ∀ f ∈ seen, g.wire? f = none) : o.setMembers seen members = .ok (g.onto o) := by
  -- What is left of the object gives what is left of the settings, over those set so far.
  induction members generalizing g o seen with
  | nil =>
    have hnone : ∀ f, g.wire? f = none := fun f => by
      simpa [Option.eq_none_iff_forall_ne_some] using h.mem_iff f
    rw [setMembers, Given.onto_of_wire?_eq_none hnone]
  | cons m members ih =>
    obtain ⟨name, v⟩ := m
    cases hname : Field.ofName? name with
    | none =>
      rw [setMembers, hname]
      exact ih (h.tail_of_ofName?_eq_none hname) o hseen
    | some f =>
      obtain rfl := Field.ofName?_eq_some_iff.1 hname
      obtain ⟨hv, htail⟩ := h.tail
      obtain ⟨o', hset, honto⟩ := set_of_wire? hv o
      have hfresh : f ∉ seen := fun hmem => by simp [hseen f hmem] at hv
      have hseen' : ∀ k ∈ f :: seen, (g.without f).wire? k = none := by
        intro k hk
        rw [Given.wire?_without]
        split
        · rfl
        · next hne => exact hseen k ((List.mem_cons.1 hk).resolve_left hne)
      simp only [setMembers, hname, if_neg hfresh, hset]
      rw [ih htail o' hseen', honto]

theorem ofWire_object {g : Given} {members : List (String × Wire)} (h : g.IsWritten members) :
    ofWire (.object members) = .ok (g.onto {}) :=
  setMembers_of_isWritten h {} (by simp)

/-! ## Settings by place -/

/-- Settings by place are settings by name, whatever their values. -/
theorem setItems_eq_setMembers {fields : List Field} (hnodup : fields.Nodup)
    {values : List Wire} (hlen : values.length ≤ fields.length) (o : Options) {seen : List Field}
    (hseen : ∀ f ∈ fields, f ∉ seen) :
    o.setItems fields values = o.setMembers seen ((fields.map Field.name).zip values) := by
  induction fields generalizing values o seen with
  | nil =>
    rw [List.length_nil, Nat.le_zero, List.length_eq_zero_iff] at hlen
    subst hlen
    rfl
  | cons f fields ih =>
    obtain ⟨hf, hfields⟩ := List.nodup_cons.1 hnodup
    cases values with
    | nil => rfl
    | cons v values =>
      have hname : Field.ofName? f.name = some f := Field.ofName?_eq_some_iff.2 rfl
      have hfresh : f ∉ seen := hseen f List.mem_cons_self
      simp only [setItems, List.map_cons, List.zip_cons_cons, setMembers, hname, if_neg hfresh]
      cases o.set f v with
      | error e => rfl
      | ok o' =>
        refine ih hfields (Nat.le_of_succ_le_succ hlen) o' fun k hk hmem => ?_
        rcases List.mem_cons.1 hmem with rfl | hmem
        · exact hf hk
        · exact hseen k (List.mem_cons_of_mem _ hk) hmem

theorem ofWire_list {values : List Wire} (h : values.length ≤ 5) :
    ofWire (.list values) = ofWire (.object ((Field.all.map Field.name).zip values)) :=
  setItems_eq_setMembers Field.nodup_all h {} (by simp)

theorem zip_map_take {α β γ : Type} (xs : List α) (k : Nat) (f : α → β) (f' : α → γ) :
    (xs.map f).zip ((xs.take k).map f') = (xs.take k).map fun x => (f x, f' x) := by
  induction xs generalizing k with
  | nil => simp
  | cons x xs ih =>
    cases k with
    | zero => simp
    | succ k => simpa using ih k

section First

variable {g : Given} {k : Nat} (h : ∀ f, (g.wire? f).isSome ↔ f ∈ Field.all.take k)
include h

/-- If the settings given are the first ones, whatever is made of them is made of these. -/
theorem filterMap_all_of_first {β : Type} (make : Field → Wire → β) :
    Field.all.filterMap (fun f => (g.wire? f).map (make f)) =
      (Field.all.take k).map fun f => make f ((g.wire? f).getD .null) := by
  have hfirst : (Field.all.take k).filterMap (fun f => (g.wire? f).map (make f)) =
      (Field.all.take k).map fun f => make f ((g.wire? f).getD .null) := by
    refine List.filterMap_eq_map_iff_forall_eq_some.2 fun f hf => ?_
    obtain ⟨v, hv⟩ := Option.isSome_iff_exists.1 ((h f).2 hf)
    rw [hv, Option.map_some, Option.getD_some]
  have hlater : (Field.all.drop k).filterMap (fun f => (g.wire? f).map (make f)) = [] := by
    refine List.filterMap_eq_nil_iff.2 fun f hf => ?_
    have hapart : f ∉ Field.all.take k := fun hmem =>
      List.disjoint_take_drop Field.nodup_all (Nat.le_refl k) hmem hf
    simpa [← h f] using hapart
  calc Field.all.filterMap (fun f => (g.wire? f).map (make f))
      = (Field.all.take k ++ Field.all.drop k).filterMap fun f => (g.wire? f).map (make f) := by
        rw [List.take_append_drop]
    _ = (Field.all.take k).map fun f => make f ((g.wire? f).getD .null) := by
        rw [List.filterMap_append, hfirst, hlater, List.append_nil]

/-- If the settings given are the first ones, their values by place stand for them. -/
theorem ofWire_list_of_first (hk : k ≤ 5) :
    (Field.all.filterMap g.wire?).length = k ∧
      ofWire (.list (Field.all.filterMap g.wire?)) = .ok (g.onto {}) := by
  have hvalues := filterMap_all_of_first h fun _ v => v
  have hmembers : g.members = _ := filterMap_all_of_first h fun f v => (f.name, v)
  simp only [Option.map_id'] at hvalues
  have hlength : (Field.all.filterMap g.wire?).length = k := by
    rw [hvalues, List.length_map, List.length_take]
    exact Nat.min_eq_left hk
  refine ⟨hlength, ?_⟩
  rw [ofWire_list (hlength ▸ hk), ← ofWire_object g.isWritten_members, hmembers, hvalues,
    zip_map_take]

end First

/-- Reading settings from their wire forms. All settings are written so that they are read again as
they were. An object that gives some settings, in any order and with any members of other names,
is read as the defaults with those settings in place of their own, which are written so that they
are read again. A list of at most five values is read as the object that has them, in their order,
under the names of the settings; if these are values of the first settings, it is read as the
defaults with those. -/
theorem ofWire_given :
    (∀ o : Options, ofWire o.toWire = .ok o) ∧
    (∀ (g : Given) (members : List (String × Wire)), g.IsWritten members →
      ofWire (.object members) = .ok (g.onto {}) ∧
        ofWire (g.onto {}).toWire = .ok (g.onto {})) ∧
    (∀ values : List Wire, values.length ≤ 5 →
      ofWire (.list values) = ofWire (.object ((Field.all.map Field.name).zip values))) ∧
    ∀ (g : Given) (k : Nat), k ≤ 5 → (∀ f, (g.wire? f).isSome ↔ f ∈ Field.all.take k) →
      (Field.all.filterMap g.wire?).length = k ∧
        ofWire (.list (Field.all.filterMap g.wire?)) = .ok (g.onto {}) := by
  have hback : ∀ o : Options, ofWire o.toWire = .ok o := by
    intro o
    rw [Given.toWire_eq, ofWire_object (Given.isWritten_members _), Given.onto_ofOptions]
  refine ⟨hback, fun g members h => ⟨ofWire_object h, hback _⟩, fun values h => ofWire_list h,
    fun g k hk h => ofWire_list_of_first h hk⟩

/-- No host is given in one of two ways, by a member or by none. -/
example : ofWire (.object [("x", .null), ("host", .null), ("url_suffix", .text ""),
    ("match_types", .object [("i", .text "a"), ("i", .text "b")]), ("x", .bool true)]) =
    .ok { urlSuffix := "", matchTypes := .ofList [("i", "b")] } := by decide +kernel

end Signpost.Options
