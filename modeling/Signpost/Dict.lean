/-!
# Dictionaries

Finite maps whose keys are texts. The entries are kept by strictly rising key, so that two
dictionaries with the same look-ups are the same value.

## Main definitions

* `Dict`: the entries, with their order as a proof field.
* `Dict.insert`: sets the value of one key.
* `Dict.get?`: the value of a key.
* `Dict.insertAll`: sets many values, the last of a key staying.

## Main statements

* `Dict.ext_get?`: a dictionary is settled by its look-ups.
* `Dict.ofList_entries`: the entries of a dictionary make it up again.
-/

namespace Signpost

namespace Dict

/-- The order of keys: by code points, the first difference deciding. -/
abbrev Rising {β : Type u} (es : List (String × β)) : Prop := es.Pairwise fun a b => a.1 < b.1

/-- The entries with `k` bound to `v`. -/
def insertEntry {β : Type u} (k : String) (v : β) : List (String × β) → List (String × β)
  | [] => [(k, v)]
  | e :: es =>
    if k < e.1 then (k, v) :: e :: es
    else if k = e.1 then (k, v) :: es
    else e :: insertEntry k v es

theorem mem_insertEntry {β : Type u} {k : String} {v : β} {e : String × β}
    {es : List (String × β)} (h : e ∈ insertEntry k v es) : e = (k, v) ∨ e ∈ es := by
  fun_induction insertEntry k v es <;> grind

theorem rising_insertEntry {β : Type u} (k : String) (v : β) {es : List (String × β)}
    (h : Rising es) : Rising (insertEntry k v es) := by
  induction es with
  | nil => simp [insertEntry, Rising]
  | cons e es ih =>
    obtain ⟨he, hes⟩ := List.pairwise_cons.1 h
    unfold insertEntry
    split
    next hk =>
      exact List.pairwise_cons.2 ⟨fun a ha => by
        rcases List.mem_cons.1 ha with rfl | ha
        · exact hk
        · exact String.lt_trans hk (he a ha), h⟩
    next hk =>
      split
      next heq => exact List.pairwise_cons.2 ⟨fun a ha => heq ▸ he a ha, hes⟩
      next hne =>
        refine List.pairwise_cons.2 ⟨fun a ha => ?_, ih hes⟩
        rcases mem_insertEntry ha with rfl | ha
        · exact Std.lt_of_le_of_ne (Std.not_lt.1 hk) (Ne.symm hne)
        · exact he a ha

end Dict

/-- A finite map from texts to values. -/
structure Dict (β : Type u) where
  /-- The bound keys with their values. -/
  entries : List (String × β)
  /-- No key occurs twice, and they rise. -/
  rising : Dict.Rising entries
deriving DecidableEq

namespace Dict

variable {β : Type u}

/-- The dictionary without entries. -/
def empty : Dict β := ⟨[], .nil⟩

instance : Inhabited (Dict β) := ⟨empty⟩

instance [Repr β] : Repr (Dict β) := ⟨fun d n => reprPrec d.entries n⟩

/-- Binds `k` to `v`, whatever it was bound to. -/
def insert (d : Dict β) (k : String) (v : β) : Dict β :=
  ⟨insertEntry k v d.entries, rising_insertEntry k v d.rising⟩

/-- Binds the keys in turn, so that the last value of a key stays. -/
def insertAll (d : Dict β) (es : List (String × β)) : Dict β :=
  es.foldl (fun d e => d.insert e.1 e.2) d

/-- The dictionary that binds the keys in turn. -/
def ofList (es : List (String × β)) : Dict β := empty.insertAll es

/-- The value of `k`. -/
def get? (d : Dict β) (k : String) : Option β := d.entries.lookup k

/-- How many keys are bound. -/
def size (d : Dict β) : Nat := d.entries.length

/-- No key is bound. -/
def isEmpty (d : Dict β) : Bool := d.entries.isEmpty

@[simp] theorem get?_empty (k : String) : (empty : Dict β).get? k = none := rfl

theorem lookup_cons (e : String × β) (es : List (String × β)) (k : String) :
    (e :: es).lookup k = if k = e.1 then some e.2 else es.lookup k := by
  obtain ⟨j, v⟩ := e
  rw [List.lookup_cons]
  by_cases h : k = j
  · simp [h]
  · simp [beq_false_of_ne h, h]

theorem lookup_insertEntry (k : String) (v : β) (es : List (String × β)) (j : String) :
    (insertEntry k v es).lookup j = if j = k then some v else es.lookup j := by
  fun_induction insertEntry k v es <;> by_cases h : j = k <;> grind [lookup_cons]

@[simp] theorem get?_insert (d : Dict β) (k : String) (v : β) (j : String) :
    (d.insert k v).get? j = if j = k then some v else d.get? j :=
  lookup_insertEntry k v d.entries j

@[simp] theorem insertAll_nil (d : Dict β) : d.insertAll [] = d := rfl

@[simp] theorem insertAll_cons (d : Dict β) (e : String × β) (es : List (String × β)) :
    d.insertAll (e :: es) = (d.insert e.1 e.2).insertAll es := rfl

theorem insertAll_append (d : Dict β) (es fs : List (String × β)) :
    d.insertAll (es ++ fs) = (d.insertAll es).insertAll fs := List.foldl_append

/-- The last value that a list gives a key counts, and else the one from before. -/
theorem get?_insertAll (d : Dict β) (es : List (String × β)) (k : String) :
    (d.insertAll es).get? k = (es.reverse.lookup k).or (d.get? k) := by
  induction es generalizing d with
  | nil => simp
  | cons e es ih =>
    rw [insertAll_cons, ih, get?_insert, List.reverse_cons, List.lookup_append]
    by_cases h : k = e.1
    · cases es.reverse.lookup k <;> simp [h, lookup_cons]
    · simp [h, lookup_cons]

/-- A key below all others is not among them. -/
theorem lookup_eq_none_of_lt {k : String} {es : List (String × β)} (h : ∀ e ∈ es, k < e.1) :
    es.lookup k = none :=
  List.lookup_eq_none_iff.2 fun e he => by
    simpa using String.ne_of_lt (h e he)

/-- Rising entries are settled by their look-ups. -/
theorem eq_of_lookup_eq {es fs : List (String × β)} (he : Rising es) (hf : Rising fs)
    (h : ∀ k, es.lookup k = fs.lookup k) : es = fs := by
  induction es generalizing fs with
  | nil =>
    cases fs with
    | nil => rfl
    | cons f fs => simpa [lookup_cons] using h f.1
  | cons e es ih =>
    cases fs with
    | nil => simpa [lookup_cons] using h e.1
    | cons f fs =>
      obtain ⟨he, hes⟩ := List.pairwise_cons.1 he
      obtain ⟨hf, hfs⟩ := List.pairwise_cons.1 hf
      have hk : e.1 = f.1 := by
        refine Std.le_antisymm (Std.not_lt.1 fun hlt => ?_) (Std.not_lt.1 fun hlt => ?_)
        · have hn : (e :: es).lookup f.1 = none := lookup_eq_none_of_lt fun a ha => by
            rcases List.mem_cons.1 ha with rfl | ha
            · exact hlt
            · exact String.lt_trans hlt (he a ha)
          exact absurd ((h f.1).symm.trans hn) (by simp [lookup_cons])
        · have hn : (f :: fs).lookup e.1 = none := lookup_eq_none_of_lt fun a ha => by
            rcases List.mem_cons.1 ha with rfl | ha
            · exact hlt
            · exact String.lt_trans hlt (hf a ha)
          exact absurd ((h e.1).trans hn) (by simp [lookup_cons])
      have hv : e.2 = f.2 := by simpa [lookup_cons, hk] using h e.1
      rw [Prod.ext hk hv, ih hes hfs fun k => ?_]
      by_cases hke : k = e.1
      · rw [lookup_eq_none_of_lt fun a ha => hke ▸ he a ha,
          lookup_eq_none_of_lt fun a ha => hke ▸ hk ▸ hf a ha]
      · simpa [lookup_cons, hke, hk ▸ hke] using h k

/-- Dictionaries with the same look-ups are the same. -/
theorem ext_get? {d e : Dict β} (h : ∀ k, d.get? k = e.get? k) : d = e := by
  cases d; cases e; simpa using eq_of_lookup_eq ‹_› ‹_› h

/-- Rising entries are found from either end. -/
theorem lookup_reverse {es : List (String × β)} (h : Rising es) (k : String) :
    es.reverse.lookup k = es.lookup k := by
  induction es with
  | nil => rfl
  | cons e es ih =>
    obtain ⟨he, hes⟩ := List.pairwise_cons.1 h
    rw [List.reverse_cons, List.lookup_append, ih hes, lookup_cons, lookup_cons, List.lookup_nil]
    by_cases hk : k = e.1
    · rw [lookup_eq_none_of_lt (hk ▸ he), Option.none_or, if_pos hk]
    · rw [if_neg hk, if_neg hk, Option.or_none]

/-- The entries of a dictionary count before those that it is laid over. -/
theorem get?_insertAll_entries (d e : Dict β) (k : String) :
    (d.insertAll e.entries).get? k = (e.get? k).or (d.get? k) := by
  rw [get?_insertAll, lookup_reverse e.rising]
  rfl

theorem ofList_entries (d : Dict β) : ofList d.entries = d :=
  ext_get? fun k => by rw [ofList, get?_insertAll_entries, get?_empty, Option.or_none]

theorem get?_of_mem {d : Dict β} {e : String × β} (h : e ∈ d.entries) :
    d.get? e.1 = some e.2 := by
  obtain ⟨es, hes⟩ := d
  unfold get?
  induction es with
  | nil => exact absurd h List.not_mem_nil
  | cons f es ih =>
    obtain ⟨hf, hes⟩ := List.pairwise_cons.1 hes
    rcases List.mem_cons.1 h with rfl | hmem
    · simp [lookup_cons]
    · rw [lookup_cons, if_neg (Ne.symm (String.ne_of_lt (hf e hmem)))]
      exact ih hes hmem

end Dict

end Signpost
