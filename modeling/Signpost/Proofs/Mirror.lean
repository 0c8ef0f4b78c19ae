import Mathlib.Data.List.Induction
import Mathlib.Data.List.Nodup
import Signpost.Proofs.Registration

/-!
# Tables and the registrations they come from

The table of a log holds what the log settles: an entry for each pattern text, and in it a binding
for each slot, filled by the last registration under it.

## Main definitions

* `Table.ofLog`: the table of a log.
* `Table.Mirrors`: the invariant that ties a table to its log.

## Main statements

* `Table.Mirrors.register`: a registration keeps the invariant.
* `Table.mirrors_ofLog`: the table of a log mirrors it.
* `Table.ofLog_spec`: what the table of a log holds.
-/

namespace Signpost

universe u

variable {α : Type u}

namespace Table

/-- Carries out a registration. -/
def register (t : Table α) (r : Registration α) : Inserted × Table α :=
  t.insert r.pattern r.method r.hosts r.handler

/-- The table of a log: its registrations in turn, from the table without entries. -/
def ofLog (log : List (Registration α)) : Table α := log.foldl (fun t r => (t.register r).2) {}

/-- All bindings of a table. -/
def bindings (t : Table α) : List (Binding α) := t.entries.flatMap Entry.bindings

/-- The index leads from each pattern text to the place of its entry. -/
def Indexed (t : Table α) : Prop :=
  ∀ s, t.index.get? s = (t.entries.map Entry.source).idxOf? s

theorem Indexed.get?_eq {t : Table α} (h : t.Indexed) (s : String) :
    t.get? s = t.entries.find? (·.source == s) := by
  rw [get?, h s, bind_idxOf?_map]

theorem ofLog_concat (log : List (Registration α)) (r : Registration α) :
    ofLog (log ++ [r]) = ((ofLog log).register r).2 := by
  simp [ofLog]

@[simp] theorem nextSeq_register (t : Table α) (r : Registration α) :
    (t.register r).2.nextSeq = t.nextSeq + 1 := by
  simp only [register, insert, reserve]
  split <;> rfl

/-- A registration under a known pattern puts its binding into the entry of the pattern. -/
theorem register_of_mem {t : Table α} (h : t.Indexed) (hn : (t.entries.map Entry.source).Nodup)
    {r : Registration α} (hr : r.source ∈ t.entries.map Entry.source) :
    (t.register r).2.entries =
        t.entries.map (fun e => if e.source = r.source then e.put (r.binding t.nextSeq) else e) ∧
      (t.register r).2.index = t.index := by
  obtain ⟨i, hi⟩ : ∃ i, (t.entries.map Entry.source).idxOf? r.source = some i :=
    Option.isSome_iff_exists.1 (List.isSome_idxOf?.2 hr)
  have hget : t.index.get? r.pattern.source = some i := (h _).trans hi
  simp only [register, insert, reserve, hget]
  exact ⟨modify_idxOf? _ _ hn hi, trivial⟩

/-- A registration under a new pattern adds an entry at the end. -/
theorem register_of_notMem {t : Table α} (h : t.Indexed)
    {r : Registration α} (hr : r.source ∉ t.entries.map Entry.source) :
    (t.register r).2.entries = t.entries ++ [⟨r.pattern, [r.binding t.nextSeq]⟩] ∧
      (t.register r).2.index = t.index.insert r.source t.entries.length := by
  have hget : t.index.get? r.pattern.source = none :=
    (h _).trans (List.idxOf?_eq_none_iff.2 hr)
  simp only [register, insert, reserve, hget]
  refine ⟨?_, rfl⟩
  rw [List.modify_eq_take_drop, List.take_left, List.drop_left]
  simp [Entry.put, Binding.put, Registration.binding]

/-- The invariant that ties a table to its log. -/
structure Mirrors (t : Table α) (log : List (Registration α)) : Prop where
  /-- The entries are the pattern texts by first occurrence. -/
  sources : t.entries.map Entry.source = Registration.sources log
  /-- An entry has the pattern that was registered first under its text. -/
  pattern : ∀ e ∈ t.entries, (log.find? (·.source = e.source)).map (·.pattern) = some e.pattern
  indexed : t.Indexed
  /-- The bindings of an entry are its slots by first occurrence. -/
  slots : ∀ e ∈ t.entries, e.bindings.map Binding.slot = Registration.slots log e.source
  /-- A binding comes from the last registration under its slot. -/
  latest : ∀ e ∈ t.entries, ∀ b ∈ e.bindings,
    (Registration.latest? log e.source b.slot).map (fun x => x.1.binding x.2) = some b
  nextSeq : t.nextSeq = log.length
  registered : t.metrics.registered = log.length
  /-- A registration that took no place of another left a binding. -/
  replaced : t.metrics.replaced + t.bindings.length = t.metrics.registered

namespace Mirrors

variable {t : Table α} {log : List (Registration α)}

theorem nodup_sources (h : t.Mirrors log) : (t.entries.map Entry.source).Nodup :=
  h.sources ▸ Registration.nodup_sources log

theorem nodup_slots (h : t.Mirrors log) {e : Entry α} (he : e ∈ t.entries) :
    (e.bindings.map Binding.slot).Nodup :=
  h.slots e he ▸ Registration.nodup_slots log e.source

theorem empty : ({} : Table α).Mirrors [] where
  sources := rfl
  pattern := by simp
  indexed := by intro s; rfl
  slots := by simp
  latest := by simp
  nextSeq := rfl
  registered := rfl
  replaced := rfl

/-- The entry that is reserved for a registration has a binding in its slot exactly if the log fills
the slot. -/
theorem any_reserve (h : t.Mirrors log) (r : Registration α) (seq : Nat) :
    ((t.reserve r.pattern).2.entries[(t.reserve r.pattern).1]?.any fun e =>
        e.bindings.any (·.sameSlot (r.binding seq))) =
      decide (r.slot ∈ Registration.slots log r.source) := by
  by_cases hr : r.source ∈ t.entries.map Entry.source
  · obtain ⟨i, hi⟩ : ∃ i, (t.entries.map Entry.source).idxOf? r.source = some i :=
      Option.isSome_iff_exists.1 (List.isSome_idxOf?.2 hr)
    have hget : t.index.get? r.pattern.source = some i := (h.indexed _).trans hi
    have hfind := bind_idxOf?_map Entry.source t.entries r.source
    rw [hi, Option.bind_some] at hfind
    obtain ⟨e, he, hes⟩ := List.mem_map.1 hr
    obtain ⟨e', he'⟩ : ∃ e', t.entries.find? (·.source == r.source) = some e' :=
      Option.isSome_iff_exists.1 (List.find?_isSome.2 ⟨e, he, by simp [hes]⟩)
    have hslots := h.slots e' (List.mem_of_find?_eq_some he')
    have hsource : e'.source = r.source := by simpa using List.find?_some he'
    simp only [reserve, hget, hfind, he', Option.any_some]
    rw [hsource] at hslots
    rw [← hslots, Bool.eq_iff_iff]
    simp
  · have hget : t.index.get? r.pattern.source = none :=
      (h.indexed _).trans (List.idxOf?_eq_none_iff.2 hr)
    have hslot : r.slot ∉ Registration.slots log r.source := fun hmem => by
      obtain ⟨x, hx, hxs, -⟩ := Registration.mem_slots.1 hmem
      exact hr (h.sources ▸ Registration.mem_sources.2 ⟨x, hx, hxs⟩)
    simp [reserve, hget, hslot]

/-- A registration replaces another exactly if its slot is filled. -/
theorem register_fst (h : t.Mirrors log) (r : Registration α) :
    (t.register r).1 =
      if r.slot ∈ Registration.slots log r.source then .replaced else .added := by
  have hany := h.any_reserve r (t.reserve r.pattern).2.nextSeq
  simp only [register, insert]
  rw [Registration.binding] at hany
  simp only [hany, decide_eq_true_eq]

theorem register_metrics (h : t.Mirrors log) (r : Registration α) :
    (t.register r).2.metrics = ⟨t.metrics.registered + 1,
      t.metrics.replaced + if r.slot ∈ Registration.slots log r.source then 1 else 0⟩ := by
  have hany := h.any_reserve r (t.reserve r.pattern).2.nextSeq
  have hmetrics : (t.reserve r.pattern).2.metrics = t.metrics := by
    unfold reserve; split <;> rfl
  simp only [register, insert]
  rw [Registration.binding] at hany
  simp only [hany, hmetrics]
  split <;> simp [*]

/-- A registration under a known pattern keeps the invariant. -/
theorem register_known (h : t.Mirrors log) (r : Registration α)
    (hr : r.source ∈ Registration.sources log) : (t.register r).2.Mirrors (log ++ [r]) := by
  have hmem : r.source ∈ t.entries.map Entry.source := h.sources ▸ hr
  obtain ⟨hentries, hindex⟩ := register_of_mem h.indexed h.nodup_sources hmem
  have hmap : (t.register r).2.entries.map Entry.source = t.entries.map Entry.source := by
    rw [hentries, List.map_map]
    refine List.map_congr_left fun e _ => ?_
    by_cases hs : e.source = r.source <;> simp [hs]
  have hold : ∀ e' ∈ (t.register r).2.entries, ∃ e ∈ t.entries, e'.source = e.source ∧
      e' = if e.source = r.source then e.put (r.binding t.nextSeq) else e := by
    intro e' he'
    obtain ⟨e, he, rfl⟩ := List.mem_map.1 (hentries ▸ he')
    refine ⟨e, he, ?_, rfl⟩
    split <;> rfl
  constructor
  case sources => rw [hmap, h.sources, Registration.sources_concat, if_pos hr]
  case pattern =>
    intro e' he'
    obtain ⟨e, he, hs, rfl⟩ := hold e' he'
    obtain ⟨x, hx, hp⟩ := Option.map_eq_some_iff.1 (h.pattern e he)
    rw [hs, List.find?_append, hx]
    split <;> simpa [Entry.put] using hp
  case indexed => rw [Indexed, hmap, hindex]; exact h.indexed
  case slots =>
    intro e' he'
    obtain ⟨e, he, hs, heq⟩ := hold e' he'
    rw [hs, Registration.slots_concat, ← h.slots e he, heq]
    by_cases hsource : e.source = r.source
    · rw [if_pos hsource, Entry.put, Binding.map_slot_put]
      by_cases hslot : r.slot ∈ e.bindings.map Binding.slot <;> simp [hslot, hsource]
    · simp [hsource, Ne.symm hsource]
  case latest =>
    intro e' he' b hb
    obtain ⟨e, he, hs, heq⟩ := hold e' he'
    rw [hs, Registration.latest?_concat]
    by_cases hsource : e.source = r.source
    · rw [heq, if_pos hsource] at hb
      rcases (Binding.mem_put (h.nodup_slots he)).1 hb with rfl | ⟨hb, hne⟩
      · simp [hsource, h.nextSeq]
      · rw [if_neg fun hc => hne hc.2.symm]
        exact h.latest e he b hb
    · rw [heq, if_neg hsource] at hb
      rw [if_neg fun hc => hsource hc.1.symm]
      exact h.latest e he b hb
  case nextSeq => simp [h.nextSeq]
  case registered => simp [h.register_metrics, h.registered]
  case replaced =>
    obtain ⟨e, he, hs⟩ := List.mem_map.1 hmem
    have hlength := length_flatMap_put h.nodup_sources he (r.binding t.nextSeq)
    rw [hs, ← hentries, h.slots e he, hs] at hlength
    have hold := h.replaced
    rw [h.register_metrics, bindings, hlength, Registration.slot_binding]
    rw [bindings] at hold
    split <;> simp only [*] <;> omega

/-- A registration under a new pattern keeps the invariant. -/
theorem register_new (h : t.Mirrors log) (r : Registration α)
    (hr : r.source ∉ Registration.sources log) : (t.register r).2.Mirrors (log ++ [r]) := by
  have hmem : r.source ∉ t.entries.map Entry.source := h.sources ▸ hr
  obtain ⟨hentries, hindex⟩ := register_of_notMem h.indexed hmem
  have hnone : ∀ x ∈ log, x.source ≠ r.source := fun x hx hs =>
    hr (Registration.mem_sources.2 ⟨x, hx, hs⟩)
  have hempty : Registration.slots log r.source = [] :=
    List.eq_nil_iff_forall_not_mem.2 fun σ hσ => by
      obtain ⟨x, hx, hs, -⟩ := Registration.mem_slots.1 hσ
      exact hnone x hx hs
  have hold : ∀ e ∈ (t.register r).2.entries, e ∈ t.entries ∧ e.source ≠ r.source ∨
      e = ⟨r.pattern, [r.binding t.nextSeq]⟩ := by
    intro e he
    rw [hentries] at he
    rcases List.mem_append.1 he with he | he
    · exact .inl ⟨he, fun hs => hmem (hs ▸ List.mem_map_of_mem he)⟩
    · exact .inr (List.mem_singleton.1 he)
  constructor
  case sources =>
    rw [hentries, List.map_append, h.sources, Registration.sources_concat, if_neg hr]
    rfl
  case pattern =>
    intro e he
    rw [List.find?_append]
    rcases hold e he with ⟨he, -⟩ | rfl
    · obtain ⟨x, hx, hp⟩ := Option.map_eq_some_iff.1 (h.pattern e he)
      simpa [hx] using hp
    · have hfind : log.find? (·.source = r.source) = none :=
        List.find?_eq_none.2 fun x hx => by simpa using hnone x hx
      rw [Entry.source_mk, hfind]
      simp
  case indexed =>
    intro s
    rw [hindex, Dict.get?_insert, hentries, List.map_append, List.map_singleton, idxOf?_concat,
      ← h.indexed, List.length_map, Entry.source_mk]
    by_cases hs : s = r.source
    · have hget : t.index.get? s = none :=
        (h.indexed s).trans (List.idxOf?_eq_none_iff.2 (hs ▸ hmem))
      rw [hget, if_pos hs, if_pos (by simp [hs]), Option.none_or]
    · rw [if_neg hs, if_neg (by simpa using Ne.symm hs), Option.or_none]
  case slots =>
    intro e he
    rw [Registration.slots_concat]
    rcases hold e he with ⟨he, hne⟩ | rfl
    · rw [if_neg fun hc => hne hc.1.symm]
      exact h.slots e he
    · simp [hempty]
  case latest =>
    intro e he b hb
    rw [Registration.latest?_concat]
    rcases hold e he with ⟨he, hne⟩ | rfl
    · rw [if_neg fun hc => hne hc.1.symm]
      exact h.latest e he b hb
    · obtain rfl := List.mem_singleton.1 hb
      simp [h.nextSeq]
  case nextSeq => simp [h.nextSeq]
  case registered => simp [h.register_metrics, h.registered]
  case replaced =>
    have hbefore := h.replaced
    have hlength : (t.register r).2.bindings.length = t.bindings.length + 1 := by
      rw [bindings, hentries, List.flatMap_append, List.length_append]
      rfl
    rw [h.register_metrics, hlength, hempty, if_neg List.not_mem_nil]
    simp only [Nat.add_zero]
    omega

/-- A registration keeps the invariant. -/
theorem register (h : t.Mirrors log) (r : Registration α) :
    (t.register r).2.Mirrors (log ++ [r]) := by
  by_cases hr : r.source ∈ Registration.sources log
  · exact h.register_known r hr
  · exact h.register_new r hr

/-- The number of a binding is the place of its registration in the log, and no later one fills the
same slot. -/
theorem getElem?_seq (h : t.Mirrors log) {e : Entry α} (he : e ∈ t.entries) {b : Binding α}
    (hb : b ∈ e.bindings) :
    ∃ r, log[b.seq]? = some r ∧ r.source = e.source ∧ r.slot = b.slot ∧ r.handler = b.handler ∧
      ∀ j x, b.seq < j → log[j]? = some x → x.source = e.source → x.slot ≠ b.slot := by
  obtain ⟨⟨r, i⟩, hlatest, rfl⟩ := Option.map_eq_some_iff.1 (h.latest e he b hb)
  obtain ⟨⟨hi, hs, hslot⟩, hlast⟩ := Registration.latest?_eq_some_iff.1 hlatest
  exact ⟨r, hi, hs, hslot, rfl, hlast⟩

theorem seq_lt (h : t.Mirrors log) {b : Binding α} (hb : b ∈ t.bindings) : b.seq < log.length := by
  obtain ⟨e, he, hb⟩ := List.mem_flatMap.1 hb
  obtain ⟨r, hr, -⟩ := h.getElem?_seq he hb
  exact (List.getElem?_eq_some_iff.1 hr).1

/-- No two bindings have the same number. -/
theorem nodup_seq (h : t.Mirrors log) : (t.bindings.map Binding.seq).Nodup := by
  rw [bindings, List.map_flatMap, List.nodup_flatMap]
  constructor
  · intro e he
    refine List.pairwise_map.2 ((List.pairwise_map.1 (h.nodup_slots he)).imp_of_mem ?_)
    intro b c hb hc hne hseq
    obtain ⟨r, hr, -, hrs, -⟩ := h.getElem?_seq he hb
    obtain ⟨x, hx, -, hxs, -⟩ := h.getElem?_seq he hc
    obtain rfl : r = x := Option.some.inj (hr.symm.trans (hseq ▸ hx))
    exact hne (hrs.symm.trans hxs)
  · refine (List.pairwise_map.1 h.nodup_sources).imp_of_mem ?_
    intro e f he hf hne n hn hn'
    obtain ⟨b, hb, rfl⟩ := List.mem_map.1 hn
    obtain ⟨c, hc, hseq⟩ := List.mem_map.1 hn'
    obtain ⟨r, hr, hrs, -⟩ := h.getElem?_seq he hb
    obtain ⟨x, hx, hxs, -⟩ := h.getElem?_seq hf hc
    obtain rfl : r = x := Option.some.inj (hr.symm.trans (hseq ▸ hx))
    exact hne (hrs.symm.trans hxs)

theorem mem_sources_of_mem (h : t.Mirrors log) {e : Entry α} (he : e ∈ t.entries) :
    ∃ r ∈ log, r.source = e.source :=
  Registration.mem_sources.1 (h.sources ▸ List.mem_map_of_mem he)

/-- An entry has a binding. -/
theorem bindings_ne_nil (h : t.Mirrors log) {e : Entry α} (he : e ∈ t.entries) :
    e.bindings ≠ [] := by
  obtain ⟨r, hr, hs⟩ := h.mem_sources_of_mem he
  have hmem : r.slot ∈ e.bindings.map Binding.slot :=
    h.slots e he ▸ Registration.mem_slots.2 ⟨r, hr, hs, rfl⟩
  rintro hnil
  simp [hnil] at hmem

/-- A look-up finds the entry that has the pattern text. -/
theorem get?_eq_some_iff (h : t.Mirrors log) {s : String} {e : Entry α} :
    t.get? s = some e ↔ e ∈ t.entries ∧ e.source = s := by
  rw [h.indexed.get?_eq]
  constructor
  · intro he
    exact ⟨List.mem_of_find?_eq_some he, by simpa using List.find?_some he⟩
  · rintro ⟨he, rfl⟩
    obtain ⟨f, hf⟩ : ∃ f, t.entries.find? (·.source == e.source) = some f :=
      Option.isSome_iff_exists.1 (List.find?_isSome.2 ⟨e, he, by simp⟩)
    have hsource : f.source = e.source := by simpa using List.find?_some hf
    rw [hf, List.inj_on_of_nodup_map h.nodup_sources (List.mem_of_find?_eq_some hf) he hsource]

theorem isSome_get? (h : t.Mirrors log) (s : String) :
    (t.get? s).isSome ↔ ∃ r ∈ log, r.source = s := by
  rw [Option.isSome_iff_exists, ← Registration.mem_sources, ← h.sources, List.mem_map]
  exact exists_congr fun e => h.get?_eq_some_iff

/-- A registration replaces another exactly if the entry of its pattern holds its slot. -/
theorem register_fst_eq_replaced_iff (h : t.Mirrors log) (r : Registration α) :
    (t.register r).1 = .replaced ↔
      ∃ e ∈ t.entries, e.source = r.source ∧ r.slot ∈ e.bindings.map Binding.slot := by
  have hfst : (t.register r).1 = .replaced ↔ r.slot ∈ Registration.slots log r.source := by
    rw [h.register_fst]
    split <;> simp [*]
  rw [hfst]
  constructor
  · intro hslot
    obtain ⟨x, hx, hs, -⟩ := Registration.mem_slots.1 hslot
    have hmem : r.source ∈ t.entries.map Entry.source :=
      h.sources ▸ Registration.mem_sources.2 ⟨x, hx, hs⟩
    obtain ⟨e, he, hes⟩ := List.mem_map.1 hmem
    exact ⟨e, he, hes, by rw [h.slots e he, hes]; exact hslot⟩
  · rintro ⟨e, he, hes, hslot⟩
    rwa [h.slots e he, hes] at hslot

end Mirrors

/-- The table of a log mirrors it. -/
theorem mirrors_ofLog (log : List (Registration α)) : (ofLog log).Mirrors log := by
  induction log using List.reverseRecOn with
  | nil => exact .empty
  | append_singleton log r ih => rw [ofLog_concat]; exact ih.register r

/-- What the table of a log holds: an entry for each pattern text by first occurrence, with the
pattern registered first, which a look-up finds; in it a binding for each slot by first occurrence,
from the last registration under the slot; and how many registrations there were and how many of
them took the place of another. -/
theorem ofLog_spec (log : List (Registration α)) :
    let t := ofLog log
    (t.entries.map Entry.source = Registration.sources log ∧
      ∀ e ∈ t.entries, (log.find? (·.source = e.source)).map (·.pattern) = some e.pattern) ∧
    ((∀ s, (t.get? s).isSome ↔ ∃ r ∈ log, r.source = s) ∧
      ∀ s e, t.get? s = some e ↔ e ∈ t.entries ∧ e.source = s) ∧
    (∀ e ∈ t.entries, e.bindings ≠ [] ∧
      e.bindings.map Binding.slot = Registration.slots log e.source ∧
      ∀ b ∈ e.bindings, ∃ r, log[b.seq]? = some r ∧
        r.source = e.source ∧ r.slot = b.slot ∧ r.handler = b.handler ∧
        ∀ j x, b.seq < j → log[j]? = some x → x.source = e.source → x.slot ≠ b.slot) ∧
    ((t.bindings.map Binding.seq).Nodup ∧ ∀ b ∈ t.bindings, b.seq < log.length) ∧
    (∀ r, (t.register r).1 = .replaced ↔
      ∃ e ∈ t.entries, e.source = r.source ∧ r.slot ∈ e.bindings.map Binding.slot) ∧
    t.metrics.registered = log.length ∧
    t.metrics.replaced ≤ t.metrics.registered ∧
    t.metrics.registered - t.metrics.replaced = t.bindings.length := by
  intro t
  have h : t.Mirrors log := mirrors_ofLog log
  have hcount := h.replaced
  refine ⟨⟨h.sources, h.pattern⟩, ⟨h.isSome_get?, fun s e => h.get?_eq_some_iff⟩, ?_,
    ⟨h.nodup_seq, fun b hb => h.seq_lt hb⟩, h.register_fst_eq_replaced_iff, h.registered,
    by omega, by omega⟩
  intro e he
  exact ⟨h.bindings_ne_nil he, h.slots e he, fun b hb => h.getElem?_seq he hb⟩

end Table

end Signpost
