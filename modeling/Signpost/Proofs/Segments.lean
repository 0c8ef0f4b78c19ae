import Mathlib.Data.List.Induction
import Mathlib.Data.List.Nodup
import Signpost.Query

/-!
# Segments of queries

A query is cut at every `&` before anything is decoded, so its parts are decoded each on its own,
whatever they are. The parameters are the pairs of the segments, and the last pair of a key counts.

## Main definitions

* `Dict.lastOf?`: the last of the values that a list gives a key.
* `Query.key?`: the key that a segment is decoded to.

## Main statements

* `Dict.get?_ofList`: a dictionary of entries in turn holds the last value of each key.
* `Query.pairs_append`, `Query.pairs_intercalate`: the pairs of a query are those of its parts, and
  of its segments.
* `parseQuery_segments`: parts of a query that stand behind others, and segments in another
  order.
-/

namespace Signpost

universe u

namespace Dict

variable {β : Type u}

/-- The last of the values that a list gives a key. -/
def lastOf? (es : List (String × β)) (k : String) : Option β :=
  ((es.filter (·.1 = k)).getLast?).map Prod.snd

theorem lastOf?_append (es fs : List (String × β)) (k : String) :
    lastOf? (es ++ fs) k = (lastOf? fs k).or (lastOf? es k) := by
  rw [lastOf?, List.filter_append, List.getLast?_append, Option.map_or]
  rfl

theorem lastOf?_singleton (e : String × β) (k : String) :
    lastOf? [e] k = if e.1 = k then some e.2 else none := by
  by_cases h : e.1 = k <;> simp [lastOf?, h]

/-- Entries that are bound in turn leave the last value of each key. -/
theorem get?_ofList (es : List (String × β)) (k : String) :
    (ofList es).get? k = lastOf? es k := by
  induction es using List.reverseRecOn with
  | nil => rfl
  | append_singleton es e ih =>
    rw [ofList, insertAll_append, insertAll_cons, insertAll_nil, get?_insert, lastOf?_append,
      lastOf?_singleton]
    by_cases h : e.1 = k
    · simp [h]
    · rw [if_neg (Ne.symm h), if_neg h, Option.none_or]
      exact ih

/-- Only the order among the entries of one key matters. -/
theorem ofList_congr {es fs : List (String × β)}
    (h : ∀ k, es.filter (·.1 = k) = fs.filter (·.1 = k)) : ofList es = ofList fs :=
  ext_get? fun k => by rw [get?_ofList, get?_ofList, lastOf?, lastOf?, h]

/-- A key that comes once has one entry at most. -/
theorem length_filter_le_one {es : List (String × β)} (h : (es.map Prod.fst).Nodup) (k : String) :
    (es.filter (·.1 = k)).length ≤ 1 := by
  have hkeys : (es.filter (·.1 = k)).map Prod.fst =
      List.replicate (es.filter (·.1 = k)).length k :=
    List.map_eq_replicate_iff.2 fun e he => by simpa using (List.mem_filter.1 he).2
  have hnodup : ((es.filter (·.1 = k)).map Prod.fst).Nodup :=
    h.sublist (List.filter_sublist.map _)
  rw [hkeys] at hnodup
  exact List.nodup_replicate.1 hnodup

/-- If no key comes twice, the order does not matter at all. -/
theorem ofList_perm {es fs : List (String × β)} (h : (es.map Prod.fst).Nodup) (hp : es.Perm fs) :
    ofList es = ofList fs := by
  refine ofList_congr fun k => ?_
  have hfilter := hp.filter (·.1 = k)
  rcases Nat.le_one_iff_eq_zero_or_eq_one.1 (length_filter_le_one h k) with hzero | hone
  · rw [List.length_eq_zero_iff.1 hzero] at hfilter ⊢
    exact (List.nil_perm.1 hfilter).symm
  · obtain ⟨e, he⟩ := List.length_eq_one_iff.1 hone
    rw [he] at hfilter ⊢
    exact List.singleton_perm.1 hfilter

end Dict

namespace Query

/-! ## Cuts -/

theorem split_eq_splitOn (sep : Char) (cs : List Char) : split sep cs = cs.splitOn sep := by
  induction cs with
  | nil => rfl
  | cons c cs ih =>
    rw [split, ih, List.splitOn, List.splitOn, List.splitOnP_cons_eq_if_modifyHead]
    by_cases h : c = sep
    · simp [h]
    · cases hcs : cs.splitOnP (· == sep) with
      | nil => exact (List.splitOnP_ne_nil _ _ hcs).elim
      | cons part parts => simp [h]

/-- A list is cut at a separator, whatever stands around it. -/
theorem split_append (sep : Char) (as bs : List Char) :
    split sep (as ++ sep :: bs) = split sep as ++ split sep bs := by
  simp only [split_eq_splitOn]
  exact List.splitOnP_append_cons as bs (by simp)

/-- Parts without separators are found again. -/
theorem split_intercalate {sep : Char} {parts : List (List Char)} (hne : parts ≠ [])
    (h : ∀ part ∈ parts, sep ∉ part) : split sep ([sep].intercalate parts) = parts := by
  rw [split_eq_splitOn]
  exact List.splitOn_intercalate sep h hne

/-! ## Pairs -/

theorem pairs_append (as bs : List Char) :
    pairs (as ++ '&' :: bs) = pairs as ++ pairs bs := by
  rw [pairs, split_append, List.filter_append, List.map_append]
  rfl

/-- Segments are decoded each on its own. -/
theorem pairs_intercalate {parts : List (List Char)} (h : ∀ part ∈ parts, '&' ∉ part) :
    pairs (['&'].intercalate parts) = (parts.filter (· ≠ [])).map pair := by
  by_cases hne : parts = []
  · subst hne
    rfl
  · rw [pairs, split_intercalate hne h]

/-- The key that a segment is decoded to. An empty segment has none. -/
def key? (segment : String) : Option String :=
  if segment = "" then none else some (pair segment.toList).1

variable {segments : List String}

/-- The pairs of some segments with a key are those of the segments with that key. -/
theorem pairs_segments (h : ∀ s ∈ segments, '&' ∉ s.toList) :
    pairs ("&".intercalate segments).toList =
      (segments.filter (· ≠ "")).map fun s => pair s.toList := by
  rw [String.toList_intercalate]
  refine (pairs_intercalate (by simpa using h)).trans ?_
  rw [List.filter_map, List.map_map]
  simp [Function.comp_def]

theorem filter_pairs_segments (h : ∀ s ∈ segments, '&' ∉ s.toList) (key : String) :
    (pairs ("&".intercalate segments).toList).filter (·.1 = key) =
      (segments.filter (key? · = some key)).map fun s => pair s.toList := by
  rw [pairs_segments h, List.filter_map, List.filter_filter]
  congr 1
  refine List.filter_congr fun s _ => ?_
  by_cases hs : s = "" <;> simp [key?, hs]

theorem map_fst_pairs_segments (h : ∀ s ∈ segments, '&' ∉ s.toList) :
    (pairs ("&".intercalate segments).toList).map Prod.fst = segments.filterMap key? := by
  rw [pairs_segments h, List.map_map, ← List.filterMap_eq_map, List.filterMap_filter]
  congr 1
  funext s
  by_cases hs : s = "" <;> simp [key?, hs]

end Query

/-- A query that stands behind another one overrides it, whatever the two are. So a segment that is
put behind a query changes the value of no key but its own, and the order of segments matters only
among those with one key; without such, it does not matter at all. -/
theorem parseQuery_segments :
    (∀ (a b key : String), (parseQuery (a ++ "&" ++ b)).get? key =
      ((parseQuery b).get? key).or ((parseQuery a).get? key)) ∧
    (∀ a segment : String, '&' ∉ segment.toList → ∀ key, Query.key? segment ≠ some key →
      (parseQuery (a ++ "&" ++ segment)).get? key = (parseQuery a).get? key) ∧
    ∀ segments segments' : List String, (∀ s ∈ segments ++ segments', '&' ∉ s.toList) →
      ((∀ key, segments.filter (Query.key? · = some key) =
          segments'.filter (Query.key? · = some key)) →
        parseQuery ("&".intercalate segments) = parseQuery ("&".intercalate segments')) ∧
      (segments.Perm segments' → (segments.filterMap Query.key?).Nodup →
        parseQuery ("&".intercalate segments) = parseQuery ("&".intercalate segments')) := by
  have happend : ∀ a b key : String, (parseQuery (a ++ "&" ++ b)).get? key =
      ((parseQuery b).get? key).or ((parseQuery a).get? key) := by
    intro a b key
    have hlist : (a ++ "&" ++ b).toList = a.toList ++ '&' :: b.toList := by
      simp [String.toList_append]
    rw [parseQuery, parseQuery, parseQuery, hlist, Query.pairs_append]
    simp only [Dict.get?_ofList, Dict.lastOf?_append]
  refine ⟨happend, fun a segment hsegment key hkey => ?_, fun segments segments' h => ?_⟩
  · have hnone : (parseQuery segment).get? key = none := by
      have hfilter := @Query.filter_pairs_segments [segment] (by simpa) key
      rw [parseQuery, Dict.get?_ofList, Dict.lastOf?]
      rw [String.intercalate_singleton, List.filter_cons_of_neg (by simpa), List.filter_nil,
        List.map_nil] at hfilter
      rw [hfilter]
      rfl
    rw [happend, hnone, Option.none_or]
  · have hl : ∀ s ∈ segments, '&' ∉ s.toList := fun s hs => h s (List.mem_append_left _ hs)
    have hr : ∀ s ∈ segments', '&' ∉ s.toList := fun s hs => h s (List.mem_append_right _ hs)
    refine ⟨fun hfilter => Dict.ofList_congr fun key => ?_, fun hp hkeys => ?_⟩
    · rw [Query.filter_pairs_segments hl, Query.filter_pairs_segments hr, hfilter]
    · refine Dict.ofList_perm (by rwa [Query.map_fst_pairs_segments hl]) ?_
      rw [Query.pairs_segments hl, Query.pairs_segments hr]
      exact (hp.filter _).map _

/-- Segments with different spellings of a key are in each other's way, also if a byte of one is no
text, and a segment without a value counts. -/
theorem parseQuery_segments_respelled :
    (parseQuery ("a=1&b=%f0%9f" ++ "&" ++ "%61=%e2%28&&b")).get? "a" = some "\uFFFD(" ∧
      (parseQuery ("a=1&b=%f0%9f" ++ "&" ++ "%61=%e2%28")).get? "b" = some "\uFFFD" ∧
      parseQuery "b&a=1&%63=2" = parseQuery "%63=2&b&a=1" := by
  obtain ⟨happend, hbehind, horder⟩ := parseQuery_segments
  refine ⟨?_, ?_, ?_⟩
  · rw [happend]
    decide +kernel
  · rw [hbehind _ _ (by decide) "b" (by decide +kernel)]
    decide +kernel
  · exact (horder ["b", "a=1", "%63=2"] ["%63=2", "b", "a=1"] (by decide)).2 (by decide)
      (by decide +kernel)

end Signpost
