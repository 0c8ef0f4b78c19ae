import Mathlib.Data.List.Induction
import Signpost.Proofs.Equality
import Signpost.Proofs.Failure

/-!
# Parameters of handlers

What the handlers that a request reaches are given. A handler sees the captures of all entries up to
its own that match the path, those entries included that have no handler for the request; of the
values of one name, the last one counts.

## Main definitions

* `Pattern.Gives`: what a pattern captures in a path.
* `Supplies`: what some patterns in turn leave in a name.
* `Stop`: a binding that a request reaches, at its place in the table.
* `Table.stops`: the stops of a request, in the order of the calls.

## Main statements

* `Params.get?_ofPatterns_eq_some_iff`: the last pattern that captures a name settles its value.
* `visits_eq`: the parameters at a stop are the captures of the entries up to it.
* `Dispatcher.params_dispatch`: the parameters of each call of a dispatch.
-/

namespace Signpost

universe u

variable {α : Type u}

/-- The pattern captures the value for the name. -/
def Pattern.Gives (p : Pattern) (path name value : String) : Prop :=
  ∃ captures, p.captures path = some captures ∧ (name, value) ∈ captures

/-- The last of the patterns that captures the name captures the value for it. -/
def Supplies (patterns : List Pattern) (path name value : String) : Prop :=
  ∃ before p after, patterns = before ++ p :: after ∧ p.Gives path name value ∧
    ∀ q ∈ after, ∀ other, ¬q.Gives path name other

/-- What a pattern captures in a path, which is nothing if it does not match. -/
def Pattern.captured (p : Pattern) (path : String) : List (String × String) :=
  (p.captures path).getD []

/-- The pattern captures the name, whatever the value. -/
def Pattern.isFor (path name : String) (p : Pattern) : Bool :=
  ((p.captured path).reverse.lookup name).isSome

/-- What the patterns capture in a path, a later value taking the place of an earlier one. -/
def Params.ofPatterns (path : String) (patterns : List Pattern) : Params :=
  .ofList (patterns.flatMap fun p => p.captured path)

/-- A binding that a request reaches. -/
structure Stop (α : Type u) where
  /-- The place of its entry in the table. -/
  place : Nat
  entry : Entry α
  binding : Binding α

/-- The bindings that a request reaches in some entries, in their order. -/
def stopsOf (path method host : String) (entries : List (Entry α)) : List (Stop α) :=
  (entries.zipIdx.filter fun e => e.1.pattern.isMatch path).flatMap fun e =>
    (e.1.reached method host).map (⟨e.2, e.1, ·⟩)

/-- The bindings that a request reaches, in the order in which their handlers are called. -/
def Table.stops (t : Table α) (path method host : String) : List (Stop α) :=
  stopsOf path method host t.entries

/-- The patterns of a table up to a place. -/
def Table.patternsUpTo (t : Table α) (place : Nat) : List Pattern :=
  (t.entries.take (place + 1)).map Entry.pattern

/-! ## Captures of patterns -/

namespace Pattern

variable {p : Pattern} {path name value : String}

theorem gives_iff_mem : p.Gives path name value ↔ (name, value) ∈ p.captured path := by
  unfold Gives captured
  cases p.captures path <;> simp

/-- A pattern captures one value for a name at most, however often it declares the name. -/
theorem Gives.unique {other : String} (h : p.Gives path name value)
    (h' : p.Gives path name other) : value = other := by
  obtain ⟨captures, hc, hvalue⟩ := h
  obtain ⟨captures', hc', hother⟩ := h'
  obtain rfl : captures = captures' := Option.some.inj (hc.symm.trans hc')
  obtain ⟨-, trace, htrace, hv⟩ := (mem_captures_iff hc).1 hvalue
  obtain ⟨-, trace', htrace', ho⟩ := (mem_captures_iff hc).1 hother
  obtain rfl : trace = trace' := Option.some.inj (htrace.symm.trans htrace')
  exact Option.some.inj (hv.symm.trans ho)

theorem Gives.mem_names (h : p.Gives path name value) : name ∈ p.names := by
  obtain ⟨captures, hc, hvalue⟩ := h
  exact ((mem_captures_iff hc).1 hvalue).1

/-- Patterns with the same text capture the same value for a name that both declare. -/
theorem Gives.of_source_eq {q : Pattern} (hsource : p.source = q.source)
    (h : p.Gives path name value) (hname : name ∈ q.names) : q.Gives path name value := by
  obtain ⟨captures, hc, hvalue⟩ := h
  obtain ⟨-, hvalue⟩ := (mem_captures_iff hc).1 hvalue
  have hsome : (q.captures path).isSome = true := by
    rw [isSome_captures, ← isMatch_of_source_eq hsource, ← isSome_captures, hc]
    rfl
  obtain ⟨captures', hc'⟩ := Option.isSome_iff_exists.1 hsome
  rw [regex_eq_of_source_eq hsource] at hvalue
  exact ⟨captures', hc', (mem_captures_iff hc').2 ⟨hname, hvalue⟩⟩

theorem lookup_captured_eq_some_iff :
    (p.captured path).reverse.lookup name = some value ↔ p.Gives path name value := by
  have hmem : ∀ other, (p.captured path).reverse.lookup name = some other →
      p.Gives path name other := by
    intro other h
    obtain ⟨before, after, hsplit, -⟩ := List.lookup_eq_some_iff.1 h
    rw [gives_iff_mem, ← List.mem_reverse, hsplit]
    simp
  refine ⟨hmem value, fun h => ?_⟩
  have hsome : ((p.captured path).reverse.lookup name).isSome = true :=
    List.lookup_isSome_iff.2 ⟨(name, value), by simpa using gives_iff_mem.1 h, by simp⟩
  obtain ⟨other, hother⟩ := Option.isSome_iff_exists.1 hsome
  rw [hother, (hmem other hother).unique h]

theorem lookup_captured_eq_none_iff :
    (p.captured path).reverse.lookup name = none ↔ ∀ other, ¬p.Gives path name other := by
  simp only [Option.eq_none_iff_forall_ne_some, ne_eq, lookup_captured_eq_some_iff]

theorem isFor_iff : p.isFor path name = true ↔ ∃ value, p.Gives path name value := by
  rw [isFor, Option.isSome_iff_exists]
  simp only [lookup_captured_eq_some_iff]

end Pattern

section Supplies

variable {patterns : List Pattern} {p : Pattern} {path name value : String}

theorem not_supplies_nil : ¬Supplies [] path name value := by
  rintro ⟨before, p, after, h, -⟩
  simp at h

theorem supplies_concat :
    Supplies (patterns ++ [p]) path name value ↔
      p.Gives path name value ∨
        (∀ other, ¬p.Gives path name other) ∧ Supplies patterns path name value := by
  constructor
  · rintro ⟨before, q, after, hsplit, hq, hlast⟩
    obtain rfl | ⟨later, x, rfl⟩ := after.eq_nil_or_concat
    · obtain ⟨-, hpq⟩ := List.append_inj' hsplit rfl
      obtain rfl : p = q := List.singleton_inj.1 hpq
      exact .inl hq
    · rw [List.concat_eq_append] at hlast
      rw [List.concat_eq_append, ← List.cons_append, ← List.append_assoc] at hsplit
      obtain ⟨rfl, hpx⟩ := List.append_inj' hsplit rfl
      obtain rfl : p = x := List.singleton_inj.1 hpx
      exact .inr ⟨hlast p (by simp), before, q, later, rfl, hq,
        fun y hy => hlast y (by simp [hy])⟩
  · rintro (h | ⟨hnone, before, q, after, rfl, hq, hlast⟩)
    · exact ⟨patterns, p, [], rfl, h, by simp⟩
    · refine ⟨before, q, after ++ [p], by simp, hq, fun x hx other => ?_⟩
      rcases List.mem_append.1 hx with hx | hx
      · exact hlast x hx other
      · rw [List.mem_singleton.1 hx]
        exact hnone other

namespace Params

theorem get?_ofPatterns_concat (path name : String) (patterns : List Pattern) (p : Pattern) :
    (ofPatterns path (patterns ++ [p])).get? name =
      ((p.captured path).reverse.lookup name).or ((ofPatterns path patterns).get? name) := by
  rw [ofPatterns, List.flatMap_append, List.flatMap_singleton, Dict.ofList, Dict.insertAll_append,
    Dict.get?_insertAll]
  rfl

/-- The last pattern that captures a name settles the value that the name has. -/
theorem get?_ofPatterns_eq_some_iff :
    (ofPatterns path patterns).get? name = some value ↔ Supplies patterns path name value := by
  induction patterns using List.reverseRecOn with
  | nil => simp [ofPatterns, Dict.ofList, not_supplies_nil]
  | append_singleton patterns p ih =>
    rw [get?_ofPatterns_concat, supplies_concat, ← ih, Option.or_eq_some_iff,
      Pattern.lookup_captured_eq_some_iff, Pattern.lookup_captured_eq_none_iff]

/-- The names that have a value are those that some pattern captures. -/
theorem isSome_get?_ofPatterns :
    ((ofPatterns path patterns).get? name).isSome = true ↔
      ∃ p ∈ patterns, ∃ value, p.Gives path name value := by
  induction patterns using List.reverseRecOn with
  | nil => simp [ofPatterns, Dict.ofList]
  | append_singleton patterns p ih =>
    rw [get?_ofPatterns_concat, Option.isSome_or, Bool.or_eq_true, ih, Option.isSome_iff_exists]
    simp only [Pattern.lookup_captured_eq_some_iff, List.mem_append, List.mem_singleton]
    constructor
    · rintro (h | ⟨q, hq, h⟩)
      · exact ⟨p, .inr rfl, h⟩
      · exact ⟨q, .inl hq, h⟩
    · rintro ⟨q, hq | rfl, h⟩
      · exact .inr ⟨q, hq, h⟩
      · exact .inl h

/-- The value of a name is what the last pattern that captures the name captures for it. -/
theorem get?_ofPatterns (path name : String) (patterns : List Pattern) :
    (ofPatterns path patterns).get? name =
      (patterns.filter (·.isFor path name)).getLast?.bind fun p =>
        (p.captured path).reverse.lookup name := by
  induction patterns using List.reverseRecOn with
  | nil => rfl
  | append_singleton patterns p ih =>
    rw [get?_ofPatterns_concat, ih, List.filter_append]
    cases hp : p.isFor path name with
    | true =>
      obtain ⟨value, hvalue⟩ := Option.isSome_iff_exists.1 hp
      rw [List.filter_cons_of_pos hp, List.filter_nil, List.getLast?_concat, Option.bind_some,
        hvalue, Option.some_or]
    | false =>
      have hnone : (p.captured path).reverse.lookup name = none := by
        simpa [Pattern.isFor] using hp
      rw [List.filter_cons_of_neg (by simp [hp]), List.filter_nil, List.append_nil, hnone,
        Option.none_or]

/-- The text of the last pattern that captures a name settles its value. -/
theorem get?_ofPatterns_congr {known : List Pattern}
    (h : (patterns.filter (·.isFor path name)).getLast?.map Pattern.source =
      (known.filter (·.isFor path name)).getLast?.map Pattern.source) :
    (ofPatterns path patterns).get? name = (ofPatterns path known).get? name := by
  rw [get?_ofPatterns, get?_ofPatterns]
  cases hp : (patterns.filter (·.isFor path name)).getLast? with
  | none =>
    rw [hp, Option.map_none, eq_comm, Option.map_eq_none_iff] at h
    rw [h]
  | some p =>
    rw [hp, Option.map_some, eq_comm, Option.map_eq_some_iff] at h
    obtain ⟨q, hq, hsource⟩ := h
    obtain ⟨value, hvalue⟩ := Pattern.isFor_iff.1
      (List.mem_filter.1 (List.mem_of_getLast? hp)).2
    obtain ⟨other, hother⟩ := Pattern.isFor_iff.1
      (List.mem_filter.1 (List.mem_of_getLast? hq)).2
    have hsame := hvalue.of_source_eq hsource.symm hother.mem_names
    rw [hq, Option.bind_some, Option.bind_some, Pattern.lookup_captured_eq_some_iff.2 hvalue,
      Pattern.lookup_captured_eq_some_iff.2 hsame]

end Params

end Supplies

/-! ## Stops and visits -/

/-- The stop one entry further on. -/
def Stop.next (s : Stop α) : Stop α := { s with place := s.place + 1 }

theorem stopsOf_cons (path method host : String) (e : Entry α) (es : List (Entry α)) :
    stopsOf path method host (e :: es) =
      (if e.pattern.isMatch path then (e.reached method host).map (⟨0, e, ·⟩) else []) ++
        (stopsOf path method host es).map Stop.next := by
  have hrest : ((es.zipIdx 1).filter fun x => x.1.pattern.isMatch path).flatMap
      (fun x => (x.1.reached method host).map (Stop.mk x.2 x.1)) =
      (stopsOf path method host es).map Stop.next := by
    rw [stopsOf, List.zipIdx_succ, List.filter_map, List.flatMap_map, List.map_flatMap]
    simp only [List.map_map]
    rfl
  rw [stopsOf, List.zipIdx_cons, List.filter_cons, ← hrest]
  split <;> simp

/-- A request visits its stops, each with the captures of the entries up to it. -/
theorem visits_eq (path method host : String) (params : Params) (es : List (Entry α)) :
    visits path method host params es = (stopsOf path method host es).map fun s =>
      (s.binding, params.insertAll
        (((es.take (s.place + 1)).map Entry.pattern).flatMap fun p => p.captured path)) := by
  induction es generalizing params with
  | nil => rfl
  | cons e es ih =>
    have hsome := e.pattern.isSome_captures path
    have htail : ∀ captures, e.pattern.captured path = captures →
        visits path method host (params.insertAll captures) es =
          ((stopsOf path method host es).map Stop.next).map fun s =>
            (s.binding, params.insertAll
              ((((e :: es).take (s.place + 1)).map Entry.pattern).flatMap fun p =>
                p.captured path)) := by
      intro captures hc
      rw [ih, List.map_map]
      refine List.map_congr_left fun s _ => ?_
      simp [Stop.next, hc, Dict.insertAll_append]
    rw [stopsOf_cons, List.map_append, ← htail _ rfl, ← hsome]
    cases hc : e.pattern.captures path with
    | none => simp [visits, Pattern.captured, hc]
    | some captures => simp [visits, Pattern.captured, hc, Function.comp_def]

theorem mem_stopsOf {path method host : String} {es : List (Entry α)} {s : Stop α} :
    s ∈ stopsOf path method host es ↔ es[s.place]? = some s.entry ∧
      s.entry.pattern.isMatch path = true ∧ s.binding ∈ s.entry.reached method host := by
  simp only [stopsOf, List.mem_flatMap, List.mem_filter, List.mem_map]
  constructor
  · rintro ⟨⟨e, i⟩, ⟨he, hmatch⟩, b, hb, rfl⟩
    exact ⟨List.mk_mem_zipIdx_iff_getElem?.1 he, hmatch, hb⟩
  · rintro ⟨he, hmatch, hb⟩
    exact ⟨(s.entry, s.place), ⟨List.mk_mem_zipIdx_iff_getElem?.2 he, hmatch⟩, s.binding, hb, rfl⟩

theorem Table.map_target_stops (t : Table α) (path method host : String) :
    (t.stops path method host).map (fun s => s.binding.target s.entry.source) =
      t.targets path method host := by
  have hentries : (t.entries.zipIdx.filter fun x => x.1.pattern.isMatch path).map Prod.fst =
      t.entries.filter (·.pattern.isMatch path) := by
    conv_rhs => rw [← List.zipIdx_map_fst 0 t.entries, List.filter_map]
    rfl
  rw [stops, stopsOf, Table.targets, ← hentries, List.flatMap_map, List.map_flatMap]
  simp only [List.map_map]
  rfl

namespace Dispatcher

theorem getElem?_calls (d : Dispatcher α) (r : Request) (k : Nat) :
    let path := d.options.strip r.path
    (d.calls r)[k]? = ((d.table.stops path r.method r.host)[k]?).map fun s =>
      ⟨s.binding.handler, some (.ofPatterns path (d.table.patternsUpTo s.place)),
        d.context r k⟩ := by
  intro path
  rw [calls, visits_eq, List.getElem?_map, List.getElem?_zipIdx, List.getElem?_map]
  simp only [Option.map_map, Nat.zero_add]
  rfl

theorem calls_eq_nil_iff (d : Dispatcher α) (r : Request) :
    d.calls r = [] ↔ d.table.stops (d.options.strip r.path) r.method r.host = [] := by
  rw [calls, visits_eq, List.map_eq_nil_iff, List.zipIdx_eq_nil_iff, List.map_eq_nil_iff]
  rfl

/-- What the handlers of a dispatch are given, whatever they do. The stops of a request are the
bindings that it reaches in entries that match the path. A handler is given the captures of all
matching entries up to its own, with or without stops: a name has the value that the last entry to
capture it captures, and each name that some entry captures is there. What is known at an entry is
the same for all its handlers. The handler for requests without a route is given no parameters. -/
theorem params_dispatch (d : Dispatcher α) (act : Call α → Except String Unit) (r : Request) :
    let path := d.options.strip r.path
    let stops := d.table.stops path r.method r.host
    let calls := (d.dispatch act r).calls
    (∀ s, s ∈ stops ↔ d.table.entries[s.place]? = some s.entry ∧
      s.entry.pattern.isMatch path = true ∧ s.binding ∈ s.entry.reached r.method r.host) ∧
    (stops = [] → ∀ c ∈ calls, c.params = none) ∧
    (stops ≠ [] → ∀ (k : Nat) (c : Call α), calls[k]? = some c →
      ∃ (s : Stop α) (params : Params), stops[k]? = some s ∧
      c.handler = s.binding.handler ∧ c.params = some params ∧
      (∀ name value, params.get? name = some value ↔
        Supplies (d.table.patternsUpTo s.place) path name value) ∧
      ∀ name, (params.get? name).isSome = true ↔
        ∃ p ∈ d.table.patternsUpTo s.place, ∃ value, p.Gives path name value) ∧
    ∀ (j k : Nat) (s t : Stop α) (c c' : Call α), stops[j]? = some s → stops[k]? = some t →
      s.place = t.place → calls[j]? = some c → calls[k]? = some c' → c.params = c'.params := by
  intro path stops calls
  have hgiven : ∀ {k : Nat} {c : Call α}, stops ≠ [] → calls[k]? = some c →
      ∃ s, stops[k]? = some s ∧ c = ⟨s.binding.handler,
        some (.ofPatterns path (d.table.patternsUpTo s.place)), d.context r k⟩ := by
    intro k c hne hk
    have hc := getElem?_calls_of_dispatch (mt (d.calls_eq_nil_iff r).1 hne) hk
    rw [getElem?_calls] at hc
    obtain ⟨s, hs, rfl⟩ := Option.map_eq_some_iff.1 hc
    exact ⟨s, hs, rfl⟩
  refine ⟨fun s => mem_stopsOf, fun hnil c hc => ?_, fun hne k c hk => ?_,
    fun j k s t c c' hs ht hplace hj hk => ?_⟩
  · have hfallback := isFallback_of_mem_dispatch hc
    rw [(d.calls_eq_nil_iff r).2 hnil] at hfallback
    exact Option.isNone_iff_eq_none.1 hfallback
  · obtain ⟨s, hs, rfl⟩ := hgiven hne hk
    exact ⟨s, _, hs, rfl, rfl, fun name value => Params.get?_ofPatterns_eq_some_iff,
      fun name => Params.isSome_get?_ofPatterns⟩
  · have hne : stops ≠ [] := List.ne_nil_of_mem (List.mem_of_getElem? hs)
    obtain ⟨s', hs', rfl⟩ := hgiven hne hj
    obtain ⟨t', ht', rfl⟩ := hgiven hne hk
    obtain rfl : s' = s := Option.some.inj (hs'.symm.trans hs)
    obtain rfl : t' = t := Option.some.inj (ht'.symm.trans ht)
    rw [hplace]

/-- The first pattern has no handler for the request, and the second captures one of its names
again. -/
theorem params_dispatch_again :
    let p := (Pattern.compile "/[a:first]/[a:second]" .builtin).toOption.get (by decide +kernel)
    let q := (Pattern.compile "/[a:second]/[a]" .builtin).toOption.get (by decide +kernel)
    let log : List (Registration Nat) := [⟨p, .verb "POST", [], 1⟩, ⟨q, .verb "GET", [], 2⟩]
    let d : Dispatcher Nat := ⟨.ofLog log, {}, none⟩
    let request : Request := ⟨"GET", "/left/right.html", "h", .empty, {}⟩
    let path := d.options.strip request.path
    ∃ c ∈ (d.dispatch (fun _ => .ok ()) request).calls, ∃ params s, c.handler = 2 ∧
      c.params = some params ∧ params.entries = [("first", "left"), ("second", "left")] ∧
      s ∈ d.table.stops path "GET" "h" ∧ s.place = 1 ∧
      Supplies (d.table.patternsUpTo s.place) path "second" "left" := by
  intro p q log d request path
  obtain ⟨-, -, hgiven, -⟩ := params_dispatch d (fun _ => .ok ()) request
  have hplaces : (d.table.stops path "GET" "h").map Stop.place = [1] := by decide +kernel
  have hcalls : (d.dispatch (fun _ => .ok ()) request).calls.map
      (fun c => (c.handler, c.params.map Dict.entries)) =
      [(2, some [("first", "left"), ("second", "left")])] := by decide +kernel
  have hcall := congrArg (·[0]?) hcalls
  obtain ⟨c, hc, hentries⟩ := Option.map_eq_some_iff.1 ((List.getElem?_map ..).symm.trans hcall)
  obtain ⟨hhandler, hentries⟩ := Prod.mk.inj hentries
  have hne : d.table.stops path "GET" "h" ≠ [] := fun hnil => by
    rw [hnil] at hplaces
    cases hplaces
  obtain ⟨s, params, hs, -, hparams, hvalue, -⟩ := hgiven hne 0 c hc
  have hplace : s.place = 1 := by
    have hfirst : ((d.table.stops path "GET" "h").map Stop.place)[0]? = some s.place := by
      rw [List.getElem?_map, hs]
      rfl
    rw [hplaces] at hfirst
    exact (Option.some.inj hfirst).symm
  rw [hparams] at hentries
  have hentries : params.entries = [("first", "left"), ("second", "left")] :=
    Option.some.inj hentries
  have hmem : ("second", "left") ∈ params.entries := by simp [hentries]
  have hsecond : params.get? "second" = some "left" := Dict.get?_of_mem hmem
  exact ⟨c, List.mem_of_getElem? hc, params, s, hhandler, hparams, hentries,
    List.mem_of_getElem? hs, hplace, (hvalue "second" "left").1 hsecond⟩

end Dispatcher

end Signpost
