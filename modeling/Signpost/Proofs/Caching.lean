import Mathlib.Data.List.DropRight
import Signpost.Proofs.Flattening

/-!
# Kept patterns are not noticed

A compiler is used by compiling templates and by forgetting what it keeps. Whatever the uses before,
it answers as if it kept nothing. What it keeps are the templates compiled since it last forgot all,
and that is to be seen only in the numbers of the patterns. So a program may forget the patterns of
its router at any of its steps.

## Main definitions

* `Compiler.Use`, `Compiler.after`: the uses of a compiler, and the compiler after some of them.
* `Compiler.current`: the templates that were compiled since all patterns were forgotten.
* `Compiler.IsNumbered`, `Compiler.StartsAt`: what the numbers of the kept patterns say.
* `Script.withoutClears`: a program without the steps that forget the patterns.
* `Router.Alike`, `Router.EndsAlike`: two routers differ at most in the patterns that they keep, and
  two programs have left them so with the same result.

## Main statements

* `Compiler.mem_current_iff`: the current templates are those that have a pattern kept.
* `Compiler.number_eq_iff`: when two answers are the same pattern.
* `Script.alike_call`, `Script.map_sealed_pauses`: a program does the same without forgetting
  patterns, and the same is dispatched where it pauses.
* `Compiler.caching_transparent`: all of this as one statement.
-/

namespace Signpost

universe u

namespace Dict

variable {β : Type u}

/-- The keys of a dictionary are those that have a value. -/
theorem mem_keys_iff {d : Dict β} {k : String} :
    k ∈ d.entries.map Prod.fst ↔ ∃ v, d.get? k = some v := by
  rw [← Option.isSome_iff_exists, ← Option.ne_none_iff_isSome, ne_eq, get?,
    List.lookup_eq_none_iff]
  simp

theorem nodup_keys (d : Dict β) : (d.entries.map Prod.fst).Nodup := by
  rw [List.Nodup, List.pairwise_map]
  exact d.rising.imp fun h => String.ne_of_lt h

/-- The size is that of any list of the keys in which none is repeated. -/
theorem size_eq_length {d : Dict β} {keys : List String} (hkeys : keys.Nodup)
    (h : ∀ k, k ∈ keys ↔ ∃ v, d.get? k = some v) : d.size = keys.length := by
  have hperm : List.Perm (d.entries.map Prod.fst) keys :=
    (List.perm_ext_iff_of_nodup d.nodup_keys hkeys).2 fun k => mem_keys_iff.trans (h k).symm
  rw [size, ← hperm.length_eq, List.length_map]

end Dict

namespace Compiler

/-- A use of a compiler. -/
inductive Use
  | compile (template : String)
  | clear
deriving DecidableEq, Repr

/-- The compiler after one use. -/
def Use.perform : Use → Compiler → Compiler
  | .compile template, c => (c.compile template).2
  | .clear, c => c.clear

/-- The compiler after some uses in turn. -/
def after (c : Compiler) (uses : List Use) : Compiler := uses.foldl (fun c use => use.perform c) c

section After

variable {c : Compiler}

@[simp] theorem after_nil (c : Compiler) : c.after [] = c := rfl

@[simp] theorem after_cons (c : Compiler) (use : Use) (uses : List Use) :
    c.after (use :: uses) = (use.perform c).after uses := rfl

theorem after_append (c : Compiler) (uses later : List Use) :
    c.after (uses ++ later) = (c.after uses).after later := List.foldl_append

/-- What each use preserves holds after all uses. -/
theorem after_induction {P : Compiler → Prop} (h : P c)
    (hcompile : ∀ c template, P c → P (c.compile template).2) (hclear : ∀ c, P c → P c.clear)
    (uses : List Use) : P (c.after uses) := by
  induction uses generalizing c with
  | nil => exact h
  | cons use uses ih =>
    apply ih
    cases use with
    | compile template => exact hcompile c template h
    | clear => exact hclear c h

@[simp] theorem catalog_after (c : Compiler) (uses : List Use) :
    (c.after uses).catalog = c.catalog := by
  apply after_induction (P := fun d => d.catalog = c.catalog) rfl
  · intro d template h
    rw [catalog_compile, h]
  · intro d h
    exact h

theorem IsCoherent.after (h : c.IsCoherent) (uses : List Use) : (c.after uses).IsCoherent :=
  after_induction h (fun _ template h => h.compile template) (fun _ _ => .clear) uses

end After

/-! ## Which patterns are kept -/

section Kept

variable {c : Compiler} {template template' : String} {x y : Compiled}

/-- What compiling keeps: what was kept before, and the answer. -/
theorem get?_kept_compile :
    (c.compile template).2.kept.get? template' = some y ↔
      c.kept.get? template' = some y ∨
        template' = template ∧ (c.compile template).1 = .ok y := by
  obtain ⟨x, hkept, h⟩ | ⟨e, hkept, -, h⟩ | ⟨p, hkept, -, h⟩ := c.compile_cases template
  · rw [h]
    grind
  · rw [h]
    grind
  · rw [h, Dict.get?_insert]
    grind

/-- Nothing is forgotten before all is. -/
theorem kept_after (hx : c.kept.get? template = some x) {uses : List Use}
    (huses : .clear ∉ uses) : (c.after uses).kept.get? template = some x := by
  induction uses generalizing c with
  | nil => exact hx
  | cons use uses ih =>
    cases use with
    | compile other =>
      exact ih (get?_kept_compile.2 (.inl hx)) fun hmem => huses (List.mem_cons_of_mem _ hmem)
    | clear => exact absurd List.mem_cons_self huses

/-- The template of a use that compiled one. -/
def Use.compiled? (catalog : Template.Catalog) : Use → Option String
  | .compile template => if (Pattern.compile template catalog).isOk then some template else none
  | .clear => none

/-- The templates that were compiled since all patterns were forgotten, each of them once. -/
def current (catalog : Template.Catalog) (uses : List Use) : List String :=
  ((uses.rtakeWhile (· != .clear)).filterMap (Use.compiled? catalog)).eraseDups

/-- A template is compiled if there is an answer to it. -/
theorem compiled?_eq_some_iff (h : c.IsCoherent) :
    Use.compiled? c.catalog (.compile template) = some template' ↔
      template' = template ∧ ∃ x, (c.compile template).1 = .ok x := by
  have hanswer := h.map_pattern_compile template
  rw [Use.compiled?, ← hanswer]
  cases (c.compile template).1 with
  | error e => simp [Except.map, Except.isOk, Except.toBool]
  | ok x => simp [Except.map, Except.isOk, Except.toBool, eq_comm]

/-- The current templates are those that have a pattern kept. -/
theorem mem_current_iff (catalog : Template.Catalog) (uses : List Use) (template : String) :
    template ∈ current catalog uses ↔
      ∃ x, (Compiler.after { catalog } uses).kept.get? template = some x := by
  rw [current, List.mem_eraseDups]
  induction uses using List.reverseRecOn with
  | nil => simp
  | append_singleton uses use ih =>
    rw [after_append, after_cons, after_nil]
    cases use with
    | clear =>
      rw [List.rtakeWhile_concat_neg _ _ _ (by simp)]
      simp [Use.perform, Compiler.clear]
    | compile other =>
      have hcoherent : (Compiler.after { catalog } uses).IsCoherent :=
        (IsCoherent.empty _).after uses
      have hcompiled : Use.compiled? catalog (.compile other) = some template ↔ template = other ∧
          ∃ x, ((Compiler.after { catalog } uses).compile other).1 = .ok x := by
        rw [← compiled?_eq_some_iff hcoherent, catalog_after]
      have hone : template ∈ [Use.compile other].filterMap (Use.compiled? catalog) ↔
          Use.compiled? catalog (.compile other) = some template := by
        simp [List.mem_filterMap]
      rw [List.rtakeWhile_concat_pos _ _ _ (by simp), List.filterMap_append, List.mem_append, ih,
        hone, hcompiled, Use.perform]
      simp [get?_kept_compile, exists_or]

theorem keptCount_after (catalog : Template.Catalog) (uses : List Use) :
    (Compiler.after { catalog } uses).keptCount = (current catalog uses).length :=
  Dict.size_eq_length (nodup_eraseDups _) (mem_current_iff catalog uses)

end Kept

/-! ## The numbers of the patterns -/

/-- Each pattern that is kept was made before, and no two of them were made at once. -/
structure IsNumbered (c : Compiler) : Prop where
  number_lt : ∀ template x, c.kept.get? template = some x → x.number < c.made
  injective : ∀ template template' x y, c.kept.get? template = some x →
    c.kept.get? template' = some y → x.number = y.number → template = template'

/-- No pattern that is kept was made before the one with the number `n`. -/
structure StartsAt (n : Nat) (c : Compiler) : Prop where
  le_made : n ≤ c.made
  le_number : ∀ template x, c.kept.get? template = some x → n ≤ x.number

section Numbers

variable {c : Compiler} {n : Nat} {template template' : String} {y : Compiled}

theorem made_le_compile (c : Compiler) (template : String) :
    c.made ≤ (c.compile template).2.made := by
  obtain ⟨_, _, h⟩ | ⟨_, _, _, h⟩ | ⟨_, _, _, h⟩ := c.compile_cases template <;> rw [h]
  exact Nat.le_succ _

/-- A pattern that is kept behind a compilation was kept before, or has the next number. -/
theorem kept_or_new (hy : (c.compile template).2.kept.get? template' = some y) :
    c.kept.get? template' = some y ∨ template' = template ∧ y.number = c.made ∧
      (c.compile template).2.made = c.made + 1 := by
  obtain ⟨x, -, h⟩ | ⟨e, -, -, h⟩ | ⟨p, -, -, h⟩ := c.compile_cases template
  · rw [h] at hy
    exact .inl hy
  · rw [h] at hy
    exact .inl hy
  · rw [h, Dict.get?_insert] at hy
    split at hy
    · next heq =>
      cases hy
      exact .inr ⟨heq, rfl, by rw [h]⟩
    · exact .inl hy

theorem IsNumbered.empty (catalog : Template.Catalog) : IsNumbered { catalog } where
  number_lt _ _ h := by cases h
  injective _ _ _ _ h := by cases h

theorem IsNumbered.clear : c.clear.IsNumbered where
  number_lt _ _ h := by cases h
  injective _ _ _ _ h := by cases h

theorem IsNumbered.compile (h : c.IsNumbered) (template : String) :
    (c.compile template).2.IsNumbered where
  number_lt template' x hx := by
    obtain hold | ⟨-, hnumber, hmade⟩ := kept_or_new hx
    · exact Nat.lt_of_lt_of_le (h.number_lt _ _ hold) (c.made_le_compile template)
    · omega
  injective t t' x y hx hy heq := by
    -- A new number is above those of all patterns kept before.
    obtain hx | ⟨ht, hnumber, -⟩ := kept_or_new hx <;>
      obtain hy | ⟨ht', hnumber', -⟩ := kept_or_new hy
    · exact h.injective _ _ _ _ hx hy heq
    · have hlt := h.number_lt _ _ hx
      omega
    · have hlt := h.number_lt _ _ hy
      omega
    · rw [ht, ht']

theorem IsNumbered.after (h : c.IsNumbered) (uses : List Use) : (c.after uses).IsNumbered :=
  after_induction h (fun _ template h => h.compile template) (fun _ _ => .clear) uses

theorem StartsAt.clear (h : n ≤ c.made) : StartsAt n c.clear where
  le_made := h
  le_number _ _ h := by cases h

theorem StartsAt.compile (h : StartsAt n c) (template : String) :
    StartsAt n (c.compile template).2 where
  le_made := Nat.le_trans h.le_made (c.made_le_compile template)
  le_number template' x hx := by
    obtain hold | ⟨-, hnumber, -⟩ := kept_or_new hx
    · exact h.le_number _ _ hold
    · exact hnumber ▸ h.le_made

theorem StartsAt.after (h : StartsAt n c) (uses : List Use) : StartsAt n (c.after uses) :=
  after_induction h (fun _ template h => h.compile template) (fun _ h => .clear h.le_made) uses

theorem made_le_after (c : Compiler) (uses : List Use) : c.made ≤ (c.after uses).made := by
  apply after_induction (P := fun d => c.made ≤ d.made) (Nat.le_refl _)
  · intro d template h
    exact Nat.le_trans h (d.made_le_compile template)
  · intro d h
    exact h

/-- Once all patterns were forgotten, those that are kept are new. -/
theorem startsAt_after (c : Compiler) {uses : List Use} (huses : .clear ∈ uses) :
    StartsAt c.made (c.after uses) := by
  obtain ⟨uses, later, rfl⟩ := List.append_of_mem huses
  rw [after_append, after_cons]
  exact (StartsAt.clear (c.made_le_after uses)).after later

/-- Two answers are the same pattern if they are for one template and the patterns were not
forgotten between them, and only then. -/
theorem number_eq_iff (h : c.IsNumbered) {x : Compiled} {between : List Use}
    (hx : (c.compile template).1 = .ok x)
    (hy : (((c.compile template).2.after between).compile template').1 = .ok y) :
    x.number = y.number ↔ template = template' ∧ .clear ∉ between := by
  have hkept : (c.compile template).2.kept.get? template = some x :=
    get?_kept_compile.2 (.inr ⟨rfl, hx⟩)
  have hnumbered := h.compile template
  generalize (c.compile template).2 = d at hy hkept hnumbered
  have hlast : ((d.after between).compile template').2.kept.get? template' = some y :=
    get?_kept_compile.2 (.inr ⟨rfl, hy⟩)
  by_cases hclear : .clear ∈ between
  · -- What is kept now was made after the first answer.
    have hlt := hnumbered.number_lt _ _ hkept
    have hle := ((d.startsAt_after hclear).compile template').le_number _ _ hlast
    constructor
    · omega
    · exact fun h => absurd hclear h.2
  · -- The first answer is kept still, so the numbers tell the two templates apart.
    have hfirst : ((d.after between).compile template').2.kept.get? template = some x :=
      get?_kept_compile.2 (.inl (kept_after hkept hclear))
    constructor
    · intro hnumber
      exact ⟨((hnumbered.after between).compile template').injective _ _ _ _ hfirst hlast hnumber,
        hclear⟩
    · rintro ⟨rfl, -⟩
      rw [Option.some.inj (hfirst.symm.trans hlast)]

end Numbers

end Compiler

/-! ## Programs that forget patterns -/

variable {α : Type u}

/-- The program without the steps that forget the patterns of the router. -/
def Script.withoutClears : Script α → Script α
  | .done => .done
  | .step _ .clearCache rest => rest.withoutClears
  | .step caught action rest => .step caught action rest.withoutClears
  | .scope caught s body rest => .scope caught s body.withoutClears rest.withoutClears

/-- The routers have the same scopes open, and differ in the patterns that they keep, at most. -/
structure Router.Alike (o : Options) (scopes : List Scope) (r r' : Router α) : Prop where
  left : r.StandsIn o scopes
  right : r'.StandsIn o scopes
  table : r'.table = r.table
  notFound : r'.notFound = r.notFound

/-- The results are the same, and the routers are alike. -/
structure Router.EndsAlike (o : Options) (scopes : List Scope)
    (x x' : Except RouterError Unit × Router α) : Prop where
  result : x'.1 = x.1
  router : Router.Alike o scopes x.2 x'.2

section Alike

variable {o : Options} {scopes : List Scope} {s : Scope} {r r' inner inner' after after' : Router α}
  {x x' : Except RouterError Unit × Router α}

namespace Router

namespace Alike

theorem sealed (h : Alike o scopes r r') : r'.sealed = r.sealed := by
  rw [Router.sealed, Router.sealed, h.table, h.notFound, h.left.options, h.right.options]

theorem clearCache (h : Alike o scopes r r') : Alike o scopes r.clearCache r' where
  left := ⟨h.left.options, h.left.catalog, h.left.base, h.left.hosts, .clear⟩
  right := h.right
  table := h.table
  notFound := h.notFound

/-- What has the same effect on routers that are alike leaves them so. -/
theorem of_turns {e : Effect α} (h : Alike o scopes r r') (hx : e.Turns r x) (hx' : e.Turns r' x')
    (hnotFound : x'.2.notFound = x.2.notFound) : EndsAlike o scopes x x' where
  result := hx'.result.trans hx.result.symm
  router :=
    { left := h.left.of_turns hx
      right := h.right.of_turns hx'
      table := by rw [hx'.table, hx.table, h.table]
      notFound := hnotFound }

theorem perform (h : Alike o scopes r r') (action : Action α) :
    EndsAlike o scopes (action.perform r) (action.perform r') := by
  apply h.of_turns (action.turns_perform h.left) (action.turns_perform h.right)
  cases action with
  | route methods template handler =>
    exact (r'.notFound_route ..).trans (h.notFound.trans (r.notFound_route ..).symm)
  | notFound handler => rfl
  | clearCache => exact h.notFound
  | fail method path => exact h.notFound
  | pass => exact h.notFound

theorem enter_eq_none (h : Alike o scopes r r') (hs : r.enter s = none) : r'.enter s = none := by
  rw [enter_eq, h.left.options] at hs
  rw [enter_eq, h.right.options]
  split at hs
  · next hshut => exact if_pos hshut
  · cases hs

theorem enter (h : Alike o scopes r r') (hs : r.enter s = some inner) :
    ∃ inner', r'.enter s = some inner' ∧ Alike o (scopes ++ [s]) inner inner' := by
  obtain ⟨hopen, rfl⟩ := eq_of_enter hs
  rw [h.left.options, ← h.right.options] at hopen
  have hs' := r'.enter_eq s
  rw [if_neg (by simp [hopen])] at hs'
  exact ⟨_, hs', (h.left.of_enter hs).1, (h.right.of_enter hs').1, h.table, h.notFound⟩

theorem leave (h : Alike o scopes r r') (hs : r.enter s = some inner)
    (hs' : r'.enter s = some inner') (hafter : Alike o (scopes ++ [s]) after after') :
    Alike o scopes (after.leave s r) (after'.leave s r') := by
  refine ⟨h.left.leave hs hafter.left, h.right.leave hs' hafter.right, ?_, ?_⟩ <;>
    rw [leave_eq hs ((h.left.of_enter hs).1.agrees hafter.left),
      leave_eq hs' ((h.right.of_enter hs').1.agrees hafter.right)]
  · exact hafter.table
  · exact hafter.notFound

/-- Bodies that leave alike the routers within a scope leave alike those around it. -/
theorem within (h : Alike o scopes r r')
    {body body' : Router α → Except RouterError Unit × Router α}
    (hbody : ∀ inner inner', Alike o (scopes ++ [s]) inner inner' →
      EndsAlike o (scopes ++ [s]) (body inner) (body' inner')) :
    EndsAlike o scopes (r.within s body) (r'.within s body') := by
  cases hs : r.enter s with
  | none =>
    rw [Router.within, Router.within, hs, h.enter_eq_none hs]
    exact ⟨rfl, h⟩
  | some inner =>
    obtain ⟨inner', hs', hinner⟩ := h.enter hs
    obtain ⟨hresult, hafter⟩ := hbody inner inner' hinner
    rw [within_of_enter hs, within_of_enter hs']
    exact ⟨hresult, h.leave hs hs' hafter⟩

end Alike

theorem EndsAlike.proceed (h : EndsAlike o scopes x x') (caught : Bool)
    {rest rest' : Router α → Except RouterError Unit × Router α}
    (hrest : EndsAlike o scopes (rest x.2) (rest' x'.2)) :
    EndsAlike o scopes (proceed caught x rest) (proceed caught x' rest') := by
  unfold Signpost.proceed
  rw [h.result]
  split
  · exact h
  · exact hrest

end Router

namespace Script

/-- Routers that are alike stay so, if only one of them forgets its patterns. -/
theorem alike_call (script : Script α) (h : r.Alike o scopes r') :
    Router.EndsAlike o scopes (script.call r) (script.withoutClears.call r') := by
  fun_induction withoutClears script generalizing scopes r r' with
  | case1 => exact ⟨rfl, h⟩
  | case2 caught rest ih =>
    rw [call_step, Action.perform, proceed_ok]
    exact ih h.clearCache
  | case3 caught action rest _ ih =>
    rw [call_step, call_step]
    have hfirst := h.perform action
    exact hfirst.proceed caught (ih hfirst.router)
  | case4 caught s body rest ihbody ihrest =>
    rw [call_scope, call_scope]
    have hfirst := h.within (s := s) fun inner inner' hinner => ihbody hinner
    exact hfirst.proceed caught (ihrest hfirst.router)

/-- The routers at which programs pause that differ in the patterns they forget answer all requests
alike. -/
theorem map_sealed_pauses (script : Script α) (h : r.Alike o scopes r') :
    (script.withoutClears.pauses r').map Router.sealed = (script.pauses r).map Router.sealed := by
  fun_induction withoutClears script generalizing scopes r r' with
  | case1 => rfl
  | case2 caught rest ih =>
    rw [pauses_step, Action.perform, stops_ok]
    exact ih h.clearCache
  | case3 caught action rest _ ih =>
    have hfirst := h.perform action
    have hpause : (action.pause (action.perform r').2).map Router.sealed =
        (action.pause (action.perform r).2).map Router.sealed := by
      cases action with
      | pass => exact congrArg (fun d => [d]) hfirst.router.sealed
      | _ => rfl
    rw [pauses_step, pauses_step, List.map_append, List.map_append, hpause, hfirst.result]
    split
    · rfl
    · rw [ih hfirst.router]
  | case4 caught s body rest ihbody ihrest =>
    have hfirst := h.within (s := s) fun _ _ hinner => body.alike_call hinner
    have hwithin : ((r'.enter s).elim [] body.withoutClears.pauses).map Router.sealed =
        ((r.enter s).elim [] body.pauses).map Router.sealed := by
      cases hs : r.enter s with
      | none => rw [h.enter_eq_none hs]; rfl
      | some inner =>
        obtain ⟨inner', hs', hinner⟩ := h.enter hs
        rw [hs']
        exact ihbody hinner
    rw [pauses_scope, pauses_scope, List.map_append, List.map_append, hwithin, hfirst.result]
    split
    · rfl
    · rw [ihrest hfirst.router]

end Script

end Alike

/-- Two programs that differ in the steps that forget patterns, at most, do the same: they end alike
with the same table, and the routers at which they pause and end have the same dispatchers. -/
theorem Script.sealed_congr_withoutClears (o : Options) {p q : Script α}
    (h : p.withoutClears = q.withoutClears) :
    (q.run (.ofOptions o)).result = (p.run (.ofOptions o)).result ∧
      (q.run (.ofOptions o)).router.sealed = (p.run (.ofOptions o)).router.sealed ∧
      (q.pauses (.ofOptions o)).map Router.sealed =
        (p.pauses (.ofOptions o)).map Router.sealed := by
  have hnew : (Router.ofOptions o : Router α).Alike o [] (.ofOptions o) :=
    ⟨Router.standsIn_ofOptions o, Router.standsIn_ofOptions o, rfl, rfl⟩
  have hp := p.alike_call hnew
  have hq := q.alike_call hnew
  rw [h] at hp
  refine ⟨hq.result.symm.trans hp.result, hq.router.sealed.symm.trans hp.router.sealed, ?_⟩
  rw [← q.map_sealed_pauses hnew, ← p.map_sealed_pauses hnew, h]

/-- What a compiler keeps is not noticed. After any uses it answers as if it kept nothing, a
template that is refused changes nothing, and it keeps as many patterns as there are templates that
were compiled since it last forgot all. Two answers are the same pattern if they are for one
template and nothing was forgotten between them, and only then. So programs that differ in the steps
that forget patterns lead to the same table, and to the same dispatch of each request, between their
steps and behind them. -/
theorem Compiler.caching_transparent (catalog : Template.Catalog) :
    let after (uses : List Use) : Compiler := Compiler.after { catalog } uses
    (∀ (uses : List Use) (template : String),
      ((after uses).compile template).1.map Compiled.pattern = Pattern.compile template catalog) ∧
    (∀ (uses : List Use) (template : String) (e : Template.Error),
      ((after uses).compile template).1 = .error e →
        ((after uses).compile template).2 = after uses) ∧
    (∀ uses : List Use, (after uses).keptCount = (current catalog uses).length) ∧
    (∀ (uses between : List Use) (template template' : String) (x y : Compiled),
      ((after uses).compile template).1 = .ok x →
      ((after (uses ++ .compile template :: between)).compile template').1 = .ok y →
        (x.number = y.number ↔ template = template' ∧ .clear ∉ between)) ∧
    ∀ (o : Options) (p q : Script α), p.withoutClears = q.withoutClears →
      (q.run (.ofOptions o)).result = (p.run (.ofOptions o)).result ∧
      (q.run (.ofOptions o)).router.table = (p.run (.ofOptions o)).router.table ∧
      ∀ (act : Call α → Except String Unit) (request : Request),
        (q.run (.ofOptions o)).router.dispatch act request =
          (p.run (.ofOptions o)).router.dispatch act request ∧
        (q.pauses (.ofOptions o)).map (·.dispatch act request) =
          (p.pauses (.ofOptions o)).map (·.dispatch act request) := by
  intro after
  refine ⟨?_, ?_, keptCount_after catalog, ?_, ?_⟩
  · intro uses template
    rw [((IsCoherent.empty catalog).after uses).map_pattern_compile, catalog_after]
  · intro uses template e he
    exact compile_of_error he
  · intro uses between template template' x y hx hy
    simp only [after, after_append, after_cons, Use.perform] at hx hy
    exact number_eq_iff ((IsNumbered.empty catalog).after uses) hx hy
  · intro o p q h
    obtain ⟨hresult, hsealed, hpauses⟩ := Script.sealed_congr_withoutClears o h
    refine ⟨hresult, congrArg Dispatcher.table hsealed, fun act request => ⟨?_, ?_⟩⟩
    · exact congrArg (·.dispatch act request) hsealed
    · have hreports := congrArg (List.map (·.dispatch act request)) hpauses
      rw [List.map_map, List.map_map] at hreports
      exact hreports

end Signpost
