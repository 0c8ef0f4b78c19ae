import Signpost.Proofs.Dispatch
import Signpost.Proofs.Language

/-!
# Equal patterns

Patterns are the same if their texts are. The text settles which paths match and what the groups
hold. It settles the parameter names, too, unless a class opens a group with a name of its own: then
a name may stand in the text that the template does not declare.

## Main definitions

* `Template.groupNames`: the names that groups open with in the text of an expression.
* `Template.nests`: some class of a template opens a group with a name.

## Main statements

* `Template.sublist_groupNames`: the names that a template declares open groups in its text.
* `Template.groupNames_sourceText`: if no class does, no other names open groups there.
* `Pattern.captures_congr`: equal patterns can take each other's place.
-/

namespace Signpost

namespace Template

/-- The name of the group that a text opens with, in the form in which placeholders write theirs. -/
def groupName? : List Char → Option String
  | '(' :: '?' :: 'P' :: '<' :: cs => some (String.ofList (cs.takeWhile (· != '>')))
  | _ => none

/-- The names that groups open with in a text, from left to right. The text is not read as an
expression: within brackets, too, it counts as opening a group. -/
def groupNames : List Char → List String
  | [] => []
  | c :: cs => (groupName? (c :: cs)).toList ++ groupNames cs

/-- The class of the placeholder opens a group with a name of its own. -/
def Token.nests (catalog : Catalog) : Token → Bool
  | .literal _ => false
  | .placeholder code none => groupNames ('(' :: (catalog.resolve code).toList) != []
  | .placeholder code (some _) => groupNames (catalog.resolve code).toList != []

/-- Some class of the template opens a group with a name of its own. -/
def nests (template : String) (catalog : Catalog) : Bool :=
  (scan template).toOption.any fun tokens => tokens.any (Token.nests catalog)

section GroupNames

theorem groupName?_cons_of_ne {c : Char} (hc : c ≠ '(') (cs : List Char) :
    groupName? (c :: cs) = none := by
  unfold groupName?
  split
  · next h => cases h; exact absurd rfl hc
  · rfl

/-- What does not go on with `?` opens no group with a name. -/
theorem groupName?_cons_of_head? {cs : List Char} (hcs : cs.head? ≠ some '?') (c : Char) :
    groupName? (c :: cs) = none := by
  unfold groupName?
  split
  · next h => cases h; exact absurd rfl hcs
  · rfl

theorem groupNames_cons {c : Char} {cs : List Char} (h : groupName? (c :: cs) = none) :
    groupNames (c :: cs) = groupNames cs := by
  rw [groupNames, h]
  rfl

/-- A text without `(` opens no group. -/
theorem groupNames_append_of_notMem {text : List Char} (h : '(' ∉ text) (rest : List Char) :
    groupNames (text ++ rest) = groupNames rest := by
  induction text with
  | nil => rfl
  | cons c cs ih =>
    rw [List.mem_cons, not_or] at h
    rw [List.cons_append, groupNames_cons (groupName?_cons_of_ne (Ne.symm h.1) _), ih h.2]

/-- A text in front hides no group. -/
theorem sublist_groupNames_append (text rest : List Char) :
    (groupNames rest).Sublist (groupNames (text ++ rest)) := by
  induction text with
  | nil => exact .refl _
  | cons c cs ih => exact ih.trans (List.sublist_append_right ..)

/-- A group that opens in front of `)` opens there without it. -/
theorem groupName?_eq_none_of_append {text rest : List Char} (h : groupName? text = none) :
    groupName? (text ++ ')' :: rest) = none := by
  unfold groupName?
  split
  · next cs hcs =>
    -- The four characters that open the group are all in the text, as none of them is `)`.
    match text, hcs with
    | [], hcs => simp at hcs
    | [_], hcs => simp at hcs
    | [_, _], hcs => simp at hcs
    | [_, _, _], hcs => simp at hcs
    | c₁ :: c₂ :: c₃ :: c₄ :: cs', hcs =>
      simp only [List.cons_append, List.cons.injEq] at hcs
      obtain ⟨rfl, rfl, rfl, rfl, -⟩ := hcs
      cases h
  · rfl

/-- A class that opens no group opens none in its placeholder. -/
theorem groupNames_append_close {cls : List Char} (h : groupNames cls = []) (rest : List Char) :
    groupNames (cls ++ ')' :: rest) = groupNames rest := by
  induction cls with
  | nil => exact groupNames_cons (groupName?_cons_of_ne (by decide) rest)
  | cons c cs ih =>
    obtain ⟨hc, hcs⟩ := List.append_eq_nil_iff.1 h
    rw [Option.toList_eq_nil_iff] at hc
    have hnone : groupName? (c :: (cs ++ ')' :: rest)) = none := groupName?_eq_none_of_append hc
    rw [List.cons_append, groupNames_cons hnone, ih hcs]

/-- Escaped text opens no group. -/
theorem groupNames_escape_append (text : List Char) {rest : List Char}
    (hrest : rest.head? ≠ some '?') :
    groupNames (text.flatMap Regex.escapeChar ++ rest) = groupNames rest := by
  induction text with
  | nil => rfl
  | cons c cs ih =>
    have hnone := groupName?_cons_of_head?
      (Regex.head?_escape_append (by decide) (by decide) cs hrest) c
    rw [List.flatMap_cons, List.append_assoc, Regex.escapeChar]
    split
    · rw [List.cons_append, List.singleton_append,
        groupNames_cons (groupName?_cons_of_ne (by decide) _), groupNames_cons hnone, ih]
    · rw [List.singleton_append, groupNames_cons hnone, ih]

/-- A name holds no character that means anything to a group. -/
theorem IsName.notMem {name : String} (h : IsName name) {c : Char} (hc : isNameRest c = false) :
    c ∉ name.toList := by
  obtain ⟨d, cs, hname, hd, hcs⟩ := h
  rw [hname]
  intro hmem
  have hrest : isNameRest c = true := by
    rcases List.mem_cons.1 hmem with rfl | hmem
    · exact isNameRest_of_isNameStart hd
    · exact hcs c hmem
  rw [hc] at hrest
  cases hrest

/-- A named placeholder opens the group of its name. -/
theorem groupNames_named {name : String} (h : IsName name) (rest : List Char) :
    groupNames ('(' :: '?' :: 'P' :: '<' :: (name.toList ++ '>' :: rest)) =
      name :: groupNames rest := by
  have hclose : (name.toList ++ '>' :: rest).takeWhile (· != '>') = name.toList := by
    rw [List.takeWhile_append_of_pos fun c hc => ?_, List.takeWhile_cons_of_neg (by simp),
      List.append_nil]
    rw [bne_iff_ne]
    rintro rfl
    exact h.notMem (by decide) hc
  have hname : groupName? ('(' :: '?' :: 'P' :: '<' :: (name.toList ++ '>' :: rest)) =
      some name := by
    rw [groupName?, hclose, String.ofList_toList]
  have hinner : '(' ∉ '?' :: 'P' :: '<' :: (name.toList ++ ['>']) := by
    simp [h.notMem (c := '(') (by decide)]
  have hrest := groupNames_append_of_notMem hinner rest
  rw [groupNames, hname]
  simpa using hrest

end GroupNames

section Tokens

variable {catalog : Catalog} {rest : List Char}

theorem Token.toList_source_named (code name : String) :
    ((Token.placeholder code (some name)).source catalog).toList =
      '(' :: '?' :: 'P' :: '<' ::
        (name.toList ++ '>' :: ((catalog.resolve code).toList ++ [')'])) := by
  simp [Token.source]

/-- The name of a token opens a group in its text, whatever else does. -/
theorem Token.sublist_groupNames {t : Token} (ht : t.IsWellFormed) :
    (t.name?.toList ++ groupNames rest).Sublist
      (groupNames ((t.source catalog).toList ++ rest)) := by
  cases t with
  | literal text => exact sublist_groupNames_append ..
  | placeholder code name =>
    cases name with
    | none => exact sublist_groupNames_append ..
    | some name =>
      rw [toList_source_named]
      simp only [List.cons_append, List.append_assoc]
      rw [groupNames_named (ht.2.2 name rfl)]
      have hrest := sublist_groupNames_append ((catalog.resolve code).toList ++ [')']) rest
      simpa [Token.name?] using hrest

/-- If its class opens no other group, only the name of a token does. -/
theorem Token.groupNames_source {t : Token} (ht : t.IsWellFormed)
    (hnests : t.nests catalog = false) (hrest : rest.head? ≠ some '?') :
    groupNames ((t.source catalog).toList ++ rest) = t.name?.toList ++ groupNames rest := by
  cases t with
  | literal text =>
    rw [Token.source, Regex.toList_escape]
    exact groupNames_escape_append _ hrest
  | placeholder code name =>
    cases name with
    | none =>
      have hclose := groupNames_append_close (by simpa [Token.nests] using hnests) rest
      simpa [Token.source, Token.name?] using hclose
    | some name =>
      have hclose := groupNames_append_close (by simpa [Token.nests] using hnests) rest
      rw [toList_source_named]
      simp only [List.cons_append, List.append_assoc]
      rw [groupNames_named (ht.2.2 name rfl)]
      simpa [Token.name?] using hclose

/-- The names that a template declares open groups in its text, in their order. -/
theorem sublist_groupNames {tokens : List Token} (hwf : ∀ t ∈ tokens, t.IsWellFormed) :
    (tokens.filterMap Token.name?).Sublist (groupNames (sourceText catalog tokens).toList) := by
  rw [toList_sourceText, groupNames_cons (groupName?_cons_of_ne (by decide) _),
    List.filterMap_eq_flatMap_toList]
  induction tokens with
  | nil => exact List.nil_sublist _
  | cons t tokens ih =>
    have hrest := ih fun u hu => hwf u (List.mem_cons_of_mem _ hu)
    rw [List.flatMap_cons, List.flatMap_cons, List.append_assoc]
    exact (hrest.append_left _).trans (Token.sublist_groupNames (hwf t List.mem_cons_self))

/-- If no class opens a group with a name, the names that open groups in the text are those that the
template declares. -/
theorem groupNames_sourceText {tokens : List Token} (hwf : ∀ t ∈ tokens, t.IsWellFormed)
    (hnests : ∀ t ∈ tokens, t.nests catalog = false) :
    groupNames (sourceText catalog tokens).toList = tokens.filterMap Token.name? := by
  rw [toList_sourceText, groupNames_cons (groupName?_cons_of_ne (by decide) _),
    List.filterMap_eq_flatMap_toList]
  induction tokens with
  | nil => rfl
  | cons t tokens ih =>
    have hrest := ih (fun u hu => hwf u (List.mem_cons_of_mem _ hu))
      fun u hu => hnests u (List.mem_cons_of_mem _ hu)
    rw [List.flatMap_cons, List.flatMap_cons, List.append_assoc,
      Token.groupNames_source (hwf t List.mem_cons_self) (hnests t List.mem_cons_self)
        (head?_sources_append (by decide) (by decide) (by decide) tokens (by simp)), hrest]

end Tokens

end Template

universe u

variable {α : Type u}

/-- Of an entry's pattern only the captures matter to the bindings that a request visits. -/
theorem visits_congr {p q : Pattern} (h : ∀ path, p.captures path = q.captures path)
    (path method host : String) (params : Params) (before after : List (Entry α))
    (bindings : List (Binding α)) :
    visits path method host params (before ++ ⟨q, bindings⟩ :: after) =
      visits path method host params (before ++ ⟨p, bindings⟩ :: after) := by
  induction before generalizing params with
  | nil => simp only [List.nil_append, visits, h, Entry.reached]
  | cons e before ih =>
    simp only [List.cons_append, visits]
    split
    · exact ih params
    · rw [ih]

/-- A dispatch depends on the table only through the calls that the table leads to. -/
theorem Dispatcher.dispatch_congr (d : Dispatcher α) {table : Table α} {r : Request}
    (h : Dispatcher.calls { d with table } r = d.calls r) (act : Call α → Except String Unit) :
    Dispatcher.dispatch { d with table } act r = d.dispatch act r := by
  have hlast : Dispatcher.lastResort { d with table } r = d.lastResort r := rfl
  unfold dispatch
  rw [h, hlast]

namespace Pattern

open Template

section Congruence

variable {template template' : String} {catalog catalog' : Catalog} {p q : Pattern}

/-- The names of a template open groups in its text, and no others do unless a class opens them. -/
theorem groupNames_source (hp : compile template catalog = .ok p) :
    p.names.Sublist (groupNames p.source.toList) ∧
      (Template.nests template catalog = false → groupNames p.source.toList = p.names) := by
  obtain ⟨-, hsource⟩ := (compile_eq_ok_iff ..).1 hp
  obtain ⟨tokens, hscan, -, heq⟩ := (source_eq_ok_iff ..).1 hsource
  obtain ⟨htext, hnames⟩ := Source.mk.inj heq
  have hwf := ((scan_eq_ok_iff ..).1 hscan).isWellFormed
  rw [htext, hnames]
  refine ⟨sublist_groupNames hwf, fun hnests => groupNames_sourceText hwf ?_⟩
  rw [Template.nests, hscan] at hnests
  simpa [Except.toOption] using hnests

theorem mem_captures_iff {path name value : String} {c : List (String × String)}
    (hc : p.captures path = some c) :
    (name, value) ∈ c ↔ name ∈ p.names ∧ ∃ trace, p.regex.trace? path.toList = some trace ∧
      (p.regex.groupNamed? name).bind (Regex.groupText path.toList trace) = some value := by
  obtain ⟨trace, htrace, rfl⟩ := Option.map_eq_some_iff.1 hc
  rw [List.mem_filterMap]
  constructor
  · rintro ⟨n, hn, hvalue⟩
    obtain ⟨group, hgroup, hmap⟩ := Option.bind_eq_some_iff.1 hvalue
    obtain ⟨v, hv, heq⟩ := Option.map_eq_some_iff.1 hmap
    cases heq
    exact ⟨hn, trace, htrace, Option.bind_eq_some_iff.2 ⟨group, hgroup, hv⟩⟩
  · rintro ⟨hn, trace', htrace', hvalue⟩
    cases htrace'.symm.trans htrace
    obtain ⟨group, hgroup, hv⟩ := Option.bind_eq_some_iff.1 hvalue
    exact ⟨name, hn, Option.bind_eq_some_iff.2 ⟨group, hgroup, by rw [hv]; rfl⟩⟩

/-- Equal patterns match the same paths with the same groups, and give a parameter that both declare
the same value. Unless a class opens a group with a name, they declare the same parameters, and it
makes no difference to any dispatch which of them an entry has. -/
theorem captures_congr (hp : compile template catalog = .ok p)
    (hq : compile template' catalog' = .ok q) (h : (p == q) = true) :
    (∀ path, p.isMatch path = q.isMatch path ∧ p.allCaptures path = q.allCaptures path ∧
      ∀ c c', p.captures path = some c → q.captures path = some c' →
        ∀ name value, name ∈ p.names → name ∈ q.names →
          ((name, value) ∈ c ↔ (name, value) ∈ c')) ∧
    (p.names.Sublist (groupNames p.source.toList) ∧
      q.names.Sublist (groupNames p.source.toList)) ∧
    (Template.nests template catalog = false → Template.nests template' catalog' = false →
      p.names = q.names ∧ (∀ path, p.captures path = q.captures path) ∧
      ∀ (d : Dispatcher α) (before after : List (Entry α)) (bindings : List (Binding α)),
        d.table.entries = before ++ ⟨p, bindings⟩ :: after →
        ∀ act r, Dispatcher.dispatch
            { d with table := { d.table with entries := before ++ ⟨q, bindings⟩ :: after } } act r =
          d.dispatch act r) := by
  have hsource := beq_iff.1 h
  have hregex := regex_eq_of_source_eq hsource
  obtain ⟨hpnames, hpall⟩ := groupNames_source hp
  obtain ⟨hqnames, hqall⟩ := groupNames_source hq
  rw [← hsource] at hqnames hqall
  refine ⟨fun path => ⟨isMatch_of_source_eq hsource path, ?_, ?_⟩, ⟨hpnames, hqnames⟩, ?_⟩
  · rw [allCaptures, allCaptures, hregex]
  · intro c c' hc hc' name value hnp hnq
    rw [mem_captures_iff hc, mem_captures_iff hc', hregex]
    simp only [hnp, hnq, true_and]
  · intro hnests hnests'
    have hnames : p.names = q.names := (hpall hnests).symm.trans (hqall hnests')
    have hcaptures : ∀ path, p.captures path = q.captures path := fun path => by
      rw [captures, captures, hregex, hnames]
    refine ⟨hnames, hcaptures, fun d before after bindings hentries act r => ?_⟩
    have hvisits := visits_congr hcaptures (d.options.strip r.path) r.method r.host .empty
      before after bindings
    rw [← hentries] at hvisits
    refine d.dispatch_congr ?_ act
    simp only [Dispatcher.calls, Dispatcher.context, hvisits]

/-- A class may stand in the template or come from the catalog. -/
theorem captures_congr_inline :
    ∃ p q, compile "/a[b+:n]" .builtin = .ok p ∧
      compile "/a[u:n]" (Catalog.builtin.insert "u" "b+") = .ok q ∧ (p == q) = true ∧
      Template.nests "/a[b+:n]" .builtin = false ∧
      Template.nests "/a[u:n]" (Catalog.builtin.insert "u" "b+") = false ∧
      p.template ≠ q.template ∧ p.names = q.names ∧ ∀ path, p.captures path = q.captures path := by
  have hok : ∀ template catalog, (compile template catalog).toOption.isSome = true →
      ∃ p, compile template catalog = .ok p := by
    intro template catalog h
    cases hp : compile template catalog with
    | error e => simp [hp, Except.toOption] at h
    | ok p => exact ⟨p, rfl⟩
  obtain ⟨p, hp⟩ := hok "/a[b+:n]" .builtin (by decide +kernel)
  obtain ⟨q, hq⟩ := hok "/a[u:n]" (Catalog.builtin.insert "u" "b+") (by decide +kernel)
  obtain ⟨hptemplate, hpsource⟩ := (compile_eq_ok_iff ..).1 hp
  obtain ⟨hqtemplate, hqsource⟩ := (compile_eq_ok_iff ..).1 hq
  have hsource : Template.source "/a[b+:n]" .builtin =
      Template.source "/a[u:n]" (Catalog.builtin.insert "u" "b+") := by decide +kernel
  rw [hpsource, hqsource] at hsource
  have hbeq : (p == q) = true := beq_iff.2 (Source.mk.inj (Except.ok.inj hsource)).1
  have hnests : Template.nests "/a[b+:n]" .builtin = false := by decide +kernel
  have hnests' : Template.nests "/a[u:n]" (Catalog.builtin.insert "u" "b+") = false := by
    decide +kernel
  obtain ⟨hnames, hcaptures, -⟩ :=
    (captures_congr (α := Nat) hp hq hbeq).2.2 hnests hnests'
  refine ⟨p, q, hp, hq, hbeq, hnests, hnests', ?_, hnames, hcaptures⟩
  rw [hptemplate, hqtemplate]
  decide

/-- A class that opens a group with a name of its own stands for a parameter in the text, but not in
the template. Which of two equal patterns comes first then settles what the handler is given. -/
theorem beq_not_congr :
    let p := (compile "[?P<x>b]" .builtin).toOption.get (by decide +kernel)
    let q := (compile "[b:x]" .builtin).toOption.get (by decide +kernel)
    let given (log : List (Registration Nat)) : List (Option String) :=
      (Dispatcher.calls ⟨.ofLog log, {}, none⟩ ⟨"GET", "b", "", .empty, {}⟩).map fun c =>
        c.params.bind (·.get? "x")
    (p == q) = true ∧ p.names = [] ∧ q.names = ["x"] ∧
      p.captures "b" = some [] ∧ q.captures "b" = some [("x", "b")] ∧
      given [⟨p, .any, [], 1⟩, ⟨q, .any, [], 2⟩] = [none] ∧
      given [⟨q, .any, [], 1⟩, ⟨p, .any, [], 2⟩] = [some "b"] := by
  refine ⟨?_, ?_, ?_, ?_, ?_, ?_, ?_⟩
  all_goals decide +kernel

end Congruence

end Pattern

end Signpost
