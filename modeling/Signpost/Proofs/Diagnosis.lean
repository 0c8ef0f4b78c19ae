import Signpost.Proofs.Grammar
import Signpost.Proofs.Language

/-!
# Diagnosis of templates

Which fault a template is refused for, said without the scanner. The template is cut at an opening
bracket: what stands in front of it is a template of its own, and what stands behind it begins with
a faulty placeholder. There is one such cut at most, so the fault is the leftmost one.

## Main definitions

* `FaultyName`, `FaultyInner`, `FaultyPlaceholder`: what is wrong with a parameter name, with the
  text between two brackets, and with a placeholder that opens somewhere.
* `FirstFault`: the cut of a template in front of its fault.

## Main statements

* `placeholderOf_eq_error_iff`: the faults of the text between two brackets.
* `Scans.scanText_append_eq_error_iff`: behind a template of its own the scanner starts anew.
* `FaultyPlaceholder.not_scans`: a text that ends within or behind a faulty placeholder is refused.
* `scan_eq_error_iff_firstFault`: the fault that a template is refused for.
-/

namespace Signpost.Template

/-! ## Faults -/

/-- What is wrong with a parameter name. Of several faults the first one listed is found. -/
inductive FaultyName (name : List Char) : Fault → Prop
  | colon (hcolon : ':' ∈ name) : FaultyName name (.nameContainsColon (String.ofList name))
  | start {c : Char} {cs : List Char} (hcolon : ':' ∉ name) (hname : name = c :: cs)
      (hc : isNameStart c = false) : FaultyName name (.nameStart (String.ofList name) c)
  | character {c d : Char} {before after : List Char} (hcolon : ':' ∉ name)
      (hname : name = c :: (before ++ d :: after)) (hc : isNameStart c = true)
      (hbefore : ∀ x ∈ before, isNameRest x = true) (hd : isNameRest d = false) :
      FaultyName name (.nameCharacter (String.ofList name) d)

/-- What is wrong with the text between two brackets: the name behind its first colon. -/
inductive FaultyInner : List Char → Fault → Prop
  | nameEmpty {code : List Char} (hcode : ':' ∉ code) :
      FaultyInner (code ++ [':']) (.nameEmpty (String.ofList ('[' :: (code ++ [':']) ++ [']'])))
  | name {code name : List Char} {fault : Fault} (hcode : ':' ∉ code)
      (hname : FaultyName name fault) : FaultyInner (code ++ ':' :: name) fault

/-- What is wrong with a placeholder that opens at byte `start` with a text behind its bracket. -/
inductive FaultyPlaceholder (start : Nat) : List Char → Fault → Prop
  | unterminated {rest : List Char} (hrest : ']' ∉ rest) :
      FaultyPlaceholder start rest (.unterminated start)
  | inner {inner later : List Char} {fault : Fault} (hclose : ']' ∉ inner)
      (hinner : FaultyInner inner fault) : FaultyPlaceholder start (inner ++ ']' :: later) fault

/-- The template is `lead`, which is one of its own, and behind it a placeholder with the fault. -/
structure FirstFault (template lead rest : String) (fault : Fault) : Prop where
  split : template = lead ++ "[" ++ rest
  accepted : ∃ tokens, scan lead = .ok tokens
  faulty : FaultyPlaceholder lead.utf8ByteSize rest.toList fault

/-! ## Names and placeholders -/

theorem FaultyName.ne_nil {name : List Char} {fault : Fault} (h : FaultyName name fault) :
    name ≠ [] := by
  rintro rfl
  cases h with
  | colon hcolon => cases hcolon
  | start _ hname => cases hname
  | character _ hname => cases hname

theorem nameFault?_eq_some_iff (name : List Char) (fault : Fault) :
    nameFault? name = some fault ↔ FaultyName name fault := by
  constructor
  · intro h
    unfold nameFault? at h
    split at h
    · next hcolon =>
      cases h
      exact .colon hcolon
    · next hcolon =>
      split at h
      · cases h
      · next c cs =>
        split at h
        · next hc =>
          obtain ⟨d, hfind, rfl⟩ := Option.map_eq_some_iff.1 h
          obtain ⟨hd, before, after, rfl, hbefore⟩ := List.find?_eq_some_iff_append.1 hfind
          exact .character hcolon rfl hc (by simpa using hbefore) (by simpa using hd)
        · next hc =>
          cases h
          exact .start hcolon rfl (by simpa using hc)
  · intro h
    cases h with
    | colon hcolon => simp [nameFault?, hcolon]
    | start hcolon hname hc =>
      subst hname
      simp [nameFault?, hcolon, hc]
    | @character c d before after hcolon hname hc hbefore hd =>
      subst hname
      have hfind : (before ++ d :: after).find? (fun x => !isNameRest x) = some d :=
        List.find?_eq_some_iff_append.2
          ⟨by simpa using hd, before, after, rfl, by simpa using hbefore⟩
      simp [nameFault?, hcolon, hc, hfind]

/-- What the text between two brackets comes to if it has a colon. -/
theorem placeholderOf_colon {code : List Char} (hcode : ':' ∉ code) (name : List Char) :
    placeholderOf (code ++ ':' :: name) =
      if name = [] then .error (.nameEmpty (String.ofList ('[' :: (code ++ [':']) ++ [']'])))
      else match nameFault? name with
        | some fault => .error fault
        | none => .ok (.placeholder (String.ofList code) (some (String.ofList name))) := by
  have hall := bne_colon_of_notMem hcode
  have htake : (code ++ ':' :: name).takeWhile (· != ':') = code := by
    rw [List.takeWhile_append_of_pos hall]
    simp
  have hdrop : (code ++ ':' :: name).dropWhile (· != ':') = ':' :: name := by
    rw [List.dropWhile_append_of_pos hall]
    simp
  simp only [placeholderOf, htake, hdrop]
  cases name <;> rfl

/-- The text between two brackets is refused for the faults of the name behind its first colon, and
for no other. -/
theorem placeholderOf_eq_error_iff (inner : List Char) (fault : Fault) :
    placeholderOf inner = .error fault ↔ FaultyInner inner fault := by
  constructor
  · intro h
    by_cases hcolon : ':' ∈ inner
    · obtain ⟨code, name, rfl, hcode⟩ := List.eq_append_cons_of_mem hcolon
      rw [placeholderOf_colon hcode] at h
      split at h
      · next hname =>
        subst hname
        cases h
        exact .nameEmpty hcode
      · split at h
        · next hfault =>
          cases h
          exact .name hcode ((nameFault?_eq_some_iff ..).1 hfault)
        · cases h
    · rw [placeholderOf_of_notMem hcolon] at h
      cases h
  · intro h
    cases h with
    | nameEmpty hcode => rw [placeholderOf_colon hcode, if_pos rfl]
    | name hcode hname =>
      rw [placeholderOf_colon hcode, if_neg hname.ne_nil, (nameFault?_eq_some_iff ..).2 hname]

/-! ## The scanner at a placeholder -/

section Scanner

variable {pos : Nat} {inner lead rest : List Char} {fault : Fault}

theorem scanInner_of_notMem (pos : Nat) (h : ']' ∉ rest) : scanInner pos rest = none := by
  induction rest generalizing pos with
  | nil => rfl
  | cons c cs ih =>
    obtain ⟨hc, hcs⟩ := not_or.1 (mt List.mem_cons.2 h)
    simp [scanInner, Ne.symm hc, ih _ hcs]

theorem scanText_of_notMem (pos : Nat) (h : ']' ∉ rest) :
    scanText pos ('[' :: rest) = .error (.unterminated pos) := by
  simp [scanText, scanInner_of_notMem _ h]

/-- A placeholder is refused, or else it is left behind. -/
theorem scanText_placeholder_eq_error_iff (h : ']' ∉ inner) :
    scanText pos ('[' :: (inner ++ ']' :: rest)) = .error fault ↔
      placeholderOf inner = .error fault ∨ (∃ t, placeholderOf inner = .ok t) ∧
        scanText (pos + (String.ofList ('[' :: (inner ++ [']']))).utf8ByteSize) rest =
          .error fault := by
  have hsize : pos + '['.utf8Size + (String.ofList inner).utf8ByteSize + 1 =
      pos + (String.ofList ('[' :: (inner ++ [']']))).utf8ByteSize := by
    have hchar : '['.utf8Size = 1 := rfl
    have hopen : "[".utf8ByteSize = 1 := rfl
    have hclose : "]".utf8ByteSize = 1 := rfl
    simp [hchar, hopen, hclose]
    omega
  rw [scanText, if_pos rfl, scanInner_append _ h, hsize]
  generalize scanText (pos + (String.ofList ('[' :: (inner ++ [']']))).utf8ByteSize) rest = later
  dsimp only
  cases placeholderOf inner with
  | error e => simp [bind, Except.bind]
  | ok t => cases later <;> simp [bind, Except.bind, pure, Except.pure]

theorem scanText_literal_eq_error_iff {c : Char} (hc : c ≠ '[') :
    scanText pos (c :: rest) = .error fault ↔
      scanText (pos + c.utf8Size) rest = .error fault := by
  simp only [scanText, if_neg hc]
  cases scanText (pos + c.utf8Size) rest <;> simp [Except.map]

/-- Behind a template of its own the scanner starts anew. -/
theorem Scans.scanText_append_eq_error_iff {tokens : List Token} (h : Scans lead tokens)
    (pos : Nat) (rest : List Char) (fault : Fault) :
    scanText pos (lead ++ rest) = .error fault ↔
      scanText (pos + (String.ofList lead).utf8ByteSize) rest = .error fault := by
  induction h generalizing pos with
  | nil => simp
  | literal hc _ ih =>
    rw [List.cons_append, scanText_literal_eq_error_iff hc, ih]
    simp [Nat.add_assoc]
  | @placeholder inner cs t tokens hinner ht _ ih =>
    rw [List.cons_append, List.append_assoc, List.cons_append,
      scanText_placeholder_eq_error_iff hinner, ih, ht]
    simp [Nat.add_assoc]

/-- What stands behind a template of its own in another one is a template, too. -/
theorem Scans.exists_of_append {tokens both : List Token} (h : Scans lead tokens)
    (hboth : Scans (lead ++ rest) both) : ∃ behind, Scans rest behind := by
  have hok := (scanText_eq_ok_iff 0 _ _).2 hboth
  cases hrest : Template.scanText (0 + (String.ofList lead).utf8ByteSize) rest with
  | ok behind => exact ⟨behind, (scanText_eq_ok_iff ..).1 hrest⟩
  | error fault =>
    rw [(h.scanText_append_eq_error_iff 0 rest fault).2 hrest] at hok
    cases hok

namespace FaultyPlaceholder

theorem scanText (h : FaultyPlaceholder pos rest fault) :
    scanText pos ('[' :: rest) = .error fault := by
  cases h with
  | unterminated hrest => exact scanText_of_notMem pos hrest
  | inner hclose hinner =>
    exact (scanText_placeholder_eq_error_iff hclose).2
      (.inl ((placeholderOf_eq_error_iff ..).2 hinner))

/-- A text that ends within or behind a faulty placeholder is refused. -/
theorem not_scans (h : FaultyPlaceholder pos rest fault) {start : List Char}
    (hstart : start <+: rest) (tokens : List Token) : ¬Scans ('[' :: start) tokens := by
  intro hscans
  have hok := (scanText_eq_ok_iff 0 _ _).2 hscans
  by_cases hclose : ']' ∈ start
  · cases h with
    | unterminated hrest => exact hrest (hstart.subset hclose)
    | @inner inner later fault hinner hfaulty =>
      -- The first closing bracket of the start is that of the whole.
      obtain ⟨before, after, rfl, hbefore⟩ := List.eq_append_cons_of_mem hclose
      obtain ⟨behind, hbehind⟩ := hstart
      have hfirst := scanInner_append 0 hbefore (after ++ behind)
      rw [← List.cons_append, ← List.append_assoc, hbehind, scanInner_append 0 hinner] at hfirst
      obtain ⟨rfl, -⟩ := Prod.mk.inj (Option.some.inj hfirst)
      have herror : Template.scanText 0 ('[' :: (inner ++ ']' :: after)) = .error fault :=
        (scanText_placeholder_eq_error_iff hinner).2
          (.inl ((placeholderOf_eq_error_iff ..).2 hfaulty))
      rw [hok] at herror
      cases herror
  · rw [scanText_of_notMem 0 hclose] at hok
    cases hok

/-- More text changes nothing, unless the placeholder was not closed. -/
theorem append (h : FaultyPlaceholder pos rest fault) (hfault : ∀ n, fault ≠ .unterminated n)
    (later : List Char) : FaultyPlaceholder pos (rest ++ later) fault := by
  cases h with
  | unterminated => exact absurd rfl (hfault pos)
  | inner hclose hinner =>
    rw [List.append_assoc, List.cons_append]
    exact .inner hclose hinner

/-- Names that are repeated are no matter of one placeholder. -/
theorem ne_nameRepeated (h : FaultyPlaceholder pos rest fault) (name : String) :
    fault ≠ .nameRepeated name := by
  rintro rfl
  cases h with
  | inner _ hinner =>
    cases hinner with
    | name _ hname => cases hname

end FaultyPlaceholder

/-- Where the scanner stops there is a faulty placeholder, behind a template of its own. -/
theorem exists_of_scanText_eq_error {pos : Nat} {cs : List Char}
    (h : scanText pos cs = .error fault) :
    ∃ lead tokens rest, cs = lead ++ '[' :: rest ∧ Scans lead tokens ∧
      FaultyPlaceholder (pos + (String.ofList lead).utf8ByteSize) rest fault := by
  -- A placeholder is left behind in one step, so the recursion is on the length of the text.
  match cs with
  | [] => cases h
  | c :: cs =>
    by_cases hc : c = '['
    · subst hc
      by_cases hclose : ']' ∈ cs
      · obtain ⟨inner, later, rfl, hinner⟩ := List.eq_append_cons_of_mem hclose
        obtain herror | ⟨⟨t, ht⟩, hlater⟩ := (scanText_placeholder_eq_error_iff hinner).1 h
        · have hfaulty := (placeholderOf_eq_error_iff ..).1 herror
          exact ⟨[], [], _, rfl, .nil, by simpa using .inner hinner hfaulty⟩
        · obtain ⟨lead, tokens, rest, rfl, hlead, hfaulty⟩ := exists_of_scanText_eq_error hlater
          refine ⟨_, _, rest, ?_, .placeholder hinner ht hlead, ?_⟩
          · simp
          · simpa [Nat.add_assoc] using hfaulty
      · rw [scanText_of_notMem pos hclose] at h
        cases h
        exact ⟨[], [], cs, rfl, .nil, by simpa using .unterminated hclose⟩
    · rw [scanText_literal_eq_error_iff hc] at h
      obtain ⟨lead, tokens, rest, rfl, hlead, hfaulty⟩ := exists_of_scanText_eq_error h
      refine ⟨_, _, rest, rfl, .literal hc hlead, ?_⟩
      simpa [Nat.add_assoc] using hfaulty
termination_by cs.length

end Scanner

/-! ## The first fault -/

theorem FirstFault.toList_eq {template lead rest : String} {fault : Fault}
    (h : FirstFault template lead rest fault) :
    template.toList = lead.toList ++ '[' :: rest.toList := by
  rw [h.split]
  simp

theorem FirstFault.scans {template lead rest : String} {fault : Fault}
    (h : FirstFault template lead rest fault) : ∃ tokens, Scans lead.toList tokens := by
  obtain ⟨tokens, htokens⟩ := h.accepted
  exact ⟨tokens, (scan_eq_ok_iff ..).1 htokens⟩

/-- A template is refused for its first fault. -/
theorem scan_eq_error_iff (template : String) (fault : Fault) :
    scan template = .error fault ↔ ∃ lead rest, FirstFault template lead rest fault := by
  constructor
  · intro h
    obtain ⟨lead, tokens, rest, htemplate, hlead, hfaulty⟩ := exists_of_scanText_eq_error h
    refine ⟨String.ofList lead, String.ofList rest, ?_, ⟨tokens, ?_⟩, ?_⟩
    · rw [← String.toList_inj, htemplate]
      simp
    · rwa [scan_eq_ok_iff, String.toList_ofList]
    · simpa using hfaulty
  · rintro ⟨lead, rest, h⟩
    obtain ⟨tokens, hlead⟩ := h.scans
    rw [scan, h.toList_eq, hlead.scanText_append_eq_error_iff, String.ofList_toList, Nat.zero_add]
    exact h.faulty.scanText

/-- What is accepted in front of one fault does not reach behind another. -/
theorem FirstFault.length_lead_le {template lead rest lead' rest' : String} {fault fault' : Fault}
    (h : FirstFault template lead rest fault) (h' : FirstFault template lead' rest' fault') :
    lead'.toList.length ≤ lead.toList.length := by
  have heq := h.toList_eq.symm.trans h'.toList_eq
  obtain ⟨more, hlead, hrest⟩ | ⟨more, hlead, -⟩ := List.append_eq_append_iff.1 heq
  · cases more with
    | nil => simp [hlead]
    | cons c more =>
      obtain ⟨tokens, hscans⟩ := h.scans
      obtain ⟨tokens', hscans'⟩ := h'.scans
      rw [hlead] at hscans'
      obtain ⟨behind, hbehind⟩ := hscans.exists_of_append hscans'
      obtain ⟨rfl, hmore⟩ := List.cons.inj hrest
      exact absurd hbehind (h.faulty.not_scans ⟨_, hmore.symm⟩ behind)
  · simp [hlead]

/-- A template has one first fault at most. -/
theorem FirstFault.unique {template lead rest lead' rest' : String} {fault fault' : Fault}
    (h : FirstFault template lead rest fault) (h' : FirstFault template lead' rest' fault') :
    lead = lead' ∧ rest = rest' ∧ fault = fault' := by
  have hlength := Nat.le_antisymm (h'.length_lead_le h) (h.length_lead_le h')
  obtain ⟨hlead, hrest⟩ := List.append_inj (h.toList_eq.symm.trans h'.toList_eq) hlength
  have hscan := (scan_eq_error_iff template fault).2 ⟨lead, rest, h⟩
  have hscan' := (scan_eq_error_iff template fault').2 ⟨lead', rest', h'⟩
  exact ⟨String.toList_inj.1 hlead, String.toList_inj.1 (List.cons.inj hrest).2,
    Except.error.inj (hscan.symm.trans hscan')⟩

/-- More text behind a template leaves its first fault, unless that is a placeholder that is never
closed. -/
theorem FirstFault.append {template lead rest : String} {fault : Fault}
    (h : FirstFault template lead rest fault) (hfault : ∀ n, fault ≠ .unterminated n)
    (later : String) : FirstFault (template ++ later) lead (rest ++ later) fault where
  split := by rw [h.split, String.append_assoc]
  accepted := h.accepted
  faulty := by simpa using h.faulty.append hfault later.toList

/-! ## Repeated names -/

theorem firstRepeat?_go_eq_some_iff (seen names : List String) (name : String) :
    firstRepeat?.go seen names = some name ↔ ∃ before after, names = before ++ name :: after ∧
      before.Nodup ∧ (∀ n ∈ before, n ∉ seen) ∧ (name ∈ before ∨ name ∈ seen) := by
  induction names generalizing seen with
  | nil => simp [firstRepeat?.go]
  | cons n names ih =>
    rw [firstRepeat?.go]
    split
    · next hseen =>
      constructor
      · intro h
        cases h
        exact ⟨[], names, rfl, .nil, by simp, .inr hseen⟩
      · rintro ⟨before, after, hnames, -, hbefore, -⟩
        cases before with
        | nil => rw [(List.cons.inj hnames).1]
        | cons m before =>
          obtain ⟨rfl, -⟩ := List.cons.inj hnames
          exact absurd hseen (hbefore n List.mem_cons_self)
    · next hseen =>
      rw [ih]
      constructor
      · rintro ⟨before, after, rfl, hnodup, hbefore, hname⟩
        refine ⟨n :: before, after, rfl, List.nodup_cons.2 ⟨?_, hnodup⟩, ?_, ?_⟩ <;> grind
      · rintro ⟨before, after, hnames, hnodup, hbefore, hname⟩
        cases before with
        | nil => grind
        | cons m before =>
          obtain ⟨rfl, rfl⟩ := List.cons.inj hnames
          obtain ⟨hn, hnodup⟩ := List.nodup_cons.1 hnodup
          refine ⟨before, after, rfl, hnodup, ?_, ?_⟩ <;> grind

/-- The first name that occurred before: no other one occurs twice in front of it. -/
theorem firstRepeat?_eq_some_iff (names : List String) (name : String) :
    firstRepeat? names = some name ↔
      ∃ before after, names = before ++ name :: after ∧ before.Nodup ∧ name ∈ before := by
  simp [firstRepeat?, firstRepeat?_go_eq_some_iff]

theorem source_of_scan_eq_error {template : String} {fault : Fault}
    (h : scan template = .error fault) (catalog : Catalog) :
    source template catalog = .error ⟨template, fault⟩ := by
  simp [source, h, bind, Except.bind, Except.mapError]

theorem compile_of_scan_eq_error {template : String} {fault : Fault}
    (h : scan template = .error fault) (catalog : Catalog) :
    Pattern.compile template catalog = .error ⟨template, fault⟩ :=
  Pattern.compile_of_source_eq_error (source_of_scan_eq_error h catalog)

/-- A template is refused for a repeated name only if it can be scanned. -/
theorem source_eq_error_nameRepeated_iff (template quoted name : String) (catalog : Catalog) :
    source template catalog = .error ⟨quoted, .nameRepeated name⟩ ↔
      quoted = template ∧ ∃ tokens, scan template = .ok tokens ∧
        firstRepeat? (tokens.filterMap Token.name?) = some name := by
  cases hscan : scan template with
  | error fault =>
    obtain ⟨lead, rest, hfirst⟩ := (scan_eq_error_iff ..).1 hscan
    have hne := hfirst.faulty.ne_nameRepeated name
    simp [source_of_scan_eq_error hscan, hne]
  | ok tokens =>
    cases hrepeat : firstRepeat? (tokens.filterMap Token.name?) <;>
      simp [source, hscan, hrepeat, Source.ofTokens, bind, Except.bind, Except.mapError, eq_comm]

/-- Why a template cannot be scanned. It is cut in front of its first fault, in one way only: what
stands in front is a template of its own, and the placeholder behind it settles the fault. A fault
of a name stays whatever is put behind the template. The template has no source for the same fault,
and it is refused for a repeated name only if it can be scanned. -/
theorem scan_eq_error_iff_firstFault (template : String) :
    (∀ fault, scan template = .error fault ↔ ∃ lead rest, FirstFault template lead rest fault) ∧
    (∀ lead rest fault lead' rest' fault', FirstFault template lead rest fault →
      FirstFault template lead' rest' fault' → lead = lead' ∧ rest = rest' ∧ fault = fault') ∧
    (∀ fault, scan template = .error fault → (∀ start, fault ≠ .unterminated start) →
      ∀ later, scan (template ++ later) = .error fault) ∧
    (∀ fault, scan template = .error fault → ∀ catalog,
      source template catalog = .error ⟨template, fault⟩ ∧
        Pattern.compile template catalog = .error ⟨template, fault⟩) ∧
    ∀ catalog quoted name, source template catalog = .error ⟨quoted, .nameRepeated name⟩ ↔
      quoted = template ∧ ∃ tokens before after, scan template = .ok tokens ∧
        tokens.filterMap Token.name? = before ++ name :: after ∧ before.Nodup ∧
          name ∈ before := by
  refine ⟨scan_eq_error_iff template, ?_, ?_, ?_, ?_⟩
  · intro lead rest fault lead' rest' fault' h h'
    exact h.unique h'
  · intro fault hscan hfault later
    obtain ⟨lead, rest, h⟩ := (scan_eq_error_iff ..).1 hscan
    exact (scan_eq_error_iff ..).2 ⟨lead, _, h.append hfault later⟩
  · intro fault hscan catalog
    exact ⟨source_of_scan_eq_error hscan catalog, compile_of_scan_eq_error hscan catalog⟩
  · intro catalog quoted name
    rw [source_eq_error_nameRepeated_iff]
    simp only [firstRepeat?_eq_some_iff, exists_and_left]

/-- The placeholder behind the two letters is accepted, and of the two faulty ones the first counts,
in which the first colon ends the code. -/
example : scan "éa[i:id]/[:1:b]x[y" = .error (.nameContainsColon "1:b") := by
  decide +kernel

end Signpost.Template
