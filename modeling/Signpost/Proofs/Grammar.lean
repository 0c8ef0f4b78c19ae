import Mathlib.Data.List.Chain
import Signpost.Proofs.Scanning

/-!
# Grammar of templates

The lists of tokens that a template can be cut into, said without the scanner: each token can stand
in a template, and literal text is not cut in two. The text of such a list is scanned to that list
again, and nothing else can be scanned.

## Main definitions

* `IsTokenization`: the lists of tokens that a template can be cut into.

## Main statements

* `placeholderOf_eq_ok_iff`: the placeholders that the text between two brackets can be.
* `Scans.isTokenization`, `IsTokenization.scans`: scanned tokens are such a list, and the text of
  such a list is scanned to it.
* `scan_eq_ok_iff_isTokenization`: a template can be scanned exactly if it is the text of such a
  list, which is the only one.
-/

namespace Signpost.Template

/-- The token is literal text. -/
def Token.IsLiteral : Token → Prop
  | .literal _ => True
  | .placeholder _ _ => False

/-- The lists of tokens that a template can be cut into. -/
structure IsTokenization (tokens : List Token) : Prop where
  /-- Each token can stand in a template. -/
  wellFormed : ∀ t ∈ tokens, t.IsWellFormed
  /-- No two literals stand side by side. -/
  apart : tokens.IsChain fun t u => ¬(t.IsLiteral ∧ u.IsLiteral)

section Placeholder

variable {code : List Char}

theorem bne_colon_of_notMem (hcode : ':' ∉ code) : ∀ c ∈ code, (c != ':') = true := by
  intro c hc
  exact bne_iff_ne.2 fun heq => hcode (heq ▸ hc)

theorem placeholderOf_of_notMem (hcode : ':' ∉ code) :
    placeholderOf code = .ok (.placeholder (String.ofList code) none) := by
  have hall := bne_colon_of_notMem hcode
  simp only [placeholderOf, List.takeWhile_eq_self_iff.2 hall, List.dropWhile_eq_nil_iff.2 hall]

theorem placeholderOf_append {name : String} (hcode : ':' ∉ code) (hname : IsName name) :
    placeholderOf (code ++ ':' :: name.toList) =
      .ok (.placeholder (String.ofList code) (some name)) := by
  obtain ⟨c, cs, hcs, hc, hrest⟩ := hname
  have hall := bne_colon_of_notMem hcode
  have hfault : nameFault? (c :: cs) = none := (nameFault?_eq_none_iff c cs).2 ⟨hc, hrest⟩
  have htake : (code ++ ':' :: name.toList).takeWhile (· != ':') = code := by
    rw [List.takeWhile_append_of_pos hall]
    simp
  have hdrop : (code ++ ':' :: name.toList).dropWhile (· != ':') = ':' :: c :: cs := by
    rw [List.dropWhile_append_of_pos hall, hcs]
    simp
  simp only [placeholderOf, htake, hdrop, hfault]
  rw [← hcs, String.ofList_toList]

/-- The text between two brackets is a placeholder exactly if it is a code without a colon, with or
without a colon and a name behind it. -/
theorem placeholderOf_eq_ok_iff (inner : List Char) (t : Token) :
    placeholderOf inner = .ok t ↔
      ∃ code, ':' ∉ code ∧
        ((inner = code ∧ t = .placeholder (String.ofList code) none) ∨
          ∃ name, IsName name ∧ inner = code ++ ':' :: name.toList ∧
            t = .placeholder (String.ofList code) (some name)) := by
  constructor
  · intro h
    obtain ⟨hcode, rfl⟩ | ⟨code, name, rfl, hcode, hname, rfl⟩ := eq_of_placeholderOf h
    · exact ⟨inner, hcode, .inl ⟨rfl, rfl⟩⟩
    · exact ⟨code, hcode, .inr ⟨_, hname, by rw [String.toList_ofList], rfl⟩⟩
  · rintro ⟨code, hcode, ⟨rfl, rfl⟩ | ⟨name, hname, rfl, rfl⟩⟩
    · exact placeholderOf_of_notMem hcode
    · exact placeholderOf_append hcode hname

end Placeholder

theorem bracket_notMem_of_isName {name : String} (h : IsName name) : ']' ∉ name.toList := by
  obtain ⟨c, cs, hcs, hc, hrest⟩ := h
  rw [hcs]
  intro hmem
  obtain rfl | hmem := List.mem_cons.1 hmem
  · exact absurd hc (by decide)
  · exact absurd (hrest _ hmem) (by decide)

/-- In front of anything but a literal, one more character is a literal of its own. -/
theorem consLiteral_of_not_isLiteral {c : Char} {tokens : List Token}
    (h : ∀ t ∈ tokens.head?, ¬t.IsLiteral) :
    consLiteral c tokens = .literal (String.singleton c) :: tokens := by
  unfold consLiteral
  split
  · next text later => exact absurd trivial (h (.literal text) rfl)
  · rfl

namespace Scans

/-- A run of literal text is scanned as one literal, if no literal follows it. -/
theorem literals {text cs : List Char} {tokens : List Token} (hne : text ≠ [])
    (hopen : '[' ∉ text) (hhead : ∀ t ∈ tokens.head?, ¬t.IsLiteral) (rest : Scans cs tokens) :
    Scans (text ++ cs) (.literal (String.ofList text) :: tokens) := by
  induction text with
  | nil => exact absurd rfl hne
  | cons c text ih =>
    obtain ⟨hc, htext⟩ := not_or.1 (mt List.mem_cons.2 hopen)
    by_cases hnil : text = []
    · subst hnil
      have hscans : Scans (c :: cs) (consLiteral c tokens) := .literal (Ne.symm hc) rest
      rwa [consLiteral_of_not_isLiteral hhead] at hscans
    · have hscans := Scans.literal (Ne.symm hc) (ih hnil htext)
      simpa [consLiteral] using hscans

/-- No two literals stand side by side among the tokens of a text. -/
theorem apart {cs : List Char} {tokens : List Token} (h : Scans cs tokens) :
    tokens.IsChain fun t u => ¬(t.IsLiteral ∧ u.IsLiteral) := by
  induction h with
  | nil => exact .nil
  | @literal c cs tokens hc rest ih =>
    -- Only the kind of the head counts, and a literal head stays one.
    unfold consLiteral
    split
    · next text later =>
      exact List.isChain_cons.2 ⟨fun u hu hboth => (List.isChain_cons.1 ih).1 u hu
        ⟨trivial, hboth.2⟩, (List.isChain_cons.1 ih).2⟩
    · next hother =>
      refine List.isChain_cons.2 ⟨fun u hu hboth => ?_, ih⟩
      cases u with
      | literal text =>
        obtain ⟨later, rfl⟩ : ∃ later, tokens = .literal text :: later :=
          List.head?_eq_some_iff.1 hu
        exact hother text later rfl
      | placeholder code name => exact hboth.2
  | @placeholder inner cs t tokens hinner ht rest ih =>
    refine List.isChain_cons.2 ⟨fun u hu hboth => ?_, ih⟩
    obtain ⟨code, -, ⟨-, rfl⟩ | ⟨name, -, -, rfl⟩⟩ := (placeholderOf_eq_ok_iff inner t).1 ht
    · exact hboth.1
    · exact hboth.1

theorem isTokenization {cs : List Char} {tokens : List Token} (h : Scans cs tokens) :
    IsTokenization tokens := ⟨h.isWellFormed, h.apart⟩

end Scans

/-- The text of a placeholder is scanned to it, whatever follows. -/
theorem Token.IsWellFormed.scans_placeholder {code : String} {name : Option String}
    {cs : List Char} {tokens : List Token} (h : (Token.placeholder code name).IsWellFormed)
    (rest : Scans cs tokens) :
    Scans ((Token.placeholder code name).render.toList ++ cs)
      (.placeholder code name :: tokens) := by
  obtain ⟨hcolon, hclose, hname⟩ := h
  cases name with
  | none =>
    have ht := placeholderOf_of_notMem hcolon
    rw [String.ofList_toList] at ht
    simpa [Token.render] using Scans.placeholder hclose ht rest
  | some name =>
    have hinner : ']' ∉ code.toList ++ ':' :: name.toList := by
      have := bracket_notMem_of_isName (hname name rfl)
      simp [hclose, this]
    have ht := placeholderOf_append hcolon (hname name rfl)
    rw [String.ofList_toList] at ht
    simpa [Token.render] using Scans.placeholder hinner ht rest

/-- The text of such a list is scanned to it. -/
theorem IsTokenization.scans {tokens : List Token} (h : IsTokenization tokens) :
    Scans (render tokens).toList tokens := by
  obtain ⟨hwf, hapart⟩ := h
  induction tokens with
  | nil => exact .nil
  | cons t tokens ih =>
    obtain ⟨hhead, htail⟩ := List.isChain_cons.1 hapart
    have ht : t.IsWellFormed := hwf t (List.mem_cons_self ..)
    have rest := ih (fun u hu => hwf u (List.mem_cons_of_mem _ hu)) htail
    rw [toList_render_cons]
    cases t with
    | literal text =>
      obtain ⟨hne, hopen⟩ := ht
      have hscans := Scans.literals (by simpa using hne) hopen
        (fun u hu hlit => hhead u hu ⟨trivial, hlit⟩) rest
      rwa [String.ofList_toList] at hscans
    | placeholder code name => exact ht.scans_placeholder rest

/-- A template is scanned to a list of tokens exactly if the list can make up a template and has the
template as its text. So a template can be scanned exactly if it is the text of such a list, and no
two such lists have the same text. -/
theorem scan_eq_ok_iff_isTokenization (template : String) :
    (∀ tokens, scan template = .ok tokens ↔ IsTokenization tokens ∧ render tokens = template) ∧
    ((∃ tokens, scan template = .ok tokens) ↔
      ∃ tokens, IsTokenization tokens ∧ render tokens = template) ∧
    ∀ tokens tokens', IsTokenization tokens → IsTokenization tokens' →
      render tokens = template → render tokens' = template → tokens = tokens' := by
  have hiff : ∀ tokens,
      scan template = .ok tokens ↔ IsTokenization tokens ∧ render tokens = template := by
    intro tokens
    constructor
    · intro h
      exact ⟨((scan_eq_ok_iff ..).1 h).isTokenization, render_of_scan h⟩
    · rintro ⟨h, rfl⟩
      exact (scan_eq_ok_iff ..).2 h.scans
  refine ⟨hiff, exists_congr hiff, fun tokens tokens' h h' hr hr' => ?_⟩
  have hscan := (hiff tokens).2 ⟨h, hr⟩
  have hscan' := (hiff tokens').2 ⟨h', hr'⟩
  exact Except.ok.inj (hscan.symm.trans hscan')

/-- A closing bracket outside a placeholder and an opening one inside are text like any other. -/
example : scan "é]b[[:x][]" =
    .ok [.literal "é]b", .placeholder "[" (some "x"), .placeholder "" none] := by
  decide +kernel

end Signpost.Template
