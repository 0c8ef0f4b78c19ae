import Mathlib.Data.List.TakeWhile
import Signpost.Template.Source

/-!
# Scanning

The scanner as a relation between a text and its tokens, with one rule for each way in which a
template goes on. What is true of every scanned list of tokens is proved by induction on the
relation.

## Main definitions

* `IsName`: the parameter names.
* `Token.IsWellFormed`: what a token must be so that it can be scanned.
* `Scans`: the tokens of a text.

## Main statements

* `eq_of_placeholderOf`: the placeholders that the text between two brackets can be.
* `scanText_eq_ok_iff`: the scanner follows the relation.
* `Scans.isWellFormed`, `Scans.toList_render`: scanned tokens are well formed and lose nothing.
-/

namespace Signpost.Template

/-- A parameter name: a letter or an underscore, and letters, digits and underscores behind it. -/
def IsName (name : String) : Prop :=
  ∃ c cs, name.toList = c :: cs ∧ isNameStart c = true ∧ ∀ d ∈ cs, isNameRest d = true

/-- A literal is not empty and opens no placeholder; a placeholder is not cut off by its code, and
its name is one. -/
def Token.IsWellFormed : Token → Prop
  | .literal text => text ≠ "" ∧ '[' ∉ text.toList
  | .placeholder code name =>
    ':' ∉ code.toList ∧ ']' ∉ code.toList ∧ ∀ n, name = some n → IsName n

theorem isNameRest_of_isNameStart {c : Char} (h : isNameStart c = true) : isNameRest c = true := by
  simp only [isNameStart, isNameRest, Char.isAlphanum, Bool.or_eq_true] at h ⊢
  exact h.imp_left .inl

theorem colon_notMem_of_isNameRest {cs : List Char} (h : ∀ d ∈ cs, isNameRest d = true) :
    ':' ∉ cs := fun hmem => absurd (h _ hmem) (by decide)

/-- A text has no fault as a name exactly if it is empty or a name. -/
theorem nameFault?_eq_none_iff (c : Char) (cs : List Char) :
    nameFault? (c :: cs) = none ↔ isNameStart c = true ∧ ∀ d ∈ cs, isNameRest d = true := by
  constructor
  · intro h
    simp only [nameFault?] at h
    split at h
    · cases h
    split at h
    · next hc =>
      rw [Option.map_eq_none_iff, List.find?_eq_none] at h
      exact ⟨hc, fun d hd => by simpa using h d hd⟩
    · cases h
  · rintro ⟨hc, hcs⟩
    have hcolon : ':' ∉ c :: cs := colon_notMem_of_isNameRest fun d hd => by
      rcases List.mem_cons.1 hd with rfl | hd
      · exact isNameRest_of_isNameStart hc
      · exact hcs d hd
    simpa [nameFault?, hcolon, hc] using hcs

/-- The text between two brackets is a code, or a code, a colon and a name. -/
theorem eq_of_placeholderOf {inner : List Char} {t : Token} (h : placeholderOf inner = .ok t) :
    (':' ∉ inner ∧ t = .placeholder (String.ofList inner) none) ∨
      ∃ code name, inner = code ++ ':' :: name ∧ ':' ∉ code ∧ IsName (String.ofList name) ∧
        t = .placeholder (String.ofList code) (some (String.ofList name)) := by
  have hsplit := List.takeWhile_append_dropWhile (p := (· != ':')) (l := inner)
  have hcode : ':' ∉ inner.takeWhile (· != ':') := fun hmem => by
    simpa using List.mem_takeWhile_imp hmem
  simp only [placeholderOf] at h
  split at h
  · next hdrop =>
    rw [hdrop, List.append_nil] at hsplit
    cases h
    rw [hsplit] at hcode ⊢
    exact .inl ⟨hcode, rfl⟩
  · cases h
  · next colon name hne hdrop =>
    have hcolon : colon = ':' := by
      have hhead := List.head?_dropWhile_not (· != ':') inner
      rw [hdrop] at hhead
      simpa using hhead
    subst hcolon
    split at h
    · cases h
    · next hfault =>
      cases h
      obtain ⟨d, ds, rfl⟩ := List.exists_cons_of_ne_nil hne
      have hname := (nameFault?_eq_none_iff d ds).1 hfault
      exact .inr ⟨_, d :: ds, by rw [← hdrop, hsplit], hcode,
        ⟨d, ds, String.toList_ofList, hname⟩, rfl⟩

/-- The tokens of a text, by the ways in which it goes on. -/
inductive Scans : List Char → List Token → Prop
  | nil : Scans [] []
  | literal {c : Char} {cs : List Char} {tokens : List Token} (hc : c ≠ '[')
      (rest : Scans cs tokens) : Scans (c :: cs) (consLiteral c tokens)
  | placeholder {inner cs : List Char} {t : Token} {tokens : List Token} (hinner : ']' ∉ inner)
      (ht : placeholderOf inner = .ok t) (rest : Scans cs tokens) :
      Scans ('[' :: (inner ++ ']' :: cs)) (t :: tokens)

theorem scanInner_eq_some {pos : Nat} {cs inner : List Char} {r : Except Fault (List Token)}
    (h : scanInner pos cs = some (inner, r)) :
    ∃ next rest, cs = inner ++ ']' :: rest ∧ ']' ∉ inner ∧ r = scanText next rest := by
  induction cs generalizing pos inner with
  | nil => simp [scanInner] at h
  | cons c cs ih =>
    simp only [scanInner] at h
    split at h
    · next hc =>
      cases h
      exact ⟨_, cs, by rw [hc]; rfl, List.not_mem_nil, rfl⟩
    · next hc =>
      obtain ⟨⟨inner', r'⟩, hinner, heq⟩ := Option.map_eq_some_iff.1 h
      cases heq
      obtain ⟨next, rest, rfl, hmem, rfl⟩ := ih hinner
      exact ⟨next, rest, rfl, by simp [Ne.symm hc, hmem], rfl⟩

/-- Inside a placeholder the scanner goes on behind the first closing bracket. -/
theorem scanInner_append (pos : Nat) {inner : List Char} (h : ']' ∉ inner) (rest : List Char) :
    scanInner pos (inner ++ ']' :: rest) =
      some (inner, scanText (pos + (String.ofList inner).utf8ByteSize + 1) rest) := by
  induction inner generalizing pos with
  | nil => rfl
  | cons c cs ih =>
    obtain ⟨hc, hcs⟩ := not_or.1 (mt List.mem_cons.2 h)
    simp [scanInner, Ne.symm hc, ih (pos + c.utf8Size) hcs, Nat.add_assoc]

theorem scans_of_scanText {pos : Nat} {cs : List Char} {tokens : List Token}
    (h : scanText pos cs = .ok tokens) : Scans cs tokens := by
  -- A placeholder is left behind in one step, so the recursion is on the length of the text.
  match cs with
  | [] =>
    cases h
    exact .nil
  | c :: cs =>
    simp only [scanText] at h
    split at h
    · next hc =>
      subst hc
      split at h
      · cases h
      · next inner r hinner =>
        obtain ⟨next, rest, rfl, hmem, rfl⟩ := scanInner_eq_some hinner
        cases ht : placeholderOf inner with
        | error e => simp [ht, bind, Except.bind] at h
        | ok t =>
          cases hrest : scanText next rest with
          | error e => simp [ht, hrest, bind, Except.bind] at h
          | ok later =>
            simp only [ht, hrest, bind, Except.bind, pure, Except.pure] at h
            cases h
            exact .placeholder hmem ht (scans_of_scanText hrest)
    · next hc =>
      cases hrest : scanText (pos + c.utf8Size) cs with
      | error e => simp [hrest, Except.map] at h
      | ok later =>
        simp only [hrest, Except.map] at h
        cases h
        exact .literal hc (scans_of_scanText hrest)
termination_by cs.length

/-- The scanner follows the relation, wherever the text starts. -/
theorem scanText_eq_ok_iff (pos : Nat) (cs : List Char) (tokens : List Token) :
    scanText pos cs = .ok tokens ↔ Scans cs tokens := by
  refine ⟨scans_of_scanText, fun h => ?_⟩
  induction h generalizing pos with
  | nil => rfl
  | literal hc rest ih => simp [scanText, hc, ih, Except.map]
  | @placeholder inner cs t tokens hinner ht rest ih =>
    simp [scanText, scanInner_append _ hinner, ht, ih, bind, Except.bind, pure, Except.pure]

theorem scan_eq_ok_iff (template : String) (tokens : List Token) :
    scan template = .ok tokens ↔ Scans template.toList tokens := scanText_eq_ok_iff ..

theorem toList_render_cons (t : Token) (tokens : List Token) :
    (render (t :: tokens)).toList = t.render.toList ++ (render tokens).toList := by
  simp [render]

theorem toList_render_consLiteral (c : Char) (tokens : List Token) :
    (render (consLiteral c tokens)).toList = c :: (render tokens).toList := by
  unfold consLiteral
  split <;> simp [render, Token.render]

theorem Token.toList_render_of_placeholderOf {inner : List Char} {t : Token}
    (h : placeholderOf inner = .ok t) : t.render.toList = '[' :: (inner ++ [']']) := by
  rcases eq_of_placeholderOf h with ⟨-, rfl⟩ | ⟨code, name, rfl, -, -, rfl⟩ <;>
    simp [Token.render]

namespace Scans

/-- The tokens of a text lose nothing of it. -/
theorem toList_render {cs : List Char} {tokens : List Token} (h : Scans cs tokens) :
    (render tokens).toList = cs := by
  induction h with
  | nil => rfl
  | literal hc rest ih => rw [toList_render_consLiteral, ih]
  | placeholder hinner ht rest ih =>
    rw [toList_render_cons, Token.toList_render_of_placeholderOf ht, ih]
    simp

theorem isWellFormed {cs : List Char} {tokens : List Token} (h : Scans cs tokens) :
    ∀ t ∈ tokens, t.IsWellFormed := by
  induction h with
  | nil => simp
  | @literal c cs tokens hc rest ih =>
    unfold consLiteral
    split
    · next text later =>
      have htext : (Token.literal text).IsWellFormed := ih _ (List.mem_cons_self ..)
      intro t ht
      rcases List.mem_cons.1 ht with rfl | ht
      · exact ⟨by simp, by simp [Ne.symm hc, htext.2]⟩
      · exact ih t (List.mem_cons_of_mem _ ht)
    · intro t ht
      rcases List.mem_cons.1 ht with rfl | ht
      · exact ⟨by simp, by simp [Ne.symm hc]⟩
      · exact ih t ht
  | @placeholder inner cs t tokens hinner ht rest ih =>
    intro t' ht'
    rcases List.mem_cons.1 ht' with rfl | ht'
    · rcases eq_of_placeholderOf ht with ⟨hcolon, rfl⟩ | ⟨code, name, rfl, hcolon, hname, rfl⟩
      · exact ⟨by simpa using hcolon, by simpa using hinner, by simp⟩
      · exact ⟨by simpa using hcolon, by simpa using (not_or.1 (mt List.mem_append.2 hinner)).1,
          by simpa using hname⟩
    · exact ih t' ht'

/-- A text that opens no placeholder is a literal, or nothing at all. -/
theorem eq_literal {cs : List Char} {tokens : List Token} (h : Scans cs tokens) (hcs : '[' ∉ cs) :
    tokens = if cs = [] then [] else [.literal (String.ofList cs)] := by
  induction h with
  | nil => rfl
  | @literal c cs tokens hc rest ih =>
    rw [ih (fun hmem => hcs (List.mem_cons_of_mem _ hmem)), if_neg (List.cons_ne_nil c cs)]
    split
    · next hnil => simp [consLiteral, hnil]
    · simp [consLiteral]
  | placeholder => simp at hcs

/-- A text that opens no placeholder can be scanned. -/
theorem exists_of_notMem {cs : List Char} (h : '[' ∉ cs) : ∃ tokens, Scans cs tokens := by
  induction cs with
  | nil => exact ⟨[], .nil⟩
  | cons c cs ih =>
    obtain ⟨hc, hcs⟩ := not_or.1 (mt List.mem_cons.2 h)
    obtain ⟨tokens, htokens⟩ := ih hcs
    exact ⟨_, .literal (Ne.symm hc) htokens⟩

end Scans

theorem render_of_scan {template : String} {tokens : List Token}
    (h : scan template = .ok tokens) : render tokens = template :=
  String.toList_inj.1 ((scan_eq_ok_iff ..).1 h).toList_render

end Signpost.Template
