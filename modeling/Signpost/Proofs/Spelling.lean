import Signpost.Proofs.Chains
import Signpost.Proofs.Enclosure
import Signpost.Proofs.Language

/-!
# Templates with classes of their own

A class may be written into a template as it is, or given to a catalog, without being looked at:
only the whole expression is. Where the class of each placeholder stands alone, the literal text of
the template stays literal, and all of a path is matched. Where one does not, neither needs to be
so.

## Main definitions

* `Template.Token.standsAlone`: the group around the class of a placeholder stands alone.
* `Template.Token.Spells`: the pieces of a path that a token may stand for.

## Main statements

* `Template.read_of_standsAlone`: what the text of an expression is read as.
* `Template.Token.standsAlone_of_builtin`: the builtin codes stand alone.
* `Pattern.isMatch_spells`: a path that matches falls into a piece for each token.
* `Pattern.not_spells`: a class that closes the group around it undoes the ends of a template.
-/

namespace Signpost.Regex.Leads

variable {st st' whole : State} {cs cs' : List Char}

/-- A text that is read to its end is read from wherever reading gets to. -/
theorem steps_of_steps (h : Leads st cs st' cs') {n : Nat} (hn : cs.length ≤ n)
    (hread : steps n st cs = .ok whole) : ∃ m, cs'.length ≤ m ∧ steps m st' cs' = .ok whole := by
  obtain ⟨k, hk, hsteps⟩ := h
  refine ⟨n - k, by omega, ?_⟩
  rw [← hsteps, Nat.sub_add_cancel (by omega)]
  exact hread

end Signpost.Regex.Leads

namespace Signpost.Template

open Regex

variable {catalog : Catalog}

/-- The group around the class of a placeholder stands alone. -/
def Token.standsAlone (catalog : Catalog) : Token → Bool
  | .literal _ => true
  | .placeholder code name =>
    Regex.standsAlone ((Token.placeholder code name).source catalog).toList

/-- What a token is read as: characters, if it is literal text. -/
def Token.IsReadAs (t : Token) (items : List Item) : Prop :=
  ∀ text, t = .literal text → items = text.toList.map .char

/-- Within the text of an expression, each token that stands alone adds its own items. -/
theorem leads_sources {tokens : List Token} (halone : ∀ t ∈ tokens, t.standsAlone catalog = true)
    {rest : List Char} (hrest : Inert rest) {st whole : State} (hflags : st.flags = {})
    (hstack : st.stack = []) {n : Nat}
    (hn : ((tokens.flatMap fun t => (t.source catalog).toList) ++ rest).length ≤ n)
    (hread : steps n st ((tokens.flatMap fun t => (t.source catalog).toList) ++ rest) = .ok whole) :
    ∃ parts count names, List.Forall₂ Token.IsReadAs tokens parts ∧
      Leads st ((tokens.flatMap fun t => (t.source catalog).toList) ++ rest)
        ⟨{}, ⟨parts.flatten.reverse ++ st.level.items, st.level.branches⟩, [], count, names⟩
        rest := by
  induction tokens generalizing st n with
  | nil =>
    obtain ⟨flags, level, stack, count, names⟩ := st
    cases hflags
    cases hstack
    exact ⟨[], count, names, .nil, .refl ..⟩
  | cons t tokens ih =>
    rw [List.flatMap_cons, List.append_assoc] at hn hread ⊢
    have hinert : Inert ((tokens.flatMap fun t => (t.source catalog).toList) ++ rest) :=
      ⟨head?_sources_append (by decide) (by decide) (by decide) tokens hrest.1,
        head?_sources_append (by decide) (by decide) (by decide) tokens hrest.2⟩
    -- The token adds some items, and reading goes on behind it.
    have htoken : ∃ items count names, t.IsReadAs items ∧
        Leads st ((t.source catalog).toList ++
            ((tokens.flatMap fun t => (t.source catalog).toList) ++ rest))
          ⟨{}, ⟨items.reverse ++ st.level.items, st.level.branches⟩, [], count, names⟩
          ((tokens.flatMap fun t => (t.source catalog).toList) ++ rest) := by
      cases t with
      | literal text =>
        have hleads := leads_escape hflags text.toList
          ((tokens.flatMap fun t => (t.source catalog).toList) ++ rest)
        rw [← toList_escape] at hleads
        obtain ⟨flags, level, stack, count, names⟩ := st
        cases hflags
        cases hstack
        exact ⟨text.toList.map .char, count, names, fun _ heq => by cases heq; rfl, hleads⟩
      | placeholder code name =>
        obtain ⟨items, count, names, hleads⟩ :=
          leads_of_standsAlone (halone _ List.mem_cons_self) hinert hflags hstack hn hread
        exact ⟨items.reverse, count, names, nofun, by rwa [List.reverse_reverse]⟩
    obtain ⟨items, count, names, hitems, hleads⟩ := htoken
    obtain ⟨m, hm, hread'⟩ := hleads.steps_of_steps hn hread
    obtain ⟨parts, count', names', hparts, hleads'⟩ :=
      ih (fun u hu => halone u (List.mem_cons_of_mem _ hu)) rfl rfl hm hread'
    refine ⟨items :: parts, count', names', .cons hitems hparts, ?_⟩
    simpa using hleads.trans hleads'

/-- The text of an expression is read as the items of its tokens, between the two ends. -/
theorem read_of_standsAlone {tokens : List Token}
    (halone : ∀ t ∈ tokens, t.standsAlone catalog = true) {reading : Reading}
    (h : Regex.read (sourceText catalog tokens) = .ok reading) :
    ∃ parts, List.Forall₂ Token.IsReadAs tokens parts ∧
      reading.expr = .seq (.look .textStart ::
        (parts.flatten.map Item.expr ++ [.look .textEnd])) := by
  obtain ⟨whole, hwhole, hfinish⟩ := bind_eq_ok.1 h
  rw [toList_sourceText] at hwhole
  let start : State := State.push {} { expr := .look .textStart }
  have hstart : Leads {} ('^' :: ((tokens.flatMap fun t => (t.source catalog).toList) ++ ['$']))
      start _ := .of_step rfl rfl (Nat.le_refl _)
  obtain ⟨n, hn, hread⟩ := hstart.steps_of_steps (Nat.le_refl _) hwhole
  obtain ⟨parts, count, names, hparts, hleads⟩ :=
    leads_sources halone ⟨by simp, by simp⟩ rfl rfl hn hread
  refine ⟨parts, hparts, ?_⟩
  let last : State :=
    ⟨{}, ⟨parts.flatten.reverse ++ start.level.items, start.level.branches⟩, [], count, names⟩
  have hend : Leads last ['$'] (last.push { expr := .look .textEnd }) [] :=
    .of_step rfl rfl (Nat.le_refl _)
  cases hwhole.symm.trans (((hstart.trans hleads).trans hend).steps_eq rfl)
  simp only [State.finish, last, start, State.push, Level.push] at hfinish
  split at hfinish
  · cases hfinish
  · cases hfinish
    simp [Level.close, Level.branch, Item.choice, Item.seq, Expr.choice]

/-- The builtin codes stand alone, whatever the name of the parameter. -/
theorem Token.standsAlone_of_builtin {t : Token} (ht : t.IsWellFormed) (hcode : t.HasBuiltinCode) :
    t.standsAlone .builtin = true := by
  cases t with
  | literal text => rfl
  | placeholder code name =>
    have hleads := @leads_placeholder code hcode name ht.2.2 {} rfl (by simp) []
    rw [List.append_nil] at hleads
    simp [Token.standsAlone, Regex.standsAlone, hleads.steps_eq rfl, State.push, Level.push]

/-- A piece of a path that a token may stand for: literal text stands for itself. -/
def Token.Spells (t : Token) (piece : String) : Prop := ∀ text, t = .literal text → piece = text

theorem cuts_chars {text : List Char} {links : List Link} {cs : List Char}
    (h : Cuts (text.map some ++ links) cs) : ∃ rest, cs = text ++ rest ∧ Cuts links rest := by
  induction text generalizing cs with
  | nil => exact ⟨cs, rfl, h⟩
  | cons c text ih =>
    obtain ⟨behind, rfl, hbehind⟩ := h
    obtain ⟨rest, rfl, hrest⟩ := ih hbehind
    exact ⟨rest, rfl, hrest⟩

theorem cuts_holes {n : Nat} {links : List Link} {cs : List Char}
    (h : Cuts (List.replicate n none ++ links) cs) : ∃ rest, rest <:+ cs ∧ Cuts links rest := by
  induction n generalizing cs with
  | zero => exact ⟨cs, List.suffix_rfl, h⟩
  | succ n ih =>
    obtain ⟨behind, hbehind, hcuts⟩ := h
    obtain ⟨rest, hrest, hcuts'⟩ := ih hcuts
    exact ⟨rest, hrest.trans hbehind, hcuts'⟩

/-- The items of a token are links, which take one piece of a text. -/
theorem Token.IsReadAs.exists_links {t : Token} {items : List Item} (h : t.IsReadAs items) :
    ∃ own, List.Forall₂ Link.IsOf (items.map Item.expr) own ∧
      ∀ {links cs}, Cuts (own ++ links) cs →
        ∃ piece rest, cs = String.toList piece ++ rest ∧ t.Spells piece ∧ Cuts links rest := by
  cases t with
  | literal text =>
    refine ⟨text.toList.map some, ?_, fun hcuts => ?_⟩
    · rw [h text rfl, List.map_map, List.forall₂_map_left_iff, List.forall₂_map_right_iff,
        List.forall₂_same]
      rintro c - _ ⟨⟩
      rfl
    · obtain ⟨rest, hrest, hcuts'⟩ := cuts_chars hcuts
      exact ⟨text, rest, hrest, fun _ heq => by cases heq; rfl, hcuts'⟩
  | placeholder code name =>
    refine ⟨List.replicate items.length none, ?_, fun hcuts => ?_⟩
    · induction items with
      | nil => exact .nil
      | cons i items ih => exact .cons nofun (ih nofun)
    · obtain ⟨rest, ⟨piece, rfl⟩, hcuts'⟩ := cuts_holes hcuts
      exact ⟨String.ofList piece, rest, by rw [String.toList_ofList], nofun, hcuts'⟩

/-- The items of tokens are links, which take a piece of a text for each token. -/
theorem exists_links {tokens : List Token} {parts : List (List Item)}
    (h : List.Forall₂ Token.IsReadAs tokens parts) :
    ∃ links, List.Forall₂ Link.IsOf (parts.flatten.map Item.expr) links ∧
      ∀ {cs}, Cuts links cs →
        ∃ pieces, cs = pieces.flatMap String.toList ∧ List.Forall₂ Token.Spells tokens pieces := by
  induction h with
  | nil => exact ⟨[], .nil, fun hcuts => ⟨[], hcuts, .nil⟩⟩
  | @cons t items tokens parts ht _ ih =>
    obtain ⟨own, hown, hpiece⟩ := ht.exists_links
    obtain ⟨links, hlinks, hpieces⟩ := ih
    refine ⟨own ++ links, ?_, fun hcuts => ?_⟩
    · rw [List.flatten_cons, List.map_append]
      exact List.rel_append hown hlinks
    · obtain ⟨piece, rest, rfl, hspells, hrest⟩ := hpiece hcuts
      obtain ⟨pieces, rfl, hall⟩ := hpieces hrest
      exact ⟨piece :: pieces, rfl, .cons hspells hall⟩

end Signpost.Template

namespace Signpost.Pattern

open Regex Template

/-- Where the class of each placeholder stands alone, a path that matches falls into pieces, one for
each token and nothing left over, and the literal text of the template stands for itself. -/
theorem isMatch_spells {template : String} {catalog : Catalog} {p : Pattern} {tokens : List Token}
    (hp : compile template catalog = .ok p) (hscan : scan template = .ok tokens)
    (halone : ∀ t ∈ tokens, t.standsAlone catalog = true) {path : String}
    (hmatch : p.isMatch path = true) :
    ∃ pieces, path = String.join pieces ∧ List.Forall₂ Token.Spells tokens pieces := by
  obtain ⟨-, hsource⟩ := (compile_eq_ok_iff ..).1 hp
  obtain ⟨tokens', hscan', -, heq⟩ := (source_eq_ok_iff ..).1 hsource
  cases hscan'.symm.trans hscan
  obtain ⟨htext, -⟩ := Source.mk.inj heq
  have hregex := p.regex_eq
  rw [htext] at hregex
  obtain ⟨reading, hread, hregex⟩ := bind_eq_ok.1 hregex
  obtain ⟨parts, hparts, hexpr⟩ := read_of_standsAlone halone hread
  obtain ⟨links, hlinks, hpieces⟩ := exists_links hparts
  split at hregex
  · cases hregex
  have hcircuit : p.regex.circuit = .cat (.look .textStart)
      (Expr.seq (parts.flatten.map Item.expr ++ [.look .textEnd])).circuit := by
    have hseq : ∀ es : List Expr, Expr.seq (.look .textStart :: (es ++ [.look .textEnd])) =
        .cat (.look .textStart) (.seq (es ++ [.look .textEnd])) := fun es => by
      cases es <;> rfl
    rw [← Except.ok.inj hregex, hexpr, hseq]
    rfl
  obtain ⟨-, -, -, hcuts⟩ := isAnchored_sweep (keeps_circuit [] hlinks) none 0 path.toList
  rw [← hcircuit] at hcuts
  obtain ⟨pieces, hpath, hspells⟩ := hpieces (hcuts hmatch).2
  exact ⟨pieces, String.toList_inj.1 (by rw [hpath, String.toList_join]), hspells⟩

/-- The alternatives of a class stand within the group around it. -/
theorem isMatch_spells_inline :
    let p := (compile "/x[a|b+]/y" .builtin).toOption.get (by decide +kernel)
    let tokens := [.literal "/x", .placeholder "a|b+" none, .literal "/y"]
    compile "/x[a|b+]/y" .builtin = .ok p ∧ scan "/x[a|b+]/y" = .ok tokens ∧
      (∀ t ∈ tokens, t.standsAlone .builtin = true) ∧ p.isMatch "/xbb/y" = true ∧
      ∃ pieces, "/xbb/y" = String.join pieces ∧ List.Forall₂ Token.Spells tokens pieces := by
  intro p tokens
  have hp : compile "/x[a|b+]/y" .builtin = .ok p := eq_ok_get _
  have hscan : scan "/x[a|b+]/y" = .ok tokens := by decide +kernel
  have halone : ∀ t ∈ tokens, t.standsAlone .builtin = true := by decide +kernel
  have hmatch : p.isMatch "/xbb/y" = true := by decide +kernel
  exact ⟨hp, hscan, halone, hmatch, isMatch_spells hp hscan halone hmatch⟩

/-- A class that closes the group around it, and opens another, makes two branches of the whole
expression: the first starts where a path starts, but ends anywhere. -/
theorem not_spells :
    let p := (compile "/x[a)|(b]/y" .builtin).toOption.get (by decide +kernel)
    let tokens := [.literal "/x", .placeholder "a)|(b" none, .literal "/y"]
    compile "/x[a)|(b]/y" .builtin = .ok p ∧ scan "/x[a)|(b]/y" = .ok tokens ∧
      p.isMatch "/xa-and-more" = true ∧
      ¬∃ pieces, "/xa-and-more" = String.join pieces ∧ List.Forall₂ Token.Spells tokens pieces := by
  intro p tokens
  refine ⟨eq_ok_get _, by decide +kernel, by decide +kernel, ?_⟩
  rintro ⟨pieces, hpath, hspells⟩
  obtain ⟨first, behind, -, hbehind, rfl⟩ := List.forall₂_cons_left_iff.1 hspells
  obtain ⟨value, rest, -, hrest, rfl⟩ := List.forall₂_cons_left_iff.1 hbehind
  obtain ⟨last, nothing, hlast, hnothing, rfl⟩ := List.forall₂_cons_left_iff.1 hrest
  obtain rfl := List.forall₂_nil_left_iff.1 hnothing
  -- The last piece is the last literal text, but the path ends otherwise.
  have hend := congrArg (fun s => s.toList.getLast?) hpath
  simp [hlast "/y" rfl] at hend

end Signpost.Pattern
