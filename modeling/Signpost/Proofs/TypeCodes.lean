import Signpost.Options
import Signpost.Proofs.Grammar
import Signpost.Proofs.Language

/-!
# Codes of placeholder types

Settings refuse placeholder types whose codes have a character that ends a code in a template. So
each type of settings that can be used can be written into a template, and a type that is refused
for a colon or a closing bracket is one that no template can name.

## Main definitions

* `Template.textTokens`: the tokens of literal text.

## Main statements

* `Template.source_between`: the source of a placeholder between literal texts.
* `Options.resolve_catalog`: the classes of the types of settings.
* `Options.source_matchTypes`: types that can be used are written into templates, and types with
  codes that no template can name make no difference.
-/

namespace Signpost

namespace Template

/-! ## One placeholder -/

/-- The tokens of literal text, which are none if it is empty. -/
def textTokens (text : String) : List Token := if text = "" then [] else [.literal text]

theorem scans_textTokens {text : String} (h : '[' ∉ text.toList) :
    Scans text.toList (textTokens text) := by
  obtain ⟨tokens, htokens⟩ := Scans.exists_of_notMem h
  rw [htokens.eq_literal h] at htokens
  simpa [textTokens] using htokens

@[simp] theorem filterMap_name?_textTokens (text : String) :
    (textTokens text).filterMap Token.name? = [] := by
  unfold textTokens
  split <;> rfl

theorem join_source_textTokens (catalog : Catalog) (text : String) :
    String.join ((textTokens text).map (Token.source catalog)) = Regex.escape text := by
  unfold textTokens
  split
  · next h => rw [h]; rfl
  · simp [Token.source]

variable {code a b : String} {name : Option String}

/-- A placeholder between literal texts is the one placeholder of its template. -/
theorem scan_between (ht : (Token.placeholder code name).IsWellFormed) (ha : '[' ∉ a.toList)
    (hb : '[' ∉ b.toList) :
    scan (a ++ (Token.placeholder code name).render ++ b) =
      .ok (textTokens a ++ .placeholder code name :: textTokens b) := by
  have hrest := ht.scans_placeholder (scans_textTokens hb)
  rw [scan_eq_ok_iff, String.toList_append, String.toList_append, List.append_assoc]
  by_cases hempty : a = ""
  · subst hempty
    exact hrest
  · have hscans := Scans.literals (by simpa using hempty) ha (by simp [Token.IsLiteral]) hrest
    simpa [textTokens, hempty] using hscans

theorem source_between (ht : (Token.placeholder code name).IsWellFormed) (ha : '[' ∉ a.toList)
    (hb : '[' ∉ b.toList) (catalog : Catalog) :
    source (a ++ (Token.placeholder code name).render ++ b) catalog =
      .ok ⟨"^" ++ Regex.escape a ++ (Token.placeholder code name).source catalog ++
        Regex.escape b ++ "$", name.toList⟩ := by
  refine (source_eq_ok_iff ..).2 ⟨_, scan_between ht ha hb, ?_, ?_⟩
  · cases name <;> simp [Token.name?]
  · rw [sourceText, List.map_append, List.map_cons, String.join_append, String.join_cons,
      join_source_textTokens, join_source_textTokens]
    cases name <;> simp [Token.name?, String.append_assoc]

/-! ## Catalogs that differ where no template looks -/

/-- A template looks up the codes of its placeholders alone. -/
theorem source_congr {catalog catalog' : Catalog} {template : String}
    (h : ∀ tokens, scan template = .ok tokens → ∀ code name, .placeholder code name ∈ tokens →
      catalog'.resolve code = catalog.resolve code) :
    source template catalog' = source template catalog := by
  unfold source
  cases hscan : scan template with
  | error fault => simp [bind, Except.bind]
  | ok tokens =>
    have hsources : tokens.map (Token.source catalog') = tokens.map (Token.source catalog) := by
      refine List.map_congr_left fun t ht => ?_
      cases t with
      | literal text => rfl
      | placeholder code name => cases name <;> simp [Token.source, h tokens hscan code _ ht]
    simp [Source.ofTokens, hsources, bind, Except.bind]

end Template

theorem Pattern.compile_congr {catalog catalog' : Template.Catalog} {template : String}
    (h : Template.source template catalog' = Template.source template catalog) :
    compile template catalog' = compile template catalog := by
  unfold compile
  rw [h]

namespace Options

open Template (Token IsName)

/-! ## Types of settings -/

theorem typeError?_eq_none {types : List (String × String)} (h : typeError? types = none) :
    ∀ e ∈ types, ':' ∉ e.1.toList ∧ ']' ∉ e.1.toList ∧ '[' ∉ e.1.toList ∧ e.2 ≠ "" := by
  fun_induction typeError? types <;> grind

/-- Among types that can be used, one whose code has a character that ends a code is found. -/
theorem typeError?_insertEntry {types : List (String × String)} (h : typeError? types = none)
    {code : String} (hcode : ':' ∈ code.toList ∨ ']' ∈ code.toList) (cls : String) :
    typeError? (Dict.insertEntry code cls types) = some (.typeCodeInvalid code) := by
  fun_induction Dict.insertEntry code cls types <;> grind [typeError?]

theorem validate_eq_ok_iff (o : Options) : o.validate = .ok () ↔ o.error? = none := by
  unfold validate
  cases o.error? <;> simp

theorem typeError?_of_validate {o : Options} (h : o.validate = .ok ()) :
    typeError? o.matchTypes.entries = none := by
  rw [validate_eq_ok_iff] at h
  unfold error? at h
  grind

theorem validate_apply_matchType {o : Options} (h : o.validate = .ok ()) {code : String}
    (hcode : ':' ∈ code.toList ∨ ']' ∈ code.toList) (cls : String) :
    (o.apply (.matchType code cls)).validate = .error (.typeCodeInvalid code) := by
  have htypes := typeError?_insertEntry (typeError?_of_validate h) hcode cls
  rw [validate_eq_ok_iff] at h
  have herror : (o.apply (.matchType code cls)).error? = some (.typeCodeInvalid code) := by
    unfold error? at h ⊢
    simp only [apply, Dict.insert, htypes]
    grind
  rw [validate, herror]

/-- The class of a code is that of the settings, or else the builtin one, or else the code. -/
theorem resolve_catalog (o : Options) (code : String) :
    o.catalog.resolve code =
      ((o.matchTypes.get? code).or (Template.Catalog.builtin.classes.get? code)).getD code := by
  rw [← Dict.get?_insertAll_entries]
  rfl

theorem resolve_catalog_of_mem {o : Options} {code cls : String}
    (h : (code, cls) ∈ o.matchTypes.entries) : o.catalog.resolve code = cls := by
  rw [resolve_catalog, Dict.get?_of_mem h, Option.some_or, Option.getD_some]

theorem resolve_catalog_apply_matchType (o : Options) {code code' : String} (h : code' ≠ code)
    (cls : String) :
    (o.apply (.matchType code cls)).catalog.resolve code' = o.catalog.resolve code' := by
  rw [resolve_catalog, resolve_catalog, apply, Dict.get?_insert, if_neg h]

/-- Each placeholder type of settings that can be used can be written into a template, with a name
or without one and between any literal texts, and its class is that of the settings, also if the
code is a builtin one. No placeholder of any template has a code with a colon or a closing bracket
in it. Settings with a type of such a code cannot be used, and if they could, the type would make no
difference. -/
theorem source_matchTypes (o : Options) :
    (o.validate = .ok () → ∀ code cls, (code, cls) ∈ o.matchTypes.entries →
      ∀ name a b : String, IsName name → '[' ∉ a.toList → '[' ∉ b.toList →
        Template.source (a ++ "[" ++ code ++ ":" ++ name ++ "]" ++ b) o.catalog =
            .ok ⟨"^" ++ Regex.escape a ++ "(?P<" ++ name ++ ">" ++ cls ++ ")" ++
              Regex.escape b ++ "$", [name]⟩ ∧
          Template.source (a ++ "[" ++ code ++ "]" ++ b) o.catalog =
            .ok ⟨"^" ++ Regex.escape a ++ "(" ++ cls ++ ")" ++ Regex.escape b ++ "$", []⟩) ∧
    ∀ code, ':' ∈ code.toList ∨ ']' ∈ code.toList →
      (∀ template tokens, Template.scan template = .ok tokens →
        ∀ name, Token.placeholder code name ∉ tokens) ∧
      (∀ cls, (code, cls) ∈ o.matchTypes.entries → o.validate ≠ .ok ()) ∧
      ∀ cls, (o.validate = .ok () →
          (o.apply (.matchType code cls)).validate = .error (.typeCodeInvalid code)) ∧
        ∀ template,
          Template.source template (o.apply (.matchType code cls)).catalog =
            Template.source template o.catalog ∧
          Pattern.compile template (o.apply (.matchType code cls)).catalog =
            Pattern.compile template o.catalog := by
  constructor
  · intro hvalid code cls hmem name a b hname ha hb
    obtain ⟨hcolon, hclose, -, -⟩ := typeError?_eq_none (typeError?_of_validate hvalid) _ hmem
    have hclass := resolve_catalog_of_mem hmem
    constructor
    · have hwf : (Token.placeholder code (some name)).IsWellFormed :=
        ⟨hcolon, hclose, by simpa using hname⟩
      have hsource := Template.source_between hwf ha hb o.catalog
      simpa [Token.render, Token.source, hclass, String.append_assoc] using hsource
    · have hwf : (Token.placeholder code none).IsWellFormed := ⟨hcolon, hclose, by simp⟩
      have hsource := Template.source_between hwf ha hb o.catalog
      simpa [Token.render, Token.source, hclass, String.append_assoc] using hsource
  · intro code hcode
    have hscan : ∀ template tokens, Template.scan template = .ok tokens →
        ∀ name, Token.placeholder code name ∉ tokens := by
      intro template tokens htokens name hmem
      obtain ⟨hcolon, hclose, -⟩ :=
        ((Template.scan_eq_ok_iff ..).1 htokens).isWellFormed _ hmem
      exact hcode.elim hcolon hclose
    refine ⟨hscan, fun cls hmem hvalid => ?_, fun cls => ⟨fun hvalid =>
      validate_apply_matchType hvalid hcode cls, fun template => ?_⟩⟩
    · obtain ⟨hcolon, hclose, -, -⟩ := typeError?_eq_none (typeError?_of_validate hvalid) _ hmem
      exact hcode.elim hcolon hclose
    · have hsource : Template.source template (o.apply (.matchType code cls)).catalog =
          Template.source template o.catalog := by
        refine Template.source_congr fun tokens htokens code' name hmem => ?_
        have hne : code' ≠ code := by
          rintro rfl
          exact hscan template tokens htokens name hmem
        exact resolve_catalog_apply_matchType o hne cls
      exact ⟨hsource, Pattern.compile_congr hsource⟩

/-- A builtin code with another class, behind text with a closing bracket. -/
theorem source_matchTypes_overridden :
    let o : Options := { matchTypes := .ofList [("*", "x+"), ("é|", "[é]")] }
    o.validate = .ok () ∧
      Template.source ("/a]" ++ "[" ++ "*" ++ ":" ++ "n" ++ "]" ++ ".") o.catalog =
        .ok ⟨"^" ++ Regex.escape "/a]" ++ "(?P<" ++ "n" ++ ">" ++ "x+" ++ ")" ++
          Regex.escape "." ++ "$", ["n"]⟩ ∧
      (o.apply (.matchType "a]b" "c")).validate = .error (.typeCodeInvalid "a]b") := by
  intro o
  have hvalid : o.validate = .ok () := by decide +kernel
  have hname : IsName "n" := ⟨'n', [], rfl, by decide, by simp⟩
  obtain ⟨hwritten, hrefused⟩ := source_matchTypes o
  have hsource := (hwritten hvalid "*" "x+" (by decide +kernel) "n" "/a]" "." hname
    (by decide) (by decide)).1
  exact ⟨hvalid, hsource, ((hrefused "a]b" (by decide)).2.2 "c").1 hvalid⟩

end Options

end Signpost
