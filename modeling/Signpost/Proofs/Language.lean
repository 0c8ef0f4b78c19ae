import Signpost.Pattern
import Signpost.Proofs.Matching
import Signpost.Proofs.Room

/-!
# Languages of templates

Which templates compile, and which paths a compiled template matches.

## Main statements

* `Template.source_eq_ok_iff`: a template has a source if it can be scanned and repeats no name.
* `Pattern.regex_of_compile`: the expression of a template with builtin codes.
* `Pattern.compile_isMatch_builtin`: a template with builtin codes matches the paths that can be cut
  by its tokens.
-/

namespace Signpost

namespace Template

theorem firstRepeat?_go_eq_none_iff (seen names : List String) :
    firstRepeat?.go seen names = none ↔ names.Nodup ∧ ∀ n ∈ names, n ∉ seen := by
  induction names generalizing seen with
  | nil => simp [firstRepeat?.go]
  | cons name names ih =>
    rw [firstRepeat?.go]
    split
    · next hseen => simp [hseen]
    · next hseen =>
      rw [ih, List.nodup_cons]
      constructor
      · rintro ⟨hnodup, hfresh⟩
        refine ⟨⟨fun hmem => hfresh name hmem (List.mem_cons_self ..), hnodup⟩, ?_⟩
        intro n hn
        rcases List.mem_cons.1 hn with rfl | hn
        · exact hseen
        · exact fun hmem => hfresh n hn (List.mem_cons_of_mem _ hmem)
      · rintro ⟨⟨hname, hnodup⟩, hfresh⟩
        refine ⟨hnodup, fun n hn hmem => ?_⟩
        rcases List.mem_cons.1 hmem with rfl | hmem
        · exact hname hn
        · exact hfresh n (List.mem_cons_of_mem _ hn) hmem

theorem firstRepeat?_eq_none_iff (names : List String) :
    firstRepeat? names = none ↔ names.Nodup := by
  simp [firstRepeat?, firstRepeat?_go_eq_none_iff]

/-- The text of the expression of some tokens. -/
def sourceText (catalog : Catalog) (tokens : List Token) : String :=
  "^" ++ String.join (tokens.map (Token.source catalog)) ++ "$"

theorem toList_sourceText (catalog : Catalog) (tokens : List Token) :
    (sourceText catalog tokens).toList =
      '^' :: ((tokens.flatMap fun t => (t.source catalog).toList) ++ ['$']) := by
  simp [sourceText, String.toList_join, List.flatMap_map]

/-- A template has a source exactly if it can be scanned and no name occurs twice. -/
theorem source_eq_ok_iff (template : String) (catalog : Catalog) (s : Source) :
    source template catalog = .ok s ↔
      ∃ tokens, scan template = .ok tokens ∧ (tokens.filterMap Token.name?).Nodup ∧
        s = ⟨sourceText catalog tokens, tokens.filterMap Token.name?⟩ := by
  unfold source
  cases hscan : scan template with
  | error e => simp [bind, Except.bind, Except.mapError]
  | ok tokens =>
    cases hrepeat : firstRepeat? (tokens.filterMap Token.name?) with
    | some name =>
      have hnodup : ¬(tokens.filterMap Token.name?).Nodup := by
        rw [← firstRepeat?_eq_none_iff, hrepeat]
        exact Option.some_ne_none name
      simp [bind, Except.bind, Except.mapError, Source.ofTokens, hrepeat, hnodup]
    | none =>
      have hnodup := (firstRepeat?_eq_none_iff _).1 hrepeat
      simp [bind, Except.bind, Except.mapError, Source.ofTokens, hrepeat, hnodup, sourceText,
        eq_comm]

end Template

namespace Pattern

open Template

/-- A pattern is what a template compiles to exactly if it has the template, its source and its
names. -/
theorem compile_eq_ok_iff (template : String) (catalog : Catalog) (p : Pattern) :
    compile template catalog = .ok p ↔
      p.template = template ∧ Template.source template catalog = .ok ⟨p.source, p.names⟩ := by
  obtain ⟨template', text, names, r, hr⟩ := p
  unfold compile
  constructor
  · intro h
    split at h
    · cases h
    · next s hs =>
      split at h
      · cases h
      · cases h
        exact ⟨rfl, hs⟩
  · rintro ⟨rfl, hs⟩
    rw [hs]
    dsimp only
    split
    · next cause hcause => exact absurd (hcause.symm.trans hr) (by simp)
    · next r' hr' =>
      cases hr'.symm.trans hr
      rfl

/-- A template without a source is refused for the same reason. -/
theorem compile_of_source_eq_error {template : String} {catalog : Catalog} {e : Template.Error}
    (he : Template.source template catalog = .error e) : compile template catalog = .error e := by
  unfold compile
  split
  · next e' he' => exact congrArg Except.error (Except.error.inj (he'.symm.trans he))
  · next s hs =>
    rw [he] at hs
    cases hs

/-- A template whose source is no expression is refused with the reason. -/
theorem compile_of_fault {template : String} {catalog : Catalog} {s : Source}
    {cause : Regex.Fault} (hs : Template.source template catalog = .ok s)
    (hcause : Regex.ofSource s.text = .error cause) :
    compile template catalog = .error ⟨template, .expression cause⟩ := by
  unfold compile
  rw [hs]
  dsimp only
  split
  · next cause' hcause' =>
    cases hcause'.symm.trans hcause
    rfl
  · next r hr => exact absurd (hr.symm.trans hcause) (by simp)

variable {template : String} {tokens : List Token}

/-- Tokens of builtin codes are read as their expression. -/
theorem ofSource_sourceText (hscan : scan template = .ok tokens)
    (hcodes : ∀ t ∈ tokens, t.HasBuiltinCode) (hnodup : (tokens.filterMap Token.name?).Nodup) :
    Regex.ofSource (sourceText .builtin tokens) =
      if Regex.maxFootprint < (exprOf tokens).footprint then .error .tooLarge
      else .ok ⟨⟨exprOf tokens, namesFrom 0 tokens⟩, (exprOf tokens).circuit⟩ := by
  have hwf := ((scan_eq_ok_iff ..).1 hscan).isWellFormed
  -- The bracketed classes of the catalog nest a few levels deep, so room is all that can be short.
  simp only [Regex.ofSource, sourceText, read_source hcodes hwf hnodup, bind, Except.bind]

/-- The expression of a template with builtin codes. -/
theorem regex_of_compile {p : Pattern} (hp : compile template .builtin = .ok p)
    (hscan : scan template = .ok tokens) (hcodes : ∀ t ∈ tokens, t.HasBuiltinCode) :
    (tokens.filterMap Token.name?).Nodup ∧ p.names = tokens.filterMap Token.name? ∧
      p.regex = ⟨⟨exprOf tokens, namesFrom 0 tokens⟩, (exprOf tokens).circuit⟩ := by
  obtain ⟨-, hsource⟩ := (compile_eq_ok_iff ..).1 hp
  obtain ⟨tokens', hscan', hnodup, heq⟩ := (source_eq_ok_iff ..).1 hsource
  cases hscan'.symm.trans hscan
  obtain ⟨htext, hnames⟩ := Source.mk.inj heq
  have hregex := p.regex_eq
  rw [htext, ofSource_sourceText hscan hcodes hnodup] at hregex
  split at hregex
  · cases hregex
  · exact ⟨hnodup, hnames, (Except.ok.inj hregex).symm⟩

/-- The trace of the match of a path tells the preferred way to cut it. -/
theorem finds_trace? {p : Pattern} (hp : compile template .builtin = .ok p)
    (hscan : scan template = .ok tokens) (hcodes : ∀ t ∈ tokens, t.HasBuiltinCode)
    (path : List Char) : Finds 0 tokens ⟨none, 0, path⟩ (p.regex.trace? path) := by
  rw [(regex_of_compile hp hscan hcodes).2.2, trace?_exprOf]
  exact finds_onward hcodes 0 _

theorem isMatch_iff_cut {p : Pattern} (hp : compile template .builtin = .ok p)
    (hscan : scan template = .ok tokens) (hcodes : ∀ t ∈ tokens, t.HasBuiltinCode)
    (path : String) : p.isMatch path = true ↔ ∃ pieces, Cut tokens path.toList pieces := by
  have hfinds := finds_trace? hp hscan hcodes path.toList
  rw [isMatch, Regex.isMatch]
  cases ho : p.regex.trace? path.toList with
  | none =>
    rw [ho] at hfinds
    simpa using not_exists.2 hfinds
  | some trace =>
    rw [ho] at hfinds
    obtain ⟨pieces, hpieces, -⟩ := hfinds
    exact ⟨fun _ => ⟨pieces, hpieces.cut⟩, fun _ => rfl⟩

/-- Tokens of builtin codes that repeat no name compile, unless their expression is too large. -/
theorem exists_compile (hscan : scan template = .ok tokens)
    (hcodes : ∀ t ∈ tokens, t.HasBuiltinCode) (hnodup : (tokens.filterMap Token.name?).Nodup) :
    (∃ p, compile template .builtin = .ok p) ∨
      Regex.maxFootprint < (exprOf tokens).footprint ∧
        compile template .builtin = .error ⟨template, .expression .tooLarge⟩ := by
  have hsource := (source_eq_ok_iff template .builtin _).2 ⟨tokens, hscan, hnodup, rfl⟩
  have hregex := ofSource_sourceText hscan hcodes hnodup
  split at hregex
  · next hroom => exact .inr ⟨hroom, compile_of_fault hsource hregex⟩
  · exact .inl ⟨⟨template, _, _, _, hregex⟩, (compile_eq_ok_iff ..).2 ⟨rfl, hsource⟩⟩

theorem exists_tokens_of_compile {catalog : Catalog} {p : Pattern}
    (hp : compile template catalog = .ok p) :
    ∃ tokens, scan template = .ok tokens ∧ (tokens.filterMap Token.name?).Nodup := by
  obtain ⟨tokens, hscan, hnodup, -⟩ :=
    (source_eq_ok_iff ..).1 ((compile_eq_ok_iff ..).1 hp).2
  exact ⟨tokens, hscan, hnodup⟩

/-- A template that opens no placeholder matches itself alone, whatever its characters are. -/
theorem isMatch_of_notMem {p : Pattern} (hp : compile template .builtin = .ok p)
    (h : '[' ∉ template.toList) (path : String) : p.isMatch path = true ↔ path = template := by
  obtain ⟨tokens, hscan, -⟩ := exists_tokens_of_compile hp
  have htokens := ((scan_eq_ok_iff ..).1 hscan).eq_literal h
  rw [← String.toList_inj]
  split at htokens
  · next hnil =>
    subst htokens
    rw [isMatch_iff_cut hp hscan (by simp), hnil]
    simp [cut_nil_iff]
  · subst htokens
    rw [isMatch_iff_cut hp hscan (by simp [Token.HasBuiltinCode])]
    simp [cut_cons_iff, cut_nil_iff, Token.admits]

/-- The tokens of a template that opens no placeholder have no codes and no names. -/
theorem exists_tokens_of_notMem (h : '[' ∉ template.toList) :
    ∃ tokens, scan template = .ok tokens ∧ (∀ t ∈ tokens, t.HasBuiltinCode) ∧
      (tokens.filterMap Token.name?).Nodup := by
  obtain ⟨tokens, hscans⟩ := Scans.exists_of_notMem h
  refine ⟨tokens, (scan_eq_ok_iff ..).2 hscans, ?_⟩
  rw [hscans.eq_literal h]
  split <;> simp [Token.HasBuiltinCode]

/-- A template whose placeholders have builtin codes compiles exactly if it can be scanned and
repeats no name, room for its expression apart, which templates of up to 20000 characters have. It
then matches the paths that can be cut into one piece for each token; without placeholders, these
are the template alone. -/
theorem compile_isMatch_builtin (template : String)
    (hcodes : ∀ tokens, scan template = .ok tokens → ∀ t ∈ tokens, t.HasBuiltinCode) :
    ((∃ p, compile template .builtin = .ok p) ↔
      (∃ tokens, scan template = .ok tokens ∧ (tokens.filterMap Token.name?).Nodup) ∧
        compile template .builtin ≠ .error ⟨template, .expression .tooLarge⟩) ∧
    (template.length ≤ 20000 →
      ((∃ p, compile template .builtin = .ok p) ↔
        ∃ tokens, scan template = .ok tokens ∧ (tokens.filterMap Token.name?).Nodup)) ∧
    (∀ p, compile template .builtin = .ok p → ∀ path, p.isMatch path = true ↔
      ∃ tokens, scan template = .ok tokens ∧ ∃ pieces, Cut tokens path.toList pieces) ∧
    ('[' ∉ template.toList →
      compile template .builtin ≠ .error ⟨template, .expression .tooLarge⟩ →
      ∃ p, compile template .builtin = .ok p ∧
        ∀ path, p.isMatch path = true ↔ path = template) := by
  refine ⟨⟨?_, ?_⟩, fun hlength => ⟨?_, ?_⟩, fun p hp path => ?_, fun h hroom => ?_⟩
  · rintro ⟨p, hp⟩
    exact ⟨exists_tokens_of_compile hp, by simp [hp]⟩
  · rintro ⟨⟨tokens, hscan, hnodup⟩, hroom⟩
    exact (exists_compile hscan (hcodes _ hscan) hnodup).resolve_right fun h => hroom h.2
  · rintro ⟨p, hp⟩
    exact exists_tokens_of_compile hp
  · rintro ⟨tokens, hscan, hnodup⟩
    have hroom : (exprOf tokens).footprint ≤ Regex.maxFootprint :=
      footprint_exprOf_le (by rwa [render_of_scan hscan])
    exact (exists_compile hscan (hcodes _ hscan) hnodup).resolve_right fun h =>
      Nat.not_lt.2 hroom h.1
  · obtain ⟨tokens, hscan, -⟩ := exists_tokens_of_compile hp
    rw [isMatch_iff_cut hp hscan (hcodes _ hscan)]
    constructor
    · exact fun h => ⟨tokens, hscan, h⟩
    · rintro ⟨tokens', hscan', h⟩
      cases hscan'.symm.trans hscan
      exact h
  · obtain ⟨tokens, hscan, hbuiltin, hnodup⟩ := exists_tokens_of_notMem h
    obtain ⟨p, hp⟩ := (exists_compile hscan hbuiltin hnodup).resolve_right fun h => hroom h.2
    exact ⟨p, hp, isMatch_of_notMem hp h⟩

/-- A dot stands for itself, and a number goes to the end of the path. -/
theorem compile_isMatch_builtin_version :
    ∃ p, compile "/v.[i:n]" .builtin = .ok p ∧ p.isMatch "/v.12" = true ∧
      p.isMatch "/v12" = false := by
  have hscan : scan "/v.[i:n]" = .ok [.literal "/v.", .placeholder "i" (some "n")] := by
    decide +kernel
  have hcodes : ∀ tokens, scan "/v.[i:n]" = .ok tokens → ∀ t ∈ tokens, t.HasBuiltinCode := by
    intro tokens h
    cases h.symm.trans hscan
    simp [Token.HasBuiltinCode, builtinTypes]
  obtain ⟨-, hcompile, hmatch, -⟩ := compile_isMatch_builtin "/v.[i:n]" hcodes
  obtain ⟨p, hp⟩ := (hcompile (by decide +kernel)).2 ⟨_, hscan, by simp [Token.name?]⟩
  refine ⟨p, hp, (hmatch p hp _).2 ⟨_, hscan, ["/v.".toList, ['1', '2']], ?_⟩, ?_⟩
  · exact ⟨.cons (by decide) (.cons (by decide) .nil), by decide +kernel⟩
  · rw [Bool.eq_false_iff, ne_eq, hmatch p hp, hscan]
    rintro ⟨tokens, htokens, pieces, hcut⟩
    cases htokens
    obtain ⟨v, rest, later, hv, hpath, -⟩ := (cut_cons_iff ..).1 hcut
    simp [Token.admits] at hv
    simp [hv] at hpath

end Pattern

end Signpost
