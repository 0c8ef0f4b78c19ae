import Mathlib.Data.List.Induction
import Mathlib.Logic.Function.Basic
import Signpost.Proofs.FormText
import Signpost.Proofs.HostNames
import Signpost.Request

/-!
# Drafts of requests

A request is made of pieces, and of each kind of piece only the last one counts, wherever it stands
among the others. The path and the query may come in one piece, in which the first `?` stands
between them, or in two.

## Main definitions

* `Request.Part.last?`: the value of the last piece of a kind.
* `Request.Draft.ofValues`: the draft that some values lead to.
* `Request.Part.Addresses`: the pieces that stand for a path and a query.

## Main statements

* `Query.cut_eq_iff`, `splitUri_eq_iff`: the one way to cut a URI.
* `Request.Draft.foldl_add`: the draft of some pieces is that of their last values.
* `Request.ofParts_last_pieces`: what pieces make of a request.
-/

namespace Signpost

/-! ## Cuts of URIs -/

namespace Query

theorem cut_spec (sep : Char) (cs : List Char) :
    sep ∉ (cut sep cs).1 ∧ cs = (cut sep cs).1 ++ (cut sep cs).2.elim [] (sep :: ·) := by
  fun_induction cut sep cs <;> grind

theorem cut_of_notMem {sep : Char} {cs : List Char} (h : sep ∉ cs) : cut sep cs = (cs, none) := by
  fun_induction cut sep cs <;> grind

/-- A list is cut at the first separator, if there is one, and the separator is lost. -/
theorem cut_eq_iff {sep : Char} {cs key : List Char} {rest : Option (List Char)} :
    cut sep cs = (key, rest) ↔ sep ∉ key ∧ cs = key ++ rest.elim [] (sep :: ·) := by
  constructor
  · intro h
    have hspec := cut_spec sep cs
    rwa [h] at hspec
  · rintro ⟨hkey, rfl⟩
    cases rest with
    | none => simpa using cut_of_notMem hkey
    | some value => exact cut_append hkey value

end Query

/-- A URI is cut at the first `?`, if there is one, and the `?` is lost. -/
theorem splitUri_eq_iff {uri path : String} {query : Option String} :
    splitUri uri = (path, query) ↔ '?' ∉ path.toList ∧ uri = path ++ query.elim "" ("?" ++ ·) := by
  have hchars : splitUri uri = (path, query) ↔
      Query.cut '?' uri.toList = (path.toList, query.map String.toList) := by
    constructor
    · intro h
      obtain ⟨rfl, rfl⟩ := Prod.mk.inj h
      simp [Function.comp_def]
    · intro h
      simp [splitUri, h, Function.comp_def]
  rw [hchars, Query.cut_eq_iff, ← String.toList_inj]
  cases query <;> simp

theorem Options.normalHost_normalHost (host : String) :
    normalHost (normalHost host) = normalHost host := by
  simp [normalHost, Text.trim_lower]

namespace Request

/-! ## Last pieces -/

/-- The kinds of pieces. -/
inductive Part.Kind
  | method | uri | query | host | requestedWith
deriving DecidableEq, Repr

namespace Part

/-- The kind of a piece. -/
def kind : Part → Kind
  | method _ => .method
  | uri _ => .uri
  | query _ => .query
  | host _ => .host
  | requestedWith _ => .requestedWith

/-- The text of a piece. -/
def value : Part → String
  | method value | uri value | query value | host value | requestedWith value => value

/-- The value of the last piece of a kind. -/
def last? (parts : List Part) (k : Kind) : Option String :=
  (parts.filter (·.kind = k)).getLast?.map value

/-- One more piece is the last one of its kind, and of no other kind. -/
@[simp] theorem last?_concat (parts : List Part) (p : Part) :
    last? (parts ++ [p]) = Function.update (last? parts) p.kind (some p.value) := by
  funext k
  by_cases h : p.kind = k
  · subst h
    simp [last?]
  · simp [last?, h, Function.update_of_ne (Ne.symm h)]

/-- The pieces stand for a path and a query: the URI has both, or the query is a piece of its own
and the URI has the path, whatever query it has with it. -/
def Addresses (parts : List Part) (path query : String) : Prop :=
  (last? parts .uri = some (path ++ "?" ++ query) ∧ last? parts .query = none) ∨
    (last? parts .query = some query ∧ (last? parts .uri = some path ∨
      ∃ other, last? parts .uri = some (path ++ "?" ++ other)))

end Part

/-! ## Drafts -/

namespace Draft

/-- The draft that some values of pieces lead to. -/
def ofValues (values : Part.Kind → Option String) : Draft where
  method := Text.upper (Text.trim ((values .method).getD ""))
  uri := (values .uri).getD ""
  query := values .query
  host := Options.normalHost ((values .host).getD "")
  requestedWith := values .requestedWith

theorem ofValues_none : ofValues (fun _ => none) = {} := by decide

/-- A piece sets the value of its kind, and leaves the others as they are. -/
theorem add_ofValues (values : Part.Kind → Option String) (p : Part) :
    (ofValues values).add p = ofValues (Function.update values p.kind (some p.value)) := by
  cases p <;> simp [add, ofValues, Part.kind, Part.value]

/-- The draft of some pieces is that of their last values. -/
theorem foldl_add (parts : List Part) : parts.foldl add {} = ofValues (Part.last? parts) := by
  induction parts using List.reverseRecOn with
  | nil => exact ofValues_none.symm
  | append_singleton parts p ih =>
    rw [List.foldl_append, ih, Part.last?_concat]
    exact add_ofValues _ p

/-- Of a draft, only the library has to do with whether a script made the request. -/
theorem isAjax_eq (d : Draft) : d.isAjax = isAjax { requestedWith := d.requestedWith } := by
  funext query o
  simp only [isAjax]

/-- A request is made by a script if the library says so, or a parameter that is set. -/
theorem isAjax_iff (d : Draft) (query : Query) (o : Options) :
    d.isAjax query o = true ↔
      (∃ v, d.requestedWith = some v ∧ Text.lower (Text.trim v) = "xmlhttprequest") ∨
        ∃ v, query.get? o.ajaxParamName = some v ∧ v ≠ "" ∧ v ≠ "0" := by
  have hlower : Text.lower "xmlhttprequest" = "xmlhttprequest" := by decide +kernel
  simp [isAjax, isTruthy, Text.sameLetters_iff, hlower, Option.any_eq_true]

/-- The method and the host of a draft are values that lead to it again. -/
theorem ofValues_update (values : Part.Kind → Option String) :
    let method := Text.upper (Text.trim ((values .method).getD ""))
    let host := Options.normalHost ((values .host).getD "")
    ofValues (Function.update (Function.update values .method (some method)) .host (some host)) =
      ofValues values := by
  simp [ofValues, Text.trim_upper, Options.normalHost_normalHost]

end Draft

theorem method_ofParts (parts : List Part) (o : Options) :
    (ofParts parts o).method = Text.upper (Text.trim ((Part.last? parts .method).getD "")) := by
  rw [ofParts, Draft.foldl_add]
  rfl

theorem host_ofParts (parts : List Part) (o : Options) :
    (ofParts parts o).host = Options.normalHost ((Part.last? parts .host).getD "") := by
  rw [ofParts, Draft.foldl_add]
  rfl

/-- The request of some pieces, once the last URI is cut. -/
theorem ofParts_of_splitUri {parts : List Part} {path : String} {own : Option String}
    (h : splitUri ((Part.last? parts .uri).getD "") = (path, own)) (o : Options) :
    let query := (((Part.last? parts .query).or own).map parseQuery).getD .empty
    ofParts parts o =
      ⟨Text.upper (Text.trim ((Part.last? parts .method).getD "")), path,
        Options.normalHost ((Part.last? parts .host).getD ""), query,
        { ajax := Draft.isAjax { requestedWith := Part.last? parts .requestedWith } query o }⟩ := by
  rw [ofParts, Draft.foldl_add]
  simp only [Draft.finish, Draft.ofValues, h, Draft.isAjax_eq ⟨_, _, _, _, _⟩]

/-- Pieces that stand for a path and a query make a request with them. -/
theorem Part.Addresses.ofParts_eq {parts : List Part} {path query : String}
    (h : Addresses parts path query) (hpath : '?' ∉ path.toList) (o : Options) :
    ofParts parts o =
      ⟨Text.upper (Text.trim ((last? parts .method).getD "")), path,
        Options.normalHost ((last? parts .host).getD ""), parseQuery query,
        { ajax := Draft.isAjax { requestedWith := last? parts .requestedWith }
            (parseQuery query) o }⟩ := by
  obtain ⟨own, hcut, hquery⟩ : ∃ own, splitUri ((last? parts .uri).getD "") = (path, own) ∧
      (last? parts .query).or own = some query := by
    simp only [splitUri_eq_iff]
    obtain ⟨huri, hnone⟩ | ⟨hsome, huri | ⟨other, huri⟩⟩ := h
    · refine ⟨some query, ⟨hpath, ?_⟩, by rw [hnone, Option.none_or]⟩
      rw [huri, Option.getD_some, Option.elim_some, String.append_assoc]
    · refine ⟨none, ⟨hpath, ?_⟩, by rw [hsome, Option.some_or]⟩
      rw [huri, Option.getD_some, Option.elim_none, String.append_empty]
    · refine ⟨some other, ⟨hpath, ?_⟩, by rw [hsome, Option.some_or]⟩
      rw [huri, Option.getD_some, Option.elim_some, String.append_assoc]
  rw [ofParts_of_splitUri hcut, hquery, Option.map_some, Option.getD_some]

/-- It does not matter in which of the ways pieces stand for a path and a query. -/
theorem Part.Addresses.ofParts_congr {parts parts' : List Part} {path query : String}
    (h : Addresses parts path query) (h' : Addresses parts' path query)
    (hpath : '?' ∉ path.toList)
    (hothers : ∀ k, k ≠ .uri → k ≠ .query → last? parts' k = last? parts k) (o : Options) :
    ofParts parts' o = ofParts parts o := by
  have hmethod := hothers .method (by decide) (by decide)
  have hhost := hothers .host (by decide) (by decide)
  have hlibrary := hothers .requestedWith (by decide) (by decide)
  rw [h.ofParts_eq hpath, h'.ofParts_eq hpath, hmethod, hhost, hlibrary]

/-- The method and the host of a request are pieces that leave it as it is. -/
theorem ofParts_append_own (parts : List Part) (o : Options) :
    let r := ofParts parts o
    ofParts (parts ++ [.method r.method, .host r.host]) o = r := by
  intro r
  have hmethod : r.method = _ := method_ofParts parts o
  have hhost : r.host = _ := host_ofParts parts o
  have hparts : ofParts parts o = r := rfl
  clear_value r
  rw [ofParts, List.foldl_append, Draft.foldl_add]
  simp only [List.foldl_cons, List.foldl_nil, Draft.add_ofValues, Part.kind, Part.value, hmethod,
    hhost, Draft.ofValues_update]
  rw [← Draft.foldl_add, ← ofParts, hparts]

/-- What pieces make of a request. Only the last piece of each kind counts. The path is the URI up
to its first `?`, and the query is that piece, or else what the URI has behind the `?`; so it does
not matter in which of the ways pieces stand for a path and a query. A request is made by a script
if the library says so, or a parameter that is set. It is never made on a command line. Its method
and its host are pieces that give the same method and the same host again. -/
theorem ofParts_last_pieces (o : Options) (parts : List Part) :
    let r := ofParts parts o
    (∀ parts', (∀ k, Part.last? parts' k = Part.last? parts k) → ofParts parts' o = r) ∧
    ('?' ∉ r.path.toList ∧ ∃ own : Option String,
      (Part.last? parts .uri).getD "" = r.path ++ own.elim "" ("?" ++ ·) ∧
      r.query = (((Part.last? parts .query).or own).map parseQuery).getD .empty) ∧
    (∀ path query parts', '?' ∉ path.toList → Part.Addresses parts path query →
      Part.Addresses parts' path query →
      (∀ k, k ≠ .uri → k ≠ .query → Part.last? parts' k = Part.last? parts k) →
        r.path = path ∧ r.query = parseQuery query ∧ ofParts parts' o = r) ∧
    (r.flags.ajax = true ↔
      (∃ v, Part.last? parts .requestedWith = some v ∧
        Text.lower (Text.trim v) = "xmlhttprequest") ∨
      ∃ v, r.query.get? o.ajaxParamName = some v ∧ v ≠ "" ∧ v ≠ "0") ∧
    r.flags.cli = false ∧
    (r.method = Text.upper (Text.trim ((Part.last? parts .method).getD "")) ∧
      r.host = Options.normalHost ((Part.last? parts .host).getD "")) ∧
    ofParts (parts ++ [.method r.method, .host r.host]) o = r ∧
    ∀ others o', (Part.last? others .method = some r.method →
        (ofParts others o').method = r.method) ∧
      (Part.last? others .host = some r.host → (ofParts others o').host = r.host) := by
  intro r
  obtain ⟨path, own, hcut⟩ : ∃ path own,
      splitUri ((Part.last? parts .uri).getD "") = (path, own) := ⟨_, _, rfl⟩
  obtain ⟨hpath, huri⟩ := splitUri_eq_iff.1 hcut
  have hr : r = _ := ofParts_of_splitUri hcut o
  have hmethod : r.method = _ := method_ofParts parts o
  have hhost : r.host = _ := host_ofParts parts o
  have hown : ofParts (parts ++ [.method r.method, .host r.host]) o = r :=
    ofParts_append_own parts o
  have hparts : ofParts parts o = r := rfl
  -- From here on the request is known by its equations alone, since its pieces are costly to open.
  clear_value r
  refine ⟨fun parts' h => ?_, ⟨?_, own, ?_, ?_⟩, ?_, ?_, ?_, ⟨hmethod, hhost⟩, ?_,
    fun others o' => ⟨?_, ?_⟩⟩
  · rw [← hparts, ofParts, ofParts, Draft.foldl_add, Draft.foldl_add, funext h]
  · rwa [hr]
  · rwa [hr]
  · rw [hr]
  · intro path query parts' hpath h h' hothers
    have hr := hparts.symm.trans (h.ofParts_eq hpath o)
    exact ⟨by rw [hr], by rw [hr], (h.ofParts_congr h' hpath hothers o).trans hparts⟩
  · rw [hr]
    exact Draft.isAjax_iff ..
  · rw [hr]
  · exact hown
  · intro h
    rw [method_ofParts, h, Option.getD_some, hmethod]
    simp [Text.trim_upper]
  · intro h
    rw [host_ofParts, h, Option.getD_some, hhost]
    exact Options.normalHost_normalHost _

/-- The query of a URI is cut off even if another one stands in for it, and a blank that is none of
ASCII is taken off the name of the library. -/
example : ofParts [.query "b=0", .requestedWith "curl", .uri "/a?b=1?",
    .requestedWith "\u2003XmlHttpRequest "] { ajaxParamName := "b" } =
    ⟨"", "/a", "", .ofList [("b", "0")], { ajax := true }⟩ := by decide +kernel

end Request

end Signpost
