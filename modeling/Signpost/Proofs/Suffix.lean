import Mathlib.Data.List.Basic
import Signpost.Dispatch
import Signpost.Proofs.Mirror
import Signpost.Text.Start

/-!
# The URL suffix

A path with the URL suffix and its dot behind it is matched as if they were not there. They come off
once, and only where something stands in front of them; every other path is matched as it is. All
that a dispatch looks at besides is the path so cut, so that two requests whose paths differ by the
suffix alone are dispatched alike.

## Main definitions

* `Options.stripByLength`: the path without the suffix, by lengths in bytes.
* `Dispatcher.dispatchAt`: a dispatch that matches the patterns against a path of its own.
* `Call.withPath`: a call whose handler is shown another path as that of the request.

## Main statements

* `Options.strip_append`, `Options.strip_eq_self`: where the suffix comes off, and where not.
* `Options.stripByLength_eq`: cutting by lengths in bytes is the same.
* `Dispatcher.dispatchAt_withPath`: the path of the request is only shown to the handlers.
* `Dispatcher.dispatch_suffix`: what the suffix does to a dispatch.
-/

namespace Signpost

universe u

variable {α : Type u}

namespace Options

variable (o : Options) {p path : String}

/-! ## Where the suffix comes off -/

theorem isSuffixOf?_suffix (p path suffix : String) :
    ('.' :: suffix.toList).isSuffixOf? path.toList = some p.toList ↔
      path = p ++ "." ++ suffix := by
  rw [List.isSuffixOf?_eq_some_iff_append_eq, ← String.toList_inj, eq_comm]
  simp

/-- The suffix comes off a path that has it behind anything. -/
theorem strip_append (hs : o.urlSuffix ≠ "") (hp : p ≠ "") :
    o.strip (p ++ "." ++ o.urlSuffix) = p := by
  rw [strip, if_neg hs, (isSuffixOf?_suffix p _ o.urlSuffix).2 rfl]
  cases hlist : p.toList with
  | nil => exact absurd (String.toList_eq_nil_iff.1 hlist) hp
  | cons c cs => exact (congrArg String.ofList hlist.symm).trans String.ofList_toList

/-- Nothing comes off a path without the suffix, or off one that is nothing else. -/
theorem strip_eq_self
    (h : o.urlSuffix = "" ∨ ¬∃ p, p ≠ "" ∧ path = p ++ "." ++ o.urlSuffix) :
    o.strip path = path := by
  rw [strip]
  split
  · rfl
  · next hs =>
    split
    · next c cs hrest =>
      rw [← String.toList_ofList (l := c :: cs), isSuffixOf?_suffix] at hrest
      exact absurd ⟨_, by simp, hrest⟩ (h.resolve_left hs)
    · rfl

/-- At most one suffix comes off. -/
theorem strip_eq_self_or (path : String) :
    o.strip path = path ∨
      o.urlSuffix ≠ "" ∧ o.strip path ≠ "" ∧ path = o.strip path ++ "." ++ o.urlSuffix := by
  by_cases hs : o.urlSuffix = ""
  · exact .inl (o.strip_eq_self (.inl hs))
  · by_cases hpath : ∃ p, p ≠ "" ∧ path = p ++ "." ++ o.urlSuffix
    · obtain ⟨p, hp, rfl⟩ := hpath
      rw [o.strip_append hs hp]
      exact .inr ⟨hs, hp, rfl⟩
    · exact .inl (o.strip_eq_self (.inr hpath))

/-- The path without the suffix, worked out in bytes. A path that is not longer than the suffix with
its dot keeps them; else, where the suffix is at the end, the text in front of it loses its last
byte if that is a dot. -/
def stripByLength (path : String) : String :=
  if o.urlSuffix = "" ∨ path.utf8ByteSize ≤ o.urlSuffix.utf8ByteSize + 1 then path
  else match o.urlSuffix.toList.isSuffixOf? path.toList with
    | some front =>
      if front.getLast? = some '.' then
        Text.cut (String.ofList front) ((String.ofList front).utf8ByteSize - 1)
      else path
    | none => path

theorem stripByLength_eq (path : String) : o.stripByLength path = o.strip path := by
  have hdot : ".".utf8ByteSize = 1 := by decide
  have hsize (p : String) :
      (p ++ "." ++ o.urlSuffix).utf8ByteSize = p.utf8ByteSize + 1 + o.urlSuffix.utf8ByteSize := by
    rw [String.utf8ByteSize_append, String.utf8ByteSize_append, hdot]
  fun_cases stripByLength o path with
  | case1 h =>
    refine (o.strip_eq_self (h.imp_right ?_)).symm
    rintro hlength ⟨p, hp, rfl⟩
    have hpos : p.utf8ByteSize ≠ 0 := by simpa using hp
    rw [hsize] at hlength
    omega
  | case2 h front hfront hlast =>
    obtain ⟨hs, hlength⟩ := not_or.1 h
    obtain ⟨cs, rfl⟩ := List.getLast?_eq_some_iff.1 hlast
    rw [List.isSuffixOf?_eq_some_iff_append_eq] at hfront
    obtain rfl : path = String.ofList cs ++ "." ++ o.urlSuffix := by
      rw [← String.toList_inj, ← hfront]
      simp
    have hp : String.ofList cs ≠ "" := by
      intro hp
      rw [hsize, hp, String.utf8ByteSize_empty] at hlength
      omega
    have hfront : String.ofList (cs ++ ['.']) = String.ofList cs ++ "." := String.ofList_append
    rw [o.strip_append hs hp, hfront, String.utf8ByteSize_append, hdot, Nat.add_sub_cancel]
    exact Text.cut_append ..
  | case3 h front hfront hlast =>
    refine (o.strip_eq_self (.inr ?_)).symm
    rintro ⟨p, -, rfl⟩
    rw [List.isSuffixOf?_eq_some_iff_append_eq, String.toList_append, List.append_left_inj]
      at hfront
    exact hlast (by rw [hfront, String.toList_append]; exact List.getLast?_concat)
  | case4 h hnone =>
    refine (o.strip_eq_self (.inr ?_)).symm
    rintro ⟨p, -, rfl⟩
    have hsome := List.isSuffixOf?_eq_some_iff_append_eq.2
      (String.toList_append (s := p ++ ".") (t := o.urlSuffix)).symm
    rw [hnone] at hsome
    cases hsome

end Options

/-! ## What the path of a request is for -/

/-- The call, with another path shown as that of the request. -/
def Call.withPath (c : Call α) (path : String) : Call α :=
  { c with context.request.path := path }

/-- Calls that are changed before they are made succeed and fail as what they are changed to. -/
theorem perform_map (act : Call α → Except String Unit) (f : Call α → Call α)
    (cs : List (Call α)) :
    perform act (cs.map f) =
      ((perform (act ∘ f) cs).1.map f, (perform (act ∘ f) cs).2) := by
  induction cs with
  | nil => rfl
  | cons c cs ih =>
    cases hc : act (f c) with
    | error cause => simp [perform, hc]
    | ok u => simp [perform, hc, ih]

namespace Dispatcher

section WithPath

variable (d : Dispatcher α) (act : Call α → Except String Unit) (r : Request)

/-- The calls that a request leads to if patterns are matched against a path of its own. -/
def callsAt (path : String) : List (Call α) :=
  (visits path r.method r.host .empty d.table.entries).zipIdx.map fun v =>
    ⟨v.1.1.handler, some v.1.2, ⟨r, d.options, path, v.2⟩⟩

/-- The calls laid out for a request if patterns are matched against a path of its own. -/
def laidOutAt (path : String) : List (Call α) :=
  if (d.callsAt r path).isEmpty then
    d.notFound.toList.map fun handler => ⟨handler, none, ⟨r, d.options, path, 0⟩⟩
  else d.callsAt r path

/-- A dispatch that matches patterns against a path of its own, and reports it in its errors. -/
def dispatchAt (path : String) : Report α :=
  let p := perform act (d.laidOutAt r path)
  ⟨p.1, match p.2 with
    | some cause => .error (.handler r.method path cause)
    | none =>
      if (d.laidOutAt r path).isEmpty then .error (.routeNotFound r.method path)
      else .ok ⟨(d.callsAt r path).length⟩⟩

/-- A dispatch matches patterns against the path without the URL suffix. -/
theorem dispatch_eq_dispatchAt : d.dispatch act r = d.dispatchAt act r (d.options.strip r.path) :=
  rfl

variable (path raw : String)

theorem callsAt_withPath :
    d.callsAt { r with path := raw } path = (d.callsAt r path).map (·.withPath raw) := by
  rw [callsAt, callsAt, List.map_map]
  rfl

theorem laidOutAt_withPath :
    d.laidOutAt { r with path := raw } path = (d.laidOutAt r path).map (·.withPath raw) := by
  rw [laidOutAt, laidOutAt, callsAt_withPath, List.isEmpty_map]
  split
  · rw [List.map_map]
    rfl
  · rfl

/-- Patterns aside, the path of the request is only shown to the handlers. -/
theorem dispatchAt_withPath (hact : ∀ (c : Call α) path, act (c.withPath path) = act c) :
    d.dispatchAt act { r with path := raw } path =
      ⟨(d.dispatchAt act r path).calls.map (·.withPath raw), (d.dispatchAt act r path).result⟩ := by
  have hblind : act ∘ (·.withPath raw) = act := funext fun c => hact c raw
  simp only [dispatchAt, laidOutAt_withPath, callsAt_withPath, perform_map, hblind,
    List.isEmpty_map, List.length_map]

end WithPath

/-- What the URL suffix does to a dispatch. Two requests whose paths differ by the suffix and its
dot, the shorter one without a suffix to come off, are dispatched alike by handlers that do not look
at the path of the request: the same handlers are called in the same order, with the same
parameters, matched path and place in the order, and the result or the error is the same. A path
that is not the suffix behind something is matched as it is, and so is every path if the suffix is
empty. Of any other path one suffix comes off, and no more. -/
theorem dispatch_suffix (d : Dispatcher α) (act : Call α → Except String Unit) (r : Request) :
    let s := d.options.urlSuffix
    let r' : Request := { r with path := r.path ++ "." ++ s }
    (s ≠ "" → r.path ≠ "" → d.options.strip r.path = r.path →
      (∀ (c : Call α) path, act (c.withPath path) = act c) →
      (d.dispatch act r').calls = (d.dispatch act r).calls.map (·.withPath r'.path) ∧
        (d.dispatch act r').result = (d.dispatch act r).result) ∧
    ((s = "" ∨ ¬∃ p, p ≠ "" ∧ r.path = p ++ "." ++ s) →
      d.options.strip r.path = r.path ∧ d.dispatch act r = d.dispatchAt act r r.path) ∧
    (∀ p, s ≠ "" → p ≠ "" → r.path = p ++ "." ++ s →
      d.options.strip r.path = p ∧ d.dispatch act r = d.dispatchAt act r p) ∧
    (d.options.strip r.path = r.path ∨ s ≠ "" ∧ r.path = d.options.strip r.path ++ "." ++ s) := by
  intro s r'
  refine ⟨fun hs hpath hstrip hact => ?_, fun h => ?_, fun p hs hp hpath => ?_,
    (d.options.strip_eq_self_or r.path).imp_right fun ⟨hs, _, h⟩ => ⟨hs, h⟩⟩
  · have hstrip' : d.options.strip r'.path = r.path := d.options.strip_append hs hpath
    rw [dispatch_eq_dispatchAt, dispatch_eq_dispatchAt, hstrip', hstrip,
      dispatchAt_withPath d act r r.path r'.path hact]
    exact ⟨rfl, rfl⟩
  · have hstrip := d.options.strip_eq_self h
    exact ⟨hstrip, by rw [dispatch_eq_dispatchAt, hstrip]⟩
  · have hstrip : d.options.strip r.path = p := by rw [hpath, d.options.strip_append hs hp]
    exact ⟨hstrip, by rw [dispatch_eq_dispatchAt, hstrip]⟩

/-- A suffix with a dot and a character of two bytes. It comes off once, and not off a path that is
nothing else. -/
theorem dispatch_suffix_two_bytes :
    let p := (Pattern.compile "/[:x]" .builtin).toOption.get (by decide +kernel)
    let d : Dispatcher Nat :=
      ⟨.ofLog [⟨p, .any, [], 1⟩], { urlSuffix := "é.x" }, none⟩
    let act : Call Nat → Except String Unit := fun c =>
      if c.params = some (.ofList [("x", "v.é")]) then .error "gone" else .ok ()
    let r (path : String) : Request := ⟨"GET", path, "h", .empty, {}⟩
    (d.dispatch act (r "/v.é.é.x")).calls =
        (d.dispatch act (r "/v.é")).calls.map (·.withPath "/v.é.é.x") ∧
      (d.dispatch act (r "/v.é.é.x")).result = .error (.handler "GET" "/v.é" "gone") ∧
      d.dispatch act (r "/v.é.x.é.x") = d.dispatchAt act (r "/v.é.x.é.x") "/v.é.x" ∧
      d.dispatch act (r ".é.x") = d.dispatchAt act (r ".é.x") ".é.x" := by
  intro p d act r
  have hstrip : d.options.strip "/v.é" = "/v.é" := by decide +kernel
  have hgone : (d.dispatch act (r "/v.é")).result = .error (.handler "GET" "/v.é" "gone") := by
    decide +kernel
  obtain ⟨hcalls, hresult⟩ := (d.dispatch_suffix act (r "/v.é")).1 (by decide) (by decide) hstrip
    fun _ _ => rfl
  obtain ⟨-, -, htwice, -⟩ := d.dispatch_suffix act (r "/v.é.x.é.x")
  obtain ⟨-, hkept, -⟩ := d.dispatch_suffix act (r ".é.x")
  refine ⟨hcalls, hresult.trans hgone, (htwice _ (by decide) (by decide) rfl).2,
    (hkept (.inr ?_)).2⟩
  rintro ⟨p, hp, hpath⟩
  have hlength : ".é.x".length = (p ++ "." ++ "é.x").length := congrArg String.length hpath
  rw [String.length_append, String.length_append] at hlength
  have hempty : p.length = 0 := by
    have hsizes : ".é.x".length = 4 ∧ ".".length = 1 ∧ "é.x".length = 3 := by decide
    omega
  exact hp (String.length_eq_zero_iff.1 hempty)

end Dispatcher

end Signpost
