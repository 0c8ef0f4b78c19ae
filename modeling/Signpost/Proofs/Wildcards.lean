import Signpost.Proofs.Methods
import Signpost.Request.CommandLine

/-!
# Handlers of requests from a command line

A request from a command line has the empty method. Any method includes it, and so does the one
token whose name is empty, which is that of the blank texts. All other tokens turn it down, so that
without registrations under a blank text a command line reaches handlers of any method alone.

## Main statements

* `MethodToken.parse_eq_parse_empty_iff`: the blank texts stand for the same token.
* `MethodToken.IsSpelled.eq_of_accepts_empty`: the tokens that accept the empty method.
* `Router.called_of_ofArgs`: the tokens of the handlers that a command line reaches.
* `Router.blank_called_of_ofArgs`: a handler under a blank text is among them.
-/

namespace Signpost

universe u

variable {α : Type u}

theorem Request.method_ofArgs {args : List String} {options : Options} {request : Request}
    (h : ofArgs args options = .ok request) : request.method = "" := by
  unfold ofArgs at h
  cases hread : readArgs ("--" ++ options.requestUriSource) {} args with
  | error e =>
    rw [hread] at h
    cases h
  | ok values =>
    rw [hread] at h
    cases h
    rfl

namespace MethodToken

theorem parse_empty : parse "" = .verb "" := by decide

/-- The texts of the token with the empty name are those that are blank. -/
theorem parse_eq_parse_empty_iff (text : String) : parse text = parse "" ↔ Text.trim text = "" := by
  rw [parse_empty]
  constructor
  · intro h
    by_cases hstar : Text.trim text = "*"
    · rw [parse_of_trim_eq hstar] at h
      cases h
    · rw [parse_of_trim_ne hstar] at h
      have hlength := congrArg String.length (verb.inj h)
      rw [Text.length_upper] at hlength
      exact String.length_eq_zero_iff.1 hlength
  · intro h
    rw [parse_of_trim_ne (by rw [h]; decide), h]
    decide

theorem ofVerb_ne_parse_empty (v : Verb) : ofVerb v ≠ parse "" := by
  cases v <;> decide

/-- A token accepts the empty method if it is that of any method or that of blank texts. -/
theorem IsSpelled.eq_of_accepts_empty {t : MethodToken} (h : t.IsSpelled)
    (ha : t.accepts "" = true) : t = .any ∨ t = MethodToken.parse "" := by
  cases t with
  | any => exact .inl rfl
  | verb name =>
    have hname : name = Text.upper (Text.trim "") := h.eq_of_accepts ha
    rw [hname]
    exact .inr (by decide)

end MethodToken

namespace Router

theorem ReachedWith.imp {allowed allowed' : MethodToken → Prop} {r : Router α}
    (h : r.ReachedWith allowed) (hall : ∀ m, allowed m → allowed' m) : r.ReachedWith allowed' := by
  induction h with
  | ofOptions options => exact .ofOptions options
  | route _ hmethods template handler ih =>
    exact .route ih (fun m hm => hall m (hmethods m hm)) template handler
  | setNotFound _ handler ih => exact .setNotFound ih handler
  | clearCache _ ih => exact .clearCache ih
  | enter _ hs ih => exact .enter ih hs
  | leave _ s outer ih => exact .leave ih s outer

/-- What a request from a command line reaches, whatever handlers do, if all registrations are under
tokens of texts, verbs or any method: handlers of any method, and those that were registered under
blank texts, and no others. The tokens of blank texts are one and the same, and no verb has it. So
if there are no such registrations, only handlers of any method are called. -/
theorem called_of_ofArgs (r : Router α) (hr : r.ReachedWith MethodToken.IsSpelled)
    {args : List String} {options : Options} {request : Request}
    (hrequest : Request.ofArgs args options = .ok request) (act : Call α → Except String Unit) :
    let called := r.sealed.called act request
    called.map Target.handler =
      ((r.dispatch act request).calls.filter (!·.isFallback)).map Call.handler ∧
    (∀ t ∈ called, t.method = .any ∨ t.method = .parse "") ∧
    (∀ text, MethodToken.parse text = .parse "" ↔ Text.trim text = "") ∧
    (∀ v, MethodToken.ofVerb v ≠ .parse "") ∧
    (r.ReachedWith (fun m => m.IsSpelled ∧ m ≠ .parse "") → ∀ t ∈ called, t.method = .any) := by
  intro called
  have hmethod : request.method = "" := Request.method_ofArgs hrequest
  have hcalled : ∀ t ∈ called, t.method = .any ∨ t.method = .parse "" := by
    intro t ht
    obtain ⟨hspelled, haccepts⟩ := hr.of_mem_called ht
    rw [hmethod] at haccepts
    exact hspelled.eq_of_accepts_empty haccepts
  refine ⟨r.sealed.map_handler_called act request, hcalled,
    MethodToken.parse_eq_parse_empty_iff, MethodToken.ofVerb_ne_parse_empty, fun hnone t ht => ?_⟩
  obtain ⟨⟨-, hne⟩, -⟩ := hnone.of_mem_called ht
  exact (hcalled t ht).resolve_right hne

/-- Of three handlers only that of any method is called. -/
theorem called_of_ofArgs_verbs :
    let r₁ := ((ofOptions {} : Router Nat).route [.parse " get", .ofVerb .post] "/job" 1).2
    let r := (r₁.route [.parse "*"] "/job" 2).2
    let request : Request := ⟨"", "/job", "", .ofList [("force", "1")], { cli := true }⟩
    let act : Call Nat → Except String Unit := fun _ => .ok ()
    r.ReachedWith (fun m => m.IsSpelled ∧ m ≠ .parse "") ∧
      Request.ofArgs ["-r", "/job?force=1"] {} = .ok request ∧
      (r.dispatch act request).calls.map Call.handler = [2] ∧
      ∀ t ∈ r.sealed.called act request, t.method = .any := by
  intro r₁ r request act
  have h₁ : r₁.ReachedWith (fun m => m.IsSpelled ∧ m ≠ .parse "") := by
    refine .route (.ofOptions {}) (fun m hm => ?_) ..
    rcases List.mem_pair.1 hm with rfl | rfl
    · exact ⟨.parse _, by decide +kernel⟩
    · exact ⟨.ofVerb _, by decide +kernel⟩
  have h : r.ReachedWith (fun m => m.IsSpelled ∧ m ≠ .parse "") := by
    refine .route h₁ (fun m hm => ?_) ..
    obtain rfl := List.mem_singleton.1 hm
    exact ⟨.parse _, by decide +kernel⟩
  have hrequest : Request.ofArgs ["-r", "/job?force=1"] {} = .ok request := by decide +kernel
  obtain ⟨-, -, -, -, hany⟩ := called_of_ofArgs r (h.imp fun _ hm => hm.1) hrequest act
  exact ⟨h, hrequest, by decide +kernel, hany h⟩

/-- A handler under a blank text takes a request from a command line like one of any method. -/
theorem blank_called_of_ofArgs :
    let r := ((ofOptions {} : Router Nat).route [.parse ""] "/job" 1).2
    let act : Call Nat → Except String Unit := fun _ => .ok ()
    ∃ request, Request.ofArgs ["-r", "/job"] {} = .ok request ∧
      r.ReachedWith MethodToken.IsSpelled ∧
      (r.dispatch act request).calls.map Call.handler = [1] ∧
      ¬∀ t ∈ r.sealed.called act request, t.method = .any := by
  intro r act
  refine ⟨⟨"", "/job", "", .empty, { cli := true }⟩, by decide +kernel, ?_, by decide +kernel,
    by decide +kernel⟩
  exact .route (.ofOptions {}) (by simpa using .parse _) ..

end Router

end Signpost
