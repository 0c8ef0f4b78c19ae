import Signpost.Options.Wire
import Signpost.Proofs.Atomicity
import Signpost.Proofs.Canonical

/-!
# Names of fixed hosts

The host of a scope is compared with a fixed one without the blanks around its name and without
regard to the case of letters. For the fixed host only the letters are treated so: with blanks
around it, it is none of the hosts that scopes are compared by. Settings that are built one by one
have no such host, but settings that are read from their wire form may.

## Main definitions

* `Text.IsTrimmed`: a text without blanks at its ends.
* `Options.HasTrimmedHost`: settings whose fixed host, if there is one, is such a text.

## Main statements

* `Options.sameLetters_normalHost_iff`: which hosts are taken for a fixed one.
* `Options.hasTrimmedHost_of_build`: the host of settings that are built has no blanks at its ends.
* `Script.effect_congr`: what a program does is settled by the placeholder types and by the scopes
  that are shut.
* `Router.within_fixed_host`: the scopes that a router with a fixed host enters.
* `Router.blank_fixed_host`: a fixed host that no scope is for.
-/

namespace Signpost

universe u

variable {α : Type u}

namespace Text

/-- The text has no blanks at its ends. -/
def IsTrimmed (s : String) : Prop := trim s = s

instance (s : String) : Decidable (IsTrimmed s) := inferInstanceAs (Decidable (trim s = s))

theorem isBlank_toLower (c : Char) : isBlank c.toLower = isBlank c := by
  rw [← isBlank_toUpper, toUpper_toLower, isBlank_toUpper]

theorem trim_lower (s : String) : trim (lower s) = lower (trim s) := by
  rw [← String.toList_inj]
  simp only [toList_trim, toList_lower]
  exact trimChars_map isBlank_toLower _

theorem sublist_trimChars (cs : List Char) : (trimChars cs).Sublist cs :=
  (List.rdropWhile_prefix ..).sublist.trans (List.dropWhile_suffix _).sublist

/-- A text from which nothing is taken is the text itself. -/
theorem isTrimmed_of_length_eq {s : String} (h : (trim s).length = s.length) : IsTrimmed s := by
  rw [← String.length_toList, ← String.length_toList, toList_trim] at h
  rw [IsTrimmed, ← String.toList_inj, toList_trim]
  exact (sublist_trimChars s.toList).eq_of_length h

@[simp] theorem length_lower (s : String) : (lower s).length = s.length := by
  rw [← String.length_toList, toList_lower, List.length_map, String.length_toList]

/-- The case of letters has nothing to do with blanks. -/
theorem isTrimmed_lower_iff (s : String) : IsTrimmed (lower s) ↔ IsTrimmed s := by
  unfold IsTrimmed
  rw [trim_lower]
  refine ⟨fun h => isTrimmed_of_length_eq ?_, fun h => by rw [h]⟩
  have hlength := congrArg String.length h
  simpa using hlength

end Text

namespace Options

open Text (IsTrimmed)

theorem isTrimmed_normalHost (host : String) : IsTrimmed (normalHost host) := by
  rw [normalHost, Text.isTrimmed_lower_iff]
  exact Text.trim_trim host

/-- A host is taken for a fixed one without blanks at its ends if the two are the same in small
letters without blanks, and for none with blanks. -/
theorem sameLetters_normalHost_iff (fixed host : String) :
    Text.sameLetters fixed (normalHost host) = true ↔
      IsTrimmed fixed ∧ normalHost host = normalHost fixed := by
  have hlower : Text.lower (normalHost host) = normalHost host := by simp [normalHost]
  rw [Text.sameLetters_iff, hlower]
  constructor
  · intro h
    have htrim : IsTrimmed fixed := by
      rw [← Text.isTrimmed_lower_iff, h]
      exact isTrimmed_normalHost host
    exact ⟨htrim, by rw [← h, normalHost, show Text.trim fixed = fixed from htrim]⟩
  · rintro ⟨htrim, h⟩
    rw [h, normalHost, show Text.trim fixed = fixed from htrim]

/-- If a host is fixed, it has no blanks at its ends. -/
def HasTrimmedHost (o : Options) : Prop := ∀ host, o.host = some host → IsTrimmed host

theorem HasTrimmedHost.apply {o : Options} (h : o.HasTrimmedHost) (c : Change) :
    (o.apply c).HasTrimmedHost := by
  intro host hhost
  cases c with
  | host value =>
    obtain rfl : normalHost value = host := Option.some.inj hhost
    exact isTrimmed_normalHost value
  | _ => exact h host hhost

theorem HasTrimmedHost.foldl {o : Options} (h : o.HasTrimmedHost) (changes : List Change) :
    (changes.foldl Options.apply o).HasTrimmedHost := by
  induction changes generalizing o with
  | nil => exact h
  | cons c changes ih => exact ih (h.apply c)

/-- Settings that are built are the defaults with the changes made in turn. -/
theorem eq_foldl_of_build {changes : List Change} {o : Options} (h : build changes = .ok o) :
    o = changes.foldl apply {} := by
  simp only [build] at h
  cases hvalid : (changes.foldl apply {}).validate with
  | error e =>
    rw [hvalid] at h
    cases h
  | ok u =>
    rw [hvalid] at h
    exact (Except.ok.inj h).symm

theorem hasTrimmedHost_of_build {changes : List Change} {o : Options}
    (h : build changes = .ok o) : o.HasTrimmedHost := by
  have hdefault : HasTrimmedHost {} := nofun
  rw [eq_foldl_of_build h]
  exact hdefault.foldl changes

end Options

/-! ## Programs -/

section Congruence

variable {o o' : Options}

theorem Action.effect_congr (hcatalog : o'.catalog = o.catalog)
    (hhosts : ∀ s, Scope.hosts o'.host s = Scope.hosts o.host s) (action : Action α)
    (scopes : List Scope) : action.effect o' scopes = action.effect o scopes := by
  have hall : Scope.hosts o'.host = Scope.hosts o.host := funext hhosts
  cases action with
  | route methods template handler => simp only [effect, hcatalog, Scope.allHosts, hall]
  | _ => rfl

/-- Of the settings, a program depends on the placeholder types, on the hosts that scopes add, and
on which scopes are shut. -/
theorem Script.effect_congr (hcatalog : o'.catalog = o.catalog)
    (hhosts : ∀ s, Scope.hosts o'.host s = Scope.hosts o.host s)
    (hshut : ∀ s : Scope, s.isShut o'.host = s.isShut o.host) (script : Script α)
    (scopes : List Scope) : script.effect o' scopes = script.effect o scopes := by
  induction script generalizing scopes with
  | done => rfl
  | step caught action rest ih =>
    rw [effect, effect, Action.effect_congr hcatalog hhosts, ih]
  | scope caught s body rest ihbody ihrest =>
    rw [effect, effect, hshut, ihbody, ihrest]

end Congruence

/-- Hosts that are alike in small letters without blanks shut the same scopes, unless one of them
has blanks at its ends and the other one has not. -/
theorem Scope.isShut_congr {fixed fixed' : String}
    (h : Options.normalHost fixed' = Options.normalHost fixed)
    (htrim : Text.IsTrimmed fixed' ↔ Text.IsTrimmed fixed) (s : Scope) :
    s.isShut (some fixed') = s.isShut (some fixed) := by
  cases s with
  | path lead => rfl
  | host name =>
    have hsame : Text.sameLetters fixed' (Options.normalHost name) =
        Text.sameLetters fixed (Options.normalHost name) := by
      rw [Bool.eq_iff_iff, Options.sameLetters_normalHost_iff, Options.sameLetters_normalHost_iff,
        htrim, h]
    simpa [isShut, Options.sameLetters_normalHost] using hsame

namespace Router

theorem eq_ofOptions_of_ofValid {o : Options} {r : Router α} (h : ofValid o = .ok r) :
    r = ofOptions o := by
  unfold ofValid at h
  cases hvalid : o.validate with
  | error e =>
    rw [hvalid] at h
    cases h
  | ok u =>
    rw [hvalid] at h
    exact (Except.ok.inj h).symm

/-- With a fixed host, a scope runs its body where it stands or not at all. -/
theorem within_host_eq {r : Router α} {fixed : String} (hfixed : r.options.host = some fixed)
    (name : String) (body : Router α → Except RouterError Unit × Router α) :
    r.within (.host name) body =
      if Text.sameLetters fixed (Options.normalHost name) then body r else (.ok (), r) := by
  have hleave : ∀ after : Router α, after.leave (.host name) r = after := fun after => by
    simp [leave, opens, hfixed]
  by_cases h : Text.sameLetters fixed (Options.normalHost name) = true
  · simp [within, enter, hfixed, h, hleave]
  · simp [within, enter, hfixed, h]

/-- A router with a fixed host runs the body of a scope, at whichever point of a program, exactly if
the fixed host has no blanks at its ends and the host of the scope is the same without blanks and in
small letters. The fixed host of settings that are built has none. Settings with the same
placeholder types and with hosts that are the same in this way, both with blanks at their ends or
both without, lead to the same table for every program. -/
theorem within_fixed_host {o : Options} {fixed : String} {r : Router α}
    (hfixed : o.host = some fixed) (hr : ofValid o = .ok r) :
    (r.Reached o [] ∧ ∀ scopes (now : Router α), now.Reached o scopes → ∀ name body,
      now.within (.host name) body =
        if Text.IsTrimmed fixed ∧ Options.normalHost name = Options.normalHost fixed then body now
        else (.ok (), now)) ∧
    (∀ changes, Options.build changes = .ok o → Text.IsTrimmed fixed) ∧
    ∀ (o' : Options) (fixed' : String) (r' : Router α), o'.host = some fixed' →
      ofValid o' = .ok r' → o'.matchTypes = o.matchTypes →
      Options.normalHost fixed' = Options.normalHost fixed →
      (Text.IsTrimmed fixed' ↔ Text.IsTrimmed fixed) →
        ∀ script : Script α, (script.run r').router.table = (script.run r).router.table := by
  obtain rfl := eq_ofOptions_of_ofValid hr
  refine ⟨⟨.new, fun scopes now hnow name body => ?_⟩, fun changes hbuild =>
    Options.hasTrimmedHost_of_build hbuild fixed hfixed, ?_⟩
  · have hhost : now.options.host = some fixed := by rw [hnow.standsIn.options, hfixed]
    rw [within_host_eq hhost]
    simp only [Options.sameLetters_normalHost_iff]
  · intro o' fixed' r' hfixed' hr' htypes hnormal htrim script
    obtain rfl := eq_ofOptions_of_ofValid hr'
    have hcatalog : o'.catalog = o.catalog := by rw [Options.catalog, Options.catalog, htypes]
    have hhosts : ∀ s, Scope.hosts o'.host s = Scope.hosts o.host s := by
      rw [hfixed, hfixed']
      rintro (lead | name) <;> rfl
    have hshut : ∀ s : Scope, s.isShut o'.host = s.isShut o.host := by
      rw [hfixed, hfixed']
      exact Scope.isShut_congr hnormal htrim
    have hturns := script.turns_call (standsIn_ofOptions o)
    have hturns' := script.turns_call (standsIn_ofOptions o')
    rw [script.effect_congr hcatalog hhosts hshut] at hturns'
    exact hturns'.table.trans hturns.table.symm

theorem ofValid_eq_ok {o : Options} (h : o.validate = .ok ()) :
    ofValid o = .ok (ofOptions o : Router α) := by
  rw [ofValid, h]
  rfl

/-- Capital letters in a fixed host are no matter. -/
theorem within_fixed_host_capitals :
    let o : Options := { host := some "Shop.Example" }
    let o' : Options := { host := some "shop.example", urlSuffix := "" }
    let script : Script Nat :=
      .scope false (.host "\tSHOP.example ") (.step false (.route [.any] "/a" 1) .done) .done
    o.host = some "Shop.Example" ∧ ofValid o = .ok (ofOptions o : Router Nat) ∧
      (script.run (ofOptions o)).router.table.size = 1 ∧
      (script.run (ofOptions o')).router.table = (script.run (ofOptions o)).router.table := by
  intro o o' script
  have hr : ofValid o = .ok (ofOptions o : Router Nat) := ofValid_eq_ok (by decide +kernel)
  have hr' : ofValid o' = .ok (ofOptions o' : Router Nat) := ofValid_eq_ok (by decide +kernel)
  obtain ⟨-, -, htable⟩ := within_fixed_host (o := o) rfl hr
  refine ⟨rfl, hr, by decide +kernel, htable o' _ _ rfl hr' rfl ?_ ?_ script⟩
  · decide +kernel
  · decide +kernel

/-- Settings whose fixed host has blanks at its ends can be used, and a host that is spelled just so
is the fixed one for the settings that are built with it. But here no scope is for that host. -/
theorem blank_fixed_host :
    let script : Script Nat :=
      .scope false (.host " a ") (.step false (.route [.any] "/x" 1) .done) .done
    ∃ o o', Options.ofWire (.object [("host", .text " a ")]) = .ok o ∧
      Options.build [.host " a "] = .ok o' ∧
      ofValid o = .ok (ofOptions o : Router Nat) ∧ ofValid o' = .ok (ofOptions o' : Router Nat) ∧
      (script.run (ofOptions o)).router.table.size = 0 ∧
      (script.run (ofOptions o')).router.table.size = 1 ∧
      ¬∀ name body, (ofOptions o : Router Nat).within (.host name) body =
        if Options.normalHost name = Options.normalHost " a " then body (ofOptions o)
        else (.ok (), ofOptions o) := by
  intro script
  refine ⟨{ host := some " a " }, { host := some "a" }, by decide +kernel, by decide +kernel,
    ofValid_eq_ok (by decide +kernel), ofValid_eq_ok (by decide +kernel), by decide +kernel,
    by decide +kernel, fun h => ?_⟩
  have hbody := congrArg (fun x => x.2.base) (h " a " fun r => (.ok (), { r with base := "/" }))
  exact absurd hbody (by decide +kernel)

end Router

end Signpost
