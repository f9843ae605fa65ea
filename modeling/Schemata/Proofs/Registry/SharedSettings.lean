import Mathlib.Logic.Relation
import Schemata.Proofs.EntryOrder
import Schemata.Proofs.Registry.Histories

/-!
# Settings of a registry in use

Settings are taken over in two steps, policy and roots first and then the formats, and nothing keeps
the calls of other callers from coming in between. Such a call is made under the new policy with the
old formats. This does no harm exactly if one of the two steps changes nothing that a call can see.

    calls leave what is in force alone                                  (inForce_perform_of_builds)
    steps of callers keep: what is in force is what the steps taken so far make   (Underway.step)
    each call is made before, between or after the two steps, and never between them
      ↔ the policy stays, or the formats stay                                   (appliedAsOne_iff)
-/

namespace Schemata

open Json (Value)
open Schemata.Format (GuardedFormat)

/-! ## Algorithm -/

/-- Whether a step is a call that builds: a resolution, a validation or a compilation. -/
def Operation.builds : Operation → Bool
  | .resolve _ _ | .validate _ _ | .compile _ => true
  | _ => false

namespace Registry

/-- What a call that builds depends on beside the schemas. -/
structure InForce where
  /-- Whether formats are asserted. -/
  assertsFormats : Bool
  /-- Whether compiled schemas are kept. -/
  cacheCompiled : Bool
  /-- The installed formats by name. -/
  format? : String → Option GuardedFormat

def inForce (registry : Registry) : InForce :=
  ⟨registry.engine.assertsFormats, registry.policy.cacheCompiled,
    Entries.get? registry.engine.formats⟩

def InForce.withPolicy (inForce : InForce) (policy : Policy) : InForce :=
  { inForce with assertsFormats := policy.validateFormats, cacheCompiled := policy.cacheCompiled }

/-- What is in force with formats installed; of several patterns for a name the last one counts. -/
def InForce.withFormats (inForce : InForce) (formats : List (String × String)) : InForce :=
  { inForce with format? := fun name =>
      ((Entries.last? formats name).map (Format.guard name)).or (inForce.format? name) }

def installed (formats : Entries GuardedFormat) (added : List (String × String)) :
    Entries GuardedFormat :=
  added.foldl (fun formats format => Entries.put formats format.1 (Format.guard format.1 format.2))
    formats

/-- The steps in which settings are taken over. Without formats there is no second one. -/
def settingSteps (settings : Settings) (directory : String) : List Operation :=
  .applyPolicy settings directory ::
    if settings.formats.isEmpty then [] else [.registerFormats settings.formats]

/-- A registry in use: someone takes over settings, and others have calls to make. -/
structure Shared where
  /-- The registry. -/
  registry : Registry
  /-- The steps of taking over settings that are still to come. -/
  applying : List Operation
  /-- The calls that each of the others has still to make, in its order. -/
  callers : List (List Operation)

/-- One step of someone. Nothing comes in between within a step. -/
inductive Shared.Step : Shared → Shared → Prop
  /-- The next step of taking over settings. -/
  | apply (registry : Registry) (operation : Operation) (applying : List Operation)
      (callers : List (List Operation)) :
      Step ⟨registry, operation :: applying, callers⟩
        ⟨registry.perform operation, applying, callers⟩
  /-- The next call of one of the others. -/
  | call (registry : Registry) (applying : List Operation) (earlier : List (List Operation))
      (call : Operation) (calls : List Operation) (later : List (List Operation)) :
      Step ⟨registry, applying, earlier ++ (call :: calls) :: later⟩
        ⟨registry.perform call, applying, earlier ++ calls :: later⟩

/-- Steps of everyone, in any order. -/
abbrev Shared.Run : Shared → Shared → Prop := Relation.ReflTransGen Shared.Step

/-- A call that is the next one of its caller. It is made on the registry as it is now. -/
def Shared.Next (shared : Shared) (call : Operation) : Prop :=
  ∃ calls, call :: calls ∈ shared.callers

/-- All that callers have to do is calls that build. -/
def OnlyBuild (callers : List (List Operation)) : Prop :=
  ∀ calls ∈ callers, ∀ call ∈ calls, call.builds = true

/-- Whoever calls while settings are taken over, and whenever: the call is made under what was in force
before, or under what is in force afterwards. -/
def AppliedAsOne (registry : Registry) (settings : Settings) (directory : String) : Prop :=
  ∀ callers, OnlyBuild callers → ∀ shared call,
    Shared.Run ⟨registry, settingSteps settings directory, callers⟩ shared → shared.Next call →
      shared.registry.inForce = registry.inForce ∨
        shared.registry.inForce = (registry.applySettings settings directory).inForce

/-- The policy in force is that of settings already. -/
def KeepsPolicy (registry : Registry) (settings : Settings) : Prop :=
  registry.engine.assertsFormats = settings.policy.validateFormats ∧
    registry.policy.cacheCompiled = settings.policy.cacheCompiled

/-- The formats of settings are installed already. -/
def KeepsFormats (registry : Registry) (settings : Settings) : Prop :=
  ∀ name pattern, Entries.last? settings.formats name = some pattern →
    Entries.get? registry.engine.formats name = some (Format.guard name pattern)

variable {registry : Registry} {settings : Settings} {directory : String}

/-! ## What steps put in force -/

/-- Calls leave what is in force alone. -/
theorem inForce_perform_of_builds {operation : Operation} (h : operation.builds = true) :
    (registry.perform operation).inForce = registry.inForce := by
  have hresolve : ∀ name options,
      (registry.after (registry.resolve name options)).inForce = registry.inForce := by
    intro name options
    cases hresult : registry.resolve name options with
    | error failure => rfl
    | ok result =>
      obtain ⟨schema, built, -, -, -, hafter⟩ := resolve_ok hresult
      rw [show result = (result.1, result.2) from rfl, after_ok, hafter]
      rfl
  cases operation with
  | resolve name options => exact hresolve name options
  | validate name document =>
    have hperform : registry.perform (.validate name document) =
      registry.after (registry.resolve name {}) := validate_snd registry name document
    rw [hperform]
    exact hresolve name {}
  | compile document =>
    show (registry.after (registry.compile document)).inForce = _
    cases hresult : registry.compile document with
    | error failure => rfl
    | ok result =>
      obtain ⟨prepared, -, hcompile⟩ := bind_eq_ok_iff.1 hresult
      obtain ⟨compiled, -, hok⟩ := bind_eq_ok_iff.1 hcompile
      cases hok
      rfl
  | _ => cases h

theorem inForce_applyPolicy (registry : Registry) (settings : Settings) (directory : String) :
    (registry.applyPolicy settings directory).inForce =
      registry.inForce.withPolicy settings.policy := by
  have hasserts : (registry.engine.configure settings.policy.validateFormats).assertsFormats =
      settings.policy.validateFormats := by
    unfold Engine.configure
    split
    · next hsame => exact hsame
    · rfl
  have hformats : (registry.engine.configure settings.policy.validateFormats).formats =
      registry.engine.formats := by
    unfold Engine.configure
    split <;> rfl
  unfold applyPolicy InForce.withPolicy inForce
  dsimp only
  split <;> simp [clearCache, hasserts, hformats]

theorem name_guard (name pattern : String) : (Format.guard name pattern).name = name := by
  unfold Format.guard
  split <;> rfl

/-- Installing formats changes the formats and the generation of the engine, and nothing else. -/
theorem registerFormats_snd (registry : Registry) (added : List (String × String)) :
    (registry.registerFormats added).2 = { registry with engine := { registry.engine with
      formats := installed registry.engine.formats added
      generation := registry.engine.generation + added.length } } := by
  induction added generalizing registry with
  | nil => rfl
  | cons first added ih =>
    obtain ⟨name, pattern⟩ := first
    have hfirst : (registry.registerFormats ((name, pattern) :: added)).2 =
        ((registry.registerFormat name pattern).2.registerFormats added).2 := rfl
    rw [hfirst, ih]
    unfold registerFormat Engine.addFormat
    dsimp only
    rw [name_guard, List.length_cons, Nat.add_right_comm, Nat.add_assoc]
    rfl

theorem get?_installed (formats : Entries GuardedFormat) (added : List (String × String))
    (name : String) :
    Entries.get? (installed formats added) name =
      ((Entries.last? added name).map (Format.guard name)).or (Entries.get? formats name) := by
  unfold installed
  induction added generalizing formats with
  | nil => rfl
  | cons first added ih =>
    obtain ⟨other, pattern⟩ := first
    rw [List.foldl_cons, ih, Entries.last?_cons, Entries.get?_put]
    by_cases hname : name = other
    · subst hname
      cases Entries.last? added name <;> simp
    · simp [hname, Ne.symm hname]

theorem inForce_registerFormats (registry : Registry) (formats : List (String × String)) :
    (registry.registerFormats formats).2.inForce = registry.inForce.withFormats formats := by
  rw [registerFormats_snd]
  unfold inForce InForce.withFormats
  simp only [InForce.mk.injEq, true_and]
  funext name
  exact get?_installed registry.engine.formats formats name

/-- The steps in which settings are taken over, one right after the other, take them over. -/
theorem applySettings_eq_settingSteps (registry : Registry) (settings : Settings)
    (directory : String) :
    registry.applySettings settings directory =
      registry.run (settingSteps settings directory) := by
  unfold settingSteps
  rw [applySettings_eq_run]
  split
  · next hempty =>
    rw [List.isEmpty_iff] at hempty
    rw [hempty]
    rfl
  · rfl

/-- What a step of taking over settings puts in force depends on nothing but what was in force. -/
theorem inForce_perform_congr {other : Registry} {operation : Operation}
    (hmem : operation ∈ settingSteps settings directory) (h : other.inForce = registry.inForce) :
    (other.perform operation).inForce = (registry.perform operation).inForce := by
  have hkinds : operation = .applyPolicy settings directory ∨
      operation = .registerFormats settings.formats := by
    unfold settingSteps at hmem
    rcases List.mem_cons.1 hmem with hpolicy | hformats
    · exact Or.inl hpolicy
    · split at hformats
      · cases hformats
      · exact Or.inr (List.mem_singleton.1 hformats)
  rcases hkinds with rfl | rfl
  · show (other.applyPolicy settings directory).inForce =
      (registry.applyPolicy settings directory).inForce
    rw [inForce_applyPolicy, inForce_applyPolicy, h]
  · show (other.registerFormats settings.formats).2.inForce =
      (registry.registerFormats settings.formats).2.inForce
    rw [inForce_registerFormats, inForce_registerFormats, h]

/-! ## Registries in use -/

/-- Some steps of taking over settings are taken, and what is in force is what these make of it. -/
structure Underway (registry : Registry) (settings : Settings) (directory : String)
    (shared : Shared) : Prop where
  taken : ∃ done, done ++ shared.applying = settingSteps settings directory ∧
    shared.registry.inForce = (registry.run done).inForce
  builds : OnlyBuild shared.callers

theorem Underway.step {shared after : Shared}
    (h : Underway registry settings directory shared) (hstep : shared.Step after) :
    Underway registry settings directory after := by
  obtain ⟨⟨done, hsteps, hinForce⟩, hbuilds⟩ := h
  cases hstep with
  | apply current operation applying callers =>
    refine ⟨⟨done ++ [operation], ?_, ?_⟩, hbuilds⟩
    · rw [List.append_assoc]
      exact hsteps
    · have hmem : operation ∈ settingSteps settings directory := by
        rw [← hsteps]
        simp
      rw [run_append, run_cons, run_nil]
      exact inForce_perform_congr hmem hinForce
  | call current applying earlier call calls later =>
    have hcall : call.builds = true := by
      apply hbuilds (call :: calls)
      · simp
      · exact List.mem_cons_self
    refine ⟨⟨done, hsteps, ?_⟩, ?_⟩
    · exact (inForce_perform_of_builds hcall).trans hinForce
    · intro others hothers other hother
      rcases List.mem_append.1 hothers with hearlier | hlater
      · exact hbuilds others (by simp [hearlier]) other hother
      · rcases List.mem_cons.1 hlater with rfl | hlater
        · exact hbuilds (call :: others) (by simp) other (List.mem_cons_of_mem call hother)
        · exact hbuilds others (by simp [hlater]) other hother

theorem Underway.run {shared after : Shared} (h : Underway registry settings directory shared)
    (hrun : Shared.Run shared after) : Underway registry settings directory after := by
  induction hrun with
  | refl => exact h
  | tail _ hstep ih => exact ih.step hstep

/-- There are three times at which a call can be made: before the first step, between the two, and
after the last one. -/
theorem Underway.inForce_cases {shared : Shared}
    (h : Underway registry settings directory shared) :
    shared.registry.inForce = registry.inForce ∨
      shared.registry.inForce = registry.inForce.withPolicy settings.policy ∨
      shared.registry.inForce = (registry.applySettings settings directory).inForce := by
  obtain ⟨⟨done, hsteps, hinForce⟩, -⟩ := h
  rw [hinForce]
  cases done with
  | nil => exact Or.inl rfl
  | cons first done =>
    have hsteps' : first :: (done ++ shared.applying) = settingSteps settings directory := hsteps
    unfold settingSteps at hsteps'
    obtain ⟨rfl, hrest⟩ := List.cons.inj hsteps'
    cases done with
    | nil => exact Or.inr (Or.inl (inForce_applyPolicy registry settings directory))
    | cons second done =>
      -- a second step was taken, so that it was the last one
      have hlast : shared.applying = [] := by
        split at hrest
        · cases hrest
        · have hlength := congrArg List.length hrest
          simp only [List.length_append, List.length_cons, List.length_nil] at hlength
          exact List.length_eq_zero_iff.1 (by omega)
      rw [hlast, List.append_nil] at hsteps
      rw [applySettings_eq_settingSteps, ← hsteps]
      exact Or.inr (Or.inr rfl)

/-! ## Top theorem -/

theorem withPolicy_eq_iff :
    registry.inForce.withPolicy settings.policy = registry.inForce ↔
      registry.KeepsPolicy settings := by
  unfold InForce.withPolicy inForce KeepsPolicy
  simp [eq_comm]

theorem inForce_applySettings (registry : Registry) (settings : Settings) (directory : String) :
    (registry.applySettings settings directory).inForce =
      (registry.inForce.withPolicy settings.policy).withFormats settings.formats := by
  unfold applySettings
  rw [inForce_registerFormats, inForce_applyPolicy]

theorem withFormats_eq_iff :
    (registry.inForce.withPolicy settings.policy).withFormats settings.formats =
      registry.inForce.withPolicy settings.policy ↔ registry.KeepsFormats settings := by
  unfold InForce.withFormats InForce.withPolicy inForce KeepsFormats
  simp only [InForce.mk.injEq, true_and, funext_iff]
  constructor
  · intro h name pattern hpattern
    have hname := h name
    rw [hpattern] at hname
    exact hname.symm
  · intro h name
    cases hpattern : Entries.last? settings.formats name with
    | none => rfl
    | some pattern =>
      rw [h name pattern hpattern]
      rfl

/-- Between the two steps any call can be made. -/
theorem exists_between (registry : Registry) (settings : Settings) (directory : String)
    (call : Operation) :
    ∃ shared, Shared.Run ⟨registry, settingSteps settings directory, [[call]]⟩ shared ∧
      shared.Next call ∧ shared.registry.inForce = registry.inForce.withPolicy settings.policy := by
  refine ⟨_, .single (.apply registry (.applyPolicy settings directory) _ [[call]]), ⟨[], ?_⟩, ?_⟩
  · exact List.mem_singleton.2 rfl
  · exact inForce_applyPolicy registry settings directory

/-- While settings are taken over, every call of another caller is made under what was in force before,
under the new policy with the old formats, or under what is in force afterwards; no other mixture
occurs, and each call can come in between. It is always the first or the last exactly if the policy of
the settings is in force already, or all of their formats are installed already. -/
theorem appliedAsOne_iff (registry : Registry) (settings : Settings) (directory : String) :
    (∀ callers, OnlyBuild callers → ∀ shared,
      Shared.Run ⟨registry, settingSteps settings directory, callers⟩ shared →
        shared.registry.inForce = registry.inForce ∨
        shared.registry.inForce = registry.inForce.withPolicy settings.policy ∨
        shared.registry.inForce = (registry.applySettings settings directory).inForce) ∧
    (∀ call, ∃ shared, Shared.Run ⟨registry, settingSteps settings directory, [[call]]⟩ shared ∧
      shared.Next call ∧
      shared.registry.inForce = registry.inForce.withPolicy settings.policy) ∧
    (registry.AppliedAsOne settings directory ↔
      registry.KeepsPolicy settings ∨ registry.KeepsFormats settings) := by
  have hcases : ∀ callers, OnlyBuild callers → ∀ shared,
      Shared.Run ⟨registry, settingSteps settings directory, callers⟩ shared →
        shared.registry.inForce = registry.inForce ∨
        shared.registry.inForce = registry.inForce.withPolicy settings.policy ∨
        shared.registry.inForce = (registry.applySettings settings directory).inForce := by
    intro callers hbuild shared hrun
    have hstart : Underway registry settings directory
        ⟨registry, settingSteps settings directory, callers⟩ := ⟨⟨[], rfl, rfl⟩, hbuild⟩
    exact (hstart.run hrun).inForce_cases
  refine ⟨hcases, exists_between registry settings directory, ?_⟩
  constructor
  · intro h
    let call := Operation.compile .null
    obtain ⟨shared, hrun, hnext, hbetween⟩ := exists_between registry settings directory call
    have hbuild : OnlyBuild [[call]] := by
      intro calls hcalls other hother
      rw [List.mem_singleton.1 hcalls] at hother
      rw [List.mem_singleton.1 hother]
      rfl
    rcases h [[call]] hbuild shared call hrun hnext with hbefore | hafter
    · rw [hbetween] at hbefore
      exact Or.inl (withPolicy_eq_iff.1 hbefore)
    · rw [hbetween, inForce_applySettings] at hafter
      exact Or.inr (withFormats_eq_iff.1 hafter.symm)
  · intro hkeeps callers hbuild shared call hrun _
    rcases hcases callers hbuild shared hrun with hbefore | hbetween | hafter
    · exact Or.inl hbefore
    · rcases hkeeps with hpolicy | hformats
      · exact Or.inl (hbetween.trans (withPolicy_eq_iff.2 hpolicy))
      · refine Or.inr (hbetween.trans ?_)
        rw [inForce_applySettings]
        exact (withFormats_eq_iff.2 hformats).symm
    · exact Or.inr hafter

/-- Formats come to be asserted, and codes to be written in capitals. A code in capitals is fine before
and afterwards, and fails in between, when it is held against the old pattern. -/
theorem appliedAsOne_iff_of_code :
    let course : Value := .object [("$id", .string "course"),
      ("properties", .object [("code", .object [("format", .string "code")])])]
    let registry := (new { policy := { validateFormats := false } } "").run
      [.registerFormats [("code", "^[a-z]+$")], .register (.document course) false]
    let settings : Settings := { formats := [("code", "^[A-Z]+$")] }
    let subject : Value := .object [("code", .string "AB")]
    ¬ registry.AppliedAsOne settings "" ∧
      (registry.validate "course" subject).1.isOk = true ∧
      ((registry.applyPolicy settings "").validate "course" subject).1.isOk = false ∧
      ((registry.applySettings settings "").validate "course" subject).1.isOk = true := by
  intro course registry settings subject
  -- the keys of the installed formats are in sight then, whatever their patterns mean
  have hnew : new { policy := { validateFormats := false } } "" = ⟨[], Ledger.empty,
      ⟨installed [] builtinFormats, [], false, 7⟩, { validateFormats := false }, [], 0⟩ := by
    unfold new
    dsimp only
    rw [registerFormats_snd]
    rfl
  have hregistry : registry = Registry.perform ⟨[], Ledger.empty,
      ⟨installed (installed [] builtinFormats) [("code", "^[a-z]+$")], [], false, 8⟩,
      { validateFormats := false }, [], 0⟩ (.register (.document course) false) := by
    have hsteps : registry = Registry.perform
        ((new { policy := { validateFormats := false } } "").registerFormats
          [("code", "^[a-z]+$")]).2 (.register (.document course) false) := rfl
    rw [hsteps, registerFormats_snd, hnew]
    rfl
  refine ⟨fun h => ?_, ?_, ?_, ?_⟩
  · rcases (appliedAsOne_iff registry settings "").2.2.1 h with hpolicy | hformats
    · have hasserts : registry.engine.assertsFormats = false := by decide +kernel
      rw [hpolicy.1] at hasserts
      cases hasserts
    · have hcode := congrArg (Option.map (·.requested)) (hformats "code" "^[A-Z]+$" rfl)
      rw [hregistry] at hcode
      revert hcode
      decide +kernel
  · rw [hregistry]
    decide +kernel
  · rw [hregistry]
    decide +kernel
  · unfold applySettings
    rw [registerFormats_snd, hregistry]
    decide +kernel

end Registry

end Schemata
