import Schemata.Build
import Schemata.Proofs.Outcomes

/-!
# How a build ends

A build that ends well gives the composed document, or hands out what is kept, or compiles anew.
Later proofs take a build apart with these statements only.

    build = .ok built → a document ∨ a kept compiled schema ∨ a new one       (build_ok_cases)
-/

namespace Schemata

open Json (Value)

/-- A compilation gives the document with the formats and the settings of the engine; its number does
not matter to whether it succeeds. -/
theorem Engine.compile_ok_iff {engine : Engine} {serial : Nat} {name : String} {prepared : Value}
    {compiled : Compiled} :
    engine.compile serial name prepared = .ok compiled ↔
      ∃ draft, JsonSchema.compiles? prepared = some draft ∧
        compiled = ⟨serial, name, ⟨prepared, draft, engine.formats, engine.assertsFormats⟩⟩ := by
  unfold Engine.compile JsonSchema.Validator.ofSchema?
  cases JsonSchema.compiles? prepared with
  | none => simp
  | some draft => simp [eq_comm]

namespace Schema

def prepareIn (schema : Schema) (catalog : Catalog) (engine : Engine) : Except Failure Value := do
  let composed ← catalog.compose schema
  engine.prepare schema.name composed catalog.resolver

def keyOf (engine : Engine) (prepared : Value) : Fingerprint :=
  Fingerprint.ofCompilation engine.generation prepared

variable {schema : Schema} {catalog : Catalog} {engine : Engine} {serial : Nat}
  {options : BuildOptions}

theorem build_raw (hraw : options.compiled = false) :
    schema.build catalog engine serial options =
      (catalog.compose schema).map fun composed => ⟨.document composed, schema.memo, serial⟩ := by
  unfold build
  cases catalog.compose schema with
  | error failure => rfl
  | ok composed => simp [hraw, Except.map]

/-- Compiled builds start with the prepared document. -/
theorem build_compiled (hcompiled : options.compiled = true) :
    schema.build catalog engine serial options =
      (schema.prepareIn catalog engine).bind fun prepared =>
        match if options.cache then schema.cached? (keyOf engine prepared) else none with
        | some compiled => .ok ⟨.compiled compiled, schema.memo, serial⟩
        | none => (engine.compile serial schema.name prepared).map fun compiled =>
            ⟨.compiled compiled,
              if options.cache then some ⟨keyOf engine prepared, compiled⟩ else schema.memo,
              serial + 1⟩ := by
  unfold build prepareIn
  cases catalog.compose schema with
  | error failure => rfl
  | ok composed =>
    simp only [ok_bind, hcompiled, not_true, if_false]
    cases engine.prepare schema.name composed catalog.resolver with
    | error failure => rfl
    | ok prepared =>
      show _ = (match if options.cache then schema.cached? (keyOf engine prepared) else none with
        | some compiled => Except.ok _
        | none => _)
      simp only [ok_bind, keyOf]
      cases if options.cache then
          schema.cached? (Fingerprint.ofCompilation engine.generation prepared) else none with
      | some compiled => rfl
      | none => cases engine.compile serial schema.name prepared <;> rfl

theorem build_ok_cases {built : Built}
    (h : schema.build catalog engine serial options = .ok built) :
    (options.compiled = false ∧ built.memo = schema.memo ∧
      ∃ composed, built.resolved = .document composed) ∨
    (options.compiled = true ∧ ∃ prepared compiled, schema.prepareIn catalog engine = .ok prepared ∧
      built.resolved = .compiled compiled ∧
      ((options.cache = true ∧ schema.cached? (keyOf engine prepared) = some compiled ∧
          built.memo = schema.memo) ∨
        (engine.compile serial schema.name prepared = .ok compiled ∧
          built.memo =
            if options.cache then some ⟨keyOf engine prepared, compiled⟩ else schema.memo))) := by
  cases hcompiled : options.compiled with
  | false =>
    rw [build_raw hcompiled] at h
    cases hcomposed : catalog.compose schema with
    | error failure => rw [hcomposed] at h; cases h
    | ok composed =>
      rw [hcomposed] at h
      cases h
      exact Or.inl ⟨rfl, rfl, composed, rfl⟩
  | true =>
    rw [build_compiled hcompiled] at h
    obtain ⟨prepared, hprepared, h⟩ := bind_eq_ok_iff.1 h
    refine Or.inr ⟨rfl, prepared, ?_⟩
    split at h
    · next compiled hcached =>
      cases h
      split at hcached
      · next hcache => exact ⟨compiled, hprepared, rfl, Or.inl ⟨hcache, hcached, rfl⟩⟩
      · cases hcached
    · cases hcompile : engine.compile serial schema.name prepared with
      | error failure => rw [hcompile] at h; cases h
      | ok compiled =>
        rw [hcompile] at h
        cases h
        exact ⟨compiled, hprepared, rfl, Or.inr ⟨rfl, rfl⟩⟩

end Schema

end Schemata
