import Schemata.Composition
import Schemata.Engine

/-!
# Builds

What a schema is resolved to: its composed document, or a compiled schema. A compiled schema is kept
with the fingerprint of the engine's generation and the prepared document, and handed out again as
long as that fingerprint stays the same.
-/

namespace Schemata

open Json (Value)

/-- What a schema is resolved to. -/
inductive Resolved where
  /-- A compiled schema. -/
  | compiled (compiled : Compiled)
  /-- A composed document. -/
  | document (document : Value)

/-- What is wanted of a build. -/
structure BuildOptions where
  /-- A compiled schema, or else the composed document. -/
  compiled : Bool := true
  /-- Whether a kept compiled schema may be used and a new one kept. -/
  cache : Bool := true
  deriving DecidableEq, Repr

/-- What a build leaves. -/
structure Built where
  /-- The result. -/
  resolved : Resolved
  /-- What the schema keeps. -/
  memo : Option Memo
  /-- The number of the next compilation. -/
  nextSerial : Nat

/-- The kept compiled schema, if it has the fingerprint. -/
def Schema.cached? (schema : Schema) (key : Fingerprint) : Option Compiled :=
  (schema.memo.filter fun memo => memo.key = key).map (·.compiled)

def Schema.build (schema : Schema) (catalog : Catalog) (engine : Engine) (serial : Nat)
    (options : BuildOptions) : Except Failure Built := do
  let composed ← catalog.compose schema
  if ¬ options.compiled then pure ⟨.document composed, schema.memo, serial⟩
  else
    let prepared ← engine.prepare schema.name composed catalog.resolver
    let key := Fingerprint.ofCompilation engine.generation prepared
    match if options.cache then schema.cached? key else none with
    | some compiled => pure ⟨.compiled compiled, schema.memo, serial⟩
    | none =>
      let compiled ← engine.compile serial schema.name prepared
      pure ⟨.compiled compiled, if options.cache then some ⟨key, compiled⟩ else schema.memo, serial + 1⟩

end Schemata
