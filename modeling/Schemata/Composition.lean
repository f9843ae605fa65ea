import Schemata.Schema
import Schemata.Bundle
import Schemata.Json.Overlay

/-!
# Composition

The composed document of a schema: its own with the composed documents of its extensions laid over
it in order, each without its identity. Extensions that are not in the catalog are left out. A schema
that is met while it is being composed fails with the chain of names that leads back to it.
-/

namespace Schemata

open Json (Value)

/-- Schemas by name. -/
abbrev Catalog := Entries Schema

namespace Catalog

/-- The composed document of a schema, while the schemas of a chain of names are being composed. Each
step into an extension makes the chain longer, and no name is twice in it. -/
def composeBelow (catalog : Catalog) : Nat → List String → Schema → Except Failure Value
  | 0, chain, schema => .error (.circularExtension (chain ++ [schema.name]))
  | fuel + 1, chain, schema =>
    if chain.contains schema.name then .error (.circularExtension (chain ++ [schema.name]))
    else
      schema.extensions.foldlM (fun merged extension =>
        match Entries.get? catalog extension with
        | none => .ok merged
        | some patch => do
          let document ← composeBelow catalog fuel (chain ++ [schema.name]) patch
          pure (merged.overlay (document.withoutMember "$id"))) schema.ownDocument

def compose (catalog : Catalog) (schema : Schema) : Except Failure Value :=
  composeBelow catalog (catalog.length + 2) [] schema

def composeNamed (catalog : Catalog) (name : String) : Except Failure Value :=
  match Entries.get? catalog name with
  | some schema => catalog.compose schema
  | none => .error (.schemaNotFound name)

/-- The catalog as bundling sees it. -/
def resolver (catalog : Catalog) : Resolver := ⟨Entries.keys catalog, catalog.composeNamed⟩

end Catalog

end Schemata
