import Schemata.Json.Value

/-!
# Drafts

The editions of JSON Schema. A schema names its edition in `$schema`; without that it is the latest.
-/

namespace Schemata.JsonSchema

open Json (Value)

/-- An edition of JSON Schema. -/
inductive Draft where
  | draft4
  | draft6
  | draft7
  | draft2019
  | draft2020
  deriving DecidableEq, Repr

namespace Draft

/-- The place of an edition in the order of time. -/
def rank : Draft → Nat
  | draft4 => 4
  | draft6 => 6
  | draft7 => 7
  | draft2019 => 8
  | draft2020 => 9

/-- Whether an edition is the given one or a later one. -/
def atLeast (draft other : Draft) : Bool := other.rank ≤ draft.rank

def withoutHashes (text : String) : String :=
  String.ofList (text.toList.reverse.dropWhile (· = '#')).reverse

/-- The edition of an identifier. -/
def ofUri? (uri : String) : Option Draft :=
  match withoutHashes uri with
  | "https://json-schema.org/draft/2020-12/schema" => some draft2020
  | "https://json-schema.org/draft/2019-09/schema" => some draft2019
  | "http://json-schema.org/draft-07/schema" => some draft7
  | "http://json-schema.org/draft-06/schema" => some draft6
  | "http://json-schema.org/draft-04/schema" => some draft4
  | _ => none

/-- The edition of a schema; none if it names one that is not known. -/
def ofSchema? (schema : Value) : Option Draft :=
  match schema.member? "$schema" with
  | some (.string uri) => ofUri? uri
  | _ => some draft2020

/-- The edition of a schema inside another. -/
def ofSubschema (draft : Draft) (schema : Value) : Draft :=
  match schema.member? "$schema" with
  | some (.string uri) => (ofUri? uri).getD draft2020
  | _ => draft

/-- The member that identifies a schema. -/
def identityKey (draft : Draft) : String := if draft = draft4 then "id" else "$id"

def readsBesideReference (draft : Draft) : Bool := draft.atLeast draft2019

/-- Whether built-in formats are asserted unless something else is said. -/
def assertsFormats (draft : Draft) : Bool := !draft.atLeast draft2019

end Draft

end Schemata.JsonSchema
