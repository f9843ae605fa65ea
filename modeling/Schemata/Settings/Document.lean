import Schemata.Settings
import Schemata.Json.Value

/-!
# Settings as documents

Settings as a JSON document with the groups `registry`, `discovery` and `formats`. Missing members
have their defaults and unknown ones do not count, but a member of another type makes the whole
document unusable. A group may also be a list of its members in order.
-/

namespace Schemata.Settings

open Json (Value)

/-- The members of a group with the given keys, in their order. A list of members is read in that
order and may be shorter. -/
def groupMembers? (keys : List String) : Value → Option (List (Option Value))
  | .object members => some (keys.map (Entries.get? members))
  | .array items =>
    if items.length ≤ keys.length then
      some (items.map some ++ List.replicate (keys.length - items.length) none)
    else none
  | _ => none

/-- The value of a member with a default: a missing one has the default, and one that cannot be read
makes the document unusable. -/
def readOr {α : Type} (default : α) (read? : Value → Option α) : Option Value → Option α
  | none => some default
  | some value => read? value

/-- True or false. -/
def bool? : Value → Option Bool
  | .bool b => some b
  | _ => none

/-- A number of 64 bits without a sign. -/
def word? : Value → Option Nat
  | .number (.integer i) => if 0 ≤ i then some i.toNat else none
  | _ => none

def texts? : Value → Option (List String)
  | .array items => items.mapM Value.asString?
  | _ => none

def textTable? : Value → Option (Entries String)
  | .object members => members.mapM fun (name, value) => value.asString?.map fun text => (name, text)
  | _ => none

def policyOf? (document : Value) : Option Policy := do
  match ← groupMembers? ["cache_compiled", "validate_formats"] document with
  | [cache, formats] => do
    let cacheCompiled ← readOr true bool? cache
    let validateFormats ← readOr true bool? formats
    pure { cacheCompiled, validateFormats }
  | _ => none

/-- The roots and the time to wait in a document. -/
def discoveryOf? (document : Value) : Option (List String × Nat) := do
  match ← groupMembers? ["roots", "read_timeout_ms"] document with
  | [roots, timeout] => do
    let roots ← readOr [] texts? roots
    let timeout ← readOr 5000 word? timeout
    pure (roots, timeout)
  | _ => none

def ofDocument? (document : Value) : Option Settings := do
  match ← groupMembers? ["registry", "discovery", "formats"] document with
  | [policy, discovery, formats] => do
    let policy ← readOr {} policyOf? policy
    let (roots, readTimeout) ← readOr ([], 5000) discoveryOf? discovery
    let formats ← readOr [] textTable? formats
    pure { policy, roots, readTimeout, formats }
  | _ => none

def toDocument (settings : Settings) : Value :=
  .object [
    ("discovery", .object [
      ("read_timeout_ms", Value.ofInt settings.readTimeout),
      ("roots", .array (settings.roots.map .string))]),
    ("formats", .object (Entries.mapValues .string settings.formats)),
    ("registry", .object [
      ("cache_compiled", .bool settings.policy.cacheCompiled),
      ("validate_formats", .bool settings.policy.validateFormats)])]

end Schemata.Settings
