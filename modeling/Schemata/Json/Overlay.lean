import Schemata.Json.Value

/-!
# Overlays

Laying one document over another: objects are joined member by member, and anything else in the
upper document hides what lies below it.
-/

namespace Schemata.Json.Value

mutual
/-- The upper document laid over the base. -/
def overlay (base : Value) : Value → Value
  | .object patch =>
    match base with
    | .object members => .object (overlayMembers members patch)
    | _ => .object patch
  | other => other

/-- The members of an upper object laid over those of a base. -/
def overlayMembers (base : List (String × Value)) : List (String × Value) → List (String × Value)
  | [] => base
  | (key, value) :: rest =>
    let joined :=
      match Entries.get? base key with
      | some below => overlay below value
      | none => value
    overlayMembers (Entries.put base key joined) rest
end

end Schemata.Json.Value
