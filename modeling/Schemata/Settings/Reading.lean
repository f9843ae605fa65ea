import Schemata.Settings
import Schemata.Settings.Item

/-!
# Settings out of items

What items in the tables `registry`, `discovery` and `formats` mean as settings. Missing entries have
their defaults, and unknown ones do not count. The first two tables may also be lists of their values
in order.
-/

namespace Schemata.Settings

def itemsOf? (keys : List String) : Item → Option (List (Option Item))
  | .table entries => some (keys.map (Entries.get? entries))
  | .list items => some (keys.zipIdx.map fun (_, i) => items[i]?)
  | _ => none

/-- The value of an entry with a default. -/
def itemOr {α : Type} (default : α) (read? : Item → Option α) : Option Item → Option α
  | none => some default
  | some item => read? item

def policyOfItem? (item : Item) : Option Policy := do
  match ← itemsOf? ["cache_compiled", "validate_formats"] item with
  | [cache, formats] => do
    let cacheCompiled ← itemOr true Item.bool? cache
    let validateFormats ← itemOr true Item.bool? formats
    pure { cacheCompiled, validateFormats }
  | _ => none

def textsOfItem? : Item → Option (List String)
  | .list items => items.mapM Item.text?
  | _ => none

/-- Roots and the time to wait. -/
def discoveryOfItem? (item : Item) : Option (List String × Nat) := do
  match ← itemsOf? ["roots", "read_timeout_ms"] item with
  | [roots, timeout] => do
    let roots ← itemOr [] textsOfItem? roots
    let timeout ← itemOr 5000 Item.word? timeout
    pure (roots, timeout)
  | _ => none

def textsByName? : Item → Option (Entries String)
  | .table entries => entries.mapM fun (name, item) => item.text?.map fun text => (name, text)
  | _ => none

def ofItem? (item : Item) : Option Settings := do
  match ← itemsOf? ["registry", "discovery", "formats"] item with
  | [policy, discovery, formats] => do
    let policy ← itemOr {} policyOfItem? policy
    let (roots, readTimeout) ← itemOr ([], 5000) discoveryOfItem? discovery
    let formats ← itemOr [] textsByName? formats
    pure { policy, roots, readTimeout, formats }
  | _ => none

end Schemata.Settings
