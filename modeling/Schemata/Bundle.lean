import Schemata.Failure
import Schemata.Json.Pointer
import Schemata.Text.Words

/-!
# Bundling

Makes a document self-contained: every schema that its references reach is copied into its `$defs`,
and the references are turned to the copies.

    "address#/zip"  becomes  "#/$defs/address/zip"     (a registered schema)
    "#/zip"         becomes  "#/$defs/address/zip"     (inside the copy of `address`)
    "root#/zip"     becomes  "#/zip"                   (the document itself)

Copies are keyed by the names of their schemas, with a number behind them where a key is taken.
-/

namespace Schemata

open Json (Value)

/-- Access to registered schemas while bundling. -/
structure Resolver where
  /-- The registered names. -/
  names : List String
  /-- The merged document of a registered name. -/
  resolve : String → Except Failure Value

namespace Bundle

/-! ## Keys -/

/-- The keys of copies: which names have one, and which keys are taken. -/
structure DefKeys where
  /-- The keys by name. -/
  byName : List (String × String)
  /-- The keys that are taken. -/
  taken : List String
  deriving DecidableEq, Repr

/-- A character of a key: letters, digits and three signs stay, all else is an underscore. -/
def keyChar (c : Char) : Char :=
  if c.isAlphanum || c = '_' || c = '-' || c = '.' then c else '_'

def baseKey (name : String) : String := String.ofList (name.toList.map keyChar)

/-- The first key with a number behind the base that is free, from a number on. -/
def freeNumbered (taken : List String) (base : String) : Nat → Nat → String
  | 0, number => base ++ "_" ++ toString number
  | fuel + 1, number =>
    let key := base ++ "_" ++ toString number
    if taken.contains key then freeNumbered taken base fuel (number + 1) else key

/-- The base itself if it is free, else the first free numbered key. Among one candidate more than
there are taken keys one is free. -/
def freeKey (taken : List String) (base : String) : String :=
  if taken.contains base then freeNumbered taken base taken.length 1 else base

namespace DefKeys

def start (taken : List String) : DefKeys := ⟨[], taken⟩

def hasName (keys : DefKeys) (name : String) : Bool := (keys.byName.lookup name).isSome

/-- The key of a name; a name without one gets one. -/
def keyFor (keys : DefKeys) (name : String) : String × DefKeys :=
  match keys.byName.lookup name with
  | some key => (key, keys)
  | none =>
    let key := freeKey keys.taken (baseKey name)
    (key, ⟨(name, key) :: keys.byName, key :: keys.taken⟩)

end DefKeys

/-! ## References -/

/-- What bundling has met so far. -/
structure State where
  /-- The keys of copies. -/
  keys : DefKeys
  /-- The names whose documents are still to be copied, in order. -/
  queue : List String
  deriving DecidableEq, Repr

/-- What stays the same within one document. -/
structure Scope where
  /-- The name of the bundled document. -/
  rootName : String
  /-- The key of the copy, unless it is the bundled document itself. -/
  key : Option String
  /-- The registered schemas. -/
  resolver : Resolver

/-- The reference to a fragment of the copy under a key. An anchor stays as it is. -/
def referenceInto (key fragment : String) : String :=
  if fragment.isEmpty ∨ Text.startsWith '/' fragment then
    "#/$defs/" ++ Json.escapeStep key ++ fragment
  else "#" ++ fragment

/-- A reference turned to a copy. -/
def rewriteReference (scope : Scope) (reference : String) (state : State) :
    Except Failure (String × State) :=
  let target := Text.before '#' reference
  let fragment := Text.behind '#' reference
  if target.isEmpty then
    match scope.key with
    | some key => .ok (referenceInto key fragment, state)
    | none => .ok (reference, state)
  else if target = scope.rootName then .ok ("#" ++ fragment, state)
  else if ¬ scope.resolver.names.contains target then .error (.schemaNotFound target)
  else
    let (key, keys) := state.keys.keyFor target
    let queue := if state.keys.hasName target then state.queue else state.queue ++ [target]
    .ok (referenceInto key fragment, ⟨keys, queue⟩)

mutual
/-- A document with its references turned to copies. -/
def rewrite (scope : Scope) : Value → State → Except Failure (Value × State)
  | .object members, state => do
    let (members, state) ← rewriteMembers scope members state
    pure (.object members, state)
  | .array items, state => do
    let (items, state) ← rewriteItems scope items state
    pure (.array items, state)
  | other, state => .ok (other, state)

/-- A list of documents with their references turned to copies. -/
def rewriteItems (scope : Scope) : List Value → State → Except Failure (List Value × State)
  | [], state => .ok ([], state)
  | item :: items, state => do
    let (item, state) ← rewrite scope item state
    let (items, state) ← rewriteItems scope items state
    pure (item :: items, state)

/-- Members with their references turned to copies. A `$ref` that is no text is left alone. -/
def rewriteMembers (scope : Scope) :
    List (String × Value) → State → Except Failure (List (String × Value) × State)
  | [], state => .ok ([], state)
  | (key, member) :: members, state => do
    let (member, state) ←
      if key = "$ref" then
        match member with
        | .string reference => do
          let (reference, state) ← rewriteReference scope reference state
          pure (Value.string reference, state)
        | other => pure (other, state)
      else rewrite scope member state
    let (members, state) ← rewriteMembers scope members state
    pure ((key, member) :: members, state)
end

/-! ## Documents -/

/-- Copies the documents of the queue, and of whatever the copies add to it. Each name enters the
queue once, so that the number of registered names is fuel enough. -/
def copyQueue (rootName : String) (resolver : Resolver) :
    Nat → State → Except Failure (List (String × Value))
  | 0, _ => .ok []
  | fuel + 1, state =>
    match state.queue with
    | [] => .ok []
    | name :: queue => do
      let (key, keys) := state.keys.keyFor name
      let document ← resolver.resolve name
      let document := (document.withoutMember "$id").withoutMember "$schema"
      let (copy, state) ← rewrite ⟨rootName, some key, resolver⟩ document ⟨keys, queue⟩
      let copies ← copyQueue rootName resolver fuel state
      pure ((key, copy) :: copies)

/-- The keys that a document already has in its `$defs`. -/
def existingKeys (document : Value) : List String :=
  match document.member? "$defs" with
  | some (.object defs) => Entries.keys defs
  | _ => []

/-- A document with copies in its `$defs`. Without copies it is left alone, and so is a `$defs` that
is no object. -/
def addCopies (document : Value) (copies : List (String × Value)) : Value :=
  match document with
  | .object members =>
    if copies.isEmpty then document
    else
      match (Entries.get? members "$defs").getD (.object []) with
      | .object defs =>
        let defs := copies.foldl (fun defs copy => Entries.put defs copy.1 copy.2) defs
        .object (Entries.put members "$defs" (.object defs))
      | _ => document
  | other => other

end Bundle

/-- The document with all schemas that its references reach, and without its own identity. -/
def bundle (rootName : String) (document : Value) (resolver : Resolver) : Except Failure Value := do
  let root := document.withoutMember "$id"
  let start : Bundle.State := ⟨Bundle.DefKeys.start (Bundle.existingKeys root), []⟩
  let (root, state) ← Bundle.rewrite ⟨rootName, none, resolver⟩ root start
  let copies ← Bundle.copyQueue rootName resolver (resolver.names.length + 1) state
  pure (Bundle.addCopies root copies)

end Schemata
