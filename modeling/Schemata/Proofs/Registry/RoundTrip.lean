import Schemata.Proofs.Bundle.Bundled
import Schemata.Proofs.Registry.CacheTransparency
import Schemata.Proofs.Registry.Identity

/-!
# Compiling a composed document

A schema can be compiled by its name, or from its composed document, which then is bundled under its
identity, or under no name if it has none. Under no name a reference back to the schema leads to a
copy of it instead of to the document itself. So the two ways agree for documents with an identity,
and for those that nothing leads back to; elsewhere they give different documents.

    d has an identity ∨ no reference leads from d back to n → RoundTrips registry n d
    without keywords, RoundTrips registry n d → d has an identity ∨ no reference leads back
                                                                                  (roundTrips_iff)
-/

namespace Schemata

open Json (Value)
open Files (FileSystem)

def usable? (prepared : Except Failure Value) : Option Value :=
  prepared.toOption.filter fun document => (JsonSchema.compiles? document).isSome

def Resolved.prepared? : Resolved → Option Value
  | .compiled schema => some schema.document
  | .document _ => none

namespace Registry

/-! ## Algorithm -/

/-- A schema is the same compiled by its name as from its composed document: either fails, or they
give the same prepared document. -/
def RoundTrips (registry : Registry) (name : String) (document : Value) : Prop :=
  (registry.resolveCompiled name).toOption.map (·.1.document) =
    (registry.compile document).toOption.map (·.1.document)

/-- References lead from a document to a schema, perhaps through others. -/
def LeadsTo (registry : Registry) (document : Value) (name : String) : Prop :=
  Bundle.Reached "" registry.catalog.resolver
    (Bundle.targets "" (Bundle.bundleSource document)) name

/-- A document tells the name of its schema: it has an identity, or no reference asks for the
name. -/
def TellsName (registry : Registry) (name : String) (document : Value) : Prop :=
  (document.member? "$id").isSome ∨ ¬ registry.LeadsTo document name

end Registry

/-! ## Lemmas -/

theorem Engine.compile_document (engine : Engine) (serial : Nat) (name : String) (prepared : Value) :
    (engine.compile serial name prepared).toOption.map (·.document) = usable? (.ok prepared) := by
  unfold Engine.compile JsonSchema.Validator.ofSchema? usable?
  cases h : JsonSchema.compiles? prepared <;>
    simp [h, Except.toOption, Option.filter, Compiled.document]

/-- Documents that are bundled in the same way are prepared in the same way, if at all. -/
theorem Engine.prepare_eq_of_bundle (engine : Engine) {name name' : String} {document : Value}
    {resolver : Resolver} (h : bundle name document resolver = bundle name' document resolver) :
    (engine.prepare name document resolver).toOption =
      (engine.prepare name' document resolver).toOption := by
  unfold Engine.prepare
  rw [h]
  cases bundle name' document resolver with
  | error failure => rfl
  | ok bundled =>
    simp only [ok_bind]
    cases wrongValue? engine.keywords bundled <;> rfl

/-- Without keywords preparing is bundling. -/
theorem Engine.prepare_of_no_keywords {engine : Engine} (h : engine.keywords = []) (name : String)
    (document : Value) (resolver : Resolver) :
    engine.prepare name document resolver = bundle name document resolver := by
  unfold Engine.prepare
  rw [h]
  cases bundle name document resolver <;> rfl

namespace Registry

variable {registry : Registry} {hashed : List Stamped} {name : String} {document : Value}

theorem compile_document (registry : Registry) (document : Value) :
    (registry.compile document).toOption.map (·.1.document) =
      usable? (registry.engine.prepare
        (((document.member? "$id").bind Value.asString?).getD "") document
        registry.catalog.resolver) := by
  unfold compile
  dsimp only
  cases registry.engine.prepare (((document.member? "$id").bind Value.asString?).getD "") document
      registry.catalog.resolver with
  | error failure => rfl
  | ok prepared =>
    rw [ok_bind, ← Engine.compile_document registry.engine registry.nextSerial
      (((document.member? "$id").bind Value.asString?).getD "")]
    cases registry.engine.compile registry.nextSerial
      (((document.member? "$id").bind Value.asString?).getD "") prepared <;> rfl

theorem Remembers.resolveCompiled_document (h : Remembers registry hashed)
    (hfree : CollisionFree (hashed ++ registry.hashedBy (.resolve name {}))) :
    (registry.resolveCompiled name).toOption.map (·.1.document) =
      usable? (registry.prepared name) := by
  have houtcome := h.resolve_unnumbered name hfree true
  have hdocument : (registry.resolveCompiled name).toOption.map (·.1.document) =
      ((registry.resolve name {}).map (·.1.unnumbered)).toOption.bind Resolved.prepared? := by
    unfold resolveCompiled
    cases registry.resolve name {} with
    | error failure => rfl
    | ok result =>
      obtain ⟨resolved, after⟩ := result
      cases resolved <;> rfl
  rw [hdocument]
  refine (congrArg (fun outcome => outcome.toOption.bind Resolved.prepared?) houtcome).trans ?_
  cases registry.prepared name with
  | error failure => rfl
  | ok prepared =>
    rw [← Engine.compile_document registry.engine 0 name]
    show (((registry.engine.compile 0 name prepared).map Resolved.compiled).toOption.bind _) = _
    cases registry.engine.compile 0 name prepared <;> rfl

/-- Compiling by name prepares the composed document under that name. -/
theorem prepared_of_resolveDocument (htidy : registry.Tidy)
    (h : registry.resolveDocument name = .ok document) :
    registry.prepared name =
      registry.engine.prepare name document registry.catalog.resolver := by
  unfold resolveDocument Catalog.composeNamed at h
  unfold prepared
  cases hget : Entries.get? registry.catalog name with
  | none => rw [hget] at h; cases h
  | some schema =>
    rw [hget] at h
    dsimp only at h ⊢
    unfold Schema.prepareIn
    rw [h, htidy.name_eq hget]
    rfl

/-- A document with an identity is compiled under the name of its schema. -/
theorem identity_eq (h : Identified name document) (hid : (document.member? "$id").isSome) :
    ((document.member? "$id").bind Value.asString?).getD "" = name := by
  obtain ⟨members, rfl, hname⟩ := h
  obtain ⟨id, hget⟩ := Option.isSome_iff_exists.1 hid
  rw [hget, hname id hget]
  rfl

/-- A document that tells its name is bundled in the same way either time. -/
theorem roundTrips_of_tellsName (h : Remembers registry hashed)
    (hfree : CollisionFree (hashed ++ registry.hashedBy (.resolve name {})))
    (hdocument : registry.resolveDocument name = .ok document)
    (hidentified : Identified name document) (htells : registry.TellsName name document) :
    registry.RoundTrips name document := by
  have hbundle : bundle name document registry.catalog.resolver =
      bundle (((document.member? "$id").bind Value.asString?).getD "") document
        registry.catalog.resolver := by
    cases hid : document.member? "$id" with
    | some id => rw [← hid, identity_eq hidentified (by rw [hid]; rfl)]
    | none =>
      have hfar := htells.resolve_left (by rw [hid]; decide)
      exact Bundle.bundle_rootName hfar
  unfold RoundTrips
  rw [h.resolveCompiled_document hfree, prepared_of_resolveDocument h.tidy hdocument,
    compile_document]
  unfold usable?
  rw [Engine.prepare_eq_of_bundle registry.engine hbundle]

/-- A document without an identity that references lead back to gets a copy of itself when it is
compiled on its own. -/
theorem not_roundTrips_of_leadsTo (h : Remembers registry hashed)
    (hfree : CollisionFree (hashed ++ registry.hashedBy (.resolve name {})))
    (hdocument : registry.resolveDocument name = .ok document)
    (hplain : registry.engine.keywords = []) (htakes : Bundle.TakesCopies document)
    (hcompiled : (registry.resolveCompiled name).toOption.isSome)
    (hanonymous : document.member? "$id" = none) (hback : registry.LeadsTo document name) :
    ¬ registry.RoundTrips name document := by
  intro hround
  have hnamed := h.resolveCompiled_document hfree
  have hrootless := hround.symm.trans hnamed
  rw [prepared_of_resolveDocument h.tidy hdocument, Engine.prepare_of_no_keywords hplain] at hnamed
  obtain ⟨result, hresult⟩ := Option.isSome_iff_exists.1 hcompiled
  rw [hresult] at hnamed
  rw [compile_document, hanonymous, prepared_of_resolveDocument h.tidy hdocument,
    Engine.prepare_of_no_keywords hplain, Engine.prepare_of_no_keywords hplain] at hrootless
  rw [← hnamed] at hrootless
  obtain ⟨hok, -⟩ := Option.filter_eq_some_iff.1 hnamed.symm
  obtain ⟨hok', -⟩ := Option.filter_eq_some_iff.1 hrootless
  exact Bundle.bundle_ne_of_reached htakes hback (toOption_eq_some_iff.1 hok)
    (toOption_eq_some_iff.1 hok') rfl

/-! ## Top theorem -/

/-- In every history without colliding fingerprints, let a name be registered and have a composed
document. If the document has an identity, or no reference leads back from it to the name, the
schema is the same compiled by name as from the document. Where no keywords are installed and a
`$defs` is an object, a schema that can be compiled by name is the same from its document only then:
keywords may make two documents one again, and elsewhere copies find no place. -/
theorem roundTrips_iff (settings : Settings) (directory : String) (operations : List Operation)
    (name : String) (document : Value)
    (hdocument : ((new settings directory).run operations).resolveDocument name = .ok document)
    (hfree : CollisionFree
      ((new settings directory).hashedIn (operations ++ [.resolve name {}]))) :
    let registry := (new settings directory).run operations
    (registry.TellsName name document → registry.RoundTrips name document) ∧
    (registry.engine.keywords = [] → Bundle.TakesCopies document →
      (registry.resolveCompiled name).toOption.isSome →
        (registry.RoundTrips name document ↔ registry.TellsName name document)) := by
  intro registry
  have hremembers : Remembers registry _ := remembers_run settings directory operations
  rw [hashedIn_concat] at hfree
  change CollisionFree (_ ++ registry.hashedBy _) at hfree
  have hidentified := resolveDocument_identified settings directory operations hdocument
  have hsame := roundTrips_of_tellsName hremembers hfree hdocument hidentified
  refine ⟨hsame, fun hplain htakes hcompiled => ⟨fun hround => ?_, hsame⟩⟩
  cases hid : document.member? "$id" with
  | some id => exact Or.inl (by rw [hid]; rfl)
  | none =>
    refine Or.inr fun hback => ?_
    exact not_roundTrips_of_leadsTo hremembers hfree hdocument hplain htakes hcompiled hid hback
      hround

/-- A document without an identity that refers to the name of its file. -/
def selfReferring : Value :=
  .object [("properties", .object [("parent", .object [("$ref", .string "course")])])]

def courseFiles : FileSystem :=
  ⟨.directory [("course.schema.json", .file selfReferring.compact.toUTF8)], "/"⟩

theorem load_courseFiles : (Handle.file courseFiles "course.schema.json").load =
    .ok ⟨"course", selfReferring, some "course.schema.json", none, [], none⟩ := by
  have hparts : Files.parts (Files.join courseFiles.current "course.schema.json") =
      [.root, .name "course.schema.json"] := by decide +kernel
  have htext : courseFiles.readText "course.schema.json" = .ok selfReferring.compact := by
    have hutf8 : String.fromUTF8? selfReferring.compact.toUTF8 = some selfReferring.compact := by
      decide +kernel
    have hplace : courseFiles.place "course.schema.json" = .ok ["course.schema.json"] := by
      unfold FileSystem.place
      rw [hparts]
      simp [FileSystem.walk, courseFiles, Files.Tree.descend?, Entries.get?]
    have hlookup : courseFiles.lookup "course.schema.json" =
        .ok (.file selfReferring.compact.toUTF8) := by
      unfold FileSystem.lookup
      rw [hplace]
      rfl
    unfold FileSystem.readText
    rw [hlookup, ok_bind]
    dsimp only
    rw [hutf8]
  have hread : Value.read selfReferring.compact = .ok selfReferring := by
    rw [← toOption_eq_some_iff]
    decide +kernel
  show Discovery.load courseFiles "course.schema.json" = _
  unfold Discovery.load Schema.ofText
  rw [htext]
  dsimp only
  rw [hread]
  rfl

/-- References lead back to the document in the file, and it is not the same compiled on its own. -/
theorem not_roundTrips_of_file :
    ¬ ((new {} "").run
      [.register (.file courseFiles "course.schema.json") false]).RoundTrips "course"
        selfReferring := by
  have hperform : (new {} "").perform (.register (.file courseFiles "course.schema.json") false) =
      (new {} "").enter
        ⟨"course", selfReferring, some "course.schema.json", none, [], none⟩ true := by
    show Registry.after _ (Registry.registerLoaded _ (Handle.load _) false) = _
    rw [load_courseFiles]
    rfl
  have hdocument : ((new {} "").run
      [.register (.file courseFiles "course.schema.json") false]).resolveDocument "course" =
        .ok selfReferring := by
    rw [run_cons, hperform, ← toOption_eq_some_iff]
    decide +kernel
  have hfree : CollisionFree ((new {} "").hashedIn
      ([.register (.file courseFiles "course.schema.json") false] ++ [.resolve "course" {}])) := by
    rw [List.cons_append, hashedIn, hperform]
    decide +kernel
  have hiff := roundTrips_iff {} "" [.register (.file courseFiles "course.schema.json") false]
    "course" selfReferring hdocument hfree
  have htakes : Bundle.TakesCopies selfReferring :=
    ⟨_, rfl, fun defs h => by simp [Entries.get?] at h⟩
  rw [run_cons, hperform] at hiff ⊢
  intro hround
  rcases (hiff.2 rfl htakes (by decide +kernel)).1 hround with hid | hfar
  · exact absurd hid (by decide)
  · refine hfar (.asked ?_)
    decide +kernel

end Registry

end Schemata
