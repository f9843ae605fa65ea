import Schemata.Proofs.Bundle.Closure
import Schemata.Proofs.EntryOrder

/-!
# Bundles

A bundle is the rewritten document with a copy of every schema that its references reach, each under
a key of its own. A document takes copies up if its `$defs`, if it has any, is an object; it has so
many definitions more then.

    bundle n d = .ok out → a copy of each schema that is reached, and no other        (bundle_ok)
    n is not reached → bundle n d = bundle "" d                               (bundle_rootName)
    n is reached → bundle n d ≠ bundle "" d                              (bundle_ne_of_reached)
    the definitions of out = those of d, and as many as are reached       (definitions_bundle)
-/

namespace Schemata.Bundle

open Json (Value)

def bundleSource (document : Value) : Value := document.withoutMember "$id"

/-- Whether copies find a place in a document: its `$defs`, if there is one, is an object. -/
def TakesCopies (document : Value) : Prop :=
  ∃ members, document = .object members ∧
    ∀ defs, Entries.get? members "$defs" = some defs → ∃ entries, defs = .object entries

/-! ## Keys of copies -/

variable {rootName : String} {resolver : Resolver} {initial done : List String} {state : State}
  {copies : List (String × Value)} {names : List String} {keys : DefKeys}

theorem Copied.names_nodup (h : Copied rootName resolver initial done state copies names keys) :
    names.Nodup := by
  have hnames := h.distinct.names
  rw [h.order] at hnames
  exact (List.nodup_append.1 ((List.reverse_perm _).nodup_iff.1 hnames)).2.1

theorem Copied.length_eq (h : Copied rootName resolver initial done state copies names keys) :
    copies.length = names.length := by
  have hlength := congrArg List.length h.keyed
  rwa [List.length_map, List.length_map] at hlength

theorem Copied.lookup_of_mem (h : Copied rootName resolver initial done state copies names keys)
    {name : String} (hmem : name ∈ names) :
    ∃ key, keys.byName.lookup name = some key := by
  have hkeyed : keys.byName.lookup name ∈ copies.map fun copy => some copy.1 := by
    rw [h.keyed]
    exact List.mem_map_of_mem hmem
  obtain ⟨copy, -, heq⟩ := List.mem_map.1 hkeyed
  exact ⟨copy.1, heq.symm⟩

/-- Copies are under different keys. -/
theorem Copied.fresh (h : Copied rootName resolver initial done state copies names keys) :
    (copies.map (·.1)).Nodup := by
  have hkeys : (names.map fun name => keys.byName.lookup name).Nodup := by
    unfold List.Nodup
    rw [List.pairwise_map]
    refine h.names_nodup.imp_of_mem fun hname hother hne heq => hne ?_
    obtain ⟨key, hkey⟩ := h.lookup_of_mem hname
    exact h.distinct.injective hkey (heq ▸ hkey)
  rw [← h.keyed] at hkeys
  unfold List.Nodup at hkeys ⊢
  rw [List.pairwise_map] at hkeys ⊢
  exact hkeys.imp fun hne heq => hne (congrArg some heq)

/-- Copies are under keys that the document did not have. -/
theorem Copied.apart (h : Copied rootName resolver initial done state copies names keys) :
    ∀ key ∈ copies.map (·.1), key ∉ initial := by
  intro key hkey
  obtain ⟨copy, hcopy, rfl⟩ := List.mem_map.1 hkey
  have hkeyed : some copy.1 ∈ names.map fun name => keys.byName.lookup name := by
    rw [← h.keyed]
    exact List.mem_map_of_mem hcopy
  obtain ⟨name, -, hlookup⟩ := List.mem_map.1 hkeyed
  obtain ⟨before, behind, hsplit, -⟩ := List.lookup_eq_some_iff.1 hlookup
  apply h.distinct.apart
  rw [hsplit]
  simp

/-! ## Adding copies -/

theorem length_foldl_put (copies : List (String × Value)) (defs : Entries Value)
    (hfresh : (copies.map (·.1)).Nodup)
    (hapart : ∀ key ∈ copies.map (·.1), key ∉ Entries.keys defs) :
    (copies.foldl (fun defs copy => Entries.put defs copy.1 copy.2) defs).length =
      defs.length + copies.length := by
  induction copies generalizing defs with
  | nil => rfl
  | cons copy copies ih =>
    rw [List.map_cons, List.nodup_cons] at hfresh
    rw [List.foldl_cons, ih _ hfresh.2, Entries.length_put_of_not_mem]
    · rw [List.length_cons]
      omega
    · exact hapart copy.1 List.mem_cons_self
    · intro key hkey hmem
      rcases (Entries.mem_keys_put defs copy.1 copy.2 key).1 hmem with rfl | hold
      · exact hfresh.1 hkey
      · exact hapart key (List.mem_cons_of_mem copy.1 hkey) hold

/-- Copies under new keys are so many definitions more. -/
theorem existingKeys_addCopies {document : Value} (htakes : TakesCopies document)
    (hfresh : (copies.map (·.1)).Nodup)
    (hapart : ∀ key ∈ copies.map (·.1), key ∉ existingKeys document) :
    (existingKeys (addCopies document copies)).length =
      (existingKeys document).length + copies.length := by
  obtain ⟨members, rfl, hdefs⟩ := htakes
  cases copies with
  | nil => rfl
  | cons copy copies =>
    have hcount : ∀ defs : Entries Value, existingKeys (.object members) = Entries.keys defs →
        (Entries.get? members "$defs").getD (.object []) = .object defs →
        (existingKeys (addCopies (.object members) (copy :: copies))).length =
          (existingKeys (.object members)).length + (copy :: copies).length := by
      intro defs hkeys hget
      rw [hkeys] at hapart ⊢
      have hlength := length_foldl_put (copy :: copies) defs hfresh hapart
      unfold addCopies
      dsimp only [List.isEmpty_cons]
      rw [if_neg (by simp), hget]
      dsimp only
      unfold existingKeys Value.member?
      dsimp only
      rw [Entries.get?_put_self]
      simp only [Entries.keys, List.length_map] at hlength ⊢
      exact hlength
    cases hget : Entries.get? members "$defs" with
    | none =>
      exact hcount [] (by simp [existingKeys, Value.member?, hget, Entries.keys])
        (by rw [hget]; rfl)
    | some defs =>
      obtain ⟨entries, rfl⟩ := hdefs defs hget
      exact hcount entries (by simp [existingKeys, Value.member?, hget]) (by rw [hget]; rfl)

/-! ## Definitions through bundling -/

theorem existingKeys_bundleSource (document : Value) :
    existingKeys (bundleSource document) = existingKeys document := by
  cases document with
  | object members =>
    unfold existingKeys bundleSource Value.withoutMember Value.member?
    dsimp only
    rw [Entries.get?_without, if_neg (by decide)]
  | _ => rfl

theorem TakesCopies.bundleSource {document : Value} (h : TakesCopies document) :
    TakesCopies (bundleSource document) := by
  obtain ⟨members, rfl, hdefs⟩ := h
  refine ⟨Entries.without members "$id", rfl, fun defs hget => ?_⟩
  rw [Entries.get?_without, if_neg (by decide)] at hget
  exact hdefs defs hget

/-- Rewriting a document leaves its definitions under their keys. -/
theorem TakesCopies.rewrite {scope : Scope} {document : Value} (h : TakesCopies document)
    {result : Value × State} (hrewrite : rewrite scope document state = .ok result) :
    TakesCopies result.1 ∧ existingKeys result.1 = existingKeys document := by
  obtain ⟨members, rfl, hdefs⟩ := h
  obtain ⟨rewritten, hmembers, rfl⟩ := rewrite_object hrewrite
  unfold TakesCopies existingKeys Value.member?
  dsimp only
  cases hget : Entries.get? members "$defs" with
  | none =>
    have hnone : Entries.get? rewritten.1 "$defs" = none := by
      rw [Entries.get?_eq_none_iff, keys_rewriteMembers hmembers, ← Entries.get?_eq_none_iff]
      exact hget
    rw [hnone]
    exact ⟨⟨rewritten.1, rfl, fun defs h => by rw [hnone] at h; cases h⟩, rfl⟩
  | some defs =>
    obtain ⟨entries, rfl⟩ := hdefs defs hget
    obtain ⟨before, turned, hmember, hget'⟩ := get?_rewriteMembers hmembers hget
    obtain ⟨inner, hinner, rfl⟩ := rewrite_object hmember
    rw [hget']
    refine ⟨⟨rewritten.1, rfl, fun defs h => ?_⟩, keys_rewriteMembers hinner⟩
    rw [hget'] at h
    cases h
    exact ⟨inner.1, rfl⟩

/-! ## Top theorems -/

/-- Unless references lead back to it, the bundled document may as well have no name. -/
theorem bundle_rootName {document : Value}
    (hfree : ¬ Reached "" resolver (targets "" (bundleSource document)) rootName) :
    bundle rootName document resolver = bundle "" document resolver := by
  have hfar : rootName ∉ targets "" (bundleSource document) := fun h => hfree (.asked h)
  unfold bundle
  show (rewrite _ (bundleSource document) _).bind _ = (rewrite _ (bundleSource document) _).bind _
  rw [rewrite_rootName _ hfar]
  cases hrewrite : Bundle.rewrite ⟨"", none, resolver⟩ (bundleSource document)
      ⟨DefKeys.start (existingKeys (document.withoutMember "$id")), []⟩ with
  | error failure => rfl
  | ok result =>
    have hqueue : ∀ name ∈ result.2.queue,
        Reached "" resolver (targets "" (bundleSource document)) name := by
      intro name hmem
      rcases (rewrite_asks hrewrite).grown.queue name hmem with hold | hasked
      · cases hold
      · exact .asked hasked
    show (copyQueue _ _ _ result.2).bind _ = (copyQueue _ _ _ result.2).bind _
    rw [copyQueue_rootName hfree hqueue]

/-- The run that ends with a bundle. It copies the schemas that are reached, and no other. -/
theorem bundle_ok_run {document out : Value} (h : bundle rootName document resolver = .ok out) :
    ∃ root copies names keys,
      rewrite ⟨rootName, none, resolver⟩ (bundleSource document)
          ⟨DefKeys.start (existingKeys document), []⟩ = .ok root ∧
        copyQueue rootName resolver (resolver.names.length + 1) root.2 = .ok copies ∧
        Copied rootName resolver (existingKeys document) [] root.2 copies names keys ∧
        (∀ name, name ∈ names ↔
          Reached rootName resolver (targets rootName (bundleSource document)) name) ∧
        out = addCopies root.1 copies := by
  obtain ⟨root, hroot, h⟩ := bind_eq_ok_iff.1 h
  obtain ⟨copies, hcopies, h⟩ := bind_eq_ok_iff.1 h
  cases h
  have hkeys := existingKeys_bundleSource document
  unfold bundleSource at hkeys
  rw [hkeys] at hroot
  have hgrown := (rewrite_asks hroot).grown
  have hunderway := underway_start hroot
  obtain ⟨names, keys, hcopied⟩ := copyQueue_ok hunderway (Nat.lt_succ_self _) hcopies
  refine ⟨root, copies, names, keys, hroot, hcopies, hcopied,
    fun name => ⟨fun hmem => ?_, fun hname => ?_⟩, rfl⟩
  · refine (hcopied.reached name hmem).trans fun other hother => ?_
    rcases hgrown.queue other hother with hold | hasked
    · cases hold
    · exact .asked hasked
  · induction hname with
    | @asked name hstart =>
      have hkeyed : name ∈ root.2.keys.names := (hgrown.names name).2 (Or.inr hstart)
      rw [hunderway.balanced, List.nil_append, List.mem_reverse] at hkeyed
      exact hcopied.queued hkeyed
    | copied _ hresolve htarget ih =>
      obtain ⟨document, hdocument, htargets⟩ := hcopied.closed _ ih
      rw [hresolve] at hdocument
      cases hdocument
      exact htargets htarget

/-- A bundle has a copy of every schema that is reached, under a key of its own, and no other. -/
theorem bundle_ok {document out : Value} (h : bundle rootName document resolver = .ok out) :
    ∃ root copies names keys,
      rewrite ⟨rootName, none, resolver⟩ (bundleSource document)
          ⟨DefKeys.start (existingKeys document), []⟩ = .ok root ∧
        Copied rootName resolver (existingKeys document) [] root.2 copies names keys ∧
        (∀ name, name ∈ names ↔
          Reached rootName resolver (targets rootName (bundleSource document)) name) ∧
        out = addCopies root.1 copies := by
  obtain ⟨root, copies, names, keys, hroot, -, hcopied, hreached, hout⟩ := bundle_ok_run h
  exact ⟨root, copies, names, keys, hroot, hcopied, hreached, hout⟩

/-- Bundling adds so many definitions to a document as there are schemas that it reaches. -/
theorem definitions_bundle {document out : Value} (htakes : TakesCopies document)
    (h : bundle rootName document resolver = .ok out) :
    ∃ names : List String, names.Nodup ∧
      (∀ name, name ∈ names ↔
        Reached rootName resolver (targets rootName (bundleSource document)) name) ∧
      (existingKeys out).length = (existingKeys document).length + names.length := by
  obtain ⟨root, copies, names, keys, hroot, hcopied, hreached, rfl⟩ := bundle_ok h
  obtain ⟨htakes', hkeys⟩ := htakes.bundleSource.rewrite hroot
  rw [existingKeys_bundleSource] at hkeys
  refine ⟨names, hcopied.names_nodup, hreached, ?_⟩
  rw [← hcopied.length_eq, ← hkeys]
  refine existingKeys_addCopies htakes' hcopied.fresh ?_
  rw [hkeys]
  exact hcopied.apart

/-- A document that references lead back to is another bundle without its name: one with a copy of
itself. -/
theorem bundle_ne_of_reached {document named rootless : Value} (htakes : TakesCopies document)
    (hreached : Reached "" resolver (targets "" (bundleSource document)) rootName)
    (hnamed : bundle rootName document resolver = .ok named)
    (hrootless : bundle "" document resolver = .ok rootless) : named ≠ rootless := by
  obtain ⟨names, hnodup, hnames, hlength⟩ := definitions_bundle htakes hnamed
  obtain ⟨names', -, hnames', hlength'⟩ := definitions_bundle htakes hrootless
  have hroot : rootName ∉ names := fun hmem =>
    ((hnames rootName).1 hmem).ne_root (rootName_not_mem_targets _ _) rfl
  have hsub : rootName :: names ⊆ names' := by
    intro name hmem
    rw [hnames']
    rcases List.mem_cons.1 hmem with rfl | hmem
    · exact hreached
    · exact ((hnames name).1 hmem).rootless (targets_subset rootName _)
  have hmore := (List.nodup_cons.2 ⟨hroot, hnodup⟩).length_le_of_subset hsub
  rintro rfl
  rw [List.length_cons] at hmore
  omega

end Schemata.Bundle
