import Schemata.Json.Reader
import Schemata.Proofs.Json.Overlay
import Schemata.Proofs.Outcomes

/-!
# What is read is ordered

A reader puts each member of an object at its place among those that it has read, so that whatever
it reads is ordered.

    readValue d c n = .ok (v, c') → v is ordered                           (ordered_of_readValue)
    Value.read text = .ok v → v is ordered                                       (Ordered.of_read)
-/

namespace Schemata.Json

/-- A literal stands for one value. -/
theorem readLiteral_eq {c after : Cursor} {value out : Value} {wanted : List Char}
    (h : readLiteral c value wanted = .ok (out, after)) : out = value := by
  induction wanted generalizing c with
  | nil =>
    cases h
    rfl
  | cons x wanted ih =>
    unfold readLiteral at h
    split at h
    · cases h
    · split at h
      · exact ih h
      · cases h

mutual
/-- The first value read is ordered, whatever is behind it. -/
theorem ordered_of_readValue : ∀ (fuel : Nat) {depth : Nat} {c after : Cursor} {out : Value},
    readValue depth c fuel = .ok (out, after) → out.Ordered
  | 0, _, _, _, _, h => by cases h
  | fuel + 1, depth, c, after, out, h => by
    unfold readValue at h
    dsimp only at h
    split at h
    · cases h
    -- the three literals
    · rw [readLiteral_eq h]
      exact .null
    · rw [readLiteral_eq h]
      exact .bool true
    · rw [readLiteral_eq h]
      exact .bool false
    -- a negative number and a string
    · obtain ⟨⟨n, later⟩, -, h⟩ := bind_eq_ok_iff.1 h
      cases h
      exact .number n
    · obtain ⟨⟨s, later⟩, -, h⟩ := bind_eq_ok_iff.1 h
      cases h
      exact .string s
    -- an array and an object, which have to be opened first
    · cases depth with
      | zero => cases h
      | succ depth => exact ordered_of_readItems fuel (List.forall_mem_nil _) h
    · cases depth with
      | zero => cases h
      | succ depth =>
        exact ordered_of_readMembers fuel (.object Entries.ascending_nil (List.forall_mem_nil _)) h
    -- a digit, or a fault
    · split at h
      · obtain ⟨⟨n, later⟩, -, h⟩ := bind_eq_ok_iff.1 h
        cases h
        exact .number n
      · cases h

theorem ordered_of_readItems : ∀ (fuel : Nat) {depth : Nat} {c after : Cursor} {read : List Value}
    {out : Value}, (∀ item ∈ read, item.Ordered) → readItems depth c read fuel = .ok (out, after) →
      out.Ordered
  | 0, _, _, _, _, _, _, h => by cases h
  | fuel + 1, depth, c, after, read, out, hread, h => by
    unfold readItems at h
    dsimp only at h
    split at h
    · cases h
    · cases h
      exact .array fun item hitem => hread item (List.mem_reverse.1 hitem)
    · split at h
      · obtain ⟨⟨value, later⟩, hvalue, h⟩ := bind_eq_ok_iff.1 h
        have hordered := ordered_of_readValue fuel hvalue
        exact ordered_of_readItems fuel (List.forall_mem_singleton.2 hordered) h
      · split at h
        · split at h
          · cases h
          · cases h
          · obtain ⟨⟨value, later⟩, hvalue, h⟩ := bind_eq_ok_iff.1 h
            have hordered := ordered_of_readValue fuel hvalue
            exact ordered_of_readItems fuel (List.forall_mem_cons.2 ⟨hordered, hread⟩) h
        · cases h

theorem ordered_of_readMembers : ∀ (fuel : Nat) {depth : Nat} {c after : Cursor}
    {read : List (String × Value)} {first : Bool} {out : Value}, (Value.object read).Ordered →
      readMembers depth c read first fuel = .ok (out, after) → out.Ordered
  | 0, _, _, _, _, _, _, _, h => by cases h
  | fuel + 1, depth, c, after, read, first, out, hread, h => by
    unfold readMembers at h
    dsimp only at h
    split at h
    · cases h
    · cases h
      exact hread
    · split at h
      · split at h
        · exact ordered_of_readMember fuel hread h
        · cases h
        · cases h
        · cases h
      · split at h
        · cases h
        · split at h
          · exact ordered_of_readMember fuel hread h
          · cases h

theorem ordered_of_readMember : ∀ (fuel : Nat) {depth : Nat} {c after : Cursor}
    {read : List (String × Value)} {out : Value}, (Value.object read).Ordered →
      readMember depth c read fuel = .ok (out, after) → out.Ordered
  | 0, _, _, _, _, _, _, h => by cases h
  | fuel + 1, depth, c, after, read, out, hread, h => by
    unfold readMember at h
    obtain ⟨⟨key, afterKey⟩, -, h⟩ := bind_eq_ok_iff.1 h
    obtain ⟨afterColon, -, h⟩ := bind_eq_ok_iff.1 h
    obtain ⟨⟨value, later⟩, hvalue, h⟩ := bind_eq_ok_iff.1 h
    exact ordered_of_readMembers fuel (hread.put key (ordered_of_readValue fuel hvalue)) h
end

/-- A document that is read is ordered. -/
theorem Value.Ordered.of_read {text : String} {out : Value} (h : Value.read text = .ok out) :
    out.Ordered := by
  obtain ⟨⟨value, later⟩, hvalue, h⟩ := bind_eq_ok_iff.1 h
  dsimp only at h
  split at h
  · cases h
    exact ordered_of_readValue _ hvalue
  · cases h

end Schemata.Json
