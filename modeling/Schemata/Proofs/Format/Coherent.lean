import Schemata.Proofs.Format.Guarded
import Schemata.Proofs.Pattern.Counts

/-!
# A guarded format is of one piece

What the guard hands out tells the same in three places: the verdict, the text of the installed
pattern, and the node that is run. A format whose pattern was replaced runs no node and takes every
text. The permissive pattern is found in every text too, line breaks or not, and passes the guard
itself, so that a request for it is no replacement.

    the permissive pattern compiles                                           (compile_permissive)
    it is found in every text                                            (finds_permissivePattern)
    verdict, installed pattern and search of every format agree                   (guard_coherent)
-/

namespace Schemata.Format

open Pattern (Node Chain)

/-! ## Algorithm -/

/-- A search of a pattern in a text, wherever in it, succeeds. -/
def Finds (pattern text : String) : Prop :=
  ∃ parsed node, Pattern.read pattern = .ok parsed ∧ parsed.meaning = .ok node ∧
    node.FoundIn text.toList

/-- Verdict, installed pattern and matching of a format agree. -/
structure GuardedFormat.Coherent (format : GuardedFormat) : Prop where
  /-- A safe pattern is installed, and the permissive one in place of any other. -/
  installed : format.installed =
    if format.verdict = .safe then format.requested else permissivePattern
  /-- The pattern is replaced exactly if the verdict is not safe. -/
  substituted : format.substituted = true ↔ format.verdict ≠ .safe
  /-- What is installed passes the guard itself. -/
  analyzed : analyze format.installed = .safe
  /-- It compiles. -/
  compiles : ∃ node, compile format.installed = .ok node
  /-- The texts of the format are those in which it is found. -/
  isMatch : ∀ text, format.isMatch text = true ↔ Finds format.installed text

/-- What the permissive pattern means: all characters from the start of a text up to its end. -/
def permissiveNode : Node :=
  .concat [.empty, .look .textStart, .repetition 0 none (.one [(0, Unicode.lastCodePoint)]),
    .look .textEnd]

variable {node : Node} {pattern text : String}

/-! ## Patterns that compile -/

theorem analyze_of_compile (h : compile pattern = .ok node) : analyze pattern = .safe := by
  obtain ⟨parsed, hread, hnone, -⟩ := compile_ok h
  exact (analyze_eq_safe_iff hread).2 hnone

/-- A pattern that compiles to a node is found wherever the node matches. -/
theorem finds_iff_matchesIn (h : compile pattern = .ok node) (text : String) :
    Finds pattern text ↔ node.matchesIn text = true := by
  obtain ⟨parsed, hread, -, hmeaning⟩ := compile_ok h
  rw [Pattern.matchesIn_iff_foundIn (Pattern.ordered_of_meaning hread hmeaning)]
  constructor
  · rintro ⟨other, found, hother, hfound, hspans⟩
    rw [hread] at hother
    cases hother
    rw [hmeaning] at hfound
    cases hfound
    exact hspans
  · intro hspans
    exact ⟨parsed, node, hread, hmeaning, hspans⟩

/-! ## The permissive pattern -/

theorem compile_permissive : compile permissivePattern = .ok permissiveNode := by rfl

/-- Any character after any other, up to the end of a text. -/
theorem chain_any (chars : List Char) : ∀ count start, start + count ≤ chars.length →
    Chain ((Node.one [(0, Unicode.lastCodePoint)]).Spans chars) count start (start + count) := by
  intro count
  induction count with
  | zero => exact fun start _ => rfl
  | succ count ih =>
    intro start hend
    have hstart : start < chars.length := by omega
    have hany : Unicode.CodeRanges.contains [(0, Unicode.lastCodePoint)]
        chars[start].toNat = true := by
      have hlast : chars[start].toNat ≤ Unicode.lastCodePoint := by
        rcases chars[start].valid with hlow | ⟨-, hhigh⟩
        · exact Nat.le_trans (Nat.le_of_lt hlow) (by decide)
        · exact Nat.le_of_lt_succ hhigh
      simpa [Unicode.CodeRanges.contains] using hlast
    refine ⟨start + 1, ⟨⟨chars[start], List.getElem?_eq_getElem hstart, hany⟩, rfl⟩, ?_⟩
    have hrest := ih (start + 1) (by omega)
    rwa [Nat.add_right_comm] at hrest

theorem foundIn_permissiveNode (chars : List Char) : permissiveNode.FoundIn chars := by
  have hall := chain_any chars chars.length 0 (Nat.le_of_eq (Nat.zero_add _))
  rw [Nat.zero_add] at hall
  have hspans : (Node.repetition 0 none (.one [(0, Unicode.lastCodePoint)])).Spans chars 0
      chars.length :=
    ⟨chars.length, Nat.zero_le _, (fun limit hlimit => nomatch hlimit), hall⟩
  have hstart : Pattern.Look.holds .textStart (chars.take 0).getLast? chars[0]? = true := rfl
  have hend : Pattern.Look.holds .textEnd (chars.take chars.length).getLast?
      chars[chars.length]? = true := by
    rw [List.getElem?_eq_none (Nat.le_refl _)]
    rfl
  exact ⟨0, chars.length, Nat.zero_le _, 0, rfl, 0, ⟨hstart, rfl⟩, chars.length, hspans,
    chars.length, ⟨hend, rfl⟩, rfl⟩

/-- The permissive pattern is found in every text. -/
theorem finds_permissivePattern (text : String) : Finds permissivePattern text := by
  obtain ⟨parsed, hread, -, hmeaning⟩ := compile_ok compile_permissive
  exact ⟨parsed, permissiveNode, hread, hmeaning, foundIn_permissiveNode text.toList⟩

/-! ## Top theorem -/

/-- Under every name, for every pattern, the guard hands out a format of that name and request in
which verdict, installed pattern and matching agree. -/
theorem guard_coherent (name pattern : String) :
    (guard name pattern).name = name ∧ (guard name pattern).requested = pattern ∧
      (guard name pattern).Coherent := by
  unfold guard
  cases hcompile : compile pattern with
  | ok node =>
    refine ⟨rfl, rfl, (if_pos rfl).symm, ?_, analyze_of_compile hcompile, ⟨node, hcompile⟩, ?_⟩
    · simp [GuardedFormat.substituted]
    · intro text
      exact (finds_iff_matchesIn hcompile text).symm
  | error hazard =>
    refine ⟨rfl, rfl, (if_neg (by simp)).symm, ?_, analyze_of_compile compile_permissive,
      ⟨_, compile_permissive⟩, ?_⟩
    · have hother : permissivePattern ≠ pattern := by
        rintro rfl
        rw [compile_permissive] at hcompile
        cases hcompile
      simp [GuardedFormat.substituted, hother]
    · intro text
      exact iff_of_true rfl (finds_permissivePattern text)

end Schemata.Format
