import Pinpoint.Text.Sorted

/-!
# Sorted names as sets

Sorting names and dropping repeated ones leaves a list that is determined by which names occur:
it is strictly ascending, and a strictly ascending list is known by its members.
-/

namespace Pinpoint

/-- Dropping repeated elements leaves none twice. -/
theorem nodup_eraseDups {α : Type} [BEq α] [LawfulBEq α] (values : List α) :
    values.eraseDups.Nodup := by
  -- The definition goes on with the elements that differ from the first, hence the length.
  induction size : values.length using Nat.strongRecOn generalizing values with
  | ind length ih =>
      cases values with
      | nil => exact .nil
      | cons value rest =>
          have shorter : (rest.filter fun other => !other == value).length < length := by
            rw [← size, List.length_cons]
            exact Nat.lt_succ_of_le (List.length_filter_le _ _)
          rw [List.eraseDups_cons]
          apply List.Pairwise.cons
          · intro other member equal
            rw [List.mem_eraseDups, List.mem_filter, equal] at member
            simp at member
          · exact ih _ shorter _ rfl

namespace Text

@[simp] theorem mem_sortedNames {name : String} {names : List String} :
    name ∈ sortedNames names ↔ name ∈ names := by
  rw [sortedNames, List.mem_mergeSort, List.mem_eraseDups]

/-- Sorted names ascend strictly. -/
theorem sortedNames_pairwise (names : List String) :
    (sortedNames names).Pairwise (· < ·) := by
  have ascending : (sortedNames names).Pairwise fun first second =>
      decide (first ≤ second) = true := by
    apply List.pairwise_mergeSort
    · intro first second third
      simp only [decide_eq_true_eq]
      exact String.le_trans
    · intro first second
      rw [Bool.or_eq_true, decide_eq_true_eq, decide_eq_true_eq]
      exact String.le_total first second
  have distinct : (sortedNames names).Nodup :=
    (List.mergeSort_perm _ _).nodup_iff.mpr (nodup_eraseDups names)
  apply (ascending.and distinct).imp
  intro first second related
  rcases related with ⟨atMost, different⟩
  apply String.not_le.mp
  intro atLeast
  exact different (String.le_antisymm (of_decide_eq_true atMost) atLeast)

/-- Lists with the same names have the same sorted names. -/
theorem sortedNames_congr {first second : List String}
    (same : ∀ name, name ∈ first ↔ name ∈ second) : sortedNames first = sortedNames second := by
  apply List.Perm.eq_of_pairwise _ (sortedNames_pairwise first) (sortedNames_pairwise second)
  · apply (List.perm_ext_iff_of_nodup _ _).mpr
    · intro name
      rw [mem_sortedNames, mem_sortedNames]
      exact same name
    · exact (sortedNames_pairwise first).imp String.ne_of_lt
    · exact (sortedNames_pairwise second).imp String.ne_of_lt
  · intro lesser greater _ _ before after
    exact absurd after (String.lt_asymm before)

end Text

end Pinpoint
