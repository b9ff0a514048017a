import Mathlib.Data.List.Basic

/-!
# Sorting by a key

A stable sort leaves elements with the same key in the order in which they came. So two lists are
sorted alike exactly when, for every key, they have the same elements with this key in the same
order. Where a list is put together from parts, this does not depend on how the parts are arranged
exactly when the elements of any two parts that have the same key can be exchanged.
-/

namespace Pinpoint

section StableSort

variable {α β : Type}

/-! ## Lists that are put together from parts -/

/-- Parts that can be exchanged with each other can be put together in any order. -/
theorem flatMap_eq_of_perm {parts others : List β} {give : β → List α} (perm : parts.Perm others)
    (exchange : ∀ first ∈ parts, ∀ second ∈ parts,
      give first ++ give second = give second ++ give first) :
    parts.flatMap give = others.flatMap give := by
  induction perm with
  | nil => rfl
  | cons part _ ih =>
      rw [List.flatMap_cons, List.flatMap_cons]
      rw [ih fun first firstMem second secondMem => exchange first (List.mem_cons_of_mem _ firstMem)
        second (List.mem_cons_of_mem _ secondMem)]
  | swap first second rest =>
      simp only [List.flatMap_cons, ← List.append_assoc]
      rw [exchange second List.mem_cons_self first (List.mem_cons_of_mem _ List.mem_cons_self)]
  | trans perm _ ih otherIh =>
      rw [ih exchange]
      apply otherIh
      intro first firstMem second secondMem
      exact exchange first (perm.mem_iff.mpr firstMem) second (perm.mem_iff.mpr secondMem)

/-- Two elements of a list are the first two of one of its arrangements. -/
theorem exists_perm_cons_cons {parts : List β} {first second : β} (firstMem : first ∈ parts)
    (secondMem : second ∈ parts) (different : first ≠ second) :
    ∃ rest, parts.Perm (first :: second :: rest) := by
  rcases List.append_of_mem firstMem with ⟨before, after, rfl⟩
  have secondLater : second ∈ before ++ after := by
    have moved := List.perm_middle.mem_iff.mp secondMem
    exact (List.mem_cons.mp moved).resolve_left different.symm
  rcases List.append_of_mem secondLater with ⟨front, back, split⟩
  refine ⟨front ++ back, List.perm_middle.trans ?_⟩
  rw [split]
  exact List.perm_middle.cons first

/-! ## Sorted lists -/

variable {κ : Type} {le : κ → κ → Bool}
  (trans : ∀ first second third, le first second = true → le second third = true →
    le first third = true)
  (total : ∀ first second, (le first second || le second first) = true)
  (antisymm : ∀ first second, le first second = true → le second first = true → first = second)
  (key : α → κ)

include total

theorem le_refl_of_total (value : κ) : le value value = true := by
  simpa using total value value

include trans

theorem pairwise_key_mergeSort (values : List α) :
    (values.mergeSort fun first second => le (key first) (key second)).Pairwise
      fun first second => le (key first) (key second) = true :=
  List.pairwise_mergeSort (fun first second third => trans (key first) (key second) (key third))
    (fun first second => total (key first) (key second)) values

include antisymm in
/-- The keys of a sorted list do not depend on the order in which the elements came. -/
theorem map_key_mergeSort_congr {first second : List α} (perm : first.Perm second) :
    (first.mergeSort fun left right => le (key left) (key right)).map key =
      (second.mergeSort fun left right => le (key left) (key right)).map key := by
  apply List.Perm.eq_of_pairwise fun _ _ _ _ => antisymm _ _
  · exact List.pairwise_map.mpr (pairwise_key_mergeSort trans total key first)
  · exact List.pairwise_map.mpr (pairwise_key_mergeSort trans total key second)
  · exact ((List.mergeSort_perm first _).trans
      (perm.trans (List.mergeSort_perm second _).symm)).map key

variable [DecidableEq κ]

/-- Sorting keeps the order of the elements that have the same key. -/
theorem filter_key_mergeSort (values : List α) (wanted : κ) :
    (values.mergeSort fun first second => le (key first) (key second)).filter
        (fun value => key value = wanted) =
      values.filter fun value => key value = wanted := by
  have sorted : (values.filter fun value => key value = wanted).Pairwise fun first second =>
      le (key first) (key second) = true := by
    apply List.pairwise_of_forall_mem_list
    intro first firstMem second secondMem
    rw [of_decide_eq_true (List.mem_filter.mp firstMem).2,
      of_decide_eq_true (List.mem_filter.mp secondMem).2]
    exact le_refl_of_total total wanted
  have kept := (List.sublist_mergeSort
    (fun first second third => trans (key first) (key second) (key third))
    (fun first second => total (key first) (key second)) sorted List.filter_sublist).filter
      fun value => key value = wanted
  rw [List.filter_filter] at kept
  simp only [Bool.and_self] at kept
  exact (kept.eq_of_length ((List.mergeSort_perm values _).filter _).length_eq.symm).symm

include antisymm

omit trans in
/-- Sorted lists are equal when they have the same elements with any given key. -/
theorem eq_of_filter_key {first second : List α}
    (firstSorted : first.Pairwise fun left right => le (key left) (key right) = true)
    (secondSorted : second.Pairwise fun left right => le (key left) (key right) = true)
    (same : ∀ wanted, (first.filter fun value => key value = wanted) =
      second.filter fun value => key value = wanted) : first = second := by
  have mem_of_same {value : α} {left right : List α} (leftMem : value ∈ left)
      (equal : (left.filter fun other => key other = key value) =
        right.filter fun other => key other = key value) : value ∈ right := by
    have member : value ∈ left.filter fun other => key other = key value :=
      List.mem_filter.mpr ⟨leftMem, decide_eq_true rfl⟩
    rw [equal] at member
    exact (List.mem_filter.mp member).1
  have head_le {head value : α} {tail : List α}
      (sorted : (head :: tail).Pairwise fun left right => le (key left) (key right) = true)
      (member : value ∈ head :: tail) : le (key head) (key value) = true := by
    rcases List.mem_cons.mp member with rfl | later
    · exact le_refl_of_total total _
    · exact List.rel_of_pairwise_cons sorted later
  induction first generalizing second with
  | nil =>
      cases second with
      | nil => rfl
      | cons other others => cases mem_of_same List.mem_cons_self (same (key other)).symm
  | cons value values ih =>
      cases second with
      | nil => cases mem_of_same List.mem_cons_self (same (key value))
      | cons other others =>
          -- Each of the two heads occurs in the other list, so neither is before the other.
          have tied : key value = key other := antisymm _ _
            (head_le firstSorted (mem_of_same List.mem_cons_self (same (key other)).symm))
            (head_le secondSorted (mem_of_same List.mem_cons_self (same (key value))))
          have heads := same (key value)
          simp only [List.filter_cons, tied, decide_true, if_true] at heads
          cases (List.cons.inj heads).1
          congr 1
          apply ih firstSorted.of_cons secondSorted.of_cons
          intro wanted
          have equal := same wanted
          rw [List.filter_cons, List.filter_cons] at equal
          split at equal
          next => exact (List.cons.inj equal).2
          next => exact equal

/-- Two lists are sorted alike exactly when their elements with the same key come in the same
order. -/
theorem mergeSort_eq_mergeSort_iff {first second : List α} :
    (first.mergeSort fun left right => le (key left) (key right)) =
        (second.mergeSort fun left right => le (key left) (key right)) ↔
      ∀ wanted, (first.filter fun value => key value = wanted) =
        second.filter fun value => key value = wanted := by
  constructor
  · intro same wanted
    rw [← filter_key_mergeSort trans total key first, same, filter_key_mergeSort trans total]
  · intro same
    apply eq_of_filter_key total antisymm key (pairwise_key_mergeSort trans total key first)
      (pairwise_key_mergeSort trans total key second)
    intro wanted
    rw [filter_key_mergeSort trans total, filter_key_mergeSort trans total, same]

/-- Sorting what the parts of a list give does not depend on the order of the parts exactly when
what any two of them give under the same key can be exchanged. -/
theorem mergeSort_flatMap_unique_iff (parts : List β) (give : β → List α) :
    (∀ order other : List β, order.Perm parts → other.Perm parts →
      ((order.flatMap give).mergeSort fun left right => le (key left) (key right)) =
        (other.flatMap give).mergeSort fun left right => le (key left) (key right)) ↔
    ∀ first ∈ parts, ∀ second ∈ parts, ∀ wanted,
      ((give first).filter fun value => key value = wanted) ++
          ((give second).filter fun value => key value = wanted) =
        ((give second).filter fun value => key value = wanted) ++
          (give first).filter fun value => key value = wanted := by
  simp only [mergeSort_eq_mergeSort_iff trans total antisymm, List.filter_flatMap]
  constructor
  · intro same first firstMem second secondMem wanted
    by_cases equal : first = second
    · rw [equal]
    · rcases exists_perm_cons_cons firstMem secondMem equal with ⟨rest, perm⟩
      have swapped := same (first :: second :: rest) (second :: first :: rest) perm.symm
        ((List.Perm.swap first second rest).trans perm.symm) wanted
      simp only [List.flatMap_cons, ← List.append_assoc] at swapped
      exact List.append_cancel_right swapped
  · intro exchange order other orderPerm otherPerm wanted
    apply flatMap_eq_of_perm (orderPerm.trans otherPerm.symm)
    intro first firstMem second secondMem
    exact exchange first (orderPerm.mem_iff.mp firstMem) second (orderPerm.mem_iff.mp secondMem)
      wanted

end StableSort

end Pinpoint
