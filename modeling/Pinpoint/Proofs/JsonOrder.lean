import Pinpoint.Json.Order

/-!
# The order of a value with itself

Every value agrees with itself and so has an order with itself. Whether some values are ordered
among each other is then a matter of which values occur, however often each of them does.
-/

namespace Pinpoint.Json

/-- Every number and every truth value counts as something. -/
theorem magnitude?_number (number : Number) :
    ∃ magnitude, (Json.number number).magnitude? = some magnitude := by
  cases number with
  | integer value => exact ⟨_, rfl⟩
  | real value => cases value <;> exact ⟨_, rfl⟩

mutual

theorem agrees_refl : (value : Json) → value.agrees value = true
  | .null => by rw [agrees]
  | .bool value => by
      rw [agrees] <;> simp [magnitude?]
  | .number value => by
      obtain ⟨magnitude, counts⟩ := magnitude?_number value
      rw [agrees] <;> simp [counts]
  | .text value => by
      rw [agrees]
      exact beq_self_eq_true value
  | .list items => by
      rw [agrees]
      exact itemsAgree_refl items
  | .object members => by
      rw [agrees, beq_self_eq_true, Bool.true_and]
      exact membersAgree_of_subset members members fun _ member => member

theorem itemsAgree_refl : (items : List Json) → itemsAgree items items = true
  | [] => by rw [itemsAgree]
  | item :: items => by
      rw [itemsAgree, agrees_refl item, itemsAgree_refl items]
      rfl

/-- The induction goes through the members while the other side stays whole. -/
theorem membersAgree_of_subset : (members others : List (String × Json)) →
    (∀ member ∈ members, member ∈ others) → membersAgree members others = true
  | [], _, _ => by rw [membersAgree]
  | (name, value) :: rest, others, subset => by
      have found : (others.any fun other => other.1 == name && agrees value other.2) = true := by
        apply List.any_eq_true.mpr
        refine ⟨(name, value), subset _ List.mem_cons_self, ?_⟩
        rw [beq_self_eq_true, agrees_refl value]
        rfl
      rw [membersAgree, found, membersAgree_of_subset rest others fun member later =>
        subset member (List.mem_cons_of_mem _ later)]
      rfl

end

mutual

/-- A value is equal to itself in the order. -/
theorem order?_refl : (value : Json) → value.order? value = some .eq
  | .null | .bool _ | .number _ | .object _ => by
      rw [order?] <;> simp [agrees_refl]
  | .text value => by
      rw [order?]
      exact congrArg some Std.ReflCmp.compare_self
  | .list items => by
      rw [order?]
      exact itemsOrder?_refl items

theorem itemsOrder?_refl : (items : List Json) → itemsOrder? items items = some .eq
  | [] => by rw [itemsOrder?]
  | item :: items => by
      rw [itemsOrder?, order?_refl item]
      exact itemsOrder?_refl items

end

/-- Whether values are ordered depends on which values there are. -/
theorem areOrdered_congr {first second : List Json}
    (same : ∀ value, value ∈ first ↔ value ∈ second) : areOrdered first = areOrdered second := by
  rw [Bool.eq_iff_iff]
  simp only [areOrdered, List.all_eq_true, same]

/-- Values that are all the same one are ordered. -/
theorem areOrdered_of_forall_eq {values : List Json} {value : Json}
    (equal : ∀ other ∈ values, other = value) : areOrdered values = true := by
  simp only [areOrdered, List.all_eq_true]
  intro first firstMem second secondMem
  rw [equal first firstMem, equal second secondMem, order?_refl]
  rfl

/-- Whether a value is a text. -/
def IsText (value : Json) : Prop :=
  ∃ text, value = .text text

/-- Texts are always ordered. -/
theorem areOrdered_of_isText {values : List Json} (texts : ∀ value ∈ values, value.IsText) :
    areOrdered values = true := by
  simp only [areOrdered, List.all_eq_true]
  intro first firstMem second secondMem
  obtain ⟨firstText, rfl⟩ := texts first firstMem
  obtain ⟨secondText, rfl⟩ := texts second secondMem
  rw [order?]
  rfl

end Pinpoint.Json
