import Pinpoint.Json.Value

/-!
# The order of JSON values

Texts are ordered by code point, numbers by their value, with a truth value as zero or one, and
lists by the first items that differ. Values that agree are equal in the order, whatever their
kind. Any other two values have no order.
-/

namespace Pinpoint.Json

/-- What a truth value or a number counts as: a sign for the infinite numbers and zero for the
others, with the exact value of those. What is not a number stands beyond the infinite ones, so
that it agrees with itself and has an order with every number. -/
def magnitude? : Json → Option (Int × Rat)
  | .bool value => some (0, if value then 1 else 0)
  | .number (.integer value) => some (0, value)
  | .number (.real (.finite negative significand exponent)) =>
    let magnitude : Rat := significand * 2 ^ exponent.toNat / 2 ^ (-exponent).toNat
    some (0, if negative then -magnitude else magnitude)
  | .number (.real (.infinity negative)) => some (if negative then -1 else 1, 0)
  | .number (.real .notANumber) => some (2, 0)
  | .null | .text _ | .list _ | .object _ => none

mutual

/-- Whether two values agree: numbers and truth values in what they count as, lists item by item,
and objects in the members of every name, in whatever order they stand. -/
def agrees : Json → Json → Bool
  | .null, .null => true
  | .text first, .text second => first == second
  | .list first, .list second => itemsAgree first second
  | .object first, .object second =>
    first.length == second.length && membersAgree first second
  | first, second =>
    match first.magnitude?, second.magnitude? with
    | some first, some second => first == second
    | _, _ => false

/-- Whether two lists agree item by item. -/
def itemsAgree : List Json → List Json → Bool
  | [], [] => true
  | first :: firsts, second :: seconds => agrees first second && itemsAgree firsts seconds
  | [], _ :: _ => false
  | _ :: _, [] => false

/-- Whether each of some members has a member of the same name among others that agrees with
it. -/
def membersAgree : List (String × Json) → List (String × Json) → Bool
  | [], _ => true
  | (name, value) :: rest, others =>
    (others.any fun other => other.1 == name && agrees value other.2) && membersAgree rest others

end

mutual

/-- The order of two values, if they have one. -/
def order? : Json → Json → Option Ordering
  | .text first, .text second => some (compare first second)
  | .list first, .list second => itemsOrder? first second
  | first, second =>
    if first.agrees second then some .eq
    else do
      let first ← first.magnitude?
      let second ← second.magnitude?
      return if first.1 < second.1 ∨ (first.1 = second.1 ∧ first.2 < second.2) then .lt else .gt

/-- The order of two lists, decided by the first items that do not agree. -/
def itemsOrder? : List Json → List Json → Option Ordering
  | [], [] => some .eq
  | [], _ :: _ => some .lt
  | _ :: _, [] => some .gt
  | first :: firsts, second :: seconds =>
    match order? first second with
    | some .eq => itemsOrder? firsts seconds
    | order => order

end

/-- Whether any two of some values have an order. -/
def areOrdered (values : List Json) : Bool :=
  values.all fun first => values.all fun second => (order? first second).isSome

end Pinpoint.Json
