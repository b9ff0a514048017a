import Mathlib.Data.Rat.Cast.Order
import Pinpoint.Proofs.InsertionOrder
import Pinpoint.Proofs.StableSort

/-!
# The distance of places and the order of reports

The places of two diagnostics are compared by a difference of integers: of the first of their line,
column, end line and end column in which they differ. The sign of this difference is the
lexicographic comparison of the four, so diagnostics are in a total preorder by their places.

A report is sorted by a key of eight fields of which these four are the first. So the key refines
the distance: whatever is before something else by its place has the smaller key, and a sorted
report never goes back in place.
-/

namespace Pinpoint

/-! ## Signs of differences -/

theorem compare_sub_zero (first second : Int) :
    compare (first - second) 0 = compare first second := by
  simp only [Int.compare_eq_ite_lt, sub_neg, sub_pos]

/-- A difference that gives way to another one when it is zero decides first. -/
theorem compare_ite_ne_zero (difference other : Int) :
    compare (if difference ≠ 0 then difference else other) 0 =
      (compare difference 0).then (compare other 0) := by
  split
  next decided =>
      have apart : compare difference 0 ≠ .eq := by
        rwa [ne_eq, Std.LawfulEqCmp.compare_eq_iff_eq]
      cases sign : compare difference 0 with
      | lt => rfl
      | eq => exact absurd sign apart
      | gt => rfl
  next undecided =>
      rw [not_not.mp undecided]
      rfl

theorem positionDistance_eq_ite (line column otherLine otherColumn : Int) :
    positionDistance line column otherLine otherColumn =
      if line - otherLine ≠ 0 then line - otherLine else column - otherColumn := by
  rw [positionDistance]
  split <;> split <;> omega

theorem compare_positionDistance (line column otherLine otherColumn : Int) :
    compare (positionDistance line column otherLine otherColumn) 0 =
      (compare line otherLine).then (compare column otherColumn) := by
  rw [positionDistance_eq_ite, compare_ite_ne_zero, compare_sub_zero, compare_sub_zero]

theorem positionDistance_swap (line column otherLine otherColumn : Int) :
    positionDistance otherLine otherColumn line column =
      -positionDistance line column otherLine otherColumn := by
  rw [positionDistance, positionDistance]
  split <;> split <;> omega

namespace Diagnostic

/-! ## The preorder of places -/

/-- The order of the places of two diagnostics, by the sign of their distance. -/
def rangeOrder (first second : Diagnostic String) : Ordering :=
  compare (rangeDistance first second) 0

theorem rangeOrder_eq_compareLex :
    rangeOrder =
      compareLex (compareLex (compareOn (·.line)) (compareOn (·.column)))
        (compareLex (compareOn (·.endLine)) (compareOn (·.endColumn))) := by
  funext first second
  rw [rangeOrder, rangeDistance, compare_ite_ne_zero, compare_positionDistance,
    compare_positionDistance]
  rfl

instance : Std.TransCmp rangeOrder := by
  rw [rangeOrder_eq_compareLex]
  infer_instance

theorem rangeOrder_isLE {first second : Diagnostic String} :
    (rangeOrder first second).isLE = true ↔ rangeDistance first second ≤ 0 :=
  Std.isLE_compare

theorem rangeOrder_eq_lt {first second : Diagnostic String} :
    rangeOrder first second = .lt ↔ rangeDistance first second < 0 :=
  Std.compare_eq_lt

/-- Whether a distance puts all diagnostics into one order by their places: its sign turns around
with its arguments, it is transitive, and it is zero at equal places only. -/
structure OrdersPlaces (distance : Diagnostic String → Diagnostic String → Int) : Prop where
  swap : ∀ first second, distance second first = -distance first second
  trans : ∀ first second third, distance first second ≤ 0 → distance second third ≤ 0 →
    distance first third ≤ 0
  eq_zero_iff : ∀ first second, distance first second = 0 ↔
    first.line = second.line ∧ first.column = second.column ∧
      first.endLine = second.endLine ∧ first.endColumn = second.endColumn

theorem rangeDistance_swap (first second : Diagnostic String) :
    rangeDistance second first = -rangeDistance first second := by
  simp only [rangeDistance, positionDistance_swap first.line, positionDistance_swap first.endLine]
  split <;> split <;> omega

theorem rangeDistance_eq_zero_iff (first second : Diagnostic String) :
    rangeDistance first second = 0 ↔
      first.line = second.line ∧ first.column = second.column ∧
        first.endLine = second.endLine ∧ first.endColumn = second.endColumn := by
  have signless : rangeDistance first second = 0 ↔ rangeOrder first second = .eq := by
    rw [rangeOrder, Std.LawfulEqCmp.compare_eq_iff_eq]
  rw [signless, rangeOrder_eq_compareLex]
  simp only [compareLex_eq_eq, compareOn, Std.LawfulEqCmp.compare_eq_iff_eq, and_assoc]

theorem ordersPlaces_rangeDistance : OrdersPlaces rangeDistance where
  swap := rangeDistance_swap
  trans := by
    intro first second third firstLe secondLe
    rw [← rangeOrder_isLE] at firstLe secondLe ⊢
    exact Std.TransCmp.isLE_trans firstLe secondLe
  eq_zero_iff := rangeDistance_eq_zero_iff

/-! ## The key -/

/-- The order of diagnostics at one place. -/
def tieOrder (first second : Diagnostic String) : Ordering :=
  (compare first.ruleId second.ruleId).then <|
  (compare first.message second.message).then <|
  (compare first.severity.name second.severity.name).then <|
  compare first.filePath second.filePath

/-- Diagnostics are ordered by their places first. -/
theorem order_eq_then (first second : Diagnostic String) :
    order first second = (rangeOrder first second).then (tieOrder first second) := by
  rw [rangeOrder_eq_compareLex]
  simp only [order, tieOrder, compareLex, compareOn, Ordering.then_assoc]

theorem order_eq_lt_of_rangeDistance {first second : Diagnostic String}
    (before : rangeDistance first second < 0) : order first second = .lt := by
  rw [order_eq_then, rangeOrder_eq_lt.mpr before]
  rfl

theorem rangeDistance_le_of_order {first second : Diagnostic String}
    (le : (order first second).isLE = true) : rangeDistance first second ≤ 0 := by
  rw [order_eq_then, Ordering.isLE_then_iff_and] at le
  exact rangeOrder_isLE.mp le.1

end Diagnostic

namespace Json

theorem order?_int (first second : Int) :
    order? (.int first) (.int second) = some (compare first second) := by
  have counts (value : Int) : (number (.integer value)).magnitude? = some (0, (value : Rat)) := rfl
  have agree : (number (.integer first)).agrees (number (.integer second)) =
      decide (first = second) := by
    rw [agrees]
    · rw [counts, counts, Bool.eq_iff_iff]
      simp
    all_goals simp
  rw [int, int, order?]
  · rw [agree, counts, counts, Int.compare_eq_ite_lt]
    rcases lt_trichotomy first second with before | same | after
    · simp [before, before.ne]
    · simp [same]
    · simp [after, after.ne', after.not_gt]
  all_goals simp

theorem order?_text (first second : String) :
    order? (.text first) (.text second) = some (compare first second) := by
  rw [order?]

theorem itemsOrder?_cons {first second : Json} {firsts seconds : List Json}
    {decided rest : Ordering} (heads : order? first second = some decided)
    (tails : itemsOrder? firsts seconds = some rest) :
    itemsOrder? (first :: firsts) (second :: seconds) = some (decided.then rest) := by
  rw [itemsOrder?, heads]
  cases decided with
  | lt => rfl
  | eq => exact tails
  | gt => rfl

end Json

namespace Diagnostic

/-- The keys of diagnostics are in the order of the diagnostics. -/
theorem order?_orderKey (first second : Diagnostic String) :
    Json.order? first.orderKey second.orderKey = some (order first second) := by
  have finished : Json.itemsOrder? [] [] = some .eq := by rw [Json.itemsOrder?]
  have compared := Json.itemsOrder?_cons (Json.order?_int first.line second.line) <|
    Json.itemsOrder?_cons (Json.order?_int first.column second.column) <|
    Json.itemsOrder?_cons (Json.order?_int first.endLine second.endLine) <|
    Json.itemsOrder?_cons (Json.order?_int first.endColumn second.endColumn) <|
    Json.itemsOrder?_cons (Json.order?_text first.ruleId second.ruleId) <|
    Json.itemsOrder?_cons (Json.order?_text first.message second.message) <|
    Json.itemsOrder?_cons (Json.order?_text first.severity.name second.severity.name) <|
    Json.itemsOrder?_cons (Json.order?_text first.filePath second.filePath) finished
  rw [Ordering.then_eq] at compared
  rw [orderKey, orderKey, Json.order?, compared]
  rfl

/-- Equal diagnostics of the order are those with one key. -/
theorem orderKey_eq_iff {first second : Diagnostic String} :
    first.orderKey = second.orderKey ↔ first.unmarked = second.unmarked := by
  simp only [orderKey, unmarked, Json.int, Json.list.injEq, List.cons.injEq, Json.number.injEq,
    Number.integer.injEq, Json.text.injEq, and_true, Diagnostic.mk.injEq, true_and]
  constructor
  · rintro ⟨line, column, endLine, endColumn, ruleId, message, severity, filePath⟩
    exact ⟨ruleId, line, column, endLine, endColumn, Severity.name_injective severity, message,
      filePath⟩
  · rintro ⟨ruleId, line, column, endLine, endColumn, severity, message, filePath⟩
    exact ⟨line, column, endLine, endColumn, ruleId, message, congrArg Severity.name severity,
      filePath⟩

instance (first second : Diagnostic String) : Decidable (first.orderKey = second.orderKey) :=
  decidable_of_iff _ orderKey_eq_iff.symm

/-! ## Sorted diagnostics -/

/-- Whether a list holds some diagnostics in the order of a distance, and those with one key in the
order in which they were given. -/
structure ArrangedBy (distance : Diagnostic String → Diagnostic String → Int)
    (sorted diagnostics : List (Diagnostic String)) : Prop where
  perm : sorted.Perm diagnostics
  ordered : sorted.Pairwise fun first second => distance first second ≤ 0
  stable : ∀ wanted : Diagnostic String,
    (sorted.filter fun diagnostic => diagnostic.orderKey = wanted.orderKey) =
      diagnostics.filter fun diagnostic => diagnostic.orderKey = wanted.orderKey

/-- Sorting keeps the order of the diagnostics with one key. The key leaves out the fatality, so
it is that of the diagnostics without it. -/
theorem filter_orderKey_sort (diagnostics : List (Diagnostic String))
    (wanted : Diagnostic String) :
    ((sort diagnostics).filter fun diagnostic => diagnostic.orderKey = wanted.orderKey) =
      diagnostics.filter fun diagnostic => diagnostic.orderKey = wanted.orderKey := by
  simp only [orderKey_eq_iff]
  have sorted : sort diagnostics = diagnostics.mergeSort fun first second =>
      (order first.unmarked second.unmarked).isLE := rfl
  rw [sorted]
  exact filter_key_mergeSort (fun _ _ _ => Std.TransCmp.isLE_trans) order_total unmarked
    diagnostics wanted.unmarked

theorem arrangedBy_sort (diagnostics : List (Diagnostic String)) :
    ArrangedBy rangeDistance (sort diagnostics) diagnostics where
  perm := sort_perm diagnostics
  ordered := (sort_pairwise diagnostics).imp rangeDistance_le_of_order
  stable := filter_orderKey_sort diagnostics

/-- Sorted diagnostics stay as they are. -/
theorem sort_sort (diagnostics : List (Diagnostic String)) :
    sort (sort diagnostics) = sort diagnostics :=
  List.mergeSort_of_pairwise (sort_pairwise diagnostics)

/-- The distance of places is a total preorder, the key refines it, and a sorted report follows
both: it is a stable arrangement of its diagnostics which another sort leaves as it is. -/
theorem sort_follows_rangeDistance :
    OrdersPlaces rangeDistance ∧
      (∀ first second : Diagnostic String, rangeDistance first second < 0 →
        Json.order? first.orderKey second.orderKey = some .lt) ∧
      ∀ diagnostics, ArrangedBy rangeDistance (sort diagnostics) diagnostics ∧
        sort (sort diagnostics) = sort diagnostics := by
  refine ⟨ordersPlaces_rangeDistance, ?_, ?_⟩
  · intro first second before
    rw [order?_orderKey, order_eq_lt_of_rangeDistance before]
  · intro diagnostics
    exact ⟨arrangedBy_sort diagnostics, sort_sort diagnostics⟩

/-- A finding without a place, which comes before all that have one. -/
def placelessFinding : Diagnostic String :=
  ⟨"SWC-999", -1, 0, -1, 0, .low, "m", false, "x.sol"⟩

/-- The line -1 comes first whatever its rule is, and a finding and its twin stay as given. -/
theorem sort_follows_rangeDistance_placeless :
    rangeDistance placelessFinding plainFinding < 0 ∧
      Json.order? placelessFinding.orderKey plainFinding.orderKey = some .lt ∧
      sort [plainFinding.twin, plainFinding, placelessFinding] =
        [placelessFinding, plainFinding.twin, plainFinding] ∧
      ArrangedBy rangeDistance [placelessFinding, plainFinding.twin, plainFinding]
        [plainFinding.twin, plainFinding, placelessFinding] := by
  have before : rangeDistance placelessFinding plainFinding < 0 := by decide
  have sorted : sort [plainFinding.twin, plainFinding, placelessFinding] =
      [placelessFinding, plainFinding.twin, plainFinding] := by cbv
  have follows := sort_follows_rangeDistance
  refine ⟨before, follows.2.1 _ _ before, sorted, ?_⟩
  rw [← sorted]
  exact (follows.2.2 _).1

end Diagnostic

end Pinpoint
