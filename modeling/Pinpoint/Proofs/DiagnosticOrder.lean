import Pinpoint.Report.Order

/-!
# The order of diagnostics as a relation

The order compares eight fields one after the other, so it is total and transitive because each
of the comparisons is. It sees every field except for fatality: two diagnostics that are equal in
the order are the same diagnostic if they agree in that.
-/

namespace Pinpoint

theorem Severity.ofName?_name (severity : Severity) : ofName? severity.name = some severity := by
  cases severity <;> rfl

/-- Severities are told apart by their words. -/
theorem Severity.name_injective {first second : Severity} (same : first.name = second.name) :
    first = second := by
  have read := congrArg ofName? same
  rw [ofName?_name, ofName?_name] at read
  exact Option.some.inj read

namespace Diagnostic

/-- The order is the lexicographic combination of the comparisons of its fields. -/
theorem order_eq_compareLex :
    order =
      compareLex (compareOn (·.line)) (compareLex (compareOn (·.column))
        (compareLex (compareOn (·.endLine)) (compareLex (compareOn (·.endColumn))
          (compareLex (compareOn (·.ruleId)) (compareLex (compareOn (·.message))
            (compareLex (compareOn (·.severity.name)) (compareOn (·.filePath)))))))) :=
  rfl

instance : Std.TransCmp order := by
  rw [order_eq_compareLex]
  infer_instance

theorem order_total (first second : Diagnostic String) :
    ((order first second).isLE || (order second first).isLE) = true := by
  rw [Bool.or_eq_true]
  cases compared : order first second with
  | lt => exact .inl rfl
  | eq => exact .inl rfl
  | gt => exact .inr (Std.OrientedCmp.isLE_of_isGE (by rw [compared]; rfl))

/-- Diagnostics that are equal in the order differ at most in whether they are fatal. -/
theorem eq_of_order_eq {first second : Diagnostic String} (same : order first second = .eq)
    (fatal : first.fatal = second.fatal) : first = second := by
  rw [order_eq_compareLex] at same
  simp only [compareLex_eq_eq, compareOn, Std.LawfulEqCmp.compare_eq_iff_eq] at same
  rcases same with ⟨line, column, endLine, endColumn, ruleId, message, severity, filePath⟩
  cases first
  cases second
  simp only at *
  rw [line, column, endLine, endColumn, ruleId, message, Severity.name_injective severity,
    filePath, fatal]

/-! ## Sorting -/

theorem sort_perm (diagnostics : List (Diagnostic String)) :
    (sort diagnostics).Perm diagnostics :=
  List.mergeSort_perm _ _

@[simp] theorem mem_sort {diagnostic : Diagnostic String}
    {diagnostics : List (Diagnostic String)} :
    diagnostic ∈ sort diagnostics ↔ diagnostic ∈ diagnostics :=
  (sort_perm diagnostics).mem_iff

theorem sort_pairwise (diagnostics : List (Diagnostic String)) :
    (sort diagnostics).Pairwise fun first second => (order first second).isLE = true :=
  List.pairwise_mergeSort (fun _ _ _ => Std.TransCmp.isLE_trans) order_total diagnostics

/-- Whether the order tells any two of some diagnostics apart. -/
def Separated (diagnostics : List (Diagnostic String)) : Prop :=
  ∀ first ∈ diagnostics, ∀ second ∈ diagnostics, order first second = .eq → first = second

theorem separated_of_fatal_eq {diagnostics : List (Diagnostic String)} {fatal : Bool}
    (uniform : ∀ diagnostic ∈ diagnostics, diagnostic.fatal = fatal) : Separated diagnostics := by
  intro first firstMem second secondMem same
  apply eq_of_order_eq same
  rw [uniform first firstMem, uniform second secondMem]

/-- Diagnostics that the order tells apart are sorted in one way only. -/
theorem sort_congr {first second : List (Diagnostic String)} (separated : Separated first)
    (perm : first.Perm second) : sort first = sort second := by
  apply List.Perm.eq_of_pairwise _ (sort_pairwise first) (sort_pairwise second)
  · exact (sort_perm first).trans (perm.trans (sort_perm second).symm)
  · intro left right leftMem rightMem leftFirst rightFirst
    rw [mem_sort] at leftMem rightMem
    exact separated left leftMem right (perm.mem_iff.mpr rightMem)
      (Std.OrientedCmp.isLE_antisymm leftFirst rightFirst)

end Diagnostic

end Pinpoint
