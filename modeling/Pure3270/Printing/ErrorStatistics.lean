import Mathlib.Data.List.Count
import Pure3270.Printing.ErrorHandler

/-!
# The statistics of the error handler

Errors are counted under one string for a category and an operation.  No two of
these pairs share a string, so the counters are the counts of the errors handled
since the last reset.
-/

namespace Pure3270

open Foundations

namespace PrinterErrorHandler

theorem ErrorCategory.value_inj {category other : ErrorCategory}
    (same : category.value = other.value) : category = other := by
  cases category <;> cases other <;> first | rfl | exact absurd same (by decide)

/-- The category of a key is what stands before its first colon. -/
theorem errorKey_category (category : ErrorCategory) (operation : String) :
    (errorKey category operation).toList.takeWhile (· ≠ ':') = category.value.toList := by
  cases category <;> simp [errorKey, ErrorCategory.value]

theorem errorKey_inj {category other : ErrorCategory} {operation another : String} :
    errorKey category operation = errorKey other another ↔
      category = other ∧ operation = another := by
  constructor
  · intro same
    have value : category.value.toList = other.value.toList := by
      rw [← errorKey_category category operation, same, errorKey_category]
    have named := ErrorCategory.value_inj (String.toList_inj.mp value)
    subst named
    refine ⟨rfl, String.toList_inj.mp ?_⟩
    have texts := congrArg String.toList same
    simpa [errorKey] using texts
  · rintro ⟨rfl, rfl⟩
    rfl

/-- A counter that is set changes the total by what it changes itself. -/
theorem sum_assign (key : String) (value : Nat)
    (entries : List (String × Nat)) :
    ((assign key value entries).map Prod.snd).sum + (entries.lookup key).getD 0 =
      (entries.map Prod.snd).sum + value := by
  induction entries with
  | nil => simp [assign]
  | cons first rest ih =>
      unfold assign
      rw [lookup_cons_eq]
      by_cases here : first.1 = key
      · simp only [if_pos here, if_pos here.symm, Option.getD_some, List.map_cons,
          List.sum_cons]
        omega
      · simp only [if_neg here, if_neg (Ne.symm here), List.map_cons, List.sum_cons]
        omega

/-- The errors handled since the last reset: category and operation of each. -/
def handledSince (handled : List (ErrorCategory × String)) :
    List Call → List (ErrorCategory × String)
  | [] => handled
  | .addRecoveryStrategy _ _ _ :: calls => handledSince handled calls
  | .handleError error operation _ :: calls =>
      handledSince (handled ++ [((classifyError error).1, operation)]) calls
  | .resetErrorStats :: calls => handledSince [] calls

/-- The counters count the handled errors. -/
structure Counts (handled : List (ErrorCategory × String)) (handler : PrinterErrorHandler) :
    Prop where
  each : ∀ category operation,
    (handler.errorCounts.lookup (errorKey category operation)).getD 0 =
      handled.count (category, operation)
  total : handler.totalErrors = handled.length

variable {handled : List (ErrorCategory × String)} {handler : PrinterErrorHandler}

theorem countError_counts (category : ErrorCategory) (operation : String)
    (counts : Counts handled handler) :
    Counts (handled ++ [(category, operation)])
      (handler.countError (errorKey category operation)) := by
  constructor
  · intro other another
    unfold countError
    dsimp only
    rw [lookup_assign, List.count_append, List.count_singleton]
    by_cases same : errorKey other another = errorKey category operation
    · obtain ⟨rfl, rfl⟩ := errorKey_inj.mp same
      simp [counts.each]
    · have differs : ((category, operation) == (other, another)) = false := by
        apply beq_eq_false_iff_ne.mpr
        rintro equal
        obtain ⟨rfl, rfl⟩ := Prod.mk.injEq .. ▸ equal
        exact same rfl
      rw [if_neg same, differs, counts.each]
      rfl
  · have sums := sum_assign (errorKey category operation)
      ((handler.errorCounts.lookup (errorKey category operation)).getD 0 + 1)
      handler.errorCounts
    have total := counts.total
    rw [List.length_append, List.length_singleton]
    simp only [totalErrors, countError] at total ⊢
    omega

theorem run_counts (calls : List Call) (counts : Counts handled handler) :
    Counts (handledSince handled calls) (run step calls handler) := by
  induction calls generalizing handled handler with
  | nil => exact counts
  | cons call calls ih =>
      cases call with
      | addRecoveryStrategy category strategy priority =>
          apply ih
          unfold step addRecoveryStrategy
          dsimp only
          split <;> exact ⟨counts.each, counts.total⟩
      | handleError error operation callback =>
          exact ih (countError_counts (classifyError error).1 operation counts)
      | resetErrorStats => exact ih ⟨fun _ _ => rfl, rfl⟩

/-- In every run each counter is the number of errors of its category and operation
handled since the last reset, and `total_errors` is their number altogether. -/
theorem statistics_of_every_run (maxRetries : Int) (calls : List Call) :
    Counts (handledSince [] calls) (run step calls (new maxRetries)) :=
  run_counts calls ⟨fun _ _ => rfl, rfl⟩

end PrinterErrorHandler

end Pure3270
