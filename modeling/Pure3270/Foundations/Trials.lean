/-!
# Trying until it works

A bounded number of tries at something that works at some of them.  Tries are
counted from the first one ever made, so that loops of tries can follow each
other: they are one loop with the sum of their limits.
-/

namespace Foundations

variable {outcome : Nat → Bool}

/-- Whether one of at most `limit` tries worked, and how many were made at the end when
`made` had been made before. -/
def tryTimes (outcome : Nat → Bool) : Nat → Nat → Bool × Nat
  | 0, made => (false, made)
  | limit + 1, made =>
      if outcome made then (true, made + 1) else tryTimes outcome limit (made + 1)

/-- What is done next only if nothing has worked. -/
def thenTry (first : Bool × Nat) (next : Nat → Bool × Nat) : Bool × Nat :=
  if first.1 then first else next first.2

theorem thenTry_assoc (first : Bool × Nat) (next last : Nat → Bool × Nat) :
    thenTry (thenTry first next) last = thenTry first fun made => thenTry (next made) last := by
  unfold thenTry
  cases worked : first.1 <;> simp [worked]

/-- Two loops of tries are one. -/
theorem tryTimes_add (limit more made : Nat) :
    tryTimes outcome (limit + more) made =
      thenTry (tryTimes outcome limit made) (tryTimes outcome more) := by
  induction limit generalizing made with
  | zero =>
      rw [Nat.zero_add]
      rfl
  | succ limit ih =>
      rw [Nat.succ_add]
      unfold tryTimes
      split
      · rfl
      · exact ih (made + 1)

/-- The tries end with the first one that works, or all are made in vain. -/
theorem tryTimes_cases (outcome : Nat → Bool) (limit made : Nat) :
    (∃ last, made ≤ last ∧ last < made + limit ∧ outcome last = true ∧
      (∀ earlier, made ≤ earlier → earlier < last → outcome earlier = false) ∧
      tryTimes outcome limit made = (true, last + 1)) ∨
    ((∀ attempt, made ≤ attempt → attempt < made + limit → outcome attempt = false) ∧
      tryTimes outcome limit made = (false, made + limit)) := by
  induction limit generalizing made with
  | zero => exact .inr ⟨fun _ _ _ => by omega, rfl⟩
  | succ limit ih =>
      unfold tryTimes
      cases works : outcome made with
      | true =>
          exact .inl ⟨made, Nat.le_refl made, by omega, works, fun _ _ _ => by omega, rfl⟩
      | false =>
          rcases ih (made + 1) with ⟨last, after, before, worked, vain, result⟩ |
            ⟨vain, result⟩
          · refine .inl ⟨last, by omega, by omega, worked, ?_, result⟩
            intro earlier onward till
            by_cases here : earlier = made
            · rw [here, works]
            · exact vain earlier (by omega) till
          · refine .inr ⟨?_, ?_⟩
            · intro attempt onward till
              by_cases here : attempt = made
              · rw [here, works]
              · exact vain attempt (by omega) (by omega)
            · rw [if_neg Bool.false_ne_true, result]
              congr 1
              omega

theorem tryTimes_works {limit made : Nat} :
    (tryTimes outcome limit made).1 = true ↔
      ∃ attempt, made ≤ attempt ∧ attempt < made + limit ∧ outcome attempt = true := by
  rcases tryTimes_cases outcome limit made with ⟨last, onward, till, works, _, result⟩ |
    ⟨vain, result⟩
  · rw [result]
    exact iff_of_true rfl ⟨last, onward, till, works⟩
  · rw [result]
    refine iff_of_false Bool.false_ne_true ?_
    rintro ⟨attempt, onward, till, works⟩
    exact Bool.false_ne_true ((vain attempt onward till).symm.trans works)

theorem tryTimes_made_le (limit made : Nat) :
    (tryTimes outcome limit made).2 ≤ made + limit := by
  rcases tryTimes_cases outcome limit made with ⟨last, _, till, _, _, result⟩ | ⟨_, result⟩
  · rw [result]
    exact till
  · exact Nat.le_of_eq (congrArg Prod.snd result)

end Foundations
