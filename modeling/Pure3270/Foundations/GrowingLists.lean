/-!
# Lists that grow at their end

A list that loses its first entry whenever it has grown beyond its limit holds the last
entries of everything that was recorded.  Of a list that is cut into spans at its marks,
what is added goes to the last span, or starts a new one when it is a mark.
-/

namespace Foundations

section Windows

variable {α : Type}

/-- `list.append(entry)` with `if len(list) > limit: list.pop(0)`. -/
def record (limit : Int) (entry : α) (window : List α) : List α :=
  if limit < ((window ++ [entry]).length : Int) then (window ++ [entry]).drop 1
  else window ++ [entry]

/-- `list[-limit:]` for a positive limit. -/
def keepLast (limit : Nat) (log : List α) : List α := log.drop (log.length - limit)

theorem keepLast_length (limit : Nat) (log : List α) :
    (keepLast limit log).length = min limit log.length := by
  unfold keepLast
  rw [List.length_drop]
  omega

theorem keepLast_of_le {limit : Nat} {log : List α} (fits : log.length ≤ limit) :
    keepLast limit log = log := by
  unfold keepLast
  rw [Nat.sub_eq_zero_of_le fits, List.drop_zero]

theorem keepLast_suffix (limit : Nat) (log : List α) : keepLast limit log <:+ log :=
  List.drop_suffix _ log

/-- Cutting before an entry is added makes no difference. -/
theorem keepLast_append (limit : Nat) (log added : List α) :
    keepLast limit (keepLast limit log ++ added) = keepLast limit (log ++ added) := by
  by_cases fits : log.length ≤ limit
  · rw [keepLast_of_le fits]
  · unfold keepLast
    simp only [List.drop_append, List.length_append, List.length_drop, List.drop_drop]
    congr 2 <;> omega

/-- The window of a log to which one entry was added. -/
theorem record_keepLast (limit : Int) (entry : α) (log : List α) :
    record limit entry (keepLast limit.toNat log) =
      keepLast limit.toNat (log ++ [entry]) := by
  have length := keepLast_length limit.toNat log
  rw [← keepLast_append]
  unfold record
  split
  · next exceeds =>
      rw [List.length_append, List.length_singleton] at exceeds
      have cut : (keepLast limit.toNat log ++ [entry]).length - limit.toNat = 1 := by
        rw [List.length_append, List.length_singleton]
        omega
      rw [keepLast.eq_def limit.toNat (keepLast limit.toNat log ++ [entry]), cut]
  · next fits =>
      rw [List.length_append, List.length_singleton] at fits
      apply (keepLast_of_le _).symm
      rw [List.length_append, List.length_singleton]
      omega

end Windows

section Spans

variable {α β : Type} {marks : α → Bool}

/-- A mark at the end closes the last span. -/
theorem splitOnP_concat_mark (items : List α) {mark : α} (closes : marks mark = true) :
    (items ++ [mark]).splitOnP marks = items.splitOnP marks ++ [[]] := by
  rw [List.splitOnP_append_cons items [] closes, List.splitOnP_nil]

/-- Anything else at the end belongs to the last span. -/
theorem splitOnP_concat (items : List α) {item : α} (plain : marks item = false) :
    ∃ spans last, items.splitOnP marks = spans ++ [last] ∧
      (items ++ [item]).splitOnP marks = spans ++ [last ++ [item]] := by
  induction items with
  | nil =>
      refine ⟨[], [], List.splitOnP_nil, ?_⟩
      exact List.splitOnP_eq_singleton fun other member => by
        rw [List.mem_singleton.mp member]
        exact plain
  | cons first items ih =>
      obtain ⟨spans, last, before, after⟩ := ih
      rw [List.cons_append, List.splitOnP_cons_eq_if_modifyHead,
        List.splitOnP_cons_eq_if_modifyHead, before, after]
      by_cases closes : marks first = true
      · rw [if_pos closes, if_pos closes]
        exact ⟨[] :: spans, last, rfl, rfl⟩
      · rw [if_neg closes, if_neg closes]
        cases spans with
        | nil => exact ⟨[], first :: last, rfl, rfl⟩
        | cons span spans => exact ⟨(first :: span) :: spans, last, rfl, rfl⟩

/-- What is made of each closed span that has something in it. -/
def closedSpans (marks : α → Bool) (made : List α → Option β) (items : List α) : List β :=
  (items.splitOnP marks).dropLast.filterMap made

/-- What is made of the span that is still open. -/
def openSpan (marks : α → Bool) (made : List α → Option β) (items : List α) : Option β :=
  (items.splitOnP marks).getLast?.bind made

variable {made : List α → Option β}

theorem exists_spans (marks : α → Bool) (items : List α) :
    ∃ spans last, items.splitOnP marks = spans ++ [last] := by
  have some := List.splitOnP_ne_nil marks items
  exact ⟨_, _, (List.dropLast_concat_getLast some).symm⟩

theorem closedSpans_mark (items : List α) {mark : α} (closes : marks mark = true) :
    closedSpans marks made (items ++ [mark]) =
      closedSpans marks made items ++ (openSpan marks made items).toList := by
  obtain ⟨spans, last, split⟩ := exists_spans marks items
  unfold closedSpans openSpan
  rw [splitOnP_concat_mark items closes, split, List.dropLast_concat,
    List.dropLast_concat, List.filterMap_append, List.getLast?_concat]
  cases kept : made last with
  | none => simp [kept]
  | some value => simp [kept]

theorem openSpan_mark (items : List α) {mark : α} (closes : marks mark = true)
    (empty : made [] = none) : openSpan marks made (items ++ [mark]) = none := by
  unfold openSpan
  rw [splitOnP_concat_mark items closes, List.getLast?_concat]
  exact empty

theorem closedSpans_concat (items : List α) {item : α} (plain : marks item = false) :
    closedSpans marks made (items ++ [item]) = closedSpans marks made items := by
  obtain ⟨spans, last, before, after⟩ := splitOnP_concat items plain
  unfold closedSpans
  rw [before, after, List.dropLast_concat, List.dropLast_concat]

theorem openSpan_concat (items : List α) {item : α} (plain : marks item = false) :
    ∃ last, openSpan marks made items = made last ∧
      openSpan marks made (items ++ [item]) = made (last ++ [item]) := by
  obtain ⟨spans, last, before, after⟩ := splitOnP_concat items plain
  unfold openSpan
  rw [before, after, List.getLast?_concat, List.getLast?_concat]
  exact ⟨last, rfl, rfl⟩

end Spans

end Foundations
