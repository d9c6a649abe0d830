import Mathlib.Data.List.TakeWhile

/-!
# Escapes

The items of a text that mean something else are written behind an escape.  A reader that
stops at the escape gets no further than the first of them.
-/

namespace Foundations

variable {α : Type} [DecidableEq α]

/-- The special items are preceded by the escape. -/
def escaped (esc : α) (special text : List α) : List α :=
  text.flatMap fun item => if item ∈ special then [esc, item] else [item]

/-- An escape is dropped where something follows it. -/
def unescaped (esc : α) : List α → List α
  | [] => []
  | [last] => [last]
  | first :: second :: rest =>
      if first = esc then second :: unescaped esc rest
      else first :: unescaped esc (second :: rest)

variable {esc : α} {special stops text : List α}

theorem escaped_cons_special {item : α} (here : item ∈ special) (text : List α) :
    escaped esc special (item :: text) = esc :: item :: escaped esc special text := by
  unfold escaped
  rw [List.flatMap_cons, if_pos here]
  rfl

theorem escaped_cons_plain {item : α} (plain : item ∉ special) (text : List α) :
    escaped esc special (item :: text) = item :: escaped esc special text := by
  unfold escaped
  rw [List.flatMap_cons, if_neg plain]
  rfl

theorem unescaped_cons {first : α} (plain : first ≠ esc) (rest : List α) :
    unescaped esc (first :: rest) = first :: unescaped esc rest := by
  cases rest with
  | nil => rfl
  | cons second rest => rw [unescaped, if_neg plain]

theorem unescaped_escaped (escapes : esc ∈ special) (text : List α) :
    unescaped esc (escaped esc special text) = text := by
  induction text with
  | nil => rfl
  | cons item text ih =>
      by_cases here : item ∈ special
      · rw [escaped_cons_special here, unescaped, if_pos rfl, ih]
      · have plain : item ≠ esc := fun same => here (same ▸ escapes)
        rw [escaped_cons_plain here, unescaped_cons plain, ih]

theorem unescaped_of_not_mem (plain : esc ∉ text) : unescaped esc text = text := by
  induction text with
  | nil => rfl
  | cons item text ih =>
      have first : item ≠ esc := fun same => plain (same ▸ List.mem_cons_self)
      rw [unescaped_cons first, ih (mt (List.mem_cons_of_mem item) plain)]

/-- Escaping a text brings in nothing but the escape. -/
theorem mem_escaped {item : α} (member : item ∈ escaped esc special text) :
    item = esc ∨ item ∈ text := by
  obtain ⟨source, listed, within⟩ := List.mem_flatMap.mp member
  split at within
  · rcases List.mem_cons.mp within with here | behind
    · exact .inl here
    · exact .inr (List.mem_singleton.mp behind ▸ listed)
  · exact .inr (List.mem_singleton.mp within ▸ listed)

theorem escaped_of_plain (plain : ∀ item ∈ text, item ∉ special) :
    escaped esc special text = text := by
  induction text with
  | nil => rfl
  | cons item text ih =>
      rw [escaped_cons_plain (plain item List.mem_cons_self),
        ih fun item member => plain item (.tail _ member)]

theorem not_mem_of_mem_takeWhile {item : α} (member : item ∈ text.takeWhile (· ∉ stops)) :
    item ∉ stops := by
  have passed := List.mem_takeWhile_imp member
  exact of_decide_eq_true passed

theorem takeWhile_of_plain (plain : ∀ item ∈ text, item ∉ special) :
    text.takeWhile (· ∉ special) = text :=
  List.takeWhile_eq_self_iff.mpr fun item member => decide_eq_true (plain item member)

theorem dropWhile_of_plain (plain : ∀ item ∈ text, item ∉ special) :
    text.dropWhile (· ∉ special) = [] :=
  List.dropWhile_eq_nil_iff.mpr fun item member => decide_eq_true (plain item member)

/-- A reader gets as far as the first stop. -/
theorem read_to_stop {front rest : List α} (passed : ∀ item ∈ front, item ∉ stops)
    (ends : ∀ next ∈ rest.head?, next ∈ stops) :
    (front ++ rest).takeWhile (· ∉ stops) = front ∧
      (front ++ rest).dropWhile (· ∉ stops) = rest := by
  have pass : ∀ item ∈ front, decide (item ∉ stops) = true :=
    fun item member => decide_eq_true (passed item member)
  rw [List.takeWhile_append_of_pos pass, List.dropWhile_append_of_pos pass]
  cases rest with
  | nil => exact ⟨List.append_nil front, rfl⟩
  | cons next rest =>
      have stopped : ¬ decide (next ∉ stops) = true := by
        simpa using ends next rfl
      rw [List.takeWhile_cons, List.dropWhile_cons, if_neg stopped, if_neg stopped,
        List.append_nil]
      exact ⟨rfl, rfl⟩

theorem escaped_split (text : List α) :
    escaped esc special text =
      text.takeWhile (· ∉ special) ++ escaped esc special (text.dropWhile (· ∉ special)) := by
  have plain : escaped esc special (text.takeWhile (· ∉ special)) =
      text.takeWhile (· ∉ special) :=
    escaped_of_plain fun _ => not_mem_of_mem_takeWhile
  have both : text.takeWhile (· ∉ special) ++ text.dropWhile (· ∉ special) = text :=
    List.takeWhile_append_dropWhile
  calc escaped esc special text
      = escaped esc special (text.takeWhile (· ∉ special) ++
          text.dropWhile (· ∉ special)) := by rw [both]
    _ = escaped esc special (text.takeWhile (· ∉ special)) ++
          escaped esc special (text.dropWhile (· ∉ special)) := List.flatMap_append
    _ = _ := by rw [plain]

section Readers

variable {rest : List α} (escapes : esc ∈ stops) (within : stops ⊆ special)
  (ends : ∀ next ∈ rest.head?, next ∈ stops)

include escapes within ends

/-- What is read of an escaped text ends before the first special item, and the reader
stops in front of that item, or behind the text. -/
theorem read_escaped (text : List α) :
    (escaped esc special text ++ rest).takeWhile (· ∉ stops) =
        text.takeWhile (· ∉ special) ∧
      (escaped esc special text ++ rest).dropWhile (· ∉ stops) =
        escaped esc special (text.dropWhile (· ∉ special)) ++ rest := by
  have passed : ∀ item ∈ text.takeWhile (· ∉ special), item ∉ stops :=
    fun item member stop => not_mem_of_mem_takeWhile member (within stop)
  rw [escaped_split, List.append_assoc]
  refine read_to_stop passed ?_
  cases left : text.dropWhile (· ∉ special) with
  | nil => exact ends
  | cons item behind =>
      have here : item ∈ special := by
        have first := List.head?_dropWhile_not (fun item => decide (item ∉ special)) text
        rw [left] at first
        simpa using first
      intro next first
      rw [escaped_cons_special here] at first
      cases first
      exact escapes

end Readers

end Foundations
