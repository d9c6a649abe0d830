import Mathlib.Data.List.DropRight

/-!
# Continued lines

A line that ends in a mark goes on in the next one: the mark and the blanks around it are
replaced by a gap.  A text that is broken between its words reads as it would unbroken.
-/

namespace Foundations

variable {α : Type}

section Blanks

variable (blank : α → Bool)

/-- The text without the blanks at its ends. -/
def trim (text : List α) : List α := (text.dropWhile blank).rdropWhile blank

/-- The text neither begins nor ends with a blank. -/
structure Solid (text : List α) : Prop where
  front : ∀ symbol, text.head? = some symbol → blank symbol = false
  behind : ∀ symbol, text.getLast? = some symbol → blank symbol = false

variable {blank} {text front behind : List α}

theorem dropWhile_front (blanks : ∀ symbol ∈ front, blank symbol = true)
    (solid : ∀ symbol, text.head? = some symbol → blank symbol = false) :
    (front ++ text).dropWhile blank = text := by
  rw [List.dropWhile_append_of_pos blanks]
  cases text with
  | nil => rfl
  | cons symbol text => exact List.dropWhile_cons_of_neg (by simp [solid symbol rfl])

theorem rdropWhile_behind (blanks : ∀ symbol ∈ behind, blank symbol = true)
    (solid : ∀ symbol, text.getLast? = some symbol → blank symbol = false) :
    (text ++ behind).rdropWhile blank = text := by
  have turned := @dropWhile_front _ blank text.reverse behind.reverse
    (fun symbol member => blanks symbol (List.mem_reverse.mp member))
    (fun symbol first => solid symbol (List.head?_reverse.symm.trans first))
  unfold List.rdropWhile
  rw [List.reverse_append, turned, List.reverse_reverse]

theorem trim_padded (solid : Solid blank text)
    (before : ∀ symbol ∈ front, blank symbol = true)
    (after : ∀ symbol ∈ behind, blank symbol = true) :
    trim blank (front ++ text ++ behind) = text := by
  unfold trim
  cases text with
  | nil =>
      have all : (front ++ [] ++ behind).dropWhile blank = [] := by
        apply List.dropWhile_eq_nil_iff.mpr
        intro symbol member
        rw [List.append_nil] at member
        exact (List.mem_append.mp member).elim (before symbol) (after symbol)
      rw [all]
      rfl
  | cons symbol text =>
      rw [List.append_assoc, dropWhile_front before (fun other first => ?_)]
      · exact rdropWhile_behind after solid.behind
      · exact solid.front other first

theorem head?_trim {symbol : α} (blanks : ∀ symbol ∈ front, blank symbol = true)
    (solid : blank symbol = false) :
    (trim blank (front ++ symbol :: text)).head? = some symbol := by
  unfold trim
  have first : ∀ other, (symbol :: text).head? = some other → blank other = false := by
    intro other first
    cases first
    exact solid
  rw [dropWhile_front blanks first]
  cases kept : (symbol :: text).rdropWhile blank with
  | nil =>
      have all := List.rdropWhile_eq_nil_iff.mp kept symbol List.mem_cons_self
      rw [solid] at all
      cases all
  | cons other rest =>
      obtain ⟨more, whole⟩ := List.rdropWhile_prefix blank (symbol :: text)
      rw [kept] at whole
      exact congrArg some (List.cons.inj whole).1

theorem Solid.append {words : List α} (solid : Solid blank text)
    (behind : ∀ symbol, words.getLast? = some symbol → blank symbol = false)
    (nonempty : text ≠ []) : Solid blank (text ++ words) where
  front symbol first := by
    rw [List.head?_append_of_ne_nil text nonempty] at first
    exact solid.front symbol first
  behind symbol last := by
    rw [List.getLast?_append] at last
    cases ends : words.getLast? with
    | none =>
        rw [ends] at last
        exact solid.behind symbol last
    | some other =>
        rw [ends] at last
        cases last
        exact behind symbol ends

theorem unmarked_behind {mark : α} {lead : List α} (solid : blank mark = false)
    (unmarked : lead.getLast? ≠ some mark) (blanks : ∀ symbol ∈ behind, blank symbol = true) :
    (lead ++ behind).getLast? ≠ some mark := by
  intro last
  rw [List.getLast?_append] at last
  cases ends : behind.getLast? with
  | none =>
      rw [ends] at last
      exact unmarked last
  | some symbol =>
      rw [ends] at last
      cases last
      rw [blanks mark (List.mem_of_getLast? ends)] at solid
      cases solid

theorem trim_sublist (blank : α → Bool) (text : List α) : (trim blank text).Sublist text :=
  (List.rdropWhile_prefix _ _).sublist.trans (List.dropWhile_sublist _)

theorem solid_trim (blank : α → Bool) (text : List α) : Solid blank (trim blank text) where
  front symbol first := by
    have kept : ((text.dropWhile blank).rdropWhile blank).head? = some symbol := first
    obtain ⟨rest, whole⟩ := List.rdropWhile_prefix blank (text.dropWhile blank)
    have stops := List.head?_dropWhile_not blank text
    rw [← whole, List.head?_append, kept] at stops
    exact stops
  behind symbol last := by
    obtain ⟨nonempty, rfl⟩ := List.mem_getLast?_eq_getLast last
    exact eq_false_of_ne_true
      (List.rdropWhile_last_not blank (text.dropWhile blank) nonempty)

end Blanks

section Breaks

variable (blank : α → Bool) (mark gap : α)

/-- Where a text is broken: the blanks before the mark and at the beginning of the next
line, and the word that follows. -/
structure LineBreak (α : Type) where
  before : List α
  after : List α
  word : List α

/-- A word that can stand at the end of a line. -/
structure Word (word : List α) : Prop where
  nonempty : word ≠ []
  solid : Solid blank word
  unmarked : word.getLast? ≠ some mark

structure LineBreak.Valid (line : LineBreak α) : Prop where
  before : ∀ symbol ∈ line.before, blank symbol = true
  after : ∀ symbol ∈ line.after, blank symbol = true
  word : Word blank mark line.word

/-- The end of a line, before the breaks that follow. -/
def lineEnd (behind : List α) : List (LineBreak α) → List α
  | [] => behind
  | next :: _ => next.before ++ [mark]

/-- The lines after the first one. -/
def moreLines (behind : List α) : List (LineBreak α) → List (List α)
  | [] => []
  | next :: breaks => (next.after ++ next.word ++ lineEnd mark behind breaks) ::
      moreLines behind breaks

/-- The words after the first one, as they would stand in one line. -/
def moreWords (breaks : List (LineBreak α)) : List α :=
  breaks.flatMap fun next => gap :: next.word

variable {blank mark gap}

theorem getLast?_moreWords {breaks : List (LineBreak α)}
    (valid : ∀ next ∈ breaks, next.Valid blank mark) {symbol : α}
    (last : (moreWords gap breaks).getLast? = some symbol) : blank symbol = false := by
  induction breaks with
  | nil => cases last
  | cons next breaks ih =>
      have here := (valid next List.mem_cons_self).word
      have split : moreWords gap (next :: breaks) =
          (gap :: next.word) ++ moreWords gap breaks := rfl
      rw [split, List.getLast?_append] at last
      cases ends : (moreWords gap breaks).getLast? with
      | none =>
          rw [ends, Option.none_or, List.getLast?_cons_of_ne_nil here.nonempty] at last
          exact here.solid.behind symbol last
      | some other =>
          rw [ends] at last
          cases last
          exact ih (fun other member => valid other (List.mem_cons_of_mem next member)) ends

end Breaks

section Lines

variable [DecidableEq α] (blank : α → Bool) (mark gap : α)

/-- The whole of a line, and the lines after it. -/
def joinContinued : List α → List (List α) → List α × List (List α)
  | line, [] => (line, [])
  | line, next :: rest =>
      if line.getLast? = some mark then
        joinContinued (line.dropLast.rdropWhile blank ++ gap :: next.dropWhile blank) rest
      else (line, next :: rest)

theorem joinContinued_length (line : List α) (rest : List (List α)) :
    (joinContinued blank mark gap line rest).2.length ≤ rest.length := by
  induction rest generalizing line with
  | nil => exact Nat.le_refl 0
  | cons next rest ih =>
      unfold joinContinued
      split
      · exact Nat.le_succ_of_le (ih _)
      · exact Nat.le_refl _

variable {blank mark gap}

theorem joinContinued_of_unmarked {line : List α} (unmarked : line.getLast? ≠ some mark)
    (rest : List (List α)) : joinContinued blank mark gap line rest = (line, rest) := by
  cases rest with
  | nil => rfl
  | cons next rest => exact if_neg unmarked

/-- The broken text is read as it would stand in one line. -/
theorem joinContinued_broken (solid : blank mark = false) {lead word behind : List α}
    (first : Word blank mark word) {breaks : List (LineBreak α)}
    (valid : ∀ next ∈ breaks, next.Valid blank mark)
    (blanks : ∀ symbol ∈ behind, blank symbol = true) (rest : List (List α)) :
    joinContinued blank mark gap (lead ++ word ++ lineEnd mark behind breaks)
        (moreLines mark behind breaks ++ rest) =
      (lead ++ word ++ moreWords gap breaks ++ behind, rest) := by
  induction breaks generalizing lead word with
  | nil =>
      have last : (lead ++ word).getLast? ≠ some mark := by
        rw [List.getLast?_append_of_ne_nil lead first.nonempty]
        exact first.unmarked
      exact (joinContinued_of_unmarked (unmarked_behind solid last blanks) rest).trans
        (by simp [moreWords])
  | cons next breaks ih =>
      have here := valid next List.mem_cons_self
      have marked : (lead ++ word ++ (next.before ++ [mark])).getLast? = some mark := by
        rw [← List.append_assoc, List.getLast?_concat]
      have cut : (lead ++ word ++ (next.before ++ [mark])).dropLast.rdropWhile blank =
          lead ++ word := by
        rw [← List.append_assoc, List.dropLast_concat]
        apply rdropWhile_behind here.before
        rw [List.getLast?_append_of_ne_nil lead first.nonempty]
        exact first.solid.behind
      have goesOn : (next.after ++ next.word ++ lineEnd mark behind breaks).dropWhile blank =
          next.word ++ lineEnd mark behind breaks := by
        rw [List.append_assoc]
        apply dropWhile_front here.after
        rw [List.head?_append_of_ne_nil next.word here.word.nonempty]
        exact here.word.solid.front
      have later := @ih (lead ++ word ++ [gap]) next.word here.word
        fun other member => valid other (List.mem_cons_of_mem next member)
      rw [lineEnd, moreLines, List.cons_append, joinContinued, if_pos marked, cut, goesOn]
      simpa [moreWords, List.append_assoc] using later

end Lines

end Foundations
