import Mathlib.Data.List.Basic
import Mathlib.Data.List.DropRight

/-!
# Lines of a text

Rows of characters are joined by line feeds, and the text is cut into lines
again: at line feeds, carriage returns and pairs of them, without the blanks at
the end of a line and without the empty lines at both ends.
-/

namespace Foundations

/-- A carriage return before a line feed is dropped. -/
def joinCrLf : List Char → List Char
  | '\r' :: '\n' :: rest => '\n' :: joinCrLf rest
  | ch :: rest => ch :: joinCrLf rest
  | [] => []

/-- The lines between the line breaks of a text. -/
def textLines (text : List Char) : List (List Char) :=
  ((joinCrLf text).map fun ch => if ch = '\r' then '\n' else ch).splitOn '\n'

/-- The lines without blanks at their ends and empty lines at both ends. -/
def trimLines (space : Char → Bool) (lines : List (List Char)) : List (List Char) :=
  ((lines.map (·.rdropWhile space)).dropWhile List.isEmpty).rdropWhile List.isEmpty

/-- The text of some rows. -/
def joinRows (rows : List (List Char)) : List Char := ['\n'].intercalate rows

theorem joinRows_cons_cons (row next : List Char) (rows : List (List Char)) :
    joinRows (row :: next :: rows) = row ++ '\n' :: joinRows (next :: rows) := by
  unfold joinRows
  rw [List.intercalate_cons_cons, List.append_assoc]
  rfl

/-- A text tells its rows if their lengths are known. -/
theorem joinRows_inj {first second : List (List Char)}
    (lengths : first.map List.length = second.map List.length) :
    joinRows first = joinRows second ↔ first = second := by
  refine ⟨fun same => ?_, congrArg joinRows⟩
  induction first generalizing second with
  | nil => exact (List.map_eq_nil_iff.mp lengths.symm).symm
  | cons row rows ih =>
      cases second with
      | nil => cases lengths
      | cons other others =>
          obtain ⟨here, later⟩ := List.cons.inj lengths
          cases rows with
          | nil =>
              rw [List.map_eq_nil_iff.mp later.symm] at same ⊢
              unfold joinRows at same
              rw [List.intercalate_singleton, List.intercalate_singleton] at same
              rw [same]
          | cons next rows =>
              cases others with
              | nil => cases later
              | cons nextOther others =>
                  rw [joinRows_cons_cons, joinRows_cons_cons] at same
                  obtain ⟨head, tail⟩ := List.append_inj same here
                  rw [head, ih later (List.cons.inj tail).2]

theorem not_mem_of_mem_splitOn {sep : Char} {text line : List Char}
    (listed : line ∈ text.splitOn sep) : sep ∉ line := by
  induction text generalizing line with
  | nil =>
      rw [List.splitOn_nil, List.mem_singleton] at listed
      rw [listed]
      exact List.not_mem_nil
  | cons head text ih =>
      rw [List.splitOn_cons_eq_if_modifyHead] at listed
      split at listed
      · rcases List.mem_cons.mp listed with rfl | later
        · exact List.not_mem_nil
        · exact ih later
      · rename_i other
        cases lines : text.splitOn sep with
        | nil => exact absurd lines (List.splitOn_ne_nil _ _)
        | cons first others =>
            rw [lines] at ih listed
            rcases List.mem_cons.mp listed with rfl | later
            · intro member
              rcases List.mem_cons.mp member with rfl | inside
              · exact other BEq.rfl
              · exact ih List.mem_cons_self inside
            · exact ih (.tail _ later)

/-- The rows can be read off the text if and only if no row has a line feed. -/
theorem splitOn_joinRows_iff {rows : List (List Char)} (some : rows ≠ []) :
    ((joinRows rows).splitOn '\n').map List.length = rows.map List.length ↔
      ∀ row ∈ rows, '\n' ∉ row := by
  constructor
  · intro lengths row member
    have joined : joinRows ((joinRows rows).splitOn '\n') = joinRows rows :=
      List.intercalate_splitOn '\n'
    rw [← (joinRows_inj lengths).mp joined] at member
    exact not_mem_of_mem_splitOn member
  · intro plain
    exact congrArg (List.map List.length) (List.splitOn_intercalate '\n' plain some)

/-- A carriage return at the end of a row is dropped. -/
def chomp : List Char → List Char
  | [] => []
  | ch :: rest => if ch = '\r' ∧ rest = [] then [] else ch :: chomp rest

theorem chomp_cases (row : List Char) : chomp row = row ∨ row = chomp row ++ ['\r'] := by
  induction row with
  | nil => exact .inl rfl
  | cons ch rest ih =>
      by_cases last : ch = '\r' ∧ rest = []
      · rw [chomp, if_pos last, last.1, last.2]
        exact .inr rfl
      · rw [chomp, if_neg last]
        rcases ih with same | ends
        · exact .inl (congrArg _ same)
        · exact .inr (congrArg _ ends)

theorem joinCrLf_cons {ch : Char} {rest : List Char}
    (single : ¬ (ch = '\r' ∧ rest.head? = some '\n')) :
    joinCrLf (ch :: rest) = ch :: joinCrLf rest := by
  rw [joinCrLf]
  rintro later rfl rfl
  exact single ⟨rfl, rfl⟩

theorem head?_of_chomp {row : List Char} {ch : Char}
    (first : (chomp row).head? = some ch) : row.head? = some ch := by
  rcases chomp_cases row with same | ends
  · rwa [same] at first
  · rw [ends, List.head?_append, first]
    rfl

/-- The text of a row and what follows it. -/
theorem joinCrLf_append (row rest : List Char) :
    joinCrLf (row ++ '\n' :: rest) = joinCrLf (chomp row) ++ '\n' :: joinCrLf rest := by
  induction row using joinCrLf.induct with
  | case1 later ih =>
      rw [List.cons_append, List.cons_append, joinCrLf, ih]
      rfl
  | case2 ch later notPair ih =>
      have noFeed : ch = '\r' → later.head? ≠ some '\n' := by
        intro carriage feed
        obtain ⟨behind, rfl⟩ := List.head?_eq_some_iff.mp feed
        exact notPair behind carriage rfl
      by_cases last : ch = '\r' ∧ later = []
      · rw [chomp, if_pos last, last.1, last.2]
        rfl
      · have whole : ¬ (ch = '\r' ∧ (later ++ '\n' :: rest).head? = some '\n') := by
          rintro ⟨carriage, feed⟩
          cases later with
          | nil => exact last ⟨carriage, rfl⟩
          | cons next later => exact noFeed carriage feed
        have front : ¬ (ch = '\r' ∧ (chomp later).head? = some '\n') :=
          fun ⟨carriage, feed⟩ => noFeed carriage (head?_of_chomp feed)
        rw [chomp, if_neg last, List.cons_append, joinCrLf_cons whole, ih,
          joinCrLf_cons front]
        rfl
  | case3 => rfl

theorem textLines_append (row rest : List Char) :
    textLines (row ++ '\n' :: rest) = textLines (chomp row) ++ textLines rest := by
  unfold textLines
  rw [joinCrLf_append, List.map_append, List.map_cons, if_neg (by decide)]
  exact List.splitOn_append_cons_self _ _

theorem joinCrLf_last (row : List Char) : joinCrLf (row ++ ['\r']) = joinCrLf row ++ ['\r'] := by
  induction row using joinCrLf.induct with
  | case1 later ih =>
      rw [List.cons_append, List.cons_append, joinCrLf, ih]
      rfl
  | case2 ch later notPair ih =>
      have whole : ¬ (ch = '\r' ∧ (later ++ ['\r']).head? = some '\n') := by
        rintro ⟨carriage, feed⟩
        cases later with
        | nil => cases feed
        | cons next later =>
            cases feed
            exact notPair later carriage rfl
      have front : ¬ (ch = '\r' ∧ later.head? = some '\n') := by
        rintro ⟨carriage, feed⟩
        obtain ⟨behind, rfl⟩ := List.head?_eq_some_iff.mp feed
        exact notPair behind carriage rfl
      rw [List.cons_append, joinCrLf_cons whole, ih, joinCrLf_cons front]
      rfl
  | case3 => rfl

/-- A carriage return at the end only adds an empty line. -/
theorem textLines_chomp (row : List Char) :
    textLines row = textLines (chomp row) ∨ textLines row = textLines (chomp row) ++ [[]] := by
  rcases chomp_cases row with same | ends
  · exact .inl (by rw [same])
  · refine .inr ?_
    have cut : textLines (chomp row ++ ['\r']) = textLines (chomp row) ++ [[]] := by
      unfold textLines
      rw [joinCrLf_last, List.map_append]
      exact List.splitOn_append_cons_self _ _
    rwa [← ends] at cut

theorem textLines_joinRows {rows : List (List Char)} (some : rows ≠ []) :
    textLines (joinRows rows) = rows.flatMap (fun row => textLines (chomp row)) ∨
      textLines (joinRows rows) =
        rows.flatMap (fun row => textLines (chomp row)) ++ [[]] := by
  induction rows with
  | nil => exact absurd rfl some
  | cons row rows ih =>
      cases rows with
      | nil =>
          have alone : joinRows [row] = row := List.intercalate_singleton
          rw [alone, List.flatMap_singleton]
          exact textLines_chomp row
      | cons next rows =>
          rw [joinRows_cons_cons, textLines_append, List.flatMap_cons, List.append_assoc]
          rcases ih (by simp) with same | more
          · exact .inl (congrArg _ same)
          · exact .inr (congrArg _ more)

/-- A line break in a row, other than a carriage return at its end. -/
def BreakAt (row : List Char) (index : Nat) : Prop :=
  row[index]? = some '\n' ∨ row[index]? = some '\r' ∧ index + 1 < row.length

variable {space : Char → Bool}

/-- Nothing but blanks comes behind a position of a row. -/
def BlankBehind (space : Char → Bool) (row : List Char) (index : Nat) : Prop :=
  ∀ later ch, index < later → row[later]? = some ch → space ch = true

/-- The line breaks of a row have nothing but blanks behind them. -/
def EndsInBreaks (space : Char → Bool) (row : List Char) : Prop :=
  ∀ index, row[index]? = some '\n' ∨ row[index]? = some '\r' →
    BlankBehind space row index

theorem joinCrLf_plain {row rest : List Char} (plain : ∀ ch ∈ row, ch ≠ '\r') :
    joinCrLf (row ++ rest) = row ++ joinCrLf rest := by
  induction row with
  | nil => rfl
  | cons ch row ih =>
      rw [List.cons_append, joinCrLf_cons fun pair => plain ch List.mem_cons_self pair.1,
        ih fun other member => plain other (.tail _ member)]
      rfl

theorem textLines_plain {row : List Char} (plain : ∀ ch ∈ row, ch ≠ '\r' ∧ ch ≠ '\n') :
    textLines row = [row] := by
  have unchanged := @joinCrLf_plain row [] fun ch member => (plain ch member).1
  rw [List.append_nil, joinCrLf, List.append_nil] at unchanged
  have kept : (row.map fun ch => if ch = '\r' then '\n' else ch) = row := by
    refine (List.map_congr_left fun ch member => if_neg (plain ch member).1).trans ?_
    exact List.map_id row
  unfold textLines
  rw [unchanged, kept]
  exact List.splitOn_eq_singleton fun member => (plain _ member).2 rfl

theorem mem_of_mem_splitOn {sep ch : Char} {text line : List Char}
    (listed : line ∈ text.splitOn sep) (member : ch ∈ line) : ch ∈ text := by
  induction text generalizing line with
  | nil =>
      rw [List.splitOn_nil, List.mem_singleton] at listed
      rwa [listed] at member
  | cons head text ih =>
      rw [List.splitOn_cons_eq_if_modifyHead] at listed
      split at listed
      · rcases List.mem_cons.mp listed with rfl | later
        · cases member
        · exact .tail _ (ih later member)
      · cases lines : text.splitOn sep with
        | nil => exact absurd lines (List.splitOn_ne_nil _ _)
        | cons first others =>
            rw [lines] at ih listed
            rcases List.mem_cons.mp listed with rfl | later
            · rcases List.mem_cons.mp member with rfl | inside
              · exact List.mem_cons_self
              · exact .tail _ (ih List.mem_cons_self inside)
            · exact .tail _ (ih (.tail _ later) member)

theorem mem_of_mem_joinCrLf {ch : Char} {text : List Char} (member : ch ∈ joinCrLf text) :
    ch ∈ text := by
  induction text using joinCrLf.induct with
  | case1 later ih =>
      rcases List.mem_cons.mp member with rfl | inside
      · exact .tail _ List.mem_cons_self
      · exact .tail _ (.tail _ (ih inside))
  | case2 head later notPair ih =>
      rw [joinCrLf.eq_2 _ _ notPair] at member
      rcases List.mem_cons.mp member with rfl | inside
      · exact List.mem_cons_self
      · exact .tail _ (ih inside)
  | case3 => cases member

theorem chomp_concat (row : List Char) : chomp (row ++ ['\r']) = row := by
  induction row with
  | nil => rfl
  | cons ch row ih =>
      rw [List.cons_append, chomp, if_neg (by simp), ih]

theorem chomp_plain {row : List Char} (plain : ∀ ch ∈ row, ch ≠ '\r') : chomp row = row := by
  rcases chomp_cases row with same | ends
  · exact same
  · refine absurd rfl (plain '\r' ?_)
    rw [ends]
    exact List.mem_append_right _ List.mem_cons_self

/-- A text up to its first line break. -/
theorem textLines_break {front behind : List Char} {ch : Char}
    (plain : ∀ ch ∈ front, ch ≠ '\r' ∧ ch ≠ '\n') (breaks : ch = '\n' ∨ ch = '\r') :
    ∃ rest : List Char, rest <:+ behind ∧
      textLines (front ++ ch :: behind) = front :: textLines rest := by
  have noReturn : ∀ ch ∈ front, ch ≠ '\r' := fun ch member => (plain ch member).1
  have feed : ∀ rest, textLines (front ++ '\n' :: rest) = front :: textLines rest := by
    intro rest
    rw [textLines_append, chomp_plain noReturn, textLines_plain plain]
    rfl
  rcases breaks with rfl | rfl
  · exact ⟨behind, List.suffix_refl _, feed behind⟩
  · by_cases pair : behind.head? = some '\n'
    · obtain ⟨rest, rfl⟩ := List.head?_eq_some_iff.mp pair
      refine ⟨rest, List.suffix_cons _ _, ?_⟩
      rw [← feed rest]
      unfold textLines
      rw [joinCrLf_plain noReturn, joinCrLf_plain noReturn]
      rfl
    · refine ⟨behind, List.suffix_refl _, ?_⟩
      rw [← feed behind]
      unfold textLines
      rw [joinCrLf_plain noReturn, joinCrLf_plain noReturn,
        joinCrLf_cons (fun both => pair both.2), joinCrLf_cons (fun both => by cases both.1),
        List.map_append, List.map_append, List.map_cons, List.map_cons, if_pos rfl,
        if_neg (by decide)]

theorem getElem?_of_chomp {row : List Char} {index : Nat} {ch : Char}
    (found : (chomp row)[index]? = some ch) : row[index]? = some ch := by
  rcases chomp_cases row with same | ends
  · rwa [same] at found
  · have below := (List.getElem?_eq_some_iff.mp found).1
    rw [ends, List.getElem?_append_left below]
    exact found

/-- A row has a line break exactly where it has one before its end. -/
theorem exists_breakAt_iff {row : List Char} :
    (∃ index, BreakAt row index) ↔ ∃ ch ∈ chomp row, ch = '\n' ∨ ch = '\r' := by
  constructor
  · rintro ⟨index, breaks⟩
    rcases chomp_cases row with same | ends
    · rw [same]
      rcases breaks with feed | ⟨carriage, _⟩
      · exact ⟨_, List.mem_of_getElem? feed, .inl rfl⟩
      · exact ⟨_, List.mem_of_getElem? carriage, .inr rfl⟩
    · have length : row.length = (chomp row).length + 1 := by
        have lengths := congrArg List.length ends
        rwa [List.length_append] at lengths
      have inside : ∀ ch, row[index]? = some ch → index < (chomp row).length →
          ch ∈ chomp row := by
        intro ch found below
        rw [ends, List.getElem?_append_left below] at found
        exact List.mem_of_getElem? found
      rcases breaks with feed | ⟨carriage, further⟩
      · have notLast : index ≠ (chomp row).length := by
          rintro rfl
          have last : (chomp row ++ ['\r'])[(chomp row).length]? = some '\r' :=
            List.getElem?_concat_length
          rw [← ends, feed] at last
          cases last
        have below := (List.getElem?_eq_some_iff.mp feed).1
        exact ⟨_, inside _ feed (by omega), .inl rfl⟩
      · exact ⟨_, inside _ carriage (by omega), .inr rfl⟩
  · rintro ⟨ch, member, breaks⟩
    obtain ⟨index, found⟩ := List.mem_iff_getElem?.mp member
    have below := (List.getElem?_eq_some_iff.mp found).1
    have here := getElem?_of_chomp found
    rcases breaks with rfl | rfl
    · exact ⟨index, .inl here⟩
    · refine ⟨index, .inr ⟨here, ?_⟩⟩
      rcases chomp_cases row with same | ends
      · by_contra last
        have inRow := (List.getElem?_eq_some_iff.mp here).1
        have final : row.getLast? = some '\r' := by
          rw [List.getLast?_eq_getElem?, ← here]
          congr 1
          omega
        obtain ⟨front, rfl⟩ := List.getLast?_eq_some_iff.mp final
        rw [chomp_concat] at same
        have lengths := congrArg List.length same
        rw [List.length_append, List.length_singleton] at lengths
        omega
      · have lengths := congrArg List.length ends
        rw [List.length_append] at lengths
        simp only [List.length_singleton] at lengths
        omega

/-- What is dropped at the end may as well be longer. -/
theorem rdropWhile_append_blank {α : Type} {test : α → Bool} {row rest : List α}
    (blank : ∀ item ∈ rest, test item = true) :
    (row ++ rest).rdropWhile test = row.rdropWhile test := by
  unfold List.rdropWhile
  rw [List.reverse_append, List.dropWhile_append_of_pos]
  intro item member
  exact blank item (List.mem_reverse.mp member)

/-- The trimmed lines of a row. -/
def rowPieces (space : Char → Bool) (row : List Char) : List (List Char) :=
  (textLines (chomp row)).map (·.rdropWhile space)

theorem plain_of_mem_trimLines {text line : List Char}
    (listed : line ∈ trimLines space (textLines text)) : '\n' ∉ line ∧ '\r' ∉ line := by
  have trimmed := (List.dropWhile_sublist _).subset ((List.rdropWhile_prefix _ _).subset listed)
  obtain ⟨whole, cut, rfl⟩ := List.mem_map.mp trimmed
  have shorter : ∀ {ch}, ch ∈ whole.rdropWhile space → ch ∈ whole :=
    fun member => (List.rdropWhile_prefix _ _).subset member
  refine ⟨fun feed => not_mem_of_mem_splitOn cut (shorter feed), fun carriage => ?_⟩
  obtain ⟨ch, _, same⟩ := List.mem_map.mp (mem_of_mem_splitOn cut (shorter carriage))
  split at same
  · cases same
  · rename_i other
    exact other same

section Blank

variable (newline : space '\n' = true) (carriage : space '\r' = true)

include newline in
theorem map_trim_textLines_blank {text : List Char} (blank : ∀ ch ∈ text, space ch = true) :
    (textLines text).map (·.rdropWhile space) = List.replicate (textLines text).length [] := by
  refine List.eq_replicate_iff.mpr ⟨List.length_map _, fun trimmed listed => ?_⟩
  obtain ⟨line, cut, rfl⟩ := List.mem_map.mp listed
  refine List.rdropWhile_eq_nil_iff.mpr fun ch member => ?_
  obtain ⟨original, inside, rfl⟩ := List.mem_map.mp (mem_of_mem_splitOn cut member)
  split
  · exact newline
  · exact blank original (mem_of_mem_joinCrLf inside)

include carriage in
theorem rdropWhile_chomp (row : List Char) :
    (chomp row).rdropWhile space = row.rdropWhile space := by
  rcases chomp_cases row with same | ends
  · rw [same]
  · have trimmed := @rdropWhile_append_blank _ space (chomp row) ['\r'] fun ch member => by
      rw [List.mem_singleton.mp member]
      exact carriage
    rwa [← ends, eq_comm] at trimmed

include newline carriage in
/-- A row that ends in its line breaks is its own line, with empty lines behind
it if there are line breaks. -/
theorem rowPieces_eq {row : List Char} (ends : EndsInBreaks space row) :
    ∃ extra, rowPieces space row = row.rdropWhile space :: List.replicate extra [] ∧
      (extra = 0 ↔ ∀ index, ¬ BreakAt row index) := by
  have noBreaks : (∀ index, ¬ BreakAt row index) ↔
      ¬ ∃ ch ∈ chomp row, ch = '\n' ∨ ch = '\r' := by
    rw [← exists_breakAt_iff, not_exists]
  rw [noBreaks]
  unfold rowPieces
  cases first : (chomp row).find? fun ch => ch = '\n' ∨ ch = '\r' with
  | none =>
      have plain : ∀ ch ∈ chomp row, ch ≠ '\r' ∧ ch ≠ '\n' := by
        intro ch member
        have refused := List.find?_eq_none.mp first ch member
        simp only [decide_eq_true_eq, not_or] at refused
        exact ⟨refused.2, refused.1⟩
      refine ⟨0, ?_, iff_of_true rfl ?_⟩
      · rw [textLines_plain plain, List.map_singleton, rdropWhile_chomp carriage]
        rfl
      · rintro ⟨ch, member, rfl | rfl⟩
        · exact (plain _ member).2 rfl
        · exact (plain _ member).1 rfl
  | some ch =>
      obtain ⟨breaks, front, behind, split, before⟩ := List.find?_eq_some_iff_append.mp first
      simp only [decide_eq_true_eq] at breaks
      have plain : ∀ ch ∈ front, ch ≠ '\r' ∧ ch ≠ '\n' := by
        intro other member
        have refused := before other member
        simp only [Bool.not_eq_true', decide_eq_false_iff_not, not_or] at refused
        exact ⟨refused.2, refused.1⟩
      have held : ∀ (index : Nat) (other : Char), (front ++ ch :: behind)[index]? = some other →
          row[index]? = some other := by
        intro index other found
        rw [← split] at found
        exact getElem?_of_chomp found
      have blank : ∀ other ∈ behind, space other = true := by
        intro other member
        obtain ⟨offset, found⟩ := List.mem_iff_getElem?.mp member
        refine ends front.length ?_ (front.length + (offset + 1)) other (by omega) ?_
        · have here := held front.length ch (by simp)
          rcases breaks with rfl | rfl
          · exact .inl here
          · exact .inr here
        · refine held _ other ?_
          rw [List.getElem?_append_right (by omega), Nat.add_sub_cancel_left]
          exact found
      obtain ⟨rest, suffix, cut⟩ := textLines_break plain breaks
      have blankRest : ∀ other ∈ rest, space other = true :=
        fun other member => blank other (suffix.subset member)
      have blankBreak : ∀ other ∈ ch :: behind, space other = true := by
        intro other member
        rcases List.mem_cons.mp member with rfl | inside
        · rcases breaks with rfl | rfl
          · exact newline
          · exact carriage
        · exact blank other inside
      refine ⟨(textLines rest).length, ?_, iff_of_false ?_ ?_⟩
      · rw [← rdropWhile_chomp carriage row, split, cut, List.map_cons,
          map_trim_textLines_blank newline blankRest, rdropWhile_append_blank blankBreak]
      · exact fun none => List.splitOn_ne_nil _ _ (List.length_eq_zero_iff.mp none)
      · refine fun none => none ⟨ch, ?_, breaks⟩
        rw [split]
        exact List.mem_append_right _ List.mem_cons_self

end Blank

end Foundations
