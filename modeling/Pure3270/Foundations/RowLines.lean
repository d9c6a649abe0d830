import Mathlib.Data.List.GetD
import Pure3270.Foundations.TextLines

/-!
# Rows and their lines

The lines of a text of rows are the rows, up to blanks at their ends, exactly
where the first row is not blank and nothing but blanks comes behind a line
break; or there are only blanks.
-/

namespace Foundations

variable {space : Char → Bool}

def IsBlank (space : Char → Bool) (row : List Char) : Prop := ∀ ch ∈ row, space ch = true

instance (row : List Char) : Decidable (IsBlank space row) :=
  List.decidableBAll (fun ch => space ch = true) row

theorem rdropWhile_eq_nil_iff_isBlank {row : List Char} :
    row.rdropWhile space = [] ↔ IsBlank space row :=
  List.rdropWhile_eq_nil_iff

/-- There is nothing but blanks, or else the first row is not blank and nothing
but blanks comes behind a line break. -/
def Legible (space : Char → Bool) (rows : List (List Char)) : Prop :=
  (∀ row ∈ rows, IsBlank space row) ∨
    (∃ first, rows.head? = some first ∧ ¬ IsBlank space first) ∧
      ∀ (index : Nat) (row : List Char), rows[index]? = some row →
        ∀ col, BreakAt row col → BlankBehind space row col ∧
          ∀ (later : Nat) (other : List Char), index < later → rows[later]? = some other →
            IsBlank space other

theorem legible_of_plain {first : List Char} {rows : List (List Char)}
    (shown : ¬ IsBlank space first)
    (plain : ∀ row ∈ first :: rows, '\n' ∉ row ∧ '\r' ∉ row) :
    Legible space (first :: rows) := by
  refine .inr ⟨⟨first, rfl, shown⟩, fun index row found col breaks => ?_⟩
  have none := plain row (List.mem_of_getElem? found)
  rcases breaks with feed | ⟨carriage, _⟩
  · exact absurd (List.mem_of_getElem? feed) none.1
  · exact absurd (List.mem_of_getElem? carriage) none.2

theorem endsInBreaks_of_breakAt {row : List Char}
    (ends : ∀ col, BreakAt row col → BlankBehind space row col) : EndsInBreaks space row := by
  intro index breaks
  by_cases last : row.length ≤ index + 1
  · intro later ch behind found
    have below := (List.getElem?_eq_some_iff.mp found).1
    omega
  · exact ends index (breaks.imp_right fun carriage => ⟨carriage, by omega⟩)

theorem trimLines_joinRows {rows : List (List Char)} (some : rows ≠ []) :
    trimLines space (textLines (joinRows rows)) =
      ((rows.flatMap (rowPieces space)).dropWhile List.isEmpty).rdropWhile List.isEmpty := by
  have pieces : (rows.flatMap fun row => textLines (chomp row)).map (·.rdropWhile space) =
      rows.flatMap (rowPieces space) := List.map_flatMap
  unfold trimLines
  rcases textLines_joinRows some with same | more
  · rw [same, pieces]
  · rw [more, List.map_append, pieces, List.dropWhile_append]
    split
    · rename_i empty
      rw [List.isEmpty_iff.mp empty]
      rfl
    · exact rdropWhile_append_blank fun line listed => by
        obtain ⟨_, member, rfl⟩ := List.mem_map.mp listed
        rw [List.mem_singleton.mp member]
        rfl

section Rows

variable (newline : space '\n' = true) (carriage : space '\r' = true)
include newline carriage

theorem rowPieces_blank {row : List Char} (blank : IsBlank space row) :
    ∃ extra, rowPieces space row = List.replicate (extra + 1) [] := by
  have ends : EndsInBreaks space row := fun index _ later ch _ found =>
    blank ch (List.mem_of_getElem? found)
  obtain ⟨extra, pieces, _⟩ := rowPieces_eq newline carriage ends
  exact ⟨extra, by rw [pieces, rdropWhile_eq_nil_iff_isBlank.mpr blank]; rfl⟩

/-- Rows with nothing but blanks behind their line breaks are their own lines,
with empty ones at the end. -/
theorem flatMap_rowPieces {rows : List (List Char)}
    (breaks : ∀ (index : Nat) (row : List Char), rows[index]? = some row →
      ∀ col, BreakAt row col → BlankBehind space row col ∧
        ∀ (later : Nat) (other : List Char), index < later → rows[later]? = some other →
          IsBlank space other) :
    ∃ extra, rows.flatMap (rowPieces space) =
      rows.map (·.rdropWhile space) ++ List.replicate extra [] := by
  induction rows with
  | nil => exact ⟨0, rfl⟩
  | cons row rows ih =>
      obtain ⟨others, rest⟩ := ih fun index other found col breaksThere =>
        have here := breaks (index + 1) other found col breaksThere
        ⟨here.1, fun later last behind listed =>
          here.2 (later + 1) last (by omega) listed⟩
      obtain ⟨extra, pieces, none⟩ := rowPieces_eq newline carriage
        (endsInBreaks_of_breakAt fun col breaksHere => (breaks 0 row rfl col breaksHere).1)
      rw [List.flatMap_cons, List.map_cons, pieces, rest]
      rcases Nat.eq_zero_or_pos extra with rfl | some
      · exact ⟨others, rfl⟩
      · have broken : ∃ col, BreakAt row col := by
          by_contra whole
          have zero := none.mpr (not_exists.mp whole)
          omega
        obtain ⟨col, breaksHere⟩ := broken
        have blank : rows.map (·.rdropWhile space) = List.replicate rows.length [] := by
          refine List.eq_replicate_iff.mpr ⟨List.length_map _, fun line listed => ?_⟩
          obtain ⟨other, member, rfl⟩ := List.mem_map.mp listed
          obtain ⟨later, found⟩ := List.mem_iff_getElem?.mp member
          exact rdropWhile_eq_nil_iff_isBlank.mpr
            ((breaks 0 row rfl col breaksHere).2 (later + 1) other (by omega) found)
        refine ⟨others + extra, ?_⟩
        rw [blank, List.cons_append, List.cons_append, List.replicate_append_replicate,
          List.replicate_append_replicate, List.replicate_append_replicate]
        congr 2
        omega

theorem trimLines_of_legible {rows : List (List Char)} (legible : Legible space rows) :
    trimLines space (textLines (joinRows rows)) =
      (rows.map (·.rdropWhile space)).rdropWhile List.isEmpty := by
  have empty : ∀ {lines : List (List Char)}, (∀ line ∈ lines, line = []) →
      ∀ line ∈ lines, line.isEmpty = true :=
    fun none line listed => List.isEmpty_iff.mpr (none line listed)
  rcases eq_or_ne rows [] with rfl | some
  · rfl
  rw [trimLines_joinRows some]
  rcases legible with blank | ⟨⟨first, head, shown⟩, breaks⟩
  · have noPieces : ∀ line ∈ rows.flatMap (rowPieces space), line = [] := by
      intro line listed
      obtain ⟨row, member, inside⟩ := List.mem_flatMap.mp listed
      obtain ⟨extra, pieces⟩ := rowPieces_blank newline carriage (blank row member)
      rw [pieces] at inside
      exact List.eq_of_mem_replicate inside
    have noRows : ∀ line ∈ rows.map (·.rdropWhile space), line = [] := by
      intro line listed
      obtain ⟨row, member, rfl⟩ := List.mem_map.mp listed
      exact rdropWhile_eq_nil_iff_isBlank.mpr (blank row member)
    rw [List.dropWhile_eq_nil_iff.mpr (empty noPieces), List.rdropWhile_nil,
      List.rdropWhile_eq_nil_iff.mpr (empty noRows)]
  · obtain ⟨rest, rfl⟩ := List.head?_eq_some_iff.mp head
    obtain ⟨extra, pieces⟩ := flatMap_rowPieces newline carriage breaks
    have kept : ¬ (first.rdropWhile space).isEmpty = true := by
      rw [List.isEmpty_iff, rdropWhile_eq_nil_iff_isBlank]
      exact shown
    rw [pieces, List.map_cons, List.cons_append, List.dropWhile_cons_of_neg kept,
      ← List.cons_append]
    refine rdropWhile_append_blank (empty fun line listed => ?_)
    exact List.eq_of_mem_replicate listed

end Rows

theorem getD_rdropWhile_isEmpty (lines : List (List Char)) (index : Nat) :
    (lines.rdropWhile List.isEmpty).getD index [] = lines.getD index [] := by
  have parts := List.rdropWhile_append_rtakeWhile (p := List.isEmpty) (l := lines)
  generalize lines.rdropWhile List.isEmpty = kept at parts
  rw [← parts]
  by_cases inside : index < kept.length
  · rw [List.getD_append _ _ _ _ inside]
  · rw [List.getD_eq_default _ _ (Nat.le_of_not_lt inside),
      List.getD_append_right _ _ _ _ (Nat.le_of_not_lt inside), List.getD_eq_getElem?_getD]
    cases dropped : (lines.rtakeWhile List.isEmpty)[index - kept.length]? with
    | none => rfl
    | some line =>
        have empty := List.mem_rtakeWhile_imp (List.mem_of_getElem? dropped)
        exact (List.isEmpty_iff.mp empty).symm

/-- Rows have at most as many lines as there are where they are to be. -/
theorem countP_le_of_held {rows lines : List (List Char)}
    (held : ∀ (index : Nat) (row : List Char), rows[index]? = some row →
      ¬ IsBlank space row → lines.getD index [] ≠ []) :
    rows.countP (fun row => ¬ IsBlank space row) ≤ lines.countP (fun line => line ≠ []) := by
  induction rows generalizing lines with
  | nil => exact Nat.zero_le _
  | cons row rows ih =>
      cases lines with
      | nil =>
          have none : ∀ other ∈ row :: rows, IsBlank space other := by
            intro other member
            by_contra shown
            obtain ⟨index, found⟩ := List.mem_iff_getElem?.mp member
            exact held index other found shown rfl
          refine Nat.le_of_eq (List.countP_eq_zero.mpr fun other member => ?_)
          simpa using none other member
      | cons line lines =>
          have rest := @ih lines fun index other found shown =>
            held (index + 1) other found shown
          have here : ¬ IsBlank space row → line ≠ [] := fun shown => held 0 row rfl shown
          rw [List.countP_cons, List.countP_cons]
          by_cases shown : IsBlank space row
          · rw [if_neg (by simpa using shown)]
            omega
          · rw [if_pos (by simpa using shown), if_pos (by simpa using here shown)]
            omega

theorem countP_dropWhile_isEmpty (lines : List (List Char)) :
    (lines.dropWhile List.isEmpty).countP (fun line => line ≠ []) =
      lines.countP fun line => line ≠ [] := by
  have front : (lines.takeWhile List.isEmpty).countP (fun line => line ≠ []) = 0 := by
    refine List.countP_eq_zero.mpr fun line listed => ?_
    have empty := List.isEmpty_iff.mp (List.mem_takeWhile_imp listed)
    simpa using empty
  have parts := congrArg (List.countP fun line => line ≠ [])
    (List.takeWhile_append_dropWhile (p := List.isEmpty) (l := lines))
  rw [List.countP_append, front, Nat.zero_add] at parts
  exact parts

section Converse

variable (newline : space '\n' = true) (carriage : space '\r' = true)
include newline carriage

/-- Rows behind an additional line are blank if none of them has its line where
it is to be. -/
theorem blank_of_shifted {rows : List (List Char)}
    (ends : ∀ row ∈ rows, EndsInBreaks space row) (extra : Nat)
    (held : ∀ (index : Nat) (row : List Char), rows[index]? = some row →
      ¬ IsBlank space row →
        (List.replicate (extra + 1) [] ++ rows.flatMap (rowPieces space)).getD index [] ≠ []) :
    ∀ row ∈ rows, IsBlank space row := by
  induction rows generalizing extra with
  | nil => exact fun _ => nofun
  | cons row rows ih =>
      have here : IsBlank space row := by
        by_contra shown
        exact held 0 row rfl shown rfl
      obtain ⟨more, pieces⟩ := rowPieces_blank newline carriage here
      have later := ih (fun other member => ends other (.tail _ member)) (extra + more)
        (fun index other found shown => by
          have there := held (index + 1) other found shown
          rw [List.flatMap_cons, pieces, ← List.append_assoc,
            List.replicate_append_replicate] at there
          have count : extra + 1 + (more + 1) = (extra + more + 1) + 1 := by omega
          rw [count, List.replicate_succ, List.cons_append, List.getD_cons_succ] at there
          exact there)
      intro other member
      rcases List.mem_cons.mp member with rfl | behind
      · exact here
      · exact later other behind

/-- Where every row has its line, additional lines come behind the last one. -/
theorem blank_behind_breaks {rows : List (List Char)}
    (ends : ∀ row ∈ rows, EndsInBreaks space row)
    (held : ∀ (index : Nat) (row : List Char), rows[index]? = some row →
      ¬ IsBlank space row → (rows.flatMap (rowPieces space)).getD index [] ≠ [])
    {index col : Nat} {row : List Char} (found : rows[index]? = some row)
    (breaks : BreakAt row col) {later : Nat} {other : List Char} (behind : index < later)
    (listed : rows[later]? = some other) : IsBlank space other := by
  induction rows generalizing index later with
  | nil => cases found
  | cons first rows ih =>
      obtain ⟨extra, pieces, none⟩ :=
        rowPieces_eq newline carriage (ends first List.mem_cons_self)
      have endsLater : ∀ row ∈ rows, EndsInBreaks space row :=
        fun row member => ends row (.tail _ member)
      have heldLater : ∀ (index : Nat) (row : List Char), rows[index]? = some row →
          ¬ IsBlank space row →
            (List.replicate extra [] ++ rows.flatMap (rowPieces space)).getD index [] ≠ [] := by
        intro index row found shown
        have there := held (index + 1) row found shown
        rwa [List.flatMap_cons, pieces, List.cons_append, List.getD_cons_succ] at there
      obtain ⟨later, rfl⟩ : ∃ before, later = before + 1 := ⟨later - 1, by omega⟩
      cases extra with
      | succ extra =>
          exact blank_of_shifted newline carriage endsLater extra heldLater other
            (List.mem_of_getElem? listed)
      | zero =>
          cases index with
          | zero =>
              cases found
              exact absurd breaks (none.mp rfl col)
          | succ index => exact ih endsLater heldLater found (by omega) listed

theorem countP_rowPieces {rows : List (List Char)}
    (ends : ∀ row ∈ rows, EndsInBreaks space row) :
    (rows.flatMap (rowPieces space)).countP (fun line => line ≠ []) =
      rows.countP (fun row => ¬ IsBlank space row) := by
  induction rows with
  | nil => rfl
  | cons row rows ih =>
      obtain ⟨extra, pieces, _⟩ := rowPieces_eq newline carriage (ends row List.mem_cons_self)
      have empty : (List.replicate extra ([] : List Char)).countP (fun line => line ≠ []) = 0 := by
        refine List.countP_eq_zero.mpr fun line listed => ?_
        rw [List.eq_of_mem_replicate listed]
        simp
      rw [List.flatMap_cons, List.countP_append, pieces, List.countP_cons, List.countP_cons,
        empty, ih fun other member => ends other (.tail _ member), Nat.zero_add, Nat.add_comm]
      congr 1
      simp only [ne_eq, rdropWhile_eq_nil_iff_isBlank]

theorem legible_of_held {rows : List (List Char)}
    (ends : ∀ row ∈ rows, EndsInBreaks space row)
    (held : ∀ (index : Nat) (row : List Char), rows[index]? = some row →
      ¬ IsBlank space row →
        (trimLines space (textLines (joinRows rows))).getD index [] ≠ []) :
    Legible space rows := by
  by_cases nothing : ∀ row ∈ rows, IsBlank space row
  · exact .inl nothing
  refine .inr ?_
  have some : rows ≠ [] := by
    rintro rfl
    exact nothing fun _ => nofun
  have count := countP_rowPieces newline carriage ends
  simp only [trimLines_joinRows some, getD_rdropWhile_isEmpty] at held
  obtain ⟨first, rest, rfl⟩ := List.exists_cons_of_ne_nil some
  have shown : ¬ IsBlank space first := by
    intro blank
    have dropped := countP_dropWhile_isEmpty ((first :: rest).flatMap (rowPieces space))
    rw [count, List.countP_cons, if_neg (by simpa using blank), Nat.add_zero] at dropped
    cases lines : ((first :: rest).flatMap (rowPieces space)).dropWhile List.isEmpty with
    | nil =>
        rw [lines, List.countP_nil, eq_comm, List.countP_eq_zero] at dropped
        refine nothing fun row member => ?_
        rcases List.mem_cons.mp member with rfl | behind
        · exact blank
        · simpa using dropped row behind
    | cons line others =>
        have filled : line ≠ [] := by
          have some : ((first :: rest).flatMap (rowPieces space)).dropWhile List.isEmpty ≠ [] := by
            rw [lines]
            exact List.cons_ne_nil _ _
          have kept := List.head_dropWhile_not List.isEmpty some
          simp only [lines, List.head_cons] at kept
          simpa using kept
        have fewer := @countP_le_of_held space rest others fun index row found shown => by
          have there := held (index + 1) row found shown
          rwa [lines, List.getD_cons_succ] at there
        rw [lines, List.countP_cons, if_pos (by simpa using filled)] at dropped
        omega
  refine ⟨⟨first, rfl, shown⟩, fun index row found col breaks => ?_⟩
  have inPlace : ((first :: rest).flatMap (rowPieces space)).dropWhile List.isEmpty =
      (first :: rest).flatMap (rowPieces space) := by
    obtain ⟨extra, pieces, _⟩ := rowPieces_eq newline carriage (ends first List.mem_cons_self)
    have kept : ¬ (first.rdropWhile space).isEmpty = true := by
      rw [List.isEmpty_iff, rdropWhile_eq_nil_iff_isBlank]
      exact shown
    rw [List.flatMap_cons, pieces, List.cons_append, List.dropWhile_cons_of_neg kept]
  rw [inPlace] at held
  refine ⟨?_, fun later other behind listed => ?_⟩
  · exact ends row (List.mem_of_getElem? found) col (breaks.imp_right And.left)
  · exact blank_behind_breaks newline carriage ends held found breaks behind listed

end Converse

end Foundations
