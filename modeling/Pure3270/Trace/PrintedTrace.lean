import Pure3270.Trace.TraceFile

/-!
# Printed traces

A trace is printed record by record.  A record starts at offset 0 and takes one line or
more, each with the number of bytes that the lines before it have shown.  Nothing in the
file says where a record ends; all the same it is read back as it was printed.
-/

namespace Pure3270

namespace TraceLine

def sign : Direction → Char
  | .fromHost => '<'
  | .toHost => '>'

/-- Digits are printed in the one case or in the other. -/
def letterCase (upper : Bool) (digit : Char) : Char :=
  if upper then digit.toUpper else digit

def hexText (upper : Bool) (number : Nat) : List Char :=
  (Nat.toDigits 16 number).map (letterCase upper)

def hexData (upper : Bool) (data : List UInt8) : List Char :=
  data.flatMap fun byte =>
    [letterCase upper (byte.toNat / 16).digitChar,
      letterCase upper (byte.toNat % 16).digitChar]

/-- The white space of a line. -/
structure Layout where
  margin : List Char
  beforeOffset : List Char
  beforeData : List Char
  behind : List Char
  upper : Bool
  blank : ∀ ch ∈ margin ++ beforeOffset ++ beforeData ++ behind, isSpace ch = true
  offsetApart : beforeOffset ≠ []
  dataApart : beforeData ≠ []

/-- The line without the white space around it. -/
def Layout.core (layout : Layout) (line : TraceRecord) : List Char :=
  sign line.direction :: (layout.beforeOffset ++ '0' :: 'x' ::
    (hexText layout.upper line.offset ++
      (layout.beforeData ++ hexData layout.upper line.data)))

/-- The line of a piece of a record. -/
def Layout.print (layout : Layout) (line : TraceRecord) : List Char :=
  layout.margin ++ layout.core line ++ layout.behind

theorem plain_blank : ∀ ch ∈ [] ++ [' '] ++ [' '] ++ [], isSpace ch = true := by
  intro ch member
  have blank : ch = ' ' := by simpa using member
  rw [blank]
  rfl

/-- One blank between the parts of a line. -/
def plainLayout : Layout where
  margin := []
  beforeOffset := [' ']
  beforeData := [' ']
  behind := []
  upper := false
  blank := plain_blank
  offsetApart := List.cons_ne_nil ' ' []
  dataApart := List.cons_ne_nil ' ' []

example : plainLayout.print ⟨.fromHost, 0x20, [0xF1, 0x0C]⟩ = "< 0x20 f10c".toList := by
  decide +kernel

theorem hexDigit_letterCase (upper : Bool) {digit : Nat} (below : digit < 16) :
    hexDigit (letterCase upper digit.digitChar) = some digit := by
  revert digit
  cases upper <;> decide +kernel

theorem isHexDigit_letterCase (upper : Bool) {digit : Nat} (below : digit < 16) :
    isHexDigit (letterCase upper digit.digitChar) = true := by
  unfold isHexDigit
  rw [hexDigit_letterCase upper below]
  rfl

theorem hexNumber_concat {digits : List Char} {ch : Char} {digit : Nat}
    (read : hexDigit ch = some digit) :
    hexNumber (digits ++ [ch]) = 16 * hexNumber digits + digit := by
  unfold hexNumber
  rw [List.filterMap_append, List.foldl_append, List.filterMap_cons_some read]
  rfl

/-- A number is read as it is printed. -/
theorem hexNumber_hexText (upper : Bool) (number : Nat) :
    hexNumber (hexText upper number) = number := by
  induction number using Nat.strong_induction_on with
  | h number ih =>
      unfold hexText at ih ⊢
      have digit := hexDigit_letterCase upper (Nat.mod_lt number (Nat.succ_pos 15))
      by_cases small : number < 16
      · rw [Nat.mod_eq_of_lt small] at digit
        rw [Nat.toDigits_of_lt_base small]
        exact (@hexNumber_concat [] _ _ digit).trans (Nat.zero_add number)
      · have large := Nat.le_of_not_lt small
        rw [Nat.toDigits_of_base_le (by decide) large, List.map_append, List.map_singleton,
          hexNumber_concat digit, ih (number / 16) (Nat.div_lt_self (by omega) (by decide))]
        exact Nat.div_add_mod number 16

theorem isHexDigit_of_mem_hexText {upper : Bool} {number : Nat} {ch : Char}
    (member : ch ∈ hexText upper number) : isHexDigit ch = true := by
  induction number using Nat.strong_induction_on with
  | h number ih =>
      unfold hexText at ih member
      have digit := isHexDigit_letterCase upper (Nat.mod_lt number (Nat.succ_pos 15))
      by_cases small : number < 16
      · rw [Nat.mod_eq_of_lt small] at digit
        rw [Nat.toDigits_of_lt_base small, List.map_singleton, List.mem_singleton] at member
        rwa [member]
      · have large := Nat.le_of_not_lt small
        rw [Nat.toDigits_of_base_le (by decide) large, List.map_append, List.map_singleton]
          at member
        rcases List.mem_append.mp member with earlier | last
        · exact ih (number / 16) (Nat.div_lt_self (by omega) (by decide)) earlier
        · rwa [List.mem_singleton.mp last]

/-- Bytes are read as they are printed. -/
theorem hexBytes_hexData (upper : Bool) (data : List UInt8) :
    hexBytes (hexData upper data) = some data := by
  induction data with
  | nil => rfl
  | cons byte data ih =>
      have bound := byte.toNat_lt
      have below : byte.toNat / 16 < 16 := by omega
      have high := hexDigit_letterCase upper below
      have low := hexDigit_letterCase upper (Nat.mod_lt byte.toNat (Nat.succ_pos 15))
      have number := (@hexNumber_concat [_] _ _ low).trans
        (congrArg (16 * · + _) (@hexNumber_concat [] _ _ high))
      have same : 16 * (16 * hexNumber [] + byte.toNat / 16) + byte.toNat % 16 =
          byte.toNat := by
        show 16 * (16 * 0 + _) + _ = _
        omega
      have first : hexBytes (hexData upper (byte :: data)) =
          (hexBytes (hexData upper data)).map (.ofNat (hexNumber
            ([letterCase upper (byte.toNat / 16).digitChar] ++
              [letterCase upper (byte.toNat % 16).digitChar])) :: ·) := rfl
      rw [first, ih, number, same, UInt8.ofNat_toNat]
      rfl

theorem isHexDigit_of_mem_hexData {upper : Bool} {data : List UInt8} {ch : Char}
    (member : ch ∈ hexData upper data) : isHexDigit ch = true := by
  obtain ⟨byte, _, here⟩ := List.mem_flatMap.mp member
  have bound := byte.toNat_lt
  rcases List.mem_cons.mp here with rfl | low
  · exact isHexDigit_letterCase upper (by omega)
  · rw [List.mem_singleton.mp low]
    exact isHexDigit_letterCase upper (Nat.mod_lt _ (by decide))

theorem isSpace_of_isHexDigit {ch : Char} (digit : isHexDigit ch = true) :
    isSpace ch = false := by
  have ranges : (48 ≤ ch.toNat ∧ ch.toNat ≤ 57) ∨ (97 ≤ ch.toNat ∧ ch.toNat ≤ 102) ∨
      (65 ≤ ch.toNat ∧ ch.toNat ≤ 70) := by
    unfold isHexDigit hexDigit at digit
    split at digit
    · rename_i range
      exact .inl range
    · split at digit
      · rename_i range
        exact .inr (.inl range)
      · split at digit
        · rename_i range
          exact .inr (.inr range)
        · cases digit
  unfold isSpace
  rw [decide_eq_false_iff_not]
  intro listed
  simp only [List.mem_cons, List.not_mem_nil, or_false] at listed
  omega

theorem takeWhile_run {test : Char → Bool} {front rest : List Char}
    (passes : ∀ ch ∈ front, test ch = true) (stops : ∀ ch ∈ rest.head?, test ch = false) :
    (front ++ rest).takeWhile test = front := by
  rw [List.takeWhile_append_of_pos passes]
  cases rest with
  | nil => exact List.append_nil front
  | cons ch rest =>
      rw [List.takeWhile_cons_of_neg (Bool.eq_false_iff.mp (stops ch rfl)), List.append_nil]

theorem dropWhile_run {test : Char → Bool} {front rest : List Char}
    (passes : ∀ ch ∈ front, test ch = true) (stops : ∀ ch ∈ rest.head?, test ch = false) :
    (front ++ rest).dropWhile test = rest := by
  rw [List.dropWhile_append_of_pos passes]
  cases rest with
  | nil => rfl
  | cons ch rest => exact List.dropWhile_cons_of_neg (Bool.eq_false_iff.mp (stops ch rfl))

theorem strip_run {front middle back : List Char}
    (blank : ∀ ch ∈ front ++ back, isSpace ch = true)
    (first : ∀ ch ∈ middle.head?, isSpace ch = false)
    (last : ∀ ch ∈ middle.getLast?, isSpace ch = false) (some : middle ≠ []) :
    strip (front ++ middle ++ back) = middle := by
  have before : ∀ ch ∈ front, isSpace ch = true := fun ch member =>
    blank ch (List.mem_append_left _ member)
  have behind : ∀ ch ∈ back.reverse, isSpace ch = true := fun ch member =>
    blank ch (List.mem_append_right _ (List.mem_reverse.mp member))
  have starts : ∀ ch ∈ (middle ++ back).head?, isSpace ch = false := by
    obtain ⟨head, rest, rfl⟩ := List.exists_cons_of_ne_nil some
    exact first
  unfold strip List.rdropWhile
  rw [List.append_assoc, dropWhile_run before starts, List.reverse_append,
    dropWhile_run behind (by rwa [List.head?_reverse]), List.reverse_reverse]

variable {layout : Layout} {line : TraceRecord}

theorem Layout.isSpace_beforeOffset (ch : Char) (member : ch ∈ layout.beforeOffset) :
    isSpace ch = true :=
  layout.blank ch (by simp [member])

theorem Layout.isSpace_beforeData (ch : Char) (member : ch ∈ layout.beforeData) :
    isSpace ch = true :=
  layout.blank ch (by simp [member])

theorem hexData_ne_nil {upper : Bool} {data : List UInt8} (some : data ≠ []) :
    hexData upper data ≠ [] := by
  obtain ⟨byte, rest, rfl⟩ := List.exists_cons_of_ne_nil some
  exact List.cons_ne_nil _ _

theorem isSpace_sign (direction : Direction) : isSpace (sign direction) = false := by
  cases direction <;> rfl

theorem getLast?_core (some : line.data ≠ []) {ch : Char}
    (last : (layout.core line).getLast? = .some ch) : isHexDigit ch = true := by
  refine @isHexDigit_of_mem_hexData layout.upper line.data ch ?_
  have ends : (layout.core line).getLast? = (hexData layout.upper line.data).getLast? := by
    have split : layout.core line = (sign line.direction :: (layout.beforeOffset ++
        '0' :: 'x' :: (hexText layout.upper line.offset ++ layout.beforeData))) ++
          hexData layout.upper line.data := by
      simp [Layout.core]
    rw [split, List.getLast?_append_of_ne_nil _ (hexData_ne_nil some)]
  exact List.mem_of_getLast? (ends ▸ last)

theorem strip_print (some : line.data ≠ []) : strip (layout.print line) = layout.core line := by
  refine strip_run (fun ch member => layout.blank ch ?_) ?_ ?_ (List.cons_ne_nil _ _)
  · rcases List.mem_append.mp member with before | behind
    · simp [before]
    · simp [behind]
  · rintro ch ⟨⟩
    exact isSpace_sign line.direction
  · exact fun ch last => isSpace_of_isHexDigit (getLast?_core some last)

theorem continuationRe_core (some : line.data ≠ []) :
    continuationRe (layout.core line) =
      .some (line.direction, hexText layout.upper line.offset,
        hexData layout.upper line.data) := by
  have textDigits : ∀ ch ∈ hexText layout.upper line.offset, isHexDigit ch = true :=
    fun _ => isHexDigit_of_mem_hexText
  have dataDigits : ∀ ch ∈ hexData layout.upper line.data, isHexDigit ch = true :=
    fun _ => isHexDigit_of_mem_hexData
  have offsetStops : ∀ ch ∈ (layout.beforeData ++ hexData layout.upper line.data).head?,
      isHexDigit ch = false := by
    intro ch first
    obtain ⟨space, rest, gap⟩ := List.exists_cons_of_ne_nil layout.dataApart
    rw [gap] at first
    cases first
    refine Bool.eq_false_iff.mpr fun digit => ?_
    have white := layout.isSpace_beforeData ch (gap ▸ List.mem_cons_self)
    rw [isSpace_of_isHexDigit digit] at white
    cases white
  have dataStops : ∀ ch ∈ (hexData layout.upper line.data).head?, isSpace ch = false :=
    fun ch first => isSpace_of_isHexDigit (dataDigits ch (List.mem_of_head? first))
  have marked : (layout.core line).tail.dropWhile isSpace = '0' :: 'x' ::
      (hexText layout.upper line.offset ++
        (layout.beforeData ++ hexData layout.upper line.data)) :=
    dropWhile_run layout.isSpace_beforeOffset (by rintro ch ⟨⟩; rfl)
  have afterOffset := dropWhile_run textDigits offsetStops
  have offset := takeWhile_run textDigits offsetStops
  have shown := dropWhile_run layout.isSpace_beforeData dataStops
  have data := @takeWhile_run _ _ [] dataDigits (by rintro ch ⟨⟩)
  have rest := @dropWhile_run _ _ [] dataDigits (by rintro ch ⟨⟩)
  rw [List.append_nil] at data rest
  have mark : ['0', 'x'] <+: '0' :: 'x' :: (hexText layout.upper line.offset ++
      (layout.beforeData ++ hexData layout.upper line.data)) := List.prefix_append _ _
  have lengths : 0 < layout.beforeOffset.length ∧
      0 < (hexText layout.upper line.offset).length ∧ 0 < layout.beforeData.length ∧
        0 < (hexData layout.upper line.data).length := by
    refine ⟨List.length_pos_of_ne_nil layout.offsetApart, ?_,
      List.length_pos_of_ne_nil layout.dataApart, List.length_pos_of_ne_nil ?_⟩
    · unfold hexText
      rw [List.length_map]
      exact Nat.length_toDigits_pos
    · exact hexData_ne_nil some
  have signed : direction (sign line.direction) = .some line.direction := by
    cases line.direction <;> rfl
  unfold continuationRe
  dsimp only
  rw [marked]
  simp only [Layout.core, List.head?_cons, List.tail_cons, Option.bind_eq_bind,
    Option.bind_some, signed]
  rw [if_pos mark]
  simp only [List.drop_succ_cons, List.drop_zero, afterOffset, offset,
    shown, data, rest]
  rw [if_pos]
  simp only [List.length_append, List.length_cons, List.length_nil, List.all_nil,
    and_true]
  omega

theorem read_print (some : line.data ≠ []) : read (layout.print line) = .data line := by
  unfold read
  rw [strip_print some]
  have shown : layout.core line ≠ [] := List.cons_ne_nil _ _
  dsimp only
  rw [if_neg shown, continuationRe_core some]
  dsimp only
  rw [hexBytes_hexData, hexNumber_hexText]

end TraceLine

/-- The lines of a record from an offset on, in pieces of one byte or more.  Blank lines
may stand between them. -/
inductive PrintsPieces (direction : Direction) :
    Nat → List UInt8 → List (List Char) → Prop where
  | done (offset : Nat) : PrintsPieces direction offset [] []
  | blank {offset : Nat} {data : List UInt8} {line : List Char} {lines : List (List Char)} :
      TraceLine.strip line = [] → PrintsPieces direction offset data lines →
        PrintsPieces direction offset data (line :: lines)
  | piece {offset : Nat} {piece data : List UInt8} {lines : List (List Char)}
      (layout : TraceLine.Layout) :
      piece ≠ [] → PrintsPieces direction (offset + piece.length) data lines →
        PrintsPieces direction offset (piece ++ data)
          (layout.print ⟨direction, offset, piece⟩ :: lines)

/-- A line of text that is neither blank nor has the form of data. -/
def IsBanner (line : List Char) : Prop :=
  TraceLine.strip line ≠ [] ∧ TraceLine.continuationRe (TraceLine.strip line) = none

/-- The lines of a list of records, with blank lines and banners between them. -/
inductive Prints : List (Direction × List UInt8) → List (List Char) → Prop where
  | done : Prints [] []
  | blank {records : List (Direction × List UInt8)} {line : List Char}
      {lines : List (List Char)} :
      TraceLine.strip line = [] → Prints records lines → Prints records (line :: lines)
  | banner {records : List (Direction × List UInt8)} {line : List Char}
      {lines : List (List Char)} :
      IsBanner line → Prints records lines → Prints records (line :: lines)
  | record {direction : Direction} {data : List UInt8}
      {records : List (Direction × List UInt8)} {here lines : List (List Char)} :
      data ≠ [] → PrintsPieces direction 0 data here → Prints records lines →
        Prints ((direction, data) :: records) (here ++ lines)

namespace Reassembly

/-- The lines of a file after each other. -/
def addLines (state : Reassembly) (lines : List (List Char)) : Reassembly :=
  (lines.map TraceLine.read).foldl addLine state

theorem read_of_blank {line : List Char} (blank : TraceLine.strip line = []) :
    TraceLine.read line = .blank := by
  unfold TraceLine.read
  exact if_pos blank

theorem read_of_banner {line : List Char} (banner : IsBanner line) :
    TraceLine.read line = .other := by
  unfold TraceLine.read
  dsimp only
  rw [if_neg banner.1, banner.2]

theorem addLines_pieces {direction : Direction} {records : List TraceRecord} {offset : Nat}
    {shown data : List UInt8} {lines : List (List Char)}
    (printed : PrintsPieces direction (offset + shown.length) data lines) :
    addLines ⟨records, some ⟨direction, offset, shown⟩⟩ lines =
      ⟨records, some ⟨direction, offset, shown ++ data⟩⟩ := by
  generalize place : offset + shown.length = start at printed
  induction printed generalizing shown with
  | done => rw [List.append_nil]; rfl
  | blank empty _ ih =>
      have here := ih place
      unfold addLines at here ⊢
      rw [List.map_cons, List.foldl_cons, read_of_blank empty]
      exact here
  | @piece start piece data lines layout some _ ih =>
      have continues : Continues ⟨direction, offset, shown⟩ ⟨direction, start, piece⟩ :=
        ⟨rfl, place.symm⟩
      have here := @ih (shown ++ piece) (by rw [List.length_append]; omega)
      unfold addLines at here ⊢
      rw [List.map_cons, List.foldl_cons, TraceLine.read_print some, ← List.append_assoc,
        ← here]
      simp only [addLine, if_pos continues]

/-- The pieces of a record begin a new one, whatever there was before. -/
theorem addLines_record {direction : Direction} {data : List UInt8}
    {lines : List (List Char)} {state : Reassembly}
    (holds : ∀ record, state.current = some record → record.data ≠ []) (some : data ≠ [])
    (printed : PrintsPieces direction 0 data lines) :
    addLines state lines = ⟨state.flush.records, .some ⟨direction, 0, data⟩⟩ := by
  generalize place : 0 = start at printed
  induction printed with
  | done => exact absurd rfl some
  | blank empty _ ih =>
      have here := ih some place
      unfold addLines at here ⊢
      rw [List.map_cons, List.foldl_cons, read_of_blank empty]
      exact here
  | @piece start piece data lines layout shown later _ =>
      subst place
      have rest := @addLines_pieces _ state.flush.records _ _ _ _ later
      have first : state.addLine (.data ⟨direction, 0, piece⟩) =
          ⟨state.flush.records, .some ⟨direction, 0, piece⟩⟩ :=
        addLine_start holds direction piece
      unfold addLines at rest ⊢
      rw [List.map_cons, List.foldl_cons, TraceLine.read_print shown, first]
      exact rest

/-- Reading collects the records as they come. -/
theorem addLines_records {records : List (Direction × List UInt8)}
    {lines : List (List Char)} (printed : Prints records lines) {state : Reassembly}
    (holds : ∀ record, state.current = some record → record.data ≠ []) :
    (addLines state lines).flush.records =
      state.flush.records ++ records.map fun record => ⟨record.1, 0, record.2⟩ := by
  induction printed generalizing state with
  | done => exact (List.append_nil _).symm
  | blank empty _ ih =>
      have here := ih holds
      unfold addLines at here ⊢
      rw [List.map_cons, List.foldl_cons, read_of_blank empty]
      exact here
  | banner banner _ ih =>
      have here := @ih state.flush fun record none => by cases none
      unfold addLines at here ⊢
      rw [List.map_cons, List.foldl_cons, read_of_banner banner]
      refine here.trans ?_
      simp only [flush, Option.toList_none, List.append_nil]
  | @record direction data records here lines some pieces _ ih =>
      have first := addLines_record holds some pieces
      have rest := @ih (addLines state here) (by
        rw [first]
        rintro record ⟨⟩
        exact some)
      have split : addLines state (here ++ lines) = addLines (addLines state here) lines := by
        unfold addLines
        rw [List.map_append, List.foldl_append]
      rw [split, rest, first]
      simp [flush]

end Reassembly

theorem parseTrace_prints {records : List (Direction × List UInt8)}
    {lines : List (List Char)} (printed : Prints records lines) :
    parseTrace lines = records.map fun record => ⟨record.1, 0, record.2⟩ :=
  Reassembly.addLines_records printed fun _ none => by cases none

/-- `_parse_trace` returns the bytes of the records. -/
theorem parseTrace_data_of_prints {records : List (Direction × List UInt8)}
    {lines : List (List Char)} (printed : Prints records lines) :
    (parseTrace lines).map (·.data) = records.map (·.2) := by
  rw [parseTrace_prints printed, List.map_map]
  rfl

/-- Two records of the host, the first one cut in two with a blank line in it. -/
theorem parseTrace_data_twoRecords :
    (parseTrace ["< 0x0 f5".toList, [], "< 0x1 c2".toList, "< 0x0 6d".toList]).map (·.data) =
      [[0xF5, 0xC2], [0x6D]] := by
  have first : PrintsPieces .fromHost 0 [0xF5, 0xC2]
      ["< 0x0 f5".toList, [], "< 0x1 c2".toList] :=
    @PrintsPieces.piece _ _ [0xF5] _ _ TraceLine.plainLayout (List.cons_ne_nil _ _)
      (.blank rfl (@PrintsPieces.piece _ _ [0xC2] _ _ TraceLine.plainLayout
        (List.cons_ne_nil _ _) (.done _)))
  have second : PrintsPieces .fromHost 0 [0x6D] ["< 0x0 6d".toList] :=
    @PrintsPieces.piece _ _ [0x6D] _ _ TraceLine.plainLayout (List.cons_ne_nil _ _) (.done _)
  exact parseTrace_data_of_prints
    (.record (List.cons_ne_nil _ _) first (.record (List.cons_ne_nil _ _) second .done))

end Pure3270
