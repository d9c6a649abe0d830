import Pure3270.Foundations.Continuations
import Pure3270.Foundations.Runs
import Pure3270.Foundations.Shelves
import Pure3270.Session.ScriptedText

/-!
# Resource files

A resource file has a setting on each line, a name and a value with a colon between them.
A backslash continues a line, and lines that begin with `#` or `!` are comments.  The
session takes the settings whose names begin with `s3270.` and remembers when the file was
changed last, so as not to read it again.
-/

namespace Pure3270

open Foundations

namespace ResourceFile

/-- `readlines`, with universal newlines, and `rstrip` of the line breaks: the text after the
last line break is a line only if there is some. -/
def readLines (text : List Char) : List (List Char) :=
  let lines := textLines text
  if lines.getLast? = some [] then lines.dropLast else lines

def isComment (line : List Char) : Bool :=
  (strip line).head? = some '#' || (strip line).head? = some '!'

def settingPrefix : List Char := ['s', '3', '2', '7', '0', '.']

/-- What a line sets, if it has a colon and its name begins with the prefix. -/
def setting (line : List Char) : Option (List Char × List Char) :=
  if ':' ∈ line then
    let key := strip (line.takeWhile (· ≠ ':'))
    let value := strip ((line.dropWhile (· ≠ ':')).drop 1)
    if settingPrefix <+: key then some (key.drop 6, value) else none
  else none

/-- A continued line loses its backslash and the blanks around the break. -/
def continued : List Char → List (List Char) → List Char × List (List Char) :=
  joinContinued isSpace '\\' ' '

/-- The settings of the lines, in their order. -/
def settings (lines : List (List Char)) : List (List Char × List Char) :=
  match lines with
  | [] => []
  | line :: rest =>
      if isComment line then settings rest
      else
        let whole := continued line rest
        (setting whole.1).toList ++ settings whole.2
termination_by lines.length
decreasing_by
  · exact Nat.lt_succ_self _
  · exact Nat.lt_succ_of_le (joinContinued_length isSpace '\\' ' ' line rest)

/-- The resources of a text: a later setting replaces the value of an earlier one. -/
def resources (text : List Char) : List (List Char × List Char) :=
  (settings (readLines text)).foldl (fun entries entry => assign entry.1 entry.2 entries) []

end ResourceFile

/-- What the file system says about a resource file: the time of its last change, and its
text, if it can be asked and opened. -/
structure ResourceState (Time : Type) where
  mtime : Option Time
  text : Option (List Char)

/-- What a session knows of its resource files. -/
structure LoadedResources (Time : Type) where
  resources : List (List Char × List Char)
  resourceMtime : Time

namespace LoadedResources

variable {Time : Type} [DecidableEq Time]

/-- The time starts as zero. -/
def new [Zero Time] : LoadedResources Time := { resources := [], resourceMtime := 0 }

/-- `load_resource_definitions`: whether it returns, and what it leaves.  `apply_resources`
raises nothing and changes no resource. -/
def load (file : ResourceState Time) (session : LoadedResources Time) :
    Bool × LoadedResources Time :=
  match file.mtime with
  | none => (false, session)
  | some mtime =>
      if session.resourceMtime = mtime then (true, session)
      else
        match file.text with
        | none => (false, { session with resourceMtime := mtime })
        | some text =>
            (true, { resources := ResourceFile.resources text, resourceMtime := mtime })

end LoadedResources

namespace ResourceFile

/-- What can stand between blanks and at the ends of a line: blanks, but no line breaks. -/
def Gap (text : List Char) : Prop :=
  ∀ ch ∈ text, isSpace ch = true ∧ ch ≠ '\r' ∧ ch ≠ '\n'

/-- Text of one line. -/
def OneLine (text : List Char) : Prop := ∀ ch ∈ text, ch ≠ '\r' ∧ ch ≠ '\n'

/-- A setting as it is written: its name and value with the blanks around them, and the
places where the value is broken. -/
structure WrittenSetting where
  before : List Char
  key : List Char
  afterKey : List Char
  beforeValue : List Char
  first : List Char
  breaks : List (LineBreak Char)
  behind : List Char

namespace WrittenSetting

/-- What stands before the value. -/
def lead (written : WrittenSetting) : List Char :=
  written.before ++ settingPrefix ++ written.key ++ written.afterKey ++ [':'] ++
    written.beforeValue

def lines (written : WrittenSetting) : List (List Char) :=
  (written.lead ++ written.first ++ lineEnd '\\' written.behind written.breaks) ::
    moreLines '\\' written.behind written.breaks

/-- The words of the value, with a space where it was broken. -/
def value (written : WrittenSetting) : List Char :=
  written.first ++ moreWords ' ' written.breaks

/-- The name has no colon and no blank at its end, the value is made of words, and there are
blanks around them.  An empty value is not broken. -/
structure Valid (written : WrittenSetting) : Prop where
  before : Gap written.before
  key : ':' ∉ written.key ∧ OneLine written.key
  keyEnds : ∀ ch, written.key.getLast? = some ch → isSpace ch = false
  afterKey : Gap written.afterKey
  beforeValue : Gap written.beforeValue
  first : Word isSpace '\\' written.first ∧ OneLine written.first ∨
    written.first = [] ∧ written.breaks = []
  breaks : ∀ next ∈ written.breaks, next.Valid isSpace '\\' ∧
    Gap next.before ∧ Gap next.after ∧ OneLine next.word
  behind : Gap written.behind

end WrittenSetting

/-- What a resource file is made of. -/
inductive ResourceItem where
  | comment (line : List Char)
  | setting (written : WrittenSetting)
  /-- A line that sets nothing. -/
  | other (line : List Char)

namespace ResourceItem

def lines : ResourceItem → List (List Char)
  | .comment line => [line]
  | .setting written => written.lines
  | .other line => [line]

/-- What the item sets. -/
def sets : ResourceItem → List (List Char × List Char)
  | .setting written => [(written.key, written.value)]
  | _ => []

def Valid : ResourceItem → Prop
  | .comment line => isComment line = true ∧ OneLine line
  | .setting written => written.Valid
  | .other line => isComment line = false ∧ OneLine line ∧ line.getLast? ≠ some '\\' ∧
      ResourceFile.setting line = none

end ResourceItem

/-- The text of a file. -/
def write (items : List ResourceItem) : List Char :=
  (items.flatMap ResourceItem.lines).flatMap fun line => line ++ ['\n']

theorem readLines_lines {lines : List (List Char)} (plain : ∀ line ∈ lines, OneLine line) :
    readLines (lines.flatMap fun line => line ++ ['\n']) = lines := by
  have cut : textLines (lines.flatMap fun line => line ++ ['\n']) = lines ++ [[]] := by
    induction lines with
    | nil => rfl
    | cons line lines ih =>
        have here := plain line List.mem_cons_self
        rw [List.flatMap_cons, List.append_assoc, List.singleton_append, textLines_append,
          chomp_plain fun ch member => (here ch member).1, textLines_plain here,
          ih fun other member => plain other (List.mem_cons_of_mem line member)]
        rfl
  unfold readLines
  rw [cut]
  simp

theorem settings_comment {line : List Char} (comment : isComment line = true)
    (rest : List (List Char)) : settings (line :: rest) = settings rest := by
  rw [settings, if_pos comment]

theorem settings_line {line whole : List Char} {rest later : List (List Char)}
    (plain : isComment line = false) (joined : continued line rest = (whole, later)) :
    settings (line :: rest) = (setting whole).toList ++ settings later := by
  rw [settings, if_neg (by simp [plain])]
  dsimp only
  rw [joined]

theorem Gap.blank {text : List Char} (gap : Gap text) : ∀ ch ∈ text, isSpace ch = true :=
  fun ch member => (gap ch member).1

theorem Gap.oneLine {text : List Char} (gap : Gap text) : OneLine text :=
  fun ch member => (gap ch member).2

theorem Gap.noColon {text : List Char} (gap : Gap text) : ':' ∉ text := by
  intro member
  have blank := gap.blank ':' member
  revert blank
  decide

theorem OneLine.append {first second : List Char} (one : OneLine first) (other : OneLine second) :
    OneLine (first ++ second) :=
  fun ch member => (List.mem_append.mp member).elim (one ch) (other ch)

namespace WrittenSetting

variable {written : WrittenSetting}

theorem not_isComment (valid : written.Valid) (more : List Char) :
    isComment (written.lead ++ more) = false := by
  have begins : (strip (written.lead ++ more)).head? = some 's' := by
    unfold lead settingPrefix
    simp only [List.append_assoc, List.cons_append]
    exact head?_trim valid.before.blank (by decide)
  unfold isComment
  rw [begins]
  decide

/-- The name without the blanks around it. -/
theorem strip_key (valid : written.Valid) :
    strip (written.before ++ settingPrefix ++ written.key ++ written.afterKey) =
      settingPrefix ++ written.key := by
  have solid : Solid isSpace (settingPrefix ++ written.key) := by
    have name : Solid isSpace settingPrefix := by
      constructor
      · intro ch first
        cases first
        decide
      · intro ch last
        cases last
        decide
    exact name.append valid.keyEnds (by decide)
  rw [List.append_assoc written.before]
  exact trim_padded solid valid.before.blank valid.afterKey.blank

theorem solid_value (valid : written.Valid) : Solid isSpace written.value := by
  unfold value
  rcases valid.first with ⟨word, _⟩ | ⟨empty, unbroken⟩
  · apply word.solid.append _ word.nonempty
    intro ch last
    exact getLast?_moreWords (fun next member => (valid.breaks next member).1) last
  · rw [empty, unbroken]
    exact ⟨nofun, nofun⟩

theorem setting_joined (valid : written.Valid) :
    setting (written.lead ++ written.value ++ written.behind) =
      some (written.key, written.value) := by
  have front : ∀ ch ∈ written.before ++ settingPrefix ++ written.key ++ written.afterKey,
      (decide (ch ≠ ':')) = true := by
    intro ch member
    apply decide_eq_true
    rintro rfl
    simp only [List.mem_append, or_assoc] at member
    rcases member with blank | name | key | blank
    · exact valid.before.noColon blank
    · revert name
      decide
    · exact valid.key.1 key
    · exact valid.afterKey.noColon blank
  have shape : written.lead ++ written.value ++ written.behind =
      (written.before ++ settingPrefix ++ written.key ++ written.afterKey) ++
        ':' :: (written.beforeValue ++ written.value ++ written.behind) := by
    unfold lead
    simp only [List.append_assoc, List.cons_append, List.nil_append]
  have padded : strip (written.beforeValue ++ written.value ++ written.behind) =
      written.value :=
    trim_padded (solid_value valid) valid.beforeValue.blank valid.behind.blank
  unfold setting
  rw [shape, if_pos (List.mem_append_right _ List.mem_cons_self),
    List.takeWhile_append_of_pos front, List.dropWhile_append_of_pos front,
    List.takeWhile_cons_of_neg (by simp), List.dropWhile_cons_of_neg (by simp),
    List.append_nil, strip_key valid, List.drop_succ_cons, List.drop_zero, padded,
    if_pos (List.prefix_append _ _)]
  rfl

theorem continued_lines (valid : written.Valid) (rest : List (List Char)) :
    continued (written.lead ++ written.first ++ lineEnd '\\' written.behind written.breaks)
        (moreLines '\\' written.behind written.breaks ++ rest) =
      (written.lead ++ written.value ++ written.behind, rest) := by
  have solid : isSpace '\\' = false := by decide
  unfold value
  rcases valid.first with ⟨word, _⟩ | ⟨empty, unbroken⟩
  · have joined := @joinContinued_broken _ _ isSpace '\\' ' ' solid written.lead written.first
      written.behind word written.breaks (fun next member => (valid.breaks next member).1)
      valid.behind.blank rest
    rw [← List.append_assoc written.lead]
    exact joined
  · rw [empty, unbroken]
    have colon : (written.lead).getLast? ≠ some '\\' := by
      have ends : (written.before ++ settingPrefix ++ written.key ++ written.afterKey ++
          [':']).getLast? ≠ some '\\' := by
        rw [List.getLast?_concat]
        decide
      exact unmarked_behind solid ends valid.beforeValue.blank
    have last := unmarked_behind solid colon valid.behind.blank
    have line : written.lead ++ [] ++ lineEnd '\\' written.behind [] =
        written.lead ++ written.behind := by rw [List.append_nil]; rfl
    rw [line]
    exact (joinContinued_of_unmarked last rest).trans (by simp [moreWords])

theorem settings_lines (valid : written.Valid) (rest : List (List Char)) :
    settings (written.lines ++ rest) = (written.key, written.value) :: settings rest := by
  have plain := not_isComment valid
    (written.first ++ lineEnd '\\' written.behind written.breaks)
  rw [← List.append_assoc] at plain
  unfold lines
  rw [List.cons_append, settings_line plain (continued_lines valid rest),
    setting_joined valid]
  rfl

theorem oneLine_moreLines {behind : List Char} (gap : Gap behind)
    {breaks : List (LineBreak Char)}
    (valid : ∀ next ∈ breaks, next.Valid isSpace '\\' ∧
      Gap next.before ∧ Gap next.after ∧ OneLine next.word) :
    OneLine (lineEnd '\\' behind breaks) ∧
      ∀ line ∈ moreLines '\\' behind breaks, OneLine line := by
  induction breaks with
  | nil => exact ⟨gap.oneLine, nofun⟩
  | cons next breaks ih =>
      obtain ⟨_, before, after, word⟩ := valid next List.mem_cons_self
      have later := ih fun other member => valid other (List.mem_cons_of_mem next member)
      have mark : OneLine ['\\'] := by
        intro ch member
        rw [List.mem_singleton.mp member]
        decide
      refine ⟨before.oneLine.append mark, fun line member => ?_⟩
      rcases List.mem_cons.mp member with rfl | other
      · exact (after.oneLine.append word).append later.1
      · exact later.2 line other

theorem oneLine_lines (valid : written.Valid) : ∀ line ∈ written.lines, OneLine line := by
  have lines := oneLine_moreLines valid.behind valid.breaks
  have plain : ∀ {text : List Char}, (text.all fun ch => ch ≠ '\r' && ch ≠ '\n') = true →
      OneLine text := by
    intro text all ch member
    simpa using List.all_eq_true.mp all ch member
  have first : OneLine written.first := by
    rcases valid.first with ⟨_, one⟩ | ⟨empty, _⟩
    · exact one
    · rw [empty]
      exact nofun
  have lead : OneLine written.lead :=
    ((((valid.before.oneLine.append (plain (by decide))).append valid.key.2).append
      valid.afterKey.oneLine).append (plain (by decide))).append valid.beforeValue.oneLine
  intro line member
  rcases List.mem_cons.mp member with rfl | more
  · exact (lead.append first).append lines.1
  · exact lines.2 line more

end WrittenSetting

theorem ResourceItem.settings_lines {item : ResourceItem} (valid : item.Valid)
    (rest : List (List Char)) : settings (item.lines ++ rest) = item.sets ++ settings rest := by
  cases item with
  | comment line => exact settings_comment valid.1 rest
  | setting written => exact WrittenSetting.settings_lines valid rest
  | other line =>
      obtain ⟨plain, _, unmarked, nothing⟩ := valid
      have joined : continued line rest = (line, rest) := joinContinued_of_unmarked unmarked rest
      exact (settings_line plain joined).trans (by rw [nothing]; rfl)

theorem ResourceItem.oneLine_lines {item : ResourceItem} (valid : item.Valid) :
    ∀ line ∈ item.lines, OneLine line := by
  cases item with
  | comment line => exact List.forall_mem_singleton.mpr valid.2
  | setting written => exact WrittenSetting.oneLine_lines valid
  | other line => exact List.forall_mem_singleton.mpr valid.2.1

theorem settings_items {items : List ResourceItem} (valid : ∀ item ∈ items, item.Valid) :
    settings (items.flatMap ResourceItem.lines) = items.flatMap ResourceItem.sets := by
  induction items with
  | nil => rw [List.flatMap_nil, settings, List.flatMap_nil]
  | cons item items ih =>
      rw [List.flatMap_cons, ResourceItem.settings_lines (valid item List.mem_cons_self),
        ih fun other member => valid other (List.mem_cons_of_mem item member)]
      rfl

/-- A name without a colon or a blank at its end, and a value without blanks at its ends. -/
structure CleanEntry (entry : List Char × List Char) : Prop where
  key : ':' ∉ entry.1
  keyEnds : ∀ ch, entry.1.getLast? = some ch → isSpace ch = false
  value : Solid isSpace entry.2

theorem setting_clean {line : List Char} {entry : List Char × List Char}
    (sets : setting line = some entry) : CleanEntry entry := by
  unfold setting at sets
  split at sets
  · dsimp only at sets
    split at sets
    · cases sets
      have solid : Solid isSpace (strip (line.takeWhile (· ≠ ':'))) := solid_trim _ _
      constructor
      · intro member
        have inside := (trim_sublist isSpace _).subset (List.mem_of_mem_drop member)
        simpa using List.mem_takeWhile_imp inside
      · intro ch last
        apply solid.behind
        rw [List.getLast?_drop] at last
        split at last
        · cases last
        · exact last
      · exact solid_trim _ _
    · cases sets
  · cases sets

theorem mem_settings {lines : List (List Char)} {entry : List Char × List Char}
    (member : entry ∈ settings lines) : ∃ line, setting line = some entry := by
  induction lines using settings.induct with
  | case1 =>
      rw [settings] at member
      cases member
  | case2 line rest comment ih =>
      rw [settings_comment comment] at member
      exact ih member
  | case3 line rest plain whole ih =>
      rw [settings, if_neg plain] at member
      rcases List.mem_append.mp member with here | later
      · exact ⟨whole.1, Option.mem_toList.mp here⟩
      · exact ih later

/-- The names of the resources are distinct, and every resource is clean. -/
theorem resources_clean (text : List Char) :
    ((resources text).map Prod.fst).Nodup ∧ ∀ entry ∈ resources text, CleanEntry entry := by
  have clean : ∀ entry ∈ settings (readLines text), CleanEntry entry := by
    intro entry member
    obtain ⟨line, sets⟩ := mem_settings member
    exact setting_clean sets
  unfold resources
  revert clean
  suffices kept : ∀ (list entries : List (List Char × List Char)),
      (entries.map Prod.fst).Nodup ∧ (∀ entry ∈ entries, CleanEntry entry) →
      (∀ entry ∈ list, CleanEntry entry) →
      ((list.foldl (fun entries entry => assign entry.1 entry.2 entries) entries).map
          Prod.fst).Nodup ∧
        ∀ entry ∈ list.foldl (fun entries entry => assign entry.1 entry.2 entries) entries,
          CleanEntry entry from
    kept _ [] ⟨List.nodup_nil, nofun⟩
  intro list
  induction list with
  | nil => exact fun entries kept _ => kept
  | cons first list ih =>
      intro entries kept clean
      apply ih
      · refine ⟨distinct_assign _ _ kept.1, fun entry member => ?_⟩
        rcases mem_assign member with here | before
        · exact here ▸ clean first List.mem_cons_self
        · exact kept.2 entry before
      · exact fun entry member => clean entry (List.mem_cons_of_mem first member)

end ResourceFile

namespace LoadedResources

variable {Time : Type} [DecidableEq Time]

def step (file : ResourceState Time) (session : LoadedResources Time) : LoadedResources Time :=
  (session.load file).2

theorem load_mtime (file : ResourceState Time) (session : LoadedResources Time) :
    (session.load file).2.resourceMtime = file.mtime.getD session.resourceMtime := by
  unfold load
  cases file.mtime with
  | none => rfl
  | some mtime =>
      dsimp only
      split
      · assumption
      · cases file.text <;> rfl

theorem run_mtime (files : List (ResourceState Time)) (session : LoadedResources Time) :
    (run step files session).resourceMtime =
      (files.filterMap (·.mtime)).getLast?.getD session.resourceMtime := by
  induction files generalizing session with
  | nil => rfl
  | cons file files ih =>
      rw [run, ih, step, load_mtime]
      cases changed : file.mtime with
      | none => rw [List.filterMap_cons_none changed, Option.getD_none]
      | some mtime =>
          rw [List.filterMap_cons_some changed, List.getLast?_cons]
          cases (files.filterMap (·.mtime)).getLast? <;> rfl

/-- Every resource file that is written with comments, other lines, blanks and broken values
is read as its settings, a later one replacing the value of an earlier one; the resources of
every text have distinct names and are clean.  After every run of loads the next load of a
file leaves the resources of that file exactly if its time is not the one of the latest load
that found a time, of whatever file and whether or not it could be opened, and not zero
where none did, or if the resources are those already. -/
theorem resources_of_every_run [Zero Time] :
    (∀ items : List ResourceFile.ResourceItem, (∀ item ∈ items, item.Valid) →
      ResourceFile.resources (ResourceFile.write items) =
        (items.flatMap ResourceFile.ResourceItem.sets).foldl
          (fun entries entry => assign entry.1 entry.2 entries) []) ∧
      (∀ text, ((ResourceFile.resources text).map Prod.fst).Nodup ∧
        ∀ entry ∈ ResourceFile.resources text, ResourceFile.CleanEntry entry) ∧
      ∀ (files : List (ResourceState Time)) (file : ResourceState Time) (mtime : Time)
        (text : List Char), file.mtime = some mtime → file.text = some text →
        ((step file (run step files new)).resources = ResourceFile.resources text ↔
          (files.filterMap (·.mtime)).getLast?.getD 0 ≠ mtime ∨
            (run step files new).resources = ResourceFile.resources text) := by
  refine ⟨fun items valid => ?_, ResourceFile.resources_clean, ?_⟩
  · unfold ResourceFile.resources ResourceFile.write
    rw [ResourceFile.readLines_lines, ResourceFile.settings_items valid]
    intro line member
    obtain ⟨item, listed, inside⟩ := List.mem_flatMap.mp member
    exact ResourceFile.ResourceItem.oneLine_lines (valid item listed) line inside
  · intro files file mtime text changed holds
    have seen : (run step files new).resourceMtime =
        (files.filterMap (·.mtime)).getLast?.getD 0 := run_mtime files new
    rw [← seen]
    generalize run step files new = reached
    unfold step load
    rw [changed, holds]
    dsimp only
    by_cases same : reached.resourceMtime = mtime
    · rw [if_pos same]
      simp [same]
    · rw [if_neg same]
      simp [same]

end LoadedResources

end Pure3270
