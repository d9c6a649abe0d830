import Pure3270.Emulation.ScreenText
import Pure3270.Foundations.Escapes
import Pure3270.Foundations.Ledger

/-!
# Environment variables

NEW-ENVIRON lists variables: a marker, the name and, where there is a value, another
marker and the value.  Inside names and values the markers are escaped.  The parser stops
at an escape as it does at a marker, and unescapes only what it has read by then.
-/

namespace Pure3270

open Foundations

namespace NewEnv

abbrev varCode : UInt8 := 0
abbrev valueCode : UInt8 := 1
abbrev escCode : UInt8 := 2
abbrev userVarCode : UInt8 := 3

/-- The bytes that are escaped inside a name or a value. -/
def special : List UInt8 := [varCode, valueCode, escCode, userVarCode]

/-- What begins a variable. -/
def types : List UInt8 := [varCode, userVarCode]

/-- What ends a name. -/
def nameEnds : List UInt8 := [valueCode, varCode, userVarCode, escCode]

/-- What ends a value. -/
def valueEnds : List UInt8 := [varCode, userVarCode, escCode]

theorem esc_mem_special : escCode ∈ special := by decide

theorem esc_mem_nameEnds : escCode ∈ nameEnds := by decide

theorem esc_mem_valueEnds : escCode ∈ valueEnds := by decide

theorem nameEnds_subset : nameEnds ⊆ special := by decide

theorem special_subset : special ⊆ nameEnds := by decide

theorem valueEnds_subset : valueEnds ⊆ special := by decide

theorem types_subset : types ⊆ valueEnds := by decide

theorem types_subset_nameEnds : types ⊆ nameEnds := by decide

theorem ends_of_types {ends rest : List UInt8} (within : types ⊆ ends)
    (follows : ∀ next ∈ rest.head?, next ∈ types) : ∀ next ∈ rest.head?, next ∈ ends :=
  fun next first => within (follows next first)

end NewEnv

open NewEnv

namespace Negotiator

/-- `_unescape_new_environ_string`. -/
def unescapeNewEnvironString (data : List UInt8) : List Char :=
  (unescaped escCode data).map decodeAscii

/-- The value behind a name, if there is one, and what follows it. -/
def readValue (name : List Char) : List UInt8 → (List Char × List Char) × List UInt8
  | [] => ((name, []), [])
  | first :: rest =>
      if first = valueCode then
        ((name, unescapeNewEnvironString (rest.takeWhile (· ∉ valueEnds))),
          rest.dropWhile (· ∉ valueEnds))
      else ((name, []), first :: rest)

/-- The name and the value behind a type, and what follows them. -/
def readVariable (payload : List UInt8) : (List Char × List Char) × List UInt8 :=
  readValue (unescapeNewEnvironString (payload.takeWhile (· ∉ nameEnds)))
    (payload.dropWhile (· ∉ nameEnds))

theorem length_readValue_le (name : List Char) (payload : List UInt8) :
    (readValue name payload).2.length ≤ payload.length := by
  cases payload with
  | nil => exact Nat.zero_le _
  | cons first rest =>
      by_cases marked : first = valueCode
      · rw [readValue, if_pos marked]
        exact (List.length_dropWhile_le _ rest).trans (Nat.le_succ _)
      · rw [readValue, if_neg marked]

theorem length_readVariable_le (payload : List UInt8) :
    (readVariable payload).2.length ≤ payload.length :=
  (length_readValue_le _ _).trans (List.length_dropWhile_le _ payload)

/-- The loop of `_parse_new_environ_variables`.  A later variable replaces one of the same
name. -/
def parseVariables (known : List (List Char × List Char)) :
    List UInt8 → List (List Char × List Char)
  | [] => known
  | byte :: payload =>
      if byte ∉ types then parseVariables known payload
      else
        let read := readVariable payload
        parseVariables (assign read.1.1 read.1.2 known) read.2
termination_by payload => payload.length
decreasing_by
  · exact Nat.lt_succ_self _
  · exact Nat.lt_succ_of_le (length_readVariable_le payload)

/-- `_parse_new_environ_variables`. -/
def parseNewEnvironVariables (payload : List UInt8) : List (List Char × List Char) :=
  parseVariables [] payload

end Negotiator

/-- A variable of seven-bit bytes. -/
structure EnvironVariable where
  user : Bool
  name : List UInt8
  value : Option (List UInt8)
  ascii : ∀ byte ∈ name ++ value.getD [], byte < 0x80

namespace EnvironVariable

/-- The value, which is empty where there is none. -/
def content (item : EnvironVariable) : List UInt8 := item.value.getD []

/-- The value with its marker. -/
def encodeValue (item : EnvironVariable) : List UInt8 :=
  match item.value with
  | none => []
  | some value => valueCode :: escaped escCode special value

/-- The variable as RFC 1572 sends it. -/
def encode (item : EnvironVariable) : List UInt8 :=
  (if item.user then userVarCode else varCode) ::
    (escaped escCode special item.name ++ item.encodeValue)

/-- The entry that the variable is to have. -/
def entry (item : EnvironVariable) : List Char × List Char :=
  (item.name.map decodeAscii, item.content.map decodeAscii)

/-- Neither the name nor the value has a byte to be escaped. -/
def Plain (item : EnvironVariable) : Prop :=
  ∀ byte ∈ item.name ++ item.content, byte ∉ special

end EnvironVariable

/-- Variables with names of their own. -/
structure Environment where
  items : List EnvironVariable
  distinct : (items.map EnvironVariable.name).Nodup

namespace Environment

def encode (environment : Environment) : List UInt8 :=
  environment.items.flatMap EnvironVariable.encode

/-- The parser gives exactly the map from the names to their values. -/
def ReadBack (environment : Environment) : Prop :=
  Represents (tableOf (Negotiator.parseNewEnvironVariables environment.encode))
    (environment.items.map EnvironVariable.entry)

end Environment

theorem decodeAscii_inj {byte other : UInt8} (ascii : byte < 0x80)
    (same : decodeAscii byte = decodeAscii other) : byte = other := by
  have small : byte.toNat < 128 := UInt8.lt_iff_toNat_lt.mp ascii
  have valid : ∀ code < 128, (Char.ofNat code).toNat = code := by decide
  have codes := congrArg Char.toNat same
  unfold decodeAscii at codes
  rw [if_pos small, valid _ small] at codes
  split at codes
  · next within =>
      rw [valid _ within] at codes
      exact UInt8.toNat_inj.mp codes
  · rw [codes] at small
    exact absurd small (by decide)

theorem map_decodeAscii_inj {bytes others : List UInt8} (ascii : ∀ byte ∈ bytes, byte < 0x80)
    (same : bytes.map decodeAscii = others.map decodeAscii) : bytes = others := by
  induction bytes generalizing others with
  | nil => exact (List.map_eq_nil_iff.mp same.symm).symm
  | cons byte bytes ih =>
      cases others with
      | nil => cases same
      | cons other others =>
          obtain ⟨first, rest⟩ := List.cons.inj same
          rw [decodeAscii_inj (ascii byte List.mem_cons_self) first,
            ih (fun byte member => ascii byte (.tail _ member)) rest]

namespace EnvironVariable

theorem name_of_decoded (item : EnvironVariable) {bytes : List UInt8}
    (same : item.name.map decodeAscii = bytes.map decodeAscii) : item.name = bytes :=
  map_decodeAscii_inj (fun byte inside => item.ascii byte (List.mem_append_left _ inside)) same

theorem content_of_decoded (item : EnvironVariable) {bytes : List UInt8}
    (same : item.content.map decodeAscii = bytes.map decodeAscii) : item.content = bytes :=
  map_decodeAscii_inj (fun byte inside => item.ascii byte (List.mem_append_right _ inside)) same

end EnvironVariable

namespace Negotiator

theorem unescapeNewEnvironString_escaped (bytes : List UInt8) :
    unescapeNewEnvironString (escaped escCode special bytes) = bytes.map decodeAscii := by
  unfold unescapeNewEnvironString
  rw [unescaped_escaped esc_mem_special]

theorem unescapeNewEnvironString_plain {bytes : List UInt8} (plain : escCode ∉ bytes) :
    unescapeNewEnvironString bytes = bytes.map decodeAscii := by
  unfold unescapeNewEnvironString
  rw [unescaped_of_not_mem plain]

/-- A name without any byte that ends names, and a value without any that ends values. -/
def Readable (entry : List Char × List Char) : Prop :=
  ∃ name value : List UInt8,
    entry = (name.map decodeAscii, value.map decodeAscii) ∧
      (∀ byte ∈ name, byte ∉ nameEnds) ∧ ∀ byte ∈ value, byte ∉ valueEnds

theorem unescape_takeWhile {ends : List UInt8} (escapes : escCode ∈ ends)
    (bytes : List UInt8) :
    unescapeNewEnvironString (bytes.takeWhile (· ∉ ends)) =
      (bytes.takeWhile (· ∉ ends)).map decodeAscii :=
  unescapeNewEnvironString_plain fun member => not_mem_of_mem_takeWhile member escapes

theorem readable_readVariable (payload : List UInt8) :
    Readable (readVariable payload).1 := by
  have name : ∀ byte ∈ payload.takeWhile (· ∉ nameEnds), byte ∉ nameEnds :=
    fun _ => not_mem_of_mem_takeWhile
  unfold readVariable
  rw [unescape_takeWhile esc_mem_nameEnds]
  cases payload.dropWhile (· ∉ nameEnds) with
  | nil => exact ⟨_, [], rfl, name, fun _ member => absurd member List.not_mem_nil⟩
  | cons first rest =>
      by_cases marked : first = valueCode
      · rw [readValue, if_pos marked, unescape_takeWhile esc_mem_valueEnds]
        exact ⟨_, _, rfl, name, fun _ => not_mem_of_mem_takeWhile⟩
      · rw [readValue, if_neg marked]
        exact ⟨_, [], rfl, name, fun _ member => absurd member List.not_mem_nil⟩

/-- Whatever comes in, only readable entries come out. -/
theorem readable_parseVariables {known : List (List Char × List Char)}
    (readable : ∀ entry ∈ known, Readable entry) (payload : List UInt8) :
    ∀ entry ∈ parseVariables known payload, Readable entry := by
  induction known, payload using parseVariables.induct with
  | case1 known =>
      rw [parseVariables]
      exact readable
  | case2 known byte payload other ih =>
      rw [parseVariables, if_pos other]
      exact ih readable
  | case3 known byte payload here read ih =>
      rw [parseVariables, if_neg here]
      refine ih fun entry member => ?_
      rcases mem_assign member with new | old
      · exact new ▸ readable_readVariable payload
      · exact readable entry old

theorem parseVariables_skip {known : List (List Char × List Char)} {skipped : List UInt8}
    (others : ∀ byte ∈ skipped, byte ∉ types) (payload : List UInt8) :
    parseVariables known (skipped ++ payload) = parseVariables known payload := by
  induction skipped with
  | nil => rfl
  | cons byte skipped ih =>
      rw [List.cons_append, parseVariables, if_pos (others byte List.mem_cons_self)]
      exact ih fun byte member => others byte (.tail _ member)

end Negotiator

namespace EnvironVariable

/-- The name is plain, and the value has no byte to be escaped but the marker of values. -/
def Cut (item : EnvironVariable) : Prop :=
  (∀ byte ∈ item.name, byte ∉ special) ∧ ∀ byte ∈ item.content, byte ∉ valueEnds

/-- The entry with the value up to its first byte to be escaped. -/
def cutEntry (item : EnvironVariable) : List Char × List Char :=
  (item.name.map decodeAscii, (item.content.takeWhile (· ∉ special)).map decodeAscii)

theorem head?_encode (item : EnvironVariable) (rest : List UInt8) :
    ∀ next ∈ (item.encode ++ rest).head?, next ∈ types := by
  intro next first
  cases first
  split <;> decide

theorem head?_flatMap_encode (items : List EnvironVariable) :
    ∀ next ∈ (items.flatMap encode).head?, next ∈ types := by
  cases items with
  | nil =>
      intro next first
      cases first
  | cons item items => exact head?_encode item _

end EnvironVariable

namespace Negotiator

theorem readVariable_name {name rest : List UInt8} (plain : ∀ byte ∈ name, byte ∉ special)
    (ends : ∀ next ∈ rest.head?, next ∈ nameEnds) :
    readVariable (escaped escCode special name ++ rest) =
      readValue (name.map decodeAscii) rest := by
  have noEsc : escCode ∉ name := fun member => plain escCode member esc_mem_special
  obtain ⟨taken, left⟩ := read_escaped esc_mem_nameEnds nameEnds_subset ends name
  unfold readVariable
  rw [taken, left, takeWhile_of_plain plain, dropWhile_of_plain plain,
    unescapeNewEnvironString_plain noEsc]
  rfl

/-- A variable is read up to the first byte of its value that is escaped. -/
theorem parseVariables_encode {item : EnvironVariable} (cut : item.Cut)
    {rest : List UInt8} (follows : ∀ next ∈ rest.head?, next ∈ types)
    (known : List (List Char × List Char)) :
    parseVariables known (item.encode ++ rest) =
      parseVariables (assign item.cutEntry.1 item.cutEntry.2 known) rest := by
  obtain ⟨plain, uncut⟩ := cut
  have type : ¬ (if item.user then userVarCode else varCode) ∉ types := by
    split <;> decide
  unfold EnvironVariable.encode
  rw [List.cons_append, parseVariables, if_neg type, List.append_assoc]
  unfold EnvironVariable.cutEntry EnvironVariable.content at *
  unfold EnvironVariable.encodeValue
  cases given : item.value with
  | none =>
      rw [List.nil_append,
        readVariable_name plain (ends_of_types types_subset_nameEnds follows)]
      cases rest with
      | nil => rfl
      | cons first behind =>
          have other : first ≠ valueCode := by
            rintro rfl
            exact absurd (follows valueCode rfl) (by decide)
          rw [readValue, if_neg other]
          rfl
  | some value =>
      rw [given] at uncut
      have ends : ∀ next ∈ (valueCode :: escaped escCode special value ++ rest).head?,
          next ∈ nameEnds := by
        intro next first
        cases first
        decide
      have escape : escCode ∉ value.takeWhile (· ∉ special) := fun member =>
        not_mem_of_mem_takeWhile member esc_mem_special
      have left : ∀ byte ∈ escaped escCode special (value.dropWhile (· ∉ special)),
          byte ∉ types := by
        intro byte member
        rcases mem_escaped member with rfl | behind
        · decide
        · exact fun type => uncut byte ((List.dropWhile_suffix _).mem behind) (types_subset type)
      obtain ⟨taken, behind⟩ := read_escaped esc_mem_valueEnds valueEnds_subset
        (ends_of_types types_subset follows) value
      rw [readVariable_name plain ends, List.cons_append, readValue, if_pos rfl, taken,
        behind, unescapeNewEnvironString_plain escape]
      exact parseVariables_skip left rest

theorem parseVariables_flatMap {items : List EnvironVariable} (cut : ∀ item ∈ items, item.Cut)
    (known : List (List Char × List Char)) :
    parseVariables known (items.flatMap EnvironVariable.encode) =
      (items.map EnvironVariable.cutEntry).foldl
        (fun entries entry => assign entry.1 entry.2 entries) known := by
  induction items generalizing known with
  | nil =>
      rw [List.flatMap_nil, parseVariables]
      rfl
  | cons item items ih =>
      rw [List.flatMap_cons, parseVariables_encode (cut item List.mem_cons_self)
        (EnvironVariable.head?_flatMap_encode items), ih fun item member =>
          cut item (.tail _ member)]
      rfl

end Negotiator

namespace Environment

open Negotiator

/-- Names stay apart when they are decoded. -/
theorem distinct_names (environment : Environment) :
    (environment.items.map fun item => item.name.map decodeAscii).Nodup := by
  have mapped : ((environment.items.map EnvironVariable.name).map
      (List.map decodeAscii)).Nodup := by
    refine List.Nodup.map_on ?_ environment.distinct
    intro name member other _ same
    obtain ⟨item, _, rfl⟩ := List.mem_map.mp member
    exact item.name_of_decoded same
  rwa [List.map_map] at mapped

theorem represents_cut {environment : Environment}
    (cut : ∀ item ∈ environment.items, item.Cut) :
    Represents (tableOf (parseNewEnvironVariables environment.encode))
      (environment.items.map EnvironVariable.cutEntry) := by
  unfold parseNewEnvironVariables encode
  rw [parseVariables_flatMap cut]
  have empty : Represents (tableOf ([] : List (List Char × List Char))) [] :=
    Represents.empty
  refine empty.assigned ?_
  rw [List.nil_append, List.map_map]
  exact environment.distinct_names

/-- What a parsed environment holds was readable. -/
theorem cut_of_readBack {environment : Environment} (readBack : environment.ReadBack) :
    ∀ item ∈ environment.items, item.Cut := by
  intro item member
  have found := (readBack.entry item.entry.1 item.entry.2).mpr
    (List.mem_map_of_mem member)
  have parsed := mem_of_tableOf found
  obtain ⟨name, value, same, nameFree, valueFree⟩ := readable_parseVariables
    (fun entry member => absurd member List.not_mem_nil) _ _ parsed
  obtain ⟨names, values⟩ := Prod.mk.inj same
  unfold EnvironVariable.Cut
  rw [item.name_of_decoded names, item.content_of_decoded values]
  exact ⟨fun byte inside here => nameFree byte inside (special_subset here), valueFree⟩

/-- The parser gives exactly the map from the names to the values if and only if no name
and no value has a byte to be escaped. -/
theorem readBack_iff (environment : Environment) :
    environment.ReadBack ↔ ∀ item ∈ environment.items, item.Plain := by
  constructor
  · intro readBack item member
    have cut := cut_of_readBack readBack
    have whole := (readBack.entry item.entry.1 item.entry.2).mpr
      (List.mem_map_of_mem member)
    have upToCut := ((represents_cut cut).entry item.cutEntry.1 item.cutEntry.2).mpr
      (List.mem_map_of_mem member)
    have contents := Option.some.inj (whole.symm.trans upToCut)
    have same : item.content = item.content.takeWhile (· ∉ special) :=
      item.content_of_decoded contents
    intro byte inside
    rcases List.mem_append.mp inside with name | content
    · exact (cut item member).1 byte name
    · rw [same] at content
      exact not_mem_of_mem_takeWhile content
  · intro plain
    have cut : ∀ item ∈ environment.items, item.Cut := by
      intro item member
      exact ⟨fun byte inside => plain item member byte (List.mem_append_left _ inside),
        fun byte inside stop =>
          plain item member byte (List.mem_append_right _ inside) (valueEnds_subset stop)⟩
    have entries : environment.items.map EnvironVariable.cutEntry =
        environment.items.map EnvironVariable.entry := by
      refine List.map_congr_left fun item member => ?_
      have value := takeWhile_of_plain fun byte inside =>
        plain item member byte (List.mem_append_right _ inside)
      unfold EnvironVariable.cutEntry EnvironVariable.entry
      rw [value]
    have represents := represents_cut cut
    rw [entries] at represents
    exact represents

theorem ascii_split : ∀ byte ∈ [65] ++ (some ([97, 0, 98] : List UInt8)).getD [],
    byte < (0x80 : UInt8) := by
  intro byte member
  simp only [Option.getD_some, List.cons_append, List.nil_append, List.mem_cons,
    List.not_mem_nil, or_false] at member
  rcases member with rfl | rfl | rfl | rfl
  · decide
  · decide
  · decide
  · decide

/-- One variable `A`, whose value has the marker of variables between two letters. -/
def split : Environment where
  items := [⟨false, [65], some [97, 0, 98], ascii_split⟩]
  distinct := List.nodup_singleton _

/-- The value is cut off, and what follows becomes a variable of its own. -/
theorem not_readBack_split : ¬ split.ReadBack := by
  intro readBack
  have found := (readBack.entry ['b'] []).mp (by decide +kernel)
  exact absurd found (by decide)

end Environment

end Pure3270
