import Pure3270.Protocol.Negotiation
import Pure3270.Protocol.TelnetEncoding

/-!
# TN3270E read off a trace

The inference looks for byte sequences anywhere in the trace.  On the wire, these also
arise without a command: from a doubled IAC or an option 255 with data bytes behind it, and
inside payloads.
-/

namespace Pure3270

open Telnet

namespace TelnetItem

/-- Its last byte is 255 and starts no command. -/
def EndsInIac : TelnetItem → Prop
  | data byte => byte = iac
  | negotiation _ option => option = iac
  | _ => False

/-- IAC and these bytes stand together, not at the start of a command. -/
def Imitated (word : List UInt8) (items : List TelnetItem) : Prop :=
  (∃ option payload, subnegotiation option payload ∈ items ∧
      iac :: word <:+: option :: payload) ∨
    ∃ item, item.EndsInIac ∧ item :: word.map data <:+: items

/-- WONT or DONT for TN3270E. -/
def refuses : TelnetItem → Bool
  | negotiation cmd option => (cmd = wontCode || cmd = dontCode) && option = tn3270e
  | _ => false

/-- WILL EOR, WILL or DO TN3270E, or a TN3270E subnegotiation. -/
def accepts : TelnetItem → Bool
  | negotiation cmd option =>
      cmd = willCode && (option = eor || option = tn3270e) ||
        cmd = doCode && option = tn3270e
  | subnegotiation option _ => option = tn3270e
  | _ => false

/-- What the items of a trace say about TN3270E. -/
def inferred (items : List TelnetItem) : Bool :=
  !items.any refuses && items.any accepts

variable {items : List TelnetItem} {item : TelnetItem} {word : List UInt8}

theorem imitated_cons :
    Imitated word (item :: items) ↔
      (∃ option payload, item = subnegotiation option payload ∧
          iac :: word <:+: option :: payload) ∨
        (item.EndsInIac ∧ word.map data <+: items) ∨ Imitated word items := by
  unfold Imitated
  constructor
  · rintro (⟨option, payload, member, stands⟩ | ⟨first, ends, stands⟩)
    · rcases List.mem_cons.mp member with here | later
      · exact .inl ⟨option, payload, here.symm, stands⟩
      · exact .inr (.inr (.inl ⟨option, payload, later, stands⟩))
    · rcases List.infix_cons_iff.mp stands with here | later
      · obtain ⟨rfl, follows⟩ := List.cons_prefix_cons.mp here
        exact .inr (.inl ⟨ends, follows⟩)
      · exact .inr (.inr (.inr ⟨first, ends, later⟩))
  · rintro (⟨option, payload, rfl, stands⟩ | ⟨ends, follows⟩ |
      ⟨option, payload, member, stands⟩ | ⟨first, ends, stands⟩)
    · exact .inl ⟨option, payload, List.mem_cons_self, stands⟩
    · exact .inr ⟨item, ends, (List.cons_prefix_cons.mpr ⟨rfl, follows⟩).isInfix⟩
    · exact .inl ⟨option, payload, List.mem_cons_of_mem _ member, stands⟩
    · exact .inr ⟨first, ends, List.infix_cons stands⟩

theorem not_imitated_nil : ¬ Imitated word [] := by
  rintro (⟨_, _, none, _⟩ | ⟨_, _, none⟩)
  · cases none
  · cases List.infix_nil.mp none

/-- Bytes other than IAC at the start of what is sent are data. -/
theorem prefix_encode_iff (clean : iac ∉ word) :
    word <+: items.flatMap encode ↔ word.map data <+: items := by
  induction word generalizing items with
  | nil => exact iff_of_true List.nil_prefix List.nil_prefix
  | cons byte word ih =>
      obtain ⟨notIac, clean⟩ := not_or.mp (List.mem_cons.not.mp clean)
      rw [List.map_cons]
      cases items with
      | nil =>
          have never {α : Type} {first : α} {rest : List α} : ¬ first :: rest <+: [] :=
            fun none => List.cons_ne_nil _ _ (List.prefix_nil.mp none)
          exact iff_of_false never never
      | cons item items =>
          rw [List.flatMap_cons, List.cons_prefix_cons]
          cases item with
          | data sent =>
              by_cases escaped : sent = iac
              · subst escaped
                refine iff_of_false (fun stands => ?_) fun same => ?_
                · exact notIac (List.cons_prefix_cons.mp stands).1.symm
                · exact notIac (data.inj same.1).symm
              · have sentAs : encode (data sent) = [sent] := if_neg escaped
                rw [sentAs, List.singleton_append, List.cons_prefix_cons, ih clean,
                  data.injEq]
          | command cmd =>
              refine iff_of_false (fun stands => ?_) fun same => by cases same.1
              exact notIac (List.cons_prefix_cons.mp stands).1.symm
          | negotiation cmd option =>
              refine iff_of_false (fun stands => ?_) fun same => by cases same.1
              exact notIac (List.cons_prefix_cons.mp stands).1.symm
          | subnegotiation option payload =>
              refine iff_of_false (fun stands => ?_) fun same => by cases same.1
              exact notIac (List.cons_prefix_cons.mp stands).1.symm

/-- The bytes stand at the start or later. -/
theorem infix_iac_iff {first : UInt8} {bytes : List UInt8} :
    iac :: word <:+: first :: bytes ↔
      first = iac ∧ word <+: bytes ∨ iac :: word <:+: bytes := by
  rw [List.infix_cons_iff, List.cons_prefix_cons, eq_comm]

theorem not_prefix_cons {cmd first : UInt8} {bytes : List UInt8} (other : cmd ≠ first) :
    ¬ cmd :: word <+: first :: bytes :=
  fun stands => other (List.cons_prefix_cons.mp stands).1

/-- Bytes other than IAC at the start of an escaped payload stand there unescaped. -/
theorem prefix_escape_iff {payload rest : List UInt8} (clean : iac ∉ word) :
    word <+: escape payload ++ iac :: rest ↔ word <+: payload := by
  induction word generalizing payload with
  | nil => exact iff_of_true List.nil_prefix List.nil_prefix
  | cons byte word ih =>
      obtain ⟨notIac, clean⟩ := not_or.mp (List.mem_cons.not.mp clean)
      cases payload with
      | nil =>
          refine iff_of_false (fun stands => ?_) fun none => by cases List.prefix_nil.mp none
          exact notIac (List.cons_prefix_cons.mp stands).1.symm
      | cons first payload =>
          have split : escape (first :: payload) = escapeByte first ++ escape payload := rfl
          rw [split, List.cons_prefix_cons]
          by_cases escaped : first = iac
          · subst escaped
            refine iff_of_false (fun stands => ?_) fun same => notIac same.1.symm
            exact notIac (List.cons_prefix_cons.mp stands).1.symm
          · have sentAs : escapeByte first = [first] := if_neg escaped
            rw [sentAs, List.singleton_append, List.cons_append, List.cons_prefix_cons,
              ih clean]

/-- Within a subnegotiation, after its first two bytes. -/
theorem infix_subnegotiation_iff {first : UInt8} {payload rest : List UInt8} {cmd : UInt8}
    (clean : iac ∉ cmd :: word) (notSe : cmd ≠ se) :
    iac :: cmd :: word <:+: first :: (escape payload ++ iac :: se :: rest) ↔
      iac :: cmd :: word <:+: first :: payload ∨ iac :: cmd :: word <:+: rest := by
  have notIac : cmd ≠ iac := fun same => clean (same ▸ List.mem_cons_self)
  induction payload generalizing first with
  | nil =>
      have tooLong : ¬ iac :: cmd :: word <:+: [first] := by
        intro stands
        have long := stands.length_le
        simp only [List.length_cons, List.length_nil] at long
        omega
      have escaped : escape [] = [] := rfl
      rw [escaped, List.nil_append, infix_iac_iff, infix_iac_iff, infix_iac_iff]
      simp only [not_prefix_cons notIac, not_prefix_cons notSe, tooLong, iac_ne_se.symm,
        and_false, false_and, false_or]
  | cons next payload ih =>
      have split : escape (next :: payload) = escapeByte next ++ escape payload := rfl
      rw [infix_iac_iff, prefix_escape_iff clean, @infix_iac_iff _ first (next :: payload),
        or_assoc]
      refine or_congr Iff.rfl ?_
      rw [split]
      by_cases escaped : next = iac
      · subst escaped
        have sentAs : escapeByte iac = [iac, iac] := rfl
        rw [sentAs]
        refine Iff.trans ?_ ih
        change iac :: cmd :: word <:+: iac :: iac :: (escape payload ++ iac :: se :: rest) ↔ _
        rw [infix_iac_iff]
        simp only [not_prefix_cons notIac, and_false, false_or]
      · have sentAs : escapeByte next = [next] := if_neg escaped
        rw [sentAs]
        exact ih

section Items

variable {cmd : UInt8}

theorem infix_data_iff {byte : UInt8} (clean : iac ∉ cmd :: word) :
    iac :: cmd :: word <:+: (data byte).encode ++ items.flatMap encode ↔
      (data byte).EndsInIac ∧ (cmd :: word).map data <+: items ∨
        iac :: cmd :: word <:+: items.flatMap encode := by
  have notIac : cmd ≠ iac := fun same => clean (same ▸ List.mem_cons_self)
  unfold EndsInIac
  by_cases escaped : byte = iac
  · subst escaped
    change _ <:+: iac :: iac :: items.flatMap encode ↔ _
    rw [infix_iac_iff, infix_iac_iff, prefix_encode_iff clean]
    simp only [not_prefix_cons notIac, and_false, false_or]
  · have sentAs : encode (data byte) = [byte] := if_neg escaped
    rw [sentAs, List.singleton_append, infix_iac_iff]
    simp only [escaped, false_and, false_or]

theorem infix_command_iff {other : UInt8} (otherIac : other ≠ iac) (different : cmd ≠ other) :
    iac :: cmd :: word <:+: (command other).encode ++ items.flatMap encode ↔
      iac :: cmd :: word <:+: items.flatMap encode := by
  change _ <:+: iac :: other :: items.flatMap encode ↔ _
  rw [infix_iac_iff, infix_iac_iff]
  simp only [not_prefix_cons different, otherIac, and_false, false_and, false_or]

theorem infix_negotiation_iff {verb sent : UInt8} (verbIac : verb ≠ iac)
    (clean : iac ∉ cmd :: word) :
    iac :: cmd :: word <:+: (negotiation verb sent).encode ++ items.flatMap encode ↔
      cmd = verb ∧ word <+: sent :: items.flatMap encode ∨
        (negotiation verb sent).EndsInIac ∧ (cmd :: word).map data <+: items ∨
          iac :: cmd :: word <:+: items.flatMap encode := by
  change _ <:+: iac :: verb :: sent :: items.flatMap encode ↔ _
  rw [infix_iac_iff, infix_iac_iff, infix_iac_iff, List.cons_prefix_cons,
    prefix_encode_iff clean]
  simp only [EndsInIac, verbIac, true_and, false_and, false_or]

end Items

/-- The command is sent, or its bytes are imitated. -/
theorem infix_encode_iff {cmd option : UInt8} (formed : ∀ item ∈ items, item.WellFormed)
    (introduces : cmd = sb ∨ isNegotiation cmd = true) (notIac : option ≠ iac) :
    [iac, cmd, option] <:+: items.flatMap encode ↔
      (negotiation cmd option ∈ items ∨
          cmd = sb ∧ ∃ payload, subnegotiation option payload ∈ items) ∨
        Imitated [cmd, option] items := by
  have cmdNotIac : cmd ≠ iac := by
    rcases introduces with rfl | verb
    · decide
    · rintro rfl
      cases verb
  have cmdNotSe : cmd ≠ se := by
    rcases introduces with rfl | verb
    · decide
    · rintro rfl
      cases verb
  have clean : iac ∉ [cmd, option] := by
    simp [cmdNotIac.symm, notIac.symm]
  induction items with
  | nil =>
      refine iff_of_false (fun stands => ?_) ?_
      · cases List.infix_nil.mp stands
      · rintro ((none | ⟨_, _, none⟩) | imitated)
        · cases none
        · cases none
        · exact not_imitated_nil imitated
  | cons item items ih =>
      have later := ih fun other member => formed other (List.mem_cons_of_mem _ member)
      have here := formed item List.mem_cons_self
      rw [List.flatMap_cons, imitated_cons]
      simp only [List.mem_cons]
      cases item with
      | data byte =>
          rw [infix_data_iff clean]
          simp [or_left_comm, later]
      | command other =>
          obtain ⟨otherIac, otherSb, _, otherVerb⟩ := here
          have different : cmd ≠ other := by
            rintro rfl
            rcases introduces with same | verb
            · exact otherSb same
            · rw [verb] at otherVerb
              cases otherVerb
          rw [infix_command_iff otherIac different]
          simp [EndsInIac, later]
      | negotiation verb sent =>
          have verbIac : verb ≠ iac := by
            rintro rfl
            cases here
          rw [infix_negotiation_iff verbIac clean, List.cons_prefix_cons]
          simp [later, or_assoc, or_left_comm, eq_comm]
      | subnegotiation sent payload =>
          change _ <:+: iac :: sb :: sent :: ((escape payload ++ [iac, se]) ++
            items.flatMap encode) ↔ _
          rw [List.append_assoc]
          change _ <:+: iac :: sb :: sent :: (escape payload ++ iac :: se ::
            items.flatMap encode) ↔ _
          rw [infix_iac_iff, infix_iac_iff, infix_subnegotiation_iff clean cmdNotSe,
            List.cons_prefix_cons, List.cons_prefix_cons]
          have sbIac : sb ≠ iac := by decide
          have started : (∃ sent', subnegotiation option sent' = subnegotiation sent payload ∨
              subnegotiation option sent' ∈ items) ↔
                option = sent ∨ ∃ sent', subnegotiation option sent' ∈ items := by
            simp [exists_or]
          rw [started]
          simp [EndsInIac, later, sbIac, and_or_left, or_assoc, or_left_comm]

theorem infix_end_iff (formed : ∀ item ∈ items, item.WellFormed) :
    [iac, se] <:+: items.flatMap encode ↔
      (∃ option payload, subnegotiation option payload ∈ items) ∨ Imitated [se] items := by
  have clean : iac ∉ [se] := by decide
  induction items with
  | nil =>
      refine iff_of_false (fun stands => ?_) ?_
      · cases List.infix_nil.mp stands
      · rintro (⟨_, _, none⟩ | imitated)
        · cases none
        · exact not_imitated_nil imitated
  | cons item items ih =>
      have later := ih fun other member => formed other (List.mem_cons_of_mem _ member)
      have here := formed item List.mem_cons_self
      rw [List.flatMap_cons, imitated_cons]
      simp only [List.mem_cons]
      cases item with
      | data byte =>
          rw [infix_data_iff clean]
          simp [or_left_comm, later]
      | command other =>
          obtain ⟨otherIac, _, otherSe, _⟩ := here
          rw [infix_command_iff otherIac otherSe.symm]
          simp [EndsInIac, later]
      | negotiation verb sent =>
          have verbIac : verb ≠ iac := by
            rintro rfl
            cases here
          have verbSe : se ≠ verb := by
            rintro rfl
            cases here
          rw [infix_negotiation_iff verbIac clean]
          simp [verbSe, later, or_left_comm]
      | subnegotiation sent payload =>
          refine iff_of_true ?_ (.inl ⟨sent, payload, .inl rfl⟩)
          exact ⟨iac :: sb :: sent :: escape payload, items.flatMap encode, by simp [encode]⟩

/-- The trace has this command, or its bytes. -/
def Seems (cmd option : UInt8) (items : List TelnetItem) : Prop :=
  negotiation cmd option ∈ items ∨ Imitated [cmd, option] items

/-- WONT or DONT of the option that the inference takes for TN3270E. -/
def SeemsRefused (items : List TelnetItem) : Prop :=
  Seems wontCode terminalLocation items ∨ Seems dontCode terminalLocation items

/-- TN3270E is accepted, or the bytes of an acceptance are imitated.  For a subnegotiation
these are its first three and somewhere the two at an end. -/
def SeemsAccepted (items : List TelnetItem) : Prop :=
  items.any accepts = true ∨ Imitated [willCode, eor] items ∨
    Imitated [willCode, tn3270e] items ∨ Imitated [doCode, tn3270e] items ∨
      (Imitated [sb, tn3270e] items ∧
        ((∃ option payload, subnegotiation option payload ∈ items) ∨ Imitated [se] items))

/-- Where the items say that TN3270E is negotiated, nothing seems a refusal; elsewhere,
something does or nothing seems an acceptance. -/
structure Legible (items : List TelnetItem) : Prop where
  negotiated : inferred items = true → ¬ SeemsRefused items
  otherwise : inferred items = false → SeemsRefused items ∨ ¬ SeemsAccepted items

theorem infix_verb_iff {cmd option : UInt8} (formed : ∀ item ∈ items, item.WellFormed)
    (verb : isNegotiation cmd = true) (notIac : option ≠ iac) :
    [iac, cmd, option] <:+: items.flatMap encode ↔ Seems cmd option items := by
  have notSb : cmd ≠ sb := by
    rintro rfl
    cases verb
  refine (infix_encode_iff formed (.inr verb) notIac).trans (or_congr_left ?_)
  exact or_iff_left fun both => notSb both.1

theorem any_accepts_iff : items.any accepts = true ↔
    negotiation willCode eor ∈ items ∨ negotiation willCode tn3270e ∈ items ∨
      negotiation doCode tn3270e ∈ items ∨
        ∃ payload, subnegotiation tn3270e payload ∈ items := by
  rw [List.any_eq_true]
  constructor
  · rintro ⟨item, member, accepted⟩
    cases item with
    | data byte => cases accepted
    | command cmd => cases accepted
    | negotiation cmd option =>
        simp only [accepts, Bool.or_eq_true, Bool.and_eq_true, decide_eq_true_eq] at accepted
        rcases accepted with ⟨rfl, rfl | rfl⟩ | ⟨rfl, rfl⟩
        · exact .inl member
        · exact .inr (.inl member)
        · exact .inr (.inr (.inl member))
    | subnegotiation option payload =>
        cases of_decide_eq_true accepted
        exact .inr (.inr (.inr ⟨payload, member⟩))
  · rintro (member | member | member | ⟨payload, member⟩)
    · exact ⟨_, member, rfl⟩
    · exact ⟨_, member, rfl⟩
    · exact ⟨_, member, rfl⟩
    · exact ⟨_, member, rfl⟩

theorem infix_accepted_iff (formed : ∀ item ∈ items, item.WellFormed) :
    ([iac, willCode, eor] <:+: items.flatMap encode ∨
        [iac, willCode, tn3270e] <:+: items.flatMap encode ∨
          [iac, doCode, tn3270e] <:+: items.flatMap encode ∨
            ([iac, sb, tn3270e] <:+: items.flatMap encode ∧
              [iac, se] <:+: items.flatMap encode)) ↔ SeemsAccepted items := by
  rw [infix_verb_iff formed (by decide) (by decide), infix_verb_iff formed (by decide) (by decide),
    infix_verb_iff formed (by decide) (by decide), infix_encode_iff formed (.inl rfl) (by decide),
    infix_end_iff formed]
  unfold SeemsAccepted
  rw [any_accepts_iff]
  have noVerb : negotiation sb tn3270e ∉ items := by
    intro member
    cases formed _ member
  have some : (∃ payload, subnegotiation tn3270e payload ∈ items) →
      ∃ option payload, subnegotiation option payload ∈ items := by
    rintro ⟨payload, member⟩
    exact ⟨tn3270e, payload, member⟩
  unfold Seems
  by_cases started : ∃ payload, subnegotiation tn3270e payload ∈ items
  · simp [started, some started]
  · simp only [started, noVerb, and_false, false_or, or_false]
    grind

end TelnetItem

open TelnetItem TelnetStream

/-- The inference says what the items say exactly when the trace is legible. -/
theorem inferTn3270eFromTrace_iff {items : List TelnetItem}
    (formed : ∀ item ∈ items, item.WellFormed) :
    Negotiator.inferTn3270eFromTrace (encodeTelnet items) = inferred items ↔
      Legible items := by
  have refused : ([0xFF, 0xFC, 0x24] <:+: encodeTelnet items ∨
      [0xFF, 0xFE, 0x24] <:+: encodeTelnet items) ↔ SeemsRefused items :=
    or_congr (infix_verb_iff formed (by decide) (by decide))
      (infix_verb_iff formed (by decide) (by decide))
  have accepted : ([0xFF, 0xFB, 0x19] <:+: encodeTelnet items ∨
      [0xFF, 0xFB, 0x28] <:+: encodeTelnet items ∨
        [0xFF, 0xFD, 0x28] <:+: encodeTelnet items ∨
          ([0xFF, 0xFA, 0x28] <:+: encodeTelnet items ∧
            [0xFF, 0xF0] <:+: encodeTelnet items)) ↔ SeemsAccepted items :=
    infix_accepted_iff formed
  have answer : Negotiator.inferTn3270eFromTrace (encodeTelnet items) = true ↔
      ¬ SeemsRefused items ∧ SeemsAccepted items := by
    unfold Negotiator.inferTn3270eFromTrace
    rw [← refused, ← accepted]
    split
    · next stands => exact iff_of_false Bool.false_ne_true fun both => both.1 stands
    · next absent => rw [decide_eq_true_eq, and_iff_right absent]
  cases said : inferred items with
  | true =>
      have accepts : SeemsAccepted items := .inl ((Bool.and_eq_true _ _).mp said).2
      rw [answer, and_iff_left accepts]
      constructor
      · intro clear
        exact ⟨fun _ => clear, fun no => absurd (said.symm.trans no) Bool.noConfusion⟩
      · intro legible
        exact legible.negotiated said
  | false =>
      rw [← Bool.not_eq_true, answer, not_and_or, not_not]
      constructor
      · intro clear
        exact ⟨fun yes => absurd (said.symm.trans yes) Bool.noConfusion, fun _ => clear⟩
      · intro legible
        exact legible.otherwise said

/-- An offer of TN3270E after a payload with an end of its own. -/
theorem legible_offer :
    Legible [.subnegotiation ttype [0xFF, 0xF0], .negotiation willCode tn3270e] :=
  (inferTn3270eFromTrace_iff (by simp [WellFormed, isNegotiation])).mp (by decide)

/-- A refused TN3270E is inferred from WILL EOR. -/
theorem inferTn3270eFromTrace_refused :
    Negotiator.inferTn3270eFromTrace
        (encodeTelnet [.negotiation willCode eor, .negotiation wontCode tn3270e]) = true ∧
      inferred [.negotiation willCode eor, .negotiation wontCode tn3270e] = false := by
  decide

end Pure3270
