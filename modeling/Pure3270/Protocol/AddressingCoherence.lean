import Pure3270.Emulation.ScreenText
import Pure3270.Protocol.SharedScreen

/-!
# The addressing mode and its state

The negotiated mode and the state of the negotiation are two fields.  The handler and its
negotiator each have a negotiation of their own, and both write the mode without the state
when a BIND-IMAGE announces another mode than the one negotiated.
-/

namespace Pure3270

open Foundations

namespace AddressingModeNegotiator

/-- A capability by its name; a name that is not known is passed over. -/
def serverCapability (name : List Char) : Option ServerCapability :=
  let stripped := String.ofList ((name.dropWhile isSpace).rdropWhile isSpace)
  if stripped ∈ ["12-bit", "12BITADDRESSING"] then some (.capability .mode12Bit)
  else if stripped ∈ ["14-bit", "14BITADDRESSING", "014BITADDRESSING"] then
    some (.capability .mode14Bit)
  else none

/-- `parse_server_capabilities`: names between commas or blanks. -/
def parseServerCapabilities (capabilities : List Char)
    (negotiator : AddressingModeNegotiator) : AddressingModeNegotiator :=
  let names := (capabilities.map fun ch => if ch = ' ' then ',' else ch).splitOn ','
  { negotiator with serverCapabilities := names.filterMap serverCapability }

/-- `_client_capabilities`, in the order in which they are tried. -/
def clientCapabilities : List AddressingMode := [.mode12Bit, .mode14Bit]

def negotiateMode (negotiator : AddressingModeNegotiator) :
    Except String AddressingMode × AddressingModeNegotiator :=
  if negotiator.serverCapabilities = [] then
    (.ok .mode12Bit, negotiator.switchTo .mode12Bit)
  else
    match clientCapabilities.find? fun mode =>
      .capability mode ∈ negotiator.serverCapabilities with
    | some mode => (.ok mode, negotiator.switchTo mode)
    | none =>
        (.error "No mutually supported addressing modes found",
          { negotiator with state := .failed })

/-- The state says which mode is negotiated, and whether one is. -/
structure Coherent (negotiator : AddressingModeNegotiator) : Prop where
  mode12Bit : negotiator.state = .negotiated12Bit ↔
    negotiator.negotiatedMode = some .mode12Bit
  mode14Bit : negotiator.state = .negotiated14Bit ↔
    negotiator.negotiatedMode = some .mode14Bit

/-- What the server has is nothing, or some capability. -/
def Capable (negotiator : AddressingModeNegotiator) : Prop :=
  negotiator.serverCapabilities = [] ∨
    ∃ mode, .capability mode ∈ negotiator.serverCapabilities

variable {negotiator : AddressingModeNegotiator} {data : List UInt8}
  {mode : AddressingMode}

theorem coherent_switchTo (negotiator : AddressingModeNegotiator) (mode : AddressingMode) :
    (negotiator.switchTo mode).Coherent := by
  cases mode <;> exact ⟨by simp [switchTo, negotiated], by simp [switchTo, negotiated]⟩

theorem Coherent.state_of_mode (coherent : negotiator.Coherent)
    (some : negotiator.negotiatedMode = some mode) : negotiator.state = negotiated mode := by
  cases mode with
  | mode12Bit => exact coherent.mode12Bit.mpr some
  | mode14Bit => exact coherent.mode14Bit.mpr some

theorem Coherent.isNegotiated_iff (coherent : negotiator.Coherent) :
    negotiator.isNegotiated = true ↔ ∃ mode, negotiator.negotiatedMode = some mode := by
  unfold isNegotiated
  rw [Bool.or_eq_true, decide_eq_true_eq, decide_eq_true_eq, coherent.mode12Bit,
    coherent.mode14Bit]
  constructor
  · rintro (here | here)
    · exact ⟨_, here⟩
    · exact ⟨_, here⟩
  · rintro ⟨mode, here⟩
    cases mode with
    | mode12Bit => exact .inl here
    | mode14Bit => exact .inr here

/-- The mode alone is written coherently only if it stays the same. -/
theorem coherent_setMode_iff (coherent : negotiator.Coherent) (mode : AddressingMode) :
    { negotiator with negotiatedMode := some mode }.Coherent ↔
      negotiator.negotiatedMode = some mode := by
  constructor
  · intro after
    have state : negotiator.state = negotiated mode := after.state_of_mode rfl
    cases mode with
    | mode12Bit => exact coherent.mode12Bit.mp state
    | mode14Bit => exact coherent.mode14Bit.mp state
  · intro same
    have unchanged : { negotiator with negotiatedMode := some mode } = negotiator := by
      rw [← same]
    rwa [unchanged]

/-- A negotiation among capabilities succeeds. -/
theorem Capable.negotiateMode (capable : negotiator.Capable) :
    ∃ mode, negotiator.negotiateMode = (.ok mode, negotiator.switchTo mode) := by
  unfold AddressingModeNegotiator.negotiateMode
  split
  · exact ⟨_, rfl⟩
  · rename_i some
    rcases capable with empty | ⟨mode, member⟩
    · exact absurd empty some
    · split
      · exact ⟨_, rfl⟩
      · rename_i nothing
        have listed : mode ∈ clientCapabilities := by
          cases mode <;> decide
        have refused := List.find?_eq_none.mp nothing mode listed
        exact absurd (decide_eq_true member) refused

theorem parseServerCapabilities_capable (capabilities : List Char) :
    (negotiator.parseServerCapabilities capabilities).Capable := by
  unfold Capable parseServerCapabilities
  dsimp only
  generalize (capabilities.map fun ch => if ch = ' ' then ',' else ch).splitOn ',' = names
  cases known : names.filterMap serverCapability with
  | nil => exact .inl rfl
  | cons first rest =>
      right
      have member : first ∈ names.filterMap serverCapability := known ▸ List.mem_cons_self
      obtain ⟨name, _, found⟩ := List.mem_filterMap.mp member
      unfold serverCapability at found
      dsimp only at found
      split at found
      · cases found
        exact ⟨_, List.mem_cons_self⟩
      · split at found
        · cases found
          exact ⟨_, List.mem_cons_self⟩
        · cases found

theorem mem_addCapability {capability other : ServerCapability}
    {capabilities : List ServerCapability} (member : other ∈ capabilities) :
    other ∈ addCapability capability capabilities := by
  unfold addCapability
  split
  · exact member
  · exact List.mem_append_left _ member

theorem updateFromBindImage_capable (capable : negotiator.Capable) :
    (negotiator.updateFromBindImage data).Capable := by
  unfold updateFromBindImage
  split
  · exact capable
  · have added : ServerCapability.capability .mode14Bit ∈
        addCapability (.mode .mode14Bit)
          (addCapability (.capability .mode14Bit) negotiator.serverCapabilities) := by
      refine mem_addCapability ?_
      unfold addCapability
      split
      · assumption
      · exact List.mem_append_right _ List.mem_cons_self
    dsimp only
    split
    · exact .inr ⟨_, added⟩
    · exact .inr ⟨_, added⟩

theorem updateFromBindImage_mode (coherent : negotiator.Coherent) :
    (negotiator.updateFromBindImage data).Coherent ∧
      (negotiator.updateFromBindImage data).negotiatedMode =
        negotiator.negotiatedMode.or (parseBindImageAddressingMode data).toOption := by
  unfold updateFromBindImage
  cases parsed : parseBindImageAddressingMode data with
  | error message => exact ⟨coherent, (Option.or_none ..).symm⟩
  | ok detected =>
      dsimp only
      split
      · rename_i negotiated
        obtain ⟨mode, here⟩ := coherent.isNegotiated_iff.mp negotiated
        refine ⟨⟨coherent.mode12Bit, coherent.mode14Bit⟩, ?_⟩
        rw [here]
        rfl
      · rename_i unnegotiated
        refine ⟨coherent_switchTo { negotiator with
          bindImageAddressingMode := some detected
          bindImageReceived := true
          serverCapabilities := addCapability (.mode .mode14Bit)
            (addCapability (.capability .mode14Bit) negotiator.serverCapabilities) } detected, ?_⟩
        cases here : negotiator.negotiatedMode with
        | none => rfl
        | some mode => exact absurd (coherent.isNegotiated_iff.mpr ⟨mode, here⟩) unnegotiated

/-- A mode that a BIND-IMAGE announces is the one that is negotiated, or where none is the
one that the other parser reads in it. -/
def Agrees (data : List UInt8) (negotiator : AddressingModeNegotiator) : Prop :=
  ∀ detected, BindImageParser.parseAddressingMode data = some detected →
    negotiator.negotiatedMode.or (parseBindImageAddressingMode data).toOption = some detected

theorem handleBindImage_capable (capable : negotiator.Capable) :
    (negotiator.handleBindImage data).Capable := by
  unfold handleBindImage
  split
  · exact capable
  · dsimp only
    split
    · exact updateFromBindImage_capable capable
    · exact @updateFromBindImage_capable negotiator data capable

theorem handleBindImage_coherent_iff (coherent : negotiator.Coherent) :
    (negotiator.handleBindImage data).Coherent ↔ Agrees data negotiator := by
  unfold handleBindImage Agrees
  cases announced : BindImageParser.parseAddressingMode data with
  | none => exact iff_of_true coherent fun _ none => by cases none
  | some detected =>
      obtain ⟨updated, mode⟩ := @updateFromBindImage_mode negotiator data coherent
      rw [← mode]
      dsimp only
      have condition : (∀ other, some detected = some other →
          (negotiator.updateFromBindImage data).negotiatedMode = some other) ↔
            (negotiator.updateFromBindImage data).negotiatedMode = some detected :=
        ⟨fun all => all detected rfl, by rintro same other ⟨⟩; exact same⟩
      rw [condition]
      split
      · rename_i same
        exact iff_of_true updated same
      · exact coherent_setMode_iff updated detected

end AddressingModeNegotiator

theorem ScreenObject.convertAddressingMode_error_iff {newMode : AddressingMode}
    {object : ScreenObject} :
    (∃ message, object.convertAddressingMode newMode = some (.error message)) ↔
      object.extendedCursor ≠ none ∧ ¬ object.Convertible newMode := by
  constructor
  · rintro ⟨message, failed⟩
    constructor
    · intro none
      unfold convertAddressingMode at failed
      rw [none] at failed
      cases failed
    · intro convertible
      obtain ⟨cursor, converted⟩ := convertAddressingMode_of_convertible convertible
      rw [converted] at failed
      cases failed
  · rintro ⟨extended, fails⟩
    rcases convertAddressingMode_of_not fails with absent | failed
    · unfold convertAddressingMode at absent
      exact absurd (Option.map_eq_none_iff.mp absent) extended
    · exact failed

/-- Whose negotiation it is. -/
inductive AddressingSide where
  | handler
  | negotiator
  deriving DecidableEq

inductive AddressingEvent where
  | parseServerCapabilities (side : AddressingSide) (capabilities : List Char)
  | negotiateMode (side : AddressingSide)
  | updateFromBindImage (side : AddressingSide) (data : List UInt8)
  | handleBindImage (side : AddressingSide) (data : List UInt8)
  | transitionHandler (newMode : AddressingMode)
  | transitionNegotiator (newMode : AddressingMode)

namespace ScreenHolders

def addressing : AddressingSide → ScreenHolders → AddressingModeNegotiator
  | .handler, holders => holders.handlerAddressing
  | .negotiator, holders => holders.negotiatorAddressing

def setAddressing (addressing : AddressingModeNegotiator) :
    AddressingSide → ScreenHolders → ScreenHolders
  | .handler, holders => { holders with handlerAddressing := addressing }
  | .negotiator, holders => { holders with negotiatorAddressing := addressing }

/-- Mode and state fit on both sides. -/
def ModesCoherent (holders : ScreenHolders) : Prop :=
  ∀ side, (holders.addressing side).Coherent

def BothCapable (holders : ScreenHolders) : Prop :=
  ∀ side, (holders.addressing side).Capable

/-- One call; what it raises does not end the run. -/
def next : AddressingEvent → ScreenHolders → ScreenHolders
  | .parseServerCapabilities side capabilities, holders =>
      holders.setAddressing
        ((holders.addressing side).parseServerCapabilities capabilities) side
  | .negotiateMode side, holders =>
      holders.setAddressing (holders.addressing side).negotiateMode.2 side
  | .updateFromBindImage side data, holders =>
      holders.setAddressing ((holders.addressing side).updateFromBindImage data) side
  | .handleBindImage side data, holders =>
      holders.setAddressing ((holders.addressing side).handleBindImage data) side
  | .transitionHandler newMode, holders => (holders.transitionHandler newMode).2
  | .transitionNegotiator newMode, holders => (holders.transitionNegotiator newMode).2

/-- A negotiation that fails leaves no mode behind, and a transition that raises leaves
everything as it was. -/
def Atomic : AddressingEvent → ScreenHolders → Prop
  | .negotiateMode side, holders =>
      ∀ message, (holders.addressing side).negotiateMode.1 = .error message →
        (holders.addressing side).negotiateMode.2.negotiatedMode = none
  | .transitionHandler newMode, holders =>
      ∀ message, (holders.transitionHandler newMode).1 = .error message →
        (holders.transitionHandler newMode).2 = holders
  | .transitionNegotiator newMode, holders =>
      ∀ message, (holders.transitionNegotiator newMode).1 = .error message →
        (holders.transitionNegotiator newMode).2 = holders
  | _, _ => True

/-- The condition of each call: a BIND-IMAGE agrees with the mode that is negotiated, and
the negotiator, while it has no mode, is asked for one only if its screen has no addressing
mode or can be converted. -/
def Meets : AddressingEvent → ScreenHolders → Prop
  | .handleBindImage side data, holders =>
      AddressingModeNegotiator.Agrees data (holders.addressing side)
  | .transitionNegotiator newMode, holders =>
      holders.negotiatorAddressing.negotiatedMode = none →
        (holders.heap.object holders.negotiatorScreen).extendedCursor ≠ none →
          (holders.heap.object holders.negotiatorScreen).Convertible newMode
  | _, _ => True

variable {holders : ScreenHolders}

theorem addressing_setAddressing (addressing : AddressingModeNegotiator)
    (side other : AddressingSide) :
    (holders.setAddressing addressing side).addressing other =
      if other = side then addressing else holders.addressing other := by
  cases side <;> cases other <;> rfl

theorem modesCoherent_setAddressing_iff (coherent : holders.ModesCoherent)
    (addressing : AddressingModeNegotiator) (side : AddressingSide) :
    (holders.setAddressing addressing side).ModesCoherent ↔ addressing.Coherent := by
  constructor
  · intro after
    have here := after side
    rwa [addressing_setAddressing, if_pos rfl] at here
  · intro here other
    rw [addressing_setAddressing]
    split
    · exact here
    · exact coherent other

theorem BothCapable.setAddressing (capable : holders.BothCapable)
    {addressing : AddressingModeNegotiator} (here : addressing.Capable)
    (side : AddressingSide) : (holders.setAddressing addressing side).BothCapable := by
  intro other
  rw [addressing_setAddressing]
  split
  · exact here
  · exact capable other

theorem transitionHandler_addressing (holders : ScreenHolders) (newMode : AddressingMode) :
    (holders.transitionHandler newMode).1 = .ok () ∧
      (holders.transitionHandler newMode).2.negotiatorAddressing =
        holders.negotiatorAddressing ∧
      (holders.transitionHandler newMode).2.handlerAddressing =
        holders.handlerAddressing.switchTo newMode := by
  unfold transitionHandler
  dsimp only
  by_cases same : holders.handlerAddressing.negotiatedMode = some newMode
  · rw [if_pos same]
    refine ⟨rfl, rfl, ?_⟩
    unfold AddressingModeNegotiator.switchTo
    dsimp only
    rw [same]
  · rw [if_neg same, AddressingModeNegotiator.validateAddressingModeTransition_true]
    simp only [Bool.not_true, Bool.false_eq_true, if_false]
    split <;> exact ⟨rfl, rfl, rfl⟩

/-- The mode before is taken back together with its state. -/
theorem restored_of_mode (coherent : holders.negotiatorAddressing.Coherent)
    {newMode mode : AddressingMode}
    (before : holders.negotiatorAddressing.negotiatedMode = some mode) :
    { holders with
      negotiatorAddressing := (holders.negotiatorAddressing.switchTo newMode).switchTo mode } =
        holders := by
  have state := coherent.state_of_mode before
  have restored : (holders.negotiatorAddressing.switchTo newMode).switchTo mode =
      holders.negotiatorAddressing := by
    unfold AddressingModeNegotiator.switchTo
    dsimp only
    rw [← state, ← before]
  rw [restored]

/-- So does one of the negotiator, or the conversion fails: then the mode before is taken
back, if there was one. -/
theorem transitionNegotiator_addressing (coherent : holders.ModesCoherent)
    (newMode : AddressingMode) :
    (holders.transitionNegotiator newMode).2.handlerAddressing = holders.handlerAddressing ∧
      (holders.transitionNegotiator newMode).2.negotiatorAddressing.Coherent ∧
      (Atomic (.transitionNegotiator newMode) holders ↔
        Meets (.transitionNegotiator newMode) holders) := by
  have here : holders.negotiatorAddressing.Coherent := coherent .negotiator
  unfold Atomic Meets transitionNegotiator
  dsimp only
  by_cases same : holders.negotiatorAddressing.negotiatedMode = some newMode
  · rw [if_pos same]
    refine ⟨rfl, here, iff_of_true (fun message failed => by cases failed) fun none => ?_⟩
    rw [same] at none
    cases none
  · rw [if_neg same, AddressingModeNegotiator.validateAddressingModeTransition_true]
    simp only [Bool.not_true, Bool.false_eq_true, if_false]
    have fails := @ScreenObject.convertAddressingMode_error_iff newMode
      (holders.heap.object holders.negotiatorScreen)
    have clean := fun quiet extended =>
      not_imp_comm.mp (fun inconvertible => fails.mpr ⟨extended, inconvertible⟩) quiet
    cases converted : (holders.heap.object holders.negotiatorScreen).convertAddressingMode
        newMode with
    | none =>
        rw [converted] at clean
        exact ⟨rfl, AddressingModeNegotiator.coherent_switchTo _ newMode,
          iff_of_true (fun message failed => by cases failed) fun _ =>
            clean (by rintro ⟨message, failed⟩; cases failed)⟩
    | some result =>
        cases result with
        | ok object =>
            rw [converted] at clean
            exact ⟨rfl, AddressingModeNegotiator.coherent_switchTo _ newMode,
              iff_of_true (fun message failed => by cases failed) fun _ =>
                clean (by rintro ⟨message, failed⟩; cases failed)⟩
        | error message =>
            obtain ⟨extended, inconvertible⟩ := fails.mp ⟨message, converted⟩
            cases before : holders.negotiatorAddressing.negotiatedMode with
            | none =>
                refine ⟨rfl, AddressingModeNegotiator.coherent_switchTo _ newMode,
                  iff_of_false (fun restored => ?_) fun met =>
                    inconvertible (met rfl extended)⟩
                have left : some newMode = none := by
                  have mode := congrArg (·.negotiatorAddressing.negotiatedMode)
                    (restored _ rfl)
                  exact mode.trans before
                cases left
            | some mode =>
                refine ⟨rfl, AddressingModeNegotiator.coherent_switchTo _ mode,
                  iff_of_true (fun _ _ => ?_) fun none => by cases none⟩
                exact restored_of_mode here before

theorem transitionNegotiator_capabilities (holders : ScreenHolders)
    (newMode : AddressingMode) :
    (holders.transitionNegotiator newMode).2.handlerAddressing = holders.handlerAddressing ∧
      (holders.transitionNegotiator newMode).2.negotiatorAddressing.serverCapabilities =
        holders.negotiatorAddressing.serverCapabilities := by
  unfold transitionNegotiator
  dsimp only
  split
  · exact ⟨rfl, rfl⟩
  · split
    · exact ⟨rfl, rfl⟩
    · split
      · exact ⟨rfl, rfl⟩
      · dsimp only
        split <;> exact ⟨rfl, rfl⟩
      · exact ⟨rfl, rfl⟩

theorem next_capable (event : AddressingEvent) (capable : holders.BothCapable) :
    (holders.next event).BothCapable := by
  cases event with
  | parseServerCapabilities side capabilities =>
      exact capable.setAddressing
        (AddressingModeNegotiator.parseServerCapabilities_capable capabilities) side
  | negotiateMode side =>
      obtain ⟨mode, negotiated⟩ := (capable side).negotiateMode
      refine capable.setAddressing ?_ side
      rw [negotiated]
      exact capable side
  | updateFromBindImage side data =>
      exact capable.setAddressing
        (AddressingModeNegotiator.updateFromBindImage_capable (capable side)) side
  | handleBindImage side data =>
      exact capable.setAddressing
        (AddressingModeNegotiator.handleBindImage_capable (capable side)) side
  | transitionHandler newMode =>
      obtain ⟨_, other, here⟩ := holders.transitionHandler_addressing newMode
      rintro (_ | _)
      · change (holders.transitionHandler newMode).2.handlerAddressing.Capable
        rw [here]
        exact capable .handler
      · change (holders.transitionHandler newMode).2.negotiatorAddressing.Capable
        rw [other]
        exact capable .negotiator
  | transitionNegotiator newMode =>
      obtain ⟨other, here⟩ := holders.transitionNegotiator_capabilities newMode
      rintro (_ | _)
      · change (holders.transitionNegotiator newMode).2.handlerAddressing.Capable
        rw [other]
        exact capable .handler
      · change (holders.transitionNegotiator newMode).2.negotiatorAddressing.Capable
        unfold AddressingModeNegotiator.Capable
        rw [here]
        exact capable .negotiator

theorem next_coherent_iff (event : AddressingEvent) (capable : holders.BothCapable)
    (coherent : holders.ModesCoherent) :
    (holders.next event).ModesCoherent ∧ Atomic event holders ↔ Meets event holders := by
  cases event with
  | parseServerCapabilities side capabilities =>
      have here := coherent side
      refine iff_of_true ⟨?_, trivial⟩ trivial
      exact (modesCoherent_setAddressing_iff coherent _ side).mpr
        ⟨here.mode12Bit, here.mode14Bit⟩
  | negotiateMode side =>
      obtain ⟨mode, negotiated⟩ := (capable side).negotiateMode
      refine iff_of_true ⟨?_, fun message failed => ?_⟩ trivial
      · unfold next
        rw [modesCoherent_setAddressing_iff coherent, negotiated]
        exact AddressingModeNegotiator.coherent_switchTo _ mode
      · rw [negotiated] at failed
        cases failed
  | updateFromBindImage side data =>
      refine iff_of_true ⟨?_, trivial⟩ trivial
      exact (modesCoherent_setAddressing_iff coherent _ side).mpr
        (AddressingModeNegotiator.updateFromBindImage_mode (coherent side)).1
  | handleBindImage side data =>
      refine (and_iff_left trivial).trans ?_
      exact (modesCoherent_setAddressing_iff coherent _ side).trans
        (AddressingModeNegotiator.handleBindImage_coherent_iff (coherent side))
  | transitionHandler newMode =>
      obtain ⟨returned, other, here⟩ := holders.transitionHandler_addressing newMode
      refine iff_of_true ⟨?_, fun message failed => ?_⟩ trivial
      · rintro (_ | _)
        · change (holders.transitionHandler newMode).2.handlerAddressing.Coherent
          rw [here]
          exact AddressingModeNegotiator.coherent_switchTo _ newMode
        · change (holders.transitionHandler newMode).2.negotiatorAddressing.Coherent
          rw [other]
          exact coherent .negotiator
      · rw [returned] at failed
        cases failed
  | transitionNegotiator newMode =>
      obtain ⟨other, here, exact⟩ := transitionNegotiator_addressing coherent newMode
      refine Iff.trans (and_iff_right ?_) exact
      rintro (_ | _)
      · change (holders.transitionNegotiator newMode).2.handlerAddressing.Coherent
        rw [other]
        exact coherent .handler
      · exact here

/-- Modes and states stay coherent and failing calls leave nothing behind, throughout a run,
exactly if every call meets its condition. -/
theorem modesCoherent_throughout_iff (screenBuffer : ScreenObject) (negotiator : Negotiator)
    (events : List AddressingEvent) :
    (Always next ModesCoherent events (init screenBuffer negotiator) ∧
        Along next Atomic events (init screenBuffer negotiator)) ↔
      Along next Meets events (init screenBuffer negotiator) := by
  have new : AddressingModeNegotiator.new.Coherent := ⟨by decide, by decide⟩
  have coherent : (init screenBuffer negotiator).ModesCoherent := by
    rintro (_ | _) <;> exact new
  have capable : (init screenBuffer negotiator).BothCapable := by
    rintro (_ | _) <;> exact .inl rfl
  exact always_and_along_iff (fun event _ => next_capable event)
    (fun event _ => next_coherent_iff event) capable coherent

/-- A BIND-IMAGE that announces 14-bit addresses after a 12-bit negotiation changes the mode
without the state. -/
theorem not_coherent_bindAfterNegotiation :
    ¬∀ events, Always next ModesCoherent events
      (init (.plain 24 80 (Nat.succ_pos 23) (Nat.succ_pos 79)) (Negotiator.init .strict)) := by
  intro always
  have last := (always [.negotiateMode .handler,
    .handleBindImage .handler [0x81, 0, 6, 1, 0, 1]]).last .handler
  exact absurd (last.mode14Bit.mpr (by decide +kernel)) (by decide +kernel)

end ScreenHolders

end Pure3270
