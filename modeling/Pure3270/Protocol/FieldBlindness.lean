import Pure3270.Emulation.FieldWrites
import Pure3270.Foundations.Lockstep
import Pure3270.Protocol.ParserLoop

/-!
# What does not look at the field list

The field list, its caches and the suspension counter are derived from the
rest of the screen.  All operations but three carry two screens that differ in
these alone to two such screens again, and leave in the same way.  The
exceptions are EUA, IC and PT: they look fields up, and keep the step when
they find the same in both lists.  The calls that the parser makes, and whether
there is a negotiator to call, do not matter to the rest of it either.
-/

namespace Pure3270

open Foundations

/-- What field detection computes. -/
structure FieldLists where
  fields : List Field
  fieldPositionCache : Nat → Option Field
  inputFieldsCache : List Field
  navigationCacheValid : Bool

namespace ScreenBuffer

def fieldLists (screen : ScreenBuffer) : FieldLists :=
  ⟨screen.fields, screen.fieldPositionCache, screen.inputFieldsCache,
    screen.navigationCacheValid⟩

/-- The screen with other lists and another suspension counter. -/
def withLists (suspended : Nat) (lists : FieldLists) (screen : ScreenBuffer) :
    ScreenBuffer :=
  { screen with
    fields := lists.fields
    fieldPositionCache := lists.fieldPositionCache
    inputFieldsCache := lists.inputFieldsCache
    navigationCacheValid := lists.navigationCacheValid
    suspendFieldDetection := suspended }

/-- An operation whose effect outside the lists does not depend on them. -/
def Blind (suspended : Nat) (f : ScreenBuffer → ScreenBuffer) : Prop :=
  ∀ lists screen, ∃ lists',
    f (screen.withLists suspended lists) = (f screen).withLists suspended lists'

variable {suspended : Nat}

theorem Blind.comp {f g : ScreenBuffer → ScreenBuffer} (outer : Blind suspended g)
    (inner : Blind suspended f) : Blind suspended fun screen => g (f screen) := by
  intro lists screen
  obtain ⟨middle, first⟩ := inner lists screen
  obtain ⟨last, second⟩ := outer middle (f screen)
  exact ⟨last, (congrArg g first).trans second⟩

theorem Blind.ite {condition : ScreenBuffer → Prop} [DecidablePred condition]
    {f g : ScreenBuffer → ScreenBuffer}
    (same : ∀ lists screen,
      condition (screen.withLists suspended lists) ↔ condition screen)
    (whenTrue : Blind suspended f) (whenFalse : Blind suspended g) :
    Blind suspended fun screen =>
      if condition screen then f screen else g screen := by
  intro lists screen
  by_cases holds : condition screen
  · simp only [if_pos holds, if_pos ((same lists screen).mpr holds)]
    exact whenTrue lists screen
  · simp only [if_neg holds, if_neg fun there => holds ((same lists screen).mp there)]
    exact whenFalse lists screen

theorem id_blind : Blind suspended fun screen => screen :=
  fun lists _ => ⟨lists, rfl⟩

theorem setPosition_blind (row col : Nat) : Blind suspended (setPosition row col) :=
  fun lists _ => ⟨lists, rfl⟩

theorem insertByte_blind (byte : UInt8) : Blind suspended (insertByte byte) :=
  Blind.ite (fun _ _ => Iff.rfl) (fun lists _ => ⟨lists, rfl⟩)
    (fun lists _ => ⟨lists, rfl⟩)

/-- Detection may run in one screen and be put off in the other. -/
theorem setAttribute_blind (attr : UInt8) (position : Option (Nat × Nat)) :
    Blind suspended (setAttribute attr position) := by
  refine Blind.ite (fun _ _ => Iff.rfl) (fun lists screen => ?_) id_blind
  split
  · split
    · exact ⟨⟨_, _, _, _⟩, rfl⟩
    · exact ⟨⟨_, _, _, _⟩, rfl⟩
  · split
    · exact ⟨⟨_, _, _, _⟩, rfl⟩
    · exact ⟨⟨_, _, _, _⟩, rfl⟩

theorem setExtendedAttributeSfe_blind (attrType attrValue : UInt8)
    (position : Option (Nat × Nat)) :
    Blind suspended (setExtendedAttributeSfe attrType attrValue position) := by
  intro lists screen
  refine ⟨lists, ?_⟩
  unfold setExtendedAttributeSfe
  cases attrMap attrType with
  | none => rfl
  | some key => rfl

theorem applySfePair_blind (attrType attrValue : UInt8) :
    Blind suspended (applySfePair attrType attrValue) := by
  unfold applySfePair
  by_cases base : attrType = 0xC0
  · simp only [if_pos base]
    exact setAttribute_blind attrValue none
  · simp only [if_neg base]
    split
    · exact setExtendedAttributeSfe_blind attrType attrValue none
    · exact id_blind

theorem refreshFields_blind (row col : Nat) :
    Blind suspended (refreshFields row col) := by
  intro lists moved
  obtain ⟨_, _, _, _, here⟩ := refreshFields_lists row col moved
  obtain ⟨fields, positions, inputs, valid, there⟩ :=
    refreshFields_lists row col (moved.withLists suspended lists)
  exact ⟨⟨fields, positions, inputs, valid⟩, by rw [here, there]; rfl⟩

/-- Erasing a cell circumvents protection, so that only attributes are read. -/
theorem eraseCell_blind (position : Nat × Nat) :
    Blind suspended (writeChar 0x40 (some position) false true false) := by
  refine Blind.ite (fun _ _ => Iff.rfl) id_blind ?_
  refine Blind.ite (fun _ _ => Iff.rfl) id_blind ?_
  refine Blind.ite (fun _ _ => Iff.rfl) id_blind ?_
  refine Blind.ite (fun _ _ => Iff.rfl) id_blind ?_
  have moved : Blind suspended fun screen =>
      (screen.storeChar 0x40 (position.1 * screen.cols + position.2) false).advanceCursor
        ((screen.storeChar 0x40 (position.1 * screen.cols + position.2)
          false).advanceAt position.1 position.2) :=
    fun lists _ => ⟨lists, rfl⟩
  exact Blind.comp (refreshFields_blind position.1 position.2) moved

/-- Whether the field over a position, if there is one, is protected. -/
def protectedAt (position : Nat × Nat) (screen : ScreenBuffer) : Bool :=
  match screen.getFieldAtPosition position.1 position.2 with
  | some field => field.isProtected
  | none => false

theorem eraseUnprotectedCell_eq (position : Nat × Nat) (screen : ScreenBuffer) :
    screen.eraseUnprotectedCell position =
      if screen.protectedAt position then screen
      else screen.writeChar 0x40 (some position) false true false := by
  unfold eraseUnprotectedCell protectedAt
  cases screen.getFieldAtPosition position.1 position.2 with
  | none => rfl
  | some field => rfl

/-- An erase over a number of cells meets protection at the same cells. -/
def ErasesAlike : Nat → Nat × Nat → ScreenBuffer → ScreenBuffer → Prop
  | 0, _, _, _ => True
  | count + 1, position, left, right =>
      left.protectedAt position = right.protectedAt position ∧
        ErasesAlike count ((left.eraseUnprotectedCell position).nextCell position)
          (left.eraseUnprotectedCell position) (right.eraseUnprotectedCell position)

theorem eraseUnprotected_lists {count : Nat} {position : Nat × Nat}
    {lists : FieldLists} {screen : ScreenBuffer}
    (alike : ErasesAlike count position screen (screen.withLists suspended lists)) :
    ∃ lists', (screen.withLists suspended lists).eraseUnprotected count position =
      (screen.eraseUnprotected count position).withLists suspended lists' := by
  induction count generalizing position lists screen with
  | zero => exact ⟨lists, rfl⟩
  | succ count ih =>
      obtain ⟨here, later⟩ := alike
      have cell : ∃ lists',
          (screen.withLists suspended lists).eraseUnprotectedCell position =
            (screen.eraseUnprotectedCell position).withLists suspended lists' := by
        rw [eraseUnprotectedCell_eq, eraseUnprotectedCell_eq, ← here]
        split
        · exact ⟨lists, rfl⟩
        · exact eraseCell_blind position lists screen
      obtain ⟨middle, erased⟩ := cell
      rw [erased] at later
      unfold eraseUnprotected
      simp only [erased]
      exact ih later

end ScreenBuffer

namespace ScreenBuffer

/-- The right screen is the left one with other lists. -/
def ListTwins (suspended : Nat) (left right : ScreenBuffer) : Prop :=
  ∃ lists, right = left.withLists suspended lists

/-- The two screens differ in the lists at most, and what is blind to the lists
leaves two such screens. -/
class AlikeOutsideLists (S : ScreenBuffer → ScreenBuffer → Prop) : Prop where
  lists : ∀ {left right}, S left right →
    ∃ suspended lists, right = left.withLists suspended lists
  blind : ∀ {f : ScreenBuffer → ScreenBuffer}, (∀ suspended, Blind suspended f) →
    ∀ {left right}, S left right → S (f left) (f right)

instance : AlikeOutsideLists (ListTwins suspended) where
  lists twins := ⟨suspended, twins⟩
  blind blind := by
    rintro left _ ⟨lists, rfl⟩
    exact blind suspended lists left

instance : AlikeOutsideLists Eq where
  lists same := ⟨_, fieldLists _, same.symm⟩
  blind _ _ _ same := congrArg _ same

end ScreenBuffer

namespace DataStreamParser

/-- What the parser does not look at: the lists of the screen, and whom it calls. -/
structure Unseen where
  suspended : Nat
  lists : FieldLists
  hasNegotiator : Bool
  calls : List CollaboratorCall

def withUnseen (unseen : Unseen) (parser : DataStreamParser) : DataStreamParser :=
  { parser with
    screen := parser.screen.withLists unseen.suspended unseen.lists
    hasNegotiator := unseen.hasNegotiator
    calls := unseen.calls }

/-- The parsers differ in their screens and in whom they call at most.  The screens
are related, and the calls are the same where they are compared. -/
def Alike (S : ScreenBuffer → ScreenBuffer → Prop) (compared : Prop)
    (left right : DataStreamParser) : Prop :=
  ∃ screen hasNegotiator calls,
    right = { left with screen, hasNegotiator, calls } ∧ S left.screen screen ∧
      (compared → hasNegotiator = left.hasNegotiator ∧ calls = left.calls)

/-- A computation that runs alike in parsers that are alike. -/
def RunsAlike (S : ScreenBuffer → ScreenBuffer → Prop) (compared : Prop)
    (m : ParserM α) : Prop :=
  Lockstep (Alike S compared) m m

section Alike

variable {S : ScreenBuffer → ScreenBuffer → Prop} {compared : Prop}

theorem Alike.same {left right : DataStreamParser} (alike : Alike S compared left right) :
    right.data = left.data ∧ right.parserPos = left.parserPos ∧
      right.pos = left.pos := by
  obtain ⟨screen, hasNegotiator, calls, rfl, -, -⟩ := alike
  exact ⟨rfl, rfl, rfl⟩

theorem pure_alike (value : α) : RunsAlike S compared (pure value : ParserM α) :=
  fun alike => .pure alike value

theorem throw_alike (fault : Fault) : RunsAlike S compared (throw fault : ParserM α) :=
  fun alike => .throw alike fault

theorem ite_alike {condition : Prop} [Decidable condition] {m n : ParserM α}
    (whenTrue : RunsAlike S compared m) (whenFalse : RunsAlike S compared n) :
    RunsAlike S compared (if condition then m else n) := by
  split
  · exact whenTrue
  · exact whenFalse

theorem modify_alike {f : DataStreamParser → DataStreamParser}
    (same : ∀ parser screen hasNegotiator calls,
      f { parser with screen, hasNegotiator, calls } =
        { f parser with screen, hasNegotiator, calls }) :
    RunsAlike S compared (modify f : ParserM Unit) := by
  rintro left _ ⟨other, hasNegotiator, calls, rfl, related, sameCalls⟩
  have own := same left left.screen left.hasNegotiator left.calls
  have screen := congrArg DataStreamParser.screen own
  have negotiator := congrArg DataStreamParser.hasNegotiator own
  have made := congrArg DataStreamParser.calls own
  refine .modify ⟨other, hasNegotiator, calls, same left other hasNegotiator calls, ?_, ?_⟩
  · rw [screen]
    exact related
  · intro holds
    exact ⟨(sameCalls holds).1.trans negotiator.symm, (sameCalls holds).2.trans made.symm⟩

theorem call_alike (made : CollaboratorCall) : RunsAlike S compared (call made) := by
  rintro left _ ⟨screen, hasNegotiator, calls, rfl, related, same⟩
  refine .modify ⟨screen, hasNegotiator, calls ++ [made], rfl, related, ?_⟩
  exact fun holds => ⟨(same holds).1, congrArg (· ++ [made]) (same holds).2⟩

theorem callNegotiator_alike (made : CollaboratorCall) :
    RunsAlike S compared (do
      let parser ← get
      if parser.hasNegotiator then call made) := by
  rintro left _ ⟨screen, hasNegotiator, calls, rfl, related, same⟩
  apply LockstepAt.getBind
  cases here : left.hasNegotiator with
  | false =>
      cases hasNegotiator with
      | false => exact .pure ⟨screen, false, calls, rfl, related, same⟩ ()
      | true =>
          refine .ok () ⟨screen, true, calls ++ [made], rfl, related, fun holds => ?_⟩
          rw [here] at same
          cases (same holds).1
  | true =>
      cases hasNegotiator with
      | false =>
          refine .ok () ⟨screen, false, calls, rfl, related, fun holds => ?_⟩
          rw [here] at same
          cases (same holds).1
      | true => exact call_alike made ⟨screen, true, calls, rfl, related, same⟩

theorem mirrorPos_alike : RunsAlike S compared mirrorPos :=
  modify_alike fun _ _ _ _ => rfl

theorem moveToEnd_alike : RunsAlike S compared moveToEnd :=
  modify_alike fun _ _ _ _ => rfl

theorem skipStructuredField_alike : RunsAlike S compared skipStructuredField :=
  modify_alike fun _ _ _ _ => rfl

theorem parserReadByte_alike : RunsAlike S compared parserReadByte := by
  rintro left _ ⟨screen, hasNegotiator, calls, rfl, related, same⟩
  apply LockstepAt.getBind
  dsimp only
  cases left.data[left.parserPos]? with
  | none => exact .throw ⟨screen, hasNegotiator, calls, rfl, related, same⟩ _
  | some byte => exact .ok byte ⟨screen, hasNegotiator, calls, rfl, related, same⟩

theorem readByte_alike : RunsAlike S compared readByte := by
  rintro left _ ⟨screen, hasNegotiator, calls, rfl, related, same⟩
  apply LockstepAt.getBind
  by_cases past : left.data.length ≤ left.pos
  · simp only [if_pos past]
    exact .throw ⟨screen, hasNegotiator, calls, rfl, related, same⟩ _
  · simp only [if_neg past]
    cases left.data[left.parserPos]? with
    | none => exact .throw ⟨screen, hasNegotiator, calls, rfl, related, same⟩ _
    | some byte => exact .ok byte ⟨screen, hasNegotiator, calls, rfl, related, same⟩

theorem attempt_alike {m : ParserM α} (body : RunsAlike S compared m) :
    RunsAlike S compared (attempt m) := by
  refine Lockstep.tryCatch (Lockstep.bind body fun _ => pure_alike _) fun fault => ?_
  cases fault with
  | parseError text => exact pure_alike none
  | other text => exact throw_alike _

theorem swallow_alike {m : ParserM Unit} (body : RunsAlike S compared m) :
    RunsAlike S compared (swallow m) :=
  Lockstep.tryCatch body fun _ => pure_alike ()

variable [ScreenBuffer.AlikeOutsideLists S]

open ScreenBuffer (AlikeOutsideLists)

theorem Alike.unseen {left right : DataStreamParser} (alike : Alike S compared left right) :
    ∃ unseen, right = left.withUnseen unseen := by
  obtain ⟨screen, hasNegotiator, calls, rfl, related, -⟩ := alike
  obtain ⟨suspended, lists, rfl⟩ := AlikeOutsideLists.lists related
  exact ⟨⟨suspended, lists, hasNegotiator, calls⟩, rfl⟩

/-- Reading a state of which nothing unseen is used. -/
theorem getBind_alike {f : DataStreamParser → ParserM β}
    (same : ∀ parser unseen, f (parser.withUnseen unseen) = f parser)
    (next : ∀ parser, RunsAlike S compared (f parser)) :
    RunsAlike S compared (get >>= f) := by
  intro left right alike
  apply LockstepAt.getBind
  obtain ⟨unseen, shape⟩ := alike.unseen
  have seen : f right = f left := by rw [shape, same]
  rw [seen]
  exact next left alike

theorem modifyScreen_alike {f : ScreenBuffer → ScreenBuffer}
    (blind : ∀ suspended, ScreenBuffer.Blind suspended f) :
    RunsAlike S compared (modifyScreen f) := by
  rintro left _ ⟨screen, hasNegotiator, calls, rfl, related, same⟩
  exact .modify ⟨f screen, hasNegotiator, calls, rfl,
    AlikeOutsideLists.blind blind related, same⟩

theorem withMessage_alike {m : ParserM α} {message : DataStreamParser → String}
    (same : ∀ parser unseen, message (parser.withUnseen unseen) = message parser)
    (body : RunsAlike S compared m) : RunsAlike S compared (withMessage message m) := by
  refine Lockstep.tryCatch body fun fault => ?_
  cases fault with
  | parseError text =>
      exact getBind_alike (fun parser unseen => by rw [same parser unseen])
        fun _ => throw_alike _
  | other text => exact throw_alike _

theorem readByteSafe_alike (operation : String) :
    RunsAlike S compared (readByteSafe operation) :=
  withMessage_alike (fun _ _ => rfl) readByte_alike

theorem validateMinData_alike (operation : String) (minBytes : Nat) :
    RunsAlike S compared (validateMinData operation minBytes) :=
  getBind_alike (fun _ _ => rfl) fun _ => ite_alike (throw_alike _) (pure_alike ())

theorem readAddress_alike : RunsAlike S compared readAddress :=
  Lockstep.bind readByte_alike fun _ =>
    Lockstep.bind readByte_alike fun _ =>
      getBind_alike (fun _ _ => rfl) fun _ => pure_alike _

theorem insertData_alike (byte : UInt8) : RunsAlike S compared (insertData byte) := by
  refine ite_alike (pure_alike ()) (getBind_alike (fun _ _ => rfl) fun _ => ?_)
  refine ite_alike (ite_alike ?_ (throw_alike _)) (throw_alike _)
  exact modifyScreen_alike fun _ => ScreenBuffer.insertByte_blind byte

theorem setPosition_alike (row col : Nat) :
    RunsAlike S compared (modifyScreen (·.setPosition row col)) :=
  modifyScreen_alike fun _ => ScreenBuffer.setPosition_blind row col

theorem handleSba_alike : RunsAlike S compared handleSba := by
  refine getBind_alike (fun _ _ => rfl) fun _ => ite_alike (throw_alike _) ?_
  refine Lockstep.bind readAddress_alike fun address => ?_
  refine getBind_alike (fun _ _ => rfl) fun parser => ?_
  cases parser.screen.targetOf address parser.addressingMode with
  | none => exact pure_alike ()
  | some target =>
      exact Lockstep.bind (setPosition_alike _ _) fun _ => mirrorPos_alike

theorem handleSf_alike : RunsAlike S compared handleSf := by
  refine Lockstep.bind (validateMinData_alike "SF" 1) fun _ => ?_
  refine Lockstep.bind (readByteSafe_alike "SF") fun attr => ?_
  refine getBind_alike (fun _ _ => rfl) fun parser => ?_
  refine Lockstep.bind (modifyScreen_alike fun _ =>
    ScreenBuffer.setAttribute_blind attr none) fun _ => ?_
  refine Lockstep.bind (modifyScreen_alike fun _ lists _ => ⟨lists, rfl⟩) fun _ => ?_
  refine Lockstep.bind (modify_alike fun _ _ _ _ => rfl) fun _ => ?_
  exact Lockstep.bind (setPosition_alike _ _) fun _ => mirrorPos_alike

theorem setExtendedAttributeSfe_alike (attrType attrValue : UInt8)
    (position : Option (Nat × Nat)) :
    RunsAlike S compared
      (modifyScreen (·.setExtendedAttributeSfe attrType attrValue position)) :=
  modifyScreen_alike fun _ =>
    ScreenBuffer.setExtendedAttributeSfe_blind attrType attrValue position

theorem modifyFieldPairs_alike (target : Nat × Nat) (fuel : Nat) :
    RunsAlike S compared (modifyFieldPairs target fuel) := by
  induction fuel with
  | zero => exact pure_alike ()
  | succ fuel ih =>
      refine getBind_alike (fun _ _ => rfl) fun _ => ite_alike (pure_alike ()) ?_
      refine Lockstep.bind readByte_alike fun attrType => ?_
      refine Lockstep.bind readByte_alike fun attrValue => ?_
      exact Lockstep.bind (setExtendedAttributeSfe_alike attrType attrValue _)
        fun _ => ih

theorem handleMf_alike : RunsAlike S compared handleMf :=
  Lockstep.bind (validateMinData_alike "MF" 2) fun _ =>
    getBind_alike (fun _ _ => rfl) fun _ => modifyFieldPairs_alike _ _

theorem handleRa_alike : RunsAlike S compared handleRa := by
  refine Lockstep.bind (validateMinData_alike "RA" 3) fun _ => ?_
  refine getBind_alike (fun _ _ => rfl) fun before => ?_
  refine Lockstep.bind readAddress_alike fun address => ?_
  refine Lockstep.bind (readByteSafe_alike "RA") fun charToRepeat => ?_
  cases before.screen.targetOf address before.addressingMode with
  | none => exact pure_alike ()
  | some target =>
      exact Lockstep.bind (Lockstep.times (insertData_alike charToRepeat) _)
        fun _ => setPosition_alike _ _

theorem handleGe_alike : RunsAlike S compared handleGe :=
  Lockstep.bind (validateMinData_alike "GE" 1) fun _ =>
    Lockstep.bind readByte_alike fun _ => insertData_alike _

theorem writeToPrinter_alike (data : List UInt8) :
    RunsAlike S compared (writeToPrinter data) := by
  refine getBind_alike (fun _ _ => rfl) fun parser => ?_
  cases parser.printer with
  | none => exact pure_alike ()
  | some printer =>
      refine Lockstep.bind (call_alike _) fun _ => ?_
      cases printer.writeScsDataRaises data with
      | none => exact pure_alike ()
      | some message => exact throw_alike _

theorem handleScs_alike : RunsAlike S compared handleScs := by
  refine getBind_alike (fun _ _ => rfl) fun _ => ite_alike (throw_alike _) ?_
  exact Lockstep.bind readByte_alike fun _ =>
    ite_alike (writeToPrinter_alike _) (pure_alike ())

theorem applySfePair_alike (attrType attrValue : UInt8) :
    RunsAlike S compared (modifyScreen (·.applySfePair attrType attrValue)) :=
  modifyScreen_alike fun _ => ScreenBuffer.applySfePair_blind attrType attrValue

theorem readSfePairs_alike (numPairs : Nat) (baseAttrSet : Bool) :
    RunsAlike S compared (readSfePairs numPairs baseAttrSet) := by
  induction numPairs generalizing baseAttrSet with
  | zero => exact pure_alike baseAttrSet
  | succ numPairs ih =>
      refine getBind_alike (fun _ _ => rfl) fun _ => ite_alike (pure_alike _) ?_
      refine Lockstep.bind (withMessage_alike (fun _ _ => rfl) readByte_alike)
        fun attrType => ?_
      refine Lockstep.bind (withMessage_alike (fun _ _ => rfl) readByte_alike)
        fun attrValue => ?_
      exact Lockstep.bind (applySfePair_alike attrType attrValue) fun _ => ih _

theorem handleSfe_alike : RunsAlike S compared handleSfe := by
  refine getBind_alike (fun _ _ => rfl) fun _ => ite_alike (pure_alike ()) ?_
  refine Lockstep.bind (withMessage_alike (fun _ _ => rfl) readByte_alike)
    fun length => ?_
  refine Lockstep.bind (readSfePairs_alike _ _) fun _ => ?_
  exact ite_alike (setPosition_alike _ _) (pure_alike ())

theorem handleSfePayload_alike (payload : List UInt8) :
    RunsAlike S compared (handleSfePayload payload) := by
  induction payload using handleSfePayload.induct with
  | case1 attrType attrValue rest ih =>
      exact Lockstep.bind (applySfePair_alike attrType attrValue) fun _ => ih
  | case2 payload noPair =>
      unfold handleSfePayload
      split
      · exact absurd rfl (noPair _ _ _)
      · exact pure_alike ()

theorem handleSa_alike : RunsAlike S compared handleSa := by
  refine getBind_alike (fun _ _ => rfl) fun _ => ite_alike (throw_alike _) ?_
  refine Lockstep.bind readByte_alike fun attrType => ?_
  refine Lockstep.bind readByte_alike fun attrValue => ?_
  refine getBind_alike (fun _ _ => rfl) fun _ => ?_
  exact setExtendedAttributeSfe_alike attrType attrValue _

theorem handleDataStreamCtl_alike (ctlCode : UInt8) :
    RunsAlike S compared (handleDataStreamCtl ctlCode) := by
  unfold handleDataStreamCtl
  split
  · exact modifyScreen_alike fun _ lists _ => ⟨lists, rfl⟩
  · exact modify_alike fun _ _ _ _ => rfl
  · exact modify_alike fun _ _ _ _ => rfl
  · exact modify_alike fun _ _ _ _ => rfl
  · exact modify_alike fun _ _ _ _ => rfl
  · exact pure_alike ()

theorem handleDataStreamCtlOrder_alike :
    RunsAlike S compared handleDataStreamCtlOrder := by
  refine getBind_alike (fun _ _ => rfl) fun parser => ?_
  cases parser.data[parser.parserPos]? with
  | none => exact insertData_alike 0x40
  | some nextByte =>
      exact ite_alike
        (Lockstep.bind parserReadByte_alike fun _ => handleDataStreamCtl_alike _)
        (insertData_alike 0x40)

theorem sfHandlers_alike (sfType : UInt8) (data : List UInt8) :
    RunsAlike S compared (sfHandlers sfType data) := by
  unfold sfHandlers
  split
  · exact callNegotiator_alike _
  · exact handleSfePayload_alike data
  · exact callNegotiator_alike _
  · refine getBind_alike (fun _ _ => rfl) fun _ => ?_
    cases data with
    | nil => exact pure_alike ()
    | cons statusCode rest => exact ite_alike (call_alike _) (pure_alike ())
  · exact getBind_alike (fun _ _ => rfl) fun _ =>
      ite_alike (call_alike _) (pure_alike ())
  · exact pure_alike ()

theorem readStructuredFieldBody_alike (length : Nat) :
    RunsAlike S compared (readStructuredFieldBody length) := by
  refine Lockstep.bind (attempt_alike readByte_alike) fun result => ?_
  cases result with
  | none => exact pure_alike ()
  | some sfType =>
      rintro left _ ⟨screen, hasNegotiator, calls, rfl, related, same⟩
      apply LockstepAt.getBind
      refine LockstepAt.bind (.ok () ⟨screen, hasNegotiator, calls, rfl, related, same⟩)
        fun _ _ _ _ _ kept => ?_
      exact swallow_alike (sfHandlers_alike _ _) kept

theorem readHeader_alike : RunsAlike S compared handleStructuredField.readHeader := by
  refine getBind_alike (fun _ _ => rfl) fun _ =>
    ite_alike skipStructuredField_alike ?_
  refine Lockstep.bind (attempt_alike readByte_alike) fun lengthHigh => ?_
  cases lengthHigh with
  | none => exact skipStructuredField_alike
  | some lengthHigh =>
      refine Lockstep.bind (attempt_alike readByte_alike) fun lengthLow => ?_
      cases lengthLow with
      | none => exact skipStructuredField_alike
      | some lengthLow =>
          exact getBind_alike (fun _ _ => rfl) fun _ =>
            ite_alike skipStructuredField_alike
              (ite_alike skipStructuredField_alike (readStructuredFieldBody_alike _))

theorem handleStructuredField_alike : RunsAlike S compared handleStructuredField := by
  refine getBind_alike (fun _ _ => rfl) fun _ => ite_alike ?_ readHeader_alike
  refine Lockstep.bind (attempt_alike readByte_alike) fun result => ?_
  cases result with
  | none => exact pure_alike ()
  | some byte => exact readHeader_alike

/-- The orders that look fields up. -/
def looksUp (byte : UInt8) : Bool := byte ∈ [0x12, 0x13, 0x05]

theorem orderHandlers_alike {byte : UInt8} {handler : ParserM Unit}
    (found : orderHandlers byte = some handler) (blind : looksUp byte = false) :
    RunsAlike S compared handler := by
  unfold orderHandlers at found
  split at found <;> cases found
  · exact handleSba_alike
  · exact handleSf_alike
  · exact handleMf_alike
  · exact handleRa_alike
  · cases blind
  · exact handleGe_alike
  · cases blind
  · cases blind
  · exact handleSfe_alike
  · exact handleSa_alike
  · exact handleStructuredField_alike
  · exact handleDataStreamCtlOrder_alike
  · exact handleScs_alike

theorem dispatch_alike {byte : UInt8} (blind : looksUp byte = false) :
    RunsAlike S compared (dispatch byte) := by
  unfold dispatch
  cases found : orderHandlers byte with
  | some handler =>
      exact Lockstep.bind (orderHandlers_alike found blind) fun _ => mirrorPos_alike
  | none =>
      exact ite_alike (pure_alike ())
        (Lockstep.bind (insertData_alike byte) fun _ => mirrorPos_alike)

theorem restoreScreen_alike (snapshot : Option ScreenSnapshot) (errMsg : String) :
    RunsAlike S compared (restoreScreen snapshot errMsg) := by
  cases snapshot with
  | none => exact pure_alike ()
  | some snapshot =>
      exact ite_alike (modifyScreen_alike fun _ _ _ => ⟨⟨_, _, _, _⟩, rfl⟩)
        (pure_alike ())

theorem handleOrderError_alike (snapshot : Option ScreenSnapshot) (fault : Fault) :
    RunsAlike S compared (handleOrderError snapshot fault) := by
  cases fault with
  | other text => exact throw_alike _
  | parseError errMsg =>
      refine ite_alike ?_ (ite_alike ?_ ?_)
      · exact Lockstep.bind (restoreScreen_alike _ _) fun _ =>
          Lockstep.bind moveToEnd_alike fun _ => throw_alike _
      · exact Lockstep.bind (restoreScreen_alike _ _) fun _ =>
          Lockstep.bind moveToEnd_alike fun _ => pure_alike _
      · exact Lockstep.bind (modify_alike fun _ _ _ _ => rfl)
          fun _ => pure_alike _

/-- A round keeps the step where the byte it reads does. -/
theorem parseRound_alike {snapshot : Option ScreenSnapshot}
    {left right : DataStreamParser} (alike : Alike S compared left right)
    (byte : LockstepAt (Alike S compared) processByte processByte left right) :
    LockstepAt (Alike S compared) (parseRound snapshot) (parseRound snapshot)
      left right := by
  apply LockstepAt.getBind
  obtain ⟨data, parserPos, -⟩ := alike.same
  apply LockstepAt.ite (by simp only [hasMore, data, parserPos])
  · exact fun _ => .pure alike _
  · intro _
    refine LockstepAt.tryCatch ?_ fun fault _ _ kept =>
      handleOrderError_alike snapshot fault kept
    exact byte.bind fun _ _ _ _ _ kept => .pure kept none

theorem parseLoop_alike {Test : DataStreamParser → DataStreamParser → Prop}
    {snapshot : Option ScreenSnapshot}
    (byte : ∀ {left right}, Alike S compared left right → Test left right →
      LockstepAt (Alike S compared) processByte processByte left right)
    {left right : DataStreamParser} (alike : Alike S compared left right)
    (test : Throughout Test (parseRound snapshot) (parseRound snapshot) left right) :
    LockstepAt (Alike S compared) (parseLoop snapshot) (parseLoop snapshot)
      left right := by
  apply LockstepAt.getBind
  rw [alike.same.1]
  have round : ∀ {before before'}, Alike S compared before before' →
      Test before before' → LockstepAt (Alike S compared) (parseRound snapshot)
        (parseRound snapshot) before before' :=
    fun kept passed => parseRound_alike kept (byte kept passed)
  refine (LockstepAt.iterate round alike test _).bind fun result _ _ _ _ kept => ?_
  cases result with
  | none => exact .pure kept _
  | some left =>
      cases left with
      | rolledBack => exact .pure kept _
      | finished =>
          have moved : RunsAlike S compared (modify fun parser : DataStreamParser =>
              { parser with pos := max parser.pos parser.data.length }) :=
            modify_alike fun _ _ _ _ => rfl
          exact LockstepAt.bind (moved kept) fun _ _ _ _ _ ended => .pure ended _

theorem handleParseError_alike (snapshot : Option ScreenSnapshot) (fault : Fault) :
    RunsAlike S compared (handleParseError snapshot fault) := by
  cases fault with
  | other text => exact throw_alike _
  | parseError errorMsg =>
      refine Lockstep.bind (restoreScreen_alike _ _) fun _ => ite_alike ?_ ?_
      · exact Lockstep.bind moveToEnd_alike fun _ => throw_alike _
      · refine Lockstep.bind (modify_alike fun parser screen _ _ => ?_)
          fun _ => pure_alike _
        by_cases more : parser.parserPos < parser.data.length
        · simp only [if_pos more]
        · simp only [if_neg more]

end Alike

def withLists (suspended : Nat) (lists : FieldLists) (parser : DataStreamParser) :
    DataStreamParser :=
  { parser with screen := parser.screen.withLists suspended lists }

/-- The right parser is the left one with other field lists. -/
def Twins (suspended : Nat) (left right : DataStreamParser) : Prop :=
  ∃ lists, right = left.withLists suspended lists

/-- A computation that runs alike over all field lists. -/
def Blind (suspended : Nat) (m : ParserM α) : Prop :=
  Lockstep (Twins suspended) m m

variable {suspended : Nat}

theorem Twins.same {left right : DataStreamParser} (twins : Twins suspended left right) :
    right.data = left.data ∧ right.parserPos = left.parserPos ∧
      right.pos = left.pos := by
  obtain ⟨lists, rfl⟩ := twins
  exact ⟨rfl, rfl, rfl⟩

theorem twins_iff_alike {left right : DataStreamParser} :
    Twins suspended left right ↔
      Alike (ScreenBuffer.ListTwins suspended) True left right := by
  constructor
  · rintro ⟨lists, rfl⟩
    exact ⟨_, _, _, rfl, ⟨lists, rfl⟩, fun _ => ⟨rfl, rfl⟩⟩
  · rintro ⟨_, _, _, rfl, ⟨lists, rfl⟩, same⟩
    obtain ⟨rfl, rfl⟩ := same trivial
    exact ⟨lists, rfl⟩

theorem lockstepAt_twins {m n : ParserM α} {left right : DataStreamParser} :
    LockstepAt (Twins suspended) m n left right ↔
      LockstepAt (Alike (ScreenBuffer.ListTwins suspended) True) m n left right :=
  ⟨SameExit.mono twins_iff_alike.mp, SameExit.mono twins_iff_alike.mpr⟩

theorem RunsAlike.blind {m : ParserM α}
    (alike : RunsAlike (ScreenBuffer.ListTwins suspended) True m) : Blind suspended m :=
  fun twins => lockstepAt_twins.mpr (alike (twins_iff_alike.mp twins))

end DataStreamParser

end Pure3270
