import Pure3270.Protocol.ParserLoop

/-!
# What a record can do to the screen

A record changes the screen by the elementary steps of its orders, by what its
write command and write control character do, and by going back to the
snapshot taken at its start.  Invariants of whole records are read off from
these steps.
-/

namespace Pure3270

open Foundations Relation

/-- The elementary changes of a record that may go back to the snapshot of
`saved`. -/
inductive RecordStep (saved screen : ScreenBuffer) : ScreenBuffer → Prop where
  | order {next : ScreenBuffer} (step : ScreenStep screen next) :
      RecordStep saved screen next
  | unlock : RecordStep saved screen (screen.setKeyboardLock false)
  | clear : RecordStep saved screen screen.clear
  | fillSpaces : RecordStep saved screen screen.fillSpaces
  | restore : RecordStep saved screen (screen.restore saved.snapshot)

/-- The screen of the second parser is reached from that of the first. -/
def RecordSteps (saved : ScreenBuffer) (before after : DataStreamParser) : Prop :=
  ReflTransGen (RecordStep saved) before.screen after.screen

instance (saved : ScreenBuffer) : IsPreorder DataStreamParser (RecordSteps saved) where
  refl _ := .refl
  trans _ _ _ left right := left.trans right

theorem HandlerSteps.recordSteps {saved : ScreenBuffer}
    {before after : DataStreamParser} (steps : HandlerSteps before after) :
    RecordSteps saved before after := by
  have order : ∀ {first second : ScreenBuffer}, ScreenStep first second →
      ReflTransGen (RecordStep saved) first second :=
    fun step => .single (.order step)
  exact steps.screen order

theorem RecordSteps.run {R : ScreenBuffer → ScreenBuffer → Prop}
    [IsPreorder ScreenBuffer R] {saved : ScreenBuffer}
    (step : ∀ {before after}, RecordStep saved before after → R before after)
    {before after : DataStreamParser} (steps : RecordSteps saved before after) :
    R before.screen after.screen := by
  unfold RecordSteps at steps
  generalize after.screen = reached at steps ⊢
  induction steps with
  | refl => exact refl_of R _
  | tail _ last ih => exact trans_of R ih (step last)

namespace DataStreamParser

variable {saved : ScreenBuffer}

private theorem recordSteps_of_steps {m : ParserM α}
    (steps : Within HandlerSteps m) : Within (RecordSteps saved) m :=
  fun state => HandlerSteps.recordSteps (steps state)

private theorem modifyScreen_recordStep {f : ScreenBuffer → ScreenBuffer}
    (step : ∀ screen, RecordStep saved screen (f screen)) :
    Within (RecordSteps saved) (modifyScreen f) :=
  fun parser => ReflTransGen.single (step parser.screen)

private theorem modify_recordSteps {f : DataStreamParser → DataStreamParser}
    (same : ∀ parser, (f parser).screen = parser.screen) :
    Within (RecordSteps saved) (modify f : ParserM Unit) := by
  intro parser
  apply WithinAt.modify
  unfold RecordSteps
  rw [same]

private theorem setPosition_recordSteps (row col : Nat) :
    Within (RecordSteps saved) (modifyScreen (·.setPosition row col)) :=
  modifyScreen_recordStep fun _ => .order (.setPosition row col)

private theorem moveToEnd_recordSteps : Within (RecordSteps saved) moveToEnd :=
  modify_recordSteps fun _ => rfl

private theorem skipOneByte_recordSteps : Within (RecordSteps saved) skipOneByte :=
  modify_recordSteps fun _ => rfl

theorem restoreScreen_recordSteps {snapshot : Option ScreenSnapshot}
    (taken : snapshot = none ∨ snapshot = some saved.snapshot)
    (errMsg : String) :
    Within (RecordSteps saved) (restoreScreen snapshot errMsg) := by
  rcases taken with rfl | rfl
  · exact fun _ => WithinAt.pure ()
  · intro parser
    unfold restoreScreen
    apply WithinAt.ite
    · exact fun _ => modifyScreen_recordStep (fun _ => .restore) parser
    · exact fun _ => WithinAt.pure ()

theorem handleOrderError_recordSteps {snapshot : Option ScreenSnapshot}
    (taken : snapshot = none ∨ snapshot = some saved.snapshot) (fault : Fault) :
    Within (RecordSteps saved) (handleOrderError snapshot fault) := by
  cases fault with
  | other text => exact fun _ => WithinAt.throw _
  | parseError errMsg =>
      have rollsBack : ∀ m : ParserM (Option LoopExit), Within (RecordSteps saved) m →
          Within (RecordSteps saved) (do
            restoreScreen snapshot errMsg
            moveToEnd
            m) :=
        fun m rest => Within.bind (restoreScreen_recordSteps taken errMsg)
          fun _ => Within.bind moveToEnd_recordSteps fun _ => rest
      intro parser
      unfold handleOrderError
      apply WithinAt.ite
      · exact fun _ => rollsBack _ (fun _ => WithinAt.throw _) parser
      · intro _
        apply WithinAt.ite
        · exact fun _ => rollsBack _ (fun _ => WithinAt.pure _) parser
        · exact fun _ => Within.bind skipOneByte_recordSteps
            (fun _ _ => WithinAt.pure _) parser

theorem processByte_steps : Within HandlerSteps processByte :=
  Within.bind (within_ordinary parserReadByte_steps) dispatch_steps

theorem parseLoop_recordSteps {snapshot : Option ScreenSnapshot}
    (taken : snapshot = none ∨ snapshot = some saved.snapshot) :
    Within (RecordSteps saved) (parseLoop snapshot) := by
  have round : Within (RecordSteps saved) (parseRound snapshot) := by
    intro parser
    apply WithinAt.getBind
    apply WithinAt.ite
    · exact fun _ => WithinAt.pure _
    · intro _
      exact Within.tryCatch
        (Within.bind (recordSteps_of_steps processByte_steps)
          fun _ _ => WithinAt.pure _)
        (handleOrderError_recordSteps taken) parser
  intro parser
  apply WithinAt.getBind
  refine Within.bind (Within.iterate round _) (fun result => ?_) parser
  cases result with
  | none => exact fun _ => WithinAt.pure _
  | some left =>
      cases left with
      | finished =>
          exact Within.bind (modify_recordSteps fun _ => rfl)
            fun _ _ => WithinAt.pure _
      | rolledBack => exact fun _ => WithinAt.pure _

theorem handleWccWithByte_recordSteps (wcc : UInt8) :
    Within (RecordSteps saved) (handleWccWithByte wcc) := by
  refine Within.bind (modify_recordSteps fun _ => rfl) fun _ parser => ?_
  apply WithinAt.ite
  · exact fun _ => Within.bind (modifyScreen_recordStep fun _ => .unlock)
      (fun _ => setPosition_recordSteps 0 0) parser
  · exact fun _ => setPosition_recordSteps 0 0 parser

theorem handleWrite_recordSteps : Within (RecordSteps saved) (handleWrite true) := by
  refine Within.bind (modifyScreen_recordStep fun _ => .clear) fun _ => ?_
  refine Within.bind (setPosition_recordSteps 0 0) fun _ parser => ?_
  apply WithinAt.getBind
  apply WithinAt.ite
  · exact fun _ => modifyScreen_recordStep (fun _ => .fillSpaces) parser
  · exact fun _ => WithinAt.pure ()

theorem handleParseError_recordSteps {snapshot : Option ScreenSnapshot}
    (taken : snapshot = none ∨ snapshot = some saved.snapshot) (fault : Fault) :
    Within (RecordSteps saved) (handleParseError snapshot fault) := by
  cases fault with
  | other text => exact fun _ => WithinAt.throw _
  | parseError errorMsg =>
      have skips : Within (RecordSteps saved) handleParseError.skipOneByteOuter := by
        refine modify_recordSteps fun parser => ?_
        split
        · rfl
        · rfl
      refine Within.bind (restoreScreen_recordSteps taken errorMsg)
        fun _ parser => ?_
      apply WithinAt.ite
      · exact fun _ => Within.bind moveToEnd_recordSteps
          (fun _ _ => WithinAt.throw _) parser
      · exact fun _ => Within.bind skips (fun _ _ => WithinAt.pure _) parser

/-- A record is a sequence of its elementary changes, however it exits. -/
theorem parseRecord_recordSteps {parser : DataStreamParser}
    (snapshotEq : parser.screen.snapshot = saved.snapshot) :
    WithinAt (RecordSteps saved) parseRecord parser := by
  have readByte : Within (RecordSteps saved) parserReadByte :=
    recordSteps_of_steps (within_ordinary parserReadByte_steps)
  have mirror : Within (RecordSteps saved) mirrorPos :=
    recordSteps_of_steps (within_ordinary mirrorPos_steps)
  apply WithinAt.getBind
  apply WithinAt.ite
  · exact fun _ => WithinAt.pure _
  · intro _
    refine Within.bind readByte (fun firstByte state => ?_) parser
    apply WithinAt.ite
    · intro _
      rw [snapshotEq]
      refine Within.tryCatch ?_ (handleParseError_recordSteps (.inr rfl)) state
      refine Within.bind handleWrite_recordSteps fun _ after => ?_
      apply WithinAt.getBind
      apply WithinAt.ite
      · exact fun _ => Within.bind readByte
          (fun wcc => Within.bind (handleWccWithByte_recordSteps wcc)
            fun _ => Within.bind mirror
              fun _ => parseLoop_recordSteps (.inr rfl)) after
      · exact fun _ => WithinAt.ite (fun _ => WithinAt.pure _)
          (fun _ => WithinAt.throw _)
    · exact fun _ => Within.tryCatch
        (Within.bind (handleWccWithByte_recordSteps firstByte)
          fun _ => Within.bind mirror
            fun _ => parseLoop_recordSteps (.inl rfl))
        (handleParseError_recordSteps (.inl rfl)) state

end DataStreamParser

end Pure3270
