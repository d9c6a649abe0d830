import Pure3270.Foundations.Runs
import Pure3270.Foundations.GrowingLists
import Pure3270.Protocol.Tn3270eHeader

/-!
# Print jobs of a printer session

A job collects SCS data and is to end with PRINT-EOJ.  The dispatch knows PRINT-EOJ as
an SCS control code only, in messages whose data type is that of UNBIND.
-/

namespace Pure3270

open Foundations

inductive JobStatus where
  | active
  | completed
  | error
  | paused
  deriving DecidableEq

structure PrinterJob where
  jobId : String
  data : List UInt8
  status : JobStatus
  scsControlCodes : List UInt8
  pageCount : Nat
  lineCount : Nat
  errorMessage : Option String
  deriving DecidableEq

namespace PrinterJob

/-- The default of `max_data_size`, which no caller changes. -/
def maxDataSize : Nat := 1048576

def new (jobId : String) : PrinterJob :=
  { jobId
    data := []
    status := .active
    scsControlCodes := []
    pageCount := 0
    lineCount := 0
    errorMessage := none }

/-- `add_data`: too much data loses its beginning. -/
def addData (bytes : List UInt8) (job : PrinterJob) : PrinterJob :=
  let data := job.data ++ bytes
  { job with
    data := if maxDataSize < data.length then data.drop (data.length - maxDataSize) else data }

def addScsControlCode (code : UInt8) (job : PrinterJob) : PrinterJob :=
  { job with scsControlCodes := job.scsControlCodes ++ [code] }

def incrementLineCount (job : PrinterJob) : PrinterJob :=
  { job with lineCount := job.lineCount + 1 }

def incrementPageCount (job : PrinterJob) : PrinterJob :=
  { job with pageCount := job.pageCount + 1 }

def completeJob (job : PrinterJob) : PrinterJob :=
  if job.status = .active then { job with status := .completed } else job

def setError (message : String) (job : PrinterJob) : PrinterJob :=
  { job with status := .error, errorMessage := some message }

end PrinterJob

/-- What the SCS handlers do to the current job. -/
inductive ScsHandler where
  | printEoj
  | line
  | page
  | other
  deriving DecidableEq

/-- `scs_handlers`. -/
def scsHandler (code : UInt8) : Option ScsHandler :=
  if code = Tn3270eHeader.printEoj then some .printEoj
  else if code ∈ [0x03, 0x04, 0x09, 0x0D] then some .line
  else if code ∈ [0x05, 0x0C] then some .page
  else if code = 0x01 ∨ 0x06 ≤ code ∧ code ≤ 0x1F then some .other
  else none

/-- `TN3270E_SCS_CTL_CODES`, a function bit that serves as a data type. -/
abbrev scsCtlCodes : UInt8 := 0x04

structure PrinterSession where
  isActive : Bool
  currentJob : Option PrinterJob
  completedJobs : List PrinterJob
  maxJobs : Nat
  jobCounter : Nat
  deriving DecidableEq

namespace PrinterSession

def new : PrinterSession :=
  { isActive := false, currentJob := none, completedJobs := [], maxJobs := 50
    jobCounter := 0 }

def activate (session : PrinterSession) : PrinterSession :=
  { session with isActive := true }

def onCurrentJob (f : PrinterJob → PrinterJob) (session : PrinterSession) :
    PrinterSession :=
  { session with currentJob := session.currentJob.map f }

/-- `_finish_current_job`. -/
def finishCurrentJob (session : PrinterSession) : PrinterSession :=
  match session.currentJob with
  | none => session
  | some job =>
      let jobs := session.completedJobs ++ [job]
      { session with
        completedJobs :=
          if session.maxJobs < jobs.length then jobs.drop (jobs.length - session.maxJobs)
          else jobs
        currentJob := none }

/-- `handle_print_eoj` of an active session. -/
def handlePrintEoj (session : PrinterSession) : PrinterSession :=
  (session.onCurrentJob PrinterJob.completeJob).finishCurrentJob

/-- `add_scs_data` under the lock: without a job it starts one. -/
def addScsData (data : List UInt8) (session : PrinterSession) : PrinterSession :=
  match session.currentJob with
  | some job => { session with currentJob := some (job.addData data) }
  | none =>
      let counter := session.jobCounter + 1
      { session with
        jobCounter := counter
        currentJob := some ((PrinterJob.new ("job_" ++ toString counter)).addData data) }

/-- `handle_scs_control_code`: the handler, then a note in the job that is left. -/
def handleScsControlCode (code : UInt8) (session : PrinterSession) : PrinterSession :=
  match scsHandler code with
  | none => session
  | some handler =>
      let handled :=
        match handler with
        | .printEoj => session.handlePrintEoj
        | .line => session.onCurrentJob PrinterJob.incrementLineCount
        | .page => session.onCurrentJob PrinterJob.incrementPageCount
        | .other => session
      handled.onCurrentJob (PrinterJob.addScsControlCode code)

/-- `_handle_tn3270e_response`. -/
def handleResponse (header : Tn3270eHeader) (session : PrinterSession) : PrinterSession :=
  if header.isErrorResponse then
    session.onCurrentJob (PrinterJob.setError
      ("Error response received for sequence " ++ toString header.seqNumber.toNat))
  else session

/-- `process_tn3270e_message`.  The data types after RESPONSE are logged only. -/
def processTn3270eMessage (header : Tn3270eHeader) (data : List UInt8)
    (session : PrinterSession) : Except String PrinterSession :=
  if session.isActive then
    .ok
      (if header.dataType = Tn3270eHeader.scsData then session.addScsData data
      else if header.dataType = scsCtlCodes then
        match data with
        | [] => session
        | code :: _ => session.handleScsControlCode code
      else if header.dataType = Tn3270eHeader.response then session.handleResponse header
      else session)
  else .error "Printer session not active"

/-- The data of the current job, if there is one. -/
def currentData (session : PrinterSession) : Option (List UInt8) :=
  session.currentJob.map PrinterJob.data

variable {session : PrinterSession}

theorem onCurrentJob_data (f : PrinterJob → PrinterJob)
    (keeps : ∀ job, (f job).data = job.data) (session : PrinterSession) : (session.onCurrentJob f).currentData = session.currentData := by
  unfold onCurrentJob currentData
  dsimp only
  rw [Option.map_map]
  exact congrArg (Option.map · session.currentJob) (funext keeps)

theorem addScsData_data (bytes : List UInt8)
    (fits : (session.currentData.getD [] ++ bytes).length ≤ PrinterJob.maxDataSize) :
    (session.addScsData bytes).currentData = some (session.currentData.getD [] ++ bytes) := by
  unfold currentData at fits ⊢
  unfold addScsData
  cases current : session.currentJob with
  | none =>
      rw [current] at fits
      exact congrArg some (if_neg (Nat.not_lt.mpr fits))
  | some job =>
      rw [current] at fits
      exact congrArg some (if_neg (Nat.not_lt.mpr fits))

theorem addScsData_completed (bytes : List UInt8) :
    (session.addScsData bytes).completedJobs = session.completedJobs ∧
      (session.addScsData bytes).isActive = session.isActive := by
  unfold addScsData
  cases session.currentJob with
  | none => exact ⟨rfl, rfl⟩
  | some job => exact ⟨rfl, rfl⟩

theorem handlePrintEoj_current (session : PrinterSession) :
    session.handlePrintEoj.currentJob = none := by
  unfold handlePrintEoj finishCurrentJob onCurrentJob
  cases current : session.currentJob with
  | none => rfl
  | some job => rfl

theorem handlePrintEoj_of_none (idle : session.currentJob = none) :
    session.handlePrintEoj = session := by
  obtain ⟨isActive, currentJob, completedJobs, maxJobs, jobCounter⟩ := session
  cases idle
  rfl

/-- The other control codes count lines and pages. -/
theorem handleScsControlCode_keeps {code : UInt8} (other : code ≠ Tn3270eHeader.printEoj)
    (session : PrinterSession) :
    (session.handleScsControlCode code).currentData = session.currentData ∧
      (session.handleScsControlCode code).completedJobs = session.completedJobs ∧
      (session.handleScsControlCode code).isActive = session.isActive := by
  unfold handleScsControlCode
  cases found : scsHandler code with
  | none => exact ⟨rfl, rfl, rfl⟩
  | some handler =>
      have notes := onCurrentJob_data (PrinterJob.addScsControlCode code) fun _ => rfl
      cases handler with
      | printEoj =>
          unfold scsHandler at found
          rw [if_neg other] at found
          repeat' split at found
          all_goals cases found
      | line =>
          have counted := onCurrentJob_data PrinterJob.incrementLineCount (fun _ => rfl) session
          exact ⟨(notes _).trans counted, rfl, rfl⟩
      | page =>
          have counted := onCurrentJob_data PrinterJob.incrementPageCount (fun _ => rfl) session
          exact ⟨(notes _).trans counted, rfl, rfl⟩
      | other => exact ⟨notes session, rfl, rfl⟩

theorem processTn3270eMessage_keeps {header : Tn3270eHeader} {data : List UInt8}
    (active : session.isActive = true) (notData : header.dataType ≠ Tn3270eHeader.scsData)
    (notEnd : ¬(header.dataType = scsCtlCodes ∧ data.head? = some Tn3270eHeader.printEoj))
    (notError : (decide (header.dataType = Tn3270eHeader.response) &&
      header.isErrorResponse) = false) :
    ∃ after, session.processTn3270eMessage header data = .ok after ∧
      after.currentData = session.currentData ∧
      after.completedJobs = session.completedJobs ∧ after.isActive = session.isActive := by
  unfold processTn3270eMessage
  rw [if_pos active, if_neg notData]
  refine ⟨_, rfl, ?_⟩
  by_cases control : header.dataType = scsCtlCodes
  · rw [if_pos control]
    cases data with
    | nil => exact ⟨rfl, rfl, rfl⟩
    | cons code rest =>
        apply handleScsControlCode_keeps
        intro ends
        exact notEnd ⟨control, congrArg some ends⟩
  · rw [if_neg control]
    by_cases response : header.dataType = Tn3270eHeader.response
    · rw [if_pos response]
      rw [decide_eq_true response, Bool.true_and] at notError
      unfold handleResponse
      rw [notError]
      exact ⟨rfl, rfl, rfl⟩
    · rw [if_neg response]
      exact ⟨rfl, rfl, rfl⟩

end PrinterSession

/-- A TN3270E message: its header and the data after it. -/
structure PrinterMessage where
  header : Tn3270eHeader
  data : List UInt8

namespace PrinterMessage

def isScsData (message : PrinterMessage) : Bool :=
  message.header.dataType = Tn3270eHeader.scsData

def isPrintEoj (message : PrinterMessage) : Bool :=
  message.header.dataType = Tn3270eHeader.printEoj

def isErrorResponse (message : PrinterMessage) : Bool :=
  message.header.dataType = Tn3270eHeader.response && message.header.isErrorResponse

/-- The SCS data of a span of messages, if there was any SCS-DATA message. -/
def scsDataOf (messages : List PrinterMessage) : Option (List UInt8) :=
  if messages.any isScsData then
    some ((messages.filter isScsData).flatMap PrinterMessage.data)
  else none

/-- The jobs that the messages say: the SCS data cut at PRINT-EOJ. -/
def jobsSaid : List PrinterMessage → List (List UInt8) := closedSpans isPrintEoj scsDataOf

/-- The SCS data after the last PRINT-EOJ. -/
def jobLeft : List PrinterMessage → Option (List UInt8) := openSpan isPrintEoj scsDataOf

theorem scsDataOf_concat (messages : List PrinterMessage) (message : PrinterMessage) :
    scsDataOf (messages ++ [message]) =
      if message.isScsData then some ((scsDataOf messages).getD [] ++ message.data)
      else scsDataOf messages := by
  unfold scsDataOf
  rw [List.any_append, List.filter_append, List.flatMap_append]
  cases scs : message.isScsData with
  | false => simp [scs]
  | true =>
      cases before : messages.any isScsData with
      | true => simp [scs]
      | false =>
          have none : messages.filter isScsData = [] := by
            apply List.filter_eq_nil_iff.mpr
            intro other member
            exact List.any_eq_false.mp before other member
          simp [scs, none]

theorem not_printEoj_of_scsData {message : PrinterMessage} (scs : message.isScsData = true) :
    message.isPrintEoj = false := by
  unfold isScsData at scs
  unfold isPrintEoj
  rw [of_decide_eq_true scs]
  rfl

theorem jobLeft_concat (messages : List PrinterMessage) {message : PrinterMessage}
    (plain : message.isPrintEoj = false) :
    jobLeft (messages ++ [message]) =
      if message.isScsData then some ((jobLeft messages).getD [] ++ message.data)
      else jobLeft messages := by
  obtain ⟨last, before, after⟩ := @openSpan_concat _ _ isPrintEoj scsDataOf messages message
    plain
  unfold jobLeft
  rw [before, after]
  exact scsDataOf_concat last message

end PrinterMessage

/-- A printer session, and the messages it has been given. -/
structure PrinterRun where
  session : PrinterSession
  heard : List PrinterMessage

namespace PrinterRun

open PrinterMessage

/-- A session that has just been activated. -/
def start : PrinterRun := { session := PrinterSession.new.activate, heard := [] }

def step (message : PrinterMessage) (run : PrinterRun) : PrinterRun :=
  { session :=
      (run.session.processTn3270eMessage message.header message.data).toOption.getD
        run.session
    heard := run.heard ++ [message] }

/-- The jobs are what the messages say. -/
structure Agrees (run : PrinterRun) : Prop where
  completed : run.session.completedJobs.map (fun job => (job.data, job.status)) =
    (jobsSaid run.heard).map fun data => (data, JobStatus.completed)
  current : run.session.currentData = jobLeft run.heard

/-- No error response, and no more data in the job than a job can hold. -/
structure Fitting (message : PrinterMessage) (run : PrinterRun) : Prop where
  noError : message.isErrorResponse = false
  fits : ∀ data, jobLeft (run.heard ++ [message]) = some data →
    data.length ≤ PrinterJob.maxDataSize

/-- PRINT-EOJ, and the control code of that name, only before any SCS data. -/
def EndsNothing (message : PrinterMessage) (run : PrinterRun) : Prop :=
  message.isPrintEoj = true ∨ message.header.dataType = scsCtlCodes ∧
      message.data.head? = some Tn3270eHeader.printEoj →
    run.heard.any isScsData = false

/-- No job has been ended so far. -/
structure Unended (run : PrinterRun) : Prop where
  active : run.session.isActive = true
  completed : run.session.completedJobs = []
  said : jobsSaid run.heard = []
  current : run.session.currentData = jobLeft run.heard
  begun : (jobLeft run.heard).isSome = run.heard.any isScsData

variable {run : PrinterRun} {message : PrinterMessage}

theorem Unended.agrees (unended : Unended run) : Agrees run where
  completed := by
    rw [unended.completed, unended.said]
    rfl
  current := unended.current

theorem step_of_ok {after : PrinterSession}
    (processed : run.session.processTn3270eMessage message.header message.data = .ok after) :
    step message run = { session := after, heard := run.heard ++ [message] } := by
  unfold step
  rw [processed]
  rfl

theorem Unended.idle (unended : Unended run) (quiet : run.heard.any isScsData = false) :
    run.session.currentJob = none := by
  have left := unended.begun
  rw [quiet, ← unended.current] at left
  unfold PrinterSession.currentData at left
  rw [Option.isSome_map] at left
  exact Option.not_isSome_iff_eq_none.mp (left ▸ Bool.false_ne_true)

theorem Unended.busy (unended : Unended run) (begun : run.heard.any isScsData = true) :
    ∃ data, jobLeft run.heard = some data :=
  Option.isSome_iff_exists.mp (unended.begun.trans begun)

theorem Unended.skip {after : PrinterSession} (unended : Unended run)
    (processed : run.session.processTn3270eMessage message.header message.data = .ok after)
    (data : after.currentData = run.session.currentData)
    (completed : after.completedJobs = run.session.completedJobs)
    (active : after.isActive = run.session.isActive) (scs : message.isScsData = false)
    (plain : message.isPrintEoj = false) : Unended (step message run) := by
  rw [step_of_ok processed]
  have left : jobLeft (run.heard ++ [message]) = jobLeft run.heard := by
    rw [jobLeft_concat run.heard plain, scs]
    rfl
  constructor
  · exact active.trans unended.active
  · exact completed.trans unended.completed
  · exact (closedSpans_concat run.heard plain).trans unended.said
  · exact (data.trans unended.current).trans left.symm
  · dsimp only
    rw [left, unended.begun, List.any_append]
    simp [scs]

theorem step_scsData (unended : Unended run) (fitting : Fitting message run)
    (scs : message.isScsData = true) : Unended (step message run) := by
  have plain := not_printEoj_of_scsData scs
  have left : jobLeft (run.heard ++ [message]) =
      some ((jobLeft run.heard).getD [] ++ message.data) := by
    rw [jobLeft_concat run.heard plain, scs]
    rfl
  have processed : run.session.processTn3270eMessage message.header message.data =
      .ok (run.session.addScsData message.data) := by
    unfold PrinterSession.processTn3270eMessage
    rw [if_pos unended.active, if_pos (of_decide_eq_true scs)]
  have kept := @PrinterSession.addScsData_completed run.session message.data
  rw [step_of_ok processed]
  constructor
  · exact kept.2.trans unended.active
  · exact kept.1.trans unended.completed
  · exact (closedSpans_concat run.heard plain).trans unended.said
  · dsimp only
    rw [left, ← unended.current]
    apply PrinterSession.addScsData_data
    rw [unended.current]
    exact fitting.fits _ left
  · dsimp only
    rw [left, List.any_append]
    simp [scs]

theorem Unended.currentData_none (unended : Unended run)
    (quiet : run.heard.any isScsData = false) : run.session.currentData = none := by
  unfold PrinterSession.currentData
  rw [unended.idle quiet]
  rfl

theorem processed_printEoj (active : run.session.isActive = true)
    (ends : message.isPrintEoj = true) :
    run.session.processTn3270eMessage message.header message.data = .ok run.session := by
  have type : message.header.dataType = Tn3270eHeader.printEoj := of_decide_eq_true ends
  unfold PrinterSession.processTn3270eMessage
  rw [if_pos active, type]
  rfl

theorem step_printEoj (unended : Unended run) (ends : message.isPrintEoj = true) :
    run.heard.any isScsData = false ∧ Unended (step message run) ∨
      run.heard.any isScsData = true ∧ ¬Agrees (step message run) := by
  have scs : message.isScsData = false := by
    apply Bool.eq_false_of_not_eq_true
    intro scsData
    rw [not_printEoj_of_scsData scsData] at ends
    cases ends
  have said := @closedSpans_mark _ _ isPrintEoj scsDataOf run.heard message ends
  have left : jobLeft (run.heard ++ [message]) = none := openSpan_mark run.heard ends rfl
  rw [step_of_ok (processed_printEoj unended.active ends)]
  cases quiet : run.heard.any isScsData with
  | false =>
      left
      have none := unended.currentData_none quiet
      have before := unended.said
      refine ⟨rfl, unended.active, unended.completed, ?_, none.trans left.symm, ?_⟩
      · rw [unended.current] at none
        unfold jobLeft at none
        unfold jobsSaid at before ⊢
        rw [said, before, none]
        rfl
      · dsimp only
        rw [left, List.any_append, quiet]
        simp [scs]
  | true =>
      right
      refine ⟨rfl, ?_⟩
      intro agrees
      obtain ⟨data, begun⟩ := unended.busy quiet
      have completed := agrees.completed
      dsimp only at completed
      unfold jobLeft at begun
      unfold jobsSaid at completed
      rw [said, begun, unended.completed] at completed
      simp at completed

theorem processed_printEojCode (active : run.session.isActive = true)
    (control : message.header.dataType = scsCtlCodes)
    (ends : message.data.head? = some Tn3270eHeader.printEoj) :
    run.session.processTn3270eMessage message.header message.data =
      .ok (run.session.handleScsControlCode Tn3270eHeader.printEoj) := by
  obtain ⟨rest, data⟩ := List.head?_eq_some_iff.mp ends
  unfold PrinterSession.processTn3270eMessage
  rw [if_pos active, control, data]
  rfl

theorem step_printEojCode (unended : Unended run)
    (control : message.header.dataType = scsCtlCodes)
    (ends : message.data.head? = some Tn3270eHeader.printEoj) :
    run.heard.any isScsData = false ∧ Unended (step message run) ∨
      run.heard.any isScsData = true ∧ ¬Agrees (step message run) := by
  have scs : message.isScsData = false := by
    unfold isScsData
    rw [control]
    rfl
  have plain : message.isPrintEoj = false := by
    unfold isPrintEoj
    rw [control]
    rfl
  have processed := processed_printEojCode unended.active control ends
  have handled : run.session.handleScsControlCode Tn3270eHeader.printEoj =
      run.session.handlePrintEoj.onCurrentJob
        (PrinterJob.addScsControlCode Tn3270eHeader.printEoj) := rfl
  have gone : (run.session.handleScsControlCode Tn3270eHeader.printEoj).currentData =
      none := by
    rw [handled, PrinterSession.onCurrentJob_data (PrinterJob.addScsControlCode _) fun _ => rfl]
    unfold PrinterSession.currentData
    rw [PrinterSession.handlePrintEoj_current]
    rfl
  cases quiet : run.heard.any isScsData with
  | false =>
      left
      have none := unended.currentData_none quiet
      rw [PrinterSession.handlePrintEoj_of_none (unended.idle quiet)] at handled
      refine ⟨rfl, unended.skip processed (gone.trans none.symm) ?_ ?_ scs plain⟩
      · rw [handled]
        rfl
      · rw [handled]
        rfl
  | true =>
      right
      refine ⟨rfl, ?_⟩
      intro agrees
      obtain ⟨data, begun⟩ := unended.busy quiet
      have current := agrees.current
      rw [step_of_ok processed] at current
      dsimp only at current
      rw [gone, jobLeft_concat run.heard plain, scs, begun] at current
      cases current

theorem step_cases (unended : Unended run) (fitting : Fitting message run) :
    EndsNothing message run ∧ Unended (step message run) ∨
      ¬EndsNothing message run ∧ ¬Agrees (step message run) := by
  by_cases eoj : message.isPrintEoj = true
  · rcases step_printEoj unended eoj with ⟨quiet, kept⟩ | ⟨begun, wrong⟩
    · exact .inl ⟨fun _ => quiet, kept⟩
    · refine .inr ⟨?_, wrong⟩
      intro endsNothing
      cases begun.symm.trans (endsNothing (.inl eoj))
  · by_cases code : message.header.dataType = scsCtlCodes ∧
        message.data.head? = some Tn3270eHeader.printEoj
    · rcases step_printEojCode unended code.1 code.2 with ⟨quiet, kept⟩ | ⟨begun, wrong⟩
      · exact .inl ⟨fun _ => quiet, kept⟩
      · refine .inr ⟨?_, wrong⟩
        intro endsNothing
        cases begun.symm.trans (endsNothing (.inr code))
    · left
      refine ⟨fun ends => absurd ends (not_or.mpr ⟨eoj, code⟩), ?_⟩
      by_cases scs : message.isScsData = true
      · exact step_scsData unended fitting scs
      · obtain ⟨after, processed, data, completed, active⟩ :=
          PrinterSession.processTn3270eMessage_keeps unended.active
            (mt decide_eq_true scs) code fitting.noError
        exact unended.skip processed data completed active (Bool.eq_false_of_not_eq_true scs)
          (Bool.eq_false_of_not_eq_true eoj)

/-- The jobs of a session are what its messages say throughout exactly when nothing
that names PRINT-EOJ comes after SCS data. -/
theorem agrees_throughout_iff (messages : List PrinterMessage)
    (fitting : Along step Fitting messages start) :
    Always step Agrees messages start ↔ Along step EndsNothing messages start := by
  have begin : Unended start := ⟨rfl, rfl, rfl, rfl, rfl⟩
  refine always_iff_along_on ?_ ?_ begin begin.agrees fitting
  · intro message run unended fits ends
    rcases step_cases unended fits with ⟨_, kept⟩ | ⟨wrong, _⟩
    · exact kept
    · exact absurd ends wrong
  · intro message run unended _ fits
    rcases step_cases unended fits with ⟨ends, kept⟩ | ⟨wrong, disagrees⟩
    · exact iff_of_true kept.agrees ends
    · exact iff_of_false disagrees wrong

/-- One byte of SCS data, and the message that ends its job. -/
def oneJob : List PrinterMessage :=
  [{ header := ⟨Tn3270eHeader.scsData, 0, 0, 1⟩, data := [0x41] },
    { header := ⟨Tn3270eHeader.printEoj, 0, 0, 2⟩, data := [] }]

theorem fitting_of_short {message : PrinterMessage} {run : PrinterRun}
    (noError : message.isErrorResponse = false)
    (short : ((jobLeft (run.heard ++ [message])).getD []).length ≤ PrinterJob.maxDataSize) :
    Fitting message run := by
  refine ⟨noError, ?_⟩
  intro data left
  rw [left] at short
  exact short

theorem oneJob_fitting : Along step Fitting oneJob start := by
  refine ⟨fitting_of_short rfl ?_, fitting_of_short rfl ?_, trivial⟩
  · decide +kernel
  · decide +kernel

theorem oneJob_agrees_iff :
    Always step Agrees oneJob start ↔ Along step EndsNothing oneJob start :=
  agrees_throughout_iff oneJob oneJob_fitting

/-- The job of the byte is never completed. -/
theorem oneJob_disagrees :
    Along step Fitting oneJob start ∧ ¬Always step Agrees oneJob start := by
  refine ⟨oneJob_fitting, ?_⟩
  intro always
  exact absurd always.last.completed (by decide +kernel)

end PrinterRun

end Pure3270
