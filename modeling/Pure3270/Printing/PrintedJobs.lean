import Mathlib.Data.List.Induction
import Pure3270.Foundations.Succession
import Pure3270.Printing.PrinterSession

/-!
# The jobs of a printer session

Whoever has started a job, or has asked for the current or the completed jobs, holds the
job itself and can go on changing it, also when the session has finished it.  The session
as messages see it, in which a job is a value, is a view of this one.
-/

namespace Pure3270

open Foundations

namespace PrinterJob

def pauseJob (job : PrinterJob) : PrinterJob :=
  if job.status = .active then { job with status := .paused } else job

def resumeJob (job : PrinterJob) : PrinterJob :=
  if job.status = .paused then { job with status := .active } else job

end PrinterJob

inductive JobCall where
  | addData (data : List UInt8)
  | addScsControlCode (code : UInt8)
  | incrementLineCount
  | incrementPageCount
  | completeJob
  | setError (message : String)
  | pauseJob
  | resumeJob
  deriving DecidableEq

namespace JobCall

def apply : JobCall → PrinterJob → PrinterJob
  | .addData data => PrinterJob.addData data
  | .addScsControlCode code => PrinterJob.addScsControlCode code
  | .incrementLineCount => PrinterJob.incrementLineCount
  | .incrementPageCount => PrinterJob.incrementPageCount
  | .completeJob => PrinterJob.completeJob
  | .setError message => PrinterJob.setError message
  | .pauseJob => PrinterJob.pauseJob
  | .resumeJob => PrinterJob.resumeJob

/-- The data that the call adds. -/
def data : JobCall → List UInt8
  | .addData data => data
  | _ => []

def scsControlCode : JobCall → Option UInt8
  | .addScsControlCode code => some code
  | _ => none

def errorMessage : JobCall → Option String
  | .setError message => some message
  | _ => none

/-- The call ends a job that is active. -/
def closes (call : JobCall) : Prop := call = .completeJob ∨ ∃ message, call = .setError message

/-- The job of that name that has had these calls. -/
def made (jobId : String) (calls : List JobCall) : PrinterJob :=
  calls.foldl (fun job call => call.apply job) (PrinterJob.new jobId)

theorem made_append (jobId : String) (calls : List JobCall) (call : JobCall) :
    made jobId (calls ++ [call]) = call.apply (made jobId calls) := by
  unfold made
  rw [List.foldl_append]
  rfl

/-- What a job tells about the calls it has had. -/
structure Tells (calls : List JobCall) (job : PrinterJob) : Prop where
  data : job.data = keepLast PrinterJob.maxDataSize (calls.flatMap JobCall.data)
  codes : job.scsControlCodes = calls.filterMap scsControlCode
  lines : job.lineCount = calls.count .incrementLineCount
  pages : job.pageCount = calls.count .incrementPageCount
  error : job.errorMessage = (calls.filterMap JobCall.errorMessage).getLast?

/-- A call that neither adds nor counts anything. -/
theorem Tells.skip {calls : List JobCall} {job after : PrinterJob} (tells : Tells calls job)
    {call : JobCall} (noData : call.data = []) (noCode : call.scsControlCode = none)
    (noLine : call ≠ .incrementLineCount) (noPage : call ≠ .incrementPageCount)
    (noError : call.errorMessage = none)
    (same : ∃ status, after = { job with status }) : Tells (calls ++ [call]) after := by
  obtain ⟨status, rfl⟩ := same
  constructor
  · simp [noData, tells.data]
  · simp [noCode, tells.codes]
  · simp [tells.lines, noLine]
  · simp [tells.pages, noPage]
  · simp [noError, tells.error]

theorem completeJob_status (job : PrinterJob) :
    ∃ status, job.completeJob = { job with status } := by
  unfold PrinterJob.completeJob
  split
  · exact ⟨.completed, rfl⟩
  · exact ⟨job.status, rfl⟩

theorem pauseJob_status (job : PrinterJob) : ∃ status, job.pauseJob = { job with status } := by
  unfold PrinterJob.pauseJob
  split
  · exact ⟨.paused, rfl⟩
  · exact ⟨job.status, rfl⟩

theorem resumeJob_status (job : PrinterJob) :
    ∃ status, job.resumeJob = { job with status } := by
  unfold PrinterJob.resumeJob
  split
  · exact ⟨.active, rfl⟩
  · exact ⟨job.status, rfl⟩

theorem addData_eq (bytes : List UInt8) (job : PrinterJob) :
    (job.addData bytes).data = keepLast PrinterJob.maxDataSize (job.data ++ bytes) := by
  unfold PrinterJob.addData
  dsimp only
  split
  · rfl
  · next fits => exact (keepLast_of_le (Nat.not_lt.mp fits)).symm

theorem tells_made (jobId : String) (calls : List JobCall) : Tells calls (made jobId calls) := by
  induction calls using List.reverseRecOn with
  | nil => exact ⟨rfl, rfl, rfl, rfl, rfl⟩
  | append_singleton calls call tells =>
      obtain ⟨data, codes, lines, pages, error⟩ := tells
      rw [made_append]
      cases call with
      | addData bytes =>
          constructor
          · rw [JobCall.apply, addData_eq, data, keepLast_append]
            simp [JobCall.data]
          all_goals
            simp [JobCall.apply, PrinterJob.addData, scsControlCode, JobCall.errorMessage,
              List.filterMap_cons, codes, lines, pages, error]
      | addScsControlCode code =>
          constructor <;>
            simp [JobCall.apply, PrinterJob.addScsControlCode, JobCall.data, scsControlCode,
              JobCall.errorMessage, List.filterMap_cons, data, codes, lines, pages, error]
      | incrementLineCount =>
          constructor <;>
            simp [JobCall.apply, PrinterJob.incrementLineCount, JobCall.data, scsControlCode,
              JobCall.errorMessage, List.filterMap_cons, data, codes, lines, pages, error]
      | incrementPageCount =>
          constructor <;>
            simp [JobCall.apply, PrinterJob.incrementPageCount, JobCall.data, scsControlCode,
              JobCall.errorMessage, List.filterMap_cons, data, codes, lines, pages, error]
      | setError message =>
          constructor <;>
            simp [JobCall.apply, PrinterJob.setError, JobCall.data, scsControlCode,
              JobCall.errorMessage, List.filterMap_cons, data, codes, lines, pages]
      | completeJob =>
          exact Tells.skip ⟨data, codes, lines, pages, error⟩ rfl rfl nofun nofun rfl
            (completeJob_status _)
      | pauseJob =>
          exact Tells.skip ⟨data, codes, lines, pages, error⟩ rfl rfl nofun nofun rfl
            (pauseJob_status _)
      | resumeJob =>
          exact Tells.skip ⟨data, codes, lines, pages, error⟩ rfl rfl nofun nofun rfl
            (resumeJob_status _)

/-- No call pauses the job. -/
def Unpaused (calls : List JobCall) : Prop := .pauseJob ∉ calls

/-- A job that was never paused is active until a call ends it. -/
theorem status_made {jobId : String} {calls : List JobCall} (unpaused : Unpaused calls) :
    ((made jobId calls).status = .active ∧ ∀ call ∈ calls, ¬ call.closes) ∨
      ((made jobId calls).status = .completed ∨ (made jobId calls).status = .error) ∧
        ∃ call ∈ calls, call.closes := by
  induction calls using List.reverseRecOn with
  | nil => exact .inl ⟨rfl, nofun⟩
  | append_singleton calls call ih =>
      have before := ih fun member => unpaused (List.mem_append_left _ member)
      have last : call ∈ calls ++ [call] := by simp
      -- a call that leaves the status and ends nothing
      have keeps : (call.apply (made jobId calls)).status = (made jobId calls).status →
          ¬ call.closes →
          ((call.apply (made jobId calls)).status = .active ∧
            ∀ other ∈ calls ++ [call], ¬ other.closes) ∨
          ((call.apply (made jobId calls)).status = .completed ∨
            (call.apply (made jobId calls)).status = .error) ∧
            ∃ other ∈ calls ++ [call], other.closes := by
        intro same open_
        rw [same]
        rcases before with ⟨active, none⟩ | ⟨ended, closing, member, does⟩
        · refine .inl ⟨active, fun other member => ?_⟩
          rcases List.mem_append.mp member with earlier | now
          · exact none other earlier
          · exact List.mem_singleton.mp now ▸ open_
        · exact .inr ⟨ended, closing, List.mem_append_left _ member, does⟩
      rw [made_append]
      cases call with
      | completeJob =>
          refine .inr ⟨?_, .completeJob, last, .inl rfl⟩
          rcases before with ⟨active, _⟩ | ⟨completed | error, _⟩
          · exact .inl (by simp [JobCall.apply, PrinterJob.completeJob, active])
          · exact .inl (by simp [JobCall.apply, PrinterJob.completeJob, completed])
          · exact .inr (by simp [JobCall.apply, PrinterJob.completeJob, error])
      | setError message => exact .inr ⟨.inr rfl, .setError message, last, .inr ⟨message, rfl⟩⟩
      | pauseJob => exact absurd last unpaused
      | resumeJob =>
          apply keeps
          · rcases before with ⟨active, _⟩ | ⟨completed | error, _⟩
            · simp [JobCall.apply, PrinterJob.resumeJob, active]
            · simp [JobCall.apply, PrinterJob.resumeJob, completed]
            · simp [JobCall.apply, PrinterJob.resumeJob, error]
          · simp [closes]
      | addData data => exact keeps rfl (by simp [closes])
      | addScsControlCode code => exact keeps rfl (by simp [closes])
      | incrementLineCount => exact keeps rfl (by simp [closes])
      | incrementPageCount => exact keeps rfl (by simp [closes])

end JobCall

/-- A printer session with its jobs as objects. -/
structure PrintedJobs where
  isActive : Bool := false
  jobs : Succession PrinterJob JobCall := {}
  jobCounter : Nat := 0

/-- The calls of a session. -/
inductive PrinterSessionCall where
  | activate
  | deactivate
  | startNewJob (jobId : String)
  | addScsData (data : List UInt8)
  | handlePrintEoj
  | handleScsControlCode (code : UInt8)
  | processTn3270eMessage (header : Tn3270eHeader) (data : List UInt8)
  | prune
  | clearCompletedJobs
  | close

namespace PrintedJobs

open Succession

/-- `max_jobs`. -/
def maxJobs : Nat := 50

def callCurrent (made : JobCall) (session : PrintedJobs) : PrintedJobs :=
  { session with jobs := session.jobs.callCurrent JobCall.apply made }

/-- The last call of the current job, and `_finish_current_job`. -/
def finishWith (made : JobCall) (session : PrintedJobs) : PrintedJobs :=
  { session with jobs := session.jobs.finishWith JobCall.apply maxJobs made }

/-- A job for an empty name gets the next number. -/
def beginJob (jobId : String) (session : PrintedJobs) : PrintedJobs :=
  if jobId = "" then
    { session with
      jobCounter := session.jobCounter + 1
      jobs := session.jobs.begin (PrinterJob.new ("job_" ++ toString (session.jobCounter + 1))) }
  else { session with jobs := session.jobs.begin (PrinterJob.new jobId) }

def activate (session : PrintedJobs) : PrintedJobs := { session with isActive := true }

def deactivate (session : PrintedJobs) : PrintedJobs :=
  { session.finishWith (.setError "Session deactivated") with isActive := false }

def startNewJob (jobId : String) (session : PrintedJobs) : PrintedJobs :=
  (session.finishWith (.setError "New job started before completion")).beginJob jobId

def addScsData (data : List UInt8) (session : PrintedJobs) : PrintedJobs :=
  (if session.jobs.current = none then session.beginJob "" else session).callCurrent
    (.addData data)

def handlePrintEoj (session : PrintedJobs) : PrintedJobs := session.finishWith .completeJob

def handleScsControlCode (code : UInt8) (session : PrintedJobs) : PrintedJobs :=
  match scsHandler code with
  | none => session
  | some handler =>
      (match handler with
        | .printEoj => session.handlePrintEoj
        | .line => session.callCurrent .incrementLineCount
        | .page => session.callCurrent .incrementPageCount
        | .other => session).callCurrent (.addScsControlCode code)

def handleResponse (header : Tn3270eHeader) (session : PrintedJobs) : PrintedJobs :=
  if header.isErrorResponse then
    session.callCurrent (.setError
      ("Error response received for sequence " ++ toString header.seqNumber.toNat))
  else session

def processMessage (header : Tn3270eHeader) (data : List UInt8) (session : PrintedJobs) :
    PrintedJobs :=
  if header.dataType = Tn3270eHeader.scsData then session.addScsData data
  else if header.dataType = scsCtlCodes then
    match data with
    | [] => session
    | code :: _ => session.handleScsControlCode code
  else if header.dataType = Tn3270eHeader.response then session.handleResponse header
  else session

def prune (session : PrintedJobs) : PrintedJobs :=
  { session with jobs := session.jobs.prune maxJobs }

def clearCompletedJobs (session : PrintedJobs) : PrintedJobs :=
  { session with jobs := session.jobs.clear }

def whenActive (next : PrintedJobs → PrintedJobs) (session : PrintedJobs) :
    Except String PrintedJobs :=
  if session.isActive then .ok (next session) else .error "Printer session not active"

def call : PrinterSessionCall → PrintedJobs → Except String PrintedJobs
  | .activate, session => .ok session.activate
  | .deactivate, session => .ok session.deactivate
  | .startNewJob jobId, session => session.whenActive (startNewJob jobId)
  | .addScsData data, session => session.whenActive (addScsData data)
  | .handlePrintEoj, session => session.whenActive handlePrintEoj
  | .handleScsControlCode code, session => session.whenActive (handleScsControlCode code)
  | .processTn3270eMessage header data, session =>
      session.whenActive (processMessage header data)
  | .prune, session => .ok session.prune
  | .clearCompletedJobs, session => .ok session.clearCompletedJobs
  | .close, session => .ok session.deactivate.clearCompletedJobs

/-- What can happen: a call of the session, or a call of a job by whoever holds it. -/
inductive Event where
  | session (call : PrinterSessionCall)
  | job (number : Nat) (call : JobCall)

/-- A call that raises changes nothing. -/
def step (event : Event) (session : PrintedJobs) : PrintedJobs :=
  match event with
  | .session made => (session.call made).toOption.getD session
  | .job number made => { session with jobs := session.jobs.call JobCall.apply number made }

variable {session : PrintedJobs}

/-- Every job is in one place, is what its calls have made of it, and was ended when it was
finished; a session that is not active has no current job. -/
structure Kept (session : PrintedJobs) : Prop where
  ordered : session.jobs.Ordered
  recorded : Recorded JobCall.apply session.jobs
  closed : Closed JobCall.closes session.jobs
  bounded : session.jobs.finished.length ≤ maxJobs
  idle : session.isActive = false → session.jobs.current = none
  begun : ∀ job ∈ session.jobs.begun, ∃ jobId, job = PrinterJob.new jobId

namespace Kept

theorem callCurrent (kept : Kept session) (made : JobCall) : Kept (session.callCurrent made) where
  ordered := kept.ordered.callCurrent made
  recorded := kept.recorded.callCurrent made
  closed := kept.closed.callCurrent made
  bounded := by
    change (session.jobs.callCurrent JobCall.apply made).finished.length ≤ maxJobs
    rw [callCurrent_finished]
    exact kept.bounded
  idle inactive := (callCurrent_current made session.jobs).trans (kept.idle inactive)
  begun := by
    change ∀ job ∈ (session.jobs.callCurrent JobCall.apply made).begun, _
    rw [callCurrent_begun]
    exact kept.begun

theorem finishWith (kept : Kept session) {made : JobCall} (closes : made.closes) :
    Kept (session.finishWith made) where
  ordered := kept.ordered.finishWith maxJobs made
  recorded := kept.recorded.finishWith maxJobs made
  closed := kept.closed.finishWith kept.ordered maxJobs closes
  bounded := by
    apply finish_bounded
    rw [callCurrent_finished]
    exact kept.bounded
  idle _ := finishWith_current maxJobs made session.jobs
  begun := by
    change ∀ job ∈ (session.jobs.finishWith JobCall.apply maxJobs made).begun, _
    rw [finishWith_begun]
    exact kept.begun

theorem beginJob (kept : Kept session) (active : session.isActive = true)
    (free : session.jobs.current = none) (jobId : String) : Kept (session.beginJob jobId) := by
  have begun : ∀ jobId, Kept
      { session with jobs := session.jobs.begin (PrinterJob.new jobId) } := by
    intro jobId
    exact
      { ordered := kept.ordered.begin free _
        recorded := kept.recorded.begin _
        closed := kept.closed.begin free _
        bounded := kept.bounded
        idle := fun inactive => absurd (active.symm.trans inactive) nofun
        begun := fun job member => by
          rcases List.mem_append.mp member with before | last
          · exact kept.begun job before
          · exact ⟨jobId, List.mem_singleton.mp last⟩ }
  unfold PrintedJobs.beginJob
  split
  · exact { begun _ with }
  · exact begun jobId

end Kept

/-- What a call of a session is made of. -/
inductive Does (before : PrintedJobs) : PrintedJobs → Prop where
  | nothing : Does before before
  | calls {after} (does : Does before after) (made : JobCall) :
      Does before (after.callCurrent made)
  | finishes {after made} (does : Does before after) (closes : made.closes) :
      Does before (after.finishWith made)
  | begins {after} (does : Does before after) (active : after.isActive = true)
      (free : after.jobs.current = none) (jobId : String) : Does before (after.beginJob jobId)
  | activates {after} (does : Does before after) : Does before after.activate
  | rests {after} (does : Does before after) (free : after.jobs.current = none) :
      Does before { after with isActive := false }
  | prunes {after} (does : Does before after) : Does before after.prune
  | clears {after} (does : Does before after) : Does before after.clearCompletedJobs

theorem closes_completeJob : JobCall.completeJob.closes := .inl rfl

theorem closes_setError (message : String) : (JobCall.setError message).closes :=
  .inr ⟨message, rfl⟩

theorem startNewJob_does (active : session.isActive = true) (jobId : String) :
    Does session (session.startNewJob jobId) := by
  have finished : Does session
      (session.finishWith (.setError "New job started before completion")) :=
    .finishes .nothing (closes_setError _)
  exact finished.begins active (finishWith_current _ _ _) jobId

theorem addScsData_does (active : session.isActive = true) (data : List UInt8) :
    Does session (session.addScsData data) := by
  unfold addScsData
  split
  · next free => exact (Does.nothing.begins active free "").calls _
  · exact Does.nothing.calls _

theorem handlePrintEoj_does (session : PrintedJobs) : Does session session.handlePrintEoj :=
  .finishes .nothing closes_completeJob

theorem handleScsControlCode_does (code : UInt8) (session : PrintedJobs) :
    Does session (session.handleScsControlCode code) := by
  unfold handleScsControlCode
  cases scsHandler code with
  | none => exact .nothing
  | some handler =>
      apply Does.calls
      cases handler with
      | printEoj => exact session.handlePrintEoj_does
      | line => exact Does.nothing.calls _
      | page => exact Does.nothing.calls _
      | other => exact .nothing

theorem processMessage_does (active : session.isActive = true) (header : Tn3270eHeader)
    (data : List UInt8) : Does session (session.processMessage header data) := by
  unfold processMessage
  split
  · exact addScsData_does active data
  · split
    · cases data with
      | nil => exact .nothing
      | cons code rest => exact handleScsControlCode_does code session
    · split
      · unfold handleResponse
        split
        · exact Does.nothing.calls _
        · exact .nothing
      · exact .nothing

theorem deactivate_does (session : PrintedJobs) : Does session session.deactivate := by
  have finished : Does session (session.finishWith (.setError "Session deactivated")) :=
    .finishes .nothing (closes_setError _)
  exact finished.rests (finishWith_current _ _ _)

theorem whenActive_does {next : PrintedJobs → PrintedJobs} {after : PrintedJobs}
    (called : session.whenActive next = .ok after)
    (does : session.isActive = true → Does session (next session)) : Does session after := by
  unfold whenActive at called
  split at called
  · next active =>
      cases called
      exact does active
  · cases called

theorem call_does {made : PrinterSessionCall} {after : PrintedJobs}
    (called : session.call made = .ok after) : Does session after := by
  cases made with
  | activate =>
      cases called
      exact .activates .nothing
  | deactivate =>
      cases called
      exact session.deactivate_does
  | startNewJob jobId =>
      exact whenActive_does called fun active => startNewJob_does active jobId
  | addScsData data => exact whenActive_does called fun active => addScsData_does active data
  | handlePrintEoj => exact whenActive_does called fun _ => session.handlePrintEoj_does
  | handleScsControlCode code =>
      exact whenActive_does called fun _ => handleScsControlCode_does code session
  | processTn3270eMessage header data =>
      exact whenActive_does called fun active => processMessage_does active header data
  | prune =>
      cases called
      exact .prunes .nothing
  | clearCompletedJobs =>
      cases called
      exact .clears .nothing
  | close =>
      cases called
      exact .clears session.deactivate_does

theorem Kept.does {after : PrintedJobs} (kept : Kept session) (does : Does session after) :
    Kept after := by
  induction does with
  | nothing => exact kept
  | calls _ made kept => exact kept.callCurrent made
  | finishes _ closes kept => exact kept.finishWith closes
  | begins _ active free jobId kept => exact kept.beginJob active free jobId
  | activates _ kept => exact { kept with idle := fun inactive => absurd inactive nofun }
  | rests _ free kept => exact { kept with idle := fun _ => free }
  | prunes _ kept =>
      exact
        { kept with
          ordered := kept.ordered.prune maxJobs
          recorded := kept.recorded.prune maxJobs
          bounded :=
            Nat.le_trans (Nat.le_of_eq (keepLast_length maxJobs _)) (Nat.min_le_left _ _) }
  | clears _ kept =>
      exact
        { kept with
          ordered := kept.ordered.clear
          recorded := kept.recorded.clear
          bounded := Nat.zero_le _ }

/-- A session calls no job but the current one. -/
theorem Does.leaves {after : PrintedJobs} (does : Does session after) {number : Nat}
    (past : Past number session.jobs) : Leaves number session.jobs after.jobs := by
  induction does with
  | nothing => exact .refl past
  | calls _ made leaves => exact leaves.trans fun past => .callCurrent past made
  | finishes _ _ leaves => exact leaves.trans fun past => .finishWith past maxJobs _
  | @begins after _ _ _ jobId leaves =>
      apply leaves.trans
      intro past
      unfold PrintedJobs.beginJob
      split
      · exact .begin past _
      · exact .begin past _
  | activates _ leaves => exact leaves
  | rests _ _ leaves => exact leaves
  | prunes _ leaves => exact ⟨leaves.same, leaves.past⟩
  | clears _ leaves => exact ⟨leaves.same, leaves.past⟩

theorem step_session_cases (made : PrinterSessionCall) (session : PrintedJobs) :
    Does session (step (.session made) session) := by
  unfold step
  dsimp only
  cases called : session.call made with
  | error message => exact .nothing
  | ok after => exact call_does called

theorem Kept.step (kept : Kept session) (event : Event) : Kept (step event session) := by
  cases event with
  | session made => exact kept.does (step_session_cases made session)
  | job number made =>
      exact
        { ordered := kept.ordered.call number made
          recorded := kept.recorded.call number made
          closed := kept.closed.call number made
          bounded := (congrArg List.length (call_finished number made session.jobs)).trans_le
            kept.bounded
          idle := fun inactive => (call_current number made _).trans (kept.idle inactive)
          begun := (call_begun number made session.jobs).symm ▸ kept.begun }

theorem leaves_run {number : Nat} {events : List Event}
    (uncalled : ∀ call, .job number call ∉ events) (past : Past number session.jobs) :
    Leaves number session.jobs (Foundations.run step events session).jobs := by
  induction events generalizing session with
  | nil => exact .refl past
  | cons event events ih =>
      have later : ∀ call, .job number call ∉ events := fun call member =>
        uncalled call (List.mem_cons_of_mem event member)
      have first : Leaves number session.jobs (step event session).jobs := by
        cases event with
        | session made => exact (step_session_cases made session).leaves past
        | job called made =>
            apply Leaves.call past
            rintro rfl
            exact uncalled made List.mem_cons_self
      exact first.trans fun past => ih later past

def toSession (session : PrintedJobs) : PrinterSession :=
  { isActive := session.isActive
    currentJob := session.jobs.currentObject
    completedJobs := session.jobs.finishedObjects
    maxJobs := maxJobs
    jobCounter := session.jobCounter }

theorem toSession_callCurrent (ordered : session.jobs.Ordered) (made : JobCall) :
    (session.callCurrent made).toSession = session.toSession.onCurrentJob made.apply := by
  unfold toSession callCurrent PrinterSession.onCurrentJob
  dsimp only
  rw [currentObject_callCurrent, finishedObjects_callCurrent ordered]

theorem toSession_finish (ordered : session.jobs.Ordered) :
    toSession { session with jobs := session.jobs.finish maxJobs } =
      session.toSession.finishCurrentJob := by
  unfold toSession PrinterSession.finishCurrentJob
  dsimp only
  cases current : session.jobs.currentObject with
  | none =>
      have free : session.jobs.current = none := ordered.current_none current
      have stays : session.jobs.finish maxJobs = session.jobs := by
        unfold Succession.finish
        rw [free]
      rw [stays, current]
  | some job =>
      rw [finishedObjects_finish ordered maxJobs current]
      have free : (session.jobs.finish maxJobs).currentObject = none := by
        unfold currentObject
        rw [finish_current]
        rfl
      rw [free]
      dsimp only
      split
      · rfl
      · next fits => rw [keepLast_of_le (Nat.not_lt.mp fits)]

theorem toSession_handlePrintEoj (ordered : session.jobs.Ordered) :
    session.handlePrintEoj.toSession = session.toSession.handlePrintEoj := by
  have called : (session.callCurrent .completeJob).jobs.Ordered := ordered.callCurrent _
  exact (toSession_finish called).trans
    (congrArg PrinterSession.finishCurrentJob (toSession_callCurrent ordered .completeJob))

theorem toSession_addScsData (ordered : session.jobs.Ordered) (data : List UInt8) :
    (session.addScsData data).toSession = session.toSession.addScsData data := by
  cases found : session.jobs.currentObject with
  | none =>
      have free := ordered.current_none found
      have begun : (session.beginJob "").jobs.Ordered := ordered.begin free _
      have next : (session.addScsData data) = (session.beginJob "").callCurrent (.addData data) :=
        by
          unfold addScsData
          rw [if_pos free]
      rw [next, toSession_callCurrent begun]
      unfold PrinterSession.addScsData PrinterSession.onCurrentJob toSession PrintedJobs.beginJob
      rw [if_pos rfl]
      dsimp only
      rw [found, currentObject_begin, finishedObjects_begin ordered]
      rfl
  | some job =>
      have busy : session.jobs.current ≠ none := by
        intro free
        unfold currentObject at found
        rw [free] at found
        cases found
      have next : (session.addScsData data) = session.callCurrent (.addData data) := by
        unfold addScsData
        rw [if_neg busy]
      rw [next, toSession_callCurrent ordered]
      unfold PrinterSession.addScsData PrinterSession.onCurrentJob toSession
      dsimp only
      rw [found]
      rfl

theorem toSession_handleScsControlCode (ordered : session.jobs.Ordered) (code : UInt8) :
    (session.handleScsControlCode code).toSession =
      session.toSession.handleScsControlCode code := by
  unfold handleScsControlCode PrinterSession.handleScsControlCode
  cases scsHandler code with
  | none => rfl
  | some handler =>
      have noted : ∀ {handled : PrintedJobs} {value : PrinterSession},
          handled.jobs.Ordered → handled.toSession = value →
          (handled.callCurrent (.addScsControlCode code)).toSession =
            value.onCurrentJob (PrinterJob.addScsControlCode code) := by
        intro handled value ordered same
        rw [toSession_callCurrent ordered, same]
        rfl
      cases handler with
      | printEoj => exact noted (ordered.finishWith _ _) (toSession_handlePrintEoj ordered)
      | line => exact noted (ordered.callCurrent _) (toSession_callCurrent ordered _)
      | page => exact noted (ordered.callCurrent _) (toSession_callCurrent ordered _)
      | other => exact noted ordered rfl

/-- A message does to the view what it does to the session. -/
theorem toSession_process (ordered : session.jobs.Ordered) (header : Tn3270eHeader)
    (data : List UInt8) :
    (session.call (.processTn3270eMessage header data)).map toSession =
      session.toSession.processTn3270eMessage header data := by
  change (session.whenActive (processMessage header data)).map toSession = _
  have view : session.toSession.isActive = session.isActive := rfl
  unfold whenActive PrinterSession.processTn3270eMessage
  rw [view]
  cases session.isActive with
  | false => rfl
  | true =>
      rw [if_pos rfl, if_pos rfl]
      refine congrArg Except.ok ?_
      unfold processMessage
      split
      · exact toSession_addScsData ordered data
      · split
        · cases data with
          | nil => rfl
          | cons code rest => exact toSession_handleScsControlCode ordered code
        · split
          · unfold handleResponse PrinterSession.handleResponse
            split
            · exact toSession_callCurrent ordered _
            · rfl
          · rfl

theorem kept_new : Kept {} where
  ordered := rfl
  recorded := ⟨nofun, rfl, fun _ => rfl⟩
  closed number past := absurd past.1 (Nat.not_lt_zero number)
  bounded := Nat.zero_le _
  idle _ := rfl
  begun := nofun

/-- In every run of the calls of a session and of whoever holds its jobs: every job is
current, among the last fifty finished, or dropped, in the order of their beginnings; a job
tells exactly the calls it has had; one that is not current has been ended, and is
completed or in error unless someone paused it; the session changes no such job any more.
Messages do to the jobs what they do to the session with the jobs as values. -/
theorem jobs_of_every_run (events : List Event) :
    let reached := Foundations.run step events {}
    Kept reached ∧
      (∀ number job, reached.jobs.objects[number]? = some job →
        JobCall.Tells (callsOf number reached.jobs.calls) job) ∧
      (∀ number job, reached.jobs.objects[number]? = some job → Past number reached.jobs →
        JobCall.Unpaused (callsOf number reached.jobs.calls) →
          job.status = .completed ∨ job.status = .error) ∧
      (∀ number later, Past number reached.jobs → (∀ call, .job number call ∉ later) →
        (Foundations.run step later reached).jobs.objects[number]? =
          reached.jobs.objects[number]?) ∧
      ∀ header data, (reached.call (.processTn3270eMessage header data)).map toSession =
        reached.toSession.processTn3270eMessage header data := by
  intro reached
  have kept : Kept reached :=
    @run_invariant _ _ step Kept (fun event {_} kept => kept.step event) events _ kept_new
  have madeOf : ∀ {number job}, reached.jobs.objects[number]? = some job →
      ∃ jobId, job = JobCall.made jobId (callsOf number reached.jobs.calls) := by
    intro number job found
    rw [kept.recorded.object] at found
    obtain ⟨begun, here, rfl⟩ := Option.map_eq_some_iff.mp found
    obtain ⟨jobId, rfl⟩ := kept.begun begun (List.mem_of_getElem? here)
    exact ⟨jobId, rfl⟩
  refine ⟨kept, ?_, ?_, ?_, toSession_process kept.ordered⟩
  · intro number job found
    obtain ⟨jobId, rfl⟩ := madeOf found
    exact JobCall.tells_made jobId _
  · intro number job found past unpaused
    obtain ⟨jobId, rfl⟩ := madeOf found
    obtain ⟨closing, member, closes⟩ := kept.closed number past
    rcases @JobCall.status_made jobId _ unpaused with ⟨_, none⟩ | ⟨ended, _⟩
    · exact absurd closes (none closing member)
    · exact ended
  · intro number later past uncalled
    exact (leaves_run uncalled past).same

end PrintedJobs

end Pure3270
