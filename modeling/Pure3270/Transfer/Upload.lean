import Mathlib.Data.List.TakeWhile
import Pure3270.Foundations.Runs
import Pure3270.Transfer.IndFile

/-!
# Uploads

`send` sends a request, the file in chunks and an EOF, and waits at each message.  An
ERROR of the host takes the active transfer away, which the loop does not look at.
-/

namespace Pure3270

open Foundations

/-- How `send` ends: it returns, raises its own exception, or lets the exception of its
error message through. -/
inductive SendOutcome where
  | returned
  | raised
  | raisedOther
  deriving DecidableEq, Repr

/-- The message that `send` waits for. -/
inductive SendPhase where
  | request (message : IndFileMessage)
  | data (chunk rest : List UInt8)
  | eof
  | error (message : IndFileMessage)
  | ended (outcome : SendOutcome)
  deriving DecidableEq, Repr

namespace SendPhase

def message? : SendPhase → Option IndFileMessage
  | request message => some message
  | data chunk _ => some (.createData chunk)
  | eof => some .createEof
  | error message => some message
  | ended _ => none

end SendPhase

inductive SendRecord where
  | begun (message : IndFileMessage)
  | done (message : IndFileMessage)
  | failed
  | hostError
  deriving DecidableEq, Repr

/-- A running `send`, with a record of what happened. -/
structure Sending where
  phase : SendPhase
  indFile : IndFile
  log : List SendRecord
  deriving DecidableEq, Repr

/-- A message of the host, the end of a wait, or an exception of the session or of the
file, with its text. -/
inductive SendEvent where
  | deliver (message : IndFileMessage) (fails : Bool)
  | sent
  | sendRaises (text : String)
  | fileRaises (text : String)
  deriving DecidableEq, Repr

namespace Sending

/-- Hand the message of a phase to the session and wait. -/
def await (phase : SendPhase) (indFile : IndFile) (log : List SendRecord) : Sending where
  phase
  indFile
  log := log ++ (phase.message?.map SendRecord.begun).toList

/-- The end of `send`: what is still active is finished in any case. -/
def leave (outcome : SendOutcome) (indFile : IndFile) (log : List SendRecord) : Sending where
  phase := .ended outcome
  indFile := indFile.finish
  log

/-- The exception path: the host is told, unless the text cannot be encoded. -/
def fail (text : String) (indFile : IndFile) (log : List SendRecord) : Sending :=
  match IndFileMessage.createError text with
  | some message => await (.error message) indFile.abort (log ++ [.failed])
  | none => leave .raisedOther indFile.abort (log ++ [.failed])

/-- Read the next chunk; without one the file is over. -/
def nextChunk (rest : List UInt8) (indFile : IndFile) (log : List SendRecord) : Sending :=
  if rest = [] then await .eof indFile log
  else await (.data (rest.take 4096) (rest.drop 4096)) indFile log

/-- The transfer is started; `encodeText` is the text of the exception that a name
outside ASCII raises. -/
def start (remoteName encodeText : String) (content : List UInt8) : Sending :=
  let indFile := (IndFile.idle (some content)).startUpload
  match IndFileMessage.createUploadRequest remoteName with
  | some message => await (.request message) indFile []
  | none => fail encodeText indFile []

/-- `send` goes on behind a message that was sent. -/
def proceed (content : List UInt8) (sending : Sending) : Sending :=
  let log := sending.log ++ (sending.phase.message?.map SendRecord.done).toList
  match sending.phase with
  | .request _ => nextChunk content sending.indFile log
  | .data _ rest => nextChunk rest sending.indFile log
  | .eof => leave .returned sending.indFile log
  | .error _ => leave .raised sending.indFile log
  | .ended _ => sending

def step (content : List UInt8) : SendEvent → Sending → Sending
  | .deliver message fails, sending =>
      { sending with
        indFile := sending.indFile.handleIncomingMessage message fails
        log :=
          if message.subCommand = 0x04 ∧ sending.phase.message?.isSome then
            sending.log ++ [.hostError]
          else sending.log }
  | .sent, sending => sending.proceed content
  | .sendRaises text, sending =>
      match sending.phase with
      | .ended _ => sending
      | .error _ => leave .raisedOther sending.indFile sending.log
      | _ => fail text sending.indFile sending.log
  | .fileRaises text, sending =>
      match sending.phase with
      | .request message => fail text sending.indFile (sending.log ++ [.done message])
      | .data chunk _ => fail text sending.indFile (sending.log ++ [.done (.createData chunk)])
      | _ => sending

/-- The messages that were sent. -/
def completed (log : List SendRecord) : List IndFileMessage :=
  log.filterMap fun
    | .done message => some message
    | _ => none

/-- A message that brings neither data nor an EOF. -/
def Harmless (message : IndFileMessage) : Prop :=
  message.subCommand ≠ 0x02 ∧ message.subCommand ≠ 0x03

/-- No data and no EOF is begun after the first ERROR of the host. -/
def Stopped (log : List SendRecord) : Prop :=
  ∀ message, .begun message ∈ log.dropWhile (· ≠ .hostError) → Harmless message

/-- A whole upload of the content. -/
def Whole (remoteName : String) (content : List UInt8) (messages : List IndFileMessage) :
    Prop :=
  ∃ (request : IndFileMessage) (chunks : List (List UInt8)),
    IndFileMessage.createUploadRequest remoteName = some request ∧
    messages = request :: chunks.map IndFileMessage.createData ++ [.createEof] ∧
    chunks.flatten = content

/-- What is due to the host. -/
structure Respects (remoteName : String) (content : List UInt8) (outcome : SendOutcome)
    (sending : Sending) : Prop where
  whole : .hostError ∉ sending.log → Whole remoteName content (completed sending.log)
  stopped : .hostError ∈ sending.log → Stopped sending.log ∧ outcome = .raised
  inactive : sending.indFile.activeTransfer = none

/-- After an ERROR of the host the wait ends in an exception, or the file does; and the
error message is made and sent. -/
def Proper : SendEvent → Sending → Prop
  | .deliver _ _, _ => True
  | .sent, sending =>
      .hostError ∈ sending.log →
        match sending.phase with
        | .error _ | .ended _ => True
        | _ => False
  | .sendRaises text, sending =>
      match sending.phase with
      | .ended _ => True
      | .error _ => False
      | _ => (IndFileMessage.createError text).isSome
  | .fileRaises text, sending =>
      match sending.phase with
      | .request _ | .data _ _ => (IndFileMessage.createError text).isSome
      | _ => True

section Log

variable {log more : List SendRecord}

theorem completed_append (log more : List SendRecord) :
    completed (log ++ more) = completed log ++ completed more :=
  List.filterMap_append

theorem dropWhile_unheard (unheard : .hostError ∉ log) :
    log.dropWhile (· ≠ .hostError) = [] := by
  rw [List.dropWhile_eq_nil_iff]
  intro entry member
  rw [decide_eq_true_eq]
  rintro rfl
  exact unheard member

theorem stopped_of_unheard (unheard : .hostError ∉ log) : Stopped log := by
  unfold Stopped
  rw [dropWhile_unheard unheard]
  nofun

theorem dropWhile_heard (heard : .hostError ∈ log) (more : List SendRecord) :
    (log ++ more).dropWhile (· ≠ .hostError) =
      log.dropWhile (· ≠ .hostError) ++ more := by
  have found : log.dropWhile (· ≠ .hostError) ≠ [] := by
    rw [Ne, List.dropWhile_eq_nil_iff]
    intro all
    simpa using all _ heard
  rw [List.dropWhile_append, if_neg (by simpa [List.isEmpty_iff] using found)]

/-- What comes later must be harmless once the host has spoken. -/
theorem stopped_append_iff (heard : .hostError ∈ log) :
    Stopped (log ++ more) ↔
      Stopped log ∧ ∀ message, .begun message ∈ more → Harmless message := by
  unfold Stopped
  rw [dropWhile_heard heard]
  simp only [List.mem_append, or_imp, forall_and]

theorem Stopped.append (stopped : Stopped log) (unheard : .hostError ∉ more)
    (harmless : .hostError ∈ log → ∀ message, .begun message ∈ more → Harmless message) :
    Stopped (log ++ more) := by
  by_cases heard : SendRecord.hostError ∈ log
  · exact (stopped_append_iff heard).mpr ⟨stopped, harmless heard⟩
  · apply stopped_of_unheard
    rw [List.mem_append]
    exact fun either => either.elim heard unheard

theorem Stopped.heard (stopped : Stopped log) : Stopped (log ++ [.hostError]) := by
  by_cases heard : SendRecord.hostError ∈ log
  · refine (stopped_append_iff heard).mpr ⟨stopped, fun message member => ?_⟩
    cases List.mem_singleton.mp member
  · unfold Stopped
    rw [List.dropWhile_append, dropWhile_unheard heard]
    intro message member
    cases List.mem_singleton.mp member

end Log

section Course

variable {remoteName : String} {content : List UInt8}

/-- The request and some of the content were sent, and nothing failed. -/
def Sofar (remoteName : String) (sent : List UInt8) (log : List SendRecord) : Prop :=
  .failed ∉ log ∧ ∃ (request : IndFileMessage) (chunks : List (List UInt8)),
    IndFileMessage.createUploadRequest remoteName = some request ∧
    completed log = request :: chunks.map IndFileMessage.createData ∧
    chunks.flatten = sent

/-- Something failed before an EOF was sent. -/
def Failed (log : List SendRecord) : Prop :=
  .failed ∈ log ∧ ∀ message ∈ completed log, message.subCommand ≠ 0x03

/-- Where `send` is and what it has sent until then. -/
inductive Course (remoteName : String) (content : List UInt8) (sending : Sending) :
    Prop where
  | request (message : IndFileMessage) (phase : sending.phase = .request message)
      (made : IndFileMessage.createUploadRequest remoteName = some message)
      (unfailed : .failed ∉ sending.log) (none : completed sending.log = [])
  | data (sent chunk rest : List UInt8) (phase : sending.phase = .data chunk rest)
      (sofar : Sofar remoteName sent sending.log) (left : sent ++ chunk ++ rest = content)
  | eof (phase : sending.phase = .eof) (sofar : Sofar remoteName content sending.log)
  | error (message : IndFileMessage) (phase : sending.phase = .error message)
      (error : message.subCommand = 0x04) (failed : Failed sending.log)
  | returned (phase : sending.phase = .ended .returned) (unfailed : .failed ∉ sending.log)
      (whole : Whole remoteName content (completed sending.log))
      (inactive : sending.indFile.activeTransfer = none)
  | raised (outcome : SendOutcome) (phase : sending.phase = .ended outcome)
      (unreturned : outcome ≠ .returned) (failed : Failed sending.log)
      (inactive : sending.indFile.activeTransfer = none)

theorem createUploadRequest_subCommand {name : String} {message : IndFileMessage}
    (made : IndFileMessage.createUploadRequest name = some message) :
    message.subCommand = 0x00 := by
  obtain ⟨bytes, _, rfl⟩ := Option.map_eq_some_iff.mp made
  rfl

theorem createError_subCommand {text : String} {message : IndFileMessage}
    (made : IndFileMessage.createError text = some message) : message.subCommand = 0x04 := by
  obtain ⟨bytes, _, rfl⟩ := Option.map_eq_some_iff.mp made
  rfl

theorem Sofar.noEof {sent : List UInt8} {log : List SendRecord}
    (sofar : Sofar remoteName sent log) :
    ∀ message ∈ completed log, message.subCommand ≠ 0x03 := by
  obtain ⟨_, request, chunks, made, messages, _⟩ := sofar
  rw [messages]
  intro message member
  rcases List.mem_cons.mp member with rfl | later
  · rw [createUploadRequest_subCommand made]
    decide
  · obtain ⟨chunk, _, rfl⟩ := List.mem_map.mp later
    show (0x02 : UInt8) ≠ 0x03
    decide

theorem Sofar.chunk {sent chunk : List UInt8} {log : List SendRecord}
    (sofar : Sofar remoteName sent log) :
    Sofar remoteName (sent ++ chunk) (log ++ [.done (.createData chunk)]) := by
  obtain ⟨unfailed, request, chunks, made, messages, flat⟩ := sofar
  refine ⟨by simpa using unfailed, request, chunks ++ [chunk], made, ?_, ?_⟩
  · rw [completed_append, messages]
    simp [completed]
  · rw [List.flatten_append, flat]
    simp

/-- Beginning a message sends nothing yet. -/
theorem Sofar.begun {sent : List UInt8} {log : List SendRecord}
    (sofar : Sofar remoteName sent log) (message : IndFileMessage) :
    Sofar remoteName sent (log ++ [.begun message]) := by
  obtain ⟨unfailed, request, chunks, made, messages, flat⟩ := sofar
  refine ⟨by simpa using unfailed, request, chunks, made, ?_, flat⟩
  rw [completed_append, messages]
  simp [completed]

theorem nextChunk_course {sent rest : List UInt8} {log : List SendRecord}
    (sofar : Sofar remoteName sent log) (left : sent ++ rest = content) (indFile : IndFile) :
    Course remoteName content (nextChunk rest indFile log) := by
  unfold nextChunk
  split
  · rename_i empty
    rw [empty, List.append_nil] at left
    subst left
    exact .eof rfl (sofar.begun _)
  · refine .data sent _ _ rfl (sofar.begun _) ?_
    rw [List.append_assoc, List.take_append_drop]
    exact left

theorem fail_course {log : List SendRecord}
    (noEof : ∀ message ∈ completed log, message.subCommand ≠ 0x03) (text : String)
    (indFile : IndFile) : Course remoteName content (fail text indFile log) := by
  have same : completed (log ++ [.failed]) = completed log := by
    rw [completed_append]
    simp [completed]
  unfold fail
  split
  · rename_i message made
    refine .error message rfl (createError_subCommand made) ⟨by simp [await], ?_⟩
    show ∀ other ∈ completed ((log ++ [.failed]) ++ [.begun message]), _
    rw [completed_append, same]
    simpa [completed] using noEof
  · refine .raised .raisedOther rfl nofun ⟨by simp [leave], ?_⟩ rfl
    show ∀ other ∈ completed (log ++ [.failed]), _
    rw [same]
    exact noEof

end Course

section Steps

variable {remoteName : String} {content : List UInt8} {sending : Sending}

/-- Only the phase, the messages sent, the failure and the end matter. -/
theorem Course.congr {other : Sending} (course : Course remoteName content sending)
    (phase : other.phase = sending.phase)
    (messages : completed other.log = completed sending.log)
    (failed : .failed ∈ other.log ↔ .failed ∈ sending.log)
    (inactive : sending.indFile.activeTransfer = none →
      other.indFile.activeTransfer = none) : Course remoteName content other := by
  have sofar : ∀ {sent}, Sofar remoteName sent sending.log →
      Sofar remoteName sent other.log := by
    intro sent sofar
    exact ⟨fun fails => sofar.1 (failed.mp fails), by rw [messages]; exact sofar.2⟩
  have still : Failed sending.log → Failed other.log :=
    fun fails => ⟨failed.mpr fails.1, by rw [messages]; exact fails.2⟩
  cases course with
  | request message here made unfailed none =>
      exact .request message (phase.trans here) made (fun fails => unfailed (failed.mp fails))
        (messages.trans none)
  | data sent chunk rest here before left =>
      exact .data sent chunk rest (phase.trans here) (sofar before) left
  | eof here before => exact .eof (phase.trans here) (sofar before)
  | error message here error fails => exact .error message (phase.trans here) error (still fails)
  | returned here unfailed whole ended =>
      exact .returned (phase.trans here) (fun fails => unfailed (failed.mp fails))
        (by rw [messages]; exact whole) (inactive ended)
  | raised outcome here unreturned fails ended =>
      exact .raised outcome (phase.trans here) unreturned (still fails) (inactive ended)

theorem Course.deliver (course : Course remoteName content sending)
    (message : IndFileMessage) (fails : Bool) :
    Course remoteName content (sending.step content (.deliver message fails)) := by
  refine course.congr rfl ?_ ?_ fun inactive => ?_
  · unfold step
    dsimp only
    split
    · rw [completed_append]
      simp [completed]
    · rfl
  · unfold step
    dsimp only
    split
    · simp
    · rfl
  · unfold step
    dsimp only
    rw [IndFile.handleIncomingMessage_inactive inactive]
    exact inactive

theorem Course.proceed (course : Course remoteName content sending) :
    Course remoteName content (sending.proceed content) := by
  unfold Sending.proceed
  cases course with
  | request message phase made unfailed none =>
      rw [phase]
      refine @nextChunk_course remoteName content [] content _ ?_ rfl _
      refine ⟨by simpa [SendPhase.message?] using unfailed, message, [], made, ?_, rfl⟩
      rw [completed_append, none]
      rfl
  | data sent chunk rest phase sofar left =>
      rw [phase]
      exact nextChunk_course sofar.chunk left _
  | eof phase sofar =>
      obtain ⟨unfailed, request, chunks, made, messages, flat⟩ := sofar
      rw [phase]
      refine .returned rfl (by simpa [leave, SendPhase.message?] using unfailed)
        ⟨request, chunks, made, ?_, flat⟩ rfl
      show completed (sending.log ++ [.done .createEof]) = _
      rw [completed_append, messages]
      rfl
  | error message phase error failed =>
      rw [phase]
      refine .raised .raised rfl nofun ⟨by simp [leave, failed.1], ?_⟩ rfl
      show ∀ other ∈ completed (sending.log ++ [.done message]), _
      rw [completed_append]
      intro other member
      rcases List.mem_append.mp member with earlier | last
      · exact failed.2 other earlier
      · rw [List.mem_singleton.mp last, error]
        decide
  | returned phase unfailed whole inactive =>
      rw [phase]
      exact .returned phase unfailed whole inactive
  | raised outcome phase unreturned failed inactive =>
      rw [phase]
      exact .raised outcome phase unreturned failed inactive

theorem Course.sendRaises (course : Course remoteName content sending) (text : String) :
    Course remoteName content (sending.step content (.sendRaises text)) := by
  unfold step
  dsimp only
  cases course with
  | request message phase made unfailed none =>
      rw [phase]
      exact fail_course (by rw [none]; nofun) text _
  | data sent chunk rest phase sofar left =>
      rw [phase]
      exact fail_course sofar.noEof text _
  | eof phase sofar =>
      rw [phase]
      exact fail_course sofar.noEof text _
  | error message phase error failed =>
      rw [phase]
      exact .raised .raisedOther rfl nofun failed rfl
  | returned phase unfailed whole inactive =>
      rw [phase]
      exact .returned phase unfailed whole inactive
  | raised outcome phase unreturned failed inactive =>
      rw [phase]
      exact .raised outcome phase unreturned failed inactive

theorem Course.fileRaises (course : Course remoteName content sending) (text : String) :
    Course remoteName content (sending.step content (.fileRaises text)) := by
  unfold step
  dsimp only
  cases course with
  | request message phase made unfailed none =>
      rw [phase]
      refine fail_course ?_ text _
      rw [completed_append, none]
      intro other member
      rw [List.mem_singleton.mp member, createUploadRequest_subCommand made]
      decide
  | data sent chunk rest phase sofar left =>
      rw [phase]
      exact fail_course sofar.chunk.noEof text _
  | eof phase sofar =>
      rw [phase]
      exact .eof phase sofar
  | error message phase error failed =>
      rw [phase]
      exact .error message phase error failed
  | returned phase unfailed whole inactive =>
      rw [phase]
      exact .returned phase unfailed whole inactive
  | raised outcome phase unreturned failed inactive =>
      rw [phase]
      exact .raised outcome phase unreturned failed inactive

theorem Course.step (course : Course remoteName content sending) (event : SendEvent) :
    Course remoteName content (sending.step content event) := by
  cases event with
  | deliver message fails => exact course.deliver message fails
  | sent => exact course.proceed
  | sendRaises text => exact course.sendRaises text
  | fileRaises text => exact course.fileRaises text

theorem start_course (remoteName encodeText : String) (content : List UInt8) :
    Course remoteName content (start remoteName encodeText content) := by
  unfold start
  dsimp only
  split
  · rename_i message made
    exact .request message rfl made (by simp [await, SendPhase.message?]) rfl
  · exact fail_course (fun _ member => nomatch List.not_mem_nil member) encodeText _

/-- Nothing has happened yet that the host must not see. -/
def Sound (sending : Sending) : Prop :=
  Stopped sending.log ∧ sending.phase ≠ .ended .raisedOther ∧
    (sending.phase = .ended .returned → .hostError ∉ sending.log)

/-- The upload went on after an ERROR, or ended in the wrong exception. -/
def Spoiled (sending : Sending) : Prop :=
  (.hostError ∈ sending.log ∧
    (¬ Stopped sending.log ∨ sending.phase = .ended .returned)) ∨
      sending.phase = .ended .raisedOther

theorem await_sound {phase : SendPhase} {message : IndFileMessage} {indFile : IndFile}
    {log : List SendRecord} (pending : phase.message? = some message)
    (stopped : Stopped log) (harmless : .hostError ∈ log → Harmless message) :
    (await phase indFile log).Sound := by
  have going : ∀ outcome, phase ≠ .ended outcome := by
    rintro outcome rfl
    cases pending
  refine ⟨?_, going _, fun ended => absurd ended (going _)⟩
  unfold await
  dsimp only
  rw [pending]
  refine stopped.append (by simp) fun heard other member => ?_
  rw [Option.map_some, Option.toList_some] at member
  cases List.mem_singleton.mp member
  exact harmless heard

theorem await_spoiled {phase : SendPhase} {message : IndFileMessage} {indFile : IndFile}
    {log : List SendRecord} (pending : phase.message? = some message)
    (heard : .hostError ∈ log) (harmful : ¬ Harmless message) :
    (await phase indFile log).Spoiled := by
  refine .inl ⟨?_, .inl ?_⟩
  · exact List.mem_append_left _ heard
  · unfold await
    dsimp only
    rw [pending, stopped_append_iff heard]
    exact fun both => harmful (both.2 message (by simp))

theorem fail_sound {log : List SendRecord} (stopped : Stopped log) {text : String}
    (encodes : (IndFileMessage.createError text).isSome) (indFile : IndFile) :
    (fail text indFile log).Sound := by
  obtain ⟨message, made⟩ := Option.isSome_iff_exists.mp encodes
  unfold fail
  rw [made]
  refine await_sound rfl (stopped.append (by simp) (by simp)) fun _ => ?_
  unfold Harmless
  rw [createError_subCommand made]
  decide

theorem fail_spoiled {log : List SendRecord} {text : String}
    (encodes : ¬ (IndFileMessage.createError text).isSome) (indFile : IndFile) :
    (fail text indFile log).Spoiled := by
  rw [Option.not_isSome_iff_eq_none] at encodes
  unfold fail
  rw [encodes]
  exact .inr rfl

theorem nextChunk_sound {log : List SendRecord} (unheard : .hostError ∉ log)
    (rest : List UInt8) (indFile : IndFile) : (nextChunk rest indFile log).Sound := by
  unfold nextChunk
  split
  · exact await_sound rfl (stopped_of_unheard unheard) fun heard => absurd heard unheard
  · exact await_sound rfl (stopped_of_unheard unheard) fun heard => absurd heard unheard

theorem nextChunk_spoiled {log : List SendRecord} (heard : .hostError ∈ log)
    (rest : List UInt8) (indFile : IndFile) : (nextChunk rest indFile log).Spoiled := by
  unfold nextChunk
  split
  · exact await_spoiled rfl heard (fun harmless => harmless.2 rfl)
  · exact await_spoiled rfl heard (fun harmless => harmless.1 rfl)

/-- The record behind a message that was sent. -/
theorem heard_done {log : List SendRecord} {phase : SendPhase} :
    .hostError ∈ log ++ (phase.message?.map SendRecord.done).toList ↔ .hostError ∈ log := by
  cases phase.message? <;> simp

theorem Stopped.done {log : List SendRecord} (stopped : Stopped log) (phase : SendPhase) :
    Stopped (log ++ (phase.message?.map SendRecord.done).toList) := by
  refine stopped.append ?_ fun _ message member => ?_
  · cases phase.message? <;> simp
  · cases pending : phase.message? with
    | none =>
        rw [pending] at member
        cases member
    | some other =>
        rw [pending] at member
        cases List.mem_singleton.mp member

/-- The event keeps `send` sound if it is proper, and spoils it if not. -/
def Decides (content : List UInt8) (event : SendEvent) (sending : Sending) : Prop :=
  (Proper event sending → (sending.step content event).Sound) ∧
    (¬ Proper event sending → (sending.step content event).Spoiled)

theorem Sound.deliver (sound : sending.Sound) (message : IndFileMessage) (fails : Bool) :
    Decides content (.deliver message fails) sending := by
  refine ⟨fun _ => ?_, fun improper => absurd trivial improper⟩
  unfold Sending.step
  dsimp only
  split
  · rename_i heard
    refine ⟨sound.1.heard, sound.2.1, fun ended => ?_⟩
    have pending := heard.2
    rw [show sending.phase = .ended .returned from ended] at pending
    cases pending
  · exact sound

theorem Sound.proceed (sound : sending.Sound) : Decides content .sent sending := by
  have done := sound.1.done sending.phase
  unfold Decides Proper Sending.step Sending.proceed
  dsimp only
  by_cases heard : SendRecord.hostError ∈ sending.log
  · have still := (@heard_done sending.log sending.phase).mpr heard
    cases phase : sending.phase with
    | request message =>
        rw [phase] at still
        exact ⟨fun proper => (proper heard).elim, fun _ => nextChunk_spoiled still _ _⟩
    | data chunk rest =>
        rw [phase] at still
        exact ⟨fun proper => (proper heard).elim, fun _ => nextChunk_spoiled still _ _⟩
    | eof =>
        rw [phase] at still
        exact ⟨fun proper => (proper heard).elim, fun _ => .inl ⟨still, .inr rfl⟩⟩
    | error message =>
        rw [phase] at done
        exact ⟨fun _ => ⟨done, nofun, nofun⟩, fun improper => (improper fun _ => trivial).elim⟩
    | ended outcome => exact ⟨fun _ => sound, fun improper => (improper fun _ => trivial).elim⟩
  · have still := mt (@heard_done sending.log sending.phase).mp heard
    refine ⟨fun _ => ?_, fun improper => (improper fun is => absurd is heard).elim⟩
    cases phase : sending.phase with
    | request message =>
        rw [phase] at still
        exact nextChunk_sound still _ _
    | data chunk rest =>
        rw [phase] at still
        exact nextChunk_sound still _ _
    | eof =>
        rw [phase] at done still
        exact ⟨done, nofun, fun _ => still⟩
    | error message =>
        rw [phase] at done
        exact ⟨done, nofun, nofun⟩
    | ended outcome => exact sound

/-- An exception is sound if the host can be told. -/
theorem fail_decides {log : List SendRecord} (stopped : Stopped log) (text : String)
    (indFile : IndFile) :
    ((IndFileMessage.createError text).isSome = true → (fail text indFile log).Sound) ∧
      (¬ (IndFileMessage.createError text).isSome = true →
        (fail text indFile log).Spoiled) :=
  ⟨fun encodes => fail_sound stopped encodes indFile, fun encodes => fail_spoiled encodes indFile⟩

theorem Sound.sendRaises (sound : sending.Sound) (text : String) :
    Decides content (.sendRaises text) sending := by
  unfold Decides Proper Sending.step
  dsimp only
  cases phase : sending.phase with
  | request message => exact fail_decides sound.1 text _
  | data chunk rest => exact fail_decides sound.1 text _
  | eof => exact fail_decides sound.1 text _
  | error message => exact ⟨False.elim, fun _ => .inr rfl⟩
  | ended outcome => exact ⟨fun _ => sound, fun improper => absurd trivial improper⟩

theorem Sound.fileRaises (sound : sending.Sound) (text : String) :
    Decides content (.fileRaises text) sending := by
  have done := sound.1.done sending.phase
  unfold Decides Proper Sending.step
  dsimp only
  cases phase : sending.phase with
  | request message =>
      rw [phase] at done
      exact fail_decides done text _
  | data chunk rest =>
      rw [phase] at done
      exact fail_decides done text _
  | eof => exact ⟨fun _ => sound, fun improper => absurd trivial improper⟩
  | error message => exact ⟨fun _ => sound, fun improper => absurd trivial improper⟩
  | ended outcome => exact ⟨fun _ => sound, fun improper => absurd trivial improper⟩

theorem Sound.decides (sound : sending.Sound) (event : SendEvent) :
    Decides content event sending := by
  cases event with
  | deliver message fails => exact sound.deliver message fails
  | sent => exact sound.proceed
  | sendRaises text => exact sound.sendRaises text
  | fileRaises text => exact sound.fileRaises text

/-- The record only grows. -/
theorem step_log (content : List UInt8) (event : SendEvent) (sending : Sending) :
    ∃ more, (sending.step content event).log = sending.log ++ more := by
  have waits : ∀ phase indFile more, ∃ later,
      (await phase indFile (sending.log ++ more)).log = sending.log ++ later :=
    fun phase indFile more => ⟨_, List.append_assoc _ _ _⟩
  have chunks : ∀ rest indFile more, ∃ later,
      (nextChunk rest indFile (sending.log ++ more)).log = sending.log ++ later := by
    intro rest indFile more
    unfold nextChunk
    split <;> exact waits _ _ _
  have fails : ∀ text indFile more, ∃ later,
      (fail text indFile (sending.log ++ more)).log = sending.log ++ later := by
    intro text indFile more
    unfold fail
    split
    · rw [List.append_assoc]
      exact waits _ _ _
    · exact ⟨_, List.append_assoc _ _ _⟩
  have failed : ∀ text indFile, ∃ later,
      (fail text indFile sending.log).log = sending.log ++ later := by
    intro text indFile
    simpa using fails text indFile []
  have same : ∃ more, sending.log = sending.log ++ more := ⟨[], (List.append_nil _).symm⟩
  cases event with
  | deliver message fails =>
      unfold step
      dsimp only
      split
      · exact ⟨_, rfl⟩
      · exact same
  | sent =>
      unfold step proceed
      dsimp only
      cases sending.phase with
      | request message => exact chunks _ _ _
      | data chunk rest => exact chunks _ _ _
      | eof => exact ⟨_, rfl⟩
      | error message => exact ⟨_, rfl⟩
      | ended outcome => exact same
  | sendRaises text =>
      unfold step
      dsimp only
      cases sending.phase with
      | request message => exact failed _ _
      | data chunk rest => exact failed _ _
      | eof => exact failed _ _
      | error message => exact same
      | ended outcome => exact same
  | fileRaises text =>
      unfold step
      dsimp only
      cases sending.phase with
      | request message => exact fails _ _ _
      | data chunk rest => exact fails _ _ _
      | eof => exact same
      | error message => exact same
      | ended outcome => exact same

theorem step_ended {outcome : SendOutcome} (ended : sending.phase = .ended outcome)
    (content : List UInt8) (event : SendEvent) :
    (sending.step content event).phase = .ended outcome ∧
      (sending.step content event).log = sending.log := by
  cases event with
  | deliver message fails =>
      refine ⟨ended, ?_⟩
      unfold step
      dsimp only
      rw [ended]
      exact if_neg fun both => nomatch both.2
  | sent =>
      unfold step proceed
      dsimp only
      rw [ended]
      exact ⟨ended, rfl⟩
  | sendRaises text =>
      unfold step
      dsimp only
      rw [ended]
      exact ⟨ended, rfl⟩
  | fileRaises text =>
      unfold step
      dsimp only
      rw [ended]
      exact ⟨ended, rfl⟩

theorem Spoiled.step (spoiled : sending.Spoiled) (event : SendEvent) :
    (sending.step content event).Spoiled := by
  obtain ⟨more, grown⟩ := step_log content event sending
  rcases spoiled with ⟨heard, unstopped | ended⟩ | ended
  · refine .inl ⟨?_, .inl ?_⟩
    · rw [grown]
      exact List.mem_append_left _ heard
    · rw [grown, stopped_append_iff heard]
      exact fun both => unstopped both.1
  · obtain ⟨phase, log⟩ := step_ended ended content event
    refine .inl ⟨?_, .inr phase⟩
    rw [log]
    exact heard
  · exact .inr (step_ended ended content event).1

theorem Spoiled.not_respectsEnd (spoiled : sending.Spoiled)
    (course : Course remoteName content sending) {outcome : SendOutcome}
    (ended : sending.phase = .ended outcome) :
    ¬ sending.Respects remoteName content outcome := by
  intro respects
  rcases spoiled with ⟨heard, unstopped | returned⟩ | other
  · exact unstopped (respects.stopped heard).1
  · rw [ended] at returned
    cases returned
    cases (respects.stopped heard).2
  · rw [ended] at other
    cases other
    cases course with
    | request message phase _ _ _ => cases ended.symm.trans phase
    | data _ _ _ phase _ _ => cases ended.symm.trans phase
    | eof phase _ => cases ended.symm.trans phase
    | error message phase _ _ => cases ended.symm.trans phase
    | returned phase _ _ _ => cases ended.symm.trans phase
    | raised outcome phase _ failed _ =>
        have heard : SendRecord.hostError ∈ sending.log := by
          by_contra unheard
          obtain ⟨_, _, _, messages, _⟩ := respects.whole unheard
          refine failed.2 .createEof ?_ rfl
          rw [messages]
          simp
        cases (respects.stopped heard).2

theorem Sound.respectsEnd_iff (sound : sending.Sound)
    (course : Course remoteName content sending) {outcome : SendOutcome}
    (ended : sending.phase = .ended outcome) :
    sending.Respects remoteName content outcome ↔
      (.hostError ∈ sending.log ↔ .failed ∈ sending.log) := by
  cases course with
  | request message phase _ _ _ => cases ended.symm.trans phase
  | data _ _ _ phase _ _ => cases ended.symm.trans phase
  | eof phase _ => cases ended.symm.trans phase
  | error message phase _ _ => cases ended.symm.trans phase
  | returned phase unfailed whole inactive =>
      have unheard := sound.2.2 phase
      exact iff_of_true ⟨fun _ => whole, fun heard => absurd heard unheard, inactive⟩
        (iff_of_false unheard unfailed)
  | raised other phase unreturned failed inactive =>
      cases ended.symm.trans phase
      constructor
      · intro respects
        refine iff_of_true ?_ failed.1
        by_contra unheard
        obtain ⟨_, _, _, messages, _⟩ := respects.whole unheard
        refine failed.2 .createEof ?_ rfl
        rw [messages]
        simp
      · intro together
        have heard := together.mpr failed.1
        refine ⟨fun unheard => absurd heard unheard, fun _ => ⟨sound.1, ?_⟩, inactive⟩
        cases outcome with
        | returned => exact absurd rfl unreturned
        | raised => rfl
        | raisedOther => exact absurd phase sound.2.1

/-- The start is sound unless neither the name nor the error can be encoded. -/
theorem start_sound (remoteName encodeText : String) (content : List UInt8) :
    (start remoteName encodeText content).Sound ∨
      (start remoteName encodeText content).phase = .ended .raisedOther ∧
        (start remoteName encodeText content).log = [.failed] := by
  unfold start
  dsimp only
  split
  · exact .inl (await_sound rfl (stopped_of_unheard List.not_mem_nil)
      fun heard => absurd heard List.not_mem_nil)
  · unfold fail
    split
    · rename_i message made
      refine .inl (await_sound rfl (stopped_of_unheard (by simp)) fun _ => ?_)
      unfold Harmless
      rw [createError_subCommand made]
      decide
    · exact .inr ⟨rfl, rfl⟩

end Steps

/-- An ended `send` respects the host exactly if all steps after an ERROR were proper,
and an ERROR and a failure came together or not at all. -/
theorem respects_iff (remoteName encodeText : String) (content : List UInt8)
    (events : List SendEvent) {outcome : SendOutcome}
    (ended : (run (step content) events (start remoteName encodeText content)).phase =
      .ended outcome) :
    (run (step content) events (start remoteName encodeText content)).Respects
        remoteName content outcome ↔
      Along (step content) Proper events (start remoteName encodeText content) ∧
        (.hostError ∈ (run (step content) events
            (start remoteName encodeText content)).log ↔
          .failed ∈ (run (step content) events
            (start remoteName encodeText content)).log) := by
  have course : Course remoteName content
      (run (step content) events (start remoteName encodeText content)) :=
    @run_invariant _ _ (step content) (Course remoteName content)
      (fun event _ course => course.step event) events _
      (start_course remoteName encodeText content)
  rcases start_sound remoteName encodeText content with sound | ⟨phase, log⟩
  · rcases along_or_spoiled (fun event _ sound => (Sound.decides sound event).1)
      (fun event _ sound => (Sound.decides sound event).2)
      (fun event _ spoiled => Spoiled.step spoiled event) events sound with
      ⟨along, last⟩ | ⟨broken, last⟩
    · rw [last.respectsEnd_iff course ended]
      exact (and_iff_right along).symm
    · exact iff_of_false (last.not_respectsEnd course ended) fun both => broken both.1
  · have still : (run (step content) events
        (start remoteName encodeText content)).phase = .ended .raisedOther ∧
        (run (step content) events (start remoteName encodeText content)).log =
          [.failed] :=
      @run_invariant _ _ (step content)
        (fun sending => sending.phase = .ended .raisedOther ∧ sending.log = [.failed])
        (fun event _ kept =>
          have after := step_ended kept.1 content event
          ⟨after.1, after.2.trans kept.2⟩) events _ ⟨phase, log⟩
    refine iff_of_false (Spoiled.not_respectsEnd (.inr still.1) course ended) fun both => ?_
    rw [still.2] at both
    simp at both

/-- Three bytes are announced, the host gives an ERROR, and the wait ends in an exception. -/
theorem respects_small :
    (run (step [0xC1, 0xC2, 0xC3])
        [.sent, .deliver ⟨0x04, []⟩ false, .sendRaises "aborted", .sent]
        (start "A" "" [0xC1, 0xC2, 0xC3])).Respects "A" [0xC1, 0xC2, 0xC3] .raised :=
  (respects_iff "A" "" [0xC1, 0xC2, 0xC3] _ (by decide +kernel)).mpr
    ⟨⟨fun heard => absurd heard (by decide +kernel), trivial,
      (rfl : (IndFileMessage.createError "aborted").isSome = true),
      fun _ => trivial, trivial⟩, by decide +kernel⟩

/-- The file is sent although the host has given an ERROR. -/
theorem not_respects :
    ¬ ∀ (remoteName encodeText : String) (content : List UInt8) (events : List SendEvent)
      (outcome : SendOutcome),
      (run (step content) events (start remoteName encodeText content)).phase =
          .ended outcome →
        (run (step content) events (start remoteName encodeText content)).Respects
          remoteName content outcome := by
  intro claimed
  have respects := claimed "A" "" [0xC1] [.deliver ⟨0x04, []⟩ false, .sent, .sent, .sent]
    .returned (by decide +kernel)
  exact nomatch (respects.stopped (by decide +kernel)).2

end Sending

end Pure3270
