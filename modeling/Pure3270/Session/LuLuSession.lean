import Pure3270.Foundations.Mailboxes
import Pure3270.Foundations.Runs
import Pure3270.Foundations.Tokenizer

/-!
# LU-LU sessions

An LU-LU session sends structured fields through its session and queues the data that
comes in.  Its calls wait for the session, for the pause after BIND-IMAGE or for data, and
other calls run meanwhile: a session may be ended while it starts, and several calls may
wait for the same data.
-/

namespace Pure3270

open Foundations

/-- A structured field as these sessions write them. -/
structure LuLuField where
  identifier : UInt8
  fieldType : UInt8
  data : List UInt8
  deriving DecidableEq

namespace LuLuField

/-- The header and the data; the length counts both and keeps its low 16 bits only. -/
def message (field : LuLuField) : List UInt8 :=
  let length := field.data.length + 4
  field.identifier :: .ofNat (length / 256) :: .ofNat length :: field.fieldType :: field.data

/-- One field off the front of what was sent. -/
def readField (input : List UInt8) : Option (LuLuField × Nat) :=
  match input with
  | identifier :: high :: low :: fieldType :: rest =>
      let size := high.toNat * 256 + low.toNat - 4
      if size ≤ rest.length then
        some ({ identifier, fieldType, data := rest.take size }, size + 4)
      else none
  | _ => none

theorem readField_some {input : List UInt8} {field : LuLuField} {count : Nat}
    (read : readField input = some (field, count)) :
    ∃ identifier high low fieldType rest,
      input = identifier :: high :: low :: fieldType :: rest ∧
        high.toNat * 256 + low.toNat - 4 ≤ rest.length ∧
        field = { identifier, fieldType
                  data := rest.take (high.toNat * 256 + low.toNat - 4) } ∧
        count = high.toNat * 256 + low.toNat - 4 + 4 := by
  unfold readField at read
  split at read
  · rename_i identifier high low fieldType rest
    by_cases fits : high.toNat * 256 + low.toNat - 4 ≤ rest.length
    · simp only [if_pos fits, Option.some.injEq, Prod.mk.injEq] at read
      exact ⟨identifier, high, low, fieldType, rest, rfl, fits, read.1.symm, read.2.symm⟩
    · simp only [if_neg fits] at read
      cases read
  · cases read

theorem readField_fits {identifier high low fieldType : UInt8} {rest : List UInt8}
    (fits : high.toNat * 256 + low.toNat - 4 ≤ rest.length) :
    readField (identifier :: high :: low :: fieldType :: rest) =
      some ({ identifier, fieldType
              data := rest.take (high.toNat * 256 + low.toNat - 4) },
        high.toNat * 256 + low.toNat - 4 + 4) :=
  if_pos fits

def tokenizer : Tokenizer UInt8 LuLuField where
  token := readField
  consumes := by
    intro input field count read
    obtain ⟨_, _, _, _, rest, rfl, fits, _, rfl⟩ := readField_some read
    simp only [List.length_cons]
    omega
  stable := by
    intro input field count more read
    obtain ⟨_, _, _, _, rest, rfl, fits, rfl, rfl⟩ := readField_some read
    rw [← List.take_append_of_le_length fits]
    exact readField_fits (Nat.le_trans fits (by simp))

/-- What the length field can count. -/
def Countable (field : LuLuField) : Prop := field.data.length ≤ 65531

theorem reads_message {field : LuLuField} (countable : field.Countable) :
    tokenizer.Reads field.message field := by
  intro rest
  have size : (UInt8.ofNat ((field.data.length + 4) / 256)).toNat * 256 +
      (UInt8.ofNat (field.data.length + 4)).toNat - 4 = field.data.length := by
    unfold Countable at countable
    simp only [UInt8.toNat_ofNat']
    omega
  have read := @readField_fits field.identifier (.ofNat ((field.data.length + 4) / 256))
    (.ofNat (field.data.length + 4)) field.fieldType (field.data ++ rest)
    (by rw [size, List.length_append]; omega)
  rw [size, List.take_left] at read
  exact read

theorem token_message_uncountable {field : LuLuField} (more : ¬ field.Countable)
    (rest : List UInt8) :
    ∃ read count, tokenizer.token (field.message ++ rest) = some (read, count) ∧
      read ≠ field := by
  have size : (UInt8.ofNat ((field.data.length + 4) / 256)).toNat * 256 +
      (UInt8.ofNat (field.data.length + 4)).toNat - 4 < field.data.length := by
    unfold Countable at more
    simp only [UInt8.toNat_ofNat']
    omega
  have whole : (field.data ++ rest).length = field.data.length + rest.length :=
    List.length_append
  refine ⟨_, _, @readField_fits _ _ _ _ (field.data ++ rest) (by omega), fun same => ?_⟩
  have length := congrArg (fun read => read.data.length) same
  simp only [List.length_take] at length
  omega

/-- The fields read back exactly if all of them can be counted. -/
theorem scan_messages_iff (fields : List LuLuField) :
    tokenizer.scan (fields.flatMap message) = (fields, []) ↔
      ∀ field ∈ fields, field.Countable := by
  induction fields with
  | nil => simp [tokenizer.scan_none tokenizer.token_nil]
  | cons field fields ih =>
      rw [List.flatMap_cons, List.forall_mem_cons, ← ih]
      by_cases countable : field.Countable
      · rw [tokenizer.scan_some (reads_message countable _), List.drop_left]
        simp [Prod.ext_iff, countable]
      · obtain ⟨read, count, token, differs⟩ :=
          token_message_uncountable countable (fields.flatMap message)
        rw [tokenizer.scan_some token]
        simp [Prod.ext_iff, countable, differs]

end LuLuField

structure LuLuSession where
  luName : Option String
  isActive : Bool
  dataQueue : Mailbox (List UInt8)

/-- What a call has handed to the session. -/
inductive LuLuCommand where
  | bind
  | unbind
  | outbound3270ds (data : List UInt8)
  deriving DecidableEq

namespace LuLuSession

/-- A queue without a limit. -/
def new : LuLuSession := { luName := none, isActive := false, dataQueue := .empty 0 }

/-- The subfields for 24 rows of 80 columns and three query types.  No subfield has the
name of the LU. -/
def createBindImageData : List UInt8 :=
  [0x01, 0x04, 0x00, 0x18, 0x50] ++ [0x02, 0x03, 0x81, 0x84, 0x85]

/-- `_send_bind_command`, `_send_unbind_command`, `_send_outbound_3270ds`. -/
def field : LuLuCommand → LuLuField
  | .bind => { identifier := 0x3C, fieldType := 0x03, data := createBindImageData }
  | .unbind => { identifier := 0x3C, fieldType := 0x04, data := [0x01] }
  | .outbound3270ds data => { identifier := 0x88, fieldType := 0x40, data }

/-- Which command a field is. -/
def command (field : LuLuField) : LuLuCommand :=
  if field.fieldType = 0x03 then .bind
  else if field.fieldType = 0x04 then .unbind
  else .outbound3270ds field.data

theorem command_field (sent : LuLuCommand) : command (field sent) = sent := by
  cases sent with
  | bind => rfl
  | unbind => rfl
  | outbound3270ds data => rfl

/-- `start`, past its pause. -/
def started (session : LuLuSession) : LuLuSession := { session with isActive := true }

/-- `end`, once UNBIND is sent; what is pending is cleared. -/
def ended (session : LuLuSession) : LuLuSession :=
  { luName := none, isActive := false, dataQueue := session.dataQueue.drain.2 }

/-- `handle_inbound_3270ds`. -/
def handleInbound3270ds (data : List UInt8) (session : LuLuSession) : LuLuSession :=
  if session.isActive then
    { session with dataQueue := (session.dataQueue.put data).getD session.dataQueue }
  else session

end LuLuSession

/-- What a call waits for. -/
inductive LuLuWait where
  | bindSent
  | bindPause
  | unbindSent
  | dataSent
  | dataQueued
  deriving DecidableEq

/-- What came in between two ends, what of it was received, and what the end cleared. -/
structure LuLuPeriod where
  accepted : List (List UInt8) := []
  received : List (List UInt8) := []
  cleared : List (List UInt8) := []

/-- A session, the calls that wait, and what the code keeps no record of: the commands, the
bytes handed to the session for them, the names it was started with, the periods that have
ended and the current one. -/
structure LuLuRun where
  session : LuLuSession := .new
  waiting : List LuLuWait := []
  commands : List LuLuCommand := []
  handed : List (List UInt8) := []
  names : List String := []
  past : List LuLuPeriod := []
  current : LuLuPeriod := {}

/-- How a call that waits goes on. -/
inductive LuLuResumption where
  /-- `send` of the session returns, or raises. -/
  | sendReturns
  | sendRaises
  | pauseEnds
  | dataTaken
  | timesOut

/-- What can happen next.  The waiting calls are named by their place. -/
inductive LuLuEvent where
  | start (luName : String)
  | endCall
  | sendData (data : List UInt8)
  | receiveData
  | inbound (data : List UInt8)
  | resume (call : Nat) (how : LuLuResumption)

namespace LuLuRun

open LuLuSession

/-- A command is handed to the session and its call waits. -/
def hand (sent : LuLuCommand) (wait : LuLuWait) (run : LuLuRun) : LuLuRun :=
  { run with
    commands := run.commands ++ [sent]
    handed := run.handed ++ [(field sent).message]
    waiting := run.waiting ++ [wait] }

def beginStart (luName : String) (run : LuLuRun) : LuLuRun :=
  { run with
    session := { run.session with luName := some luName }
    names := run.names ++ [luName] }.hand .bind .bindSent

/-- `end` of a session that is not active does nothing. -/
def beginEnd (run : LuLuRun) : LuLuRun :=
  if run.session.isActive then run.hand .unbind .unbindSent else run

/-- `send_data`, which raises when the session is not active. -/
def sendData (data : List UInt8) (run : LuLuRun) : LuLuRun :=
  if run.session.isActive then run.hand (.outbound3270ds data) .dataSent else run

def waitFor (wait : LuLuWait) (run : LuLuRun) : LuLuRun :=
  { run with waiting := run.waiting ++ [wait] }

/-- `receive_data`, which raises when the session is not active. -/
def receiveData (run : LuLuRun) : LuLuRun :=
  if run.session.isActive then run.waitFor .dataQueued else run

def inbound (data : List UInt8) (run : LuLuRun) : LuLuRun :=
  { run with
    session := run.session.handleInbound3270ds data
    current :=
      if run.session.isActive then
        { run.current with accepted := run.current.accepted ++ [data] }
      else run.current }

def finishStart (run : LuLuRun) : LuLuRun := { run with session := run.session.started }

def finishEnd (run : LuLuRun) : LuLuRun :=
  { run with
    session := run.session.ended
    past := run.past ++ [{ run.current with cleared := run.session.dataQueue.drain.1 }]
    current := {} }

/-- The data for a call that waits; without data it goes on waiting. -/
def takeData (run : LuLuRun) : LuLuRun :=
  match run.session.dataQueue.take with
  | none => run.waitFor .dataQueued
  | some (data, dataQueue) =>
      { run with
        session := { run.session with dataQueue }
        current := { run.current with received := run.current.received ++ [data] } }

/-- What a waiting call does when it goes on.  One that raises or times out does nothing
more, a failed `end` included. -/
def goOn : LuLuResumption → LuLuWait → Option (LuLuRun → LuLuRun)
  | .sendReturns, .bindSent => some (waitFor .bindPause)
  | .sendReturns, .unbindSent => some finishEnd
  | .sendReturns, .dataSent => some id
  | .sendRaises, .bindSent | .sendRaises, .unbindSent | .sendRaises, .dataSent => some id
  | .pauseEnds, .bindPause => some finishStart
  | .dataTaken, .dataQueued => some takeData
  | .timesOut, .dataQueued => some id
  | _, _ => none

def resume (call : Nat) (how : LuLuResumption) (run : LuLuRun) : LuLuRun :=
  match run.waiting[call]?.bind (goOn how) with
  | none => run
  | some next => next { run with waiting := run.waiting.eraseIdx call }

def step (event : LuLuEvent) (run : LuLuRun) : LuLuRun :=
  match event with
  | .start luName => run.beginStart luName
  | .endCall => run.beginEnd
  | .sendData data => run.sendData data
  | .receiveData => run.receiveData
  | .inbound data => run.inbound data
  | .resume call how => run.resume call how

variable {run : LuLuRun}

/-- What a call that goes on can do. -/
theorem resume_cases (call : Nat) (how : LuLuResumption) (run : LuLuRun) :
    run.resume call how = run ∨
      ∃ wait next, run.waiting[call]? = some wait ∧ goOn how wait = some next ∧
        run.resume call how = next { run with waiting := run.waiting.eraseIdx call } := by
  unfold resume
  cases found : run.waiting[call]? with
  | none => exact .inl rfl
  | some wait =>
      rw [Option.bind_some]
      cases goes : goOn how wait with
      | none => exact .inl rfl
      | some next => exact .inr ⟨wait, next, rfl, goes, rfl⟩

/-- In each period the data that came in was received in its order, and the rest of it was
cleared or waits.  What was handed to the session are the commands. -/
structure Accounted (run : LuLuRun) : Prop where
  unlimited : run.session.dataQueue.capacity = 0
  current : Handled run.current.accepted run.current.accepted run.current.received
    run.session.dataQueue
  past : ∀ period ∈ run.past, period.accepted = period.received ++ period.cleared
  handed : run.handed = run.commands.map fun sent => (field sent).message

namespace Accounted

theorem hand (accounted : Accounted run) (sent : LuLuCommand) (wait : LuLuWait) :
    Accounted (run.hand sent wait) :=
  { accounted with
    handed := by
      change run.handed ++ [_] = (run.commands ++ [sent]).map _
      rw [accounted.handed, List.map_append]
      rfl }

theorem waitFor (accounted : Accounted run) (wait : LuLuWait) :
    Accounted (run.waitFor wait) :=
  { accounted with }

/-- A call that raises at once changes nothing. -/
theorem orStays {after : LuLuRun} {condition : Prop} [Decidable condition]
    (accounted : Accounted after) (before : Accounted run) :
    Accounted (if condition then after else run) := by
  split
  · exact accounted
  · exact before

theorem inbound (accounted : Accounted run) (data : List UInt8) :
    Accounted (run.inbound data) := by
  unfold LuLuRun.inbound handleInbound3270ds
  cases run.session.isActive with
  | false => exact accounted
  | true =>
      have offered := accounted.current.offer data
      have room : run.session.dataQueue.full = false := by
        simp [Mailbox.full, accounted.unlimited]
      cases put : run.session.dataQueue.put data with
      | none => simp [Mailbox.put, room] at put
      | some filled =>
          exact
            { accounted with
              unlimited := (Mailbox.put_capacity put).trans accounted.unlimited
              current := offered.2 put }

theorem finishEnd (accounted : Accounted run) : Accounted run.finishEnd where
  unlimited := accounted.unlimited
  current := by
    have fresh : run.session.dataQueue.drain.2 = .empty 0 := by
      rw [← accounted.unlimited]
      rfl
    change Handled [] [] [] run.session.dataQueue.drain.2
    rw [fresh]
    exact .empty 0
  past := by
    intro period member
    rcases List.mem_append.mp member with earlier | last
    · exact accounted.past period earlier
    · cases List.mem_singleton.mp last
      exact accounted.current.delivered
  handed := accounted.handed

theorem takeData (accounted : Accounted run) : Accounted run.takeData := by
  unfold LuLuRun.takeData
  cases took : run.session.dataQueue.take with
  | none => exact accounted.waitFor .dataQueued
  | some pair =>
      exact
        { accounted with
          unlimited := (Mailbox.take_capacity took).trans accounted.unlimited
          current := accounted.current.take took }

theorem goOn {how : LuLuResumption} {wait : LuLuWait} {next : LuLuRun → LuLuRun}
    (goes : LuLuRun.goOn how wait = some next) (accounted : Accounted run) :
    Accounted (next run) := by
  cases how <;> cases wait <;> cases goes
  · exact accounted.waitFor .bindPause
  · exact accounted.finishEnd
  · exact accounted
  · exact accounted
  · exact accounted
  · exact accounted
  · exact { accounted with }
  · exact accounted.takeData
  · exact accounted

theorem step (accounted : Accounted run) (event : LuLuEvent) :
    Accounted (LuLuRun.step event run) := by
  cases event with
  | start luName =>
      have named : Accounted
          { run with
            session := { run.session with luName := some luName }
            names := run.names ++ [luName] } := { accounted with }
      exact named.hand .bind .bindSent
  | endCall => exact (accounted.hand .unbind .unbindSent).orStays accounted
  | sendData data => exact (accounted.hand (.outbound3270ds data) .dataSent).orStays accounted
  | receiveData => exact (accounted.waitFor .dataQueued).orStays accounted
  | inbound data => exact accounted.inbound data
  | resume call how =>
      rcases resume_cases call how run with stays | ⟨wait, next, _, goes, resumed⟩
      · change Accounted (run.resume call how)
        rwa [stays]
      · change Accounted (run.resume call how)
        rw [resumed]
        exact Accounted.goOn goes { accounted with }

end Accounted

/-- A call of `start` has not returned. -/
def starting (run : LuLuRun) : Prop := .bindSent ∈ run.waiting ∨ .bindPause ∈ run.waiting

/-- No `end` gets through while a call of `start` has not returned. -/
def Orderly (event : LuLuEvent) (run : LuLuRun) : Prop :=
  ∀ call, event = .resume call .sendReturns → run.waiting[call]? = some .unbindSent →
    ¬ run.starting

/-- The name of a session that is active or starts is the one of the latest start. -/
def Named (run : LuLuRun) : Prop :=
  run.session.isActive = true ∨ run.starting → run.session.luName = run.names.getLast?

/-- A step that changes neither the name nor the names, and neither activates the session
nor starts it. -/
theorem Named.of_same {after : LuLuRun} (named : Named run)
    (luName : after.session.luName = run.session.luName) (names : after.names = run.names)
    (was : after.session.isActive = true ∨ after.starting →
      run.session.isActive = true ∨ run.starting) : Named after := by
  intro now
  rw [luName, names]
  exact named (was now)

/-- Where calls are only added that do not start the session. -/
theorem starting_of_append {wait : LuLuWait} (other : wait ≠ .bindSent ∧ wait ≠ .bindPause)
    (now : LuLuWait.bindSent ∈ run.waiting ++ [wait] ∨
      LuLuWait.bindPause ∈ run.waiting ++ [wait]) : run.starting := by
  rcases now with sent | pause
  · rcases List.mem_append.mp sent with before | last
    · exact .inl before
    · exact absurd (List.mem_singleton.mp last).symm other.1
  · rcases List.mem_append.mp pause with before | last
    · exact .inr before
    · exact absurd (List.mem_singleton.mp last).symm other.2

theorem Named.waitFor (named : Named run) {wait : LuLuWait}
    (other : wait ≠ .bindSent ∧ wait ≠ .bindPause) : Named (run.waitFor wait) :=
  named.of_same rfl rfl (Or.imp id (starting_of_append other))

theorem Named.hand (named : Named run) (sent : LuLuCommand) {wait : LuLuWait}
    (other : wait ≠ .bindSent ∧ wait ≠ .bindPause) : Named (run.hand sent wait) :=
  named.of_same rfl rfl (Or.imp id (starting_of_append other))

/-- A call goes on; nothing has been started or ended yet. -/
theorem Named.erase (named : Named run) (call : Nat) :
    Named { run with waiting := run.waiting.eraseIdx call } :=
  named.of_same rfl rfl
    (Or.imp id (Or.imp List.mem_of_mem_eraseIdx List.mem_of_mem_eraseIdx))

theorem Named.takeData (named : Named run) : Named run.takeData := by
  unfold LuLuRun.takeData
  cases run.session.dataQueue.take with
  | none => exact named.waitFor ⟨nofun, nofun⟩
  | some pair => exact named.of_same rfl rfl id

theorem Named.resume {call : Nat} {how : LuLuResumption} {wait : LuLuWait}
    {next : LuLuRun → LuLuRun} (named : Named run) (found : run.waiting[call]? = some wait)
    (goes : goOn how wait = some next) (orderly : Orderly (.resume call how) run) :
    Named (next { run with waiting := run.waiting.eraseIdx call }) := by
  have waits := List.mem_of_getElem? found
  have erased := named.erase call
  cases how <;> cases wait <;> cases goes
  · intro _
    exact named (.inr (.inl waits))
  · rintro (active | still)
    · cases active
    · refine absurd ?_ (orderly call rfl found)
      exact Or.imp List.mem_of_mem_eraseIdx List.mem_of_mem_eraseIdx still
  · exact erased
  · exact erased
  · exact erased
  · exact erased
  · intro _
    exact named (.inr (.inr waits))
  · exact erased.takeData
  · exact erased

theorem Named.step (named : Named run) {event : LuLuEvent} (orderly : Orderly event run) :
    Named (step event run) := by
  have orStays : ∀ {after : LuLuRun} {condition : Prop} [Decidable condition],
      Named after → Named (if condition then after else run) := by
    intro after condition _ kept
    split
    · exact kept
    · exact named
  cases event with
  | start luName =>
      intro _
      change some luName = (run.names ++ [luName]).getLast?
      rw [List.getLast?_concat]
  | endCall => exact orStays (named.hand .unbind ⟨nofun, nofun⟩)
  | sendData data => exact orStays (named.hand (.outbound3270ds data) ⟨nofun, nofun⟩)
  | receiveData => exact orStays (named.waitFor ⟨nofun, nofun⟩)
  | inbound data =>
      have session : (run.session.handleInbound3270ds data).luName = run.session.luName ∧
          (run.session.handleInbound3270ds data).isActive = run.session.isActive := by
        unfold handleInbound3270ds
        split
        · exact ⟨rfl, rfl⟩
        · exact ⟨rfl, rfl⟩
      refine named.of_same session.1 rfl (Or.imp (fun active => ?_) id)
      exact session.2 ▸ active
  | resume call how =>
      change Named (run.resume call how)
      rcases resume_cases call how run with stays | ⟨wait, next, found, goes, resumed⟩
      · rw [stays]
        exact named
      · rw [resumed]
        exact named.resume found goes orderly

/-- In every run, however the calls wait for each other: between two ends of the session
the data that came in is received in its order, each piece at most once, and an end clears
what is left of it.  The bytes handed over read back as the commands exactly if the length
fields can count all of them.  If no end gets through while the session starts, the name of
an active session is that of its latest start. -/
theorem deliveries_of_every_run (events : List LuLuEvent) :
    let reached := Foundations.run step events {}
    Accounted reached ∧
      (LuLuField.tokenizer.scan reached.handed.flatten = (reached.commands.map field, []) ↔
        ∀ sent ∈ reached.commands, (field sent).Countable) ∧
      (Along step Orderly events {} → reached.session.isActive = true →
        reached.session.luName = reached.names.getLast?) := by
  intro reached
  have start : Accounted {} := ⟨rfl, .empty 0, nofun, rfl⟩
  have accounted : Accounted reached :=
    @run_invariant _ _ step Accounted (fun event {_} kept => kept.step event) events _ start
  refine ⟨accounted, ?_, fun orderly active => ?_⟩
  · rw [accounted.handed, ← List.flatMap_def, ← List.flatMap_map,
      LuLuField.scan_messages_iff, List.forall_mem_map]
  · have unnamed : Named {} := by
      rintro (active | sent | pause)
      · cases active
      · cases sent
      · cases pause
    have named : Always step Named events {} :=
      @always_of_along _ _ step Named Orderly (fun {_ _} kept orderly => kept.step orderly)
        events _ unnamed orderly
    exact named.last (.inl active)

end LuLuRun

end Pure3270
