import Pure3270.Printing.StatusReporter

/-!
# The history of the printer's status

The history is the last part of one chain of updates: each entry names the status
that the entry before it has set, if it changed it, and each change that was
recorded was also announced.
-/

namespace Pure3270

open Foundations PrinterStatusReporter

variable {Time Value Callback : Type}

/-- The status after the recorded entries. -/
def statusAfter : String → List (StatusEntry Time Value) → String
  | status, [] => status
  | _, entry :: entries => statusAfter entry.status entries

/-- An entry recorded while the status was `old`. -/
def Follows (old : String) (entry : StatusEntry Time Value) : Prop :=
  entry.previousStatus = if old ≠ entry.status then some old else none

/-- Each entry was recorded in the status that the one before it has set. -/
def Linked : String → List (StatusEntry Time Value) → Prop
  | _, [] => True
  | old, entry :: entries => Follows old entry ∧ Linked entry.status entries

/-- The notification of an entry that records a change. -/
def StatusEntry.announcement (entry : StatusEntry Time Value) :
    Option (StatusNotification Time Value) :=
  entry.previousStatus.map fun old =>
    { eventType := .statusChange
      priority := if entry.status ≠ PrinterStatus.down.value then .medium else .critical
      message :=
        "Status changed from " ++ old ++ " to " ++ entry.status ++ ": " ++ entry.reason
      context := entry.context
      timestamp := entry.timestamp }

def StatusNotification.isChange (notification : StatusNotification Time Value) : Bool :=
  notification.eventType = .statusChange

theorem statusAfter_append (old : String) (front back : List (StatusEntry Time Value)) :
    statusAfter old (front ++ back) = statusAfter (statusAfter old front) back := by
  induction front generalizing old with
  | nil => rfl
  | cons entry front ih => exact ih entry.status

theorem linked_append {old : String} {front back : List (StatusEntry Time Value)} :
    Linked old (front ++ back) ↔
      Linked old front ∧ Linked (statusAfter old front) back := by
  induction front generalizing old with
  | nil => exact (and_iff_right trivial).symm
  | cons entry front ih => exact (and_congr_right fun _ => ih).trans and_assoc.symm

theorem Linked.follows {old : String} {entries front back : List (StatusEntry Time Value)}
    {entry next : StatusEntry Time Value} (linked : Linked old entries)
    (split : entries = front ++ entry :: next :: back) : Follows entry.status next := by
  subst split
  exact (linked_append.mp linked).2.2.1

namespace PrinterStatusReporter

variable {reporter : PrinterStatusReporter Time Value Callback}

theorem statusEntry_follows (now : Time) (status : PrinterStatus) (reason : String)
    (context : Context Value) (reporter : PrinterStatusReporter Time Value Callback) :
    Follows reporter.currentStatus.value
      (reporter.statusEntry now status reason context) := by
  unfold Follows statusEntry
  by_cases same : reporter.currentStatus = status
  · simp [same]
  · have differs : reporter.currentStatus.value ≠ status.value :=
      fun equal => same (PrinterStatus.value_inj.mp equal)
    simp [same, differs]

theorem updateStatus_wants (now : Time) (status : PrinterStatus) (reason : String)
    (context : Context Value) (reporter : PrinterStatusReporter Time Value Callback) :
    (reporter.updateStatus now status reason context).1 =
      (reporter.statusEntry now status reason context).announcement := by
  have down : status ≠ .down ↔ status.value ≠ PrinterStatus.down.value :=
    not_congr PrinterStatus.value_inj.symm
  unfold updateStatus statusEntry StatusEntry.announcement changeNotification
  by_cases same : reporter.currentStatus = status
  · simp [same]
  · simp [same, down]

theorem perform_healthCheck (limits : HealthLimits Value) (now : Time)
    (reporter : PrinterStatusReporter Time Value Callback) :
    reporter.perform limits now .healthCheck =
        (some (reporter.healthCheckRound now).1, (reporter.healthCheckRound now).2) ∨
      reporter.perform limits now .healthCheck = (none, reporter) := by
  simp only [perform]
  split
  · exact .inl rfl
  · exact .inr rfl

/-- All that a call can do to the status: it records one entry and announces it, or it
leaves status and history alone and announces no change. -/
theorem perform_cases (limits : HealthLimits Value) (now : Time)
    (call : ReporterCall Value) (reporter : PrinterStatusReporter Time Value Callback) :
    (∃ entry status, ReporterRun.entryOf limits now call reporter = [entry] ∧
      Follows reporter.currentStatus.value entry ∧ entry.status = status.value ∧
      (reporter.perform limits now call).1 = entry.announcement ∧
      (reporter.perform limits now call).2.currentStatus = status ∧
      (reporter.perform limits now call).2.statusHistory =
        record reporter.statusHistorySize entry reporter.statusHistory) ∨
    (ReporterRun.entryOf limits now call reporter = [] ∧
      (∀ notification ∈ (reporter.perform limits now call).1,
        notification.isChange = false) ∧
      (reporter.perform limits now call).2.currentStatus = reporter.currentStatus ∧
      (reporter.perform limits now call).2.statusHistory = reporter.statusHistory) := by
  cases call with
  | updateStatus status reason context =>
      exact .inl ⟨_, status, rfl, statusEntry_follows now status reason context reporter,
        rfl, updateStatus_wants now status reason context reporter, rfl, rfl⟩
  | reportError errorType message context =>
      refine .inr ⟨rfl, ?_, rfl, rfl⟩
      rintro notification ⟨⟩
      rfl
  | reportRecovery operation context =>
      refine .inr ⟨rfl, ?_, rfl, rfl⟩
      rintro notification ⟨⟩
      rfl
  | updateHealthMetrics metrics =>
      let measured := reporter.withMetrics now metrics
      let evaluated := healthStatus limits measured.healthMetrics
      by_cases differs : evaluated.1 ≠ measured.currentStatus
      · have entries : ReporterRun.entryOf limits now (.updateHealthMetrics metrics)
            reporter = [measured.statusEntry now evaluated.1 evaluated.2 []] :=
          if_pos differs
        have performed : reporter.perform limits now (.updateHealthMetrics metrics) =
            measured.updateStatus now evaluated.1 evaluated.2 [] := if_pos differs
        rw [entries, performed]
        exact .inl ⟨_, evaluated.1, rfl,
          statusEntry_follows now evaluated.1 evaluated.2 [] measured, rfl,
          updateStatus_wants now evaluated.1 evaluated.2 [] measured, rfl, rfl⟩
      · have entries : ReporterRun.entryOf limits now (.updateHealthMetrics metrics)
            reporter = [] := if_neg differs
        have performed : reporter.perform limits now (.updateHealthMetrics metrics) =
            (none, measured) := if_neg differs
        rw [entries, performed]
        refine .inr ⟨rfl, ?_, rfl, rfl⟩
        rintro notification ⟨⟩
  | incrementPerformanceCounter name increment =>
      refine .inr ⟨rfl, ?_, rfl, rfl⟩
      rintro notification ⟨⟩
  | healthCheck =>
      refine .inr ⟨rfl, ?_⟩
      rcases perform_healthCheck limits now reporter with performed | performed
      all_goals rw [performed]
      · refine ⟨?_, rfl, rfl⟩
        rintro notification ⟨⟩
        rfl
      · refine ⟨?_, rfl, rfl⟩
        rintro notification ⟨⟩

/-- The configuration is never changed. -/
structure SameConfig (before after : PrinterStatusReporter Time Value Callback) : Prop where
  size : after.statusHistorySize = before.statusHistorySize
  enabled : after.enableNotifications = before.enableNotifications
  queue : after.notificationQueue = before.notificationQueue
  callbacks : after.notificationCallbacks = before.notificationCallbacks
  task : after.notificationTask = before.notificationTask

theorem perform_config (limits : HealthLimits Value) (now : Time)
    (call : ReporterCall Value) (reporter : PrinterStatusReporter Time Value Callback) :
    SameConfig reporter (reporter.perform limits now call).2 := by
  cases call with
  | updateHealthMetrics metrics =>
      simp only [perform, updateHealthMetrics]
      split <;> exact ⟨rfl, rfl, rfl, rfl, rfl⟩
  | healthCheck =>
      rcases perform_healthCheck limits now reporter with performed | performed
      all_goals rw [performed]; exact ⟨rfl, rfl, rfl, rfl, rfl⟩
  | _ => exact ⟨rfl, rfl, rfl, rfl, rfl⟩

theorem notifyStatusChange_keeps (notification : StatusNotification Time Value)
    (reporter : PrinterStatusReporter Time Value Callback) :
    (reporter.notifyStatusChange notification).statusHistorySize =
        reporter.statusHistorySize ∧
      (reporter.notifyStatusChange notification).enableNotifications =
        reporter.enableNotifications ∧
      (reporter.notifyStatusChange notification).currentStatus = reporter.currentStatus ∧
      (reporter.notifyStatusChange notification).statusHistory =
        reporter.statusHistory := by
  unfold notifyStatusChange
  split
  · cases reporter.notificationQueue.put notification <;> exact ⟨rfl, rfl, rfl, rfl⟩
  · exact ⟨rfl, rfl, rfl, rfl⟩

end PrinterStatusReporter

namespace ReporterRun

variable {size : Int} {enable : Bool}
  {run : ReporterRun Time Value Callback}

/-- What the history is in every state: the end of one linked chain of updates, whose
changes are the announced ones. -/
structure Chronicle (size : Int) (enable : Bool) (run : ReporterRun Time Value Callback) :
    Prop where
  configured : run.reporter.statusHistorySize = size
  enabled : run.reporter.enableNotifications = enable
  window : run.reporter.statusHistory = keepLast size.toNat run.recorded
  linked : Linked PrinterStatus.unknown.value run.recorded
  current : run.reporter.currentStatus.value =
    statusAfter PrinterStatus.unknown.value run.recorded
  announced : enable = true →
    run.offered.filter StatusNotification.isChange =
      run.recorded.filterMap StatusEntry.announcement

/-- Nothing of the chronicle is touched by an event that makes no call. -/
theorem Chronicle.of_same {after : ReporterRun Time Value Callback}
    (chronicle : Chronicle size enable run)
    (configured : after.reporter.statusHistorySize = run.reporter.statusHistorySize)
    (enabled : after.reporter.enableNotifications = run.reporter.enableNotifications)
    (history : after.reporter.statusHistory = run.reporter.statusHistory)
    (current : after.reporter.currentStatus = run.reporter.currentStatus)
    (recorded : after.recorded = run.recorded) (offered : after.offered = run.offered) :
    Chronicle size enable after where
  configured := configured.trans chronicle.configured
  enabled := enabled.trans chronicle.enabled
  window := by rw [history, recorded, chronicle.window]
  linked := recorded ▸ chronicle.linked
  current := by rw [current, recorded, chronicle.current]
  announced := by
    intro enabled
    rw [offered, recorded, chronicle.announced enabled]

theorem announcement_isChange {entry : StatusEntry Time Value}
    {notification : StatusNotification Time Value}
    (announced : notification ∈ entry.announcement) : notification.isChange = true := by
  obtain ⟨old, _, rfl⟩ := Option.map_eq_some_iff.mp announced
  rfl

theorem makeCall_eq (limits : HealthLimits Value) (now : Time) (call : ReporterCall Value)
    (run : ReporterRun Time Value Callback) :
    (run.makeCall limits now call).recorded =
        run.recorded ++ entryOf limits now call run.reporter ∧
      (run.makeCall limits now call).offered =
        run.offered ++ (run.reporter.perform limits now call).2.offers
          (run.reporter.perform limits now call).1 ∧
      (run.makeCall limits now call).reporter.statusHistorySize =
        run.reporter.statusHistorySize ∧
      (run.makeCall limits now call).reporter.enableNotifications =
        run.reporter.enableNotifications ∧
      (run.makeCall limits now call).reporter.currentStatus =
        (run.reporter.perform limits now call).2.currentStatus ∧
      (run.makeCall limits now call).reporter.statusHistory =
        (run.reporter.perform limits now call).2.statusHistory := by
  have config := perform_config limits now call run.reporter
  unfold makeCall
  dsimp only
  cases wanted : (run.reporter.perform limits now call).1 with
  | none => exact ⟨rfl, rfl, config.size, config.enabled, rfl, rfl⟩
  | some notification =>
      obtain ⟨size, enabled, current, history⟩ :=
        notifyStatusChange_keeps notification (run.reporter.perform limits now call).2
      exact ⟨rfl, rfl, size.trans config.size, enabled.trans config.enabled,
        current, history⟩

theorem makeCall_chronicle (limits : HealthLimits Value) (now : Time)
    (call : ReporterCall Value) (chronicle : Chronicle size enable run) :
    Chronicle size enable (run.makeCall limits now call) := by
  obtain ⟨recorded, offered, configured, enabled, current, history⟩ :=
    makeCall_eq limits now call run
  have performed := (perform_config limits now call run.reporter).enabled
  rcases perform_cases limits now call run.reporter with
    ⟨entry, status, entries, follows, set, wanted, after, pushed⟩ |
    ⟨entries, silent, after, kept⟩
  · rw [entries] at recorded
    constructor
    · exact configured.trans chronicle.configured
    · exact enabled.trans chronicle.enabled
    · rw [history, pushed, recorded, chronicle.configured, chronicle.window,
        record_keepLast]
    · rw [recorded]
      exact linked_append.mpr ⟨chronicle.linked, chronicle.current ▸ follows, trivial⟩
    · rw [current, after, recorded, statusAfter_append]
      exact set.symm
    · intro enables
      have noticed : (run.reporter.perform limits now call).2.enableNotifications = true :=
        performed.trans (chronicle.enabled.trans enables)
      rw [offered, recorded, List.filter_append, List.filterMap_append,
        chronicle.announced enables, wanted, offers, if_pos noticed]
      cases announced : entry.announcement with
      | none => simp [announced]
      | some notification => simp [announced, announcement_isChange announced]
  · rw [entries, List.append_nil] at recorded
    constructor
    · exact configured.trans chronicle.configured
    · exact enabled.trans chronicle.enabled
    · rw [history, kept, recorded, chronicle.window]
    · rw [recorded]
      exact chronicle.linked
    · rw [current, after, recorded, chronicle.current]
    · intro enables
      have none_changed : ((run.reporter.perform limits now call).2.offers
          (run.reporter.perform limits now call).1).filter
            StatusNotification.isChange = [] := by
        apply List.filter_eq_nil_iff.mpr
        intro notification member
        have wanted : notification ∈ (run.reporter.perform limits now call).1 := by
          unfold offers at member
          split at member
          · exact Option.mem_toList.mp member
          · cases member
        simp [silent notification wanted]
      rw [offered, recorded, List.filter_append, chronicle.announced enables, none_changed,
        List.append_nil]

theorem step_chronicle [DecidableEq Callback] (limits : HealthLimits Value)
    (event : ReporterEvent Time Value Callback) (chronicle : Chronicle size enable run) :
    Chronicle size enable (step limits event run) := by
  cases event with
  | call now call => exact makeCall_chronicle limits now call chronicle
  | addCallback callback =>
      unfold step addNotificationCallback
      dsimp only
      split <;> exact chronicle.of_same rfl rfl rfl rfl rfl rfl
  | removeCallback callback => exact chronicle.of_same rfl rfl rfl rfl rfl rfl
  | start => exact chronicle.of_same rfl rfl rfl rfl rfl rfl
  | stop =>
      unfold step stop
      dsimp only
      split <;> exact chronicle.of_same rfl rfl rfl rfl rfl rfl
  | processNotification raises =>
      simp only [step, processNotification]
      split
      · cases run.reporter.notificationQueue.take with
        | none => exact chronicle
        | some taken => exact chronicle.of_same rfl rfl rfl rfl rfl rfl
      · exact chronicle

/-- What can be seen of the chronicle.  The history never exceeds its size, each entry
names the status of the entry before it if it changed it, and an entry that lasts is
the current status. -/
structure Readable (size : Int) (reporter : PrinterStatusReporter Time Value Callback) :
    Prop where
  bounded : reporter.statusHistory.length ≤ size.toNat
  gapless : ∀ front entry next back,
    reporter.statusHistory = front ++ entry :: next :: back → Follows entry.status next
  latest : ∀ front entry, reporter.statusHistory = front ++ [entry] →
    reporter.currentStatus.value = entry.status

theorem Chronicle.readable (chronicle : Chronicle size enable run) :
    Readable size run.reporter := by
  obtain ⟨older, whole⟩ := chronicle.window ▸ keepLast_suffix size.toNat run.recorded
  constructor
  · rw [chronicle.window, keepLast_length]
    exact Nat.min_le_left _ _
  · intro front entry next back split
    have within : run.recorded = (older ++ front) ++ entry :: next :: back := by
      rw [← whole, split, List.append_assoc]
    exact chronicle.linked.follows within
  · intro front entry split
    rw [chronicle.current, ← whole, split, ← List.append_assoc, statusAfter_append]
    rfl

/-- In every run the status history is the last part of one gapless chain of updates
that ends in the current status, and when notifications are enabled the changes of
that chain are exactly the changes offered to the queue, in the same order. -/
theorem history_of_every_run [DecidableEq Callback] (limits : HealthLimits Value) (size : Int) (enable : Bool)
    (queueSize : Int) (events : List (ReporterEvent Time Value Callback)) :
    Chronicle size enable (Foundations.run (step limits) events (new size enable queueSize)) ∧
      Readable size
        (Foundations.run (step limits) events (new size enable queueSize)).reporter := by
  have start : Chronicle size enable
      (new size enable queueSize : ReporterRun Time Value Callback) :=
    ⟨rfl, rfl, (keepLast_of_le (Nat.zero_le _)).symm, trivial, rfl, fun _ => rfl⟩
  have chronicle : Chronicle size enable
      (Foundations.run (step limits) events (new size enable queueSize)) :=
    run_invariant (fun event {_} kept => step_chronicle limits event kept) events start
  exact ⟨chronicle, chronicle.readable⟩

end ReporterRun

end Pure3270
