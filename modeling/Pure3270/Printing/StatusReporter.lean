import Pure3270.Foundations.Mailboxes
import Pure3270.Foundations.Runs
import Pure3270.Foundations.Shelves
import Pure3270.Foundations.GrowingLists

/-!
# The status reporter of the printer

Status updates are kept in a history of bounded size and announced in a queue of
bounded size.  No method waits while it holds the status lock, and none waits for
the queue, so each call is one step whatever other tasks do.
-/

namespace Pure3270

open Foundations

inductive PrinterStatus where
  | healthy
  | degraded
  | unhealthy
  | down
  | maintenance
  | unknown
  deriving DecidableEq

def PrinterStatus.value : PrinterStatus → String
  | .healthy => "healthy"
  | .degraded => "degraded"
  | .unhealthy => "unhealthy"
  | .down => "down"
  | .maintenance => "maintenance"
  | .unknown => "unknown"

theorem PrinterStatus.value_inj {status other : PrinterStatus} :
    status.value = other.value ↔ status = other := by
  constructor
  · intro same
    cases status <;> cases other <;> first | rfl | exact absurd same (by decide)
  · rintro rfl
    rfl

inductive StatusEvent where
  | statusChange
  | healthCheck
  | errorOccurred
  | recoverySuccess
  | performanceIssue
  | resourceWarning
  deriving DecidableEq

inductive NotificationPriority where
  | low
  | medium
  | high
  | critical
  deriving DecidableEq

/-- What a context dictionary holds under a key. -/
inductive Detail (Value : Type) where
  | value (value : Value)
  | metrics (metrics : List (String × Value))

abbrev Context (Value : Type) := List (String × Detail Value)

structure StatusNotification (Time Value : Type) where
  eventType : StatusEvent
  priority : NotificationPriority
  message : String
  context : Context Value
  timestamp : Time

/-- An entry of `_status_history`. -/
structure StatusEntry (Time Value : Type) where
  timestamp : Time
  status : String
  previousStatus : Option String
  reason : String
  context : Context Value

/-- How Python compares a metric with the limits of `_evaluate_health_status`. -/
structure HealthLimits (Value : Type) where
  overFiveFailures : Value → Bool
  overTenPercent : Value → Bool

/-- The state of a background task. -/
inductive BackgroundTask where
  | absent
  | active
  | failed
  deriving DecidableEq

structure PrinterStatusReporter (Time Value Callback : Type) where
  statusHistorySize : Int
  enableNotifications : Bool
  currentStatus : PrinterStatus
  statusHistory : List (StatusEntry Time Value)
  lastHealthCheck : Option Time
  healthMetrics : List (String × Value)
  performanceCounters : List (String × Int)
  errorCounters : List (String × Nat)
  notificationCallbacks : List Callback
  notificationQueue : Mailbox (StatusNotification Time Value)
  notificationTask : BackgroundTask
  healthCheckTask : BackgroundTask

/-- The calls that report something. -/
inductive ReporterCall (Value : Type) where
  | updateStatus (status : PrinterStatus) (reason : String) (context : Context Value)
  | reportError (errorType message : String) (context : Context Value)
  | reportRecovery (operation : String) (context : Context Value)
  | updateHealthMetrics (metrics : List (String × Value))
  | incrementPerformanceCounter (name : String) (increment : Int)
  | healthCheck

namespace PrinterStatusReporter

variable {Time Value Callback : Type}

/-- `PrinterStatusReporter.__init__`. -/
def new (statusHistorySize : Int) (enableNotifications : Bool)
    (notificationQueueSize : Int) : PrinterStatusReporter Time Value Callback :=
  { statusHistorySize, enableNotifications
    currentStatus := .unknown
    statusHistory := []
    lastHealthCheck := none
    healthMetrics := []
    performanceCounters := []
    errorCounters := []
    notificationCallbacks := []
    notificationQueue := .empty notificationQueueSize
    notificationTask := .absent
    healthCheckTask := .absent }

/-- The entry that `update_status` records. -/
def statusEntry (now : Time) (status : PrinterStatus) (reason : String)
    (context : Context Value) (reporter : PrinterStatusReporter Time Value Callback) :
    StatusEntry Time Value where
  timestamp := now
  status := status.value
  previousStatus :=
    if reporter.currentStatus ≠ status then some reporter.currentStatus.value else none
  reason := reason
  context := context

/-- The notification of a recorded change. -/
def changeNotification (now : Time) (status : PrinterStatus) (reason : String)
    (context : Context Value) (old : PrinterStatus) : StatusNotification Time Value where
  eventType := .statusChange
  priority := if status ≠ .down then .medium else .critical
  message :=
    "Status changed from " ++ old.value ++ " to " ++ status.value ++ ": " ++ reason
  context := context
  timestamp := now

/-- `update_status`, and the notification that it asks for. -/
def updateStatus (now : Time) (status : PrinterStatus) (reason : String)
    (context : Context Value) (reporter : PrinterStatusReporter Time Value Callback) :
    Option (StatusNotification Time Value) × PrinterStatusReporter Time Value Callback :=
  (if reporter.currentStatus ≠ status then
      some (changeNotification now status reason context reporter.currentStatus)
    else none,
    { reporter with
      currentStatus := status
      statusHistory :=
        record reporter.statusHistorySize (reporter.statusEntry now status reason context)
          reporter.statusHistory })

def reportError (now : Time) (errorType message : String) (context : Context Value)
    (reporter : PrinterStatusReporter Time Value Callback) :
    Option (StatusNotification Time Value) × PrinterStatusReporter Time Value Callback :=
  let errorCount := (reporter.errorCounters.lookup errorType).getD 0 + 1
  (some
    { eventType := .errorOccurred
      priority :=
        if 10 < errorCount then .high else if 5 < errorCount then .medium else .low
      message := "Error (" ++ errorType ++ "): " ++ message
      context := context
      timestamp := now },
    { reporter with errorCounters := assign errorType errorCount reporter.errorCounters })

def reportRecovery (now : Time) (operation : String) (context : Context Value) :
    StatusNotification Time Value where
  eventType := .recoverySuccess
  priority := .medium
  message := "Recovery successful for operation: " ++ operation
  context := context
  timestamp := now

/-- `dict.update`. -/
def updateMetrics (metrics old : List (String × Value)) : List (String × Value) :=
  metrics.foldl (fun kept entry => assign entry.1 entry.2 kept) old

/-- What `_evaluate_health_status` asks for. -/
def healthStatus (limits : HealthLimits Value) (metrics : List (String × Value)) :
    PrinterStatus × String :=
  if (metrics.lookup "connection_failures").any limits.overFiveFailures then
    (.unhealthy, "High connection failure rate")
  else if (metrics.lookup "error_rate").any limits.overTenPercent then
    (.degraded, "High error rate detected")
  else (.healthy, "Conditions optimal")

/-- The reporter of `update_health_metrics` before it evaluates the metrics. -/
def withMetrics (now : Time) (metrics : List (String × Value))
    (reporter : PrinterStatusReporter Time Value Callback) :
    PrinterStatusReporter Time Value Callback :=
  { reporter with
    healthMetrics := updateMetrics metrics reporter.healthMetrics
    lastHealthCheck := some now }

def updateHealthMetrics (limits : HealthLimits Value) (now : Time)
    (metrics : List (String × Value))
    (reporter : PrinterStatusReporter Time Value Callback) :
    Option (StatusNotification Time Value) × PrinterStatusReporter Time Value Callback :=
  let measured := reporter.withMetrics now metrics
  let (status, reason) := healthStatus limits measured.healthMetrics
  if status ≠ measured.currentStatus then measured.updateStatus now status reason []
  else (none, measured)

/-- A round of `_run_health_checks`, with the default `_perform_health_check`. -/
def healthCheckRound (now : Time) (reporter : PrinterStatusReporter Time Value Callback) :
    StatusNotification Time Value × PrinterStatusReporter Time Value Callback :=
  ({ eventType := .healthCheck
     priority := .low
     message := "Periodic health check completed"
     context := [("health_metrics", .metrics reporter.healthMetrics)]
     timestamp := now },
    { reporter with lastHealthCheck := some now })

def incrementPerformanceCounter (name : String) (increment : Int)
    (reporter : PrinterStatusReporter Time Value Callback) :
    PrinterStatusReporter Time Value Callback :=
  { reporter with
    performanceCounters :=
      assign name ((reporter.performanceCounters.lookup name).getD 0 + increment)
        reporter.performanceCounters }

/-- What a call does before it notifies, and what it wants to notify. -/
def perform (limits : HealthLimits Value) (now : Time) :
    ReporterCall Value → PrinterStatusReporter Time Value Callback →
      Option (StatusNotification Time Value) × PrinterStatusReporter Time Value Callback
  | .updateStatus status reason context, reporter =>
      reporter.updateStatus now status reason context
  | .reportError errorType message context, reporter =>
      reporter.reportError now errorType message context
  | .reportRecovery operation context, reporter =>
      (some (reportRecovery now operation context), reporter)
  | .updateHealthMetrics metrics, reporter =>
      reporter.updateHealthMetrics limits now metrics
  | .incrementPerformanceCounter name increment, reporter =>
      (none, reporter.incrementPerformanceCounter name increment)
  | .healthCheck, reporter =>
      if reporter.healthCheckTask = .active then
        let (notification, after) := reporter.healthCheckRound now
        (some notification, after)
      else (none, reporter)

/-- `_notify_status_change`: a full queue drops the notification. -/
def notifyStatusChange (notification : StatusNotification Time Value)
    (reporter : PrinterStatusReporter Time Value Callback) :
    PrinterStatusReporter Time Value Callback :=
  if reporter.enableNotifications then
    match reporter.notificationQueue.put notification with
    | none => reporter
    | some filled => { reporter with notificationQueue := filled }
  else reporter

/-- What `_notify_status_change` offers to the queue. -/
def offers (wanted : Option (StatusNotification Time Value))
    (reporter : PrinterStatusReporter Time Value Callback) :
    List (StatusNotification Time Value) :=
  if reporter.enableNotifications then wanted.toList else []

def start (reporter : PrinterStatusReporter Time Value Callback) :
    PrinterStatusReporter Time Value Callback :=
  { reporter with
    notificationTask :=
      if reporter.notificationTask = .absent ∧ reporter.enableNotifications then .active
      else reporter.notificationTask
    healthCheckTask :=
      if reporter.healthCheckTask = .absent then .active else reporter.healthCheckTask }

/-- `stop`.  Waiting for a failed notification task raises its exception, and nothing
more is cleaned up. -/
def stop (reporter : PrinterStatusReporter Time Value Callback) :
    PrinterStatusReporter Time Value Callback :=
  let stopped := { reporter with healthCheckTask := .absent }
  if reporter.notificationTask = .failed then stopped
  else { stopped with notificationTask := .absent, notificationCallbacks := [] }

variable [DecidableEq Callback]

def addNotificationCallback (callback : Callback)
    (reporter : PrinterStatusReporter Time Value Callback) :
    PrinterStatusReporter Time Value Callback :=
  if callback ∈ reporter.notificationCallbacks then reporter
  else
    { reporter with
      notificationCallbacks := reporter.notificationCallbacks ++ [callback] }

def removeNotificationCallback (callback : Callback)
    (reporter : PrinterStatusReporter Time Value Callback) :
    PrinterStatusReporter Time Value Callback :=
  { reporter with
    notificationCallbacks := reporter.notificationCallbacks.erase callback }

end PrinterStatusReporter

/-- A reporter, and all that was recorded, offered, queued, taken and heard. -/
structure ReporterRun (Time Value Callback : Type) where
  reporter : PrinterStatusReporter Time Value Callback
  recorded : List (StatusEntry Time Value)
  offered : List (StatusNotification Time Value)
  accepted : List (StatusNotification Time Value)
  taken : List (StatusNotification Time Value)
  heard : List (Callback × StatusNotification Time Value)

/-- What any of the tasks does next.  A round of `_process_notifications` is told which
callbacks raise. -/
inductive ReporterEvent (Time Value Callback : Type) where
  | call (now : Time) (call : ReporterCall Value)
  | addCallback (callback : Callback)
  | removeCallback (callback : Callback)
  | start
  | stop
  | processNotification (raises : Callback → Bool)

/-- The callbacks that a round calls: none after the first that raises. -/
def calledCallbacks {Callback : Type} (raises : Callback → Bool) :
    List Callback → List Callback
  | [] => []
  | callback :: callbacks =>
      if raises callback then [callback] else callback :: calledCallbacks raises callbacks

namespace ReporterRun

open PrinterStatusReporter

variable {Time Value Callback : Type}

def new (statusHistorySize : Int) (enableNotifications : Bool)
    (notificationQueueSize : Int) : ReporterRun Time Value Callback :=
  { reporter := .new statusHistorySize enableNotifications notificationQueueSize
    recorded := []
    offered := []
    accepted := []
    taken := []
    heard := [] }

/-- The entry that a call adds to the history. -/
def entryOf (limits : HealthLimits Value) (now : Time) :
    ReporterCall Value → PrinterStatusReporter Time Value Callback →
      List (StatusEntry Time Value)
  | .updateStatus status reason context, reporter =>
      [reporter.statusEntry now status reason context]
  | .updateHealthMetrics metrics, reporter =>
      let measured := reporter.withMetrics now metrics
      let (status, reason) := healthStatus limits measured.healthMetrics
      if status ≠ measured.currentStatus then [measured.statusEntry now status reason []]
      else []
  | _, _ => []

/-- One round of `_process_notifications`. -/
def processNotification (raises : Callback → Bool)
    (run : ReporterRun Time Value Callback) : ReporterRun Time Value Callback :=
  if run.reporter.notificationTask = .active then
    match run.reporter.notificationQueue.take with
    | none => run
    | some (notification, rest) =>
        let callbacks := run.reporter.notificationCallbacks
        { run with
          reporter :=
            { run.reporter with
              notificationQueue := rest
              notificationTask := if callbacks.any raises then .failed else .active }
          taken := run.taken ++ [notification]
          heard := run.heard ++ (calledCallbacks raises callbacks).map (·, notification) }
  else run

/-- A call, and the notification at its end. -/
def makeCall (limits : HealthLimits Value) (now : Time) (call : ReporterCall Value)
    (run : ReporterRun Time Value Callback) : ReporterRun Time Value Callback :=
  let (wanted, performed) := run.reporter.perform limits now call
  let recorded := run.recorded ++ entryOf limits now call run.reporter
  let offered := run.offered ++ performed.offers wanted
  match wanted with
  | none => { run with reporter := performed, recorded, offered }
  | some notification =>
      { run with
        reporter := performed.notifyStatusChange notification
        recorded, offered
        accepted :=
          if performed.enableNotifications ∧ ¬ performed.notificationQueue.full then
            run.accepted ++ [notification]
          else run.accepted }

def step [DecidableEq Callback] (limits : HealthLimits Value) :
    ReporterEvent Time Value Callback → ReporterRun Time Value Callback →
      ReporterRun Time Value Callback
  | .call now call, run => run.makeCall limits now call
  | .addCallback callback, run =>
      { run with reporter := run.reporter.addNotificationCallback callback }
  | .removeCallback callback, run =>
      { run with reporter := run.reporter.removeNotificationCallback callback }
  | .start, run => { run with reporter := run.reporter.start }
  | .stop, run => { run with reporter := run.reporter.stop }
  | .processNotification raises, run => run.processNotification raises

end ReporterRun

end Pure3270
