import Mathlib.Data.List.Nodup
import Pure3270.Printing.StatusHistory

/-!
# The notifications of the status reporter

The calls that report and the task that calls the callbacks meet only in the queue.
Each callback hears a part of what was offered, in the order it was offered and
nothing twice; a callback that raises ends the task for good.
-/

namespace Pure3270

open Foundations PrinterStatusReporter

variable {Time Value Callback : Type} [DecidableEq Callback]

/-- What a callback was called with, in order. -/
def heardBy {Notification : Type} (callback : Callback)
    (heard : List (Callback × Notification)) : List Notification :=
  (heard.filter (·.1 = callback)).map Prod.snd

theorem heardBy_append {Notification : Type} (callback : Callback)
    (front back : List (Callback × Notification)) :
    heardBy callback (front ++ back) = heardBy callback front ++ heardBy callback back := by
  unfold heardBy
  rw [List.filter_append, List.map_append]

theorem heardBy_round {Notification : Type} (callback : Callback)
    (called : List Callback) (notification : Notification) :
    heardBy callback (called.map (·, notification)) =
      List.replicate (called.count callback) notification := by
  unfold heardBy
  induction called with
  | nil => rfl
  | cons first called ih =>
      by_cases here : first = callback
      · simp [here, ih, List.replicate_succ]
      · simp [here, ih]

omit [DecidableEq Callback] in
theorem calledCallbacks_isPrefix (raises : Callback → Bool) (callbacks : List Callback) :
    calledCallbacks raises callbacks <+: callbacks := by
  induction callbacks with
  | nil => exact List.prefix_refl []
  | cons callback callbacks ih =>
      unfold calledCallbacks
      split
      · exact ⟨callbacks, rfl⟩
      · exact (List.prefix_cons_inj callback).mpr ih

theorem heardBy_round_sublist {Notification : Type} (callback : Callback)
    (raises : Callback → Bool) {callbacks : List Callback} (distinct : callbacks.Nodup)
    (notification : Notification) :
    (heardBy callback ((calledCallbacks raises callbacks).map (·, notification))).Sublist
      [notification] := by
  have once : (calledCallbacks raises callbacks).count callback ≤ 1 :=
    List.nodup_iff_count_le_one.mp
      (distinct.sublist (calledCallbacks_isPrefix raises callbacks).sublist) callback
  rw [heardBy_round]
  exact (List.replicate_sublist_replicate notification).mpr once

namespace ReporterRun

variable {queueSize : Int} {run : ReporterRun Time Value Callback}

/-- What becomes of the notifications in every state. -/
structure Delivered (queueSize : Int) (run : ReporterRun Time Value Callback) : Prop where
  capacity : run.reporter.notificationQueue.capacity = queueSize
  handled : Handled run.offered run.accepted run.taken run.reporter.notificationQueue
  distinct : run.reporter.notificationCallbacks.Nodup
  heard : ∀ callback, (heardBy callback run.heard).Sublist run.taken

/-- An event that leaves the queue alone. -/
theorem Delivered.of_same {after : ReporterRun Time Value Callback}
    (delivered : Delivered queueSize run)
    (queue : after.reporter.notificationQueue = run.reporter.notificationQueue)
    (offered : after.offered = run.offered) (accepted : after.accepted = run.accepted)
    (taken : after.taken = run.taken) (heard : after.heard = run.heard)
    (distinct : after.reporter.notificationCallbacks.Nodup) :
    Delivered queueSize after where
  capacity := queue ▸ delivered.capacity
  handled := by
    rw [queue, offered, accepted, taken]
    exact delivered.handled
  distinct := distinct
  heard := by
    rw [heard, taken]
    exact delivered.heard

omit [DecidableEq Callback] in
theorem makeCall_offers (limits : HealthLimits Value) (now : Time)
    (call : ReporterCall Value) (run : ReporterRun Time Value Callback) :
    (run.makeCall limits now call).taken = run.taken ∧
      (run.makeCall limits now call).heard = run.heard ∧
      (run.makeCall limits now call).reporter.notificationCallbacks =
        run.reporter.notificationCallbacks ∧
      (run.makeCall limits now call).reporter.notificationTask =
        run.reporter.notificationTask ∧
      (((run.makeCall limits now call).offered = run.offered ∧
          (run.makeCall limits now call).accepted = run.accepted ∧
          (run.makeCall limits now call).reporter.notificationQueue =
            run.reporter.notificationQueue) ∨
        ∃ notification,
          (run.makeCall limits now call).offered = run.offered ++ [notification] ∧
          ((run.reporter.notificationQueue.put notification = none ∧
              (run.makeCall limits now call).accepted = run.accepted ∧
              (run.makeCall limits now call).reporter.notificationQueue =
                run.reporter.notificationQueue) ∨
            ((run.makeCall limits now call).accepted = run.accepted ++ [notification] ∧
              run.reporter.notificationQueue.put notification =
                some (run.makeCall limits now call).reporter.notificationQueue))) := by
  obtain ⟨_, enabled, queue, callbacks, task⟩ := perform_config limits now call run.reporter
  have offered := (makeCall_eq limits now call run).2.1
  unfold makeCall at offered ⊢
  dsimp only at offered ⊢
  cases wanted : (run.reporter.perform limits now call).1 with
  | none =>
      refine ⟨rfl, rfl, callbacks, task, .inl ⟨?_, rfl, queue⟩⟩
      simp [offers]
  | some notification =>
      simp only [notifyStatusChange, offers, queue, enabled]
      by_cases enables : run.reporter.enableNotifications = true
      · cases full : run.reporter.notificationQueue.full with
        | true =>
            have refused : run.reporter.notificationQueue.put notification = none :=
              if_pos full
            simp only [enables, refused, if_true, not_true_eq_false, and_false, if_false]
            exact ⟨trivial, trivial, callbacks, task, .inr ⟨notification, rfl,
              .inl ⟨refused, trivial, queue⟩⟩⟩
        | false =>
            have accepts : run.reporter.notificationQueue.put notification =
                some { run.reporter.notificationQueue with
                  waiting := run.reporter.notificationQueue.waiting ++ [notification] } :=
              if_neg (by simp [full])
            simp only [enables, accepts, if_true]
            exact ⟨trivial, trivial, callbacks, task, .inr ⟨notification, rfl,
              .inr ⟨by simp, accepts⟩⟩⟩
      · simp only [enables]
        exact ⟨trivial, trivial, callbacks, task, .inl ⟨by simp, by simp, queue⟩⟩

omit [DecidableEq Callback] in
theorem makeCall_accepts (limits : HealthLimits Value) (now : Time)
    (call : ReporterCall Value) (run : ReporterRun Time Value Callback) :
    ∃ offer : Option (StatusNotification Time Value),
      (run.makeCall limits now call).offered = run.offered ++ offer.toList ∧
      (run.makeCall limits now call).accepted = run.accepted ++
        if run.reporter.notificationQueue.full then [] else offer.toList := by
  obtain ⟨-, -, -, -, queued⟩ := makeCall_offers limits now call run
  rcases queued with ⟨offered, accepted, -⟩ | ⟨notification, offered, put⟩
  · refine ⟨none, ?_, ?_⟩
    · simp [offered]
    · simp [accepted]
  · refine ⟨some notification, offered, ?_⟩
    rcases put with ⟨refused, accepted, -⟩ | ⟨accepted, put⟩
    · have full : run.reporter.notificationQueue.full = true :=
        Mailbox.put_eq_none_iff.mp refused
      rw [accepted, if_pos full, List.append_nil]
    · have room : ¬ run.reporter.notificationQueue.full = true := by
        intro full
        rw [Mailbox.put_eq_none_iff.mpr full] at put
        cases put
      rw [accepted, if_neg room]
      rfl

theorem makeCall_delivered (limits : HealthLimits Value) (now : Time)
    (call : ReporterCall Value) (delivered : Delivered queueSize run) :
    Delivered queueSize (run.makeCall limits now call) := by
  obtain ⟨taken, heard, callbacks, _, queued⟩ := makeCall_offers limits now call run
  have distinct := callbacks ▸ delivered.distinct
  rcases queued with ⟨offered, accepted, queue⟩ | ⟨notification, offered, put⟩
  · exact delivered.of_same queue offered accepted taken heard distinct
  · obtain ⟨refuses, accepts⟩ := delivered.handled.offer notification
    rcases put with ⟨full, accepted, queue⟩ | ⟨accepted, put⟩
    · constructor
      · exact queue ▸ delivered.capacity
      · rw [offered, accepted, taken, queue]
        exact refuses full
      · exact distinct
      · rw [heard, taken]
        exact delivered.heard
    · constructor
      · exact (Mailbox.put_capacity put).trans delivered.capacity
      · rw [offered, accepted, taken]
        exact accepts put
      · exact distinct
      · rw [heard, taken]
        exact delivered.heard

theorem processNotification_delivered (raises : Callback → Bool)
    (delivered : Delivered queueSize run) :
    Delivered queueSize (run.processNotification raises) := by
  unfold processNotification
  split
  · cases took : run.reporter.notificationQueue.take with
    | none => exact delivered
    | some next =>
        obtain ⟨notification, rest⟩ := next
        constructor
        · exact (Mailbox.take_capacity took).trans delivered.capacity
        · exact delivered.handled.take took
        · exact delivered.distinct
        · intro callback
          rw [heardBy_append]
          exact (delivered.heard callback).append
            (heardBy_round_sublist callback raises delivered.distinct notification)
  · exact delivered

theorem step_delivered (limits : HealthLimits Value)
    (event : ReporterEvent Time Value Callback) (delivered : Delivered queueSize run) :
    Delivered queueSize (step limits event run) := by
  cases event with
  | call now call => exact makeCall_delivered limits now call delivered
  | addCallback callback =>
      apply delivered.of_same <;> simp only [step, addNotificationCallback]
      all_goals split
      all_goals try rfl
      · exact delivered.distinct
      · next fresh =>
          exact List.nodup_append.mpr ⟨delivered.distinct, List.nodup_singleton callback,
            fun other member last same same' => fresh
              (List.mem_singleton.mp same ▸ same' ▸ member)⟩
  | removeCallback callback =>
      exact delivered.of_same rfl rfl rfl rfl rfl (delivered.distinct.erase callback)
  | start => exact delivered.of_same rfl rfl rfl rfl rfl delivered.distinct
  | stop =>
      simp only [step, stop]
      split
      · exact delivered.of_same rfl rfl rfl rfl rfl delivered.distinct
      · exact delivered.of_same rfl rfl rfl rfl rfl List.nodup_nil
  | processNotification raises => exact processNotification_delivered raises delivered

/-- The notification task has died and what it has done is all it ever does. -/
structure Deaf (taken : List (StatusNotification Time Value))
    (heard : List (Callback × StatusNotification Time Value))
    (run : ReporterRun Time Value Callback) : Prop where
  failed : run.reporter.notificationTask = .failed
  taken : run.taken = taken
  heard : run.heard = heard

theorem step_deaf {taken : List (StatusNotification Time Value)}
    {heard : List (Callback × StatusNotification Time Value)}
    (limits : HealthLimits Value) (event : ReporterEvent Time Value Callback)
    (deaf : Deaf taken heard run) : Deaf taken heard (step limits event run) := by
  have failed := deaf.failed
  cases event with
  | call now call =>
      obtain ⟨same, same', _, task, _⟩ := makeCall_offers limits now call run
      exact ⟨task.trans failed, same.trans deaf.taken, same'.trans deaf.heard⟩
  | addCallback callback =>
      simp only [step, addNotificationCallback]
      split <;> exact ⟨failed, deaf.taken, deaf.heard⟩
  | removeCallback callback => exact ⟨failed, deaf.taken, deaf.heard⟩
  | start =>
      refine ⟨?_, deaf.taken, deaf.heard⟩
      simp only [step, PrinterStatusReporter.start, failed]
      rfl
  | stop =>
      simp only [step, stop, if_pos failed]
      exact ⟨failed, deaf.taken, deaf.heard⟩
  | processNotification raises =>
      have inactive : ¬ run.reporter.notificationTask = .active := by simp [failed]
      simp only [step, processNotification, if_neg inactive]
      exact deaf

end ReporterRun

end Pure3270
