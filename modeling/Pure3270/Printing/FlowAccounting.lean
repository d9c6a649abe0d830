import Mathlib.Data.List.Nodup
import Pure3270.Printing.PrintRouting

/-!
# The accounts of the printer flows

All flows share one translator and one counter.  A flow is forgotten before its printer
session is closed, and what is left of the bookkeeping waits until that has succeeded.
-/

namespace Pure3270

open Foundations

/-- How the closing of a printer session goes when all flows are closed at once: whether
the other closings begin before it is over, and whether it succeeds. -/
structure FlowClosing where
  suspends : Bool
  closes : Bool

namespace DataFlowController

/-- `_close_flow` until the printer session is closed. -/
def beginClosing (id : String) (controller : DataFlowController) : DataFlowController :=
  match controller.activeFlows.lookup id with
  | none => controller
  | some _ =>
      { controller with
        activeFlows := controller.activeFlows.filter fun entry => entry.1 ≠ id
        protocolTranslator :=
          if controller.protocolTranslator.printerSessionActive then
            controller.protocolTranslator.handlePrintJobEnd
          else controller.protocolTranslator }

/-- `_close_flow` of a flow that existed, from then on. -/
def finishClosing (closes : Bool) (controller : DataFlowController) : DataFlowController :=
  if closes then
    { controller with
      protocolTranslator := controller.protocolTranslator.deactivatePrinterSession
      activePrinterSessions := controller.activePrinterSessions - 1 }
  else controller

/-- One of the gathered closings, until it has to wait. -/
def gatherClosing (closing : String → FlowClosing) (controller : DataFlowController)
    (id : String) : DataFlowController :=
  if (closing id).suspends then controller.beginClosing id
  else controller.closeFlow id (closing id).closes

/-- The closings of `stop`, which are gathered: those that wait are finished when all have
begun. -/
def closeFlows (closing : String → FlowClosing) (controller : DataFlowController) :
    DataFlowController :=
  let ids := controller.activeFlows.map Prod.fst
  let begun := ids.foldl (gatherClosing closing) controller
  (ids.filter fun id => (closing id).suspends).foldl
    (fun controller id => controller.finishClosing (closing id).closes) begun

/-- `process_main_session_data` until print data is routed: the print data, if any. -/
def takePrintData (record : MainRecord) (controller : DataFlowController) :
    List UInt8 × DataFlowController :=
  let counted :=
    { controller with
      totalBytesProcessed := controller.totalBytesProcessed + record.data.length }
  let (detected, detector) := counted.jobDetector.detectPrintJob record.data record.header
  if detected then
    let ((_, printData), extracted) := detector.extractPrintData record.data record.header
    (printData,
      { counted with
        jobDetector := extracted
        printJobsDetected := counted.printJobsDetected + 1 })
  else ([], { counted with jobDetector := detector })

/-- `_route_print_data` until its flow is closed, where something was raised. -/
def attemptRoute (printData : List UInt8) (record : MainRecord)
    (controller : DataFlowController) : Bool × DataFlowController :=
  match controller.printerFlow record with
  | none => (true, { controller with errorsEncountered := controller.errorsEncountered + 1 })
  | some (flow, after) =>
      let (_, translated, translator) :=
        after.protocolTranslator.translateToPrinterSession printData
      let translating := { after with protocolTranslator := translator }
      if record.outcome.sends then
        (false,
          { translating with
            printed := translating.printed ++ [(flow.printerSessionId, translated)]
            printJobsRouted := translating.printJobsRouted + 1 })
      else
        (true, { translating with errorsEncountered := translating.errorsEncountered + 1 })

/-- The counter counts the flows, and the translator is active exactly while there are
some. -/
structure Accounted (controller : DataFlowController) : Prop where
  counted : controller.activePrinterSessions = controller.activeFlows.length
  active : controller.protocolTranslator.printerSessionActive = true ↔
    controller.activeFlows ≠ []

/-- No two flows have the same id. -/
def Distinct (controller : DataFlowController) : Prop :=
  (controller.activeFlows.map Prod.fst).Nodup

/-- The flow with this id is the only one. -/
def Alone (id : String) (controller : DataFlowController) : Prop :=
  ∀ entry ∈ controller.activeFlows, entry.1 = id

/-- What the closing of a flow leaves alone: the other flows, and the numbers of their
headers. -/
structure LeavesOthers (id : String) (before after : DataFlowController) : Prop where
  flows : after.activeFlows.filter (·.1 ≠ id) = before.activeFlows.filter (·.1 ≠ id)
  numbers : ¬ before.Alone id →
    after.protocolTranslator.sequenceNumber = before.protocolTranslator.sequenceNumber

/-- The record brings the host of a printer, and a printer session can be created. -/
def Creates (record : MainRecord) : Prop :=
  ∃ host, record.printerHost = some host ∧ host ≠ "" ∧ record.outcome.creates = true

variable {controller : DataFlowController} {id : String}

theorem closeFlow_eq (id : String) (closes : Bool) (controller : DataFlowController) :
    controller.closeFlow id closes =
      if controller.activeFlows.lookup id = none then controller
      else (controller.beginClosing id).finishClosing closes := by
  unfold closeFlow beginClosing
  cases controller.activeFlows.lookup id <;> rfl

theorem processMainSessionData_eq (record : MainRecord) (controller : DataFlowController) :
    (controller.processMainSessionData record).2 =
      let (printData, taken) := controller.takePrintData record
      if printData = [] then taken
      else
        let (raises, routed) := taken.routePrintData printData record
        if raises then { routed with errorsEncountered := routed.errorsEncountered + 1 }
        else routed := by
  unfold processMainSessionData takePrintData
  dsimp only
  cases controller.jobDetector.detectPrintJob record.data record.header with
  | mk detected detector =>
      cases detected with
      | false => rfl
      | true =>
          dsimp only
          rw [if_pos rfl, if_pos rfl]
          cases detector.extractPrintData record.data record.header with
          | mk parts extracted =>
              obtain ⟨mainData, printData⟩ := parts
              dsimp only
              split
              · rfl
              · split <;> rfl

theorem routePrintData_eq (printData : List UInt8) (record : MainRecord)
    (controller : DataFlowController) :
    controller.routePrintData printData record =
      let (raises, reached) := controller.attemptRoute printData record
      (raises, if raises then
        reached.closeFlow (flowId record.mainSessionId) record.outcome.closes else reached) := by
  unfold routePrintData attemptRoute
  dsimp only
  cases controller.printerFlow record with
  | none => rfl
  | some made =>
      dsimp only
      split <;> rfl

theorem takePrintData_flows (record : MainRecord) (controller : DataFlowController) :
    let taken := (controller.takePrintData record).2
    taken.activeFlows = controller.activeFlows ∧
      taken.protocolTranslator = controller.protocolTranslator ∧
      taken.activePrinterSessions = controller.activePrinterSessions := by
  unfold takePrintData
  dsimp only
  split <;> exact ⟨rfl, rfl, rfl⟩

theorem lookup_eq_none_iff : controller.activeFlows.lookup id = none ↔
    id ∉ controller.activeFlows.map Prod.fst := by
  rw [List.lookup_eq_none_iff, List.mem_map]
  constructor
  · rintro none ⟨entry, member, same⟩
    exact absurd same.symm (by simpa using none entry member)
  · intro new entry member
    simp only [bne_iff_ne, ne_eq]
    exact fun same => new ⟨entry, member, same.symm⟩

theorem length_without {entries : List (String × PrinterFlow)}
    (distinct : (entries.map Prod.fst).Nodup) (member : id ∈ entries.map Prod.fst) :
    (entries.filter (·.1 ≠ id)).length + 1 = entries.length := by
  have keys : (entries.filter (·.1 ≠ id)).map Prod.fst = (entries.map Prod.fst).erase id := by
    rw [distinct.erase_eq_filter, List.filter_map]
    refine congrArg (List.map Prod.fst) (List.filter_congr fun entry _ => ?_)
    by_cases same : entry.1 = id <;> simp [same]
  have counted := congrArg List.length keys
  rw [List.length_map, List.length_erase_of_mem member, List.length_map] at counted
  have positive := List.length_pos_of_mem member
  rw [List.length_map] at positive
  omega

theorem beginClosing_of_some {flow : PrinterFlow}
    (found : controller.activeFlows.lookup id = some flow) :
    (controller.beginClosing id).activeFlows = controller.activeFlows.filter (·.1 ≠ id) ∧
      (controller.beginClosing id).activePrinterSessions =
        controller.activePrinterSessions ∧
      (controller.beginClosing id).protocolTranslator.printerSessionActive =
        controller.protocolTranslator.printerSessionActive := by
  unfold beginClosing
  rw [found]
  refine ⟨rfl, rfl, ?_⟩
  cases active : controller.protocolTranslator.printerSessionActive <;>
    simp [ProtocolTranslator.handlePrintJobEnd, active]

@[simp] theorem finishClosing_activeFlows (closes : Bool) (controller : DataFlowController) :
    (controller.finishClosing closes).activeFlows = controller.activeFlows := by
  unfold finishClosing
  split <;> rfl

@[simp] theorem finishClosing_sessions (closes : Bool) (controller : DataFlowController) :
    (controller.finishClosing closes).activePrinterSessions =
      controller.activePrinterSessions - closes.toNat := by
  cases closes with
  | false => exact (Int.sub_zero _).symm
  | true => rfl

@[simp] theorem finishClosing_active (closes : Bool) (controller : DataFlowController) :
    (controller.finishClosing closes).protocolTranslator.printerSessionActive =
      (controller.protocolTranslator.printerSessionActive && !closes) := by
  cases closes with
  | false => exact (Bool.and_true _).symm
  | true => exact (Bool.and_false _).symm

theorem alone_iff : controller.Alone id ↔
    controller.activeFlows.filter (·.1 ≠ id) = [] := by
  rw [List.filter_eq_nil_iff]
  exact forall₂_congr fun entry _ => by simp

theorem closeFlow_iff (distinct : controller.Distinct) (accounted : controller.Accounted)
    {flow : PrinterFlow} (found : controller.activeFlows.lookup id = some flow)
    (closes : Bool) :
    ((controller.closeFlow id closes).Accounted ∧
        LeavesOthers id controller (controller.closeFlow id closes)) ↔
      closes = true ∧ controller.Alone id := by
  have listed : id ∈ controller.activeFlows.map Prod.fst := by
    by_contra new
    exact absurd (found.symm.trans (lookup_eq_none_iff.mpr new)) (Option.some_ne_none flow)
  obtain ⟨flows, sessions, active⟩ := beginClosing_of_some found
  have shorter := length_without distinct listed
  have counted := accounted.counted
  have exist : controller.activeFlows ≠ [] := by
    intro empty
    rw [empty] at found
    cases found
  rw [closeFlow_eq, if_neg (found ▸ Option.some_ne_none flow)]
  constructor
  · rintro ⟨after, _⟩
    have counts := after.counted
    rw [finishClosing_sessions, finishClosing_activeFlows, sessions, flows] at counts
    cases closes with
    | false =>
        rw [Bool.toNat_false] at counts
        omega
    | true =>
        refine ⟨rfl, alone_iff.mpr ?_⟩
        have inactive := after.active
        rw [finishClosing_active, finishClosing_activeFlows, flows] at inactive
        by_contra others
        exact absurd (inactive.mpr others) (by simp)
  · rintro ⟨succeeds, alone⟩
    subst succeeds
    have none := alone_iff.mp alone
    refine ⟨⟨?_, ?_⟩, ⟨?_, fun others => absurd alone others⟩⟩
    · rw [finishClosing_sessions, finishClosing_activeFlows, sessions, flows]
      rw [Bool.toNat_true]
      omega
    · rw [finishClosing_active, finishClosing_activeFlows, flows, none]
      simp
    · rw [finishClosing_activeFlows, flows, List.filter_filter]
      exact List.filter_congr fun entry _ => Bool.and_self _

theorem closeFlow_lookup (id : String) (closes : Bool) (controller : DataFlowController) :
    (controller.closeFlow id closes).activeFlows.lookup id = none := by
  rw [closeFlow_eq]
  split
  · next none => exact none
  · next some =>
      obtain ⟨flow, found⟩ := Option.ne_none_iff_exists'.mp some
      rw [finishClosing_activeFlows, (beginClosing_of_some found).1, List.lookup_eq_none_iff]
      intro entry member
      exact bne_iff_ne.mpr (Ne.symm (of_decide_eq_true (List.mem_filter.mp member).2))

theorem closeFlow_distinct (id : String) (closes : Bool) (distinct : controller.Distinct) :
    (controller.closeFlow id closes).Distinct := by
  rw [closeFlow_eq]
  split
  · exact distinct
  · next some =>
      obtain ⟨flow, found⟩ := Option.ne_none_iff_exists'.mp some
      unfold Distinct
      rw [finishClosing_activeFlows, (beginClosing_of_some found).1]
      exact (List.filter_sublist.map Prod.fst).nodup distinct

/-- A printer flow is found, or made, or cannot be made. -/
theorem printerFlow_cases (record : MainRecord) (controller : DataFlowController) :
    (∃ flow, controller.activeFlows.lookup (flowId record.mainSessionId) = some flow ∧
        controller.printerFlow record = some (flow, controller)) ∨
      (controller.activeFlows.lookup (flowId record.mainSessionId) = none ∧ Creates record ∧
        ∃ flow, controller.printerFlow record = some (flow,
          { controller with
            activeFlows := assign (flowId record.mainSessionId) flow controller.activeFlows
            protocolTranslator := .activatePrinterSession "tn3270e"
            activePrinterSessions := controller.activePrinterSessions + 1 })) ∨
      (controller.activeFlows.lookup (flowId record.mainSessionId) = none ∧
        ¬ Creates record ∧ controller.printerFlow record = none) := by
  unfold printerFlow
  dsimp only
  cases found : controller.activeFlows.lookup (flowId record.mainSessionId) with
  | some flow => exact .inl ⟨flow, rfl, rfl⟩
  | none =>
      right
      unfold createPrinterFlow Creates
      cases given : record.printerHost with
      | none =>
          right
          refine ⟨rfl, ?_, rfl⟩
          rintro ⟨_, none, _⟩
          cases none
      | some host =>
          dsimp only
          by_cases refused : host = "" ∨ record.outcome.creates = false
          · right
            rw [if_pos refused]
            refine ⟨rfl, ?_, rfl⟩
            rintro ⟨_, same, named, creates⟩
            cases same
            rcases refused with empty | fails
            · exact named empty
            · exact absurd creates (Bool.eq_false_iff.mp fails)
          · left
            rw [if_neg refused]
            obtain ⟨named, creates⟩ := not_or.mp refused
            exact ⟨rfl, ⟨host, rfl, named, Bool.eq_true_of_not_eq_false creates⟩, _, rfl⟩

/-- A flow that is made is counted, and activates the translator. -/
theorem accounted_created {flow : PrinterFlow}
    (new : controller.activeFlows.lookup id = none) (accounted : controller.Accounted) :
    Accounted
      { controller with
        activeFlows := assign id flow controller.activeFlows
        protocolTranslator := .activatePrinterSession "tn3270e"
        activePrinterSessions := controller.activePrinterSessions + 1 } := by
  have keys := keys_assign id flow controller.activeFlows
  rw [if_neg (lookup_eq_none_iff.mp new)] at keys
  have longer := congrArg List.length keys
  rw [List.length_append, List.length_map, List.length_map, List.length_singleton] at longer
  constructor
  · have counted := accounted.counted
    dsimp only
    omega
  · refine iff_of_true rfl fun empty => ?_
    rw [show assign id flow controller.activeFlows = [] from empty] at longer
    cases longer

/-- What has happened before a failing route closes its flow. -/
structure Reached (record : MainRecord) (raises : Bool) (before after : DataFlowController) :
    Prop where
  accounted : after.Accounted
  fails : raises = true ∧ after.activeFlows.lookup (flowId record.mainSessionId) ≠ none ↔
    record.outcome.sends = false ∧
      (before.activeFlows.lookup (flowId record.mainSessionId) ≠ none ∨ Creates record)
  alone : after.Alone (flowId record.mainSessionId) ↔ before.Alone (flowId record.mainSessionId)

/-- Only the flows, the counter and the activity of the translator matter. -/
theorem Accounted.of_same {other : DataFlowController} (accounted : controller.Accounted)
    (flows : other.activeFlows = controller.activeFlows)
    (sessions : other.activePrinterSessions = controller.activePrinterSessions)
    (active : other.protocolTranslator.printerSessionActive =
      controller.protocolTranslator.printerSessionActive) : other.Accounted := by
  constructor
  · rw [sessions, flows]
    exact accounted.counted
  · rw [active, flows]
    exact accounted.active

theorem attemptRoute_distinct (printData : List UInt8) (record : MainRecord)
    (distinct : controller.Distinct) :
    (controller.attemptRoute printData record).2.Distinct := by
  unfold attemptRoute
  rcases printerFlow_cases record controller with
    ⟨flow, _, same⟩ | ⟨_, _, flow, made⟩ | ⟨_, _, none⟩
  · rw [same]
    dsimp only
    split <;> exact distinct
  · rw [made]
    dsimp only
    split <;> exact distinct_assign _ flow distinct
  · rw [none]
    exact distinct

theorem attemptRoute_reached (printData : List UInt8) (record : MainRecord)
    (accounted : controller.Accounted) :
    Reached record (controller.attemptRoute printData record).1 controller
      (controller.attemptRoute printData record).2 := by
  unfold attemptRoute
  rcases printerFlow_cases record controller with
    ⟨flow, found, same⟩ | ⟨new, creates, flow, made⟩ | ⟨new, fails, none⟩
  · rw [same]
    have exist : controller.activeFlows.lookup (flowId record.mainSessionId) ≠ none :=
      found ▸ Option.some_ne_none flow
    dsimp only
    cases sends : record.outcome.sends with
    | true => exact ⟨accounted.of_same rfl rfl rfl, by simp [sends], Iff.rfl⟩
    | false =>
        exact ⟨accounted.of_same rfl rfl rfl, iff_of_true ⟨rfl, exist⟩ ⟨sends, .inl exist⟩,
          Iff.rfl⟩
  · rw [made]
    have exist : (assign (flowId record.mainSessionId) flow controller.activeFlows).lookup
        (flowId record.mainSessionId) ≠ none := by
      rw [lookup_assign, if_pos rfl]
      exact Option.some_ne_none flow
    have alone : ∀ counted : DataFlowController,
        counted.activeFlows =
          assign (flowId record.mainSessionId) flow controller.activeFlows →
        (counted.Alone (flowId record.mainSessionId) ↔
          controller.Alone (flowId record.mainSessionId)) := by
      intro counted flows
      rw [alone_iff, alone_iff, flows, others_assign]
    have created := @accounted_created _ _ flow new accounted
    dsimp only
    cases sends : record.outcome.sends with
    | true => exact ⟨created.of_same rfl rfl rfl, by simp [sends], alone _ rfl⟩
    | false =>
        exact ⟨created.of_same rfl rfl rfl, iff_of_true ⟨rfl, exist⟩ ⟨sends, .inr creates⟩,
          alone _ rfl⟩
  · rw [none]
    exact ⟨accounted.of_same rfl rfl rfl,
      iff_of_false (fun raised => raised.2 new)
        (fun either => either.2.elim (fun exist => exist new) fails), Iff.rfl⟩

/-- What one of the gathered closings does to a flow that exists. -/
theorem gatherClosing_of_some (closing : String → FlowClosing) {flow : PrinterFlow}
    (found : controller.activeFlows.lookup id = some flow) :
    let gathered := controller.gatherClosing closing id
    let done := !(closing id).suspends && (closing id).closes
    gathered.activeFlows = controller.activeFlows.filter (·.1 ≠ id) ∧
      gathered.activePrinterSessions = controller.activePrinterSessions - done.toNat ∧
      gathered.protocolTranslator.printerSessionActive =
        (controller.protocolTranslator.printerSessionActive && !done) := by
  obtain ⟨flows, sessions, active⟩ := beginClosing_of_some found
  have exist : controller.activeFlows.lookup id ≠ none := found ▸ Option.some_ne_none flow
  unfold gatherClosing
  rw [closeFlow_eq, if_neg exist]
  cases (closing id).suspends with
  | true =>
      exact ⟨flows, sessions.trans (Int.sub_zero _).symm,
        active.trans (Bool.and_true _).symm⟩
  | false =>
      refine ⟨?_, ?_, ?_⟩
      · exact (finishClosing_activeFlows _ _).trans flows
      · exact (finishClosing_sessions _ _).trans (congrArg (· - _) sessions)
      · exact (finishClosing_active _ _).trans (congrArg (· && _) active)

theorem sub_counted (total : Int) (done : Bool) (count : Nat) :
    total - done.toNat - count = total - ((count + if done then 1 else 0 : Nat) : Int) := by
  cases done with
  | true =>
      simp only [Bool.toNat_true, if_true]
      omega
  | false =>
      simp only [Bool.toNat_false, if_neg Bool.false_ne_true]
      omega

/-- When all closings have begun, their flows are gone, and those that did not wait are
counted. -/
theorem gathered_spec (closing : String → FlowClosing) {ids : List String}
    (distinct : ids.Nodup) (exist : ∀ id ∈ ids, controller.activeFlows.lookup id ≠ none) :
    let begun := ids.foldl (gatherClosing closing) controller
    let done := fun id => !(closing id).suspends && (closing id).closes
    begun.activeFlows = controller.activeFlows.filter (fun entry => entry.1 ∉ ids) ∧
      begun.activePrinterSessions = controller.activePrinterSessions - ids.countP done ∧
      begun.protocolTranslator.printerSessionActive =
        (controller.protocolTranslator.printerSessionActive && ids.all fun id => !done id) := by
  induction ids generalizing controller with
  | nil => simp
  | cons id ids ih =>
      obtain ⟨new, distinct⟩ := List.nodup_cons.mp distinct
      obtain ⟨flow, found⟩ := Option.ne_none_iff_exists'.mp (exist id List.mem_cons_self)
      obtain ⟨flows, sessions, active⟩ := gatherClosing_of_some closing found
      have still : ∀ other ∈ ids,
          (controller.gatherClosing closing id).activeFlows.lookup other ≠ none := by
        intro other member none
        refine exist other (List.mem_cons_of_mem id member) ?_
        rw [lookup_eq_none_iff] at none ⊢
        intro listed
        obtain ⟨entry, there, same⟩ := List.mem_map.mp listed
        refine none (List.mem_map.mpr ⟨entry, ?_, same⟩)
        rw [flows]
        refine List.mem_filter.mpr ⟨there, decide_eq_true ?_⟩
        rintro rfl
        exact new (same ▸ member)
      obtain ⟨flows', sessions', active'⟩ := ih distinct still
      rw [List.foldl_cons]
      refine ⟨?_, ?_, ?_⟩
      · rw [flows', flows, List.filter_filter]
        refine List.filter_congr fun entry _ => ?_
        simp only [List.mem_cons, not_or, Bool.decide_and, Bool.and_comm]
      · rw [sessions', sessions, List.countP_cons, sub_counted]
      · rw [active', active, List.all_cons, Bool.and_assoc]

theorem finished_spec (closing : String → FlowClosing) (ids : List String)
    (controller : DataFlowController) :
    let finished := ids.foldl
      (fun controller id => controller.finishClosing (closing id).closes) controller
    finished.activeFlows = controller.activeFlows ∧
      finished.activePrinterSessions =
        controller.activePrinterSessions - ids.countP (fun id => (closing id).closes) ∧
      finished.protocolTranslator.printerSessionActive =
        (controller.protocolTranslator.printerSessionActive &&
          ids.all fun id => !(closing id).closes) := by
  induction ids generalizing controller with
  | nil => simp
  | cons id ids ih =>
      obtain ⟨flows, sessions, active⟩ := ih (controller.finishClosing (closing id).closes)
      rw [List.foldl_cons]
      refine ⟨?_, ?_, ?_⟩
      · rw [flows, finishClosing_activeFlows]
      · rw [sessions, finishClosing_sessions, List.countP_cons, sub_counted]
      · rw [active, finishClosing_active, List.all_cons, Bool.and_assoc]

/-- No closing succeeds if none succeeds at once and none does after waiting. -/
theorem all_split (waits succeeds : String → Bool) (ids : List String) :
    ((ids.all fun id => !(!waits id && succeeds id)) &&
        (ids.filter waits).all fun id => !succeeds id) = ids.all fun id => !succeeds id := by
  induction ids with
  | nil => rfl
  | cons id ids ih =>
      simp only [List.all_cons, ← ih, List.filter_cons]
      cases waits id with
      | false =>
          simp only [if_neg Bool.false_ne_true, Bool.not_false, Bool.true_and, Bool.and_assoc]
      | true =>
          simp only [if_true, List.all_cons, Bool.not_true, Bool.false_and, Bool.not_false,
            Bool.true_and]
          exact Bool.and_left_comm _ _ _

/-- In whatever order the closings of all flows end, no flow is left, and every closing
that succeeded is counted. -/
theorem closeFlows_spec (closing : String → FlowClosing) (distinct : controller.Distinct) :
    let closed := controller.closeFlows closing
    let ids := controller.activeFlows.map Prod.fst
    closed.activeFlows = [] ∧
      closed.activePrinterSessions =
        controller.activePrinterSessions - ids.countP (fun id => (closing id).closes) ∧
      closed.protocolTranslator.printerSessionActive =
        (controller.protocolTranslator.printerSessionActive &&
          ids.all fun id => !(closing id).closes) := by
  have exist : ∀ id ∈ controller.activeFlows.map Prod.fst,
      controller.activeFlows.lookup id ≠ none := by
    intro id member none
    exact lookup_eq_none_iff.mp none member
  obtain ⟨flows, sessions, active⟩ := gathered_spec closing distinct exist
  obtain ⟨flows', sessions', active'⟩ := finished_spec closing
    ((controller.activeFlows.map Prod.fst).filter fun id => (closing id).suspends)
    ((controller.activeFlows.map Prod.fst).foldl (gatherClosing closing) controller)
  unfold closeFlows
  refine ⟨?_, ?_, ?_⟩
  · rw [flows', flows, List.filter_eq_nil_iff]
    intro entry member
    simpa using ⟨entry.2, member⟩
  · rw [sessions', sessions, List.countP_filter]
    have split := List.countP_eq_countP_filter_add
      (controller.activeFlows.map Prod.fst) (fun id => (closing id).closes)
      (fun id => (closing id).suspends)
    rw [List.countP_filter, List.countP_filter] at split
    simp only [Bool.and_comm] at split ⊢
    omega
  · rw [active', active, Bool.and_assoc, all_split]

theorem closeFlows_accounted_iff (closing : String → FlowClosing)
    (distinct : controller.Distinct) (accounted : controller.Accounted) :
    (controller.closeFlows closing).Accounted ↔
      ∀ entry ∈ controller.activeFlows, (closing entry.1).closes = true := by
  obtain ⟨flows, sessions, active⟩ := closeFlows_spec closing distinct
  have counted := accounted.counted
  have all : (∀ entry ∈ controller.activeFlows, (closing entry.1).closes = true) ↔
      (controller.activeFlows.map Prod.fst).countP (fun id => (closing id).closes) =
        (controller.activeFlows.map Prod.fst).length := by
    rw [List.countP_eq_length, List.forall_mem_map]
  rw [all]
  rw [List.length_map] at all ⊢
  constructor
  · intro after
    have counts := after.counted
    rw [sessions, flows, List.length_nil] at counts
    omega
  · intro closed
    constructor
    · rw [sessions, flows, List.length_nil]
      omega
    · rw [active, flows]
      refine iff_of_false (fun still => ?_) (not_not_intro rfl)
      obtain ⟨before, none⟩ := (Bool.and_eq_true _ _).mp still
      obtain ⟨entry, member⟩ := List.exists_mem_of_ne_nil _ (accounted.active.mp before)
      have fails := List.all_eq_true.mp none entry.1 (List.mem_map_of_mem member)
      have succeeds := all.mpr closed entry member
      rw [succeeds] at fails
      cases fails

end DataFlowController

/-- A controller between calls, and whether it has been started. -/
structure FlowService where
  started : Bool
  controller : DataFlowController

/-- The calls of a controller.  For `start` and `stop` it is said whether the session
manager starts and stops without raising. -/
inductive FlowCall where
  | start (starts : Bool)
  | process (record : MainRecord)
  | complete (mainSessionId : String) (closes : Bool)
  | stop (closing : String → FlowClosing) (stops : Bool)

namespace FlowService

open DataFlowController

def new : FlowService := { started := false, controller := .new }

def step : FlowCall → FlowService → FlowService
  | .start starts, service => { service with started := service.started || starts }
  | .process record, service =>
      if service.started then
        { service with controller := (service.controller.processMainSessionData record).2 }
      else service
  | .complete mainSessionId closes, service =>
      { service with controller := service.controller.closeFlow (flowId mainSessionId) closes }
  | .stop closing stops, service =>
      if service.started then
        { started := !stops, controller := service.controller.closeFlows closing }
      else service

/-- The state in which the call closes the flow of one session, with the id of that flow and
whether the closing succeeds.  Only a route that fails and a completion do so. -/
def closing : FlowCall → FlowService → Option (String × Bool × DataFlowController)
  | .process record, service =>
      let (printData, taken) := service.controller.takePrintData record
      let (raises, reached) := taken.attemptRoute printData record
      if service.started ∧ printData ≠ [] ∧ raises then
        some (flowId record.mainSessionId, record.outcome.closes, reached)
      else none
  | .complete mainSessionId closes, service =>
      some (flowId mainSessionId, closes, service.controller)
  | _, _ => none

/-- A call that closes the flow of one session leaves no flow for it, and the others and
their numbers alone. -/
def Orderly (call : FlowCall) (service : FlowService) : Prop :=
  ∀ closed ∈ closing call service,
    LeavesOthers closed.1 closed.2.2 (closed.2.2.closeFlow closed.1 closed.2.1) ∧
      (step call service).controller.activeFlows.lookup closed.1 = none

/-- The record has print data for which the flow exists or is made, and which is not
sent. -/
def FailsToSend (record : MainRecord) (service : FlowService) : Prop :=
  service.started = true ∧ (service.controller.takePrintData record).1 ≠ [] ∧
    record.outcome.sends = false ∧
      (service.controller.activeFlows.lookup (flowId record.mainSessionId) ≠ none ∨
        Creates record)

/-- Where the flow of one session is closed, this succeeds and no other flow exists; where
all flows are closed, all of this succeeds. -/
def ClosesAlone : FlowCall → FlowService → Prop
  | .start _, _ => True
  | .process record, service => FailsToSend record service →
      record.outcome.closes = true ∧ service.controller.Alone (flowId record.mainSessionId)
  | .complete mainSessionId closes, service =>
      service.controller.activeFlows.lookup (flowId mainSessionId) ≠ none →
        closes = true ∧ service.controller.Alone (flowId mainSessionId)
  | .stop closing _, service => service.started = true →
      ∀ entry ∈ service.controller.activeFlows, (closing entry.1).closes = true

theorem closed_iff {controller : DataFlowController} (distinct : controller.Distinct)
    (accounted : controller.Accounted) (id : String) (closes : Bool) :
    ((controller.closeFlow id closes).Accounted ∧
        LeavesOthers id controller (controller.closeFlow id closes)) ↔
      (controller.activeFlows.lookup id ≠ none →
        closes = true ∧ controller.Alone id) := by
  cases found : controller.activeFlows.lookup id with
  | none =>
      rw [closeFlow_eq, if_pos found]
      exact iff_of_true ⟨accounted, ⟨rfl, fun _ => rfl⟩⟩ fun exist => absurd rfl exist
  | some flow =>
      rw [closeFlow_iff distinct accounted found]
      exact ⟨fun both _ => both, fun both => both (Option.some_ne_none flow)⟩

theorem step_distinct (call : FlowCall) {service : FlowService}
    (distinct : service.controller.Distinct) : (step call service).controller.Distinct := by
  cases call with
  | start starts => exact distinct
  | process record =>
      simp only [step]
      split
      · rw [processMainSessionData_eq]
        have taken : (service.controller.takePrintData record).2.Distinct := by
          unfold Distinct
          rw [(takePrintData_flows record service.controller).1]
          exact distinct
        dsimp only
        split
        · exact taken
        · rw [routePrintData_eq]
          have attempted := attemptRoute_distinct
            (service.controller.takePrintData record).1 record taken
          dsimp only
          split
          · exact closeFlow_distinct _ _ attempted
          · exact attempted
      · exact distinct
  | complete mainSessionId closes => exact closeFlow_distinct _ closes distinct
  | stop closing stops =>
      simp only [step]
      split
      · unfold Distinct
        rw [(closeFlows_spec closing distinct).1]
        exact List.nodup_nil
      · exact distinct

/-- A record that is not routed, or routed without an error, closes nothing. -/
theorem process_quiet (record : MainRecord) {service : FlowService}
    (accounted : (step (.process record) service).controller.Accounted)
    (none : closing (.process record) service = none)
    (sent : ¬ FailsToSend record service) :
    (step (.process record) service).controller.Accounted ∧ Orderly (.process record) service ↔
      ClosesAlone (.process record) service := by
  refine iff_of_true ⟨accounted, ?_⟩ fun fails => absurd fails sent
  intro closed member
  rw [none] at member
  cases member

theorem failsToSend_iff {record : MainRecord} {service : FlowService}
    {printData : List UInt8} {after : DataFlowController} (started : service.started = true)
    (taken : service.controller.takePrintData record = (printData, after))
    (some : printData ≠ []) :
    FailsToSend record service ↔ record.outcome.sends = false ∧
      (after.activeFlows.lookup (flowId record.mainSessionId) ≠ none ∨ Creates record) := by
  have flows := (takePrintData_flows record service.controller).1
  rw [taken] at flows
  unfold FailsToSend
  rw [taken, flows]
  simp only [started, true_and, ne_eq, some, not_false_eq_true]

theorem process_failed_iff {record : MainRecord} {service : FlowService}
    {printData : List UInt8} {after last : DataFlowController}
    (started : service.started = true)
    (taken : service.controller.takePrintData record = (printData, after))
    (some : printData ≠ []) (attempted : after.attemptRoute printData record = (true, last))
    (distinct : last.Distinct) (reached : Reached record true after last)
    (processed : (step (.process record) service).controller =
      { last.closeFlow (flowId record.mainSessionId) record.outcome.closes with
        errorsEncountered := (last.closeFlow (flowId record.mainSessionId)
          record.outcome.closes).errorsEncountered + 1 }) :
    (step (.process record) service).controller.Accounted ∧ Orderly (.process record) service ↔
      ClosesAlone (.process record) service := by
  have fails := (failsToSend_iff started taken some).trans reached.fails.symm
  have closed : closing (.process record) service =
      Option.some (flowId record.mainSessionId, record.outcome.closes, last) := by
    simp only [closing, taken, attempted]
    exact if_pos ⟨started, some, trivial⟩
  have alone : after.Alone (flowId record.mainSessionId) ↔
      service.controller.Alone (flowId record.mainSessionId) := by
    have flows := (takePrintData_flows record service.controller).1
    rw [taken] at flows
    unfold Alone
    rw [flows]
  have exact' := closed_iff distinct reached.accounted (flowId record.mainSessionId)
    record.outcome.closes
  simp only [ClosesAlone, Orderly]
  rw [closed, processed]
  simp only [Option.mem_def, Option.some.injEq, forall_eq', closeFlow_lookup, and_true]
  rw [fails, ← alone, ← reached.alone, and_iff_right rfl, ← exact']
  constructor
  · rintro ⟨counted, others⟩
    exact ⟨counted.of_same rfl rfl rfl, others⟩
  · rintro ⟨counted, others⟩
    exact ⟨counted.of_same rfl rfl rfl, others⟩

theorem process_iff (record : MainRecord) {service : FlowService}
    (distinct : service.controller.Distinct) (accounted : service.controller.Accounted) :
    (step (.process record) service).controller.Accounted ∧ Orderly (.process record) service ↔
      ClosesAlone (.process record) service := by
  by_cases started : service.started = true
  · obtain ⟨flows, translator, sessions⟩ := takePrintData_flows record service.controller
    have processed : (step (.process record) service).controller =
        (service.controller.processMainSessionData record).2 := by
      simp only [step, if_pos started]
    rw [processMainSessionData_eq] at processed
    cases taken : service.controller.takePrintData record with
    | mk printData after =>
        rw [taken] at flows translator sessions processed
        dsimp only at flows translator sessions processed
        have before : after.Accounted :=
          accounted.of_same flows sessions (congrArg (·.printerSessionActive) translator)
        by_cases empty : printData = []
        · rw [if_pos empty] at processed
          refine process_quiet record (processed ▸ before) ?_ ?_
          · simp only [closing, taken]
            exact if_neg fun some => some.2.1 empty
          · rintro ⟨_, some, _⟩
            rw [taken] at some
            exact some empty
        · rw [if_neg empty, routePrintData_eq] at processed
          have reached := attemptRoute_reached printData record before
          have distinct' : (after.attemptRoute printData record).2.Distinct := by
            apply attemptRoute_distinct
            unfold Distinct
            rw [flows]
            exact distinct
          cases attempted : after.attemptRoute printData record with
          | mk raises last =>
              rw [attempted] at processed reached distinct'
              dsimp only at processed reached distinct'
              cases raises with
              | false =>
                  rw [if_neg Bool.false_ne_true, if_neg Bool.false_ne_true] at processed
                  refine process_quiet record (processed ▸ reached.accounted) ?_ ?_
                  · simp only [closing, taken, attempted]
                    exact if_neg fun some => Bool.false_ne_true some.2.2
                  · intro failing
                    have sent := (failsToSend_iff started taken empty).mp failing
                    exact Bool.false_ne_true (reached.fails.mpr sent).1
              | true =>
                  rw [if_pos rfl, if_pos rfl] at processed
                  exact process_failed_iff started taken empty attempted distinct' reached
                    processed
  · have same : step (.process record) service = service := by
      simp only [step, if_neg started]
    refine process_quiet record (same.symm ▸ accounted) ?_ fun fails => started fails.1
    simp only [closing]
    exact if_neg fun some => started some.1

theorem step_iff (call : FlowCall) {service : FlowService}
    (distinct : service.controller.Distinct) (accounted : service.controller.Accounted) :
    (step call service).controller.Accounted ∧ Orderly call service ↔
      ClosesAlone call service := by
  cases call with
  | start starts =>
      exact iff_of_true ⟨accounted, fun closed member => by cases member⟩ trivial
  | process record => exact process_iff record distinct accounted
  | complete mainSessionId closes =>
      unfold Orderly closing
      simp only [Option.mem_def, Option.some.injEq, forall_eq']
      exact (and_congr_right fun _ => and_iff_left (closeFlow_lookup _ closes _)).trans
        (closed_iff distinct accounted (flowId mainSessionId) closes)
  | stop closing stops =>
      have orderly : Orderly (.stop closing stops) service := by
        intro closed member
        cases member
      rw [and_iff_left orderly]
      simp only [step, ClosesAlone]
      by_cases started : service.started = true
      · rw [if_pos started]
        rw [closeFlows_accounted_iff closing distinct accounted]
        exact ⟨fun all _ => all, fun all => all started⟩
      · rw [if_neg started]
        exact iff_of_true accounted fun stopped => absurd stopped started

/-- The accounts are right between all calls, and every closing of one flow is orderly,
exactly when flows are closed alone. -/
theorem accounted_throughout_iff (calls : List FlowCall) :
    (Always step (fun service => service.controller.Accounted) calls new ∧
        Along step Orderly calls new) ↔ Along step ClosesAlone calls new := by
  refine @always_and_along_iff _ _ _ (fun service => service.controller.Distinct) _ _ _
    ?_ ?_ _ _ List.nodup_nil ?_
  · intro call service distinct
    exact step_distinct call distinct
  · intro call service distinct accounted
    exact step_iff call distinct accounted
  · exact ⟨rfl, iff_of_false Bool.false_ne_true fun some => some rfl⟩

/-- A print job of a session. -/
def printJob (mainSessionId : String) : MainRecord where
  data := [0xC1]
  header := some ⟨Tn3270eHeader.scsData, 0, 0, 1⟩
  mainSessionId := mainSessionId
  printerHost := some "printer"
  printerPort := 23
  outcome := { creates := true, sends := true, closes := true }

/-- The completion of one of two print jobs deactivates the translator of both. -/
theorem not_accounted_secondJob :
    ¬ (Always step (fun service => service.controller.Accounted)
          [.start true, .process (printJob "first"), .process (printJob "second"),
            .complete "first" true] new ∧
        Along step Orderly
          [.start true, .process (printJob "first"), .process (printJob "second"),
            .complete "first" true] new) := by
  rintro ⟨always, _⟩
  exact absurd always.last.active (by decide +kernel)

end FlowService

end Pure3270
