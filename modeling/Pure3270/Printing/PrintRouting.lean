import Pure3270.Foundations.Runs
import Pure3270.Foundations.Shelves
import Pure3270.Protocol.Tn3270eHeader

/-!
# Routing print data to a printer session

The detector looks at the header of a record, at its bytes, and at whether a print job
is open; the controller asks it twice for each record.
-/

namespace Pure3270

open Foundations

structure PrintJobDetector where
  inPrintJob : Bool
  currentJobData : List (List UInt8)
  jobSequenceNumber : Nat
  lastHeader : Option Tn3270eHeader

namespace PrintJobDetector

def new : PrintJobDetector :=
  { inPrintJob := false, currentJobData := [], jobSequenceNumber := 0, lastHeader := none }

/-- `_start_print_job`, where no job is open. -/
def startPrintJob (detector : PrintJobDetector) : PrintJobDetector :=
  if detector.inPrintJob then detector
  else
    { detector with
      inPrintJob := true
      currentJobData := []
      jobSequenceNumber := detector.jobSequenceNumber + 1 }

/-- `_end_print_job`. -/
def endPrintJob (detector : PrintJobDetector) : PrintJobDetector :=
  { detector with inPrintJob := false }

/-- The control codes that SCS data starts with. -/
def scsIndicators : List UInt8 := [0x01, 0x0C, 0x0D, 0x0A, 0x09, 0x2B, 0x2D]

/-- `_contains_scs_indicators`. -/
def containsScsIndicators (data : List UInt8) : Bool :=
  match data with
  | first :: _ :: _ =>
      decide (first ∈ scsIndicators) ||
        decide (3 ≤ (data.take 20).countP fun byte => byte < 0x20 || byte = 0x40)
  | _ => false

/-- The test of the bytes, at the end of `detect_print_job`. -/
def detectContent (data : List UInt8) (detector : PrintJobDetector) :
    Bool × PrintJobDetector :=
  if containsScsIndicators data then (true, detector.startPrintJob)
  else (detector.inPrintJob, detector)

def detectPrintJob (data : List UInt8) (header : Option Tn3270eHeader)
    (detector : PrintJobDetector) : Bool × PrintJobDetector :=
  match header with
  | none => detector.detectContent data
  | some header =>
      let noted := { detector with lastHeader := some header }
      if header.dataType = Tn3270eHeader.scsData then (true, noted.startPrintJob)
      else if header.dataType = Tn3270eHeader.printEoj then (true, noted.endPrintJob)
      else if header.dataType = Tn3270eHeader.tn3270Data ∧ containsScsIndicators data then
        (true, noted.startPrintJob)
      else noted.detectContent data

/-- `_extract_embedded_scs`: the whole chunk or nothing. -/
def extractEmbeddedScs (data : List UInt8) : List UInt8 × List UInt8 :=
  if containsScsIndicators data then ([], data) else (data, [])

/-- `extract_print_data`: the session data and the print data. -/
def extractPrintData (data : List UInt8) (header : Option Tn3270eHeader)
    (detector : PrintJobDetector) : (List UInt8 × List UInt8) × PrintJobDetector :=
  let (detected, after) := detector.detectPrintJob data header
  if detected then
    if after.inPrintJob then
      (([], data), { after with currentJobData := after.currentJobData ++ [data] })
    else
      match header with
      | some header =>
          if header.dataType = Tn3270eHeader.tn3270Data then
            let (sessionData, printData) := extractEmbeddedScs data
            ((sessionData, printData),
              if printData = [] then after
              else { after with currentJobData := after.currentJobData ++ [printData] })
          else ((data, []), after)
      | none => ((data, []), after)
  else ((data, []), after)

end PrintJobDetector

/-- `ProtocolTranslator`, as far as printer sessions use it. -/
structure ProtocolTranslator where
  printerSessionActive : Bool
  sequenceNumber : Nat
  sessionType : Option String

namespace ProtocolTranslator

def new : ProtocolTranslator :=
  { printerSessionActive := false, sequenceNumber := 0, sessionType := none }

def activatePrinterSession (sessionType : String) : ProtocolTranslator :=
  { printerSessionActive := true, sequenceNumber := 0, sessionType := some sessionType }

def deactivatePrinterSession (translator : ProtocolTranslator) : ProtocolTranslator :=
  { translator with printerSessionActive := false, sessionType := none }

/-- `translate_to_printer_session` for "tn3270e", with the header it makes;
`_format_scs_data` leaves the data as it is. -/
def translateToPrinterSession (data : List UInt8) (translator : ProtocolTranslator) :
    Tn3270eHeader × List UInt8 × ProtocolTranslator :=
  ({ dataType := Tn3270eHeader.scsData
     requestFlag := 0
     responseFlag := Tn3270eHeader.rsfNoResponse
     seqNumber := .ofNat translator.sequenceNumber },
    data,
    { translator with
      sessionType := some "tn3270e"
      sequenceNumber := translator.sequenceNumber + 1 })

/-- `handle_print_job_end`, whose data is empty. -/
def handlePrintJobEnd (translator : ProtocolTranslator) : ProtocolTranslator :=
  { translator with sequenceNumber := translator.sequenceNumber + 1 }

end ProtocolTranslator

structure PrinterFlow where
  mainSessionId : String
  printerSessionId : String
  printerHost : String
  printerPort : Int

/-- How the operations of the session manager go while a record is processed. -/
structure PrinterOutcome where
  creates : Bool
  sends : Bool
  closes : Bool

/-- A record of the main session, with the arguments of
`process_main_session_data`. -/
structure MainRecord where
  data : List UInt8
  header : Option Tn3270eHeader
  mainSessionId : String
  printerHost : Option String
  printerPort : Int
  outcome : PrinterOutcome

/-- `DataFlowController`, and what has been sent through which printer session. -/
structure DataFlowController where
  jobDetector : PrintJobDetector
  protocolTranslator : ProtocolTranslator
  activeFlows : List (String × PrinterFlow)
  totalBytesProcessed : Nat
  printJobsDetected : Nat
  printJobsRouted : Nat
  activePrinterSessions : Int
  errorsEncountered : Nat
  printed : List (String × List UInt8)

namespace DataFlowController

/-- A controller after `start`. -/
def new : DataFlowController :=
  { jobDetector := .new
    protocolTranslator := .new
    activeFlows := []
    totalBytesProcessed := 0
    printJobsDetected := 0
    printJobsRouted := 0
    activePrinterSessions := 0
    errorsEncountered := 0
    printed := [] }

def flowId (mainSessionId : String) : String := mainSessionId ++ "_printer"

/-- `_create_printer_flow`. -/
def createPrinterFlow (record : MainRecord) (controller : DataFlowController) :
    Option (PrinterFlow × DataFlowController) :=
  match record.printerHost with
  | none => none
  | some host =>
      if host = "" ∨ record.outcome.creates = false then none
      else
        some
          ({ mainSessionId := record.mainSessionId
             printerSessionId := flowId record.mainSessionId ++ "_session"
             printerHost := host
             printerPort := record.printerPort },
            { controller with
              protocolTranslator := .activatePrinterSession "tn3270e"
              activePrinterSessions := controller.activePrinterSessions + 1 })

/-- `_close_flow`. -/
def closeFlow (id : String) (closes : Bool) (controller : DataFlowController) :
    DataFlowController :=
  match controller.activeFlows.lookup id with
  | none => controller
  | some _ =>
      let ended :=
        { controller with
          activeFlows := controller.activeFlows.filter fun entry => entry.1 ≠ id
          protocolTranslator :=
            if controller.protocolTranslator.printerSessionActive then
              controller.protocolTranslator.handlePrintJobEnd
            else controller.protocolTranslator }
      if closes then
        { ended with
          protocolTranslator := ended.protocolTranslator.deactivatePrinterSession
          activePrinterSessions := ended.activePrinterSessions - 1 }
      else ended

/-- The flow of a main session, made when there is none. -/
def printerFlow (record : MainRecord) (controller : DataFlowController) :
    Option (PrinterFlow × DataFlowController) :=
  let id := flowId record.mainSessionId
  match controller.activeFlows.lookup id with
  | some flow => some (flow, controller)
  | none =>
      (controller.createPrinterFlow record).map fun (flow, after) =>
        (flow, { after with activeFlows := assign id flow after.activeFlows })

/-- `_route_print_data`, and whether it raises. -/
def routePrintData (printData : List UInt8) (record : MainRecord)
    (controller : DataFlowController) : Bool × DataFlowController :=
  let failed (controller : DataFlowController) : Bool × DataFlowController :=
    (true, { controller with
      errorsEncountered := controller.errorsEncountered + 1 }.closeFlow
        (flowId record.mainSessionId) record.outcome.closes)
  match controller.printerFlow record with
  | none => failed controller
  | some (flow, after) =>
      let (_, translated, translator) :=
        after.protocolTranslator.translateToPrinterSession printData
      let translating := { after with protocolTranslator := translator }
      if record.outcome.sends then
        (false,
          { translating with
            printed := translating.printed ++ [(flow.printerSessionId, translated)]
            printJobsRouted := translating.printJobsRouted + 1 })
      else failed translating

/-- `process_main_session_data` of a started controller: what the main session gets, or
nothing where a ProtocolError is raised. -/
def processMainSessionData (record : MainRecord) (controller : DataFlowController) :
    Option (List UInt8 × Option Tn3270eHeader) × DataFlowController :=
  let counted :=
    { controller with
      totalBytesProcessed := controller.totalBytesProcessed + record.data.length }
  let (detected, detector) := counted.jobDetector.detectPrintJob record.data record.header
  if detected then
    let ((mainData, printData), extracted) :=
      detector.extractPrintData record.data record.header
    let detecting :=
      { counted with
        jobDetector := extracted
        printJobsDetected := counted.printJobsDetected + 1 }
    if printData = [] then (some (mainData, record.header), detecting)
    else
      let (raises, routed) := detecting.routePrintData printData record
      if raises then
        (none, { routed with errorsEncountered := routed.errorsEncountered + 1 })
      else (some (mainData, record.header), routed)
  else (some (record.data, record.header), { counted with jobDetector := detector })

end DataFlowController

namespace PrintJobDetector

variable {header : Tn3270eHeader}

/-- Whether a record with this data type counts as print data, where `opened` says
whether a print job is open. -/
def takes (dataType : UInt8) (data : List UInt8) (opened : Bool) : Bool :=
  decide (dataType = Tn3270eHeader.scsData) ||
    !decide (dataType = Tn3270eHeader.printEoj) && (opened || containsScsIndicators data)

theorem startPrintJob_inPrintJob (detector : PrintJobDetector) :
    detector.startPrintJob.inPrintJob = true := by
  unfold startPrintJob
  split
  · next opened => exact opened
  · rfl

/-- A record is detected when it counts as print data or is PRINT-EOJ, and a job is
open afterwards in the former case. -/
theorem detectPrintJob_spec (data : List UInt8) (header : Tn3270eHeader)
    (detector : PrintJobDetector) :
    let detected := detector.detectPrintJob data (some header)
    detected.2.inPrintJob = takes header.dataType data detector.inPrintJob ∧
      detected.1 = (takes header.dataType data detector.inPrintJob ||
        decide (header.dataType = Tn3270eHeader.printEoj)) := by
  unfold detectPrintJob takes
  dsimp only
  by_cases scs : header.dataType = Tn3270eHeader.scsData
  · rw [if_pos scs, decide_eq_true scs]
    exact ⟨startPrintJob_inPrintJob _, rfl⟩
  · rw [if_neg scs, decide_eq_false scs]
    by_cases eoj : header.dataType = Tn3270eHeader.printEoj
    · rw [if_pos eoj, decide_eq_true eoj]
      exact ⟨rfl, rfl⟩
    · rw [if_neg eoj, decide_eq_false eoj]
      cases looks : containsScsIndicators data with
      | true =>
          rw [Bool.or_true]
          by_cases screen : header.dataType = Tn3270eHeader.tn3270Data
          · rw [if_pos ⟨screen, rfl⟩]
            exact ⟨startPrintJob_inPrintJob _, rfl⟩
          · rw [if_neg fun both => screen both.1]
            unfold detectContent
            rw [if_pos looks]
            exact ⟨startPrintJob_inPrintJob _, rfl⟩
      | false =>
          rw [if_neg fun both => Bool.false_ne_true both.2]
          unfold detectContent
          rw [looks]
          simp

/-- The second look at a record sees what the first one saw. -/
theorem takes_takes (dataType : UInt8) (data : List UInt8) (opened : Bool) :
    takes dataType data (takes dataType data opened) = takes dataType data opened := by
  unfold takes
  cases decide (dataType = Tn3270eHeader.scsData) <;>
    cases decide (dataType = Tn3270eHeader.printEoj) <;> cases opened <;>
      cases containsScsIndicators data <;> rfl

theorem takes_printEoj {dataType : UInt8} (eoj : dataType = Tn3270eHeader.printEoj)
    (data : List UInt8) (opened : Bool) : takes dataType data opened = false := by
  rw [eoj]
  rfl

/-- What is taken out of a record that has been looked at once: everything, or
nothing. -/
theorem extractPrintData_spec (data : List UInt8) (header : Tn3270eHeader)
    {detector : PrintJobDetector} {opened : Bool}
    (first : detector.inPrintJob = takes header.dataType data opened) :
    let extracted := detector.extractPrintData data (some header)
    let taken := takes header.dataType data opened
    extracted.1 = (if taken then ([], data) else (data, [])) ∧
      extracted.2.inPrintJob = taken := by
  have seen := detectPrintJob_spec data header detector
  rw [first, takes_takes] at seen
  unfold extractPrintData
  cases detected : detector.detectPrintJob data (some header) with
  | mk found after =>
      rw [detected] at seen
      obtain ⟨open', found'⟩ := seen
      dsimp only at open' found' ⊢
      rw [found', open']
      cases taken : takes header.dataType data opened with
      | true => exact ⟨rfl, rfl⟩
      | false =>
          rw [Bool.false_or]
          by_cases eoj : header.dataType = Tn3270eHeader.printEoj
          · rw [decide_eq_true eoj, eoj]
            exact ⟨rfl, open'.trans taken⟩
          · rw [decide_eq_false eoj]
            exact ⟨rfl, open'.trans taken⟩

end PrintJobDetector

namespace DataFlowController

/-- Every flow has the printer session that was made for it. -/
def FlowsNamed (controller : DataFlowController) : Prop :=
  ∀ entry ∈ controller.activeFlows, entry.2.printerSessionId = entry.1 ++ "_session"

/-- A record for whose printer session everything succeeds. -/
structure Printable (record : MainRecord) : Prop where
  host : ∃ host, record.printerHost = some host ∧ host ≠ ""
  creates : record.outcome.creates = true
  sends : record.outcome.sends = true

def printerSessionOf (record : MainRecord) : String :=
  flowId record.mainSessionId ++ "_session"

variable {controller : DataFlowController} {record : MainRecord}

theorem printerFlow_spec (named : FlowsNamed controller) (printable : Printable record) :
    ∃ flow after, controller.printerFlow record = some (flow, after) ∧
      flow.printerSessionId = printerSessionOf record ∧ FlowsNamed after ∧
      after.jobDetector = controller.jobDetector ∧ after.printed = controller.printed := by
  unfold printerFlow
  dsimp only
  cases found : controller.activeFlows.lookup (flowId record.mainSessionId) with
  | some flow =>
      obtain ⟨before, after, listed, _⟩ := List.lookup_eq_some_iff.mp found
      have here := named _ (listed ▸ List.mem_append_right before List.mem_cons_self)
      exact ⟨flow, controller, rfl, here, named, rfl, rfl⟩
  | none =>
      obtain ⟨host, given, named'⟩ := printable.host
      unfold createPrinterFlow
      rw [given]
      dsimp only
      rw [if_neg (by simp [named', printable.creates])]
      refine ⟨_, _, rfl, rfl, ?_, rfl, rfl⟩
      intro entry member
      rcases mem_assign member with here | there
      · rw [here]
      · exact named entry there

theorem routePrintData_spec (printData : List UInt8) (named : FlowsNamed controller)
    (printable : Printable record) :
    ∃ after, controller.routePrintData printData record = (false, after) ∧
      after.printed = controller.printed ++ [(printerSessionOf record, printData)] ∧
      FlowsNamed after ∧ after.jobDetector = controller.jobDetector := by
  obtain ⟨flow, after, made, session, stillNamed, detector, printed⟩ :=
    printerFlow_spec named printable
  unfold routePrintData
  rw [made]
  dsimp only
  rw [if_pos printable.sends]
  refine ⟨_, rfl, ?_, stillNamed, detector⟩
  change after.printed ++ [(flow.printerSessionId, printData)] = _
  rw [printed, session]

theorem processMainSessionData_spec {header : Tn3270eHeader}
    (given : record.header = some header) (named : FlowsNamed controller)
    (printable : Printable record) :
    let processed := controller.processMainSessionData record
    let taken := PrintJobDetector.takes header.dataType record.data
      controller.jobDetector.inPrintJob
    processed.1 = some (if taken then [] else record.data, some header) ∧
      processed.2.jobDetector.inPrintJob = taken ∧
      processed.2.printed = controller.printed ++
        (if taken ∧ record.data ≠ [] then [(printerSessionOf record, record.data)] else []) ∧
      FlowsNamed processed.2 := by
  unfold processMainSessionData
  rw [given]
  dsimp only
  have first := PrintJobDetector.detectPrintJob_spec record.data header controller.jobDetector
  cases seen : controller.jobDetector.detectPrintJob record.data (some header) with
  | mk detected detector =>
      rw [seen] at first
      obtain ⟨open', found⟩ := first
      dsimp only at open' found ⊢
      have second := PrintJobDetector.extractPrintData_spec record.data header open'
      cases looked : detector.extractPrintData record.data (some header) with
      | mk split extracted =>
          rw [looked] at second
          obtain ⟨parts, stillOpen⟩ := second
          dsimp only at parts stillOpen ⊢
          rw [parts]
          cases taken : PrintJobDetector.takes header.dataType record.data
              controller.jobDetector.inPrintJob with
          | false =>
              rw [taken] at open' stillOpen found
              rw [Bool.false_or] at found
              have nothing : (if false = true ∧ record.data ≠ [] then
                  [(printerSessionOf record, record.data)] else []) = [] :=
                if_neg fun both => Bool.false_ne_true both.1
              rw [found, nothing, List.append_nil]
              split
              · exact ⟨rfl, stillOpen, rfl, named⟩
              · exact ⟨rfl, open', rfl, named⟩
          | true =>
              rw [taken] at stillOpen found
              rw [found, Bool.true_or, if_pos rfl, if_pos rfl]
              by_cases empty : record.data = []
              · have nothing : (if true = true ∧ record.data ≠ [] then
                    [(printerSessionOf record, record.data)] else []) = [] :=
                  if_neg fun both => both.2 empty
                rw [if_pos empty, nothing, List.append_nil]
                exact ⟨rfl, stillOpen, rfl, named⟩
              · have something : (if true = true ∧ record.data ≠ [] then
                    [(printerSessionOf record, record.data)] else []) =
                      [(printerSessionOf record, record.data)] :=
                  if_pos ⟨rfl, empty⟩
                rw [if_neg empty, something]
                obtain ⟨after, routed, printed, stillNamed, kept⟩ :=
                  @routePrintData_spec
                    { controller with
                      totalBytesProcessed :=
                        controller.totalBytesProcessed + record.data.length
                      jobDetector := extracted
                      printJobsDetected := controller.printJobsDetected + 1 }
                    record record.data named printable
                rw [routed]
                exact ⟨rfl, kept ▸ stillOpen, printed, stillNamed⟩

end DataFlowController

/-- A controller, and what the main session got for each record. -/
structure RoutingRun where
  controller : DataFlowController
  handled : List (MainRecord × Option (List UInt8 × Option Tn3270eHeader))

namespace MainRecord

def hasType (dataType : UInt8) (record : MainRecord) : Bool :=
  match record.header with
  | some header => header.dataType = dataType
  | none => false

end MainRecord

namespace RoutingRun

open DataFlowController

def start : RoutingRun := { controller := .new, handled := [] }

def step (record : MainRecord) (run : RoutingRun) : RoutingRun :=
  let (returned, controller) := run.controller.processMainSessionData record
  { controller, handled := run.handled ++ [(record, returned)] }

/-- The SCS data of a run, with the printer session of each record. -/
def scsData (run : RoutingRun) : List (String × List UInt8) :=
  (run.handled.filter fun entry =>
    entry.1.hasType Tn3270eHeader.scsData && decide (entry.1.data ≠ [])).map fun entry =>
      (printerSessionOf entry.1, entry.1.data)

/-- Every record goes where its data type says. -/
structure Routed (run : RoutingRun) : Prop where
  screen : ∀ entry ∈ run.handled, entry.1.hasType Tn3270eHeader.tn3270Data = true →
    entry.2 = some (entry.1.data, entry.1.header)
  diverted : ∀ entry ∈ run.handled, entry.1.hasType Tn3270eHeader.scsData = true →
    entry.2 = some ([], entry.1.header)
  printed : run.controller.printed = run.scsData
  ended : ∀ entry, run.handled.getLast? = some entry →
    entry.1.hasType Tn3270eHeader.printEoj = true →
      run.controller.jobDetector.inPrintJob = false

/-- A record with a header, for which every printer operation succeeds. -/
def Complete (record : MainRecord) (_ : RoutingRun) : Prop :=
  (∃ header, record.header = some header) ∧ Printable record

/-- Data that is not SCS data comes while no print job is open, and does not look like
SCS data. -/
def Distinguished (record : MainRecord) (run : RoutingRun) : Prop :=
  record.hasType Tn3270eHeader.scsData = false →
    record.hasType Tn3270eHeader.printEoj = false → record.data ≠ [] →
      run.controller.jobDetector.inPrintJob = false ∧
        PrintJobDetector.containsScsIndicators record.data = false

variable {run : RoutingRun} {record : MainRecord}

theorem hasType_some {header : Tn3270eHeader} (given : record.header = some header)
    (dataType : UInt8) :
    record.hasType dataType = decide (header.dataType = dataType) := by
  unfold MainRecord.hasType
  rw [given]

theorem distinguished_iff {header : Tn3270eHeader} (given : record.header = some header) :
    Distinguished record run ↔
      (record.data ≠ [] → PrintJobDetector.takes header.dataType record.data
        run.controller.jobDetector.inPrintJob = record.hasType Tn3270eHeader.scsData) := by
  unfold Distinguished PrintJobDetector.takes
  rw [hasType_some given, hasType_some given]
  cases decide (header.dataType = Tn3270eHeader.scsData) <;>
    cases decide (header.dataType = Tn3270eHeader.printEoj) <;>
      simp

theorem step_spec {header : Tn3270eHeader} (given : record.header = some header)
    (named : FlowsNamed run.controller) (printable : Printable record) :
    let taken := PrintJobDetector.takes header.dataType record.data
      run.controller.jobDetector.inPrintJob
    (step record run).handled =
        run.handled ++ [(record, some (if taken then [] else record.data, record.header))] ∧
      (step record run).controller.jobDetector.inPrintJob = taken ∧
      (step record run).controller.printed = run.controller.printed ++
        (if taken ∧ record.data ≠ [] then [(printerSessionOf record, record.data)] else []) ∧
      FlowsNamed (step record run).controller := by
  obtain ⟨returned, opened, printed, stillNamed⟩ :=
    processMainSessionData_spec given named printable
  unfold step
  refine ⟨?_, opened, printed, stillNamed⟩
  change run.handled ++ [(record, (run.controller.processMainSessionData record).1)] = _
  rw [returned, given]

theorem scsData_concat {after : RoutingRun} {returned : Option (List UInt8 × Option Tn3270eHeader)}
    (handled : after.handled = run.handled ++ [(record, returned)]) :
    after.scsData = run.scsData ++
      (if record.hasType Tn3270eHeader.scsData ∧ record.data ≠ [] then
        [(printerSessionOf record, record.data)] else []) := by
  unfold scsData
  rw [handled, List.filter_append, List.map_append]
  congr 1
  cases scs : record.hasType Tn3270eHeader.scsData with
  | false => simp [scs]
  | true =>
      by_cases empty : record.data = []
      · simp [scs, empty]
      · simp [scs, empty]

theorem printed_iff {taken scs : Bool} {entry : String × List UInt8} {data : List UInt8} :
    (if taken ∧ data ≠ [] then [entry] else []) = (if scs ∧ data ≠ [] then [entry] else []) ↔
      (data ≠ [] → taken = scs) := by
  by_cases empty : data = []
  · simp [empty]
  · cases taken <;> cases scs <;> simp [empty]

theorem step_routed_iff (routed : Routed run) (named : FlowsNamed run.controller)
    (complete : Complete record run) :
    Routed (step record run) ↔ Distinguished record run := by
  obtain ⟨⟨header, given⟩, printable⟩ := complete
  obtain ⟨handled, opened, printed, _⟩ := step_spec given named printable
  have scs := scsData_concat handled
  rw [distinguished_iff given]
  constructor
  · intro after
    have same := after.printed
    rw [printed, scs, routed.printed] at same
    exact printed_iff.mp (List.append_cancel_left same)
  · intro right
    refine ⟨?_, ?_, ?_, ?_⟩
    · intro entry member screen
      rw [handled] at member
      rcases List.mem_append.mp member with before | last
      · exact routed.screen entry before screen
      · rw [List.mem_singleton.mp last] at screen ⊢
        by_cases empty : record.data = []
        · simp [empty]
        · rw [hasType_some given] at screen right
          rw [right empty, of_decide_eq_true screen]
          rfl
    · intro entry member diverted
      rw [handled] at member
      rcases List.mem_append.mp member with before | last
      · exact routed.diverted entry before diverted
      · rw [List.mem_singleton.mp last] at diverted ⊢
        by_cases empty : record.data = []
        · simp [empty]
        · rw [right empty, diverted]
          rfl
    · rw [printed, scs, routed.printed, printed_iff.mpr right]
    · intro entry last eoj
      rw [handled, List.getLast?_concat] at last
      cases last
      rw [hasType_some given] at eoj
      rw [opened]
      exact PrintJobDetector.takes_printEoj (of_decide_eq_true eoj) _ _

/-- The records of a run are routed by their data types throughout exactly when what
is not SCS data comes between print jobs and does not look like SCS data. -/
theorem routed_throughout_iff (records : List MainRecord)
    (complete : Along step Complete records start) :
    Always step Routed records start ↔ Along step Distinguished records start := by
  have begin : Routed start ∧ FlowsNamed start.controller := by
    constructor
    · constructor
      · intro entry member
        cases member
      · intro entry member
        cases member
      · rfl
      · intro entry last
        cases last
    · intro entry member
      cases member
  refine @always_iff_along_on _ _ _ (fun run => Routed run ∧ FlowsNamed run.controller) _ _ _
    ?_ ?_ _ _ begin begin.1 complete
  · intro record run kept full right
    obtain ⟨⟨header, given⟩, printable⟩ := full
    have named := (step_spec given kept.2 printable).2.2.2
    exact ⟨(step_routed_iff kept.1 kept.2 ⟨⟨header, given⟩, printable⟩).mpr right, named⟩
  · intro record run kept _ full
    exact step_routed_iff kept.1 kept.2 full

/-- A screen of the host: an erase/write with one buffer address and one letter. -/
def hostScreen : MainRecord :=
  { data := [0xF5, 0xC3, 0x11, 0x40, 0x40, 0xC1]
    header := some ⟨Tn3270eHeader.tn3270Data, 0, 0, 1⟩
    mainSessionId := "main"
    printerHost := some "printer"
    printerPort := 23
    outcome := { creates := true, sends := true, closes := true } }

theorem hostScreen_complete : Along step Complete [hostScreen] start :=
  ⟨⟨⟨_, rfl⟩, ⟨_, rfl, by decide⟩, rfl, rfl⟩, trivial⟩

theorem hostScreen_routed_iff :
    Always step Routed [hostScreen] start ↔ Along step Distinguished [hostScreen] start :=
  routed_throughout_iff [hostScreen] hostScreen_complete

/-- The screen is printed instead of shown. -/
theorem hostScreen_misrouted :
    Along step Complete [hostScreen] start ∧ ¬Always step Routed [hostScreen] start := by
  refine ⟨hostScreen_complete, ?_⟩
  intro always
  exact absurd always.last.printed (by decide +kernel)

end RoutingRun

end Pure3270
