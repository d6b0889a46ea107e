import Proforma.FileTree
import Proforma.Offline.Synthesis
import Proforma.Scenario.Reply
import Proforma.Service.Cancellation
import Proforma.Service.Config
import Proforma.Service.Exchange
import Proforma.Study.Body

/-!
# Calls

The operations of a client. A call is checked, sends at most one request, waits for the reply
under the caller's signal and the deadline, and is concluded: the reply is turned into an answer,
or the failure is passed on, or, for calls that read, offline data takes the place of the answer.
Calls that change a stored scenario are never answered offline.
-/

namespace Proforma

/-! ## What is called -/

/-- The operations, as the log tells them apart. An export to a file is an export. -/
inductive Operation where
  | runStudy
  | listScenarios
  | updateLoan
  | editScenario
  | deleteScenario
  | rerunSensitivity
  | exportScenario
  deriving DecidableEq

/-- The name of an operation in the log. -/
def Operation.name : Operation → String
  | .runStudy => "run_feasibility"
  | .listScenarios => "list_scenarios"
  | .updateLoan => "update_construction_loan"
  | .editScenario => "update_scenario"
  | .deleteScenario => "delete_scenario"
  | .rerunSensitivity => "rerun_sensitivity"
  | .exportScenario => "export_scenario"

/-- A call with its arguments. -/
inductive Call where
  | runStudy (study : Study)
  | listScenarios (query : ListQuery)
  | updateLoan (id : Int64) (loan : ConstructionLoan)
  | editScenario (id : Int64) (edit : ScenarioEdit)
  | deleteScenario (id : Int64)
  | rerunSensitivity (id : Int64) (bands : List SensitivityBand)
  | exportScenario (id : Int64)
  /-- Exports to a file. -/
  | exportTo (id : Int64) (path : String)
  deriving DecidableEq

/-- What a call reads, if it only reads and so may be answered offline. -/
inductive Reading where
  | study
  | list
  deriving DecidableEq

namespace Call

/-- The operation that a call performs. -/
def operation : Call → Operation
  | .runStudy _ => .runStudy
  | .listScenarios _ => .listScenarios
  | .updateLoan .. => .updateLoan
  | .editScenario .. => .editScenario
  | .deleteScenario _ => .deleteScenario
  | .rerunSensitivity .. => .rerunSensitivity
  | .exportScenario _ => .exportScenario
  | .exportTo .. => .exportScenario

/-- What the call reads, if it only reads. -/
def reading? : Call → Option Reading
  | .runStudy _ => some .study
  | .listScenarios _ => some .list
  | _ => none

/-! ## What is sent -/

/-- Refuses an endpoint that the service lacks. -/
def needs (endpoints : Endpoints) (group : EndpointGroup) : Except Failure Unit :=
  if endpoints.has group then .ok () else .error (.unsupported group)

/-- Refuses a scenario that is not stored. -/
def needsPersisted (id : Int64) : Except Failure Unit :=
  if 0 < id then .ok () else .error (.invalid (.notPersisted id))

/-- A refusal as a failure. -/
def checked (r : Except Refusal α) : Except Failure α :=
  r.mapError .invalid

/-- The query of a list: the project and the finance project, if given. -/
def listQuery (query : ListQuery) : Except Refusal (List (String × String)) := do
  let project ←
    match query.projectId with
    | none => .ok []
    | some ref => ref.number?.map fun n => [("project_id", n.text)]
  let finProject := query.finProjectId.toList.map fun id => ("fin_project_id", toString id.toInt)
  return project ++ finProject

/-- The request of a call, or why it is refused. -/
def outgoing? (endpoints : Endpoints) : Call → Except Failure Outgoing
  | .runStudy study => do
    return ⟨.post, studyPath, [], some (← checked study.body?)⟩
  | .listScenarios query => do
    return ⟨.get, scenariosPath, ← checked (listQuery query), none⟩
  | .updateLoan id loan => do
    needs endpoints .constructionLoan
    needsPersisted id
    return ⟨.patch, constructionLoanPath id, [], some loan.updateBody⟩
  | .editScenario id edit => do
    needsPersisted id
    return ⟨.patch, scenarioPath id, [], some (← checked edit.body?)⟩
  | .deleteScenario id => do
    needsPersisted id
    return ⟨.delete, scenarioPath id, [], none⟩
  | .rerunSensitivity id bands => do
    needs endpoints .sensitivity
    needsPersisted id
    return ⟨.post, sensitivityPath id, [], some (← checked (SensitivityBand.rerunBody? bands))⟩
  | .exportScenario id | .exportTo id _ => do
    needs endpoints .exports
    needsPersisted id
    return ⟨.get, exportPath, [("scenario_id", toString id.toInt)], none⟩

end Call

/-! ## What comes back -/

/-- Where data comes from. -/
inductive Source where
  | live
  | offline
  deriving DecidableEq

/-- What a call answers. -/
inductive Answer where
  | scenario (source : Source) (s : Scenario)
  | scenarios (source : Source) (list : List Scenario)
  | done
  | bytes (content : List UInt8)
  /-- The path of the file that was written. -/
  | path (path : String)
  deriving DecidableEq

namespace Call

/-- The answer in a response that reports success, if it can be read. -/
def read? (call : Call) (r : Response) : Option Answer :=
  match call with
  | .runStudy _ | .updateLoan .. | .editScenario .. | .rerunSensitivity .. =>
    r.json?.map fun j => .scenario .live (.ofReply j)
  | .listScenarios _ => r.json?.map fun j => .scenarios .live (Scenario.listOfReply j)
  | .deleteScenario _ => some .done
  | .exportScenario _ | .exportTo .. => some (.bytes r.body)

/-- The answer made offline at an instant, for calls that read. The figures of the offline list
are far from the limit of amounts, so it never overflows. -/
def offline? (now : Int64) : Call → Option Answer
  | .runStudy study => some (.scenario .offline (Offline.scenarioAt now study))
  | .listScenarios query =>
    (Offline.scenarioList query).toOption.map (.scenarios .offline)
  | _ => none

end Call

/-- Whether a failure to read is answered with offline data. What the caller cancelled never
is. -/
def FallbackPolicy.covers (p : FallbackPolicy) (reading : Reading) (f : Failure) : Bool :=
  p.enabled &&
    match f with
    | .aborted .caller => false
    | .aborted (.timeout _) => reading = .list || p.onStudyTimeout
    | .network _ => true
    | .http .. => f.isAuthorization || (f.isServerError && reading = .list)
    | _ => false

/-! ## The log -/

/-- How far a call has come. -/
inductive CallState where
  | building
  | inFlight
  | mapped
  | fallback
  | failed
  deriving DecidableEq

/-- The name of a state in the log. -/
def CallState.name : CallState → String
  | .building => "Building"
  | .inFlight => "InFlight"
  | .mapped => "Mapped"
  | .fallback => "Fallback"
  | .failed => "Failed"

/-- What is logged about a call. -/
inductive LogEvent where
  | moved (operation : Operation) (state : CallState)
  | aborted (method : Method) (path : String) (timeout : Bool)
  | written (size : Nat)
  /-- Offline data is served because of a failure. -/
  | offline (operation : Operation) (failure : Failure)
  deriving DecidableEq

/-- The line of an event in the log. -/
def LogEvent.line : LogEvent → String
  | .moved operation state => operation.name ++ ":" ++ state.name
  | .aborted method path timeout =>
    "abort:" ++ method.name ++ ":" ++ path ++ ":timeout=" ++ (if timeout then "true" else "false")
  | .written size => "written:" ++ toString size
  | .offline operation failure =>
    let served :=
      if operation = .listScenarios then "serving offline scenario list"
      else "serving offline feasibility scenario"
    "WARN:" ++ operation.name ++ ":" ++ served ++ ":" ++ failure.message

/-! ## One exchange -/

/-- A reply with the time it takes, or no reply at all. -/
structure TimedReply where
  delay : Nat
  reply : Option Reply
  deriving DecidableEq

/-- How an exchange went. Instants count from its start. -/
structure Exchange where
  sent : Bool
  finish : Nat
  /-- When it would have ended if the caller had let it. -/
  due : Nat
  result : Except Failure Response
  /-- Which side aborted it. -/
  aborted : Option AbortCause

/-- Sends a request under a deadline, which the clock can show, and the caller's cancellation, if
that ever comes. -/
def exchange (limit : Nat) (cancelAt : Option Nat) (reply : TimedReply) : Exchange :=
  let signal := ComposedSignal.compose true limit 0
  let sent := signal.starts 0 cancelAt
  let work := reply.reply.map fun r => (reply.delay, r)
  let due := (signal.race 0 none work).2
  match signal.race 0 cancelAt work with
  | (.ok r, instant) => ⟨sent, instant, due, r.response? >>= Response.checked, none⟩
  | (.error cause, instant) => ⟨sent, instant, due, .error (.aborted cause), some cause⟩

/-! ## One call -/

/-- How a call went: what happened at its start, and what when it ended. -/
structure Run where
  opening : List LogEvent
  sent : Option Outgoing
  finish : Nat
  /-- When it would have ended if the caller had let it. -/
  due : Nat
  closing : List LogEvent
  result : Except Failure Answer

/-- Under what circumstances a call is made. -/
structure Circumstances where
  config : Config
  /-- The clock, in milliseconds. -/
  clock : Int64
  /-- When the caller cancels, in microseconds from the start of the call. -/
  cancelAt : Option Nat

namespace Call

/-- Ends a call: a response is read, and a failure is answered offline or passed on. -/
def conclude (call : Call) (policy : FallbackPolicy) (now : Int64)
    (result : Except Failure Response) : List LogEvent × Except Failure Answer :=
  let moved := LogEvent.moved call.operation
  match result with
  | .ok r =>
    match call.read? r with
    | some answer => ([moved .mapped], .ok answer)
    | none => ([moved .failed], .error .json)
  | .error f =>
    let standIn :=
      match call.reading? with
      | some reading => if policy.covers reading f then call.offline? now else none
      | none => none
    match standIn with
    | some answer => ([.offline call.operation f, moved .fallback], .ok answer)
    | none => ([moved .failed], .error f)

/-- Runs a call for which the given reply is at hand. Calls that read log that they are being
prepared, and their refusal. -/
def run (call : Call) (c : Circumstances) (reply : TimedReply) : Run :=
  let moved := LogEvent.moved call.operation
  let opening := if call.reading?.isSome then [moved .building] else []
  match call.outgoing? c.config.endpoints with
  | .error f =>
    ⟨opening ++ (if call.reading?.isSome then [moved .failed] else []), none, 0, 0, [],
      .error f⟩
  | .ok out =>
    let x := exchange c.config.timeout c.cancelAt reply
    let abort :=
      match x.aborted with
      | some cause => [LogEvent.aborted out.method out.path (cause ≠ .caller)]
      | none => []
    let (closing, result) := call.conclude c.config.fallback c.clock x.result
    ⟨opening ++ [moved .inFlight], if x.sent then some out else none, x.finish, x.due,
      abort ++ closing, result⟩

end Call

/-- What a caller and an observer see of a call. -/
structure Outcome (α : Type) where
  result : Except Failure α
  sent : List Outgoing
  log : List LogEvent
  /-- How long it took. -/
  elapsed : Nat

/-- Everything that happened in a run, in order. -/
def Run.outcome (r : Run) : Outcome Answer :=
  ⟨r.result, r.sent.toList, r.opening ++ r.closing, r.finish⟩

/-- Writes an export that arrived to its file. -/
def Outcome.save (o : Outcome Answer) (path : String) (files : FileTree) :
    Outcome Answer × FileTree :=
  match o.result with
  | .ok (.bytes content) =>
    match files.write path content with
    | (true, files) =>
      ({ o with result := .ok (.path path), log := o.log ++ [.written content.length] }, files)
    | (false, files) => ({ o with result := .error .file }, files)
  | _ => (o, files)

/-- Performs a call whose deadline the clock can show: the outcome, and the files afterwards. -/
def Call.perform (call : Call) (c : Circumstances) (reply : TimedReply) (files : FileTree) :
    Outcome Answer × FileTree :=
  let outcome := (call.run c reply).outcome
  match call with
  | .exportTo _ path => outcome.save path files
  | _ => (outcome, files)

/-! ## Calls by the clock -/

/-- The signal under which a call that starts now waits for its reply. A call that is refused waits
for none and asks for no deadline. -/
def Call.signal? (call : Call) (c : Circumstances) (clock : SteadyClock) :
    Except ClockOverflow (Option ComposedSignal) :=
  match call.outgoing? c.config.endpoints with
  | .ok _ => (ComposedSignal.compose? true c.config.timeout clock).map some
  | .error _ => .ok none

/-- Performs a call that starts now, unless its deadline stops the program. Nothing has been sent
then. The instants of a call count from its start, so this is all that is seen of the clock. -/
def Call.attempt (call : Call) (c : Circumstances) (clock : SteadyClock) (reply : TimedReply)
    (files : FileTree) : Except ClockOverflow (Outcome Answer × FileTree) :=
  (call.signal? c clock).map fun _ => call.perform c reply files

end Proforma
