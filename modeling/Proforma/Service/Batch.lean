import Proforma.Service.Call

/-!
# Batches

Several studies run at the same time. They start one after another at the same instant. The first
failure that is met ends the batch; studies that have not been started by then never are, and the
others are given up. In a small batch all studies are looked at in order whenever something
happens, and so a failure is met when it happens. In a large batch the answers are collected in
the order of the studies, and so a failure is met when the studies before it are over as well.
-/

namespace Proforma

namespace Run

/-- Whether the run ends in a failure. -/
def failed (r : Run) : Bool :=
  match r.result with
  | .ok _ => false
  | .error _ => true

/-- Whether the run is over as soon as it has started. -/
def endsAtOnce (r : Run) : Bool :=
  r.finish = 0

/-- What happens when the run is started. -/
def startLog (r : Run) : List LogEvent :=
  if r.endsAtOnce then r.opening ++ r.closing else r.opening

end Run

/-- The items up to the first with a property, that one included. -/
def upTo (p : α → Bool) : List α → List α
  | [] => []
  | a :: rest => if p a then [a] else a :: upTo p rest

/-- Puts an item before the first that it need not come after. -/
def insertInOrder (before : α → α → Bool) (a : α) : List α → List α
  | [] => [a]
  | x :: rest => if before x a then x :: insertInOrder before a rest else a :: x :: rest

/-- The items in an order, and those that it leaves open as they are. -/
def inOrder (before : α → α → Bool) (items : List α) : List α :=
  items.foldr (insertInOrder before) []

/-! ## Small batches -/

/-- The failure of the last run, if it failed, and when. -/
def lastFailure? (runs : List Run) : Option (Failure × Nat) :=
  match runs.getLast? with
  | some r =>
    match r.result with
    | .error f => some (f, r.finish)
    | .ok _ => none
  | none => none

/-- The runs that are started: all up to the first that fails at once. -/
def startedRuns (runs : List Run) : List Run :=
  upTo (fun r => r.endsAtOnce && r.failed) runs

/-- The runs that end later than they start, in the order in which their ends are met. -/
def awaitedRuns (runs : List Run) : List Run :=
  upTo Run.failed <| inOrder (fun r s => r.finish < s.finish) <| runs.filter (!·.endsAtOnce)

/-- Runs the calls of a small batch together. -/
def runSmall (runs : List Run) : Outcome (List Answer) :=
  let started := startedRuns runs
  let sent := started.filterMap (·.sent)
  let startLog := started.flatMap Run.startLog
  match lastFailure? (started.filter (·.endsAtOnce)) with
  | some (f, instant) => ⟨.error f, sent, startLog, instant⟩
  | none =>
    let awaited := awaitedRuns runs
    let log := startLog ++ awaited.flatMap (·.closing)
    match lastFailure? awaited with
    | some (f, instant) => ⟨.error f, sent, log, instant⟩
    | none =>
      ⟨runs.mapM (·.result), sent, log, runs.foldl (fun n r => max n r.finish) 0⟩

/-! ## Large batches -/

/-- Whether a run ends before another. When the caller cancels, those that are due at that very
instant end before the others. -/
def Run.endsBefore (r s : Run) : Bool :=
  r.finish < s.finish || (r.finish = s.finish && r.finish = r.due && s.finish < s.due)

/-- The items up to the last with a property, that one included. -/
def upToLast (p : α → Bool) (items : List α) : List α :=
  (items.reverse.dropWhile (!p ·)).reverse

/-- The runs that have to be over before the batch is: all up to the first that fails. -/
def decisiveRuns (runs : List Run) : List Run :=
  upTo Run.failed runs

/-- The runs that end later than they start and before the batch is over, in the order in which
they end. -/
def collectedRuns (runs : List Run) : List Run :=
  let decisive := (decisiveRuns runs).length
  let awaited := runs.zipIdx.filter (!·.1.endsAtOnce)
  let ends := inOrder (fun r s => r.1.endsBefore s.1) awaited
  (upToLast (fun r => r.2 < decisive) ends).map (·.1)

/-- Runs the calls of a large batch together. If all that decides is there at once, the other
calls are not started. -/
def runLarge (runs : List Run) : Outcome (List Answer) :=
  let decisive := decisiveRuns runs
  let started := if decisive.all Run.endsAtOnce then decisive else runs
  let log := started.flatMap Run.startLog ++ (collectedRuns runs).flatMap (·.closing)
  ⟨decisive.mapM (·.result), started.filterMap (·.sent), log,
    decisive.foldl (fun n r => max n r.finish) 0⟩

/-! ## Batches of studies -/

/-- The largest size of a small batch. -/
def smallSize : Nat := 30

/-- Runs several calls together. -/
def runTogether (runs : List Run) : Outcome (List Answer) :=
  if runs.length ≤ smallSize then runSmall runs else runLarge runs

/-- Pairs each call with the reply that is at hand for it. A call that is refused uses up
none. -/
def pairReplies (endpoints : Endpoints) (missing : TimedReply) :
    List Call → List TimedReply → List (Call × TimedReply)
  | [], _ => []
  | call :: calls, replies =>
    match call.outgoing? endpoints, replies with
    | .ok _, reply :: replies => (call, reply) :: pairReplies endpoints missing calls replies
    | _, replies => (call, missing) :: pairReplies endpoints missing calls replies

/-- Runs the studies of a batch, whose deadline the clock can show, with the replies in the order of
the requests. -/
def runBatch (c : Circumstances) (missing : TimedReply) (replies : List TimedReply)
    (studies : List Study) : Outcome (List Answer) :=
  let calls := pairReplies c.config.endpoints missing (studies.map .runStudy) replies
  runTogether (calls.map fun (call, reply) => call.run c reply)

/-- Runs a batch that starts now, unless its deadline stops the program. The first study is started
first, and either it asks for the deadline that all studies have or it is refused, and then no other
study is started. -/
def attemptBatch (c : Circumstances) (clock : SteadyClock) (missing : TimedReply)
    (replies : List TimedReply) (studies : List Study) :
    Except ClockOverflow (Outcome (List Answer)) :=
  match studies with
  | [] => .ok (runBatch c missing replies [])
  | first :: rest =>
    ((Call.runStudy first).signal? c clock).map fun _ => runBatch c missing replies (first :: rest)

end Proforma
