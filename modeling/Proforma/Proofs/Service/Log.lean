import Proforma.Proofs.Service.Exporting

/-!
# What the log of a call tells

The states in the log of a call are one of a few walks (`Call.Course.states_mem_walks`), from which
the order and the number of the states follow. What is logged besides the states belongs to what
took place: the abort to an exchange that is aborted, the warning to an offline answer, the writing
to a file that is written. `log_tells_outcome` puts this together.
-/

namespace Proforma

/-! ## The states in a log -/

/-- Whether a call is over in a state. -/
def CallState.isFinal : CallState → Bool
  | .building | .inFlight => false
  | .mapped | .fallback | .failed => true

/-- The state that an event tells of. -/
def LogEvent.state? : LogEvent → Option CallState
  | .moved _ state => some state
  | _ => none

/-- Whether an event is the abort of an exchange. -/
def LogEvent.isAbort : LogEvent → Bool
  | .aborted .. => true
  | _ => false

/-- The states in a log, in order. -/
def states (log : List LogEvent) : List CallState :=
  log.filterMap LogEvent.state?

section States

variable (front back log : List LogEvent) (operation : Operation)

@[simp]
theorem states_append : states (front ++ back) = states front ++ states back :=
  List.filterMap_append

@[simp]
theorem states_nil : states [] = [] :=
  rfl

@[simp]
theorem states_moved_cons (s : CallState) :
    states (.moved operation s :: log) = s :: states log :=
  rfl

@[simp]
theorem states_offline_cons (f : Failure) : states (.offline operation f :: log) = states log :=
  rfl

@[simp]
theorem states_written_cons (size : Nat) : states (.written size :: log) = states log :=
  rfl

end States

/-- The ways through the states. A call that is refused is silent or fails while it is prepared,
and only a call that is prepared is answered offline. -/
def walks : List (List CallState) :=
  [[], [.building, .failed],
    [.inFlight, .mapped], [.inFlight, .failed],
    [.building, .inFlight, .mapped], [.building, .inFlight, .fallback],
    [.building, .inFlight, .failed]]

theorem count_inFlight_of_mem_walks : ∀ walk ∈ walks, walk.count .inFlight ≤ 1 := by
  decide

theorem countP_isFinal_of_mem_walks : ∀ walk ∈ walks, walk.countP CallState.isFinal ≤ 1 := by
  decide

/-- A final state comes last. -/
theorem getLast?_of_mem_walks :
    ∀ walk ∈ walks, ∀ s ∈ walk, s.isFinal = true → walk.getLast? = some s := by
  decide

/-! ## The order of a run -/

/-- What an observer of the log and of the service sees. -/
inductive Happening where
  | logged (event : LogEvent)
  | sent (request : Outgoing)

/-- The event, if it is one of the log. -/
def Happening.event? : Happening → Option LogEvent
  | .logged event => some event
  | .sent _ => none

/-- The request, if one is sent. -/
def Happening.request? : Happening → Option Outgoing
  | .logged _ => none
  | .sent request => some request

/-- What happens in a run, in order: the request is sent when the opening has been logged, and all
else is logged when the exchange is over. -/
def Run.happenings (r : Run) : List Happening :=
  r.opening.map .logged ++ r.sent.toList.map .sent ++ r.closing.map .logged

theorem Run.filterMap_event?_happenings (r : Run) :
    r.happenings.filterMap Happening.event? = r.outcome.log := by
  simp [happenings, outcome, List.filterMap_map, Function.comp_def, Happening.event?]

theorem Run.filterMap_request?_happenings (r : Run) :
    r.happenings.filterMap Happening.request? = r.outcome.sent := by
  have hlogged (log : List LogEvent) :
      (log.map Happening.logged).filterMap Happening.request? = [] := by
    simp [List.filterMap_eq_nil_iff, Happening.request?]
  rw [happenings, List.filterMap_append, List.filterMap_append, hlogged, hlogged]
  simp [outcome, List.filterMap_map, Function.comp_def, Happening.request?]

/-- Writing a file adds to the log that it was written, or nothing. -/
theorem Outcome.exists_log_save (o : Outcome Answer) (path : String) (files : FileTree) :
    ∃ saved, (o.save path files).1.log = o.log ++ saved ∧
      ∀ event ∈ saved, ∃ size, event = .written size := by
  unfold save
  split
  · split
    · refine ⟨_, rfl, ?_⟩
      intro event hevent
      exact ⟨_, List.mem_singleton.mp hevent⟩
    · exact ⟨[], (List.append_nil _).symm, List.forall_mem_nil _⟩
  · exact ⟨[], (List.append_nil _).symm, List.forall_mem_nil _⟩

namespace Call

variable {call : Call} {now : Int64} {c : Circumstances} {reply : TimedReply} {files : FileTree}

/-! ## The parts of a log -/

theorem states_opening (call : Call) : states call.opening =
    if call.reading?.isSome then [.building, .inFlight] else [.inFlight] := by
  unfold opening
  cases call.reading? <;> rfl

@[simp]
theorem states_abortLog (out : Outgoing) (ending : Except AbortCause Reply) :
    states (abortLog out ending) = [] := by
  cases ending <;> rfl

theorem inFlight_mem_opening (call : Call) : .moved call.operation .inFlight ∈ call.opening :=
  List.mem_append_right _ List.mem_cons_self

/-- Of a refusal only states are logged. -/
theorem exists_moved_of_mem_refusalLog {event : LogEvent} (h : event ∈ call.refusalLog) :
    ∃ s, event = .moved call.operation s := by
  unfold refusalLog at h
  split at h
  · rcases List.mem_cons.mp h with rfl | h
    · exact ⟨_, rfl⟩
    · exact ⟨_, List.mem_singleton.mp h⟩
  · cases h

/-- Before the request is sent only states are logged. -/
theorem exists_moved_of_mem_opening {event : LogEvent} (h : event ∈ call.opening) :
    ∃ s, event = .moved call.operation s := by
  rcases List.mem_append.mp h with hbuilding | hflight
  · split at hbuilding
    · exact ⟨_, List.mem_singleton.mp hbuilding⟩
    · cases hbuilding
  · exact ⟨_, List.mem_singleton.mp hflight⟩

/-- What is logged of an abort is one event, and nothing if there was none. -/
theorem mem_abortLog_iff {out : Outgoing} {ending : Except AbortCause Reply} {event : LogEvent} :
    event ∈ abortLog out ending ↔ ∃ cause, ending = .error cause ∧
      event = .aborted out.method out.path (cause ≠ .caller) := by
  cases ending with
  | ok reply => simp [abortLog, endingCause?]
  | error cause => simp [abortLog, endingCause?]

/-- An event of a call that was not refused is of one of the three parts of its log. -/
theorem mem_log_cases {out : Outgoing} {ending : Except AbortCause Reply}
    {closing : List LogEvent} {event : LogEvent}
    (h : event ∈ call.opening ++ (abortLog out ending ++ closing)) :
    (∃ s, event = .moved call.operation s) ∨
      (∃ cause, ending = .error cause ∧
        event = .aborted out.method out.path (cause ≠ .caller)) ∨
      event ∈ closing := by
  rcases List.mem_append.mp h with hopening | h
  · exact .inl (exists_moved_of_mem_opening hopening)
  · rcases List.mem_append.mp h with habort | hclosing
    · exact .inr (.inl (mem_abortLog_iff.mp habort))
    · exact .inr (.inr hclosing)

namespace Closes

variable {ending : Except AbortCause Reply} {closing : List LogEvent}
  {result : Except Failure Answer}

/-- A call closes in a final state. -/
theorem exists_isFinal (h : call.Closes now ending closing result) :
    ∃ s, s.isFinal = true ∧ .moved call.operation s ∈ closing := by
  cases h with
  | mapped => exact ⟨.mapped, rfl, by simp⟩
  | fallback => exact ⟨.fallback, rfl, by simp⟩
  | failed => exact ⟨.failed, rfl, by simp⟩
  | written => exact ⟨.mapped, rfl, by simp⟩
  | unwritten => exact ⟨.mapped, rfl, by simp⟩

/-- It tells of no other call. -/
theorem operation_eq (h : call.Closes now ending closing result) {operation : Operation}
    {s : CallState} (hmem : .moved operation s ∈ closing) : operation = call.operation := by
  cases h <;> simp at hmem <;> exact hmem.1

/-- The abort is logged before. -/
theorem isAbort_eq_false (h : call.Closes now ending closing result) {event : LogEvent}
    (hmem : event ∈ closing) : event.isAbort = false := by
  cases h <;> simp at hmem <;> rcases hmem with rfl | rfl <;> rfl

end Closes

/-! ## What a course tells -/

namespace Course

variable {outcome : Outcome Answer}

theorem states_mem_walks (h : call.Course c reply outcome) : states outcome.log ∈ walks := by
  cases h with
  | refused =>
    unfold refusalLog
    split <;> simp [walks]
  | ended hout hw hcloses =>
    dsimp only
    rw [states_append, states_append, states_abortLog, states_opening]
    cases hcloses with
    | fallback _ hstands =>
      -- only here it matters that the call is one that reads
      obtain ⟨reading, hreading⟩ := hstands.exists_reading
      simp [hreading, walks]
    | mapped | failed | written | unwritten =>
      split <;> simp [walks]

theorem operation_eq (h : call.Course c reply outcome) {operation : Operation} {s : CallState}
    (hmem : .moved operation s ∈ outcome.log) : operation = call.operation := by
  cases h with
  | refused =>
    obtain ⟨t, ht⟩ := exists_moved_of_mem_refusalLog hmem
    cases ht
    rfl
  | ended hout hw hcloses =>
    rcases mem_log_cases hmem with ⟨t, ht⟩ | ⟨cause, -, hevent⟩ | hclosing
    · cases ht
      rfl
    · cases hevent
    · exact hcloses.operation_eq hclosing

/-- An exchange that is aborted is that of a call with a request. -/
theorem exists_abort_iff (h : call.Course c reply outcome) :
    (∃ event ∈ outcome.log, event.isAbort = true) ↔
      call.Admissible c.config.endpoints ∧
        ∃ cause instant, Waited c.config.timeout c.cancelAt reply (.error cause) instant := by
  cases h with
  | refused hf =>
    constructor
    · rintro ⟨event, hmem, habort⟩
      obtain ⟨s, rfl⟩ := exists_moved_of_mem_refusalLog hmem
      cases habort
    · rintro ⟨hadm, -⟩
      exact absurd hf (not_refused_of_admissible hadm)
  | @ended out ending instant closing result hout hw hcloses =>
    constructor
    · rintro ⟨event, hmem, habort⟩
      refine ⟨admissible_of_outgoing? hout, ?_⟩
      rcases mem_log_cases hmem with ⟨s, rfl⟩ | ⟨cause, rfl, -⟩ | hclosing
      · cases habort
      · exact ⟨cause, instant, hw⟩
      · rw [hcloses.isAbort_eq_false hclosing] at habort
        cases habort
    · rintro ⟨-, cause, other, hother⟩
      obtain ⟨rfl, -⟩ := hw.unique hother
      have habort : _ ∈ abortLog out (.error cause) := mem_abortLog_iff.mpr ⟨cause, rfl, rfl⟩
      exact ⟨_, List.mem_append_right _ (List.mem_append_left _ habort), rfl⟩

/-- The abort is logged in flight and before the final state, and only once. -/
theorem exists_abort_between (h : call.Course c reply outcome)
    (hadm : call.Admissible c.config.endpoints) {cause : AbortCause} {instant : Nat}
    (hcause : Waited c.config.timeout c.cancelAt reply (.error cause) instant) :
    ∃ out before after, call.outgoing? c.config.endpoints = .ok out ∧
      outcome.log = before ++ .aborted out.method out.path (cause ≠ .caller) :: after ∧
      .moved call.operation .inFlight ∈ before ∧
      (∃ s, s.isFinal = true ∧ .moved call.operation s ∈ after) ∧
      ∀ event ∈ before ++ after, event.isAbort = false := by
  cases h with
  | refused hf => exact absurd hf (not_refused_of_admissible hadm)
  | @ended out ending other closing result hout hw hcloses =>
    obtain ⟨rfl, -⟩ := hw.unique hcause
    obtain ⟨s, hs, hmem⟩ := hcloses.exists_isFinal
    refine ⟨out, call.opening, closing, hout, rfl, inFlight_mem_opening call, ⟨s, hs, hmem⟩, ?_⟩
    intro event hevent
    rcases List.mem_append.mp hevent with hopening | hclosing
    · obtain ⟨t, rfl⟩ := exists_moved_of_mem_opening hopening
      rfl
    · exact hcloses.isAbort_eq_false hclosing

/-- An offline answer is that of the call, and the log warns of the failure that it stands for
right before the final state. -/
theorem fallback_of_offline (h : call.Course c reply outcome) {answer : Answer}
    (hok : outcome.result = .ok answer) (hoffline : answer.isOffline = true) :
    call.StandsIn c.clock answer ∧ ∃ ending instant f before,
      Waited c.config.timeout c.cancelAt reply ending instant ∧ EndsIn ending f ∧
      outcome.log = before ++ [.offline call.operation f, .moved call.operation .fallback] := by
  cases h with
  | refused => cases hok
  | @ended out ending instant closing result hout hw hcloses =>
    cases hcloses with
    | mapped _ hlive =>
      cases hok
      rw [hlive] at hoffline
      cases hoffline
    | @fallback _ f own hends hstands =>
      cases hok
      refine ⟨hstands, ending, instant, f, call.opening ++ abortLog out ending, hw, hends, ?_⟩
      rw [List.append_assoc]
    | failed | unwritten => cases hok
    | written =>
      cases hok
      cases hoffline

/-- A live answer is logged as such. -/
theorem getLast?_of_live (h : call.Course c reply outcome) {answer : Answer}
    (hok : outcome.result = .ok answer) (hlive : answer.isOffline = false) :
    (states outcome.log).getLast? = some .mapped := by
  cases h with
  | refused => cases hok
  | ended hout hw hcloses =>
    cases hcloses with
    | fallback _ hstands =>
      cases hok
      rw [hstands.isOffline] at hlive
      cases hlive
    | failed | unwritten => cases hok
    | mapped | written => simp

/-- A failure ends in the state for it, unless the call was refused in silence or had the content
of a file. -/
theorem getLast?_of_error (h : call.Course c reply outcome) {f : Failure}
    (herror : outcome.result = .error f) :
    (states outcome.log).getLast? = some .failed ∨
      (call.reading? = none ∧ call.RefusedWith c.config.endpoints f ∧ outcome.log = []) ∨
      ∃ path r, call.file? = some path ∧ call.Receives c reply r ∧ f = .file ∧
        (states outcome.log).getLast? = some .mapped := by
  cases h with
  | refused hf =>
    cases herror
    unfold refusalLog
    cases hreading : call.reading? with
    | none => exact .inr (.inl ⟨rfl, hf, rfl⟩)
    | some reading => exact .inl rfl
  | @ended out ending instant closing result hout hw hcloses =>
    cases hcloses with
    | mapped | fallback | written => cases herror
    | failed => exact .inl (by simp)
    | @unwritten r path hfile hs =>
      cases herror
      have hreceives : call.Receives c reply r := ⟨admissible_of_outgoing? hout, hs, instant, hw⟩
      exact .inr (.inr ⟨path, r, hfile, hreceives, rfl, by simp⟩)

/-- A call that has the content of a file ends in the state for answers, also when the file cannot
be written. -/
theorem getLast?_of_receives (h : call.Course c reply outcome) {path : String} {r : Response}
    (hfile : call.file? = some path) (hreceives : call.Receives c reply r) :
    (states outcome.log).getLast? = some .mapped ∧
      (outcome.result = .ok (.path path) ∨ outcome.result = .error .file) := by
  obtain ⟨hadm, hs, instant, hw⟩ := hreceives
  cases h with
  | refused hf => exact absurd hf (not_refused_of_admissible hadm)
  | ended hout hother hcloses =>
    obtain ⟨rfl, -⟩ := hother.unique hw
    cases hcloses with
    | mapped hnone =>
      rw [hfile] at hnone
      cases hnone
    | fallback hends =>
      cases hends with
      | worded hno | silent hno => exact absurd hs hno
    | failed hnothing => exact absurd hs (hnothing (by simp [hfile]) r rfl)
    | written hown =>
      rw [hfile] at hown
      cases hown
      exact ⟨by simp, .inl rfl⟩
    | unwritten => exact ⟨by simp, .inr rfl⟩

/-- A file is logged as written if the call that writes it answers. -/
theorem written_iff (h : call.Course c reply outcome) :
    (∃ size, .written size ∈ outcome.log) ↔
      (∃ path, call.file? = some path) ∧ ∃ answer, outcome.result = .ok answer := by
  cases h with
  | refused =>
    constructor
    · rintro ⟨size, hmem⟩
      obtain ⟨s, hs⟩ := exists_moved_of_mem_refusalLog hmem
      cases hs
    · rintro ⟨-, answer, hok⟩
      cases hok
  | @ended out ending instant closing result hout hw hcloses =>
    have hmem (size : Nat) :
        .written size ∈ call.opening ++ (abortLog out ending ++ closing) ↔
          .written size ∈ closing := by
      constructor
      · intro hmem
        rcases mem_log_cases hmem with ⟨s, hs⟩ | ⟨cause, -, hevent⟩ | hclosing
        · cases hs
        · cases hevent
        · exact hclosing
      · intro hclosing
        exact List.mem_append_right _ (List.mem_append_right _ hclosing)
    simp only [hmem]
    cases hcloses with
    | mapped hnone => simp [hnone]
    | fallback _ hstands =>
      have hnone : call.file? = none := by
        cases hstands <;> rfl
      simp [hnone]
    | failed | unwritten => simp
    | written hfile => simp [hfile]

/-- A refused call goes in one way. -/
theorem eq_of_refused (h : call.Course c reply outcome) {f : Failure}
    (hf : call.RefusedWith c.config.endpoints f) :
    outcome.result = .error f ∧ outcome.sent = [] ∧ outcome.log = call.refusalLog := by
  have hnone := outgoing?_of_refused hf
  cases h with
  | refused hg =>
    rw [outgoing?_of_refused hg] at hnone
    cases hnone
    exact ⟨rfl, rfl, rfl⟩
  | ended hout =>
    rw [hout] at hnone
    cases hnone

end Course

/-- A call whose project is no number reads and is refused. -/
theorem refused_of_project {endpoints : Endpoints} {ref : ProjectRef} {cause : Refusal}
    (href : call.project? = some ref) (hn : ref.number? = .error cause) :
    (∃ reading, call.reading? = some reading) ∧
      call.RefusedWith endpoints (.invalid cause) := by
  have hfault : ref.fault? = some cause := by
    rw [ProjectRef.fault?, hn]
  cases call with
  | runStudy study =>
    cases href
    refine ⟨⟨_, rfl⟩, .argument ?_ ?_ hfault⟩
    · intro group hgroup
      cases hgroup
    · intro id hid
      cases hid
  | listScenarios query =>
    refine ⟨⟨_, rfl⟩, .argument ?_ ?_ ?_⟩
    · intro group hgroup
      cases hgroup
    · intro id hid
      cases hid
    · exact Option.bind_eq_some_iff.mpr ⟨ref, href, hfault⟩
  | _ => cases href

/-! ## From the run to the log -/

/-- The log is that of the run, and after it that a file was written. -/
theorem exists_log_perform (call : Call) (c : Circumstances) (reply : TimedReply)
    (files : FileTree) : ∃ saved,
      (call.perform c reply files).1.log = (call.run c reply).outcome.log ++ saved ∧
        ∀ event ∈ saved, ∃ size, event = .written size := by
  have hrun (o : Outcome Answer) :
      ∃ saved, o.log = o.log ++ saved ∧ ∀ event ∈ saved, ∃ size, event = .written size :=
    ⟨[], (List.append_nil _).symm, List.forall_mem_nil _⟩
  cases call with
  | exportTo id path =>
    rw [perform]
    exact Outcome.exists_log_save _ path files
  | _ => exact hrun _

/-- The call is in flight when its request is sent. -/
theorem sent_after_inFlight {out : Outgoing} (h : out ∈ (call.perform c reply files).1.sent) :
    ∃ before after, (call.run c reply).happenings = before ++ .sent out :: after ∧
      .logged (.moved call.operation .inFlight) ∈ before := by
  obtain ⟨hout, -⟩ := mem_sent_iff.mp h
  obtain ⟨ending, instant, hw⟩ := exists_waited c.config.timeout c.cancelAt reply
  obtain ⟨plain, due, hdue⟩ := exists_waited c.config.timeout none reply
  have hopening : (call.run c reply).opening = call.opening := by
    rw [run_of_waited hout hw hdue]
    rfl
  have hsent : (call.run c reply).sent = some out := by
    rw [perform_sent] at h
    exact Option.mem_toList.mp h
  refine ⟨call.opening.map .logged, (call.run c reply).closing.map .logged, ?_, ?_⟩
  · rw [Run.happenings, hopening, hsent]
    simp
  · exact List.mem_map_of_mem (inFlight_mem_opening call)

/-! ## The outcome in the log -/

/-- What the log of a call tells of its outcome. -/
structure Tells (call : Call) (c : Circumstances) (reply : TimedReply)
    (outcome : Outcome Answer) : Prop where
  inFlight_once : (states outcome.log).count .inFlight ≤ 1
  final_once : (states outcome.log).countP CallState.isFinal ≤ 1
  final_last : ∀ s ∈ states outcome.log, s.isFinal = true →
    (states outcome.log).getLast? = some s
  own : ∀ operation s, .moved operation s ∈ outcome.log → operation = call.operation
  /-- Log and requests are what happens in the run, and only the writing of a file comes after. -/
  in_order :
    outcome.sent = (call.run c reply).happenings.filterMap Happening.request? ∧ ∃ saved,
      outcome.log = (call.run c reply).happenings.filterMap Happening.event? ++ saved ∧
        ∀ event ∈ saved, ∃ size, event = .written size
  sent_once : outcome.sent.length ≤ 1
  sent_in_flight : ∀ out ∈ outcome.sent, ∃ before after,
    (call.run c reply).happenings = before ++ .sent out :: after ∧
      .logged (.moved call.operation .inFlight) ∈ before
  aborted : (∃ event ∈ outcome.log, event.isAbort = true) ↔
    call.Admissible c.config.endpoints ∧
      ∃ cause instant, Waited c.config.timeout c.cancelAt reply (.error cause) instant
  abort_between : call.Admissible c.config.endpoints → ∀ cause instant,
    Waited c.config.timeout c.cancelAt reply (.error cause) instant →
    ∃ out before after, call.outgoing? c.config.endpoints = .ok out ∧
      outcome.log = before ++ .aborted out.method out.path (cause ≠ .caller) :: after ∧
      .moved call.operation .inFlight ∈ before ∧
      (∃ s, s.isFinal = true ∧ .moved call.operation s ∈ after) ∧
      ∀ event ∈ before ++ after, event.isAbort = false
  /-- Only calls that read are answered offline, after a warning of the failure. -/
  offline : ∀ answer, outcome.result = .ok answer → answer.isOffline = true →
    (∃ reading, call.reading? = some reading) ∧ call.StandsIn c.clock answer ∧
      ∃ ending instant f before, Waited c.config.timeout c.cancelAt reply ending instant ∧
        EndsIn ending f ∧
        outcome.log = before ++ [.offline call.operation f, .moved call.operation .fallback]
  live : ∀ answer, outcome.result = .ok answer → answer.isOffline = false →
    (states outcome.log).getLast? = some .mapped
  failed : ∀ f, outcome.result = .error f →
    (states outcome.log).getLast? = some .failed ∨
      (call.reading? = none ∧ call.RefusedWith c.config.endpoints f ∧ outcome.log = []) ∨
      ∃ path r, call.file? = some path ∧ call.Receives c reply r ∧ f = .file ∧
        (states outcome.log).getLast? = some .mapped
  /-- The first exception. -/
  silent : call.reading? = none → ∀ f, call.RefusedWith c.config.endpoints f →
    outcome.result = .error f ∧ outcome.sent = [] ∧ outcome.log = []
  /-- The second exception: a file whose content has arrived. -/
  received : ∀ path r, call.file? = some path → call.Receives c reply r →
    (states outcome.log).getLast? = some .mapped ∧
      (outcome.result = .ok (.path path) ∨ outcome.result = .error .file)
  written : (∃ size, .written size ∈ outcome.log) ↔
    (∃ path, call.file? = some path) ∧ ∃ answer, outcome.result = .ok answer
  /-- A project that is no number fails the call while it is prepared. -/
  unprepared : ∀ ref cause, call.project? = some ref → ref.number? = .error cause →
    outcome.result = .error (.invalid cause) ∧ outcome.sent = [] ∧
      outcome.log = [.moved call.operation .building, .moved call.operation .failed]

end Call

/-- **The log tells the outcome.** Let any call be made under any circumstances. It goes into
flight once at most, before its request is sent, and ends once at most, in the last of its states.
The abort of the exchange is logged exactly if the exchange is aborted, in flight and before the
end. An offline answer ends in the state for it, right after the warning, and every other answer
in that for live ones; a failure ends in the state for failures but for a call that does not read
and is refused, of which nothing is logged, and for a file whose content cannot be written. -/
theorem log_tells_outcome (call : Call) (c : Circumstances) (reply : TimedReply)
    (files : FileTree) : call.Tells c reply (call.perform c reply files).1 := by
  have hcourse := Call.course_perform call c reply files
  have hwalk := hcourse.states_mem_walks
  obtain ⟨saved, hlog, hsaved⟩ := Call.exists_log_perform call c reply files
  exact {
    inFlight_once := count_inFlight_of_mem_walks _ hwalk
    final_once := countP_isFinal_of_mem_walks _ hwalk
    final_last := getLast?_of_mem_walks _ hwalk
    own := fun operation s hmem => hcourse.operation_eq hmem
    in_order := by
      rw [Run.filterMap_request?_happenings, Run.filterMap_event?_happenings]
      exact ⟨Call.perform_sent, saved, hlog, hsaved⟩
    sent_once := Call.length_sent_le_one
    sent_in_flight := fun out hmem => Call.sent_after_inFlight hmem
    aborted := hcourse.exists_abort_iff
    abort_between := fun hadm cause instant hcause => hcourse.exists_abort_between hadm hcause
    offline := by
      intro answer hok hoffline
      obtain ⟨hstands, hwarned⟩ := hcourse.fallback_of_offline hok hoffline
      exact ⟨hstands.exists_reading, hstands, hwarned⟩
    live := fun answer hok hlive => hcourse.getLast?_of_live hok hlive
    failed := fun f herror => hcourse.getLast?_of_error herror
    silent := by
      intro hreading f hf
      obtain ⟨hresult, hsent, hsilent⟩ := hcourse.eq_of_refused hf
      rw [Call.refusalLog, hreading] at hsilent
      exact ⟨hresult, hsent, hsilent⟩
    received := fun path r hfile hreceives => hcourse.getLast?_of_receives hfile hreceives
    written := hcourse.written_iff
    unprepared := by
      intro ref cause href hn
      obtain ⟨⟨reading, hreading⟩, hf⟩ := Call.refused_of_project href hn
      obtain ⟨hresult, hsent, hprepared⟩ := hcourse.eq_of_refused hf
      rw [Call.refusalLog, hreading] at hprepared
      exact ⟨hresult, hsent, hprepared⟩ }

/-- A list that is never replied to: its log has the abort and then the warning. -/
theorem log_tells_outcome_of_late_list :
    let call := Call.listScenarios ⟨none, none, none, none⟩
    let c : Circumstances := ⟨.default, 0, none⟩
    let outcome := (call.perform c ⟨0, none⟩ .empty).1
    let late := AbortCause.timeout c.config.timeout
    outcome.log =
        [.moved .listScenarios .building, .moved .listScenarios .inFlight,
          .aborted .get scenariosPath true,
          .offline .listScenarios (.aborted late), .moved .listScenarios .fallback] ∧
      call.Admissible c.config.endpoints ∧
      ∃ cause instant, Waited c.config.timeout c.cancelAt ⟨0, none⟩ (.error cause) instant := by
  intro call c outcome late
  have hlog : outcome.log =
      [.moved .listScenarios .building, .moved .listScenarios .inFlight,
        .aborted .get scenariosPath true,
        .offline .listScenarios (.aborted late), .moved .listScenarios .fallback] := by
    decide +kernel
  refine ⟨hlog, (log_tells_outcome call c ⟨0, none⟩ .empty).aborted.mp ?_⟩
  refine ⟨.aborted .get scenariosPath true, ?_, rfl⟩
  show _ ∈ outcome.log
  rw [hlog]
  simp

end Proforma
