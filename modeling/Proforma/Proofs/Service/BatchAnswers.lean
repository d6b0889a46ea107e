import Proforma.Proofs.Offline.List
import Proforma.Proofs.Service.Batch
import Proforma.Proofs.Service.Cancelling

/-!
# What a batch answers

A batch whose runs all answer gives their answers in the order of the studies and has sent all
their requests; a batch with a run that fails gives the failure of one of its runs
(`runTogether_of_answers`, `runTogether_of_failed`). A run that gets its reply in time answers
what the reply says, whenever it comes (`run_of_timely`). So a batch is worth its studies, asked
one by one (`batch_answers_each`).
-/

namespace Proforma

/-! ## Runs that answer and runs that fail -/

section Runs

variable {runs : List Run} {answers : List Answer}

theorem Run.failed_eq_false_iff (r : Run) : r.failed = false ↔ ∃ answer, r.result = .ok answer := by
  unfold failed
  cases r.result <;> simp

theorem Run.failed_iff (r : Run) : r.failed = true ↔ ∃ f, r.result = .error f := by
  unfold failed
  cases r.result <;> simp

/-- Answers are collected in order. -/
theorem mapM_result_of_answers (h : runs.map (·.result) = answers.map .ok) :
    runs.mapM (·.result) = .ok answers := by
  induction runs generalizing answers with
  | nil =>
    obtain rfl := List.map_eq_nil_iff.mp h.symm
    rfl
  | cons r rest ih =>
    obtain ⟨answer, others, rfl, hr, hrest⟩ := List.map_eq_cons_iff.mp h.symm
    have hr : r.result = .ok answer := hr.symm
    rw [List.mapM_cons, hr, ih hrest.symm]
    rfl

theorem failed_of_answers (h : runs.map (·.result) = answers.map .ok) :
    ∀ r ∈ runs, r.failed = false := by
  intro r hr
  have hmem : r.result ∈ answers.map .ok := h ▸ List.mem_map_of_mem hr
  obtain ⟨answer, -, hanswer⟩ := List.mem_map.mp hmem
  exact r.failed_eq_false_iff.mpr ⟨answer, hanswer.symm⟩

theorem exists_answers (h : ∀ r ∈ runs, r.failed = false) :
    ∃ answers : List Answer, runs.map (·.result) = answers.map .ok := by
  induction runs with
  | nil => exact ⟨[], rfl⟩
  | cons r rest ih =>
    obtain ⟨hr, hrest⟩ := List.forall_mem_cons.mp h
    obtain ⟨answer, hanswer⟩ := r.failed_eq_false_iff.mp hr
    obtain ⟨answers, hanswers⟩ := ih hrest
    exact ⟨answer :: answers, by rw [List.map_cons, List.map_cons, hanswer, hanswers]⟩

/-- Either all runs answer or one of them failed. -/
theorem answers_or_failed (runs : List Run) :
    (∃ answers : List Answer, runs.map (·.result) = answers.map .ok) ∨
      ∃ r ∈ runs, r.failed = true := by
  by_cases hfailed : ∃ r ∈ runs, r.failed = true
  · exact .inr hfailed
  · have hall : ∀ r ∈ runs, r.failed = false := by simpa using hfailed
    exact .inl (exists_answers hall)

/-- Items of which none has the property are all kept. -/
theorem upTo_of_forall {α : Type} {p : α → Bool} {items : List α} (h : ∀ a ∈ items, p a = false) :
    upTo p items = items := by
  induction items with
  | nil => rfl
  | cons a rest ih =>
    obtain ⟨ha, hrest⟩ := List.forall_mem_cons.mp h
    rw [upTo, ha, ih hrest]
    rfl

/-- Items of which one has the property are kept up to the first that has it. -/
theorem upTo_of_exists {α : Type} {p : α → Bool} {items : List α} (h : ∃ a ∈ items, p a = true) :
    ∃ front last, upTo p items = front ++ [last] ∧ (∀ a ∈ front, p a = false) ∧ p last = true ∧
      last ∈ items := by
  induction items with
  | nil =>
    obtain ⟨a, ha, -⟩ := h
    cases ha
  | cons b rest ih =>
    cases hb : p b with
    | true =>
      refine ⟨[], b, ?_, List.forall_mem_nil _, hb, List.mem_cons_self⟩
      rw [upTo, hb]
      rfl
    | false =>
      have hrest : ∃ a ∈ rest, p a = true := by simpa [hb] using h
      obtain ⟨front, last, hsplit, hfront, hlast, hmem⟩ := ih hrest
      refine ⟨b :: front, last, ?_, List.forall_mem_cons.mpr ⟨hb, hfront⟩, hlast,
        List.mem_cons_of_mem b hmem⟩
      rw [upTo, hb, hsplit]
      rfl

/-- Runs of which none failed have no first failure. -/
theorem firstFailure?_eq_none (h : ∀ r ∈ runs, r.failed = false) : firstFailure? runs = none := by
  unfold firstFailure?
  rw [List.findSome?_eq_none_iff]
  intro r hr
  have hno := h r hr
  rw [Run.failed_eq] at hno
  simpa using hno

/-- Runs of which one failed have one. -/
theorem exists_firstFailure? (h : ∃ r ∈ runs, r.failed = true) :
    ∃ f instant, firstFailure? runs = some (f, instant) := by
  obtain ⟨r, hr, hfailed⟩ := h
  cases hfirst : firstFailure? runs with
  | some failure => exact ⟨failure.1, failure.2, rfl⟩
  | none =>
    rw [firstFailure?, List.findSome?_eq_none_iff] at hfirst
    rw [Run.failed_eq, hfirst r hr] at hfailed
    cases hfailed

/-- **A batch in which every run answers** gives all the answers and has sent all the requests, in
the order of the studies and whatever the order in which the runs ended. -/
theorem runTogether_of_answers (h : runs.map (·.result) = answers.map .ok) :
    (runTogether runs).result = .ok answers ∧
      (runTogether runs).sent = runs.filterMap (·.sent) := by
  have hall := failed_of_answers h
  have hanswers := mapM_result_of_answers h
  unfold runTogether
  split
  · have hfirst : firstFailure? (inOrder Run.endsFirst runs) = none :=
      firstFailure?_eq_none fun r hr => hall r (mem_inOrder.mp hr)
    have hstarted : startedRuns runs = runs :=
      upTo_of_forall fun r hr => by rw [hall r hr, Bool.and_false]
    rw [(runSmall_of_success hfirst).1, runSmall_sent, hstarted]
    exact ⟨hanswers, rfl⟩
  · have hdecisive : decisiveRuns runs = runs := upTo_of_forall hall
    rw [runLarge_result, runLarge_sent, hdecisive, ite_self]
    exact ⟨hanswers, rfl⟩

/-- **A batch in which a run fails** gives the failure of one of its runs and no answer, when that
run is over or later. -/
theorem runTogether_of_failed (h : ∃ r ∈ runs, r.failed = true) :
    ∃ r ∈ runs, ∃ f, r.result = .error f ∧ (runTogether runs).result = .error f ∧
      r.finish ≤ (runTogether runs).elapsed := by
  unfold runTogether
  split
  · obtain ⟨r, hr, hfailed⟩ := h
    obtain ⟨f, instant, hfirst⟩ := exists_firstFailure? ⟨r, mem_inOrder.mpr hr, hfailed⟩
    obtain ⟨s, hs, hresult, hfinish⟩ := exists_mem_of_firstFailure? hfirst
    obtain ⟨hfailure, helapsed⟩ := runSmall_of_failure hfirst
    exact ⟨s, mem_inOrder.mp hs, f, hresult, hfailure, Nat.le_of_eq (hfinish.trans helapsed.symm)⟩
  · obtain ⟨front, last, hsplit, hfront, hlast, hmem⟩ := upTo_of_exists h
    obtain ⟨f, hf⟩ := last.failed_iff.mp hlast
    refine ⟨last, hmem, f, hf, ?_, ?_⟩
    · rw [runLarge_result, decisiveRuns, hsplit]
      exact mapM_result_of_failure hfront hf
    · rw [runLarge_elapsed, decisiveRuns, hsplit, le_foldl_finish_iff]
      exact .inr ⟨last, List.mem_append_right front List.mem_cons_self, Nat.le_refl _⟩

/-- A batch answers exactly if all its runs do. -/
theorem runTogether_ok_iff :
    (runTogether runs).result = .ok answers ↔ runs.map (·.result) = answers.map .ok := by
  refine ⟨fun h => ?_, fun h => (runTogether_of_answers h).1⟩
  rcases answers_or_failed runs with ⟨own, hown⟩ | hfailed
  · cases h.symm.trans (runTogether_of_answers hown).1
    exact hown
  · obtain ⟨r, -, f, -, hf, -⟩ := runTogether_of_failed hfailed
    cases h.symm.trans hf

theorem exists_runTogether_ok_iff :
    (∃ answers, (runTogether runs).result = .ok answers) ↔
      ∀ r ∈ runs, ∃ answer, r.result = .ok answer := by
  simp only [runTogether_ok_iff, ← Run.failed_eq_false_iff]
  exact ⟨fun ⟨_, h⟩ => failed_of_answers h, exists_answers⟩

/-- A batch that fails has a run that fails so and is over. -/
theorem exists_mem_of_runTogether {f : Failure} (h : (runTogether runs).result = .error f) :
    ∃ r ∈ runs, r.result = .error f ∧ r.finish ≤ (runTogether runs).elapsed := by
  rcases answers_or_failed runs with ⟨own, hown⟩ | hfailed
  · cases h.symm.trans (runTogether_of_answers hown).1
  · obtain ⟨r, hr, g, hresult, hg, hle⟩ := runTogether_of_failed hfailed
    cases h.symm.trans hg
    exact ⟨r, hr, hresult, hle⟩

end Runs

/-! ## A run that gets its reply in time -/

namespace Call

variable {call : Call} {c : Circumstances} {r : Reply} {delay : Nat} {out : Outgoing}

/-- **A reply in time decides the run**, whenever it comes. The request is sent. -/
theorem run_of_timely (hout : call.outgoing? c.config.endpoints = .ok out)
    (hcancel : c.cancelAt = none) (hdelay : delay ≤ c.config.timeout) :
    (call.run c ⟨delay, some r⟩).result = call.concluded c (.ok r) ∧
      (call.run c ⟨delay, some r⟩).sent = some out := by
  have hw : Waited c.config.timeout none ⟨delay, some r⟩ (.ok r) delay := .replied rfl hdelay nofun
  have hown : Waited c.config.timeout c.cancelAt ⟨delay, some r⟩ (.ok r) delay := hcancel ▸ hw
  rw [run_of_waited hout hown hw, hcancel]
  exact ⟨rfl, rfl⟩

end Call

/-- The answer without the identifier that an offline scenario has from the clock. -/
def Answer.withoutClock : Answer → Answer
  | .scenario .offline s => .scenario .offline { s with scenarioId := 0 }
  | answer => answer

/-- At another time of the clock a call is concluded in the same way. -/
theorem Call.concluded_withoutClock (call : Call) (c : Circumstances) (clock : Int64)
    (ending : Except AbortCause Reply) :
    (call.concluded { c with clock := clock } ending).map Answer.withoutClock =
      (call.concluded c ending).map Answer.withoutClock := by
  have hoffline : (call.offline? clock).map Answer.withoutClock =
      (call.offline? c.clock).map Answer.withoutClock := by
    cases call with
    | runStudy study =>
      exact congrArg (fun s => some (Answer.scenario .offline s))
        (Offline.scenarioAt_withoutClock clock c.clock study)
    | _ => rfl
  unfold concluded conclude
  cases endingResult ending with
  | ok response => cases call.read? response <;> rfl
  | error f =>
    cases call.reading? with
    | none => rfl
    | some reading =>
      cases hcovers : c.config.fallback.covers reading f with
      | false => simp only [hcovers]; rfl
      | true =>
        simp only [hcovers, if_true]
        cases hnow : call.offline? clock <;> cases hown : call.offline? c.clock <;>
          simp_all [Except.map]

theorem Call.concluded_of_error {call : Call} {c : Circumstances} {clock : Int64}
    {ending : Except AbortCause Reply} {f : Failure} (h : call.concluded c ending = .error f) :
    call.concluded { c with clock := clock } ending = .error f := by
  have hsame := call.concluded_withoutClock c clock ending
  rw [h] at hsame
  cases hother : call.concluded { c with clock := clock } ending with
  | ok answer => rw [hother] at hsame; cases hsame
  | error g => rw [hother] at hsame; cases hsame; rfl

/-! ## Studies with their replies -/

/-- A study with the reply that its request gets, and how long that takes. -/
structure Posed where
  study : Study
  delay : Nat
  reply : Reply

namespace Posed

/-- The call that runs the study. -/
def call (p : Posed) : Call := .runStudy p.study

/-- The reply with its time. -/
def timed (p : Posed) : TimedReply := ⟨p.delay, some p.reply⟩

variable {c : Circumstances} {items : List Posed} {missing : TimedReply}

/-- Every request of a batch gets the reply at its place. -/
theorem runBatch_eq (h : ∀ p ∈ items, ∃ n, p.study.projectId.number? = .ok n) :
    runBatch c missing (items.map timed) (items.map Posed.study) =
      runTogether (items.map fun p => p.call.run c p.timed) := by
  have hpairs : pairReplies c.config.endpoints missing ((items.map Posed.study).map .runStudy)
      (items.map timed) = items.map fun p => (p.call, p.timed) := by
    induction items with
    | nil => rfl
    | cons p rest ih =>
      obtain ⟨hp, hrest⟩ := List.forall_mem_cons.mp h
      obtain ⟨out, hout⟩ := Call.exists_outgoing?_of_study hp c.config.endpoints
      simp only [List.map_cons, pairReplies, hout, ih hrest]
      rfl
  unfold runBatch
  rw [hpairs]
  exact congrArg runTogether List.map_map

/-- What a study gives is decided by its reply. -/
theorem run_result {p : Posed} (h : ∃ n, p.study.projectId.number? = .ok n)
    (hcancel : c.cancelAt = none) (hdelay : p.delay ≤ c.config.timeout) :
    (p.call.run c p.timed).result = p.call.concluded c (.ok p.reply) := by
  obtain ⟨out, hout⟩ := Call.exists_outgoing?_of_study h c.config.endpoints
  exact (Call.run_of_timely hout hcancel hdelay).1

section Timely

variable (hprojects : ∀ p ∈ items, ∃ n, p.study.projectId.number? = .ok n)
  (hcancel : c.cancelAt = none) (htimely : ∀ p ∈ items, p.delay ≤ c.config.timeout)

include hprojects hcancel htimely

/-- What the runs of a batch send is one request each. -/
theorem map_outgoing?_eq : items.map (fun p => p.call.outgoing? c.config.endpoints) =
    ((items.map fun p => p.call.run c p.timed).filterMap (·.sent)).map .ok := by
  induction items with
  | nil => rfl
  | cons p rest ih =>
    obtain ⟨hp, hrest⟩ := List.forall_mem_cons.mp hprojects
    obtain ⟨hdelay, hdelays⟩ := List.forall_mem_cons.mp htimely
    obtain ⟨out, hout⟩ := Call.exists_outgoing?_of_study hp c.config.endpoints
    have hout : p.call.outgoing? c.config.endpoints = .ok out := hout
    have hsent : (p.call.run c p.timed).sent = some out :=
      (Call.run_of_timely hout hcancel hdelay).2
    rw [List.map_cons, List.map_cons, List.filterMap_cons_some hsent, List.map_cons, hout,
      ih hrest hdelays]

/-- A batch answers exactly what the replies say. -/
theorem runBatch_ok_iff (answers : List Answer) :
    (runBatch c missing (items.map timed) (items.map Posed.study)).result = .ok answers ↔
      items.map (fun p => p.call.concluded c (.ok p.reply)) = answers.map .ok := by
  have hresults : (items.map fun p => p.call.run c p.timed).map (·.result) =
      items.map fun p => p.call.concluded c (.ok p.reply) := by
    rw [List.map_map]
    exact List.map_congr_left fun p hp => run_result (hprojects p hp) hcancel (htimely p hp)
  rw [runBatch_eq hprojects, runTogether_ok_iff, hresults]

end Timely

end Posed

/-- **A batch is worth its studies.** Let every study of a batch name a project that is a number,
let every request get a reply in time, and let the caller's signal never cancel. The batch answers
exactly if each study does that is asked alone and gets the same reply. Its answers are then those,
in the order of the studies, but for identifiers taken from the clock, and each request has been
sent once. If the batch fails, its failure is that of one of its studies alone. How long each of
the replies takes makes no difference to any answer. -/
theorem batch_answers_each (c : Circumstances) (signal : CallerSignal)
    (hsignal : ∀ t, ¬ signal.CancelsAt t) (items : List Posed)
    (hprojects : ∀ p ∈ items, ∃ n, p.study.projectId.number? = .ok n)
    (htimely : ∀ p ∈ items, p.delay ≤ c.config.timeout) (missing : TimedReply)
    (files : FileTree) :
    let batch (items : List Posed) :=
      runBatch (c.under signal) missing (items.map Posed.timed) (items.map Posed.study)
    let alone (clock : Int64) (p : Posed) :=
      (p.call.perform ({ c with clock := clock }.under signal) p.timed files).1.result
    ((∃ answers, (batch items).result = .ok answers) ↔
        ∀ p ∈ items, ∃ answer, alone c.clock p = .ok answer) ∧
      (∀ answers, (batch items).result = .ok answers →
        (∀ clock, items.map (fun p => (alone clock p).map Answer.withoutClock) =
          answers.map fun answer => .ok answer.withoutClock) ∧
        items.map (fun p => p.call.outgoing? c.config.endpoints) = (batch items).sent.map .ok) ∧
      (∀ f, (batch items).result = .error f → ∃ p ∈ items, ∀ clock, alone clock p = .error f) ∧
      (∀ others : List Posed,
        others.map (fun p => (p.study, p.reply)) = items.map (fun p => (p.study, p.reply)) →
        (∀ p ∈ others, p.delay ≤ c.config.timeout) →
        ∀ answers, (batch others).result = .ok answers ↔ (batch items).result = .ok answers) := by
  intro batch alone
  have hnone : (c.under signal).cancelAt = none := by
    rw [Option.eq_none_iff_forall_not_mem]
    exact fun t ht => hsignal t ((signal.cancelAt_eq_some_iff t).mp ht)
  have hruns : batch items =
      runTogether (items.map fun p => p.call.run (c.under signal) p.timed) :=
    Posed.runBatch_eq hprojects
  have hrun (p : Posed) (hp : p ∈ items) : (p.call.run (c.under signal) p.timed).result =
      p.call.concluded (c.under signal) (.ok p.reply) :=
    Posed.run_result (hprojects p hp) hnone (htimely p hp)
  have halone (clock : Int64) (p : Posed) (hp : p ∈ items) : alone clock p =
      p.call.concluded { c.under signal with clock := clock } (.ok p.reply) := by
    show (p.call.perform _ p.timed files).1.result = _
    have hreads : p.call.reading? = some .study := rfl
    rw [Call.perform_of_reading hreads]
    exact Posed.run_result (c := { c.under signal with clock := clock }) (hprojects p hp) hnone
      (htimely p hp)
  have hbatch (answers : List Answer) : (batch items).result = .ok answers ↔
      items.map (fun p => p.call.concluded (c.under signal) (.ok p.reply)) = answers.map .ok :=
    Posed.runBatch_ok_iff hprojects hnone htimely answers
  refine ⟨?_, ?_, ?_, ?_⟩
  · rw [hruns, exists_runTogether_ok_iff]
    constructor
    · intro hall p hp
      obtain ⟨answer, hanswer⟩ := hall _ (List.mem_map_of_mem hp)
      exact ⟨answer, (halone c.clock p hp).trans ((hrun p hp).symm.trans hanswer)⟩
    · intro hall r hr
      obtain ⟨p, hp, rfl⟩ := List.mem_map.mp hr
      obtain ⟨answer, hanswer⟩ := hall p hp
      exact ⟨answer, (hrun p hp).trans ((halone c.clock p hp).symm.trans hanswer)⟩
  · intro answers hok
    refine ⟨fun clock => ?_, ?_⟩
    · calc items.map (fun p => (alone clock p).map Answer.withoutClock)
          = items.map fun p =>
              (p.call.concluded (c.under signal) (.ok p.reply)).map Answer.withoutClock :=
            List.map_congr_left fun p hp => by
              rw [halone clock p hp, Call.concluded_withoutClock]
        _ = (answers.map .ok).map (Except.map Answer.withoutClock) := by
            rw [← (hbatch answers).mp hok, List.map_map]
            rfl
        _ = answers.map fun answer => .ok answer.withoutClock := by
            rw [List.map_map]
            rfl
    · rw [hruns, (runTogether_of_answers (runTogether_ok_iff.mp (hruns ▸ hok))).2]
      exact Posed.map_outgoing?_eq hprojects hnone htimely
  · intro f hf
    obtain ⟨r, hr, hfailed, -⟩ := exists_mem_of_runTogether (hruns ▸ hf)
    obtain ⟨p, hp, rfl⟩ := List.mem_map.mp hr
    refine ⟨p, hp, fun clock => ?_⟩
    rw [halone clock p hp]
    exact Call.concluded_of_error ((hrun p hp).symm.trans hfailed)
  · intro others hsame hothers answers
    have hprojects' : ∀ p ∈ others, ∃ n, p.study.projectId.number? = .ok n := by
      intro p hp
      have hmem : (p.study, p.reply) ∈ items.map fun p => (p.study, p.reply) :=
        hsame ▸ List.mem_map_of_mem hp
      obtain ⟨q, hq, heq⟩ := List.mem_map.mp hmem
      rw [← (Prod.mk.inj heq).1]
      exact hprojects q hq
    -- what a study answers is a function of the study and its reply
    have hconcluded : others.map (fun p => p.call.concluded (c.under signal) (.ok p.reply)) =
        items.map fun p => p.call.concluded (c.under signal) (.ok p.reply) := by
      have := congrArg (List.map fun (study, reply) =>
        (Call.runStudy study).concluded (c.under signal) (.ok reply)) hsame
      rwa [List.map_map, List.map_map] at this
    rw [hbatch, ← hconcluded]
    exact Posed.runBatch_ok_iff hprojects' hnone hothers answers

/-- Two studies of which the first is answered later than the second, and offline, under a signal
whose handle is dropped before. -/
theorem batch_answers_each_of_mixed :
    let signal : CallerSignal := some (.new, [(5, .drop)])
    let c : Circumstances := ⟨.default, 1700000000000, none⟩
    let study (project : String) : Study :=
      { projectId := .text project
        projectName := none
        finProjectId := none
        scenario :=
          { name := "Base Case"
            description := none
            currency := "SGD"
            isPrimary := none
            costEscalation := ⟨"38000000", "2024-Q4", "construction", "SG", none⟩
            cashFlow := ⟨"0.08", ["-1000", "1200"]⟩
            dscr := none
            capitalStack := []
            drawdownSchedule := []
            assetMix := []
            constructionLoan := none
            sensitivityBands := [] } }
    let items : List Posed :=
      [⟨study "401", 900, .unreachable "refused"⟩, ⟨study "402", 300, .response ⟨200, []⟩⟩]
    let batch := runBatch (c.under signal) ⟨0, none⟩ (items.map Posed.timed)
      (items.map Posed.study)
    (∀ t, ¬ signal.CancelsAt t) ∧ (∀ p ∈ items, ∃ n, p.study.projectId.number? = .ok n) ∧
      (∀ p ∈ items, p.delay ≤ c.config.timeout) ∧ ∃ answers, batch.result = .ok answers := by
  intro signal c study items batch
  have hsignal : ∀ t, ¬ signal.CancelsAt t := by
    intro t h
    cases (signal.cancelAt_eq_some_iff t).mpr h
  have hprojects : ∀ p ∈ items, ∃ n, p.study.projectId.number? = .ok n := by
    have hfaults : ∀ p ∈ items, p.study.projectId.fault? = none := by decide +kernel
    exact fun p hp => Call.exists_number?_of_fault? (hfaults p hp)
  have htimely : ∀ p ∈ items, p.delay ≤ c.config.timeout := by decide
  obtain ⟨hanswers, -⟩ :=
    batch_answers_each c signal hsignal items hprojects htimely ⟨0, none⟩ .empty
  have halone : ∀ p ∈ items,
      (p.call.perform (c.under signal) p.timed .empty).1.result.toOption.isSome = true := by
    decide +kernel
  refine ⟨hsignal, hprojects, htimely, hanswers.mpr fun p hp => ?_⟩
  have hsome := halone p hp
  cases hresult : (p.call.perform (c.under signal) p.timed .empty).1.result with
  | ok answer => exact ⟨answer, hresult⟩
  | error f => rw [hresult] at hsome; cases hsome

end Proforma
