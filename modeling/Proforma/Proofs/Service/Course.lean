import Proforma.Proofs.Service.Reading

/-!
# How a call goes

A call is refused, or it opens, waits for its reply and closes (`Call.Course`). How it closes goes
by how waiting ended: with a live answer, an offline answer or a failure, or with the writing of a
file (`Call.Closes`). Every call goes one of these ways (`course_perform`), so what holds of all
calls is read off the ways.
-/

namespace Proforma

/-- Whether an answer was made offline. -/
def Answer.isOffline : Answer → Bool
  | .scenario .offline _ | .scenarios .offline _ => true
  | _ => false

namespace Call

/-- The path of the file that a call writes, if it writes one. -/
def file? : Call → Option String
  | .exportTo _ path => some path
  | _ => none

/-- What a call logs that is refused. Only a call that reads logs anything. -/
def refusalLog (call : Call) : List LogEvent :=
  if call.reading?.isSome then
    [.moved call.operation .building, .moved call.operation .failed]
  else []

/-- What a call logs before its request is sent. -/
def opening (call : Call) : List LogEvent :=
  (if call.reading?.isSome then [.moved call.operation .building] else []) ++
    [.moved call.operation .inFlight]

/-- What is logged of the abort of an exchange, if it was aborted. -/
def abortLog (out : Outgoing) (ending : Except AbortCause Reply) : List LogEvent :=
  ((endingCause? ending).map fun cause =>
    LogEvent.aborted out.method out.path (cause ≠ .caller)).toList

/-- What a call logs when waiting has ended, and what it gives. -/
inductive Closes (call : Call) (now : Int64) :
    Except AbortCause Reply → List LogEvent → Except Failure Answer → Prop where
  | mapped {ending : Except AbortCause Reply} {answer : Answer} :
      call.file? = none → answer.isOffline = false →
      Closes call now ending [.moved call.operation .mapped] (.ok answer)
  | fallback {ending : Except AbortCause Reply} {f : Failure} {answer : Answer} :
      EndsIn ending f → call.StandsIn now answer →
      Closes call now ending
        [.offline call.operation f, .moved call.operation .fallback] (.ok answer)
  /-- There was nothing to write. -/
  | failed {ending : Except AbortCause Reply} {f : Failure} :
      (call.file? ≠ none → ∀ r, ending = .ok (.response r) → ¬ r.Succeeds) →
      Closes call now ending [.moved call.operation .failed] (.error f)
  | written {r : Response} {path : String} : call.file? = some path → r.Succeeds →
      Closes call now (.ok (.response r))
        [.moved call.operation .mapped, .written r.body.length] (.ok (.path path))
  | unwritten {r : Response} {path : String} : call.file? = some path → r.Succeeds →
      Closes call now (.ok (.response r)) [.moved call.operation .mapped] (.error .file)

/-- How a call goes. It is refused, or it opens, waits and closes. -/
inductive Course (call : Call) (c : Circumstances) (reply : TimedReply) : Outcome Answer → Prop where
  | refused {f : Failure} : call.RefusedWith c.config.endpoints f →
      Course call c reply
        { result := .error f
          sent := []
          log := call.refusalLog
          elapsed := 0 }
  | ended {out : Outgoing} {ending : Except AbortCause Reply} {instant : Nat}
      {closing : List LogEvent} {result : Except Failure Answer} :
      call.outgoing? c.config.endpoints = .ok out →
      Waited c.config.timeout c.cancelAt reply ending instant →
      call.Closes c.clock ending closing result →
      Course call c reply
        { result := result
          sent := (if c.cancelAt.any (· ≤ 0) then none else some out).toList
          log := call.opening ++ (abortLog out ending ++ closing)
          elapsed := instant }

variable {call : Call} {policy : FallbackPolicy} {now : Int64} {c : Circumstances}
  {reply : TimedReply} {files : FileTree}

/-! ## Conclusions -/

/-- What is read from a response is live. -/
theorem isOffline_of_read? {r : Response} {answer : Answer} (h : call.read? r = some answer) :
    answer.isOffline = false := by
  cases call with
  | runStudy | listScenarios | updateLoan | editScenario | rerunSensitivity =>
    obtain ⟨j, -, rfl⟩ := Option.map_eq_some_iff.mp h
    rfl
  | deleteScenario | exportScenario | exportTo =>
    cases h
    rfl

theorem StandsIn.isOffline {answer : Answer} (h : call.StandsIn now answer) :
    answer.isOffline = true := by
  cases h <;> rfl

/-- Only calls that read are answered offline. -/
theorem StandsIn.exists_reading {answer : Answer} (h : call.StandsIn now answer) :
    ∃ reading, call.reading? = some reading := by
  cases h with
  | study => exact ⟨_, rfl⟩
  | list => exact ⟨_, rfl⟩

/-- The failure that the client makes of an ending is the one in which waiting ended. -/
theorem endsIn_of_endingResult {ending : Except AbortCause Reply} {f : Failure}
    (h : endingResult ending = .error f) : EndsIn ending f := by
  rcases succeeds_or_endsIn ending with ⟨r, hr, hs⟩ | ⟨g, hg⟩
  · have hok := (endingResult_eq_ok_iff ending r).mpr ⟨hr, r.isSuccess_iff.mpr hs⟩
    rw [hok] at h
    cases h
  · rw [endingResult_of_endsIn hg] at h
    cases h
    exact hg

/-- A call that writes no file closes when it is concluded. -/
theorem closes_conclude (hfile : call.file? = none) (ending : Except AbortCause Reply) :
    call.Closes now ending (call.conclude policy now (endingResult ending)).1
      (call.conclude policy now (endingResult ending)).2 := by
  have hnothing : call.file? ≠ none → ∀ r, ending = .ok (.response r) → ¬ r.Succeeds :=
    fun hne => absurd hfile hne
  cases hending : endingResult ending with
  | ok r =>
    cases hread : call.read? r with
    | some answer =>
      simp only [conclude, hread]
      exact .mapped hfile (isOffline_of_read? hread)
    | none =>
      simp only [conclude, hread]
      exact .failed hnothing
  | error f =>
    cases hreading : call.reading? with
    | none =>
      simp only [conclude, hreading]
      exact .failed hnothing
    | some reading =>
      cases hcovers : policy.covers reading f with
      | false =>
        simp only [conclude, hreading, hcovers, Bool.false_eq_true, if_false]
        exact .failed hnothing
      | true =>
        obtain ⟨answer, hstands, hoffline⟩ := exists_standsIn hreading now
        simp only [conclude, hreading, hcovers, if_true, hoffline]
        exact .fallback (endsIn_of_endingResult hending) hstands

/-- A call that writes a file has its content, or fails and has none. -/
theorem conclude_of_file {path : String} (hfile : call.file? = some path)
    (policy : FallbackPolicy) (now : Int64) (ending : Except AbortCause Reply) :
    (∃ r, ending = .ok (.response r) ∧ r.Succeeds ∧
        call.conclude policy now (endingResult ending) =
          ([.moved call.operation .mapped], .ok (.bytes r.body))) ∨
      (∀ r, ending = .ok (.response r) → ¬ r.Succeeds) ∧
        ∃ f, call.conclude policy now (endingResult ending) =
          ([.moved call.operation .failed], .error f) := by
  cases call with
  | exportTo id own =>
    rcases succeeds_or_endsIn ending with ⟨r, rfl, hs⟩ | ⟨f, hf⟩
    · left
      have hok := (endingResult_eq_ok_iff _ r).mpr ⟨rfl, r.isSuccess_iff.mpr hs⟩
      rw [hok]
      exact ⟨r, rfl, hs, rfl⟩
    · right
      have herror := endingResult_of_endsIn hf
      rw [herror]
      refine ⟨?_, f, rfl⟩
      rintro r rfl hs
      rw [(endingResult_eq_ok_iff _ r).mpr ⟨rfl, r.isSuccess_iff.mpr hs⟩] at herror
      cases herror
  | _ => cases hfile

/-! ## Courses -/

/-- The outcome of a refused run. -/
theorem outcome_of_refused {f : Failure} (h : call.RefusedWith c.config.endpoints f)
    (reply : TimedReply) : (call.run c reply).outcome =
      { result := .error f
        sent := []
        log := call.refusalLog
        elapsed := 0 } := by
  have hout := outgoing?_of_refused h
  unfold run refusalLog
  simp only [hout]
  cases call.reading? <;> rfl

section Sent

variable {out : Outgoing} {ending : Except AbortCause Reply} {instant : Nat}

/-- The outcome of a run that waits. -/
theorem outcome_of_waited (hout : call.outgoing? c.config.endpoints = .ok out)
    (hw : Waited c.config.timeout c.cancelAt reply ending instant) :
    (call.run c reply).outcome =
      { result := (call.conclude c.config.fallback c.clock (endingResult ending)).2
        sent := (if c.cancelAt.any (· ≤ 0) then none else some out).toList
        log := call.opening ++ (abortLog out ending ++
          (call.conclude c.config.fallback c.clock (endingResult ending)).1)
        elapsed := instant } := by
  obtain ⟨plain, due, hdue⟩ := exists_waited c.config.timeout none reply
  rw [run_of_waited hout hw hdue]
  rfl

/-- An export to a file closes when the file is written or cannot be. -/
theorem course_exportTo {id : Int64} {path : String}
    (hout : (exportTo id path).outgoing? c.config.endpoints = .ok out)
    (hw : Waited c.config.timeout c.cancelAt reply ending instant) :
    (exportTo id path).Course c reply ((exportTo id path).perform c reply files).1 := by
  have houtcome := outcome_of_waited hout hw
  have hfile : (exportTo id path).file? = some path := rfl
  rcases conclude_of_file hfile c.config.fallback c.clock ending with
    ⟨r, rfl, hs, hconclude⟩ | ⟨hnothing, f, hconclude⟩
  · rw [hconclude] at houtcome
    have hbytes := congrArg Outcome.result houtcome
    rw [perform]
    cases hwrite : files.write path r.body with
    | mk done after =>
      cases done with
      | false =>
        rw [Outcome.save_of_unwritten _ path files hbytes hwrite, houtcome]
        exact .ended hout hw (.unwritten rfl hs)
      | true =>
        rw [Outcome.save_of_written _ path files hbytes hwrite, houtcome]
        have hcourse : (exportTo id path).Course c reply _ := .ended hout hw (.written rfl hs)
        simpa using hcourse
  · rw [hconclude] at houtcome
    rw [perform_of_error (congrArg Outcome.result houtcome), houtcome]
    exact .ended hout hw (.failed fun _ => hnothing)

end Sent

/-- **Every call goes one of these ways.** -/
theorem course_perform (call : Call) (c : Circumstances) (reply : TimedReply) (files : FileTree) :
    call.Course c reply (call.perform c reply files).1 := by
  rcases admissible_or_refused c.config.endpoints call with hadm | ⟨f, hf⟩
  · obtain ⟨out, hout⟩ := exists_outgoing?_of_admissible hadm
    obtain ⟨ending, instant, hw⟩ := exists_waited c.config.timeout c.cancelAt reply
    -- an export to a file goes on after its run, and no other call does
    have hrun (hfile : call.file? = none) : call.Course c reply (call.run c reply).outcome := by
      rw [outcome_of_waited hout hw]
      exact .ended hout hw (closes_conclude hfile ending)
    cases call with
    | exportTo id path => exact course_exportTo hout hw
    | _ => exact hrun rfl
  · have houtcome := outcome_of_refused hf reply
    rw [perform_of_error (congrArg Outcome.result houtcome), houtcome]
    exact .refused hf

end Call

end Proforma
