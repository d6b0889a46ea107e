import Proforma.Proofs.Service.Checks

/-!
# What comes of a call

The outcome of a call from the way its exchange ends. A refused call comes to nothing
(`perform_of_refused`); any other sends its request unless the caller has cancelled before, takes
as long as the exchange (`perform_of_waited`), and gives what `conclude` makes of the ending. An
export to a file differs only after the content has arrived.
-/

namespace Proforma

/-- Waiting that the caller or the deadline ended is the only source of an aborted call. -/
theorem endingResult_eq_aborted_iff (ending : Except AbortCause Reply) (cause : AbortCause) :
    endingResult ending = .error (.aborted cause) ↔ ending = .error cause := by
  cases ending with
  | error other => simp [endingResult]
  | ok reply =>
    cases reply with
    | response r =>
      cases hs : r.isSuccess <;> simp [endingResult, Reply.response?, Response.checked, hs, bind,
        Except.bind]
    | unreachable message => simp [endingResult, Reply.response?, bind, Except.bind]
    | broken => simp [endingResult, Reply.response?, bind, Except.bind]

/-- A response that reports success comes through as it is. -/
theorem endingResult_eq_ok_iff (ending : Except AbortCause Reply) (r : Response) :
    endingResult ending = .ok r ↔ ending = .ok (.response r) ∧ r.isSuccess = true := by
  cases ending with
  | error cause => simp [endingResult]
  | ok reply =>
    cases reply with
    | response other =>
      cases hs : other.isSuccess with
      | true =>
        simp only [endingResult, Reply.response?, Response.checked, hs, bind, Except.bind, if_true,
          Except.ok.injEq, Reply.response.injEq]
        exact ⟨fun h => ⟨h, h ▸ hs⟩, fun h => h.1⟩
      | false =>
        simp only [endingResult, Reply.response?, Response.checked, hs, bind, Except.bind,
          Except.ok.injEq, Reply.response.injEq]
        constructor
        · intro h
          cases h
        · rintro ⟨rfl, h⟩
          rw [hs] at h
          cases h
    | unreachable message => simp [endingResult, Reply.response?, bind, Except.bind]
    | broken => simp [endingResult, Reply.response?, bind, Except.bind]

namespace Outcome

variable (o : Outcome Answer) (path : String) (files : FileTree)

/-- Writing a file sends nothing. -/
theorem save_sent : (o.save path files).1.sent = o.sent := by
  unfold save
  split
  · split <;> rfl
  · rfl

/-- Writing a file takes no time that is counted. -/
theorem save_elapsed : (o.save path files).1.elapsed = o.elapsed := by
  unfold save
  split
  · split <;> rfl
  · rfl

/-- Without content nothing is written. -/
theorem save_of_error {f : Failure} (h : o.result = .error f) :
    o.save path files = (o, files) := by
  unfold save
  rw [h]

/-- Content that is written is answered with its path, and the writing is logged. -/
theorem save_of_written {content : List UInt8} {after : FileTree}
    (h : o.result = .ok (.bytes content))
    (hw : files.write path content = (true, after)) :
    o.save path files =
      ({ o with result := .ok (.path path), log := o.log ++ [.written content.length] }, after) := by
  unfold save
  rw [h]
  dsimp only
  rw [hw]

/-- Content that cannot be written is a failure. -/
theorem save_of_unwritten {content : List UInt8} {after : FileTree}
    (h : o.result = .ok (.bytes content))
    (hw : files.write path content = (false, after)) :
    o.save path files = ({ o with result := .error .file }, after) := by
  unfold save
  rw [h]
  dsimp only
  rw [hw]

/-- Writing logs nothing about a fallback. -/
theorem offline_mem_of_save {operation : Operation} {f : Failure}
    (h : LogEvent.offline operation f ∈ (o.save path files).1.log) :
    LogEvent.offline operation f ∈ o.log := by
  unfold save at h
  split at h
  · split at h
    · simpa using h
    · exact h
  · exact h

/-- Content that arrived comes back as the path of its file, or as a failure to write it. -/
theorem save_of_bytes {content : List UInt8} (h : o.result = .ok (.bytes content)) :
    (o.save path files).1.result = .ok (.path path) ∨
      (o.save path files).1.result = .error .file := by
  unfold save
  simp only [h]
  split
  · exact .inl rfl
  · exact .inr rfl

/-- A failure was there before, or is that of the file. -/
theorem result_of_save {f : Failure} (h : (o.save path files).1.result = .error f) :
    o.result = .error f ∨ f = .file := by
  cases hresult : o.result with
  | error other =>
    rw [save_of_error o path files hresult, hresult] at h
    exact .inl h
  | ok answer =>
    cases answer with
    | bytes content =>
      rcases save_of_bytes o path files hresult with hsaved | hfailed
      · cases hsaved.symm.trans h
      · cases hfailed.symm.trans h
        exact .inr rfl
    | _ =>
      unfold save at h
      simp only [hresult] at h
      cases h

end Outcome

namespace Call

variable {call : Call} {c : Circumstances} {reply : TimedReply} {files : FileTree}

/-- What the exchange of a call gives its caller, the writing of a file aside. -/
def concluded (call : Call) (c : Circumstances) (ending : Except AbortCause Reply) :
    Except Failure Answer :=
  (call.conclude c.config.fallback c.clock (endingResult ending)).2

/-! ## From the run to the outcome -/

theorem perform_sent : (call.perform c reply files).1.sent = (call.run c reply).sent.toList := by
  unfold perform
  cases call with
  | exportTo id path => exact Outcome.save_sent _ path files
  | _ => rfl

theorem perform_elapsed : (call.perform c reply files).1.elapsed = (call.run c reply).finish := by
  unfold perform
  cases call with
  | exportTo id path => exact Outcome.save_elapsed _ path files
  | _ => rfl

/-- A run that fails is the outcome as it stands, and no file changes. -/
theorem perform_of_error {f : Failure} (h : (call.run c reply).result = .error f) :
    call.perform c reply files = ((call.run c reply).outcome, files) := by
  unfold perform
  cases call with
  | exportTo id path => exact Outcome.save_of_error _ path files h
  | _ => rfl

/-- So is the run of a call that reads. -/
theorem perform_of_reading {reading : Reading} (h : call.reading? = some reading) :
    call.perform c reply files = ((call.run c reply).outcome, files) := by
  unfold perform
  cases call with
  | exportTo id path => cases h
  | _ => rfl

/-- A failure that comes out is that of the run, or of the file. -/
theorem run_result_of_perform {f : Failure} (h : (call.perform c reply files).1.result = .error f) :
    (call.run c reply).result = .error f ∨ f = .file := by
  unfold perform at h
  cases call with
  | exportTo id path => exact Outcome.result_of_save _ path files h
  | _ => exact .inl h

/-- A call is performed as its run says. -/
theorem perform_congr {c' : Circumstances} (h : call.run c reply = call.run c' reply) :
    call.perform c reply files = call.perform c' reply files := by
  unfold perform
  rw [h]

/-! ## Refused calls -/

/-- **A refused call comes to nothing.** Nothing is sent, no time passes and no file changes. -/
theorem perform_of_refused {f : Failure} (h : call.RefusedWith c.config.endpoints f) :
    (call.perform c reply files).1.result = .error f ∧
      (call.perform c reply files).1.sent = [] ∧
      (call.perform c reply files).1.elapsed = 0 ∧ (call.perform c reply files).2 = files := by
  have hout := outgoing?_of_refused h
  have hresult : (call.run c reply).result = .error f := by
    unfold run
    simp only [hout]
  have hsent : (call.run c reply).sent = none := by
    unfold run
    simp only [hout]
  have hfinish : (call.run c reply).finish = 0 := by
    unfold run
    simp only [hout]
  rw [perform_of_error hresult]
  exact ⟨hresult, by simp [Run.outcome, hsent], hfinish, rfl⟩

/-! ## Calls that are sent -/

section Sent

variable {out : Outgoing} {ending plain : Except AbortCause Reply} {instant due : Nat}

/-- The run of a call that has a request, from how waiting ends. -/
theorem run_of_waited (hout : call.outgoing? c.config.endpoints = .ok out)
    (hw : Waited c.config.timeout c.cancelAt reply ending instant)
    (hdue : Waited c.config.timeout none reply plain due) :
    call.run c reply =
      { opening := (if call.reading?.isSome then [.moved call.operation .building] else []) ++
          [.moved call.operation .inFlight]
        sent := if c.cancelAt.any (· ≤ 0) then none else some out
        finish := instant
        due := due
        closing :=
          ((endingCause? ending).map fun cause =>
            LogEvent.aborted out.method out.path (cause ≠ .caller)).toList ++
          (call.conclude c.config.fallback c.clock (endingResult ending)).1
        result := call.concluded c ending } := by
  unfold run concluded
  simp only [hout, exchange_of_waited hw hdue]
  cases hcancel : c.cancelAt.any (· ≤ 0) <;> cases endingCause? ending <;> rfl

/-- The result of the run, from how waiting ends. -/
theorem run_result_of_waited (hout : call.outgoing? c.config.endpoints = .ok out)
    (hw : Waited c.config.timeout c.cancelAt reply ending instant) :
    (call.run c reply).result = call.concluded c ending := by
  obtain ⟨plain, due, hdue⟩ := exists_waited c.config.timeout none reply
  rw [run_of_waited hout hw hdue]

/-- **A call that is not refused** sends its request unless it is cancelled at the start, and ends
when waiting ends. -/
theorem perform_of_waited (hout : call.outgoing? c.config.endpoints = .ok out)
    (hw : Waited c.config.timeout c.cancelAt reply ending instant) :
    (call.perform c reply files).1.sent = (if c.cancelAt.any (· ≤ 0) then [] else [out]) ∧
      (call.perform c reply files).1.elapsed = instant := by
  obtain ⟨plain, due, hdue⟩ := exists_waited c.config.timeout none reply
  rw [perform_sent, perform_elapsed, run_of_waited hout hw hdue]
  refine ⟨?_, rfl⟩
  cases c.cancelAt.any (· ≤ 0) <;> rfl

/-- A request that is sent is that of a call with one, not cancelled at the start. -/
theorem mem_sent_iff : out ∈ (call.perform c reply files).1.sent ↔
    call.outgoing? c.config.endpoints = .ok out ∧ ∀ t ∈ c.cancelAt, 0 < t := by
  rcases admissible_or_refused c.config.endpoints call with hadm | ⟨f, hf⟩
  · obtain ⟨own, hown⟩ := exists_outgoing?_of_admissible hadm
    obtain ⟨ending, instant, hw⟩ := exists_waited c.config.timeout c.cancelAt reply
    rw [(perform_of_waited hown hw).1, hown, ← any_le_zero_eq_false_iff]
    cases c.cancelAt.any (· ≤ 0) <;> simp [eq_comm]
  · rw [(perform_of_refused hf).2.1, outgoing?_of_refused hf]
    simp

/-- A call sends one request at most. -/
theorem length_sent_le_one : (call.perform c reply files).1.sent.length ≤ 1 := by
  rw [perform_sent]
  cases (call.run c reply).sent <;> simp

/-- A failure that `conclude` passes on is the one it was given; it makes one of its own of a
response that cannot be read. -/
theorem result_of_conclude {policy : FallbackPolicy} {now : Int64}
    {result : Except Failure Response} {f : Failure}
    (h : (call.conclude policy now result).2 = .error f) : result = .error f ∨ f = .json := by
  unfold conclude at h
  cases result with
  | ok r =>
    cases hread : call.read? r with
    | some answer => simp [hread] at h
    | none =>
      simp only [hread, Except.error.injEq] at h
      exact .inr h.symm
  | error other =>
    simp only at h
    split at h
    · cases h
    · cases h
      exact .inl rfl

/-- What `conclude` logs about a fallback is the failure that it was given. -/
theorem offline_mem_conclude {policy : FallbackPolicy} {now : Int64}
    {result : Except Failure Response} {operation : Operation} {f : Failure}
    (h : LogEvent.offline operation f ∈ (call.conclude policy now result).1) :
    result = .error f := by
  unfold conclude at h
  cases result with
  | ok r =>
    cases hread : call.read? r <;> simp [hread] at h
  | error other =>
    simp only at h
    split at h
    · simp only [List.mem_cons, LogEvent.offline.injEq, List.not_mem_nil, or_false] at h
      rcases h with ⟨-, rfl⟩ | h
      · rfl
      · cases h
    · simp at h

/-- A fallback that is logged is logged by the run. -/
theorem offline_mem_run_of_perform {operation : Operation} {f : Failure}
    (h : LogEvent.offline operation f ∈ (call.perform c reply files).1.log) :
    LogEvent.offline operation f ∈ (call.run c reply).outcome.log := by
  unfold perform at h
  cases call with
  | exportTo id path => exact Outcome.offline_mem_of_save _ path files h
  | _ => exact h

/-- It is not logged before the request is sent. -/
theorem offline_notMem_opening (hout : call.outgoing? c.config.endpoints = .ok out)
    {operation : Operation} {f : Failure} :
    LogEvent.offline operation f ∉ (call.run c reply).opening := by
  obtain ⟨ending, instant, hw⟩ := exists_waited c.config.timeout c.cancelAt reply
  obtain ⟨plain, due, hdue⟩ := exists_waited c.config.timeout none reply
  rw [run_of_waited hout hw hdue]
  intro h
  rcases List.mem_append.mp h with hbuilding | hflight
  · split at hbuilding <;> simp at hbuilding
  · simp at hflight

/-- Logged at the end, it is for the failure that the exchange ended in. -/
theorem offline_mem_closing (hout : call.outgoing? c.config.endpoints = .ok out)
    (hw : Waited c.config.timeout c.cancelAt reply ending instant) {operation : Operation}
    {f : Failure} (h : LogEvent.offline operation f ∈ (call.run c reply).closing) :
    endingResult ending = .error f := by
  obtain ⟨plain, due, hdue⟩ := exists_waited c.config.timeout none reply
  rw [run_of_waited hout hw hdue] at h
  rcases List.mem_append.mp h with habort | hclosing
  · cases hcause : endingCause? ending <;> simp [hcause] at habort
  · exact offline_mem_conclude hclosing

end Sent

/-! ## Calls that are never answered offline -/

/-- A call that does not read passes every failure on. -/
theorem conclude_of_not_reading {policy : FallbackPolicy} {now : Int64} {f : Failure}
    (h : call.reading? = none) : (call.conclude policy now (.error f)).2 = .error f := by
  unfold conclude
  simp only [h]

/-- What it answers is read from a response. -/
theorem exists_read?_of_not_reading {policy : FallbackPolicy} {now : Int64}
    {result : Except Failure Response} {answer : Answer} (h : call.reading? = none)
    (hok : (call.conclude policy now result).2 = .ok answer) :
    ∃ r, result = .ok r ∧ call.read? r = some answer := by
  cases result with
  | error f =>
    rw [conclude_of_not_reading h] at hok
    cases hok
  | ok r =>
    refine ⟨r, rfl, ?_⟩
    unfold conclude at hok
    cases hread : call.read? r with
    | none => simp [hread] at hok
    | some other => simpa [hread] using hok

end Call

end Proforma
