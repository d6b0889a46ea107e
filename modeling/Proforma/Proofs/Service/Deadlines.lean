import Proforma.Proofs.Service.BatchAnswers

/-!
# What a deadline leaves of calls and batches

A run ends at its deadline at the latest. It fails by the deadline, or tells of offline data that
stand in because of it, only if it ends at that very instant (`Call.run_meetsDeadline`). What a
batch fails by, and what it tells of the end of a run, belongs to a run that is over when the batch
is (`exists_mem_of_runTogether`, `toldBy_of_mem_log`). So the same holds of a batch whose runs have
one deadline (`runTogether_meetsDeadline`).

All this is of deadlines that the clock can show. With any other, a call that is not refused stops
the program (`Call.attempt_of_canShow`, `Call.attempt_of_not_canShow`).
-/

namespace Proforma

/-- What a deadline leaves of a run. -/
structure Run.MeetsDeadline (limit : Nat) (r : Run) : Prop where
  finish_le : r.finish ≤ limit
  timeout : ∀ {bound}, r.result = .error (.aborted (.timeout bound)) →
    bound = limit ∧ r.finish = limit
  opening : ∀ {operation f}, .offline operation f ∉ r.opening
  closing : ∀ {operation bound}, .offline operation (.aborted (.timeout bound)) ∈ r.closing →
    bound = limit ∧ r.finish = limit

/-- What a deadline leaves of an outcome: it does not come later, and a timeout, or the offline
data that it leads to, comes exactly then. -/
structure Outcome.MeetsDeadline (limit : Nat) (o : Outcome α) : Prop where
  elapsed_le : o.elapsed ≤ limit
  timeout : ∀ bound, o.result = .error (.aborted (.timeout bound)) →
    bound = limit ∧ o.elapsed = limit
  offline : ∀ operation bound, .offline operation (.aborted (.timeout bound)) ∈ o.log →
    bound = limit ∧ o.elapsed = limit

/-! ## Calls -/

namespace Call

variable {call : Call} {c : Circumstances} {reply : TimedReply} {files : FileTree} {out : Outgoing}

/-- **A run meets its deadline.** -/
theorem run_meetsDeadline (hout : call.outgoing? c.config.endpoints = .ok out) :
    (call.run c reply).MeetsDeadline c.config.timeout := by
  obtain ⟨ending, instant, hw⟩ := exists_waited c.config.timeout c.cancelAt reply
  obtain ⟨plain, due, hdue⟩ := exists_waited c.config.timeout none reply
  have hfinish : (call.run c reply).finish = instant := by
    rw [run_of_waited hout hw hdue]
  have hexpired {bound : Nat} (h : endingResult ending = .error (.aborted (.timeout bound))) :
      bound = c.config.timeout ∧ instant = c.config.timeout := by
    rw [(endingResult_eq_aborted_iff ending _).mp h] at hw
    exact hw.eq_limit
  refine ⟨?_, ?_, offline_notMem_opening hout, ?_⟩
  · rw [hfinish]
    exact hw.le_limit
  · intro bound h
    rw [run_result_of_waited hout hw] at h
    rw [hfinish]
    exact hexpired ((result_of_conclude h).resolve_right nofun)
  · intro operation bound h
    rw [hfinish]
    exact hexpired (offline_mem_closing hout hw h)

/-- So does what comes of the call. -/
theorem perform_meetsDeadline (hout : call.outgoing? c.config.endpoints = .ok out) :
    (call.perform c reply files).1.MeetsDeadline c.config.timeout := by
  have hrun : (call.run c reply).MeetsDeadline c.config.timeout := run_meetsDeadline hout
  refine ⟨?_, ?_, ?_⟩
  · rw [perform_elapsed]
    exact hrun.finish_le
  · intro bound h
    rw [perform_elapsed]
    exact hrun.timeout ((run_result_of_perform h).resolve_right nofun)
  · intro operation bound h
    rw [perform_elapsed]
    rcases List.mem_append.mp (offline_mem_run_of_perform h) with hopening | hclosing
    · exact absurd hopening hrun.opening
    · exact hrun.closing hclosing

end Call

/-! ## What a batch tells -/

section Told

variable {runs : List Run} {r : Run} {event : LogEvent}

/-- Whether an event is one that a run logs by an instant. -/
def Run.ToldBy (r : Run) (t : Nat) (event : LogEvent) : Prop :=
  event ∈ r.opening ∨ event ∈ r.closing ∧ r.finish ≤ t

/-- What is logged when a run is started. -/
theorem Run.toldBy_of_mem_startLog (h : event ∈ r.startLog) (t : Nat) : r.ToldBy t event := by
  unfold startLog at h
  split at h
  · next hends =>
    rcases List.mem_append.mp h with hopening | hclosing
    · exact .inl hopening
    · have hzero : r.finish = 0 := of_decide_eq_true hends
      exact .inr ⟨hclosing, hzero ▸ Nat.zero_le t⟩
  · exact .inl h

theorem toldBy_of_started {started : List Run} (hruns : ∀ r ∈ started, r ∈ runs)
    (h : event ∈ started.flatMap Run.startLog) (t : Nat) : ∃ r ∈ runs, r.ToldBy t event := by
  obtain ⟨r, hr, hlog⟩ := List.mem_flatMap.mp h
  exact ⟨r, hruns r hr, r.toldBy_of_mem_startLog hlog t⟩

/-! ### Small batches -/

/-- The failure of the last run is met when that run is over. -/
theorem finish_of_lastFailure? {last : Run} {failure : Failure × Nat}
    (hlast : runs.getLast? = some last) (h : lastFailure? runs = some failure) :
    last.finish = failure.2 := by
  rw [lastFailure?_eq, hlast, Option.bind_some, Run.failure?] at h
  split at h
  · cases h
    rfl
  · cases h

theorem pairwise_awaitedRuns (runs : List Run) :
    (awaitedRuns runs).Pairwise (·.finish ≤ ·.finish) := by
  refine .sublist (upTo_isPrefix _ _).sublist (pairwise_inOrder ?_ ?_ _)
  · intro a b h
    exact Nat.le_of_lt (of_decide_eq_true h)
  · intro a b h
    exact Nat.le_of_not_lt (of_decide_eq_false h)

/-- A run that a small batch waits for is over when the batch is. -/
theorem finish_le_of_mem_awaitedRuns (hr : r ∈ awaitedRuns runs)
    (hstart : lastFailure? ((startedRuns runs).filter (·.endsAtOnce)) = none) :
    r ∈ runs ∧ r.finish ≤ (runSmall runs).elapsed := by
  have hmem : r ∈ runs := (List.mem_filter.mp (mem_inOrder.mp (mem_of_mem_upTo hr))).1
  have hfirst : firstFailure? (inOrder Run.endsFirst runs) = lastFailure? (awaitedRuns runs) := by
    rw [firstFailure?_inOrder, hstart, Option.none_or]
  refine ⟨hmem, ?_⟩
  cases hawaited : lastFailure? (awaitedRuns runs) with
  | none =>
    rw [(runSmall_of_success (hfirst.trans hawaited)).2, le_foldl_finish_iff]
    exact .inr ⟨r, hmem, Nat.le_refl _⟩
  | some failure =>
    -- the run that fails is the last that is waited for
    rw [(runSmall_of_failure (hfirst.trans hawaited)).2]
    cases hlast : (awaitedRuns runs).getLast? with
    | none => exact absurd (List.getLast?_eq_none_iff.mp hlast) (List.ne_nil_of_mem hr)
    | some last =>
      rw [← finish_of_lastFailure? hlast hawaited]
      exact le_of_getLast? (pairwise_awaitedRuns runs) hr hlast

/-- What is in the log of a small batch. -/
theorem toldBy_of_mem_runSmall (h : event ∈ (runSmall runs).log) :
    ∃ r ∈ runs, r.ToldBy (runSmall runs).elapsed event := by
  have hstarted (hlog : event ∈ (startedRuns runs).flatMap Run.startLog) :
      ∃ r ∈ runs, r.ToldBy (runSmall runs).elapsed event :=
    toldBy_of_started (fun r hr => mem_of_mem_upTo hr) hlog _
  have hawaited (hstart : lastFailure? ((startedRuns runs).filter (·.endsAtOnce)) = none)
      (hlog : event ∈ (startedRuns runs).flatMap Run.startLog ++
        (awaitedRuns runs).flatMap (·.closing)) :
      ∃ r ∈ runs, r.ToldBy (runSmall runs).elapsed event := by
    rcases List.mem_append.mp hlog with hlog | hlog
    · exact hstarted hlog
    · obtain ⟨r, hr, hlog⟩ := List.mem_flatMap.mp hlog
      obtain ⟨hmem, hle⟩ := finish_le_of_mem_awaitedRuns hr hstart
      exact ⟨r, hmem, .inr ⟨hlog, hle⟩⟩
  unfold runSmall at h
  dsimp only at h
  split at h
  · exact hstarted h
  · next hstart =>
    split at h
    · exact hawaited hstart h
    · exact hawaited hstart h

/-! ### Large batches -/

/-- The runs of a large batch with their places, in the order in which they end. -/
def endsInOrder (runs : List Run) : List (Run × Nat) :=
  inOrder (fun r s => r.1.endsBefore s.1) (runs.zipIdx.filter (!·.1.endsAtOnce))

theorem pairwise_endsInOrder (runs : List Run) :
    (endsInOrder runs).Pairwise (·.1.finish ≤ ·.1.finish) := by
  refine pairwise_inOrder ?_ ?_ _
  · intro a b h
    simp only [Run.endsBefore, Bool.or_eq_true, Bool.and_eq_true, decide_eq_true_eq] at h
    omega
  · intro a b h
    simp only [Run.endsBefore, Bool.or_eq_false_iff, decide_eq_false_iff_not] at h
    omega

theorem getElem?_of_mem_endsInOrder {entry : Run × Nat} (h : entry ∈ endsInOrder runs) :
    runs[entry.2]? = some entry.1 :=
  List.mem_zipIdx_iff_getElem?.mp (List.mem_filter.mp (mem_inOrder.mp h)).1

/-- A run that a large batch collects is over when the batch is. -/
theorem finish_le_of_mem_collectedRuns (hr : r ∈ collectedRuns runs) :
    r ∈ runs ∧ r.finish ≤ (runLarge runs).elapsed := by
  obtain ⟨entry, hentry, rfl⟩ := List.mem_map.mp hr
  have hmem := getElem?_of_mem_endsInOrder (mem_of_mem_upToLast hentry)
  obtain ⟨last, hlast, hplace, hle⟩ :=
    exists_le_of_mem_upToLast (pairwise_endsInOrder runs) hentry
  -- the last that is collected is one of those that decide
  have hdecisive : last.1 ∈ decisiveRuns runs := by
    obtain ⟨back, hback⟩ : decisiveRuns runs <+: runs := upTo_isPrefix Run.failed runs
    have hget := getElem?_of_mem_endsInOrder hlast
    rw [← hback, List.getElem?_append_left (of_decide_eq_true hplace)] at hget
    exact List.mem_of_getElem? hget
  refine ⟨List.mem_of_getElem? hmem, Nat.le_trans hle ?_⟩
  rw [runLarge_elapsed, le_foldl_finish_iff]
  exact .inr ⟨last.1, hdecisive, Nat.le_refl _⟩

/-- What is in the log of a large batch. -/
theorem toldBy_of_mem_runLarge (h : event ∈ (runLarge runs).log) :
    ∃ r ∈ runs, r.ToldBy (runLarge runs).elapsed event := by
  rcases List.mem_append.mp h with hstart | hend
  · refine toldBy_of_started (fun r hr => ?_) hstart _
    split at hr
    · exact mem_of_mem_upTo hr
    · exact hr
  · obtain ⟨r, hr, hlog⟩ := List.mem_flatMap.mp hend
    obtain ⟨hmem, hle⟩ := finish_le_of_mem_collectedRuns hr
    exact ⟨r, hmem, .inr ⟨hlog, hle⟩⟩

/-! ### Batches of either size -/

/-- **What is in the log of a batch** was logged by one of its runs before the batch was over. -/
theorem toldBy_of_mem_log (h : event ∈ (runTogether runs).log) :
    ∃ r ∈ runs, r.ToldBy (runTogether runs).elapsed event := by
  unfold runTogether at h ⊢
  by_cases hsize : runs.length ≤ smallSize
  · rw [if_pos hsize] at h ⊢
    exact toldBy_of_mem_runSmall h
  · rw [if_neg hsize] at h ⊢
    exact toldBy_of_mem_runLarge h

end Told

/-! ## Batches -/

section Batch

variable {runs : List Run} {limit : Nat}

/-- A batch of either size is over once all its runs are. -/
theorem elapsed_runTogether_lt {t : Nat} (ht : 0 < t) (h : ∀ r ∈ runs, r.finish < t) :
    (runTogether runs).elapsed < t := by
  unfold runTogether
  split
  · exact elapsed_runSmall_lt ht h
  · rw [runLarge_elapsed]
    exact foldl_finish_lt ht fun r hr => h r (mem_of_mem_upTo hr)

/-- **A batch meets the deadline of its runs.** -/
theorem runTogether_meetsDeadline (h : ∀ r ∈ runs, r.MeetsDeadline limit) :
    (runTogether runs).MeetsDeadline limit := by
  have hle : (runTogether runs).elapsed ≤ limit := by
    refine Nat.le_of_lt_succ (elapsed_runTogether_lt (Nat.succ_pos limit) fun r hr => ?_)
    exact Nat.lt_succ_of_le (h r hr).finish_le
  -- a run that ends at the deadline and is over when the batch is makes the batch end there
  have hends {r : Run} (hfinish : r.finish = limit)
      (hover : r.finish ≤ (runTogether runs).elapsed) : (runTogether runs).elapsed = limit :=
    Nat.le_antisymm hle (hfinish ▸ hover)
  refine ⟨hle, ?_, ?_⟩
  · intro bound hresult
    obtain ⟨r, hr, hfailed, hover⟩ := exists_mem_of_runTogether hresult
    obtain ⟨hbound, hfinish⟩ := (h r hr).timeout hfailed
    exact ⟨hbound, hends hfinish hover⟩
  · intro operation bound hlog
    obtain ⟨r, hr, hopening | ⟨hclosing, hover⟩⟩ := toldBy_of_mem_log hlog
    · exact absurd hopening (h r hr).opening
    · obtain ⟨hbound, hfinish⟩ := (h r hr).closing hclosing
      exact ⟨hbound, hends hfinish hover⟩

end Batch

/-! ## By the clock -/

section Clock

variable {clock : SteadyClock}

namespace Call

variable {call : Call} {c : Circumstances} {reply : TimedReply} {files : FileTree}

theorem signal?_of_canShow (call : Call) (c : Circumstances)
    (h : clock.CanShow c.config.timeout) : ∃ composed, call.signal? c clock = .ok composed := by
  unfold signal?
  rw [ComposedSignal.compose?_of_canShow h]
  cases call.outgoing? c.config.endpoints <;> exact ⟨_, rfl⟩

/-- **A deadline that the clock can show** does not stop a call. -/
theorem attempt_of_canShow (h : clock.CanShow c.config.timeout) :
    call.attempt c clock reply files = .ok (call.perform c reply files) := by
  obtain ⟨composed, hcomposed⟩ := signal?_of_canShow call c h
  rw [attempt, hcomposed]
  rfl

/-- **Any other deadline** stops a call that is not refused. -/
theorem attempt_of_not_canShow {out : Outgoing}
    (hout : call.outgoing? c.config.endpoints = .ok out)
    (h : ¬ clock.CanShow c.config.timeout) :
    call.attempt c clock reply files = .error .deadline := by
  rw [attempt, signal?, hout]
  simp only [ComposedSignal.compose?_of_not_canShow h]
  rfl

end Call

/-- A deadline that the clock can show does not stop a batch. -/
theorem attemptBatch_of_canShow (c : Circumstances) (h : clock.CanShow c.config.timeout)
    (missing : TimedReply) (replies : List TimedReply) (studies : List Study) :
    attemptBatch c clock missing replies studies = .ok (runBatch c missing replies studies) := by
  cases studies with
  | nil => rfl
  | cons first rest =>
    obtain ⟨composed, hcomposed⟩ := Call.signal?_of_canShow (.runStudy first) c h
    rw [attemptBatch, hcomposed]
    rfl

end Clock

end Proforma
