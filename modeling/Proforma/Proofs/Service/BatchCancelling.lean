import Proforma.Proofs.Service.Deadlines

/-!
# Batches that the caller may cancel

A cancellation reaches every run of a batch, and each as `Run.CutAt` says. Small batches
(`runSmall_cutAt`) and large ones (`runLarge_cutAt`) then behave like a single run: once they are
over nothing changes, and before they end at the instant of the cancellation. `cancellation_first`
states this beside what holds of single calls, for deadlines that the clock can show. With any other
deadline, and in a batch of no studies, the caller's signal is not looked at
(`cancellation_unseen`).
-/

namespace Proforma

/-! ## Outcomes -/

section Outcome

variable {α : Type} {plain outcome : Outcome α} {t : Nat}

theorem Outcome.CutAt.of_over (hlt : plain.elapsed < t) (hresult : outcome.result = plain.result)
    (hsent : outcome.sent = plain.sent) (helapsed : outcome.elapsed = plain.elapsed) :
    Outcome.CutAt t plain outcome := by
  refine ⟨fun _ => ⟨hresult, hsent, helapsed⟩, ?_, ?_⟩
  · intro hle
    exact absurd hle (Nat.not_le_of_lt hlt)
  · rintro rfl
    exact absurd hlt (Nat.not_lt_zero _)

theorem Outcome.CutAt.of_running (hle : t ≤ plain.elapsed)
    (hresult : outcome.result = .error (.aborted .caller)) (helapsed : outcome.elapsed = t)
    (hunsent : t = 0 → outcome.sent = []) : Outcome.CutAt t plain outcome := by
  refine ⟨?_, fun _ => ⟨hresult, helapsed⟩, hunsent⟩
  intro hlt
  exact absurd hle (Nat.not_le_of_lt hlt)

end Outcome

section Cut

variable {ι : Type} {items : List ι} {plain cut : ι → Run} {t : Nat}

/-! ## Requests -/

/-- A run that is over at the start is so in both, and fails in both or in none. -/
theorem Run.CutAt.failsAtOnce {p r : Run} (h : Run.CutAt t p r) (ht : 0 < t) :
    (r.endsAtOnce && r.failed) = (p.endsAtOnce && p.failed) := by
  by_cases hlt : p.finish < t
  · rw [h.ended hlt]
  · have hr : r.endsAtOnce = false := by
      rw [Run.endsAtOnce, h.finish (Nat.le_of_not_lt hlt), decide_eq_false_iff_not]
      omega
    have hp : p.endsAtOnce = false := by
      rw [Run.endsAtOnce, decide_eq_false_iff_not]
      omega
    rw [hr, hp, Bool.false_and, Bool.false_and]

/-- Runs that a cancellation at the start meets have sent nothing. -/
theorem filterMap_sent_of_start (h : ∀ i ∈ items, Run.CutAt 0 (plain i) (cut i)) {runs : List Run}
    (hruns : ∀ r ∈ runs, r ∈ items.map cut) : runs.filterMap (·.sent) = [] := by
  rw [List.filterMap_eq_nil_iff]
  intro r hr
  obtain ⟨i, hi, rfl⟩ := List.mem_map.mp (hruns r hr)
  exact (h i hi).unsent rfl

/-- Runs that a later cancellation meets have sent what they send without one. -/
theorem filterMap_sent_map (h : ∀ i ∈ items, Run.CutAt t (plain i) (cut i)) (ht : 0 < t) :
    (items.map cut).filterMap (·.sent) = (items.map plain).filterMap (·.sent) := by
  have hsame : items.map (fun i => (cut i).sent) = items.map (fun i => (plain i).sent) :=
    List.map_congr_left fun i hi => (h i hi).sent ht
  calc (items.map cut).filterMap (·.sent)
      = (items.map fun i => (cut i).sent).filterMap id := by
        rw [List.filterMap_map, List.filterMap_map]
        rfl
    _ = (items.map fun i => (plain i).sent).filterMap id := by rw [hsame]
    _ = (items.map plain).filterMap (·.sent) := by
        rw [List.filterMap_map, List.filterMap_map]
        rfl

/-! ## Small batches -/

/-- What a small batch has sent. -/
theorem sent_runSmall_map (h : ∀ i ∈ items, Run.CutAt t (plain i) (cut i)) (ht : 0 < t) :
    (runSmall (items.map cut)).sent = (runSmall (items.map plain)).sent := by
  have hsame : upTo (fun i => (cut i).endsAtOnce && (cut i).failed) items =
      upTo (fun i => (plain i).endsAtOnce && (plain i).failed) items :=
    upTo_congr fun i hi => (h i hi).failsAtOnce ht
  rw [runSmall_sent, runSmall_sent, startedRuns, startedRuns, upTo_map, upTo_map, hsame]
  exact filterMap_sent_map (fun i hi => h i (mem_of_mem_upTo hi)) ht

/-- The runs that are over before the cancellation are those that are over without it. -/
theorem filter_overBefore_map (h : ∀ i ∈ items, Run.CutAt t (plain i) (cut i)) :
    (items.map cut).filter (Run.overBefore t) = (items.map plain).filter (Run.overBefore t) := by
  induction items with
  | nil => rfl
  | cons i rest ih =>
    have hrest := ih fun j hj => h j (List.mem_cons_of_mem i hj)
    have hi := h i List.mem_cons_self
    rw [List.map_cons, List.map_cons, List.filter_cons, List.filter_cons, hrest]
    by_cases hlt : (plain i).finish < t
    · rw [hi.ended hlt]
    · have hle : t ≤ (plain i).finish := Nat.le_of_not_lt hlt
      have hp : (plain i).overBefore t = false := Run.not_overBefore_iff.mpr hle
      have hr : (cut i).overBefore t = false :=
        Run.not_overBefore_iff.mpr (Nat.le_of_eq (hi.finish hle).symm)
      rw [hp, hr]
      rfl

/-- A run that is not over before the cancellation ends in it. -/
theorem cancelled_of_not_overBefore (h : ∀ i ∈ items, Run.CutAt t (plain i) (cut i)) {r : Run}
    (hr : r ∈ items.map cut) (hover : r.overBefore t = false) :
    r.finish = t ∧ r.result = .error (.aborted .caller) := by
  obtain ⟨i, hi, rfl⟩ := List.mem_map.mp hr
  have hle : t ≤ (plain i).finish := by
    refine Nat.le_of_not_lt fun hlt => ?_
    rw [(h i hi).ended hlt] at hover
    exact Nat.not_lt_of_le (Run.not_overBefore_iff.mp hover) hlt
  exact ⟨(h i hi).finish hle, (h i hi).result hle⟩

/-- The first failure among runs that the cancellation ends is that the caller cancelled. -/
theorem firstFailure?_of_cut {runs : List Run} (hne : runs ≠ [])
    (h : ∀ r ∈ runs, r.finish = t ∧ r.result = .error (.aborted .caller)) :
    firstFailure? runs = some (.aborted .caller, t) := by
  cases runs with
  | nil => exact absurd rfl hne
  | cons r rest =>
    obtain ⟨hfinish, hresult⟩ := h r List.mem_cons_self
    have hfailure : r.failure? = some (.aborted .caller, t) := by
      rw [Run.failure?, hresult, hfinish]
    rw [firstFailure?, List.findSome?_cons, hfailure]

/-- A small batch in which a run fails before the cancellation. The failure is the first one with
the cancellation and without it. -/
theorem runSmall_cutAt_of_failure (h : ∀ i ∈ items, Run.CutAt t (plain i) (cut i)) {f : Failure}
    {instant : Nat} (hfirst : firstFailure? (inOrder Run.endsFirst
      ((items.map plain).filter (Run.overBefore t))) = some (f, instant)) :
    Outcome.CutAt t (runSmall (items.map plain)) (runSmall (items.map cut)) := by
  obtain ⟨r, hr, -, rfl⟩ := exists_mem_of_firstFailure? hfirst
  have hlt : r.finish < t := Run.overBefore_iff.mp (List.mem_filter.mp (mem_inOrder.mp hr)).2
  have hplain : firstFailure? (inOrder Run.endsFirst (items.map plain)) = some (f, r.finish) := by
    rw [inOrder_overBefore t, firstFailure?_append, hfirst, Option.some_or]
  have hcut : firstFailure? (inOrder Run.endsFirst (items.map cut)) = some (f, r.finish) := by
    rw [inOrder_overBefore t, filter_overBefore_map h, firstFailure?_append, hfirst,
      Option.some_or]
  obtain ⟨hresult, helapsed⟩ := runSmall_of_failure hplain
  obtain ⟨hresult', helapsed'⟩ := runSmall_of_failure hcut
  refine .of_over ?_ (hresult'.trans hresult.symm)
    (sent_runSmall_map h (Nat.zero_lt_of_lt hlt)) (helapsed'.trans helapsed.symm)
  rw [helapsed]
  exact hlt

/-- A small batch in which no run fails before the cancellation and some run is still to end. -/
theorem runSmall_cutAt_of_running (h : ∀ i ∈ items, Run.CutAt t (plain i) (cut i))
    (hfirst : firstFailure? (inOrder Run.endsFirst
      ((items.map plain).filter (Run.overBefore t))) = none)
    (hlate : ∃ i ∈ items, t ≤ (plain i).finish) :
    Outcome.CutAt t (runSmall (items.map plain)) (runSmall (items.map cut)) := by
  obtain ⟨i, hi, hle⟩ := hlate
  have hrunning : t ≤ (runSmall (items.map plain)).elapsed :=
    le_elapsed_runSmall hfirst ⟨plain i, List.mem_map_of_mem hi, hle⟩
  have hover : (cut i).overBefore t = false :=
    Run.not_overBefore_iff.mpr (Nat.le_of_eq ((h i hi).finish hle).symm)
  have hmember : cut i ∈ inOrder Run.endsFirst ((items.map cut).filter (!Run.overBefore t ·)) := by
    refine mem_inOrder.mpr (List.mem_filter.mpr ⟨List.mem_map_of_mem hi, ?_⟩)
    rw [hover]
    rfl
  have hends : ∀ r ∈ inOrder Run.endsFirst ((items.map cut).filter (!Run.overBefore t ·)),
      r.finish = t ∧ r.result = .error (.aborted .caller) := by
    intro r hr
    obtain ⟨hmem, hover⟩ := List.mem_filter.mp (mem_inOrder.mp hr)
    exact cancelled_of_not_overBefore h hmem (by simpa using hover)
  -- whichever of the runs that the cancellation ends is looked at first, it ends the batch alike
  have hcut : firstFailure? (inOrder Run.endsFirst (items.map cut)) =
      some (.aborted .caller, t) := by
    rw [inOrder_overBefore t, filter_overBefore_map h, firstFailure?_append, hfirst,
      Option.none_or]
    exact firstFailure?_of_cut (List.ne_nil_of_mem hmember) hends
  obtain ⟨hresult, helapsed⟩ := runSmall_of_failure hcut
  refine .of_running hrunning hresult helapsed ?_
  rintro rfl
  rw [runSmall_sent]
  exact filterMap_sent_of_start h fun r hr => mem_of_mem_upTo hr

/-- A small batch whose runs are all over before the cancellation. -/
theorem runSmall_cutAt_of_over (hne : items ≠ []) (h : ∀ i ∈ items, Run.CutAt t (plain i) (cut i))
    (hover : ∀ i ∈ items, (plain i).finish < t) :
    Outcome.CutAt t (runSmall (items.map plain)) (runSmall (items.map cut)) := by
  have hsame : items.map cut = items.map plain :=
    List.map_congr_left fun i hi => (h i hi).ended (hover i hi)
  have hpos : 0 < t := by
    obtain ⟨i, hi⟩ := List.exists_mem_of_ne_nil items hne
    exact Nat.zero_lt_of_lt (hover i hi)
  rw [hsame]
  refine .of_over (elapsed_runSmall_lt hpos fun r hr => ?_) rfl rfl rfl
  obtain ⟨i, hi, rfl⟩ := List.mem_map.mp hr
  exact hover i hi

/-- **Small batches under a cancellation.** What ends before the cancellation is met first, and
everything else ends in it. -/
theorem runSmall_cutAt (hne : items ≠ []) (h : ∀ i ∈ items, Run.CutAt t (plain i) (cut i)) :
    Outcome.CutAt t (runSmall (items.map plain)) (runSmall (items.map cut)) := by
  cases hfirst : firstFailure?
      (inOrder Run.endsFirst ((items.map plain).filter (Run.overBefore t))) with
  | some failure => exact runSmall_cutAt_of_failure h hfirst
  | none =>
    by_cases hlate : ∃ i ∈ items, t ≤ (plain i).finish
    · exact runSmall_cutAt_of_running h hfirst hlate
    · refine runSmall_cutAt_of_over hne h fun i hi => ?_
      exact Nat.lt_of_not_le fun hle => hlate ⟨i, hi, hle⟩

/-! ## Large batches -/

/-- What decides a large batch that is over before the cancellation. -/
inductive DecidedAlike (t : Nat) (plain cut : List Run) : Prop where
  /-- The same runs decide it, and all are over before. -/
  | ended : (∀ r ∈ plain, r.finish < t) → cut = plain → DecidedAlike t plain cut
  /-- Some run is still to be waited for, and the first such run is cut short. -/
  | running {front : List Run} {last : Run} : (∃ r ∈ plain, t ≤ r.finish) → cut = front ++ [last] →
      (∀ r ∈ front, r.finish < t ∧ r.failed = false) → last.finish = t →
      last.result = .error (.aborted .caller) → DecidedAlike t plain cut

/-- The runs that decide a large batch, by the first of them that the cancellation meets. Those in
front of it end alike in both batches. It fails itself, so that those behind it do not count. -/
theorem decisiveRuns_map (h : ∀ i ∈ items, Run.CutAt t (plain i) (cut i)) :
    DecidedAlike t (decisiveRuns (items.map plain)) (decisiveRuns (items.map cut)) := by
  unfold decisiveRuns
  induction items with
  | nil => exact .ended (List.forall_mem_nil _) rfl
  | cons i rest ih =>
    have hi := h i List.mem_cons_self
    rw [List.map_cons, List.map_cons, upTo, upTo]
    by_cases hlt : (plain i).finish < t
    · rw [hi.ended hlt]
      cases hfailed : (plain i).failed with
      | true =>
        refine .ended ?_ rfl
        intro r hr
        rw [List.mem_singleton.mp hr]
        exact hlt
      | false =>
        rw [if_neg (by decide), if_neg (by decide)]
        cases ih fun j hj => h j (List.mem_cons_of_mem i hj) with
        | ended hover hsame =>
          rw [hsame]
          exact .ended (List.forall_mem_cons.mpr ⟨hlt, hover⟩) rfl
        | running hlate hsplit hfront hfinish hresult =>
          obtain ⟨r, hr, hle⟩ := hlate
          refine .running ⟨r, List.mem_cons_of_mem _ hr, hle⟩ (congrArg (plain i :: ·) hsplit)
            (List.forall_mem_cons.mpr ⟨⟨hlt, hfailed⟩, hfront⟩) hfinish hresult
    · -- the cancellation meets this run, and the rest is looked at only without it
      have hle : t ≤ (plain i).finish := Nat.le_of_not_lt hlt
      have hhead : plain i ∈ if (plain i).failed then [plain i]
          else plain i :: upTo Run.failed (rest.map plain) := by
        split
        · exact List.mem_cons_self
        · exact List.mem_cons_self
      have hfailed : (cut i).failed = true := by
        rw [Run.failed, hi.result hle]
      rw [if_pos hfailed]
      exact .running ⟨plain i, hhead, hle⟩ (List.nil_append [cut i]).symm (List.forall_mem_nil _)
        (hi.finish hle) (hi.result hle)

/-- **Large batches under a cancellation.** -/
theorem runLarge_cutAt (hne : items ≠ []) (h : ∀ i ∈ items, Run.CutAt t (plain i) (cut i)) :
    Outcome.CutAt t (runLarge (items.map plain)) (runLarge (items.map cut)) := by
  have hunsent : t = 0 → (runLarge (items.map cut)).sent = [] := by
    rintro rfl
    refine filterMap_sent_of_start h fun r hr => ?_
    split at hr
    · exact mem_of_mem_upTo hr
    · exact hr
  cases decisiveRuns_map h with
  | ended hover hsame =>
    have hpos : 0 < t := by
      obtain ⟨i, rest, rfl⟩ := List.exists_cons_of_ne_nil hne
      have hhead := hover (plain i) (by
        rw [decisiveRuns, List.map_cons, upTo]
        split <;> exact List.mem_cons_self)
      exact Nat.zero_lt_of_lt hhead
    refine .of_over ?_ ?_ ?_ ?_
    · rw [runLarge_elapsed]
      exact foldl_finish_lt hpos hover
    · rw [runLarge_result, runLarge_result, hsame]
    · rw [runLarge_sent, runLarge_sent, hsame]
      split
      · rfl
      · exact filterMap_sent_map h hpos
    · rw [runLarge_elapsed, runLarge_elapsed, hsame]
  | @running front last hlate hsplit hfront hfinish hresult =>
    refine .of_running ?_ ?_ ?_ hunsent
    · rw [runLarge_elapsed, le_foldl_finish_iff]
      exact .inr hlate
    · rw [runLarge_result, hsplit]
      exact mapM_result_of_failure (fun r hr => (hfront r hr).2) hresult
    · rw [runLarge_elapsed, hsplit]
      apply Nat.le_antisymm
      · rw [← Nat.not_lt, Nat.lt_iff_add_one_le, le_foldl_finish_iff]
        rintro (hzero | ⟨r, hr, hle⟩)
        · exact absurd hzero (by omega)
        · rcases List.mem_append.mp hr with hr | hr
          · have := (hfront r hr).1
            omega
          · rw [List.mem_singleton.mp hr] at hle
            omega
      · rw [le_foldl_finish_iff]
        exact .inr ⟨last, List.mem_append_right _ List.mem_cons_self, Nat.le_of_eq hfinish.symm⟩

/-- Batches of either size under a cancellation. -/
theorem runTogether_cutAt (hne : items ≠ []) (h : ∀ i ∈ items, Run.CutAt t (plain i) (cut i)) :
    Outcome.CutAt t (runTogether (items.map plain)) (runTogether (items.map cut)) := by
  unfold runTogether
  rw [List.length_map, List.length_map]
  split
  · exact runSmall_cutAt hne h
  · exact runLarge_cutAt hne h

end Cut

/-! ## Batches of studies -/

section Batch

variable {endpoints : Endpoints} {missing : TimedReply}

theorem mem_of_mem_pairReplies {calls : List Call} {replies : List TimedReply}
    {pair : Call × TimedReply} (h : pair ∈ pairReplies endpoints missing calls replies) :
    pair.1 ∈ calls := by
  induction calls generalizing replies with
  | nil => cases h
  | cons call rest ih =>
    unfold pairReplies at h
    split at h
    · rcases List.mem_cons.mp h with rfl | hrest
      · exact List.mem_cons_self
      · exact List.mem_cons_of_mem call (ih hrest)
    · rcases List.mem_cons.mp h with rfl | hrest
      · exact List.mem_cons_self
      · exact List.mem_cons_of_mem call (ih hrest)

theorem pairReplies_ne_nil {calls : List Call} (h : calls ≠ []) (replies : List TimedReply) :
    pairReplies endpoints missing calls replies ≠ [] := by
  cases calls with
  | nil => exact absurd rfl h
  | cons call rest =>
    unfold pairReplies
    split <;> exact List.cons_ne_nil _ _

/-- The calls of a batch of studies have requests when the projects are numbers. -/
theorem exists_outgoing?_of_mem_pairReplies {studies : List Study} {replies : List TimedReply}
    (hprojects : ∀ study ∈ studies, ∃ n, study.projectId.number? = .ok n)
    {pair : Call × TimedReply}
    (h : pair ∈ pairReplies endpoints missing (studies.map .runStudy) replies) :
    ∃ out, pair.1.outgoing? endpoints = .ok out := by
  obtain ⟨study, hstudy, hcall⟩ := List.mem_map.mp (mem_of_mem_pairReplies h)
  rw [← hcall]
  exact Call.exists_outgoing?_of_study (hprojects study hstudy) endpoints

section Studies

variable {c : Circumstances} {studies : List Study}
  (hprojects : ∀ study ∈ studies, ∃ n, study.projectId.number? = .ok n)

include hprojects

/-- A batch of studies under a signal that cancels. -/
theorem runBatch_cutAt {signal : CallerSignal} {t : Nat} (hsignal : signal.CancelsAt t)
    (hne : studies ≠ []) (replies : List TimedReply) :
    Outcome.CutAt t (runBatch (c.under none) missing replies studies)
      (runBatch (c.under signal) missing replies studies) := by
  refine runTogether_cutAt (pairReplies_ne_nil (by simpa using hne) replies) ?_
  rintro ⟨call, reply⟩ hpair
  obtain ⟨out, hout⟩ := exists_outgoing?_of_mem_pairReplies hprojects hpair
  exact Call.run_cutAt hout hsignal

/-- A batch of studies meets the deadline. -/
theorem runBatch_meetsDeadline (replies : List TimedReply) :
    (runBatch c missing replies studies).MeetsDeadline c.config.timeout := by
  refine runTogether_meetsDeadline fun r hr => ?_
  obtain ⟨⟨call, reply⟩, hpair, rfl⟩ := List.mem_map.mp hr
  obtain ⟨out, hout⟩ := exists_outgoing?_of_mem_pairReplies hprojects hpair
  exact Call.run_meetsDeadline hout

end Studies

end Batch

/-- **The caller's cancellation comes first.** For a call that is not refused and whose deadline the
clock can show: a cancellation at the start leaves the request unsent; one that is no later than the
reply and the deadline ends the call at its instant, as cancelled by the caller and nothing else;
and a later one, or none, changes nothing. A batch of studies that is still running when the caller
cancels ends in the same way at that instant, and one that is over stays as it is. Neither outlasts
the deadline, and a timeout, or the offline data that it leads to, comes exactly with it. -/
theorem cancellation_first (c : Circumstances) (signal : CallerSignal) (clock : SteadyClock)
    (hclock : clock.CanShow c.config.timeout) :
    let limit := c.config.timeout
    (∀ (call : Call) (reply : TimedReply) (files : FileTree),
      call.Admissible c.config.endpoints → ∃ outcome kept,
      call.attempt (c.under signal) clock reply files = .ok (outcome, kept) ∧
      (signal.CancelsAt 0 →
        outcome.sent = [] ∧ outcome.result = .error (.aborted .caller)) ∧
      (∀ t, signal.CancelsAt t → t ≤ limit → (∀ r, reply.reply = some r → t ≤ reply.delay) →
        outcome.result = .error (.aborted .caller) ∧ outcome.elapsed = t) ∧
      ((∀ t, signal.CancelsAt t →
          limit < t ∨ ∃ r, reply.reply = some r ∧ reply.delay < t) →
        call.attempt (c.under signal) clock reply files =
          call.attempt (c.under none) clock reply files) ∧
      outcome.MeetsDeadline limit) ∧
    (∀ (missing : TimedReply) (replies : List TimedReply) (studies : List Study),
      studies ≠ [] → (∀ study ∈ studies, ∃ n, study.projectId.number? = .ok n) →
      ∃ plain outcome,
        attemptBatch (c.under none) clock missing replies studies = .ok plain ∧
        attemptBatch (c.under signal) clock missing replies studies = .ok outcome ∧
        (∀ t, signal.CancelsAt t → Outcome.CutAt t plain outcome) ∧
        ((∀ t, ¬ signal.CancelsAt t) → outcome = plain) ∧
        outcome.MeetsDeadline limit) := by
  intro limit
  constructor
  · intro call reply files hadm
    obtain ⟨out, hout⟩ := Call.exists_outgoing?_of_admissible hadm
    have hattempt (signal : CallerSignal) : call.attempt (c.under signal) clock reply files =
        .ok (call.perform (c.under signal) reply files) :=
      Call.attempt_of_canShow hclock
    have hcut {t : Nat} (hsignal : signal.CancelsAt t) :
        Outcome.CutAt t (call.perform (c.under none) reply files).1
          (call.perform (c.under signal) reply files).1 :=
      Call.perform_cutAt hout hsignal
    have helapsed (t : Nat) : t ≤ (call.perform (c.under none) reply files).1.elapsed ↔
        t ≤ limit ∧ ∀ r, reply.reply = some r → t ≤ reply.delay := by
      rw [Call.perform_elapsed]
      exact Call.le_finish_iff hout t
    refine ⟨(call.perform (c.under signal) reply files).1, _, hattempt signal, ?_, ?_, ?_, ?_⟩
    · intro hstart
      exact ⟨(hcut hstart).unsent rfl, ((hcut hstart).running (Nat.zero_le _)).1⟩
    · intro t hsignal hlimit hreply
      exact (hcut hsignal).running ((helapsed t).mpr ⟨hlimit, hreply⟩)
    · intro hlate
      rw [hattempt signal, hattempt none]
      refine congrArg Except.ok (Call.perform_of_late hout fun t hsignal => ?_)
      refine Nat.lt_of_not_le fun hle => ?_
      obtain ⟨hlimit, hreply⟩ := (Call.le_finish_iff hout t).mp hle
      rcases hlate t hsignal with hlt | ⟨r, hr, hlt⟩
      · exact absurd hlimit (Nat.not_le_of_lt hlt)
      · exact absurd (hreply r hr) (Nat.not_le_of_lt hlt)
    · exact Call.perform_meetsDeadline (c := c.under signal) hout
  · intro missing replies studies hne hprojects
    have hattempt (signal : CallerSignal) :
        attemptBatch (c.under signal) clock missing replies studies =
          .ok (runBatch (c.under signal) missing replies studies) :=
      attemptBatch_of_canShow (c.under signal) hclock missing replies studies
    refine ⟨_, _, hattempt none, hattempt signal, ?_, ?_, ?_⟩
    · intro t hsignal
      exact runBatch_cutAt hprojects hsignal hne replies
    · intro hnever
      rw [c.under_of_none (signal.cancelAt_eq_none_iff.mpr hnever)]
    · exact runBatch_meetsDeadline (c := c.under signal) hprojects replies

/-- A signal that cancels at the instant of the reply, of a call and of a batch of one study, with
the last deadline that the clock can show. -/
theorem cancellation_first_of_tie :
    let signal : CallerSignal := some (.new, [(1200, .cancel)])
    let c : Circumstances := ⟨.default, 0, none⟩
    let clock : SteadyClock := ⟨0, 2500000⟩
    let reply : TimedReply := ⟨1200, some (.response ⟨200, []⟩)⟩
    let call := Call.deleteScenario 7
    let study : Study :=
      { projectId := .text "401"
        projectName := none
        finProjectId := none
        scenario :=
          { name := "Base Case"
            description := none
            currency := "SGD"
            isPrimary := none
            costEscalation := ⟨"38000000", "2024-Q4", "construction", "SG", none⟩
            cashFlow := ⟨"0.08", ["-1000", "1200"]⟩
            dscr := none
            capitalStack := []
            drawdownSchedule := []
            assetMix := []
            constructionLoan := none
            sensitivityBands := [] } }
    clock.CanShow c.config.timeout ∧ call.Admissible c.config.endpoints ∧
      signal.CancelsAt 1200 ∧
      (∃ outcome kept, call.attempt (c.under signal) clock reply .empty = .ok (outcome, kept) ∧
        outcome.result = .error (.aborted .caller) ∧ outcome.elapsed = 1200) ∧
      ∃ batch, attemptBatch (c.under signal) clock reply [reply] [study] = .ok batch ∧
        batch.result = .error (.aborted .caller) ∧ batch.elapsed = 1200 := by
  intro signal c clock reply call study
  have hclock : clock.CanShow c.config.timeout := by decide
  have hadm : call.Admissible c.config.endpoints := by
    refine ⟨nofun, ?_, rfl⟩
    rintro id ⟨⟩
    decide
  have hsignal : signal.CancelsAt 1200 := .during rfl rfl
  have hproject : ∃ n, study.projectId.number? = .ok n := by
    have hfault : (ProjectRef.text "401").fault? = none := by decide +kernel
    exact Call.exists_number?_of_fault? hfault
  obtain ⟨hcalls, hbatches⟩ := cancellation_first c signal clock hclock
  obtain ⟨outcome, kept, houtcome, -, hcut, -⟩ := hcalls call reply .empty hadm
  have hcall := hcut 1200 hsignal (by decide) fun _ _ => Nat.le_refl 1200
  obtain ⟨plain, batch, hplain, hbatch, hcutAt, -⟩ := hbatches reply [reply] [study]
    (List.cons_ne_nil study []) (List.forall_mem_singleton.mpr hproject)
  have hrunning : 1200 ≤ (runBatch (c.under none) reply [reply] [study]).elapsed := by
    decide +kernel
  have hrun := attemptBatch_of_canShow (c.under none) hclock reply [reply] [study]
  have hsame := Except.ok.inj (hrun.symm.trans hplain)
  exact ⟨hclock, hadm, hsignal, ⟨outcome, kept, houtcome, hcall⟩, batch, hbatch,
    (hcutAt 1200 hsignal).running (hsame ▸ hrunning)⟩

/-- Where the caller has cancelled at the start and the result is another all the same. With the
longest timeout no clock of 64 bits can show the deadline, and the call stops the program before it
looks at the signal. A batch of no studies makes no call that could be cancelled. -/
theorem cancellation_unseen :
    let signal : CallerSignal := some (Latch.new.act .cancel, [])
    let c : Circumstances := ⟨{ Config.default with timeout := longestTime }, 0, none⟩
    let reply : TimedReply := ⟨1200, some (.response ⟨204, []⟩)⟩
    let call := Call.deleteScenario 7
    signal.CancelsAt 0 ∧ call.Admissible c.config.endpoints ∧
      call.attempt (c.under signal) (.wide 0) reply .empty = .error .deadline ∧
      ∃ outcome, attemptBatch (Circumstances.under ⟨.default, 0, none⟩ signal) (.wide 0) reply
        [reply] [] = .ok outcome ∧ outcome.result = .ok [] := by
  intro signal c reply call
  have hadm : call.Admissible c.config.endpoints := by
    refine ⟨nofun, ?_, rfl⟩
    rintro id ⟨⟩
    decide
  obtain ⟨out, hout⟩ := Call.exists_outgoing?_of_admissible hadm
  have hclock : ¬ (SteadyClock.wide 0).CanShow longestTime := by decide
  exact ⟨.before rfl, hadm, Call.attempt_of_not_canShow (c := c.under signal) hout hclock,
    _, rfl, rfl⟩

end Proforma
