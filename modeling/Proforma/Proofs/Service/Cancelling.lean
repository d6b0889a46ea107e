import Proforma.Proofs.Service.Outcome

/-!
# Calls that the caller may cancel

A call under the caller's signal beside the same call without one. `Run.CutAt` says what a
cancellation at an instant makes of a run: nothing once the run is over, and its end at that very
instant otherwise. `run_cutAt` shows this of every call that is not refused, whatever comes of its
exchange.
-/

namespace Proforma

/-- The circumstances with the caller's signal in them. -/
def Circumstances.under (c : Circumstances) (signal : CallerSignal) : Circumstances :=
  { c with cancelAt := signal.cancelAt }

/-- A signal that never cancels leaves the circumstances as they are without one. -/
theorem Circumstances.under_of_none {signal : CallerSignal} (c : Circumstances)
    (h : signal.cancelAt = none) : c.under signal = c.under none := by
  unfold under
  rw [h]
  rfl

/-- What a cancellation at an instant makes of a run. -/
structure Run.CutAt (t : Nat) (plain r : Run) : Prop where
  /-- A run that is over before stays as it is. -/
  ended : plain.finish < t → r = plain
  finish : t ≤ plain.finish → r.finish = t
  result : t ≤ plain.finish → r.result = .error (.aborted .caller)
  /-- At the start nothing is sent. -/
  unsent : t = 0 → r.sent = none
  /-- What was sent before stays sent. -/
  sent : 0 < t → r.sent = plain.sent

/-- What a cancellation at an instant makes of an outcome. A batch or a call that is still running
then ends then. -/
structure Outcome.CutAt (t : Nat) (plain outcome : Outcome α) : Prop where
  ended : plain.elapsed < t → outcome.result = plain.result ∧ outcome.sent = plain.sent ∧
    outcome.elapsed = plain.elapsed
  running : t ≤ plain.elapsed → outcome.result = .error (.aborted .caller) ∧ outcome.elapsed = t
  unsent : t = 0 → outcome.sent = []

/-- Without cancellation waiting ends with the reply or the deadline, whichever is first. -/
theorem Waited.le_instant_iff {limit : Nat} {reply : TimedReply}
    {ending : Except AbortCause Reply} {instant : Nat}
    (h : Waited limit none reply ending instant) (t : Nat) :
    t ≤ instant ↔ t ≤ limit ∧ ∀ r, reply.reply = some r → t ≤ reply.delay := by
  cases h with
  | replied hr hle _ =>
    constructor
    · intro ht
      exact ⟨Nat.le_trans ht hle, fun _ _ => ht⟩
    · rintro ⟨-, ht⟩
      exact ht _ hr
  | cancelled ht => cases ht
  | timedOut hlate _ =>
    constructor
    · intro ht
      exact ⟨ht, fun r hr => Nat.le_of_lt (Nat.lt_of_le_of_lt ht (hlate r hr))⟩
    · rintro ⟨ht, -⟩
      exact ht

namespace Call

variable {call : Call} {c : Circumstances} {reply : TimedReply} {files : FileTree}
  {signal : CallerSignal} {t : Nat}

/-- No policy covers what the caller has cancelled. -/
theorem concluded_of_caller (call : Call) (c : Circumstances) :
    call.concluded c (.error .caller) = .error (.aborted .caller) := by
  have hcovers (reading : Reading) :
      c.config.fallback.covers reading (.aborted .caller) = false := by
    unfold FallbackPolicy.covers
    rw [Bool.and_false]
  unfold concluded conclude endingResult
  cases call.reading? with
  | none => rfl
  | some reading => simp only [hcovers, Bool.false_eq_true, if_false]

/-- **A cancellation ends the run of a call** that is not over, and no other. -/
theorem run_cutAt {out : Outgoing} (hout : call.outgoing? c.config.endpoints = .ok out)
    (hsignal : signal.CancelsAt t) :
    Run.CutAt t (call.run (c.under none) reply) (call.run (c.under signal) reply) := by
  have hat : (c.under signal).cancelAt = some t := (signal.cancelAt_eq_some_iff t).mpr hsignal
  obtain ⟨plain, due, hdue⟩ := exists_waited c.config.timeout none reply
  have hplain := run_of_waited (c := c.under none) hout hdue hdue
  have hfinish : (call.run (c.under none) reply).finish = due := by rw [hplain]
  obtain ⟨ending, instant, hw⟩ := exists_waited c.config.timeout (c.under signal).cancelAt reply
  have hrun := run_of_waited (c := c.under signal) hout hw hdue
  have hcut (hle : t ≤ due) : ending = .error .caller ∧ instant = t := hw.unique (hdue.cut hat hle)
  -- the request goes out unless the signal has cancelled at the start
  have hafter (hpos : 0 < t) : (some t).any (· ≤ 0) = false := by
    rw [any_le_zero_eq_false_iff]
    rintro u ⟨⟩
    exact hpos
  refine ⟨?_, ?_, ?_, ?_, ?_⟩
  · intro hlt
    rw [hfinish] at hlt
    -- the run is one with the ending and the instant that waiting has without a signal
    have hlate : ∀ u ∈ (c.under signal).cancelAt, due < u := by
      rw [hat]
      rintro u ⟨⟩
      exact hlt
    obtain ⟨rfl, rfl⟩ := hw.unique (hdue.undisturbed hlate)
    rw [hplain, hrun, hat, hafter (Nat.zero_lt_of_lt hlt)]
    rfl
  · intro hle
    rw [hfinish] at hle
    rw [hrun]
    exact (hcut hle).2
  · intro hle
    rw [hfinish] at hle
    rw [hrun, (hcut hle).1]
    exact concluded_of_caller call _
  · rintro rfl
    rw [hrun, hat]
    rfl
  · intro hpos
    rw [hplain, hrun, hat, hafter hpos]
    rfl

/-- How long a run goes on if nobody cancels. -/
theorem le_finish_iff {out : Outgoing} (hout : call.outgoing? c.config.endpoints = .ok out)
    (t : Nat) : t ≤ (call.run (c.under none) reply).finish ↔
      t ≤ c.config.timeout ∧ ∀ r, reply.reply = some r → t ≤ reply.delay := by
  obtain ⟨plain, due, hdue⟩ := exists_waited c.config.timeout none reply
  rw [run_of_waited (c := c.under none) hout hdue hdue]
  exact hdue.le_instant_iff t

/-- A call that is over before its signal cancels, or whose signal never does, is the same as
without one. -/
theorem perform_of_late {out : Outgoing} (hout : call.outgoing? c.config.endpoints = .ok out)
    (hlate : ∀ t, signal.CancelsAt t → (call.run (c.under none) reply).finish < t) :
    call.perform (c.under signal) reply files = call.perform (c.under none) reply files := by
  cases hat : signal.cancelAt with
  | none => rw [c.under_of_none hat]
  | some t =>
    have hsignal : signal.CancelsAt t := (signal.cancelAt_eq_some_iff t).mp hat
    have hcut : Run.CutAt t (call.run (c.under none) reply) (call.run (c.under signal) reply) :=
      run_cutAt hout hsignal
    exact perform_congr (hcut.ended (hlate t hsignal))

/-- A call under a signal that cancels. -/
theorem perform_cutAt {out : Outgoing} (hout : call.outgoing? c.config.endpoints = .ok out)
    (hsignal : signal.CancelsAt t) :
    Outcome.CutAt t (call.perform (c.under none) reply files).1
      (call.perform (c.under signal) reply files).1 := by
  have hrun : Run.CutAt t (call.run (c.under none) reply) (call.run (c.under signal) reply) :=
    run_cutAt hout hsignal
  refine ⟨?_, ?_, ?_⟩
  · intro hlt
    rw [perform_elapsed] at hlt
    rw [perform_congr (hrun.ended hlt)]
    exact ⟨rfl, rfl, rfl⟩
  · intro hle
    rw [perform_elapsed] at hle ⊢
    rw [perform_of_error (hrun.result hle)]
    exact ⟨hrun.result hle, hrun.finish hle⟩
  · intro hstart
    rw [perform_sent, hrun.unsent hstart]
    rfl

end Call

end Proforma
