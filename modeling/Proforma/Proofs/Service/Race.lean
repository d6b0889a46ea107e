import Proforma.Service.Call

/-!
# Who ends an exchange

Three events race: the caller's cancellation, the end of the work and the deadline. The first of
them ends the race; of events at one instant the cancellation comes first and the deadline last.
`Resolved` says so in terms of the instants alone, and it says what a race does
(`resolved_race`) and nothing else (`Resolved.unique`). `Waited` is the same of one exchange, and
`exchange_of_waited` is all that later proofs use of an exchange.
-/

namespace Proforma

/-! ## The earliest of three -/

/-- How a race ends and when, from the instants of the cancellation, of the end of the work with
its yield, and of the deadline. The earliest wins. -/
inductive Resolved {α : Type} (limit deadline : Nat) (cancelAt : Option Nat)
    (work : Option (Nat × α)) : Except AbortCause α → Nat → Prop where
  /-- The cancellation wins all ties. -/
  | cancelled {t : Nat} : cancelAt = some t → (∀ w ∈ work, t ≤ w.1) → t ≤ deadline →
      Resolved limit deadline cancelAt work (.error .caller) t
  /-- The work wins a tie with the deadline. -/
  | done {t : Nat} {a : α} : work = some (t, a) → (∀ c ∈ cancelAt, t < c) → t ≤ deadline →
      Resolved limit deadline cancelAt work (.ok a) t
  /-- The deadline wins no tie. -/
  | timedOut : (∀ c ∈ cancelAt, deadline < c) → (∀ w ∈ work, deadline < w.1) →
      Resolved limit deadline cancelAt work (.error (.timeout limit)) deadline

namespace Resolved

variable {α : Type} {limit deadline : Nat} {cancelAt : Option Nat} {work : Option (Nat × α)}
  {result other : Except AbortCause α} {instant later : Nat}

/-- A race ends in one way only. -/
theorem unique (h : Resolved limit deadline cancelAt work result instant)
    (h' : Resolved limit deadline cancelAt work other later) :
    result = other ∧ instant = later := by
  cases h with
  | cancelled hc hw hd =>
    cases h' with
    | cancelled hc' =>
      cases hc.symm.trans hc'
      exact ⟨rfl, rfl⟩
    | done hw' hc' => exact absurd (hw _ hw') (Nat.not_le_of_lt (hc' _ hc))
    | timedOut hc' => exact absurd hd (Nat.not_le_of_lt (hc' _ hc))
  | done hw hc hd =>
    cases h' with
    | cancelled hc' hw' => exact absurd (hw' _ hw) (Nat.not_le_of_lt (hc _ hc'))
    | done hw' =>
      cases hw.symm.trans hw'
      exact ⟨rfl, rfl⟩
    | timedOut _ hw' => exact absurd hd (Nat.not_le_of_lt (hw' _ hw))
  | timedOut hc hw =>
    cases h' with
    | cancelled hc' _ hd' => exact absurd hd' (Nat.not_le_of_lt (hc _ hc'))
    | done hw' _ hd' => exact absurd hd' (Nat.not_le_of_lt (hw _ hw'))
    | timedOut => exact ⟨rfl, rfl⟩

end Resolved

namespace ComposedSignal

variable {α : Type}

/-- A race resolves to the earliest of the three, none of them before now. -/
theorem resolved_race (s : ComposedSignal) (now : Nat) (cancelAt : Option Nat)
    (work : Option (Nat × α)) :
    Resolved s.limit (max now s.deadline)
      ((if s.watchesCaller then cancelAt else none).map (max now))
      (work.map fun w => (max now w.1, w.2))
      (s.race now cancelAt work).1 (s.race now cancelAt work).2 := by
  simp only [race]
  generalize max now s.deadline = deadline
  generalize (if s.watchesCaller then cancelAt else none) = seen
  have hlater {bound : Nat} (h : bound < instantOf now deadline seen) :
      ∀ c ∈ seen.map (max now), bound < c := by
    intro _ hc
    obtain ⟨c, rfl, rfl⟩ := Option.map_eq_some_iff.mp hc
    exact h
  split
  · next hfirst =>
    obtain ⟨hwork, hdeadline⟩ := hfirst
    cases seen with
    | none => exact absurd hdeadline (Nat.not_succ_le_self _)
    | some c =>
      refine .cancelled rfl ?_ hdeadline
      intro _ hw
      obtain ⟨w, rfl, rfl⟩ := Option.map_eq_some_iff.mp hw
      exact hwork
  · next hnot =>
    generalize instantOf now deadline seen = cancelled at hlater hnot
    cases work with
    | none =>
      have hend : instantOf now deadline none = deadline + 1 := rfl
      rw [Option.map_none, hend] at hnot
      exact .timedOut (hlater (by omega)) nofun
    | some w =>
      obtain ⟨instant, a⟩ := w
      have hend : instantOf now deadline (some instant) = max now instant := rfl
      simp only [Option.map_some, hend] at hnot ⊢
      split
      · next hdone => exact .done rfl (hlater (by omega)) hdone
      · next hundone =>
        refine .timedOut (hlater (by omega)) ?_
        rintro _ ⟨⟩
        exact Nat.lt_of_not_le hundone

/-- A race from the start, when nothing can have happened before. -/
theorem resolved_race_zero (limit : Nat) (cancelAt : Option Nat) (work : Option (Nat × α)) :
    Resolved limit limit cancelAt work
      ((compose true limit 0).race 0 cancelAt work).1
      ((compose true limit 0).race 0 cancelAt work).2 := by
  have h := resolved_race (compose true limit 0) 0 cancelAt work
  have hcancel : cancelAt.map (max 0) = cancelAt := by
    rw [show (max 0 : Nat → Nat) = id from funext Nat.zero_max, Option.map_id, id]
  have hwork : work.map (fun w => (max 0 w.1, w.2)) = work := by
    cases work with
    | none => rfl
    | some w => rw [Option.map_some, Nat.zero_max]
  have hdeadline : max 0 (0 + limit) = limit := by omega
  rw [hwork] at h
  simp only [compose, if_true, hcancel, hdeadline] at h
  exact h

end ComposedSignal

/-! ## One exchange -/

/-- How waiting for a reply ends, and at which instant after the start. -/
inductive Waited (limit : Nat) (cancelAt : Option Nat) (reply : TimedReply) :
    Except AbortCause Reply → Nat → Prop where
  /-- The reply comes before any cancellation, at the deadline at the latest. -/
  | replied {r : Reply} : reply.reply = some r → reply.delay ≤ limit →
      (∀ t ∈ cancelAt, reply.delay < t) → Waited limit cancelAt reply (.ok r) reply.delay
  /-- The caller cancels when neither the reply nor the deadline has come before. -/
  | cancelled {t : Nat} : cancelAt = some t → t ≤ limit →
      (∀ r, reply.reply = some r → t ≤ reply.delay) →
      Waited limit cancelAt reply (.error .caller) t
  /-- The deadline comes before the reply and any cancellation. -/
  | timedOut : (∀ r, reply.reply = some r → limit < reply.delay) →
      (∀ t ∈ cancelAt, limit < t) → Waited limit cancelAt reply (.error (.timeout limit)) limit

/-- Waiting for a reply is a race with the reply as the work. -/
theorem waited_iff_resolved {limit : Nat} {cancelAt : Option Nat} {reply : TimedReply}
    {ending : Except AbortCause Reply} {instant : Nat} :
    Waited limit cancelAt reply ending instant ↔
      Resolved limit limit cancelAt (reply.reply.map fun r => (reply.delay, r)) ending instant := by
  constructor
  · intro h
    cases h with
    | replied hr hle hc => exact .done (by rw [hr]; rfl) hc hle
    | cancelled ht hle hf =>
      refine .cancelled ht ?_ hle
      intro _ hw
      obtain ⟨r, hr, rfl⟩ := Option.map_eq_some_iff.mp hw
      exact hf r hr
    | timedOut hlate hc =>
      refine .timedOut hc ?_
      intro _ hw
      obtain ⟨r, hr, rfl⟩ := Option.map_eq_some_iff.mp hw
      exact hlate r hr
  · intro h
    cases h with
    | cancelled ht hf hle =>
      exact .cancelled ht hle fun r hr => hf (reply.delay, r) (by rw [hr]; rfl)
    | done hw hc hle =>
      obtain ⟨r, hr, hsame⟩ := Option.map_eq_some_iff.mp hw
      cases hsame
      exact .replied hr hle hc
    | timedOut hc hlate =>
      exact .timedOut (fun r hr => hlate (reply.delay, r) (by rw [hr]; rfl)) hc

/-- Waiting always ends. -/
theorem exists_waited (limit : Nat) (cancelAt : Option Nat) (reply : TimedReply) :
    ∃ ending instant, Waited limit cancelAt reply ending instant :=
  ⟨_, _, waited_iff_resolved.mpr (ComposedSignal.resolved_race_zero limit cancelAt _)⟩

/-- What the client makes of how waiting ended. -/
def endingResult : Except AbortCause Reply → Except Failure Response
  | .ok r => r.response? >>= Response.checked
  | .error cause => .error (.aborted cause)

/-- The side that ended the waiting early. -/
def endingCause? : Except AbortCause Reply → Option AbortCause
  | .ok _ => none
  | .error cause => some cause

/-- The race of an exchange ends as waiting does. -/
theorem race_of_waited {limit : Nat} {cancelAt : Option Nat} {reply : TimedReply}
    {ending : Except AbortCause Reply} {instant : Nat}
    (h : Waited limit cancelAt reply ending instant) :
    (ComposedSignal.compose true limit 0).race 0 cancelAt
        (reply.reply.map fun r => (reply.delay, r)) = (ending, instant) := by
  obtain ⟨hending, hinstant⟩ :=
    (ComposedSignal.resolved_race_zero limit cancelAt _).unique (waited_iff_resolved.mp h)
  exact Prod.ext hending hinstant

namespace Waited

variable {limit : Nat} {cancelAt : Option Nat} {reply : TimedReply}
  {ending other : Except AbortCause Reply} {instant later : Nat}

/-- Waiting ends in one way only. -/
theorem unique (h : Waited limit cancelAt reply ending instant)
    (h' : Waited limit cancelAt reply other later) : ending = other ∧ instant = later :=
  (waited_iff_resolved.mp h).unique (waited_iff_resolved.mp h')

/-- What waiting brings is the reply. -/
theorem reply_eq {r : Reply} (h : Waited limit cancelAt reply (.ok r) instant) :
    reply.reply = some r := by
  cases h with
  | replied hr _ _ => exact hr

/-- Waiting never goes on after the deadline. -/
theorem le_limit (h : Waited limit cancelAt reply ending instant) : instant ≤ limit := by
  cases h with
  | replied _ hle _ => exact hle
  | cancelled _ hle _ => exact hle
  | timedOut => exact Nat.le_refl limit

/-- The deadline ends the waiting at its instant. -/
theorem eq_limit {bound : Nat} (h : Waited limit cancelAt reply (.error (.timeout bound)) instant) :
    bound = limit ∧ instant = limit := by
  cases h with
  | timedOut => exact ⟨rfl, rfl⟩

/-- What ends without cancellation ends in the same way if the cancellation comes later. -/
theorem undisturbed (h : Waited limit none reply ending instant)
    (hc : ∀ t ∈ cancelAt, instant < t) : Waited limit cancelAt reply ending instant := by
  cases h with
  | replied hr hle _ => exact .replied hr hle hc
  | cancelled ht => cases ht
  | timedOut hlate _ => exact .timedOut hlate hc

/-- A cancellation no later than the end without one ends the waiting. -/
theorem cut (h : Waited limit none reply ending instant) {t : Nat} (ht : cancelAt = some t)
    (hle : t ≤ instant) : Waited limit cancelAt reply (.error .caller) t := by
  cases h with
  | replied hr hl _ => exact .cancelled ht (Nat.le_trans hle hl) fun _ _ => hle
  | cancelled h => cases h
  | timedOut hlate _ =>
    exact .cancelled ht hle fun r hr => Nat.le_of_lt (Nat.lt_of_le_of_lt hle (hlate r hr))

end Waited

/-- The caller has not cancelled at the start. -/
theorem any_le_zero_eq_false_iff (cancelAt : Option Nat) :
    cancelAt.any (· ≤ 0) = false ↔ ∀ t ∈ cancelAt, 0 < t := by
  cases cancelAt with
  | none => simp
  | some t => simp [Nat.pos_iff_ne_zero]

/-- All of an exchange, from how waiting ends and when it would have ended if the caller had let
it. The request is sent unless the cancellation is there at the start. -/
theorem exchange_of_waited {limit : Nat} {cancelAt : Option Nat} {reply : TimedReply}
    {ending plain : Except AbortCause Reply} {instant due : Nat}
    (h : Waited limit cancelAt reply ending instant) (hdue : Waited limit none reply plain due) :
    exchange limit cancelAt reply =
      ⟨!cancelAt.any (· ≤ 0), instant, due, endingResult ending, endingCause? ending⟩ := by
  unfold exchange
  simp only [race_of_waited h, race_of_waited hdue]
  cases ending with
  | ok r => rfl
  | error cause => rfl

/-! ## The caller's signal -/

/-- What a call is given to be cancelled by: the latch that the caller's signal reads with what
will happen to its handle, or no signal. -/
abbrev CallerSignal := Option (Latch × Outlook)

/-- When a call that starts now is cancelled. -/
def CallerSignal.cancelAt (signal : CallerSignal) : Option Nat :=
  signal.bind fun s => s.1.cancelledAt 0 s.2

/-- A signal cancels a call that starts now at an instant. It never does when there is no signal,
when the handle is dropped before it cancels and when nothing happens to the handle. -/
inductive CallerSignal.CancelsAt : CallerSignal → Nat → Prop where
  /-- The handle has cancelled before the call. -/
  | before {latch : Latch} {outlook : Outlook} :
      latch.cancelled = true → CancelsAt (some (latch, outlook)) 0
  /-- The first that happens to the handle is that it cancels. -/
  | during {latch : Latch} {instant : Nat} {rest : Outlook} :
      latch.cancelled = false → latch.held = true →
      CancelsAt (some (latch, (instant, .cancel) :: rest)) instant

/-- A latch that is open and has lost its handle stays open. -/
theorem Latch.cancelledAt_of_not_held {l : Latch} (hc : l.cancelled = false)
    (hh : l.held = false) (now : Nat) (outlook : Outlook) : l.cancelledAt now outlook = none := by
  induction outlook generalizing now with
  | nil => simp [Latch.cancelledAt, hc]
  | cons next rest ih =>
    obtain ⟨instant, action⟩ := next
    have hact : l.act action = l := by
      obtain ⟨cancelled, held⟩ := l
      subst hh
      cases action <;> rfl
    simp only [Latch.cancelledAt, hc, hact]
    exact ih (max now instant)

/-- A latch that is closed was closed before now. -/
theorem Latch.cancelledAt_of_cancelled {l : Latch} (hc : l.cancelled = true) (now : Nat)
    (outlook : Outlook) : l.cancelledAt now outlook = some now := by
  cases outlook with
  | nil => simp [Latch.cancelledAt, hc]
  | cons next rest => simp [Latch.cancelledAt, hc]

/-- The instant that a call works with is the one at which the signal cancels. -/
theorem CallerSignal.cancelAt_eq_some_iff (signal : CallerSignal) (t : Nat) :
    signal.cancelAt = some t ↔ signal.CancelsAt t := by
  constructor
  · intro h
    obtain ⟨⟨latch, outlook⟩, rfl, hat⟩ := Option.bind_eq_some_iff.mp h
    cases hc : latch.cancelled with
    | true =>
      rw [Latch.cancelledAt_of_cancelled hc, Option.some.injEq] at hat
      exact hat ▸ .before hc
    | false =>
      cases hh : latch.held with
      | false =>
        rw [Latch.cancelledAt_of_not_held hc hh] at hat
        cases hat
      | true =>
        cases outlook with
        | nil => simp [Latch.cancelledAt, hc] at hat
        | cons next rest =>
          obtain ⟨instant, action⟩ := next
          simp only [Latch.cancelledAt, hc] at hat
          cases action with
          | cancel =>
            rw [if_neg (by decide), Latch.cancelledAt_of_cancelled (by simp [Latch.act, hh]),
              Option.some.injEq] at hat
            have : instant = t := by omega
            exact this ▸ .during hc hh
          | drop =>
            rw [if_neg (by decide), Latch.cancelledAt_of_not_held (by simp [Latch.act, hc])
              (by simp [Latch.act])] at hat
            cases hat
  · intro h
    cases h with
    | before hc => simp [cancelAt, Latch.cancelledAt_of_cancelled hc]
    | during hc hh =>
      simp only [cancelAt, Option.bind_some, Latch.cancelledAt, hc]
      rw [if_neg (by decide), Latch.cancelledAt_of_cancelled (by simp [Latch.act, hh])]
      simp

/-- There is no such instant if the signal never cancels. -/
theorem CallerSignal.cancelAt_eq_none_iff (signal : CallerSignal) :
    signal.cancelAt = none ↔ ∀ t, ¬ signal.CancelsAt t := by
  simp only [← signal.cancelAt_eq_some_iff, Option.eq_none_iff_forall_ne_some]

end Proforma
