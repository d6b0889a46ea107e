import Proforma.Failure

/-!
# Cancellation

A caller cancels through a handle, and any number of signals observe it. All signals of a handle
read one latch: it closes when the handle cancels and never opens again; when the handle is
dropped first, it can no longer close. A composed signal adds a deadline and remembers which of
the two sides ended a call.

Time is in microseconds from a common start. What will happen to a handle is given as an
*outlook*, the coming actions with their instants in order. A deadline is asked of a clock; one that
the clock cannot show stops the program.
-/

namespace Proforma

/-- What the owner of a handle does. -/
inductive HandleAction where
  | cancel
  | drop
  deriving DecidableEq

/-- What a handle and its signals share. -/
structure Latch where
  cancelled : Bool
  /-- Whether the handle still exists. -/
  held : Bool
  deriving DecidableEq

/-- Coming actions on a handle, earliest first. -/
abbrev Outlook := List (Nat × HandleAction)

namespace Latch

/-- The latch of a new handle. -/
def new : Latch := ⟨false, true⟩

/-- The latch after an action. A handle that is gone does nothing. -/
def act (l : Latch) : HandleAction → Latch
  | .cancel => if l.held then { l with cancelled := true } else l
  | .drop => { l with held := false }

/-- The instant, not before `now`, at which a signal sees the cancellation. -/
def cancelledAt (l : Latch) (now : Nat) : Outlook → Option Nat
  | [] => if l.cancelled then some now else none
  | (at_, action) :: rest =>
    if l.cancelled then some now else (l.act action).cancelledAt (max now at_) rest

end Latch

/-! ## The clock -/

/-- A clock by which deadlines are set. -/
structure SteadyClock where
  /-- What it shows. -/
  now : Nat
  /-- The last instant that it can show. -/
  last : Nat
  deriving DecidableEq

/-- What stops the program: an instant that the clock cannot show. -/
inductive ClockOverflow where
  | deadline
  deriving DecidableEq

/-- What is reported about it. -/
def ClockOverflow.message : ClockOverflow → String
  | .deadline => "overflow when adding duration to instant"

namespace SteadyClock

/-- A clock that counts seconds in a signed word of 64 bits. -/
def wide (now : Nat) : SteadyClock := ⟨now, 2 ^ 63 * 1000000 - 1⟩

/-- Whether the clock can show the instant that comes so much later. -/
def CanShow (clock : SteadyClock) (length : Nat) : Prop :=
  clock.now + length ≤ clock.last

instance (clock : SteadyClock) (length : Nat) : Decidable (clock.CanShow length) :=
  inferInstanceAs (Decidable (clock.now + length ≤ clock.last))

end SteadyClock

/-! ## The race -/

/-- A signal for one call: the caller's, if there is one, and a deadline. -/
structure ComposedSignal where
  /-- Whether the caller's signal is watched. -/
  watchesCaller : Bool
  limit : Nat
  deadline : Nat
  /-- Which side ended a call, once one has. -/
  cause : Option AbortCause
  deriving DecidableEq

namespace ComposedSignal

/-- The signal of a call that starts now, with a deadline that the clock can show. `compose?` is
the signal by any clock. -/
def compose (watchesCaller : Bool) (limit now : Nat) : ComposedSignal :=
  ⟨watchesCaller, limit, now + limit, none⟩

/-- The signal of a call that starts when the clock is read. If the clock cannot show the deadline
there is none: the program stops here, before it looks at the caller's signal. -/
def compose? (watchesCaller : Bool) (limit : Nat) (clock : SteadyClock) :
    Except ClockOverflow ComposedSignal :=
  if clock.CanShow limit then .ok (compose watchesCaller limit clock.now) else .error .deadline

variable {watchesCaller : Bool} {limit : Nat} {clock : SteadyClock}

theorem compose?_of_canShow (h : clock.CanShow limit) :
    compose? watchesCaller limit clock = .ok (compose watchesCaller limit clock.now) :=
  if_pos h

theorem compose?_of_not_canShow (h : ¬ clock.CanShow limit) :
    compose? watchesCaller limit clock = .error .deadline :=
  if_neg h

/-- Whether the deadline ended a call. -/
def wasTimeout (s : ComposedSignal) : Bool :=
  match s.cause with
  | some (.timeout _) => true
  | _ => false

/-- Whether the caller ended a call. -/
def wasCancelled (s : ComposedSignal) : Bool :=
  s.cause = some .caller

/-- The instant of an event for a race that starts now and ends at `deadline`: not before the
start, and past the end if the event never comes. -/
def instantOf (now deadline : Nat) (event : Option Nat) : Nat :=
  match event with
  | some instant => max now instant
  | none => deadline + 1

/-- The first of cancellation, end of the work and deadline: what the work yields or which side
ended it, and when. `work` is the instant at which the work ends with its yield, unless it never
does. Of events at one instant cancellation comes first and the deadline last. Nothing happens
before `now`. -/
def race (s : ComposedSignal) (now : Nat) (cancelAt : Option Nat) (work : Option (Nat × α)) :
    Except AbortCause α × Nat :=
  let deadline := max now s.deadline
  let cancelled := instantOf now deadline (if s.watchesCaller then cancelAt else none)
  let done := instantOf now deadline (work.map (·.1))
  if cancelled ≤ done ∧ cancelled ≤ deadline then (.error .caller, cancelled)
  else
    match work with
    | some (_, a) =>
      if done ≤ deadline then (.ok a, done) else (.error (.timeout s.limit), deadline)
    | none => (.error (.timeout s.limit), deadline)

/-- Whether work guarded from now on is started at all: not if a call has been ended before, nor
if the cancellation is already there. -/
def starts (s : ComposedSignal) (now : Nat) (cancelAt : Option Nat) : Bool :=
  s.cause.isNone && !(s.watchesCaller && cancelAt.any (· ≤ now))

/-- Guards work from `now` on. The result is what came of it, when, and the signal afterwards.
The first cause recorded stays. -/
def guard (s : ComposedSignal) (now : Nat) (cancelAt : Option Nat) (work : Option (Nat × α)) :
    Except AbortCause α × Nat × ComposedSignal :=
  match s.cause with
  | some cause => (.error cause, now, s)
  | none =>
    match s.race now cancelAt work with
    | (.ok a, instant) => (.ok a, instant, s)
    | (.error cause, instant) => (.error cause, instant, { s with cause := some cause })

end ComposedSignal

end Proforma
