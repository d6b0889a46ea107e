import Proforma.Service.Cancellation

/-!
# Sessions with a handle

A handle, the signals made from it and one composed signal, over a sequence of steps with the
time that passes in them. The clock can show every deadline of a session; with any other the program
stops where the signal is composed (`ComposedSignal.compose?`).
-/

namespace Proforma

/-- One step of a session; `α` is what guarded work yields. Lengths of time are in
microseconds. -/
inductive SessionStep (α : Type) where
  | cancel
  | dropHandle
  /-- Another signal from the handle, if it exists. -/
  | subscribe
  /-- Another signal from the signal of that index. -/
  | clone (index : Nat)
  | sleep (length : Nat)
  /-- A new composed signal that watches the signal of that index. -/
  | compose (caller : Option Nat) (limit : Nat)
  /-- Guards work of that length, or without end. The handle cancels after `cancelAfter`, unless
  the guard ends before. -/
  | guard (work : Option Nat) (value : α) (cancelAfter : Option Nat)
  /-- Waits for the signal of that index to see the cancellation. -/
  | await (index : Nat) (limit : Nat)

/-- What a step shows. -/
inductive Observation (α : Type) where
  | nothing
  | guarded (result : Except AbortCause α)
  | resolved (b : Bool)

/-- Where a session stands. -/
structure Session where
  latch : Latch
  /-- How many signals there are. -/
  signals : Nat
  composed : ComposedSignal
  now : Nat
  deriving DecidableEq

/-- Waits until a signal sees the cancellation, but no longer than `limit`. The result is whether
it did, and when the waiting ended. -/
def Latch.await (l : Latch) (now limit : Nat) (outlook : Outlook) : Bool × Nat :=
  match l.cancelledAt now outlook with
  | some instant => if instant ≤ now + limit then (true, instant) else (false, now + limit)
  | none => (false, now + limit)

/-- The latch after those actions of an outlook that come no later than an instant. -/
def Latch.advance (l : Latch) (instant : Nat) (outlook : Outlook) : Latch :=
  ((outlook.filter (·.1 ≤ instant)).map (·.2)).foldl Latch.act l

namespace Session

/-- A new handle with its signal, and a composed signal that may watch it. -/
def start (caller : Option Nat) (limit : Nat) : Session :=
  ⟨.new, 1, .compose (caller.any (· < 1)) limit 0, 0⟩

/-- What each signal says. -/
def signalStates (s : Session) : List Bool :=
  List.replicate s.signals s.latch.cancelled

/-- What the handle says, while it exists. -/
def handleState (s : Session) : Option Bool :=
  if s.latch.held then some s.latch.cancelled else none

/-- One step. -/
def step (s : Session) : SessionStep α → Session × Observation α
  | .cancel => ({ s with latch := s.latch.act .cancel }, .nothing)
  | .dropHandle => ({ s with latch := s.latch.act .drop }, .nothing)
  | .subscribe => (if s.latch.held then { s with signals := s.signals + 1 } else s, .nothing)
  | .clone index =>
    (if index < s.signals then { s with signals := s.signals + 1 } else s, .nothing)
  | .sleep length => ({ s with now := s.now + length }, .nothing)
  | .compose caller limit =>
    ({ s with composed := .compose (caller.any (· < s.signals)) limit s.now }, .nothing)
  | .guard work value cancelAfter =>
    let outlook := cancelAfter.toList.map fun after => (s.now + after, HandleAction.cancel)
    let cancelAt := s.latch.cancelledAt s.now outlook
    let (result, instant, composed) :=
      s.composed.guard s.now cancelAt (work.map fun length => (s.now + length, value))
    ({ s with latch := s.latch.advance instant outlook, composed := composed, now := instant },
      .guarded result)
  | .await _ limit =>
    let (resolved, instant) := s.latch.await s.now limit []
    ({ s with now := instant }, .resolved resolved)

/-- The states after each step, with what each step shows. -/
def run (s : Session) : List (SessionStep α) → List (Session × Observation α)
  | [] => []
  | action :: rest =>
    let next := s.step action
    next :: next.1.run rest

end Session

end Proforma
