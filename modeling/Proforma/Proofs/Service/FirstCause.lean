import Proforma.Service.Session

/-!
# The first cause is final

What a session does to its composed signal. A step changes nothing of the signal but its cause, and
that only where there was none, to the cause with which a guard has just failed (`step_composed`).
Over a run the cause is that of the first guard that failed (`after_composed`), and it is one of the
two that the signal can have (`Sound`).
-/

namespace Proforma

/-! ## One guard -/

/-- The side that ended guarded work early. -/
def abortCause? : Except AbortCause α → Option AbortCause
  | .ok _ => none
  | .error cause => some cause

namespace ComposedSignal

variable {α : Type} {s : ComposedSignal} {now : Nat} {cancelAt : Option Nat}
  {work : Option (Nat × α)}

/-- Only the caller or the deadline of the signal is recorded. -/
def Sound (s : ComposedSignal) : Prop :=
  ∀ cause, s.cause = some cause → cause = .caller ∨ cause = .timeout s.limit

/-- A race is lost to one of the two sides. -/
theorem cause_of_race {cause : AbortCause} (h : (s.race now cancelAt work).1 = .error cause) :
    cause = .caller ∨ cause = .timeout s.limit := by
  unfold race at h
  dsimp only at h
  -- whenever the cancellation is seen, only its order among the three counts here
  generalize instantOf now (max now s.deadline) (if s.watchesCaller then cancelAt else none) =
    cancelled at h
  split at h
  · cases h
    exact .inl rfl
  · split at h
    · split at h
      · cases h
      · cases h
        exact .inr rfl
    · cases h
      exact .inr rfl

/-- With a cause recorded a guard ends at once, with that cause, and its work is not started. -/
theorem guard_of_cause {cause : AbortCause} (h : s.cause = some cause) (now : Nat)
    (cancelAt : Option Nat) (work : Option (Nat × α)) :
    s.guard now cancelAt work = (.error cause, now, s) ∧ s.starts now cancelAt = false := by
  constructor
  · unfold guard
    rw [h]
  · unfold starts
    rw [h]
    rfl

/-- **A guard records its cause** unless there is one, and changes nothing else. -/
theorem guard_signal (s : ComposedSignal) (now : Nat) (cancelAt : Option Nat)
    (work : Option (Nat × α)) :
    (s.guard now cancelAt work).2.2 =
      { s with cause := s.cause.or (abortCause? (s.guard now cancelAt work).1) } := by
  cases hcause : s.cause with
  | some cause =>
    rw [(guard_of_cause hcause now cancelAt work).1, Option.some_or, ← hcause]
  | none =>
    unfold guard
    rw [hcause]
    dsimp only
    rcases s.race now cancelAt work with ⟨_ | _, instant⟩
    · rfl
    · show s = { s with cause := none }
      rw [← hcause]

/-- What a guard records is sound. -/
theorem Sound.guard (h : s.Sound) (now : Nat) (cancelAt : Option Nat) (work : Option (Nat × α)) :
    (s.guard now cancelAt work).2.2.Sound := by
  cases hcause : s.cause with
  | some cause => rwa [(guard_of_cause hcause now cancelAt work).1]
  | none =>
    unfold ComposedSignal.guard
    rw [hcause]
    dsimp only
    cases hrace : s.race now cancelAt work with
    | mk result instant =>
      cases result with
      | ok a => exact h
      | error cause =>
        rintro _ ⟨⟩
        exact cause_of_race (congrArg Prod.fst hrace)

/-- Exactly one of three holds of a sound signal. -/
theorem Sound.cases (h : s.Sound) :
    s.cause = none ∧ s.wasTimeout = false ∧ s.wasCancelled = false ∨
      s.cause = some (.timeout s.limit) ∧ s.wasTimeout = true ∧ s.wasCancelled = false ∨
      s.cause = some .caller ∧ s.wasTimeout = false ∧ s.wasCancelled = true := by
  unfold wasTimeout wasCancelled
  cases hcause : s.cause with
  | none => exact .inl ⟨rfl, rfl, by decide⟩
  | some cause =>
    rcases h cause hcause with rfl | rfl
    · exact .inr (.inr ⟨rfl, rfl, by decide⟩)
    · exact .inr (.inl ⟨rfl, rfl, by simp⟩)

end ComposedSignal

/-! ## Steps and runs -/

section Steps

variable {α : Type}

/-- Whether a step puts another composed signal in place. -/
def SessionStep.composes : SessionStep α → Bool
  | .compose _ _ => true
  | _ => false

/-- Whether a step guards work. -/
def SessionStep.guards : SessionStep α → Bool
  | .guard _ _ _ => true
  | _ => false

/-- The cause that a step shows, if it is a guard that failed. -/
def Observation.cause? : Observation α → Option AbortCause
  | .guarded result => abortCause? result
  | _ => none

/-- The cause of the first guard that failed. -/
def firstCause? (shown : List (Observation α)) : Option AbortCause :=
  shown.findSome? Observation.cause?

namespace Session

variable {s : Session} {step : SessionStep α} {steps : List (SessionStep α)}

/-- Where a session stands after several steps. -/
def after (s : Session) (steps : List (SessionStep α)) : Session :=
  ((s.run steps).getLast?.map (·.1)).getD s

/-- What several steps show. -/
def shown (s : Session) (steps : List (SessionStep α)) : List (Observation α) :=
  (s.run steps).map (·.2)

theorem after_cons (s : Session) (step : SessionStep α) (rest : List (SessionStep α)) :
    s.after (step :: rest) = (s.step step).1.after rest := by
  rw [after, run, List.getLast?_cons]
  unfold after
  cases ((s.step step).1.run rest).getLast? <;> rfl

theorem shown_cons (s : Session) (step : SessionStep α) (rest : List (SessionStep α)) :
    s.shown (step :: rest) = (s.step step).2 :: (s.step step).1.shown rest := rfl

/-- **A step** changes nothing of the composed signal but a cause that is not there yet. -/
theorem step_composed (h : step.composes = false) :
    (s.step step).1.composed =
      { s.composed with cause := s.composed.cause.or (s.step step).2.cause? } := by
  have hsame : s.composed = { s.composed with cause := s.composed.cause.or none } := by
    rw [Option.or_none]
  cases step with
  | compose caller limit => cases h
  | guard work value cancelAfter => exact ComposedSignal.guard_signal _ _ _ _
  | subscribe =>
    rw [Session.step]
    split <;> exact hsame
  | clone index =>
    rw [Session.step]
    split <;> exact hsame
  | cancel | dropHandle | sleep | await => exact hsame

/-- Only a guard shows a cause. -/
theorem cause?_of_not_guards (h : step.composes = false) (hg : step.guards = false) :
    (s.step step).2.cause? = none := by
  cases step with
  | compose caller limit => cases h
  | guard work value cancelAfter => cases hg
  | cancel | dropHandle | subscribe | clone | sleep | await => rfl

/-- A step keeps the signal sound. -/
theorem sound_step (h : step.composes = false) (hs : s.composed.Sound) :
    (s.step step).1.composed.Sound := by
  cases step with
  | compose caller limit => cases h
  | guard work value cancelAfter => exact hs.guard _ _ _
  | subscribe =>
    rw [Session.step]
    split <;> exact hs
  | clone index =>
    rw [Session.step]
    split <;> exact hs
  | cancel | dropHandle | sleep | await => exact hs

/-- **A run** changes nothing of the composed signal but a cause that is not there yet, and that to
the first that is shown. -/
theorem after_composed (h : ∀ step ∈ steps, step.composes = false) :
    (s.after steps).composed =
      { s.composed with cause := s.composed.cause.or (firstCause? (s.shown steps)) } := by
  induction steps generalizing s with
  | nil =>
    show s.composed = { s.composed with cause := s.composed.cause.or none }
    rw [Option.or_none]
  | cons step rest ih =>
    obtain ⟨hstep, hrest⟩ := List.forall_mem_cons.mp h
    have hfirst : firstCause? (s.shown (step :: rest)) =
        (s.step step).2.cause?.or (firstCause? ((s.step step).1.shown rest)) := by
      rw [shown_cons, firstCause?, List.findSome?_cons]
      cases (s.step step).2.cause? <;> rfl
    rw [after_cons, ih hrest, step_composed hstep, hfirst, Option.or_assoc]

/-- A run keeps the signal sound. -/
theorem sound_after (h : ∀ step ∈ steps, step.composes = false) (hs : s.composed.Sound) :
    (s.after steps).composed.Sound := by
  induction steps generalizing s with
  | nil => exact hs
  | cons step rest ih =>
    obtain ⟨hstep, hrest⟩ := List.forall_mem_cons.mp h
    rw [after_cons]
    exact ih hrest (sound_step hstep hs)

/-- Without a guard a run shows no cause. -/
theorem firstCause?_of_not_guards (h : ∀ step ∈ steps, step.composes = false)
    (hg : ∀ step ∈ steps, step.guards = false) : firstCause? (s.shown steps) = none := by
  induction steps generalizing s with
  | nil => rfl
  | cons step rest ih =>
    obtain ⟨hstep, hrest⟩ := List.forall_mem_cons.mp h
    obtain ⟨hno, hnone⟩ := List.forall_mem_cons.mp hg
    rw [shown_cons, firstCause?, List.findSome?_cons, cause?_of_not_guards hstep hno]
    exact ih hrest hnone

end Session

end Steps

/-- **The first cause is final.** Let a signal be composed at any point of a session, and let any
steps follow that do not compose another. Its cause is that of the first guard that failed, and
there is none as long as none did; so other steps, a cancellation or the passing of the deadline
among them, record nothing. There is no cause, or the deadline is recorded with its limit, or the
caller, and only one of them. A recorded cause stays whatever happens next, and every guard then
ends with it at once, whatever happens to the handle, without starting its work. A guard whose work
is done leaves no cause behind, and one that fails leaves its own. -/
theorem first_cause_final {α : Type} (s : Session) (caller : Option Nat) (limit : Nat)
    (steps : List (SessionStep α)) (hsteps : ∀ step ∈ steps, step.composes = false) :
    let start := (s.step (.compose caller limit : SessionStep α)).1
    let here := start.after steps
    let signal := here.composed
    signal.cause = firstCause? (start.shown steps) ∧
      ((∀ step ∈ steps, step.guards = false) → signal.cause = none) ∧
      (signal.cause = none ∧ signal.wasTimeout = false ∧ signal.wasCancelled = false ∨
        signal.cause = some (.timeout limit) ∧ signal.wasTimeout = true ∧
          signal.wasCancelled = false ∨
        signal.cause = some .caller ∧ signal.wasTimeout = false ∧ signal.wasCancelled = true) ∧
      (∀ cause, signal.cause = some cause →
        (∀ more : List (SessionStep α), (∀ step ∈ more, step.composes = false) →
          (here.after more).composed = signal) ∧
        ∀ now cancelAt (work : Option (Nat × α)),
          signal.guard now cancelAt work = (.error cause, now, signal) ∧
            signal.starts now cancelAt = false) ∧
      ∀ now cancelAt (work : Option (Nat × α)),
        let result := (signal.guard now cancelAt work).1
        let later := (signal.guard now cancelAt work).2.2
        (∀ value, result = .ok value → signal.cause = none ∧ later.cause = none) ∧
          ∀ cause, result = .error cause → later.cause = some cause := by
  intro start here signal
  -- the signal that was composed has no cause, so that only what is shown since then counts
  have hfresh : start.composed.Sound := nofun
  have hsignal : signal = { start.composed with cause := firstCause? (start.shown steps) } :=
    Session.after_composed hsteps
  have hsound : signal.Sound := Session.sound_after hsteps hfresh
  have hcause : signal.cause = firstCause? (start.shown steps) := by rw [hsignal]
  have hlimit : signal.limit = limit := by rw [hsignal]; rfl
  refine ⟨hcause, ?_, hlimit ▸ hsound.cases, ?_, ?_⟩
  · intro hguards
    rw [hcause]
    exact Session.firstCause?_of_not_guards hsteps hguards
  · intro cause hrecorded
    refine ⟨fun more hmore => ?_, ComposedSignal.guard_of_cause hrecorded⟩
    rw [Session.after_composed hmore]
    show { signal with cause := signal.cause.or _ } = signal
    rw [hrecorded, Option.some_or, ← hrecorded]
  · intro now cancelAt work result later
    have hlater : later.cause = signal.cause.or (abortCause? result) := by
      show (signal.guard now cancelAt work).2.2.cause = _
      rw [ComposedSignal.guard_signal]
    constructor
    · intro value hdone
      have hnone : signal.cause = none := by
        cases hrecorded : signal.cause with
        | none => rfl
        | some cause =>
          have hended := (ComposedSignal.guard_of_cause hrecorded now cancelAt work).1
          cases (congrArg Prod.fst hended).symm.trans hdone
      exact ⟨hnone, by rw [hlater, hnone, hdone]; rfl⟩
    · intro cause hfailed
      cases hrecorded : signal.cause with
      | none => rw [hlater, hrecorded, hfailed]; rfl
      | some first =>
        have hended := (ComposedSignal.guard_of_cause hrecorded now cancelAt work).1
        cases (congrArg Prod.fst hended).symm.trans hfailed
        rw [hlater, hrecorded]
        rfl

/-- A guard whose work is done, one that the deadline ends, a cancellation, and one more guard. -/
theorem first_cause_final_of_timeout :
    let steps : List (SessionStep Nat) :=
      [.sleep 1000, .guard (some 200) 1 none, .guard none 2 none, .cancel, .guard (some 0) 3 none]
    (∀ step ∈ steps, step.composes = false) ∧
      ((((Session.start none 0).step (.compose (some 0) 2500 : SessionStep Nat)).1.after
        steps).composed.cause = some (.timeout 2500)) := by
  intro steps
  have hsteps : ∀ step ∈ steps, step.composes = false := by
    intro step hstep
    simp only [steps, List.mem_cons, List.not_mem_nil, or_false] at hstep
    rcases hstep with rfl | rfl | rfl | rfl | rfl <;> rfl
  have hfinal := first_cause_final (Session.start none 0) (some 0) 2500 steps hsteps
  dsimp only at hfinal
  refine ⟨hsteps, ?_⟩
  rw [hfinal.1]
  decide +kernel

end Proforma
