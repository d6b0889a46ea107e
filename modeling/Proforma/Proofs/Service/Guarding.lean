import Proforma.Proofs.Service.FirstCause
import Proforma.Proofs.Service.Race

/-!
# When a guard ends

A guard waits for whichever comes first: the cancellation, the end of its work or the deadline. It
is as if all three were looked at again at every instant, in this order (`poll?`): the guard ends
at the first instant at which something is found, with what is found there. For the caller's signal
that means the state of the latch after all that has happened to the handle by then; a handle that
is dropped before it cancels is never found cancelled (`Latch.cancelled_advance_iff`). In terms of
the three instants, the earliest wins and ties go to the cancellation and then to the work
(`Resolved`). `guard_resolves` says both, of every guard.
-/

namespace Proforma

/-! ## The latch over time -/

namespace Latch

variable {l : Latch} {now : Nat} {outlook : Outlook}

/-- A latch that is closed stays closed. -/
theorem cancelled_act (h : l.cancelled = true) (action : HandleAction) :
    (l.act action).cancelled = true := by
  cases action with
  | cancel =>
    simp only [act]
    split
    · rfl
    · exact h
  | drop => exact h

theorem cancelled_advance (h : l.cancelled = true) (t : Nat) (outlook : Outlook) :
    (l.advance t outlook).cancelled = true := by
  unfold advance
  generalize (outlook.filter (·.1 ≤ t)).map (·.2) = actions
  induction actions generalizing l with
  | nil => exact h
  | cons action rest ih => exact ih (cancelled_act h action)

theorem advance_cons_of_le {t instant : Nat} (h : instant ≤ t) (l : Latch) (action : HandleAction)
    (rest : Outlook) :
    l.advance t ((instant, action) :: rest) = (l.act action).advance t rest := by
  simp [advance, h]

/-- What comes later has not happened yet. -/
theorem advance_of_lt {t : Nat} (l : Latch) (h : ∀ next ∈ outlook, t < next.1) :
    l.advance t outlook = l := by
  have hnone : outlook.filter (·.1 ≤ t) = [] := by
    rw [List.filter_eq_nil_iff]
    intro next hnext
    simpa using h next hnext
  rw [advance, hnone]
  rfl

/-- Nothing is seen before now. -/
theorem le_of_cancelledAt {t : Nat} (h : l.cancelledAt now outlook = some t) : now ≤ t := by
  induction outlook generalizing l now with
  | nil =>
    rw [cancelledAt] at h
    split at h
    · exact Nat.le_of_eq (Option.some.inj h)
    · cases h
  | cons next rest ih =>
    rw [cancelledAt] at h
    split at h
    · exact Nat.le_of_eq (Option.some.inj h)
    · exact Nat.le_trans (Nat.le_max_left _ _) (ih h)

/-- **A latch is closed** from the instant on at which a signal sees the cancellation, and not
before. -/
theorem cancelled_advance_iff {t : Nat} (h : outlook.Pairwise (·.1 ≤ ·.1)) (ht : now ≤ t) :
    (l.advance t outlook).cancelled = true ↔ ∃ c ∈ l.cancelledAt now outlook, c ≤ t := by
  induction outlook generalizing l now with
  | nil =>
    cases hc : l.cancelled <;> simp [advance, cancelledAt, hc, ht]
  | cons next rest ih =>
    obtain ⟨instant, action⟩ := next
    obtain ⟨hfirst, hrest⟩ := List.pairwise_cons.mp h
    cases hc : l.cancelled with
    | true =>
      rw [cancelledAt_of_cancelled hc]
      exact ⟨fun _ => ⟨now, rfl, ht⟩, fun _ => cancelled_advance hc t _⟩
    | false =>
      rw [cancelledAt, hc, if_neg (by decide)]
      rcases Nat.lt_or_ge t instant with hlater | hby
      · -- neither this action nor any after it has happened
        have hall : ∀ next ∈ (instant, action) :: rest, t < next.1 :=
          List.forall_mem_cons.mpr ⟨hlater, fun next hnext =>
            Nat.lt_of_lt_of_le hlater (hfirst next hnext)⟩
        rw [advance_of_lt l hall, hc]
        constructor
        · intro hclosed
          cases hclosed
        · rintro ⟨c, hseen, hle⟩
          have := le_of_cancelledAt hseen
          omega
      · rw [advance_cons_of_le hby]
        exact ih hrest (Nat.max_le.mpr ⟨ht, hby⟩)

end Latch

/-! ## Looking at all three -/

namespace ComposedSignal

variable {α : Type}

/-- Whether the caller's signal is watched and the cancellation is visible at an instant. -/
def sees (s : ComposedSignal) (latch : Latch) (outlook : Outlook) (t : Nat) : Bool :=
  s.watchesCaller && (latch.advance t outlook).cancelled

/-- What is found at an instant: the cancellation if it is visible, else what the work has yielded
by then, else that the deadline has passed. -/
def poll? (s : ComposedSignal) (latch : Latch) (outlook : Outlook) (work : Option (Nat × α))
    (t : Nat) : Option (Except AbortCause α) :=
  if s.sees latch outlook t then some (.error .caller)
  else
    match work.filter (·.1 ≤ t) with
    | some (_, a) => some (.ok a)
    | none => if s.deadline ≤ t then some (.error (.timeout s.limit)) else none

/-- The first instant from `now` on at which something is found, and what is found there. -/
structure FirstFound (s : ComposedSignal) (latch : Latch) (outlook : Outlook)
    (work : Option (Nat × α)) (now : Nat) (result : Except AbortCause α) (instant : Nat) :
    Prop where
  after : now ≤ instant
  found : s.poll? latch outlook work instant = some result
  first : ∀ t, now ≤ t → t < instant → s.poll? latch outlook work t = none

variable {s : ComposedSignal} {latch : Latch} {outlook : Outlook} {work : Option (Nat × α)}
  {now t : Nat}

/-- What is there at the start is found at the start. -/
theorem FirstFound.of_now {result found : Except AbortCause α} {instant : Nat}
    (h : s.FirstFound latch outlook work now result instant)
    (hnow : s.poll? latch outlook work now = some found) : result = found ∧ instant = now := by
  rcases Nat.eq_or_lt_of_le h.after with rfl | hlater
  · exact ⟨Option.some.inj (h.found.symm.trans hnow), rfl⟩
  · cases (h.first now (Nat.le_refl now) hlater).symm.trans hnow

theorem poll?_of_sees (h : s.sees latch outlook t = true) :
    s.poll? latch outlook work t = some (.error .caller) :=
  if_pos h

theorem poll?_of_done {instant : Nat} {a : α} (h : s.sees latch outlook t = false)
    (hwork : work = some (instant, a)) (ht : instant ≤ t) :
    s.poll? latch outlook work t = some (.ok a) := by
  have hdone : work.filter (·.1 ≤ t) = some (instant, a) := by
    rw [hwork]
    exact Option.filter_some_pos (decide_eq_true ht)
  rw [poll?, if_neg (by rw [h]; decide), hdone]

theorem poll?_of_pending (h : s.sees latch outlook t = false) (hwork : ∀ w ∈ work, t < w.1) :
    s.poll? latch outlook work t =
      if s.deadline ≤ t then some (.error (.timeout s.limit)) else none := by
  have hnone : work.filter (·.1 ≤ t) = none := by
    rw [Option.filter_eq_none_iff]
    intro w hw
    simpa using hwork w hw
  rw [poll?, if_neg (by rw [h]; decide), hnone]

/-- The instant at which the caller's signal sees the cancellation, if it is watched. -/
def cancelledAt (s : ComposedSignal) (latch : Latch) (now : Nat) (outlook : Outlook) :
    Option Nat :=
  if s.watchesCaller then latch.cancelledAt now outlook else none

theorem le_of_cancelledAt {c : Nat} (h : s.cancelledAt latch now outlook = some c) : now ≤ c := by
  unfold cancelledAt at h
  split at h
  · exact Latch.le_of_cancelledAt h
  · cases h

theorem map_max_cancelledAt (s : ComposedSignal) (latch : Latch) (now : Nat) (outlook : Outlook) :
    (s.cancelledAt latch now outlook).map (max now) = s.cancelledAt latch now outlook := by
  cases hc : s.cancelledAt latch now outlook with
  | none => rfl
  | some c => rw [Option.map_some, Nat.max_eq_right (le_of_cancelledAt hc)]

theorem sees_iff (h : outlook.Pairwise (·.1 ≤ ·.1)) (ht : now ≤ t) :
    s.sees latch outlook t = true ↔ ∃ c ∈ s.cancelledAt latch now outlook, c ≤ t := by
  unfold sees cancelledAt
  cases s.watchesCaller with
  | true => simpa using Latch.cancelled_advance_iff h ht
  | false => simp

end ComposedSignal

/-! ## One guard -/

namespace ComposedSignal

variable {α : Type} {s : ComposedSignal} {latch : Latch} {outlook : Outlook}
  {work : Option (Nat × α)} {now : Nat}

/-- Without a cause recorded a guard is a race whose cause, if it has one, is recorded. -/
theorem guard_of_none (h : s.cause = none) (now : Nat) (cancelAt : Option Nat)
    (work : Option (Nat × α)) :
    s.guard now cancelAt work =
      ((s.race now cancelAt work).1, (s.race now cancelAt work).2,
        { s with cause := abortCause? (s.race now cancelAt work).1 }) := by
  have hsame : s = { s with cause := none } := by rw [← h]
  unfold guard
  rw [h]
  rcases s.race now cancelAt work with ⟨_ | _, instant⟩
  · rfl
  · exact congrArg (fun later => (_, instant, later)) hsame

section Found

variable (houtlook : outlook.Pairwise (·.1 ≤ ·.1))

include houtlook

/-- The cancellation is not visible before its instant. -/
theorem sees_eq_false {t : Nat} (ht : now ≤ t)
    (hcancel : ∀ c ∈ s.cancelledAt latch now outlook, t < c) : s.sees latch outlook t = false := by
  rw [Bool.eq_false_iff, Ne, sees_iff houtlook ht]
  rintro ⟨c, hc, hle⟩
  exact Nat.not_lt_of_le hle (hcancel c hc)

/-- Nothing is found before an instant that none of the three comes before. -/
theorem poll?_eq_none {instant : Nat}
    (hcancel : ∀ c ∈ s.cancelledAt latch now outlook, instant ≤ c)
    (hwork : ∀ w ∈ work, instant ≤ max now w.1) (hdeadline : instant ≤ max now s.deadline) :
    ∀ t, now ≤ t → t < instant → s.poll? latch outlook work t = none := by
  intro t ht hlt
  have hunseen := sees_eq_false houtlook ht fun c hc => Nat.lt_of_lt_of_le hlt (hcancel c hc)
  have hpending : ∀ w ∈ work, t < w.1 := by
    intro w hw
    have := hwork w hw
    omega
  rw [poll?_of_pending hunseen hpending, if_neg (by omega)]

/-- The race is over at the first instant at which something is found. -/
theorem firstFound_of_resolved {result : Except AbortCause α} {instant : Nat}
    (h : Resolved s.limit (max now s.deadline) (s.cancelledAt latch now outlook)
      (work.map fun w => (max now w.1, w.2)) result instant) :
    s.FirstFound latch outlook work now result instant := by
  have hmap {w : Nat × α} (hw : w ∈ work) :
      (max now w.1, w.2) ∈ work.map fun w => (max now w.1, w.2) :=
    Option.mem_map_of_mem _ hw
  cases h with
  | @cancelled instant hcancel hwork hdeadline =>
    have hnow := le_of_cancelledAt hcancel
    refine ⟨hnow, poll?_of_sees ((sees_iff houtlook hnow).mpr ⟨_, hcancel, Nat.le_refl _⟩),
      poll?_eq_none houtlook ?_ (fun w hw => hwork _ (hmap hw)) hdeadline⟩
    intro c hc
    exact Nat.le_of_eq (Option.some.inj (hcancel.symm.trans hc))
  | done hwork hcancel hdeadline =>
    obtain ⟨⟨instant, a⟩, hw, hsame⟩ := Option.map_eq_some_iff.mp hwork
    cases hsame
    have hnow := Nat.le_max_left now instant
    refine ⟨hnow, poll?_of_done (sees_eq_false houtlook hnow hcancel) hw (Nat.le_max_right _ _),
      poll?_eq_none houtlook (fun c hc => Nat.le_of_lt (hcancel c hc)) ?_ hdeadline⟩
    intro w hw'
    cases hw.symm.trans hw'
    exact Nat.le_refl _
  | timedOut hcancel hwork =>
    have hnow := Nat.le_max_left now s.deadline
    have hpending : ∀ w ∈ work, max now s.deadline < w.1 := by
      intro w hw
      have : max now s.deadline < max now w.1 := hwork _ (hmap hw)
      omega
    refine ⟨hnow, ?_, poll?_eq_none houtlook (fun c hc => Nat.le_of_lt (hcancel c hc))
      (fun w hw => Nat.le_of_lt (hwork _ (hmap hw))) (Nat.le_refl _)⟩
    rw [poll?_of_pending (sees_eq_false houtlook hnow hcancel) hpending,
      if_pos (Nat.le_max_right _ _)]

end Found

end ComposedSignal

/-- **When a guard ends, and with what.** Let a signal be composed at `start`, with or without the
caller's, and let a guard be called at any `now`, before, at or after the deadline, for work that
ends at any instant or never. With a cause recorded the guard ends at once with that cause.
Otherwise it ends with the earliest of cancellation, end of the work and deadline, none of them
before `now`, at that instant; ties go to the cancellation first and to the deadline last. That is
the first instant from `now` on at which something is found. So a cancellation that is visible at
the call wins over all else, and work that is done at the call comes next, even after the
deadline. -/
theorem guard_resolves {α : Type} (watches : Bool) (limit start now : Nat)
    (cause : Option AbortCause) (latch : Latch) (outlook : Outlook)
    (houtlook : outlook.Pairwise (·.1 ≤ ·.1)) (work : Option (Nat × α)) :
    let s := { ComposedSignal.compose watches limit start with cause := cause }
    let cancelAt := latch.cancelledAt now outlook
    (∀ first, cause = some first → s.guard now cancelAt work = (.error first, now, s)) ∧
      (cause = none → ∃ result instant,
        s.guard now cancelAt work = (result, instant, { s with cause := abortCause? result }) ∧
        Resolved limit (max now (start + limit)) (if watches then cancelAt else none)
          (work.map fun w => (max now w.1, w.2)) result instant ∧
        s.FirstFound latch outlook work now result instant ∧
        (s.sees latch outlook now = true → result = .error .caller ∧ instant = now) ∧
        ∀ done a, work = some (done, a) → done ≤ now → s.sees latch outlook now = false →
          result = .ok a ∧ instant = now) := by
  intro s cancelAt
  refine ⟨fun first hcause => (ComposedSignal.guard_of_cause hcause now cancelAt work).1, ?_⟩
  rintro rfl
  have hresolved := ComposedSignal.resolved_race s now cancelAt work
  rw [show (if s.watchesCaller then cancelAt else none) = s.cancelledAt latch now outlook from rfl,
    ComposedSignal.map_max_cancelledAt] at hresolved
  have hfound := ComposedSignal.firstFound_of_resolved houtlook hresolved
  refine ⟨_, _, ComposedSignal.guard_of_none rfl now cancelAt work, hresolved, hfound, ?_, ?_⟩
  · exact fun hsees => hfound.of_now (ComposedSignal.poll?_of_sees hsees)
  · exact fun done a hwork hdone hsees =>
      hfound.of_now (ComposedSignal.poll?_of_done hsees hwork hdone)

/-- All three at one instant: work that ends at the deadline, when the handle cancels too. -/
theorem guard_resolves_of_tie :
    let s := ComposedSignal.compose true 2500 0
    let outlook : Outlook := [(2500, .cancel), (2600, .drop)]
    let work := some (2500, 7)
    outlook.Pairwise (·.1 ≤ ·.1) ∧
      s.guard 1000 (Latch.new.cancelledAt 1000 outlook) work =
        (.error .caller, 2500, { s with cause := some .caller }) ∧
      Resolved 2500 2500 (some 2500) work (.error .caller) 2500 ∧
      s.FirstFound .new outlook work 1000 (.error .caller) 2500 := by
  intro s outlook work
  have houtlook : outlook.Pairwise (·.1 ≤ ·.1) := by decide
  obtain ⟨result, instant, hguard, hresolved, hfound, -⟩ :=
    (guard_resolves true 2500 0 1000 none .new outlook houtlook work).2 rfl
  have hend : s.guard 1000 (Latch.new.cancelledAt 1000 outlook) work =
      (.error .caller, 2500, { s with cause := some .caller }) := rfl
  cases hguard.symm.trans hend
  exact ⟨houtlook, hend, hresolved, hfound⟩

end Proforma
