import Mathlib.Logic.Function.Iterate
import Proforma.Proofs.Service.Guarding
import Proforma.Service.Channel

/-!
# All observers agree

What the signals of a handle say is told by the calls alone: cancelled if there was a cancel before
the handle was dropped, if it was dropped at all (`Cancelled`). A channel with an end for each
signal and a session with one latch for all of them keep in step (`InStep`), so either says it.

A waiting signal sees the cancellation if it is there or as soon as it comes, and is never misled by
the handle's going. What carries this through all turns and actions is `Waiter.Sound`: a signal that
waits for a change while the value says cancelled has not seen that value. So every waiting ends as
the latch has it (`Awaits.waitEnds`), and some waiting does end (`exists_awaits`).
-/

namespace Proforma

/-! ## What the calls say -/

/-- There was a cancel while the handle existed. -/
def Cancelled (calls : List PairCall) : Prop :=
  ∃ before after, calls = before ++ .act .cancel :: after ∧ .act .drop ∉ before

section Calls

variable {α : Type} {s : Session} {call : PairCall} {calls more rest : List PairCall}

theorem not_cancelled_nil : ¬ Cancelled [] := by
  rintro ⟨before, after, hcalls, -⟩
  cases before <;> cases hcalls

theorem cancelled_cons :
    Cancelled (call :: rest) ↔
      call = .act .cancel ∨ call ≠ .act .drop ∧ Cancelled rest := by
  constructor
  · rintro ⟨before, after, hcalls, hheld⟩
    cases before with
    | nil =>
      cases hcalls
      exact .inl rfl
    | cons first before =>
      cases hcalls
      exact .inr ⟨(List.ne_of_not_mem_cons hheld).symm, before, after, rfl,
        List.not_mem_of_not_mem_cons hheld⟩
  · rintro (rfl | ⟨hcall, before, after, rfl, hheld⟩)
    · exact ⟨[], rest, rfl, List.not_mem_nil⟩
    · exact ⟨call :: before, after, rfl, List.not_mem_cons_of_ne_of_not_mem hcall.symm hheld⟩

/-- What was cancelled stays cancelled. -/
theorem Cancelled.append (h : Cancelled calls) (more : List PairCall) :
    Cancelled (calls ++ more) := by
  obtain ⟨before, after, rfl, hheld⟩ := h
  exact ⟨before, after ++ more, by simp, hheld⟩

/-- The latch after one call. -/
theorem latch_step (s : Session) (call : PairCall) :
    (s.step (call.sessionStep (α := α))).1.latch =
      match call with
      | .act action => s.latch.act action
      | _ => s.latch := by
  cases call with
  | act action => cases action <;> rfl
  | subscribe =>
    simp only [PairCall.sessionStep, Session.step]
    split <;> rfl
  | clone index =>
    simp only [PairCall.sessionStep, Session.step]
    split <;> rfl
  | pass length => rfl

/-- **The latch over calls** closes at a cancel for which the handle is still there, and for good. -/
theorem cancelled_after (s : Session) (calls : List PairCall) :
    (s.after (calls.map (PairCall.sessionStep (α := α)))).latch.cancelled = true ↔
      s.latch.cancelled = true ∨ s.latch.held = true ∧ Cancelled calls := by
  induction calls generalizing s with
  | nil =>
    show s.latch.cancelled = true ↔ _
    simp [not_cancelled_nil]
  | cons call rest ih =>
    rw [List.map_cons, Session.after_cons, ih, latch_step, cancelled_cons]
    obtain ⟨⟨cancelled, held⟩, signals, composed, now⟩ := s
    cases call with
    | act action => cases action <;> cases held <;> simp [Latch.act]
    | subscribe | clone | pass => simp

theorem held_after (s : Session) (calls : List PairCall) :
    (s.after (calls.map (PairCall.sessionStep (α := α)))).latch.held = true ↔
      s.latch.held = true ∧ .act .drop ∉ calls := by
  induction calls generalizing s with
  | nil =>
    show s.latch.held = true ↔ _
    simp
  | cons call rest ih =>
    rw [List.map_cons, Session.after_cons, ih, latch_step]
    obtain ⟨⟨cancelled, held⟩, signals, composed, now⟩ := s
    cases call with
    | act action => cases action <;> cases held <;> simp [Latch.act]
    | subscribe | clone | pass => simp

theorem cancelled_after_start (caller : Option Nat) (limit : Nat) (calls : List PairCall) :
    ((Session.start caller limit).after
      (calls.map (PairCall.sessionStep (α := α)))).latch.cancelled = true ↔ Cancelled calls := by
  have hopen : (Session.start caller limit).latch.cancelled = false := rfl
  have hheld : (Session.start caller limit).latch.held = true := rfl
  simp [cancelled_after, hopen, hheld]

theorem held_after_start (caller : Option Nat) (limit : Nat) (calls : List PairCall) :
    ((Session.start caller limit).after
      (calls.map (PairCall.sessionStep (α := α)))).latch.held = true ↔ .act .drop ∉ calls := by
  have hheld : (Session.start caller limit).latch.held = true := rfl
  simp [held_after, hheld]

end Calls

/-! ## The latch of a channel -/

section Channels

variable {σ ε : Type} {c : Channel σ ε} {s : σ} {e : ε} {w : Waiter ε}

/-- What a channel knows of its handle. -/
def Channel.latch (c : Channel σ ε) (s : σ) : Latch :=
  ⟨c.last s, !c.isClosed s⟩

namespace Channel.Lawful

theorem latch_act (h : c.Lawful) (s : σ) (action : HandleAction) :
    c.latch (c.act s action) = (c.latch s).act action := by
  cases action with
  | cancel =>
    cases hclosed : c.isClosed s with
    | true => simp [act, latch, Latch.act, hclosed]
    | false => simp [act, latch, Latch.act, hclosed, h.last_send, h.isClosed_send]
  | drop => simp [act, latch, Latch.act, h.last_close, h.isClosed_close]

theorem joins_act (h : c.Lawful) (hjoins : c.Joins s e) (action : HandleAction) :
    c.Joins (c.act s action) e := by
  cases action with
  | cancel =>
    simp only [act]
    split
    · exact hjoins
    · exact h.joins_send true hjoins
  | drop => exact h.joins_close hjoins

end Channel.Lawful

/-! ## A session with a latch and a channel with ends -/

/-- A session and a channel with its ends that say the same. -/
structure InStep (c : Channel σ ε) (p : Pair σ ε) (session : Session) : Prop where
  latch : session.latch = c.latch p.channel
  signals : session.signals = p.ends.length
  now : session.now = p.now
  joins : ∀ e ∈ p.ends, c.Joins p.channel e

namespace InStep

variable {p : Pair σ ε} {session : Session}

theorem start (h : c.Lawful) (caller : Option Nat) (limit : Nat) :
    InStep c (.start c) (.start caller limit) where
  latch := by
    show Latch.new = c.latch (c.opened false).1
    simp [Channel.latch, Latch.new, h.last_opened, h.isClosed_opened]
  signals := rfl
  now := rfl
  joins := List.forall_mem_singleton.mpr (h.joins_opened false)

/-- One more end that joins. -/
theorem add (hstep : InStep c p session) (hjoins : c.Joins p.channel e) :
    InStep c { p with ends := p.ends ++ [e] } { session with signals := session.signals + 1 } where
  latch := hstep.latch
  signals := by rw [hstep.signals, List.length_append, List.length_singleton]
  now := hstep.now
  joins := List.forall_mem_append.mpr ⟨hstep.joins, List.forall_mem_singleton.mpr hjoins⟩

theorem act (h : c.Lawful) (hstep : InStep c p session) (action : HandleAction) :
    InStep c { p with channel := c.act p.channel action }
      { session with latch := session.latch.act action } where
  latch := by rw [h.latch_act, hstep.latch]
  signals := hstep.signals
  now := hstep.now
  joins e he := h.joins_act (hstep.joins e he) action

/-- **A call** keeps both in step. -/
theorem step {α : Type} (h : c.Lawful) (hstep : InStep c p session) (call : PairCall) :
    InStep c (p.step c call) (session.step (call.sessionStep (α := α))).1 := by
  cases call with
  | act action => cases action <;> exact hstep.act h _
  | subscribe =>
    have hheld : session.latch.held = !c.isClosed p.channel := by rw [hstep.latch]; rfl
    simp only [Pair.step, PairCall.sessionStep, Session.step, hheld]
    cases c.isClosed p.channel with
    | true => exact hstep
    | false => exact hstep.add (h.joins_subscribe p.channel)
  | clone index =>
    simp only [Pair.step, PairCall.sessionStep, Session.step]
    by_cases hindex : index < p.ends.length
    · rw [if_pos (hstep.signals.symm ▸ hindex), List.getElem?_eq_getElem hindex]
      exact hstep.add (h.joins_copy (hstep.joins _ (List.getElem_mem hindex)))
    · rw [if_neg (hstep.signals.symm ▸ hindex), List.getElem?_eq_none (Nat.le_of_not_lt hindex)]
      exact hstep
  | pass length => exact { hstep with now := congrArg (· + length) hstep.now }

/-- **Calls** keep both in step. -/
theorem after {α : Type} (h : c.Lawful) (hstep : InStep c p session) (calls : List PairCall) :
    InStep c (p.after c calls) (session.after (calls.map (PairCall.sessionStep (α := α)))) := by
  induction calls generalizing p session with
  | nil => exact hstep
  | cons call rest ih =>
    rw [List.map_cons, Session.after_cons]
    exact ih (hstep.step h call)

/-- All signals say what the latch says. -/
theorem signalStates_eq (h : c.Lawful) (hstep : InStep c p session) :
    p.signalStates c = session.signalStates := by
  unfold Pair.signalStates Session.signalStates
  rw [hstep.signals, hstep.latch]
  refine (List.eq_replicate_of_mem fun told htold => ?_).trans (by rw [List.length_map])
  obtain ⟨e, he, rfl⟩ := List.mem_map.mp htold
  exact h.read_eq (hstep.joins e he)

theorem handleState_eq (hstep : InStep c p session) :
    p.handleState c = session.handleState := by
  unfold Pair.handleState Session.handleState
  rw [hstep.latch]
  cases hclosed : c.isClosed p.channel <;> simp [Channel.latch, hclosed]

end InStep

/-! ## A waiting signal -/

/-- What holds of a waiting signal at all times. A cancellation that it waits for is not one that it
has seen. -/
inductive Waiter.Sound (c : Channel σ ε) (s : σ) : Waiter ε → Prop where
  | looking {e : ε} : c.Joins s e → Sound c s (.looking e)
  | watching {e : ε} : c.Joins s e → (c.last s = true → c.change s e = .unseen) →
      Sound c s (.watching e)
  | resolved : c.last s = true → Sound c s .resolved
  | stranded : c.isClosed s = true → c.last s = false → Sound c s .stranded

namespace Waiter

/-- **A turn** keeps a signal sound. -/
theorem Sound.turn (h : c.Lawful) (hw : w.Sound c s) : (w.turn c s).Sound c s := by
  cases hw with
  | @looking e hjoins =>
    rw [Waiter.turn, h.read_eq hjoins]
    cases hlast : c.last s with
    | true => exact .resolved hlast
    | false =>
      refine .watching (h.joins_see hjoins) fun htrue => ?_
      cases hlast.symm.trans htrue
  | @watching e hjoins hunseen =>
    rw [Waiter.turn]
    cases hchange : c.change s e with
    | unseen => exact .looking (h.joins_see hjoins)
    | pending => exact .watching hjoins hunseen
    | closed =>
      -- with a cancellation in place the change would have been reported as unseen
      have hlast : c.last s = false := by
        rw [Bool.eq_false_iff]
        intro htrue
        cases hchange.symm.trans (hunseen htrue)
      exact .stranded (h.isClosed_of_change hjoins hchange) hlast
  | resolved hlast => exact .resolved hlast
  | stranded hclosed hlast => exact .stranded hclosed hlast

theorem Sound.turns (h : c.Lawful) (hw : w.Sound c s) (turns : Nat) :
    ((Waiter.turn c s)^[turns] w).Sound c s := by
  induction turns generalizing w with
  | zero => exact hw
  | succ turns ih => exact ih (hw.turn h)

/-- **An action on the handle** keeps a signal sound. -/
theorem Sound.act (h : c.Lawful) (hw : w.Sound c s) (action : HandleAction) :
    w.Sound c (c.act s action) := by
  cases hw with
  | looking hjoins => exact .looking (h.joins_act hjoins action)
  | @watching e hjoins hunseen =>
    refine .watching (h.joins_act hjoins action) ?_
    cases action with
    | cancel =>
      intro htrue
      simp only [Channel.act] at htrue ⊢
      split at htrue
      · next hclosed => exact (if_pos hclosed).symm ▸ hunseen htrue
      · next hopen => exact (if_neg hopen).symm ▸ h.change_send true hjoins
    | drop =>
      intro htrue
      exact h.change_close hjoins (hunseen ((h.last_close s).symm.trans htrue))
  | resolved hlast =>
    exact .resolved ((congrArg Latch.cancelled (h.latch_act s action)).trans
      (Latch.cancelled_act (l := c.latch s) hlast action))
  | stranded hclosed hlast =>
    cases action with
    | cancel =>
      rw [Channel.act, if_pos hclosed]
      exact .stranded hclosed hlast
    | drop => exact .stranded (h.isClosed_close s) ((h.last_close s).trans hlast)

/-- A signal is idle only without a cancellation. -/
theorem Sound.last_of_idle (hw : w.Sound c s) (hidle : w.Idle c s) : c.last s = false := by
  cases hidle with
  | @watching e hpending =>
    cases hw with
    | watching _ hunseen =>
      rw [Bool.eq_false_iff]
      intro htrue
      cases hpending.symm.trans (hunseen htrue)
  | stranded =>
    cases hw with
    | stranded _ hlast => exact hlast

/-- A signal that looks is done or idle after two turns. -/
theorem settles_of_looking (h : c.Lawful) (hjoins : c.Joins s e) :
    ∃ turns ≤ 2, (Waiter.turn c s)^[turns] (.looking e) = .resolved ∨
      ((Waiter.turn c s)^[turns] (.looking e)).Idle c s := by
  cases hread : c.read s e with
  | true => exact ⟨1, by decide, .inl (if_pos hread)⟩
  | false =>
    have hlook : Waiter.turn c s (.looking e) = .watching (c.see s e) :=
      if_neg (Bool.eq_false_iff.mp hread)
    have hsee := h.change_see hjoins
    cases hclosed : c.isClosed s with
    | true =>
      refine ⟨2, by decide, .inr ?_⟩
      rw [Function.iterate_succ_apply, hlook, Function.iterate_one, Waiter.turn, hsee, hclosed]
      exact .stranded
    | false =>
      refine ⟨1, by decide, .inr ?_⟩
      rw [Function.iterate_one, hlook]
      rw [hclosed] at hsee
      exact .watching hsee

/-- **A signal settles:** unless something happens, it is done or idle after three turns. -/
theorem Sound.settles (h : c.Lawful) (hw : w.Sound c s) :
    ∃ turns ≤ 3, (Waiter.turn c s)^[turns] w = .resolved ∨
      ((Waiter.turn c s)^[turns] w).Idle c s := by
  cases hw with
  | looking hjoins =>
    obtain ⟨turns, hturns, hsettled⟩ := settles_of_looking h hjoins
    exact ⟨turns, by omega, hsettled⟩
  | @watching e hjoins _ =>
    cases hchange : c.change s e with
    | pending => exact ⟨0, by decide, .inr (.watching hchange)⟩
    | unseen =>
      obtain ⟨turns, hturns, hsettled⟩ := settles_of_looking h (h.joins_see hjoins)
      refine ⟨turns + 1, by omega, ?_⟩
      rwa [Function.iterate_succ_apply, Waiter.turn, hchange]
    | closed =>
      refine ⟨1, by decide, .inr ?_⟩
      rw [Function.iterate_one, Waiter.turn, hchange]
      exact .stranded
  | resolved => exact ⟨0, by decide, .inl rfl⟩
  | stranded => exact ⟨0, by decide, .inr .stranded⟩

end Waiter

/-! ## How the waiting ends -/

/-- How the waiting for a latch to be closed ends, and when, if it is given up at `bound`. -/
inductive Latch.WaitEnds (l : Latch) (bound now : Nat) (outlook : Outlook) : Bool → Nat → Prop where
  | seen {t : Nat} : l.cancelledAt now outlook = some t → t ≤ bound →
      WaitEnds l bound now outlook true t
  | missed : (∀ t ∈ l.cancelledAt now outlook, bound < t) → WaitEnds l bound now outlook false bound

namespace Latch.WaitEnds

variable {l : Latch} {bound now instant other : Nat} {outlook : Outlook} {resolved told : Bool}

theorem of_none (h : l.cancelledAt now outlook = none) :
    l.WaitEnds bound now outlook false bound :=
  .missed fun t ht => by cases h.symm.trans ht

/-- What is seen from an instant on is all that counts. -/
theorem congr (h : l.WaitEnds bound now outlook resolved instant) {l' : Latch} {now' : Nat}
    {outlook' : Outlook} (hsame : l'.cancelledAt now' outlook' = l.cancelledAt now outlook) :
    l'.WaitEnds bound now' outlook' resolved instant := by
  cases h with
  | seen hat hle => exact .seen (hsame.trans hat) hle
  | missed hlater => exact .missed (hsame ▸ hlater)

/-- A waiting ends in one way only. -/
theorem unique (h : l.WaitEnds bound now outlook resolved instant)
    (hother : l.WaitEnds bound now outlook told other) : resolved = told ∧ instant = other := by
  cases h with
  | seen hat hle =>
    cases hother with
    | seen hat' =>
      cases hat.symm.trans hat'
      exact ⟨rfl, rfl⟩
    | missed hlater => exact absurd hle (Nat.not_le_of_lt (hlater _ hat))
  | missed hlater =>
    cases hother with
    | seen hat hle => exact absurd hle (Nat.not_le_of_lt (hlater _ hat))
    | missed => exact ⟨rfl, rfl⟩

end Latch.WaitEnds

/-- The await of a session is the waiting for its latch. -/
theorem Latch.await_eq_iff {l : Latch} {now limit instant : Nat} {outlook : Outlook}
    {resolved : Bool} : l.await now limit outlook = (resolved, instant) ↔
      l.WaitEnds (now + limit) now outlook resolved instant := by
  have hends : l.WaitEnds (now + limit) now outlook (l.await now limit outlook).1
      (l.await now limit outlook).2 := by
    unfold Latch.await
    cases hat : l.cancelledAt now outlook with
    | none => exact .of_none hat
    | some t =>
      by_cases hle : t ≤ now + limit
      · simp only [if_pos hle]
        exact .seen hat hle
      · simp only [if_neg hle]
        refine .missed fun t' ht' => ?_
        cases hat.symm.trans ht'
        exact Nat.lt_of_not_le hle
  constructor
  · intro h
    rwa [h] at hends
  · intro h
    obtain ⟨hresolved, hinstant⟩ := hends.unique h
    exact Prod.ext hresolved hinstant

/-- While a latch is open, the next action counts when it comes. -/
theorem Latch.cancelledAt_cons {l : Latch} (h : l.cancelled = false) (now at_ : Nat)
    (action : HandleAction) (rest : Outlook) :
    l.cancelledAt now ((at_, action) :: rest) = (l.act action).cancelledAt (max now at_) rest := by
  rw [Latch.cancelledAt, if_neg (by rw [h]; decide)]

/-- An open latch is not closed before the next action. -/
theorem Latch.lt_of_cancelledAt {l : Latch} (h : l.cancelled = false) {now bound : Nat}
    {outlook : Outlook} (hnext : ∀ next ∈ outlook.head?, bound < next.1) :
    ∀ t ∈ l.cancelledAt now outlook, bound < t := by
  intro t ht
  cases outlook with
  | nil =>
    rw [Latch.cancelledAt, if_neg (by rw [h]; decide)] at ht
    cases ht
  | cons next rest =>
    obtain ⟨at_, action⟩ := next
    rw [Latch.cancelledAt_cons h] at ht
    have hlater : max now at_ ≤ t := Latch.le_of_cancelledAt ht
    have hbound : bound < at_ := hnext _ rfl
    omega

namespace Channel.Awaits

variable {bound now instant : Nat} {outlook : Outlook} {resolved : Bool}

/-- **Every waiting ends as the latch has it**, whatever the order of turns and actions. -/
theorem waitEnds (h : c.Lawful) (hawaits : c.Awaits bound s w now outlook resolved instant)
    (hw : w.Sound c s) (hnow : now ≤ bound) :
    (c.latch s).WaitEnds bound now outlook resolved instant := by
  induction hawaits with
  | resolved =>
    cases hw with
    | resolved hlast => exact .seen (Latch.cancelledAt_of_cancelled hlast _ _) hnow
  | turns _ ih => exact ih (hw.turn h) hnow
  | @happens s w now at_ instant action rest resolved hdue _ ih =>
    refine (ih (hw.act h action) hnow).congr ?_
    rw [h.latch_act]
    cases hlast : (c.latch s).cancelled with
    | true =>
      rw [Latch.cancelledAt_of_cancelled hlast,
        Latch.cancelledAt_of_cancelled (Latch.cancelled_act hlast action)]
    | false => rw [Latch.cancelledAt_cons hlast, Nat.max_eq_left hdue]
  | @passes s w now at_ instant action rest resolved hidle hlater hbound _ ih =>
    refine (ih hw hbound).congr ?_
    have hlast : (c.latch s).cancelled = false := hw.last_of_idle hidle
    rw [Latch.cancelledAt_cons hlast, Latch.cancelledAt_cons hlast, Nat.max_self,
      Nat.max_eq_right (Nat.le_of_lt hlater)]
  | expires hidle hnext => exact .missed (Latch.lt_of_cancelledAt (hw.last_of_idle hidle) hnext)

theorem of_turns (turns : Nat)
    (h : c.Awaits bound s ((Waiter.turn c s)^[turns] w) now outlook resolved instant) :
    c.Awaits bound s w now outlook resolved instant := by
  induction turns generalizing w with
  | zero => exact h
  | succ turns ih => exact .turns (ih h)

end Channel.Awaits

/-- **A waiting does end.** -/
theorem Waiter.Sound.exists_awaits (h : c.Lawful) (hw : w.Sound c s) {bound now : Nat}
    (hnow : now ≤ bound) (outlook : Outlook) :
    ∃ resolved instant, c.Awaits bound s w now outlook resolved instant := by
  induction outlook generalizing s w now with
  | nil =>
    obtain ⟨turns, -, hdone | hidle⟩ := hw.settles h
    · exact ⟨true, now, .of_turns turns (hdone ▸ .resolved)⟩
    · exact ⟨false, bound, .of_turns turns (.expires hidle nofun)⟩
  | cons next rest ih =>
    obtain ⟨at_, action⟩ := next
    rcases Nat.lt_or_ge now at_ with hlater | hdue
    · obtain ⟨turns, -, hdone | hidle⟩ := hw.settles h
      · exact ⟨true, now, .of_turns turns (hdone ▸ .resolved)⟩
      · rcases Nat.lt_or_ge bound at_ with hout | hbound
        · refine ⟨false, bound, .of_turns turns (.expires hidle ?_)⟩
          rintro _ ⟨⟩
          exact hout
        · obtain ⟨resolved, instant, hrest⟩ := ih ((hw.turns h turns).act h action) hbound
          exact ⟨resolved, instant, .of_turns turns
            (.passes hidle hlater hbound (.happens (Nat.le_refl _) hrest))⟩
    · obtain ⟨resolved, instant, hrest⟩ := ih (hw.act h action) hnow
      exact ⟨resolved, instant, .happens hdue hrest⟩

/-- A signal's waiting ends as the latch has it and in no other way. -/
theorem Channel.awaits_iff (h : c.Lawful) (hw : w.Sound c s) {bound now instant : Nat}
    (hnow : now ≤ bound) {outlook : Outlook} {resolved : Bool} :
    c.Awaits bound s w now outlook resolved instant ↔
      (c.latch s).WaitEnds bound now outlook resolved instant := by
  refine ⟨fun hawaits => hawaits.waitEnds h hw hnow, fun hends => ?_⟩
  obtain ⟨told, other, hawaits⟩ := hw.exists_awaits h hnow outlook
  obtain ⟨rfl, rfl⟩ := hends.unique (hawaits.waitEnds h hw hnow)
  exact hawaits

end Channels

/-! ## All observers -/

/-- How a waiting that begins at `now` after these calls ends, and when, by what was and what will
be done with the handle. -/
inductive CancelSeen (calls : List PairCall) (now limit : Nat) (outlook : Outlook) :
    Bool → Nat → Prop where
  /-- At once, if there was a cancel before. -/
  | before : Cancelled calls → CancelSeen calls now limit outlook true now
  /-- When the handle cancels, if it is still there and does so within the limit, whatever comes
  after that. -/
  | during {t : Nat} {later : Outlook} : ¬ Cancelled calls → .act .drop ∉ calls →
      outlook = (t, .cancel) :: later → t ≤ now + limit →
      CancelSeen calls now limit outlook true (max now t)
  /-- Not within the limit, if there is no such cancel. -/
  | never : ¬ Cancelled calls →
      (.act .drop ∈ calls ∨ ∀ t later, outlook = (t, .cancel) :: later → now + limit < t) →
      CancelSeen calls now limit outlook false (now + limit)

section Seen

variable {calls : List PairCall} {now limit instant : Nat} {outlook : Outlook} {resolved : Bool}
  {l : Latch}

theorem CancelSeen.waitEnds (h : CancelSeen calls now limit outlook resolved instant)
    (hcancelled : l.cancelled = true ↔ Cancelled calls)
    (hheld : l.held = true ↔ .act .drop ∉ calls) :
    l.WaitEnds (now + limit) now outlook resolved instant := by
  have hopen (hnot : ¬ Cancelled calls) : l.cancelled = false :=
    Bool.eq_false_iff.mpr (hcancelled.not.mpr hnot)
  cases h with
  | before hbefore =>
    exact .seen (Latch.cancelledAt_of_cancelled (hcancelled.mpr hbefore) _ _) (Nat.le_add_right _ _)
  | @during t later hnot hkept houtlook hle =>
    subst houtlook
    have hcloses : (l.act .cancel).cancelled = true := by
      rw [Latch.act, if_pos (hheld.mpr hkept)]
    refine .seen ?_ (Nat.max_le.mpr ⟨Nat.le_add_right _ _, hle⟩)
    rw [Latch.cancelledAt_cons (hopen hnot), Latch.cancelledAt_of_cancelled hcloses]
  | never hnot hnone =>
    rcases hnone with hdropped | hlater
    · have hgone : l.held = false := Bool.eq_false_iff.mpr (hheld.not_left.mpr hdropped)
      exact .of_none (Latch.cancelledAt_of_not_held (hopen hnot) hgone _ _)
    · cases outlook with
      | nil => exact .missed (Latch.lt_of_cancelledAt (hopen hnot) (by simp))
      | cons next later =>
        obtain ⟨t, action⟩ := next
        cases action with
        | cancel =>
          refine .missed (Latch.lt_of_cancelledAt (hopen hnot) ?_)
          rintro _ ⟨⟩
          exact hlater t later rfl
        | drop =>
          -- after the drop no cancel is seen
          have hgone : (l.act .drop).held = false := rfl
          have hstill : (l.act .drop).cancelled = false := hopen hnot
          refine .of_none ?_
          rw [Latch.cancelledAt_cons (hopen hnot), Latch.cancelledAt_of_not_held hstill hgone]

theorem exists_cancelSeen (calls : List PairCall) (now limit : Nat) (outlook : Outlook) :
    ∃ resolved instant, CancelSeen calls now limit outlook resolved instant := by
  by_cases hcancelled : Cancelled calls
  · exact ⟨true, now, .before hcancelled⟩
  by_cases hdropped : .act .drop ∈ calls
  · exact ⟨false, now + limit, .never hcancelled (.inl hdropped)⟩
  by_cases hcancels : ∃ t later, outlook = (t, .cancel) :: later ∧ t ≤ now + limit
  · obtain ⟨t, later, houtlook, hle⟩ := hcancels
    exact ⟨true, max now t, .during hcancelled hdropped houtlook hle⟩
  · refine ⟨false, now + limit, .never hcancelled (.inr fun t later houtlook => ?_)⟩
    exact Nat.lt_of_not_le fun hle => hcancels ⟨t, later, houtlook, hle⟩

/-- The waiting for a latch ends as the calls behind it say and in no other way. -/
theorem waitEnds_iff_cancelSeen (hcancelled : l.cancelled = true ↔ Cancelled calls)
    (hheld : l.held = true ↔ .act .drop ∉ calls) :
    l.WaitEnds (now + limit) now outlook resolved instant ↔
      CancelSeen calls now limit outlook resolved instant := by
  refine ⟨fun hends => ?_, fun hseen => hseen.waitEnds hcancelled hheld⟩
  obtain ⟨told, other, hseen⟩ := exists_cancelSeen calls now limit outlook
  obtain ⟨rfl, rfl⟩ := hends.unique (hseen.waitEnds hcancelled hheld)
  exact hseen

end Seen

section Agreement

variable {σ ε : Type} {c : Channel σ ε}

/-- A signal says whether there was a cancel, whenever and however it was made. -/
theorem told_iff (h : c.Lawful) (calls : List PairCall) :
    ∀ told ∈ ((Pair.start c).after c calls).signalStates c, told = true ↔ Cancelled calls := by
  have hstep := (InStep.start h none 0).after (α := Unit) h calls
  intro told htold
  rw [hstep.signalStates_eq h] at htold
  rw [List.eq_of_mem_replicate htold]
  exact cancelled_after_start none 0 calls

theorem handleState_eq_none_iff (h : c.Lawful) (calls : List PairCall) :
    ((Pair.start c).after c calls).handleState c = none ↔ .act .drop ∈ calls := by
  have hstep := (InStep.start h none 0).after (α := Unit) h calls
  have hheld := held_after_start (α := Unit) none 0 calls
  rw [hstep.handleState_eq, Session.handleState]
  split
  · next hkept => simp [hheld.mp hkept]
  · next hgone => simp [hheld.not_left.mp hgone]

theorem told_by_handle_iff (h : c.Lawful) (calls : List PairCall) :
    ∀ told ∈ ((Pair.start c).after c calls).handleState c, told = true ↔ Cancelled calls := by
  have hstep := (InStep.start h none 0).after (α := Unit) h calls
  intro told htold
  rw [hstep.handleState_eq, Session.handleState] at htold
  split at htold
  · cases htold
    exact cancelled_after_start none 0 calls
  · cases htold

end Agreement

/-- **All observers agree.** After any calls the signals and the handle of a channel say what those
of a session say: each signal, whenever and however it was made, that there was a cancel while the
handle existed, and so does the handle while it exists; after a cancel no further calls take that
back. A waiting, on whichever signal, ends at once if there was a cancel, else with the cancel if
that comes within the limit, whatever comes after it, and else not within the limit; the handle's
going ends none. -/
theorem observers_agree {σ ε α : Type} {c : Channel σ ε} (h : c.Lawful) (caller : Option Nat)
    (limit : Nat) (calls : List PairCall) :
    let pair := (Pair.start c).after c calls
    let session := (Session.start caller limit).after
      (calls.map (PairCall.sessionStep (α := α)))
    session.signalStates = pair.signalStates c ∧ session.handleState = pair.handleState c ∧
      (∀ told ∈ pair.signalStates c, told = true ↔ Cancelled calls) ∧
      (pair.handleState c = none ↔ .act .drop ∈ calls) ∧
      (∀ told ∈ pair.handleState c, told = true ↔ Cancelled calls) ∧
      (Cancelled calls → ∀ more, ∀ told ∈ (pair.after c more).signalStates c, told = true) ∧
      ∀ limit outlook resolved instant,
        (session.latch.await session.now limit outlook = (resolved, instant) ↔
          CancelSeen calls session.now limit outlook resolved instant) ∧
        ∀ signal ∈ pair.ends, pair.Awaits c signal limit outlook resolved instant ↔
          CancelSeen calls pair.now limit outlook resolved instant := by
  intro pair session
  have hstep : InStep c pair session := (InStep.start h caller limit).after h calls
  have hcancelled : session.latch.cancelled = true ↔ Cancelled calls :=
    cancelled_after_start caller limit calls
  have hheld : session.latch.held = true ↔ .act .drop ∉ calls := held_after_start caller limit calls
  refine ⟨(hstep.signalStates_eq h).symm, hstep.handleState_eq.symm, told_iff h calls,
    handleState_eq_none_iff h calls, told_by_handle_iff h calls, fun hbefore more told htold => ?_,
    fun limit outlook resolved instant => ⟨?_, fun signal hsignal => ?_⟩⟩
  · have hmore : pair.after c more = (Pair.start c).after c (calls ++ more) :=
      List.foldl_append.symm
    rw [hmore] at htold
    exact (told_iff h _ told htold).mpr (hbefore.append more)
  · rw [Latch.await_eq_iff]
    exact waitEnds_iff_cancelSeen hcancelled hheld
  · have hjoins := h.joins_copy (hstep.joins signal hsignal)
    rw [Pair.Awaits, Channel.awaits_iff h (.looking hjoins) (Nat.le_add_right _ _), ← hstep.latch]
    exact waitEnds_iff_cancelSeen hcancelled hheld

/-- A cancel and a drop at one instant, seen by each of three signals at that instant. With the drop
alone none of them sees anything. -/
theorem observers_agree_of_dropped :
    let c := Counting.channel
    let pair := (Pair.start c).after c [.subscribe, .clone 1, .pass 5]
    c.Lawful ∧ pair.ends.length = 3 ∧ ∀ signal ∈ pair.ends,
      pair.Awaits c signal 10 [(7, .cancel), (7, .drop)] true 7 ∧
        pair.Awaits c signal 10 [(7, .drop)] false 15 := by
  intro c pair
  obtain ⟨-, -, -, -, -, -, hawaits⟩ :=
    observers_agree (α := Unit) Counting.channel_lawful none 0 [.subscribe, .clone 1, .pass 5]
  have hopen : ¬ Cancelled [.subscribe, .clone 1, .pass 5] := by
    simp [cancelled_cons, not_cancelled_nil]
  refine ⟨Counting.channel_lawful, rfl, fun signal hsignal => ⟨?_, ?_⟩⟩
  · exact ((hawaits 10 _ true 7).2 signal hsignal).mpr
      (.during hopen (by decide) rfl (by decide))
  · refine ((hawaits 10 _ false 15).2 signal hsignal).mpr (.never hopen (.inr ?_))
    intro t later hnext
    cases hnext

end Proforma
