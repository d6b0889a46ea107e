import Proforma.Service.Session

/-!
# The channel behind a handle

A handle and its signals are the two sides of a channel that keeps one truth value, the last one
sent. The handle sends; every signal has an end of its own, which remembers what it has seen. How
the channel does this is left open: `Channel` is what can be done with it and `Channel.Lawful` is
what is relied on.

A signal that waits for the cancellation looks at the value and then waits for a change, in turns
(`Waiter`). `Awaits` is this over time, for every order in which the turns and the actions on the
handle can come. Each of them is one step on the channel: to look at a value is to have seen it, and
nothing comes between.
-/

namespace Proforma

/-! ## Channels -/

/-- What an end finds that waits for a change. -/
inductive Change where
  /-- The value has not been seen. -/
  | unseen
  /-- The value has been seen, and there will be no other: the sender is gone. -/
  | closed
  /-- The value has been seen, and there may be another. -/
  | pending
  deriving DecidableEq

/-- A channel for a truth value. `σ` is what its two sides share and `ε` is what an end keeps. How
many ends there are makes no difference to the sender. -/
structure Channel (σ ε : Type) where
  /-- A new channel with its first value, and an end of it. -/
  opened : Bool → σ × ε
  /-- Puts another value in the place of the last. -/
  send : σ → Bool → σ
  /-- The sender goes. -/
  close : σ → σ
  /-- The value that the sender sees. -/
  last : σ → Bool
  isClosed : σ → Bool
  /-- A new end, from the sender. -/
  subscribe : σ → ε
  /-- A new end, from another. -/
  copy : ε → ε
  /-- The value that an end sees. -/
  read : σ → ε → Bool
  /-- The end, once the value has been seen. -/
  see : σ → ε → ε
  change : σ → ε → Change
  /-- Whether an end belongs to the channel. -/
  Joins : σ → ε → Prop

/-- What is relied on: all ends see the last value, a value is new to every end until it has been
seen, and it is reported before the sender is reported to be gone. -/
structure Channel.Lawful {σ ε : Type} (c : Channel σ ε) : Prop where
  last_opened (v : Bool) : c.last (c.opened v).1 = v
  last_send (s : σ) (v : Bool) : c.last (c.send s v) = v
  last_close (s : σ) : c.last (c.close s) = c.last s
  isClosed_opened (v : Bool) : c.isClosed (c.opened v).1 = false
  isClosed_send (s : σ) (v : Bool) : c.isClosed (c.send s v) = c.isClosed s
  isClosed_close (s : σ) : c.isClosed (c.close s) = true
  joins_opened (v : Bool) : c.Joins (c.opened v).1 (c.opened v).2
  joins_send {s : σ} {e : ε} (v : Bool) : c.Joins s e → c.Joins (c.send s v) e
  joins_close {s : σ} {e : ε} : c.Joins s e → c.Joins (c.close s) e
  joins_subscribe (s : σ) : c.Joins s (c.subscribe s)
  joins_copy {s : σ} {e : ε} : c.Joins s e → c.Joins s (c.copy e)
  joins_see {s : σ} {e : ε} : c.Joins s e → c.Joins s (c.see s e)
  read_eq {s : σ} {e : ε} : c.Joins s e → c.read s e = c.last s
  change_send {s : σ} {e : ε} (v : Bool) : c.Joins s e → c.change (c.send s v) e = .unseen
  change_close {s : σ} {e : ε} : c.Joins s e → c.change s e = .unseen →
    c.change (c.close s) e = .unseen
  change_see {s : σ} {e : ε} : c.Joins s e →
    c.change s (c.see s e) = if c.isClosed s then .closed else .pending
  isClosed_of_change {s : σ} {e : ε} : c.Joins s e → c.change s e = .closed → c.isClosed s = true

/-- The state of a channel that counts its values. -/
structure Counting where
  value : Bool
  /-- How many values have been sent after the first. -/
  sent : Nat
  closed : Bool

namespace Counting

/-- A channel whose ends remember how many values there were when they looked last. -/
def channel : Channel Counting Nat where
  opened v := (⟨v, 0, false⟩, 0)
  send s v := { s with value := v, sent := s.sent + 1 }
  close s := { s with closed := true }
  last s := s.value
  isClosed s := s.closed
  subscribe s := s.sent
  copy seen := seen
  read s _ := s.value
  see s _ := s.sent
  change s seen := if seen < s.sent then .unseen else if s.closed then .closed else .pending
  Joins s seen := seen ≤ s.sent

theorem channel_lawful : channel.Lawful where
  last_opened _ := rfl
  last_send _ _ := rfl
  last_close _ := rfl
  isClosed_opened _ := rfl
  isClosed_send _ _ := rfl
  isClosed_close _ := rfl
  joins_opened _ := Nat.le_refl _
  joins_send _ h := Nat.le_succ_of_le h
  joins_close h := h
  joins_subscribe _ := Nat.le_refl _
  joins_copy h := h
  joins_see _ := Nat.le_refl _
  read_eq _ := rfl
  change_send _ h := if_pos (Nat.lt_succ_of_le h)
  change_close {s seen} _ h := by
    -- what an end has not seen does not depend on the sender
    by_cases hseen : seen < s.sent
    · exact if_pos hseen
    · simp only [channel, if_neg hseen] at h
      split at h <;> cases h
  change_see _ := if_neg (Nat.lt_irrefl _)
  isClosed_of_change {s seen} _ h := by
    simp only [channel] at h ⊢
    split at h
    · cases h
    · split at h
      · assumption
      · cases h

end Counting

/-! ## Waiting for the cancellation -/

/-- Where a signal stands that waits for the cancellation, with the end that it uses. -/
inductive Waiter (ε : Type) where
  /-- About to look at the value. -/
  | looking (e : ε)
  /-- Waiting for a change. -/
  | watching (e : ε)
  /-- The cancellation has been seen. -/
  | resolved
  /-- Waiting for nothing any more: the handle has gone without a cancellation. -/
  | stranded

section Waiting

variable {σ ε : Type} (c : Channel σ ε)

/-- An action on the handle. A handle that is gone does nothing. -/
def Channel.act (s : σ) : HandleAction → σ
  | .cancel => if c.isClosed s then s else c.send s true
  | .drop => c.close s

/-- One turn of a waiting signal. -/
def Waiter.turn (s : σ) : Waiter ε → Waiter ε
  | .looking e => if c.read s e then .resolved else .watching (c.see s e)
  | .watching e =>
    match c.change s e with
    | .unseen => .looking (c.see s e)
    | .closed => .stranded
    | .pending => .watching e
  | .resolved => .resolved
  | .stranded => .stranded

/-- A signal that goes on waiting unless something happens. -/
inductive Waiter.Idle (s : σ) : Waiter ε → Prop where
  | watching {e : ε} : c.change s e = .pending → Idle s (.watching e)
  | stranded : Idle s .stranded

/-- How a signal's waiting can end, and when, if it is given up at `bound`. Turns and actions that
are due come in any order; time passes only while the signal is idle. -/
inductive Channel.Awaits (bound : Nat) : σ → Waiter ε → Nat → Outlook → Bool → Nat → Prop where
  | resolved {s : σ} {now : Nat} {outlook : Outlook} : Awaits bound s .resolved now outlook true now
  | turns {s : σ} {w : Waiter ε} {now instant : Nat} {outlook : Outlook} {resolved : Bool} :
      Awaits bound s (w.turn c s) now outlook resolved instant →
      Awaits bound s w now outlook resolved instant
  | happens {s : σ} {w : Waiter ε} {now at_ instant : Nat} {action : HandleAction}
      {rest : Outlook} {resolved : Bool} : at_ ≤ now →
      Awaits bound (c.act s action) w now rest resolved instant →
      Awaits bound s w now ((at_, action) :: rest) resolved instant
  | passes {s : σ} {w : Waiter ε} {now at_ instant : Nat} {action : HandleAction}
      {rest : Outlook} {resolved : Bool} : w.Idle c s → now < at_ → at_ ≤ bound →
      Awaits bound s w at_ ((at_, action) :: rest) resolved instant →
      Awaits bound s w now ((at_, action) :: rest) resolved instant
  | expires {s : σ} {w : Waiter ε} {now : Nat} {outlook : Outlook} : w.Idle c s →
      (∀ next ∈ outlook.head?, bound < next.1) → Awaits bound s w now outlook false bound

end Waiting

/-! ## A handle and its signals -/

/-- What can be done with a handle and its signals, and time that passes between. -/
inductive PairCall where
  | act (action : HandleAction)
  /-- Another signal from the handle, if it exists. -/
  | subscribe
  /-- Another signal from the signal of that index. -/
  | clone (index : Nat)
  | pass (length : Nat)
  deriving DecidableEq

/-- The call as a step of a session. -/
def PairCall.sessionStep {α : Type} : PairCall → SessionStep α
  | .act .cancel => .cancel
  | .act .drop => .dropHandle
  | .subscribe => .subscribe
  | .clone index => .clone index
  | .pass length => .sleep length

/-- A channel with all its ends. -/
structure Pair (σ ε : Type) where
  channel : σ
  /-- The end of each signal. -/
  ends : List ε
  now : Nat

namespace Pair

variable {σ ε : Type} (c : Channel σ ε)

/-- A new handle and its signal. -/
def start : Pair σ ε :=
  ⟨(c.opened false).1, [(c.opened false).2], 0⟩

/-- One call. -/
def step (p : Pair σ ε) : PairCall → Pair σ ε
  | .act action => { p with channel := c.act p.channel action }
  | .subscribe =>
    if c.isClosed p.channel then p else { p with ends := p.ends ++ [c.subscribe p.channel] }
  | .clone index =>
    match p.ends[index]? with
    | some e => { p with ends := p.ends ++ [c.copy e] }
    | none => p
  | .pass length => { p with now := p.now + length }

/-- Several calls in order. -/
def after (p : Pair σ ε) (calls : List PairCall) : Pair σ ε :=
  calls.foldl (step c) p

/-- What each signal says. -/
def signalStates (p : Pair σ ε) : List Bool :=
  p.ends.map (c.read p.channel)

/-- What the handle says, while it exists. -/
def handleState (p : Pair σ ε) : Option Bool :=
  if c.isClosed p.channel then none else some (c.last p.channel)

/-- How the waiting of a signal can end, and when, if it begins now and is given up after `limit`.
The signal uses an end of its own for it. -/
def Awaits (p : Pair σ ε) (signal : ε) (limit : Nat) (outlook : Outlook) (resolved : Bool)
    (instant : Nat) : Prop :=
  c.Awaits (p.now + limit) p.channel (.looking (c.copy signal)) p.now outlook resolved instant

end Pair

end Proforma
