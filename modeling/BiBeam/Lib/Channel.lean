import Mathlib.Data.List.Infix

universe u

/-- A bounded queue between its senders and one receiver. -/
structure Channel (α : Type u) where
  bound : Nat
  queue : List α
  /-- No sender is left. -/
  ended : Bool
  /-- The receiver is gone. -/
  closed : Bool
  fits : queue.length ≤ bound

namespace Channel

inductive SendResult
  | sent
  | full
  | closed
deriving DecidableEq

variable {α : Type u}

def new (α : Type u) (bound : Nat) : Channel α :=
  ⟨bound, [], false, false, Nat.zero_le bound⟩

/-- Put a message behind the others, unless the receiver is gone or there is no room. -/
def trySend (channel : Channel α) (message : α) : SendResult × Channel α :=
  if channel.closed then
    (.closed, channel)
  else if room : channel.queue.length < channel.bound then
    (.sent, { channel with queue := channel.queue ++ [message], fits := by rw [List.length_append]; exact room })
  else
    (.full, channel)

/-- Take the oldest message. -/
def recv (channel : Channel α) : Option α × Channel α :=
  (channel.queue.head?,
    { channel with queue := channel.queue.tail, fits := le_trans (by simp) channel.fits })

def dropSenders (channel : Channel α) : Channel α :=
  { channel with ended := true }

/-- What is still queued goes with the receiver. -/
def dropReceiver (channel : Channel α) : Channel α :=
  { channel with queue := [], closed := true, fits := Nat.zero_le _ }

/-- The messages sent so far are those taken, those queued and, once the
receiver is gone, some that are lost, in this order. -/
structure Ledger (channel : Channel α) (sent taken : List α) : Prop where
  within : taken ++ channel.queue <+: sent
  whole : channel.closed = false → taken ++ channel.queue = sent

variable {channel : Channel α} {sent taken : List α} {message : α}

theorem Ledger.new (bound : Nat) : (Channel.new α bound).Ledger [] [] :=
  ⟨List.prefix_rfl, fun _ => rfl⟩

theorem trySend_sent_iff :
    (channel.trySend message).1 = .sent ↔ channel.closed = false ∧ channel.queue.length < channel.bound := by
  rw [trySend]
  split
  · rename_i gone
    simp [gone]
  · rename_i open_
    split <;> simp_all

/-- A message finds no room exactly when as many wait as the channel holds. -/
theorem trySend_full_iff :
    (channel.trySend message).1 = .full ↔ channel.closed = false ∧ channel.queue.length = channel.bound := by
  have fits := channel.fits
  rw [trySend]
  split
  · rename_i gone
    simp [gone]
  · rename_i open_
    split
    · rename_i room
      simp [room.ne]
    · rename_i room
      have atBound : channel.queue.length = channel.bound := by omega
      simp [open_, atBound]

theorem trySend_closed_iff : (channel.trySend message).1 = .closed ↔ channel.closed = true := by
  rw [trySend]
  split
  · rename_i gone
    simp [gone]
  · rename_i open_
    split <;> simp [open_]

/-- A message that is not sent leaves the channel as it was. -/
theorem trySend_unsent (unsent : (channel.trySend message).1 ≠ .sent) : (channel.trySend message).2 = channel := by
  rw [trySend] at unsent ⊢
  split
  · rfl
  · rename_i open_
    rw [if_neg open_] at unsent
    split
    · rename_i room
      rw [dif_pos room] at unsent
      exact absurd rfl unsent
    · rfl

theorem queue_of_sent (done : (channel.trySend message).1 = .sent) :
    (channel.trySend message).2.queue = channel.queue ++ [message] ∧
      (channel.trySend message).2.closed = channel.closed := by
  obtain ⟨open_, room⟩ := trySend_sent_iff.mp done
  rw [trySend, if_neg (by rw [open_]; exact Bool.false_ne_true), dif_pos room]
  exact ⟨rfl, rfl⟩

theorem Ledger.send (ledger : channel.Ledger sent taken) (done : (channel.trySend message).1 = .sent) :
    (channel.trySend message).2.Ledger (sent ++ [message]) taken := by
  obtain ⟨queued, same⟩ := queue_of_sent done
  have open_ := (trySend_sent_iff.mp done).1
  have whole : taken ++ (channel.trySend message).2.queue = sent ++ [message] := by
    rw [queued, ← List.append_assoc, ledger.whole open_]
  exact ⟨by rw [whole], fun _ => whole⟩

theorem Ledger.recv (ledger : channel.Ledger sent taken) (got : channel.recv.1 = some message) :
    channel.recv.2.Ledger sent (taken ++ [message]) := by
  have front : channel.queue = message :: channel.queue.tail := List.eq_cons_of_mem_head? got
  have same : (taken ++ [message]) ++ channel.recv.2.queue = taken ++ channel.queue := by
    rw [List.append_assoc, List.singleton_append]
    exact congrArg (taken ++ ·) front.symm
  exact ⟨by rw [same]; exact ledger.within, fun open_ => same.trans (ledger.whole open_)⟩

theorem Ledger.dropSenders (ledger : channel.Ledger sent taken) : channel.dropSenders.Ledger sent taken :=
  ⟨ledger.within, ledger.whole⟩

theorem Ledger.dropReceiver (ledger : channel.Ledger sent taken) : channel.dropReceiver.Ledger sent taken := by
  have before := (List.prefix_append taken channel.queue).trans ledger.within
  refine ⟨?_, fun open_ => (by cases open_)⟩
  rwa [← List.append_nil taken] at before

/-- The messages taken are the oldest ones sent. -/
theorem Ledger.taken_prefix (ledger : channel.Ledger sent taken) : taken <+: sent :=
  (List.prefix_append taken channel.queue).trans ledger.within

end Channel
