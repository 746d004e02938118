namespace StsGateway.Data

/-! A first-in first-out channel with any number of senders and one receiver.

The messages already received are kept beside the waiting ones, so "what was
sent" and "what arrived" are read off the channel itself and losslessness is
part of the data rather than an assumption.
-/

structure Mpsc (α : Type) where
  received : List α
  waiting : List α
deriving DecidableEq

namespace Mpsc

variable {α β : Type}

def channel : Mpsc α := ⟨[], []⟩

def sent (channel : Mpsc α) : List α := channel.received ++ channel.waiting

def send (channel : Mpsc α) (message : α) : Mpsc α :=
  { channel with waiting := channel.waiting ++ [message] }

/-- Take the oldest waiting message. A receiver that finds none blocks. -/
def recv? (channel : Mpsc α) : Option (α × Mpsc α) :=
  match channel.waiting with
  | [] => none
  | message :: rest => some (message, ⟨channel.received ++ [message], rest⟩)

@[simp] theorem sent_channel : (channel : Mpsc α).sent = [] := rfl

@[simp] theorem sent_send (channel : Mpsc α) (message : α) :
    (channel.send message).sent = channel.sent ++ [message] := by
  simp [sent, send]

theorem recv?_some {channel after : Mpsc α} {message : α}
    (taken : channel.recv? = some (message, after)) :
    after.received = channel.received ++ [message] ∧ after.sent = channel.sent := by
  unfold recv? at taken
  split at taken
  · contradiction
  · rename_i rest waiting
    cases taken
    exact ⟨rfl, by simp [sent, waiting]⟩

theorem recv?_cons {channel : Mpsc α} {message : α} {rest : List α}
    (waiting : channel.waiting = message :: rest) :
    channel.recv? = some (message, ⟨channel.received ++ [message], rest⟩) := by
  rw [recv?, waiting]

theorem recv?_waiting {channel after : Mpsc α} {message : α}
    (taken : channel.recv? = some (message, after)) :
    channel.waiting = message :: after.waiting := by
  unfold recv? at taken
  split at taken
  · contradiction
  · rename_i rest waiting
    cases taken
    exact waiting

theorem recv?_head {channel after : Mpsc α} {message : α}
    (taken : channel.recv? = some (message, after)) : message ∈ channel.waiting.head? := by
  rw [recv?_waiting taken]
  rfl

theorem received_prefix (channel : Mpsc α) : channel.received <+: channel.sent :=
  List.prefix_append _ _

theorem filterMap_received_prefix (channel : Mpsc α) (select : α → Option β) :
    channel.received.filterMap select <+: channel.sent.filterMap select :=
  channel.received_prefix.filterMap select

end Mpsc

end StsGateway.Data
