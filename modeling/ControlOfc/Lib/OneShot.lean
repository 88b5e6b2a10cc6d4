import Mathlib.Logic.Basic
/-! # A channel for one value

The sender sends once or is dropped; the receiver closes, is dropped, or takes the value. A send after the
close fails and gives the value back; a value sent before the close can still be taken.
-/

structure OneShot (α : Type*) where
  value : Option α
  sender : Bool
  receiver : Bool
  deriving DecidableEq

namespace OneShot

variable {α : Type*}

def new : OneShot α := ⟨none, true, true⟩

/-- The channel after a send, which fails where the receiver is gone. -/
def send (c : OneShot α) (v : α) : OneShot α :=
  if c.receiver then { c with value := some v, sender := false } else { c with sender := false }

def dropSender (c : OneShot α) : OneShot α := { c with sender := false }

def close (c : OneShot α) : OneShot α := { c with receiver := false }

/-- An unread value goes with its receiver. -/
def dropReceiver (c : OneShot α) : OneShot α := { c with value := none, receiver := false }

def take (c : OneShot α) : OneShot α := { c with value := none }

@[simp] theorem value_new : (new : OneShot α).value = none := rfl
@[simp] theorem receiver_new : (new : OneShot α).receiver = true := rfl
@[simp] theorem value_send (c : OneShot α) (v : α) : (c.send v).value = if c.receiver then some v else c.value := by
  unfold send
  split <;> rfl
@[simp] theorem receiver_send (c : OneShot α) (v : α) : (c.send v).receiver = c.receiver := by
  unfold send
  split <;> rfl
@[simp] theorem value_dropSender (c : OneShot α) : c.dropSender.value = c.value := rfl
@[simp] theorem receiver_dropSender (c : OneShot α) : c.dropSender.receiver = c.receiver := rfl
@[simp] theorem value_close (c : OneShot α) : c.close.value = c.value := rfl
@[simp] theorem receiver_close (c : OneShot α) : c.close.receiver = false := rfl
@[simp] theorem value_dropReceiver (c : OneShot α) : c.dropReceiver.value = none := rfl
@[simp] theorem receiver_dropReceiver (c : OneShot α) : c.dropReceiver.receiver = false := rfl
@[simp] theorem value_take (c : OneShot α) : c.take.value = none := rfl
@[simp] theorem receiver_take (c : OneShot α) : c.take.receiver = c.receiver := rfl

end OneShot
