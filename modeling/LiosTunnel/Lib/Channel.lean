import Mathlib.Tactic

/-!
# Bounded channels

A bounded channel with one sender and one receiver, either of which may go away: a sender that asks
for a slot is told that there is one, that there is none, or that the receiver is gone; a receiver
is given the oldest item, or told that there is none yet, or that there will be none.

* `tryReserve`, `send`: the sender's side; a gone receiver is reported before a full queue.
* `tryRecv`, `isClosed`: the receiver's side; queued items outlive their sender.
* `room`: the number of items that still fit.
-/

/-- A bounded channel. -/
structure Channel (α : Type*) where
  depth : ℕ
  queue : List α
  senderGone : Bool
  receiverGone : Bool
  deriving DecidableEq

namespace Channel

variable {α : Type*}

/-- An empty channel of the given depth. -/
def new (depth : ℕ) : Channel α := ⟨depth, [], false, false⟩

/-- What a sender that asks for a slot is told. -/
inductive Reserve
  | permit
  | full
  | closed
  deriving DecidableEq, Repr

/-- The number of items that still fit. -/
def room (c : Channel α) : ℕ := c.depth - c.queue.length

def tryReserve (c : Channel α) : Reserve :=
  if c.receiverGone then .closed else if c.room = 0 then .full else .permit

/-- An item is sent through a reserved slot. -/
def send (c : Channel α) (x : α) : Channel α := { c with queue := c.queue ++ [x] }

/-- What a receiver is told. -/
inductive Received (α : Type*)
  | item (x : α)
  | empty
  | disconnected
  deriving DecidableEq, Repr

/-- The oldest item, and the channel without it. -/
def tryRecv (c : Channel α) : Received α × Channel α :=
  match c.queue with
  | x :: q => (.item x, { c with queue := q })
  | [] => (if c.senderGone || c.receiverGone then .disconnected else .empty, c)

/-- The receiver's view: no item will be added any more. -/
def isClosed (c : Channel α) : Bool := c.senderGone || c.receiverGone

def dropSender (c : Channel α) : Channel α := { c with senderGone := true }

/-- The receiver goes, and what was queued with it. -/
def dropReceiver (c : Channel α) : Channel α := { c with receiverGone := true, queue := [] }

variable {c : Channel α}

theorem tryReserve_eq_permit : c.tryReserve = .permit ↔ c.receiverGone = false ∧ c.room ≠ 0 := by
  unfold tryReserve
  split
  · simp [*]
  · split <;> simp_all

theorem tryReserve_eq_closed : c.tryReserve = .closed ↔ c.receiverGone = true := by
  unfold tryReserve
  split
  · simp [*]
  · split <;> simp_all

theorem tryReserve_eq_full : c.tryReserve = .full ↔ c.receiverGone = false ∧ c.room = 0 := by
  unfold tryReserve
  split
  · simp [*]
  · split <;> simp_all

/-- A sent item takes one of the places that were free. -/
theorem room_send (x : α) : (c.send x).room = c.room - 1 := by
  simp only [room, send, List.length_append, List.length_singleton]
  omega

theorem tryRecv_nil (h : c.queue = []) :
    c.tryRecv = (if c.isClosed then .disconnected else .empty, c) := by
  simp [tryRecv, h, isClosed]

theorem tryRecv_cons {x : α} {q : List α} (h : c.queue = x :: q) :
    c.tryRecv = (.item x, { c with queue := q }) := by
  simp [tryRecv, h]

theorem tryRecv_eq_item {x : α} {c' : Channel α} :
    c.tryRecv = (.item x, c') ↔ ∃ q, c.queue = x :: q ∧ c' = { c with queue := q } := by
  cases hq : c.queue with
  | nil =>
    rw [tryRecv_nil hq]
    split <;> simp
  | cons y q =>
    rw [tryRecv_cons hq]
    simp [eq_comm]

theorem tryRecv_eq_disconnected {c' : Channel α} :
    c.tryRecv = (.disconnected, c') ↔ c.queue = [] ∧ c.isClosed = true ∧ c' = c := by
  cases hq : c.queue with
  | nil =>
    rw [tryRecv_nil hq]
    split <;> simp [*, eq_comm]
  | cons y q =>
    rw [tryRecv_cons hq]
    simp

end Channel
