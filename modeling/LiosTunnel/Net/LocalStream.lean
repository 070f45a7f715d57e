import LiosTunnel.Lib.Channel

/-!
# The two ends of a proxied connection

`net/local_stream.rs`: a pair of bounded channels between the packet stack and the task that
proxies one TCP connection. The stack's half is the sender of `inbound` and the receiver of
`outbound`; the `LocalStream` is the other two ends, with the remainder of a chunk that did not fit
its reader's buffer. What was carried is kept in a ghost `Trace`. Waking the stack's loop has no
part in what is carried and is left out.

* `Link`: both channels, the remainder and the trace.
* `pollRead`, `pollWrite`, `pollShutdown`, `dropStream`: the operations of a `LocalStream`.
* `StreamOp`, `Link.apply`: one of them.
* `Link.Delivered`: what was taken from the socket is read in order.
-/

namespace LiosTunnel

abbrev Bytes := List UInt8

/-- One call of `socket.close()`, with what was still to be sent. -/
structure Closing where
  /-- `pending_out` is `Some`. -/
  parked : Bool
  /-- The chunks in `from_stream`. -/
  queued : List Bytes
  /-- Every sender of `from_stream` is gone. -/
  senderGone : Bool
  written : Bytes
  sent : Bytes
  /-- The socket was in a state in which a close sends a FIN. -/
  finishes : Bool
  deriving DecidableEq

/-- What a connection has carried, as a ghost. -/
structure Trace where
  /-- Accepted by `poll_write`. -/
  written : Bytes := []
  /-- Accepted by the socket's send buffer. -/
  sent : Bytes := []
  /-- Accepted from the application by the socket's receive buffer. -/
  accepted : Bytes := []
  /-- Handed out by the socket's receive buffer. -/
  taken : Bytes := []
  /-- Given to the reader. -/
  read : Bytes := []
  /-- The reader was told the end of file: a read of no bytes into a buffer with room. -/
  eof : Bool := false
  /-- The calls of `socket.close()`. -/
  closes : List Closing := []
  /-- `socket.abort()` was called. -/
  aborted : Bool := false
  /-- A poll closed the socket while the stack had not closed its side: the application reset it. -/
  reset : Bool := false
  /-- What the receive buffer held when the connection was retired. -/
  left : Bytes := []
  deriving DecidableEq

/-- `LocalStream` and `StreamPeer` of one connection. -/
structure Link where
  /-- From the application: `to_stream` to `inbound`. -/
  inbound : Channel Bytes
  /-- To the application: `outbound` to `from_stream`. -/
  outbound : Channel Bytes
  /-- A chunk part of which is read, and how much of it. -/
  partialChunk : Option (Bytes × ℕ)
  trace : Trace
  deriving DecidableEq

/-- `local_stream_pair`. -/
def localStreamPair (depth : ℕ) : Link := ⟨.new depth, .new depth, none, {}⟩

/-- What `poll_read` answers; `ready` carries what it put into the buffer. -/
inductive ReadResult
  | pending
  | ready (bytes : Bytes)
  deriving DecidableEq, Repr

/-- What `poll_write` answers. -/
inductive WriteResult
  | pending
  | ok (n : ℕ)
  /-- An error of kind `BrokenPipe`. -/
  | brokenPipe (reason : String)
  deriving DecidableEq, Repr

namespace Link

/-- The socket has accepted bytes from the application. -/
def accept (l : Link) (bytes : Bytes) : Link :=
  { l with trace := { l.trace with accepted := l.trace.accepted ++ bytes } }

/-- Records what a read of up to `n` bytes gave. -/
def record (l : Link) (n : ℕ) (bytes : Bytes) : Link :=
  { l with trace := { l.trace with
      read := l.trace.read ++ bytes
      eof := l.trace.eof || (bytes.isEmpty && n ≠ 0) } }

/-- The loop of `poll_read` over the queue of the inbound channel; it skips empty chunks. -/
def recvNonempty (l : Link) (n : ℕ) : List Bytes → ReadResult × Link
  | [] =>
    let l := { l with inbound := { l.inbound with queue := [] } }
    if l.inbound.isClosed then (.ready [], l.record n []) else (.pending, l)
  | chunk :: q =>
    if chunk.isEmpty then l.recvNonempty n q
    else
      let m := min chunk.length n
      let l := { l with
        inbound := { l.inbound with queue := q }
        partialChunk := if m < chunk.length then some (chunk, m) else none }
      (.ready (chunk.take m), l.record n (chunk.take m))

/-- `AsyncRead::poll_read`, into a buffer with `n` bytes remaining. -/
def pollRead (l : Link) (n : ℕ) : ReadResult × Link :=
  match l.partialChunk with
  | some (chunk, offset) =>
    let m := min (chunk.length - offset) n
    let l := { l with
      partialChunk := if offset + m < chunk.length then some (chunk, offset + m) else none }
    (.ready ((chunk.drop offset).take m), l.record n ((chunk.drop offset).take m))
  | none => l.recvNonempty n l.inbound.queue

/-- `AsyncWrite::poll_write`. A sender that was closed, by a shutdown, reserves nothing. -/
def pollWrite (l : Link) (buf : Bytes) : WriteResult × Link :=
  if l.outbound.senderGone then (.brokenPipe "packet stack closed this flow", l)
  else
    match l.outbound.tryReserve with
    | .closed => (.brokenPipe "packet stack closed this flow", l)
    | .full => (.pending, l)
    | .permit =>
      (.ok buf.length, { l with
        outbound := l.outbound.send buf
        trace := { l.trace with written := l.trace.written ++ buf } })

/-- `AsyncWrite::poll_shutdown`. -/
def pollShutdown (l : Link) : Link := { l with outbound := l.outbound.dropSender }

/-- `Drop for LocalStream`. -/
def dropStream (l : Link) : Link :=
  { l with
    outbound := l.outbound.dropSender
    inbound := l.inbound.dropReceiver
    partialChunk := none }

end Link

/-- One thing the task does with its `LocalStream`. -/
inductive StreamOp
  | read (n : ℕ)
  | write (buf : Bytes)
  | shutdown
  | drop
  deriving DecidableEq, Repr

/-- An operation of a `LocalStream`; there is none after it is dropped. -/
def Link.apply (op : StreamOp) (l : Link) : Link :=
  if l.inbound.receiverGone then l
  else
    match op with
    | .read n => (l.pollRead n).2
    | .write buf => (l.pollWrite buf).2
    | .shutdown => l.pollShutdown
    | .drop => l.dropStream

namespace Link

/-- All that a read can change. -/
theorem pollRead_changes (l : Link) (n : ℕ) : ∃ q p r e, (l.pollRead n).2 =
    { l with
      inbound := { l.inbound with queue := q }
      partialChunk := p
      trace := { l.trace with read := r, eof := e } } := by
  have hrecv : ∀ q, ∃ q' p r e, (l.recvNonempty n q).2 =
      { l with
        inbound := { l.inbound with queue := q' }
        partialChunk := p
        trace := { l.trace with read := r, eof := e } } := by
    intro q
    induction q with
    | nil =>
      dsimp only [recvNonempty]
      split <;> exact ⟨_, _, _, _, rfl⟩
    | cons chunk q ih =>
      dsimp only [recvNonempty]
      split
      · exact ih
      · exact ⟨_, _, _, _, rfl⟩
  rw [pollRead]
  split
  · exact ⟨_, _, _, _, rfl⟩
  · exact hrecv _

/-- What the task does is not the stack's: all of the trace that it can change. -/
theorem trace_apply (l : Link) (op : StreamOp) : ∃ w r e, (l.apply op).trace =
    { l.trace with written := w, read := r, eof := e } := by
  unfold apply
  split
  · exact ⟨_, _, _, rfl⟩
  · cases op with
    | read n =>
      obtain ⟨q, p, r, e, h⟩ := l.pollRead_changes n
      dsimp only
      rw [h]
      exact ⟨_, _, _, rfl⟩
    | write buf =>
      dsimp only [pollWrite]
      split
      · exact ⟨_, _, _, rfl⟩
      · split <;> exact ⟨_, _, _, rfl⟩
    | shutdown => exact ⟨_, _, _, rfl⟩
    | drop => exact ⟨_, _, _, rfl⟩

/-- What the task does lets no sender of `inbound` go, and its receiver only for good. -/
theorem ends_apply (l : Link) (op : StreamOp) (hkept : (l.apply op).inbound.receiverGone = false) :
    l.inbound.receiverGone = false ∧
      (l.apply op).inbound.senderGone = l.inbound.senderGone := by
  unfold apply at hkept ⊢
  split at hkept
  · exact ⟨hkept, by rw [if_pos ‹_›]⟩
  · rename_i hnot
    refine ⟨by simpa using hnot, ?_⟩
    rw [if_neg hnot]
    cases op with
    | read n =>
      obtain ⟨q, p, r, e, h⟩ := l.pollRead_changes n
      dsimp only
      rw [h]
    | write buf =>
      dsimp only [pollWrite]
      split
      · rfl
      · split <;> rfl
    | shutdown => rfl
    | drop => cases hkept

/-- What the task writes is queued for the stack. -/
theorem written_apply (l : Link) (op : StreamOp) :
    ∃ bytes, (l.apply op).trace.written = l.trace.written ++ bytes ∧
      (l.apply op).outbound.queue.flatten = l.outbound.queue.flatten ++ bytes := by
  have hnone : ∃ bytes, l.trace.written = l.trace.written ++ bytes ∧
      l.outbound.queue.flatten = l.outbound.queue.flatten ++ bytes :=
    ⟨[], (List.append_nil _).symm, (List.append_nil _).symm⟩
  unfold apply
  split
  · exact hnone
  · cases op with
    | read n =>
      obtain ⟨q, p, r, e, h⟩ := l.pollRead_changes n
      dsimp only
      rw [h]
      exact hnone
    | write buf =>
      dsimp only [pollWrite]
      split
      · exact hnone
      · split
        · exact hnone
        · exact hnone
        · exact ⟨buf, rfl, by rw [Channel.send, List.flatten_append, List.flatten_singleton]⟩
    | shutdown => exact hnone
    | drop => exact hnone

/-- What the task does lets the stack's receiver of `outbound` be, and drops its own two ends
together. -/
theorem outbound_apply (l : Link) (op : StreamOp) :
    (l.apply op).outbound.receiverGone = l.outbound.receiverGone ∧
      ((l.inbound.receiverGone = true → l.outbound.senderGone = true) →
        (l.apply op).inbound.receiverGone = true → (l.apply op).outbound.senderGone = true) := by
  unfold apply
  split
  · exact ⟨rfl, id⟩
  · cases op with
    | read n =>
      obtain ⟨q, p, r, e, h⟩ := l.pollRead_changes n
      dsimp only
      rw [h]
      exact ⟨rfl, id⟩
    | write buf =>
      dsimp only [pollWrite]
      split
      · exact ⟨rfl, id⟩
      · split <;> exact ⟨rfl, id⟩
    | shutdown => exact ⟨rfl, fun _ _ => rfl⟩
    | drop => exact ⟨rfl, fun _ _ => rfl⟩

/-- Nor does it take a sender of `outbound` back. -/
theorem senderGone_apply {l : Link} (h : l.outbound.senderGone = true) (op : StreamOp) :
    (l.apply op).outbound.senderGone = true := by
  unfold apply
  split
  · exact h
  · cases op with
    | read n =>
      obtain ⟨q, p, r, e, hread⟩ := l.pollRead_changes n
      dsimp only
      rw [hread]
      exact h
    | write buf =>
      dsimp only [pollWrite]
      rw [if_pos h]
      exact h
    | shutdown => rfl
    | drop => rfl

/-! ## Reads are in order -/

/-- What was taken from the socket and not read. -/
def unread (l : Link) : Bytes :=
  (l.partialChunk.elim [] fun p => p.1.drop p.2) ++ l.inbound.queue.flatten

/-- The reader gets what was taken, in order, and its end of file only at the end. -/
structure Delivered (l : Link) : Prop where
  inOrder : l.inbound.receiverGone = false → l.trace.taken = l.trace.read ++ l.unread
  partialLt : ∀ chunk off, l.partialChunk = some (chunk, off) → off < chunk.length
  eof : l.trace.eof = true → l.inbound.senderGone = true ∧ l.trace.read = l.trace.taken

namespace Delivered

theorem new (depth : ℕ) : Delivered (localStreamPair depth) :=
  ⟨fun _ => rfl, fun _ _ h => (by cases h), fun h => (by cases h)⟩

variable {l : Link}

/-- After the end of file nothing is left to read. -/
theorem unread_of_eof (h : Delivered l) (hkept : l.inbound.receiverGone = false)
    (heof : l.trace.eof = true) : l.unread = [] := by
  have hall := h.inOrder hkept
  rw [← (h.eof heof).2] at hall
  exact List.self_eq_append_right.1 hall

/-- A read takes `m` bytes of a chunk that comes next; the rest stays for later reads. -/
theorem readChunk (h : Delivered l) (hkept : l.inbound.receiverGone = false) {n : ℕ}
    {chunk : Bytes} (hchunk : chunk ≠ []) {rest : List Bytes}
    (hunread : l.unread = chunk ++ rest.flatten) {p : Option (Bytes × ℕ)}
    (hp : (p.elim [] fun p => p.1.drop p.2) = chunk.drop (min chunk.length n))
    (hlt : ∀ chunk' off, p = some (chunk', off) → off < chunk'.length) :
    Delivered ({ l with
      inbound := { l.inbound with queue := rest }
      partialChunk := p }.record n (chunk.take (min chunk.length n))) := by
  have hnoeof : l.trace.eof = false := by
    by_contra heof
    have hnil := h.unread_of_eof hkept (by simpa using heof)
    rw [hunread] at hnil
    exact hchunk (List.append_eq_nil_iff.1 hnil).1
  refine ⟨fun _ => ?_, hlt, fun heof => ?_⟩
  · have hsplit := List.take_append_drop (min chunk.length n) chunk
    show l.trace.taken = (l.trace.read ++ chunk.take (min chunk.length n)) ++
      ((p.elim [] fun p => p.1.drop p.2) ++ rest.flatten)
    rw [h.inOrder hkept, hunread, hp, List.append_assoc, ← List.append_assoc (chunk.take _), hsplit]
  · have hlen := List.length_pos_iff.2 hchunk
    simp only [record, hnoeof, Bool.false_or, Bool.and_eq_true, List.isEmpty_iff,
      List.take_eq_nil_iff, decide_eq_true_eq] at heof
    obtain ⟨hmin | hnil, hn⟩ := heof
    · omega
    · exact absurd hnil hchunk

/-- A chunk taken from the socket and sent to the reader comes after everything else. -/
theorem send (h : Delivered l) (hheld : l.inbound.senderGone = false) (chunk : Bytes) :
    Delivered { l with
      inbound := l.inbound.send chunk
      trace := { l.trace with taken := l.trace.taken ++ chunk } } := by
  refine ⟨fun hkept => ?_, h.partialLt, fun heof => ?_⟩
  · show l.trace.taken ++ chunk = l.trace.read ++
      ((l.partialChunk.elim [] fun p => p.1.drop p.2) ++ (l.inbound.queue ++ [chunk]).flatten)
    rw [h.inOrder hkept, unread, List.flatten_append, List.flatten_singleton]
    simp only [List.append_assoc]
  · rw [(h.eof heof).1] at hheld
    cases hheld

theorem dropSender (h : Delivered l) :
    Delivered { l with inbound := l.inbound.dropSender } :=
  ⟨h.inOrder, h.partialLt, fun heof => ⟨rfl, (h.eof heof).2⟩⟩

theorem recvNonempty (h : Delivered l) (hkept : l.inbound.receiverGone = false)
    (hnone : l.partialChunk = none) (n : ℕ) (q : List Bytes)
    (hq : l.inbound.queue.flatten = q.flatten) : Delivered (l.recvNonempty n q).2 := by
  have hunread : l.unread = q.flatten := by
    rw [unread, hnone, hq]
    rfl
  induction q with
  | nil =>
    have hall : l.trace.taken = l.trace.read := by rw [h.inOrder hkept, hunread]; simp
    dsimp only [Link.recvNonempty]
    split
    · rename_i hclosed
      have hgone : l.inbound.senderGone = true := by simpa [Channel.isClosed, hkept] using hclosed
      refine ⟨fun _ => ?_, h.partialLt, fun _ => ⟨hgone, ?_⟩⟩
      · simp [record, unread, hnone, hall]
      · simp [record, hall]
    · refine ⟨fun _ => ?_, h.partialLt, h.eof⟩
      simp [unread, hnone, hall]
  | cons chunk q ih =>
    rw [Link.recvNonempty]
    split
    · rename_i hempty
      have hflat : (chunk :: q).flatten = q.flatten := by
        rw [List.flatten_cons, List.isEmpty_iff.1 hempty, List.nil_append]
      exact ih (hq.trans hflat) (hunread.trans hflat)
    · rename_i hnonempty
      refine h.readChunk hkept (by simpa using hnonempty) hunread ?_ fun chunk' off hp => ?_
      · split
        · rfl
        · exact (List.drop_eq_nil_of_le (not_lt.1 ‹_›)).symm
      · split at hp
        · cases hp
          assumption
        · cases hp

theorem pollRead (h : Delivered l) (hkept : l.inbound.receiverGone = false) (n : ℕ) :
    Delivered (l.pollRead n).2 := by
  rw [Link.pollRead]
  split
  · rename_i chunk off hp
    have hlt := h.partialLt chunk off hp
    have hunread : l.unread = chunk.drop off ++ l.inbound.queue.flatten := by
      rw [unread, hp]
      rfl
    have hread := @readChunk l h hkept n (chunk.drop off) (by simpa using hlt) l.inbound.queue
      hunread (if off + min (chunk.length - off) n < chunk.length then
        some (chunk, off + min (chunk.length - off) n) else none)
    rw [List.length_drop] at hread
    refine hread ?_ fun chunk' off' hp' => ?_
    · split
      · rw [List.drop_drop]
        rfl
      · rename_i hend
        exact (List.drop_eq_nil_of_le (by rw [List.length_drop]; omega)).symm
    · split at hp'
      · cases hp'
        assumption
      · cases hp'
  · rename_i hp
    exact h.recvNonempty hkept hp n _ rfl

/-- **Reads are in order**, whatever the task does with its stream. -/
theorem apply (h : Delivered l) (op : StreamOp) : Delivered (l.apply op) := by
  unfold Link.apply
  split
  · exact h
  · rename_i hkept
    cases op with
    | read n => exact h.pollRead (by simpa using hkept) n
    | write buf =>
      dsimp only [Link.pollWrite]
      split
      · exact h
      · split
        · exact h
        · exact h
        · exact ⟨h.inOrder, h.partialLt, h.eof⟩
    | shutdown => exact ⟨h.inOrder, h.partialLt, h.eof⟩
    | drop => exact ⟨fun hgone => (by cases hgone), fun _ _ hp => (by cases hp), h.eof⟩

end Delivered

end Link

end LiosTunnel
