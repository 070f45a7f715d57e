import LiosTunnel.Stack.Socket

/-!
# One promoted connection

A `Flow` of `core.rs` with its socket, and what a step does to the two of them: finishing and
feeding outbound chunks before the poll, handing inbound bytes over after it, and keeping the clock
of a flow that only waits for its peer. Each function is the body of the source's loop over the
flows, for one flow.

* `Flow`, `Cell`: a flow, and a flow with its socket.
* `Cell.pumpOutbound`: `pump_outbound`, in its three parts (a), (b) and (c).
* `Cell.pumpInbound`: `pump_inbound`, with its loop `recvLoop`.
* `Cell.pumpQueue_queue`, `Cell.recvLoop_room`: these loops in terms of the channels' operations.
* `Cell.observe`, `Cell.abortExpired`: the shutdown clock.
-/

namespace LiosTunnel.Stack

/-- The most that is moved out of a socket at once. -/
def CHUNK : ℕ := 8 * 1024

/-- How long an injected listener may take to complete its handshake, in microseconds. -/
def HANDSHAKE_TIMEOUT : ℕ := 30 * 1000000

/-- How long a flow whose local side has finished may wait on its peer, in microseconds. -/
def SHUTDOWN_TIMEOUT : ℕ := 60 * 1000000

/-- `Flow`. Its two channel ends are in `link`, which it shares with the `LocalStream` numbered
`stream`; `to_stream` is `None` when the sender of `link.inbound` is gone. -/
structure Flow where
  src : SocketAddr
  dst : SocketAddr
  stream : ℕ
  /-- A chunk the send buffer could not take in full, and how much of it was taken. -/
  pendingOut : Option (Bytes × ℕ)
  lastActivity : ℕ
  windingDownSince : Option ℕ
  link : Link
  deriving DecidableEq

/-- `Flow::shutdown_deadline`. -/
def Flow.shutdownDeadline (f : Flow) : Option ℕ :=
  f.windingDownSince.map fun since => max since f.lastActivity + SHUTDOWN_TIMEOUT

/-- What a poll did to the socket of a flow, as the ghost notes it. -/
def Flow.polled {S : Type} (api : TcpApi S) (sk sk' : S) (f : Flow) : Flow :=
  let link := f.link.accept ((api.recvBuffer sk').drop (api.recvBuffer sk).length)
  { f with
    link := { link with
      trace := { link.trace with
        reset := link.trace.reset || (!(api.state sk).finSent && api.state sk != .closed &&
          api.state sk' == .closed) } } }

/-- A retired flow: its ends of the link are dropped. The ghost remembers what the receive buffer
held. -/
def Flow.retire (f : Flow) (left : Bytes) : Flow :=
  { f with
    pendingOut := none
    link := { f.link with
      inbound := f.link.inbound.dropSender
      outbound := f.link.outbound.dropReceiver
      trace := { f.link.trace with left := left } } }

/-- An operation of the `LocalStream` numbered `n`, as far as it is this flow's. -/
def Flow.useStream (n : ℕ) (op : StreamOp) (f : Flow) : Flow :=
  if f.stream = n then { f with link := f.link.apply op } else f

theorem Flow.stream_useStream (f : Flow) (n : ℕ) (op : StreamOp) :
    (f.useStream n op).stream = f.stream := by
  rw [useStream]
  split <;> rfl

/-- `awaits_peer`: the local side has finished and only the peer can make progress. -/
def awaitsPeer : TcpState → Bool
  | .finWait1 | .finWait2 | .closing | .lastAck => true
  | .closeWait => false
  | .established => false
  | .timeWait => false
  | .closed => false
  -- not states of a promoted flow; a debug build asserts so
  | .listen | .synSent | .synReceived => false

/-- A flow with its socket. -/
structure Cell (S : Type) where
  socket : S
  flow : Flow

namespace Cell

variable {S : Type} (api : TcpApi S) (now : ℕ) (c : Cell S)

/-- The flow's link replaced. -/
def withLink (link : Link) : Cell S := { c with flow := { c.flow with link := link } }

/-- The chunks of `from_stream` replaced. -/
def withQueue (q : List Bytes) : Cell S :=
  c.withLink { c.flow.link with outbound := { c.flow.link.outbound with queue := q } }

/-- The socket has taken `bytes` for sending and is now `sk`. -/
def sent (sk : S) (bytes : Bytes) : Cell S :=
  { socket := sk
    flow := { c.flow with
      lastActivity := now
      link := { c.flow.link with
        trace := { c.flow.link.trace with sent := c.flow.link.trace.sent ++ bytes } } } }

/-- `flow.pending_out = p`. -/
def park (p : Option (Bytes × ℕ)) : Cell S := { c with flow := { c.flow with pendingOut := p } }

/-- What is still to be sent at a call of `socket.close()`. -/
def closing : Closing where
  parked := c.flow.pendingOut.isSome
  queued := c.flow.link.outbound.queue
  senderGone := c.flow.link.outbound.senderGone
  written := c.flow.link.trace.written
  sent := c.flow.link.trace.sent
  finishes := (api.state c.socket).finishes

/-- `socket.close()`. -/
def close : Cell S :=
  { socket := api.close c.socket
    flow := { c.flow with
      link := { c.flow.link with
        trace := { c.flow.link.trace with
          closes := c.flow.link.trace.closes ++ [c.closing api] } } } }

/-! ## Tunnel to application -/

/-- Part (a) of `pump_outbound`: finish the chunk the send buffer could not take last time. -/
def finishChunk : Cell S :=
  match c.flow.pendingOut with
  | none => c
  | some (chunk, off) =>
    if api.canSend c.socket then
      match api.sendSlice c.socket (chunk.drop off) with
      | some (n, sk) =>
        (c.sent now sk ((chunk.drop off).take n)).park
          (if off + n < chunk.length then some (chunk, off + n) else none)
      | none => c
    else c

/-- Part (b) of `pump_outbound`, from a queue of `from_stream` that is the first argument. -/
def pumpQueue : List Bytes → Cell S → Cell S
  | [], c =>
    if c.flow.pendingOut.isNone && api.canSend c.socket then
      -- `Disconnected`: the engine finished with this flow; `Empty`: not yet
      if c.flow.link.outbound.isClosed then c.close api else c
    else c
  | chunk :: q, c =>
    if c.flow.pendingOut.isNone && api.canSend c.socket then
      match api.sendSlice c.socket chunk with
      | some (n, sk) =>
        if n < chunk.length then
          (((c.withQueue q).sent now sk (chunk.take n)).park (some (chunk, n)))
        else pumpQueue q ((c.withQueue q).sent now sk (chunk.take n))
      | none => c.withQueue q
    else c

/-- Part (c) of `pump_outbound`: the check that does not depend on the send buffer. -/
def checkClosed : Cell S :=
  if c.flow.link.outbound.isClosed && c.flow.pendingOut.isNone then
    match c.flow.link.outbound.queue with
    | chunk :: q => (c.withQueue q).park (some (chunk, 0))
    | [] => c.close api
  else c

/-- `pump_outbound`. -/
def pumpOutbound : Cell S :=
  let c := c.finishChunk api now
  (c.pumpQueue api now c.flow.link.outbound.queue).checkClosed api

/-- **Part (b) runs on `try_recv`**: with the queue of `from_stream`, each round takes what the
channel hands out. -/
theorem pumpQueue_queue : c.pumpQueue api now c.flow.link.outbound.queue =
    if c.flow.pendingOut.isNone && api.canSend c.socket then
      match c.flow.link.outbound.tryRecv with
      | (.item chunk, fromStream) =>
        let c := c.withLink { c.flow.link with outbound := fromStream }
        match api.sendSlice c.socket chunk with
        | some (n, sk) =>
          let c := c.sent now sk (chunk.take n)
          if n < chunk.length then c.park (some (chunk, n))
          else c.pumpQueue api now c.flow.link.outbound.queue
        | none => c
      | (.empty, _) => c
      | (.disconnected, _) => c.close api
    else c := by
  cases hq : c.flow.link.outbound.queue with
  | nil =>
    rw [pumpQueue, Channel.tryRecv_nil hq]
    cases c.flow.link.outbound.isClosed <;> rfl
  | cons chunk q =>
    rw [pumpQueue, Channel.tryRecv_cons hq]
    rfl

/-! ## Application to tunnel -/

/-- The socket has handed out `chunk`, which goes into a reserved slot. -/
def took (sk : S) (chunk : Bytes) : Cell S :=
  { socket := sk
    flow := { c.flow with
      lastActivity := now
      link := { c.flow.link with
        inbound := c.flow.link.inbound.send chunk
        trace := { c.flow.link.trace with taken := c.flow.link.trace.taken ++ chunk } } } }

/-- The loop of `pump_inbound`, and whether it found the receiver gone. The first argument is the
number of free slots, so that `try_reserve` answers `Full` at zero. -/
def recvLoop : ℕ → Cell S → Cell S × Bool
  | room, c =>
    if api.canRecv c.socket then
      -- `TrySendError::Closed`
      if c.flow.link.inbound.receiverGone then (c.close api, true)
      else
        match room with
        | 0 => (c, false)
        | room + 1 =>
          match api.recvData c.socket with
          | none => (c, false)
          | some data =>
            let n := min data.length CHUNK
            let sk := api.recvAdvance c.socket n
            if data.take n = [] then ({ c with socket := sk }, false)
            else recvLoop room (c.took now sk (data.take n))
    else (c, false)

/-- **The loop of `pump_inbound` runs on `try_reserve`**: with the room of `to_stream`, each round
goes by what the channel answers. -/
theorem recvLoop_room : c.recvLoop api now c.flow.link.inbound.room =
    if api.canRecv c.socket then
      match c.flow.link.inbound.tryReserve with
      | .closed => (c.close api, true)
      | .full => (c, false)
      | .permit =>
        match api.recvData c.socket with
        | none => (c, false)
        | some data =>
          let n := min data.length CHUNK
          let sk := api.recvAdvance c.socket n
          if data.take n = [] then ({ c with socket := sk }, false)
          else
            let c := c.took now sk (data.take n)
            c.recvLoop api now c.flow.link.inbound.room
    else (c, false) := by
  have hroom : ∀ sk chunk, (c.took now sk chunk).flow.link.inbound.room =
      c.flow.link.inbound.room - 1 := fun _ chunk => c.flow.link.inbound.room_send chunk
  cases hgone : c.flow.link.inbound.receiverGone with
  | true =>
    rw [Channel.tryReserve_eq_closed.2 hgone]
    unfold recvLoop
    rw [hgone]
    rfl
  | false =>
    cases hfree : c.flow.link.inbound.room with
    | zero =>
      rw [Channel.tryReserve_eq_full.2 ⟨hgone, hfree⟩, recvLoop, hgone]
      rfl
    | succ room =>
      have hpermit := Channel.tryReserve_eq_permit.2 ⟨hgone, hfree ▸ Nat.succ_ne_zero room⟩
      simp only [hpermit, recvLoop, hgone, hroom, hfree, Nat.add_sub_cancel, Bool.false_eq_true,
        if_false]

/-- `to_stream` dropped. -/
def dropToStream : Cell S :=
  c.withLink { c.flow.link with inbound := c.flow.link.inbound.dropSender }

/-- `pump_inbound`. -/
def pumpInbound : Cell S :=
  -- `flow.to_stream.take()` is `None`
  if c.flow.link.inbound.senderGone then c
  else
    let (c, peerGone) := c.recvLoop api now c.flow.link.inbound.room
    if !peerGone && api.mayRecv c.socket then c else c.dropToStream

/-! ## The shutdown clock -/

/-- `observe_flow_states`. -/
def observe : Cell S :=
  let orphaned := c.flow.link.outbound.isClosed && api.maySend c.socket
  if awaitsPeer (api.state c.socket) || orphaned then
    { c with flow := { c.flow with
        windingDownSince := some (c.flow.windingDownSince.getD now) } }
  else { c with flow := { c.flow with windingDownSince := none } }

/-- All that `observe_flow_states` can change. -/
theorem observe_changes : ∃ w, c.observe api now =
    { c with flow := { c.flow with windingDownSince := w } } := by
  rw [observe]
  dsimp only
  split <;> exact ⟨_, rfl⟩

/-- `abort_expired_flows`. -/
def abortExpired : Cell S :=
  if c.flow.shutdownDeadline.any fun at_ => decide (at_ ≤ now) then
    { socket := api.abort c.socket
      flow := { c.flow with
        link := { c.flow.link with trace := { c.flow.link.trace with aborted := true } } } }
  else c

end Cell

end LiosTunnel.Stack
