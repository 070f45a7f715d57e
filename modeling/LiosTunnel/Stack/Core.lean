import LiosTunnel.Lib.Runs
import LiosTunnel.Net.Inspect
import LiosTunnel.Stack.Flow
import Mathlib.Data.Finset.Basic

/-!
# The packet engine

`StackCore` of `smoltcp_stack/core.rs`: packets are classified and queued, listeners are armed for
SYNs, and a step runs eight passes over the sockets, of which the fourth is smoltcp's poll. The
poll is the environment's choice: it may do anything to the sockets but add or remove one.

A `LocalStream` is used from other threads, so the machine of this development (`Loop`) takes one
pass at a time, with the operations of the streams in between; `run_step` says that the passes in a
row are `StackCore.step`.

* `StackCore`, `NatTable`: the state.
* `StackCore.ingest`, `StackCore.step`: the two entry points, with a definition for each pass.
* `injectListener_changes`, `dropPending_changes`, `promote_changes`, `retireFlow_changes`: what the
  rounds of the loops leave alone.
* `Loop`, `Event`, `Loop.next`: the machine.
-/

namespace LiosTunnel.Stack

/-- The most listeners that may be injected but not yet promoted at once. -/
def MAX_PENDING_LISTENERS : ℕ := 256

/-- `StackConfig`, as far as the core's own logic reads it. The MTU, which `inject_datagram` alone
reads, is given to it. -/
structure StackConfig where
  tcpBufferBytes : ℕ
  channelDepth : ℕ
  deriving DecidableEq, Repr

/-- `NatTable`. -/
structure NatTable where
  armed : Finset (SocketAddr × SocketAddr)
  deriving DecidableEq

namespace NatTable

def isArmed (nat : NatTable) (src dst : SocketAddr) : Bool := (src, dst) ∈ nat.armed

/-- `arm`: whether the flow had no listener yet, and the table with it. -/
def arm (nat : NatTable) (src dst : SocketAddr) : Bool × NatTable :=
  (!nat.isArmed src dst, ⟨insert (src, dst) nat.armed⟩)

def disarm (nat : NatTable) (src dst : SocketAddr) : NatTable := ⟨nat.armed.erase (src, dst)⟩

end NatTable

/-- `Pending`. -/
structure Pending where
  src : SocketAddr
  dst : SocketAddr
  injectedAt : ℕ
  deriving DecidableEq, Repr

/-- `Datagram`. -/
structure Datagram where
  src : SocketAddr
  dst : SocketAddr
  payload : Bytes
  deriving DecidableEq, Repr

/-- `TcpFlow`; its stream is the one of that number. -/
structure TcpFlow where
  src : SocketAddr
  dst : SocketAddr
  stream : ℕ
  deriving DecidableEq, Repr

/-- A packet in the device's receive queue. Whether `ingest` injected a listener for it is a
ghost. -/
structure Queued where
  packet : Bytes
  injected : Bool
  deriving DecidableEq, Repr

/-- `StackCore`. The last five fields are ghosts: the flows retired so far, the number of the next
stream, whether a `sockets.get` met a missing handle, and how many packets were queued to the device
and how many surfaced as a datagram, whoever drained them. The device is its two queues. -/
structure StackCore (S : Type) where
  sockets : SocketSet S
  rx : List Queued
  tx : List Bytes
  nat : NatTable
  pending : HandleMap Pending
  flows : HandleMap Flow
  accepts : List TcpFlow
  datagrams : List Datagram
  cfg : StackConfig
  udpDropped : ℕ
  synDropped : ℕ
  malformedDropped : ℕ
  bytesDiscarded : ℕ
  lastStep : ℕ
  retired : List Flow
  nextStream : ℕ
  panicked : Bool
  queued : ℕ
  surfaced : ℕ
  deriving DecidableEq

/-- `Interface::poll`, from the packets received and the sockets to the sockets and the packets
transmitted. It leaves every socket in its slot. -/
structure Poll (S : Type) where
  run : List Bytes → SocketSet S → SocketSet S × List Bytes
  isSome_get : ∀ rx set h,
    (SocketSet.get (run rx set).1 h).isSome = (SocketSet.get set h).isSome

namespace StackCore

variable {S : Type}

/-- `StackCore::new`. -/
def new (cfg : StackConfig) : StackCore S :=
  ⟨[], [], [], ⟨∅⟩, ∅, ∅, [], [], cfg, 0, 0, 0, 0, 0, [], 0, false, 0, 0⟩

variable (api : TcpApi S) (s : StackCore S)

/-- `sockets.get` of each of the handles; it panics where there is no socket. -/
def touch (handles : List ℕ) : StackCore S :=
  { s with panicked := s.panicked || handles.any fun h => (s.sockets.get h).isNone }

/-! ## Packets -/

/-- `inject_listener`. -/
def injectListener (src dst : SocketAddr) : StackCore S :=
  match api.listen (api.new s.cfg.tcpBufferBytes) dst with
  | none => { s with nat := s.nat.disarm src dst }
  | some socket =>
    { s with
      sockets := s.sockets.add (api.setTimeout socket (some HANDSHAKE_TIMEOUT))
      pending := s.pending.insert s.sockets.firstFree ⟨src, dst, s.lastStep⟩ }

/-- All that injecting a listener can change. -/
theorem injectListener_changes (src dst : SocketAddr) : ∃ sockets nat pending,
    s.injectListener api src dst =
      { s with sockets := sockets, nat := nat, pending := pending } := by
  rw [injectListener]
  split <;> exact ⟨_, _, _, rfl⟩

/-- `device.push_rx`. -/
def pushRx (packet : Bytes) (injected : Bool) : StackCore S :=
  { s with rx := s.rx ++ [⟨packet, injected⟩], queued := s.queued + 1 }

/-- `ingest`. -/
def ingest (wire : Wire) (packet : Bytes) : StackCore S :=
  match inspect wire packet with
  | .tcpSyn src dst =>
    -- a retransmit: the listener for this 4-tuple already exists
    if s.nat.isArmed src dst then s.pushRx packet false
    else if MAX_PENDING_LISTENERS ≤ HandleMap.len s.pending then
      { s with synDropped := s.synDropped + 1 }
    else
      let (fresh, nat) := s.nat.arm src dst
      let s := { s with nat := nat }
      if fresh then
        (s.injectListener api src dst).pushRx packet
          (api.listen (api.new s.cfg.tcpBufferBytes) dst).isSome
      else s.pushRx packet false
  | .tcpOther _ _ => s.pushRx packet false
  | .udp src dst payload =>
    if dst.port = 53 then
      { s with datagrams := s.datagrams ++ [⟨src, dst, payload⟩], surfaced := s.surfaced + 1 }
    else { s with udpDropped := s.udpDropped + 1 }
  | .ignored => { s with malformedDropped := s.malformedDropped + 1 }

/-- What `ingest` can do, case by case. -/
theorem ingest_elim {wire : Wire} {motive : StackCore S → Prop} (packet : Bytes)
    (armed : ∀ src dst, inspect wire packet = .tcpSyn src dst → s.nat.isArmed src dst = true →
      motive (s.pushRx packet false))
    (full : ∀ src dst, inspect wire packet = .tcpSyn src dst → s.nat.isArmed src dst = false →
      MAX_PENDING_LISTENERS ≤ HandleMap.len s.pending →
        motive { s with synDropped := s.synDropped + 1 })
    (fresh : ∀ src dst, inspect wire packet = .tcpSyn src dst → s.nat.isArmed src dst = false →
      HandleMap.len s.pending < MAX_PENDING_LISTENERS →
        motive (({ s with nat := (s.nat.arm src dst).2 }.injectListener api src dst).pushRx packet
          (api.listen (api.new s.cfg.tcpBufferBytes) dst).isSome))
    (other : ∀ src dst, inspect wire packet = .tcpOther src dst → motive (s.pushRx packet false))
    (dns : ∀ src dst payload, inspect wire packet = .udp src dst payload → dst.port = 53 →
      motive { s with
        datagrams := s.datagrams ++ [⟨src, dst, payload⟩]
        surfaced := s.surfaced + 1 })
    (udp : ∀ src dst payload, inspect wire packet = .udp src dst payload → dst.port ≠ 53 →
      motive { s with udpDropped := s.udpDropped + 1 })
    (ignored : inspect wire packet = .ignored →
      motive { s with malformedDropped := s.malformedDropped + 1 }) :
    motive (s.ingest api wire packet) := by
  rw [ingest]
  split
  · rename_i src dst hp
    split
    · exact armed src dst hp ‹_›
    · rename_i hnew
      rw [Bool.not_eq_true] at hnew
      split
      · exact full src dst hp hnew ‹_›
      · have hfresh := fresh src dst hp hnew (not_le.1 ‹_›)
        simpa only [NatTable.arm, hnew, Bool.not_false, if_true] using hfresh
  · rename_i src dst hp
    exact other src dst hp
  · rename_i src dst payload hp
    split
    · exact dns src dst payload hp ‹_›
    · exact udp src dst payload hp ‹_›
  · exact ignored ‹_›

/-! ## The passes of a step -/

/-- A loop over the flows, each with its socket; the rounds of the loop touch different sockets. -/
def forFlows (f : Cell S → Cell S) : StackCore S :=
  { s.touch s.flows.keys with
    sockets := s.sockets.mapIdx fun h o => o.map fun sk =>
      match s.flows.lookup h with
      | some fl => (f ⟨sk, fl⟩).socket
      | none => sk
    flows := HandleMap.mapVal (fun h fl =>
      match s.sockets.get h with
      | some sk => (f ⟨sk, fl⟩).flow
      | none => fl) s.flows }

theorem get_forFlows (f : Cell S → Cell S) (h : ℕ) :
    (s.forFlows f).sockets.get h = (s.sockets.get h).map fun sk =>
      match s.flows.lookup h with
      | some fl => (f ⟨sk, fl⟩).socket
      | none => sk := by
  simp only [forFlows, SocketSet.get, List.getElem?_mapIdx]
  cases s.sockets[h]? <;> rfl

theorem lookup_forFlows (f : Cell S → Cell S) (h : ℕ) :
    (s.forFlows f).flows.lookup h = (s.flows.lookup h).map fun fl =>
      match s.sockets.get h with
      | some sk => (f ⟨sk, fl⟩).flow
      | none => fl :=
  HandleMap.lookup_mapVal _ _ _

/-- `abort_expired_flows`. -/
def abortExpiredFlows : StackCore S := s.forFlows fun c => c.abortExpired api s.lastStep

/-- `pump_outbound`. -/
def pumpOutbound : StackCore S := s.forFlows fun c => c.pumpOutbound api s.lastStep

/-- `iface.poll`, which empties the device's receive queue. The traces note what it did to the
flows' sockets. -/
def poll (p : Poll S) : StackCore S :=
  let (sockets, tx) := p.run (s.rx.map Queued.packet) s.sockets
  { s with
    sockets := sockets
    rx := []
    tx := s.tx ++ tx
    flows := HandleMap.mapVal (fun h fl =>
      match s.sockets.get h, SocketSet.get sockets h with
      | some sk, some sk' => fl.polled api sk sk'
      | _, _ => fl) s.flows }

/-- The state of the socket of a handle meets a condition. -/
def stateIs (h : ℕ) (cond : TcpState → Bool) : Bool :=
  (s.sockets.get h).any fun sk => cond (api.state sk)

/-- The listeners `sweep_stale_listeners` releases. -/
def staleListeners : List ℕ :=
  s.pending.keys.filter fun h =>
    s.stateIs api h (· == .listen) &&
      (s.pending.lookup h).any fun p => decide (p.injectedAt + HANDSHAKE_TIMEOUT ≤ s.lastStep)

/-- A listener is taken out of every table. -/
def dropPending (h : ℕ) : StackCore S :=
  match s.pending.lookup h with
  | none => { s with panicked := true }
  | some p =>
    { s.touch [h] with
      pending := s.pending.erase h
      nat := s.nat.disarm p.src p.dst
      sockets := s.sockets.remove h }

/-- All that dropping a listener can change. -/
theorem dropPending_changes (h : ℕ) : ∃ sockets nat pending panicked, s.dropPending h =
    { s with sockets := sockets, nat := nat, pending := pending, panicked := panicked } := by
  rw [dropPending]
  split <;> exact ⟨_, _, _, _, rfl⟩

/-- `sweep_stale_listeners`. -/
def sweepStaleListeners : StackCore S :=
  (s.staleListeners api).foldl dropPending (s.touch s.pending.keys)

/-- The listeners `promote_accepted` takes: those past their handshake, or past hope of one. -/
def readyListeners : List ℕ :=
  s.pending.keys.filter fun h => s.stateIs api h fun st => st != .listen && st != .synReceived

/-- The body of `promote_accepted` for one handle. -/
def promote (h : ℕ) : StackCore S :=
  match s.pending.lookup h, s.sockets.get h with
  | some p, some sk =>
    if api.isActive sk then
      let sk := api.setTimeout sk none
      let realSrc := (api.remoteEndpoint sk).getD p.src
      let realDst := (api.localEndpoint sk).getD p.dst
      { s with
        pending := s.pending.erase h
        nat := s.nat.disarm p.src p.dst
        sockets := s.sockets.put h sk
        flows := s.flows.insert h
          ⟨realSrc, realDst, s.nextStream, none, s.lastStep, none,
            (localStreamPair s.cfg.channelDepth).accept (api.recvBuffer sk)⟩
        accepts := s.accepts ++ [⟨realSrc, realDst, s.nextStream⟩]
        nextStream := s.nextStream + 1 }
    -- the listener timed out or was reset before establishing
    else s.dropPending h
  | _, _ => { s with panicked := true }

/-- All that promoting a listener can change. -/
theorem promote_changes (h : ℕ) : ∃ sockets nat pending flows accepts nextStream panicked,
    s.promote api h =
      { s with
        sockets := sockets, nat := nat, pending := pending, flows := flows, accepts := accepts
        nextStream := nextStream, panicked := panicked } := by
  rw [promote]
  split
  · split
    · exact ⟨_, _, _, _, _, _, _, rfl⟩
    · obtain ⟨sockets, nat, pending, panicked, hdrop⟩ := s.dropPending_changes h
      exact ⟨sockets, nat, pending, _, _, _, panicked, hdrop⟩
  · exact ⟨_, _, _, _, _, _, _, rfl⟩

/-- `promote_accepted`. -/
def promoteAccepted : StackCore S :=
  (s.readyListeners api).foldl (promote api) (s.touch s.pending.keys)

/-- `pump_inbound`. -/
def pumpInbound : StackCore S := s.forFlows fun c => c.pumpInbound api s.lastStep

/-- `observe_flow_states`. -/
def observeFlowStates : StackCore S := s.forFlows fun c => c.observe api s.lastStep

/-- The bytes of a flow that vanish with it: in `pending_out`, in `from_stream`, and those the
socket took and has not had acknowledged. -/
def lost (f : Flow) (sk : S) : ℕ :=
  (f.pendingOut.elim 0 fun p => p.1.length - p.2) + (f.link.outbound.queue.map List.length).sum +
    api.sendQueue sk

/-- `retire_flow`. -/
def retireFlow (h : ℕ) : StackCore S :=
  match s.flows.lookup h, s.sockets.get h with
  | some f, some sk =>
    { s with
      flows := s.flows.erase h
      bytesDiscarded := s.bytesDiscarded + lost api f sk
      retired := s.retired ++ [f.retire (api.recvBuffer sk)]
      sockets := s.sockets.remove h }
  | none, some _ => { s with sockets := s.sockets.remove h }
  | _, none => { s with panicked := true }

/-- All that retiring a flow can change. -/
theorem retireFlow_changes (h : ℕ) : ∃ sockets flows bytesDiscarded retired panicked,
    s.retireFlow api h =
      { s with
        sockets := sockets, flows := flows, bytesDiscarded := bytesDiscarded, retired := retired
        panicked := panicked } := by
  rw [retireFlow]
  split <;> exact ⟨_, _, _, _, _, rfl⟩

/-- The flows `reap_closed` retires. -/
def deadFlows : List ℕ := s.flows.keys.filter fun h => s.stateIs api h (· == .closed)

/-- `reap_closed`. -/
def reapClosed : StackCore S := (s.deadFlows api).foldl (retireFlow api) (s.touch s.flows.keys)

/-- `StackCore::step`, at time `now` and with the poll that is given. -/
def step (now : ℕ) (p : Poll S) : StackCore S :=
  let s := { s with lastStep := now }
  let s := s.abortExpiredFlows api
  let s := s.pumpOutbound api
  let s := s.poll api p
  let s := s.sweepStaleListeners api
  let s := s.promoteAccepted api
  let s := s.pumpInbound api
  let s := s.observeFlowStates api
  s.reapClosed api

/-- An operation of the `LocalStream` numbered `n`, whose flow may be retired already. -/
def stream (n : ℕ) (op : StreamOp) : StackCore S :=
  { s with
    flows := HandleMap.mapVal (fun _ f => f.useStream n op) s.flows
    retired := s.retired.map fun f => f.useStream n op }

end StackCore

/-! ## The machine -/

/-- Where the loop is: between two steps, or before one of the passes of a step. -/
inductive Phase
  | idle
  | abort
  | pumpOutbound
  | poll
  | sweep
  | promote
  | pumpInbound
  | observe
  | reap
  deriving DecidableEq, Repr

/-- The core and where its loop is. -/
structure Loop (S : Type) where
  core : StackCore S
  phase : Phase
  deriving DecidableEq

/-- One thing that happens to the stack. -/
inductive Event (S : Type)
  /-- `ingest` is called. -/
  | ingest (packet : Bytes)
  /-- `step` is called. -/
  | begin (now : ℕ)
  /-- The next pass of the step, unless it is the poll. -/
  | pass
  /-- The poll. -/
  | poll (p : Poll S)
  /-- A `LocalStream` is used. -/
  | stream (n : ℕ) (op : StreamOp)
  /-- The loop takes the transmitted packets, the accepted flows and the datagrams. -/
  | drain

namespace Loop

variable {S : Type}

/-- Before the first packet. -/
def start (cfg : StackConfig) : Loop S := ⟨.new cfg, .idle⟩

/-- The machine, one event at a time. -/
def next (wire : Wire) (api : TcpApi S) (l : Loop S) : Event S → Option (Loop S)
  | .ingest packet => if l.phase = .idle then some ⟨l.core.ingest api wire packet, .idle⟩ else none
  | .begin now =>
    if l.phase = .idle then some ⟨{ l.core with lastStep := now }, .abort⟩ else none
  | .pass =>
    match l.phase with
    | .idle | .poll => none
    | .abort => some ⟨l.core.abortExpiredFlows api, .pumpOutbound⟩
    | .pumpOutbound => some ⟨l.core.pumpOutbound api, .poll⟩
    | .sweep => some ⟨l.core.sweepStaleListeners api, .promote⟩
    | .promote => some ⟨l.core.promoteAccepted api, .pumpInbound⟩
    | .pumpInbound => some ⟨l.core.pumpInbound api, .observe⟩
    | .observe => some ⟨l.core.observeFlowStates api, .reap⟩
    | .reap => some ⟨l.core.reapClosed api, .idle⟩
  | .poll p => if l.phase = .poll then some ⟨l.core.poll api p, .sweep⟩ else none
  | .stream n op => some ⟨l.core.stream n op, l.phase⟩
  | .drain =>
    if l.phase = .idle then some ⟨{ l.core with tx := [], accepts := [], datagrams := [] }, .idle⟩
    else none

/-- What an event can do, case by case. -/
@[elab_as_elim]
theorem next_elim {wire : Wire} {api : TcpApi S} {l l' : Loop S} {e : Event S}
    {motive : Event S → Loop S → Prop} (h : l.next wire api e = some l')
    (ingest : ∀ packet, l.phase = .idle →
      motive (.ingest packet) ⟨l.core.ingest api wire packet, .idle⟩)
    (start : ∀ now, l.phase = .idle →
      motive (.begin now) ⟨{ l.core with lastStep := now }, .abort⟩)
    (abort : l.phase = .abort → motive .pass ⟨l.core.abortExpiredFlows api, .pumpOutbound⟩)
    (pumpOutbound : l.phase = .pumpOutbound → motive .pass ⟨l.core.pumpOutbound api, .poll⟩)
    (poll : ∀ p, l.phase = .poll → motive (.poll p) ⟨l.core.poll api p, .sweep⟩)
    (sweep : l.phase = .sweep → motive .pass ⟨l.core.sweepStaleListeners api, .promote⟩)
    (promote : l.phase = .promote → motive .pass ⟨l.core.promoteAccepted api, .pumpInbound⟩)
    (pumpInbound : l.phase = .pumpInbound → motive .pass ⟨l.core.pumpInbound api, .observe⟩)
    (observe : l.phase = .observe → motive .pass ⟨l.core.observeFlowStates api, .reap⟩)
    (reap : l.phase = .reap → motive .pass ⟨l.core.reapClosed api, .idle⟩)
    (stream : ∀ n op, motive (.stream n op) ⟨l.core.stream n op, l.phase⟩)
    (drain : l.phase = .idle →
      motive .drain ⟨{ l.core with tx := [], accepts := [], datagrams := [] }, .idle⟩) :
    motive e l' := by
  cases e with
  | stream n op =>
    obtain rfl := Option.some.inj h
    exact stream n op
  | pass =>
    simp only [next] at h
    split at h <;> cases h <;> rename_i hp
    · exact abort hp
    · exact pumpOutbound hp
    · exact sweep hp
    · exact promote hp
    · exact pumpInbound hp
    · exact observe hp
    · exact reap hp
  | ingest packet =>
    simp only [next] at h
    split at h <;> cases h
    exact ingest packet ‹_›
  | «begin» now =>
    simp only [next] at h
    split at h <;> cases h
    exact start now ‹_›
  | poll p =>
    simp only [next] at h
    split at h <;> cases h
    exact poll p ‹_›
  | drain =>
    simp only [next] at h
    split at h <;> cases h
    exact drain ‹_›

/-- The events of a call of `step`. -/
def stepEvents (now : ℕ) (p : Poll S) : List (Event S) :=
  [.begin now, .pass, .pass, .poll p, .pass, .pass, .pass, .pass, .pass]

/-- **The passes in a row are `step`.** -/
theorem run_step (wire : Wire) (api : TcpApi S) (s : StackCore S) (now : ℕ) (p : Poll S) :
    Runs.run (next wire api) ⟨s, .idle⟩ (stepEvents now p) = some ⟨s.step api now p, .idle⟩ := rfl

end Loop

end LiosTunnel.Stack
