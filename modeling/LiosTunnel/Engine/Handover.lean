import LiosTunnel.Lib.Channel
import LiosTunnel.Stack.Flows
import LiosTunnel.Stack.Reference

/-!
# From the stack's thread to the engine's tasks

The thread of `SmoltcpStack::start` goes round a loop: it reads the device, takes a step and hands
over what the step accepted, flows through one bounded channel and DNS queries through another. What
does not fit the first stays in a backlog. `Engine::run` takes from both channels until both are
closed and drained, and spawns a task for each item. The thread, the engine and the streams' users
take turns in any order; what the device and the poller answer is in the events.

* `afterWait`: when the thread gives up.
* `Handover`, `Handover.next`: the thread, the channels and the engine.
* `Conserved`: where each promoted flow is, and what the channels tell the engine.
* `spawned_of_fair`: with a thread that goes round and an engine that is scheduled, every promoted
  flow gets its task.
-/

namespace LiosTunnel.Engine

open Runs Stack

/-- `AfterWait`. -/
inductive AfterWait
  | «continue»
  | backoff
  | giveUp
  deriving DecidableEq, Repr

/-- Consecutive failures of the poller before the thread gives up. -/
def MAX_WAIT_FAILURES : ℕ := 10

/-- `after_wait`, with the counter it leaves. -/
def afterWait (failed : Bool) (consecutive : ℕ) : AfterWait × ℕ :=
  if !failed then (.continue, 0)
  else if MAX_WAIT_FAILURES ≤ consecutive + 1 then (.giveUp, consecutive + 1)
  else (.backoff, consecutive + 1)

/-- Where the thread is in its loop. -/
inductive Position
  | top
  | reading
  | stepping
  /-- Before the next round of the loop over the backlog. -/
  | flows
  /-- Before the next round of the loop over these datagrams. -/
  | datagrams (rest : List Datagram)
  | waiting
  | exited
  deriving DecidableEq, Repr

/-- Whether `Engine::run` is going on, has returned or was cut short. -/
inductive Status
  | running
  | returned
  | aborted
  deriving DecidableEq, Repr

/-- The thread, the two channels and the engine. The last five fields are ghosts: the flows the
stack has promoted, what was sent into the channels, and what the engine has spawned tasks for. -/
structure Handover (S : Type) where
  stack : Loop S
  position : Position
  backlog : List TcpFlow
  waitFailures : ℕ
  shutdown : Bool
  tcp : Channel TcpFlow
  udp : Channel Datagram
  engine : Status
  tcpOpen : Bool
  udpOpen : Bool
  activeFlows : ℕ
  promoted : List TcpFlow
  flowsQueued : List TcpFlow
  datagramsQueued : List Datagram
  flowsSpawned : List TcpFlow
  queriesSpawned : List Datagram
  deriving DecidableEq

/-- One thing that happens to the thread, the channels or the engine. -/
inductive HandoverEvent (S : Type)
  /-- To the stack: the thread ingests a packet or goes on with the step, or a stream is used. -/
  | stack (e : Event S)
  /-- The thread goes on, other than within the step. -/
  | advance
  /-- `poller.wait` returns. -/
  | wait (failed : Bool)
  /-- `ShutdownHandle::shutdown`. -/
  | shutdown
  /-- The thread is gone, and a sender with it. -/
  | dropTcp
  | dropUdp
  /-- A branch of `select!`. -/
  | recvFlow
  | recvDatagram
  /-- The loop of `Engine::run` is over. -/
  | «return»
  /-- The engine's task is aborted, or panics. -/
  | abort
  /-- A flow's task is over. -/
  | flowEnded

namespace Handover

variable {S : Type}

/-- After `SmoltcpStack::start`. -/
def start (cfg : StackConfig) : Handover S where
  stack := .start cfg
  position := .top
  backlog := []
  waitFailures := 0
  shutdown := false
  tcp := .new cfg.channelDepth
  udp := .new cfg.channelDepth
  engine := .running
  tcpOpen := true
  udpOpen := true
  activeFlows := 0
  promoted := []
  flowsQueued := []
  datagramsQueued := []
  flowsSpawned := []
  queriesSpawned := []

/-- The stack has gone on; what it accepted on the way was promoted. -/
def observe (p : Handover S) (l : Loop S) : Handover S :=
  { p with
    stack := l
    promoted := p.promoted ++ l.core.accepts.drop p.stack.core.accepts.length }

/-- The thread leaves its loop, and drops what it could not hand over. -/
def exit (p : Handover S) : Handover S := { p with position := .exited, backlog := [] }

/-- `drain_tx` and `backlog.extend(core.take_accepts())`. -/
def takeAccepts (p : Handover S) : Handover S :=
  { p with
    position := .flows
    backlog := p.backlog ++ p.stack.core.accepts
    stack := { p.stack with core := { p.stack.core with tx := [], accepts := [] } } }

/-- `core.take_datagrams()`. -/
def takeDatagrams (p : Handover S) : Handover S :=
  { p with
    position := .datagrams p.stack.core.datagrams
    stack := { p.stack with core := { p.stack.core with datagrams := [] } } }

/-- One round of the loop over the backlog. -/
def sendFlow (p : Handover S) : Handover S :=
  match p.backlog with
  | [] => p.takeDatagrams
  | flow :: backlog =>
    match p.tcp.tryReserve with
    | .permit =>
      { p with
        backlog := backlog
        tcp := p.tcp.send flow
        flowsQueued := p.flowsQueued ++ [flow] }
    -- the flow goes back to the front
    | .full => p.takeDatagrams
    | .closed => p.exit

/-- One round of the loop over the datagrams. -/
def sendDatagram (p : Handover S) : List Datagram → Handover S
  | [] => { p with position := .waiting }
  | dg :: rest =>
    match p.udp.tryReserve with
    | .permit =>
      { p with
        position := .datagrams rest
        udp := p.udp.send dg
        datagramsQueued := p.datagramsQueued ++ [dg] }
    -- the others are dropped with it
    | .full | .closed => { p with position := .waiting }

/-- `spawn_flow`, of the oldest flow in the channel. -/
def spawnFlow (p : Handover S) (flow : TcpFlow) (tcp : Channel TcpFlow) : Handover S :=
  { p with
    tcp := tcp
    activeFlows := p.activeFlows + 1
    flowsSpawned := p.flowsSpawned ++ [flow] }

/-- `spawn_dns_query`, of the oldest datagram in the channel. -/
def spawnDnsQuery (p : Handover S) (dg : Datagram) (udp : Channel Datagram) : Handover S :=
  { p with udp := udp, queriesSpawned := p.queriesSpawned ++ [dg] }

/-- `Engine::run` is over, and its receivers are dropped. -/
def stop (p : Handover S) (engine : Status) : Handover S :=
  { p with engine := engine, tcp := p.tcp.dropReceiver, udp := p.udp.dropReceiver }

/-- The thread and the engine, one event at a time. -/
def next (wire : Wire) (api : TcpApi S) (p : Handover S) : HandoverEvent S → Option (Handover S)
  | .stack e =>
    match p.position, e with
    | _, .stream _ _ | .reading, .ingest _ | .stepping, .pass | .stepping, .poll _ =>
      (p.stack.next wire api e).map p.observe
    | .reading, .begin _ =>
      (p.stack.next wire api e).map fun l => { p.observe l with position := .stepping }
    | _, _ => none
  | .advance =>
    match p.position with
    | .top => some (if p.shutdown then p.exit else { p with position := .reading })
    | .stepping => if p.stack.phase = .idle then some p.takeAccepts else none
    | .flows => some p.sendFlow
    | .datagrams rest => some (p.sendDatagram rest)
    | _ => none
  | .wait failed =>
    if p.position = .waiting then
      let (after, waitFailures) := afterWait failed p.waitFailures
      let p := { p with position := .top, waitFailures := waitFailures }
      some (if after = .giveUp then p.exit else p)
    else none
  | .shutdown => some { p with shutdown := true }
  | .dropTcp => if p.position = .exited then some { p with tcp := p.tcp.dropSender } else none
  | .dropUdp => if p.position = .exited then some { p with udp := p.udp.dropSender } else none
  | .recvFlow =>
    if p.engine = .running ∧ p.tcpOpen = true then
      match p.tcp.tryRecv with
      | (.item flow, tcp) => some (p.spawnFlow flow tcp)
      | (.disconnected, _) => some { p with tcpOpen := false }
      | (.empty, _) => none
    else none
  | .recvDatagram =>
    if p.engine = .running ∧ p.udpOpen = true then
      match p.udp.tryRecv with
      | (.item dg, udp) => some (p.spawnDnsQuery dg udp)
      | (.disconnected, _) => some { p with udpOpen := false }
      | (.empty, _) => none
    else none
  | .return =>
    if p.engine = .running ∧ p.tcpOpen = false ∧ p.udpOpen = false then some (p.stop .returned)
    else none
  | .abort => if p.engine = .running then some (p.stop .aborted) else none
  | .flowEnded =>
    if 0 < p.activeFlows then some { p with activeFlows := p.activeFlows - 1 } else none

/-- A sender is dropped once the thread has left its loop. -/
theorem next_dropTcp {wire : Wire} {api : TcpApi S} {p p' : Handover S}
    (hn : p.next wire api .dropTcp = some p') :
    p.position = .exited ∧ p' = { p with tcp := p.tcp.dropSender } := by
  simp only [next] at hn
  split at hn
  · exact ⟨‹_›, (Option.some.inj hn).symm⟩
  · cases hn

theorem next_dropUdp {wire : Wire} {api : TcpApi S} {p p' : Handover S}
    (hn : p.next wire api .dropUdp = some p') :
    p.position = .exited ∧ p' = { p with udp := p.udp.dropSender } := by
  simp only [next] at hn
  split at hn
  · exact ⟨‹_›, (Option.some.inj hn).symm⟩
  · cases hn

end Handover

/-! ## A channel and its two ends -/

/-- What went into a channel and came out of it, whether its sender has left the loop, how the
engine does and whether it still asks the channel. -/
structure Ledger {α : Type} (c : Channel α) (sent received : List α) (exited : Prop)
    (engine : Status) (asks : Bool) : Prop where
  kept : engine ≠ .aborted → received ++ c.queue = sent
  inOrder : received <+: sent
  receiver : engine = .running ↔ c.receiverGone = false
  sender : c.senderGone = true → exited
  drained : asks = false → c.senderGone = true ∧ c.queue = []

namespace Ledger

variable {α : Type} {c : Channel α} {sent received : List α} {exited exited' : Prop}
  {engine engine' : Status} {asks : Bool}

theorem new (depth : ℕ) : Ledger (.new depth : Channel α) [] [] exited .running true :=
  ⟨fun _ => rfl, List.prefix_rfl, ⟨fun _ => rfl, fun _ => rfl⟩, fun h => (nomatch h),
    fun h => (nomatch h)⟩

theorem send (h : Ledger c sent received exited engine asks) (hin : ¬ exited) (x : α) :
    Ledger (c.send x) (sent ++ [x]) received exited engine asks where
  kept hne := by
    rw [← h.kept hne, List.append_assoc]
    rfl
  inOrder := h.inOrder.trans (List.prefix_append _ _)
  receiver := h.receiver
  sender := h.sender
  drained hasks := absurd (h.sender (h.drained hasks).1) hin

theorem recv (h : Ledger c sent received exited .running asks) {x : α} {q : List α}
    (hq : c.queue = x :: q) :
    Ledger { c with queue := q } sent (received ++ [x]) exited .running asks where
  kept hne := by
    rw [← h.kept hne, hq, List.append_assoc]
    rfl
  inOrder := by
    rw [← h.kept (by decide), hq]
    exact ⟨q, List.append_assoc _ _ _⟩
  receiver := h.receiver
  sender := h.sender
  drained hasks := absurd (h.drained hasks).2 (by rw [hq]; exact List.cons_ne_nil _ _)

theorem close (h : Ledger c sent received exited .running asks) (hq : c.queue = [])
    (hclosed : c.isClosed = true) : Ledger c sent received exited .running false where
  kept := h.kept
  inOrder := h.inOrder
  receiver := h.receiver
  sender := h.sender
  drained _ := by
    rw [Channel.isClosed, h.receiver.1 rfl, Bool.or_false] at hclosed
    exact ⟨hclosed, hq⟩

theorem stop (h : Ledger c sent received exited .running asks) (hne : engine ≠ .running)
    (hdrained : engine ≠ .aborted → asks = false) :
    Ledger c.dropReceiver sent received exited engine asks where
  kept hend := by
    rw [← h.kept (by decide), (h.drained (hdrained hend)).2]
    rfl
  inOrder := h.inOrder
  receiver := ⟨fun hrun => absurd hrun hne, fun hgone => (nomatch hgone)⟩
  sender := h.sender
  drained hasks := ⟨(h.drained hasks).1, rfl⟩

theorem dropSender (h : Ledger c sent received exited engine asks) (hout : exited) :
    Ledger c.dropSender sent received exited engine asks :=
  ⟨h.kept, h.inOrder, h.receiver, fun _ => hout, fun hasks => ⟨rfl, (h.drained hasks).2⟩⟩

theorem mono (h : Ledger c sent received exited engine asks) (hexit : exited → exited') :
    Ledger c sent received exited' engine asks :=
  ⟨h.kept, h.inOrder, h.receiver, fun hgone => hexit (h.sender hgone), h.drained⟩

end Ledger

/-! ## Where the flows are -/

/-- The system is in service: nobody has asked the thread to stop, the engine is there, and the
poller has not failed too often. -/
structure Handover.InService {S : Type} (p : Handover S) : Prop where
  notShutdown : p.shutdown = false
  running : p.engine = .running
  waits : p.waitFailures < MAX_WAIT_FAILURES

instance {S : Type} (p : Handover S) : Decidable p.InService :=
  decidable_of_iff (p.shutdown = false ∧ p.engine = .running ∧ p.waitFailures < MAX_WAIT_FAILURES)
    ⟨fun ⟨h, h', h''⟩ => ⟨h, h', h''⟩, fun ⟨h, h', h''⟩ => ⟨h, h', h''⟩⟩

/-- What holds between events. -/
structure Conserved {S : Type} (p : Handover S) : Prop where
  numbered : p.promoted.map TcpFlow.stream = List.range p.stack.core.nextStream
  inOrder : p.flowsQueued <+: p.promoted
  held : p.position ≠ .exited → p.flowsQueued ++ p.backlog ++ p.stack.core.accepts = p.promoted
  flows : Ledger p.tcp p.flowsQueued p.flowsSpawned (p.position = .exited) p.engine p.tcpOpen
  datagrams :
    Ledger p.udp p.datagramsQueued p.queriesSpawned (p.position = .exited) p.engine p.udpOpen
  returned : p.engine = .returned → p.tcpOpen = false ∧ p.udpOpen = false
  exits : p.position = .exited →
    p.shutdown = true ∨ p.engine ≠ .running ∨ MAX_WAIT_FAILURES ≤ p.waitFailures

namespace Conserved

variable {S : Type} {p : Handover S} {wire : Wire} {api : TcpApi S}

theorem start (cfg : StackConfig) : Conserved (.start cfg : Handover S) :=
  ⟨rfl, List.prefix_rfl, fun _ => rfl, .new _, .new _, fun h => (nomatch h), fun h => (nomatch h)⟩

theorem position_ne_exited (h : Conserved p) (hin : p.InService) : p.position ≠ .exited := by
  intro hexited
  obtain hdown | hgone | hfailed := h.exits hexited
  · rw [hin.notShutdown] at hdown
    cases hdown
  · exact hgone hin.running
  · exact absurd hin.waits (by omega)

/-- What is queued has a task or is in the channel. -/
theorem spawned_add_queue (h : Conserved p) (hin : p.InService) :
    p.flowsSpawned.length + p.tcp.queue.length = p.flowsQueued.length := by
  rw [← h.flows.kept (by rw [hin.running]; decide), List.length_append]

/-- The thread leaves its loop for one of the reasons. -/
theorem exit (h : Conserved p) (hwhy : p.shutdown = true ∨ p.engine ≠ .running ∨
    MAX_WAIT_FAILURES ≤ p.waitFailures) : Conserved p.exit :=
  ⟨h.numbered, h.inOrder, fun hne => absurd rfl hne, h.flows.mono fun _ => rfl,
    h.datagrams.mono fun _ => rfl, h.returned, fun _ => hwhy⟩

/-- The thread goes on within its loop. -/
theorem move (h : Conserved p) {position : Position} (hin : p.position ≠ .exited)
    (hto : position ≠ .exited) : Conserved { p with position := position } :=
  ⟨h.numbered, h.inOrder, fun _ => h.held hin, h.flows.mono fun hexited => absurd hexited hin,
    h.datagrams.mono fun hexited => absurd hexited hin, h.returned,
    fun hexited => absurd hexited hto⟩

/-- The stack goes on. -/
theorem observe (h : Conserved p) {l : Loop S} (hl : Promotes p.stack.core l.core) :
    Conserved (p.observe l) := by
  obtain ⟨fs, haccepts, hstreams, hnext⟩ := hl
  have hdrop : l.core.accepts.drop p.stack.core.accepts.length = fs := by
    rw [haccepts, List.drop_left]
  refine ⟨?_, ?_, fun hne => ?_, h.flows, h.datagrams, h.returned, h.exits⟩
  · show (p.promoted ++ _).map TcpFlow.stream = List.range l.core.nextStream
    rw [hdrop, List.map_append, h.numbered, hstreams, hnext, List.range_eq_range',
      List.range_eq_range', ← List.range'_append_1, Nat.zero_add]
  · exact h.inOrder.trans (List.prefix_append _ _)
  · show p.flowsQueued ++ p.backlog ++ l.core.accepts = p.promoted ++ _
    rw [hdrop, haccepts, ← h.held hne, List.append_assoc, List.append_assoc, List.append_assoc]

theorem takeAccepts (h : Conserved p) (hin : p.position ≠ .exited) : Conserved p.takeAccepts := by
  refine ⟨h.numbered, h.inOrder, fun _ => ?_, h.flows.mono fun hexited => absurd hexited hin,
    h.datagrams.mono fun hexited => absurd hexited hin, h.returned,
    fun hexited => (nomatch hexited)⟩
  show p.flowsQueued ++ (p.backlog ++ p.stack.core.accepts) ++ [] = p.promoted
  rw [List.append_nil, ← List.append_assoc]
  exact h.held hin

theorem takeDatagrams (h : Conserved p) (hin : p.position ≠ .exited) : Conserved p.takeDatagrams :=
  ⟨h.numbered, h.inOrder, fun _ => h.held hin, h.flows.mono fun hexited => absurd hexited hin,
    h.datagrams.mono fun hexited => absurd hexited hin, h.returned,
    fun hexited => (nomatch hexited)⟩

theorem sendFlow (h : Conserved p) (hin : p.position ≠ .exited) : Conserved p.sendFlow := by
  rw [Handover.sendFlow]
  split
  · exact h.takeDatagrams hin
  · rename_i flow backlog hbacklog
    have hheld := h.held hin
    rw [hbacklog] at hheld
    cases hreserve : p.tcp.tryReserve with
    | permit =>
      refine ⟨h.numbered, ?_, fun _ => ?_, h.flows.send hin flow, h.datagrams, h.returned, h.exits⟩
      · rw [← hheld]
        exact ⟨backlog ++ p.stack.core.accepts, by simp⟩
      · rw [← hheld]
        simp
    | full => exact h.takeDatagrams hin
    | closed =>
      have hgone := Channel.tryReserve_eq_closed.1 hreserve
      refine h.exit (Or.inr (Or.inl fun hrun => ?_))
      rw [h.flows.receiver.1 hrun] at hgone
      cases hgone

theorem sendDatagram (h : Conserved p) {rest : List Datagram} (hin : p.position = .datagrams rest) :
    Conserved (p.sendDatagram rest) := by
  have hne : p.position ≠ .exited := by
    rw [hin]
    exact fun hexited => nomatch hexited
  have hwaiting : Conserved { p with position := .waiting } := h.move hne (by decide)
  cases rest with
  | nil => exact hwaiting
  | cons dg rest =>
    rw [Handover.sendDatagram]
    split
    · refine ⟨h.numbered, h.inOrder, fun _ => h.held hne,
        h.flows.mono fun hexited => absurd hexited hne,
        (h.datagrams.send hne dg).mono fun hexited => absurd hexited hne, h.returned,
        fun hexited => (nomatch hexited)⟩
    · exact hwaiting
    · exact hwaiting

/-- A round of the thread's loop. -/
theorem advance (h : Conserved p) {p' : Handover S} (hn : p.next wire api .advance = some p') :
    Conserved p' := by
  simp only [Handover.next] at hn
  split at hn
  · rename_i hp
    obtain rfl := Option.some.inj hn
    split
    · exact h.exit (Or.inl ‹_›)
    · exact h.move (by rw [hp]; decide) (by decide)
  · rename_i hp
    split at hn
    · obtain rfl := Option.some.inj hn
      exact h.takeAccepts (by rw [hp]; decide)
    · cases hn
  · rename_i hp
    obtain rfl := Option.some.inj hn
    exact h.sendFlow (by rw [hp]; decide)
  · rename_i rest hp
    obtain rfl := Option.some.inj hn
    exact h.sendDatagram hp
  · cases hn

theorem wait (h : Conserved p) {failed : Bool} {p' : Handover S}
    (hn : p.next wire api (.wait failed) = some p') : Conserved p' := by
  simp only [Handover.next] at hn
  split at hn
  · rename_i hp
    obtain rfl := Option.some.inj hn
    have hin : p.position ≠ .exited := by
      rw [hp]
      decide
    have hback : Conserved { p with
        position := .top
        waitFailures := (afterWait failed p.waitFailures).2 } :=
      ⟨h.numbered, h.inOrder, fun _ => h.held hin, h.flows.mono fun hexited => absurd hexited hin,
        h.datagrams.mono fun hexited => absurd hexited hin, h.returned,
        fun hexited => (nomatch hexited)⟩
    split
    · rename_i hgive
      refine hback.exit (Or.inr (Or.inr ?_))
      rw [afterWait] at hgive ⊢
      split at hgive
      · cases hgive
      · split at hgive
        · rename_i hcalm hmany
          rw [if_neg hcalm, if_pos hmany]
          exact hmany
        · cases hgive
    · exact hback
  · cases hn

/-- An event of the stack, or of a stream. -/
theorem stack (h : Conserved p) {e : Event S} {p' : Handover S}
    (hn : p.next wire api (.stack e) = some p') : Conserved p' := by
  have hone : ∀ {l}, e ≠ .drain → p.stack.next wire api e = some l → Conserved (p.observe l) :=
    fun he hl => h.observe (.next he hl)
  simp only [Handover.next] at hn
  split at hn
  case h_5 =>
    rename_i hp
    obtain ⟨l, hl, rfl⟩ := Option.map_eq_some_iff.1 hn
    have hin : (p.observe l).position ≠ .exited := by
      show p.position ≠ .exited
      rw [hp]
      decide
    exact (hone (by simp) hl).move hin (by decide)
  case h_6 => cases hn
  all_goals
    obtain ⟨l, hl, rfl⟩ := Option.map_eq_some_iff.1 hn
    exact hone (by simp) hl

/-- The engine's `select!` takes the branch of the flows. -/
theorem recvFlow (h : Conserved p) {p' : Handover S} (hn : p.next wire api .recvFlow = some p') :
    Conserved p' := by
  simp only [Handover.next] at hn
  split at hn
  · rename_i hrun
    have hflows := hrun.1 ▸ h.flows
    split at hn
    · rename_i flow tcp hrecv
      obtain ⟨q, hq, rfl⟩ := Channel.tryRecv_eq_item.1 hrecv
      obtain rfl := Option.some.inj hn
      refine ⟨h.numbered, h.inOrder, h.held, ?_, h.datagrams, h.returned, h.exits⟩
      exact hrun.1.symm ▸ hflows.recv hq
    · rename_i hrecv
      obtain ⟨hq, hclosed, -⟩ := Channel.tryRecv_eq_disconnected.1 hrecv
      obtain rfl := Option.some.inj hn
      refine ⟨h.numbered, h.inOrder, h.held, ?_, h.datagrams,
        fun hret => ⟨rfl, (h.returned hret).2⟩, h.exits⟩
      exact hrun.1.symm ▸ hflows.close hq hclosed
    · cases hn
  · cases hn

/-- It takes the branch of the datagrams. -/
theorem recvDatagram (h : Conserved p) {p' : Handover S}
    (hn : p.next wire api .recvDatagram = some p') : Conserved p' := by
  simp only [Handover.next] at hn
  split at hn
  · rename_i hrun
    have hdatagrams := hrun.1 ▸ h.datagrams
    split at hn
    · rename_i dg udp hrecv
      obtain ⟨q, hq, rfl⟩ := Channel.tryRecv_eq_item.1 hrecv
      obtain rfl := Option.some.inj hn
      refine ⟨h.numbered, h.inOrder, h.held, h.flows, ?_, h.returned, h.exits⟩
      exact hrun.1.symm ▸ hdatagrams.recv hq
    · rename_i hrecv
      obtain ⟨hq, hclosed, -⟩ := Channel.tryRecv_eq_disconnected.1 hrecv
      obtain rfl := Option.some.inj hn
      refine ⟨h.numbered, h.inOrder, h.held, h.flows, ?_,
        fun hret => ⟨(h.returned hret).1, rfl⟩, h.exits⟩
      exact hrun.1.symm ▸ hdatagrams.close hq hclosed
    · cases hn
  · cases hn

/-- The engine is over. -/
theorem stop (h : Conserved p) (hrun : p.engine = .running) {engine : Status}
    (hne : engine ≠ .running)
    (hdrained : engine ≠ .aborted → p.tcpOpen = false ∧ p.udpOpen = false) :
    Conserved (p.stop engine) := by
  have hflows := hrun ▸ h.flows
  have hdatagrams := hrun ▸ h.datagrams
  refine ⟨h.numbered, h.inOrder, h.held, hflows.stop hne fun hend => (hdrained hend).1,
    hdatagrams.stop hne fun hend => (hdrained hend).2, fun hret => hdrained ?_,
    fun _ => Or.inr (Or.inl hne)⟩
  rw [show engine = .returned from hret]
  decide

/-- One event keeps what holds. -/
theorem next (h : Conserved p) {e : HandoverEvent S} {p' : Handover S}
    (hn : p.next wire api e = some p') : Conserved p' := by
  cases e with
  | stack e => exact h.stack hn
  | advance => exact h.advance hn
  | wait failed => exact h.wait hn
  | shutdown =>
    obtain rfl := Option.some.inj hn
    exact ⟨h.numbered, h.inOrder, h.held, h.flows, h.datagrams, h.returned,
      fun _ => Or.inl rfl⟩
  | dropTcp =>
    obtain ⟨hexited, rfl⟩ := Handover.next_dropTcp hn
    exact ⟨h.numbered, h.inOrder, h.held, h.flows.dropSender hexited, h.datagrams, h.returned,
      h.exits⟩
  | dropUdp =>
    obtain ⟨hexited, rfl⟩ := Handover.next_dropUdp hn
    exact ⟨h.numbered, h.inOrder, h.held, h.flows, h.datagrams.dropSender hexited, h.returned,
      h.exits⟩
  | recvFlow => exact h.recvFlow hn
  | recvDatagram => exact h.recvDatagram hn
  | «return» =>
    simp only [Handover.next] at hn
    split at hn
    · rename_i hover
      obtain rfl := Option.some.inj hn
      exact h.stop hover.1 (by decide) fun _ => hover.2
    · cases hn
  | abort =>
    simp only [Handover.next] at hn
    split at hn
    · obtain rfl := Option.some.inj hn
      exact h.stop ‹_› (by decide) fun hne => absurd rfl hne
    · cases hn
  | flowEnded =>
    simp only [Handover.next] at hn
    split at hn
    · obtain rfl := Option.some.inj hn
      exact ⟨h.numbered, h.inOrder, h.held, h.flows, h.datagrams, h.returned, h.exits⟩
    · cases hn

theorem of_run {cfg : StackConfig} {es : List (HandoverEvent S)}
    (h : run (Handover.next wire api) (.start cfg) es = some p) : Conserved p :=
  run_invariant_of_step (fun _ _ _ hp hn => hp.next hn) (start cfg) h

end Conserved

/-! ## Every flow gets its task -/

section

variable {S : Type} {p p' p₁ : Handover S} {wire : Wire} {api : TcpApi S}

/-- What is promoted, queued and spawned only grows, and nothing leaves the backlog but into the
channel, as long as the thread is in its loop. -/
structure Grows (p p' : Handover S) : Prop where
  promoted : p.promoted <+: p'.promoted
  queued : p.flowsQueued <+: p'.flowsQueued
  spawned : p.flowsSpawned <+: p'.flowsSpawned
  taken : p'.position ≠ .exited →
    p.position ≠ .exited ∧ p.flowsQueued ++ p.backlog <+: p'.flowsQueued ++ p'.backlog
  depth : p'.tcp.depth = p.tcp.depth

namespace Grows

/-- The thread stands still, and no flow is taken. -/
theorem of_eq (hposition : p'.position = p.position) (hbacklog : p'.backlog = p.backlog)
    (hpromoted : p'.promoted = p.promoted) (hqueued : p'.flowsQueued = p.flowsQueued)
    (hspawned : p'.flowsSpawned = p.flowsSpawned) (hdepth : p'.tcp.depth = p.tcp.depth) :
    Grows p p' := by
  refine ⟨hpromoted ▸ List.prefix_rfl, hqueued ▸ List.prefix_rfl, hspawned ▸ List.prefix_rfl,
    fun hin => ⟨hposition ▸ hin, ?_⟩, hdepth⟩
  rw [hqueued, hbacklog]

theorem refl (p : Handover S) : Grows p p := of_eq rfl rfl rfl rfl rfl rfl

theorem trans (h : Grows p p₁) (h' : Grows p₁ p') : Grows p p' where
  promoted := h.promoted.trans h'.promoted
  queued := h.queued.trans h'.queued
  spawned := h.spawned.trans h'.spawned
  taken hin :=
    have hlast := h'.taken hin
    ⟨(h.taken hlast.1).1, (h.taken hlast.1).2.trans hlast.2⟩
  depth := h'.depth.trans h.depth

theorem exit (p : Handover S) : Grows p p.exit :=
  ⟨List.prefix_rfl, List.prefix_rfl, List.prefix_rfl, fun hin => absurd rfl hin, rfl⟩

theorem sendFlow (hin : p.position ≠ .exited) : Grows p p.sendFlow := by
  have htake : Grows p p.takeDatagrams :=
    ⟨List.prefix_rfl, List.prefix_rfl, List.prefix_rfl, fun _ => ⟨hin, List.prefix_rfl⟩, rfl⟩
  rw [Handover.sendFlow]
  split
  · exact htake
  · rename_i flow backlog hbacklog
    split
    · refine ⟨List.prefix_rfl, List.prefix_append _ _, List.prefix_rfl, fun _ => ⟨hin, ?_⟩, rfl⟩
      rw [hbacklog, List.append_cons]
    · exact htake
    · exact exit p

theorem advance (hn : p.next wire api .advance = some p') : Grows p p' := by
  simp only [Handover.next] at hn
  split at hn
  · rename_i hp
    obtain rfl := Option.some.inj hn
    split
    · exact exit p
    · exact ⟨List.prefix_rfl, List.prefix_rfl, List.prefix_rfl,
        fun _ => ⟨by rw [hp]; decide, List.prefix_rfl⟩, rfl⟩
  · rename_i hp
    split at hn
    · obtain rfl := Option.some.inj hn
      refine ⟨List.prefix_rfl, List.prefix_rfl, List.prefix_rfl,
        fun _ => ⟨by rw [hp]; decide, ?_⟩, rfl⟩
      show p.flowsQueued ++ p.backlog <+: p.flowsQueued ++ (p.backlog ++ p.stack.core.accepts)
      rw [← List.append_assoc]
      exact List.prefix_append _ _
    · cases hn
  · rename_i hp
    obtain rfl := Option.some.inj hn
    exact sendFlow (by rw [hp]; decide)
  · rename_i rest hp
    obtain rfl := Option.some.inj hn
    have hin : p.position ≠ .exited := by
      rw [hp]
      exact fun hexited => (nomatch hexited)
    have hsame : ∀ position udp queued, Grows p
        { p with position := position, udp := udp, datagramsQueued := queued } := fun _ _ _ =>
      ⟨List.prefix_rfl, List.prefix_rfl, List.prefix_rfl, fun _ => ⟨hin, List.prefix_rfl⟩, rfl⟩
    cases rest with
    | nil => exact hsame .waiting p.udp p.datagramsQueued
    | cons dg rest =>
      rw [Handover.sendDatagram]
      split
      · exact hsame _ _ _
      · exact hsame .waiting p.udp p.datagramsQueued
      · exact hsame .waiting p.udp p.datagramsQueued
  · cases hn

theorem next {e : HandoverEvent S} (hn : p.next wire api e = some p') : Grows p p' := by
  cases e with
  | advance => exact advance hn
  | stack e =>
    have hobserve : ∀ (l : Loop S) (position : Position), (position ≠ .exited →
        p.position ≠ .exited) → Grows p { p.observe l with position := position } :=
      fun l position hin => ⟨List.prefix_append _ _, List.prefix_rfl, List.prefix_rfl,
        fun hout => ⟨hin hout, List.prefix_rfl⟩, rfl⟩
    simp only [Handover.next] at hn
    split at hn
    case h_5 =>
      rename_i hp
      obtain ⟨l, hl, rfl⟩ := Option.map_eq_some_iff.1 hn
      exact hobserve l .stepping fun _ => by rw [hp]; decide
    case h_6 => cases hn
    all_goals
      obtain ⟨l, hl, rfl⟩ := Option.map_eq_some_iff.1 hn
      exact hobserve l p.position id
  | wait failed =>
    simp only [Handover.next] at hn
    split at hn
    · rename_i hp
      obtain rfl := Option.some.inj hn
      split
      · exact ⟨List.prefix_rfl, List.prefix_rfl, List.prefix_rfl, fun hin => absurd rfl hin, rfl⟩
      · exact ⟨List.prefix_rfl, List.prefix_rfl, List.prefix_rfl,
          fun _ => ⟨by rw [hp]; decide, List.prefix_rfl⟩, rfl⟩
    · cases hn
  | shutdown =>
    obtain rfl := Option.some.inj hn
    exact of_eq rfl rfl rfl rfl rfl rfl
  | recvFlow =>
    simp only [Handover.next] at hn
    split at hn
    · split at hn
      · rename_i hrecv
        obtain ⟨q, hq, rfl⟩ := Channel.tryRecv_eq_item.1 hrecv
        obtain rfl := Option.some.inj hn
        exact ⟨List.prefix_rfl, List.prefix_rfl, List.prefix_append _ _,
          fun hin => ⟨hin, List.prefix_rfl⟩, rfl⟩
      · obtain rfl := Option.some.inj hn
        exact of_eq rfl rfl rfl rfl rfl rfl
      · cases hn
    · cases hn
  | _ =>
    simp only [Handover.next] at hn
    repeat' split at hn
    all_goals cases hn
    all_goals exact of_eq rfl rfl rfl rfl rfl rfl

theorem of_le {r : ℕ → Handover S} {es : ℕ → HandoverEvent S}
    (hr : Forever (Handover.next wire api) r es) {m m' : ℕ} (hm : m ≤ m') : Grows (r m) (r m') :=
  hr.relates refl (fun _ _ _ => trans) (fun _ _ _ => next) hm

end Grows

/-- When the thread comes to its backlog it has just taken what was accepted. -/
theorem accepts_of_arrives {e : HandoverEvent S} (hn : p.next wire api e = some p')
    (hp : p.position ≠ .flows) (hp' : p'.position = .flows) : p'.stack.core.accepts = [] := by
  cases e with
  | advance =>
    simp only [Handover.next] at hn
    split at hn
    · obtain rfl := Option.some.inj hn
      split at hp' <;> cases hp'
    · split at hn
      · obtain rfl := Option.some.inj hn
        rfl
      · cases hn
    · exact absurd ‹_› hp
    · rename_i rest _
      obtain rfl := Option.some.inj hn
      cases rest with
      | nil => cases hp'
      | cons dg rest =>
        rw [Handover.sendDatagram] at hp'
        split at hp' <;> cases hp'
    · cases hn
  | stack e =>
    simp only [Handover.next] at hn
    split at hn
    case h_5 =>
      obtain ⟨l, hl, rfl⟩ := Option.map_eq_some_iff.1 hn
      cases hp'
    case h_6 => cases hn
    all_goals
      obtain ⟨l, hl, rfl⟩ := Option.map_eq_some_iff.1 hn
      exact absurd hp' hp
  | wait failed =>
    simp only [Handover.next] at hn
    split at hn
    · obtain rfl := Option.some.inj hn
      split at hp' <;> cases hp'
    · cases hn
  | _ =>
    simp only [Handover.next] at hn
    repeat' split at hn
    all_goals cases hn
    all_goals exact absurd hp' hp

/-- The thread leaves its backlog when it is empty, if the channel has room. -/
theorem backlog_of_leaves {e : HandoverEvent S} (hn : p.next wire api e = some p')
    (hp : p.position = .flows) (hp' : p'.position ≠ .flows) (hroom : p.tcp.tryReserve = .permit) :
    p.backlog = [] := by
  cases e with
  | advance =>
    simp only [Handover.next, hp] at hn
    obtain rfl := Option.some.inj hn
    rw [Handover.sendFlow, hroom] at hp'
    cases hbacklog : p.backlog with
    | nil => rfl
    | cons flow backlog =>
      rw [hbacklog] at hp'
      exact absurd hp hp'
  | stack e =>
    simp only [Handover.next, hp] at hn
    split at hn
    case h_5 => cases ‹Position.flows = _›
    case h_6 => cases hn
    all_goals
      obtain ⟨l, hl, rfl⟩ := Option.map_eq_some_iff.1 hn
      exact absurd hp hp'
  | wait failed =>
    simp only [Handover.next, hp] at hn
    cases hn
  | _ =>
    simp only [Handover.next] at hn
    repeat' split at hn
    all_goals cases hn
    all_goals exact absurd hp hp'

theorem spawned_of_recvFlow (hn : p.next wire api .recvFlow = some p') (hq : p.tcp.queue ≠ []) :
    p'.flowsSpawned.length = p.flowsSpawned.length + 1 := by
  simp only [Handover.next] at hn
  split at hn
  · split at hn
    · obtain rfl := Option.some.inj hn
      exact List.length_append
    · exact absurd (Channel.tryRecv_eq_disconnected.1 ‹_›).1 hq
    · cases hn
  · cases hn

/-- The thread keeps coming round to its backlog, and the engine is not held up for ever while
there are flows in the channel. -/
structure Fair (r : ℕ → Handover S) (es : ℕ → HandoverEvent S) : Prop where
  arrives : ∀ n, ∃ m, n ≤ m ∧ (r m).position = .flows
  leaves : ∀ n, ∃ m, n ≤ m ∧ (r m).position ≠ .flows
  receives : ∀ n, (∀ m, n ≤ m → (r m).tcp.queue ≠ []) → ∃ m, n ≤ m ∧ es m = .recvFlow

namespace Fair

variable {r : ℕ → Handover S} {es : ℕ → HandoverEvent S}

/-- After any time the thread arrives at its backlog once more, and leaves it. -/
theorem exists_round (hfair : Fair r es) (t : ℕ) : ∃ k k', t ≤ k ∧ k + 1 ≤ k' ∧
    ((r k).position ≠ .flows ∧ (r (k + 1)).position = .flows) ∧
      (r k').position = .flows ∧ (r (k' + 1)).position ≠ .flows := by
  obtain ⟨m₁, htm, haway⟩ := hfair.leaves t
  obtain ⟨m₂, hm, hthere⟩ := hfair.arrives m₁
  obtain ⟨k, hmk, hbefore, hthere⟩ :=
    exists_last (P := fun m => (r m).position ≠ .flows) hm haway (not_not.2 hthere)
  rw [not_not] at hthere
  obtain ⟨m₃, hkm, haway⟩ := hfair.leaves (k + 1)
  obtain ⟨k', hkk', hthere', haway⟩ :=
    exists_last (P := fun m => (r m).position = .flows) hkm hthere haway
  exact ⟨k, k', htm.trans hmk, hkk', ⟨hbefore, hthere⟩, hthere', haway⟩

/-- Once no more tasks are spawned, the channel stays empty. -/
theorem queue_eq_nil (hfair : Fair r es) (hr : Forever (Handover.next wire api) r es)
    (hinv : ∀ m, Conserved (r m)) (hin : ∀ m, (r m).InService) {t : ℕ}
    (hrest : ∀ m, t ≤ m → (r m).flowsSpawned.length = (r t).flowsSpawned.length) {m : ℕ}
    (htm : t ≤ m) : (r m).tcp.queue = [] := by
  by_contra hq
  have hstays : ∀ m', m ≤ m' → (r m').tcp.queue ≠ [] := by
    intro m' hm hq'
    have hqueued := (Grows.of_le hr hm).queued.length_le
    have hlen := List.length_pos_iff.2 hq
    have hkept' := (hinv m').spawned_add_queue (hin m')
    rw [hq', List.length_nil, Nat.add_zero, hrest m' (htm.trans hm)] at hkept'
    have hkept := (hinv m).spawned_add_queue (hin m)
    rw [hrest m htm] at hkept
    omega
  obtain ⟨m', hm, hrecv⟩ := hfair.receives m hstays
  have hnext := hr m'
  rw [hrecv] at hnext
  have hone := spawned_of_recvFlow hnext (hstays m' hm)
  rw [hrest m' (htm.trans hm), hrest (m' + 1) (htm.trans (hm.trans (Nat.le_succ m')))] at hone
  omega

end Fair

/-- **Every promoted flow gets its task**, in order, on every fair run in service. -/
theorem spawned_of_fair {cfg : StackConfig} (hdepth : 0 < cfg.channelDepth)
    {r : ℕ → Handover S} {es : ℕ → HandoverEvent S}
    (hr : Forever (Handover.next wire api) r es) (hstart : r 0 = .start cfg)
    (hin : ∀ n, (r n).InService) (hfair : Fair r es) (n : ℕ) :
    ∃ m, (r n).promoted <+: (r m).flowsSpawned := by
  have hinv : ∀ m, Conserved (r m) :=
    hr.invariant (fun _ _ _ hp hn => hp.next hn) (hstart ▸ Conserved.start cfg)
  have hgrows : ∀ {m m'}, m ≤ m' → Grows (r m) (r m') := Grows.of_le hr
  have hout : ∀ m, (r m).position ≠ .exited := fun m => (hinv m).position_ne_exited (hin m)
  by_contra hnever
  -- as all of it is in the order of the promotions, too few flows get a task
  have hfew : ∀ m, n ≤ m → (r m).flowsSpawned.length < (r n).promoted.length := by
    intro m hnm
    by_contra hmany
    refine hnever ⟨m, List.prefix_of_prefix_length_le (hgrows hnm).promoted ?_ (not_lt.1 hmany)⟩
    exact (hinv m).flows.inOrder.trans (hinv m).inOrder
  -- so at some time the last one has got it
  have hmono : Monotone fun m => (r m).flowsSpawned.length :=
    fun m m' hm => (hgrows hm).spawned.length_le
  obtain ⟨t, hnt, hrest⟩ := exists_rest hmono hfew
  -- the thread arrives at its backlog with all that was promoted, and leaves it with nothing
  obtain ⟨k, k', htk, hkk', ⟨hbefore, hthere⟩, hthere', haway⟩ := hfair.exists_round t
  have htk' : t ≤ k' := htk.trans ((Nat.le_succ k).trans hkk')
  have hempty : (r k').tcp.queue = [] := hfair.queue_eq_nil hr hinv hin hrest htk'
  have hroom : (r k').tcp.tryReserve = .permit := by
    refine Channel.tryReserve_eq_permit.2 ⟨(hinv k').flows.receiver.1 (hin k').running, ?_⟩
    have hdepths := (hgrows (Nat.zero_le k')).depth
    rw [hstart] at hdepths
    rw [Channel.room, hempty, hdepths]
    exact hdepth.ne'
  have hall := (hinv (k + 1)).held (hout (k + 1))
  rw [accepts_of_arrives (hr k) hbefore hthere, List.append_nil] at hall
  have htaken := ((hgrows hkk').taken (hout k')).2.length_le
  rw [hall, backlog_of_leaves (hr k') hthere' haway hroom, List.append_nil] at htaken
  have hpromoted : (r n).promoted.length ≤ (r (k + 1)).promoted.length :=
    (hgrows (hnt.trans (htk.trans (Nat.le_succ k)))).promoted.length_le
  have hlast := (hinv k').spawned_add_queue (hin k')
  rw [hempty, List.length_nil, Nat.add_zero] at hlast
  have hbound := hfew k' (hnt.trans htk')
  omega

/-- **No accepted flow is lost or handed over twice.** In service every flow the stack has promoted
is with a task, in the channel, in the backlog or yet to be taken, in the order of the promotions,
and on a fair run it gets to its task. The engine returns only when both channels are closed and
drained, with a task for all that was queued. -/
theorem handedOver (wire : Wire) (api : TcpApi S) (cfg : StackConfig) :
    (∀ es p, run (Handover.next wire api) (.start cfg) es = some p →
      p.promoted.map TcpFlow.stream = List.range p.stack.core.nextStream ∧
      p.flowsSpawned <+: p.promoted ∧ p.queriesSpawned <+: p.datagramsQueued ∧
      (p.InService → p.flowsSpawned ++ p.tcp.queue ++ p.backlog ++ p.stack.core.accepts =
        p.promoted) ∧
      (p.engine = .returned → p.flowsSpawned = p.flowsQueued ∧
        p.queriesSpawned = p.datagramsQueued ∧ p.tcp.senderGone = true ∧ p.tcp.queue = [] ∧
          p.udp.senderGone = true ∧ p.udp.queue = [])) ∧
    (0 < cfg.channelDepth → ∀ r es, Forever (Handover.next wire api) r es → r 0 = .start cfg →
      (∀ n, (r n).InService) → Fair r es → ∀ n, ∃ m, (r n).promoted <+: (r m).flowsSpawned) := by
  refine ⟨fun es p h => ?_, fun hdepth r es => spawned_of_fair hdepth⟩
  have hinv : Conserved p := .of_run h
  refine ⟨hinv.numbered, hinv.flows.inOrder.trans hinv.inOrder, hinv.datagrams.inOrder,
    fun hin => ?_, fun hret => ?_⟩
  · rw [hinv.flows.kept (by rw [hin.running]; decide)]
    exact hinv.held (hinv.position_ne_exited hin)
  · obtain ⟨htcp, hudp⟩ := hinv.returned hret
    have hne : p.engine ≠ .aborted := by
      rw [hret]
      decide
    have hflows := hinv.flows.kept hne
    have hqueries := hinv.datagrams.kept hne
    rw [(hinv.flows.drained htcp).2, List.append_nil] at hflows
    rw [(hinv.datagrams.drained hudp).2, List.append_nil] at hqueries
    exact ⟨hflows, hqueries, (hinv.flows.drained htcp).1, (hinv.flows.drained htcp).2,
      (hinv.datagrams.drained hudp).1, (hinv.datagrams.drained hudp).2⟩

end

/-- A pass of the thread's loop in which these packets arrive, with so many rounds over the backlog
and no datagram. -/
def pass (packets : List Bytes) (now rounds : ℕ) (failed : Bool) :
    List (HandoverEvent Reference.Sock) :=
  [.advance] ++ packets.map (fun packet => .stack (.ingest packet)) ++
    (Loop.stepEvents now Reference.poll).map .stack ++ [.advance] ++
      List.replicate rounds .advance ++ [.advance, .wait failed]

/-- A connection is accepted, handed over and taken by the engine. -/
def served : List (HandoverEvent Reference.Sock) :=
  pass [Reference.syn Reference.app] 10000 1 false ++
    pass [Reference.ack Reference.app 1 []] 20000 2 false ++ [.recvFlow]

/-- A pass in which nothing happens. -/
def idlePass : List (HandoverEvent Reference.Sock) := pass [] 20000 1 false

def appFlow : TcpFlow := ⟨Reference.endOf Reference.app, Reference.endOf Reference.web, 0⟩

/-- Where that leads, and idle passes come back to. -/
def inService : Handover Reference.Sock :=
  { (Handover.start ⟨4096, 1⟩ : Handover Reference.Sock) with
    stack :=
      ⟨{ (StackCore.new ⟨4096, 1⟩ : StackCore Reference.Sock) with
          sockets :=
            [some ⟨.established, some appFlow.dst, some appFlow.src, 4096, none, [], [], 1⟩]
          flows := AList.insert 0
            ⟨appFlow.src, appFlow.dst, 0, none, 20000, none, localStreamPair 1⟩ ∅
          lastStep := 20000
          nextStream := 1
          queued := 2 }, .idle⟩
    activeFlows := 1
    promoted := [appFlow]
    flowsQueued := [appFlow]
    flowsSpawned := [appFlow] }

/-- The thread goes round for ever, in service, with an engine that takes what there is. -/
theorem handedOver_served : ∃ r es,
    Forever (Handover.next Reference.wire Reference.api) r es ∧ r 0 = .start ⟨4096, 1⟩ ∧
      (∀ n, (r n).InService) ∧ Fair r es ∧ ∃ n m, [appFlow] = (r n).promoted ∧
        (r n).promoted <+: (r m).flowsSpawned := by
  have hserved : run (Handover.next Reference.wire Reference.api) (.start ⟨4096, 1⟩) served =
      some inService := by decide +kernel
  have hidle :
      run (Handover.next Reference.wire Reference.api) inService idlePass = some inService := by
    decide +kernel
  have hbefore : ∀ n ≤ served.length, ((run (Handover.next Reference.wire Reference.api)
      (.start ⟨4096, 1⟩) (served.take n)).all fun p => decide p.InService) = true := by
    decide +kernel
  have hround : ∀ n < idlePass.length, ((run (Handover.next Reference.wire Reference.api)
      inService (idlePass.take n)).all fun p => decide p.InService) = true := by decide +kernel
  have hflows : ((run (Handover.next Reference.wire Reference.api) inService
      (idlePass.take 11)).all fun p => decide (p.position = .flows)) = true := by decide +kernel
  obtain ⟨r₁, es₁, hr₁, hround₁⟩ := exists_forever_of_loop (by decide) hidle
  have hfirst : r₁ 0 = inService := (Option.some.inj (hround₁ 0)).symm
  obtain ⟨r, es, hr, hpre, hrest⟩ := exists_forever_of_run hserved hr₁ hfirst
  -- where the loop is after so many rounds
  have hat (n : ℕ) {i : ℕ} (hi : i < idlePass.length) :
      run (Handover.next Reference.wire Reference.api) inService (idlePass.take i) =
        some (r (served.length + (i + idlePass.length * n))) := by
    rw [hrest, ← hround₁, Nat.add_mul_mod_self_left, Nat.mod_eq_of_lt hi]
  have hback (n : ℕ) : r (served.length + (0 + idlePass.length * n)) = inService := by
    have hnone := hat n (i := 0) (by decide)
    rw [List.take_zero, run_nil] at hnone
    exact (Option.some.inj hnone).symm
  have hin (n : ℕ) : (r n).InService := by
    obtain hn | ⟨k, rfl⟩ : n ≤ served.length ∨ ∃ k, n = served.length + k := by
      rcases Nat.le_total n served.length with h | h
      · exact .inl h
      · exact .inr (Nat.exists_eq_add_of_le h)
    · have hall := hbefore n hn
      rw [hpre n hn] at hall
      exact of_decide_eq_true hall
    · have hall := hround (k % idlePass.length) (Nat.mod_lt _ (by decide))
      rw [hround₁] at hall
      rw [hrest]
      exact of_decide_eq_true hall
  have hlater (n i : ℕ) : n ≤ served.length + (i + idlePass.length * n) :=
    (Nat.le_mul_of_pos_left n (by decide : 0 < idlePass.length)).trans (by omega)
  have hfair : Fair r es := by
    refine ⟨fun n => ⟨_, hlater n 11, ?_⟩, fun n => ⟨_, hlater n 0, ?_⟩, fun n hstays => ?_⟩
    · have hall := hflows
      rw [hat n (by decide)] at hall
      exact of_decide_eq_true hall
    · rw [hback n]
      decide
    · exact absurd (congrArg (fun p => p.tcp.queue) (hback n)) (hstays _ (hlater n 0))
  have hstart : r 0 = .start ⟨4096, 1⟩ := (Option.some.inj (hpre 0 (Nat.zero_le _))).symm
  obtain ⟨m, hm⟩ := (handedOver Reference.wire Reference.api ⟨4096, 1⟩).2 (by decide) r es hr hstart
    hin hfair (served.length + (0 + idlePass.length * 0))
  exact ⟨r, es, hr, hstart, hin, hfair, _, m, (congrArg Handover.promoted (hback 0)).symm, hm⟩

/-- Two connections are accepted, the channel has room for one, and then the poller fails until the
thread gives up. -/
def givenUp : List (HandoverEvent Reference.Sock) :=
  pass [Reference.syn Reference.app, Reference.syn Reference.other] 10000 1 false ++
    pass [Reference.ack Reference.app 1 [], Reference.ack Reference.other 1 []] 20000 2 false ++
      (List.replicate 10 (pass [] 30000 1 true)).flatten

/-- Where it leads. -/
abbrev givenUpRun : Option (Handover Reference.Sock) :=
  run (Handover.next Reference.wire Reference.api) (.start ⟨4096, 1⟩) givenUp

theorem isSome_givenUpRun : givenUpRun.isSome = true := by decide +kernel

/-- One of the flows is lost, with no shutdown and the engine there. -/
theorem lost_of_givenUp :
    let p := givenUpRun.get isSome_givenUpRun
    p.shutdown = false ∧ p.engine = .running ∧ p.promoted.length = 2 ∧
      (p.flowsSpawned ++ p.tcp.queue ++ p.backlog ++ p.stack.core.accepts).length = 1 := by
  decide +kernel

end LiosTunnel.Engine
