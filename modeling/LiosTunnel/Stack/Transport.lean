import LiosTunnel.Stack.Moves
import LiosTunnel.Stack.Outbound
import LiosTunnel.Stack.Pending

/-!
# No byte is lost, doubled or reordered

A byte for the application goes through `from_stream`, `pending_out` and the send buffer, a byte
from it through the receive buffer, `to_stream` and what is left of a chunk. Read in order, those
places hold what was put in and not yet taken out, whatever the sizes of the reads, the writes and
the parts the socket takes.

* `Flow.Ordered`, `Link.EndsDrained`: both directions of a connection, and an end of file in time.
* `ordered_of_run`: they hold of every connection after every run.
* `Acknowledges`, `Cell.Counted`: what a socket has accepted, counted.
* `discarded_of_run`: what a retired connection had not delivered is in `bytes_discarded`.
-/

namespace LiosTunnel

/-- A read into a buffer with room gives nothing only when the sender of the inbound channel is gone
and nothing is left in the channel or of a chunk. -/
def Link.EndsDrained (l : Link) : Prop :=
  ∀ n, 0 < n → l.inbound.receiverGone = false → (l.pollRead n).1 = .ready [] →
    l.inbound.senderGone = true ∧ l.inbound.queue = [] ∧ l.partialChunk = none

/-- Without empty chunks a read gives nothing only at the end. -/
theorem Link.Delivered.endsDrained {l : Link} (h : l.Delivered) (hchunks : [] ∉ l.inbound.queue) :
    l.EndsDrained := by
  intro n hn hkept hread
  rw [Link.pollRead] at hread
  cases hp : l.partialChunk with
  | some p =>
    obtain ⟨chunk, off⟩ := p
    have hlt := h.partialLt chunk off hp
    simp only [hp, ReadResult.ready.injEq, List.take_eq_nil_iff, List.drop_eq_nil_iff] at hread
    omega
  | none =>
    simp only [hp] at hread
    cases hq : l.inbound.queue with
    | nil =>
      simp only [hq, Link.recvNonempty, Channel.isClosed, hkept, Bool.or_false] at hread
      refine ⟨?_, rfl, rfl⟩
      by_contra hheld
      simp [hheld] at hread
    | cons chunk q =>
      have hne : chunk ≠ [] := fun hnil => hchunks (hq ▸ hnil ▸ List.mem_cons_self)
      have hlen := List.length_pos_iff.2 hne
      simp only [hq, Link.recvNonempty, List.isEmpty_eq_false_iff.2 hne,
        Bool.false_eq_true, if_false,
        ReadResult.ready.injEq, List.take_eq_nil_iff, hne, or_false] at hread
      omega

/-- A read only takes chunks away. -/
theorem Link.notMem_queue_apply {l : Link} (h : [] ∉ l.inbound.queue) (op : StreamOp) :
    [] ∉ (l.apply op).inbound.queue := by
  have hrecv : ∀ n q, [] ∉ q → [] ∉ (l.recvNonempty n q).2.inbound.queue := by
    intro n q hq
    induction q with
    | nil =>
      rw [Link.recvNonempty]
      split <;> exact List.not_mem_nil
    | cons chunk q ih =>
      rw [Link.recvNonempty]
      split
      · exact ih fun hmem => hq (List.mem_cons_of_mem _ hmem)
      · exact fun hmem => hq (List.mem_cons_of_mem _ hmem)
  unfold Link.apply
  split
  · exact h
  · cases op with
    | read n =>
      dsimp only [Link.pollRead]
      split
      · exact h
      · exact hrecv n _ h
    | write buf =>
      dsimp only [Link.pollWrite]
      split
      · exact h
      · split <;> exact h
    | shutdown => exact h
    | drop => exact List.not_mem_nil

namespace Stack

open Runs

variable {S : Type} {api : TcpApi S} {wire : Wire} {now : ℕ}

/-- What both directions of a connection carry is all there, in order. -/
structure Flow.Ordered (f : Flow) : Prop where
  outbound : f.link.trace.written =
    f.link.trace.sent ++ f.parkedBytes ++ f.link.outbound.queue.flatten
  inbound : f.link.Delivered
  chunks : [] ∉ f.link.inbound.queue

namespace Flow.Ordered

theorem new (src dst : SocketAddr) (n depth : ℕ) (received : Bytes) :
    Ordered ⟨src, dst, n, none, now, none, (localStreamPair depth).accept received⟩ := by
  have hdel := Link.Delivered.new depth
  exact ⟨rfl, ⟨hdel.inOrder, hdel.partialLt, hdel.eof⟩, List.not_mem_nil⟩

/-- What a poll does to the socket is not what the flow carries. -/
theorem polled {f : Flow} (h : Ordered f) (sk sk' : S) : Ordered (f.polled api sk sk') := by
  have hdel := h.inbound
  exact ⟨h.outbound, ⟨hdel.inOrder, hdel.partialLt, hdel.eof⟩, h.chunks⟩

/-- Nor is that the socket was aborted. -/
theorem aborted {f : Flow} (h : Ordered f) : Ordered { f with
    link := { f.link with trace := { f.link.trace with aborted := true } } } := by
  have hdel := h.inbound
  exact ⟨h.outbound, ⟨hdel.inOrder, hdel.partialLt, hdel.eof⟩, h.chunks⟩

/-- The moves of `pump_outbound` leave what the application sends alone. -/
theorem outflow (hsend : ∀ sk data, api.canSend sk = true → (api.sendSlice sk data).isSome = true)
    {c c' : Cell S} (h : Ordered c.flow) (hmove : c.Outflow api now c') : Ordered c'.flow := by
  have hwritten : c'.flow.CarriesAll := CarriesAll.outflow hsend h.outbound hmove
  have hdel := h.inbound
  cases hmove <;> exact ⟨hwritten, ⟨hdel.inOrder, hdel.partialLt, hdel.eof⟩, h.chunks⟩

/-- Each move of `pump_inbound` takes bytes from one place to the next. -/
theorem inflow {c c' : Cell S} (h : Ordered c.flow) (hmove : c.Inflow api now c') :
    Ordered c'.flow := by
  cases hmove with
  | take hheld hkept hdata hne =>
    refine ⟨h.outbound, h.inbound.send hheld _, fun hmem => ?_⟩
    obtain hmem | hmem := List.mem_append.1 hmem
    · exact h.chunks hmem
    · exact hne (List.mem_singleton.1 hmem).symm
  | skip => exact h
  | close _ _ _ =>
    exact ⟨h.outbound, ⟨h.inbound.inOrder, h.inbound.partialLt, h.inbound.eof⟩, h.chunks⟩
  | release => exact ⟨h.outbound, h.inbound.dropSender, h.chunks⟩

/-- Whatever the task does with its stream. -/
theorem useStream {f : Flow} (h : Ordered f) (n : ℕ) (op : StreamOp) :
    Ordered (f.useStream n op) := by
  have hwritten : (f.useStream n op).CarriesAll := CarriesAll.useStream h.outbound n op
  rw [Flow.useStream] at hwritten ⊢
  split at hwritten
  · rename_i hn
    rw [if_pos hn]
    exact ⟨hwritten, h.inbound.apply op, f.link.notMem_queue_apply h.chunks op⟩
  · rename_i hn
    rw [if_neg hn]
    exact h

end Flow.Ordered

/-- The reader's side of a retired connection. -/
structure Flow.ReadsOn (f : Flow) : Prop where
  inbound : f.link.Delivered
  chunks : [] ∉ f.link.inbound.queue

theorem ordered_rules
    (hsend : ∀ sk data, api.canSend sk = true → (api.sendSlice sk data).isSome = true) :
    FlowRules api (fun _ _ => True) (fun _ _ c => c.flow.Ordered) Flow.ReadsOn where
  start _ _ _ := id
  quiet _ _ := ⟨id, id, id⟩
  abort now c h := by
    rw [Cell.abortExpired]
    split
    · exact h.aborted
    · exact h
  pumpOutbound l _ _ k c _ h :=
    Cell.pumpOutbound_keeps (P := fun c => c.flow.Ordered) (fun _ _ hc => hc.outflow hsend) h
  poll _ _ _ _ _ _ _ _ _ _ h := h.polled _ _
  promote _ _ _ _ _ src dst n now depth _ _ _ _ _ _ := .new src dst n depth _
  pumpInbound l _ _ _ c _ h :=
    Cell.pumpInbound_keeps (P := fun c => c.flow.Ordered) (fun _ _ hc => hc.inflow) h
  observe now c h := by
    obtain ⟨_, hobserve⟩ := c.observe_changes api now
    rw [hobserve]
    exact ⟨h.outbound, h.inbound, h.chunks⟩
  reap _ c h _ := by
    have hdel := h.inbound.dropSender
    exact ⟨⟨hdel.inOrder, hdel.partialLt, hdel.eof⟩, h.chunks⟩
  stream l n op _ k c _ h := h.useStream n op
  streamRetired l n op _ f _ h := by
    rw [Flow.useStream]
    split
    · exact ⟨h.inbound.apply op, f.link.notMem_queue_apply h.chunks op⟩
    · exact h

/-- The two directions of every live connection, in terms of the places a byte can be. -/
def CarriesInOrder (s : StackCore S) : Prop :=
  ∀ k f, s.flows.lookup k = some f →
    f.link.trace.written = f.link.trace.sent ++ f.parkedBytes ++ f.link.outbound.queue.flatten ∧
      (f.link.inbound.receiverGone = false →
        f.link.trace.taken = f.link.trace.read ++ f.link.unread)

/-- Every reader's end of file comes at the end, after its connection is retired as well. -/
def EndsDrained (s : StackCore S) : Prop :=
  (∀ k f, s.flows.lookup k = some f → f.link.EndsDrained) ∧ ∀ f ∈ s.retired, f.link.EndsDrained

/-- **Bytes are carried in order and exactly once**: after every run, what the tunnel wrote is what
the send buffer accepted, then the rest of `pending_out`, then the chunks of `from_stream`; what was
taken out of the socket is what was read, then the rest of a chunk, then the chunks of `to_stream`;
and a read ends only when its channel is drained and has no sender. -/
theorem ordered_of_run
    (hsend : ∀ sk data, api.canSend sk = true → (api.sendSlice sk data).isSome = true)
    {cfg : StackConfig} {es : List (Event S)} {l : Loop S}
    (h : run (Loop.next wire api) (.start cfg) es = some l) :
    CarriesInOrder l.core ∧ EndsDrained l.core := by
  have hinv := (ordered_rules hsend).flowInv_of_run (guarded_trivial _ es) h
  have hlive : ∀ k f, l.core.flows.lookup k = some f → f.Ordered := by
    intro k f hf
    obtain ⟨_, sk, -, hsk⟩ := hinv.accounted.exists_flow
      (AList.lookup_isSome.1 (Option.isSome_of_eq_some hf))
    exact hinv.live k ⟨sk, f⟩ (StackCore.cell_eq_some.2 ⟨hsk, hf⟩)
  refine ⟨fun k f hf => ?_, fun k f hf => ?_, fun f hf => ?_⟩
  · exact ⟨(hlive k f hf).outbound, (hlive k f hf).inbound.inOrder⟩
  · exact (hlive k f hf).inbound.endsDrained (hlive k f hf).chunks
  · exact (hinv.retired f hf).inbound.endsDrained (hinv.retired f hf).chunks

/-- A connection with a send buffer of four bytes is given six, of which two are parked; a chunk
from the application is read in part. -/
def halfway : List (Event Reference.Sock) :=
  Reference.handshake ++
    [.stream 0 (.write [1, 2, 3, 4, 5, 6]), .ingest (Reference.ack Reference.app 1 [7, 8, 9])] ++
    Loop.stepEvents 30000 Reference.poll ++ [.stream 0 (.read 2), .stream 0 (.write [10])]

theorem isSome_runs_halfway : (Reference.runs ⟨4, 4⟩ halfway).isSome = true := by decide +kernel

/-- The bytes of a connection in the middle of its work. -/
theorem ordered_of_run_halfway :
    let l := (Reference.runs ⟨4, 4⟩ halfway).get isSome_runs_halfway
    CarriesInOrder l.core ∧ EndsDrained l.core :=
  ordered_of_run Reference.sends.isSome_sendSlice (Option.some_get isSome_runs_halfway).symm

/-! ## What retirement discards -/

/-- What smoltcp is relied on for in counting bytes: `accepted` and `acked` are how many bytes a
socket's `send_slice` accepted and how many of them its peer acknowledged, and `send_queue` is the
difference, whatever else is done to the socket. -/
structure Acknowledges (api : TcpApi S) (accepted acked : S → ℕ) : Prop where
  sendQueue : ∀ sk, api.sendQueue sk + acked sk = accepted sk
  new : ∀ n, accepted (api.new n) = 0
  listen : ∀ sk dst sk', api.listen sk dst = some sk' → accepted sk' = accepted sk
  setTimeout : ∀ sk t, accepted (api.setTimeout sk t) = accepted sk
  sendSlice : ∀ sk data n sk', api.sendSlice sk data = some (n, sk') →
    n ≤ data.length ∧ accepted sk' = accepted sk + n
  recvAdvance : ∀ sk n, accepted (api.recvAdvance sk n) = accepted sk
  close : ∀ sk, accepted (api.close sk) = accepted sk
  abort : ∀ sk, accepted (api.abort sk) = accepted sk

/-- A poll accepts nothing for sending. -/
def SendsNothing (api : TcpApi S) (accepted : S → ℕ) (l : Loop S) : Event S → Prop
  | .poll p => ∀ h sk, l.core.sockets.get h = some sk →
      ∀ sk', (l.core.poll api p).sockets.get h = some sk' → accepted sk' = accepted sk
  | _ => True

/-- A listener that is not promoted has nothing to send. -/
theorem unsent_rules {accepted acked : S → ℕ} (hacks : Acknowledges api accepted acked) :
    PendingRules api (SendsNothing api accepted) (fun _ _ _ sk => accepted sk = 0) where
  fresh n now src dst sk hlisten := by
    rw [hacks.setTimeout, hacks.listen _ _ _ hlisten, hacks.new]
  start _ _ _ _ := id
  quiet _ _ _ := ⟨id, id, id, id, id, id⟩
  poll l p _ hg k _ sk sk' hsk hsk' h := (hg k sk hsk sk' hsk').trans h
  sweep _ _ _ h _ := h

/-- A connection whose socket has accepted what the trace says. -/
structure Cell.Counted (accepted : S → ℕ) (c : Cell S) : Prop where
  ordered : c.flow.Ordered
  accepted : accepted c.socket = c.flow.link.trace.sent.length

namespace Cell.Counted

variable {accepted acked : S → ℕ} {c c' : Cell S}

theorem outflow (hacks : Acknowledges api accepted acked)
    (hsend : ∀ sk data, api.canSend sk = true → (api.sendSlice sk data).isSome = true)
    (h : c.Counted accepted) (hmove : c.Outflow api now c') : c'.Counted accepted := by
  refine ⟨h.ordered.outflow hsend hmove, ?_⟩
  have hsent : ∀ data n sk, api.sendSlice c.socket data = some (n, sk) →
      accepted sk = (c.flow.link.trace.sent ++ data.take n).length := by
    intro data n sk hslice
    obtain ⟨hle, hsk⟩ := hacks.sendSlice _ _ _ _ hslice
    rw [hsk, h.accepted, List.length_append, List.length_take, min_eq_left hle]
  cases hmove with
  | resume _ _ hslice => exact hsent _ _ _ hslice
  | push _ _ _ hslice => exact hsent _ _ _ hslice
  | fail => exact h.accepted
  | setAside => exact h.accepted
  | close => exact (hacks.close _).trans h.accepted

theorem inflow (hacks : Acknowledges api accepted acked) (h : c.Counted accepted)
    (hmove : c.Inflow api now c') : c'.Counted accepted := by
  refine ⟨h.ordered.inflow hmove, ?_⟩
  cases hmove with
  | take => exact (hacks.recvAdvance _ _).trans h.accepted
  | skip => exact (hacks.recvAdvance _ _).trans h.accepted
  | close => exact (hacks.close _).trans h.accepted
  | release => exact h.accepted

theorem useStream (h : c.Counted accepted) (n : ℕ) (op : StreamOp) :
    (c.useStream n op).Counted accepted := by
  refine ⟨h.ordered.useStream n op, ?_⟩
  have hsent : (c.flow.useStream n op).link.trace.sent = c.flow.link.trace.sent := by
    rw [Flow.useStream]
    split
    · obtain ⟨_, _, _, htrace⟩ := c.flow.link.trace_apply op
      rw [htrace]
    · rfl
  rw [Cell.useStream, hsent]
  exact h.accepted

end Cell.Counted

theorem counted_rules {accepted acked : S → ℕ} (hacks : Acknowledges api accepted acked)
    (hsend : ∀ sk data, api.canSend sk = true → (api.sendSlice sk data).isSome = true) :
    FlowRules api (fun l e => SendsNothing api accepted l e ∧
        PendingInv (fun _ _ sk => accepted sk = 0) l.core)
      (fun _ _ => Cell.Counted accepted) fun _ => True where
  start _ _ _ := id
  quiet _ _ := ⟨id, id, id⟩
  abort now c h := by
    rw [Cell.abortExpired]
    split
    · exact ⟨h.ordered.aborted, (hacks.abort _).trans h.accepted⟩
    · exact h
  pumpOutbound l _ _ k c _ h := Cell.pumpOutbound_keeps (fun _ _ hc => hc.outflow hacks hsend) h
  poll l p _ hg k sk sk' fl hc hsk' h :=
    ⟨h.ordered.polled _ _, (hg.1 k sk (StackCore.cell_eq_some.1 hc).1 sk' hsk').trans h.accepted⟩
  promote l _ hg k sk src dst n now depth hmem hsk _ _ _ _ := by
    obtain ⟨p, hp⟩ := Option.isSome_iff_exists.1 (AList.lookup_isSome.2 hmem)
    exact ⟨.new src dst n depth _, (hacks.setTimeout _ _).trans (hg.2.holds k p sk hp hsk)⟩
  pumpInbound l _ _ _ c _ h := Cell.pumpInbound_keeps (fun _ _ hc => hc.inflow hacks) h
  observe now c h := by
    obtain ⟨_, hobserve⟩ := c.observe_changes api now
    rw [hobserve]
    exact ⟨⟨h.ordered.outbound, h.ordered.inbound, h.ordered.chunks⟩, h.accepted⟩
  reap _ _ _ _ := trivial
  stream l n op _ k c _ h := h.useStream n op
  streamRetired _ _ _ _ _ _ _ := trivial

/-- In every run every live connection is counted. -/
theorem counted_of_run {accepted acked : S → ℕ} (hacks : Acknowledges api accepted acked)
    (hsend : ∀ sk data, api.canSend sk = true → (api.sendSlice sk data).isSome = true)
    {cfg : StackConfig} {es : List (Event S)} {l : Loop S}
    (hes : Guarded (Loop.next wire api) (SendsNothing api accepted) (.start cfg) es)
    (h : run (Loop.next wire api) (.start cfg) es = some l) :
    FlowInv (Cell.Counted accepted) (fun _ => True) l.core := by
  have hkeep : ∀ (l : Loop S) e l', FlowInv (Cell.Counted accepted) (fun _ => True) l.core ∧
      PendingInv (fun _ _ sk => accepted sk = 0) l.core → SendsNothing api accepted l e →
        l.next wire api e = some l' → FlowInv (Cell.Counted accepted) (fun _ => True) l'.core ∧
          PendingInv (fun _ _ sk => accepted sk = 0) l'.core :=
    fun l e l' hl hg hn => ⟨(counted_rules hacks hsend).flowInv_next hl.1 ⟨hg, hl.2⟩ hn,
      (unsent_rules hacks).pendingInv_next hl.2 hg hn⟩
  exact (run_invariant hkeep ⟨(counted_rules hacks hsend).flowInv_start cfg,
    (unsent_rules hacks).pendingInv_start cfg⟩ hes h).1

/-- Retiring a connection adds to `bytes_discarded` what was written and not acknowledged. -/
theorem Cell.Counted.lost {accepted acked : S → ℕ} (hacks : Acknowledges api accepted acked)
    {c : Cell S} (h : c.Counted accepted) :
    c.flow.link.trace.written.length =
      acked c.socket + StackCore.lost api c.flow c.socket := by
  have hwritten := congrArg List.length h.ordered.outbound
  have haccepted := h.accepted
  have hsum := hacks.sendQueue c.socket
  have hparked :
      c.flow.parkedBytes.length = c.flow.pendingOut.elim 0 fun p => p.1.length - p.2 := by
    rw [Flow.parkedBytes]
    cases c.flow.pendingOut with
    | none => rfl
    | some p => exact List.length_drop
  rw [List.length_append, List.length_append, List.length_flatten, hparked] at hwritten
  rw [StackCore.lost]
  omega

/-- The rounds of `reap_closed` before the one of a connection leave it alone. -/
theorem cell_foldl_retireFlow {s : StackCore S} (hs : Accounted s) {before : List ℕ} {k : ℕ}
    (hnodup : before.Nodup) (hflows : ∀ a ∈ before, a ∈ s.flows) (hk : k ∉ before) :
    (before.foldl (StackCore.retireFlow api) s).cell k = s.cell k := by
  have hrounds : Accounted (before.foldl (StackCore.retireFlow api) s) ∧
      (before.foldl (StackCore.retireFlow api) s).cell k = s.cell k := by
    refine foldl_rule (P := fun s' => Accounted s' ∧ s'.cell k = s.cell k)
      (Q := fun a s' => a ∈ s'.flows ∧ a ≠ k) (fun s' a hs' ha => ?_)
      (fun s' a b hab hs' ha hb => ?_) hnodup ⟨hs, rfl⟩ fun a ha => ⟨hflows a ha, ?_⟩
    · refine ⟨accounted_retireFlow hs'.1 ha.1, ?_⟩
      rw [hs'.1.cell_retireFlow ha.1, if_neg ha.2.symm, hs'.2]
    · exact ⟨(mem_flows_retireFlow hs'.1 ha.1 b).2 ⟨hab.symm, hb.1⟩, hb.2⟩
    · rintro rfl
      exact hk ha
  exact hrounds.2

/-- **No byte for the application is lost silently**: when `reap_closed` retires a connection, what
was written into its stream is what the application acknowledged and what this retirement adds to
`bytes_discarded`. -/
theorem discarded_of_run {accepted acked : S → ℕ} (hacks : Acknowledges api accepted acked)
    (hsend : ∀ sk data, api.canSend sk = true → (api.sendSlice sk data).isSome = true)
    {cfg : StackConfig} {es : List (Event S)} {l : Loop S}
    (hes : Guarded (Loop.next wire api) (SendsNothing api accepted) (.start cfg) es)
    (h : run (Loop.next wire api) (.start cfg) es = some l) {before after : List ℕ} {k : ℕ}
    (hdead : l.core.deadFlows api = before ++ k :: after) :
    let s := before.foldl (StackCore.retireFlow api) (l.core.touch l.core.flows.keys)
    ∃ f sk, s.flows.lookup k = some f ∧ s.sockets.get k = some sk ∧
      (s.retireFlow api k).retired = s.retired ++ [f.retire (api.recvBuffer sk)] ∧
      f.link.trace.written.length + s.bytesDiscarded =
        acked sk + (s.retireFlow api k).bytesDiscarded := by
  have hinv := counted_of_run hacks hsend hes h
  have hnodup : (before ++ k :: after).Nodup := hdead ▸ l.core.flows.keys_nodup.filter _
  have hflows : ∀ a ∈ before ++ k :: after, a ∈ l.core.flows :=
    fun a ha => AList.mem_keys.2 (List.mem_of_mem_filter (hdead ▸ ha))
  obtain ⟨hbefore, -, hdisjoint⟩ := List.nodup_append.1 hnodup
  have hk : k ∉ before := fun hmem => hdisjoint k hmem k List.mem_cons_self rfl
  have hcell : (before.foldl (StackCore.retireFlow api) l.core).cell k = l.core.cell k :=
    cell_foldl_retireFlow hinv.accounted hbefore
      (fun a ha => hflows a (List.mem_append_left _ ha)) hk
  obtain ⟨f, sk, hf, hsk⟩ := hinv.accounted.exists_flow
    (hflows k (List.mem_append_right _ List.mem_cons_self))
  have hlive : l.core.cell k = some ⟨sk, f⟩ := StackCore.cell_eq_some.2 ⟨hsk, hf⟩
  rw [hlive, StackCore.cell_eq_some] at hcell
  obtain ⟨hsk', hf'⟩ := hcell
  have hlost := (hinv.live k ⟨sk, f⟩ hlive).lost hacks
  rw [hinv.accounted.touch_flows]
  refine ⟨f, sk, hf', hsk', ?_⟩
  simp only [StackCore.retireFlow, hf', hsk']
  refine ⟨trivial, ?_⟩
  dsimp only at hlost
  omega

/-- How many bytes the reference socket has had acknowledged, until a FIN is. -/
def Reference.Sock.acked (sk : Reference.Sock) : ℕ := sk.una - 1

/-- How many it has accepted. -/
def Reference.Sock.accepted (sk : Reference.Sock) : ℕ := sk.tx.length + sk.acked

theorem Reference.acknowledges :
    Acknowledges Reference.api Reference.Sock.accepted Reference.Sock.acked where
  sendQueue _ := rfl
  new _ := rfl
  listen sk dst sk' hlisten := by
    simp only [Reference.api, Reference.Sock.listen] at hlisten
    split at hlisten
    · cases hlisten
    · obtain rfl := Option.some.inj hlisten
      rfl
  setTimeout _ _ := rfl
  sendSlice sk data n sk' hslice := by
    simp only [Reference.api, Reference.Sock.sendSlice] at hslice
    split at hslice
    · obtain ⟨rfl, rfl⟩ := Prod.mk.inj (Option.some.inj hslice)
      refine ⟨min_le_left _ _, ?_⟩
      simp only [Reference.Sock.accepted, Reference.Sock.acked, List.length_append,
        List.length_take]
      omega
    · cases hslice
  recvAdvance _ _ := rfl
  close sk := by
    obtain ⟨state, _⟩ := sk
    cases state <;> rfl
  abort _ := rfl

instance (accepted : S → ℕ) (l : Loop S) :
    (e : Event S) → Decidable (SendsNothing api accepted l e)
  | .poll p => inferInstanceAs (Decidable (∀ h sk, l.core.sockets.get h = some sk →
      ∀ sk', (l.core.poll api p).sockets.get h = some sk' → accepted sk' = accepted sk))
  | .ingest _ | .begin _ | .pass | .stream _ _ | .drain => .isTrue trivial

/-- Of six bytes written the application acknowledges two and then resets the connection. -/
def reset : List (Event Reference.Sock) :=
  Reference.handshake ++ [.stream 0 (.write [1, 2, 3, 4, 5, 6])] ++
    Loop.stepEvents 30000 Reference.poll ++
    [.ingest (Reference.ack Reference.app 3 []), .ingest (Reference.rst Reference.app)] ++
    Reference.pumped 40000 ++ [.pass]

theorem isSome_runs_reset : (Reference.runs ⟨4, 4⟩ reset).isSome = true := by decide +kernel

/-- The other four are counted: two in the send buffer and two in `pending_out`. -/
theorem discarded_of_run_reset :
    let s := ((Reference.runs ⟨4, 4⟩ reset).get isSome_runs_reset).core
    let s := [].foldl (StackCore.retireFlow Reference.api) (s.touch s.flows.keys)
    ∃ f sk, s.flows.lookup 0 = some f ∧ s.sockets.get 0 = some sk ∧
      (s.retireFlow Reference.api 0).retired =
        s.retired ++ [f.retire (Reference.api.recvBuffer sk)] ∧
      f.link.trace.written.length + s.bytesDiscarded =
        sk.acked + (s.retireFlow Reference.api 0).bytesDiscarded :=
  discarded_of_run Reference.acknowledges Reference.sends.isSome_sendSlice (by decide +kernel)
    (Option.some_get isSome_runs_reset).symm (show _ = [] ++ 0 :: [] by decide +kernel)

end Stack

end LiosTunnel
