import LiosTunnel.Stack.Flows
import LiosTunnel.Stack.Moves

/-!
# Tunnel to application

What the tunnel writes goes through `from_stream` and `pending_out` into the socket's send buffer,
and nothing is lost or reordered on the way (`Carried.written`). `socket.close()` sends a FIN after
what the send buffer holds, so a close is clean when nothing is left outside it. `pump_outbound`
closes only then. `pump_inbound` closes when it finds the reader gone, whatever is left: it is clean
exactly when nothing was.

* `Closing.Clean`, `Carried`: a clean close, and what holds of a connection whose closes are.
* `Settled`: no connection is in the way of that in `pump_inbound`.
* `settled_iff_closesClean`: every close of a run is clean exactly when it is settled.
-/

namespace LiosTunnel

/-- Nothing was left outside the send buffer, nor could anything follow. -/
def Closing.Clean (cl : Closing) : Prop :=
  cl.parked = false ∧ cl.queued = [] ∧ cl.senderGone = true ∧ cl.sent = cl.written

instance (cl : Closing) : Decidable cl.Clean := inferInstanceAs (Decidable (_ ∧ _ ∧ _ ∧ _))

namespace Stack

open Runs

variable {S : Type} {api : TcpApi S} {wire : Wire} {now : ℕ}

/-- How sockets send: one that can send takes a beginning of what it is given, and one that was
closed cannot. -/
structure Sends (api : TcpApi S) : Prop where
  takes : ∀ sk data, api.canSend sk = true →
    ∃ n sk', api.sendSlice sk data = some (n, sk') ∧ n ≤ data.length ∧ (data ≠ [] → 0 < n)
  closed : ∀ sk, api.canSend (api.close sk) = false

theorem Sends.isSome_sendSlice (h : Sends api) (sk : S) (data : Bytes)
    (hcan : api.canSend sk = true) : (api.sendSlice sk data).isSome = true := by
  obtain ⟨n, sk', hslice, -⟩ := h.takes sk data hcan
  rw [hslice]
  rfl

theorem Reference.sends : Sends Reference.api where
  takes sk data hcan := by
    obtain ⟨hmay, hroom⟩ := Bool.and_eq_true_iff.1 hcan
    have hroom := of_decide_eq_true hroom
    refine ⟨_, _, if_pos hmay, min_le_left _ _, fun hdata => ?_⟩
    have hlen := List.length_pos_iff.2 hdata
    show 0 < min data.length (sk.capacity - sk.tx.length)
    omega
  closed sk := by
    obtain ⟨state, _⟩ := sk
    cases state <;> rfl

/-- What `pending_out` still holds. -/
def Flow.parkedBytes (f : Flow) : Bytes := f.pendingOut.elim [] fun p => p.1.drop p.2

/-- What the tunnel has written was sent, is parked or is queued, in this order. -/
def Flow.CarriesAll (f : Flow) : Prop :=
  f.link.trace.written = f.link.trace.sent ++ f.parkedBytes ++ f.link.outbound.queue.flatten

/-- Each move of `pump_outbound` takes bytes from one place to the next. -/
theorem Flow.CarriesAll.outflow
    (hsend : ∀ sk data, api.canSend sk = true → (api.sendSlice sk data).isSome = true)
    {c c' : Cell S} (h : c.flow.CarriesAll) (hmove : c.Outflow api now c') :
    c'.flow.CarriesAll := by
  have hwritten : c.flow.link.trace.written = _ := h
  have hsplit : ∀ (data : Bytes) n, data = data.take n ++ data.drop n :=
    fun data n => (List.take_append_drop n data).symm
  cases hmove with
  | @resume chunk off n sk hp hcan hslice =>
    rw [parkedBytes, hp, Option.elim_some, hsplit (chunk.drop off) n, List.drop_drop] at hwritten
    refine hwritten.trans ?_
    by_cases hlt : off + n < chunk.length
    · simp [Cell.park, Cell.sent, parkedBytes, hlt]
    · have hrest : chunk.drop (off + n) = [] := List.drop_eq_nil_of_le (not_lt.1 hlt)
      simp [Cell.park, Cell.sent, parkedBytes, hlt, hrest]
  | @push chunk q n sk hp hcan hq hslice =>
    rw [parkedBytes, hp, hq, Option.elim_none, List.flatten_cons] at hwritten
    refine hwritten.trans ?_
    by_cases hlt : n < chunk.length
    · conv_lhs => rw [hsplit chunk n]
      simp [Cell.park, Cell.sent, Cell.withQueue, Cell.withLink, parkedBytes, hlt]
    · have hall : chunk.take n = chunk := List.take_of_length_le (not_lt.1 hlt)
      simp [Cell.park, Cell.sent, Cell.withQueue, Cell.withLink, parkedBytes, hlt, hall]
  | @fail chunk q hcan hq hslice =>
    have hsome := hsend c.socket chunk hcan
    rw [hslice] at hsome
    cases hsome
  | setAside hp hq =>
    rw [parkedBytes, hp, hq] at hwritten
    refine hwritten.trans ?_
    simp [Cell.park, Cell.withQueue, Cell.withLink, parkedBytes]
  | close _ _ _ => exact hwritten

/-- So does what the tunnel writes to its stream. -/
theorem Flow.CarriesAll.useStream {f : Flow} (h : f.CarriesAll) (n : ℕ) (op : StreamOp) :
    (f.useStream n op).CarriesAll := by
  rw [Flow.useStream]
  split
  · obtain ⟨bytes, hwritten, hqueue⟩ := f.link.written_apply op
    obtain ⟨_, _, _, htrace⟩ := f.link.trace_apply op
    have hsent : (f.link.apply op).trace.sent = f.link.trace.sent := by rw [htrace]
    show (f.link.apply op).trace.written =
      (f.link.apply op).trace.sent ++ f.parkedBytes ++ (f.link.apply op).outbound.queue.flatten
    rw [hwritten, hqueue, hsent, h, List.append_assoc _ _ bytes]
  · exact h

/-- The bytes of a flow that go to the application are all somewhere, and its closes were clean. -/
structure Carried (f : Flow) : Prop where
  receiverHeld : f.link.outbound.receiverGone = false
  dropped : f.link.inbound.receiverGone = true → f.link.outbound.senderGone = true
  written : f.link.trace.written =
    f.link.trace.sent ++ f.parkedBytes ++ f.link.outbound.queue.flatten
  closes : ∀ cl ∈ f.link.trace.closes, cl.Clean

namespace Carried

theorem new (src dst : SocketAddr) (n depth : ℕ) (received : Bytes) :
    Carried ⟨src, dst, n, none, now, none, (localStreamPair depth).accept received⟩ :=
  ⟨rfl, fun h => absurd h Bool.false_ne_true, rfl, fun _ h => absurd h List.not_mem_nil⟩

/-- Closing with nothing left. -/
theorem close {c : Cell S} (h : Carried c.flow) (hp : c.flow.pendingOut = none)
    (hq : c.flow.link.outbound.queue = []) (hs : c.flow.link.outbound.senderGone = true) :
    Carried (c.close api).flow := by
  refine ⟨h.receiverHeld, h.dropped, h.written, fun cl hcl => ?_⟩
  obtain hcl | hcl := List.mem_append.1 hcl
  · exact h.closes cl hcl
  · obtain rfl := List.mem_singleton.1 hcl
    refine ⟨by simp [Cell.closing, hp], hq, hs, ?_⟩
    have hwritten := h.written
    rw [Flow.parkedBytes, hp, hq] at hwritten
    simpa [Cell.closing] using hwritten.symm

/-- The stack's side of `from_stream` is held, so it is closed when the stream's side is gone. -/
theorem isClosed_iff {f : Flow} (h : Carried f) :
    f.link.outbound.isClosed = true ↔ f.link.outbound.senderGone = true := by
  simp [Channel.isClosed, h.receiverHeld]

/-- Each move of `pump_outbound` keeps the bytes, and closes with none left. -/
theorem outflow (hsend : Sends api) {c c' : Cell S} (h : Carried c.flow)
    (hmove : c.Outflow api now c') : Carried c'.flow := by
  have hwritten : c'.flow.CarriesAll :=
    Flow.CarriesAll.outflow hsend.isSome_sendSlice h.written hmove
  cases hmove with
  | resume hp hcan hslice => exact ⟨h.receiverHeld, h.dropped, hwritten, h.closes⟩
  | push hp hcan hq hslice => exact ⟨h.receiverHeld, h.dropped, hwritten, h.closes⟩
  | fail hcan hq hslice => exact ⟨h.receiverHeld, h.dropped, hwritten, h.closes⟩
  | setAside hp hq => exact ⟨h.receiverHeld, h.dropped, hwritten, h.closes⟩
  | close hp hq hclosed => exact h.close hp hq (h.isClosed_iff.1 hclosed)

theorem pumpOutbound {c : Cell S} (hsend : Sends api) (h : Carried c.flow) :
    Carried (c.pumpOutbound api now).flow :=
  Cell.pumpOutbound_keeps (P := fun c => Carried c.flow) (fun _ _ hc => hc.outflow hsend) h

/-- What the tunnel does with its stream, and what it reads. -/
theorem useStream {f : Flow} (h : Carried f) (n : ℕ) (op : StreamOp) :
    Carried (f.useStream n op) := by
  have hwritten : (f.useStream n op).CarriesAll := Flow.CarriesAll.useStream h.written n op
  rw [Flow.useStream] at hwritten ⊢
  split at hwritten
  · rename_i hn
    rw [if_pos hn]
    obtain ⟨hheld, hdropped⟩ := f.link.outbound_apply op
    obtain ⟨_, _, _, htrace⟩ := f.link.trace_apply op
    refine ⟨hheld.trans h.receiverHeld, hdropped h.dropped, hwritten, fun cl hcl => ?_⟩
    rw [htrace] at hcl
    exact h.closes cl hcl
  · rename_i hn
    rw [if_neg hn]
    exact h

theorem recvLoop {c : Cell S} (h : Carried c.flow)
    (hkept : c.flow.link.inbound.receiverGone = false) (room : ℕ) :
    Carried (c.recvLoop api now room).1.flow := by
  induction room generalizing c with
  | zero =>
    rw [Cell.recvLoop]
    simp only [hkept, Bool.false_eq_true, if_false]
    split <;> exact h
  | succ room ih =>
    rw [Cell.recvLoop]
    simp only [hkept, Bool.false_eq_true, if_false]
    split
    · split
      · exact h
      · split
        · exact h
        · exact ih ⟨h.receiverHeld, h.dropped, h.written, h.closes⟩ hkept
    · exact h

end Carried

/-! ## The other close -/

/-- `pump_inbound` does not find this connection's reader gone while bytes for the application are
left in `pending_out` or `from_stream`. -/
def Cell.Settled (api : TcpApi S) (c : Cell S) : Prop :=
  c.flow.link.inbound.senderGone = false → c.flow.link.inbound.receiverGone = true →
    api.canRecv c.socket = true → c.flow.pendingOut = none ∧ c.flow.link.outbound.queue = []

theorem Carried.pumpInbound {c : Cell S} (h : Carried c.flow) (hc : c.Settled api) :
    Carried (c.pumpInbound api now).flow := by
  rw [Cell.pumpInbound]
  split
  · exact h
  · rename_i hheld
    have hloop : Carried (c.recvLoop api now c.flow.link.inbound.room).1.flow := by
      cases hgone : c.flow.link.inbound.receiverGone with
      | false => exact h.recvLoop hgone _
      | true =>
        unfold Cell.recvLoop
        split
        · rename_i hcan
          obtain ⟨hp, hq⟩ := hc (by simpa using hheld) hgone hcan
          exact h.close hp hq (h.dropped hgone)
        · exact h
    dsimp only
    split
    · exact hloop
    · exact ⟨hloop.receiverHeld, hloop.dropped, hloop.written, hloop.closes⟩

/-- `pump_inbound` runs with every connection settled. -/
def Settled (api : TcpApi S) (l : Loop S) : Event S → Prop
  | .pass => l.phase = .pumpInbound → ∀ h c, l.core.cell h = some c → c.Settled api
  | _ => True

theorem carried_rules (hsend : Sends api) :
    FlowRules api (Settled api) (fun _ _ c => Carried c.flow)
      (fun f => ∀ cl ∈ f.link.trace.closes, cl.Clean) where
  start _ _ _ := id
  quiet _ _ := ⟨id, id, id⟩
  abort now c h := by
    rw [Cell.abortExpired]
    split
    · exact ⟨h.receiverHeld, h.dropped, h.written, h.closes⟩
    · exact h
  pumpOutbound l _ _ k c _ h := h.pumpOutbound hsend
  poll _ _ _ _ _ _ _ _ _ _ h := ⟨h.receiverHeld, h.dropped, h.written, h.closes⟩
  promote _ _ _ _ _ src dst n now depth _ _ _ _ _ _ := .new src dst n depth _
  pumpInbound l hp hg k c hc h := h.pumpInbound (hg hp k c hc)
  observe now c h := by
    obtain ⟨_, hobserve⟩ := c.observe_changes api now
    rw [hobserve]
    exact ⟨h.receiverHeld, h.dropped, h.written, h.closes⟩
  reap _ c h _ := h.closes
  stream l n op _ k c _ h := h.useStream n op
  streamRetired l n op _ f _ h := by
    rw [Flow.useStream]
    split
    · obtain ⟨_, _, _, htrace⟩ := f.link.trace_apply op
      rw [htrace]
      exact h
    · exact h

/-- Every `socket.close()` so far came after the send buffer had accepted every byte that the tunnel
wrote. -/
def ClosesClean (s : StackCore S) : Prop :=
  (∀ k f, s.flows.lookup k = some f → ∀ cl ∈ f.link.trace.closes, cl.Clean) ∧
    ∀ f ∈ s.retired, ∀ cl ∈ f.link.trace.closes, cl.Clean

/-- What holds of every connection when the closes are clean. -/
abbrev CarriedInv : StackCore S → Prop :=
  FlowInv (fun c => Carried c.flow) (fun f => ∀ cl ∈ f.link.trace.closes, cl.Clean)

theorem CarriedInv.closesClean {s : StackCore S} (h : CarriedInv s) : ClosesClean s := by
  refine ⟨fun k f hf => ?_, h.retired⟩
  obtain ⟨_, sk, -, hsk⟩ := h.accounted.exists_flow
    (AList.lookup_isSome.1 (Option.isSome_of_eq_some hf))
  exact (h.live k ⟨sk, f⟩ (StackCore.cell_eq_some.2 ⟨hsk, hf⟩)).closes

/-- A connection that is not settled is closed with bytes left. -/
theorem exists_unclean_of_not_settled (now : ℕ) {c : Cell S} (hc : ¬ c.Settled api) :
    ∃ cl ∈ (c.pumpInbound api now).flow.link.trace.closes, ¬ cl.Clean := by
  simp only [Cell.Settled, not_forall] at hc
  obtain ⟨hheld, hgone, hcan, hleft⟩ := hc
  refine ⟨c.closing api, ?_, fun hclean => hleft ⟨?_, hclean.2.1⟩⟩
  · have hloop : c.recvLoop api now c.flow.link.inbound.room = (c.close api, true) := by
      unfold Cell.recvLoop
      rw [if_pos hcan, if_pos hgone]
    rw [Cell.pumpInbound, if_neg (by simp [hheld]), hloop]
    exact List.mem_append_right _ (List.mem_singleton.2 rfl)
  · simpa [Cell.closing] using hclean.1

/-- **When a clean close loses nothing**: every `socket.close()` of a run comes after the send
buffer has accepted every byte the tunnel wrote if and only if `pump_inbound` never meets a
connection whose reader is gone, with bytes for the application still left. -/
theorem settled_iff_closesClean (hsend : Sends api) (cfg : StackConfig)
    (es : List (Event S)) :
    Guarded (Loop.next wire api) (Settled api) (.start cfg) es ↔
      ∀ es' l, es' <+: es → run (Loop.next wire api) (.start cfg) es' = some l →
        ClosesClean l.core := by
  have hr := carried_rules hsend
  have hkeep : ∀ (l : Loop S) e l', CarriedInv l.core → Settled api l e →
      l.next wire api e = some l' → CarriedInv l'.core :=
    fun l e l' hl hg hn => hr.flowInv_next hl hg hn
  refine guarded_iff (fun l hl => hl.closesClean) (fun l e l' hl _ => hkeep l e l' hl)
    (fun l e hl _ hg => ?_) (hr.flowInv_start cfg) (guarded_trivial _ es)
  cases e with
  | pass =>
    simp only [Settled, not_forall] at hg
    obtain ⟨hp, k, c, hc, hnot⟩ := hg
    refine ⟨⟨l.core.pumpInbound api, .observe⟩, by simp only [Loop.next, hp], fun hclean => ?_⟩
    obtain ⟨cl, hcl, hunclean⟩ := exists_unclean_of_not_settled l.core.lastStep hnot
    have hcell : (l.core.pumpInbound api).cell k = some (c.pumpInbound api l.core.lastStep) := by
      rw [StackCore.pumpInbound, StackCore.cell_forFlows, hc]
      rfl
    exact hunclean (hclean.1 k _ (StackCore.cell_eq_some.1 hcell).2 cl hcl)
  | _ => exact absurd trivial hg

/-- The exact condition, for an accepted connection. -/
theorem settled_iff_closesClean_handshake :
    Guarded (Loop.next Reference.wire Reference.api) (Settled Reference.api)
        (.start Reference.cfg) Reference.handshake ↔
      ∀ es' l, es' <+: Reference.handshake → Reference.runs Reference.cfg es' = some l →
        ClosesClean l.core :=
  settled_iff_closesClean Reference.sends Reference.cfg Reference.handshake

/-- A connection whose send buffer holds four bytes is given six; then its `LocalStream` is dropped
while the application goes on sending. -/
def upload : List (Event Reference.Sock) :=
  Reference.handshake ++ [.stream 0 (.write [1, 2, 3, 4, 5, 6])] ++
    Loop.stepEvents 30000 Reference.poll ++
    [.stream 0 .drop, .ingest (Reference.ack Reference.app 1 [9])] ++ Reference.pumped 40000

/-- **A close that truncates**: `pump_inbound` closes the socket with two bytes left in
`pending_out`. -/
theorem not_closesClean_upload :
    ¬ ∀ (S : Type) (wire : Wire) (api : TcpApi S), Sends api → ∀ cfg es l,
      run (Loop.next wire api) (.start cfg) es = some l → ClosesClean l.core := by
  intro h
  have hrun : (Reference.runs ⟨4, 4⟩ upload).any (fun l =>
      (l.core.flows.lookup 0).any fun f => f.link.trace.closes.any fun cl => !decide cl.Clean) =
        true := by decide +kernel
  obtain ⟨l, hl, hrun⟩ := (Option.any_eq_true _ _).1 hrun
  obtain ⟨f, hf, hrun⟩ := (Option.any_eq_true _ _).1 hrun
  obtain ⟨cl, hcl, hrun⟩ := List.any_eq_true.1 hrun
  have hclean := (h _ _ _ Reference.sends _ upload l hl).1 0 f hf cl hcl
  simp [hclean] at hrun

end Stack

end LiosTunnel
