import LiosTunnel.Stack.Clocks

/-!
# How a connection ends

The stack ends a connection by `socket.close()`, which asks smoltcp for a FIN, or by
`socket.abort()`, which resets it; otherwise the application has reset it. The traces note all
three, and every connection that is over was ended by one of them. A connection whose stream is
dropped is over by its deadline, or is left to the timer of TIME-WAIT.

* `Flow.finAsked`, `Flow.Over`: what ended a connection.
* `Terminates`, `Obeys`: what smoltcp's sockets do to their state, and what a poll does not do.
* `Cell.ending_pumpOutbound`, `Cell.ending_pumpInbound`: when the pumps ask for a FIN.
* `Ends`: what holds of the connections after every guarded run.
* `Ends.settles`: what a step leaves of a connection whose stream was dropped before.
-/

namespace LiosTunnel.Stack

open Runs

/-! ## Sockets -/

/-- The state that `close` leads to. -/
def TcpState.afterClose : TcpState → TcpState
  | .listen | .synSent => .closed
  | .synReceived | .established => .finWait1
  | .closeWait => .lastAck
  | state => state

namespace TcpState

theorem finSent_afterClose (state : TcpState) :
    state.afterClose.finSent = (state.finSent || state.finishes) := by
  cases state <;> rfl

theorem finishes_afterClose (state : TcpState) : state.afterClose.finishes = false := by
  cases state <;> rfl

theorem afterClose_afterClose (state : TcpState) :
    state.afterClose.afterClose = state.afterClose := by
  cases state <;> rfl

theorem connected_afterClose {state : TcpState} (h : state.connected = true) :
    state.afterClose.connected = true := by
  revert h
  cases state <;> decide

theorem closed_of_afterClose {state : TcpState} (h : state.connected = true)
    (hclosed : state.afterClose = .closed) : state = .closed := by
  revert h hclosed
  cases state <;> decide

/-- From one state a poll may lead to the other: it sends no FIN that was not asked for, opens no
closed socket, and takes no connection back to its handshake. -/
def Obeys (state state' : TcpState) : Prop :=
  (state.finSent = false → state'.finSent = false) ∧ (state = .closed → state' = .closed) ∧
    (state.connected = true → state'.connected = true)

instance (state state' : TcpState) : Decidable (state.Obeys state') := inferInstanceAs
  (Decidable ((state.finSent = false → state'.finSent = false) ∧
    (state = .closed → state' = .closed) ∧ (state.connected = true → state'.connected = true)))

end TcpState

section

variable {S : Type} (api : TcpApi S)

/-- What smoltcp's sockets do to their state, as far as the stack causes it, and where they may send
and are active. -/
structure Terminates : Prop where
  listen : ∀ n dst sk, api.listen (api.new n) dst = some sk → api.state sk = .listen
  close : ∀ sk, api.state (api.close sk) = (api.state sk).afterClose
  abort : ∀ sk, api.state (api.abort sk) = .closed
  setTimeout : ∀ sk t, api.state (api.setTimeout sk t) = api.state sk
  sendSlice : ∀ sk data n sk', api.sendSlice sk data = some (n, sk') →
    api.state sk' = api.state sk
  recvAdvance : ∀ sk n, api.state (api.recvAdvance sk n) = api.state sk
  maySend : ∀ sk, api.maySend sk = true ↔
    api.state sk = .established ∨ api.state sk = .closeWait
  isActive : ∀ sk, api.isActive sk = true → api.state sk ≠ .closed

/-- Every poll leads each socket where it may, and the stack dials none. -/
def Obeys (l : Loop S) : Event S → Prop
  | .poll p => ∀ h sk, l.core.sockets.get h = some sk →
      ∀ sk', (l.core.poll api p).sockets.get h = some sk' →
        (api.state sk).Obeys (api.state sk')
  | e => NeverDials api l e

instance (l : Loop S) : (e : Event S) → Decidable (Obeys api l e)
  | .poll p => inferInstanceAs (Decidable (∀ h sk, l.core.sockets.get h = some sk →
      ∀ sk', (l.core.poll api p).sockets.get h = some sk' →
        (api.state sk).Obeys (api.state sk')))
  | .pass => inferInstanceAs (Decidable (NeverDials api l .pass))
  | .ingest _ | .begin _ | .stream _ _ | .drain => .isTrue trivial

/-- The send buffer takes all of the chunks. -/
def takesAll : S → List Bytes → Bool
  | _, [] => true
  | sk, chunk :: q => api.canSend sk && (api.sendSlice sk chunk).any fun (n, sk') =>
      decide (chunk.length ≤ n) && takesAll sk' q

end

variable {S : Type} {api : TcpApi S} {wire : Wire} {now : ℕ}

theorem Terminates.staysClosed (hapi : Terminates api) : StaysClosed api where
  abort := hapi.abort
  maySend sk h := by
    rw [Bool.eq_false_iff, Ne, hapi.maySend, h]
    simp
  sendSlice sk data n sk' hslice h := (hapi.sendSlice sk data n sk' hslice).trans h
  recvAdvance sk n h := (hapi.recvAdvance sk n).trans h
  close sk h := by
    rw [hapi.close, h]
    rfl

theorem Obeys.keepsClosed {l : Loop S} {e : Event S} (h : Obeys api l e) : KeepsClosed api l e := by
  cases e with
  | poll p => exact fun k sk hsk hclosed sk' hsk' => (h k sk hsk sk' hsk').2.1 hclosed
  | _ => trivial

/-! ## What the traces note -/

/-- `socket.close()` has asked for a FIN. -/
def Flow.finAsked (f : Flow) : Bool := f.link.trace.closes.any Closing.finishes

/-- What ends a connection: the stack aborts it, the application resets it, or the stack closes
it. -/
def Flow.Over (f : Flow) : Prop :=
  f.link.trace.aborted = true ∨ f.link.trace.reset = true ∨ f.finAsked = true

/-- A FIN was asked for on the connection of stream `n`, which may be retired. -/
def StackCore.finAsked (s : StackCore S) (n : ℕ) : Bool :=
  (s.flows.entries.any fun e => e.2.stream == n && e.2.finAsked) ||
    s.retired.any fun f => f.stream == n && f.finAsked

theorem Accounted.finAsked_eq_false {s : StackCore S} (hs : Accounted s) {n : ℕ} :
    s.finAsked n = false ↔
      (∀ k c, s.cell k = some c → c.flow.stream = n → c.flow.finAsked = false) ∧
        ∀ f ∈ s.retired, f.stream = n → f.finAsked = false := by
  rw [StackCore.finAsked, Bool.or_eq_false_iff, List.any_eq_false, List.any_eq_false]
  refine and_congr ⟨fun h k c hc hn => ?_, fun h e he => ?_⟩ ?_
  · have hentry := AList.mem_lookup_iff.1 (StackCore.cell_eq_some.1 hc).2
    simpa [hn] using h _ hentry
  · obtain ⟨_, sk, -, hsk⟩ := hs.exists_flow (AList.lookup_isSome.1
      (Option.isSome_of_eq_some (AList.mem_lookup_iff.2 he)))
    have hc : s.cell e.1 = some ⟨sk, e.2⟩ :=
      StackCore.cell_eq_some.2 ⟨hsk, AList.mem_lookup_iff.2 he⟩
    have hasked : e.2.stream = n → e.2.finAsked = false := h e.1 _ hc
    simpa using hasked
  · simp

/-- What the task does with its stream ends no connection by itself. -/
theorem Flow.ended_useStream (f : Flow) (n : ℕ) (op : StreamOp) :
    (f.useStream n op).finAsked = f.finAsked ∧ ((f.useStream n op).Over ↔ f.Over) := by
  rw [useStream]
  split
  · obtain ⟨_, _, _, htrace⟩ := f.link.trace_apply op
    have hasked : ({ f with link := f.link.apply op } : Flow).finAsked = f.finAsked := by
      rw [finAsked, finAsked, htrace]
    refine ⟨hasked, ?_⟩
    rw [Over, Over, hasked, htrace]
  · exact ⟨rfl, Iff.rfl⟩

/-! ## When the pumps ask for a FIN -/

namespace Cell

variable {c : Cell S}

/-- The state of the socket, and whether a FIN was asked for. -/
def ending (api : TcpApi S) (c : Cell S) : TcpState × Bool :=
  (api.state c.socket, c.flow.finAsked)

/-- What a close makes of these. -/
def closeEnding (e : TcpState × Bool) : TcpState × Bool :=
  (e.1.afterClose, e.2 || e.1.finishes)

theorem closeEnding_closeEnding (e : TcpState × Bool) :
    closeEnding (closeEnding e) = closeEnding e := by
  rw [closeEnding, closeEnding, TcpState.afterClose_afterClose, TcpState.finishes_afterClose,
    Bool.or_false]

theorem ending_close (hapi : Terminates api) (c : Cell S) :
    (c.close api).ending api = closeEnding (c.ending api) := by
  have hasked : (c.close api).flow.finAsked =
      (c.flow.finAsked || (api.state c.socket).finishes) := by
    simp [Flow.finAsked, Cell.close, Cell.closing]
  rw [ending, hasked]
  exact congrArg (·, _) (hapi.close _)

/-- What is still to be sent, chunk by chunk. -/
def unsent (c : Cell S) : List Bytes :=
  (c.flow.pendingOut.toList.map fun p => p.1.drop p.2) ++ c.flow.link.outbound.queue

/-- With a chunk parked, `pump_outbound` is through. -/
theorem pumpQueue_of_parked (hp : c.flow.pendingOut.isNone = false) (q : List Bytes) :
    c.pumpQueue api now q = c := by
  cases q <;> rw [pumpQueue, hp, Bool.false_and, if_neg Bool.false_ne_true]

theorem checkClosed_of_parked (hp : c.flow.pendingOut.isNone = false) :
    c.checkClosed api = c := by
  rw [checkClosed, hp, Bool.and_false, if_neg Bool.false_ne_true]

/-- Part (c), for a stream that is drained. -/
theorem ending_checkClosed (hapi : Terminates api) (hp : c.flow.pendingOut = none)
    (hq : c.flow.link.outbound.queue = []) : (c.checkClosed api).ending api =
      if c.flow.link.outbound.isClosed then closeEnding (c.ending api) else c.ending api := by
  rw [checkClosed, hp, Option.isNone_none, Bool.and_true, hq]
  split
  · exact ending_close hapi c
  · rfl

/-- Parts (b) and (c) of `pump_outbound` close the socket exactly if the stream has ended and the
send buffer takes what is queued. -/
theorem ending_pumpQueue (hapi : Terminates api)
    (hsend : ∀ sk data, api.canSend sk = true → (api.sendSlice sk data).isSome = true)
    (q : List Bytes) {c : Cell S} (hp : c.flow.pendingOut = none)
    (hq : c.flow.link.outbound.queue = q) :
    ((c.pumpQueue api now q).checkClosed api).ending api =
      if c.flow.link.outbound.isClosed && takesAll api c.socket q then closeEnding (c.ending api)
      else c.ending api := by
  induction q generalizing c with
  | nil =>
    rw [pumpQueue, hp, Option.isNone_none, Bool.true_and, takesAll, Bool.and_true]
    split
    · split
      · rename_i hclosed
        have hagain : ((c.close api).checkClosed api).ending api =
            if c.flow.link.outbound.isClosed then closeEnding ((c.close api).ending api)
            else (c.close api).ending api := ending_checkClosed hapi hp hq
        rw [hagain, if_pos hclosed, ending_close hapi, closeEnding_closeEnding]
      · rename_i hopen
        rw [ending_checkClosed hapi hp hq, if_neg hopen]
    · exact ending_checkClosed hapi hp hq
  | cons chunk q ih =>
    rw [pumpQueue, hp, Option.isNone_none, Bool.true_and, takesAll]
    cases hcan : api.canSend c.socket with
    | false =>
      -- what cannot be sent is parked, at most
      rw [Bool.false_and, Bool.and_false, if_neg Bool.false_ne_true, if_neg Bool.false_ne_true,
        checkClosed, hq]
      split <;> rfl
    | true =>
      obtain ⟨⟨n, sk⟩, hslice⟩ := Option.isSome_iff_exists.1 (hsend c.socket chunk hcan)
      rw [if_pos rfl, hslice, Option.any_some, Bool.true_and]
      have hending : ((c.withQueue q).sent now sk (chunk.take n)).ending api = c.ending api :=
        congrArg (·, c.flow.finAsked) (hapi.sendSlice _ _ _ _ hslice)
      by_cases hlt : n < chunk.length
      · simp only [hlt, if_true, not_le.2 hlt, decide_false, Bool.false_and, Bool.and_false,
          Bool.false_eq_true, if_false]
        rw [checkClosed_of_parked rfl]
        exact hending
      · simp only [hlt, if_false, not_lt.1 hlt, decide_true, Bool.true_and]
        rw [← hending]
        exact ih (c := (c.withQueue q).sent now sk (chunk.take n)) hp rfl

/-- **When `pump_outbound` closes**: exactly if the stream has ended and the send buffer takes all
that is unsent. -/
theorem ending_pumpOutbound (hapi : Terminates api)
    (hsend : ∀ sk data, api.canSend sk = true → (api.sendSlice sk data).isSome = true)
    (now : ℕ) (c : Cell S) : (c.pumpOutbound api now).ending api =
      if c.flow.link.outbound.isClosed && takesAll api c.socket c.unsent then
        closeEnding (c.ending api)
      else c.ending api := by
  rw [pumpOutbound, unsent]
  cases hp : c.flow.pendingOut with
  | none =>
    have hfinish : c.finishChunk api now = c := by rw [finishChunk, hp]
    rw [hfinish]
    exact ending_pumpQueue hapi hsend _ hp rfl
  | some p =>
    obtain ⟨chunk, off⟩ := p
    rw [Option.toList_some, List.map_singleton, List.singleton_append, takesAll]
    cases hcan : api.canSend c.socket with
    | false =>
      have hfinish : c.finishChunk api now = c := by
        simp only [finishChunk, hp, hcan, Bool.false_eq_true, if_false]
      rw [hfinish, Bool.false_and, Bool.and_false, if_neg Bool.false_ne_true]
      rw [pumpQueue_of_parked (by rw [hp]; rfl), checkClosed_of_parked (by rw [hp]; rfl)]
    | true =>
      obtain ⟨⟨n, sk⟩, hslice⟩ := Option.isSome_iff_exists.1 (hsend c.socket (chunk.drop off) hcan)
      have hending : ∀ bytes p', ((c.sent now sk bytes).park p').ending api = c.ending api :=
        fun _ _ => congrArg (·, c.flow.finAsked) (hapi.sendSlice _ _ _ _ hslice)
      have hfinish : c.finishChunk api now = (c.sent now sk ((chunk.drop off).take n)).park
          (if off + n < chunk.length then some (chunk, off + n) else none) := by
        simp only [finishChunk, hp, hcan, if_true, hslice]
      rw [hfinish, hslice, Option.any_some, Bool.true_and, List.length_drop]
      by_cases hlt : off + n < chunk.length
      · have hnot : ¬ chunk.length - off ≤ n := by omega
        simp only [hlt, if_true, hnot, decide_false, Bool.false_and, Bool.and_false,
          Bool.false_eq_true, if_false]
        rw [pumpQueue_of_parked rfl, checkClosed_of_parked rfl]
        exact hending _ _
      · have hle : chunk.length - off ≤ n := by omega
        simp only [hlt, if_false, hle, decide_true, Bool.true_and]
        rw [← hending ((chunk.drop off).take n) none]
        exact ending_pumpQueue hapi hsend _ rfl rfl

/-- **When `pump_inbound` closes**, for a stream that is dropped: with bytes to hand over. -/
theorem ending_pumpInbound (hapi : Terminates api) (now : ℕ) (c : Cell S)
    (hgone : c.flow.link.inbound.receiverGone = true) :
    (c.pumpInbound api now).ending api =
      if !c.flow.link.inbound.senderGone && api.canRecv c.socket then closeEnding (c.ending api)
      else c.ending api := by
  have hloop : c.recvLoop api now c.flow.link.inbound.room =
      if api.canRecv c.socket then (c.close api, true) else (c, false) := by
    rw [recvLoop.eq_def]
    dsimp only
    rw [if_pos hgone]
  rw [pumpInbound, hloop]
  cases c.flow.link.inbound.senderGone with
  | true => rfl
  | false =>
    rw [if_neg Bool.false_ne_true, Bool.not_false, Bool.true_and]
    cases api.canRecv c.socket with
    | false =>
      rw [if_neg Bool.false_ne_true, if_neg Bool.false_ne_true]
      dsimp only
      split <;> rfl
    | true =>
      rw [if_pos rfl, if_pos rfl]
      exact ending_close hapi c

/-! ## What the pumps leave alone -/

/-- The stream and its ends are left alone. -/
structure SameEnds (c c' : Cell S) : Prop where
  stream : c'.flow.stream = c.flow.stream
  receiver : c'.flow.link.inbound.receiverGone = c.flow.link.inbound.receiverGone
  sender : c'.flow.link.outbound.senderGone = c.flow.link.outbound.senderGone

theorem sameEnds_pumpOutbound (now : ℕ) (c : Cell S) : SameEnds c (c.pumpOutbound api now) := by
  refine pumpOutbound_keeps (P := SameEnds c) (fun c₁ c₂ h hmove => ?_) ⟨rfl, rfl, rfl⟩
  cases hmove <;> exact ⟨h.stream, h.receiver, h.sender⟩

theorem sameEnds_pumpInbound (now : ℕ) (c : Cell S) : SameEnds c (c.pumpInbound api now) := by
  refine pumpInbound_keeps (P := SameEnds c) (fun c₁ c₂ h hmove => ?_) ⟨rfl, rfl, rfl⟩
  cases hmove <;> exact ⟨h.stream, h.receiver, h.sender⟩

theorem sameEnds_abortExpired (now : ℕ) (c : Cell S) : SameEnds c (c.abortExpired api now) := by
  rw [abortExpired]
  split <;> exact ⟨rfl, rfl, rfl⟩

theorem sameEnds_observe (now : ℕ) (c : Cell S) : SameEnds c (c.observe api now) := by
  obtain ⟨_, hobserve⟩ := c.observe_changes api now
  rw [hobserve]
  exact ⟨rfl, rfl, rfl⟩

/-! ## How it was ended -/

/-- What holds of a connection: its stream once dropped is closed both ways, a FIN that was sent was
asked for, and where it is closed the trace says why. -/
structure Ended (api : TcpApi S) (c : Cell S) : Prop where
  connected : (api.state c.socket).connected = true
  dropped : c.flow.link.inbound.receiverGone = true → c.flow.link.outbound.senderGone = true
  asked : (api.state c.socket).finSent = true → c.flow.finAsked = true
  closed : api.state c.socket = .closed → c.flow.Over

namespace Ended

variable {c' : Cell S}

/-- What neither touches the state nor the ends keeps it. -/
theorem of_same (h : c.Ended api) (hends : SameEnds c c')
    (hstate : api.state c'.socket = api.state c.socket)
    (hasked : c'.flow.finAsked = c.flow.finAsked) (hover : c'.flow.Over ↔ c.flow.Over) :
    c'.Ended api := by
  refine ⟨hstate ▸ h.connected, fun hgone => ?_, fun hfin => ?_, fun hclosed => ?_⟩
  · rw [hends.sender]
    exact h.dropped (hends.receiver ▸ hgone)
  · rw [hasked]
    exact h.asked (hstate ▸ hfin)
  · exact hover.2 (h.closed (hstate ▸ hclosed))

theorem close (hapi : Terminates api) (h : c.Ended api) : (c.close api).Ended api := by
  have hending := ending_close hapi c
  have hstate : api.state (c.close api).socket = (api.state c.socket).afterClose :=
    congrArg Prod.fst hending
  have hasked : (c.close api).flow.finAsked =
      (c.flow.finAsked || (api.state c.socket).finishes) := congrArg Prod.snd hending
  refine ⟨?_, h.dropped, fun hfin => ?_, fun hclosed => ?_⟩
  · rw [hstate]
    exact TcpState.connected_afterClose h.connected
  · rw [hstate, TcpState.finSent_afterClose, Bool.or_eq_true] at hfin
    rw [hasked, Bool.or_eq_true]
    exact hfin.imp_left h.asked
  · rw [hstate] at hclosed
    obtain haborted | hreset | hfin := h.closed (TcpState.closed_of_afterClose h.connected hclosed)
    · exact Or.inl haborted
    · exact Or.inr (Or.inl hreset)
    · refine Or.inr (Or.inr ?_)
      rw [hasked, hfin, Bool.true_or]

theorem outflow (hapi : Terminates api) (h : c.Ended api) (hmove : c.Outflow api now c') :
    c'.Ended api := by
  cases hmove with
  | resume _ _ hslice =>
    exact h.of_same ⟨rfl, rfl, rfl⟩ (hapi.sendSlice _ _ _ _ hslice) rfl Iff.rfl
  | push _ _ _ hslice =>
    exact h.of_same ⟨rfl, rfl, rfl⟩ (hapi.sendSlice _ _ _ _ hslice) rfl Iff.rfl
  | fail => exact h.of_same ⟨rfl, rfl, rfl⟩ rfl rfl Iff.rfl
  | setAside => exact h.of_same ⟨rfl, rfl, rfl⟩ rfl rfl Iff.rfl
  | close => exact h.close hapi

theorem inflow (hapi : Terminates api) (h : c.Ended api) (hmove : c.Inflow api now c') :
    c'.Ended api := by
  cases hmove with
  | take => exact h.of_same ⟨rfl, rfl, rfl⟩ (hapi.recvAdvance _ _) rfl Iff.rfl
  | skip => exact h.of_same ⟨rfl, rfl, rfl⟩ (hapi.recvAdvance _ _) rfl Iff.rfl
  | close => exact h.close hapi
  | release => exact h.of_same ⟨rfl, rfl, rfl⟩ rfl rfl Iff.rfl

theorem abortExpired (hapi : Terminates api) (h : c.Ended api) :
    (c.abortExpired api now).Ended api := by
  rw [Cell.abortExpired]
  split
  · have hstate := hapi.abort c.socket
    refine ⟨?_, h.dropped, fun hfin => ?_, fun _ => Or.inl rfl⟩
    · rw [hstate]
      rfl
    · rw [hstate] at hfin
      cases hfin
  · exact h

/-- A poll that closes a connection ends a FIN that was asked for, or was reset. -/
theorem polled {sk sk' : S} {f : Flow} (h : Cell.Ended api ⟨sk, f⟩)
    (hobeys : (api.state sk).Obeys (api.state sk')) :
    Cell.Ended api ⟨sk', f.polled api sk sk'⟩ := by
  refine ⟨hobeys.2.2 h.connected, h.dropped, fun hfin => ?_, fun hclosed => ?_⟩
  · refine h.asked ?_
    by_contra hnot
    have hquiet : (api.state sk').finSent = false := hobeys.1 (by simpa using hnot)
    exact Bool.false_ne_true (hquiet.symm.trans hfin)
  · by_cases hover : f.Over
    · obtain haborted | hreset | hasked := hover
      · exact Or.inl haborted
      · refine Or.inr (Or.inl ?_)
        show (f.link.trace.reset || _) = true
        rw [hreset, Bool.true_or]
      · exact Or.inr (Or.inr hasked)
    · have hopen : api.state sk ≠ .closed := fun hclosed => hover (h.closed hclosed)
      have hunsent : (api.state sk).finSent = false := by
        by_contra hsent
        exact hover (Or.inr (Or.inr (h.asked (by simpa using hsent))))
      have hclosed : api.state sk' = .closed := hclosed
      refine Or.inr (Or.inl ?_)
      show (f.link.trace.reset || _) = true
      rw [hunsent, hclosed, bne_iff_ne.2 hopen, beq_self_eq_true]
      simp

/-- What the task does: to shut a stream down lets its sender go, and to drop it both ends. -/
theorem useStream (h : c.Ended api) (n : ℕ) (op : StreamOp) : (c.useStream n op).Ended api := by
  obtain ⟨hasked, hover⟩ := c.flow.ended_useStream n op
  refine ⟨h.connected, ?_, fun hfin => hasked ▸ h.asked hfin,
    fun hclosed => hover.2 (h.closed hclosed)⟩
  rw [Cell.useStream, Flow.useStream]
  split
  · exact (c.flow.link.outbound_apply op).2 h.dropped
  · exact h.dropped

end Ended

end Cell

/-- A poll, with the listeners that have not closed their side. -/
def Fresh (api : TcpApi S) (l : Loop S) (e : Event S) : Prop :=
  Obeys api l e ∧ ∀ k ∈ l.core.pending, ∀ sk, l.core.sockets.get k = some sk →
    (api.state sk).finSent = false

theorem ended_rules (hapi : Terminates api) :
    FlowRules api (Fresh api) (fun _ _ => Cell.Ended api) Flow.Over where
  start _ _ _ := id
  quiet _ _ := ⟨id, id, id⟩
  abort now c h := h.abortExpired hapi
  pumpOutbound l _ _ k c _ h :=
    Cell.pumpOutbound_keeps (P := Cell.Ended api) (fun _ _ hc => hc.outflow hapi) h
  poll l q _ hg k sk sk' f hc hsk' h :=
    h.polled (hg.1 k sk (StackCore.cell_eq_some.1 hc).1 sk' hsk')
  promote l hp hg k sk src dst n now depth hk hsk hlisten hsyn hactive _ := by
    have hstate := hapi.setTimeout sk none
    have hconnected : (api.state sk).connected = true :=
      NeverDials.connected hg.1 hp hsk hlisten hsyn
    refine ⟨?_, fun hgone => absurd hgone Bool.false_ne_true, fun hfin => ?_, fun hclosed => ?_⟩
    · rw [hstate]
      exact hconnected
    · rw [hstate, hg.2 k hk sk hsk] at hfin
      cases hfin
    · exact absurd (hstate.symm.trans hclosed) (hapi.isActive sk hactive)
  pumpInbound l _ _ k c _ h :=
    Cell.pumpInbound_keeps (P := Cell.Ended api) (fun _ _ hc => hc.inflow hapi) h
  observe now c h := by
    have hends : Cell.SameEnds c (c.observe api now) := c.sameEnds_observe now
    obtain ⟨_, hobserve⟩ := c.observe_changes api now
    rw [hobserve] at hends ⊢
    exact h.of_same hends rfl rfl Iff.rfl
  reap now c h hclosed := h.closed hclosed
  stream l n op _ k c _ h := h.useStream n op
  streamRetired l n op _ f _ h := (f.ended_useStream n op).2.2 h

/-- A listener that is not promoted has not closed its side. -/
theorem unfinished_rules (hapi : Terminates api) :
    PendingRules api (Obeys api) (fun _ _ _ sk => (api.state sk).finSent = false) where
  fresh n now src dst sk hlisten := by
    rw [hapi.setTimeout, hapi.listen n dst sk hlisten]
    rfl
  start _ _ _ _ := id
  quiet _ _ _ := ⟨id, id, id, id, id, id⟩
  poll l p _ hg k p' sk sk' hsk hsk' h := (hg k sk hsk sk' hsk').1 h
  sweep _ _ _ h _ := h

/-! ## After every run -/

/-- What holds between events: every connection that is over was ended, and none is past its
deadline. -/
structure Ends (api : TcpApi S) (l : Loop S) : Prop where
  pending : PendingInv (fun _ _ sk => (api.state sk).finSent = false) l.core
  flows : FlowInv (Cell.Ended api) Flow.Over l.core
  onTime : FlowInv (Cell.OnTime api l.phase l.core.lastStep) (fun _ => True) l.core

theorem ends_start (hapi : Terminates api) (cfg : StackConfig) : Ends api (.start cfg : Loop S) :=
  ⟨(unfinished_rules hapi).pendingInv_start cfg, (ended_rules hapi).flowInv_start cfg,
    (onTime_rules hapi.staysClosed).flowInv_start cfg⟩

theorem Ends.next (hapi : Terminates api) {l l' : Loop S} {e : Event S} (h : Ends api l)
    (hg : Obeys api l e) (hn : l.next wire api e = some l') : Ends api l' := by
  refine ⟨(unfinished_rules hapi).pendingInv_next h.pending hg hn,
    (ended_rules hapi).flowInv_next h.flows ⟨hg, fun k hk sk hsk => ?_⟩ hn,
    (onTime_rules hapi.staysClosed).flowInv_next h.onTime hg.keepsClosed hn⟩
  obtain ⟨p, _, hp, -⟩ := h.pending.accounted.exists_pending hk
  exact h.pending.holds k p sk hp hsk

/-! ## The deadline of a dropped stream -/

/-- The stream of a connection is shut down; where `observe_flow_states` is through, its clock runs
if it should. -/
def Cell.Clocked (api : TcpApi S) (n : ℕ) (phase : Phase) (c : Cell S) : Prop :=
  c.flow.stream = n → c.flow.link.outbound.senderGone = true ∧
    (phase = .reap ∨ phase = .idle →
      c.flow.windingDownSince.isSome = true ∨ c.windsDown api = false)

/-- The connections of stream `n`, which has been handed over, in a step at time `now`. -/
structure Dated (api : TcpApi S) (n now : ℕ) (l : Loop S) : Prop where
  started : n < l.core.nextStream
  time : l.core.lastStep = now
  flows : FlowInv (Cell.Clocked api n l.phase) (fun _ => True) l.core
  reaped : l.phase = .idle → ∀ k c, l.core.cell k = some c → api.state c.socket ≠ .closed

namespace Cell.Clocked

variable {c c' : Cell S} {n : ℕ} {phase phase' : Phase}

theorem of_sameEnds (h : c.Clocked api n phase) (hends : Cell.SameEnds c c')
    (hphase : phase' ≠ .reap) (hphase' : phase' ≠ .idle) : c'.Clocked api n phase' := by
  intro hstream
  refine ⟨hends.sender.trans (h (hends.stream.symm.trans hstream)).1, fun hp => ?_⟩
  exact absurd hp (not_or.2 ⟨hphase, hphase'⟩)

theorem observe (h : c.Clocked api n .observe) (now : ℕ) :
    (c.observe api now).Clocked api n .reap := by
  have hends : Cell.SameEnds c (c.observe api now) := c.sameEnds_observe now
  intro hstream
  refine ⟨hends.sender.trans (h (hends.stream.symm.trans hstream)).1, fun _ => ?_⟩
  rw [Cell.observe]
  dsimp only
  split
  · exact Or.inl rfl
  · rename_i hnot
    exact Or.inr (Bool.eq_false_iff.2 hnot)

theorem useStream (h : c.Clocked api n phase) (m : ℕ) (op : StreamOp) :
    (c.useStream m op).Clocked api n phase := by
  intro hstream
  have hold := h ((c.flow.stream_useStream m op).symm.trans hstream)
  rw [Cell.useStream, Flow.useStream]
  split
  · have hgone := c.flow.link.senderGone_apply hold.1 op
    refine ⟨hgone, fun hp => (hold.2 hp).imp_right fun hnot => ?_⟩
    rw [Cell.windsDown, Channel.isClosed, hold.1, Bool.true_or] at hnot
    rw [Cell.windsDown, Channel.isClosed, hgone, Bool.true_or]
    exact hnot
  · exact hold

end Cell.Clocked

theorem clocked_rules (n : ℕ) : FlowRules api (fun l _ => n < l.core.nextStream)
    (fun phase _ => Cell.Clocked api n phase) (fun _ => True) where
  start _ _ _ h := h.of_sameEnds ⟨rfl, rfl, rfl⟩ (by decide) (by decide)
  quiet _ _ := ⟨fun h => h.of_sameEnds ⟨rfl, rfl, rfl⟩ (by decide) (by decide),
    fun h => h.of_sameEnds ⟨rfl, rfl, rfl⟩ (by decide) (by decide),
    fun h hstream => ⟨(h hstream).1, fun _ => (h hstream).2 (Or.inl rfl)⟩⟩
  abort now c h := h.of_sameEnds (c.sameEnds_abortExpired now) (by decide) (by decide)
  pumpOutbound _ _ _ _ c _ h := h.of_sameEnds (c.sameEnds_pumpOutbound _) (by decide) (by decide)
  poll _ _ _ _ _ _ _ _ _ _ h := h.of_sameEnds ⟨rfl, rfl, rfl⟩ (by decide) (by decide)
  promote l _ hlt k sk src dst m now depth _ _ _ _ _ hle hstream := by
    have heq : m = n := hstream
    omega
  pumpInbound _ _ _ _ c _ h := h.of_sameEnds (c.sameEnds_pumpInbound _) (by decide) (by decide)
  observe now c h := h.observe now
  reap _ _ _ _ := trivial
  stream l m op _ k c _ h := h.useStream m op
  streamRetired _ _ _ _ _ _ _ := trivial

/-- One event of the step. -/
theorem Dated.next {l l' : Loop S} {e : Event S} {n : ℕ} (h : Dated api n now l)
    (hin : e.inStep = true) (hn : l.next wire api e = some l') : Dated api n now l' := by
  refine ⟨h.started.trans_le (nextStream_next hn), (lastStep_next hin hn).trans h.time,
    (clocked_rules n).flowInv_next h.flows h.started hn, ?_⟩
  revert hin
  refine Loop.next_elim hn (fun packet _ hin => (by cases hin)) (fun _ _ hin => (by cases hin))
    (fun _ _ hp => (by cases hp)) (fun _ _ hp => (by cases hp)) (fun _ _ _ hp => (by cases hp))
    (fun _ _ hp => (by cases hp)) (fun _ _ hp => (by cases hp)) (fun _ _ hp => (by cases hp))
    (fun _ _ hp => (by cases hp)) (fun _ _ _ k c hc => ?_) (fun m op _ hp k c hc => ?_)
    (fun _ hin => (by cases hin))
  · exact (h.flows.accounted.cell_reapClosed hc).2
  · rw [StackCore.cell_stream, Option.map_eq_some_iff] at hc
    obtain ⟨c, hc, rfl⟩ := hc
    exact h.reaped hp k c hc

/-- What a step at time `now` makes of the connection of stream `n`: past its deadline it is aborted
and retired, and if it is left it is in TIME-WAIT after a FIN or has a deadline ahead. -/
structure Settles (api : TcpApi S) (n now : ℕ) (s s' : StackCore S) : Prop where
  expired : ∀ k c at_, s.cell k = some c → c.flow.stream = n → c.flow.shutdownDeadline = some at_ →
    at_ ≤ now → k ∉ s'.flows ∧ ∃ f ∈ s'.retired, f.stream = n ∧ f.link.trace.aborted = true
  waits : ∀ k c, s'.cell k = some c → c.flow.stream = n →
    (api.state c.socket = .timeWait ∧ c.flow.finAsked = true) ∨
      ∃ at_, c.flow.shutdownDeadline = some at_ ∧ now < at_

/-- Between two steps. -/
theorem Dated.waits (hapi : Terminates api) {l : Loop S} {n : ℕ} (h : Dated api n now l)
    (hends : Ends api l) (hp : l.phase = .idle) {k : ℕ} {c : Cell S} (hc : l.core.cell k = some c)
    (hstream : c.flow.stream = n) : (api.state c.socket = .timeWait ∧ c.flow.finAsked = true) ∨
      ∃ at_, c.flow.shutdownDeadline = some at_ ∧ now < at_ := by
  have hended := hends.flows.live k c hc
  have hopen := h.reaped hp k c hc
  have hahead : c.flow.Ahead now := by
    have honTime := hends.onTime.live k c hc
    rw [hp, h.time] at honTime
    exact honTime
  obtain ⟨hgone, hclock⟩ := h.flows.live k c hc hstream
  obtain hsome | hwinds := hclock (Or.inr hp)
  · obtain ⟨since, hsince⟩ := Option.isSome_iff_exists.1 hsome
    refine Or.inr ⟨max since c.flow.lastActivity + SHUTDOWN_TIMEOUT, ?_, hahead _ ?_⟩ <;>
      rw [Flow.shutdownDeadline, hsince, Option.map_some]
  · -- no clock: the socket does not wait for its peer and may not send
    rw [Cell.windsDown, Channel.isClosed, hgone, Bool.true_or, Bool.true_and,
      Bool.or_eq_false_iff] at hwinds
    have hmay := mt (hapi.maySend c.socket).2 (Bool.eq_false_iff.1 hwinds.2)
    have htimeWait : api.state c.socket = .timeWait := by
      have hconnected := hended.connected
      revert hwinds hopen hmay hconnected
      cases api.state c.socket <;> simp [awaitsPeer, TcpState.connected]
    refine Or.inl ⟨htimeWait, hended.asked ?_⟩
    rw [htimeWait]
    rfl

/-- **A connection whose stream is dropped before a step** is over by its deadline. -/
theorem Ends.settles (hapi : Terminates api) {l l' : Loop S} {n : ℕ} (hends : Ends api l)
    (hp : l.phase = .idle) (hstarted : n < l.core.nextStream)
    (hgone : ∀ k c, l.core.cell k = some c → c.flow.stream = n →
      c.flow.link.outbound.senderGone = true) {es : List (Event S)}
    (hg : Guarded (Loop.next wire api) (fun l e => Obeys api l e ∧ e.inStep = true)
      ⟨{ l.core with lastStep := now }, .abort⟩ es)
    (h : run (Loop.next wire api) ⟨{ l.core with lastStep := now }, .abort⟩ es = some l')
    (hp' : l'.phase = .idle) : Settles api n now l.core l'.core := by
  have hbegin : l.next wire api (.begin now) = some ⟨{ l.core with lastStep := now }, .abort⟩ := by
    simp only [Loop.next, hp, if_true]
  have hacc : Accounted l.core := hends.flows.accounted
  have hdated : Dated api n now (⟨{ l.core with lastStep := now }, .abort⟩ : Loop S) := by
    refine ⟨hstarted, rfl, ⟨accounted_begin hacc now, fun k c hc hstream => ?_, fun _ _ => trivial⟩,
      fun hidle => (by cases hidle)⟩
    exact ⟨hgone k c hc hstream,
      fun hphase => (by rcases hphase with hphase | hphase <;> cases hphase)⟩
  have hkeep : ∀ (l : Loop S) e l', Ends api l ∧ Dated api n now l →
      (Obeys api l e ∧ e.inStep = true) → l.next wire api e = some l' →
        Ends api l' ∧ Dated api n now l' :=
    fun l e l' hl hg hn => ⟨hl.1.next hapi hg.1 hn, hl.2.next hg.2 hn⟩
  have hobeys : Obeys api l (.begin now) := trivial
  obtain ⟨hends', hdated'⟩ := run_invariant hkeep ⟨hends.next hapi hobeys hbegin, hdated⟩ hg h
  refine ⟨fun k c at_ hc hstream hat hle => ?_, fun k c hc => hdated'.waits hapi hends' hp' hc⟩
  have hstart : Expiring api k n (⟨{ l.core with lastStep := now }, .abort⟩ : Loop S) :=
    ⟨c, hc, hstream, at_, hat, hle⟩
  have hexpiring : Expiring api k n l' :=
    expiring_of_run hapi.staysClosed (accounted_begin hacc now)
    hstart (hg.mono fun _ _ hg => ⟨hg.1.keepsClosed, hg.2⟩) h
  rw [Expiring, hp'] at hexpiring
  exact hexpiring

end LiosTunnel.Stack
