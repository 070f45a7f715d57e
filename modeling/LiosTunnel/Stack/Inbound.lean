import LiosTunnel.Stack.Flows
import LiosTunnel.Stack.Moves

/-!
# Application to tunnel

What the socket accepts from the application is taken out of its receive buffer by `pump_inbound`,
a chunk to a slot of the channel, and read from there in order. `pump_inbound` lets the sender go,
which is the reader's end of file, only when the receive buffer is empty and will stay so. A flow
retired by `reap_closed` loses its sender too, and what the buffer of its closed socket still holds:
nothing, when `pump_inbound` could move it all. A socket in TIME-WAIT is reset when its timer runs
out, and what it held is gone before `pump_inbound` sees it.

* `Receives`, `Grows`, `Expires`: how sockets receive, and what a poll may do to that.
* `Inward`: what holds of a connection in each phase.
* `DrainsClosed`: a closed socket lost nothing, and its bytes fit the channel.
* `drains_iff_eofComplete`: end of file means everything was read exactly in the runs that drain
  closed sockets.
-/

namespace LiosTunnel.Stack

open Runs

/-- States in which more bytes may come. -/
def TcpState.receiving : TcpState → Bool
  | .established | .finWait1 | .finWait2 => true
  | _ => false

variable {S : Type} (api : TcpApi S)

/-- From `sk` to `sk'` nothing is received. -/
structure Keeps (sk sk' : S) : Prop where
  recvBuffer : api.recvBuffer sk' = api.recvBuffer sk
  connected : (api.state sk).connected = true → (api.state sk').connected = true
  ended : (api.state sk).connected = true → (api.state sk).receiving = false →
    (api.state sk').receiving = false

/-- From `sk` to `sk'` more may be received, unless the application has ended. -/
structure Grows (sk sk' : S) : Prop where
  recvBuffer : api.recvBuffer sk <+: api.recvBuffer sk'
  connected : (api.state sk).connected = true → (api.state sk').connected = true
  ended : (api.state sk).connected = true → (api.state sk).receiving = false →
    api.recvBuffer sk' = api.recvBuffer sk ∧ (api.state sk').receiving = false

/-- The timer of TIME-WAIT runs out: the socket is reset, with what it received. -/
structure Expires (sk sk' : S) : Prop where
  timeWait : api.state sk = .timeWait
  closed : api.state sk' = .closed
  recvBuffer : api.recvBuffer sk' = []

/-- How sockets receive: `recv` hands out a beginning of the buffer and takes it off, `may_recv` is
true while there are bytes or more may come, and what the stack does otherwise receives nothing. -/
structure Receives : Prop where
  canRecv : ∀ sk, api.canRecv sk = true ↔ api.recvBuffer sk ≠ []
  mayRecv : ∀ sk, api.mayRecv sk = true ↔
    (api.state sk).receiving = true ∨ api.recvBuffer sk ≠ []
  recvData : ∀ sk, api.recvBuffer sk ≠ [] →
    ∃ data, api.recvData sk = some data ∧ data ≠ [] ∧ data <+: api.recvBuffer sk
  recvAdvance : ∀ sk n, n ≤ (api.recvBuffer sk).length →
    api.recvBuffer (api.recvAdvance sk n) = (api.recvBuffer sk).drop n ∧
      api.state (api.recvAdvance sk n) = api.state sk
  sendSlice : ∀ sk data n sk', api.sendSlice sk data = some (n, sk') → Keeps api sk sk'
  close : ∀ sk, Keeps api sk (api.close sk)
  abort : ∀ sk, Keeps api sk (api.abort sk)
  setTimeout : ∀ sk t, Keeps api sk (api.setTimeout sk t)

variable {api} {wire : Wire} {now : ℕ}

theorem Reference.receives : Receives Reference.api where
  canRecv sk := by simp [Reference.api]
  mayRecv sk := by
    obtain ⟨state, _⟩ := sk
    cases state <;> simp [Reference.api, Reference.Sock.mayRecv, TcpState.receiving]
  recvData sk hne := by
    have hmay : sk.mayRecv = true := by
      have hrx : sk.rx ≠ [] := hne
      simp [Reference.Sock.mayRecv, hrx]
    exact ⟨sk.rx, if_pos hmay, hne, List.prefix_rfl⟩
  recvAdvance sk n _ := ⟨rfl, rfl⟩
  sendSlice sk data n sk' h := by
    simp only [Reference.api, Reference.Sock.sendSlice] at h
    split at h <;> cases h
    exact ⟨rfl, id, fun _ => id⟩
  close sk := by
    obtain ⟨state, _⟩ := sk
    cases state <;>
      exact ⟨rfl, by simp [Reference.api, Reference.Sock.close, TcpState.connected],
        by simp [Reference.api, Reference.Sock.close, TcpState.connected, TcpState.receiving]⟩
  abort sk := ⟨rfl, fun _ => rfl, fun _ _ => rfl⟩
  setTimeout sk t := ⟨rfl, id, fun _ => id⟩

namespace Keeps

theorem refl (sk : S) : Keeps api sk sk := ⟨rfl, id, fun _ => id⟩

theorem trans {a b c : S} (h₁ : Keeps api a b) (h₂ : Keeps api b c) : Keeps api a c :=
  ⟨h₂.recvBuffer.trans h₁.recvBuffer, h₂.connected ∘ h₁.connected,
    fun hc hr => h₂.ended (h₁.connected hc) (h₁.ended hc hr)⟩

end Keeps

/-! ## The outbound side leaves the inbound side alone -/

/-- From `c` to `c'` nothing is received, taken or read. -/
structure SameInward (api : TcpApi S) (c c' : Cell S) : Prop where
  stream : c'.flow.stream = c.flow.stream
  inbound : c'.flow.link.inbound = c.flow.link.inbound
  partialChunk : c'.flow.link.partialChunk = c.flow.link.partialChunk
  accepted : c'.flow.link.trace.accepted = c.flow.link.trace.accepted
  taken : c'.flow.link.trace.taken = c.flow.link.trace.taken
  read : c'.flow.link.trace.read = c.flow.link.trace.read
  eof : c'.flow.link.trace.eof = c.flow.link.trace.eof
  socket : Keeps api c.socket c'.socket

namespace SameInward

theorem refl (c : Cell S) : SameInward api c c := ⟨rfl, rfl, rfl, rfl, rfl, rfl, rfl, .refl _⟩

theorem trans {a b c : Cell S} (h₁ : SameInward api a b) (h₂ : SameInward api b c) :
    SameInward api a c :=
  ⟨h₂.stream.trans h₁.stream, h₂.inbound.trans h₁.inbound,
    h₂.partialChunk.trans h₁.partialChunk, h₂.accepted.trans h₁.accepted,
    h₂.taken.trans h₁.taken, h₂.read.trans h₁.read, h₂.eof.trans h₁.eof,
    h₁.socket.trans h₂.socket⟩

theorem close (hapi : Receives api) (c : Cell S) : SameInward api c (c.close api) :=
  ⟨rfl, rfl, rfl, rfl, rfl, rfl, rfl, hapi.close _⟩

theorem sent {c : Cell S} {data bytes : Bytes} {n : ℕ} {sk : S} (hapi : Receives api)
    (hslice : api.sendSlice c.socket data = some (n, sk)) :
    SameInward api c (c.sent now sk bytes) :=
  ⟨rfl, rfl, rfl, rfl, rfl, rfl, rfl, hapi.sendSlice _ _ _ _ hslice⟩

theorem park (c : Cell S) (p : Option (Bytes × ℕ)) : SameInward api c (c.park p) :=
  ⟨rfl, rfl, rfl, rfl, rfl, rfl, rfl, .refl _⟩

theorem withQueue (c : Cell S) (q : List Bytes) : SameInward api c (c.withQueue q) :=
  ⟨rfl, rfl, rfl, rfl, rfl, rfl, rfl, .refl _⟩

/-- No move of `pump_outbound` touches what the application sends. -/
theorem outflow (hapi : Receives api) {c c' : Cell S} (hmove : c.Outflow api now c') :
    SameInward api c c' := by
  cases hmove with
  | resume hp hcan hslice => exact (SameInward.sent hapi hslice).trans (.park _ _)
  | @push _ q _ _ hp hcan hq hslice =>
    exact ((SameInward.withQueue c q).trans (.sent hapi hslice)).trans (.park _ _)
  | fail hcan hq hslice => exact .withQueue c _
  | setAside hp hq => exact (SameInward.withQueue c _).trans (.park _ _)
  | close hp hq hclosed => exact .close hapi c

theorem pumpOutbound (hapi : Receives api) (c : Cell S) :
    SameInward api c (c.pumpOutbound api now) :=
  Cell.pumpOutbound_keeps (P := SameInward api c) (fun _ _ h hmove => h.trans (outflow hapi hmove))
    (.refl c)

theorem delivered {c c' : Cell S} (h : SameInward api c c') (hc : c.flow.link.Delivered) :
    c'.flow.link.Delivered := by
  refine ⟨fun hkept => ?_, fun chunk off hp => ?_, fun heof => ?_⟩
  · rw [h.inbound] at hkept
    rw [h.taken, h.read, Link.unread, h.partialChunk, h.inbound]
    exact hc.inOrder hkept
  · exact hc.partialLt chunk off (h.partialChunk.symm.trans hp)
  · rw [h.inbound, h.read, h.taken]
    exact hc.eof (h.eof.symm.trans heof)

end SameInward

/-! ## A connection, phase by phase -/

/-- The phases from the poll to `pump_inbound`. -/
def Phase.unpumped : Phase → Bool
  | .sweep | .promote | .pumpInbound => true
  | _ => false

/-- A connection in a phase: its reads are in order, its sender is gone only when nothing is left or
will come, what was accepted and not taken is in the receive buffer unless a poll just closed the
socket, and after `pump_inbound` a closed socket is empty. -/
structure Inward (api : TcpApi S) (phase : Phase) (c : Cell S) : Prop where
  connected : (api.state c.socket).connected = true
  delivered : c.flow.link.Delivered
  ended : c.flow.link.inbound.receiverGone = false → c.flow.link.inbound.senderGone = true →
    api.recvBuffer c.socket = [] ∧ (api.state c.socket).receiving = false ∧
      c.flow.link.trace.taken = c.flow.link.trace.accepted
  accepted : c.flow.link.inbound.receiverGone = false →
    (phase.unpumped = true ∧ api.state c.socket = .closed) ∨
      c.flow.link.trace.accepted = c.flow.link.trace.taken ++ api.recvBuffer c.socket
  drained : phase = .observe ∨ phase = .reap → c.flow.link.inbound.receiverGone = false →
    api.state c.socket = .closed → api.recvBuffer c.socket = []

/-- A retired connection. -/
structure Outlived (f : Flow) : Prop where
  delivered : f.link.Delivered
  left : f.link.inbound.receiverGone = false →
    f.link.trace.left = [] ∧ f.link.trace.taken = f.link.trace.accepted

/-- The bytes in the receive buffer fit `room` slots, a call of `recv` to a slot. -/
def drainsWithin (api : TcpApi S) : ℕ → S → Bool
  | 0, sk => !api.canRecv sk
  | room + 1, sk => !api.canRecv sk || (api.recvData sk).any fun data =>
      drainsWithin api room (api.recvAdvance sk (min data.length CHUNK))

/-- What the socket accepted and did not hand out is in its receive buffer, and fits the channel. -/
def Drains (api : TcpApi S) (c : Cell S) : Prop :=
  c.flow.link.trace.accepted = c.flow.link.trace.taken ++ api.recvBuffer c.socket ∧
    drainsWithin api c.flow.link.inbound.room c.socket = true

instance (c : Cell S) : Decidable (Drains api c) := inferInstanceAs (Decidable (_ ∧ _))

namespace Inward

variable {phase phase' : Phase} {c : Cell S}

theorem mono (h : Inward api phase c) (hphase : ¬ (phase' = .observe ∨ phase' = .reap))
    (hpumped : phase.unpumped = true → phase'.unpumped = true) : Inward api phase' c :=
  ⟨h.connected, h.delivered, h.ended,
    fun hkept => (h.accepted hkept).imp_left (And.imp_left hpumped),
    fun hp => absurd hp hphase⟩

theorem same (h : Inward api phase c) {c' : Cell S} (hsame : SameInward api c c')
    (hphase : ¬ (phase' = .observe ∨ phase' = .reap)) (hpumped : phase.unpumped = false) :
    Inward api phase' c' := by
  refine ⟨hsame.socket.connected h.connected, hsame.delivered h.delivered, fun hkept hgone => ?_,
    fun hkept => Or.inr ?_, fun hp => absurd hp hphase⟩
  · rw [hsame.inbound] at hkept hgone
    obtain ⟨hempty, hended, htaken⟩ := h.ended hkept hgone
    rw [hsame.socket.recvBuffer, hsame.taken, hsame.accepted]
    exact ⟨hempty, hsame.socket.ended h.connected hended, htaken⟩
  · rw [hsame.inbound] at hkept
    rw [hsame.socket.recvBuffer, hsame.taken, hsame.accepted]
    exact (h.accepted hkept).resolve_left fun hup => by simp [hpumped] at hup

theorem useStream (h : Inward api phase c) (n : ℕ) (op : StreamOp) :
    Inward api phase (c.useStream n op) := by
  have hlink : (c.flow.link.apply op).inbound.receiverGone = false →
      c.flow.link.inbound.receiverGone = false ∧
        (c.flow.link.apply op).inbound.senderGone = c.flow.link.inbound.senderGone :=
    c.flow.link.ends_apply op
  obtain ⟨_, _, _, htrace⟩ := c.flow.link.trace_apply op
  rw [Cell.useStream, Flow.useStream]
  split
  · refine ⟨h.connected, h.delivered.apply op, fun hkept hgone => ?_, fun hkept => ?_,
      fun hp hkept => ?_⟩
    · obtain ⟨hkept, hsame⟩ := hlink hkept
      rw [htrace]
      exact h.ended hkept (hsame.symm.trans hgone)
    · rw [htrace]
      exact h.accepted (hlink hkept).1
    · exact h.drained hp (hlink hkept).1
  · exact h

theorem stream_pumpInbound (c : Cell S) :
    (c.pumpInbound api now).flow.stream = c.flow.stream := by
  have hloop : ∀ room (c : Cell S), (c.recvLoop api now room).1.flow.stream = c.flow.stream := by
    intro room
    induction room with
    | zero =>
      intro c
      rw [Cell.recvLoop]
      split
      · split <;> rfl
      · rfl
    | succ room ih =>
      intro c
      rw [Cell.recvLoop]
      split
      · split
        · rfl
        · split
          · rfl
          · dsimp only
            split
            · rfl
            · exact ih _
      · rfl
  rw [Cell.pumpInbound]
  split
  · rfl
  · dsimp only
    split <;> exact hloop _ c

/-- The loop of `pump_inbound`, for a reader that is still there: what it takes out of the buffer is
queued, and it ends with an empty buffer exactly if the buffer fits. -/
theorem exists_recvLoop (hapi : Receives api) (hdel : c.flow.link.Delivered)
    (hkept : c.flow.link.inbound.receiverGone = false)
    (hheld : c.flow.link.inbound.senderGone = false) (room : ℕ) :
    ∃ c', c.recvLoop api now room = (c', false) ∧ api.state c'.socket = api.state c.socket ∧
      c'.flow.link.Delivered ∧ c'.flow.link.inbound.receiverGone = false ∧
      c'.flow.link.inbound.senderGone = false ∧
      c'.flow.link.trace.accepted = c.flow.link.trace.accepted ∧
      c'.flow.link.trace.taken ++ api.recvBuffer c'.socket =
        c.flow.link.trace.taken ++ api.recvBuffer c.socket ∧
      (drainsWithin api room c.socket = true ↔ api.recvBuffer c'.socket = []) := by
  have hempty : ∀ sk, (!api.canRecv sk) = true ↔ api.recvBuffer sk = [] := by
    intro sk
    rw [Bool.not_eq_true', ← Bool.not_eq_true, hapi.canRecv, not_not]
  induction room generalizing c with
  | zero =>
    rw [Cell.recvLoop, hkept]
    exact ⟨c, by simp, rfl, hdel, hkept, hheld, rfl, rfl, hempty _⟩
  | succ room ih =>
    rw [Cell.recvLoop, hkept]
    cases hcan : api.canRecv c.socket with
    | false =>
      have hnil := (hempty c.socket).1 (by rw [hcan]; rfl)
      exact ⟨c, rfl, rfl, hdel, hkept, hheld, rfl, rfl, by simp [drainsWithin, hcan, hnil]⟩
    | true =>
      obtain ⟨data, hdata, hne, hbegin⟩ := hapi.recvData c.socket ((hapi.canRecv _).1 hcan)
      have hpos : 0 < min data.length CHUNK := lt_min (List.length_pos_iff.2 hne) (by decide)
      have hle : min data.length CHUNK ≤ (api.recvBuffer c.socket).length :=
        (min_le_left _ _).trans hbegin.length_le
      have htake : data.take (min data.length CHUNK) ≠ [] := by
        rw [Ne, List.take_eq_nil_iff]
        exact fun h => h.elim (by omega) hne
      obtain ⟨hrest, hstate⟩ := hapi.recvAdvance c.socket _ hle
      obtain ⟨c', hc', h₁, h₂, h₃, h₄, h₅, h₆, h₇⟩ := @ih
        (c.took now (api.recvAdvance c.socket (min data.length CHUNK))
          (data.take (min data.length CHUNK))) (hdel.send hheld _) hkept hheld
      refine ⟨c', ?_, h₁.trans hstate, h₂, h₃, h₄, h₅, h₆.trans ?_, ?_⟩
      · simpa [hdata, htake] using hc'
      · show (c.flow.link.trace.taken ++ data.take (min data.length CHUNK)) ++
          api.recvBuffer (api.recvAdvance c.socket (min data.length CHUNK)) = _
        have hfront : data.take (min data.length CHUNK) =
            (api.recvBuffer c.socket).take (min data.length CHUNK) := by
          obtain ⟨rest, hrest⟩ := hbegin
          rw [← hrest, List.take_append_of_le_length (min_le_left _ _)]
        rw [hrest, hfront, List.append_assoc, List.take_append_drop]
      · simp only [drainsWithin, hcan, hdata, Bool.not_true, Bool.false_or, Option.any_some]
        exact h₇

/-- Without a reader there is little to say. -/
theorem of_receiverGone (hconn : (api.state c.socket).connected = true)
    (hdel : c.flow.link.Delivered) (hgone : c.flow.link.inbound.receiverGone = true) :
    Inward api phase c :=
  ⟨hconn, hdel, fun hkept => absurd (hgone.symm.trans hkept) (by decide),
    fun hkept => absurd (hgone.symm.trans hkept) (by decide),
    fun _ hkept => absurd (hgone.symm.trans hkept) (by decide)⟩

/-- `pump_inbound`, where a closed socket with a reader is drained. -/
theorem pumpInbound (hapi : Receives api) (h : Inward api .pumpInbound c)
    (hdrains : c.flow.link.inbound.senderGone = false → c.flow.link.inbound.receiverGone = false →
      api.state c.socket = .closed → Drains api c) :
    Inward api .observe (c.pumpInbound api now) := by
  rw [Cell.pumpInbound]
  cases hheld : c.flow.link.inbound.senderGone with
  | true =>
    rw [if_pos rfl]
    refine ⟨h.connected, h.delivered, h.ended, fun hkept => Or.inr ?_,
      fun _ hkept _ => (h.ended hkept hheld).1⟩
    obtain ⟨hnil, -, htaken⟩ := h.ended hkept hheld
    rw [hnil, List.append_nil, htaken]
  | false =>
    simp only [Bool.false_eq_true, if_false]
    cases hkept : c.flow.link.inbound.receiverGone with
    | true =>
      unfold Cell.recvLoop
      split
      · have hclose := SameInward.close hapi c
        exact of_receiverGone (hclose.socket.connected h.connected)
          (hclose.delivered h.delivered).dropSender hkept
      · dsimp only
        split
        · exact of_receiverGone h.connected h.delivered hkept
        · exact of_receiverGone h.connected h.delivered.dropSender hkept
    | false =>
      obtain ⟨c', hc', hstate, hdel, -, hheld', haccepted, htaken, hempty⟩ :=
        @exists_recvLoop _ _ now c hapi h.delivered hkept hheld c.flow.link.inbound.room
      have hconn : (api.state c'.socket).connected = true := hstate ▸ h.connected
      have hall : c'.flow.link.trace.accepted =
          c'.flow.link.trace.taken ++ api.recvBuffer c'.socket := by
        rw [haccepted, htaken]
        exact (h.accepted hkept).elim (fun hup => (hdrains hheld hkept hup.2).1) id
      rw [hc']
      cases hmay : api.mayRecv c'.socket with
      | true =>
        refine ⟨hconn, hdel, fun _ hgone => ?_, fun _ => Or.inr hall, fun _ _ hclosed => ?_⟩
        · exact absurd (hheld'.symm.trans hgone) (by decide)
        · exact hempty.1 (hdrains hheld hkept (hstate ▸ hclosed)).2
      | false =>
        have hnot := (hapi.mayRecv c'.socket).not.1 (by simp [hmay])
        obtain ⟨hended, hnil⟩ := not_or.1 hnot
        have hended : (api.state c'.socket).receiving = false := by simpa using hended
        have hdone : c'.flow.link.trace.taken = c'.flow.link.trace.accepted := by
          rw [hall, not_not.1 hnil, List.append_nil]
        exact ⟨hconn, hdel.dropSender, fun _ _ => ⟨not_not.1 hnil, hended, hdone⟩,
          fun _ => Or.inr hall, fun _ _ _ => not_not.1 hnil⟩

/-- `pump_inbound`, where a closed socket with a reader is not drained: bytes are left in it, or
were lost. -/
theorem left_of_not_drains (hapi : Receives api) (hdel : c.flow.link.Delivered)
    (hheld : c.flow.link.inbound.senderGone = false)
    (hkept : c.flow.link.inbound.receiverGone = false) (hclosed : api.state c.socket = .closed)
    (hdrains : ¬ Drains api c) (now : ℕ) :
    api.state (c.pumpInbound api now).socket = .closed ∧
      (c.pumpInbound api now).flow.link.inbound.receiverGone = false ∧
      ¬ (api.recvBuffer (c.pumpInbound api now).socket = [] ∧
        (c.pumpInbound api now).flow.link.trace.taken =
          (c.pumpInbound api now).flow.link.trace.accepted) := by
  obtain ⟨c', hc', hstate, -, hkept', -, haccepted, htaken, hempty⟩ :=
    @exists_recvLoop _ _ now c hapi hdel hkept hheld c.flow.link.inbound.room
  have hleft : ¬ (api.recvBuffer c'.socket = [] ∧
      c'.flow.link.trace.taken = c'.flow.link.trace.accepted) := by
    rintro ⟨hnil, hall⟩
    refine hdrains ⟨?_, hempty.2 hnil⟩
    rw [← htaken, hnil, List.append_nil, hall, haccepted]
  rw [Cell.pumpInbound, if_neg (by simp [hheld]), hc']
  dsimp only
  split <;> exact ⟨hstate.trans hclosed, hkept', hleft⟩

/-- A poll that lets the socket receive. -/
theorem grow {sk sk' : S} {fl : Flow} (h : Inward api .poll ⟨sk, fl⟩) (hgrows : Grows api sk sk') :
    Inward api .sweep ⟨sk', fl.polled api sk sk'⟩ := by
  have hdel := h.delivered
  refine ⟨hgrows.connected h.connected, ⟨hdel.inOrder, hdel.partialLt, hdel.eof⟩,
    fun hkept hgone => ?_, fun hkept => Or.inr ?_, fun hp => absurd hp (by simp)⟩
  · obtain ⟨hempty, hended, htaken⟩ := h.ended hkept hgone
    obtain ⟨hsame, hended⟩ := hgrows.ended h.connected hended
    refine ⟨hsame.trans hempty, hended, htaken.trans ?_⟩
    show _ = fl.link.trace.accepted ++ (api.recvBuffer sk').drop (api.recvBuffer sk).length
    rw [hsame, List.drop_length, List.append_nil]
  · show fl.link.trace.accepted ++ (api.recvBuffer sk').drop (api.recvBuffer sk).length =
      fl.link.trace.taken ++ api.recvBuffer sk'
    obtain ⟨fresh, hfresh⟩ := hgrows.recvBuffer
    have hall := (h.accepted hkept).resolve_left fun hup => Bool.false_ne_true hup.1
    rw [← hfresh, List.drop_left, hall, List.append_assoc]

/-- A poll that ends TIME-WAIT. -/
theorem expire {sk sk' : S} {fl : Flow} (h : Inward api .poll ⟨sk, fl⟩)
    (hexpires : Expires api sk sk') : Inward api .sweep ⟨sk', fl.polled api sk sk'⟩ := by
  have hdel := h.delivered
  refine ⟨by rw [hexpires.closed]; rfl, ⟨hdel.inOrder, hdel.partialLt, hdel.eof⟩,
    fun hkept hgone => ⟨hexpires.recvBuffer, by rw [hexpires.closed]; rfl, ?_⟩,
    fun _ => Or.inl ⟨rfl, hexpires.closed⟩, fun hp => absurd hp (by simp)⟩
  show _ = fl.link.trace.accepted ++ (api.recvBuffer sk').drop (api.recvBuffer sk).length
  rw [hexpires.recvBuffer, List.drop_nil, List.append_nil]
  exact (h.ended hkept hgone).2.2

/-- A new connection. -/
theorem fresh {sk : S} (hapi : Receives api) (hconn : (api.state sk).connected = true)
    (src dst : SocketAddr) (n depth : ℕ) :
    Inward api .pumpInbound
      ⟨api.setTimeout sk none, src, dst, n, none, now, none,
        (localStreamPair depth).accept (api.recvBuffer (api.setTimeout sk none))⟩ := by
  have hdel := Link.Delivered.new depth
  exact ⟨(hapi.setTimeout sk none).connected hconn, ⟨hdel.inOrder, hdel.partialLt, hdel.eof⟩,
    fun _ hgone => absurd hgone Bool.false_ne_true, fun _ => Or.inr rfl,
    fun hp => absurd hp (by simp)⟩

/-- `observe_flow_states` only keeps the clock. -/
theorem observe (h : Inward api .observe c) : Inward api .reap (c.observe api now) := by
  obtain ⟨_, hobserve⟩ := c.observe_changes api now
  rw [hobserve]
  exact ⟨h.connected, h.delivered, h.ended, h.accepted, fun _ => h.drained (Or.inl rfl)⟩

/-- Retirement. -/
theorem retire (h : Inward api .reap c) (hclosed : api.state c.socket = .closed) :
    Outlived (c.flow.retire (api.recvBuffer c.socket)) := by
  refine ⟨⟨h.delivered.inOrder, h.delivered.partialLt, fun heof => ?_⟩, fun hkept => ?_⟩
  · exact ⟨rfl, (h.delivered.eof heof).2⟩
  · have hnil := h.drained (Or.inr rfl) hkept hclosed
    have hall := (h.accepted hkept).resolve_left fun hup => Bool.false_ne_true hup.1
    rw [hnil, List.append_nil] at hall
    exact ⟨hnil, hall.symm⟩

end Inward

theorem Outlived.useStream {f : Flow} (h : Outlived f) (n : ℕ) (op : StreamOp) :
    Outlived (f.useStream n op) := by
  rw [Flow.useStream]
  split
  · refine ⟨h.delivered.apply op, fun hkept => ?_⟩
    obtain ⟨_, _, _, htrace⟩ := f.link.trace_apply op
    rw [htrace]
    exact h.left (f.link.ends_apply op hkept).1
  · exact h

/-! ## Runs -/

/-- What smoltcp is relied on for: a poll grows the sockets, but for those whose TIME-WAIT ends. -/
def Lawful (api : TcpApi S) (l : Loop S) : Event S → Prop
  | .poll p => ∀ h sk, l.core.sockets.get h = some sk →
      ∀ sk', (l.core.poll api p).sockets.get h = some sk' → Grows api sk sk' ∨ Expires api sk sk'
  | e => NeverDials api l e

/-- Where `pump_inbound` meets the connection of stream `n` with its socket closed, its sender held
and its reader there, the receive buffer has all that was accepted and not taken, and that fits the
free slots of the channel. -/
def DrainsClosed (api : TcpApi S) (n : ℕ) (l : Loop S) : Event S → Prop
  | .pass => l.phase = .pumpInbound → ∀ h c, l.core.cell h = some c → c.flow.stream = n →
      c.flow.link.inbound.senderGone = false → c.flow.link.inbound.receiverGone = false →
        api.state c.socket = .closed → Drains api c
  | _ => True

/-- For the stream numbered `n`, as long as it is kept: its sender is gone only when the receive
buffer is empty and all that the socket accepted was taken, and end of file comes when all of it was
read, in order. -/
def EofComplete (api : TcpApi S) (n : ℕ) (s : StackCore S) : Prop :=
  (∀ h c, s.cell h = some c → c.flow.stream = n → c.flow.link.inbound.receiverGone = false →
    (c.flow.link.inbound.senderGone = true →
      api.recvBuffer c.socket = [] ∧ c.flow.link.trace.taken = c.flow.link.trace.accepted) ∧
      (c.flow.link.trace.eof = true → c.flow.link.trace.read = c.flow.link.trace.accepted)) ∧
  ∀ f ∈ s.retired, f.stream = n → f.link.inbound.receiverGone = false →
    (f.link.trace.left = [] ∧ f.link.trace.taken = f.link.trace.accepted) ∧
      (f.link.trace.eof = true → f.link.trace.read = f.link.trace.accepted)

/-- The core when the step is through, where the loop is past `pump_inbound`. -/
def Loop.finish (api : TcpApi S) (l : Loop S) : StackCore S :=
  match l.phase with
  | .observe => (l.core.observeFlowStates api).reapClosed api
  | .reap => l.core.reapClosed api
  | _ => l.core

theorem inward_rules (hapi : Receives api) (n : ℕ) :
    FlowRules api (fun l e => Lawful api l e ∧ DrainsClosed api n l e)
      (fun phase _ c => c.flow.stream = n → Inward api phase c)
      (fun f => f.stream = n → Outlived f) where
  start _ _ c h hn := (h hn).mono (by simp) (by decide)
  quiet _ c := by
    have hmono : ∀ phase phase', ¬ (phase' = .observe ∨ phase' = .reap) →
        (phase.unpumped = true → phase'.unpumped = true) →
          (c.flow.stream = n → Inward api phase c) → c.flow.stream = n → Inward api phase' c :=
      fun _ _ hphase hpumped h hn => (h hn).mono hphase hpumped
    exact ⟨hmono _ _ (by simp) (by decide), hmono _ _ (by simp) (by decide),
      hmono _ _ (by simp) (by decide)⟩
  abort now c h hn := by
    have hsame : SameInward api c (c.abortExpired api now) := by
      rw [Cell.abortExpired]
      split
      · exact ⟨rfl, rfl, rfl, rfl, rfl, rfl, rfl, hapi.abort _⟩
      · exact .refl c
    exact (h (hsame.stream.symm.trans hn)).same hsame (by simp) rfl
  pumpOutbound l _ _ k c _ h hn := by
    have hsame : SameInward api c (c.pumpOutbound api l.core.lastStep) := .pumpOutbound hapi c
    exact (h (hsame.stream.symm.trans hn)).same hsame (by simp) rfl
  poll l p _ hg k sk sk' fl hc hsk' h hn :=
    (hg.1 k sk (StackCore.cell_eq_some.1 hc).1 sk' hsk').elim (h hn).grow (h hn).expire
  promote l hp hg k sk src dst m now depth _ hsk hlisten hsyn _ _ _ :=
    Inward.fresh hapi (NeverDials.connected hg.1 hp hsk hlisten hsyn) src dst m depth
  pumpInbound l hp hg k c hc h hn := by
    rw [Inward.stream_pumpInbound] at hn
    exact (h hn).pumpInbound hapi (hg.2 hp k c hc hn)
  observe now c h hn := by
    have hstream : (c.observe api now).flow.stream = c.flow.stream := by
      obtain ⟨_, hobserve⟩ := c.observe_changes api now
      rw [hobserve]
    exact (h (hstream.symm.trans hn)).observe
  reap _ c h hclosed hn := (h hn).retire hclosed
  stream l m op _ k c _ h hn := (h ((c.flow.stream_useStream m op).symm.trans hn)).useStream m op
  streamRetired l m op _ f _ h hn := (h ((f.stream_useStream m op).symm.trans hn)).useStream m op

/-- What holds of the connection of stream `n` in a phase. -/
abbrev InwardInv (api : TcpApi S) (n : ℕ) (phase : Phase) : StackCore S → Prop :=
  FlowInv (fun c => c.flow.stream = n → Inward api phase c) (fun f => f.stream = n → Outlived f)

/-- What the phases say of a connection is what its reader is promised. -/
theorem InwardInv.eofComplete {n : ℕ} {phase : Phase} {s : StackCore S}
    (h : InwardInv api n phase s) : EofComplete api n s := by
  refine ⟨fun k c hc hn hkept => ?_, fun f hf hn hkept => ?_⟩
  · have hlive := h.live k c hc hn
    refine ⟨fun hgone => ?_, fun heof => ?_⟩
    · obtain ⟨hnil, -, htaken⟩ := hlive.ended hkept hgone
      exact ⟨hnil, htaken⟩
    · obtain ⟨hgone, hread⟩ := hlive.delivered.eof heof
      exact hread.trans (hlive.ended hkept hgone).2.2
  · have hret := h.retired f hf hn
    exact ⟨hret.left hkept, fun heof => (hret.delivered.eof heof).2.trans (hret.left hkept).2⟩

theorem eofComplete_finish (hapi : Receives api) {n : ℕ} {l : Loop S}
    (h : InwardInv api n l.phase l.core) : EofComplete api n (l.finish api) := by
  have hr := inward_rules hapi n
  unfold Loop.finish
  split
  · rename_i hp
    have hobserved : InwardInv api n .reap (l.core.observeFlowStates api) :=
      (hp ▸ h).forFlows fun k c _ => hr.observe _ c
    have hreaped : InwardInv api n .reap ((l.core.observeFlowStates api).reapClosed api) :=
      hobserved.reapClosed (hr.reap l.core.lastStep)
    exact hreaped.eofComplete
  · rename_i hp
    have hreaped : InwardInv api n .reap (l.core.reapClosed api) :=
      (hp ▸ h).reapClosed (hr.reap l.core.lastStep)
    exact hreaped.eofComplete
  · exact h.eofComplete

/-- A connection that is not drained is retired with bytes left. -/
theorem not_eofComplete_finish (hapi : Receives api) {n : ℕ} {l : Loop S}
    (h : InwardInv api n .pumpInbound l.core) (hdrains : ¬ DrainsClosed api n l .pass) :
    ¬ EofComplete api n (Loop.finish api ⟨l.core.pumpInbound api, .observe⟩) := by
  simp only [DrainsClosed, not_forall] at hdrains
  obtain ⟨-, k, c, hc, hn, hheld, hkept, hclosed, hdrains⟩ := hdrains
  obtain ⟨hclosed', hkept', hleft⟩ := Inward.left_of_not_drains hapi (h.live k c hc hn).delivered
    hheld hkept hclosed hdrains l.core.lastStep
  obtain ⟨w, hobserve⟩ := (c.pumpInbound api l.core.lastStep).observe_changes api l.core.lastStep
  have hcell : ((l.core.pumpInbound api).observeFlowStates api).cell k =
      some ((c.pumpInbound api l.core.lastStep).observe api l.core.lastStep) := by
    rw [StackCore.observeFlowStates, StackCore.cell_forFlows, StackCore.pumpInbound,
      StackCore.cell_forFlows, hc]
    rfl
  have hacc : Accounted ((l.core.pumpInbound api).observeFlowStates api) :=
    accounted_forFlows (accounted_forFlows h.accounted _) _
  rw [hobserve] at hcell
  intro hcomplete
  refine hleft (hcomplete.2 _ (hacc.mem_retired_reapClosed hcell hclosed') ?_ hkept').1
  exact (Inward.stream_pumpInbound c).trans hn

/-- **When end of file means everything was read**: for a stream that is kept, in every state of a
run and when its step is through, exactly when a closed socket still holds what it has not handed
out, and that always fits the channel. -/
theorem drains_iff_eofComplete (hapi : Receives api) (n : ℕ) {cfg : StackConfig}
    {es : List (Event S)} (hlawful : Guarded (Loop.next wire api) (Lawful api) (.start cfg) es) :
    Guarded (Loop.next wire api) (DrainsClosed api n) (.start cfg) es ↔
      ∀ es' l, es' <+: es → run (Loop.next wire api) (.start cfg) es' = some l →
        EofComplete api n l.core ∧ EofComplete api n (l.finish api) := by
  have hr := inward_rules hapi n
  have hkeep : ∀ (l : Loop S) e l', InwardInv api n l.phase l.core → Lawful api l e →
      DrainsClosed api n l e → l.next wire api e = some l' → InwardInv api n l'.phase l'.core :=
    fun l e l' hl hlaw hg hn => hr.flowInv_next hl ⟨hlaw, hg⟩ hn
  refine guarded_iff (fun l hl => ⟨hl.eofComplete, eofComplete_finish hapi hl⟩) hkeep
    (fun l e hl _ hg => ?_) (hr.flowInv_start cfg) hlawful
  cases e with
  | pass =>
    by_cases hp : l.phase = .pumpInbound
    · refine ⟨⟨l.core.pumpInbound api, .observe⟩, by simp only [Loop.next, hp], fun hgood => ?_⟩
      exact not_eofComplete_finish hapi (hp ▸ hl) hg hgood.2
    · exact absurd (fun h => absurd h hp) hg
  | _ => exact absurd trivial hg

/-! ## A reader that is too slow -/

/-- The connection of stream `n` is neither reset nor aborted, and its stream is kept. -/
def Orderly (api : TcpApi S) (n : ℕ) (l : Loop S) : Event S → Prop
  | .poll p => ∀ h c, l.core.cell h = some c → c.flow.stream = n →
      ∀ sk', (l.core.poll api p).sockets.get h = some sk' → api.state sk' = .closed →
        api.state c.socket ∈ [.closed, .lastAck, .timeWait]
  | .pass => l.phase = .abort → ∀ h c, l.core.cell h = some c → c.flow.stream = n →
      ∀ deadline, c.flow.shutdownDeadline = some deadline → l.core.lastStep < deadline
  | .stream m op => m = n → op ≠ .drop
  | _ => True

instance (sk sk' : S) : Decidable (Grows api sk sk') :=
  decidable_of_iff
    (api.recvBuffer sk <+: api.recvBuffer sk' ∧
      ((api.state sk).connected = true → (api.state sk').connected = true) ∧
      ((api.state sk).connected = true → (api.state sk).receiving = false →
        api.recvBuffer sk' = api.recvBuffer sk ∧ (api.state sk').receiving = false))
    ⟨fun h => ⟨h.1, h.2.1, h.2.2⟩, fun h => ⟨h.recvBuffer, h.connected, h.ended⟩⟩

instance (sk sk' : S) : Decidable (Expires api sk sk') :=
  decidable_of_iff
    (api.state sk = .timeWait ∧ api.state sk' = .closed ∧ api.recvBuffer sk' = [])
    ⟨fun h => ⟨h.1, h.2.1, h.2.2⟩, fun h => ⟨h.timeWait, h.closed, h.recvBuffer⟩⟩

instance (l : Loop S) : (e : Event S) → Decidable (Lawful api l e)
  | .poll p => inferInstanceAs (Decidable (∀ h sk, l.core.sockets.get h = some sk →
      ∀ sk', (l.core.poll api p).sockets.get h = some sk' →
        Grows api sk sk' ∨ Expires api sk sk'))
  | .pass => inferInstanceAs (Decidable (NeverDials api l .pass))
  | .ingest _ | .begin _ | .stream _ _ | .drain => .isTrue trivial

instance (n : ℕ) (l : Loop S) : (e : Event S) → Decidable (DrainsClosed api n l e)
  | .pass => inferInstanceAs (Decidable (l.phase = .pumpInbound →
      ∀ h c, l.core.cell h = some c → c.flow.stream = n →
        c.flow.link.inbound.senderGone = false → c.flow.link.inbound.receiverGone = false →
          api.state c.socket = .closed → Drains api c))
  | .ingest _ | .begin _ | .poll _ | .stream _ _ | .drain => .isTrue trivial

instance (n : ℕ) (l : Loop S) : (e : Event S) → Decidable (Orderly api n l e)
  | .poll p => inferInstanceAs (Decidable (∀ h c, l.core.cell h = some c → c.flow.stream = n →
      ∀ sk', (l.core.poll api p).sockets.get h = some sk' → api.state sk' = .closed →
        api.state c.socket ∈ [.closed, .lastAck, .timeWait]))
  | .pass => inferInstanceAs (Decidable (l.phase = .abort →
      ∀ h c, l.core.cell h = some c → c.flow.stream = n →
        ∀ deadline, c.flow.shutdownDeadline = some deadline → l.core.lastStep < deadline))
  | .stream m op => inferInstanceAs (Decidable (m = n → op ≠ .drop))
  | .ingest _ | .begin _ | .drain => .isTrue trivial

/-- The application sends two bytes, the second with its FIN; the tunnel ends its side as well, and
the application acknowledges that. -/
def twoBytes (between : List (Event Reference.Sock)) : List (Event Reference.Sock) :=
  Reference.handshake ++
    [.ingest (Reference.ack Reference.app 1 [1])] ++ Loop.stepEvents 30000 Reference.poll ++
    [.ingest (Reference.fin Reference.app 1 [2])] ++ Loop.stepEvents 40000 Reference.poll ++
    [.stream 0 .shutdown] ++ Loop.stepEvents 50000 Reference.poll ++ between ++
    [.ingest (Reference.ack Reference.app 2 [])] ++ Loop.stepEvents 60000 Reference.poll ++
    [.stream 0 (.read 8), .stream 0 (.read 8)]

/-- The exact condition, for a reader in time and a channel of one slot. -/
theorem drains_iff_eofComplete_twoBytes :
    Guarded (Loop.next Reference.wire Reference.api) (DrainsClosed Reference.api 0)
        (.start ⟨65536, 1⟩) (twoBytes [.stream 0 (.read 8)]) ↔
      ∀ es' l, es' <+: twoBytes [.stream 0 (.read 8)] → Reference.runs ⟨65536, 1⟩ es' = some l →
        EofComplete Reference.api 0 l.core ∧ EofComplete Reference.api 0 (l.finish Reference.api) :=
  drains_iff_eofComplete Reference.receives 0 (by decide +kernel)

example :
    Guarded (Loop.next Reference.wire Reference.api) (DrainsClosed Reference.api 0)
        (.start ⟨65536, 1⟩) (twoBytes [.stream 0 (.read 8)]) ∧
      ¬ Guarded (Loop.next Reference.wire Reference.api) (DrainsClosed Reference.api 0)
        (.start ⟨65536, 1⟩) (twoBytes []) := by
  decide +kernel

/-- The tunnel ends first; the application sends two bytes, the second with its FIN, and TIME-WAIT
runs out over the one that the channel has no slot for. -/
def tooLate : List (Event Reference.Sock) :=
  Reference.handshake ++ [.stream 0 .shutdown] ++ Loop.stepEvents 30000 Reference.poll ++
    [.ingest (Reference.ack Reference.app 2 [1])] ++ Loop.stepEvents 40000 Reference.poll ++
    [.ingest (Reference.fin Reference.app 2 [2])] ++ Loop.stepEvents 50000 Reference.poll ++
    Loop.stepEvents 10050000 Reference.expiry ++ [.stream 0 (.read 8), .stream 0 (.read 8)]

example :
    Guarded (Loop.next Reference.wire Reference.api)
        (fun l e => Lawful Reference.api l e ∧ Orderly Reference.api 0 l e)
        (.start ⟨65536, 1⟩) tooLate ∧
      ¬ Guarded (Loop.next Reference.wire Reference.api) (DrainsClosed Reference.api 0)
        (.start ⟨65536, 1⟩) tooLate ∧
      (Reference.runs ⟨65536, 1⟩ tooLate).any (fun l => l.core.retired.any fun f =>
        f.link.trace.eof && f.link.trace.read != f.link.trace.accepted) = true := by
  decide +kernel

/-- **An end of file that comes too early**: the reader is a step late, and `reap_closed` retires
the closed socket with a byte in its receive buffer. -/
theorem not_eofComplete_twoBytes :
    ¬ ∀ (S : Type) (wire : Wire) (api : TcpApi S), Receives api → ∀ n cfg es l,
      Guarded (Loop.next wire api) (fun l e => Lawful api l e ∧ Orderly api n l e)
          (.start cfg) es →
        run (Loop.next wire api) (.start cfg) es = some l → EofComplete api n l.core := by
  intro h
  have hrun : (Reference.runs ⟨65536, 1⟩ (twoBytes [])).any (fun l => l.core.retired.any fun f =>
      f.stream == 0 && !f.link.inbound.receiverGone && f.link.trace.eof &&
        f.link.trace.read != f.link.trace.accepted) = true := by decide +kernel
  obtain ⟨l, hl, hrun⟩ := (Option.any_eq_true _ _).1 hrun
  obtain ⟨f, hf, hrun⟩ := List.any_eq_true.1 hrun
  simp only [Bool.and_eq_true, beq_iff_eq, Bool.not_eq_true', bne_iff_ne] at hrun
  obtain ⟨⟨⟨hn, hkept⟩, heof⟩, hne⟩ := hrun
  have hcomplete := h _ _ _ Reference.receives 0 _ (twoBytes []) l (by decide +kernel) hl
  exact hne ((hcomplete.2 f hf hn hkept).2 heof)

end LiosTunnel.Stack
