import LiosTunnel.Stack.Flow
import Mathlib.Logic.Relation

/-!
# What the pumps do, move by move

`pump_outbound` and `pump_inbound` of one connection are sequences of a few kinds of moves. A
property that survives each kind survives the pump.

* `Outflow`, `Inflow`: a move of `pump_outbound` and of `pump_inbound`.
* `pumpOutbound_moves`, `pumpInbound_moves`: the pumps make such moves only.
* `pumpOutbound_keeps`, `pumpInbound_keeps`: the rules to use them by.
-/

namespace LiosTunnel.Stack.Cell

open Relation

variable {S : Type} {api : TcpApi S} {now : ℕ}

/-- One move of `pump_outbound`. -/
inductive Outflow (api : TcpApi S) (now : ℕ) (c : Cell S) : Cell S → Prop
  /-- The send buffer takes more of the chunk in `pending_out`. -/
  | resume {chunk : Bytes} {off n : ℕ} {sk : S} (hp : c.flow.pendingOut = some (chunk, off))
      (hcan : api.canSend c.socket = true)
      (hslice : api.sendSlice c.socket (chunk.drop off) = some (n, sk)) :
      Outflow api now c ((c.sent now sk ((chunk.drop off).take n)).park
        (if off + n < chunk.length then some (chunk, off + n) else none))
  /-- It takes a beginning of the next chunk of `from_stream`. -/
  | push {chunk : Bytes} {q : List Bytes} {n : ℕ} {sk : S} (hp : c.flow.pendingOut = none)
      (hcan : api.canSend c.socket = true) (hq : c.flow.link.outbound.queue = chunk :: q)
      (hslice : api.sendSlice c.socket chunk = some (n, sk)) :
      Outflow api now c (((c.withQueue q).sent now sk (chunk.take n)).park
        (if n < chunk.length then some (chunk, n) else none))
  /-- It answers with an error, and the chunk is gone. -/
  | fail {chunk : Bytes} {q : List Bytes} (hcan : api.canSend c.socket = true)
      (hq : c.flow.link.outbound.queue = chunk :: q)
      (hslice : api.sendSlice c.socket chunk = none) : Outflow api now c (c.withQueue q)
  /-- The next chunk is parked without asking the send buffer. -/
  | setAside {chunk : Bytes} {q : List Bytes} (hp : c.flow.pendingOut = none)
      (hq : c.flow.link.outbound.queue = chunk :: q) :
      Outflow api now c ((c.withQueue q).park (some (chunk, 0)))
  /-- The socket is closed, with nothing left to send. -/
  | close (hp : c.flow.pendingOut = none) (hq : c.flow.link.outbound.queue = [])
      (hclosed : c.flow.link.outbound.isClosed = true) : Outflow api now c (c.close api)

/-- One move of `pump_inbound`. -/
inductive Inflow (api : TcpApi S) (now : ℕ) (c : Cell S) : Cell S → Prop
  /-- A chunk is taken out of the socket and sent to the stream. -/
  | take {data : Bytes} {n : ℕ} (hheld : c.flow.link.inbound.senderGone = false)
      (hkept : c.flow.link.inbound.receiverGone = false) (hdata : api.recvData c.socket = some data)
      (hne : data.take n ≠ []) :
      Inflow api now c (c.took now (api.recvAdvance c.socket n) (data.take n))
  /-- There was nothing to take. -/
  | skip {n : ℕ} : Inflow api now c { c with socket := api.recvAdvance c.socket n }
  /-- The socket is closed, as the stream is gone. -/
  | close (hheld : c.flow.link.inbound.senderGone = false) (hcan : api.canRecv c.socket = true)
      (hgone : c.flow.link.inbound.receiverGone = true) : Inflow api now c (c.close api)
  /-- `to_stream` is let go. -/
  | release : Inflow api now c c.dropToStream

/-! ## Outbound -/

theorem finishChunk_moves (c : Cell S) :
    ReflTransGen (Outflow api now) c (c.finishChunk api now) := by
  rw [finishChunk]
  split
  · exact .refl
  · rename_i chunk off hp
    split
    · rename_i hcan
      split
      · rename_i n sk hslice
        exact .single (.resume hp hcan hslice)
      · exact .refl
    · exact .refl

theorem park_none {c : Cell S} (hp : c.flow.pendingOut = none) : c.park none = c := by
  obtain ⟨sk, fl⟩ := c
  obtain ⟨src, dst, stream, pending, last, winding, link⟩ := fl
  obtain rfl : pending = none := hp
  rfl

theorem pumpQueue_moves (q : List Bytes) (c : Cell S) (hq : c.flow.link.outbound.queue = q) :
    ReflTransGen (Outflow api now) c (c.pumpQueue api now q) := by
  induction q generalizing c with
  | nil =>
    rw [pumpQueue]
    split
    · rename_i hcond
      rw [Bool.and_eq_true, Option.isNone_iff_eq_none] at hcond
      split
      · exact .single (.close hcond.1 hq ‹_›)
      · exact .refl
    · exact .refl
  | cons chunk q ih =>
    rw [pumpQueue]
    split
    · rename_i hcond
      rw [Bool.and_eq_true, Option.isNone_iff_eq_none] at hcond
      split
      · rename_i n sk hslice
        have hpush : Outflow api now c ((c.withQueue q).sent now sk (chunk.take n) |>.park
            (if n < chunk.length then some (chunk, n) else none)) :=
          .push hcond.1 hcond.2 hq hslice
        split
        · rename_i hlt
          rw [if_pos hlt] at hpush
          exact .single hpush
        · rename_i hge
          rw [if_neg hge, park_none (c := (c.withQueue q).sent now sk (chunk.take n)) hcond.1]
            at hpush
          exact .head hpush (ih _ rfl)
      · exact .single (.fail hcond.2 hq ‹_›)
    · exact .refl

theorem checkClosed_moves (c : Cell S) :
    ReflTransGen (Outflow api now) c (c.checkClosed api) := by
  rw [checkClosed]
  split
  · rename_i hcond
    rw [Bool.and_eq_true, Option.isNone_iff_eq_none] at hcond
    split
    · exact .single (.setAside hcond.2 ‹_›)
    · exact .single (.close hcond.2 ‹_› hcond.1)
  · exact .refl

theorem pumpOutbound_moves (c : Cell S) :
    ReflTransGen (Outflow api now) c (c.pumpOutbound api now) :=
  ((finishChunk_moves c).trans (pumpQueue_moves _ _ rfl)).trans (checkClosed_moves _)

/-- **What every move of `pump_outbound` keeps, it keeps.** -/
theorem pumpOutbound_keeps {P : Cell S → Prop} (hmove : ∀ c c', P c → Outflow api now c c' → P c')
    {c : Cell S} (hc : P c) : P (c.pumpOutbound api now) := by
  have hmoves : ReflTransGen (Outflow api now) c (c.pumpOutbound api now) := pumpOutbound_moves c
  generalize c.pumpOutbound api now = c' at hmoves ⊢
  induction hmoves with
  | refl => exact hc
  | tail _ hlast ih => exact hmove _ _ ih hlast

/-! ## Inbound -/

theorem recvLoop_moves (room : ℕ) (c : Cell S) (hheld : c.flow.link.inbound.senderGone = false) :
    ReflTransGen (Inflow api now) c (c.recvLoop api now room).1 := by
  induction room generalizing c with
  | zero =>
    rw [recvLoop]
    split
    · split
      · exact .single (.close hheld ‹_› ‹_›)
      · exact .refl
    · exact .refl
  | succ room ih =>
    rw [recvLoop]
    split
    · split
      · exact .single (.close hheld ‹_› ‹_›)
      · rename_i hkept
        rw [Bool.not_eq_true] at hkept
        split
        · exact .refl
        · rename_i data hdata
          dsimp only
          split
          · exact .single .skip
          · exact .head (.take hheld hkept hdata ‹_›) (ih _ hheld)
    · exact .refl

theorem pumpInbound_moves (c : Cell S) :
    ReflTransGen (Inflow api now) c (c.pumpInbound api now) := by
  rw [pumpInbound]
  split
  · exact .refl
  · rename_i hheld
    have hloop : ReflTransGen (Inflow api now) c
        (c.recvLoop api now c.flow.link.inbound.room).1 :=
      recvLoop_moves _ c (by simpa using hheld)
    dsimp only
    split
    · exact hloop
    · exact hloop.tail .release

/-- **What every move of `pump_inbound` keeps, it keeps.** -/
theorem pumpInbound_keeps {P : Cell S → Prop} (hmove : ∀ c c', P c → Inflow api now c c' → P c')
    {c : Cell S} (hc : P c) : P (c.pumpInbound api now) := by
  have hmoves : ReflTransGen (Inflow api now) c (c.pumpInbound api now) := pumpInbound_moves c
  generalize c.pumpInbound api now = c' at hmoves ⊢
  induction hmoves with
  | refl => exact hc
  | tail _ hlast ih => exact hmove _ _ ih hlast

end LiosTunnel.Stack.Cell
