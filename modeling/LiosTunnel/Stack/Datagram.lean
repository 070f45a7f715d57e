import LiosTunnel.Dns.Reply
import LiosTunnel.Stack.Core

/-!
# Datagrams to the device

`StackCore::inject_datagram` and `drain_tx` of `smoltcp_stack/core.rs`: an answer becomes a packet
for the device, or, where it is larger than the MTU, its truncated reply does.

* `StackCore.injectDatagram`, `StackCore.drainTx`.
* `injected_packet_reads_back`: the packet is read back with the endpoints, and with the answer or
  its truncated reply.
-/

namespace LiosTunnel.Stack

open Dns

namespace StackCore

variable {S : Type}

/-- `device.push_tx`. -/
def pushTx (s : StackCore S) (packet : Bytes) : StackCore S := { s with tx := s.tx ++ [packet] }

/-- The payload that `inject_datagram` sends. -/
def replyPayload (mtu : ℕ) (payload : Bytes) : Bytes :=
  let maxPayload := mtu - (20 + 8)
  if maxPayload < payload.length then truncateDnsReply payload else payload

/-- `inject_datagram`, with the `mtu` of the configuration. -/
def injectDatagram (set : Setters) (mtu : ℕ) (s : StackCore S) (dg : Datagram) : StackCore S :=
  match buildUdpPacket set dg.src dg.dst (replyPayload mtu dg.payload) with
  | none => { s with panicked := true }
  | some (.ok packet) => s.pushTx packet
  | some (.error _) => { s with udpDropped := s.udpDropped + 1 }

/-- `drain_tx`: the packets for the device, which are then gone. -/
def drainTx (s : StackCore S) : List Bytes × StackCore S := (s.tx, { s with tx := [] })

end StackCore

/-- A datagram has an IPv4 endpoint on both sides. -/
def Datagram.IsIpv4 (dg : Datagram) : Prop := dg.src.ip.isIpv4 ∧ dg.dst.ip.isIpv4

instance (dg : Datagram) : Decidable dg.IsIpv4 :=
  inferInstanceAs (Decidable (_ ∧ _))

open StackCore

variable {S : Type} {wire : Wire} {set : Setters}

/-- What is sent fits in the MTU, and is the answer if the answer does. -/
theorem replyPayload_cases {mtu : ℕ} (hmtu : 40 ≤ mtu) (payload : Bytes) :
    28 + payload.length ≤ mtu ∧ replyPayload mtu payload = payload ∨
      mtu < 28 + payload.length ∧ IsTruncated payload (replyPayload mtu payload) := by
  rw [replyPayload]
  by_cases h : 28 + payload.length ≤ mtu
  · exact Or.inl ⟨h, if_neg (by omega)⟩
  · refine Or.inr ⟨by omega, ?_⟩
    rw [if_pos (by omega)]
    -- the MTU has room for a header, so an answer that does not fit has one
    exact isTruncated_of_le (by omega)

/-- An answer for an IPv4 endpoint from another is one packet, which is read back as it was sent;
any other is counted as dropped. -/
theorem injected_packet_reads_back (h : Standard wire set) (s : StackCore S) {mtu : ℕ}
    (hmin : 40 ≤ mtu) (hmax : mtu ≤ 65535) (dg : Datagram) :
    (dg.IsIpv4 → ∃ packet payload,
      (injectDatagram set mtu s dg).drainTx.1 = s.drainTx.1 ++ [packet] ∧
      (injectDatagram set mtu s dg).udpDropped = s.udpDropped ∧
      packet.length ≤ mtu ∧ inspect wire packet = .udp dg.src dg.dst payload ∧
      (28 + dg.payload.length ≤ mtu → payload = dg.payload) ∧
      (mtu < 28 + dg.payload.length → IsTruncated dg.payload payload)) ∧
    (¬dg.IsIpv4 → (injectDatagram set mtu s dg).drainTx.1 = s.drainTx.1 ∧
      (injectDatagram set mtu s dg).udpDropped = s.udpDropped + 1) ∧
    (injectDatagram set mtu s dg).panicked = s.panicked := by
  obtain ⟨⟨srcIp, srcPort⟩, ⟨dstIp, dstPort⟩, answer⟩ := dg
  obtain ⟨reply, hreply⟩ : ∃ reply, reply = replyPayload mtu answer := ⟨_, rfl⟩
  cases srcIp with
  | v6 a =>
    -- `build_udp_packet` looks at the endpoints first
    have hs : injectDatagram set mtu s ⟨⟨.v6 a, srcPort⟩, ⟨dstIp, dstPort⟩, answer⟩ =
        { s with udpDropped := s.udpDropped + 1 } := rfl
    rw [hs]
    exact ⟨fun hv4 => (by cases hv4.1), fun _ => ⟨rfl, rfl⟩, rfl⟩
  | v4 src =>
    cases dstIp with
    | v6 a =>
      have hs : injectDatagram set mtu s ⟨⟨.v4 src, srcPort⟩, ⟨.v6 a, dstPort⟩, answer⟩ =
          { s with udpDropped := s.udpDropped + 1 } := rfl
      rw [hs]
      exact ⟨fun hv4 => (by cases hv4.2), fun _ => ⟨rfl, rfl⟩, rfl⟩
    | v4 dst =>
      have hcases := replyPayload_cases hmin answer
      rw [← hreply] at hcases
      have hfits : 28 + reply.length ≤ mtu := by
        obtain ⟨hle, rfl⟩ | ⟨-, htrunc⟩ := hcases
        · exact hle
        · rw [htrunc.length]
          omega
      obtain ⟨packet, hbuild, hlen, hinspect⟩ := inspect_buildUdpPacket src dst srcPort dstPort h
        (show reply.length ≤ MAX_UDP_PAYLOAD by rw [MAX_UDP_PAYLOAD]; omega)
      have hs : injectDatagram set mtu s ⟨⟨.v4 src, srcPort⟩, ⟨.v4 dst, dstPort⟩, answer⟩ =
          s.pushTx packet := by
        rw [injectDatagram, ← hreply, hbuild]
      rw [hs]
      refine ⟨fun _ => ⟨packet, reply, rfl, rfl, by omega, hinspect, ?_, ?_⟩,
        fun hv4 => absurd ⟨rfl, rfl⟩ hv4, rfl⟩
      · intro (hle : 28 + answer.length ≤ mtu)
        obtain ⟨-, heq⟩ | ⟨hlt, -⟩ := hcases
        · exact heq
        · omega
      · intro (hlt : mtu < 28 + answer.length)
        obtain ⟨hle, -⟩ | ⟨-, htrunc⟩ := hcases
        · omega
        · exact htrunc

/-- A resolver's answer of 2012 bytes, over the standard MTU. -/
theorem injected_packet_reads_back_truncated :
    let dg : Datagram := ⟨⟨.ofOctets 1 1 1 1, 53⟩, ⟨.ofOctets 10 90 0 2, 51234⟩,
      [0xAB, 0xCD, 0x81, 0x80, 0, 1, 0, 1, 0, 0, 0, 0] ++ List.replicate 2000 0x41⟩
    let s : StackCore Unit := .new ⟨65536, 32⟩
    ∃ packet payload, (injectDatagram Layout.setters 1500 s dg).drainTx.1 = [packet] ∧
      packet.length ≤ 1500 ∧ inspect Layout.wire packet = .udp dg.src dg.dst payload ∧
      IsTruncated dg.payload payload := by
  intro dg s
  obtain ⟨packet, payload, htx, -, hlen, hinspect, -, htrunc⟩ :=
    (injected_packet_reads_back Layout.standard s (show 40 ≤ 1500 by decide)
      (by decide) dg).1 (by decide)
  refine ⟨packet, payload, htx, hlen, hinspect, htrunc ?_⟩
  rw [List.length_append, List.length_replicate]
  decide

end LiosTunnel.Stack
