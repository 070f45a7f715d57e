import LiosTunnel.Lib.BitField
import LiosTunnel.Net.Inspect

/-!
# Writing headers

smoltcp's `Ipv4Packet` and `UdpPacket` over a mutable buffer. Their setters are parameters, as the
accessors of `Wire` are; what the program relies on is that both follow the layout of the IPv4 and
the UDP header, and that a checksum that was filled in is one that verifies.

* `Setters`: the setters.
* `Standard`: what the two are relied on for.
* `Layout.wire`, `Layout.setters`: headers that are as `Standard` says.
-/

namespace LiosTunnel

open BitField

/-- The setters of `Ipv4Packet`, on a buffer. -/
structure Ipv4Setters where
  setVersion : BitVec 8 → Bytes → Bytes
  setHeaderLen : BitVec 8 → Bytes → Bytes
  setTotalLen : BitVec 16 → Bytes → Bytes
  setIdent : BitVec 16 → Bytes → Bytes
  setDontFrag : Bool → Bytes → Bytes
  setMoreFrags : Bool → Bytes → Bytes
  setFragOffset : BitVec 16 → Bytes → Bytes
  setHopLimit : BitVec 8 → Bytes → Bytes
  setNextHeader : IpProtocol → Bytes → Bytes
  setSrcAddr : BitVec 32 → Bytes → Bytes
  setDstAddr : BitVec 32 → Bytes → Bytes
  fillChecksum : Bytes → Bytes

/-- The setters of `UdpPacket`, on a buffer. -/
structure UdpSetters where
  setSrcPort : BitVec 16 → Bytes → Bytes
  setDstPort : BitVec 16 → Bytes → Bytes
  setLen : BitVec 16 → Bytes → Bytes
  /-- Where `payload_mut` begins and ends; `none` is a panic. -/
  payloadMut : Bytes → Option (ℕ × ℕ)
  fillChecksum : BitVec 32 → BitVec 32 → Bytes → Bytes

/-- The setters of the two packet types. -/
structure Setters where
  ipv4 : Ipv4Setters
  udp : UdpSetters

/-! ## The headers -/

/-- The length of an IPv4 header, which counts words of four bytes. -/
def ipv4HeaderLen (b : Bytes) : ℕ := 4 * (read 4 4 b).toNat

def ipv4TotalLen (b : Bytes) : ℕ := (read 16 16 b).toNat

def udpLen (b : Bytes) : ℕ := (read 32 16 b).toNat

/-- The number of a protocol; no other than these two is ever written. -/
def IpProtocol.number : IpProtocol → BitVec 8
  | .tcp => 6
  | .udp => 17
  | .other => 255

def IpProtocol.ofNumber (n : BitVec 8) : IpProtocol :=
  if n = 6 then .tcp else if n = 17 then .udp else .other

/-- The buffer holds an IPv4 packet of the length that its header says. -/
structure Ipv4Fits (b : Bytes) : Prop where
  header : 20 ≤ ipv4HeaderLen b
  total : ipv4HeaderLen b ≤ ipv4TotalLen b
  buffer : ipv4TotalLen b ≤ b.length

/-- The buffer holds a UDP packet of the length that its header says. -/
structure UdpFits (b : Bytes) : Prop where
  header : 8 ≤ udpLen b
  buffer : udpLen b ≤ b.length

/-- Setters of IPv4 write the header's fields. -/
structure Ipv4Setters.Standard (set : Ipv4Setters) : Prop where
  setVersion : ∀ v b, 20 ≤ b.length → set.setVersion v b = write 0 (v.setWidth 4) b
  setHeaderLen : ∀ v b, 20 ≤ b.length →
    set.setHeaderLen v b = write 4 (BitVec.ofNat 4 (v.toNat / 4)) b
  setTotalLen : ∀ v b, 20 ≤ b.length → set.setTotalLen v b = write 16 v b
  setIdent : ∀ v b, 20 ≤ b.length → set.setIdent v b = write 32 v b
  setDontFrag : ∀ v b, 20 ≤ b.length → set.setDontFrag v b = write 49 (.ofBool v) b
  setMoreFrags : ∀ v b, 20 ≤ b.length → set.setMoreFrags v b = write 50 (.ofBool v) b
  setFragOffset : ∀ v b, 20 ≤ b.length →
    set.setFragOffset v b = write 51 (BitVec.ofNat 13 (v.toNat / 8)) b
  setHopLimit : ∀ v b, 20 ≤ b.length → set.setHopLimit v b = write 64 v b
  setNextHeader : ∀ v b, 20 ≤ b.length → set.setNextHeader v b = write 72 v.number b
  setSrcAddr : ∀ v b, 20 ≤ b.length → set.setSrcAddr v b = write 96 v b
  setDstAddr : ∀ v b, 20 ≤ b.length → set.setDstAddr v b = write 128 v b
  fillChecksum : ∀ b, Ipv4Fits b → ∃ c : BitVec 16, set.fillChecksum b = write 80 c b

/-- Setters of UDP write the header's fields, and the payload is what follows it. -/
structure UdpSetters.Standard (set : UdpSetters) : Prop where
  setSrcPort : ∀ v b, 8 ≤ b.length → set.setSrcPort v b = write 0 v b
  setDstPort : ∀ v b, 8 ≤ b.length → set.setDstPort v b = write 16 v b
  setLen : ∀ v b, 8 ≤ b.length → set.setLen v b = write 32 v b
  payloadMut : ∀ b, UdpFits b → set.payloadMut b = some (8, udpLen b)
  fillChecksum : ∀ src dst b, UdpFits b →
    ∃ c : BitVec 16, set.fillChecksum src dst b = write 48 c b

/-- Accessors read the headers' fields, of a packet that its buffer holds. -/
structure Wire.Standard (wire : Wire) : Prop where
  ipv4 : ∀ b, Ipv4Fits b → ∃ ip, wire.ipv4 b = some ip ∧ ip.srcAddr = read 96 32 b ∧
    ip.dstAddr = read 128 32 b ∧ ip.nextHeader = .ofNumber (read 72 8 b) ∧
    ip.payload = (b.take (ipv4TotalLen b)).drop (ipv4HeaderLen b)
  udp : ∀ b, UdpFits b → ∃ udp, wire.udp b = some udp ∧ udp.srcPort = read 0 16 b ∧
    udp.dstPort = read 16 16 b ∧ udp.payload = (b.take (udpLen b)).drop 8

/-- What the program relies on smoltcp for: the layout of the headers, and that `verify_checksum`
accepts what `fill_checksum` wrote. -/
structure Standard (wire : Wire) (set : Setters) : Prop where
  accessors : wire.Standard
  ipv4 : set.ipv4.Standard
  udp : set.udp.Standard
  ipv4_verify : ∀ b ip, Ipv4Fits b → wire.ipv4 (set.ipv4.fillChecksum b) = some ip →
    ip.checksumOk = true
  udp_verify : ∀ src dst b udp, UdpFits b →
    wire.udp (set.udp.fillChecksum src dst b) = some udp → udp.checksumOk src dst = true

/-! ## Headers to run with -/

namespace Layout

/-- The part of a UDP checksum that comes from the addresses, the protocol and the length. -/
def pseudoSum (src dst : BitVec 32) (len : ℕ) : ℕ :=
  src.toNat / 65536 + src.toNat % 65536 + dst.toNat / 65536 + dst.toNat % 65536 + 17 + len

/-- `Ipv4Packet::new_checked`. -/
def ipv4 (b : Bytes) : Option Ipv4Packet :=
  if b.length < 20 ∨ b.length < ipv4HeaderLen b ∨ ipv4TotalLen b < ipv4HeaderLen b ∨
      b.length < ipv4TotalLen b then none
  else some
    { checksumOk := decide (IsValid (wordSum (b.take (ipv4HeaderLen b))))
      srcAddr := read 96 32 b
      dstAddr := read 128 32 b
      nextHeader := .ofNumber (read 72 8 b)
      payload := (b.take (ipv4TotalLen b)).drop (ipv4HeaderLen b) }

/-- `UdpPacket::new_checked`. A checksum of zero is none. -/
def udp (b : Bytes) : Option UdpPacket :=
  if b.length < udpLen b ∨ udpLen b < 8 then none
  else some
    { checksumOk := fun src dst => read 48 16 b = 0#16 ∨
        IsValid (pseudoSum src dst (udpLen b) + wordSum (b.take (udpLen b)))
      srcPort := read 0 16 b
      dstPort := read 16 16 b
      payload := (b.take (udpLen b)).drop 8 }

/-- The headers read; there is no TCP here. -/
def wire : Wire := ⟨ipv4, fun _ => none, udp⟩

/-- `Ipv4Packet::fill_checksum`. -/
def fillIpv4 (b : Bytes) : Bytes :=
  let zeroed := write 80 (0#16) b
  write 80 (checksum (wordSum (zeroed.take (ipv4HeaderLen b)))) zeroed

/-- `UdpPacket::fill_checksum`. A checksum that comes to zero is written as all ones. -/
def fillUdp (src dst : BitVec 32) (b : Bytes) : Bytes :=
  let zeroed := write 48 (0#16) b
  let c := checksum (pseudoSum src dst (udpLen b) + wordSum (zeroed.take (udpLen b)))
  write 48 (if c = 0 then 0xffff#16 else c) zeroed

/-- The headers written. -/
def setters : Setters where
  ipv4 :=
    { setVersion := fun v => write 0 (v.setWidth 4)
      setHeaderLen := fun v => write 4 (BitVec.ofNat 4 (v.toNat / 4))
      setTotalLen := fun v => write 16 v
      setIdent := fun v => write 32 v
      setDontFrag := fun v => write 49 (.ofBool v)
      setMoreFrags := fun v => write 50 (.ofBool v)
      setFragOffset := fun v => write 51 (BitVec.ofNat 13 (v.toNat / 8))
      setHopLimit := fun v => write 64 v
      setNextHeader := fun v => write 72 v.number
      setSrcAddr := fun v => write 96 v
      setDstAddr := fun v => write 128 v
      fillChecksum := fillIpv4 }
  udp :=
    { setSrcPort := fun v => write 0 v
      setDstPort := fun v => write 16 v
      setLen := fun v => write 32 v
      payloadMut := fun b => if 8 ≤ udpLen b ∧ udpLen b ≤ b.length then some (8, udpLen b) else none
      fillChecksum := fillUdp }

theorem wire_standard : wire.Standard where
  ipv4 b h := by
    have := h.header
    have := h.total
    have := h.buffer
    exact ⟨_, if_neg (by omega), rfl, rfl, rfl, rfl⟩
  udp b h := by
    have := h.header
    have := h.buffer
    exact ⟨_, if_neg (by omega), rfl, rfl, rfl⟩

theorem fillIpv4_verifies {b : Bytes} {ip : Ipv4Packet} (h : Ipv4Fits b)
    (hip : ipv4 (fillIpv4 b) = some ip) : ip.checksumOk = true := by
  have hlen : ipv4HeaderLen (fillIpv4 b) = ipv4HeaderLen b := by
    rw [ipv4HeaderLen, fillIpv4, read_write_of_disjoint (by omega),
      read_write_of_disjoint (by omega), ipv4HeaderLen]
  rw [ipv4] at hip
  split at hip
  · cases hip
  · cases hip
    have := h.header
    have := h.total
    have := h.buffer
    rw [hlen, decide_eq_true_eq, fillIpv4]
    -- the header's sixth word
    rw [show (80 : ℕ) = 16 * 5 by rfl, wordSum_take_write _ (by omega) (by omega)]
    exact isValid_add_checksum _

theorem fillUdp_verifies {src dst : BitVec 32} {b : Bytes} {u : UdpPacket} (h : UdpFits b)
    (hu : udp (fillUdp src dst b) = some u) : u.checksumOk src dst = true := by
  have hlen : udpLen (fillUdp src dst b) = udpLen b := by
    rw [udpLen, fillUdp, read_write_of_disjoint (by omega), read_write_of_disjoint (by omega),
      udpLen]
  rw [udp] at hu
  split at hu
  · cases hu
  · cases hu
    have := h.header
    have := h.buffer
    rw [hlen, decide_eq_true_eq, fillUdp]
    refine Or.inr ?_
    -- the fourth word
    rw [show (48 : ℕ) = 16 * 3 by rfl, wordSum_take_write _ (by omega) (by omega),
      ← Nat.add_assoc]
    split
    · next hc => exact isValid_add_ones hc
    · exact isValid_add_checksum _

theorem standard : Standard wire setters where
  accessors := wire_standard
  ipv4 :=
    { setVersion := fun _ _ _ => rfl
      setHeaderLen := fun _ _ _ => rfl
      setTotalLen := fun _ _ _ => rfl
      setIdent := fun _ _ _ => rfl
      setDontFrag := fun _ _ _ => rfl
      setMoreFrags := fun _ _ _ => rfl
      setFragOffset := fun _ _ _ => rfl
      setHopLimit := fun _ _ _ => rfl
      setNextHeader := fun _ _ _ => rfl
      setSrcAddr := fun _ _ _ => rfl
      setDstAddr := fun _ _ _ => rfl
      fillChecksum := fun _ _ => ⟨_, write_write_self⟩ }
  udp :=
    { setSrcPort := fun _ _ _ => rfl
      setDstPort := fun _ _ _ => rfl
      setLen := fun _ _ _ => rfl
      payloadMut := fun _ h => if_pos ⟨h.header, h.buffer⟩
      fillChecksum := fun _ _ _ _ => ⟨_, write_write_self⟩ }
  ipv4_verify _ _ h hip := fillIpv4_verifies h hip
  udp_verify _ _ _ _ h hu := fillUdp_verifies h hu

end Layout

end LiosTunnel
