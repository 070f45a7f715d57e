import LiosTunnel.Error
import LiosTunnel.Net.Headers

/-!
# DNS replies

`dns/mod.rs`: the packet that carries an answer back to the device, and what is sent in place of an
answer that does not fit.

* `truncateDnsReply`: the header of an answer, as `IsTruncated` says (`isTruncated_of_le`).
* `buildUdpPacket`: the packet; `inspect` reads it back (`inspect_buildUdpPacket`).
-/

namespace LiosTunnel.Dns

open BitField

/-! ## Truncated replies -/

/-- The DNS header's fixed layout. -/
def DNS_HEADER_LEN : ℕ := 12

/-- The byte `QR(1) Opcode(4) AA(1) TC(1) RD(1)`. -/
def DNS_FLAGS_BYTE : ℕ := 2

def DNS_TC_BIT : UInt8 := 0x02

/-- The first bytes of an answer, as many as a header has. -/
def headerOf (answer : Bytes) : Bytes :=
  if DNS_HEADER_LEN ≤ answer.length then answer.take DNS_HEADER_LEN
  else answer ++ List.replicate (DNS_HEADER_LEN - answer.length) 0

/-- `truncate_dns_reply`. -/
def truncateDnsReply (answer : Bytes) : Bytes :=
  let header := (headerOf answer).modify DNS_FLAGS_BYTE (· ||| DNS_TC_BIT)
  header.take 4 ++ List.replicate (DNS_HEADER_LEN - 4) 0

/-- The reply is the answer's ID and flags with TC set, and four counts of zero. -/
structure IsTruncated (answer reply : Bytes) : Prop where
  length : reply.length = 12
  id : reply.take 2 = answer.take 2
  flags : reply.getD 2 0 = answer.getD 2 0 ||| 0x02 ∧ reply.getD 3 0 = answer.getD 3 0
  counts : reply.drop 4 = List.replicate 8 0

theorem length_headerOf (answer : Bytes) : (headerOf answer).length = DNS_HEADER_LEN := by
  rw [headerOf]
  split
  · rw [List.length_take]
    omega
  · rw [List.length_append, List.length_replicate]
    omega

/-- Whatever it is given, the reply is a header. -/
@[simp] theorem length_truncateDnsReply (answer : Bytes) :
    (truncateDnsReply answer).length = 12 := by
  rw [truncateDnsReply, List.length_append, List.length_take, List.length_modify, length_headerOf]
  rfl

/-- An answer with a header is truncated to it. -/
theorem isTruncated_of_le {answer : Bytes} (h : 12 ≤ answer.length) :
    IsTruncated answer (truncateDnsReply answer) := by
  match answer, h with
  | i₁ :: i₂ :: f₁ :: f₂ :: rest, h =>
    have heq : truncateDnsReply (i₁ :: i₂ :: f₁ :: f₂ :: rest) =
        [i₁, i₂, f₁ ||| 0x02, f₂] ++ List.replicate 8 0 := by
      rw [truncateDnsReply, headerOf, DNS_HEADER_LEN, if_pos h]
      rfl
    rw [heq]
    exact ⟨rfl, rfl, ⟨rfl, rfl⟩, rfl⟩

/-! ## The packet -/

/-- The largest payload `buildUdpPacket` can carry. -/
def MAX_UDP_PAYLOAD : ℕ := 65535 - 20 - 8

variable (set : Setters)

/-- The first block of `build_udp_packet`: the IPv4 header without its checksum. -/
def ipv4Header (src dst : BitVec 32) (total : ℕ) (buf : Bytes) : Bytes :=
  let ip := set.ipv4.setVersion 4 buf
  let ip := set.ipv4.setHeaderLen 20 ip
  let ip := set.ipv4.setTotalLen (.ofNat 16 total) ip
  let ip := set.ipv4.setIdent 0 ip
  let ip := set.ipv4.setDontFrag true ip
  let ip := set.ipv4.setMoreFrags false ip
  let ip := set.ipv4.setFragOffset 0 ip
  let ip := set.ipv4.setHopLimit 64 ip
  let ip := set.ipv4.setNextHeader .udp ip
  let ip := set.ipv4.setSrcAddr src ip
  set.ipv4.setDstAddr dst ip

/-- `copy_from_slice` into part of a buffer; `none` is a panic. -/
def copyFromSlice (part : ℕ × ℕ) (src buf : Bytes) : Option Bytes :=
  if part.2 - part.1 = src.length then some (buf.take part.1 ++ src ++ buf.drop part.2) else none

/-- The second block of `build_udp_packet`: the UDP packet. -/
def udpPacket (src dst : BitVec 32) (srcPort dstPort : BitVec 16) (payload buf : Bytes) :
    Option Bytes := do
  let udp := set.udp.setSrcPort srcPort buf
  let udp := set.udp.setDstPort dstPort udp
  let udp := set.udp.setLen (.ofNat 16 (8 + payload.length)) udp
  let part ← set.udp.payloadMut udp
  let udp ← copyFromSlice part payload udp
  return set.udp.fillChecksum src dst udp

/-- `build_udp_packet`; `none` is a panic. -/
def buildUdpPacket (src dst : SocketAddr) (payload : Bytes) : Option (Except TunnelError Bytes) :=
  match src.ip, dst.ip with
  | .v4 s4, .v4 d4 =>
    if MAX_UDP_PAYLOAD < payload.length then
      some (.error (.dns
        [.lit "DNS answer is too large to synthesise into a single UDP/IP packet"]))
    else do
      let udpLen := 8 + payload.length
      let total := 20 + udpLen
      let buf := ipv4Header set s4 d4 total (List.replicate total 0)
      let udp ← udpPacket set s4 d4 src.port dst.port payload (buf.drop 20)
      return .ok (set.ipv4.fillChecksum (buf.take 20 ++ udp))
  | _, _ => some (.error (.dns [.lit "Phase 0 synthesises IPv4 datagrams only"]))

/-! ## What is read back -/

variable {set} {wire : Wire} {src dst : BitVec 32} {srcPort dstPort : BitVec 16}
  {payload buf : Bytes} {total : ℕ}

theorem ipv4Header_eq (h : set.ipv4.Standard) (hbuf : 20 ≤ buf.length) :
    ipv4Header set src dst total buf =
      (write 128 dst <| write 96 src <| write 72 (17#8) <| write 64 (64#8) <| write 51 (0#13) <|
        write 50 (0#1) <| write 49 (1#1) <| write 32 (0#16) <| write 16 (BitVec.ofNat 16 total) <|
        write 4 (5#4) <| write 0 (4#4) buf) := by
  rw [ipv4Header]
  simp only [h.setVersion, h.setHeaderLen, h.setTotalLen, h.setIdent, h.setDontFrag,
    h.setMoreFrags, h.setFragOffset, h.setHopLimit, h.setNextHeader, h.setSrcAddr, h.setDstAddr,
    length_write, hbuf]
  rfl

/-- The fields of the IPv4 header that are read again. -/
theorem ipv4Header_fields (h : set.ipv4.Standard) (hbuf : 20 ≤ buf.length)
    (htotal : total < 65536) {ip : Bytes} (hip : ip = ipv4Header set src dst total buf) :
    ip.length = buf.length ∧ ipv4HeaderLen ip = 20 ∧ ipv4TotalLen ip = total ∧
      read 72 8 ip = 17#8 ∧ read 96 32 ip = src ∧ read 128 32 ip = dst := by
  rw [ipv4Header_eq h hbuf] at hip
  subst hip
  refine ⟨by simp only [length_write], ?_, ?_, ?_, ?_, ?_⟩
  · rw [ipv4HeaderLen]
    iterate 9 rw [read_write_of_disjoint (by omega)]
    rw [read_write_self (by rw [length_write]; omega)]
    rfl
  · rw [ipv4TotalLen]
    iterate 8 rw [read_write_of_disjoint (by omega)]
    rw [read_write_self (by simp only [length_write]; omega), BitVec.toNat_ofNat]
    omega
  · iterate 2 rw [read_write_of_disjoint (by omega)]
    rw [read_write_self (by simp only [length_write]; omega)]
  · rw [read_write_of_disjoint (by omega), read_write_self (by simp only [length_write]; omega)]
  · rw [read_write_self (by simp only [length_write]; omega)]

variable (src dst srcPort dstPort) in
/-- The UDP packet is built, and read back with its ports and its payload. -/
theorem udpPacket_reads (h : Standard wire set) (hbuf : buf.length = 8 + payload.length)
    (hlen : 8 + payload.length < 65536) :
    ∃ udp u, udpPacket set src dst srcPort dstPort payload buf = some udp ∧
      udp.length = buf.length ∧ wire.udp udp = some u ∧ u.checksumOk src dst = true ∧
      u.srcPort = srcPort ∧ u.dstPort = dstPort ∧ u.payload = payload := by
  have hudp := h.udp
  -- the header, over the buffer
  obtain ⟨head, hhead⟩ : ∃ head, head = write 32 (BitVec.ofNat 16 (8 + payload.length))
      (write 16 dstPort (write 0 srcPort buf)) := ⟨_, rfl⟩
  have hheadLen : head.length = buf.length := by rw [hhead]; simp only [length_write]
  have hheadUdp : udpLen head = 8 + payload.length := by
    rw [hhead, udpLen, read_write_self (by simp only [length_write]; omega), BitVec.toNat_ofNat]
    omega
  have hpart := hudp.payloadMut head ⟨by omega, by omega⟩
  -- the payload after it
  obtain ⟨full, hfull⟩ : ∃ full, full = head.take 8 ++ payload := ⟨_, rfl⟩
  have htake : (head.take 8).length = 8 := by rw [List.length_take]; omega
  have hfullLen : full.length = buf.length := by rw [hfull, List.length_append, htake]; omega
  have hread : ∀ o w, o + w ≤ 64 → read o w full = read o w head := fun o w ho => by
    rw [hfull, read_append (by omega), read_take (by omega)]
  have hcopy : copyFromSlice (8, udpLen head) payload head = some full := by
    rw [copyFromSlice, if_pos (by rw [hheadUdp]; omega), hheadUdp,
      List.drop_eq_nil_of_le (by omega), List.append_nil, hfull]
  have hfits : UdpFits full := by
    have : udpLen full = 8 + payload.length := by
      rw [udpLen, hread 32 16 (by omega)]; exact hheadUdp
    exact ⟨by omega, by omega⟩
  obtain ⟨c, hc⟩ := hudp.fillChecksum src dst full hfits
  have hfilled : udpLen (set.udp.fillChecksum src dst full) = 8 + payload.length := by
    rw [hc, udpLen, read_write_of_disjoint (by omega), hread 32 16 (by omega)]
    exact hheadUdp
  have hfilledLen : (set.udp.fillChecksum src dst full).length = buf.length := by
    rw [hc, length_write, hfullLen]
  obtain ⟨u, hu, hsrc, hdst, hpayload⟩ := h.accessors.udp _
    (show UdpFits (set.udp.fillChecksum src dst full) from ⟨by omega, by omega⟩)
  refine ⟨_, u, ?_, hfilledLen, hu, h.udp_verify src dst full u hfits hu, ?_, ?_, ?_⟩
  · rw [udpPacket]
    simp only [hudp.setSrcPort, hudp.setDstPort, hudp.setLen, length_write,
      show 8 ≤ buf.length by omega, ← hhead, hpart, hcopy, Option.bind_eq_bind, Option.bind_some]
    rfl
  · rw [hsrc, hc, read_write_of_disjoint (by omega), hread 0 16 (by omega), hhead,
      read_write_of_disjoint (by omega), read_write_of_disjoint (by omega),
      read_write_self (by omega)]
  · rw [hdst, hc, read_write_of_disjoint (by omega), hread 16 16 (by omega), hhead,
      read_write_of_disjoint (by omega), read_write_self (by rw [length_write]; omega)]
  · rw [hpayload, hfilled, List.take_of_length_le (by omega), hc, drop_write (by omega), hfull,
      List.drop_left' htake]

variable (src dst srcPort dstPort) in
/-- A payload that fits in a packet is carried by one, which `inspect` reads back. -/
theorem inspect_buildUdpPacket (h : Standard wire set) (hlen : payload.length ≤ MAX_UDP_PAYLOAD) :
    ∃ packet, buildUdpPacket set ⟨.v4 src, srcPort⟩ ⟨.v4 dst, dstPort⟩ payload = some (.ok packet) ∧
      packet.length = 28 + payload.length ∧
      inspect wire packet = .udp ⟨.v4 src, srcPort⟩ ⟨.v4 dst, dstPort⟩ payload := by
  rw [MAX_UDP_PAYLOAD] at hlen
  obtain ⟨ip, hip⟩ : ∃ ip, ip = ipv4Header set src dst (20 + (8 + payload.length))
      (List.replicate (20 + (8 + payload.length)) 0) := ⟨_, rfl⟩
  obtain ⟨hipLen, hheader, htotal, hproto, hsrc, hdst⟩ :=
    ipv4Header_fields h.ipv4 (by rw [List.length_replicate]; omega) (by omega) hip
  rw [List.length_replicate] at hipLen
  obtain ⟨udp, u, hudp, hudpLen, hu, huOk, huSrc, huDst, huPayload⟩ :=
    udpPacket_reads src dst srcPort dstPort h (show (ip.drop 20).length = 8 + payload.length by
      rw [List.length_drop]; omega) (by omega)
  rw [List.length_drop] at hudpLen
  -- the two put together
  obtain ⟨full, hfull⟩ : ∃ full, full = ip.take 20 ++ udp := ⟨_, rfl⟩
  have htake : (ip.take 20).length = 20 := by rw [List.length_take]; omega
  have hfullLen : full.length = 28 + payload.length := by
    rw [hfull, List.length_append, htake]
    omega
  have hread : ∀ o w, o + w ≤ 160 → read o w full = read o w ip := fun o w ho => by
    rw [hfull, read_append (by omega), read_take (by omega)]
  have hfits : Ipv4Fits full := by
    have h₁ : ipv4HeaderLen full = 20 := by rw [ipv4HeaderLen, hread 4 4 (by omega)]; exact hheader
    have h₂ : ipv4TotalLen full = 20 + (8 + payload.length) := by
      rw [ipv4TotalLen, hread 16 16 (by omega)]
      exact htotal
    exact ⟨by omega, by omega, by omega⟩
  obtain ⟨c, hc⟩ := h.ipv4.fillChecksum full hfits
  obtain ⟨packet, hpacket⟩ : ∃ packet, packet = set.ipv4.fillChecksum full := ⟨_, rfl⟩
  rw [← hpacket] at hc
  have hpacketLen : packet.length = 28 + payload.length := by rw [hc, length_write, hfullLen]
  have hpacketHeader : ipv4HeaderLen packet = 20 := by
    rw [hc, ipv4HeaderLen, read_write_of_disjoint (by omega), hread 4 4 (by omega)]
    exact hheader
  have hpacketTotal : ipv4TotalLen packet = 28 + payload.length := by
    rw [hc, ipv4TotalLen, read_write_of_disjoint (by omega), hread 16 16 (by omega)]
    exact htotal.trans (by omega)
  obtain ⟨p, hp, hpSrc, hpDst, hpProto, hpPayload⟩ := h.accessors.ipv4 packet
    ⟨by omega, by omega, by omega⟩
  have hpOk := h.ipv4_verify full p hfits (hpacket ▸ hp)
  rw [hc, read_write_of_disjoint (by omega), hread 96 32 (by omega), hsrc] at hpSrc
  rw [hc, read_write_of_disjoint (by omega), hread 128 32 (by omega), hdst] at hpDst
  rw [hc, read_write_of_disjoint (by omega), hread 72 8 (by omega), hproto] at hpProto
  rw [hpacketTotal, hpacketHeader, List.take_of_length_le (by omega), hc, drop_write (by omega),
    hfull, List.drop_left' htake] at hpPayload
  refine ⟨packet, ?_, hpacketLen, ?_⟩
  · rw [buildUdpPacket]
    simp only [if_neg (show ¬MAX_UDP_PAYLOAD < payload.length by rw [MAX_UDP_PAYLOAD]; omega),
      ← hip, hudp, Option.bind_eq_bind, Option.bind_some, ← hfull, ← hpacket]
    rfl
  · have hudpProto : p.nextHeader = .udp := hpProto
    rw [inspect, hp]
    simp only [hpOk, hudpProto, hpPayload, hu, hpSrc, hpDst, huOk, huSrc, huDst, huPayload]
    rfl

end LiosTunnel.Dns
