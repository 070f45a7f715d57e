import LiosTunnel.Net.Addr
import LiosTunnel.Net.LocalStream

/-!
# What a packet is

`smoltcp_stack/inspect.rs`: the classification of a bare IPv4 packet. Reading the headers is
smoltcp's wire layer, a parameter here; the order of the checks and what follows from them is the
source's.

* `Wire`: the accessors of smoltcp's packet types.
* `Inspected`, `inspect`: the classification.
-/

namespace LiosTunnel

/-- `IpProtocol`, as far as it is carried. -/
inductive IpProtocol
  | tcp
  | udp
  | other
  deriving DecidableEq, Repr

/-- `Ipv4Packet`, after `new_checked`. -/
structure Ipv4Packet where
  checksumOk : Bool
  srcAddr : BitVec 32
  dstAddr : BitVec 32
  nextHeader : IpProtocol
  payload : Bytes

/-- `TcpPacket`, after `new_checked`. -/
structure TcpPacket where
  checksumOk : BitVec 32 → BitVec 32 → Bool
  srcPort : BitVec 16
  dstPort : BitVec 16
  syn : Bool
  ack : Bool

/-- `UdpPacket`, after `new_checked`. -/
structure UdpPacket where
  checksumOk : BitVec 32 → BitVec 32 → Bool
  srcPort : BitVec 16
  dstPort : BitVec 16
  payload : Bytes

/-- `new_checked` of the three packet types; `none` is an error. -/
structure Wire where
  ipv4 : Bytes → Option Ipv4Packet
  tcp : Bytes → Option TcpPacket
  udp : Bytes → Option UdpPacket

/-- `inspect::Inspected`. -/
inductive Inspected
  | tcpSyn (src dst : SocketAddr)
  | tcpOther (src dst : SocketAddr)
  | udp (src dst : SocketAddr) (payload : Bytes)
  | ignored
  deriving DecidableEq, Repr

/-- `inspect::inspect`. -/
def inspect (wire : Wire) (packet : Bytes) : Inspected :=
  match wire.ipv4 packet with
  | none => .ignored
  | some ip =>
    if !ip.checksumOk then .ignored
    else
      match ip.nextHeader with
      | .tcp =>
        match wire.tcp ip.payload with
        | none => .ignored
        | some tcp =>
          if !tcp.checksumOk ip.srcAddr ip.dstAddr then .ignored
          else
            let src : SocketAddr := ⟨.v4 ip.srcAddr, tcp.srcPort⟩
            let dst : SocketAddr := ⟨.v4 ip.dstAddr, tcp.dstPort⟩
            -- a SYN-ACK belongs to a handshake smoltcp is already driving
            if tcp.syn && !tcp.ack then .tcpSyn src dst else .tcpOther src dst
      | .udp =>
        match wire.udp ip.payload with
        | none => .ignored
        | some udp =>
          if !udp.checksumOk ip.srcAddr ip.dstAddr then .ignored
          else .udp ⟨.v4 ip.srcAddr, udp.srcPort⟩ ⟨.v4 ip.dstAddr, udp.dstPort⟩ udp.payload
      | .other => .ignored

end LiosTunnel
