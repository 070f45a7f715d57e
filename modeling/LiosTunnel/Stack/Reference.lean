import LiosTunnel.Stack.Ingress

/-!
# A socket to run the stack with

A TCP socket and an IPv4 reader with the behaviour the stack's assumptions describe, to instantiate
them. Segments are taken to be in order and within the window, initial sequence numbers are zero
and there are no timers.

* `Sock`, `Reference.api`: the socket, behind the stack's interface.
* `Reference.wire`: the headers.
* `Segment`, `Reference.ingress`: what a segment does to the sockets.
-/

namespace LiosTunnel.Stack.Reference

/-- A TCP socket. -/
structure Sock where
  state : TcpState
  localEnd : Option SocketAddr
  remoteEnd : Option SocketAddr
  capacity : ℕ
  timeout : Option ℕ
  /-- Received and not yet taken. -/
  rx : Bytes
  /-- Accepted for sending and not yet acknowledged. -/
  tx : Bytes
  /-- How much was acknowledged. -/
  una : ℕ
  deriving DecidableEq

namespace Sock

variable (sk : Sock)

def maySend : Bool := sk.state == .established || sk.state == .closeWait

def mayRecv : Bool :=
  sk.state == .established || sk.state == .finWait1 || sk.state == .finWait2 || !sk.rx.isEmpty

def isActive : Bool := sk.state != .closed && sk.state != .timeWait && sk.state != .listen

def listen (dst : SocketAddr) : Option Sock :=
  if dst.port = 0 ∨ sk.state ≠ .closed then none
  else some { sk with state := .listen, localEnd := some dst, remoteEnd := none }

def sendSlice (data : Bytes) : Option (ℕ × Sock) :=
  if sk.maySend then
    let n := min data.length (sk.capacity - sk.tx.length)
    some (n, { sk with tx := sk.tx ++ data.take n })
  else none

def close : Sock :=
  match sk.state with
  | .listen | .synSent => { sk with state := .closed }
  | .synReceived | .established => { sk with state := .finWait1 }
  | .closeWait => { sk with state := .lastAck }
  | _ => sk

end Sock

/-- The socket behind the interface the stack uses. -/
def api : TcpApi Sock where
  new capacity := ⟨.closed, none, none, capacity, none, [], [], 0⟩
  listen := Sock.listen
  setTimeout sk timeout := { sk with timeout := timeout }
  state := Sock.state
  isActive := Sock.isActive
  canSend sk := sk.maySend && decide (sk.tx.length < sk.capacity)
  maySend := Sock.maySend
  canRecv sk := !sk.rx.isEmpty
  mayRecv := Sock.mayRecv
  sendSlice := Sock.sendSlice
  recvData sk := if sk.mayRecv then some sk.rx else none
  recvAdvance sk n := { sk with rx := sk.rx.drop n }
  close := Sock.close
  abort sk := { sk with state := .closed }
  sendQueue sk := sk.tx.length
  remoteEndpoint := Sock.remoteEnd
  localEndpoint := Sock.localEnd
  recvBuffer := Sock.rx

/-! ## The headers -/

/-- Two bytes, the first one high. -/
def be16 (p : Bytes) (i : ℕ) : ℕ := (p.getD i 0).toNat * 256 + (p.getD (i + 1) 0).toNat

/-- The sum of the 16-bit words. -/
def wordSum : Bytes → ℕ
  | [] => 0
  | [a] => a.toNat * 256
  | a :: b :: p => a.toNat * 256 + b.toNat + wordSum p

/-- The ones' complement sum of data with its checksum has all bits set. -/
def checks (sum : ℕ) : Bool := sum != 0 && sum % 65535 == 0

def addrAt (p : Bytes) (i : ℕ) : BitVec 32 :=
  .ofNat 32 (be16 p i * 65536 + be16 p (i + 2))

/-- The part of a checksum that comes from the addresses and the protocol. -/
def pseudoSum (src dst : BitVec 32) (protocol length : ℕ) : ℕ :=
  src.toNat / 65536 + src.toNat % 65536 + dst.toNat / 65536 + dst.toNat % 65536 + protocol + length

/-- `Ipv4Packet::new_checked`. -/
def ipv4 (p : Bytes) : Option Ipv4Packet :=
  let header := (p.getD 0 0).toNat % 16 * 4
  let total := be16 p 2
  if p.length < 20 ∨ header < 20 ∨ total < header ∨ p.length < total then none
  else some {
    checksumOk := checks (wordSum (p.take header))
    srcAddr := addrAt p 12
    dstAddr := addrAt p 16
    nextHeader := if p.getD 9 0 = 6 then .tcp else if p.getD 9 0 = 17 then .udp else .other
    payload := (p.take total).drop header }

/-- `TcpPacket::new_checked`. -/
def tcp (p : Bytes) : Option TcpPacket :=
  let header := (p.getD 12 0).toNat / 16 * 4
  if p.length < 20 ∨ header < 20 ∨ p.length < header then none
  else some {
    checksumOk := fun src dst => checks (pseudoSum src dst 6 p.length + wordSum p)
    srcPort := .ofNat 16 (be16 p 0)
    dstPort := .ofNat 16 (be16 p 2)
    syn := (p.getD 13 0).toNat.testBit 1
    ack := (p.getD 13 0).toNat.testBit 4 }

/-- `UdpPacket::new_checked`. -/
def udp (p : Bytes) : Option UdpPacket :=
  if p.length < 8 ∨ be16 p 4 < 8 ∨ p.length < be16 p 4 then none
  else some {
    checksumOk := fun src dst => be16 p 6 == 0 ||
      checks (pseudoSum src dst 17 (be16 p 4) + wordSum (p.take (be16 p 4)))
    srcPort := .ofNat 16 (be16 p 0)
    dstPort := .ofNat 16 (be16 p 2)
    payload := (p.take (be16 p 4)).drop 8 }

def wire : Wire := ⟨ipv4, tcp, udp⟩

/-! ## Segments -/

/-- What a socket reads of a segment; `syn` is a SYN without ACK. -/
structure Segment where
  src : SocketAddr
  dst : SocketAddr
  syn : Bool
  ack : Bool
  rst : Bool
  fin : Bool
  ackNumber : ℕ
  payload : Bytes
  deriving DecidableEq

/-- The segment of a packet that `inspect` takes for TCP. -/
def segment (packet : Bytes) : Option Segment :=
  let body := (ipv4 packet).elim [] Ipv4Packet.payload
  let flags := (body.getD 13 0).toNat
  let of (src dst : SocketAddr) (syn : Bool) : Segment :=
    { src := src
      dst := dst
      syn := syn
      ack := !syn && flags.testBit 4
      rst := !syn && flags.testBit 2
      fin := flags.testBit 0
      ackNumber := be16 body 8 * 65536 + be16 body 10
      payload := body.drop ((body.getD 12 0).toNat / 16 * 4) }
  match inspect wire packet with
  | .tcpSyn src dst => some (of src dst true)
  | .tcpOther src dst => some (of src dst false)
  | _ => none

/-- `accepts`. -/
def accepts (sk : Sock) (seg : Segment) : Bool :=
  match sk.state with
  | .closed => false
  | .listen => !seg.ack && !seg.rst && decide (sk.localEnd = some seg.dst)
  | _ => decide (sk.localEnd = some seg.dst ∧ sk.remoteEnd = some seg.src)

/-- The state after a reset. -/
def afterReset : TcpState → TcpState
  | .listen | .synReceived => .listen
  | _ => .closed

/-- The state after a segment with an acknowledgment, which covers a FIN that was sent or not, and
may be a FIN itself. -/
def afterAck (finAcked fin : Bool) : TcpState → TcpState
  | .synReceived | .established => if fin then .closeWait else .established
  | .finWait1 =>
    if finAcked then if fin then .timeWait else .finWait2
    else if fin then .closing else .finWait1
  | .finWait2 => if fin then .timeWait else .finWait2
  | .closing => if finAcked then .timeWait else .closing
  | .lastAck => if finAcked then .closed else .lastAck
  | state => state

/-- States in which the data of a segment is taken in. -/
def takesData : TcpState → Bool
  | .synReceived | .established | .finWait1 | .finWait2 => true
  | _ => false

/-- `process`, for a segment that the socket accepts. -/
def process (sk : Sock) (seg : Segment) : Sock :=
  if seg.rst then { sk with state := afterReset sk.state, remoteEnd := none }
  else if sk.state = .listen then
    if seg.syn then { sk with state := .synReceived, remoteEnd := some seg.src } else sk
  else if seg.syn || !seg.ack then sk
  else
    let acked := seg.ackNumber - sk.una
    { sk with
      state := afterAck (decide (sk.tx.length < acked)) seg.fin sk.state
      rx := if takesData sk.state then sk.rx ++ seg.payload else sk.rx
      tx := sk.tx.drop acked
      una := max sk.una seg.ackNumber }

/-- The sockets' side of a poll. -/
def ingress : Ingress Sock where
  accepts sk packet := (segment packet).any (accepts sk)
  process sk packet := (segment packet).elim sk (process sk)

/-- A poll without timers. -/
def poll : Poll Sock := ingress.poll (fun _ sk => sk) []

/-- A poll that ends TIME-WAIT: the socket is reset, and its buffers are cleared. -/
def expiry : Poll Sock :=
  ingress.poll (fun _ sk => if sk.state = .timeWait then
    { sk with state := .closed, rx := [], tx := [] } else sk) []

/-! ## Packets -/

/-- The low 16 bits, high byte first. -/
def bytes16 (n : ℕ) : Bytes := [.ofNat (n / 256), .ofNat n]

def bytes32 (n : ℕ) : Bytes := bytes16 (n / 65536) ++ bytes16 n

/-- The checksum of data whose words, without it, have this sum. -/
def checksum (sum : ℕ) : Bytes := bytes16 (65535 - sum % 65535)

/-- A packet with a TCP segment. -/
def tcpPacket (src dst : BitVec 32 × BitVec 16) (flags : UInt8) (ackNumber : ℕ)
    (payload : Bytes) : Bytes :=
  let ports := bytes16 src.2.toNat ++ bytes16 dst.2.toNat
  let front := ports ++ bytes32 0 ++ bytes32 ackNumber ++ [80, flags] ++ bytes16 65535
  let sum := pseudoSum src.1 dst.1 6 (20 + payload.length) + wordSum front + wordSum payload
  let segment := front ++ checksum sum ++ bytes16 0 ++ payload
  let addrs := bytes32 src.1.toNat ++ bytes32 dst.1.toNat
  let head := [69, 0] ++ bytes16 (20 + segment.length) ++ bytes32 0 ++ [64, 6]
  head ++ checksum (wordSum head + wordSum addrs) ++ addrs ++ segment

/-! ## Connections -/

def cfg : StackConfig := ⟨65536, 32⟩

/-- An application. -/
def app : BitVec 32 × BitVec 16 := (0x0a5a0002#32, 51234#16)

/-- Another one, on the same device. -/
def other : BitVec 32 × BitVec 16 := (0x0a5a0002#32, 51235#16)

/-- Where they connect to. -/
def web : BitVec 32 × BitVec 16 := (0x5db8d822#32, 443#16)

/-- Either of them, as the stack knows it. -/
def endOf (e : BitVec 32 × BitVec 16) : SocketAddr := ⟨.v4 e.1, e.2⟩

/-- The FIN of a socket that was closed, once all it has to send is acknowledged. -/
def finOf (sk : Sock) : Option Bytes :=
  if sk.state.finSent && sk.tx.isEmpty then
    match sk.localEnd, sk.remoteEnd with
    | some ⟨.v4 here, port⟩, some ⟨.v4 there, port'⟩ =>
      some (tcpPacket (here, port) (there, port') 0x11 0 [])
    | _, _ => none
  else none

/-- A poll that transmits the FINs. -/
def sending : Poll Sock where
  run rx set :=
    let (set, tx) := poll.run rx set
    (set, tx ++ set.filterMap fun sk => sk.bind finOf)
  isSome_get := poll.isSome_get

/-- The SYN of a client. -/
def syn (src : BitVec 32 × BitVec 16) : Bytes := tcpPacket src web 0x02 0 []

/-- A segment that acknowledges everything up to a number. -/
def ack (src : BitVec 32 × BitVec 16) (ackNumber : ℕ) (payload : Bytes) : Bytes :=
  tcpPacket src web 0x10 ackNumber payload

/-- The same, with the end of what the client sends. -/
def fin (src : BitVec 32 × BitVec 16) (ackNumber : ℕ) (payload : Bytes) : Bytes :=
  tcpPacket src web 0x11 ackNumber payload

/-- The reset of a client. -/
def rst (src : BitVec 32 × BitVec 16) : Bytes := tcpPacket src web 0x04 0 []

/-- A connection is opened, a step at a time. -/
def handshake : List (Event Sock) :=
  [.ingest (syn app)] ++ Loop.stepEvents 10000 poll ++
    [.ingest (ack app 1 [])] ++ Loop.stepEvents 20000 poll

/-- Where a run leads from the start, if it fits. -/
abbrev runs (cfg : StackConfig) (es : List (Event Sock)) : Option (Loop Sock) :=
  Runs.run (Loop.next wire api) (.start cfg) es

theorem isSome_runs_handshake : (runs cfg handshake).isSome = true := by decide +kernel

/-- The events of `step` up to and including `pump_inbound`. -/
def pumped (now : ℕ) : List (Event Sock) :=
  [.begin now, .pass, .pass, .poll poll, .pass, .pass, .pass]

end LiosTunnel.Stack.Reference
