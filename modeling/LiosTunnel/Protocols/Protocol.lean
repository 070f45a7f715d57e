import LiosTunnel.Lib.Runs
import LiosTunnel.Config.Profile

/-!
# Tunnels and their sessions

`protocols/mod.rs`: what every protocol offers, and calls of `connect` and `disconnect` one after
another. A tunnel tells its state, keeps what a session needs and names the address it is connected
to; the three should agree between calls.

* `pickIpv4`: which of a host's addresses is connected to.
* `Tunnel`: the `Protocol` trait, with what a tunnel keeps of a session.
* `Session`, `Tunnel.next`: a tunnel through a list of calls.
* `Tunnel.Truthful`: what should hold between calls.
-/

namespace LiosTunnel.Protocols

open Config

/-- `stats::ConnectionState`. -/
inductive ConnectionState
  | disconnected
  | connecting
  | connected
  | reconnecting
  | failed
  deriving DecidableEq, Repr

/-- `pick_ipv4`. -/
def pickIpv4 (addrs : List SocketAddr) : Except TunnelError SocketAddr :=
  match addrs.find? fun addr => addr.ip.isIpv4 with
  | some addr => .ok addr
  | none =>
    if addrs ≠ [] then
      .error (.protocol [.lit ("host resolved only to IPv6 addresses; Phase 0's route pinning " ++
        "and packet stack are IPv4-only")])
    else .error (.protocol [.lit "host resolved to no addresses"])

/-- The `Protocol` trait of a tunnel `T`, with what it keeps of a session. `N` is what the network
answers during a call of `connect` or `disconnect`, `F` what it answers to one opening of a
stream. -/
structure Tunnel (T N F : Type) where
  new : T
  connect : T → ServerProfile → SecretStore → N → Except TunnelError Unit × T
  disconnect : T → N → Except TunnelError Unit × T
  openTcpStream : T → SocketAddr → F → Except TunnelError Unit
  openDnsStream : T → SocketAddr → F → Except TunnelError Unit
  /-- The state of `stats`. -/
  state : T → ConnectionState
  peerAddr : T → Option SocketAddr
  /-- Everything an open session needs is there. -/
  holds : T → Bool
  /-- Nothing of a session is there, nor the address. -/
  cleared : T → Bool
  notConnected : TunnelError

/-- A call on a tunnel. -/
inductive Call (N : Type)
  | connect (profile : ServerProfile) (store : SecretStore) (net : N)
  | disconnect (net : N)

/-- A tunnel between calls; `ended` after a `connect` that failed or a `disconnect`. -/
structure Session (T : Type) where
  tunnel : T
  ended : Bool

variable {T N F : Type} (p : Tunnel T N F)

def Tunnel.start : Session T := ⟨p.new, false⟩

/-- One call, to its end. -/
def Tunnel.next (s : Session T) : Call N → Option (Session T)
  | .connect profile store net =>
    match p.connect s.tunnel profile store net with
    | (.ok (), t) => some ⟨t, false⟩
    | (.error _, t) => some ⟨t, true⟩
  | .disconnect net => some ⟨(p.disconnect s.tunnel net).2, true⟩

/-- What a tunnel shows is what it has: it says it is connected exactly if it holds a session, and
names an address exactly then; and when a session is over, nothing of it is left and no stream can
be opened. -/
structure Tunnel.Truthful (s : Session T) : Prop where
  state_iff : p.state s.tunnel = .connected ↔ p.holds s.tunnel = true
  peer_iff : p.holds s.tunnel = true ↔ (p.peerAddr s.tunnel).isSome = true
  cleared : s.ended = true → p.cleared s.tunnel = true
  refused : s.ended = true → ∀ dest answer,
    p.openTcpStream s.tunnel dest answer = .error p.notConnected ∧
    p.openDnsStream s.tunnel dest answer = .error p.notConnected

end LiosTunnel.Protocols
