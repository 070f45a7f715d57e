import LiosTunnel.Protocols.Protocol
import LiosTunnel.Helper.Session

/-!
# The SSH tunnel

`SshTunnel` of `ssh.rs` as far as its session goes: `connect` and `disconnect`, and the opening of a
channel up to the answer of the server. A wait for a channel permit is part of what the network
answers.

* `SshTunnel.connectInner`, `SshTunnel.connect`, `SshTunnel.disconnect`, `SshTunnel.openChannel`.
* `ssh`: the tunnel as a `Tunnel`.
* `ssh_connect_cases`: what a call of `connect` leaves.
-/

namespace LiosTunnel.Protocols

open Config Helper

/-- What the host, the server and the SSH library answer during one call; a library's errors by
their `Display`. `H` is an authenticated session. -/
structure SshNet (H : Type) where
  lookupHost : Except Text (List SocketAddr)
  /-- `dial`. -/
  dial : Except TunnelError Unit
  /-- `connect_stream`, the host key's check included. -/
  handshake : Except TunnelError H
  /-- What the file system is while the store is asked. -/
  fs : ℕ → FileSystem
  decodeSecretKey : String → Option String → Except Text Unit
  /-- The answer to the credentials: `none` for `Success`, else the methods that are still
  offered. -/
  authenticate : Credentials → Except Text (Option Text)
  /-- The sending of the message that ends a session. -/
  disconnect : Except Text Unit

/-- What the limiter and the server answer to the opening of a channel. -/
structure ChannelNet where
  /-- Whether the limiter is open; it never is closed. -/
  permit : Bool
  open_ : Except Text Unit

variable {H : Type}

/-- `SshTunnel`: the parts of it a session has to do with. -/
structure SshTunnel (H : Type) where
  handle : Option H
  peerAddr : Option SocketAddr
  state : ConnectionState

namespace SshTunnel

/-- `SshTunnel::new`. -/
def new : SshTunnel H := ⟨none, none, .disconnected⟩

/-- `SshTunnel::connect_inner`. -/
def connectInner (profile : ServerProfile) (store : SecretStore) (net : SshNet H) :
    Except TunnelError (H × SocketAddr) := do
  let candidates ← net.lookupHost.mapError fun e => .protocol (.lit "cannot resolve host: " :: e)
  let addr ← pickIpv4 candidates
  net.dial
  let handle ← net.handshake
  let result ←
    match profile.auth with
    | .password password => do
      let pw ← store.resolve (net.fs 0) password
      (net.authenticate (.password pw)).mapError .auth
    | .privateKey privateKey passphrase => do
      let pem ← store.resolve (net.fs 0) privateKey
      let pass ←
        match passphrase with
        | some p => (store.resolve (net.fs 1) p).map some
        | none => .ok none
      (net.decodeSecretKey pem pass).mapError fun e =>
        .auth (.lit "cannot decode private key: " :: e)
      (net.authenticate (.privateKey pem pass)).mapError .auth
    | .presharedKey _ _ => .error (.unsupported "preshared-key authentication")
    | .shadowsocks _ _ => .error (.unsupported "shadowsocks authentication")
  match result with
  | none => return (handle, addr)
  | some remaining =>
    .error (.auth (.lit "server rejected credentials; it still offers: " :: remaining))

/-- `SshTunnel::connect`. -/
def connect (t : SshTunnel H) (profile : ServerProfile) (store : SecretStore) (net : SshNet H) :
    Except TunnelError Unit × SshTunnel H :=
  match profile.protocol with
  | .wireGuard => (.error (.unsupported "wireguard"), t)
  | .shadowsocks => (.error (.unsupported "shadowsocks"), t)
  | .ssh =>
    let t := { t with state := .connecting }
    match connectInner profile store net with
    | .ok (handle, addr) =>
      (.ok (), { t with handle := some handle, peerAddr := some addr, state := .connected })
    | .error e => (.error e, { t with handle := none, peerAddr := none, state := .failed })

/-- `SshTunnel::disconnect`, which leaves `peer_addr` as it is. -/
def disconnect (t : SshTunnel H) (net : SshNet H) : Except TunnelError Unit × SshTunnel H :=
  let result :=
    match t.handle with
    | some _ => net.disconnect.mapError .protocol
    | none => .ok ()
  (result, { t with handle := none, state := .disconnected })

/-- `SshTunnel::open_channel` to a destination by its address. -/
def openChannel (t : SshTunnel H) (dest : SocketAddr) (net : ChannelNet) :
    Except TunnelError Unit := do
  let some _ := t.handle | .error (.protocol [.lit "ssh session is not connected"])
  if !net.permit then .error (.protocol [.lit "channel limiter closed"])
  else
    net.open_.mapError fun e => .protocol ([.lit "cannot open channel to ", .addr dest.ip, .lit ":",
      .lit (toString dest.port.toNat), .lit ": "] ++ e)

end SshTunnel

/-- `impl Protocol for SshTunnel`. The two pools of channels differ in whose permit is waited
for. -/
def ssh : Tunnel (SshTunnel H) (SshNet H) ChannelNet where
  new := .new
  connect t profile store net := t.connect profile store net
  disconnect t net := t.disconnect net
  openTcpStream t dest answer := t.openChannel dest answer
  openDnsStream t dest answer := t.openChannel dest answer
  state := SshTunnel.state
  peerAddr := SshTunnel.peerAddr
  holds t := t.handle.isSome
  cleared t := t.handle.isNone && t.peerAddr.isNone
  notConnected := .protocol [.lit "ssh session is not connected"]

/-- **What `connect` leaves**: the tunnel as it was for a profile of another kind; else a session
with its address, or nothing. -/
theorem ssh_connect_cases (t : SshTunnel H) (profile : ServerProfile) (store : SecretStore)
    (net : SshNet H) :
    (profile.protocol ≠ .ssh ∧ ∃ e, t.connect profile store net = (.error e, t)) ∨
    (profile.protocol = .ssh ∧
      ((∃ handle addr,
        t.connect profile store net = (.ok (), ⟨some handle, some addr, .connected⟩)) ∨
        ∃ e, t.connect profile store net = (.error e, ⟨none, none, .failed⟩))) := by
  rw [SshTunnel.connect]
  cases hkind : profile.protocol with
  | wireGuard => exact Or.inl ⟨ProtocolKind.noConfusion, _, rfl⟩
  | shadowsocks => exact Or.inl ⟨ProtocolKind.noConfusion, _, rfl⟩
  | ssh =>
    refine Or.inr ⟨rfl, ?_⟩
    cases SshTunnel.connectInner profile store net with
    | ok session => exact Or.inl ⟨session.1, session.2, rfl⟩
    | error e => exact Or.inr ⟨e, rfl⟩

end LiosTunnel.Protocols
