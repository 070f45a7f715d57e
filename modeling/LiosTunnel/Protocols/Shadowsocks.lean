import LiosTunnel.Protocols.Protocol
import LiosTunnel.Helper.Session

/-!
# The Shadowsocks tunnel

`ShadowsocksTunnel` of `shadowsocks.rs`: `prepare`, the probe that proves the credentials, `connect`
and `disconnect`, and one call of `open_flow` with what the semaphore, the clock and the server
answer to it. Time is part of the answers: which of the timeouts fire.

* `prepare`, `openFlow`, `probe`: the fallible parts.
* `ShadowsocksTunnel.connect`, `ShadowsocksTunnel.disconnect`.
* `shadowsocks`: the tunnel as a `Tunnel`.
* `shadowsocks_connect_cases`: what a call of `connect` leaves.
-/

namespace LiosTunnel.Protocols

open Config Helper

/-- `Counters`. -/
structure Counters where
  up : ℕ
  down : ℕ
  active : ℕ
  failed : ℕ
  deriving DecidableEq, Repr

/-- The crate's `ServerConfig`. -/
structure ServerConfig where
  addr : SocketAddr
  password : String
  method : String
  deriving DecidableEq, Repr

/-- The crate's shared `Context`. -/
structure Context where
  deriving DecidableEq, Repr

/-- `ShadowsocksTunnel` but its semaphores and its timeouts. -/
structure ShadowsocksTunnel where
  server : Option ServerConfig
  context : Option Context
  peer : Option SocketAddr
  state : ConnectionState
  counters : Counters
  deriving DecidableEq, Repr

/-! ## One flow -/

/-- How a wait for a permit ends. -/
inductive PermitWait
  | acquired
  | closed
  | timedOut
  deriving DecidableEq, Repr

/-- How a connection to the server ends. -/
inductive RelayConnect
  | connected
  | failed (e : Text)
  | timedOut
  deriving DecidableEq, Repr

/-- What is answered to one call of `open_flow`. -/
structure FlowNet where
  permit : PermitWait
  relay : ServerConfig → Context → SocketAddr → RelayConnect

namespace ShadowsocksTunnel

/-- `counters.failed.fetch_add(1)`. -/
def countFailed (t : ShadowsocksTunnel) : ShadowsocksTunnel :=
  { t with counters := { t.counters with failed := t.counters.failed + 1 } }

/-- `CountingStream::new`, as far as the counters go. -/
def countStream (t : ShadowsocksTunnel) : ShadowsocksTunnel :=
  { t with counters := { t.counters with active := t.counters.active + 1 } }

/-- `CountingStream`'s `Drop`. -/
def dropStream (t : ShadowsocksTunnel) : ShadowsocksTunnel :=
  { t with counters := { t.counters with active := t.counters.active - 1 } }

/-- The beginning of `open_flow`. -/
def session (t : ShadowsocksTunnel) : Except TunnelError (ServerConfig × Context) :=
  match t.server, t.context with
  | some cfg, some ctx => .ok (cfg, ctx)
  | _, _ => .error (.protocol [.lit "not connected"])

/-- `open_flow` after the wait for a permit. -/
def afterPermit (t : ShadowsocksTunnel) : PermitWait → Except TunnelError Unit × ShadowsocksTunnel
  | .acquired => (.ok (), t)
  | .closed => (.error (.protocol [.lit "flow limiter closed"]), t)
  | .timedOut =>
    (.error (.transport [.lit "no flow budget came free in time; the tunnel is saturated"]),
      t.countFailed)

/-- `open_flow` after the connection to the server. -/
def afterRelay (t : ShadowsocksTunnel) : RelayConnect → Except TunnelError Unit × ShadowsocksTunnel
  | .connected => (.ok (), t.countStream)
  | .failed e => (.error (.protocol (.lit "cannot open a relayed stream: " :: e)), t.countFailed)
  | .timedOut =>
    (.error (.transport [.lit "the server did not accept a connection in time"]), t.countFailed)

/-- `ShadowsocksTunnel::open_flow`. -/
def openFlow (t : ShadowsocksTunnel) (dest : SocketAddr) (net : FlowNet) :
    Except TunnelError Unit × ShadowsocksTunnel :=
  match t.session with
  | .error e => (.error e, t)
  | .ok (cfg, ctx) =>
    match t.afterPermit net.permit with
    | (.error e, t) => (.error e, t)
    | (.ok (), t) => t.afterRelay (net.relay cfg ctx dest)

/-! ## The probe -/

/-- Why a TLS handshake through the tunnel fails: rustls refuses what it reads, or nothing came. -/
inductive TlsError
  | rustls (e : Text)
  | io (e : Text)

/-- What is answered to the round trip to one resolver. -/
structure RoundTrip where
  flow : FlowNet
  write : Except Text Unit
  read : Except Text Unit
  tls : Except TlsError Unit
  /-- The resolver's share of the time is enough. -/
  inTime : Bool

/-- What the crates and the build decide. -/
structure Build where
  /-- `ServerName::try_from`. -/
  serverName : String → Except Text Unit
  /-- The `doh` feature. -/
  doh : Bool

/-- `probe_timed_out`. -/
def probeTimedOut : TunnelError :=
  .config "auth"
    [.lit ("nothing came back through the tunnel in time: the cipher or password may " ++
    "be wrong (a Shadowsocks server given either accepts the connection and discards it " ++
    "silently), or the exit cannot reach the resolver this profile names")]

/-- `probe_over_dns`; the stream is dropped at its end. -/
def probeOverDns (t : ShadowsocksTunnel) (dns : SocketAddr) (net : RoundTrip) :
    Except TunnelError Unit × ShadowsocksTunnel :=
  match t.openFlow dns net.flow with
  | (.error e, t) => (.error e, t)
  | (.ok (), t) =>
    (do
      net.write.mapError .transport
      net.read.mapError fun _ => .auth [.lit ("the server accepted the connection but returned " ++
        "nothing; the cipher or password is probably wrong")],
      t.dropStream)

/-- `probe_over_tls`. -/
def probeOverTls (t : ShadowsocksTunnel) (build : Build) (server : IpAddr) (doh : Option DohConfig)
    (net : RoundTrip) : Except TunnelError Unit × ShadowsocksTunnel :=
  if !build.doh then (.error (.unsupported "dns-over-https"), t)
  else
    match doh with
    | none => (.error (.config "dns.https" [.lit "required when dns.mode is `https`"]), t)
    | some doh =>
      match build.serverName doh.sni with
      | .error e =>
        (.error (.config "dns.https.sni" (.lit "is not a valid server name: " :: e)), t)
      | .ok () =>
        match t.openFlow ⟨server, 443⟩ net.flow with
        | (.error e, t) => (.error e, t)
        | (.ok (), t) =>
          match net.tls with
          | .ok () => (.ok (), t.dropStream)
          | .error (.rustls e) =>
            (.error (.dns ([.lit "TLS handshake with the resolver ", .addr server,
              .lit " failed: "] ++ e)), t.dropStream)
          | .error (.io e) =>
            (.error (.auth
              ([.lit ("the server accepted the connection but no TLS handshake with " ++
              "the resolver completed through it (")] ++ e ++
              [.lit "); the cipher or password is probably wrong"])), t.dropStream)

/-- The attempt at one resolver. -/
def probeResolver (t : ShadowsocksTunnel) (build : Build) (dns : DnsConfig) (server : IpAddr)
    (net : RoundTrip) : Except TunnelError Unit × ShadowsocksTunnel :=
  match dns.mode with
  | .tcp => t.probeOverDns ⟨server, 53⟩ net
  | .https => t.probeOverTls build server dns.https net

/-- The loop of `probe_once`, with the error of the last attempt so far: an answer, or the last
error where every attempt failed. An attempt that runs out of time is dropped as it is, which counts
nothing. -/
def probeLoop (build : Build) (dns : DnsConfig) : ShadowsocksTunnel → Option TunnelError →
    List (IpAddr × RoundTrip) → (Except TunnelError Unit ⊕ Option TunnelError) × ShadowsocksTunnel
  | t, last, [] => (.inr last, t)
  | t, _, (server, net) :: rest =>
    if !net.inTime then probeLoop build dns t (some probeTimedOut) rest
    else
      match t.probeResolver build dns server net with
      | (.ok (), t) => (.inl (.ok ()), t)
      | (.error (.config field reason), t) => (.inl (.error (.config field reason)), t)
      | (.error e, t) => probeLoop build dns t (some e) rest

/-- `probe`: `cut` is the number of resolvers that were through when the time for all of them was
up, `none` if it was not. -/
def probe (t : ShadowsocksTunnel) (build : Build) (dns : DnsConfig) (nets : ℕ → RoundTrip)
    (cut : Option ℕ) : Except TunnelError Unit × ShadowsocksTunnel :=
  if dns.servers = [] then (.error (.config "dns.servers" [.lit "must not be empty"]), t)
  else
    let attempts := dns.servers.zipIdx.map fun (server, i) => (server, nets i)
    match cut with
    | none =>
      match probeLoop build dns t none attempts with
      | (.inl answer, t) => (answer, t)
      | (.inr last, t) => (.error (last.getD probeTimedOut), t)
    | some n =>
      match probeLoop build dns t none (attempts.take n) with
      | (.inl answer, t) => (answer, t)
      | (.inr _, t) => (.error probeTimedOut, t)

/-! ## The session -/

/-- `OFFERED`. -/
def OFFERED : List String := ["aes-128-gcm", "aes-256-gcm", "chacha20-ietf-poly1305"]

/-- What the host, the crate and the resolvers answer during one call of `connect`. -/
structure Net where
  build : Build
  /-- `CipherKind::from_str` knows the name. -/
  cipherKind : String → Bool
  fs : FileSystem
  lookupHost : Except Text (List SocketAddr)
  /-- `ServerConfig::new` derives a key. -/
  deriveKey : ServerConfig → Bool
  roundTrips : ℕ → RoundTrip
  cut : Option ℕ

/-- `ShadowsocksTunnel::cipher`. -/
def cipher (net : Net) (name : String) : Except TunnelError Unit :=
  if name ∉ OFFERED then
    .error (.config "auth.method" [.lit "not a cipher this build offers; use one of: ",
      .lit (", ".intercalate OFFERED)])
  else if !net.cipherKind name then .error (.config "auth.method" [.lit "not a known cipher"])
  else .ok ()

/-- `ShadowsocksTunnel::prepare`. -/
def prepare (profile : ServerProfile) (store : SecretStore) (net : Net) :
    Except TunnelError (ServerConfig × Context × SocketAddr) :=
  match profile.protocol with
  | .shadowsocks =>
    match profile.auth with
    | .shadowsocks method password => do
      cipher net method
      let pw ← store.resolve net.fs password
      let candidates ← net.lookupHost.mapError .transport
      let addr ← pickIpv4 candidates
      let cfg : ServerConfig := ⟨addr, pw, method⟩
      if !net.deriveKey cfg then
        .error (.config "auth"
          [.lit "cannot derive an encryption key from this cipher and password"])
      else return (cfg, {}, addr)
    | _ => .error (.config "auth" [.lit "a shadowsocks profile needs shadowsocks credentials"])
  | other => .error (.config "protocol" [.lit "a shadowsocks tunnel cannot carry a ",
      .lit (debugProtocol other), .lit " profile"])

/-- `ShadowsocksTunnel::new`. -/
def new : ShadowsocksTunnel := ⟨none, none, none, .disconnected, ⟨0, 0, 0, 0⟩⟩

/-- `ShadowsocksTunnel::connect`. -/
def connect (t : ShadowsocksTunnel) (profile : ServerProfile) (store : SecretStore) (net : Net) :
    Except TunnelError Unit × ShadowsocksTunnel :=
  let t := { t with state := .connecting }
  match prepare profile store net with
  | .ok (server, context, peer) =>
    let t := { t with server := some server, context := some context, peer := some peer }
    match t.probe net.build profile.dns net.roundTrips net.cut with
    | (.error e, t) =>
      (.error e, { t with server := none, context := none, peer := none, state := .failed })
    | (.ok (), t) => (.ok (), { t with state := .connected })
  | .error e =>
    (.error e, { t with server := none, context := none, peer := none, state := .failed })

/-- `ShadowsocksTunnel::disconnect`. -/
def disconnect (t : ShadowsocksTunnel) : Except TunnelError Unit × ShadowsocksTunnel :=
  (.ok (), { t with server := none, context := none, peer := none, state := .disconnected })

end ShadowsocksTunnel

/-- `impl Protocol for ShadowsocksTunnel`. The two pools of flows differ in whose permit is waited
for. -/
def shadowsocks : Tunnel ShadowsocksTunnel ShadowsocksTunnel.Net FlowNet where
  new := .new
  connect t profile store net := t.connect profile store net
  disconnect t _ := t.disconnect
  openTcpStream t dest answer := (t.openFlow dest answer).1
  openDnsStream t dest answer := (t.openFlow dest answer).1
  state := ShadowsocksTunnel.state
  peerAddr := ShadowsocksTunnel.peer
  holds t := t.server.isSome && t.context.isSome
  cleared t := t.server.isNone && t.context.isNone && t.peer.isNone
  notConnected := .protocol [.lit "not connected"]

/-! ## What changes besides the counters -/

namespace ShadowsocksTunnel

/-- The tunnels differ in their counters alone. -/
def SameSession (t t' : ShadowsocksTunnel) : Prop := ∃ counters, t' = { t with counters }

namespace SameSession

variable {t t₁ t₂ : ShadowsocksTunnel}

@[refl] theorem refl (t : ShadowsocksTunnel) : SameSession t t := ⟨t.counters, rfl⟩

theorem trans (h₁ : SameSession t t₁) (h₂ : SameSession t₁ t₂) : SameSession t t₂ := by
  obtain ⟨c₁, rfl⟩ := h₁
  obtain ⟨c₂, rfl⟩ := h₂
  exact ⟨c₂, rfl⟩

theorem of_eq {α : Type} {a : α} {x : α × ShadowsocksTunnel} (h : SameSession t x.2)
    (hx : x = (a, t₁)) : SameSession t t₁ := by
  rw [hx] at h
  exact h

theorem dropStream (h : SameSession t t₁) : SameSession t t₁.dropStream :=
  h.trans ⟨{ t₁.counters with active := t₁.counters.active - 1 }, rfl⟩

end SameSession

variable (t : ShadowsocksTunnel) (build : Build) (dns : DnsConfig)

theorem afterPermit_same (answer : PermitWait) : SameSession t (t.afterPermit answer).2 := by
  cases answer with
  | acquired => rfl
  | closed => rfl
  | timedOut => exact ⟨{ t.counters with failed := t.counters.failed + 1 }, rfl⟩

theorem afterRelay_same (answer : RelayConnect) : SameSession t (t.afterRelay answer).2 := by
  cases answer with
  | connected => exact ⟨{ t.counters with active := t.counters.active + 1 }, rfl⟩
  | failed e => exact ⟨{ t.counters with failed := t.counters.failed + 1 }, rfl⟩
  | timedOut => exact ⟨{ t.counters with failed := t.counters.failed + 1 }, rfl⟩

theorem openFlow_same (dest : SocketAddr) (net : FlowNet) :
    SameSession t (t.openFlow dest net).2 := by
  rw [openFlow]
  split
  · rfl
  · have hpermit := t.afterPermit_same net.permit
    split
    · next h => exact hpermit.of_eq h
    · next h => exact (hpermit.of_eq h).trans (afterRelay_same _ _)

theorem probeResolver_same (server : IpAddr) (net : RoundTrip) :
    SameSession t (t.probeResolver build dns server net).2 := by
  rw [probeResolver]
  cases dns.mode with
  | tcp =>
    dsimp only
    rw [probeOverDns]
    have hflow := t.openFlow_same ⟨server, 53⟩ net.flow
    split
    · next h => exact hflow.of_eq h
    · next h => exact (hflow.of_eq h).dropStream
  | https =>
    dsimp only
    unfold probeOverTls
    split
    · rfl
    split
    · rfl
    split
    · rfl
    have hflow := t.openFlow_same ⟨server, 443⟩ net.flow
    split
    · next h => exact hflow.of_eq h
    · next h =>
      have hdrop := (hflow.of_eq h).dropStream
      split <;> exact hdrop

theorem probeLoop_same (last : Option TunnelError) (attempts : List (IpAddr × RoundTrip)) :
    SameSession t (probeLoop build dns t last attempts).2 := by
  induction attempts generalizing t last with
  | nil => rfl
  | cons attempt attempts ih =>
    rw [probeLoop]
    split
    · exact ih t _
    · have hone := t.probeResolver_same build dns attempt.1 attempt.2
      split
      · next h => exact hone.of_eq h
      · next h => exact hone.of_eq h
      · next h => exact (hone.of_eq h).trans (ih _ _)

theorem probe_same (nets : ℕ → RoundTrip) (cut : Option ℕ) :
    SameSession t (t.probe build dns nets cut).2 := by
  rw [probe]
  split
  · rfl
  have hloop := t.probeLoop_same build dns none
  cases cut with
  | none =>
    dsimp only
    split
    · next h => exact (hloop _).of_eq h
    · next h => exact (hloop _).of_eq h
  | some n =>
    dsimp only
    split
    · next h => exact (hloop _).of_eq h
    · next h => exact (hloop _).of_eq h

end ShadowsocksTunnel

/-- **What `connect` leaves**: a session with its address, or nothing. -/
theorem shadowsocks_connect_cases (t : ShadowsocksTunnel) (profile : ServerProfile)
    (store : SecretStore) (net : ShadowsocksTunnel.Net) :
    (∃ server context peer counters, t.connect profile store net =
      (.ok (), ⟨some server, some context, some peer, .connected, counters⟩)) ∨
    ∃ e counters,
      t.connect profile store net = (.error e, ⟨none, none, none, .failed, counters⟩) := by
  rw [ShadowsocksTunnel.connect]
  dsimp only
  split
  · next server context peer _ =>
    have hprobe := ShadowsocksTunnel.probe_same (ShadowsocksTunnel.mk (some server) (some context)
      (some peer) .connecting t.counters) net.build profile.dns net.roundTrips net.cut
    split
    · next e t' h =>
      rw [h] at hprobe
      obtain ⟨counters, rfl⟩ := hprobe
      exact Or.inr ⟨e, counters, rfl⟩
    · next t' h =>
      rw [h] at hprobe
      obtain ⟨counters, rfl⟩ := hprobe
      exact Or.inl ⟨server, context, peer, counters, rfl⟩
  · next e _ => exact Or.inr ⟨e, t.counters, rfl⟩

end LiosTunnel.Protocols
