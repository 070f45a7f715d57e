import LiosTunnel.Helper.Session

/-!
# One client's protocol state

`Session` of `dispatch.rs`: a line comes in, lines go out, and what needs privileges is described by
an `Action`. A connect passes the gate of `Helper.Session` before it becomes one.

* `Session.handle` and the reports of what became of an action.
* `Session.handle_start`: when a line asks for a tunnel.
* `start_of_handle`: what the gate has made sure of by then.
-/

namespace LiosTunnel.Helper

open Config Dto

/-- `Action`. -/
inductive Action
  | none
  | start (id : ℕ) (authorized : Authorized)
  | stopTunnel
  deriving DecidableEq

/-- `Session`. -/
structure Session where
  greeted : Bool
  connected : Bool
  callerUid : ℕ
  deriving DecidableEq, Repr

/-- `request_id`. -/
def requestId : Request → ℕ
  | .hello id _ | .connect id _ | .disconnect id | .getStatus id => id

namespace Session

/-- `Session::new`. -/
def new (callerUid : ℕ) : Session := ⟨false, false, callerUid⟩

/-- `resume_connected`. -/
def resumeConnected (sess : Session) : Session := { sess with connected := true }

/-- `state_event`. -/
def stateEvent (sess : Session) : Line :=
  .state (if sess.connected then "Connected" else "Disconnected")

/-- `connect_succeeded`. -/
def connectSucceeded (sess : Session) (id : ℕ) : List Line × Session :=
  let sess := { sess with connected := true }
  ([.ack id, sess.stateEvent], sess)

/-- The kind that `connect_failed` reports. -/
def errorKind : StartError → ErrorKind
  | .badProfile _ | .badRouteMode _ | .badTunAddress | .envSecretNotAllowed => .badRequest
  | .secretNotPermitted _ => .secretNotPermitted
  | .tunnel (.auth _) => .authFailed
  | .tunnel (.config _ _) => .badRequest
  | .tunnel _ => .internal

/-- `connect_failed`. -/
def connectFailed (sess : Session) (id : ℕ) (e : StartError) : List Line × Session :=
  ([.error id (errorKind e) e.display], { sess with connected := false })

/-- `tunnel_stopped`. -/
def tunnelStopped (sess : Session) : List Line × Session :=
  let sess := { sess with connected := false }
  ([sess.stateEvent], sess)

/-- The refusal of the greeting gate. -/
def expectedHello (id : ℕ) : Line := .error id .badRequest [.lit "expected hello first"]

/-- `Session::handle`; the files are opened in the gate alone. -/
def handle (parsers : Parsers) (fs : ℕ → FileSystem) (sess : Session) (line : String) :
    List Line × Action × Session :=
  match parsers.request line with
  | .none => ([.error 0 .badRequest [.lit "malformed request"]], .none, sess)
  | some (.hello id protocolVersion) =>
    if protocolVersion ≠ PROTOCOL_VERSION then
      ([.error id .versionMismatch [.lit "helper speaks protocol ",
        .lit (toString PROTOCOL_VERSION), .lit ", client speaks ", .lit (toString protocolVersion),
        .lit "; reinstall the helper"]], .none, sess)
    else ([.ack id], .none, { sess with greeted := true })
  | some req =>
    if !sess.greeted then ([expectedHello (requestId req)], .none, sess)
    else
      match req with
      -- handled above
      | .hello _ _ => ([], .none, sess)
      | .getStatus id => ([.ack id, sess.stateEvent], .none, sess)
      | .disconnect id =>
        if !sess.connected then
          ([.error id .notConnected [.lit "no tunnel is running"]], .none, sess)
        else
          let sess := { sess with connected := false }
          ([.ack id, sess.stateEvent], .stopTunnel, sess)
      | .connect id params =>
        if sess.connected then
          ([.error id .alreadyConnected
            [.lit "a tunnel is already running; there is one routing table"]], .none, sess)
        else
          match authorizeParams parsers fs params sess.callerUid with
          | .ok authorized => ([], .start id authorized, sess)
          | .error e =>
            let (lines, sess) := sess.connectFailed id e
            (lines, .none, sess)

variable {parsers : Parsers} {fs : ℕ → FileSystem} {sess sess' : Session} {line : String}
  {lines : List Line}

theorem handle_eta : sess.handle parsers fs line = ((sess.handle parsers fs line).1,
    (sess.handle parsers fs line).2.1, (sess.handle parsers fs line).2.2) := rfl

/-- What a line can do, case by case. -/
@[elab_as_elim]
theorem handle_elim {motive : List Line → Action → Session → Prop}
    (malformed : parsers.request line = none →
      motive [.error 0 .badRequest [.lit "malformed request"]] .none sess)
    (mismatch : ∀ id v, parsers.request line = some (.hello id v) → v ≠ PROTOCOL_VERSION →
      motive [.error id .versionMismatch [.lit "helper speaks protocol ",
        .lit (toString PROTOCOL_VERSION), .lit ", client speaks ", .lit (toString v),
        .lit "; reinstall the helper"]] .none sess)
    (hello : ∀ id, parsers.request line = some (.hello id PROTOCOL_VERSION) →
      motive [.ack id] .none { sess with greeted := true })
    (refused : ∀ req, parsers.request line = some req → (∀ id v, req ≠ .hello id v) →
      sess.greeted = false → motive [expectedHello (requestId req)] .none sess)
    (status : ∀ id, parsers.request line = some (.getStatus id) → sess.greeted = true →
      motive [.ack id, sess.stateEvent] .none sess)
    (notConnected : ∀ id, parsers.request line = some (.disconnect id) → sess.greeted = true →
      sess.connected = false →
        motive [.error id .notConnected [.lit "no tunnel is running"]] .none sess)
    (disconnect : ∀ id, parsers.request line = some (.disconnect id) → sess.greeted = true →
      sess.connected = true → motive [.ack id, .state "Disconnected"] .stopTunnel
        { sess with connected := false })
    (alreadyConnected : ∀ id params, parsers.request line = some (.connect id params) →
      sess.greeted = true → sess.connected = true → motive [.error id .alreadyConnected
        [.lit "a tunnel is already running; there is one routing table"]] .none sess)
    (start : ∀ id params authorized, parsers.request line = some (.connect id params) →
      sess.greeted = true → sess.connected = false →
        authorizeParams parsers fs params sess.callerUid = .ok authorized →
          motive [] (.start id authorized) sess)
    (unauthorized : ∀ id params e, parsers.request line = some (.connect id params) →
      sess.greeted = true → sess.connected = false →
        authorizeParams parsers fs params sess.callerUid = .error e →
          motive [.error id (errorKind e) e.display] .none sess) :
    motive (sess.handle parsers fs line).1 (sess.handle parsers fs line).2.1
      (sess.handle parsers fs line).2.2 := by
  rw [handle]
  split
  · exact malformed ‹_›
  · rename_i id v hreq
    split
    · exact mismatch id v hreq ‹_›
    · rename_i hv
      rw [ne_eq, not_not] at hv
      exact hello id (hv ▸ hreq)
  · rename_i req hnot hreq
    split
    · rename_i hgreeted
      refine refused req hreq (fun id v heq => hnot id v heq) ?_
      rw [Bool.not_eq_true'] at hgreeted
      exact hgreeted
    · rename_i hgreeted
      rw [Bool.not_eq_true', Bool.not_eq_false] at hgreeted
      split
      · rename_i id v
        exact absurd rfl (hnot id v)
      · exact status _ hreq hgreeted
      · split
        · rename_i hconnected
          rw [Bool.not_eq_true'] at hconnected
          exact notConnected _ hreq hgreeted hconnected
        · rename_i hconnected
          rw [Bool.not_eq_true', Bool.not_eq_false] at hconnected
          exact disconnect _ hreq hgreeted hconnected
      · split
        · exact alreadyConnected _ _ hreq hgreeted ‹_›
        · rename_i hconnected
          rw [Bool.not_eq_true] at hconnected
          split
          · exact start _ _ _ hreq hgreeted hconnected ‹_›
          · rename_i e hauth
            have hsame : { sess with connected := false } = sess := by rw [← hconnected]
            have hrefuse := unauthorized _ _ e hreq hgreeted hconnected hauth
            rw [← hsame] at hrefuse
            exact hrefuse

/-- A tunnel is asked for by a connect that passes both gates. -/
theorem handle_start {id : ℕ} {a : Authorized}
    (h : (sess.handle parsers fs line).2.1 = .start id a) :
    sess.greeted = true ∧ sess.connected = false ∧
      ∃ params, parsers.request line = some (.connect id params) ∧
        authorizeParams parsers fs params sess.callerUid = .ok a := by
  revert h
  refine handle_elim (motive := fun _ action _ => action = .start id a → _)
    (fun _ h => (nomatch h)) (fun _ _ _ _ h => (nomatch h)) (fun _ _ h => (nomatch h))
    (fun _ _ _ _ h => (nomatch h)) (fun _ _ _ h => (nomatch h)) (fun _ _ _ _ h => (nomatch h))
    (fun _ _ _ _ h => (nomatch h)) (fun _ _ _ _ _ h => (nomatch h)) ?_
    fun _ _ _ _ _ _ _ h => (nomatch h)
  intro id' params authorized hreq hgreeted hconnected hauth h
  obtain ⟨rfl, rfl⟩ := Action.start.inj h
  exact ⟨hgreeted, hconnected, params, hreq, hauth⟩

@[simp] theorem callerUid_handle :
    (sess.handle parsers fs line).2.2.callerUid = sess.callerUid :=
  handle_elim (motive := fun _ _ session => session.callerUid = sess.callerUid) (fun _ => rfl)
    (fun _ _ _ _ => rfl) (fun _ _ => rfl) (fun _ _ _ _ => rfl) (fun _ _ _ => rfl)
    (fun _ _ _ _ => rfl) (fun _ _ _ _ => rfl) (fun _ _ _ _ _ => rfl) (fun _ _ _ _ _ _ _ => rfl)
    fun _ _ _ _ _ _ _ => rfl

/-- Only a line that stops the tunnel disconnects a session. -/
theorem connected_handle : (sess.handle parsers fs line).2.2.connected =
    (sess.connected && decide ((sess.handle parsers fs line).2.1 ≠ .stopTunnel)) :=
  handle_elim (motive := fun _ action session =>
      session.connected = (sess.connected && decide (action ≠ .stopTunnel)))
    (fun _ => by simp) (fun _ _ _ _ => by simp) (fun _ _ => by simp) (fun _ _ _ _ => by simp)
    (fun _ _ _ => by simp) (fun _ _ _ _ => by simp) (fun _ _ _ _ => by simp)
    (fun _ _ _ _ _ => by simp) (fun _ _ _ _ _ _ _ => by simp) fun _ _ _ _ _ _ _ => by simp

/-- Only a greeting in the helper's version greets a session. -/
theorem greeted_handle : (sess.handle parsers fs line).2.2.greeted = true ↔
    sess.greeted = true ∨ ∃ id, parsers.request line = some (.hello id PROTOCOL_VERSION) := by
  refine handle_elim (motive := fun _ _ session => session.greeted = true ↔ _) (fun hreq => ?_)
    (fun id v hreq hv => ?_) (fun id hreq => ?_) (fun req hreq hnot _ => ?_) (fun id hreq _ => ?_)
    (fun id hreq _ _ => ?_) (fun id hreq _ _ => ?_) (fun id params hreq _ _ => ?_)
    (fun id params a hreq _ _ _ => ?_) fun id params e hreq _ _ _ => ?_
  · simp [hreq]
  · simp [hreq, hv]
  · simp [hreq]
  · have hno : ¬ ∃ id, parsers.request line = some (.hello id PROTOCOL_VERSION) := by
      rintro ⟨id, h⟩
      rw [hreq] at h
      exact hnot id _ (Option.some.inj h)
    simp [hno]
  all_goals simp [hreq]

/-- Connected is what a connected session is told that asks. -/
theorem getStatus_of_connected (h : Line.state "Connected" ∈ (sess.handle parsers fs line).1) :
    sess.greeted = true ∧ sess.connected = true ∧
      ∃ id, parsers.request line = some (.getStatus id) ∧
        (sess.handle parsers fs line).1 = [.ack id, .state "Connected"] := by
  revert h
  refine handle_elim (motive := fun lines _ _ => Line.state "Connected" ∈ lines →
      sess.greeted = true ∧ sess.connected = true ∧
        ∃ id, parsers.request line = some (.getStatus id) ∧ lines = [.ack id, .state "Connected"])
    (fun _ h => ?_) (fun _ _ _ _ h => ?_) (fun _ _ h => ?_) (fun _ _ _ _ h => ?_)
    (fun id hreq hgreeted h => ?_) (fun _ _ _ _ h => ?_) (fun _ _ _ _ h => ?_)
    (fun _ _ _ _ _ h => ?_) (fun _ _ _ _ _ _ _ h => ?_) fun _ _ _ _ _ _ _ h => ?_
  case refine_5 =>
    cases hconnected : sess.connected with
    | true => exact ⟨hgreeted, rfl, id, hreq, by simp [stateEvent, hconnected]⟩
    | false => simp [stateEvent, hconnected] at h
  all_goals simp [expectedHello] at h

/-- A session that is connected says so when asked. -/
theorem handle_getStatus {id : ℕ} (hreq : parsers.request line = some (.getStatus id))
    (hgreeted : sess.greeted = true) :
    sess.handle parsers fs line = ([.ack id, sess.stateEvent], .none, sess) := by
  simp [handle, hreq, hgreeted]

/-- No statistics are sent in reply. -/
theorem stats_notMem_handle (snapshot : StatsSnapshot) :
    Line.stats snapshot ∉ (sess.handle parsers fs line).1 :=
  handle_elim (motive := fun lines _ _ => Line.stats snapshot ∉ lines) (fun _ => by simp)
    (fun _ _ _ _ => by simp) (fun _ _ => by simp) (fun _ _ _ _ => by simp [expectedHello])
    (fun _ _ _ => by simp [stateEvent]) (fun _ _ _ _ => by simp) (fun _ _ _ _ => by simp)
    (fun _ _ _ _ _ => by simp) (fun _ _ _ _ _ _ _ => by simp) fun _ _ _ _ _ _ _ => by simp

/-- A core error is not worded like the refusal of the greeting gate. -/
theorem tunnel_ne_expectedHello (e : TunnelError) (id id' : ℕ) :
    Line.error id (errorKind (.tunnel e)) (StartError.tunnel e).display ≠ expectedHello id' := by
  cases e <;> simp [errorKind, StartError.display, TunnelError.display, expectedHello]

theorem parseRouteMode_ne_expectedHello {parse : String → Except Text IpNet} {routeMode : String}
    {cidrs : List String} {captureDns : Bool} {e : StartError}
    (h : parseRouteMode parse routeMode cidrs captureDns = .error e) (id id' : ℕ) :
    Line.error id (errorKind e) e.display ≠ expectedHello id' := by
  rw [parseRouteMode] at h
  split at h
  · obtain h | ⟨parsed, -, h⟩ := bind_eq_error h
    · obtain ⟨c, -, hc⟩ := mapM_eq_error h
      obtain ⟨_, -, rfl⟩ := mapError_eq_error hc
      simp [StartError.display, expectedHello]
    · split at h
      · obtain rfl := Except.error.inj h
        simp [StartError.display, expectedHello]
      · obtain h | ⟨_, -, h⟩ := bind_eq_error h
        · obtain ⟨e, -, rfl⟩ := mapError_eq_error h
          exact tunnel_ne_expectedHello e id id'
        · split at h
          · obtain rfl := Except.error.inj h
            simp [StartError.display, expectedHello]
          · cases h
  · split at h
    · cases h
    · obtain rfl := Except.error.inj h
      simp [StartError.display, expectedHello]

theorem resolveSecrets_ne_expectedHello {uid : ℕ} {rs : List SecretRef} {e : StartError}
    (h : resolveSecrets uid fs rs = .error e) (id id' : ℕ) :
    Line.error id (errorKind e) e.display ≠ expectedHello id' := by
  induction rs generalizing fs with
  | nil => cases h
  | cons r rs ih =>
    cases r with
    | env var =>
      obtain rfl := Except.error.inj h
      simp [StartError.display, expectedHello]
    | file path =>
      obtain h | ⟨body, -, h⟩ := bind_eq_error h
      · obtain ⟨e, -, rfl⟩ := mapError_eq_error h
        simp [errorKind, expectedHello]
      · obtain h | ⟨resolved, -, h⟩ := bind_eq_error h
        · exact ih h
        · cases h

/-- The gate's refusals are worded differently from the greeting gate's. -/
theorem authorizeParams_ne_expectedHello {params : ConnectParams} {uid : ℕ} {e : StartError}
    (h : authorizeParams parsers fs params uid = .error e) (id id' : ℕ) :
    Line.error id (errorKind e) e.display ≠ expectedHello id' := by
  rw [authorizeParams] at h
  split at h
  · split at h
    · obtain rfl := Except.error.inj h
      simp [StartError.display, expectedHello]
    · obtain h | ⟨routeMode, -, h⟩ := bind_eq_error h
      · exact parseRouteMode_ne_expectedHello h id id'
      · split at h
        · obtain h | ⟨secrets, -, h⟩ := bind_eq_error h
          · exact resolveSecrets_ne_expectedHello h id id'
          · cases h
        · obtain rfl := Except.error.inj h
          simp [StartError.display, expectedHello]
  · obtain rfl := Except.error.inj h
    simp [StartError.display, expectedHello]

/-- A request that is no greeting is refused exactly if the session is not greeted. -/
theorem handle_eq_expectedHello {req : Request} (hreq : parsers.request line = some req)
    (hnot : ∀ id v, req ≠ .hello id v) :
    (sess.handle parsers fs line).1 = [expectedHello (requestId req)] ↔ sess.greeted = false := by
  refine handle_elim (motive := fun lines _ _ =>
      lines = [expectedHello (requestId req)] ↔ sess.greeted = false)
    (fun h => ?_) (fun id v h _ => ?_) (fun id h => ?_) (fun req' h _ hgreeted => ?_)
    (fun id _ hgreeted => ?_) (fun id _ hgreeted _ => ?_) (fun id _ hgreeted _ => ?_)
    (fun id params _ hgreeted _ => ?_) (fun id params a _ hgreeted _ _ => ?_)
    fun id params e _ hgreeted _ hauth => ?_
  · rw [hreq] at h
    cases h
  · rw [hreq] at h
    exact absurd (Option.some.inj h) (hnot id v)
  · rw [hreq] at h
    exact absurd (Option.some.inj h) (hnot id _)
  · rw [hreq] at h
    obtain rfl := Option.some.inj h
    simp [hgreeted]
  case refine_10 =>
    rw [hgreeted]
    simp [authorizeParams_ne_expectedHello hauth]
  all_goals simp [hgreeted, expectedHello]

end Session

/-- **The helper reads no file for a caller who could not.** A line that asks for a tunnel comes
from a session that is greeted and not connected, and each reference of its profile was to a file
granted to the caller when it was opened. Whatever either tunnel can ask for is answered with what
was read then, up to one line ending; an environment reference never is; and no answer depends on
what has become of the files. -/
theorem start_of_handle {parsers : Parsers} {fs : ℕ → FileSystem} {sess : Session} {line : String}
    {id : ℕ} {a : Authorized} (h : (sess.handle parsers fs line).2.1 = .start id a) :
    sess.greeted = true ∧ sess.connected = false ∧
    (∀ r ∈ a.profile.auth.secretRefs, ∃ path i secret,
      r = .file path ∧ Granted (fs i) path sess.callerUid secret) ∧
    (∀ r, (∃ later, Asks (fun store => SshTunnel.secrets store later a.profile) r) ∨
        (∃ cipher later, Asks (fun store =>
          ShadowsocksTunnel.secrets cipher store later a.profile) r) →
      ∃ secret, (∀ later, a.secrets.store.resolve later r = .ok secret) ∧
        ∃ path i, .file path ∈ a.profile.auth.secretRefs ∧ (SecretRef.file path).same r = true ∧
          Granted (fs i) path sess.callerUid secret ∧
          ∃ file body, fs i path = .ok file ∧ file.body = .ok body ∧
            (body = secret ∨ body = secret ++ "\n" ∨ body = secret ++ "\r\n")) ∧
    (∀ later var, a.secrets.store.resolve later (.env var) =
      .error (.config "secret" [.lit "not resolved under the authorization gate"])) ∧
    ∀ later later' r, a.secrets.store.resolve later r = a.secrets.store.resolve later' r := by
  obtain ⟨hgreeted, hconnected, params, -, hauth⟩ := Session.handle_start h
  have happroved := authorizeParams_eq_ok.1 hauth
  refine ⟨hgreeted, hconnected, fun r hr => happroved.granted hr, fun r hasks => ?_,
    happroved.resolve_env, fun _ _ _ => rfl⟩
  have hr : r ∈ a.profile.auth.secretRefs := by
    obtain ⟨later, hasks⟩ | ⟨cipher, later, hasks⟩ := hasks
    · exact SshTunnel.mem_secretRefs_of_asks hasks
    · exact ShadowsocksTunnel.mem_secretRefs_of_asks hasks
  obtain ⟨secret, hresolve, path, i, hmem, hsame, hgranted⟩ := happroved.resolves hr
  exact ⟨secret, hresolve, path, i, hmem, hsame, hgranted, hgranted.content⟩

/-! ## A client -/

namespace Reference

def helloLine : String :=
  "\x7b\"type\":\"hello\",\"id\":1,\"protocol_version\":2\x7d"

/-- The greeting of a later version. -/
def laterHelloLine : String :=
  "\x7b\"type\":\"hello\",\"id\":5,\"protocol_version\":3\x7d"

def statusLine : String := "\x7b\"type\":\"get_status\",\"id\":3\x7d"

def disconnectLine : String := "\x7b\"type\":\"disconnect\",\"id\":4\x7d"

/-- A profile whose password is in a file. -/
def profileJson : String :=
  "\x7b\"id\":\"00000000-0000-0000-0000-000000000000\",\"name\":\"t\"," ++
    "\"protocol\":\"ssh\",\"host\":\"127.0.0.1\",\"port\":22," ++
    "\"auth\":\x7b\"type\":\"password\"," ++
    "\"password\":\x7b\"source\":\"file\",\"path\":\"/home/u/pw\"\x7d\x7d," ++
    "\"dns\":[\"1.1.1.1\"],\"split_tunnel\":\x7b\"type\":\"all_traffic\"\x7d," ++
    "\"kill_switch\":false\x7d"

def profile : ServerProfile where
  id := 0
  name := "t"
  protocol := .ssh
  host := "127.0.0.1"
  port := 22
  auth := .password (.file "/home/u/pw")
  dns := ⟨.tcp, [.ofOctets 1 1 1 1], none⟩
  splitTunnel := .allTraffic
  killSwitch := false

/-- A request to connect with it. -/
def connectLine : String :=
  "\x7b\"type\":\"connect\",\"id\":2,\"params\":\x7b\"profile_json\":\"" ++
    "\x7b\\\"id\\\":\\\"00000000-0000-0000-0000-000000000000\\\",\\\"name\\\":\\\"t\\\"," ++
    "\\\"protocol\\\":\\\"ssh\\\",\\\"host\\\":\\\"127.0.0.1\\\",\\\"port\\\":22," ++
    "\\\"auth\\\":\x7b\\\"type\\\":\\\"password\\\"," ++
    "\\\"password\\\":\x7b\\\"source\\\":\\\"file\\\",\\\"path\\\":\\\"/home/u/pw\\\"\x7d\x7d," ++
    "\\\"dns\\\":[\\\"1.1.1.1\\\"]," ++
    "\\\"split_tunnel\\\":\x7b\\\"type\\\":\\\"all_traffic\\\"\x7d," ++
    "\\\"kill_switch\\\":false\x7d\"," ++
    "\"user\":\"u\",\"route_mode\":\"default\",\"cidrs\":[],\"capture_dns\":false," ++
    "\"tun_address\":\"10.90.0.1\"\x7d\x7d"

def connectParams : ConnectParams where
  profileJson := profileJson
  user := "u"
  routeMode := "default"
  cidrs := []
  captureDns := false
  tunAddress := "10.90.0.1"

/-- The parsers, on these texts. -/
def parsers : Parsers where
  request line :=
    if line = helloLine then some (.hello 1 2)
    else if line = laterHelloLine then some (.hello 5 3)
    else if line = statusLine then some (.getStatus 3)
    else if line = disconnectLine then some (.disconnect 4)
    else some (.connect 2 connectParams)
  profile _ := some profile
  net _ := .error [.lit "invalid IP address syntax"]

/-- Files of one user, with a password of six bytes. -/
def files (uid : ℕ) : FileSystem := fun path =>
  if path = "/home/u/pw" then .ok ⟨.ok ⟨true, 0o100600, uid, 7⟩, .ok "secret\n"⟩
  else .error [.lit "No such file or directory (os error 2)"]

/-- What the gate makes of the request. -/
def authorized : Authorized :=
  ⟨profile, "u", .default, 0x0a5a0001#32, [(.file "/home/u/pw", "secret")]⟩

end Reference

theorem start_of_handle_reference :
    let a := Reference.authorized
    (∀ r ∈ a.profile.auth.secretRefs, ∃ path secret,
      r = .file path ∧ Granted (Reference.files 501) path 501 secret) ∧
    (∀ later later' r, a.secrets.store.resolve later r = a.secrets.store.resolve later' r) := by
  have hstart : (Session.handle Reference.parsers (fun _ : ℕ => Reference.files 501)
      ⟨true, false, 501⟩ Reference.connectLine).2.1 = .start 2 Reference.authorized := by
    decide +kernel
  obtain ⟨-, -, hgranted, -, -, hlater⟩ := start_of_handle hstart
  refine ⟨fun r hr => ?_, hlater⟩
  obtain ⟨path, -, secret, hfile, hread⟩ := hgranted r hr
  exact ⟨path, secret, hfile, hread⟩

end LiosTunnel.Helper
