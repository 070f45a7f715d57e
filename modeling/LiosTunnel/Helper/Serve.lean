import LiosTunnel.Helper.Dispatch
import LiosTunnel.Lib.Runs

/-!
# The daemon

`serve` and `serve_one` of the helper's `main.rs`. The daemon owns the tunnel, if there is one, and
serves one client at a time; a client's session mirrors the tunnel. Requests, ticks, the outcome of
a start and how many of the lines of a reply could be written are the environment's, as is an engine
that stops on its own.

* `Daemon`, `Daemon.next`: the daemon, one turn of its `select!` at a time.
* `Turn`: all that a turn can be, to take a step apart by.
* `InStep`: a session mirrors the tunnel, of which there is one at most, and a start comes from the
  gate.
-/

namespace LiosTunnel

/-- The version a request greets with, if it is a greeting. -/
def Dto.Request.greets : Dto.Request → Option ℕ
  | .hello _ version => some version
  | _ => none

namespace Helper

open Config Dto Runs

/-- `Tunnel`, as the daemon sees it: which of its tunnels it is, and whether the engine's task is
finished. -/
structure Tunnel where
  number : ℕ
  hasStopped : Bool
  deriving DecidableEq, Repr

/-- What a tunnel that is dropped does. -/
inductive Teardown
  | revertRoutes
  | shutdownStack
  | clearState
  | abortEngine
  deriving DecidableEq, Repr

/-- `Drop for Tunnel`. -/
def Tunnel.drop (t : Tunnel) : List (ℕ × Teardown) :=
  [(t.number, .revertRoutes), (t.number, .shutdownStack), (t.number, .clearState),
    (t.number, .abortEngine)]

/-- A call of `Tunnel::start`: the line that asked for it, the files the gate opened for it and what
it was handed. The last two fields are ghosts, as they were at the call. -/
structure StartCall where
  id : ℕ
  line : String
  files : ℕ → FileSystem
  authorized : Authorized
  tunnel : Option Tunnel
  hellos : List ℕ

/-- A client in `serve_one`: its session, and the call of `Tunnel::start` it waits for, if any. The
versions it has greeted with are a ghost. -/
structure Client where
  session : Session
  starting : Option StartCall
  hellos : List ℕ

/-- The versions greeted with, once a line is read. -/
def Client.heard (parsers : Parsers) (c : Client) (text : String) : List ℕ :=
  c.hellos ++ ((parsers.request text).bind Request.greets).toList

theorem Client.mem_heard {parsers : Parsers} {c : Client} {text : String} {v : ℕ} :
    v ∈ c.heard parsers text ↔
      v ∈ c.hellos ∨ ∃ id, parsers.request text = some (.hello id v) := by
  rw [heard, List.mem_append]
  cases parsers.request text with
  | none => simp
  | some req => cases req <;> simp [Request.greets, eq_comm]

/-- A line that was written, with the tunnel and the client's greetings at the time. -/
structure Sent where
  line : Line
  tunnel : Option Tunnel
  hellos : List ℕ
  deriving DecidableEq

/-- The answer to a request that parsed and is no greeting, with the greetings before it. -/
structure Answer where
  request : Request
  lines : List Line
  hellos : List ℕ
  deriving DecidableEq

/-- The daemon. What follows the client are ghosts: how many tunnels there have been, what dropping
them did, which were up when their disconnect was accepted, whether the reply to one of these could
not be written, and what was written, answered and called. -/
structure Daemon where
  uid : ℕ
  exited : Bool
  tunnel : Option Tunnel
  client : Option Client
  tunnels : ℕ
  torn : List (ℕ × Teardown)
  dismissed : List ℕ
  undelivered : Bool
  sent : List Sent
  answers : List Answer
  calls : List StartCall

/-- What the daemon meets. -/
inductive DaemonEvent
  /-- A connection, from the peer that is given or one that cannot be told. -/
  | accept (peer : Except Text ℕ)
  | acceptFailed
  /-- An interrupt or a `SIGTERM`. -/
  | signal
  /-- A line is read; the gate meets these files, and so many lines of the reply can be written. -/
  | line (text : String) (files : ℕ → FileSystem) (written : ℕ)
  /-- The client hangs up, or cannot be read from. -/
  | hangUp
  /-- `Tunnel::start` is through, with an engine that may have stopped by then. -/
  | started (result : Except StartError Bool) (written : ℕ)
  | tick (snapshot : StatsSnapshot) (written : ℕ)
  /-- The engine stops on its own. -/
  | engineStops

/-- `authorize`, of the peer. -/
def authorize (peer : Except Text ℕ) (expected : ℕ) : Except AuthError Unit :=
  match peer with
  | .error e => .error (.peerCred e)
  | .ok actual => if actual ≠ expected then .error (.wrongUid expected actual) else .ok ()

namespace Daemon

/-- Before the first client. -/
def start (uid : ℕ) : Daemon where
  uid := uid
  exited := false
  tunnel := none
  client := none
  tunnels := 0
  torn := []
  dismissed := []
  undelivered := false
  sent := []
  answers := []
  calls := []

/-- The tunnel is taken and stopped, if there is one. -/
def stopTunnel (d : Daemon) : Daemon :=
  { d with tunnel := none, torn := d.torn ++ d.tunnel.elim [] Tunnel.drop }

/-- `serve` returns, and the tunnel is dropped. -/
def exit (d : Daemon) : Daemon := { d.stopTunnel with exited := true }

/-- The top of `serve_one`. -/
def serve (d : Daemon) : Daemon :=
  let session := Session.new d.uid
  { d with
    client := some
      ⟨if d.tunnel.isSome then session.resumeConnected else session, none, []⟩ }

/-- `write_all`, of which so many lines get through. -/
def writeAll (d : Daemon) (c : Client) (lines : List Line) (written : ℕ) : Daemon :=
  { d with sent := d.sent ++ (lines.take written).map fun line => ⟨line, d.tunnel, c.hellos⟩ }

/-- What the ghosts keep of a line. -/
def note (parsers : Parsers) (d : Daemon) (c : Client) (text : String) (replies : List Line)
    (action : Action) (ok : Bool) : Daemon :=
  let accepted := decide (action = .stopTunnel)
  { d with
    answers := d.answers ++ ((parsers.request text).filter fun req => req.greets.isNone).toList.map
      fun req => ⟨req, replies, c.hellos⟩
    dismissed := d.dismissed ++ if accepted then d.tunnel.toList.map Tunnel.number else []
    undelivered := d.undelivered || accepted && d.tunnel.isSome && !ok }

/-- The branch of `serve_one` for a line. -/
def handleLine (parsers : Parsers) (d : Daemon) (c : Client) (text : String)
    (files : ℕ → FileSystem) (written : ℕ) : Daemon :=
  let (replies, action, session) := c.session.handle parsers files text
  let ok := decide (replies.length ≤ written)
  let hellos := c.heard parsers text
  let d := (d.note parsers c text replies action ok).writeAll c replies written
  if !ok then { d with client := none }
  else
    match action with
    | .none => { d with client := some ⟨session, none, hellos⟩ }
    | .stopTunnel => { d.stopTunnel with client := some ⟨session, none, hellos⟩ }
    | .start id authorized =>
      let call : StartCall := ⟨id, text, files, authorized, d.tunnel, hellos⟩
      { d with client := some ⟨session, some call, hellos⟩, calls := d.calls ++ [call] }

/-- `Tunnel::start` is through, and its outcome is reported. -/
def reportStart (d : Daemon) (c : Client) (call : StartCall) (result : Except StartError Bool)
    (written : ℕ) : Daemon :=
  let d := match result with
    -- the assignment drops what was there
    | .ok hasStopped =>
      { d.stopTunnel with tunnel := some ⟨d.tunnels, hasStopped⟩, tunnels := d.tunnels + 1 }
    | .error _ => d
  let (out, session) := match result with
    | .ok _ => c.session.connectSucceeded call.id
    | .error e => c.session.connectFailed call.id e
  { d.writeAll c out written with
    client := if out.length ≤ written then some ⟨session, none, c.hellos⟩ else none }

/-- The branch of `serve_one` for a tick. -/
def handleTick (d : Daemon) (c : Client) (snapshot : StatsSnapshot) (written : ℕ) : Daemon :=
  if !c.session.greeted then d
  else
    match d.tunnel with
    | none => d
    | some t =>
      if t.hasStopped then
        let (out, session) := c.session.tunnelStopped
        { d.stopTunnel.writeAll c out written with
          client := if out.length ≤ written then some ⟨session, none, c.hellos⟩ else none }
      else
        { d.writeAll c [.stats snapshot] written with
          client := if 1 ≤ written then some c else none }

/-- The daemon, one event at a time. -/
def next (parsers : Parsers) (d : Daemon) (e : DaemonEvent) : Option Daemon :=
  if d.exited then none
  else
    match d.client, e with
    | none, .accept peer =>
      match authorize peer d.uid with
      | .ok _ => some d.serve
      | .error _ => some d
    | none, .acceptFailed | none, .signal => some d.exit
    | some ⟨session, none, hellos⟩, .line text files written =>
      some (d.handleLine parsers ⟨session, none, hellos⟩ text files written)
    | some ⟨_, none, _⟩, .hangUp => some { d with client := none }
    | some ⟨session, none, hellos⟩, .tick snapshot written =>
      some (d.handleTick ⟨session, none, hellos⟩ snapshot written)
    | some ⟨session, some call, hellos⟩, .started result written =>
      some (d.reportStart ⟨session, some call, hellos⟩ call result written)
    | _, .engineStops =>
      d.tunnel.map fun t => { d with tunnel := some { t with hasStopped := true } }
    | _, _ => none

variable {parsers : Parsers} {d d' : Daemon} {e : DaemonEvent}

/-- What one turn of the loop is. -/
inductive Turn (parsers : Parsers) (d : Daemon) : DaemonEvent → Daemon → Prop
  | serve {peer : Except Text ℕ} (idle : d.client = none) (same : authorize peer d.uid = .ok ()) :
      Turn parsers d (.accept peer) d.serve
  | refuse {peer : Except Text ℕ} {e : AuthError} (idle : d.client = none)
      (other : authorize peer d.uid = .error e) : Turn parsers d (.accept peer) d
  | acceptFailed (idle : d.client = none) : Turn parsers d .acceptFailed d.exit
  | signal (idle : d.client = none) : Turn parsers d .signal d.exit
  | line {session : Session} {hellos : List ℕ} {text : String}
      {files : ℕ → FileSystem} {written : ℕ}
      (head : d.client = some ⟨session, none, hellos⟩) :
      Turn parsers d (.line text files written)
        (d.handleLine parsers ⟨session, none, hellos⟩ text files written)
  | hangUp {session : Session} {hellos : List ℕ} (head : d.client = some ⟨session, none, hellos⟩) :
      Turn parsers d .hangUp { d with client := none }
  | tick {session : Session} {hellos : List ℕ} {snapshot : StatsSnapshot} {written : ℕ}
      (head : d.client = some ⟨session, none, hellos⟩) :
      Turn parsers d (.tick snapshot written)
        (d.handleTick ⟨session, none, hellos⟩ snapshot written)
  | started {session : Session} {call : StartCall} {hellos : List ℕ}
      {result : Except StartError Bool} {written : ℕ}
      (waiting : d.client = some ⟨session, some call, hellos⟩) :
      Turn parsers d (.started result written)
        (d.reportStart ⟨session, some call, hellos⟩ call result written)
  | engineStops {t : Tunnel} (up : d.tunnel = some t) :
      Turn parsers d .engineStops { d with tunnel := some { t with hasStopped := true } }

theorem next_eq_some : d.next parsers e = some d' ↔ d.exited = false ∧ Turn parsers d e d' := by
  constructor
  · intro h
    unfold next at h
    split at h
    · cases h
    · rename_i hexited
      refine ⟨Bool.eq_false_iff.2 hexited, ?_⟩
      split at h
      · rename_i peer hidle
        split at h
        · obtain rfl := Option.some.inj h
          exact .serve hidle ‹_›
        · obtain rfl := Option.some.inj h
          exact .refuse hidle ‹_›
      · obtain rfl := Option.some.inj h
        exact .acceptFailed ‹_›
      · obtain rfl := Option.some.inj h
        exact .signal ‹_›
      · obtain rfl := Option.some.inj h
        exact .line ‹_›
      · obtain rfl := Option.some.inj h
        exact .hangUp ‹_›
      · obtain rfl := Option.some.inj h
        exact .tick ‹_›
      · obtain rfl := Option.some.inj h
        exact .started ‹_›
      · obtain ⟨t, hup, rfl⟩ := Option.map_eq_some_iff.1 h
        exact .engineStops hup
      · cases h
  · rintro ⟨hexited, hturn⟩
    cases hturn with
    | serve hidle hsame => simp [next, hexited, hidle, hsame]
    | refuse hidle hother => simp [next, hexited, hidle, hother]
    | acceptFailed hidle => simp [next, hexited, hidle]
    | signal hidle => simp [next, hexited, hidle]
    | line head => simp [next, hexited, head]
    | hangUp head => simp [next, hexited, head]
    | tick head => simp [next, hexited, head]
    | started hwaiting => simp [next, hexited, hwaiting]
    | engineStops hup => simp [next, hexited, hup]

/-- What a line leads to, by what `handle` makes of it and whether its reply gets through. -/
@[elab_as_elim]
theorem handleLine_elim {c : Client} {text : String} {files : ℕ → FileSystem} {written : ℕ}
    {motive : Daemon → Prop} {replies : List Line} {action : Action} {session : Session}
    (h : c.session.handle parsers files text = (replies, action, session))
    (lost : written < replies.length → motive
      { (d.note parsers c text replies action false).writeAll c replies written with
        client := none })
    (served : replies.length ≤ written → action = .none → motive
      { (d.note parsers c text replies .none true).writeAll c replies written with
        client := some ⟨session, none, c.heard parsers text⟩ })
    (stopped : replies.length ≤ written → action = .stopTunnel → motive
      { ((d.note parsers c text replies .stopTunnel true).writeAll c replies
          written).stopTunnel with
        client := some ⟨session, none, c.heard parsers text⟩ })
    (called : ∀ id authorized, replies.length ≤ written → action = .start id authorized →
      let call : StartCall := ⟨id, text, files, authorized, d.tunnel, c.heard parsers text⟩
      motive { (d.note parsers c text replies (.start id authorized) true).writeAll c replies
          written with
        client := some ⟨session, some call, c.heard parsers text⟩
        calls := d.calls ++ [call] }) :
    motive (d.handleLine parsers c text files written) := by
  rw [handleLine, h]
  by_cases hwritten : replies.length ≤ written
  · simp only [hwritten, decide_true, Bool.not_true, Bool.false_eq_true, if_false]
    cases action with
    | none => exact served hwritten rfl
    | stopTunnel => exact stopped hwritten rfl
    | start id authorized => exact called id authorized hwritten rfl
  · simp only [hwritten, decide_false, Bool.not_false, if_true]
    exact lost (not_le.1 hwritten)

/-! ## The session and the tunnel -/

/-- The daemon has one tunnel at most: any other that was started is torn down. -/
structure Owned (d : Daemon) : Prop where
  counted : ∀ t, d.tunnel = some t → t.number < d.tunnels
  alone : ∀ n < d.tunnels, (∃ t, d.tunnel = some t ∧ t.number = n) ∨ ∀ k, (n, k) ∈ d.torn

theorem mem_drop (t : Tunnel) (k : Teardown) : (t.number, k) ∈ t.drop := by
  cases k <;> simp [Tunnel.drop]

theorem Owned.stopTunnel (h : Owned d) : Owned d.stopTunnel where
  counted := fun _ ht => nomatch ht
  alone := by
    intro n hn
    refine Or.inr fun k => ?_
    obtain ⟨t, ht, rfl⟩ | htorn := h.alone n hn
    · rw [Daemon.stopTunnel, ht]
      exact List.mem_append_right _ (mem_drop t k)
    · exact List.mem_append_left _ (htorn k)

/-- A session and the tunnel, as the daemon's client sees them. -/
structure Mirrors (d : Daemon) (c : Client) : Prop where
  callerUid : c.session.callerUid = d.uid
  greeted : c.session.greeted = true ↔ PROTOCOL_VERSION ∈ c.hellos
  connected : c.session.connected = d.tunnel.isSome
  waiting : c.starting.isSome = true → d.tunnel = none

/-- A session that handles a line mirrors a tunnel that goes with its `StopTunnel`. -/
theorem Mirrors.handle {c : Client} {text : String} {files : ℕ → FileSystem}
    {starting : Option StartCall} (hm : Mirrors d c) (huid : d'.uid = d.uid)
    (htunnel : d'.tunnel.isSome =
      (d.tunnel.isSome && decide ((c.session.handle parsers files text).2.1 ≠ .stopTunnel)))
    (hwaiting : starting.isSome = true → d'.tunnel = none) :
    Mirrors d' ⟨(c.session.handle parsers files text).2.2, starting, c.heard parsers text⟩ where
  callerUid := (Session.callerUid_handle.trans hm.callerUid).trans huid.symm
  greeted := by rw [Session.greeted_handle, Client.mem_heard, hm.greeted]
  connected := by rw [Session.connected_handle, hm.connected, htunnel]
  waiting := hwaiting

end Daemon

/-- A call of `Tunnel::start` is for a greeted client of a daemon without a tunnel, with what the
gate made of the parameters it asked with. -/
structure StartCall.Due (parsers : Parsers) (uid : ℕ) (call : StartCall) : Prop where
  noTunnel : call.tunnel = none
  greeted : PROTOCOL_VERSION ∈ call.hellos
  approved : ∃ params, parsers.request call.line = some (.connect call.id params) ∧
    authorizeParams parsers call.files params uid = .ok call.authorized

namespace Daemon

variable {parsers : Parsers} {d d' : Daemon} {e : DaemonEvent} {uid : ℕ}

/-- What holds of the daemon after every turn. -/
structure InStep (parsers : Parsers) (uid : ℕ) (d : Daemon) : Prop where
  same : d.uid = uid
  exited : d.exited = true → d.client = none
  owned : Owned d
  mirrors : ∀ c, d.client = some c → Mirrors d c
  due : ∀ call ∈ d.calls, call.Due parsers uid

namespace InStep

theorem start (parsers : Parsers) (uid : ℕ) : InStep parsers uid (start uid) where
  same := rfl
  exited := fun _ => rfl
  owned := ⟨fun _ h => (nomatch h), fun _ h => absurd h (Nat.not_lt_zero _)⟩
  mirrors := fun _ h => nomatch h
  due := fun _ h => nomatch h

theorem live (h : InStep parsers uid d) {c : Client} (hc : d.client = some c) :
    d.exited = false := by
  by_contra hexited
  rw [h.exited (Bool.not_eq_false _ ▸ hexited)] at hc
  cases hc

theorem exit (h : InStep parsers uid d) (hidle : d.client = none) : InStep parsers uid d.exit where
  same := h.same
  exited := fun _ => hidle
  owned := ⟨h.owned.stopTunnel.counted, h.owned.stopTunnel.alone⟩
  mirrors := fun _ hc => nomatch hidle.symm.trans hc
  due := h.due

/-- A fresh session adopts the daemon's state. -/
theorem serve (h : InStep parsers uid d) (hlive : d.exited = false) :
    InStep parsers uid d.serve where
  same := h.same
  exited := fun hexited => nomatch hlive.symm.trans hexited
  owned := ⟨h.owned.counted, h.owned.alone⟩
  mirrors := by
    intro c hc
    obtain rfl := Option.some.inj hc
    cases htunnel : d.tunnel with
    | none => exact ⟨rfl, by simp [Session.new], by simp [Session.new, Daemon.serve, htunnel],
        fun h => (nomatch h)⟩
    | some t => exact ⟨rfl, by simp [Session.new, Session.resumeConnected],
        by simp [Session.resumeConnected, Daemon.serve, htunnel], fun h => (nomatch h)⟩
  due := h.due

theorem hangUp (h : InStep parsers uid d) : InStep parsers uid { d with client := none } where
  same := h.same
  exited := fun _ => rfl
  owned := ⟨h.owned.counted, h.owned.alone⟩
  mirrors := fun _ hc => nomatch hc
  due := h.due

/-- A line keeps the two in step: the session is disconnected with the tunnel, and a start is asked
for without one. -/
theorem handleLine (h : InStep parsers uid d) {c : Client} (hc : d.client = some c) (text : String)
    (files : ℕ → FileSystem) (written : ℕ) :
    InStep parsers uid (d.handleLine parsers c text files written) := by
  have hlive := h.live hc
  have hm := h.mirrors c hc
  refine handleLine_elim (motive := InStep parsers uid) Session.handle_eta (fun _ => ?_)
    (fun _ hnone => ?_) (fun _ hstop => ?_) fun id authorized _ hstart => ?_
  · exact ⟨h.same, fun _ => rfl, ⟨h.owned.counted, h.owned.alone⟩, fun _ hc => (nomatch hc), h.due⟩
  · refine ⟨h.same, fun hexited => (nomatch hlive.symm.trans hexited),
      ⟨h.owned.counted, h.owned.alone⟩, fun c' hc' => ?_, h.due⟩
    obtain rfl := Option.some.inj hc'
    refine hm.handle rfl ?_ fun h => (nomatch h)
    rw [hnone]
    exact (Bool.and_true _).symm
  · refine ⟨h.same, fun hexited => (nomatch hlive.symm.trans hexited),
      ⟨h.owned.stopTunnel.counted, h.owned.stopTunnel.alone⟩, fun c' hc' => ?_, h.due⟩
    obtain rfl := Option.some.inj hc'
    refine hm.handle rfl ?_ fun h => (nomatch h)
    rw [hstop]
    exact (Bool.and_false _).symm
  · obtain ⟨hsess, hnot, params, hreq, hauth⟩ := Session.handle_start hstart
    have htunnel : d.tunnel = none := by
      rw [hm.connected, Option.isSome_eq_false_iff, Option.isNone_iff_eq_none] at hnot
      exact hnot
    have hheard : PROTOCOL_VERSION ∈ c.heard parsers text :=
      Client.mem_heard.2 (Or.inl (hm.greeted.1 hsess))
    refine ⟨h.same, fun hexited => (nomatch hlive.symm.trans hexited),
      ⟨h.owned.counted, h.owned.alone⟩, fun c' hc' => ?_, fun call hcall => ?_⟩
    · obtain rfl := Option.some.inj hc'
      refine hm.handle rfl ?_ fun _ => htunnel
      rw [hstart]
      exact (Bool.and_true _).symm
    · obtain hcall | hcall := List.mem_append.1 hcall
      · exact h.due call hcall
      · obtain rfl := List.mem_singleton.1 hcall
        rw [hm.callerUid, h.same] at hauth
        exact ⟨htunnel, hheard, params, hreq, hauth⟩

/-- A start that went well is the only tunnel. -/
theorem reportStart (h : InStep parsers uid d) {c : Client} (hc : d.client = some c)
    {call : StartCall} (hcall : c.starting = some call) (result : Except StartError Bool)
    (written : ℕ) : InStep parsers uid (d.reportStart c call result written) := by
  have hlive := h.live hc
  have hm := h.mirrors c hc
  have htunnel : d.tunnel = none := hm.waiting (by rw [hcall]; rfl)
  cases result with
  | ok hasStopped =>
    refine ⟨h.same, fun hexited => (nomatch hlive.symm.trans hexited), ⟨fun t ht => ?_,
      fun n hn => ?_⟩, fun c' hc' => ?_, h.due⟩
    · obtain rfl := Option.some.inj ht
      exact Nat.lt_succ_self _
    · obtain hn | rfl := Nat.lt_succ_iff_lt_or_eq.1 hn
      · obtain ⟨t, ht, -⟩ | htorn := h.owned.stopTunnel.alone n hn
        · cases ht
        · exact Or.inr htorn
      · exact Or.inl ⟨_, rfl, rfl⟩
    · obtain ⟨-, hc'⟩ := Option.ite_none_right_eq_some.1 hc'
      obtain rfl := Option.some.inj hc'
      exact ⟨hm.callerUid, hm.greeted, rfl, fun h => (nomatch h)⟩
  | error e =>
    refine ⟨h.same, fun hexited => (nomatch hlive.symm.trans hexited),
      ⟨h.owned.counted, h.owned.alone⟩, fun c' hc' => ?_, h.due⟩
    obtain ⟨-, hc'⟩ := Option.ite_none_right_eq_some.1 hc'
    obtain rfl := Option.some.inj hc'
    refine ⟨hm.callerUid, hm.greeted, ?_, fun h => (nomatch h)⟩
    exact (Option.isSome_eq_false_iff.2 (Option.isNone_iff_eq_none.2 htunnel)).symm

/-- A tick that finds the engine stopped stops the tunnel with the session. -/
theorem handleTick (h : InStep parsers uid d) {c : Client} (hc : d.client = some c)
    (hhead : c.starting = none) (snapshot : StatsSnapshot) (written : ℕ) :
    InStep parsers uid (d.handleTick c snapshot written) := by
  have hlive := h.live hc
  have hm := h.mirrors c hc
  unfold Daemon.handleTick
  split
  · exact h
  · split
    · exact h
    · rename_i t ht
      split
      · refine ⟨h.same, fun hexited => (nomatch hlive.symm.trans hexited),
          ⟨h.owned.stopTunnel.counted, h.owned.stopTunnel.alone⟩, fun c' hc' => ?_, h.due⟩
        obtain ⟨-, hc'⟩ := Option.ite_none_right_eq_some.1 hc'
        obtain rfl := Option.some.inj hc'
        exact ⟨hm.callerUid, hm.greeted, rfl, fun h => (nomatch h)⟩
      · refine ⟨h.same, fun hexited => (nomatch hlive.symm.trans hexited),
          ⟨h.owned.counted, h.owned.alone⟩, fun c' hc' => ?_, h.due⟩
        obtain ⟨-, hc'⟩ := Option.ite_none_right_eq_some.1 hc'
        obtain rfl := Option.some.inj hc'
        exact ⟨hm.callerUid, hm.greeted, hm.connected,
          fun hwait => by rw [hhead] at hwait; cases hwait⟩

theorem engineStops (h : InStep parsers uid d) {t : Tunnel} (ht : d.tunnel = some t) :
    InStep parsers uid { d with tunnel := some { t with hasStopped := true } } where
  same := h.same
  exited := h.exited
  owned := by
    refine ⟨fun t' ht' => ?_, fun n hn => ?_⟩
    · obtain rfl := Option.some.inj ht'
      exact h.owned.counted t ht
    · obtain ⟨t', ht', rfl⟩ | htorn := h.owned.alone n hn
      · obtain rfl := Option.some.inj (ht.symm.trans ht')
        exact Or.inl ⟨_, rfl, rfl⟩
      · exact Or.inr htorn
  mirrors := by
    intro c hc
    have hm := h.mirrors c hc
    refine ⟨hm.callerUid, hm.greeted, ?_, fun hwait => ?_⟩
    · rw [hm.connected, ht]
      rfl
    · rw [hm.waiting hwait] at ht
      cases ht
  due := h.due

theorem next (h : InStep parsers uid d) (hnext : d.next parsers e = some d') :
    InStep parsers uid d' := by
  obtain ⟨hlive, hturn⟩ := next_eq_some.1 hnext
  cases hturn with
  | serve => exact h.serve hlive
  | refuse => exact h
  | acceptFailed hidle => exact h.exit hidle
  | signal hidle => exact h.exit hidle
  | line hhead => exact h.handleLine hhead _ _ _
  | hangUp => exact h.hangUp
  | tick hhead => exact h.handleTick hhead rfl _ _
  | started hwaiting => exact h.reportStart hwaiting rfl _ _
  | engineStops hup => exact h.engineStops hup

theorem run {es : List DaemonEvent}
    (h : Runs.run (Daemon.next parsers) (Daemon.start uid) es = some d) : InStep parsers uid d :=
  run_invariant_of_step (fun _ _ _ => InStep.next) (InStep.start parsers uid) h

end InStep

/-- **The session and the tunnel stay in step.** Over every run, whatever the clients send, however
starts turn out and engines die, and whether or not replies get through: at the head of
`serve_one`'s loop the session is connected exactly if there is a tunnel, there is one at most, and
`Tunnel::start` is called for a greeted client, without a tunnel, with what the gate approved. -/
theorem inStep_of_run {parsers : Parsers} {uid : ℕ} {es : List DaemonEvent} {d : Daemon}
    (h : run (next parsers) (start uid) es = some d) :
    (∀ c, d.client = some c → c.starting = none → c.session.connected = d.tunnel.isSome) ∧
    (∀ n < d.tunnels, (∃ t, d.tunnel = some t ∧ t.number = n) ∨ ∀ k, (n, k) ∈ d.torn) ∧
    ∀ call ∈ d.calls, call.tunnel = none ∧ PROTOCOL_VERSION ∈ call.hellos ∧
      ∃ params, parsers.request call.line = some (.connect call.id params) ∧
        authorizeParams parsers call.files params uid = .ok call.authorized := by
  have hstep := InStep.run h
  refine ⟨fun c hc _ => (hstep.mirrors c hc).connected, hstep.owned.alone, fun call hcall => ?_⟩
  have hdue := hstep.due call hcall
  exact ⟨hdue.noTunnel, hdue.greeted, hdue.approved⟩

/-- A client whose engine dies, who connects again and hangs up, and another one. -/
def visits : List DaemonEvent :=
  [.accept (.ok 501), .line Reference.helloLine (fun _ => Reference.files 501) 1,
    .line Reference.connectLine (fun _ => Reference.files 501) 0, .started (.ok false) 2,
    .engineStops, .tick ⟨0, 0, 0, 0, 0⟩ 1,
    .line Reference.connectLine (fun _ => Reference.files 501) 0, .started (.ok false) 2,
    .hangUp, .accept (.ok 501)]

theorem inStep_of_run_visits :
    ∃ d, run (next Reference.parsers) (start 501) visits = some d ∧
      d.calls.length = 2 ∧ d.tunnels = 2 ∧
      (∀ c, d.client = some c → c.starting = none → c.session.connected = d.tunnel.isSome) ∧
      (∀ n < d.tunnels, (∃ t, d.tunnel = some t ∧ t.number = n) ∨ ∀ k, (n, k) ∈ d.torn) ∧
      ∀ call ∈ d.calls, call.tunnel = none ∧ PROTOCOL_VERSION ∈ call.hellos ∧
        ∃ params, Reference.parsers.request call.line = some (.connect call.id params) ∧
          authorizeParams Reference.parsers call.files params 501 = .ok call.authorized := by
  have hrun : (run (next Reference.parsers) (start 501) visits).map
      (fun d => (d.calls.length, d.tunnels)) = some (2, 2) := by decide +kernel
  obtain ⟨d, hd, hcounts⟩ := Option.map_eq_some_iff.1 hrun
  obtain ⟨hcalls, htunnels⟩ := Prod.mk.inj hcounts
  exact ⟨d, hd, hcalls, htunnels, inStep_of_run hd⟩

end Daemon

end Helper

end LiosTunnel
