import LiosTunnel.Protocols.Ssh
import LiosTunnel.Protocols.Shadowsocks

/-!
# The engine inside the Android app

`platform/android/engine.rs`: the app stages a profile, the VPN service starts and stops the engine,
and the app shows `state()`. Three cells are written from several threads: what is staged, the
session that runs, and the state. A session is stored before it connects, with the runtime its task
is on; dropping the runtime drops the task.

* `Cells`, `Event`, `next`: the cells and the steps on them.
* `Live`: a session is there whose protocol has connected and whose engine runs.
* `Undisturbed`: the steps that do not fail, or stage a profile, in the presence of a live session.
* `state_connected_iff_guarded`: the state tells the truth exactly as long as steps are undisturbed.
-/

namespace LiosTunnel.Platform.Android

open Config Protocols

/-- `AndroidSecrets`. -/
abbrev AndroidSecrets := List (SecretRef × String)

/-- `AndroidSecrets` as a store. -/
def AndroidSecrets.store (secrets : AndroidSecrets) : SecretStore where
  resolve _ r :=
    match secrets.find? fun entry => entry.1.same r with
    | some entry => .ok entry.2
    | none => .error (.config "secret" [.lit "was not supplied to the tunnel"])

/-- `StartRequest`. -/
structure StartRequest where
  profile : ServerProfile
  user : String
  secrets : AndroidSecrets

/-- `EngineState`. -/
inductive EngineState
  | idle
  | connecting
  | connected
  | failed (reason : Text)
  deriving DecidableEq, Repr

/-- The engine's `ShutdownHandle`. -/
structure ShutdownHandle where
  deriving DecidableEq, Repr

/-- The engine's `StatsHandle`. -/
structure StatsHandle where
  deriving DecidableEq, Repr

/-- How far the task on a runtime is. -/
inductive Task
  /-- In `assemble`. -/
  | connecting (request : StartRequest)
  /-- In `engine.run`. -/
  | running
  | finished

/-- `Running`. -/
structure Running where
  shutdown : Option ShutdownHandle
  stats : Option StatsHandle
  /-- The runtime, by the task on it. -/
  runtime : Task

/-- `PENDING`, `RUNNING` and `STATE`. -/
structure Cells where
  pending : Option StartRequest
  running : Option Running
  state : Option EngineState

/-- The cells when the process starts. -/
def Cells.init : Cells := ⟨none, none, none⟩

/-- `set_state`. -/
def setState (cells : Cells) (s : EngineState) : Cells := { cells with state := some s }

/-- `state`. -/
def state (cells : Cells) : EngineState := cells.state.getD .idle

/-- `stage`. -/
def stage (cells : Cells) (request : StartRequest) : Cells :=
  setState { cells with pending := some request } .idle

/-- `start`: `tun` is what `AndroidTun::new` makes of the descriptor, `runtime` what the builder of
the runtime answers. -/
def start (cells : Cells) (tun runtime : Except Text Unit) : Cells :=
  match cells.pending with
  | none => setState cells (.failed [.lit "no profile was staged"])
  | some request =>
    let cells := { cells with pending := none }
    match tun with
    | .error e => setState cells (.failed e)
    | .ok () =>
      let cells := setState cells .connecting
      match runtime with
      | .error e => setState cells (.failed (.lit "cannot start runtime: " :: e))
      | .ok () => { cells with running := some ⟨none, none, .connecting request⟩ }

/-- What the network and the stack answer to one attempt. -/
structure Attempt where
  ssh : SshNet Unit
  shadowsocks : ShadowsocksTunnel.Net
  /-- `SmoltcpStack::start`. -/
  stack : Except TunnelError Unit

/-- `assemble`. -/
def assemble (request : StartRequest) (net : Attempt) :
    Except TunnelError (ShutdownHandle × StatsHandle) := do
  match request.profile.protocol with
  | .ssh => (SshTunnel.new.connect request.profile request.secrets.store net.ssh).1
  | .shadowsocks =>
    (ShadowsocksTunnel.new.connect request.profile request.secrets.store net.shadowsocks).1
  | .wireGuard => .error (.unsupported "wireguard")
  net.stack
  match request.profile.dns.mode, request.profile.dns.https with
  | .https, none => .error (.config "dns.https" [.lit "required when dns.mode is `https`"])
  | _, _ => return ({}, {})

/-- The task of `start` when `assemble` returns. A session that was stopped or replaced meanwhile
has taken its task with it, so `running` is the task's own. -/
def landed (cells : Cells) (r : Running) :
    Except TunnelError (ShutdownHandle × StatsHandle) → Cells
  | .ok (shutdown, stats) =>
    setState { cells with running := some ⟨some shutdown, some stats, .running⟩ } .connected
  | .error e =>
    setState { cells with running := some { r with runtime := .finished } } (.failed e.display)

/-- The task when `engine.run` returns. -/
def ended (cells : Cells) (r : Running) (result : Except TunnelError Unit) : Cells :=
  setState { cells with running := some { r with runtime := .finished } }
    (match result with
    | .ok () => .idle
    | .error e => .failed e.display)

/-- `stop`. -/
def stop (cells : Cells) : Cells := setState { cells with running := none } .idle

/-- A step on the cells. -/
inductive Event
  | stage (request : StartRequest)
  | start (tun runtime : Except Text Unit)
  /-- An attempt to connect comes to its end. -/
  | landed (net : Attempt)
  /-- The engine stops on its own. -/
  | ended (result : Except TunnelError Unit)
  | stop

/-- One step, `none` where there is no task for it. -/
def next (cells : Cells) : Event → Option Cells
  | .stage request => some (stage cells request)
  | .start tun runtime => some (start cells tun runtime)
  | .landed net =>
    match cells.running with
    | some r =>
      match r.runtime with
      | .connecting request => some (landed cells r (assemble request net))
      | _ => none
    | none => none
  | .ended result =>
    match cells.running with
    | some r =>
      match r.runtime with
      | .running => some (ended cells r result)
      | _ => none
    | none => none
  | .stop => some (stop cells)

/-! ## The state and the session -/

/-- A session whose protocol has connected and whose engine has not ended. -/
def Live (cells : Cells) : Prop :=
  ∃ r, cells.running = some r ∧ r.shutdown.isSome = true ∧ r.runtime = .running

/-- The state says connected exactly if a session is live. -/
def Truthful (cells : Cells) : Prop := state cells = .connected ↔ Live cells

/-- A step that may write the state over a live session only by putting another in its place. -/
def Undisturbed (cells : Cells) : Event → Prop
  | .stage _ => ¬ Live cells
  | .start tun runtime =>
    Live cells → cells.pending.isSome = true ∧ tun.isOk = true ∧ runtime.isOk = true
  | .landed _ | .ended _ | .stop => True

variable {cells cells' : Cells}

@[simp] theorem state_setState (cells : Cells) (s : EngineState) :
    state (setState cells s) = s := rfl

@[simp] theorem live_setState (cells : Cells) (s : EngineState) :
    Live (setState cells s) ↔ Live cells := Iff.rfl

theorem not_live_of_running {r : Running} (hr : cells.running = some r)
    (ht : r.runtime ≠ .running) : ¬ Live cells := by
  rintro ⟨r', hr', -, ht'⟩
  rw [hr, Option.some.injEq] at hr'
  subst hr'
  exact ht ht'

theorem truthful_of_not_live (hlive : ¬ Live cells) (hs : state cells ≠ .connected) :
    Truthful cells :=
  ⟨fun h => absurd h hs, fun h => absurd h hlive⟩

/-- **What `start` does**: it puts a session that connects in the place of any other, or it reports
a failure and leaves the session there is. -/
theorem start_cases (cells : Cells) (tun runtime : Except Text Unit) :
    (cells.pending.isSome = true ∧ tun.isOk = true ∧ runtime.isOk = true ∧
      state (start cells tun runtime) = .connecting ∧ ¬ Live (start cells tun runtime)) ∨
    (¬ (cells.pending.isSome = true ∧ tun.isOk = true ∧ runtime.isOk = true) ∧
      (∃ reason, state (start cells tun runtime) = .failed reason) ∧
      (Live (start cells tun runtime) ↔ Live cells)) := by
  rw [start]
  cases cells.pending with
  | none => exact Or.inr ⟨fun h => (nomatch h.1), ⟨_, rfl⟩, Iff.rfl⟩
  | some request =>
    cases tun with
    | error e => exact Or.inr ⟨fun h => (nomatch h.2.1), ⟨_, rfl⟩, Iff.rfl⟩
    | ok =>
      cases runtime with
      | error e => exact Or.inr ⟨fun h => (nomatch h.2.2), ⟨_, rfl⟩, Iff.rfl⟩
      | ok => exact Or.inl ⟨rfl, rfl, rfl, rfl, not_live_of_running rfl Task.noConfusion⟩

theorem landed_truthful (r : Running) (result : Except TunnelError (ShutdownHandle × StatsHandle)) :
    Truthful (landed cells r result) := by
  cases result with
  | ok handles => exact ⟨fun _ => ⟨_, rfl, rfl, rfl⟩, fun _ => rfl⟩
  | error e =>
    exact truthful_of_not_live (not_live_of_running rfl Task.noConfusion) EngineState.noConfusion

theorem ended_truthful (r : Running) (result : Except TunnelError Unit) :
    Truthful (ended cells r result) := by
  refine truthful_of_not_live (not_live_of_running rfl Task.noConfusion) ?_
  cases result <;> exact EngineState.noConfusion

theorem stop_truthful : Truthful (stop cells) := by
  refine truthful_of_not_live ?_ EngineState.noConfusion
  rintro ⟨r, hr, -⟩
  cases hr

/-- An undisturbed step. -/
theorem next_truthful {e : Event} (he : Undisturbed cells e)
    (h : next cells e = some cells') : Truthful cells' := by
  cases e with
  | stage request =>
    obtain rfl := Option.some.inj h
    exact truthful_of_not_live he EngineState.noConfusion
  | start tun runtime =>
    obtain rfl := Option.some.inj h
    obtain ⟨-, -, -, hstate, hlive⟩ | ⟨hfails, ⟨reason, hstate⟩, hlive⟩ :=
      start_cases cells tun runtime
    · exact truthful_of_not_live hlive (by rw [hstate]; exact EngineState.noConfusion)
    · exact truthful_of_not_live (fun h => hfails (he (hlive.1 h)))
        (by rw [hstate]; exact EngineState.noConfusion)
  | landed net =>
    simp only [next] at h
    split at h
    · split at h
      · obtain rfl := Option.some.inj h
        exact landed_truthful _ _
      · cases h
    · cases h
  | ended result =>
    simp only [next] at h
    split at h
    · split at h
      · obtain rfl := Option.some.inj h
        exact ended_truthful _ _
      · cases h
    · cases h
  | stop =>
    obtain rfl := Option.some.inj h
    exact stop_truthful

/-- Any other step shows something else over a live session. -/
theorem not_truthful_next {e : Event} (he : ¬ Undisturbed cells e) :
    ∃ cells', next cells e = some cells' ∧ ¬ Truthful cells' := by
  cases e with
  | stage request =>
    refine ⟨_, rfl, fun htrue => ?_⟩
    exact EngineState.noConfusion (htrue.2 (not_not.1 he))
  | start tun runtime =>
    simp only [Undisturbed, Classical.not_imp] at he
    obtain ⟨hlive, hfails⟩ := he
    refine ⟨_, rfl, fun htrue => ?_⟩
    obtain ⟨hp, ht, hr, -⟩ | ⟨-, ⟨reason, hstate⟩, hkept⟩ := start_cases cells tun runtime
    · exact hfails ⟨hp, ht, hr⟩
    · have hconnected := htrue.2 (hkept.2 hlive)
      rw [hstate] at hconnected
      cases hconnected
  | landed net => exact absurd trivial he
  | ended result => exact absurd trivial he
  | stop => exact absurd trivial he

/-- **The engine's state**: it says connected exactly while a session is live, all along a list of
steps, if and only if nothing is staged and no start fails while one is. -/
theorem state_connected_iff_guarded (es : List Event) :
    (∀ es' cells, es' <+: es → Runs.run next Cells.init es' = some cells →
      (state cells = .connected ↔ Live cells)) ↔ Runs.Guarded next Undisturbed Cells.init es := by
  have hinit : Truthful Cells.init := by
    refine truthful_of_not_live ?_ EngineState.noConfusion
    rintro ⟨r, hr, -⟩
    cases hr
  exact (Runs.guarded_iff (fun _ (h : Truthful _) => h)
    (fun cells e cells' _ _ he h => next_truthful he h)
    (fun cells e _ _ he => not_truthful_next he) hinit (Runs.guarded_trivial _ es)).symm

/-- A profile that is staged while a session runs: the state is idle over it. -/
theorem not_state_connected_of_live : ∃ (es : List Event) (cells : Cells),
    Runs.run next Cells.init es = some cells ∧ Live cells ∧ state cells = .idle := by
  let profile : ServerProfile := ⟨0, "home", .ssh, "198.51.100.7", 22, .password (.env "PW"),
    ⟨.tcp, [.ofOctets 1 1 1 1], none⟩, .allTraffic, false⟩
  let request : StartRequest := ⟨profile, "me", [(.env "PW", "secret")]⟩
  let net : SshNet Unit := ⟨.ok [⟨.ofOctets 198 51 100 7, 22⟩], .ok (), .ok (),
    fun _ _ => .error [], fun _ _ => .ok (), fun _ => .ok none, .ok ()⟩
  let attempt : Attempt := ⟨net, ⟨⟨fun _ => .ok (), true⟩, fun _ => true, fun _ => .error [],
    .ok [], fun _ => true,
    fun _ => ⟨⟨.acquired, fun _ _ _ => .connected⟩, .ok (), .ok (), .ok (), true⟩,
    none⟩, .ok ()⟩
  exact ⟨[.stage request, .start (.ok ()) (.ok ()), .landed attempt, .stage request], _, rfl,
    ⟨_, rfl, rfl, rfl⟩, rfl⟩

end LiosTunnel.Platform.Android
