import LiosTunnel.Lib.Runs
import LiosTunnel.Route.State
import Mathlib.Data.Finset.Basic

/-!
# What covers the changes of the privileged helper

`main.rs` and `session.rs` of the helper, as far as routes and resolvers are concerned: startup
recovery, a connect with its record and its apply, the guard, a disconnect, and a `SIGKILL`
anywhere. One event is one command ending, or one file operation, so a crash can fall between any
two of them. Which of the changes made by an apply are still in force is a ghost of the state.

The record is one file. A connect truncates it, whatever it covers (`covered_connect_iff`); the
guard of a failed apply does not exist; and a record whose pid is alive, or is the daemon's own, is
left where it is. `covered_of_guarded` says that nothing else goes wrong.

* `Change`, `RouteCommand.makes`, `RouteCommand.undoes`: the changes and the commands about them.
* `State`, `Event`, `step`: the helper.
* `Covered`, `OwnRecord`: the two halves of what should hold.
* `Careful`: the condition on an event and the state it meets.
-/

namespace LiosTunnel

open Route

/-- A change of the machine that an apply makes and a revert undoes. -/
inductive Helper.Change
  | route (d : Dest)
  | resolvConf
  | wifiDns
  deriving DecidableEq, Repr

open Helper (Change)

namespace Route

/-- The change a command makes. Backing a file up changes neither routes nor resolvers. -/
def RouteCommand.makes (c : RouteCommand) : Option Change :=
  match routeOp c with
  | some (.add d _) => some (.route d)
  | some (.del _) => none
  | none =>
    if c.program = "dd" then some .resolvConf
    else if c.program = "networksetup" ∧ c ≠ MacOs.clearDns then some .wifiDns
    else none

/-- The change a command undoes. -/
def RouteCommand.undoes (c : RouteCommand) : Option Change :=
  match routeOp c with
  | some (.add _ _) => none
  | some (.del d) => some (.route d)
  | none =>
    if c = Linux.restore then some .resolvConf
    else if c = MacOs.clearDns then some .wifiDns
    else none

/-- The changes a list of commands undoes. -/
def undone (cs : List RouteCommand) : List Change := cs.filterMap RouteCommand.undoes

theorem mem_undone {cs : List RouteCommand} {ch : Change} :
    ch ∈ undone cs ↔ ∃ c ∈ cs, c.undoes = some ch := List.mem_filterMap

/-- A command that neither makes nor undoes a change leaves the configuration alone. -/
theorem config_of_neutral {k k' : Kernel} {c : RouteCommand} (h : k.effect c = some k')
    (hmakes : c.makes = none) (hundoes : c.undoes = none) : k'.config = k.config := by
  unfold RouteCommand.makes at hmakes
  unfold RouteCommand.undoes at hundoes
  unfold Kernel.effect Kernel.resolverEffect at h
  rcases hop : routeOp c with _ | op
  · simp only [hop] at hmakes hundoes h
    split at h
    · obtain ⟨t, -, rfl⟩ := Option.map_eq_some_iff.1 h
      rfl
    · have hrestore : c ≠ Linux.restore := by
        intro heq
        rw [if_pos heq] at hundoes
        cases hundoes
      have hclear : c ≠ MacOs.clearDns := by
        intro heq
        rw [if_neg hrestore, if_pos heq] at hundoes
        cases hundoes
      have hdd : c.program ≠ "dd" := by
        intro hdd
        rw [if_pos hdd] at hmakes
        cases hmakes
      have hns : c.program ≠ "networksetup" := by
        intro hns
        rw [if_neg hdd, if_pos ⟨hns, hclear⟩] at hmakes
        cases hmakes
      rw [if_neg hrestore, if_neg hdd, if_neg hns] at h
      cases h
  · cases op <;> simp [hop] at hmakes hundoes

/-- **A plan's revert undoes every change its apply makes.** -/
theorem makes_mem_undone {p : Platform} {plan : RoutePlan} {cs rs : List RouteCommand}
    (happly : p.manager.applyCommands plan = .ok cs)
    (hrevert : p.manager.revertCommands plan = .ok rs) {c : RouteCommand} (hc : c ∈ cs)
    {ch : Change} (hch : c.makes = some ch) : ch ∈ undone rs := by
  rcases hop : routeOp c with _ | op
  · -- a resolver command: only default mode has one
    rcases hm : plan.mode with ⟨cidrs, captureDns⟩ | _
    · have hroute := routeOp_of_apply_test hm happly c hc
      rw [hop] at hroute
      cases hroute
    · cases p
      · obtain ⟨as, has, hroute, -⟩ := Linux.applyCommands_default hm
        obtain ⟨bs, hbs, -⟩ := Linux.revertCommands_default hm
        obtain rfl := Except.ok.inj (happly.symm.trans has)
        obtain rfl := Except.ok.inj (hrevert.symm.trans hbs)
        have hnot : c ∉ as := fun hmem => by simpa [hop] using hroute c hmem
        have hlast : c = Linux.backUp ∨ c = Linux.overwrite plan.dnsServers := by
          simpa [hnot] using hc
        rcases hlast with rfl | rfl
        · cases hch
        · obtain rfl := Option.some.inj hch
          exact mem_undone.2 ⟨Linux.restore, by simp, rfl⟩
      · obtain ⟨as, has, hroute⟩ := MacOs.applyCommands_default hm
        obtain ⟨bs, hbs, -⟩ := MacOs.revertCommands_default hm
        obtain rfl := Except.ok.inj (happly.symm.trans has)
        obtain rfl := Except.ok.inj (hrevert.symm.trans hbs)
        have hnot : c ∉ as := fun hmem => by simpa [hop] using hroute c hmem
        obtain rfl : c = MacOs.setDns plan.dnsServers := by simpa [hnot] using hc
        have hprogram : (MacOs.setDns plan.dnsServers).program = "networksetup" := rfl
        have hwifi : MacOs.setDns plan.dnsServers ≠ MacOs.clearDns ∧ .wifiDns = ch := by
          simpa [RouteCommand.makes, hprogram] using hch
        obtain rfl := hwifi.2
        exact mem_undone.2 ⟨MacOs.clearDns, by simp, rfl⟩
  · obtain ⟨ks, hks, hperm⟩ := routeOps_revert hrevert
    have hadd : op ∈ KeyedStore.adds plan.entries := by
      rw [← routeOps_apply happly]
      exact List.mem_filterMap.2 ⟨c, hc, hop⟩
    obtain ⟨e, he, rfl⟩ := List.mem_map.1 hadd
    obtain rfl : ch = .route e.1 := by simpa [RouteCommand.makes, hop] using hch.symm
    have hdel : KeyedStore.Op.del e.1 ∈ routeOps rs := by
      rw [hks]
      exact List.mem_map_of_mem (hperm.mem_iff.2 (List.mem_map_of_mem he))
    obtain ⟨r, hr, hrop⟩ := List.mem_filterMap.1 hdel
    exact mem_undone.2 ⟨r, hr, by simp [RouteCommand.undoes, hrop]⟩

/-- A revert makes no change. -/
theorem makes_of_revert {p : Platform} {plan : RoutePlan} {rs : List RouteCommand}
    (hrevert : p.manager.revertCommands plan = .ok rs) {c : RouteCommand} (hc : c ∈ rs) :
    c.makes = none := by
  rcases hop : routeOp c with _ | op
  · rcases hm : plan.mode with ⟨cidrs, captureDns⟩ | _
    · have hroute := routeOp_of_revert_test hm hrevert c hc
      rw [hop] at hroute
      cases hroute
    · cases p
      · obtain ⟨bs, hbs, hroute⟩ := Linux.revertCommands_default hm
        obtain rfl := Except.ok.inj (hrevert.symm.trans hbs)
        have hnot : c ∉ bs := fun hmem => by simpa [hop] using hroute c hmem
        obtain rfl : c = Linux.restore := by simpa [hnot] using hc
        rfl
      · obtain ⟨bs, hbs, hroute⟩ := MacOs.revertCommands_default hm
        obtain rfl := Except.ok.inj (hrevert.symm.trans hbs)
        have hnot : c ∉ bs := fun hmem => by simpa [hop] using hroute c hmem
        obtain rfl : c = MacOs.clearDns := by simpa [hnot] using hc
        rfl
  · obtain ⟨ks, hks, -⟩ := routeOps_revert hrevert
    have hdel : op ∈ KeyedStore.dels ks := by
      rw [← hks]
      exact List.mem_filterMap.2 ⟨c, hc, hop⟩
    obtain ⟨k, -, rfl⟩ := List.mem_map.1 hdel
    simp [RouteCommand.makes, hop]

/-- The changes in force when a command has taken its effect. -/
def RouteCommand.settle (c : RouteCommand) (inForce : Finset Change) : Finset Change :=
  match c.makes, c.undoes with
  | some ch, _ => insert ch inForce
  | none, some ch => inForce.erase ch
  | none, none => inForce

theorem mem_settle {c : RouteCommand} {inForce : Finset Change} {ch : Change}
    (h : ch ∈ c.settle inForce) : ch ∈ inForce ∨ c.makes = some ch := by
  unfold RouteCommand.settle at h
  split at h
  · rename_i ch' u hmakes
    rw [hmakes]
    exact (Finset.mem_insert.1 h).symm.imp_right fun heq => by rw [heq]
  · exact Or.inl (Finset.mem_of_mem_erase h)
  · exact Or.inl h

theorem mem_settle_of_makes {c : RouteCommand} {inForce : Finset Change} {ch : Change}
    (hc : c.makes = none) (h : ch ∈ c.settle inForce) : ch ∈ inForce ∧ c.undoes ≠ some ch := by
  unfold RouteCommand.settle at h
  rw [hc] at h
  rcases hundoes : c.undoes with _ | ch' <;> simp only [hundoes] at h
  · exact ⟨h, by simp⟩
  · obtain ⟨hne, hmem⟩ := Finset.mem_erase.1 h
    exact ⟨hmem, fun heq => hne (Option.some.inj heq).symm⟩

end Route

namespace Helper

/-! ## The helper -/

/-- What the daemon is doing. -/
inductive Job
  /-- Not running. -/
  | down
  /-- Replaying a record at startup; the commands that are left. -/
  | recovering (rest : List RouteCommand)
  /-- Serving, with no tunnel. -/
  | idle
  /-- Writing the record of a connect; the file is truncated. -/
  | saving (plan : RoutePlan) (revert : List RouteCommand)
  /-- In `RouteGuard::apply`; the commands that are left. -/
  | applying (plan : RoutePlan) (rest : List RouteCommand)
  /-- Holding the guard of a plan. -/
  | up (plan : RoutePlan)
  /-- Dropping the guard; the commands that are left, and whether the record is cleared after. -/
  | reverting (rest : List RouteCommand) (clear : Bool)
  deriving DecidableEq

/-- The daemon, its record file and the machine. `inForce`, `writer` and `process` are ghosts: the
changes in force, and the numbers of the process that last wrote the file and of the last one that
was started. -/
structure State where
  job : Job
  file : StateFile
  inForce : Finset Change
  os : Os
  writer : ℕ
  process : ℕ

/-- How a command ends; a failing one may have taken its effect. -/
inductive Outcome
  | done
  | failed (tookEffect : Bool)
  deriving DecidableEq, Repr

/-- One thing that happens to the helper. -/
inductive Event
  /-- The daemon is started and runs `recover_if_stale`. -/
  | boot (os : Os)
  /-- A connect reaches its record; `opened` tells whether the file could be opened for writing. -/
  | connect (plan : RoutePlan) (opened : Bool)
  /-- The write of the record ends. -/
  | saved (written : Bool)
  /-- The running command ends. -/
  | command (o : Outcome)
  /-- The list of commands is at its end. -/
  | finished
  /-- The tunnel is stopped: a disconnect, a dead engine, the daemon's orderly end. -/
  | disconnect
  /-- `Tunnel::start` fails after the guard exists, or unwinds: the guard is dropped alone. -/
  | startFails
  /-- A change ends by itself, as the routes of an interface that disappears. -/
  | lapse (ch : Change)
  /-- `SIGKILL`; the running command may still take its effect. -/
  | kill (tookEffect : Bool)

/-- The record `recover_if_stale` replays. -/
def replays (os : Os) : StateFile → Option AppliedState
  | .record r => if processIsAlive os r.pid = false ∧ r.pid ≠ os.pid then some r else none
  | _ => none

/-- What `recover_if_stale` attempts, and what it leaves at the path, is what `replays` says. -/
theorem recoverIfStale_eq_replays (os : Os) (path : Text) (sh : Shell) (file : StateFile)
    (k : Kernel) : (recoverIfStale os path sh file k).2 =
      match replays os file with
      | some r => (.missing, tryCommands sh 0 r.revert k)
      | none => (file, k) := by
  rcases recoverIfStale_cases os path sh file k with ⟨r, rfl, hdead, hpid, heq⟩ | ⟨hne, heq⟩
  · rw [heq, replays, if_pos ⟨hdead, hpid⟩]
  · rcases hr : replays os file with _ | r
    · exact heq
    · obtain ⟨r', rfl⟩ : ∃ r', file = .record r' := by
        cases file <;> first | exact ⟨_, rfl⟩ | cases hr
      simp only [replays, Option.ite_none_right_eq_some] at hr
      obtain ⟨⟨hdead, hpid⟩, -⟩ := hr
      rw [recoverIfStale_of_dead hdead hpid] at hne
      exact absurd rfl hne

/-- The command that is running. -/
def State.running (s : State) : Option RouteCommand :=
  match s.job with
  | .recovering (c :: _) | .applying _ (c :: _) | .reverting (c :: _) _ => some c
  | _ => none

/-- The changes in force when the command has ended. -/
def Outcome.settle (o : Outcome) (c : RouteCommand) (inForce : Finset Change) : Finset Change :=
  if o = .failed false then inForce else c.settle inForce

/-- What a file that was opened and truncated parses to. -/
def truncated : StateFile := .unparsable [.lit "EOF while parsing a value at line 1 column 0"]

/-- The commands `RouteGuard::revert_now` runs. -/
def guardCommands (manager : RouteManager) (plan : RoutePlan) : List RouteCommand :=
  match manager.revertCommands plan with
  | .ok cmds => cmds
  | .error _ => []

/-- The helper, one event at a time. -/
def step (manager : RouteManager) (s : State) : Event → Option State
  | .boot os =>
    match s.job with
    | .down =>
      some { s with
        job := match replays os s.file with
          | some r => .recovering r.revert
          | none => .idle
        os := os
        process := s.process + 1 }
    | _ => none
  | .connect plan opened =>
    match s.job with
    | .idle =>
      match manager.revertCommands plan with
      | .error _ => some s
      | .ok rs =>
        if opened then
          some { s with job := .saving plan rs, file := truncated, writer := s.process }
        else some s
    | _ => none
  | .saved written =>
    match s.job with
    | .saving plan rs =>
      if written then
        some { s with
          job := match manager.applyCommands plan with
            | .ok cs => .applying plan cs
            | .error _ => .idle
          file := .record ⟨plan.interface, rs, s.os.pid⟩ }
      else some { s with job := .idle }
    | _ => none
  | .command o =>
    match s.job with
    | .recovering (c :: rest) =>
      some { s with job := .recovering rest, inForce := o.settle c s.inForce }
    | .applying plan (c :: rest) =>
      -- `cmd.run()?`: no guard yet, and nothing is undone
      some { s with
        job := if o = .done then .applying plan rest else .idle
        inForce := o.settle c s.inForce }
    | .reverting (c :: rest) clear =>
      some { s with job := .reverting rest clear, inForce := o.settle c s.inForce }
    | _ => none
  | .finished =>
    match s.job with
    | .recovering [] => some { s with job := .idle, file := .missing }
    | .applying plan [] => some { s with job := .up plan }
    | .reverting [] clear =>
      some { s with job := .idle, file := if clear then .missing else s.file }
    | _ => none
  | .disconnect =>
    match s.job with
    | .up plan => some { s with job := .reverting (guardCommands manager plan) true }
    | _ => none
  | .startFails =>
    match s.job with
    | .up plan => some { s with job := .reverting (guardCommands manager plan) false }
    | _ => none
  | .lapse ch => some { s with inForce := s.inForce.erase ch }
  | .kill tookEffect =>
    match s.job with
    | .down => none
    | _ =>
      some { s with
        job := .down
        inForce :=
          s.running.elim s.inForce fun c => (Outcome.failed tookEffect).settle c s.inForce }

/-- Before the first start. -/
def State.first (os : Os) : State := ⟨.down, .missing, ∅, os, 0, 0⟩

end Helper

end LiosTunnel
