import LiosTunnel.Route.Guard

/-!
# The record of applied routes

`route/state.rs`: the record written before routes are applied, and the replay of a record whose
process has died. `recoverIfStale` refuses a record whose process is alive, leaves the running
process's own record alone, and otherwise attempts every command of the record and clears it.

* `AppliedState`, `StateFile`: the record, and what is at its path.
* `processIsAlive`: the bare pid check.
* `recoverIfStale`: the replay.
-/

namespace LiosTunnel.Route

/-- `state::AppliedState`. -/
structure AppliedState where
  interface : String
  /-- The commands that undo what was applied. -/
  revert : List RouteCommand
  pid : BitVec 32
  deriving DecidableEq, Repr

/-- What is at the path of the record. -/
inductive StateFile
  | missing
  /-- The file cannot be read. -/
  | unreadable (e : Text)
  /-- The file is not a record: it was cut short, or something else wrote it. -/
  | unparsable (e : Text)
  | record (s : AppliedState)
  deriving DecidableEq, Repr

/-- `AppliedState::load`. A missing file cannot be read. -/
def StateFile.load : StateFile → Except TunnelError AppliedState
  | .missing => .error (.route [.lit "cannot read state file: ", .lit "No such file or directory"])
  | .unreadable e => .error (.route (.lit "cannot read state file: " :: e))
  | .unparsable e => .error (.route (.lit "cannot parse state file: " :: e))
  | .record s => .ok s

/-- How `kill(pid, 0)` ends. -/
inductive KillAnswer
  | ok
  | esrch
  /-- Another error: `EPERM`, of a process that exists. -/
  | other
  deriving DecidableEq, Repr

/-- What the running process knows of the system: its own pid, and how `kill` answers. -/
structure Os where
  pid : BitVec 32
  kill : BitVec 32 → KillAnswer

/-- `process_is_alive`. Only `ESRCH` is read as dead. -/
def processIsAlive (os : Os) (pid : BitVec 32) : Bool :=
  if pid = 0 then false
  -- `libc::pid_t::try_from` fails
  else if 2 ^ 31 ≤ pid.toNat then true
  else os.kill pid ≠ .esrch

/-- `recover_if_stale`, for the file at `path`: whether anything was recovered, what is at the path
afterwards, and the machine. -/
def recoverIfStale (os : Os) (path : Text) (sh : Shell) (file : StateFile) (k : Kernel) :
    Except TunnelError Bool × StateFile × Kernel :=
  if file = .missing then (.ok false, file, k)
  else
    match file.load with
    | .error e => (.error e, file, k)
    | .ok state =>
      if processIsAlive os state.pid && state.pid ≠ os.pid then
        (.error (.route ([.lit "another liostunnel (pid ", .lit (toString state.pid.toNat),
          .lit ") is holding routes on ", .lit state.interface,
          .lit ". If that process is gone, delete "] ++ path ++ [.lit " and retry."])), file, k)
      else if state.pid = os.pid then (.ok false, file, k)
      else (.ok true, .missing, tryCommands sh 0 state.revert k)

/-- A record of another process that is dead is replayed and cleared. -/
theorem recoverIfStale_of_dead {os : Os} {state : AppliedState}
    (hdead : processIsAlive os state.pid = false)
    (hpid : state.pid ≠ os.pid) (path : Text) (sh : Shell) (k : Kernel) :
    recoverIfStale os path sh (.record state) k =
      (.ok true, .missing, tryCommands sh 0 state.revert k) := by
  simp [recoverIfStale, StateFile.load, hdead, hpid]

/-- A recovery that touches anything replays a record of a dead process, and says so. -/
theorem recoverIfStale_cases (os : Os) (path : Text) (sh : Shell) (file : StateFile) (k : Kernel) :
    (∃ state, file = .record state ∧ processIsAlive os state.pid = false ∧ state.pid ≠ os.pid ∧
      recoverIfStale os path sh file k = (.ok true, .missing, tryCommands sh 0 state.revert k)) ∨
    (recoverIfStale os path sh file k).1 ≠ .ok true ∧
      (recoverIfStale os path sh file k).2 = (file, k) := by
  unfold recoverIfStale
  cases file with
  | missing => exact Or.inr ⟨by simp, by simp⟩
  | unreadable e => exact Or.inr ⟨by simp [StateFile.load], by simp [StateFile.load]⟩
  | unparsable e => exact Or.inr ⟨by simp [StateFile.load], by simp [StateFile.load]⟩
  | record state =>
    by_cases hpid : state.pid = os.pid
    · exact Or.inr ⟨by simp [StateFile.load, hpid], by simp [StateFile.load, hpid]⟩
    · cases halive : processIsAlive os state.pid with
      | true => exact Or.inr ⟨by simp [StateFile.load, hpid, halive],
          by simp [StateFile.load, hpid, halive]⟩
      | false => exact Or.inl ⟨state, rfl, halive, hpid, by simp [StateFile.load, hpid, halive]⟩

end LiosTunnel.Route
