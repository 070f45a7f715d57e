import LiosTunnel.Lib.Runs

/-!
# The helper's socket path

`listener.rs`: a helper owns a socket path through a `flock` on a file beside it, which is never
unlinked. Any number of helpers may be started on one path, and each of their system calls is one
event, so that they interleave anywhere and a `SIGKILL` falls between any two of them. What the
kernel answers is in the event.

* `Files`: what is at the path, and the owner and mode of each file.
* `Point`: where a helper is in `Listener::bind`, `serve` or `Drop`.
* `call`: one system call on the path.
* `State`, `Event`, `step`: the helpers, their lock, and everybody else.
-/

namespace LiosTunnel.Helper.Listener

/-! ## The path -/

/-- What `stat` says a directory entry is. -/
structure FileId where
  dev : ℕ
  ino : ℕ
  deriving DecidableEq, Repr

/-- Who may open a file. -/
structure Attrs where
  owner : ℕ
  mode : ℕ
  deriving DecidableEq, Repr

/-- What a name stands for: a file, a directory, or a link and what it resolves to, if there is
that. -/
inductive Entry
  | file (id : FileId)
  | dir (id : FileId)
  | link (target : Option FileId)
  deriving DecidableEq, Repr

/-- The entry at the socket path, and the attributes of files. -/
structure Files where
  entry : Option Entry
  attrs : FileId → Attrs

/-- What a path is resolved to. -/
def Files.resolve (f : Files) : Option FileId :=
  match f.entry with
  | some (.file id) | some (.dir id) => some id
  | some (.link target) => target
  | none => none

/-- How `remove_file` ends. -/
inductive Removal
  | removed
  | notFound
  | failed
  deriving DecidableEq, Repr

/-- The name of a directory, which `remove_file` does not take away. -/
def Files.isDir (f : Files) : Bool :=
  match f.entry with
  | some (.dir _) => true
  | _ => false

/-- `remove_file` takes the name away, a link's own name included. -/
def Files.removeFile (f : Files) : Removal → Option Files
  | .removed => if f.entry = none ∨ f.isDir then none else some { f with entry := none }
  | .notFound => if f.entry = none then some f else none
  | .failed => some f

/-- `bind(2)` makes the file `own`. A name that is taken is `EADDRINUSE`, but macOS binds through a
dangling link. -/
def Files.bind (f : Files) (own : FileId) (a : Attrs) : Option Files :=
  match f.entry with
  | none => some ⟨some (.file own), Function.update f.attrs own a⟩
  | some (.link none) => some ⟨some (.link (some own)), Function.update f.attrs own a⟩
  | some _ => none

/-- `stat` may fail anywhere; where it does not, it answers with the file the path resolves to. -/
def Files.Answers (f : Files) (r : Option FileId) : Prop := r = none ∨ r = f.resolve

instance (f : Files) (r : Option FileId) : Decidable (f.Answers r) :=
  inferInstanceAs (Decidable (r = none ∨ r = f.resolve))

/-- `chmod` and `chown`, on the file the path resolves to. -/
def Files.change (f : Files) (g : Attrs → Attrs) : Option Files :=
  f.resolve.map fun id => { f with attrs := Function.update f.attrs id (g (f.attrs id)) }

/-! ## A helper's calls -/

/-- The uid a helper is started for, and the one it runs as. -/
structure Args where
  authorizedUid : ℕ
  euid : ℕ

/-- The socket of a `Listener`: the file that its `bind(2)` made, and the id it has recorded. -/
structure Sock where
  own : FileId
  id : FileId
  deriving DecidableEq, Repr

/-- Where a helper is. -/
inductive Point
  /-- The lock file is open. -/
  | opened
  /-- The lock is held; whatever is at the path is debris. -/
  | locked
  /-- The debris is gone. -/
  | cleared
  /-- The socket exists. -/
  | bound (own : FileId)
  /-- `stat_path` failed in `bind`. -/
  | unstatted (own : FileId)
  /-- The `Listener` is constructed. -/
  | made (sock : Sock)
  /-- Its mode is set. -/
  | moded (sock : Sock)
  | serving (sock : Sock)
  /-- In `Drop`, before its `stat_path`. -/
  | dropping (sock : Sock)
  /-- In `Drop`, with the recorded id found at the path. -/
  | matched (sock : Sock)
  /-- The socket is closed; the lock file is closed next. -/
  | closing
  deriving DecidableEq, Repr

/-- How `UnixListener::bind` ends: `listen` may fail after `bind(2)`, which leaves the file. -/
inductive Bound
  | done (own : FileId) (mode : ℕ)
  | unlistened (own : FileId) (mode : ℕ)
  | failed
  deriving DecidableEq, Repr

/-- A system call on the path, with its outcome. -/
inductive Call
  | removeFile (r : Removal)
  | bind (b : Bound)
  | statPath (r : Option FileId)
  | setPermissions (ok : Bool)
  | giveToAuthorizedUid (ok : Bool)
  /-- `main` returns and drops the listener. -/
  | drop
  deriving DecidableEq, Repr

/-- The mode a socket is served with. -/
def socketMode : ℕ := 0o600

/-- One call of `Listener::bind` or of `Drop`: what it does at the path, and where it leads. -/
def call (args : Args) (f : Files) : Point → Call → Option (Files × Point)
  | .locked, .removeFile r =>
    (f.removeFile r).map fun f' => (f', if r = .failed then .closing else .cleared)
  | .cleared, .bind (.done own mode) =>
    (f.bind own ⟨args.euid, mode⟩).map fun f' => (f', .bound own)
  | .cleared, .bind (.unlistened own mode) =>
    (f.bind own ⟨args.euid, mode⟩).map fun f' => (f', .closing)
  | .cleared, .bind .failed => some (f, .closing)
  | .bound own, .statPath r =>
    if f.Answers r then
      some (f, match r with
        | some id => .made ⟨own, id⟩
        | none => .unstatted own)
    else none
  | .unstatted _, .removeFile r => (f.removeFile r).map fun f' => (f', .closing)
  | .made sock, .setPermissions true =>
    (f.change fun a => { a with mode := socketMode }).map fun f' => (f', .moded sock)
  | .made sock, .setPermissions false => some (f, .dropping sock)
  | .moded sock, .giveToAuthorizedUid ok =>
    if args.authorizedUid = args.euid then
      -- already ours: nothing is called
      if ok then some (f, .serving sock) else none
    else if ok then
      (f.change fun a => { a with owner := args.authorizedUid }).map fun f' => (f', .serving sock)
    else some (f, .dropping sock)
  | .serving sock, .drop => some (f, .dropping sock)
  | .dropping sock, .statPath r =>
    if f.Answers r then some (f, if r = some sock.id then .matched sock else .closing) else none
  | .matched _, .removeFile r => (f.removeFile r).map fun f' => (f', .closing)
  | _, _ => none

/-! ## Helpers on one path -/

/-- A helper that runs: the inode of the lock file it opened, and where it is. -/
structure Proc where
  lock : ℕ
  point : Point
  deriving DecidableEq, Repr

/-- The lock file, who holds the lock of each inode, the path, and the helpers that run. -/
structure State where
  lockFile : Option ℕ
  nextInode : ℕ
  locks : ℕ → Option ℕ
  files : Files
  procs : ℕ → Option Proc

/-- How `flock` with `LOCK_EX | LOCK_NB` ends. -/
inductive Flock
  | granted
  | wouldBlock
  | failed
  deriving DecidableEq, Repr

/-- What anybody but a helper may do. -/
inductive Outside
  /-- Puts something at the socket path, or takes it away. -/
  | place (e : Option Entry)
  | setAttrs (id : FileId) (a : Attrs)
  | removeLock
  deriving DecidableEq, Repr

/-- One thing that happens. -/
inductive Event
  /-- A helper is started and opens the lock file, creating it where there is none. -/
  | openLock (p : ℕ) (ok : Bool)
  | flock (p : ℕ) (r : Flock)
  | call (p : ℕ) (c : Call)
  /-- A helper that is through closes the lock file. -/
  | release (p : ℕ)
  /-- `SIGKILL`. -/
  | kill (p : ℕ)
  | outside (o : Outside)
  deriving DecidableEq, Repr

/-- A process ends: the kernel releases its lock, and leaves the files. -/
def State.exit (s : State) (p : ℕ) : State :=
  { s with
    locks := fun l => if s.locks l = some p then none else s.locks l
    procs := Function.update s.procs p none }

/-- The helpers and everybody else, one event at a time. -/
def step (args : ℕ → Args) (s : State) : Event → Option State
  | .openLock p ok =>
    match s.procs p with
    | some _ => none
    | none =>
      if ok then
        match s.lockFile with
        | some l => some { s with procs := Function.update s.procs p (some ⟨l, .opened⟩) }
        | none =>
          some { s with
            lockFile := some s.nextInode
            nextInode := s.nextInode + 1
            procs := Function.update s.procs p (some ⟨s.nextInode, .opened⟩) }
      else some s
  | .flock p r =>
    match s.procs p with
    | some ⟨l, .opened⟩ =>
      match r with
      | .granted =>
        if s.locks l = none then
          some { s with
            locks := Function.update s.locks l (some p)
            procs := Function.update s.procs p (some ⟨l, .locked⟩) }
        else none
      | .wouldBlock => if s.locks l = none then none else some (s.exit p)
      | .failed => some (s.exit p)
    | _ => none
  | .call p c =>
    match s.procs p with
    | some ⟨l, pt⟩ =>
      (call (args p) s.files pt c).map fun (f, pt') =>
        { s with files := f, procs := Function.update s.procs p (some ⟨l, pt'⟩) }
    | none => none
  | .release p =>
    match s.procs p with
    | some ⟨_, .closing⟩ => some (s.exit p)
    | _ => none
  | .kill p => (s.procs p).map fun _ => s.exit p
  | .outside (.place e) => some { s with files := { s.files with entry := e } }
  | .outside (.setAttrs id a) =>
    some { s with files := { s.files with attrs := Function.update s.files.attrs id a } }
  | .outside .removeLock => some { s with lockFile := none }

/-- Before the first helper: whatever is at the path, there is no lock file. -/
def State.first (f : Files) : State := ⟨none, 0, fun _ => none, f, fun _ => none⟩

end LiosTunnel.Helper.Listener
