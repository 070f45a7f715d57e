import Mathlib
import LiosTunnel.Config.Profile

/-!
# Secret files

`write_secret_file` of `config/portable.rs` and `FileSecretStore` of `config/secret.rs`: how a
secret gets to a file and back. Each operation on a file may fail. A file is there under the text of
its path, with its mode and its bytes.

* `Disk`, `openFresh`, `removeFile`, `writeAll`: the operations, each with the failure it meets.
* `writeSecretFile`: the writer.
* `fileSecretStore`: the reader.
* `wrote_writeSecretFile`: what the writer does, in all.
* `Keeps`: what a path leads to is kept, through links or at the path itself.
* `writeSecretFile_stands_iff`: when a write lets what its path led to stand.
* `resolve_of_file`: what the reader makes of a file.
-/

namespace LiosTunnel.Config

/-! ## Files -/

/-- What stands at a path. -/
inductive Node
  | file (mode : ℕ) (content : ByteArray)
  | symlink (target : PathBuf)
  | dir
  deriving DecidableEq

/-- What stands at each path. -/
abbrev Disk := PathBuf → Option Node

/-- `Path::join` with a relative path. -/
def PathBuf.join (dir : PathBuf) (name : String) : PathBuf :=
  if dir = "" ∨ dir.toList.getLast? = some '/' then dir ++ name else dir ++ "/" ++ name

theorem PathBuf.join_inj {dir : PathBuf} {name name' : String} :
    dir.join name = dir.join name' ↔ name = name' := by
  refine ⟨fun h => ?_, fun h => h ▸ rfl⟩
  unfold PathBuf.join at h
  split at h
  · exact String.append_right_inj dir |>.1 h
  · exact String.append_right_inj (dir ++ "/") |>.1 h

/-- What a path leads to, over so many links at most. -/
def follow (disk : Disk) : ℕ → PathBuf → Except Text Node
  | 0, _ => .error [.lit "Too many levels of symbolic links (os error 40)"]
  | links + 1, path =>
    match disk path with
    | none => .error [.lit "No such file or directory (os error 2)"]
    | some (.symlink target) => follow disk links target
    | some node => .ok node

/-- What a path leads to: 40 links are followed. -/
def Disk.followed (disk : Disk) (path : PathBuf) : Except Text Node := follow disk 41 path

/-- `io::Error`: whether its kind is `AlreadyExists`, and its `Display`. -/
structure IoError where
  alreadyExists : Bool
  display : Text
  deriving DecidableEq, Repr

variable (path : PathBuf) (disk : Disk)

/-- `OpenOptions::open` with `create_new` and the mode 0600. -/
def openFresh (fault : Option IoError) : Except IoError Disk :=
  match fault, disk path with
  | some e, _ => .error e
  | none, some _ => .error ⟨true, [.lit "File exists (os error 17)"]⟩
  | none, none => .ok (Function.update disk path (some (.file 0o600 .empty)))

/-- `fs::remove_file`. -/
def removeFile (fault : Option IoError) : Except IoError Disk :=
  match fault, disk path with
  | some e, _ => .error e
  | none, none => .error ⟨false, [.lit "No such file or directory (os error 2)"]⟩
  | none, some .dir => .error ⟨false, [.lit "Is a directory (os error 21)"]⟩
  | none, some _ => .ok (Function.update disk path none)

/-- `Write::write_all` to the file just opened. A failure comes after so many bytes. -/
def writeAll (value : ByteArray) (fault : Option (ℕ × IoError)) : Except IoError Unit × Disk :=
  match fault with
  | some (n, e) =>
    if n < value.size then
      (.error e, Function.update disk path (some (.file 0o600 (value.extract 0 n))))
    else (.ok (), Function.update disk path (some (.file 0o600 value)))
  | none => (.ok (), Function.update disk path (some (.file 0o600 value)))

/-! ## The writer -/

/-- What the operations of `write_secret_file` meet. -/
structure WriteFaults where
  openFresh : Option IoError
  remove : Option IoError
  reopen : Option IoError
  write : Option (ℕ × IoError)
  deriving DecidableEq, Repr

/-- An error about a secret file. -/
def secretFileError (path : PathBuf) (reason : Text) : TunnelError :=
  .config ("secret file " ++ path) reason

/-- `write_secret_file` past `AlreadyExists`, up to the open file. -/
def replaceStale (faults : WriteFaults) : Except TunnelError Unit × Disk :=
  match removeFile path disk faults.remove with
  | .error e =>
    (.error (secretFileError path
      (.lit "cannot remove stale file before re-import: " :: e.display)), disk)
  | .ok disk =>
    match openFresh path disk faults.reopen with
    | .ok disk => (.ok (), disk)
    | .error e =>
      (.error (secretFileError path
        (.lit "cannot write after removing stale file: " :: e.display)), disk)

/-- `write_secret_file` up to the open file. -/
def openSecretFile (faults : WriteFaults) : Except TunnelError Unit × Disk :=
  match openFresh path disk faults.openFresh with
  | .ok disk => (.ok (), disk)
  | .error e =>
    if e.alreadyExists then replaceStale path disk faults
    else (.error (secretFileError path (.lit "cannot write: " :: e.display)), disk)

/-- `write_secret_file`. -/
def writeSecretFile (value : String) (faults : WriteFaults) : Except TunnelError Unit × Disk :=
  match openSecretFile path disk faults with
  | (.error e, disk) => (.error e, disk)
  | (.ok (), disk) =>
    match writeAll path disk value.toByteArray faults.write with
    | (.ok (), disk) => (.ok (), disk)
    | (.error e, disk) => (.error (secretFileError path e.display), disk)

/-- What stood at the path is removed. -/
def WriteFaults.Removes (faults : WriteFaults) (old : Option Node) : Prop :=
  (∃ node, old = some node ∧ node ≠ .dir) ∧ faults.remove = none ∧
    ∀ e, faults.openFresh = some e → e.alreadyExists = true

/-- A fresh file is opened. -/
def WriteFaults.Opens (faults : WriteFaults) (old : Option Node) : Prop :=
  (faults.openFresh = none ∧ old = none) ∨ (faults.Removes old ∧ faults.reopen = none)

/-- Not every byte is written. -/
def WriteFaults.Cuts (faults : WriteFaults) (value : String) : Prop :=
  ∃ n e, faults.write = some (n, e) ∧ n < value.toByteArray.size

/-- The secret gets to its file. -/
def WriteFaults.Completes (faults : WriteFaults) (value : String) (old : Option Node) : Prop :=
  faults.Opens old ∧ ¬ faults.Cuts value

/-- The bytes that get to a file that was opened. -/
def WriteFaults.written (faults : WriteFaults) (value : String) : ByteArray :=
  match faults.write with
  | some (n, _) =>
    if n < value.toByteArray.size then value.toByteArray.extract 0 n else value.toByteArray
  | none => value.toByteArray

/-- Where what stood at the path is removed, and led to a file, the path is a file of that content
again. -/
def WriteFaults.Spares (faults : WriteFaults) (value : String) (old : Option Node)
    (found : Except Text Node) : Prop :=
  ∀ mode content, found = .ok (.file mode content) → faults.Removes old →
    faults.reopen = none ∧ faults.written value = content

variable {path disk} {value : String} {faults : WriteFaults}

theorem written_of_not_cuts (h : ¬ faults.Cuts value) :
    faults.written value = value.toByteArray := by
  unfold WriteFaults.written
  split
  · next n e hwrite => exact if_neg fun hn => h ⟨n, e, hwrite, hn⟩
  · rfl

variable (path disk value faults) in
/-- The writer's last step. -/
theorem writeAll_eq :
    (writeAll path disk value.toByteArray faults.write).2 =
        Function.update disk path (some (.file 0o600 (faults.written value))) ∧
      ((writeAll path disk value.toByteArray faults.write).1 = .ok () ↔ ¬ faults.Cuts value) := by
  unfold writeAll WriteFaults.written WriteFaults.Cuts
  cases hwrite : faults.write with
  | none => exact ⟨rfl, iff_of_true rfl fun ⟨_, _, h, _⟩ => (nomatch h)⟩
  | some cut =>
    obtain ⟨n, e⟩ := cut
    dsimp only
    split
    · next hn => exact ⟨rfl, iff_of_false (fun h => (nomatch h)) fun h => h ⟨n, e, rfl, hn⟩⟩
    · next hn =>
      refine ⟨rfl, iff_of_true rfl ?_⟩
      rintro ⟨_, _, ⟨⟩, h⟩
      exact hn h

variable (path disk) in
theorem openFresh_cases (fault : Option IoError) :
    (openFresh path disk fault = .ok (Function.update disk path (some (.file 0o600 .empty))) ∧
        fault = none ∧ disk path = none) ∨
      ∃ e, openFresh path disk fault = .error e ∧
        (fault = some e ∨ fault = none ∧ disk path ≠ none ∧ e.alreadyExists = true) := by
  unfold openFresh
  cases fault with
  | some e => exact .inr ⟨e, rfl, .inl rfl⟩
  | none =>
    cases hnode : disk path with
    | none => exact .inl ⟨rfl, rfl, rfl⟩
    | some node => exact .inr ⟨_, rfl, .inr ⟨rfl, Option.some_ne_none node, rfl⟩⟩

variable (path disk) in
theorem removeFile_cases (fault : Option IoError) :
    (removeFile path disk fault = .ok (Function.update disk path none) ∧ fault = none ∧
        ∃ node, disk path = some node ∧ node ≠ .dir) ∨
      ((∃ e, removeFile path disk fault = .error e) ∧
        ¬ (fault = none ∧ ∃ node, disk path = some node ∧ node ≠ .dir)) := by
  unfold removeFile
  cases fault with
  | some e => exact .inr ⟨⟨e, rfl⟩, fun h => (nomatch h.1)⟩
  | none =>
    cases hnode : disk path with
    | none => exact .inr ⟨⟨_, rfl⟩, fun ⟨_, _, h, _⟩ => (nomatch h)⟩
    | some node =>
      cases node with
      | file mode content => exact .inl ⟨rfl, rfl, _, rfl, fun h => (nomatch h)⟩
      | symlink target => exact .inl ⟨rfl, rfl, _, rfl, fun h => (nomatch h)⟩
      | dir => exact .inr ⟨⟨_, rfl⟩, fun ⟨_, _, h, hdir⟩ => hdir (Option.some.inj h).symm⟩

/-- What the writer has before it writes: a fresh file, nothing where something was removed, or what
there was. -/
inductive Opened (path : PathBuf) (disk : Disk) (faults : WriteFaults) :
    Except TunnelError Unit × Disk → Prop
  | fresh (h : faults.Opens (disk path)) :
    Opened path disk faults (.ok (), Function.update disk path (some (.file 0o600 .empty)))
  | gone (e : TunnelError) (h : faults.Removes (disk path)) (hreopen : faults.reopen ≠ none) :
    Opened path disk faults (.error e, Function.update disk path none)
  | kept (e : TunnelError) (hold : disk path = none → faults.openFresh ≠ none)
    (h : ¬ faults.Removes (disk path)) : Opened path disk faults (.error e, disk)

theorem opened_replaceStale (hnone : disk path = none → faults.openFresh ≠ none)
    (hfault : ∀ e, faults.openFresh = some e → e.alreadyExists = true) :
    Opened path disk faults (replaceStale path disk faults) := by
  unfold replaceStale
  obtain ⟨hremove, hnofault, hnode⟩ | ⟨⟨e, hremove⟩, hnot⟩ :=
    removeFile_cases path disk faults.remove
  · have hremoves : faults.Removes (disk path) := ⟨hnode, hnofault, hfault⟩
    rw [hremove]
    dsimp only
    obtain ⟨hopen, hreopen, -⟩ | ⟨e, hopen, hreopen⟩ :=
      openFresh_cases path (Function.update disk path none) faults.reopen
    · rw [hopen, Function.update_idem]
      exact .fresh (.inr ⟨hremoves, hreopen⟩)
    · rw [hopen]
      refine .gone _ hremoves fun hnone => ?_
      obtain h | ⟨-, h, -⟩ := hreopen
      · rw [hnone] at h
        cases h
      · exact h (Function.update_self path none disk)
  · rw [hremove]
    exact .kept _ hnone fun h => hnot ⟨h.2.1, h.1⟩

variable (path disk faults) in
theorem opened_openSecretFile : Opened path disk faults (openSecretFile path disk faults) := by
  unfold openSecretFile
  obtain ⟨hopen, hfault, hnone⟩ | ⟨e, hopen, hwhy⟩ :=
    openFresh_cases path disk faults.openFresh
  · rw [hopen]
    exact .fresh (.inl ⟨hfault, hnone⟩)
  · rw [hopen]
    dsimp only
    split
    · next hexists =>
      refine opened_replaceStale (fun hnone hfault => ?_) fun e' he' => ?_
      · obtain h | ⟨-, h, -⟩ := hwhy
        · rw [hfault] at h
          cases h
        · exact h hnone
      · obtain h | ⟨h, -, -⟩ := hwhy
        · rw [h] at he'
          cases he'
          exact hexists
        · rw [h] at he'
          cases he'
    · next hexists =>
      obtain h | ⟨-, -, h⟩ := hwhy
      · refine .kept _ (fun _ hnone => ?_) fun hremoves => hexists (hremoves.2.2 e h)
        rw [hnone] at h
        cases h
      · exact absurd h hexists

/-- What the writer leaves. -/
inductive Wrote (path : PathBuf) (disk : Disk) (value : String) (faults : WriteFaults) :
    Except TunnelError Unit × Disk → Prop
  | whole (h : faults.Completes value (disk path)) :
    Wrote path disk value faults
      (.ok (), Function.update disk path (some (.file 0o600 value.toByteArray)))
  | cut (e : TunnelError) (h : faults.Opens (disk path)) (hcut : faults.Cuts value) :
    Wrote path disk value faults
      (.error e, Function.update disk path (some (.file 0o600 (faults.written value))))
  | gone (e : TunnelError) (h : faults.Removes (disk path)) (hreopen : faults.reopen ≠ none) :
    Wrote path disk value faults (.error e, Function.update disk path none)
  | kept (e : TunnelError) (hold : disk path = none → faults.openFresh ≠ none)
    (h : ¬ faults.Removes (disk path)) : Wrote path disk value faults (.error e, disk)

variable (path disk value faults) in
theorem wrote_writeSecretFile :
    Wrote path disk value faults (writeSecretFile path disk value faults) := by
  unfold writeSecretFile
  have hopened := opened_openSecretFile path disk faults
  generalize openSecretFile path disk faults = opened at hopened
  cases hopened with
  | gone e h hreopen => exact .gone e h hreopen
  | kept e hold h => exact .kept e hold h
  | fresh h =>
    obtain ⟨hdisk, hok⟩ := writeAll_eq path (Function.update disk path (some (.file 0o600 .empty)))
      value faults
    rw [Function.update_idem] at hdisk
    dsimp only
    generalize writeAll path (Function.update disk path (some (.file 0o600 .empty)))
      value.toByteArray faults.write = result at hdisk hok
    obtain ⟨outcome, disk'⟩ := result
    dsimp only at hdisk hok
    subst hdisk
    cases outcome with
    | ok u =>
      have hcut : ¬ faults.Cuts value := hok.1 rfl
      rw [written_of_not_cuts hcut]
      exact .whole ⟨h, hcut⟩
    | error e => exact .cut _ h (not_not.1 fun hcut => (nomatch hok.2 hcut))

variable (disk value faults) in
theorem writeSecretFile_of_ne {path' : PathBuf} (hne : path' ≠ path) :
    (writeSecretFile path disk value faults).2 path' = disk path' := by
  have hwrote := wrote_writeSecretFile path disk value faults
  generalize writeSecretFile path disk value faults = result at hwrote ⊢
  cases hwrote with
  | whole h => exact Function.update_of_ne hne _ disk
  | cut e h hcut => exact Function.update_of_ne hne _ disk
  | gone e h hreopen => exact Function.update_of_ne hne _ disk
  | kept e hold h => rfl

variable (path disk value faults) in
theorem writeSecretFile_isOk :
    (writeSecretFile path disk value faults).1 = .ok () ↔ faults.Completes value (disk path) := by
  have hwrote := wrote_writeSecretFile path disk value faults
  generalize writeSecretFile path disk value faults = result at hwrote ⊢
  cases hwrote with
  | whole h => exact iff_of_true rfl h
  | cut e h hcut => exact iff_of_false (fun h => (nomatch h)) fun hall => hall.2 hcut
  | gone e h hreopen =>
    refine iff_of_false (fun h => (nomatch h)) fun hall => ?_
    obtain ⟨-, hnone⟩ | ⟨-, hnone⟩ := hall.1
    · obtain ⟨node, hnode, -⟩ := h.1
      rw [hnone] at hnode
      cases hnode
    · exact hreopen hnone
  | kept e hold h =>
    refine iff_of_false (fun h => (nomatch h)) fun hall => ?_
    obtain ⟨hfault, hnone⟩ | ⟨hremoves, -⟩ := hall.1
    · exact hold hnone hfault
    · exact h hremoves

theorem writeSecretFile_ok (h : (writeSecretFile path disk value faults).1 = .ok ()) :
    (writeSecretFile path disk value faults).2 =
      Function.update disk path (some (.file 0o600 value.toByteArray)) := by
  have hwrote := wrote_writeSecretFile path disk value faults
  generalize writeSecretFile path disk value faults = result at hwrote h ⊢
  cases hwrote with
  | whole _ => rfl
  | cut e _ _ => cases h
  | gone e _ _ => cases h
  | kept e _ _ => cases h

/-! ## What a write leaves of the files that were there -/

/-- What the path led to, if it was a file, it leads to with the same content. -/
def Keeps (path : PathBuf) (disk disk' : Disk) : Prop :=
  ∀ mode content, disk.followed path = .ok (.file mode content) →
    ∃ mode', disk'.followed path = .ok (.file mode' content)

/-- A path that led to a file is left alone, or is a file of that content. -/
def Stands (path : PathBuf) (disk disk' : Disk) : Prop :=
  ∀ mode content, disk.followed path = .ok (.file mode content) →
    disk' path = disk path ∨ ∃ mode', disk' path = some (.file mode' content)

/-- More links may be followed. -/
theorem follow_mono {links links' : ℕ} (hle : links ≤ links') {node : Node}
    (h : follow disk links path = .ok node) : follow disk links' path = .ok node := by
  induction links generalizing path links' with
  | zero => cases h
  | succ links ih =>
    obtain ⟨links', rfl⟩ := Nat.exists_eq_add_of_lt hle
    rw [follow] at h ⊢
    split at h
    · cases h
    · exact ih (by omega) h
    · exact h

/-- A file keeps its content under every path that leads to it, over links that are left alone to
one that is, or is that content itself. -/
theorem keeps_of_stands {disk' : Disk} (h : ∀ path, Stands path disk disk') (path : PathBuf) :
    Keeps path disk disk' := by
  have hlinks :
      ∀ links ≤ 41, ∀ path mode content, follow disk links path = .ok (.file mode content) →
      ∃ mode', follow disk' links path = .ok (.file mode' content) := by
    intro links
    induction links with
    | zero => exact fun _ _ _ _ h => (nomatch h)
    | succ links ih =>
      intro hle path mode content hfound
      obtain hsame | ⟨mode', hfile⟩ := h path mode content (follow_mono hle hfound)
      · rw [follow] at hfound ⊢
        rw [hsame]
        split at hfound
        · cases hfound
        · exact ih (Nat.le_of_succ_le hle) _ mode content hfound
        · exact ⟨mode, hfound⟩
      · rw [follow, hfile]
        exact ⟨mode', rfl⟩
  exact hlinks 41 le_rfl path

/-- A path that is left alone, or is no link any more, stands if it keeps what it led to. -/
theorem Keeps.stands {disk' : Disk} (h : Keeps path disk disk')
    (hplain : disk' path = disk path ∨ disk' path = none ∨
      ∃ mode content, disk' path = some (.file mode content)) : Stands path disk disk' := by
  intro mode content hfound
  obtain ⟨mode', hkept⟩ := h mode content hfound
  obtain hsame | hnone | ⟨mode'', content', hfile⟩ := hplain
  · exact .inl hsame
  · rw [Disk.followed, follow, hnone] at hkept
    cases hkept
  · rw [Disk.followed, follow, hfile] at hkept
    cases hkept
    exact .inr ⟨_, hfile⟩

variable (path disk value faults) in
/-- What a write leaves at its path. -/
theorem plain_writeSecretFile : (writeSecretFile path disk value faults).2 path = disk path ∨
    (writeSecretFile path disk value faults).2 path = none ∨
      ∃ mode content, (writeSecretFile path disk value faults).2 path =
        some (.file mode content) := by
  have hwrote := wrote_writeSecretFile path disk value faults
  generalize writeSecretFile path disk value faults = result at hwrote ⊢
  cases hwrote with
  | whole h => exact .inr (.inr ⟨_, _, Function.update_self path _ disk⟩)
  | cut e h hcut => exact .inr (.inr ⟨_, _, Function.update_self path _ disk⟩)
  | gone e h hreopen => exact .inr (.inl (Function.update_self path _ disk))
  | kept e hold h => exact .inl rfl

/-- What is removed is there no longer as it was. -/
theorem ne_of_removes (h : faults.Removes (disk path)) : disk path ≠ none := by
  obtain ⟨⟨node, hnode, -⟩, -⟩ := h
  exact fun hnone => Option.some_ne_none node (hnode.symm.trans hnone)

variable (value faults) in
/-- **A write lets what its path led to stand exactly when it spares it**, on any disk that has the
same at the path. -/
theorem writeSecretFile_stands_iff {disk' : Disk} (hsame : disk' path = disk path) :
    Stands path disk (writeSecretFile path disk' value faults).2 ↔
      faults.Spares value (disk path) (disk.followed path) := by
  have hwrote := wrote_writeSecretFile path disk' value faults
  have hfresh : faults.Opens (disk path) →
      (Stands path disk
          (Function.update disk' path (some (.file 0o600 (faults.written value)))) ↔
        faults.Spares value (disk path) (disk.followed path)) := by
    intro hopens
    refine forall_congr' fun mode => forall_congr' fun content => forall_congr' fun hfound => ?_
    rw [Function.update_self]
    obtain ⟨-, hnone⟩ | ⟨hremoves, hreopen⟩ := hopens
    · rw [Disk.followed, follow, hnone] at hfound
      cases hfound
    · constructor
      · rintro (hfile | ⟨_, ⟨⟩⟩) -
        · rw [Disk.followed, follow, ← hfile] at hfound
          cases hfound
          exact ⟨hreopen, rfl⟩
        · exact ⟨hreopen, rfl⟩
      · intro h
        exact .inr ⟨_, by rw [(h hremoves).2]⟩
  generalize writeSecretFile path disk' value faults = result at hwrote ⊢
  rw [← hsame] at hfresh ⊢
  cases hwrote with
  | whole h =>
    rw [← written_of_not_cuts h.2]
    exact hfresh h.1
  | cut e h hcut => exact hfresh h
  | gone e h hreopen =>
    refine forall_congr' fun mode => forall_congr' fun content => forall_congr' fun hfound => ?_
    dsimp only
    rw [Function.update_self]
    refine iff_of_false ?_ fun hspares => hreopen (hspares h).1
    rintro (hnone | ⟨_, ⟨⟩⟩)
    exact ne_of_removes h (hsame.trans hnone.symm)
  | kept e hold h =>
    exact iff_of_true (fun _ _ _ => .inl hsame) fun _ _ _ hremoves => absurd hremoves h

/-! ## The reader -/

/-- What `fstat` and a read of it give a process of the user that owns it. -/
def Node.descriptor (uid : ℕ) : Node → Descriptor
  | .file mode content =>
    ⟨.ok ⟨true, mode, uid, content.size⟩,
      match String.fromUTF8? content with
      | some body => .ok body
      | none => .error [.lit "stream did not contain valid UTF-8"]⟩
  | .symlink target => ⟨.ok ⟨false, 0o777, uid, target.toByteArray.size⟩, .error []⟩
  | .dir => ⟨.ok ⟨false, 0o700, uid, 0⟩, .error [.lit "Is a directory (os error 21)"]⟩

/-- The disk as a store sees it. -/
def Disk.fileSystem (disk : Disk) (uid : ℕ) : FileSystem := fun path =>
  (disk.followed path).map (Node.descriptor uid)

/-- `check_permissions`. -/
def checkPermissions (fs : FileSystem) (path : PathBuf) : Except TunnelError Unit := do
  let info ← ((fs path).bind (·.metadata)).mapError fun e =>
    secretFileError path (.lit "cannot stat: " :: e)
  let mode := info.mode &&& 0o777
  if mode &&& 0o077 ≠ 0 then
    .error (secretFileError path [.lit "mode ", .lit (.ofList (Nat.toDigits 8 mode)),
      .lit " grants access beyond the owner; must be 600 or stricter"])
  else return ()

/-- `FileSecretStore`, in an environment. -/
def fileSecretStore (env : String → Option String) : SecretStore where
  resolve fs r :=
    match r with
    | .file path => do
      checkPermissions fs path
      let body ← ((fs path).bind (·.body)).mapError fun e =>
        secretFileError path (.lit "cannot read: " :: e)
      return stripOneTrailingLineEnding body
    | .env var =>
      match env var with
      | some value => .ok value
      | none => .error (.config ("env `" ++ var ++ "`") [.lit "not set"])

/-- One line ending is missing at the end, if there was one. -/
def LosesOneEnding (body value : String) : Prop :=
  body = value ++ "\r\n" ∨ (body = value ++ "\n" ∧ value.toList.getLast? ≠ some '\r') ∨
    (body = value ∧ body.toList.getLast? ≠ some '\n')

theorem losesOneEnding_strip (body : String) :
    LosesOneEnding body (stripOneTrailingLineEnding body) := by
  have hback : ∀ ending {rest : List Char}, body.toList.reverse = ending ++ rest →
      body = .ofList rest.reverse ++ .ofList ending.reverse := by
    intro ending rest h
    rw [← String.ofList_append, ← List.reverse_append, ← h, List.reverse_reverse,
      String.ofList_toList]
  rw [stripOneTrailingLineEnding]
  split
  · next rest h => exact .inl (hback ['\n', '\r'] h)
  · next rest hnot h =>
    refine .inr (.inl ⟨hback ['\n'] h, fun hlast => ?_⟩)
    rw [String.toList_ofList, List.getLast?_reverse] at hlast
    obtain ⟨rest, rfl⟩ := List.head?_eq_some_iff.1 hlast
    exact hnot rest rfl
  · next hnot =>
    refine .inr (.inr ⟨rfl, fun hlast => ?_⟩)
    rw [← List.head?_reverse] at hlast
    obtain ⟨rest, h⟩ := List.head?_eq_some_iff.1 hlast
    exact hnot rest h

/-- A written secret is read without the line ending at its end. -/
theorem resolve_of_file {env : String → Option String} {uid : ℕ}
    (h : disk path = some (.file 0o600 value.toByteArray)) :
    (fileSecretStore env).resolve (disk.fileSystem uid) (.file path) =
      .ok (stripOneTrailingLineEnding value) := by
  have hread : String.fromUTF8? value.toByteArray = some value := dif_pos value.isValidUTF8
  have hfs : disk.fileSystem uid path =
      .ok ⟨.ok ⟨true, 0o600, uid, value.toByteArray.size⟩, .ok value⟩ := by
    rw [Disk.fileSystem, Disk.followed, follow, h]
    simp only [Except.map, Node.descriptor, hread]
  have hperm : checkPermissions (disk.fileSystem uid) path = .ok () := by
    rw [checkPermissions, hfs]
    exact if_neg (not_not.2 (show 0o600 &&& 0o777 &&& 0o077 = 0 from rfl))
  simp only [fileSecretStore, hperm, hfs]
  rfl

/-- A store reads a file by what stands at its path. -/
theorem resolve_congr {env : String → Option String} {uid mode : ℕ} {content : ByteArray}
    {disk' : Disk}
    (h : disk path = some (.file mode content)) (h' : disk' path = disk path) :
    (fileSecretStore env).resolve (disk'.fileSystem uid) (.file path) =
      (fileSecretStore env).resolve (disk.fileSystem uid) (.file path) := by
  have hfs : disk'.fileSystem uid path = disk.fileSystem uid path := by
    rw [Disk.fileSystem, Disk.fileSystem, Disk.followed, Disk.followed, follow, follow, h', h]
  simp only [fileSecretStore, checkPermissions, hfs]

end LiosTunnel.Config
