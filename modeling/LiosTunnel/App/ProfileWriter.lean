import Mathlib.Logic.Function.Basic
import LiosTunnel.App.Slug
import LiosTunnel.Lib.Act

/-!
# The writer of profiles

`profile_writer.dart`: a profile is a document in the profiles directory, named after the profile,
and a sidecar with its username; its secrets are files it refers to, and those the app writes stand
in the secrets directory, named after the profile's identifier. Each operation on a file may fail.
Documents are told apart by their paths; a reference may be spelled in any way, so a secret is told
apart by where its path leads.

* `ProfileDto`, `World`, `Store`: the profiles, what the writer runs in, and what it writes to.
* `writeProfile`, `writeSecret`, `duplicate`, `delete`: the operations.
* `keeps_writeProfile`, `keeps_writeSecretBytes`, `triple_duplicate`: what they leave alone.
-/

namespace LiosTunnel.App

open Act

/-! ## Profiles -/

/-- What is thrown, by its text. -/
abbrev Failure := Units

/-- `ProfileDto`, in Dart's strings. -/
structure ProfileDto where
  id : Units
  name : Units
  protocol : Units
  host : Units
  port : ℕ
  authKind : Units
  authSecretSource : Units
  authPassphraseSource : Option Units
  peerPublicKey : Option Units
  cipher : Option Units
  dnsMode : Units
  dnsServers : List Units
  dohSni : Option Units
  dohPath : Option Units
  splitTunnel : Units
  splitTunnelApps : List Units
  killSwitch : Bool
  deriving DecidableEq

/-- What a reference to a file begins with. -/
def filePrefix : Units := units "file:"

/-- The path in a reference to a file. -/
def filePath (ref : Units) : Option Units := ref.dropPrefix? filePrefix

/-- The references of a profile: its secret's and its passphrase's. -/
def ProfileDto.refs (p : ProfileDto) : List Units :=
  p.authSecretSource :: p.authPassphraseSource.toList

/-- The paths of the files a profile refers to. -/
def ProfileDto.filePaths (p : ProfileDto) : List Units := p.refs.filterMap filePath

/-- What the writer runs in: the directory it was made for, the libraries it calls, the Rust
functions behind the FFI, and where a path leads. -/
structure World (L : Type) where
  directory : Units
  toLowerCase : Units → Units
  /-- `utf8.encode`. -/
  encode : Units → List UInt8
  exportProfile : ProfileDto → Except Failure Units
  parseProfile : Units → Option ProfileDto
  checkProfile : ProfileDto → Except Failure Unit
  locate : Units → L

/-- The files: the documents and sidecars by their paths, the secrets by where they are. -/
structure Store (L : Type) where
  entries : Units → Option Units
  files : L → Option (List UInt8)

variable {L : Type} [DecidableEq L]

/-- A document or sidecar as it is after a change. -/
def Store.setEntry (s : Store L) (path : Units) (text : Option Units) : Store L :=
  { s with entries := Function.update s.entries path text }

/-- A secret as it is after a change. -/
def Store.setFile (s : Store L) (l : L) (bytes : Option (List UInt8)) : Store L :=
  { s with files := Function.update s.files l bytes }

@[simp] theorem Store.setFile_files_self (s : Store L) (l : L) (bytes : Option (List UInt8)) :
    (s.setFile l bytes).files l = bytes := by
  dsimp only [Store.setFile]
  rw [Function.update_self]

theorem Store.setFile_files_of_ne (s : Store L) {l l' : L} (h : l' ≠ l)
    (bytes : Option (List UInt8)) :
    (s.setFile l bytes).files l' = s.files l' := by
  dsimp only [Store.setFile]
  rw [Function.update_of_ne h]

omit [DecidableEq L] in
@[simp] theorem Store.setEntry_entries_self (s : Store L) (path : Units) (text : Option Units) :
    (s.setEntry path text).entries path = text := by
  dsimp only [Store.setEntry]
  rw [Function.update_self]

omit [DecidableEq L] in
theorem Store.setEntry_entries_of_ne (s : Store L) {path path' : Units} (h : path' ≠ path)
    (text : Option Units) : (s.setEntry path text).entries path' = s.entries path' := by
  dsimp only [Store.setEntry]
  rw [Function.update_of_ne h]

variable (w : World L)

/-- `secretsDirectory`. -/
def World.secretsDirectory : Units := w.directory ++ units "/secrets"

/-- `secretPathFor`. -/
def World.secretPathFor (profileId : Units) : Units :=
  w.secretsDirectory ++ unit '/' :: slug w.toLowerCase profileId

/-- `passphrasePathFor`. -/
def World.passphrasePathFor (profileId : Units) : Units :=
  w.secretPathFor (profileId ++ units ".passphrase")

/-- `File(path).parent.path`: the path up to the slashes before its last name. -/
def parentPath (path : Units) : Units :=
  let named := path.rdropWhile (· = unit '/')
  let parent := (named.rdropWhile (· ≠ unit '/')).rdropWhile (· = unit '/')
  if parent.isEmpty then if path.head? = some (unit '/') then units "/" else units "." else parent

/-- `_isManaged`. -/
def World.isManaged (ref : Units) : Bool :=
  match filePath ref with
  | some path => parentPath path = w.secretsDirectory
  | none => false

/-- Where a profile's username is. -/
def sidecarPath (path : Units) : Units := path ++ units ".user"

/-! ## Files -/

/-- How a write fails: nothing is written, or so much. -/
inductive WriteFault
  | opening (e : Failure)
  | after (n : ℕ) (e : Failure)
  deriving DecidableEq

/-- An operation whose effects are nothing here. -/
def attempt (fault : Option Failure) : Act (Store L) Failure Unit := ofExcept fun _ =>
  match fault with
  | some e => .error e
  | none => .ok ()

/-- `writeAsStringSync`. -/
def writeEntry (fault : Option WriteFault) (path text : Units) :
    Act (Store L) Failure Unit := fun s =>
  match fault with
  | none => (.ok (), s.setEntry path (some text))
  | some (.opening e) => (.error e, s)
  | some (.after n e) => (.error e, s.setEntry path (some (text.take n)))

/-- `_deleteQuietly` of a document or a sidecar. -/
def deleteEntry (fault : Option Failure) (path : Units) : Act (Store L) Failure Unit := fun s =>
  match s.entries path, fault with
  | none, _ => (.ok (), s)
  | some _, some e => (.error e, s)
  | some _, none => (.ok (), s.setEntry path none)

/-- `createSync` of a secret's file, which leaves one that is there. -/
def createFile (fault : Option Failure) (path : Units) : Act (Store L) Failure Unit := fun s =>
  match fault, s.files (w.locate path) with
  | some e, _ => (.error e, s)
  | none, some _ => (.ok (), s)
  | none, none => (.ok (), s.setFile (w.locate path) (some []))

/-- `writeAsBytesSync`. -/
def writeFile (fault : Option WriteFault) (path : Units) (bytes : List UInt8) :
    Act (Store L) Failure Unit := fun s =>
  match fault with
  | none => (.ok (), s.setFile (w.locate path) (some bytes))
  | some (.opening e) => (.error e, s)
  | some (.after n e) => (.error e, s.setFile (w.locate path) (some (bytes.take n)))

/-- `_deleteQuietly` of a secret. -/
def deleteFile (fault : Option Failure) (path : Units) : Act (Store L) Failure Unit := fun s =>
  match s.files (w.locate path), fault with
  | none, _ => (.ok (), s)
  | some _, some e => (.error e, s)
  | some _, none => (.ok (), s.setFile (w.locate path) none)

/-! ## The operations -/

/-- What the operations of `writeProfile` meet. -/
structure ProfileFaults where
  createDir : Option Failure
  document : Option WriteFault
  sidecar : Option WriteFault
  deleteSidecar : Option Failure
  deleteOld : Option Failure
  deleteOldSidecar : Option Failure
  deriving DecidableEq

/-- What the operations of `_writeSecretBytes` meet. -/
structure SecretFaults where
  createDir : Option Failure
  chmodDir : Option Failure
  create : Option Failure
  chmod : Option Failure
  write : Option WriteFault
  deriving DecidableEq

/-- What the operations of `duplicate` meet. -/
structure DuplicateFaults where
  readSecret : Option Failure
  readPassphrase : Option Failure
  secret : SecretFaults
  passphrase : SecretFaults
  readSidecar : Option Failure
  profile : ProfileFaults
  deleteSecret : Option Failure
  deletePassphrase : Option Failure
  deriving DecidableEq

/-- The username's half of `writeProfile`. -/
def writeSidecar (path : Units) (sshUser : Option Units) (faults : ProfileFaults) :
    Act (Store L) Failure Unit :=
  match sshUser.map (Split.trim isWhitespace) with
  | some (c :: user) => writeEntry faults.sidecar (sidecarPath path) (c :: user)
  | _ => deleteEntry faults.deleteSidecar (sidecarPath path)

/-- What `writeProfile` does to the profile it replaces. -/
def removeReplaced (path : Units) (replacingPath : Option Units) (faults : ProfileFaults) :
    Act (Store L) Failure Unit :=
  match replacingPath with
  | some old =>
    if old ≠ path then do
      deleteEntry faults.deleteOld old
      deleteEntry faults.deleteOldSidecar (sidecarPath old)
    else pure ()
  | none => pure ()

/-- `writeProfile`. -/
def writeProfile (dto : ProfileDto) (sshUser replacingPath : Option Units)
    (faults : ProfileFaults) :
    Act (Store L) Failure Units := do
  let json ← ofExcept fun _ => w.exportProfile dto
  attempt faults.createDir
  let path := documentPath w.toLowerCase w.directory dto.name
  ofExcept fun s =>
    checkNameFree w.toLowerCase (fun path => (s.entries path).isSome) w.directory dto.name
      replacingPath
  writeEntry faults.document path json
  writeSidecar path sshUser faults
  removeReplaced path replacingPath faults
  return path

/-- `_writeSecretBytes`. -/
def writeSecretBytes (profileId : Units) (bytes : List UInt8) (faults : SecretFaults) :
    Act (Store L) Failure Units := do
  attempt faults.createDir
  attempt faults.chmodDir
  let path := w.secretPathFor profileId
  createFile w faults.create path
  attempt faults.chmod
  writeFile w faults.write path bytes
  return filePrefix ++ path

/-- `writeSecret`. -/
def writeSecret (profileId secret : Units) (faults : SecretFaults) : Act (Store L) Failure Units :=
  writeSecretBytes w profileId (w.encode secret) faults

/-- `delete`. -/
def delete (path : Units) (deleteDocument deleteSidecar : Option Failure) :
    Act (Store L) Failure Unit := do
  deleteEntry deleteDocument path
  deleteEntry deleteSidecar (sidecarPath path)

/-- `LoadedProfile`. -/
structure LoadedProfile where
  path : Units
  profile : Option ProfileDto
  deriving DecidableEq

/-- `_readSecretFile`. -/
def readSecretFile (fault : Option Failure) (ref : Units) (missing : Failure) :
    Act (Store L) Failure (List UInt8) := ofExcept fun s =>
  match s.files (w.locate (ref.drop filePrefix.length)), fault with
  | none, _ => .error missing
  | some _, some e => .error e
  | some bytes, none => .ok bytes

/-- A credential that `duplicate` copies, or nothing for one it does not. -/
def readManaged (fault : Option Failure) (ref : Option Units) (missing : Failure) :
    Act (Store L) Failure (Option (List UInt8)) :=
  match ref with
  | some ref =>
    if w.isManaged ref then do return some (← readSecretFile w fault ref missing) else pure none
  | none => pure none

/-- The reference of a copy: to the copied file, or to where the original's is. -/
def copyRef (path ref : Units) : Units := if w.isManaged ref then filePrefix ++ path else ref

/-- The profile that `duplicate` saves. -/
def copyOf (src : ProfileDto) (id name : Units) : ProfileDto :=
  { src with
    id := id
    name := name
    authSecretSource := copyRef w (w.secretPathFor id) src.authSecretSource
    authPassphraseSource := src.authPassphraseSource.map (copyRef w (w.passphrasePathFor id)) }

/-- A credential that was read, written for the copy. -/
def writeCopy (profileId : Units) (bytes : Option (List UInt8)) (faults : SecretFaults) :
    Act (Store L) Failure Unit :=
  match bytes with
  | some bytes => do
    let _ ← writeSecretBytes w profileId bytes faults
    return ()
  | none => pure ()

/-- The secrets that `duplicate` writes. -/
def writeCopies (id : Units) (secret passphrase : Option (List UInt8)) (faults : DuplicateFaults) :
    Act (Store L) Failure Unit := do
  writeCopy w id secret faults.secret
  writeCopy w (id ++ units ".passphrase") passphrase faults.passphrase

/-- The end of `duplicate`, with its `catch`. -/
def saveCopy (copy : ProfileDto) (path : Units) (faults : DuplicateFaults) :
    Act (Store L) Failure Units :=
  onError
    (do
      let sshUser ← ofExcept fun s =>
        match s.entries (sidecarPath path), faults.readSidecar with
        | none, _ => .ok none
        | some _, some e => .error e
        | some user, none => .ok (some user)
      writeProfile w copy sshUser none faults.profile)
    (do
      deleteFile w faults.deleteSecret (w.secretPathFor copy.id)
      deleteFile w faults.deletePassphrase (w.passphrasePathFor copy.id))

/-- `duplicate`, with the identifier `newProfileId` answers; `none` while the search for a name goes
on after so many rounds. -/
def duplicate (source : LoadedProfile) (newProfileId : Except Failure Units) (rounds : ℕ)
    (faults : DuplicateFaults) : Act (Store L) Failure (Option Units) :=
  match source.profile with
  | none => throw (units "a profile that does not parse cannot be duplicated")
  | some src =>
    if filePath src.authSecretSource = none then
      throw (units "this profile's secret is not a file, so there is nothing to copy alongside it")
    else do
      let secret ← readManaged w faults.readSecret (some src.authSecretSource)
        (units "this profile's secret file is missing")
      let passphrase ← readManaged w faults.readPassphrase src.authPassphraseSource
        (units "this profile's passphrase file is missing")
      let found ← ofExcept fun s =>
        .ok (freeName w.toLowerCase (fun path => (s.entries path).isSome) w.directory src.name
          rounds)
      match found with
      | none => return none
      | some name => do
        let id ← ofExcept fun _ => newProfileId
        ofExcept fun _ => w.checkProfile (copyOf w src id name)
        writeCopies w id secret passphrase faults
        let path ← saveCopy w (copyOf w src id name) source.path faults
        return some path

/-! ## What the operations leave alone -/

variable {w} {P : Store L → Prop}

omit [DecidableEq L] in
theorem keeps_attempt (fault : Option Failure) : Keeps P (attempt fault) := keeps_ofExcept

omit [DecidableEq L] in
theorem keeps_writeEntry {fault : Option WriteFault} {path text : Units}
    (h : ∀ s n, P s → P (s.setEntry path (some (text.take n)))) :
    Keeps P (writeEntry fault path text) := by
  intro s hs
  unfold writeEntry
  split
  · have hwhole := h s text.length hs
    rwa [List.take_length] at hwhole
  · exact hs
  · exact h s _ hs

omit [DecidableEq L] in
theorem keeps_deleteEntry {fault : Option Failure} {path : Units}
    (h : ∀ s, P s → P (s.setEntry path none)) : Keeps P (deleteEntry fault path) := by
  intro s hs
  unfold deleteEntry
  split
  · exact hs
  · exact hs
  · exact h s hs

theorem keeps_createFile {fault : Option Failure} {path : Units}
    (h : ∀ s bytes, P s → P (s.setFile (w.locate path) bytes)) :
    Keeps P (createFile w fault path) := by
  intro s hs
  unfold createFile
  split
  · exact hs
  · exact hs
  · exact h s _ hs

theorem keeps_writeFile {fault : Option WriteFault} {path : Units} {bytes : List UInt8}
    (h : ∀ s bytes, P s → P (s.setFile (w.locate path) bytes)) :
    Keeps P (writeFile w fault path bytes) := by
  intro s hs
  unfold writeFile
  split
  · exact h s _ hs
  · exact hs
  · exact h s _ hs

theorem keeps_deleteFile {fault : Option Failure} {path : Units}
    (h : ∀ s, P s → P (s.setFile (w.locate path) none)) : Keeps P (deleteFile w fault path) := by
  intro s hs
  unfold deleteFile
  split
  · exact hs
  · exact hs
  · exact h s hs

omit [DecidableEq L] in
theorem keeps_writeSidecar {path : Units} {sshUser : Option Units} {faults : ProfileFaults}
    (h : ∀ s text, P s → P (s.setEntry (sidecarPath path) text)) :
    Keeps P (writeSidecar path sshUser faults) := by
  unfold writeSidecar
  split
  · exact keeps_writeEntry fun s n hs => h s _ hs
  · exact keeps_deleteEntry fun s hs => h s _ hs

omit [DecidableEq L] in
theorem keeps_removeReplaced {path : Units} {replacingPath : Option Units} {faults : ProfileFaults}
    (h : ∀ old, replacingPath = some old → ∀ s, P s → P (s.setEntry old none))
    (hsidecar : ∀ old, replacingPath = some old → ∀ s, P s →
      P (s.setEntry (sidecarPath old) none)) :
    Keeps P (removeReplaced path replacingPath faults) := by
  unfold removeReplaced
  split
  · next old =>
    split
    · exact keeps_bind (keeps_deleteEntry (h old rfl)) fun _ => keeps_deleteEntry (hsidecar old rfl)
    · exact keeps_pure
  · exact keeps_pure

variable (w) in
/-- The document of a profile, by its name. -/
def World.documentPath (name : Units) : Units := App.documentPath w.toLowerCase w.directory name

variable (w) in
/-- A save under this name lands on nothing but what it replaces. -/
def Free (name : Units) (replacingPath : Option Units) (s : Store L) : Prop :=
  s.entries (w.documentPath name) = none ∨ some (w.documentPath name) = replacingPath

omit [DecidableEq L] in
theorem of_checkNameFree {s : Store L} {name : Units} {replacingPath : Option Units}
    (h : checkNameFree w.toLowerCase (fun path => (s.entries path).isSome) w.directory name
      replacingPath = .ok ()) : Free w name replacingPath s := by
  unfold checkNameFree at h
  dsimp only at h
  split at h
  · cases h
  · next hfree =>
    by_cases hpath : some (w.documentPath name) = replacingPath
    · exact .inr hpath
    · exact .inl (Option.not_isSome_iff_eq_none.1 fun hsome => hfree ⟨hsome, hpath⟩)

omit [DecidableEq L] in
/-- **What a save leaves alone**: it writes the document only where none was, or the replaced
one. -/
theorem keeps_writeProfile {dto : ProfileDto} {sshUser replacingPath : Option Units}
    {faults : ProfileFaults}
    (hdocument : ∀ s json n, w.exportProfile dto = .ok json → P s →
      Free w dto.name replacingPath s →
      P (s.setEntry (w.documentPath dto.name) (some (json.take n))))
    (hsidecar : ∀ s₀, P s₀ → Free w dto.name replacingPath s₀ → ∀ s text, P s →
      P (s.setEntry (sidecarPath (w.documentPath dto.name)) text))
    (hold : ∀ old, replacingPath = some old → ∀ s, P s → P (s.setEntry old none))
    (holdSidecar : ∀ old, replacingPath = some old → ∀ s, P s →
      P (s.setEntry (sidecarPath old) none)) :
    Keeps P (writeProfile w dto sshUser replacingPath faults) := by
  unfold writeProfile
  refine keeps_triple (triple_bind (Q := fun json s => P s ∧ w.exportProfile dto = .ok json)
    (triple_ofExcept (fun s json hs h => ⟨hs, h⟩) fun s hs => hs) fun json s hs => ?_)
  obtain ⟨hs, hjson⟩ := hs
  refine triple_keeps (keeps_bind (keeps_attempt _) fun _ => ?_) s hs
  -- the check holds in the state that the document is written to
  refine keeps_triple (triple_bind (Q := fun _ s => P s ∧ Free w dto.name replacingPath s)
    (triple_ofExcept (fun s _ hs h => ⟨hs, of_checkNameFree h⟩) fun s hs => hs) fun _ s₀ hs₀ => ?_)
  refine triple_bind (P := fun s => P s ∧ Free w dto.name replacingPath s) (Q := fun _ => P)
    (fun s hs => ?_) (fun _ => triple_keeps (keeps_bind (keeps_writeSidecar
      (hsidecar s₀ hs₀.1 hs₀.2)) fun _ => keeps_bind (keeps_removeReplaced hold holdSidecar)
        fun _ => keeps_pure)) s₀ hs₀
  unfold writeEntry
  split
  · have hwhole := hdocument s json json.length hjson hs.1 hs.2
    rwa [List.take_length] at hwhole
  · exact hs.1
  · exact hdocument s json _ hjson hs.1 hs.2

theorem keeps_writeSecretBytes {profileId : Units} {bytes : List UInt8} {faults : SecretFaults}
    (h : ∀ s bytes, P s → P (s.setFile (w.locate (w.secretPathFor profileId)) bytes)) :
    Keeps P (writeSecretBytes w profileId bytes faults) := by
  unfold writeSecretBytes
  exact keeps_bind (keeps_attempt _) fun _ => keeps_bind (keeps_attempt _) fun _ =>
    keeps_bind (keeps_createFile h) fun _ => keeps_bind (keeps_attempt _) fun _ =>
      keeps_bind (keeps_writeFile h) fun _ => keeps_pure

omit [DecidableEq L] in
theorem keeps_readManaged {fault : Option Failure} {ref : Option Units} {missing : Failure} :
    Keeps P (readManaged w fault ref missing) := by
  unfold readManaged
  split
  · split
    · exact keeps_bind keeps_ofExcept fun _ => keeps_pure
    · exact keeps_pure
  · exact keeps_pure

theorem keeps_writeCopy {profileId : Units} {bytes : Option (List UInt8)} {faults : SecretFaults}
    (h : ∀ s bytes, P s → P (s.setFile (w.locate (w.secretPathFor profileId)) bytes)) :
    Keeps P (writeCopy w profileId bytes faults) := by
  unfold writeCopy
  split
  · exact keeps_bind (keeps_writeSecretBytes h) fun _ => keeps_pure
  · exact keeps_pure

theorem keeps_saveCopy {copy : ProfileDto} {path : Units} {faults : DuplicateFaults}
    (hdocument : ∀ s json n, w.exportProfile copy = .ok json → P s →
      s.entries (w.documentPath copy.name) = none →
        P (s.setEntry (w.documentPath copy.name) (some (json.take n))))
    (hsidecar : ∀ s₀, P s₀ → s₀.entries (w.documentPath copy.name) = none → ∀ s text, P s →
      P (s.setEntry (sidecarPath (w.documentPath copy.name)) text))
    (hsecret : ∀ s bytes, P s → P (s.setFile (w.locate (w.secretPathFor copy.id)) bytes))
    (hpassphrase : ∀ s bytes, P s → P (s.setFile (w.locate (w.passphrasePathFor copy.id)) bytes)) :
    Keeps P (saveCopy w copy path faults) := by
  have hfree {s : Store L} (h : Free w copy.name none s) :
      s.entries (w.documentPath copy.name) = none :=
    h.resolve_right fun h => (nomatch h)
  unfold saveCopy
  exact keeps_onError (keeps_bind keeps_ofExcept fun _ => keeps_writeProfile
    (fun s json n hjson hs h => hdocument s json n hjson hs (hfree h))
    (fun s₀ hs₀ h => hsidecar s₀ hs₀ (hfree h)) (fun _ h => (nomatch h)) fun _ h => (nomatch h))
    (keeps_bind (keeps_deleteFile fun s => hsecret s _) fun _ =>
      keeps_deleteFile fun s => hpassphrase s _)

/-- **What a duplicate leaves alone**: it writes one document where none was, with its sidecar, and
the two files of the new identifier. -/
theorem keeps_duplicate {source : LoadedProfile} {newProfileId : Except Failure Units} {rounds : ℕ}
    {faults : DuplicateFaults}
    (hdocument : ∀ src id name, source.profile = some src → newProfileId = .ok id →
      ∀ s json n, w.exportProfile (copyOf w src id name) = .ok json → P s →
        s.entries (w.documentPath name) = none →
          P (s.setEntry (w.documentPath name) (some (json.take n))))
    (hsidecar : ∀ name s₀, P s₀ → s₀.entries (w.documentPath name) = none → ∀ s text, P s →
      P (s.setEntry (sidecarPath (w.documentPath name)) text))
    (hsecret : ∀ id, newProfileId = .ok id → ∀ s bytes, P s →
      P (s.setFile (w.locate (w.secretPathFor id)) bytes))
    (hpassphrase : ∀ id, newProfileId = .ok id → ∀ s bytes, P s →
      P (s.setFile (w.locate (w.passphrasePathFor id)) bytes)) :
    Keeps P (duplicate w source newProfileId rounds faults) := by
  unfold duplicate
  split
  · exact keeps_throw
  · next src hsrc =>
    split
    · exact keeps_throw
    · refine keeps_bind keeps_readManaged fun _ => keeps_bind keeps_readManaged fun _ =>
        keeps_bind keeps_ofExcept fun found => ?_
      split
      · exact keeps_pure
      · next name =>
        refine keeps_triple (triple_bind (Q := fun id s => P s ∧ newProfileId = .ok id)
          (triple_ofExcept (fun s id hs hid => ⟨hs, hid⟩) fun s hs => hs) fun id s hs => ?_)
        obtain ⟨hs, hid⟩ := hs
        refine triple_keeps (keeps_bind keeps_ofExcept fun _ => keeps_bind (keeps_bind
          (keeps_writeCopy (hsecret id hid)) fun _ => keeps_writeCopy (hpassphrase id hid)) fun _ =>
            keeps_bind (keeps_saveCopy (hdocument src id name hsrc hid) (hsidecar name)
              (hsecret id hid) (hpassphrase id hid)) fun _ => keeps_pure) s hs

/-! ## What a failed duplicate leaves behind -/

/-- The write of a secret fails before its file is there. -/
def SecretFaults.Early (faults : SecretFaults) : Prop :=
  faults.createDir ≠ none ∨ faults.chmodDir ≠ none ∨ faults.create ≠ none

/-- The write of a secret does not fail once its file is there. -/
def SecretFaults.Sound (faults : SecretFaults) : Prop := faults.chmod = none ∧ faults.write = none

/-- Nothing fails between the first secret's file and the document, and what is cleaned up can be
deleted. -/
structure NoLeftover (copySecret copyPassphrase : Bool) (faults : DuplicateFaults) : Prop where
  secret : copySecret = true → faults.secret.Early ∨ faults.secret.Sound
  passphrase : copyPassphrase = true →
    if copySecret then faults.secret.Early ∨ (¬ faults.passphrase.Early ∧ faults.passphrase.Sound)
    else faults.passphrase.Early ∨ faults.passphrase.Sound
  deleteSecret : faults.deleteSecret = none
  deletePassphrase : faults.deletePassphrase = none

omit [DecidableEq L] in
theorem triple_attempt (fault : Option Failure) :
    Triple P (attempt fault) (fun _ s => P s ∧ fault = none) P := by
  refine triple_ofExcept (fun s _ hs h => ⟨hs, ?_⟩) fun s hs => hs
  cases fault with
  | none => rfl
  | some e => cases h

omit [DecidableEq L] in
theorem triple_attempt_none {E : Store L → Prop} : Triple P (attempt none) (fun _ => P) E :=
  fun _ hs => hs

/-- An early failure leaves everything as it was. -/
theorem triple_writeSecretBytes_early {profileId : Units} {bytes : List UInt8}
    {faults : SecretFaults} (h : faults.Early) :
    Triple P (writeSecretBytes w profileId bytes faults) (fun _ _ => False) P := by
  unfold writeSecretBytes
  refine triple_bind (triple_attempt _) fun _ => triple_bind (Q := fun _ s => P s ∧
    faults.createDir = none ∧ faults.chmodDir = none) ?_ fun _ =>
    triple_bind (Q := fun _ _ => False)
      ?_ fun _ s hs => hs.elim
  · exact triple_mono (triple_attempt _) (fun s hs => hs) (fun _ s hs => ⟨hs.1.1, hs.1.2, hs.2⟩)
      fun s hs => hs.1
  · rintro s ⟨hs, hdir, hchmod⟩
    unfold createFile
    obtain hearly | hearly | hearly := h
    · exact absurd hdir hearly
    · exact absurd hchmod hearly
    · split
      · exact hs
      · next hcreate _ => exact absurd hcreate hearly
      · next hcreate _ => exact absurd hcreate hearly

/-- A write that does not fail. -/
theorem triple_writeSecretBytes_sound {profileId : Units} {bytes : List UInt8}
    {faults : SecretFaults}
    {E : Store L → Prop} (hearly : ¬ faults.Early) (hsound : faults.Sound)
    (h : ∀ s bytes, P s → P (s.setFile (w.locate (w.secretPathFor profileId)) bytes)) :
    Triple P (writeSecretBytes w profileId bytes faults) (fun _ => P) E := by
  obtain ⟨hdir, hearly⟩ := not_or.1 hearly
  obtain ⟨hchmodDir, hcreate⟩ := not_or.1 hearly
  obtain ⟨hchmod, hwrite⟩ := hsound
  unfold writeSecretBytes
  rw [not_not.1 hdir, not_not.1 hchmodDir, not_not.1 hcreate, hchmod, hwrite]
  refine triple_bind triple_attempt_none fun _ => triple_bind triple_attempt_none fun _ =>
    triple_bind (Q := fun _ => P) ?_ fun _ => triple_bind triple_attempt_none fun _ =>
      triple_bind (Q := fun _ => P) (fun s hs => h s _ hs) fun _ => triple_pure fun s hs => hs
  intro s hs
  unfold createFile
  split
  · next h => cases h
  · exact hs
  · exact h s _ hs

/-- No other file than those of an identifier is changed. -/
def Outside (w : World L) (F : L → Option (List UInt8)) (id : Units) (s : Store L) : Prop :=
  ∀ l, l ≠ w.locate (w.secretPathFor id) → l ≠ w.locate (w.passphrasePathFor id) → s.files l = F l

/-- No file is new. -/
def NoNew (F : L → Option (List UInt8)) (s : Store L) : Prop := ∀ l, F l = none → s.files l = none

variable {F : L → Option (List UInt8)} {id : Units} {faults : DuplicateFaults}

theorem Outside.secret {s : Store L} (h : Outside w F id s) (bytes : Option (List UInt8)) :
    Outside w F id (s.setFile (w.locate (w.secretPathFor id)) bytes) := fun l hsecret hpassphrase =>
  (s.setFile_files_of_ne hsecret bytes).trans (h l hsecret hpassphrase)

theorem Outside.passphrase {s : Store L} (h : Outside w F id s) (bytes : Option (List UInt8)) :
    Outside w F id (s.setFile (w.locate (w.passphrasePathFor id)) bytes) :=
  fun l hsecret hpassphrase =>
    (s.setFile_files_of_ne hpassphrase bytes).trans (h l hsecret hpassphrase)

omit [DecidableEq L] in
theorem triple_readManaged {fault : Option Failure} {ref : Option Units} {missing : Failure} :
    Triple P (readManaged w fault ref missing)
      (fun bytes s => P s ∧ bytes.isSome = ref.any w.isManaged) P := by
  unfold readManaged
  split
  · next ref =>
    split
    · next hmanaged =>
      exact triple_bind (Q := fun _ => P) (triple_ofExcept (fun s _ hs _ => hs) fun s hs => hs)
        fun bytes => triple_pure fun s hs => ⟨hs, hmanaged.symm⟩
    · next hmanaged =>
      exact triple_pure fun s hs => ⟨hs, (Bool.eq_false_of_not_eq_true hmanaged).symm⟩
  · exact triple_pure fun s hs => ⟨hs, rfl⟩

theorem triple_writeCopies {secret passphrase : Option (List UInt8)}
    (h : NoLeftover secret.isSome passphrase.isSome faults) :
    Triple (fun s => s.files = F) (writeCopies w id secret passphrase faults)
      (fun _ => Outside w F id) (fun s => s.files = F) := by
  have hsame (s : Store L) (hs : s.files = F) : Outside w F id s := fun l _ _ => congrFun hs l
  unfold writeCopies
  cases secret with
  | none =>
    refine triple_bind (Q := fun _ s => s.files = F) (triple_pure fun s hs => hs) fun _ => ?_
    cases passphrase with
    | none => exact triple_pure hsame
    | some bytes =>
      by_cases hearly : faults.passphrase.Early
      · exact triple_bind (triple_writeSecretBytes_early hearly) fun _ s hs => hs.elim
      · have hsound : faults.passphrase.Sound := (h.passphrase rfl).resolve_left hearly
        exact triple_bind (triple_mono (triple_writeSecretBytes_sound (P := Outside w F id)
          (E := fun s => s.files = F) hearly hsound fun s bytes hs => hs.passphrase bytes) hsame
            (fun _ _ hs => hs) fun _ hs => hs) fun _ => triple_pure fun s hs => hs
  | some bytes =>
    by_cases hearly : faults.secret.Early
    · exact triple_bind (triple_bind (triple_writeSecretBytes_early hearly) fun _ s hs => hs.elim)
        fun _ s hs => (hs : False).elim
    · have hsound : faults.secret.Sound := (h.secret rfl).resolve_left hearly
      refine triple_bind (triple_bind (triple_mono (triple_writeSecretBytes_sound
        (P := Outside w F id) (E := fun s => s.files = F) hearly hsound fun s bytes hs =>
          hs.secret bytes) hsame (fun _ _ hs => hs) fun _ hs => hs) fun _ =>
            triple_pure (Q := fun _ => Outside w F id) fun s hs => hs) fun _ => ?_
      cases passphrase with
      | none => exact triple_pure fun s hs => hs
      | some bytes =>
        obtain ⟨hnot, hsound⟩ := (h.passphrase rfl).resolve_left hearly
        exact triple_bind (triple_writeSecretBytes_sound (P := Outside w F id)
          (E := fun s => s.files = F) hnot hsound fun s bytes hs => hs.passphrase bytes) fun _ =>
            triple_pure fun s hs => hs

theorem triple_deleteFile {path : Units} {E : Store L → Prop}
    (h : ∀ s bytes, P s → P (s.setFile (w.locate path) bytes)) :
    Triple P (deleteFile w none path) (fun _ s => P s ∧ s.files (w.locate path) = none) E := by
  intro s hs
  unfold deleteFile
  split
  · next hnone => exact ⟨hs, hnone⟩
  · next hfault => cases hfault
  · exact ⟨h s none hs, s.setFile_files_self _ none⟩

/-- A save that fails takes the copied secrets away. -/
theorem triple_saveCopy {copy : ProfileDto} {path : Units} (hid : copy.id = id)
    (hsecret : faults.deleteSecret = none) (hpassphrase : faults.deletePassphrase = none) :
    Triple (Outside w F id) (saveCopy w copy path faults) (fun _ _ => True) (NoNew F) := by
  subst hid
  unfold saveCopy
  rw [hsecret, hpassphrase]
  refine triple_onError (triple_mono (triple_keeps (keeps_bind keeps_ofExcept fun _ =>
    keeps_writeProfile (P := Outside w F copy.id) (fun s _ _ _ hs _ => hs) (fun _ _ _ s _ hs => hs)
      (fun _ h => (nomatch h)) fun _ h => (nomatch h))) (fun _ hs => hs) (fun _ _ _ => trivial)
        fun _ hs => hs) ?_
  refine triple_bind (triple_deleteFile fun s bytes hs => hs.secret bytes) fun _ => ?_
  refine triple_mono (triple_deleteFile (E := NoNew F) (P := fun s => Outside w F copy.id s ∧
    (s.files (w.locate (w.secretPathFor copy.id)) = none ∨
      w.locate (w.secretPathFor copy.id) = w.locate (w.passphrasePathFor copy.id))) ?_)
    (fun s hs => ⟨hs.1, .inl hs.2⟩) (fun _ s hs l hl => ?_) fun _ hs => hs
  · rintro s bytes ⟨hs, hgone⟩
    refine ⟨hs.passphrase bytes, ?_⟩
    by_cases hsame : w.locate (w.secretPathFor copy.id) = w.locate (w.passphrasePathFor copy.id)
    · exact .inr hsame
    · exact .inl ((s.setFile_files_of_ne hsame bytes).trans (hgone.resolve_right hsame))
  · obtain ⟨⟨houtside, hgone⟩, hnone⟩ := hs
    by_cases hpass : l = w.locate (w.passphrasePathFor copy.id)
    · rw [hpass, hnone]
    · by_cases hsec : l = w.locate (w.secretPathFor copy.id)
      · rw [hsec] at hpass ⊢
        exact hgone.resolve_right hpass
      · rw [houtside l hsec hpass, hl]

/-- **A duplicate that fails leaves no new secret behind**, if nothing fails in between. -/
theorem triple_duplicate {source : LoadedProfile} {newProfileId : Except Failure Units} {rounds : ℕ}
    (h : ∀ src, source.profile = some src → NoLeftover (w.isManaged src.authSecretSource)
      (src.authPassphraseSource.any w.isManaged) faults) :
    Triple (fun s => s.files = F) (duplicate w source newProfileId rounds faults) (fun _ _ => True)
      (NoNew F) := by
  have hnew (s : Store L) (hs : s.files = F) : NoNew F s := fun l hl => (congrFun hs l).trans hl
  unfold duplicate
  split
  · exact triple_throw hnew
  · next src hsrc =>
    have hleft := h src hsrc
    split
    · exact triple_throw hnew
    · refine triple_bind (triple_mono triple_readManaged (fun s hs => hs) (fun _ s hs => hs) hnew)
        fun secret s hs => ?_
      obtain ⟨hs, hsecret⟩ := hs
      rw [← show secret.isSome = w.isManaged src.authSecretSource from hsecret] at hleft
      refine triple_bind (triple_mono triple_readManaged (fun s hs => hs) (fun _ s hs => hs) hnew)
        (fun passphrase s hs => ?_) s hs
      obtain ⟨hs, hpassphrase⟩ := hs
      rw [← hpassphrase] at hleft
      refine triple_bind (Q := fun _ s => s.files = F) (triple_ofExcept (fun s _ hs _ => hs) hnew)
        (fun found => ?_) s hs
      split
      · exact triple_pure fun _ _ => trivial
      · refine triple_bind (Q := fun _ s => s.files = F) (triple_ofExcept (fun s _ hs _ => hs) hnew)
          fun id => ?_
        refine triple_bind (Q := fun _ s => s.files = F) (triple_ofExcept (fun s _ hs _ => hs) hnew)
          fun _ => ?_
        refine triple_bind
          (triple_mono (triple_writeCopies hleft) (fun s hs => hs) (fun _ s hs => hs)
          hnew) fun _ => ?_
        exact triple_bind (triple_saveCopy rfl hleft.deleteSecret hleft.deletePassphrase) fun _ =>
          triple_pure fun _ _ => trivial

end LiosTunnel.App
