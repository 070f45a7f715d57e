import LiosTunnel.Config.Files
import LiosTunnel.Config.Texts
import LiosTunnel.Lib.Runs
import LiosTunnel.Lib.Split

/-!
# Portable profiles

`PortableProfile::import` and `export` of `config/portable.rs`. A portable profile holds its
secrets; an import puts each into a file named by the profile's identifier and the secret's field,
and an export reads them back. An import over an identifier that is there already removes the old
files first.

* `PortableProfile.import`, `PortableProfile.export`: the two directions.
* `Imports`, `importStep`: a run of imports into one directory.
* `imports_round_trip`: what the exports give after any run.
* `import_intact_iff`: exactly when a failed import leaves what was there.
-/

namespace LiosTunnel.Config

open Split

/-! ## Profiles with their secrets -/

/-- `PortableAuth`. -/
inductive PortableAuth
  | password (password : String)
  | privateKey (privateKey : String) (passphrase : Option String)
  | presharedKey (privateKey peerPublicKey : String)
  | shadowsocks (method password : String)
  deriving DecidableEq, Repr

/-- `PortableProfile`. -/
structure PortableProfile where
  id : BitVec 128
  name : String
  protocol : ProtocolKind
  host : String
  port : BitVec 16
  auth : PortableAuth
  dns : DnsConfig
  splitTunnel : SplitTunnelRule
  killSwitch : Bool
  deriving DecidableEq, Repr

/-- The same credential with its secrets changed. -/
def PortableAuth.map (f : String → String) : PortableAuth → PortableAuth
  | .password pw => .password (f pw)
  | .privateKey key passphrase => .privateKey (f key) (passphrase.map f)
  | .presharedKey key peer => .presharedKey (f key) peer
  | .shadowsocks method pw => .shadowsocks method (f pw)

/-- The profile that an import returns, with its credential. -/
def PortableProfile.withAuth (p : PortableProfile) (auth : AuthMethod) : ServerProfile :=
  ⟨p.id, p.name, p.protocol, p.host, p.port, auth, p.dns, p.splitTunnel, p.killSwitch⟩

/-! ## The two directions -/

/-- What the operations of an import meet: the creation of the directory, and each secret's
write. -/
structure ImportFaults where
  createDir : Option IoError
  first : WriteFaults
  second : WriteFaults
  deriving DecidableEq, Repr

variable (texts : Texts) (dir : PathBuf) (p : PortableProfile) (faults : ImportFaults) (disk : Disk)

/-- The file of a secret. -/
def secretPath (id : BitVec 128) (field : String) : PathBuf :=
  dir.join (texts.uuid id ++ "." ++ field)

/-- `write` of `import`. -/
def importSecret (field value : String) (faults : WriteFaults) (disk : Disk) :
    Except TunnelError SecretRef × Disk :=
  let path := secretPath texts dir p.id field
  match writeSecretFile path disk value faults with
  | (.ok (), disk) => (.ok (.file path), disk)
  | (.error e, disk) => (.error e, disk)

/-- The credential of `import`. -/
def importAuth : Except TunnelError AuthMethod × Disk :=
  match p.auth with
  | .password pw =>
    match importSecret texts dir p "password" pw faults.first disk with
    | (.ok r, disk) => (.ok (.password r), disk)
    | (.error e, disk) => (.error e, disk)
  | .privateKey key passphrase =>
    match importSecret texts dir p "private_key" key faults.first disk with
    | (.error e, disk) => (.error e, disk)
    | (.ok keyRef, disk) =>
      match passphrase with
      | none => (.ok (.privateKey keyRef none), disk)
      | some passphrase =>
        match importSecret texts dir p "passphrase" passphrase faults.second disk with
        | (.ok r, disk) => (.ok (.privateKey keyRef (some r)), disk)
        | (.error e, disk) => (.error e, disk)
  | .presharedKey key peer =>
    match importSecret texts dir p "private_key" key faults.first disk with
    | (.ok r, disk) => (.ok (.presharedKey r peer), disk)
    | (.error e, disk) => (.error e, disk)
  | .shadowsocks method pw =>
    match importSecret texts dir p "password" pw faults.first disk with
    | (.ok r, disk) => (.ok (.shadowsocks method r), disk)
    | (.error e, disk) => (.error e, disk)

/-- `PortableProfile::import`. -/
def PortableProfile.import : Except TunnelError ServerProfile × Disk :=
  match faults.createDir with
  | some e => (.error (.config ("secret dir " ++ dir) (.lit "cannot create: " :: e.display)), disk)
  | none =>
    match importAuth texts dir p faults disk with
    | (.ok auth, disk) => (.ok (p.withAuth auth), disk)
    | (.error e, disk) => (.error e, disk)

/-- The credential of `export`. -/
def exportAuth (store : SecretStore) (fs : FileSystem) (auth : AuthMethod) :
    Except TunnelError PortableAuth :=
  match auth with
  | .password r => do return .password (← store.resolve fs r)
  | .privateKey keyRef passphrase => do
    let key ← store.resolve fs keyRef
    match passphrase with
    | none => return .privateKey key none
    | some r => return .privateKey key (some (← store.resolve fs r))
  | .presharedKey r peer => do return .presharedKey (← store.resolve fs r) peer
  | .shadowsocks method r => do return .shadowsocks method (← store.resolve fs r)

/-- `PortableProfile::export`. -/
def PortableProfile.export (store : SecretStore) (fs : FileSystem) (profile : ServerProfile) :
    Except TunnelError PortableProfile := do
  let auth ← exportAuth store fs profile.auth
  return ⟨profile.id, profile.name, profile.protocol, profile.host, profile.port, auth, profile.dns,
    profile.splitTunnel, profile.killSwitch⟩

/-! ## What an import writes -/

/-- The fields of a credential that are secrets, in the order of their writes. -/
def PortableAuth.secrets : PortableAuth → List (String × String)
  | .password pw => [("password", pw)]
  | .privateKey key passphrase =>
    ("private_key", key) :: passphrase.toList.map fun p => ("passphrase", p)
  | .presharedKey key _ => [("private_key", key)]
  | .shadowsocks _ pw => [("password", pw)]

/-- The credential with a reference for each secret. -/
def PortableAuth.refs (ref : String → SecretRef) : PortableAuth → AuthMethod
  | .password _ => .password (ref "password")
  | .privateKey _ passphrase =>
    .privateKey (ref "private_key") (passphrase.map fun _ => ref "passphrase")
  | .presharedKey _ peer => .presharedKey (ref "private_key") peer
  | .shadowsocks method _ => .shadowsocks method (ref "password")

/-- What the import of a profile returns. -/
def PortableProfile.returned : ServerProfile :=
  p.withAuth (p.auth.refs fun field => .file (secretPath texts dir p.id field))

/-- A profile's secrets with what their writes meet. -/
def PortableProfile.writes : List ((String × String) × WriteFaults) :=
  p.auth.secrets.zip [faults.first, faults.second]

/-- Secrets written one after another. -/
def writeSecrets (id : BitVec 128) :
    List ((String × String) × WriteFaults) → Disk → Except TunnelError Unit × Disk
  | [], disk => (.ok (), disk)
  | (secret, faults) :: rest, disk =>
    match writeSecretFile (secretPath texts dir id secret.1) disk secret.2 faults with
    | (.ok (), disk) => writeSecrets id rest disk
    | (.error e, disk) => (.error e, disk)

/-- An import writes the secrets of the profile. -/
theorem importAuth_eq :
    importAuth texts dir p faults disk =
      ((writeSecrets texts dir p.id (p.writes faults) disk).1.map fun _ =>
          p.auth.refs fun field => .file (secretPath texts dir p.id field),
        (writeSecrets texts dir p.id (p.writes faults) disk).2) := by
  unfold importAuth importSecret PortableProfile.writes
  cases p.auth with
  | password pw =>
    simp only [PortableAuth.secrets, List.zip_cons_cons, List.zip_nil_left, writeSecrets]
    generalize writeSecretFile _ disk pw faults.first = result
    obtain ⟨_ | _, disk⟩ := result <;> rfl
  | privateKey key passphrase =>
    cases passphrase with
    | none =>
      simp only [PortableAuth.secrets, Option.toList_none, List.map_nil, List.zip_cons_cons,
        List.zip_nil_left, writeSecrets]
      generalize writeSecretFile _ disk key faults.first = result
      obtain ⟨_ | _, disk⟩ := result <;> rfl
    | some passphrase =>
      simp only [PortableAuth.secrets, Option.toList_some, List.map_cons, List.map_nil,
        List.zip_cons_cons, List.zip_nil_left, writeSecrets]
      generalize writeSecretFile _ disk key faults.first = result
      obtain ⟨_ | _, disk⟩ := result
      · rfl
      · dsimp only
        generalize writeSecretFile _ disk passphrase faults.second = result
        obtain ⟨_ | _, disk⟩ := result <;> rfl
  | presharedKey key peer =>
    simp only [PortableAuth.secrets, List.zip_cons_cons, List.zip_nil_left, writeSecrets]
    generalize writeSecretFile _ disk key faults.first = result
    obtain ⟨_ | _, disk⟩ := result <;> rfl
  | shadowsocks method pw =>
    simp only [PortableAuth.secrets, List.zip_cons_cons, List.zip_nil_left, writeSecrets]
    generalize writeSecretFile _ disk pw faults.first = result
    obtain ⟨_ | _, disk⟩ := result <;> rfl

theorem nodup_secrets (auth : PortableAuth) : (auth.secrets.map Prod.fst).Nodup := by
  cases auth with
  | password pw => exact List.nodup_singleton _
  | privateKey key passphrase =>
    cases passphrase with
    | none => exact List.nodup_singleton _
    | some passphrase => show ["private_key", "passphrase"].Nodup; decide
  | presharedKey key peer => exact List.nodup_singleton _
  | shadowsocks method pw => exact List.nodup_singleton _

theorem dot_notMem_field {auth : PortableAuth} {secret : String × String}
    (h : secret ∈ auth.secrets) : '.' ∉ secret.1.toList := by
  have hfield : secret.1 ∈ ["password", "private_key", "passphrase"] := by
    cases auth with
    | password pw => simp_all [PortableAuth.secrets]
    | privateKey key passphrase =>
      obtain rfl | h := List.mem_cons.1 h
      · exact List.mem_cons_of_mem _ List.mem_cons_self
      · obtain ⟨p, -, rfl⟩ := List.mem_map.1 h
        exact List.mem_cons_of_mem _ (List.mem_cons_of_mem _ List.mem_cons_self)
    | presharedKey key peer => simp_all [PortableAuth.secrets]
    | shadowsocks method pw => simp_all [PortableAuth.secrets]
  generalize secret.1 = field at hfield
  revert field
  decide

/-- The secrets that are written are those of the profile. -/
theorem map_fst_writes : (p.writes faults).map Prod.fst = p.auth.secrets := by
  refine List.map_fst_zip ?_
  cases p.auth with
  | password pw => exact Nat.le_succ 1
  | privateKey key passphrase =>
    cases passphrase with
    | none => exact Nat.le_succ 1
    | some passphrase => exact le_rfl
  | presharedKey key peer => exact Nat.le_succ 1
  | shadowsocks method pw => exact Nat.le_succ 1

variable {texts dir p faults disk}

theorem secretPath_inj_field {id : BitVec 128} {field field' : String} :
    secretPath texts dir id field = secretPath texts dir id field' ↔ field = field' := by
  unfold secretPath
  rw [PathBuf.join_inj]
  exact String.append_right_inj _

/-- Secrets of different profiles, or of different fields, are in different files. -/
theorem secretPath_inj (hids : texts.ReadsIds) {id id' : BitVec 128} {field field' : String}
    (hfield : '.' ∉ field.toList) (hfield' : '.' ∉ field'.toList)
    (h : secretPath texts dir id field = secretPath texts dir id' field') :
    id = id' ∧ field = field' := by
  have hlist : (texts.uuid id).toList ++ '.' :: field.toList =
      (texts.uuid id').toList ++ '.' :: field'.toList := by
    have htext := congrArg String.toList (PathBuf.join_inj.1 h)
    simpa using htext
  have hsplit : rsplitOnce '.' ((texts.uuid id).toList ++ '.' :: field.toList) =
      some ((texts.uuid id).toList, field.toList) := rsplitOnce_eq_some_iff.2 ⟨rfl, hfield⟩
  have hsplit' : rsplitOnce '.' ((texts.uuid id').toList ++ '.' :: field'.toList) =
      some ((texts.uuid id').toList, field'.toList) := rsplitOnce_eq_some_iff.2 ⟨rfl, hfield'⟩
  rw [hlist, hsplit'] at hsplit
  obtain ⟨hid, hname⟩ := Prod.mk.inj (Option.some.inj hsplit)
  exact ⟨(hids.injective (String.toList_inj.1 hid)).symm, (String.toList_inj.1 hname).symm⟩

variable (texts dir disk) in
/-- Every write gets its secret to its file. -/
def CompletesAll (id : BitVec 128) (l : List ((String × String) × WriteFaults)) : Prop :=
  ∀ w ∈ l, w.2.Completes w.1.2 (disk (secretPath texts dir id w.1.1))

section Writes

variable {id : BitVec 128} {l : List ((String × String) × WriteFaults)}

/-- A write touches no other secret's file. -/
theorem writeSecrets_of_ne {path : PathBuf}
    (hne : ∀ w ∈ l, path ≠ secretPath texts dir id w.1.1) (disk : Disk) :
    (writeSecrets texts dir id l disk).2 path = disk path := by
  induction l generalizing disk with
  | nil => rfl
  | cons w l ih =>
    obtain ⟨secret, faults⟩ := w
    have hother := writeSecretFile_of_ne disk secret.2 faults (hne _ List.mem_cons_self)
    rw [writeSecrets]
    generalize writeSecretFile _ disk secret.2 faults = result at hother
    obtain ⟨outcome, disk'⟩ := result
    cases outcome with
    | error e => exact hother
    | ok u => exact (ih (fun w hw => hne w (List.mem_cons_of_mem _ hw)) disk').trans hother

/-- Distinct fields, so distinct files. -/
theorem path_ne_of_nodup {secret : String × String} {faults : WriteFaults}
    (hnodup : (((secret, faults) :: l).map fun w => w.1.1).Nodup) :
    ∀ w ∈ l, secretPath texts dir id secret.1 ≠ secretPath texts dir id w.1.1 := by
  intro w hw heq
  have hnot := (List.nodup_cons.1 hnodup).1
  exact hnot (List.mem_map.2 ⟨w, hw, (secretPath_inj_field.1 heq).symm⟩)

/-- Secrets that were all written are in their files. -/
theorem writeSecrets_ok (hnodup : (l.map fun w => w.1.1).Nodup)
    (h : (writeSecrets texts dir id l disk).1 = .ok ()) :
    ∀ w ∈ l, (writeSecrets texts dir id l disk).2 (secretPath texts dir id w.1.1) =
      some (.file 0o600 w.1.2.toByteArray) := by
  induction l generalizing disk with
  | nil => exact fun w hw => absurd hw List.not_mem_nil
  | cons w l ih =>
    obtain ⟨secret, faults⟩ := w
    have hrest : ∀ w ∈ l, secretPath texts dir id secret.1 ≠ secretPath texts dir id w.1.1 :=
      path_ne_of_nodup hnodup
    have hwritten (h : (writeSecretFile (secretPath texts dir id secret.1) disk secret.2 faults).1 =
      .ok ()) := writeSecretFile_ok h
    rw [writeSecrets] at h ⊢
    generalize writeSecretFile _ disk secret.2 faults = result at h hwritten ⊢
    obtain ⟨outcome, disk'⟩ := result
    cases outcome with
    | error e => cases h
    | ok u =>
      intro w hw
      obtain rfl | hw := List.mem_cons.1 hw
      · dsimp only at hwritten ⊢
        rw [writeSecrets_of_ne hrest, hwritten rfl, Function.update_self]
      · exact ih (List.nodup_cons.1 hnodup).2 h w hw

/-- Whether the writes get through is settled by what stands at their files. -/
theorem completesAll_congr {disk' : Disk}
    (h : ∀ w ∈ l, disk' (secretPath texts dir id w.1.1) = disk (secretPath texts dir id w.1.1)) :
    CompletesAll texts dir disk' id l ↔ CompletesAll texts dir disk id l :=
  forall₂_congr fun w hw => by rw [h w hw]

/-- A write's effect on the files of the writes after it. -/
theorem rest_of_nodup {secret : String × String} {faults : WriteFaults}
    (hnodup : (((secret, faults) :: l).map fun w => w.1.1).Nodup) :
    ∀ w ∈ l, (writeSecretFile (secretPath texts dir id secret.1) disk secret.2 faults).2
      (secretPath texts dir id w.1.1) = disk (secretPath texts dir id w.1.1) :=
  fun w hw => writeSecretFile_of_ne disk secret.2 faults (path_ne_of_nodup hnodup w hw).symm

theorem writeSecrets_isOk (hnodup : (l.map fun w => w.1.1).Nodup) :
    (writeSecrets texts dir id l disk).1 = .ok () ↔ CompletesAll texts dir disk id l := by
  induction l generalizing disk with
  | nil => exact iff_of_true rfl fun w hw => absurd hw List.not_mem_nil
  | cons w l ih =>
    obtain ⟨secret, faults⟩ := w
    have hok := writeSecretFile_isOk (secretPath texts dir id secret.1) disk secret.2 faults
    have hrest :
        ∀ w ∈ l, (writeSecretFile (secretPath texts dir id secret.1) disk secret.2 faults).2
        (secretPath texts dir id w.1.1) = disk (secretPath texts dir id w.1.1) :=
      rest_of_nodup hnodup
    have hcons : CompletesAll texts dir disk id ((secret, faults) :: l) ↔
        faults.Completes secret.2 (disk (secretPath texts dir id secret.1)) ∧
          CompletesAll texts dir disk id l := List.forall_mem_cons
    rw [writeSecrets, hcons, ← hok]
    generalize writeSecretFile _ disk secret.2 faults = result at hrest
    obtain ⟨outcome, disk'⟩ := result
    cases outcome with
    | error e => exact iff_of_false (fun h => (nomatch h)) fun h => (nomatch h.1)
    | ok u =>
      rw [← completesAll_congr hrest, ← ih (List.nodup_cons.1 hnodup).2]
      exact (and_iff_right rfl).symm

end Writes

theorem nodup_writes : ((p.writes faults).map fun w => w.1.1).Nodup := by
  have h := nodup_secrets p.auth
  rwa [← map_fst_writes p faults, List.map_map] at h

/-- What a successful import returns and leaves. -/
theorem import_eq_ok {profile : ServerProfile} {disk' : Disk}
    (h : p.import texts dir faults disk = (.ok profile, disk')) :
    profile = p.returned texts dir ∧
      (∀ secret ∈ p.auth.secrets, disk' (secretPath texts dir p.id secret.1) =
        some (.file 0o600 secret.2.toByteArray)) ∧
      ∀ path, (∀ secret ∈ p.auth.secrets, path ≠ secretPath texts dir p.id secret.1) →
        disk' path = disk path := by
  unfold PortableProfile.import at h
  rw [importAuth_eq] at h
  split at h
  · cases h
  · have hok (hall : (writeSecrets texts dir p.id (p.writes faults) disk).1 = .ok ()) :=
      writeSecrets_ok nodup_writes hall
    have hother (path : PathBuf)
        (hne : ∀ w ∈ p.writes faults, path ≠ secretPath texts dir p.id w.1.1) :=
      writeSecrets_of_ne hne disk
    generalize writeSecrets texts dir p.id (p.writes faults) disk = result at h hok hother
    obtain ⟨outcome, disk''⟩ := result
    cases outcome with
    | error e => cases h
    | ok u =>
      obtain ⟨hprofile, rfl⟩ := Prod.mk.inj h
      refine ⟨(Except.ok.inj hprofile).symm, fun secret hsecret => ?_, fun path hne => ?_⟩
      · rw [← map_fst_writes p faults] at hsecret
        obtain ⟨w, hw, rfl⟩ := List.mem_map.1 hsecret
        exact hok rfl w hw
      · refine hother path fun w hw => hne w.1 ?_
        rw [← map_fst_writes p faults]
        exact List.mem_map_of_mem hw

theorem import_fails_iff :
    (∃ e, (p.import texts dir faults disk).1 = .error e) ↔
      (faults.createDir = none → ¬ CompletesAll texts dir disk p.id (p.writes faults)) := by
  rw [← writeSecrets_isOk nodup_writes, PortableProfile.import, importAuth_eq]
  cases faults.createDir with
  | some e => exact iff_of_true ⟨_, rfl⟩ fun h => (nomatch h)
  | none =>
    generalize writeSecrets texts dir p.id (p.writes faults) disk = result
    obtain ⟨outcome, disk'⟩ := result
    cases outcome with
    | error e => exact iff_of_true ⟨_, rfl⟩ fun _ h => (nomatch h)
    | ok u => exact iff_of_false (fun ⟨_, h⟩ => (nomatch h)) fun h => h rfl rfl

/-! ## Runs of imports -/

/-- A directory's files after a run, and what the imports returned, the latest first. -/
structure Imports where
  disk : Disk
  returned : List (PortableProfile × ServerProfile)

variable (texts dir) in
/-- A successful import. -/
def importStep (s : Imports) (e : PortableProfile × ImportFaults) : Option Imports :=
  match e.1.import texts dir e.2 s.disk with
  | (.ok profile, disk) => some ⟨disk, (e.1, profile) :: s.returned⟩
  | (.error _, _) => none

variable (texts dir) in
/-- What holds along a run: every profile returned has its files, and the latest of each identifier
has its secrets in them. -/
structure Filed (s : Imports) : Prop where
  returned : ∀ q profile, (q, profile) ∈ s.returned → profile = q.returned texts dir
  there : ∀ q profile, (q, profile) ∈ s.returned → ∀ secret ∈ q.auth.secrets,
    ∃ mode content, s.disk (secretPath texts dir q.id secret.1) = some (.file mode content)
  latest : ∀ id q profile, s.returned.find? (·.1.id = id) = some (q, profile) →
    ∀ secret ∈ q.auth.secrets,
      s.disk (secretPath texts dir q.id secret.1) = some (.file 0o600 secret.2.toByteArray)

theorem importStep_eq_some {s s' : Imports} (h : importStep texts dir s (p, faults) = some s') :
    s'.returned = (p, p.returned texts dir) :: s.returned ∧
      (∀ secret ∈ p.auth.secrets, s'.disk (secretPath texts dir p.id secret.1) =
        some (.file 0o600 secret.2.toByteArray)) ∧
      ∀ path, (∀ secret ∈ p.auth.secrets, path ≠ secretPath texts dir p.id secret.1) →
        s'.disk path = s.disk path := by
  unfold importStep at h
  split at h
  · next profile disk himport =>
    obtain rfl := Option.some.inj h
    obtain ⟨rfl, hput, hother⟩ := import_eq_ok himport
    exact ⟨rfl, hput, hother⟩
  · cases h

/-- An import whose writes all succeed. -/
theorem exists_importStep {s : Imports} (hdir : faults.createDir = none)
    (hall : CompletesAll texts dir s.disk p.id (p.writes faults)) :
    ∃ s', importStep texts dir s (p, faults) = some s' := by
  have hok : ¬ ∃ e, (p.import texts dir faults s.disk).1 = .error e :=
    fun h => import_fails_iff.1 h hdir hall
  unfold importStep
  generalize p.import texts dir faults s.disk = result at hok
  obtain ⟨outcome, disk⟩ := result
  cases outcome with
  | error e => exact absurd ⟨e, rfl⟩ hok
  | ok profile => exact ⟨_, rfl⟩

/-- An import leaves the files of other identifiers. -/
theorem importStep_of_id_ne (hids : texts.ReadsIds) {s s' : Imports}
    (h : importStep texts dir s (p, faults) = some s') {q : PortableProfile} (hid : q.id ≠ p.id)
    {secret : String × String} (hsecret : secret ∈ q.auth.secrets) :
    s'.disk (secretPath texts dir q.id secret.1) = s.disk (secretPath texts dir q.id secret.1) :=
  (importStep_eq_some h).2.2 _ fun _ hother heq =>
    hid (secretPath_inj hids (dot_notMem_field hsecret) (dot_notMem_field hother) heq).1

theorem filed_step (hids : texts.ReadsIds) {s s' : Imports} {e : PortableProfile × ImportFaults}
    (hs : Filed texts dir s) (h : importStep texts dir s e = some s') : Filed texts dir s' := by
  obtain ⟨p, faults⟩ := e
  obtain ⟨hreturned, hput, hother⟩ := importStep_eq_some h
  refine ⟨?_, ?_, ?_⟩
  · intro q profile hq
    rw [hreturned] at hq
    obtain hq | hq := List.mem_cons.1 hq
    · obtain ⟨rfl, rfl⟩ := Prod.mk.inj hq
      rfl
    · exact hs.returned q profile hq
  · intro q profile hq secret hsecret
    by_cases hpath : ∃ new ∈ p.auth.secrets,
        secretPath texts dir q.id secret.1 = secretPath texts dir p.id new.1
    · obtain ⟨new, hnew, heq⟩ := hpath
      exact ⟨_, _, heq ▸ hput new hnew⟩
    · push Not at hpath
      rw [hreturned] at hq
      obtain hq | hq := List.mem_cons.1 hq
      · obtain ⟨rfl, rfl⟩ := Prod.mk.inj hq
        exact absurd rfl (hpath secret hsecret)
      · obtain ⟨mode, content, hthere⟩ := hs.there q profile hq secret hsecret
        exact ⟨mode, content, (hother _ hpath).trans hthere⟩
  · intro id q profile hq secret hsecret
    rw [hreturned] at hq
    by_cases hid : p.id = id
    · rw [List.find?_cons_of_pos (by simpa using hid)] at hq
      obtain ⟨rfl, rfl⟩ := Prod.mk.inj (Option.some.inj hq)
      exact hput secret hsecret
    · rw [List.find?_cons_of_neg (by simpa using hid)] at hq
      have hq' : q.id = id := by simpa using List.find?_some hq
      rw [importStep_of_id_ne hids h (fun heq => hid (heq.symm.trans hq')) hsecret]
      exact hs.latest id q profile hq secret hsecret

/-! ## Exports -/

/-- An export of references that resolve to what some function makes of the secrets. -/
theorem exportAuth_refs {store : SecretStore} {fs : FileSystem} {ref : String → SecretRef}
    {f : String → String} {auth : PortableAuth}
    (h : ∀ secret ∈ auth.secrets, store.resolve fs (ref secret.1) = .ok (f secret.2)) :
    exportAuth store fs (auth.refs ref) = .ok (auth.map f) := by
  cases auth with
  | password pw =>
    have hpw := h ("password", pw) List.mem_cons_self
    simp only [PortableAuth.refs, exportAuth, hpw]
    rfl
  | privateKey key passphrase =>
    have hkey := h ("private_key", key) List.mem_cons_self
    cases passphrase with
    | none =>
      simp only [PortableAuth.refs, exportAuth, Option.map_none, hkey]
      rfl
    | some passphrase =>
      have hpass := h ("passphrase", passphrase) (List.mem_cons_of_mem _ List.mem_cons_self)
      simp only [PortableAuth.refs, exportAuth, Option.map_some, hkey]
      simp only [bind, Except.bind, hpass]
      rfl
  | presharedKey key peer =>
    have hkey := h ("private_key", key) List.mem_cons_self
    simp only [PortableAuth.refs, exportAuth, hkey]
    rfl
  | shadowsocks method pw =>
    have hpw := h ("password", pw) List.mem_cons_self
    simp only [PortableAuth.refs, exportAuth, hpw]
    rfl

/-- An export looks at the references of the credential alone. -/
theorem exportAuth_congr {store : SecretStore} {fs fs' : FileSystem} {ref : String → SecretRef}
    {auth : PortableAuth}
    (h : ∀ secret ∈ auth.secrets,
      store.resolve fs' (ref secret.1) = store.resolve fs (ref secret.1)) :
    exportAuth store fs' (auth.refs ref) = exportAuth store fs (auth.refs ref) := by
  cases auth with
  | password pw =>
    simp only [PortableAuth.refs, exportAuth, h ("password", pw) List.mem_cons_self]
  | privateKey key passphrase =>
    have hkey := h ("private_key", key) List.mem_cons_self
    cases passphrase with
    | none => simp only [PortableAuth.refs, exportAuth, Option.map_none, hkey]
    | some passphrase =>
      have hpass := h ("passphrase", passphrase) (List.mem_cons_of_mem _ List.mem_cons_self)
      simp only [PortableAuth.refs, exportAuth, Option.map_some, hkey, hpass]
  | presharedKey key peer =>
    simp only [PortableAuth.refs, exportAuth, h ("private_key", key) List.mem_cons_self]
  | shadowsocks method pw =>
    simp only [PortableAuth.refs, exportAuth, h ("password", pw) List.mem_cons_self]

/-- **Portable profiles survive imports and exports.** After any run of imports into a directory the
latest profile returned for each identifier exports as what was imported, each secret without one
line ending at its end, and an import changes no export of another identifier. -/
theorem imports_round_trip (hids : texts.ReadsIds) (env : String → Option String) (uid : ℕ)
    {es : List (PortableProfile × ImportFaults)} {s : Imports}
    (hrun : Runs.run (importStep texts dir) ⟨disk, []⟩ es = some s) :
    (∀ id q profile, s.returned.find? (·.1.id = id) = some (q, profile) →
      PortableProfile.export (fileSecretStore env) (s.disk.fileSystem uid) profile =
        .ok { q with auth := q.auth.map stripOneTrailingLineEnding }) ∧
      (∀ body, LosesOneEnding body (stripOneTrailingLineEnding body)) ∧
      ∀ p faults s', importStep texts dir s (p, faults) = some s' →
        ∀ q profile, (q, profile) ∈ s.returned → q.id ≠ p.id →
          PortableProfile.export (fileSecretStore env) (s'.disk.fileSystem uid) profile =
            PortableProfile.export (fileSecretStore env) (s.disk.fileSystem uid) profile := by
  have hfiled : Filed texts dir s := by
    refine Runs.run_invariant_of_step (fun s e s' hs h => filed_step hids hs h) ?_ hrun
    exact ⟨fun q profile h => absurd h List.not_mem_nil,
      fun q profile h => absurd h List.not_mem_nil,
      fun id q profile h => (nomatch h)⟩
  refine ⟨fun id q profile hq => ?_, losesOneEnding_strip, fun p faults s' h q profile hq hid => ?_⟩
  · obtain rfl := hfiled.returned q profile (List.mem_of_find?_eq_some hq)
    have hauth : exportAuth (fileSecretStore env) (s.disk.fileSystem uid)
        (q.auth.refs fun field => .file (secretPath texts dir q.id field)) =
          .ok (q.auth.map stripOneTrailingLineEnding) :=
      exportAuth_refs fun secret hsecret => resolve_of_file (hfiled.latest id q _ hq secret hsecret)
    unfold PortableProfile.export PortableProfile.returned PortableProfile.withAuth
    dsimp only
    rw [hauth]
    rfl
  · obtain rfl := hfiled.returned q profile hq
    unfold PortableProfile.export PortableProfile.returned PortableProfile.withAuth
    dsimp only
    rw [exportAuth_congr fun secret hsecret => ?_]
    obtain ⟨mode, content, hthere⟩ := hfiled.there q _ hq secret hsecret
    exact resolve_congr hthere (importStep_of_id_ne hids h hid hsecret)

/-- No failure. -/
def WriteFaults.none : WriteFaults := ⟨Option.none, Option.none, Option.none, Option.none⟩

/-- A profile with a password. -/
def lab (password : String) : PortableProfile :=
  ⟨0, "lab", .ssh, "198.51.100.7", 22, .password password, ⟨.tcp, [], none⟩, .allTraffic, false⟩

theorem completes_none {value : String} {old : Option Node} (h : old ≠ some .dir) :
    WriteFaults.none.Completes value old := by
  refine ⟨?_, fun ⟨n, e, hwrite, _⟩ => (nomatch hwrite)⟩
  cases old with
  | none => exact .inl ⟨rfl, rfl⟩
  | some node =>
    exact .inr
      ⟨⟨⟨node, rfl, fun hdir => h (congrArg some hdir)⟩, rfl, fun e he => (nomatch he)⟩, rfl⟩

/-- The password `hunter2`, imported and then imported again as `hunter3`, with line endings. -/
theorem imports_round_trip_lab :
    ∃ s, Runs.run (importStep Reference.texts "/s") ⟨fun _ => none, []⟩
        [(lab "hunter2\n", ⟨none, .none, .none⟩), (lab "hunter3\r\n", ⟨none, .none, .none⟩)] =
          some s ∧
      PortableProfile.export (fileSecretStore fun _ => none) (s.disk.fileSystem 501)
        ((lab "hunter3\r\n").returned Reference.texts "/s") = .ok (lab "hunter3") := by
  obtain ⟨s₁, h₁⟩ : ∃ s₁, importStep Reference.texts "/s" ⟨fun _ => none, []⟩
      (lab "hunter2\n", ⟨none, .none, .none⟩) = some s₁ := by
    refine exists_importStep rfl fun w hw => ?_
    obtain rfl := List.mem_singleton.1 hw
    exact completes_none fun h => (nomatch h)
  obtain ⟨-, hfile, -⟩ := importStep_eq_some h₁
  obtain ⟨s₂, h₂⟩ : ∃ s₂, importStep Reference.texts "/s" s₁
      (lab "hunter3\r\n", ⟨none, .none, .none⟩) = some s₂ := by
    refine exists_importStep rfl fun w hw => ?_
    obtain rfl := List.mem_singleton.1 hw
    refine completes_none fun h => ?_
    have hthere := hfile ("password", "hunter2\n") List.mem_cons_self
    rw [show (lab "hunter2\n").id = (lab "hunter3\r\n").id from rfl] at hthere
    exact absurd (hthere.symm.trans h) (by simp)
  obtain ⟨hreturned, -, -⟩ := importStep_eq_some h₂
  have hrun : Runs.run (importStep Reference.texts "/s") ⟨fun _ => none, []⟩
      [(lab "hunter2\n", ⟨none, .none, .none⟩), (lab "hunter3\r\n", ⟨none, .none, .none⟩)] =
        some s₂ := by
    rw [Runs.run_cons, h₁, Option.bind_some, Runs.run_cons, h₂, Option.bind_some, Runs.run_nil]
  have hlatest : s₂.returned.find? (·.1.id = 0) =
      some (lab "hunter3\r\n", (lab "hunter3\r\n").returned Reference.texts "/s") := by
    rw [hreturned]
    rfl
  exact ⟨s₂, hrun, (imports_round_trip Reference.readsIds _ 501 hrun).1 0 _ _ hlatest⟩

/-! ## Failed imports -/

/-- Every path that led to a file leads to one with the same content. -/
def Intact (disk disk' : Disk) : Prop := ∀ path, Keeps path disk disk'

variable (texts dir disk) in
/-- Every write up to the first that fails spares what its path led to. -/
def SparesAll (id : BitVec 128) : List ((String × String) × WriteFaults) → Prop
  | [] => True
  | (secret, faults) :: rest =>
    let path := secretPath texts dir id secret.1
    faults.Spares secret.2 (disk path) (disk.followed path) ∧
      (faults.Completes secret.2 (disk path) → SparesAll id rest)

section Writes

variable {id : BitVec 128} {l : List ((String × String) × WriteFaults)}

/-- What the writes leave at a path. -/
theorem plain_writeSecrets (hnodup : (l.map fun w => w.1.1).Nodup) (path : PathBuf) :
    (writeSecrets texts dir id l disk).2 path = disk path ∨
      (writeSecrets texts dir id l disk).2 path = none ∨
        ∃ mode content, (writeSecrets texts dir id l disk).2 path = some (.file mode content) := by
  induction l generalizing disk with
  | nil => exact .inl rfl
  | cons w l ih =>
    obtain ⟨secret, faults⟩ := w
    have hplain := plain_writeSecretFile (secretPath texts dir id secret.1) disk secret.2 faults
    have hother (hne : path ≠ secretPath texts dir id secret.1) :=
      writeSecretFile_of_ne disk secret.2 faults hne
    rw [writeSecrets]
    generalize writeSecretFile _ disk secret.2 faults = result at hplain hother
    obtain ⟨outcome, disk'⟩ := result
    dsimp only at hplain hother ⊢
    by_cases hpath : path = secretPath texts dir id secret.1
    · subst hpath
      cases outcome with
      | error e => exact hplain
      | ok u =>
        rw [writeSecrets_of_ne (path_ne_of_nodup hnodup) disk']
        exact hplain
    · cases outcome with
      | error e => exact .inl (hother hpath)
      | ok u =>
        rw [← hother hpath]
        exact ih (List.nodup_cons.1 hnodup).2

/-- The writes from a disk that has at their paths what there was before. -/
theorem stands_writeSecrets_iff (hnodup : (l.map fun w => w.1.1).Nodup) {disk' : Disk}
    (hsame : ∀ w ∈ l,
      disk' (secretPath texts dir id w.1.1) = disk (secretPath texts dir id w.1.1)) :
    (∀ w ∈ l, Stands (secretPath texts dir id w.1.1) disk
        (writeSecrets texts dir id l disk').2) ↔ SparesAll texts dir disk id l := by
  induction l generalizing disk' with
  | nil => exact iff_of_true (fun w hw => absurd hw List.not_mem_nil) trivial
  | cons w l ih =>
    obtain ⟨secret, faults⟩ := w
    have hhead := hsame _ List.mem_cons_self
    have hok := writeSecretFile_isOk (secretPath texts dir id secret.1) disk' secret.2 faults
    have hstands := writeSecretFile_stands_iff secret.2 faults hhead
    have hrest : ∀ w ∈ l,
        (writeSecretFile (secretPath texts dir id secret.1) disk' secret.2 faults).2
          (secretPath texts dir id w.1.1) = disk (secretPath texts dir id w.1.1) := fun w hw =>
      (rest_of_nodup hnodup w hw).trans (hsame w (List.mem_cons_of_mem _ hw))
    rw [List.forall_mem_cons, writeSecrets, SparesAll, ← hstands, ← hhead, ← hok]
    generalize writeSecretFile _ disk' secret.2 faults = result at hrest
    obtain ⟨outcome, disk''⟩ := result
    dsimp only at hrest ⊢
    cases outcome with
    | error e =>
      exact and_congr_right fun _ => iff_of_true (fun w hw _ _ _ => .inl (hrest w hw))
        fun h => (nomatch h)
    | ok u =>
      have huntouched := writeSecrets_of_ne
        (path_ne_of_nodup hnodup : ∀ w ∈ l, secretPath texts dir id secret.1 ≠ _) disk''
      refine and_congr ?_
        ((ih (List.nodup_cons.1 hnodup).2 hrest).trans ⟨fun h _ => h, fun h => h rfl⟩)
      rw [Stands, Stands, huntouched]

theorem writeSecrets_intact_iff (hnodup : (l.map fun w => w.1.1).Nodup) :
    Intact disk (writeSecrets texts dir id l disk).2 ↔ SparesAll texts dir disk id l := by
  rw [← stands_writeSecrets_iff hnodup fun _ _ => rfl]
  refine ⟨fun h w _ => (h _).stands (plain_writeSecrets hnodup _), fun h path => ?_⟩
  refine keeps_of_stands (fun path => ?_) path
  by_cases hpath : ∃ w ∈ l, path = secretPath texts dir id w.1.1
  · obtain ⟨w, hw, rfl⟩ := hpath
    exact h w hw
  · push Not at hpath
    exact fun _ _ _ => .inl (writeSecrets_of_ne hpath disk)

end Writes

theorem intact_import_iff :
    Intact disk (p.import texts dir faults disk).2 ↔
      (faults.createDir = none → SparesAll texts dir disk p.id (p.writes faults)) := by
  rw [← writeSecrets_intact_iff nodup_writes, PortableProfile.import, importAuth_eq]
  cases faults.createDir with
  | some e =>
    exact iff_of_true (fun path mode content hfound => ⟨mode, hfound⟩) fun h => (nomatch h)
  | none =>
    generalize writeSecrets texts dir p.id (p.writes faults) disk = result
    obtain ⟨outcome, disk'⟩ := result
    cases outcome with
    | error e => exact ⟨fun h _ => h, fun h => h rfl⟩
    | ok u => exact ⟨fun h _ => h, fun h => h rfl⟩

/-- **A failed import leaves every credential intact exactly when each write it makes, up to the one
that fails, spares what its path led to**, as a file or through links: what stood there is not
removed, or the new file is opened and gets the bytes the path led to. -/
theorem import_intact_iff (texts : Texts) (dir : PathBuf) (p : PortableProfile)
    (faults : ImportFaults) (disk : Disk) :
    ((∃ e, (p.import texts dir faults disk).1 = .error e) →
        Intact disk (p.import texts dir faults disk).2) ↔
      (faults.createDir = none → ¬ CompletesAll texts dir disk p.id (p.writes faults) →
        SparesAll texts dir disk p.id (p.writes faults)) := by
  rw [import_fails_iff, intact_import_iff]
  tauto

/-- The disk is full. -/
def diskFull : ImportFaults :=
  ⟨none, ⟨none, none, none, some (0, ⟨false, [.lit "No space left on device (os error 28)"]⟩)⟩,
    .none⟩

/-- The secret directory after the import of a password. -/
def labDisk (password : String) : Disk :=
  Function.update (fun _ => none) (secretPath Reference.texts "/s" 0 "password")
    (some (.file 0o600 password.toByteArray))

/-- A password that was imported before is gone when the import of a new one has no room. -/
theorem import_loses_password :
    ¬ ∀ (texts : Texts) (dir : PathBuf) (p : PortableProfile) (faults : ImportFaults) (disk : Disk),
      (∃ e, (p.import texts dir faults disk).1 = .error e) →
        Intact disk (p.import texts dir faults disk).2 := by
  intro hall
  have hfile : labDisk "old" (secretPath Reference.texts "/s" 0 "password") =
      some (.file 0o600 "old".toByteArray) := Function.update_self _ _ _
  have hcuts : diskFull.first.Cuts "new" := ⟨0, _, rfl, by decide⟩
  have hfails :
      ∃ e, ((lab "new").import Reference.texts "/s" diskFull (labDisk "old")).1 = .error e :=
    import_fails_iff.2 fun _ hcompletes =>
      (hcompletes (("password", "new"), diskFull.first) List.mem_cons_self).2 hcuts
  have hfound : (labDisk "old").followed (secretPath Reference.texts "/s" 0 "password") =
      .ok (.file 0o600 "old".toByteArray) := by
    rw [Disk.followed, follow, hfile]
  have hspares := (intact_import_iff.1 (hall _ _ _ _ _ hfails) rfl).1 0o600 "old".toByteArray hfound
    ⟨⟨_, hfile, fun h => by cases h⟩, rfl, fun e he => by cases he⟩
  revert hspares
  decide

end LiosTunnel.Config
