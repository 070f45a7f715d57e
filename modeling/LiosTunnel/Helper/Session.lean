import LiosTunnel.Config.Profile
import LiosTunnel.Dto.Protocol
import LiosTunnel.Route.Capture

/-!
# The gate for a caller's secrets

The helper runs as root and a connect request names files. `authorize_params` of `session.rs` opens
each, checks the descriptor with `read_secret_owned_by` of `auth.rs` and keeps what it read from it;
the tunnels are handed that, and no path is opened again. The file system may change at any time:
the `i`-th open of a call meets the `i`-th of a sequence of file systems.

* `readSecretOwnedBy`, `Granted`: the check, and what it asks of a descriptor.
* `ResolvedSecrets`, `authorizeParams`: the gate.
* `SshTunnel.secrets`, `ShadowsocksTunnel.secrets`: what the tunnels ask a store for.
* `authorizeParams_eq_ok`: exactly what the gate lets through.
-/

namespace LiosTunnel.Helper

open Config Dto Route

/-- The parsers of other crates: `serde_json::from_str`, by what it reads, and `ipnet`'s
`from_str`. -/
structure Parsers where
  request : String → Option Request
  profile : String → Option ServerProfile
  net : String → Except Text IpNet

/-! ## One secret -/

/-- The largest secret that is read. -/
def MAX_SECRET_BYTES : ℕ := 64 * 1024

/-- `read_secret_owned_by`. -/
def readSecretOwnedBy (fs : FileSystem) (path : PathBuf) (uid : ℕ) : Except AuthError String := do
  let file ← (fs path).mapError fun e => .secretRejected path (.lit "cannot open: " :: e)
  let info ← file.metadata.mapError fun e => .secretRejected path (.lit "cannot stat: " :: e)
  let mode := info.mode &&& 0o777
  if !info.isFile then .error (.secretRejected path [.lit "not a regular file"])
  else if mode &&& 0o077 ≠ 0 then
    .error (.secretRejected path [.lit "mode ", .lit (.ofList (Nat.toDigits 8 mode)),
      .lit " grants access beyond the owner"])
  else if info.uid ≠ uid then .error (.secretNotOwned path uid)
  else if MAX_SECRET_BYTES < info.len then
    .error (.secretRejected path [.lit (toString info.len), .lit " bytes exceeds the ",
      .lit (toString MAX_SECRET_BYTES), .lit "-byte limit"])
  else do
    let body ← file.body.mapError fun e => .secretRejected path (.lit "cannot read: " :: e)
    return stripOneTrailingLineEnding body

/-- The path leads to a regular file that only its owner, the caller, may use, of a bounded size,
and the secret is its content without a line ending at the end. -/
structure Granted (fs : FileSystem) (path : PathBuf) (uid : ℕ) (secret : String) : Prop where
  intro ::
  opened : ∃ file info body, fs path = .ok file ∧ file.metadata = .ok info ∧ info.isFile = true ∧
    info.mode &&& 0o077 = 0 ∧ info.uid = uid ∧ info.len ≤ MAX_SECRET_BYTES ∧
      file.body = .ok body ∧ secret = stripOneTrailingLineEnding body

theorem readSecretOwnedBy_eq_ok {fs : FileSystem} {path : PathBuf} {uid : ℕ} {secret : String} :
    readSecretOwnedBy fs path uid = .ok secret ↔ Granted fs path uid secret := by
  have hmask : ∀ mode : ℕ, mode &&& 0o777 &&& 0o077 = mode &&& 0o077 := by
    intro mode
    rw [Nat.and_assoc]
    rfl
  constructor
  · intro h
    obtain ⟨file, hfile, h⟩ := bind_eq_ok h
    obtain ⟨info, hinfo, h⟩ := bind_eq_ok h
    dsimp only at h
    split at h
    · cases h
    · rename_i hfileType
      split at h
      · cases h
      · rename_i hmode
        split at h
        · cases h
        · rename_i huid
          split at h
          · cases h
          · rename_i hlen
            obtain ⟨body, hbody, h⟩ := bind_eq_ok h
            refine ⟨file, info, body, mapError_eq_ok hfile, mapError_eq_ok hinfo, by simpa using
              hfileType, ?_, not_not.1 huid, not_lt.1 hlen, mapError_eq_ok hbody,
              (Except.ok.inj h).symm⟩
            rw [← hmask]
            exact not_not.1 hmode
  · rintro ⟨file, info, body, hfile, hinfo, htype, hmode, huid, hlen, hbody, rfl⟩
    simp only [readSecretOwnedBy, hfile, hinfo, hbody, Except.mapError, bind, Except.bind, htype,
      hmask, hmode, huid, not_lt.2 hlen, Bool.not_true, Bool.false_eq_true, ne_eq,
      not_true_eq_false, if_false]
    rfl

/-- The secret is what was read, up to one line ending at the end. -/
theorem Granted.content {fs : FileSystem} {path : PathBuf} {uid : ℕ} {secret : String}
    (h : Granted fs path uid secret) : ∃ file body, fs path = .ok file ∧ file.body = .ok body ∧
      (body = secret ∨ body = secret ++ "\n" ∨ body = secret ++ "\r\n") := by
  obtain ⟨file, info, body, hfile, -, -, -, -, -, hbody, rfl⟩ := h
  exact ⟨file, body, hfile, hbody, eq_stripOneTrailingLineEnding body⟩

/-! ## The gate -/

/-- `ResolvedSecrets`. -/
abbrev ResolvedSecrets := List (SecretRef × String)

/-- `ResolvedSecrets` as a store, which never looks at the file system. -/
def ResolvedSecrets.store (secrets : ResolvedSecrets) : SecretStore where
  resolve _ r :=
    match secrets.find? fun entry => entry.1.same r with
    | some entry => .ok entry.2
    | none => .error (.config "secret" [.lit "not resolved under the authorization gate"])

/-- `Authorized`. -/
structure Authorized where
  profile : ServerProfile
  user : String
  routeMode : RouteMode
  tunAddress : BitVec 32
  secrets : ResolvedSecrets
  deriving DecidableEq

/-- A decimal number of an address: up to three digits, without a leading zero. -/
def parseOctet (digits : List Char) : Option ℕ :=
  let value := digits.foldl (fun n c => n * 10 + (c.toNat - 48)) 0
  if digits ≠ [] ∧ digits.length ≤ 3 ∧ digits.all Char.isDigit = true ∧
      (digits.head? = some '0' → digits.length = 1) ∧ value ≤ 255 then some value
  else none

/-- `str::parse::<Ipv4Addr>`. -/
def parseIpv4Addr (s : String) : Option (BitVec 32) :=
  match (s.toList.splitOn '.').mapM parseOctet with
  | some [a, b, c, d] => some (.ofNat 32 (((a * 256 + b) * 256 + c) * 256 + d))
  | _ => none

/-- The loop of `authorize_params` over the references. -/
def resolveSecrets (uid : ℕ) : (ℕ → FileSystem) → List SecretRef → Except StartError ResolvedSecrets
  | _, [] => .ok []
  | fs, .file path :: rs => do
    let body ← (readSecretOwnedBy (fs 0) path uid).mapError .secretNotPermitted
    let resolved ← resolveSecrets uid (fun i => fs (i + 1)) rs
    return (.file path, body) :: resolved
  | _, .env _ :: _ => .error .envSecretNotAllowed

/-- `Tunnel::authorize_params`. -/
def authorizeParams (parsers : Parsers) (fs : ℕ → FileSystem) (params : ConnectParams)
    (callerUid : ℕ) : Except StartError Authorized := do
  let some profile := parsers.profile params.profileJson
    | .error (.badProfile "profile is not valid")
  if profile.protocol = .wireGuard then
    .error (.badProfile "wireguard is not supported in this build")
  else
    let routeMode ← parseRouteMode parsers.net params.routeMode params.cidrs params.captureDns
    let some tunAddress := parseIpv4Addr params.tunAddress
      | .error .badTunAddress
    let secrets ← resolveSecrets callerUid fs profile.auth.secretRefs
    return ⟨profile, params.user, routeMode, tunAddress, secrets⟩

/-- What was kept for a reference: it is to a file, which was granted when it was opened. -/
def Kept (fs : FileSystem) (uid : ℕ) (entry : SecretRef × String) : Prop :=
  ∃ path, entry.1 = .file path ∧ Granted fs path uid entry.2

/-- The gate keeps one secret for each reference, in their order. -/
theorem resolveSecrets_eq_ok {uid : ℕ} {fs : ℕ → FileSystem} {rs : List SecretRef}
    {secrets : ResolvedSecrets} :
    resolveSecrets uid fs rs = .ok secrets ↔
      secrets.map Prod.fst = rs ∧ ∀ i entry, secrets[i]? = some entry → Kept (fs i) uid entry := by
  induction rs generalizing fs secrets with
  | nil =>
    rw [resolveSecrets, List.map_eq_nil_iff]
    constructor
    · intro h
      obtain rfl := Except.ok.inj h
      exact ⟨rfl, fun i entry h => (nomatch h)⟩
    · rintro ⟨rfl, -⟩
      rfl
  | cons r rs ih =>
    cases r with
    | env var =>
      refine ⟨fun h => (nomatch h), fun ⟨hrefs, hkept⟩ => ?_⟩
      cases secrets with
      | nil => cases hrefs
      | cons entry secrets =>
        obtain ⟨path, hfile, -⟩ := hkept 0 entry rfl
        rw [List.map_cons, List.cons.injEq] at hrefs
        rw [hrefs.1] at hfile
        cases hfile
    | file path =>
      constructor
      · intro h
        obtain ⟨body, hbody, h⟩ := bind_eq_ok h
        obtain ⟨resolved, hresolved, h⟩ := bind_eq_ok h
        obtain rfl := Except.ok.inj h
        obtain ⟨hrefs, hkept⟩ := ih.1 hresolved
        refine ⟨by rw [List.map_cons, hrefs], fun i entry hi => ?_⟩
        cases i with
        | zero =>
          obtain rfl := Option.some.inj hi
          exact ⟨path, rfl, readSecretOwnedBy_eq_ok.1 (mapError_eq_ok hbody)⟩
        | succ i => exact hkept i entry hi
      · rintro ⟨hrefs, hkept⟩
        cases secrets with
        | nil => cases hrefs
        | cons entry secrets =>
          rw [List.map_cons, List.cons.injEq] at hrefs
          obtain ⟨path', hfile, hgranted⟩ := hkept 0 entry rfl
          obtain rfl : path = path' := by
            rw [hrefs.1] at hfile
            exact SecretRef.file.inj hfile
          have hrest : resolveSecrets uid (fun i => fs (i + 1)) rs = .ok secrets :=
            ih.2 ⟨hrefs.2, fun i entry hi => hkept (i + 1) entry hi⟩
          obtain ⟨r, body⟩ := entry
          obtain rfl : r = .file path := hfile
          rw [resolveSecrets, readSecretOwnedBy_eq_ok.2 hgranted, hrest]
          rfl

/-- What the gate lets through: a request whose parts all parse, for a protocol there is, with a
secret kept for each reference of the profile. -/
structure Approved (parsers : Parsers) (fs : ℕ → FileSystem) (params : ConnectParams) (uid : ℕ)
    (a : Authorized) : Prop where
  profile : parsers.profile params.profileJson = some a.profile
  supported : a.profile.protocol ≠ .wireGuard
  user : a.user = params.user
  routeMode :
    parseRouteMode parsers.net params.routeMode params.cidrs params.captureDns = .ok a.routeMode
  tunAddress : parseIpv4Addr params.tunAddress = some a.tunAddress
  refs : a.secrets.map Prod.fst = a.profile.auth.secretRefs
  kept : ∀ i entry, a.secrets[i]? = some entry → Kept (fs i) uid entry

/-- **The gate**: exactly what is approved gets through. -/
theorem authorizeParams_eq_ok {parsers : Parsers} {fs : ℕ → FileSystem} {params : ConnectParams}
    {uid : ℕ} {a : Authorized} :
    authorizeParams parsers fs params uid = .ok a ↔ Approved parsers fs params uid a := by
  constructor
  · intro h
    rw [authorizeParams] at h
    split at h
    · rename_i profile hprofile
      split at h
      · cases h
      · rename_i hsupported
        obtain ⟨routeMode, hmode, h⟩ := bind_eq_ok h
        split at h
        · rename_i tunAddress htun
          obtain ⟨secrets, hsecrets, h⟩ := bind_eq_ok h
          obtain rfl := Except.ok.inj h
          obtain ⟨hrefs, hkept⟩ := resolveSecrets_eq_ok.1 hsecrets
          exact ⟨hprofile, hsupported, rfl, hmode, htun, hrefs, hkept⟩
        · cases h
    · cases h
  · rintro ⟨hprofile, hsupported, huser, hmode, htun, hrefs, hkept⟩
    obtain ⟨profile, user, routeMode, tunAddress, secrets⟩ := a
    obtain rfl : user = params.user := huser
    dsimp only at hprofile hsupported hmode htun hrefs hkept
    have hsecrets : resolveSecrets uid fs profile.auth.secretRefs = .ok secrets :=
      resolveSecrets_eq_ok.2 ⟨hrefs, hkept⟩
    simp only [authorizeParams, hprofile, if_neg hsupported, hmode, htun, hsecrets, bind,
      Except.bind]
    rfl

/-- Every reference of an approved profile is to a file that was granted. -/
theorem Approved.granted {parsers : Parsers} {fs : ℕ → FileSystem} {params : ConnectParams}
    {uid : ℕ} {a : Authorized} (h : Approved parsers fs params uid a) {r : SecretRef}
    (hr : r ∈ a.profile.auth.secretRefs) :
    ∃ path i secret, r = .file path ∧ Granted (fs i) path uid secret := by
  rw [← h.refs, List.mem_map] at hr
  obtain ⟨entry, hentry, rfl⟩ := hr
  obtain ⟨i, hi⟩ := List.mem_iff_getElem?.1 hentry
  obtain ⟨path, hfile, hgranted⟩ := h.kept i entry hi
  exact ⟨path, i, entry.2, hfile, hgranted⟩

/-- The store answers for each reference of the profile with what was read when the gate opened it,
or another spelling of it, whatever has become of the files since. -/
theorem Approved.resolves {parsers : Parsers} {fs : ℕ → FileSystem} {params : ConnectParams}
    {uid : ℕ} {a : Authorized} (h : Approved parsers fs params uid a) {r : SecretRef}
    (hr : r ∈ a.profile.auth.secretRefs) : ∃ secret, (∀ later, a.secrets.store.resolve later r =
      .ok secret) ∧ ∃ path i, .file path ∈ a.profile.auth.secretRefs ∧
        (SecretRef.file path).same r = true ∧ Granted (fs i) path uid secret := by
  have hsome : (a.secrets.find? fun entry => entry.1.same r).isSome = true := by
    rw [← h.refs, List.mem_map] at hr
    obtain ⟨entry, hentry, rfl⟩ := hr
    exact List.find?_isSome.2 ⟨entry, hentry, SecretRef.same_self _⟩
  obtain ⟨entry, hfind⟩ := Option.isSome_iff_exists.1 hsome
  have hmem := List.mem_of_find?_eq_some hfind
  obtain ⟨i, hi⟩ := List.mem_iff_getElem?.1 hmem
  obtain ⟨path, hfile, hgranted⟩ := h.kept i entry hi
  refine ⟨entry.2, fun later => ?_, path, i, ?_, ?_, hgranted⟩
  · simp only [ResolvedSecrets.store, hfind]
  · rw [← hfile, ← h.refs]
    exact List.mem_map_of_mem hmem
  · rw [← hfile]
    exact List.find?_some (p := fun entry : SecretRef × String => entry.1.same r) hfind

/-- No environment reference is resolved. -/
theorem Approved.resolve_env {parsers : Parsers} {fs : ℕ → FileSystem} {params : ConnectParams}
    {uid : ℕ} {a : Authorized} (h : Approved parsers fs params uid a) (later : FileSystem)
    (var : String) : a.secrets.store.resolve later (.env var) =
      .error (.config "secret" [.lit "not resolved under the authorization gate"]) := by
  have hnone : a.secrets.find? (fun entry => entry.1.same (.env var)) = none := by
    rw [List.find?_eq_none]
    intro entry hentry hsame
    obtain ⟨i, hi⟩ := List.mem_iff_getElem?.1 hentry
    obtain ⟨path, hfile, -⟩ := h.kept i entry hi
    rw [hfile] at hsame
    cases hsame
  simp only [ResolvedSecrets.store, hnone]

/-! ## What the tunnels ask for -/

/-- What an SSH session authenticates with. -/
inductive Credentials
  | password (pw : String)
  | privateKey (pem : String) (passphrase : Option String)
  deriving DecidableEq, Repr

/-- `SshTunnel::connect` and `connect_inner`, as far as the store is asked; the `i`-th question
comes at the `i`-th moment. -/
def SshTunnel.secrets (store : SecretStore) (fs : ℕ → FileSystem) (profile : ServerProfile) :
    Except TunnelError Credentials :=
  match profile.protocol with
  | .wireGuard => .error (.unsupported "wireguard")
  | .shadowsocks => .error (.unsupported "shadowsocks")
  | .ssh =>
    match profile.auth with
    | .password password => do
      let pw ← store.resolve (fs 0) password
      return .password pw
    | .privateKey privateKey passphrase => do
      let pem ← store.resolve (fs 0) privateKey
      match passphrase with
      | some p =>
        let pass ← store.resolve (fs 1) p
        return .privateKey pem (some pass)
      | none => return .privateKey pem none
    | .presharedKey _ _ => .error (.unsupported "preshared-key authentication")
    | .shadowsocks _ _ => .error (.unsupported "shadowsocks authentication")

/-- `{:?}` of a protocol. -/
def debugProtocol : ProtocolKind → String
  | .ssh => "Ssh"
  | .wireGuard => "WireGuard"
  | .shadowsocks => "Shadowsocks"

/-- `ShadowsocksTunnel::prepare` up to its question; `cipher` is what the crate and the list of
offered ciphers make of a name. -/
def ShadowsocksTunnel.secrets (cipher : String → Except TunnelError Unit) (store : SecretStore)
    (fs : FileSystem) (profile : ServerProfile) : Except TunnelError String :=
  match profile.protocol with
  | .shadowsocks =>
    match profile.auth with
    | .shadowsocks method password => do
      cipher method
      store.resolve fs password
    | _ => .error (.config "auth" [.lit "a shadowsocks profile needs shadowsocks credentials"])
  | other => .error (.config "protocol" [.lit "a shadowsocks tunnel cannot carry a ",
      .lit (debugProtocol other), .lit " profile"])

/-- A tunnel can ask its store for a reference: what it gets depends on the answer. -/
def Asks {α : Type} (tunnel : SecretStore → α) (r : SecretRef) : Prop :=
  ∃ store store' : SecretStore,
    (∀ fs r', r' ≠ r → store.resolve fs r' = store'.resolve fs r') ∧ tunnel store ≠ tunnel store'

/-- Neither tunnel asks for a reference that is not the profile's. -/
theorem SshTunnel.mem_secretRefs_of_asks {fs : ℕ → FileSystem} {profile : ServerProfile}
    {r : SecretRef} (h : Asks (fun store => SshTunnel.secrets store fs profile) r) :
    r ∈ profile.auth.secretRefs := by
  obtain ⟨store, store', hsame, hne⟩ := h
  by_contra hnot
  refine hne ?_
  have hagree : ∀ later, ∀ r' ∈ profile.auth.secretRefs,
      store.resolve later r' = store'.resolve later r' := by
    intro later r' hr'
    refine hsame later r' ?_
    rintro rfl
    exact hnot hr'
  simp only [SshTunnel.secrets]
  split
  · rfl
  · rfl
  · split
    · rename_i password hauth
      rw [hagree _ password (by rw [hauth]; exact List.mem_singleton_self _)]
    · rename_i key passphrase hauth
      rw [hagree _ key (by rw [hauth]; exact List.mem_cons_self)]
      cases passphrase with
      | none => rfl
      | some p =>
        have hp := hagree (fs 1) p (by rw [hauth]; exact List.mem_cons_of_mem _ List.mem_cons_self)
        dsimp only
        rw [hp]
    · rfl
    · rfl

theorem ShadowsocksTunnel.mem_secretRefs_of_asks {cipher : String → Except TunnelError Unit}
    {fs : FileSystem} {profile : ServerProfile} {r : SecretRef}
    (h : Asks (fun store => ShadowsocksTunnel.secrets cipher store fs profile) r) :
    r ∈ profile.auth.secretRefs := by
  obtain ⟨store, store', hsame, hne⟩ := h
  by_contra hnot
  refine hne ?_
  simp only [ShadowsocksTunnel.secrets]
  split
  · split
    · rename_i method password hauth
      have hother : password ≠ r := by
        rintro rfl
        exact hnot (by rw [hauth]; exact List.mem_singleton_self _)
      rw [hsame fs password hother]
    · rfl
  · rfl

end LiosTunnel.Helper
