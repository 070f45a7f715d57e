import LiosTunnel.Config.Texts

/-!
# Profiles as the app edits them

`dto/profile.rs`: a profile as flat texts and back. The texts of secrets are where they are kept,
never what they are.

* `ProfileDto`: the flat form.
* `describe`, `undescribe`: references to secrets.
* `ProfileDto.fromProfile`, `ProfileDto.tryInto`: the two conversions.
* `tryInto_fromProfile`: nothing is lost on the way there and back.
* `refs_of_tryInto`: no reference is made up on the way.
-/

namespace LiosTunnel.Dto

open Config

/-- `ProfileDto`. -/
structure ProfileDto where
  id : String
  name : String
  protocol : String
  host : String
  port : BitVec 16
  authKind : String
  authSecretSource : String
  authPassphraseSource : Option String
  peerPublicKey : Option String
  cipher : Option String
  dnsMode : String
  dnsServers : List String
  dohSni : Option String
  dohPath : Option String
  splitTunnel : String
  splitTunnelApps : List String
  killSwitch : Bool
  deriving DecidableEq, Repr

/-- `ProfileDtoError`: the field that is not valid. -/
structure ProfileDtoError where
  field : String
  deriving DecidableEq, Repr

/-! ## References -/

/-- `describe`. -/
def describe : SecretRef → String
  | .file path => "file:" ++ path
  | .env var => "env:" ++ var

/-- `str::strip_prefix`. -/
def dropPrefix (s pre : String) : Option String :=
  (s.toList.dropPrefix? pre.toList).map fun rest => .ofList rest

/-- `undescribe`. -/
def undescribe (s field : String) : Except ProfileDtoError SecretRef :=
  match dropPrefix s "file:" with
  | some path => .ok (.file path)
  | none =>
    match dropPrefix s "env:" with
    | some var => .ok (.env var)
    | none => .error ⟨field⟩

theorem dropPrefix_append (pre s : String) : dropPrefix (pre ++ s) pre = some s := by
  rw [dropPrefix, String.toList_append, List.dropPrefix?_append_of_beq _ (beq_self_eq_true _),
    Option.map_some, String.ofList_toList]

/-- **A reference is read back.** -/
theorem undescribe_describe (r : SecretRef) (field : String) :
    undescribe (describe r) field = .ok r := by
  cases r with
  | file path => rw [describe, undescribe, dropPrefix_append]
  | env var =>
    have hfile : dropPrefix ("env:" ++ var) "file:" = none := by
      rw [dropPrefix, String.toList_append]
      rfl
    rw [describe, undescribe, hfile, dropPrefix_append]

theorem eq_append_of_dropPrefix {s pre rest : String} (h : dropPrefix s pre = some rest) :
    s = pre ++ rest := by
  obtain ⟨chars, hchars, rfl⟩ := Option.map_eq_some_iff.1 h
  obtain ⟨pre', hs, hpre⟩ := List.dropPrefix?_eq_some_iff.1 hchars
  obtain rfl := eq_of_beq hpre
  rw [← String.toList_inj, hs, String.toList_append, String.toList_ofList]

/-- A reference that was read is written as it stood. -/
theorem describe_of_undescribe {s field : String} {r : SecretRef} (h : undescribe s field = .ok r) :
    describe r = s := by
  unfold undescribe at h
  split at h
  · next path hpath =>
    obtain rfl := Except.ok.inj h
    exact (eq_append_of_dropPrefix hpath).symm
  split at h
  · next var hvar =>
    obtain rfl := Except.ok.inj h
    exact (eq_append_of_dropPrefix hvar).symm
  · cases h

/-! ## The conversions -/

/-- What `AuthMethod` comes to: the kind, where the secret and the passphrase are, the peer's key,
and the cipher. -/
def flattenAuth : AuthMethod → String × String × Option String × Option String × Option String
  | .password password => ("password", describe password, none, none, none)
  | .privateKey privateKey passphrase =>
    ("private_key", describe privateKey, passphrase.map describe, none, none)
  | .presharedKey privateKey peerPublicKey =>
    ("preshared_key", describe privateKey, none, some peerPublicKey, none)
  | .shadowsocks method password => ("shadowsocks", describe password, none, none, some method)

/-- What `SplitTunnelRule` comes to. -/
def flattenSplitTunnel : SplitTunnelRule → String × List String
  | .allTraffic => ("all_traffic", [])
  | .excludeApps apps => ("exclude_apps", apps)
  | .includeOnly apps => ("include_only", apps)

/-- `From<ServerProfile> for ProfileDto`. -/
def ProfileDto.fromProfile (texts : Texts) (p : ServerProfile) : ProfileDto :=
  let (authKind, secret, passphrase, peerPublicKey, cipher) := flattenAuth p.auth
  let (splitTunnel, splitTunnelApps) := flattenSplitTunnel p.splitTunnel
  { id := texts.uuid p.id
    name := p.name
    protocol :=
      match p.protocol with
      | .ssh => "ssh"
      | .wireGuard => "wireguard"
      | .shadowsocks => "shadowsocks"
    host := p.host
    port := p.port
    authKind := authKind
    authSecretSource := secret
    authPassphraseSource := passphrase
    peerPublicKey := peerPublicKey
    cipher := cipher
    dnsMode :=
      match p.dns.mode with
      | .tcp => "tcp"
      | .https => "https"
    dnsServers := p.dns.servers.map texts.ip
    dohSni := p.dns.https.map DohConfig.sni
    dohPath := p.dns.https.map DohConfig.path
    splitTunnel := splitTunnel
    splitTunnelApps := splitTunnelApps
    killSwitch := p.killSwitch }

/-- `ok_or_else`. -/
def required {α : Type} (field : String) : Option α → Except ProfileDtoError α
  | some a => .ok a
  | none => .error ⟨field⟩

theorem eq_some_of_required {α : Type} {field : String} {o : Option α} {a : α}
    (h : required field o = .ok a) : o = some a := by
  cases o with
  | none => cases h
  | some b => rw [Except.ok.inj h]

/-- The credentials, which need what their kind does. -/
def ProfileDto.auth (d : ProfileDto) (secret : SecretRef) : Except ProfileDtoError AuthMethod :=
  match d.authKind with
  | "password" => .ok (.password secret)
  | "private_key" =>
    match d.authPassphraseSource with
    | none => .ok (.privateKey secret none)
    | some s => do return .privateKey secret (some (← undescribe s "auth_passphrase_source"))
  | "preshared_key" => do return .presharedKey secret (← required "peer_public_key" d.peerPublicKey)
  | "shadowsocks" => do return .shadowsocks (← required "cipher" d.cipher) secret
  | _ => .error ⟨"auth_kind"⟩

/-- A DoH endpoint is a name and a path, or neither. -/
def ProfileDto.https (d : ProfileDto) : Except ProfileDtoError (Option DohConfig) :=
  match d.dohSni, d.dohPath with
  | some sni, some path => .ok (some ⟨sni, path⟩)
  | none, none => .ok none
  | _, _ => .error ⟨"doh_sni/doh_path"⟩

def parseProtocol : String → Except ProfileDtoError ProtocolKind
  | "ssh" => .ok .ssh
  | "wireguard" => .ok .wireGuard
  | "shadowsocks" => .ok .shadowsocks
  | _ => .error ⟨"protocol"⟩

def parseDnsMode : String → Except ProfileDtoError DnsMode
  | "tcp" => .ok .tcp
  | "https" => .ok .https
  | _ => .error ⟨"dns_mode"⟩

def parseSplitTunnel (apps : List String) : String → Except ProfileDtoError SplitTunnelRule
  | "all_traffic" => .ok .allTraffic
  | "exclude_apps" => .ok (.excludeApps apps)
  | "include_only" => .ok (.includeOnly apps)
  | _ => .error ⟨"split_tunnel"⟩

/-- `TryFrom<ProfileDto> for ServerProfile`. -/
def ProfileDto.tryInto (texts : Texts) (d : ProfileDto) : Except ProfileDtoError ServerProfile := do
  let secret ← undescribe d.authSecretSource "auth_secret_source"
  let auth ← d.auth secret
  let https ← d.https
  let id ← required "id" (texts.parseUuid d.id)
  let protocol ← parseProtocol d.protocol
  let mode ← parseDnsMode d.dnsMode
  let servers ← required "dns_servers" (d.dnsServers.mapM texts.parseIp)
  let splitTunnel ← parseSplitTunnel d.splitTunnelApps d.splitTunnel
  return ⟨id, d.name, protocol, d.host, d.port, auth, ⟨mode, servers, https⟩, splitTunnel,
    d.killSwitch⟩

/-! ## There and back -/

variable {texts : Texts} {p : ServerProfile}

/-- The credentials come back from what they were flattened to. -/
theorem auth_fromProfile (texts : Texts) (p : ServerProfile) : ∃ secret,
    undescribe (ProfileDto.fromProfile texts p).authSecretSource "auth_secret_source" = .ok secret ∧
      (ProfileDto.fromProfile texts p).auth secret = .ok p.auth := by
  obtain ⟨id, name, protocol, host, port, auth, dns, splitTunnel, killSwitch⟩ := p
  cases auth with
  | password password => exact ⟨password, undescribe_describe _ _, rfl⟩
  | privateKey privateKey passphrase =>
    refine ⟨privateKey, undescribe_describe _ _, ?_⟩
    cases passphrase with
    | none => rfl
    | some passphrase =>
      change (undescribe (describe passphrase) "auth_passphrase_source").bind _ = _
      rw [undescribe_describe]
      rfl
  | presharedKey privateKey peerPublicKey => exact ⟨privateKey, undescribe_describe _ _, rfl⟩
  | shadowsocks method password => exact ⟨password, undescribe_describe _ _, rfl⟩

theorem mapM_parseIp {servers : List IpAddr}
    (h : ∀ server ∈ servers, texts.parseIp (texts.ip server) = some server) :
    (servers.map texts.ip).mapM texts.parseIp = some servers := by
  induction servers with
  | nil => rfl
  | cons server servers ih =>
    obtain ⟨hserver, hservers⟩ := List.forall_mem_cons.1 h
    rw [List.map_cons, List.mapM_cons, hserver, ih hservers]
    rfl

/-- **Editing a profile loses nothing**: the flat form of a profile is read back as the profile. -/
theorem tryInto_fromProfile (h : texts.ReadsBack p) :
    (ProfileDto.fromProfile texts p).tryInto texts = .ok p := by
  obtain ⟨secret, hsecret, hauth⟩ := auth_fromProfile texts p
  have hhttps : (ProfileDto.fromProfile texts p).https = .ok p.dns.https := by
    rw [ProfileDto.https, ProfileDto.fromProfile]
    rcases p.dns.https with _ | ⟨sni, path⟩ <;> rfl
  have hprotocol : parseProtocol (ProfileDto.fromProfile texts p).protocol = .ok p.protocol := by
    rw [ProfileDto.fromProfile]
    cases p.protocol <;> rfl
  have hmode : parseDnsMode (ProfileDto.fromProfile texts p).dnsMode = .ok p.dns.mode := by
    rw [ProfileDto.fromProfile]
    cases p.dns.mode <;> rfl
  have hservers : (ProfileDto.fromProfile texts p).dnsServers.mapM texts.parseIp =
      some p.dns.servers := mapM_parseIp h.servers
  have hsplit : parseSplitTunnel (ProfileDto.fromProfile texts p).splitTunnelApps
      (ProfileDto.fromProfile texts p).splitTunnel = .ok p.splitTunnel := by
    rw [ProfileDto.fromProfile]
    cases p.splitTunnel <;> rfl
  have hid : texts.parseUuid (ProfileDto.fromProfile texts p).id = some p.id := h.id
  rw [ProfileDto.tryInto, hsecret]
  simp only [bind, Except.bind, hauth, hhttps, hid, hprotocol, hmode, hservers, hsplit, required]
  rfl

/-- A profile with a passphrase, two resolvers reached over HTTPS, and apps that stay outside. -/
def editedProfile : ServerProfile where
  id := 0xb6f1a0de1f2c4c3a9b7e0a1b2c3d4e2f#128
  name := "Home VPS"
  protocol := .ssh
  host := "vpn.example.com"
  port := 22
  auth := .privateKey (.file "/home/me/.ssh/id_ed25519") (some (.env "PASS"))
  dns := ⟨.https, [.ofOctets 1 1 1 1, .ofOctets 9 9 9 9], some ⟨"dns.example", "/dns-query"⟩⟩
  splitTunnel := .excludeApps ["org.example.bank"]
  killSwitch := true

theorem tryInto_fromProfile_edited :
    (ProfileDto.fromProfile Reference.texts editedProfile).tryInto Reference.texts =
      .ok editedProfile :=
  tryInto_fromProfile ⟨Reference.readsIds.parse _, by decide +kernel⟩

/-- The credentials are where the flat form has them. -/
theorem flattenAuth_of_auth {d : ProfileDto} {secret : SecretRef} {auth : AuthMethod}
    (h : d.auth secret = .ok auth) :
    (flattenAuth auth).2.1 = describe secret ∧
      ∀ s ∈ (flattenAuth auth).2.2.1, s ∈ d.authPassphraseSource := by
  unfold ProfileDto.auth at h
  split at h
  · obtain rfl := Except.ok.inj h
    exact ⟨rfl, fun s hs => (nomatch hs)⟩
  · split at h
    · obtain rfl := Except.ok.inj h
      exact ⟨rfl, fun s hs => (nomatch hs)⟩
    · next s hs =>
      obtain ⟨passphrase, hpassphrase, h⟩ := bind_eq_ok h
      obtain rfl := Except.ok.inj h
      refine ⟨rfl, fun s' hs' => ?_⟩
      obtain rfl := Option.some.inj hs'
      rw [hs, describe_of_undescribe hpassphrase]
      rfl
  · obtain ⟨peer, -, h⟩ := bind_eq_ok h
    obtain rfl := Except.ok.inj h
    exact ⟨rfl, fun s hs => (nomatch hs)⟩
  · obtain ⟨cipher, -, h⟩ := bind_eq_ok h
    obtain rfl := Except.ok.inj h
    exact ⟨rfl, fun s hs => (nomatch hs)⟩
  · cases h

/-- **A profile refers to what its flat form refers to**, and has its identifier. -/
theorem refs_of_tryInto {d : ProfileDto} (h : d.tryInto texts = .ok p) :
    texts.parseUuid d.id = some p.id ∧
      (ProfileDto.fromProfile texts p).authSecretSource = d.authSecretSource ∧
        ∀ s ∈ (ProfileDto.fromProfile texts p).authPassphraseSource,
          s ∈ d.authPassphraseSource := by
  obtain ⟨secret, hsecret, h⟩ := bind_eq_ok h
  obtain ⟨auth, hauth, h⟩ := bind_eq_ok h
  obtain ⟨https, -, h⟩ := bind_eq_ok h
  obtain ⟨id, hid, h⟩ := bind_eq_ok h
  obtain ⟨protocol, -, h⟩ := bind_eq_ok h
  obtain ⟨mode, -, h⟩ := bind_eq_ok h
  obtain ⟨servers, -, h⟩ := bind_eq_ok h
  obtain ⟨splitTunnel, -, h⟩ := bind_eq_ok h
  obtain rfl := Except.ok.inj h
  obtain ⟨hwhere, hpassphrase⟩ := flattenAuth_of_auth hauth
  exact ⟨eq_some_of_required hid, hwhere.trans (describe_of_undescribe hsecret), hpassphrase⟩

/-- The fields that can be refused. -/
def checkedFields : List String :=
  ["auth_secret_source", "auth_passphrase_source", "peer_public_key", "cipher", "auth_kind",
    "doh_sni/doh_path", "id", "protocol", "dns_mode", "dns_servers", "split_tunnel"]

theorem undescribe_error {s field : String} {e : ProfileDtoError}
    (h : undescribe s field = .error e) : e.field = field := by
  rw [undescribe] at h
  split at h
  · cases h
  split at h
  · cases h
  · cases h
    rfl

theorem required_error {α : Type} {field : String} {a : Option α} {e : ProfileDtoError}
    (h : required field a = .error e) : e.field = field := by
  cases a with
  | none =>
    cases h
    rfl
  | some a => cases h

/-- **A refusal names the field**, and not what it holds. -/
theorem field_of_tryInto_error {d : ProfileDto} {e : ProfileDtoError}
    (h : d.tryInto texts = .error e) : e.field ∈ checkedFields := by
  rw [ProfileDto.tryInto] at h
  obtain h | ⟨secret, -, h⟩ := bind_eq_error h
  · rw [undescribe_error h]
    decide
  obtain h | ⟨auth, -, h⟩ := bind_eq_error h
  · unfold ProfileDto.auth at h
    split at h
    · cases h
    · split at h
      · cases h
      · obtain h | ⟨_, -, h⟩ := bind_eq_error h
        · rw [undescribe_error h]
          decide
        · cases h
    · obtain h | ⟨_, -, h⟩ := bind_eq_error h
      · rw [required_error h]
        decide
      · cases h
    · obtain h | ⟨_, -, h⟩ := bind_eq_error h
      · rw [required_error h]
        decide
      · cases h
    · cases h
      decide
  obtain h | ⟨https, -, h⟩ := bind_eq_error h
  · unfold ProfileDto.https at h
    split at h <;> cases h
    decide
  obtain h | ⟨id, -, h⟩ := bind_eq_error h
  · rw [required_error h]
    decide
  obtain h | ⟨protocol, -, h⟩ := bind_eq_error h
  · unfold parseProtocol at h
    split at h <;> cases h
    decide
  obtain h | ⟨mode, -, h⟩ := bind_eq_error h
  · unfold parseDnsMode at h
    split at h <;> cases h
    decide
  obtain h | ⟨servers, -, h⟩ := bind_eq_error h
  · rw [required_error h]
    decide
  obtain h | ⟨splitTunnel, -, h⟩ := bind_eq_error h
  · unfold parseSplitTunnel at h
    split at h <;> cases h
    decide
  · cases h

end LiosTunnel.Dto
