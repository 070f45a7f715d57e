import LiosTunnel.App.Apart
import LiosTunnel.Config.Document
import LiosTunnel.Dto.Profile
import LiosTunnel.Lib.Utf16
import LiosTunnel.Protocols.Shadowsocks
import LiosTunnel.Protocols.SsUri

/-!
# The writer over the Rust profiles

`api/config.rs`, which the writer of profiles calls: a profile is checked, exported as a document
and read from one. Strings cross between Dart and Rust as UTF-8. `serde_json`, the texts of
identifiers and addresses, case folding and the file system are parameters.

* `Libraries`, `Libraries.Faithful`: the parameters, and what they do.
* `exportProfile`, `parseProfile`, `checkProfile`: the functions; `Libraries.writer`: the writer on
  them.
* `Libraries.Faithful.writer`: it is as the runs of the writer need it.
* `harmless_of_considerate`: so profiles stay apart.
-/

namespace LiosTunnel.App

open Config

/-! ## What crosses between Dart and Rust -/

/-- A Rust string in Dart. -/
def toDart (s : String) : Units := Utf16.encode s.toList

/-- A Dart string in Rust. -/
def toRust (s : Units) : String := .ofList (Utf16.decode s)

@[simp] theorem toRust_toDart (s : String) : toRust (toDart s) = s := by
  rw [toRust, toDart, Utf16.decode_encode, String.ofList_toList]

/-- A profile that Dart passes to Rust; the port is cut to 16 bits. -/
def ProfileDto.toRust (d : ProfileDto) : Dto.ProfileDto where
  id := App.toRust d.id
  name := App.toRust d.name
  protocol := App.toRust d.protocol
  host := App.toRust d.host
  port := .ofNat 16 d.port
  authKind := App.toRust d.authKind
  authSecretSource := App.toRust d.authSecretSource
  authPassphraseSource := d.authPassphraseSource.map App.toRust
  peerPublicKey := d.peerPublicKey.map App.toRust
  cipher := d.cipher.map App.toRust
  dnsMode := App.toRust d.dnsMode
  dnsServers := d.dnsServers.map App.toRust
  dohSni := d.dohSni.map App.toRust
  dohPath := d.dohPath.map App.toRust
  splitTunnel := App.toRust d.splitTunnel
  splitTunnelApps := d.splitTunnelApps.map App.toRust
  killSwitch := d.killSwitch

/-- A profile that Rust passes to Dart. -/
def ProfileDto.ofRust (d : Dto.ProfileDto) : ProfileDto where
  id := toDart d.id
  name := toDart d.name
  protocol := toDart d.protocol
  host := toDart d.host
  port := d.port.toNat
  authKind := toDart d.authKind
  authSecretSource := toDart d.authSecretSource
  authPassphraseSource := d.authPassphraseSource.map toDart
  peerPublicKey := d.peerPublicKey.map toDart
  cipher := d.cipher.map toDart
  dnsMode := toDart d.dnsMode
  dnsServers := d.dnsServers.map toDart
  dohSni := d.dohSni.map toDart
  dohPath := d.dohPath.map toDart
  splitTunnel := toDart d.splitTunnel
  splitTunnelApps := d.splitTunnelApps.map toDart
  killSwitch := d.killSwitch

/-! ## The functions -/

/-- The crates that the Rust side calls, Dart's case folding, and where a path leads. -/
structure Libraries (L : Type) where
  texts : Texts
  /-- `serde_json::to_string_pretty`. -/
  toStringPretty : ServerProfile → Option String
  /-- `serde_json::from_str`. -/
  fromStr : String → Option ServerProfile
  toLowerCase : Units → Units
  locate : PathBuf → L

variable {L : Type} (lib : Libraries L)

/-- `ProfileDtoError::to_string`. -/
def fieldError (e : Dto.ProfileDtoError) : String :=
  "profile field `" ++ e.field ++ "` is not valid"

/-- `parse_profile`. -/
def Libraries.parseProfile (json : String) : Except String Dto.ProfileDto :=
  match lib.fromStr json with
  | none => .error "not a valid profile"
  | some core => .ok (.fromProfile lib.texts core)

/-- `export_profile`. -/
def Libraries.exportProfile (dto : Dto.ProfileDto) : Except String String := do
  let core ← (dto.tryInto lib.texts).mapError fieldError
  match lib.toStringPretty core with
  | none => .error "could not serialize"
  | some json => .ok json

/-- `check_cipher`. -/
def checkCipher (method : String) : Except String Unit :=
  if method ∈ Protocols.ShadowsocksTunnel.OFFERED then .ok ()
  else
    .error ("that is not a cipher this build offers; one of: " ++
      ", ".intercalate Protocols.ShadowsocksTunnel.OFFERED)

/-- `check_pairing`. -/
def checkPairing : ProtocolKind → AuthMethod → Except String Unit
  | .ssh, .password _ => .ok ()
  | .ssh, .privateKey _ _ => .ok ()
  | .wireGuard, .presharedKey _ _ => .ok ()
  | .shadowsocks, .shadowsocks _ _ => .ok ()
  | _, _ =>
    .error ("this protocol and this kind of credential do not go together; ssh takes a password " ++
      "or a private key, wireguard a pre-shared key, and shadowsocks its own")

/-- `str::trim` leaves nothing. -/
def isBlank (s : String) : Bool := s.toList.all Protocols.Link.isWhitespace

/-- The DoH rules of `check_profile`. -/
def checkDoh (dns : DnsConfig) : Except String Unit :=
  match dns.mode, dns.https with
  | .tcp, _ => .ok ()
  | .https, none => .error "DNS-over-HTTPS needs a server name and path"
  | .https, some doh =>
    if isBlank doh.sni then .error "the DoH server name must not be empty"
    else if doh.path.toList.head? ≠ some '/' then .error "the DoH path must start with `/`"
    else .ok ()

/-- `check_profile`. -/
def Libraries.checkProfile (dto : Dto.ProfileDto) : Except String Unit := do
  let core ← (dto.tryInto lib.texts).mapError fieldError
  if isBlank core.host then .error "host must not be empty"
  else if core.port = 0 then .error "port must not be zero"
  else if core.dns.servers.isEmpty then .error "at least one DNS server is required"
  else do
    match core.auth with
    | .shadowsocks method _ => checkCipher method
    | _ => .ok ()
    checkPairing core.protocol core.auth
    checkDoh core.dns

/-- `ProfileWriter`, for a directory. -/
def Libraries.writer (directory : Units) : World L where
  directory := directory
  toLowerCase := lib.toLowerCase
  encode s := Protocols.Link.asBytes (Utf16.decode s)
  exportProfile dto := ((lib.exportProfile dto.toRust).mapError toDart).map toDart
  parseProfile text := (lib.parseProfile (toRust text)).toOption.map .ofRust
  checkProfile dto := (lib.checkProfile dto.toRust).mapError toDart
  locate path := lib.locate (toRust path)

/-- What the parameters do: case folding, identifiers that are written as they were read, a document
that reads back once it is whole, and one file for each name in the secrets directory. -/
structure Libraries.Faithful (directory : Units) : Prop where
  lowers : LowersCase lib.toLowerCase
  uuid : ∀ text id, IsUuid text → lib.texts.parseUuid (toRust text) = some id →
    lib.texts.uuid id = toRust text
  reads : ∀ p json q, lib.toStringPretty p = some json → lib.fromStr json = some q → q = p
  cut : ∀ p json n, lib.toStringPretty p = some json → n < (toDart json).length →
    lib.fromStr (toRust ((toDart json).take n)) = none
  plain : ∀ name name', (∀ c ∈ name ++ name', IsLegal c) → name ≠ [] → name' ≠ [] →
    lib.locate (toRust ((lib.writer directory).secretsDirectory ++ unit '/' :: name)) =
      lib.locate (toRust ((lib.writer directory).secretsDirectory ++ unit '/' :: name')) →
        name = name'

/-! ## References that cross -/

variable {lib} {directory : Units}

theorem IsPlain.lt {c : UInt16} (h : IsPlain c) : c.toNat < 0xD800 :=
  (UInt16.lt_iff_toNat_lt.1 h.1).trans (by decide)

theorem IsUuid.lt {id : Units} (h : IsUuid id) : ∀ c ∈ id, c.toNat < 0xD800 := by
  obtain ⟨groups, rfl, -, hkept⟩ := h.kept
  intro c hc
  exact (of_isLegal (isLegal_of_mem_hyphenated hkept hc)).1.lt

theorem toDart_toRust_uuid {id : Units} (h : IsUuid id) : toDart (toRust id) = id := by
  rw [toDart, toRust, String.toList_ofList, Utf16.encode_decode h.lt]

/-- A reference to a file is one to the same file when it comes back. -/
theorem filePath_toDart {ref file : Units} (h : filePath (toDart (toRust ref)) = some file) :
    ∃ file', filePath ref = some file' ∧ toRust file = toRust file' := by
  obtain ⟨pre, hpre, heq⟩ := List.dropPrefix?_eq_some_iff.1 h
  obtain rfl := eq_of_beq heq
  have hprefix : ∀ c ∈ "file:".toList, c.toNat < 0xD800 := List.forall_iff_forall_mem.1 (by decide)
  have hdecode : Utf16.decode ref = "file:".toList ++ Utf16.decode file := by
    calc Utf16.decode ref = Utf16.decode (toDart (toRust ref)) := by
          rw [toDart, Utf16.decode_encode, toRust, String.toList_ofList]
      _ = Utf16.decode (filePrefix ++ file) := by rw [hpre]
      _ = "file:".toList ++ Utf16.decode file := Utf16.decode_append hprefix file
  obtain ⟨file', rfl, hfile'⟩ := Utf16.eq_append_of_decode hprefix hdecode
  exact ⟨file', filePath_filePrefix file', congrArg String.ofList hfile'.symm⟩

theorem exportProfile_eq_ok {dto : ProfileDto} {json : Units}
    (h : (lib.writer directory).exportProfile dto = .ok json) :
    ∃ p text, dto.toRust.tryInto lib.texts = .ok p ∧ lib.toStringPretty p = some text ∧
      json = toDart text := by
  dsimp only [Libraries.writer] at h
  cases hexport : lib.exportProfile dto.toRust with
  | error e =>
    rw [hexport] at h
    cases h
  | ok text =>
    rw [hexport] at h
    obtain ⟨p, hp, hrender⟩ := bind_eq_ok hexport
    refine ⟨p, text, mapError_eq_ok hp, ?_, (Except.ok.inj h).symm⟩
    split at hrender
    · cases hrender
    · next htext =>
      obtain rfl := Except.ok.inj hrender
      exact htext

theorem parseProfile_eq_some {text : Units} {q : ProfileDto}
    (h : (lib.writer directory).parseProfile text = some q) :
    ∃ p, lib.fromStr (toRust text) = some p ∧ q = .ofRust (.fromProfile lib.texts p) := by
  dsimp only [Libraries.writer, Libraries.parseProfile] at h
  cases hread : lib.fromStr (toRust text) with
  | none =>
    rw [hread] at h
    cases h
  | some p =>
    rw [hread] at h
    exact ⟨p, rfl, (Option.some.inj h).symm⟩

/-- A profile that comes from Rust and goes back. -/
theorem toRust_ofRust (d : Dto.ProfileDto) : (ProfileDto.ofRust d).toRust = d := by
  have hmap (l : List String) : (l.map toDart).map toRust = l := by
    rw [List.map_map]
    exact (List.map_congr_left fun s _ => toRust_toDart s).trans (List.map_id l)
  have hoption (o : Option String) : (o.map toDart).map toRust = o := by
    cases o with
    | none => rfl
    | some s => exact congrArg some (toRust_toDart s)
  simp only [ProfileDto.toRust, ProfileDto.ofRust, toRust_toDart, hmap, hoption, BitVec.ofNat_toNat,
    BitVec.setWidth_eq]

/-- A profile that Rust passed on is exported as it was. -/
theorem exportProfile_ofRust {p : ServerProfile} (hp : lib.texts.ReadsBack p) {text : String}
    (htext : lib.toStringPretty p = some text) :
    (lib.writer directory).exportProfile (.ofRust (.fromProfile lib.texts p)) =
      .ok (toDart text) := by
  dsimp only [Libraries.writer]
  rw [toRust_ofRust, Libraries.exportProfile, Dto.tryInto_fromProfile hp]
  dsimp only [Except.mapError, bind, Except.bind]
  rw [htext]
  rfl

/-- The references of a profile that was read back. -/
theorem mem_refs_ofRust {d : Dto.ProfileDto} {dto : ProfileDto}
    (hsecret : d.authSecretSource = dto.toRust.authSecretSource)
    (hpassphrase : ∀ s ∈ d.authPassphraseSource, s ∈ dto.toRust.authPassphraseSource) :
    ∀ ref ∈ (ProfileDto.ofRust d).refs, ∃ ref' ∈ dto.refs, ref = toDart (toRust ref') := by
  intro ref href
  obtain rfl | href := List.mem_cons.1 href
  · exact ⟨dto.authSecretSource, List.mem_cons_self, congrArg toDart hsecret⟩
  · obtain ⟨s, hs, rfl⟩ := Option.map_eq_some_iff.1 (Option.mem_toList.1 href)
    obtain ⟨ref', href', rfl⟩ := Option.map_eq_some_iff.1 (hpassphrase s hs)
    exact ⟨ref', List.mem_cons_of_mem _ (Option.mem_toList.2 href'), rfl⟩

/-- **The writer reads back what it writes.** -/
theorem Libraries.Faithful.writer (h : lib.Faithful directory) :
    (lib.writer directory).Faithful where
  lowers := h.lowers
  plain := h.plain
  cut dto json n hjson hn := by
    obtain ⟨p, text, -, htext, rfl⟩ := exportProfile_eq_ok hjson
    refine Option.eq_none_iff_forall_ne_some.2 fun q hq => ?_
    obtain ⟨p', hp', -⟩ := parseProfile_eq_some hq
    rw [h.cut p text n htext hn] at hp'
    cases hp'
  reads dto json q hid hjson hparse := by
    obtain ⟨p, text, hp, htext, rfl⟩ := exportProfile_eq_ok hjson
    obtain ⟨p', hp', rfl⟩ := parseProfile_eq_some hparse
    rw [toRust_toDart] at hp'
    obtain rfl := h.reads p text p' htext hp'
    obtain ⟨huuid, hsecret, hpassphrase⟩ := Dto.refs_of_tryInto hp
    refine ⟨?_, fun file hfile => ?_⟩
    · exact (congrArg toDart (h.uuid dto.id p'.id hid huuid)).trans (toDart_toRust_uuid hid)
    · obtain ⟨ref, href, hfile⟩ := List.mem_filterMap.1 hfile
      obtain ⟨ref', href', rfl⟩ := mem_refs_ofRust hsecret hpassphrase ref href
      obtain ⟨file', hfile', hrust⟩ := filePath_toDart hfile
      exact ⟨file', List.mem_filterMap.2 ⟨ref', href', hfile'⟩, congrArg lib.locate hrust⟩

/-! ## Runs of the writer -/

variable [DecidableEq L]

/-- **Profiles never destroy or share each other's data**: in a run of considerate operations from
profiles that are apart, none does harm. -/
theorem harmless_of_considerate (hlib : lib.Faithful directory) {s₀ s : Store L}
    (hs₀ : Apart (lib.writer directory) s₀) {ops : List Op}
    (hops : Runs.Guarded (step (lib.writer directory)) (Considerate (lib.writer directory)) s₀ ops)
    (hrun : Runs.run (step (lib.writer directory)) s₀ ops = some s) {op : Op}
    (hop : Considerate (lib.writer directory) s op) : Harmless (lib.writer directory) s op :=
  harmless_run hlib.writer hs₀ hops hrun hop

/-! ## A reference that is spelled another way -/

namespace Reference

def homeId : String := "11111111-1111-1111-1111-111111111111"

def copyId : String := "22222222-2222-2222-2222-222222222222"

/-- A profile whose reference to its own secret has a `.` in it. -/
def home : ServerProfile where
  id := 0x11111111111111111111111111111111
  name := "Home"
  protocol := .ssh
  host := "198.51.100.7"
  port := 22
  auth := .password (.file "/p/secrets/./11111111-1111-1111-1111-111111111111")
  dns := ⟨.tcp, [.ofOctets 9 9 9 9], none⟩
  splitTunnel := .allTraffic
  killSwitch := false

def homeCopy : ServerProfile :=
  { home with id := 0x22222222222222222222222222222222, name := "Home copy" }

/-- Identifiers are read as they are written. -/
def texts : Texts :=
  { Config.Reference.texts with
    parseUuid := fun s =>
      (Config.Reference.parseUuid s).filter fun id => Config.Reference.uuid id = s }

/-- A profile that names its own secret as the app does. -/
def kept : ServerProfile :=
  { home with auth := .password (.file "/p/secrets/11111111-1111-1111-1111-111111111111") }

@[irreducible] def homeText : String := home.toStringPretty texts

@[irreducible] def copyText : String := homeCopy.toStringPretty texts

/-- Libraries that read the documents of some profiles, and a file system without links. -/
def knowing (known : List ServerProfile) : Libraries (Bool × List (List Char)) where
  texts := texts
  toStringPretty p := some (p.toStringPretty texts)
  fromStr s := known.find? fun p => p.toStringPretty texts = s
  toLowerCase := toLowerCase
  locate := PathBuf.components

def libraries : Libraries (Bool × List (List Char)) := knowing [home, homeCopy, kept]

def writer : World (Bool × List (List Char)) := libraries.writer (units "/p")

theorem parseUuid_eq_some {s : String} {id : BitVec 128} (h : texts.parseUuid s = some id) :
    texts.uuid id = s :=
  of_decide_eq_true (Option.filter_eq_some_iff.1 h).2

theorem readsBack (p : ServerProfile) : texts.ReadsBack p where
  id := by
    dsimp only [texts, Config.Reference.texts]
    rw [Config.Reference.parseUuid_uuid, Option.filter_some, if_pos (decide_eq_true_iff.2 rfl)]
  servers := (Config.Reference.readsBack p).servers

/-- A document is of one profile. -/
theorem eq_of_prefix {p q : ServerProfile}
    (h : (p.toStringPretty texts).toList <+: (q.toStringPretty texts).toList) : p = q :=
  ServerProfile.eq_of_prefix (readsBack p) (readsBack q) h

theorem toStringPretty_injective : Function.Injective (ServerProfile.toStringPretty texts) :=
  fun _ _ h => eq_of_prefix (by rw [h])

variable {known : List ServerProfile} {p q : ServerProfile}

theorem fromStr_eq_some {json : String} (h : (knowing known).fromStr json = some p) :
    p ∈ known ∧ p.toStringPretty texts = json :=
  ⟨List.mem_of_find?_eq_some h, of_decide_eq_true (List.find?_eq_some_iff_append.1 h).1⟩

theorem fromStr_toStringPretty (hp : p ∈ known) :
    (knowing known).fromStr (p.toStringPretty texts) = some p := by
  have hsome : ((knowing known).fromStr (p.toStringPretty texts)).isSome = true :=
    List.find?_isSome.2 ⟨p, hp, decide_eq_true rfl⟩
  obtain ⟨q, hq⟩ := Option.isSome_iff_exists.1 hsome
  rw [hq, toStringPretty_injective (fromStr_eq_some hq).2]

/-- What is cut off a document is none. -/
theorem cut (hascii : ∀ p ∈ known, ∀ c ∈ (p.toStringPretty texts).toList, c.toNat < 0xD800) {n : ℕ}
    (hn : n < (toDart (p.toStringPretty texts)).length) :
    (knowing known).fromStr (toRust ((toDart (p.toStringPretty texts)).take n)) = none := by
  refine Option.eq_none_iff_forall_ne_some.2 fun q hq => ?_
  obtain ⟨hknown, htext⟩ := fromStr_eq_some hq
  have hlt := hascii q hknown
  have htake : Utf16.decode ((toDart (p.toStringPretty texts)).take n) =
      (q.toStringPretty texts).toList ++ [] := by
    rw [htext, toRust, String.toList_ofList, List.append_nil]
  obtain ⟨rest, hunits, -⟩ := Utf16.eq_append_of_decode hlt htake
  have hwhole := List.take_append_drop n (toDart (p.toStringPretty texts))
  rw [hunits, List.append_assoc] at hwhole
  have hprefix : (q.toStringPretty texts).toList <+: (p.toStringPretty texts).toList := by
    have hread := congrArg Utf16.decode hwhole
    rw [Utf16.decode_append hlt, toDart, Utf16.decode_encode] at hread
    exact ⟨_, hread⟩
  obtain rfl := eq_of_prefix hprefix
  have hlength := congrArg List.length hunits
  rw [toDart, Utf16.encode_of_lt hlt] at hn
  rw [List.length_take, toDart, Utf16.encode_of_lt hlt, List.length_append] at hlength
  omega

/-- A name in the secrets directory is the last component of its path. -/
theorem components_secret (known : List ServerProfile) {name : Units}
    (hlegal : ∀ c ∈ name, IsLegal c) (hne : name ≠ []) :
    PathBuf.components
        (toRust (((knowing known).writer (units "/p")).secretsDirectory ++ unit '/' :: name)) =
      (true, ["p".toList, "secrets".toList, Utf16.decode name]) := by
  have hlt : ∀ c ∈ name, c.toNat < 0xD800 := fun c hc => (of_isLegal (hlegal c hc)).1.lt
  have hencode : Utf16.encode (Utf16.decode name) = name := Utf16.encode_decode hlt
  have hdecode :
      Utf16.decode (((knowing known).writer (units "/p")).secretsDirectory ++ unit '/' :: name) =
      "/p/secrets".toList ++ '/' :: Utf16.decode name :=
    Utf16.decode_append (p := "/p/secrets/".toList) (List.forall_iff_forall_mem.1 (by decide)) name
  have hmem : ∀ c ∈ Utf16.decode name, ∀ u ∈ Utf16.encodeChar c, IsLegal u := by
    intro c hc u hu
    rw [← hencode] at hlegal
    exact hlegal u (List.mem_flatMap.2 ⟨c, hc, hu⟩)
  have hslash : '/' ∉ Utf16.decode name := fun h =>
    absurd (hmem '/' h (unit '/') (by decide)) (by unfold IsLegal; decide)
  have hdot : Utf16.decode name ≠ ['.'] := fun h =>
    absurd (hmem '.' (h ▸ List.mem_cons_self) (unit '.') (by decide)) (by unfold IsLegal; decide)
  have hempty : Utf16.decode name ≠ [] := by
    intro h
    rw [h] at hencode
    exact hne hencode.symm
  have hsplit :
      (toRust (((knowing known).writer (units "/p")).secretsDirectory ++
        unit '/' :: name)).toList.splitOn '/' =
      [[], "p".toList, "secrets".toList, Utf16.decode name] := by
    rw [toRust, String.toList_ofList, hdecode, List.splitOn_append_cons_self,
      List.splitOn_eq_singleton hslash]
    rfl
  unfold PathBuf.components
  rw [hsplit, toRust, String.toList_ofList, hdecode]
  simp [hdot, hempty]

theorem decode_injective {name name' : Units} (hlegal : ∀ c ∈ name ++ name', IsLegal c)
    (h : Utf16.decode name = Utf16.decode name') : name = name' := by
  have hencode (t : Units) (ht : ∀ c ∈ t, c ∈ name ++ name') : Utf16.encode (Utf16.decode t) = t :=
    Utf16.encode_decode fun c hc => (of_isLegal (hlegal c (ht c hc))).1.lt
  rw [← hencode name fun c hc => List.mem_append_left _ hc, h,
    hencode name' fun c hc => List.mem_append_right _ hc]

theorem faithful_knowing
    (hascii : ∀ p ∈ known, ∀ c ∈ (p.toStringPretty texts).toList, c.toNat < 0xD800) :
    (knowing known).Faithful (units "/p") where
  lowers := lowersCase
  uuid text id _ h := parseUuid_eq_some h
  reads p json q hjson hq := by
    obtain rfl := Option.some.inj hjson
    exact toStringPretty_injective (fromStr_eq_some hq).2
  cut p json n hjson hn := by
    obtain rfl := Option.some.inj hjson
    exact cut hascii hn
  plain name name' hlegal hname hname' heq := by
    have hlast := components_secret known (fun c hc => hlegal c (List.mem_append_left _ hc)) hname
    have hlast' :=
      components_secret known (fun c hc => hlegal c (List.mem_append_right _ hc)) hname'
    change PathBuf.components _ = PathBuf.components _ at heq
    have hlists := (Prod.mk.inj (hlast.symm.trans (heq.trans hlast'))).2
    exact decode_injective hlegal (List.cons.inj (List.cons.inj (List.cons.inj hlists).2).2).1

theorem ascii_home : ∀ p ∈ [home, homeCopy, kept],
    ((p.toJson texts).pretty 0).all (fun c => c.toNat < 0xD800) = true := by decide +kernel

theorem faithful : libraries.Faithful (units "/p") :=
  faithful_knowing fun p hp c hc => of_decide_eq_true (List.all_eq_true.1 (ascii_home p hp) c (by
    rwa [ServerProfile.toStringPretty, String.toList_ofList] at hc))

/-- A profile in the app. -/
def inApp (p : ServerProfile) : ProfileDto := .ofRust (.fromProfile texts p)

theorem exportProfile_knowing (known : List ServerProfile) (p : ServerProfile) :
    ((knowing known).writer (units "/p")).exportProfile (inApp p) =
      .ok (toDart (p.toStringPretty texts)) := by
  have hp : (knowing known).texts.ReadsBack p := readsBack p
  have htext : (knowing known).toStringPretty p = some (p.toStringPretty texts) := rfl
  exact exportProfile_ofRust hp htext

theorem parseProfile_toDart {text : String} {p : ServerProfile}
    (h : libraries.fromStr text = some p) :
    writer.parseProfile (toDart text) = some (inApp p) := by
  dsimp only [writer, Libraries.writer]
  rw [toRust_toDart, Libraries.parseProfile, h]
  rfl

theorem fromStr_homeText : libraries.fromStr homeText = some home := by
  unfold homeText
  exact fromStr_toStringPretty List.mem_cons_self

theorem fromStr_copyText : libraries.fromStr copyText = some homeCopy := by
  unfold copyText
  exact fromStr_toStringPretty (List.mem_cons_of_mem _ List.mem_cons_self)

/-- The profile. -/
def store : Store (Bool × List (List Char)) where
  entries path := if path = units "/p/home.json" then some (toDart homeText) else none
  files l := if l = writer.locate (writer.secretPathFor (toDart homeId)) then some [1] else none

theorem isUuid_homeId : IsUuid (toDart homeId) := by
  have hgroups :
      toDart homeId = hyphenated [units "11111111", units "1111", units "1111", units "1111",
      units "111111111111"] := by decide
  rw [hgroups]
  exact isUuid_hyphenated (by decide) (by decide)

theorem isUuid_copyId : IsUuid (toDart copyId) := by
  have hgroups :
      toDart copyId = hyphenated [units "22222222", units "2222", units "2222", units "2222",
      units "222222222222"] := by decide
  rw [hgroups]
  exact isUuid_hyphenated (by decide) (by decide)

theorem entries_store {path text : Units} (h : store.entries path = some text) :
    path = units "/p/home.json" ∧ text = toDart homeText := by
  unfold store at h
  dsimp only at h
  split at h
  · exact ⟨‹_›, (Option.some.inj h).symm⟩
  · cases h

/-- The reference of either profile. -/
def shared : Units := units "/p/secrets/./11111111-1111-1111-1111-111111111111"

/-- The spelling leads to the profile's own secret. -/
theorem locate_shared :
    writer.locate shared = writer.locate (writer.secretPathFor (toDart homeId)) := by
  decide

theorem unshared_store : Unshared writer store := by
  intro path path' text text' q q' _ _ hne hentry hentry'
  exact absurd ((entries_store hentry).1.trans (entries_store hentry').1.symm) hne

def duplicateHome : Op :=
  .duplicate (units "/p/home.json") (.ok (toDart copyId)) 1 noDuplicateFaults

/-- The profile and its copy. -/
def duplicated : Store (Bool × List (List Char)) :=
  store.setEntry (units "/p/home-copy.json") (some (toDart copyText))

theorem perform_duplicateHome : (perform writer duplicateHome store).2 = duplicated := by
  have hload :
      load writer store (units "/p/home.json") = ⟨units "/p/home.json", some (inApp home)⟩ := by
    unfold load store
    dsimp only
    rw [if_pos rfl, Option.bind_some, parseProfile_toDart fromStr_homeText]
  have hcopy : copyOf writer (inApp home) (toDart copyId) (units "Home copy") = inApp homeCopy := by
    decide
  have hcheck : writer.checkProfile (inApp homeCopy) = .ok () := by
    have hcore :
        (Dto.ProfileDto.fromProfile texts homeCopy).tryInto libraries.texts = .ok homeCopy :=
      Dto.tryInto_fromProfile (readsBack homeCopy)
    unfold writer inApp Libraries.writer
    dsimp only
    rw [toRust_ofRust, Libraries.checkProfile, hcore]
    decide
  have hjson : writer.exportProfile (inApp homeCopy) = .ok (toDart copyText) := by
    unfold copyText
    exact exportProfile_knowing _ homeCopy
  have hpath : writer.documentPath (units "Home copy") = units "/p/home-copy.json" := by decide
  have hduplicate :
      duplicate writer ⟨units "/p/home.json", some (inApp home)⟩ (.ok (toDart copyId)) 1
      noDuplicateFaults store = (.ok (some (writer.documentPath (units "Home copy"))),
        store.setEntry (writer.documentPath (units "Home copy")) (some (toDart copyText))) := by
    refine duplicate_unmanaged (by decide) (by decide) (by decide) ?_ ?_
      (by decide) (by decide) (by decide)
    · rw [hcopy]
      exact hcheck
    · rw [hcopy]
      exact hjson
  dsimp only [perform, duplicateHome]
  rw [hload, Act.bind_of_ok hduplicate, hpath]
  rfl

theorem entries_duplicated {path text : Units} (h : duplicated.entries path = some text) :
    (path = units "/p/home.json" ∧ text = toDart homeText) ∨
      (path = units "/p/home-copy.json" ∧ text = toDart copyText) := by
  by_cases hpath : path = units "/p/home-copy.json"
  · subst hpath
    rw [duplicated, Store.setEntry_entries_self] at h
    exact .inr ⟨rfl, (Option.some.inj h).symm⟩
  · rw [duplicated, store.setEntry_entries_of_ne hpath] at h
    exact .inl (entries_store h)

theorem distinct_store : Distinct writer store := by
  intro path path' text text' q q' _ _ hentry hentry' _ _ _
  exact (entries_store hentry).1.trans (entries_store hentry').1.symm

theorem distinct_duplicated : Distinct writer duplicated := by
  have hne : (inApp home).id ≠ (inApp homeCopy).id := by decide
  have hhome := parseProfile_toDart fromStr_homeText
  have hcopy := parseProfile_toDart fromStr_copyText
  intro path path' text text' q q' _ _ hentry hentry' hparse hparse' hid
  obtain ⟨rfl, rfl⟩ | ⟨rfl, rfl⟩ := entries_duplicated hentry
  · obtain ⟨rfl, rfl⟩ | ⟨rfl, rfl⟩ := entries_duplicated hentry'
    · rfl
    · rw [hhome] at hparse
      rw [hcopy] at hparse'
      rw [← Option.some.inj hparse, ← Option.some.inj hparse'] at hid
      exact absurd hid hne
  · obtain ⟨rfl, rfl⟩ | ⟨rfl, rfl⟩ := entries_duplicated hentry'
    · rw [hcopy] at hparse
      rw [hhome] at hparse'
      rw [← Option.some.inj hparse, ← Option.some.inj hparse'] at hid
      exact absurd hid.symm hne
    · rfl

/-- A write to the profile's secret. -/
def writeHome : Op := .writeSecret (toDart homeId) (units "x") noFaults

/-- The copy's reference leads to what the write changes. -/
theorem files_written : (perform writer writeHome duplicated).2.files (writer.locate shared) =
    some (writer.encode (units "x")) := by
  rw [locate_shared]
  exact writeSecret_files (toDart homeId) (units "x")

theorem files_duplicated : duplicated.files (writer.locate shared) = some [1] := by
  rw [locate_shared]
  unfold duplicated Store.setEntry store
  dsimp only
  rw [if_pos rfl]

/-- The profile that names its own secret. -/
def keptStore : Store (Bool × List (List Char)) where
  entries path :=
    if path = units "/p/home.json" then some (toDart (kept.toStringPretty texts)) else none
  files := store.files

theorem fromStr_kept : libraries.fromStr (kept.toStringPretty texts) = some kept :=
  fromStr_toStringPretty (List.mem_cons_of_mem _ (List.mem_cons_of_mem _ List.mem_cons_self))

theorem load_keptStore :
    load writer keptStore (units "/p/home.json") = ⟨units "/p/home.json", some (inApp kept)⟩ := by
  unfold load keptStore
  dsimp only
  rw [if_pos rfl, Option.bind_some, parseProfile_toDart fromStr_kept]

theorem copied_keptStore :
    ((perform writer duplicateHome keptStore).2.entries (units "/p/home-copy.json")).isSome =
      true := by
  have hduplicate : (((do
      let _ ← duplicate writer ⟨units "/p/home.json", some (inApp kept)⟩ (.ok (toDart copyId)) 1
        noDuplicateFaults
      return ()) keptStore).2.entries (units "/p/home-copy.json")).isSome = true := by
    decide +kernel
  have hperform : perform writer duplicateHome keptStore = (do
      let _ ← duplicate writer ⟨units "/p/home.json", some (inApp kept)⟩ (.ok (toDart copyId)) 1
        noDuplicateFaults
      return ()) keptStore := by
    dsimp only [perform, duplicateHome]
    rw [load_keptStore]
  rw [hperform, hduplicate]

theorem refs_kept : (inApp kept).refs = [filePrefix ++ writer.secretPathFor (toDart homeId)] := by
  decide

theorem id_kept : (inApp kept).id = toDart homeId := by decide

theorem apart_keptStore : Apart writer keptStore := by
  intro path text q _ hentry hparse file hfile
  unfold keptStore at hentry
  dsimp only at hentry
  split at hentry
  · obtain rfl := Option.some.inj hentry
    obtain rfl := Option.some.inj ((parseProfile_toDart fromStr_kept).symm.trans hparse)
    rw [ProfileDto.filePaths, refs_kept] at hfile
    obtain rfl : file = writer.secretPathFor (toDart homeId) := by
      simpa [filePath_filePrefix] using hfile
    rw [id_kept]
    exact leadsNotTo_secretPathFor faithful.writer isUuid_homeId
  · cases hentry

end Reference

open Reference

/-- The profile is duplicated, then its secret is written: the duplicate has a copy of its own. -/
theorem harmless_of_considerate_home :
    ((perform writer duplicateHome keptStore).2.entries (units "/p/home-copy.json")).isSome = true ∧
      Harmless writer (perform writer duplicateHome keptStore).2 writeHome := by
  have hconsiderate : Considerate writer keptStore duplicateHome := by
    refine ⟨⟨by decide, fun id hid => ?_⟩, fun src hsrc => ?_⟩
    · obtain rfl := Except.ok.inj hid
      exact isUuid_copyId
    · rw [load_keptStore] at hsrc
      obtain rfl := Option.some.inj hsrc
      refine ⟨fun ref href hnot => ?_, fun _ => .inr ⟨rfl, rfl⟩, fun h => (nomatch h), rfl, rfl⟩
      rw [refs_kept] at href
      obtain rfl := List.mem_singleton.1 href
      exact absurd hnot (by decide)
  have hops : Runs.Guarded (step writer) (Considerate writer) keptStore [duplicateHome] :=
    ⟨hconsiderate, fun _ _ => trivial⟩
  exact ⟨copied_keptStore,
    harmless_of_considerate faithful apart_keptStore hops rfl ⟨isUuid_homeId, trivial⟩⟩

/-- A duplicate of the profile shares its secret, and changing the original's changes the
duplicate's. -/
theorem not_harmless_alias :
    ¬ ∀ (lib : Libraries (Bool × List (List Char))) (directory : Units), lib.Faithful directory →
      ∀ (s₀ s : Store (Bool × List (List Char))) (ops : List Op) (op : Op),
        Distinct (lib.writer directory) s₀ → Unshared (lib.writer directory) s₀ →
          (∀ op ∈ ops, op.WellFormed) → op.WellFormed →
            Runs.run (step (lib.writer directory)) s₀ ops = some s →
            Distinct (lib.writer directory) s →
              Harmless (lib.writer directory) s op := by
  intro hall
  have hwell : ∀ op ∈ [duplicateHome], op.WellFormed := by
    refine List.forall_mem_singleton.2 ⟨by decide, fun id hid => ?_⟩
    obtain rfl := Except.ok.inj hid
    exact isUuid_copyId
  have hrun : Runs.run (step writer) store [duplicateHome] = some duplicated :=
    congrArg some perform_duplicateHome
  have hharmless : Harmless writer duplicated writeHome :=
    hall libraries (units "/p") faithful store duplicated [duplicateHome] writeHome distinct_store
      unshared_store hwell isUuid_homeId hrun distinct_duplicated
  have hsame : (perform writer writeHome duplicated).2.files (writer.locate shared) =
      duplicated.files (writer.locate shared) :=
    hharmless.secrets _ _ _ rfl (units "/p/home-copy.json") (toDart copyText) (inApp homeCopy)
      (by decide) (Store.setEntry_entries_self ..) (parseProfile_toDart fromStr_copyText)
      (by decide) shared (by decide)
  rw [files_written, files_duplicated] at hsame
  exact absurd hsame (by decide)

end LiosTunnel.App
