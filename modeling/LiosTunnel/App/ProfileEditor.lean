import LiosTunnel.App.ProfileApi

/-!
# The profile editor

`profile_editor.dart`: a form over the writer of profiles. An `ss://` link fills it in, and the
link's password is held until a save has somewhere to put it. A save waits for the functions behind
the FFI and for the writer; the form can be edited and the editor left while it does. The texts of
`StateError` and `FormatException` are their messages. Validators are asked only of the fields that
are built, which is up to what is in view.

* `LinkReader`: `import_ss_uri` and `ss_uri_password` of `api/config.rs`.
* `Form`, `Editor`, `Waiting`: the fields, the widget's state, and what a save or an import waits
  for.
* `Editor.compose`, `Editor.save`, `Editor.fillIn`: what a save makes of the form, and an import of
  a link.
* `Event`, `step`: what can happen.
* `moves_of_step`: what an event can do.
-/

namespace LiosTunnel.App.ProfileEditor

open Protocols.Link (Base64Crate SsUri parseSsUri displayPort)

/-! ## Links -/

/-- What reads a link: the base64 engines, and `Display` of what a text is made of. -/
structure LinkReader where
  crate : Base64Crate
  display : Text → String

variable (reader : LinkReader)

/-- `parse`. -/
def LinkReader.parse (uri : String) : Except String SsUri :=
  (parseSsUri reader.crate uri.toList).mapError fun e => reader.display e.display

/-- `import_ss_uri`, with the identifier `new_profile_id` answers. -/
def LinkReader.importSsUri (newProfileId uri : String) : Except String Dto.ProfileDto := do
  let p ← reader.parse uri
  checkCipher (.ofList p.method)
  return {
    id := newProfileId
    name := .ofList (p.tag.getD (p.host ++ ':' :: displayPort p.port))
    protocol := "shadowsocks"
    host := .ofList p.host
    port := p.port
    authKind := "shadowsocks"
    cipher := some (.ofList p.method)
    authSecretSource := ""
    authPassphraseSource := none
    peerPublicKey := none
    dnsMode := "tcp"
    dnsServers := ["1.1.1.1", "1.0.0.1"]
    dohSni := none
    dohPath := none
    splitTunnel := "all_traffic"
    splitTunnelApps := []
    killSwitch := false }

/-- `ss_uri_password`. -/
def LinkReader.ssUriPassword (uri : String) : Except String String := do
  return .ofList (← reader.parse uri).password

/-! ## The form -/

/-- The fields with a text. -/
inductive Field
  | uri
  | name
  | host
  | port
  | user
  | secret
  | secretPath
  | dns
  | dohSni
  | dohPath
  deriving DecidableEq

/-- `_secretMode`. -/
inductive SecretMode
  | file
  | typed
  deriving DecidableEq

/-- What the form holds. -/
structure Form where
  text : Field → Units
  authKind : Units
  cipher : Units
  secretMode : SecretMode
  dnsMode : Units

/-- A text that was typed or filled in. -/
def Form.put (f : Form) (field : Field) (text : Units) : Form :=
  { f with text := Function.update f.text field text }

/-- `trim` of a field's text. -/
def Form.trimmed (f : Form) (field : Field) : Units := Split.trim isWhitespace (f.text field)

/-- The value of a digit. -/
def digit (c : UInt16) : Option ℕ :=
  if unit '0' ≤ c ∧ c ≤ unit '9' then some (c - unit '0').toNat
  else if unit 'a' ≤ c ∧ c ≤ unit 'f' then some ((c - unit 'a').toNat + 10)
  else if unit 'A' ≤ c ∧ c ≤ unit 'F' then some ((c - unit 'A').toNat + 10)
  else none

/-- The number that digits are of. -/
def number (radix : ℕ) (s : Units) : Option ℕ :=
  if s.isEmpty then none
  else s.foldlM
    (fun n c => (digit c).bind fun d => if d < radix then some (n * radix + d) else none) 0

/-- `int.tryParse`, with 64 bits: blanks around it, a sign, and digits, or `0x` and hexadecimal
ones. -/
def intTryParse (s : Units) : Option ℤ :=
  let body := Split.trim isWhitespace s
  let negative := body.head? = some (unit '-')
  let digits := if negative ∨ body.head? = some (unit '+') then body.tail else body
  let hex := digits.take 2 = units "0x" ∨ digits.take 2 = units "0X"
  (if hex then number 16 (digits.drop 2) else number 10 digits).bind fun n =>
    let i : ℤ := if negative then -n else n
    if -2 ^ 63 ≤ i ∧ i < 2 ^ 63 then some i
    else if hex ∧ 0 ≤ i ∧ i < 2 ^ 64 then some (i - 2 ^ 64)
    else none

/-- The validator of a field. -/
def Form.validates (f : Form) : Field → Bool
  | .uri => true
  | .port => (intTryParse (f.text .port)).any fun n => 1 ≤ n ∧ n ≤ 65535
  | .dohPath => (f.text .dohPath).head? = some (unit '/')
  | field => !(f.trimmed field).isEmpty

/-! ## The editor -/

/-- `?.path`. -/
def pathOf (p : Option LoadedProfile) : Option Units := p.map (·.path)

/-- `?.profile`. -/
def profileOf (p : Option LoadedProfile) : Option ProfileDto := p.bind (·.profile)

/-- What `_import` or `_save` waits for. -/
inductive Waiting
  | idle
  /-- `importSsUri` and `ssUriPassword`. -/
  | importing (uri : Units)
  /-- `newProfileId`. -/
  | minting (replacing : Option LoadedProfile)
  /-- `checkProfile`. -/
  | checking (replacing : Option LoadedProfile) (dto : ProfileDto)
  /-- `writeSecret`. -/
  | storing (replacing : Option LoadedProfile) (dto : ProfileDto) (secret : Units)
  /-- `writeProfile`. -/
  | writing (replacing : Option LoadedProfile) (dto : ProfileDto) (sshUser : Option Units)
  deriving DecidableEq

/-- `_ProfileEditorScreenState`. -/
structure Editor where
  existing : Option LoadedProfile
  form : Form
  importedId : Option Units
  importedPassword : Option Units
  importedUri : Option Units
  adopted : Option LoadedProfile
  error : Option Failure
  saved : Option Units
  waiting : Waiting
  mounted : Bool

/-- `_current`. -/
def Editor.current (ed : Editor) : Option LoadedProfile := ed.adopted.or ed.existing

/-- The profile of `_current`. -/
def Editor.old (ed : Editor) : Option ProfileDto := profileOf ed.current

/-- `_editing`. -/
def Editor.editing (ed : Editor) : Bool := (profileOf ed.existing).isSome

/-- `_linkRowVisible`. -/
def Editor.linkRowVisible (ed : Editor) : Bool := !ed.editing

/-- Whether a field is part of the form. -/
def Editor.shows (ed : Editor) : Field → Bool
  | .uri => ed.linkRowVisible
  | .user => ed.form.authKind ≠ units "shadowsocks"
  | .secret => ed.form.secretMode = .typed
  | .secretPath => ed.form.secretMode = .file
  | .dohSni | .dohPath => ed.form.dnsMode = units "https"
  | .name | .host | .port | .dns => true

/-- `offeredCiphers`. -/
def offeredCiphers : List Units :=
  ["aes-128-gcm", "aes-256-gcm", "chacha20-ietf-poly1305"].map units

/-- `_cipherItems`. -/
def Editor.cipherItems (ed : Editor) : List Units :=
  offeredCiphers ++ if ed.form.cipher ∈ offeredCiphers then [] else [ed.form.cipher]

/-- `_secretIsAKeyFile`. -/
def Form.secretIsAKeyFile (f : Form) : Bool := f.authKind = units "private_key"

/-- Texts joined by a comma and a space. -/
def joined (texts : List Units) : Units := List.intercalate (units ", ") texts

/-- The form of `initState`. -/
def initState (existing : Option LoadedProfile) (sshUser : Option Units) : Form :=
  match profileOf existing with
  | none =>
    { text := fun
        | .name => units "My server"
        | .port => units "22"
        | .dns => units "1.1.1.1, 1.0.0.1"
        | .dohSni => units "cloudflare-dns.com"
        | .dohPath => units "/dns-query"
        | _ => []
      authKind := units "password"
      cipher := units "aes-256-gcm"
      secretMode := .file
      dnsMode := units "tcp" }
  | some p =>
    { text := fun
        | .name => p.name
        | .host => p.host
        | .port => decimal p.port
        | .user => sshUser.getD []
        | .dns => joined p.dnsServers
        | .dohSni => p.dohSni.getD (units "cloudflare-dns.com")
        | .dohPath => p.dohPath.getD (units "/dns-query")
        | .secretPath => (filePath p.authSecretSource).getD []
        | .uri | .secret => []
      authKind := p.authKind
      cipher := p.cipher.getD (units "aes-256-gcm")
      secretMode := .file
      dnsMode := p.dnsMode }

/-- The editor as it opens. -/
def Editor.opened (existing : Option LoadedProfile) (sshUser : Option Units) : Editor where
  existing := existing
  form := initState existing sshUser
  importedId := none
  importedPassword := none
  importedUri := none
  adopted := none
  error := none
  saved := none
  waiting := .idle
  mounted := true

/-- `_protocolFor`. -/
def protocolFor (authKind : Units) : Units :=
  if authKind = units "shadowsocks" then units "shadowsocks"
  else if authKind = units "preshared_key" then units "wireguard"
  else units "ssh"

/-- `_refuseAProtocolChange`. -/
def Editor.refuseAProtocolChange (ed : Editor) (authKind : Units) : Except Failure Unit :=
  match ed.old with
  | none => .ok ()
  | some old =>
    if protocolFor authKind = old.protocol then .ok ()
    else
      .error (units "This is a " ++ old.protocol ++
        units (" profile and it cannot be turned into a ") ++
        protocolFor authKind ++
        units (" one here: the credential, the cipher and the username all " ++
          "mean different things to the two, so the result would save and then fail to connect. " ++
          "Create a new profile instead — for a Shadowsocks server, paste its ss:// link into " ++
          "one."))

/-- What `_save` refuses first: a change of protocol, and a link that no import has taken. -/
def Editor.refuse (ed : Editor) : Except Failure Unit := do
  ed.refuseAProtocolChange ed.form.authKind
  if ed.linkRowVisible ∧ ed.form.trimmed .uri ≠ [] ∧
      some (ed.form.trimmed .uri) ≠ ed.importedUri then
    .error (units ("There is an ss:// link in the paste box that has not been imported. Press " ++
      "\"Import from link\" to use it, or clear the box to save without it."))
  else .ok ()

/-- A failure that `_import` or `_save` catches. -/
def Editor.fail (ed : Editor) (e : Failure) : Editor :=
  { ed with waiting := .idle, error := if ed.mounted then some e else ed.error }

/-- A port as it crosses to Rust, which takes the low 16 bits. -/
def portOf (n : ℤ) : ℕ := if 0 ≤ n then n.toNat else (n % 65536).toNat

variable {L : Type} (w : World L)

/-- The file that the saved profile will name. -/
def Editor.secretFile (ed : Editor) (id : Units) : Units :=
  match ed.form.secretMode with
  | .typed => w.secretPathFor id
  | .file => ed.form.trimmed .secretPath

/-- The profile that `_save` makes of the form, with what the form does not offer carried
through. -/
def Editor.profile (ed : Editor) (old : Option ProfileDto) (id : Units) (port : ℤ) :
    ProfileDto where
  id := id
  name := ed.form.trimmed .name
  protocol :=
    if ed.form.authKind = units "shadowsocks" then units "shadowsocks"
    else (old.map (·.protocol)).getD (units "ssh")
  host := ed.form.trimmed .host
  port := portOf port
  authKind := ed.form.authKind
  authSecretSource := filePrefix ++ ed.secretFile w id
  cipher :=
    if ed.form.authKind = units "shadowsocks" then some ed.form.cipher else old.bind (·.cipher)
  dnsMode := ed.form.dnsMode
  dohSni := if ed.form.dnsMode = units "https" then some (ed.form.trimmed .dohSni) else none
  dohPath := if ed.form.dnsMode = units "https" then some (ed.form.trimmed .dohPath) else none
  dnsServers :=
    (((ed.form.text .dns).splitOn (unit ',')).map (Split.trim isWhitespace)).filter (!·.isEmpty)
  authPassphraseSource :=
    if ed.form.authKind = units "private_key" then old.bind (·.authPassphraseSource) else none
  peerPublicKey := old.bind (·.peerPublicKey)
  splitTunnel := (old.map (·.splitTunnel)).getD (units "all_traffic")
  splitTunnelApps := (old.map (·.splitTunnelApps)).getD []
  killSwitch := (old.map (·.killSwitch)).getD false

/-- Why a save with an imported password does not point elsewhere. -/
def redirected (managed : Units) : Failure :=
  units ("The password from the imported link has not been written anywhere yet, and this app " ++
    "can only write it to ") ++ managed ++
    units (". Saving now would leave the profile naming a file nothing wrote, and the password " ++
      "came from a link, so it cannot be retyped. Put the path back to ") ++ managed ++
    units (". If the file you have named already holds this password, save it that way first " ++
      "and point the profile at your own file in a second edit.")

/-- `_save` from the identifier to the profile. -/
def Editor.compose (ed : Editor) (s : Store L) (replacing : Option LoadedProfile) (id : Units) :
    Except Failure ProfileDto := do
  checkNameFree w.toLowerCase (fun path => (s.entries path).isSome) w.directory
    (ed.form.trimmed .name)
    (pathOf replacing)
  if ed.form.secretMode = .file ∧ ed.importedPassword.isSome ∧
      ed.form.trimmed .secretPath ≠ w.secretPathFor id then
    .error (redirected (w.secretPathFor id))
  else
    match intTryParse (ed.form.text .port) with
    | none => .error (units "Invalid radix-10 number")
    | some port => .ok (ed.profile w (profileOf replacing) id port)

/-- `_save` once it has an identifier, up to the check of the profile. -/
def Editor.proceed (ed : Editor) (s : Store L) (replacing : Option LoadedProfile) (id : Units) :
    Editor :=
  match ed.compose w s replacing id with
  | .error e => ed.fail e
  | .ok dto => { ed with waiting := .checking replacing dto }

/-- The editor as a save begins: what the last one said is gone. -/
def Editor.cleared (ed : Editor) : Editor := { ed with error := none, saved := none }

/-- The identifier that a save has without asking for one. -/
def Editor.knownId (ed : Editor) : Option Units := (ed.old.map (·.id)).or ed.importedId

/-- `_save`, pressed, up to where it first waits. -/
def Editor.save (ed : Editor) (s : Store L) : Editor :=
  match ed.refuse with
  | .error e => ed.cleared.fail e
  | .ok () =>
    match ed.knownId with
    | some id => ed.cleared.proceed w s ed.current id
    | none => { ed.cleared with waiting := .minting ed.current }

/-- The username that is saved: Shadowsocks has none. -/
def Form.sshUser (f : Form) : Option Units :=
  if f.authKind = units "shadowsocks" then none else some (f.trimmed .user)

/-- `_save` once the profile is checked. -/
def Editor.checked (ed : Editor) (replacing : Option LoadedProfile) (dto : ProfileDto) : Editor :=
  match w.checkProfile dto with
  | .error e => ed.fail e
  | .ok () =>
    match ed.form.secretMode, ed.importedPassword with
    | .typed, _ => { ed with waiting := .storing replacing dto (ed.form.text .secret) }
    | .file, some password => { ed with waiting := .storing replacing dto password }
    | .file, none => { ed with waiting := .writing replacing dto ed.form.sshUser }

/-- `_save` once the profile is written: the editor is now of that profile. -/
def Editor.adopt (ed : Editor) (dto : ProfileDto) (path : Units) : Editor :=
  if ed.mounted then
    { ed with
      waiting := .idle
      saved := some path
      adopted := some ⟨path, some dto⟩
      importedPassword := none }
  else { ed with waiting := .idle }

/-- `_import` once the link is read. -/
def Editor.fillIn (ed : Editor) (uri : Units) (dto : ProfileDto) (password : Units) : Editor :=
  let id := ed.knownId.getD dto.id
  if ed.mounted then
    { ed with
      waiting := .idle
      importedId := some id
      importedPassword := some password
      importedUri := some uri
      form :=
        { ((((ed.form.put .name dto.name).put .host dto.host).put .port (decimal dto.port)).put
              .secretPath (w.secretPathFor id)).put .uri [] with
          authKind := units "shadowsocks"
          cipher := dto.cipher.getD (units "aes-256-gcm")
          secretMode := .file } }
  else { ed with waiting := .idle }

/-- `importSsUri` and `ssUriPassword`, as Dart calls them. -/
def LinkReader.read (newProfileId uri : Units) : Except Failure (ProfileDto × Units) :=
  (do
    let dto ← reader.importSsUri (toRust newProfileId) (toRust uri)
    let password ← reader.ssUriPassword (toRust uri)
    return (.ofRust dto, toDart password) : Except String (ProfileDto × Units)).mapError toDart

/-! ## What can happen -/

/-- What the user does to the form. -/
inductive Edit
  | type (field : Field) (text : Units)
  | authKind (kind : Units)
  | cipher (cipher : Units)
  | secretMode (mode : SecretMode)
  | dnsMode (mode : Units)
  deriving DecidableEq

/-- What the form offers. -/
def Editor.offers (ed : Editor) : Edit → Bool
  | .type field _ => ed.shows field
  | .authKind kind => kind ∈ ["password", "private_key", "preshared_key", "shadowsocks"].map units
  | .cipher cipher => cipher ∈ ed.cipherItems
  | .secretMode mode => mode = .file ∨ !ed.form.secretIsAKeyFile
  | .dnsMode mode => mode ∈ ["tcp", "https"].map units

/-- The form after an edit. -/
def Form.edited (f : Form) : Edit → Form
  | .type field text => f.put field text
  | .authKind kind =>
    let f := { f with authKind := kind }
    if f.secretIsAKeyFile then { f with secretMode := .file } else f
  | .cipher cipher => { f with cipher := cipher }
  | .secretMode mode => { f with secretMode := mode }
  | .dnsMode mode => { f with dnsMode := mode }

/-- An event of an editor, with what its environment decides. -/
inductive Event
  | edit (e : Edit)
  | importPressed
  /-- The link is read; a new profile is offered this identifier. -/
  | imported (newProfileId : Units)
  /-- The button is pressed, with these fields built. -/
  | savePressed (built : List Field)
  | minted (newProfileId : Units)
  | checked
  | stored (faults : SecretFaults)
  | written (faults : ProfileFaults)
  /-- The button is pressed, and the question is answered with yes. -/
  | deleted (deleteDocument deleteSidecar : Option Failure)
  /-- The user goes back. -/
  | left
  deriving DecidableEq

/-- An editor and the files. -/
structure Desk (L : Type) where
  editor : Editor
  store : Store L

variable [DecidableEq L]

/-- What an event does. -/
def step (d : Desk L) (e : Event) : Option (Desk L) :=
  let ed := d.editor
  match e, ed.waiting with
  | .edit e, _ =>
    if ed.mounted ∧ ed.offers e then some { d with editor := { ed with form := ed.form.edited e } }
    else none
  | .importPressed, .idle =>
    if ed.mounted ∧ ed.linkRowVisible then
      match ed.refuseAProtocolChange (units "shadowsocks") with
      | .error e => some { d with editor := ed.fail e }
      | .ok () =>
        some { d with editor :=
          { ed with error := none, waiting := .importing (ed.form.trimmed .uri) } }
    else none
  | .imported newProfileId, .importing uri =>
    match reader.read newProfileId uri with
    | .error e => some { d with editor := ed.fail e }
    | .ok (dto, password) => some { d with editor := ed.fillIn w uri dto password }
  | .savePressed built, .idle =>
    if ed.mounted then
      if built.all fun field => !ed.shows field || ed.form.validates field then
        some { d with editor := ed.save w d.store }
      else some d
    else none
  | .minted newProfileId, .minting replacing =>
    some { d with editor := ed.proceed w d.store replacing newProfileId }
  | .checked, .checking replacing dto => some { d with editor := ed.checked w replacing dto }
  | .stored faults, .storing replacing dto secret =>
    match writeSecret w dto.id secret faults d.store with
    | (.error e, s) => some ⟨ed.fail e, s⟩
    | (.ok _, s) => some ⟨{ ed with waiting := .writing replacing dto ed.form.sshUser }, s⟩
  | .written faults, .writing replacing dto sshUser =>
    match writeProfile w dto sshUser (pathOf replacing) faults d.store with
    | (.error e, s) => some ⟨ed.fail e, s⟩
    | (.ok path, s) => some ⟨ed.adopt dto path, s⟩
  | .deleted deleteDocument deleteSidecar, .idle =>
    match ed.current with
    | some current =>
      if ed.mounted ∧ ed.editing then
        match delete current.path deleteDocument deleteSidecar d.store with
        | (.error _, s) => some { d with store := s }
        | (.ok (), s) => some ⟨{ ed with mounted := false }, s⟩
      else none
    | none => none
  | .left, _ => if ed.mounted then some { d with editor := { ed with mounted := false } } else none
  | _, _ => none

/-! ## What an event can do -/

variable {reader} {w} {d d' : Desk L} {e : Event}

variable (reader w d) in
/-- The outcomes of an event. -/
inductive Moves : Event → Desk L → Prop
  | edited (e : Edit) (hoffers : d.editor.offers e = true) :
    Moves (.edit e) { d with editor := { d.editor with form := d.editor.form.edited e } }
  | importing (hidle : d.editor.waiting = .idle) (hmounted : d.editor.mounted = true) :
    Moves .importPressed { d with editor := { d.editor with
      error := none
      waiting := .importing (d.editor.form.trimmed .uri) } }
  | refused (f : Failure) (hidle : d.editor.waiting = .idle) (hmounted : d.editor.mounted = true) :
    Moves .importPressed { d with editor := d.editor.fail f }
  | filled (id : Units) {uri : Units} {dto : ProfileDto} {password : Units}
      (hwaiting : d.editor.waiting = .importing uri)
      (hread : reader.read id uri = .ok (dto, password)) :
    Moves (.imported id) { d with editor := d.editor.fillIn w uri dto password }
  | unread (id : Units) (f : Failure) {uri : Units} (hwaiting : d.editor.waiting = .importing uri) :
    Moves (.imported id) { d with editor := d.editor.fail f }
  | invalid (built : List Field) : Moves (.savePressed built) d
  | pressed (built : List Field) (hidle : d.editor.waiting = .idle)
      (hmounted : d.editor.mounted = true) :
    Moves (.savePressed built) { d with editor := d.editor.save w d.store }
  | minted (id : Units) {r : Option LoadedProfile} (hwaiting : d.editor.waiting = .minting r) :
    Moves (.minted id) { d with editor := d.editor.proceed w d.store r id }
  | checked {r : Option LoadedProfile} {dto : ProfileDto}
      (hwaiting : d.editor.waiting = .checking r dto) :
    Moves .checked { d with editor := d.editor.checked w r dto }
  | stored {faults : SecretFaults} {r : Option LoadedProfile} {dto : ProfileDto}
      {secret ref : Units}
      {s : Store L} (hwaiting : d.editor.waiting = .storing r dto secret)
      (hwrite : writeSecret w dto.id secret faults d.store = (.ok ref, s)) :
    Moves (.stored faults) ⟨{ d.editor with waiting := .writing r dto d.editor.form.sshUser }, s⟩
  | unstored {faults : SecretFaults} {r : Option LoadedProfile} {dto : ProfileDto} {secret : Units}
      {f : Failure} {s : Store L} (hwaiting : d.editor.waiting = .storing r dto secret)
      (hwrite : writeSecret w dto.id secret faults d.store = (.error f, s)) :
    Moves (.stored faults) ⟨d.editor.fail f, s⟩
  | written {faults : ProfileFaults} {r : Option LoadedProfile} {dto : ProfileDto}
      {user : Option Units} {path : Units} {s : Store L}
      (hwaiting : d.editor.waiting = .writing r dto user)
      (hwrite : writeProfile w dto user (pathOf r) faults d.store = (.ok path, s)) :
    Moves (.written faults) ⟨d.editor.adopt dto path, s⟩
  | unwritten {faults : ProfileFaults} {r : Option LoadedProfile} {dto : ProfileDto}
      {user : Option Units} {f : Failure} {s : Store L}
      (hwaiting : d.editor.waiting = .writing r dto user)
      (hwrite : writeProfile w dto user (pathOf r) faults d.store = (.error f, s)) :
    Moves (.written faults) ⟨d.editor.fail f, s⟩
  | deleted {deleteDocument deleteSidecar : Option Failure} {current : LoadedProfile} {s : Store L}
      (hidle : d.editor.waiting = .idle) (hmounted : d.editor.mounted = true)
      (hediting : d.editor.editing = true) (hcurrent : d.editor.current = some current)
      (hdelete : delete current.path deleteDocument deleteSidecar d.store = (.ok (), s)) :
    Moves (.deleted deleteDocument deleteSidecar) ⟨{ d.editor with mounted := false }, s⟩
  | undeleted {deleteDocument deleteSidecar : Option Failure}
      {current : LoadedProfile} {f : Failure}
      {s : Store L} (hidle : d.editor.waiting = .idle) (hcurrent : d.editor.current = some current)
      (hdelete : delete current.path deleteDocument deleteSidecar d.store = (.error f, s)) :
    Moves (.deleted deleteDocument deleteSidecar) { d with store := s }
  | left (hmounted : d.editor.mounted = true) :
    Moves .left { d with editor := { d.editor with mounted := false } }

/-- **What an event can do.** -/
theorem moves_of_step (h : step reader w d e = some d') : Moves reader w d e d' := by
  unfold step at h
  dsimp only at h
  split at h
  · obtain ⟨⟨-, hoffers⟩, h⟩ := Option.ite_none_right_eq_some.1 h
    obtain rfl := Option.some.inj h
    exact .edited _ hoffers
  · next hidle =>
    obtain ⟨⟨hmounted, -⟩, h⟩ := Option.ite_none_right_eq_some.1 h
    split at h
    · obtain rfl := Option.some.inj h
      exact .refused _ hidle hmounted
    · obtain rfl := Option.some.inj h
      exact .importing hidle hmounted
  · next hwaiting =>
    split at h
    · obtain rfl := Option.some.inj h
      exact .unread _ _ hwaiting
    · next hread =>
      obtain rfl := Option.some.inj h
      exact .filled _ hwaiting hread
  · next hidle =>
    obtain ⟨hmounted, h⟩ := Option.ite_none_right_eq_some.1 h
    split at h
    · obtain rfl := Option.some.inj h
      exact .pressed _ hidle hmounted
    · obtain rfl := Option.some.inj h
      exact .invalid _
  · next hwaiting =>
    obtain rfl := Option.some.inj h
    exact .minted _ hwaiting
  · next hwaiting =>
    obtain rfl := Option.some.inj h
    exact .checked hwaiting
  · next hwaiting =>
    split at h
    · next hwrite =>
      obtain rfl := Option.some.inj h
      exact .unstored hwaiting hwrite
    · next hwrite =>
      obtain rfl := Option.some.inj h
      exact .stored hwaiting hwrite
  · next hwaiting =>
    split at h
    · next hwrite =>
      obtain rfl := Option.some.inj h
      exact .unwritten hwaiting hwrite
    · next hwrite =>
      obtain rfl := Option.some.inj h
      exact .written hwaiting hwrite
  · next hidle =>
    split at h
    · next hcurrent =>
      obtain ⟨⟨hmounted, hediting⟩, h⟩ := Option.ite_none_right_eq_some.1 h
      split at h
      · next hdelete =>
        obtain rfl := Option.some.inj h
        exact .undeleted hidle hcurrent hdelete
      · next hdelete =>
        obtain rfl := Option.some.inj h
        exact .deleted hidle hmounted hediting hcurrent hdelete
    · cases h
  · obtain ⟨hmounted, h⟩ := Option.ite_none_right_eq_some.1 h
    obtain rfl := Option.some.inj h
    exact .left hmounted
  · cases h

variable {ed : Editor} {s : Store L} {r : Option LoadedProfile} {dto : ProfileDto} {id : Units}

omit [DecidableEq L] in
variable (w ed s r id) in
/-- A save goes on to the check of a profile, or says why not. -/
theorem proceed_cases : (∃ f, ed.proceed w s r id = ed.fail f) ∨
    ∃ dto, ed.compose w s r id = .ok dto ∧
      ed.proceed w s r id = { ed with waiting := .checking r dto } := by
  unfold Editor.proceed
  cases h : ed.compose w s r id with
  | error f => exact .inl ⟨f, rfl⟩
  | ok dto => exact .inr ⟨dto, rfl, rfl⟩

omit [DecidableEq L] in
variable (w ed s) in
theorem save_cases : (∃ f, ed.save w s = ed.cleared.fail f) ∨
    ed.refuse = .ok () ∧ ((∃ id, ed.knownId = some id ∧
      ed.save w s = ed.cleared.proceed w s ed.current id) ∨
      ed.knownId = none ∧ ed.save w s = { ed.cleared with waiting := .minting ed.current }) := by
  unfold Editor.save
  cases hrefuse : ed.refuse with
  | error f => exact .inl ⟨f, rfl⟩
  | ok _ =>
    refine .inr ⟨rfl, ?_⟩
    cases hid : ed.knownId with
    | none => exact .inr ⟨rfl, rfl⟩
    | some id => exact .inl ⟨id, rfl, rfl⟩

omit [DecidableEq L] in
variable (w ed r dto) in
theorem checked_cases : (∃ f, ed.checked w r dto = ed.fail f) ∨ w.checkProfile dto = .ok () ∧
    ((ed.form.secretMode = .typed ∧
        ed.checked w r dto = { ed with waiting := .storing r dto (ed.form.text .secret) }) ∨
      ed.form.secretMode = .file ∧ ((∃ password, ed.importedPassword = some password ∧
        ed.checked w r dto = { ed with waiting := .storing r dto password }) ∨
        ed.importedPassword = none ∧
          ed.checked w r dto = { ed with waiting := .writing r dto ed.form.sshUser })) := by
  unfold Editor.checked
  cases hcheck : w.checkProfile dto with
  | error f => exact .inl ⟨f, rfl⟩
  | ok _ =>
    refine .inr ⟨rfl, ?_⟩
    dsimp only
    cases hmode : ed.form.secretMode with
    | typed => exact .inl ⟨rfl, rfl⟩
    | file =>
      refine .inr ⟨rfl, ?_⟩
      cases hpassword : ed.importedPassword with
      | none => exact .inr ⟨rfl, rfl⟩
      | some password => exact .inl ⟨password, rfl, rfl⟩

omit [DecidableEq L] in
/-- **What is composed** has a free name; it is made of the form, and an imported password has its
file. -/
theorem of_compose (h : ed.compose w s r id = .ok dto) : ∃ port,
    dto = ed.profile w (profileOf r) id port ∧ Free w dto.name (pathOf r) s ∧
      (ed.form.secretMode = .file → ed.importedPassword.isSome →
        ed.form.trimmed .secretPath = w.secretPathFor id) := by
  unfold Editor.compose at h
  cases hname : checkNameFree w.toLowerCase (fun path => (s.entries path).isSome) w.directory
      (ed.form.trimmed .name) (pathOf r) with
  | error f =>
    rw [hname] at h
    cases h
  | ok _ =>
    rw [hname] at h
    change (if _ then _ else _) = _ at h
    split at h
    · cases h
    · next hredirected =>
      split at h
      · cases h
      · next port _ =>
        obtain rfl := Except.ok.inj h
        refine ⟨port, rfl, of_checkNameFree hname, fun hfile hsome => ?_⟩
        by_contra hne
        exact hredirected ⟨hfile, hsome, hne⟩

end LiosTunnel.App.ProfileEditor
