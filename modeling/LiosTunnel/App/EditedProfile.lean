import LiosTunnel.App.ProfileEditor
import LiosTunnel.Protocols.Links

/-!
# What an editor leaves

Whatever is done in an editor, it is about one profile. A save under another name moves the
document, and a second save is an edit of the first; an identifier stays, and with it the one file
that a secret is written to.

* `writeSecret_eq`, `writeProfile_eq`, `delete_eq`: the writer's operations, when the files do not
  fail.
* `Carries`: what a save keeps of the profile it replaces.
* `Replaced`: the documents, with the profile that was opened replaced by the editor's own.
* `Leaves.step`: what an event leaves.
* `replaced_of_run`: **an editor leaves one profile**, and everything else as it was.
-/

namespace LiosTunnel.App.ProfileEditor

variable {L : Type} {w : World L} [DecidableEq L] {reader : LinkReader} {d d' : Desk L} {e : Event}
  {ed : Editor} {s : Store L} {r : Option LoadedProfile} {dto : ProfileDto} {id : Units}

/-! ## Files that do not fail -/

/-- Nothing of a save fails. -/
def noProfileFaults : ProfileFaults := ⟨none, none, none, none, none, none⟩

/-- The files do not fail. -/
def Event.Faultless : Event → Prop
  | .stored faults => faults = noFaults
  | .written faults => faults = noProfileFaults
  | .deleted deleteDocument deleteSidecar => deleteDocument = none ∧ deleteSidecar = none
  | _ => True

omit [DecidableEq L] in
theorem deleteEntry_none (path : Units) (s : Store L) :
    deleteEntry none path s = (.ok (), s.setEntry path none) := by
  unfold deleteEntry
  cases hentry : s.entries path with
  | none =>
    dsimp only
    rw [Store.setEntry, ← hentry, Function.update_eq_self]
  | some text => rfl

theorem writeSecret_eq (id secret : Units) (s : Store L) :
    writeSecret w id secret noFaults s = (.ok (filePrefix ++ w.secretPathFor id),
      s.setFile (w.locate (w.secretPathFor id)) (some (w.encode secret))) := by
  have hcreate : ∃ bytes, createFile w none (w.secretPathFor id) s =
      (.ok (), s.setFile (w.locate (w.secretPathFor id)) bytes) := by
    unfold createFile
    cases hfile : s.files (w.locate (w.secretPathFor id)) with
    | none => exact ⟨some [], rfl⟩
    | some bytes =>
      refine ⟨s.files (w.locate (w.secretPathFor id)), ?_⟩
      dsimp only
      rw [Store.setFile, Function.update_eq_self]
  obtain ⟨bytes, hcreate⟩ := hcreate
  refine (Act.bind_of_ok hcreate _).trans ?_
  change (_, (s.setFile _ bytes).setFile _ _) = _
  rw [Store.setFile, Store.setFile, Store.setFile, Function.update_idem]

/-- The sidecar's text. -/
def userText (sshUser : Option Units) : Option Units :=
  (sshUser.map (Split.trim isWhitespace)).filter (!·.isEmpty)

/-- The files once the replaced profile is removed. -/
def removed (s : Store L) (path : Units) (replacingPath : Option Units) : Store L :=
  match replacingPath with
  | some old => if old ≠ path then (s.setEntry old none).setEntry (sidecarPath old) none else s
  | none => s

/-- The files after a save. -/
def savedStore (s : Store L) (path json : Units) (sshUser replacingPath : Option Units) : Store L :=
  removed ((s.setEntry path (some json)).setEntry (sidecarPath path) (userText sshUser)) path
    replacingPath

omit [DecidableEq L] in
theorem writeSidecar_eq (path : Units) (sshUser : Option Units) (s : Store L) :
    writeSidecar path sshUser noProfileFaults s =
      (.ok (), s.setEntry (sidecarPath path) (userText sshUser)) := by
  unfold writeSidecar userText
  cases sshUser with
  | none => exact deleteEntry_none _ s
  | some user =>
    dsimp only [Option.map_some]
    cases Split.trim isWhitespace user with
    | nil => exact deleteEntry_none _ s
    | cons c rest => rfl

omit [DecidableEq L] in
theorem delete_eq (path : Units) (s : Store L) :
    delete path none none s =
      (.ok (), (s.setEntry path none).setEntry (sidecarPath path) none) :=
  (Act.bind_of_ok (deleteEntry_none path s) _).trans (deleteEntry_none _ _)

omit [DecidableEq L] in
theorem removeReplaced_eq (path : Units) (replacingPath : Option Units) (s : Store L) :
    removeReplaced path replacingPath noProfileFaults s =
      (.ok (), removed s path replacingPath) := by
  unfold removeReplaced removed
  cases replacingPath with
  | none => rfl
  | some old =>
    by_cases hold : old ≠ path
    · dsimp only
      rw [if_pos hold, if_pos hold]
      exact delete_eq old s
    · dsimp only
      rw [if_neg hold, if_neg hold]
      rfl

omit [DecidableEq L] in
/-- A save that the name allows. -/
theorem writeProfile_eq {dto : ProfileDto} {json : Units} {sshUser replacingPath : Option Units}
    {s : Store L} (hjson : w.exportProfile dto = .ok json)
    (hfree : Free w dto.name replacingPath s) :
    writeProfile w dto sshUser replacingPath noProfileFaults s = (.ok (w.documentPath dto.name),
      savedStore s (w.documentPath dto.name) json sshUser replacingPath) := by
  have hexport : Act.ofExcept (fun _ : Store L => w.exportProfile dto) s = (.ok json, s) :=
    Act.ofExcept_of_ok hjson
  have hname : Act.ofExcept (fun s : Store L => checkNameFree w.toLowerCase
      (fun path => (s.entries path).isSome) w.directory dto.name replacingPath) s =
        (.ok (), s) := by
    refine Act.ofExcept_of_ok ?_
    unfold checkNameFree
    refine if_neg ?_
    rintro ⟨hthere, hne⟩
    obtain hnone | hsame := hfree
    · change (s.entries (w.documentPath dto.name)).isSome = true at hthere
      rw [hnone] at hthere
      cases hthere
    · exact hne hsame
  have hdir : attempt noProfileFaults.createDir s = (.ok (), s) := rfl
  have hwrite : writeEntry noProfileFaults.document
      (documentPath w.toLowerCase w.directory dto.name) json s =
        (.ok (), s.setEntry (w.documentPath dto.name) (some json)) := rfl
  unfold writeProfile
  rw [Act.bind_of_ok hexport, Act.bind_of_ok hdir, Act.bind_of_ok hname, Act.bind_of_ok hwrite,
    Act.bind_of_ok (writeSidecar_eq _ _ _), Act.bind_of_ok (removeReplaced_eq _ _ _)]
  rfl

/-! ## What an edit carries through -/

/-- What a save keeps of the profile it replaces. -/
structure Carries (old dto : ProfileDto) : Prop where
  id : dto.id = old.id
  protocol : dto.protocol = old.protocol
  peerPublicKey : dto.peerPublicKey = old.peerPublicKey
  splitTunnel : dto.splitTunnel = old.splitTunnel
  splitTunnelApps : dto.splitTunnelApps = old.splitTunnelApps
  killSwitch : dto.killSwitch = old.killSwitch

theorem Carries.trans {a b c : ProfileDto} (h : Carries a b) (h' : Carries b c) : Carries a c :=
  ⟨h'.id.trans h.id, h'.protocol.trans h.protocol, h'.peerPublicKey.trans h.peerPublicKey,
    h'.splitTunnel.trans h.splitTunnel, h'.splitTunnelApps.trans h.splitTunnelApps,
    h'.killSwitch.trans h.killSwitch⟩

theorem Editor.refuseAProtocolChange_eq_ok {kind : Units} {old : ProfileDto}
    (hold : ed.old = some old)
    (h : ed.refuseAProtocolChange kind = .ok ()) : protocolFor kind = old.protocol := by
  unfold Editor.refuseAProtocolChange at h
  rw [hold] at h
  dsimp only at h
  by_contra hne
  rw [if_neg hne] at h
  cases h

theorem Editor.protocol_of_refuse {old : ProfileDto} (hold : ed.old = some old)
    (h : ed.refuse = .ok ()) :
    protocolFor ed.form.authKind = old.protocol := by
  unfold Editor.refuse at h
  cases hprotocol : ed.refuseAProtocolChange ed.form.authKind with
  | error f =>
    rw [hprotocol] at h
    cases h
  | ok _ => exact Editor.refuseAProtocolChange_eq_ok hold hprotocol

omit [DecidableEq L] in
/-- A save that was not refused makes a profile that carries the old one through. -/
theorem carries_profile {old : ProfileDto} {port : ℤ} (hid : id = old.id)
    (hprotocol : protocolFor ed.form.authKind = old.protocol) :
    Carries old (ed.profile w (some old) id port) where
  id := hid
  protocol := by
    change (if _ then _ else old.protocol) = old.protocol
    split
    · next hkind =>
      rw [← hprotocol, protocolFor, if_pos hkind]
    · rfl
  peerPublicKey := rfl
  splitTunnel := rfl
  splitTunnelApps := rfl
  killSwitch := rfl

/-! ## One profile -/

variable (w)

/-- How the editor's profile is there: as it was opened, or as a save wrote it. -/
inductive Stands (s₀ : Store L) (existing : Option LoadedProfile) (s : Store L)
    (a : LoadedProfile) : Prop
  | opened (h : existing = some a) (hsame : Same a.path s₀ s)
  | saved (dto : ProfileDto) (json : Units) (hprofile : a.profile = some dto)
      (hjson : w.exportProfile dto = .ok json) (hpath : a.path = w.documentPath dto.name)
      (hentry : s.entries a.path = some json)
      (hfree : s₀.entries a.path = none ∨ pathOf existing = some a.path)
      (hcarries : ∀ old, profileOf existing = some old → Carries old dto)

/-- The documents, with the profile that was opened replaced by the editor's own. -/
structure Replaced (s₀ : Store L) (existing own : Option LoadedProfile) (s : Store L) : Prop where
  others : ∀ path, IsDocument path → s₀.entries path ≠ none → pathOf existing ≠ some path →
    Same path s₀ s
  nothing : ∀ path, IsDocument path → s₀.entries path = none → pathOf own ≠ some path →
    s.entries path = none
  gone : ∀ x, existing = some x → pathOf own ≠ some x.path →
    s.entries x.path = none ∧ s.entries (sidecarPath x.path) = none
  stands : ∀ a, own = some a → Stands w s₀ existing s a

variable {w} {s₀ : Store L} {existing own : Option LoadedProfile} {json : Units}
  {user replacingPath : Option Units}

omit [DecidableEq L] in
theorem Replaced.opened (s : Store L) : Replaced w s existing existing s where
  others _ _ _ _ := ⟨rfl, rfl⟩
  nothing _ _ h _ := h
  gone x hx h := by
    subst hx
    exact absurd rfl h
  stands a ha := .opened ha ⟨rfl, rfl⟩

omit [DecidableEq L] in
/-- The editor's profile is where nothing else was. -/
theorem Replaced.free (h : Replaced w s₀ existing own s) {path : Units}
    (hown : pathOf own = some path) :
    s₀.entries path = none ∨ pathOf existing = some path := by
  obtain ⟨a, rfl, rfl⟩ := Option.map_eq_some_iff.1 hown
  obtain ⟨rfl, -⟩ | ⟨_, _, _, _, _, _, hfree, _⟩ := h.stands a rfl
  · exact .inr rfl
  · exact hfree

omit [DecidableEq L] in
theorem Replaced.isDocument (h : Replaced w s₀ existing own s)
    (hexisting : ∀ path, pathOf existing = some path → IsDocument path) {path : Units}
    (hown : pathOf own = some path) : IsDocument path := by
  obtain ⟨a, rfl, rfl⟩ := Option.map_eq_some_iff.1 hown
  obtain ⟨rfl, -⟩ | ⟨dto, _, _, _, hpath, _, _, _⟩ := h.stands a rfl
  · exact hexisting _ rfl
  · rw [hpath]
    exact isDocument_documentPath w dto.name

omit [DecidableEq L] in
theorem removed_self {path : Units} (hpath : IsDocument path)
    (hold : ∀ old, replacingPath = some old → IsDocument old) :
    (removed s path replacingPath).entries path = s.entries path := by
  unfold removed
  split
  · next old =>
    split
    · next hne =>
      rw [Store.setEntry_entries_of_ne _ (hpath.ne_sidecarPath old),
        Store.setEntry_entries_of_ne _ (Ne.symm hne)]
    · rfl
  · rfl

omit [DecidableEq L] in
/-- The document that a save writes. -/
theorem savedStore_self {path : Units} (hpath : IsDocument path)
    (hold : ∀ old, replacingPath = some old → IsDocument old) :
    (savedStore s path json user replacingPath).entries path = some json := by
  rw [savedStore, removed_self hpath hold,
    Store.setEntry_entries_of_ne _ (hpath.ne_sidecarPath path),
    Store.setEntry_entries_self]

omit [DecidableEq L] in
/-- The other documents. -/
theorem same_savedStore {path other : Units} (hpath : IsDocument path)
    (hold : ∀ old, replacingPath = some old → IsDocument old) (hother : IsDocument other)
    (hne : other ≠ path) (hreplacing : replacingPath ≠ some other) :
    Same other s (savedStore s path json user replacingPath) := by
  have hwritten :
      Same other s ((s.setEntry path (some json)).setEntry (sidecarPath path) (userText user)) :=
    Same.setSidecar (Same.setDocument ⟨rfl, rfl⟩ hpath hne _) hother hne _
  unfold savedStore removed
  split
  · next old =>
    have holdne : other ≠ old := by
      rintro rfl
      exact hreplacing rfl
    split
    · exact (hwritten.setDocument (hold old rfl) holdne none).setSidecar hother holdne none
    · exact hwritten
  · exact hwritten

omit [DecidableEq L] in
/-- The document that a save replaces under another name. -/
theorem savedStore_old {path old : Units} (hdocument : IsDocument old) (hne : old ≠ path) :
    (savedStore s path json user (some old)).entries old = none ∧
      (savedStore s path json user (some old)).entries (sidecarPath old) = none := by
  unfold savedStore removed
  dsimp only
  rw [if_pos hne]
  refine ⟨?_, Store.setEntry_entries_self _ _ _⟩
  rw [Store.setEntry_entries_of_ne _ (hdocument.ne_sidecarPath old), Store.setEntry_entries_self]

omit [DecidableEq L] in
/-- **A save**: the profile it writes takes the place of the editor's own. -/
theorem Replaced.saved (h : Replaced w s₀ existing own s)
    (hexisting : ∀ path, pathOf existing = some path → IsDocument path)
    (hjson : w.exportProfile dto = .ok json) (hfree : Free w dto.name (pathOf own) s)
    (hcarries : ∀ old, profileOf existing = some old → Carries old dto) :
    Replaced w s₀ existing (some ⟨w.documentPath dto.name, some dto⟩)
      (savedStore s (w.documentPath dto.name) json user (pathOf own)) := by
  have hdoc := isDocument_documentPath w dto.name
  have hown (old : Units) (hold : pathOf own = some old) : IsDocument old :=
    h.isDocument hexisting hold
  -- whatever was there before the editor opened is not in the way
  have hfirst : s₀.entries (w.documentPath dto.name) = none ∨
      pathOf existing = some (w.documentPath dto.name) := by
    obtain hnone | hsame := hfree
    · by_contra hnot
      obtain ⟨hthere, hnot⟩ := not_or.1 hnot
      exact hthere ((h.others _ hdoc hthere hnot).1.symm.trans hnone)
    · exact h.free hsame.symm
  refine ⟨fun path hpath hthere hnot => ?_, fun path hpath hnone hnot => ?_, fun x hx hnot => ?_,
    fun a ha => ?_⟩
  · have hne : path ≠ w.documentPath dto.name := by
      rintro rfl
      exact hfirst.elim hthere hnot
    have hother : pathOf own ≠ some path := fun heq => (h.free heq).elim hthere hnot
    have hsame : Same path s (savedStore s (w.documentPath dto.name) json user (pathOf own)) :=
      same_savedStore hdoc hown hpath hne hother
    have hbefore := h.others path hpath hthere hnot
    exact ⟨hsame.1.trans hbefore.1, hsame.2.trans hbefore.2⟩
  · have hne : path ≠ w.documentPath dto.name := by
      rintro rfl
      exact hnot rfl
    by_cases hother : pathOf own = some path
    · rw [hother]
      exact (savedStore_old hpath hne).1
    · exact (same_savedStore hdoc hown hpath hne hother).1.trans (h.nothing path hpath hnone hother)
  · subst hx
    have hpath : IsDocument x.path := hexisting _ rfl
    have hne : x.path ≠ w.documentPath dto.name := by
      intro heq
      exact hnot (congrArg some heq.symm)
    by_cases hother : pathOf own = some x.path
    · rw [hother]
      exact savedStore_old hpath hne
    · have hsame : Same x.path s (savedStore s (w.documentPath dto.name) json user (pathOf own)) :=
        same_savedStore hdoc hown hpath hne hother
      have hbefore := h.gone x rfl hother
      exact ⟨hsame.1.trans hbefore.1, hsame.2.trans hbefore.2⟩
  · obtain rfl := Option.some.inj ha
    exact .saved dto json rfl hjson rfl (savedStore_self hdoc hown) hfirst hcarries

omit [DecidableEq L] in
/-- **A deletion** leaves nothing of the editor's. -/
theorem Replaced.deleted {a : LoadedProfile} (h : Replaced w s₀ existing (some a) s)
    (hexisting : ∀ path, pathOf existing = some path → IsDocument path) :
    Replaced w s₀ existing none ((s.setEntry a.path none).setEntry (sidecarPath a.path) none) := by
  have ha : IsDocument a.path := h.isDocument hexisting rfl
  have hself :
      ((s.setEntry a.path none).setEntry (sidecarPath a.path) none).entries a.path = none := by
    rw [Store.setEntry_entries_of_ne _ (ha.ne_sidecarPath a.path), Store.setEntry_entries_self]
  have hsame {path : Units} (hpath : IsDocument path) (hne : path ≠ a.path) :
      Same path s ((s.setEntry a.path none).setEntry (sidecarPath a.path) none) :=
    Same.setSidecar (Same.setDocument ⟨rfl, rfl⟩ ha hne none) hpath hne none
  have hown {path : Units} (hne : path ≠ a.path) : pathOf (some a) ≠ some path := fun heq =>
    hne (Option.some.inj heq).symm
  refine ⟨fun path hpath hthere hnot => ?_, fun path hpath hnone _ => ?_, fun x hx _ => ?_, ?_⟩
  · have hne : path ≠ a.path := by
      rintro rfl
      exact (h.free rfl).elim hthere hnot
    have hbefore := h.others path hpath hthere hnot
    exact ⟨(hsame hpath hne).1.trans hbefore.1, (hsame hpath hne).2.trans hbefore.2⟩
  · by_cases hne : path = a.path
    · rw [hne, hself]
    · exact (hsame hpath hne).1.trans (h.nothing path hpath hnone (hown hne))
  · by_cases hne : x.path = a.path
    · rw [hne]
      exact ⟨hself, Store.setEntry_entries_self _ _ _⟩
    · subst hx
      have hbefore := h.gone x rfl (hown hne)
      have hafter := hsame (hexisting _ rfl) hne
      exact ⟨hafter.1.trans hbefore.1, hafter.2.trans hbefore.2⟩
  · rintro b hb
    cases hb

omit [DecidableEq L] in
/-- The editor's profile carries through the one that was opened. -/
theorem Replaced.carries (h : Replaced w s₀ existing own s) {a : LoadedProfile}
    (hown : own = some a)
    {old : ProfileDto} (hold : profileOf existing = some old) :
    ∃ dto, a.profile = some dto ∧ Carries old dto := by
  obtain ⟨rfl, -⟩ | ⟨dto, _, hprofile, _, _, _, _, hcarries⟩ := h.stands a hown
  · exact ⟨old, hold, ⟨rfl, rfl, rfl, rfl, rfl, rfl⟩⟩
  · exact ⟨dto, hprofile, hcarries old hold⟩

/-- Secrets are not documents. -/
theorem Replaced.setFile (h : Replaced w s₀ existing own s) (l : L) (bytes : Option (List UInt8)) :
    Replaced w s₀ existing own (s.setFile l bytes) where
  others := h.others
  nothing := h.nothing
  gone := h.gone
  stands a ha := by
    obtain ⟨hopened, hsame⟩ | ⟨dto, json, hprofile, hjson, hpath, hentry, hfree, hcarries⟩ :=
      h.stands a ha
    · exact .opened hopened hsame
    · exact .saved dto json hprofile hjson hpath hentry hfree hcarries

/-! ## Every run -/

variable (w) in
/-- A profile that a save has made, in place of the editor's own. -/
structure Composed (s : Store L) (r : Option LoadedProfile) (dto : ProfileDto) : Prop where
  free : Free w dto.name (pathOf r) s
  carries : ∀ old, profileOf r = some old → Carries old dto

variable (w) in
/-- What is waited for is about the editor's own profile. -/
def Waiting.Agrees (own : Option LoadedProfile) (s : Store L) : Waiting → Prop
  | .idle | .importing _ => True
  | .minting r => r = own ∧ profileOf r = none
  | .checking r dto => r = own ∧ Composed w s r dto
  | .storing r dto _ | .writing r dto _ =>
    r = own ∧ Composed w s r dto ∧ w.checkProfile dto = .ok ()

/-- The profile whose secret is written and whose document is not. -/
def Waiting.halfway : Waiting → Option ProfileDto
  | .writing _ dto _ => some dto
  | _ => none

variable (w s₀ existing) in
/-- What holds of an editor and its own profile. -/
structure Leaves (d : Desk L) (own : Option LoadedProfile) : Prop where
  replaced : Replaced w s₀ existing own d.store
  opened : d.editor.existing = existing
  current : d.editor.mounted = true ∨ d.editor.waiting ≠ .idle → d.editor.current = own
  agrees : d.editor.waiting.Agrees w own d.store
  secrets : ∀ l, d.store.files l ≠ s₀.files l → ∃ dto, (profileOf own = some dto ∨
    profileOf existing = some dto ∨ d.editor.waiting.halfway = some dto) ∧
      l = w.locate (w.secretPathFor dto.id)

namespace Leaves

omit [DecidableEq L] in
/-- A change of the editor alone. -/
theorem withEditor (h : Leaves w s₀ existing d own) (ed : Editor)
    (hexisting : ed.existing = d.editor.existing) (hadopted : ed.adopted = d.editor.adopted)
    (hthere : ed.mounted = true ∨ ed.waiting ≠ .idle →
      d.editor.mounted = true ∨ d.editor.waiting ≠ .idle)
    (hagrees : ed.waiting.Agrees w own d.store)
    (hhalfway : ∀ dto, d.editor.waiting.halfway = some dto → ed.waiting.halfway = some dto) :
    Leaves w s₀ existing ⟨ed, d.store⟩ own where
  replaced := h.replaced
  opened := hexisting.trans h.opened
  current hed := by
    rw [← h.current (hthere hed), Editor.current, Editor.current, hexisting, hadopted]
  agrees := hagrees
  secrets l hl := by
    obtain ⟨dto, hdto, rfl⟩ := h.secrets l hl
    exact ⟨dto, hdto.imp_right fun hdto => hdto.imp_right (hhalfway dto), rfl⟩

omit [DecidableEq L] in
/-- A save or an import that fails. -/
theorem fail (h : Leaves w s₀ existing d own) {ed : Editor} (f : Failure)
    (hexisting : ed.existing = d.editor.existing) (hadopted : ed.adopted = d.editor.adopted)
    (hmounted : ed.mounted = d.editor.mounted) (hhalfway : d.editor.waiting.halfway = none) :
    Leaves w s₀ existing ⟨ed.fail f, d.store⟩ own := by
  refine h.withEditor _ hexisting hadopted (fun hed => ?_) trivial fun dto hdto => ?_
  · exact hed.imp (fun hed => hmounted.symm.trans hed) fun hed => absurd rfl hed
  · rw [hhalfway] at hdto
    cases hdto

omit [DecidableEq L] in
/-- A save that composes a profile of the form. -/
theorem proceed (h : Leaves w s₀ existing d own) {ed : Editor} (hcurrent : r = own)
    (hexisting : ed.existing = d.editor.existing) (hadopted : ed.adopted = d.editor.adopted)
    (hmounted : ed.mounted = d.editor.mounted)
    (hthere : d.editor.mounted = true ∨ d.editor.waiting ≠ .idle)
    (hhalfway : d.editor.waiting.halfway = none)
    (hcarries : ∀ old, profileOf r = some old →
      id = old.id ∧ protocolFor ed.form.authKind = old.protocol) :
    Leaves w s₀ existing ⟨ed.proceed w d.store r id, d.store⟩ own := by
  obtain ⟨f, heq⟩ | ⟨dto, hdto, heq⟩ := proceed_cases w ed d.store r id
  · rw [heq]
    exact h.fail f hexisting hadopted hmounted hhalfway
  · obtain ⟨port, rfl, hfree, -⟩ := of_compose hdto
    rw [heq]
    refine h.withEditor _ hexisting hadopted (fun _ => hthere) ⟨hcurrent, hfree, fun old hold => ?_⟩
      fun dto hdto => ?_
    · obtain ⟨hid, hprotocol⟩ := hcarries old hold
      rw [hold]
      exact carries_profile hid hprotocol
    · rw [hhalfway] at hdto
      cases hdto

omit [DecidableEq L] in
theorem pressed (h : Leaves w s₀ existing d own) (hwaiting : d.editor.waiting = .idle)
    (hmounted : d.editor.mounted = true) :
    Leaves w s₀ existing ⟨d.editor.save w d.store, d.store⟩ own := by
  have hcurrent : d.editor.current = own := h.current (.inl hmounted)
  have hhalfway : d.editor.waiting.halfway = none := by
    rw [hwaiting]
    rfl
  obtain ⟨f, heq⟩ | ⟨hrefuse, ⟨id, hid, heq⟩ | ⟨hid, heq⟩⟩ := save_cases w d.editor d.store
  · rw [heq]
    exact h.fail f rfl rfl rfl hhalfway
  · rw [heq]
    refine h.proceed hcurrent rfl rfl rfl (.inl hmounted) hhalfway fun old hprofile => ?_
    have hold : d.editor.old = some old := hprofile
    refine ⟨?_, Editor.protocol_of_refuse hold hrefuse⟩
    unfold Editor.knownId at hid
    rw [hold] at hid
    exact (Option.some.inj hid).symm
  · rw [heq]
    refine h.withEditor _ rfl rfl (fun _ => .inl hmounted) ⟨hcurrent, ?_⟩ fun dto hdto => ?_
    · exact Option.map_eq_none_iff.1 (Option.or_eq_none_iff.1 hid).1
    · rw [hhalfway] at hdto
      cases hdto

omit [DecidableEq L] in
theorem checked (h : Leaves w s₀ existing d own) (hwaiting : d.editor.waiting = .checking r dto) :
    Leaves w s₀ existing ⟨d.editor.checked w r dto, d.store⟩ own := by
  have hagrees := h.agrees
  rw [hwaiting] at hagrees
  have hthere : d.editor.waiting ≠ .idle := by
    rw [hwaiting]
    exact fun h => nomatch h
  have hhalfway : d.editor.waiting.halfway = none := by
    rw [hwaiting]
    rfl
  obtain ⟨f, heq⟩ | ⟨hcheck, ⟨-, heq⟩ | ⟨-, ⟨_, -, heq⟩ | ⟨-, heq⟩⟩⟩ :=
    checked_cases w d.editor r dto
  · rw [heq]
    exact h.fail f rfl rfl rfl hhalfway
  all_goals
    rw [heq]
    refine h.withEditor _ rfl rfl (fun _ => .inr hthere) ⟨hagrees.1, hagrees.2, hcheck⟩
      fun dto hdto => ?_
    rw [hhalfway] at hdto
    cases hdto

theorem stored (h : Leaves w s₀ existing d own) {secret : Units}
    (hwaiting : d.editor.waiting = .storing r dto secret) (bytes : Option (List UInt8)) :
    Leaves w s₀ existing ⟨{ d.editor with waiting := .writing r dto d.editor.form.sshUser },
      d.store.setFile (w.locate (w.secretPathFor dto.id)) bytes⟩ own where
  replaced := h.replaced.setFile _ _
  opened := h.opened
  current _ := h.current (.inr (by
    rw [hwaiting]
    exact fun h => nomatch h))
  agrees := by
    have hagrees := h.agrees
    rw [hwaiting] at hagrees
    exact ⟨hagrees.1, ⟨hagrees.2.1.free, hagrees.2.1.carries⟩, hagrees.2.2⟩
  secrets l hl := by
    by_cases hfile : l = w.locate (w.secretPathFor dto.id)
    · exact ⟨dto, .inr (.inr rfl), hfile⟩
    · rw [Store.setFile_files_of_ne _ hfile] at hl
      obtain ⟨dto', hown | hopened | hhalfway, rfl⟩ := h.secrets l hl
      · exact ⟨dto', .inl hown, rfl⟩
      · exact ⟨dto', .inr (.inl hopened), rfl⟩
      · rw [hwaiting] at hhalfway
        cases hhalfway

omit [DecidableEq L] in
theorem written (h : Leaves w s₀ existing d own)
    (hexisting : ∀ path, pathOf existing = some path → IsDocument path)
    (hwaiting : d.editor.waiting = .writing r dto user) (hjson : w.exportProfile dto = .ok json) :
    Leaves w s₀ existing ⟨d.editor.adopt dto (w.documentPath dto.name),
        savedStore d.store (w.documentPath dto.name) json user (pathOf r)⟩
      (some ⟨w.documentPath dto.name, some dto⟩) := by
  have hagrees := h.agrees
  rw [hwaiting] at hagrees
  obtain ⟨rfl, hcomposed, -⟩ := hagrees
  have hcurrent : d.editor.current = r := h.current (.inr (by
    rw [hwaiting]
    exact fun h => nomatch h))
  have hcarries (old : ProfileDto) (hprofile : profileOf existing = some old) :
      Carries old dto := by
    obtain ⟨x, hx, -⟩ := Option.bind_eq_some_iff.1 hprofile
    have hsome : ∃ a, r = some a := by
      rw [← hcurrent, Editor.current, h.opened, hx]
      exact Option.isSome_iff_exists.1 (by rw [Option.isSome_or]; simp)
    obtain ⟨a, ha⟩ := hsome
    obtain ⟨dto', hdto', hcarries⟩ := h.replaced.carries ha hprofile
    exact hcarries.trans (hcomposed.carries dto' (by rw [ha]; exact hdto'))
  refine ⟨h.replaced.saved hexisting hjson hcomposed.free hcarries, ?_, fun hed => ?_, ?_,
    fun l hl => ?_⟩
  · unfold Editor.adopt
    split
    · exact h.opened
    · exact h.opened
  · unfold Editor.adopt at hed ⊢
    split
    · rfl
    · next hmounted =>
      rw [if_neg hmounted] at hed
      exact hed.elim (fun h => absurd h hmounted) fun h => absurd rfl h
  · unfold Editor.adopt
    split
    · trivial
    · trivial
  · have hbefore : d.store.files l ≠ s₀.files l := by
      unfold savedStore removed at hl
      repeat' split at hl
      all_goals exact hl
    obtain ⟨dto', hdto', rfl⟩ := h.secrets l hbefore
    obtain hdto' | hdto' | hdto' := hdto'
    · exact ⟨dto, .inl rfl, by rw [(hcomposed.carries dto' hdto').id]⟩
    · exact ⟨dto', .inr (.inl hdto'), rfl⟩
    · rw [hwaiting] at hdto'
      obtain rfl := Option.some.inj hdto'
      exact ⟨dto, .inl rfl, rfl⟩

omit [DecidableEq L] in
theorem deleted (h : Leaves w s₀ existing d own)
    (hexisting : ∀ path, pathOf existing = some path → IsDocument path)
    (hwaiting : d.editor.waiting = .idle) (hmounted : d.editor.mounted = true)
    (hediting : d.editor.editing = true) {a : LoadedProfile} (ha : d.editor.current = some a) :
    Leaves w s₀ existing ⟨{ d.editor with mounted := false },
      (d.store.setEntry a.path none).setEntry (sidecarPath a.path) none⟩ none := by
  obtain rfl : own = some a := (h.current (.inl hmounted)).symm.trans ha
  refine ⟨h.replaced.deleted hexisting, h.opened, fun hed => ?_, ?_, fun l hl => ?_⟩
  · exact hed.elim (fun h => nomatch h) fun h => absurd hwaiting h
  · change Waiting.Agrees w none _ d.editor.waiting
    rw [hwaiting]
    trivial
  · obtain ⟨dto', hdto', rfl⟩ := h.secrets l hl
    obtain hdto' | hdto' | hdto' := hdto'
    · -- the profile that is deleted has the identifier of the one that was opened
      have hprofile : ∃ old, profileOf existing = some old := by
        rw [Editor.editing, h.opened] at hediting
        exact Option.isSome_iff_exists.1 hediting
      obtain ⟨old, hold⟩ := hprofile
      obtain ⟨dto, hdto, hcarries⟩ := h.replaced.carries rfl hold
      obtain rfl := Option.some.inj (hdto.symm.trans hdto')
      exact ⟨old, .inr (.inl hold), by rw [hcarries.id]⟩
    · exact ⟨dto', .inr (.inl hdto'), rfl⟩
    · rw [hwaiting] at hdto'
      cases hdto'

/-- **What an event leaves**, if the files do not fail: one profile of the editor's. -/
theorem step
    (hexports : ∀ dto, w.checkProfile dto = .ok () → ∃ json, w.exportProfile dto = .ok json)
    (hexisting : ∀ path, pathOf existing = some path → IsDocument path)
    (h : Leaves w s₀ existing d own) (he : e.Faultless) (hstep : step reader w d e = some d') :
    ∃ own', Leaves w s₀ existing d' own' := by
  cases moves_of_step hstep with
  | edited => exact ⟨own, h.withEditor _ rfl rfl id h.agrees fun _ => id⟩
  | importing hwaiting hmounted =>
    refine ⟨own, h.withEditor _ rfl rfl (fun _ => .inl hmounted) trivial fun dto hdto => ?_⟩
    rw [hwaiting] at hdto
    cases hdto
  | refused f hwaiting => exact ⟨own, h.fail f rfl rfl rfl (by rw [hwaiting]; rfl)⟩
  | unread _ f hwaiting => exact ⟨own, h.fail f rfl rfl rfl (by rw [hwaiting]; rfl)⟩
  | filled id hwaiting hread =>
    have hthere : d.editor.waiting ≠ .idle := by
      rw [hwaiting]
      exact fun h => nomatch h
    refine ⟨own, ?_⟩
    unfold Editor.fillIn
    dsimp only
    split
    all_goals
      refine h.withEditor _ rfl rfl (fun _ => .inr hthere) trivial fun dto hdto => ?_
      rw [hwaiting] at hdto
      cases hdto
  | invalid => exact ⟨own, h⟩
  | pressed _ hwaiting hmounted => exact ⟨own, h.pressed hwaiting hmounted⟩
  | minted id hwaiting =>
    have hagrees := h.agrees
    rw [hwaiting] at hagrees
    refine ⟨own,
      h.proceed hagrees.1 rfl rfl rfl (.inr ?_) (by rw [hwaiting]; rfl) fun old hprofile => ?_⟩
    · rw [hwaiting]
      exact fun h => nomatch h
    · rw [hagrees.2] at hprofile
      cases hprofile
  | checked hwaiting => exact ⟨own, h.checked hwaiting⟩
  | stored hwaiting hwrite =>
    obtain rfl := he
    rw [writeSecret_eq] at hwrite
    obtain rfl := (Prod.mk.inj hwrite).2
    exact ⟨own, h.stored hwaiting _⟩
  | unstored hwaiting hwrite =>
    obtain rfl := he
    rw [writeSecret_eq] at hwrite
    cases (Prod.mk.inj hwrite).1
  | @written _ r dto user path s hwaiting hwrite =>
    obtain rfl := he
    have hagrees := h.agrees
    rw [hwaiting] at hagrees
    obtain ⟨json, hjson⟩ := hexports dto hagrees.2.2
    rw [writeProfile_eq hjson hagrees.2.1.free] at hwrite
    obtain ⟨hpath, rfl⟩ := Prod.mk.inj hwrite
    obtain rfl := Except.ok.inj hpath
    exact ⟨_, h.written hexisting hwaiting hjson⟩
  | @unwritten _ r dto user f s hwaiting hwrite =>
    obtain rfl := he
    have hagrees := h.agrees
    rw [hwaiting] at hagrees
    obtain ⟨json, hjson⟩ := hexports dto hagrees.2.2
    rw [writeProfile_eq hjson hagrees.2.1.free] at hwrite
    cases (Prod.mk.inj hwrite).1
  | deleted hwaiting hmounted hediting hcurrent hdelete =>
    obtain ⟨rfl, rfl⟩ := he
    rw [delete_eq] at hdelete
    obtain rfl := (Prod.mk.inj hdelete).2
    exact ⟨none, h.deleted hexisting hwaiting hmounted hediting hcurrent⟩
  | undeleted hwaiting hcurrent hdelete =>
    obtain ⟨rfl, rfl⟩ := he
    rw [delete_eq] at hdelete
    cases (Prod.mk.inj hdelete).1
  | left hmounted =>
    exact ⟨own, h.withEditor _ rfl rfl (fun _ => .inl hmounted) h.agrees fun _ => id⟩

end Leaves

omit [DecidableEq L] in
/-- What a check accepts can be exported, if it can be serialized. -/
theorem exports_of_check {lib : Libraries L} {directory : Units}
    (htotal : ∀ p, lib.toStringPretty p ≠ none) (dto : ProfileDto)
    (h : (lib.writer directory).checkProfile dto = .ok ()) :
    ∃ json, (lib.writer directory).exportProfile dto = .ok json := by
  cases htry : dto.toRust.tryInto lib.texts with
  | error e =>
    change (lib.checkProfile dto.toRust).mapError toDart = _ at h
    rw [Libraries.checkProfile, htry] at h
    cases h
  | ok core =>
    obtain ⟨json, hjson⟩ := Option.ne_none_iff_exists'.1 (htotal core)
    refine ⟨toDart json, ?_⟩
    change ((lib.exportProfile dto.toRust).mapError toDart).map toDart = _
    rw [Libraries.exportProfile, htry]
    dsimp only [Except.mapError, bind, Except.bind]
    rw [hjson]
    rfl

/-- **An editor leaves one profile**: whatever is typed, imported, refused, saved under whatever
name and deleted, in whatever order, the documents are those that were there with the profile that
was opened replaced by the editor's own, which carries it through; and no secret is written but
those of the identifiers of the two and of a save that is halfway. -/
theorem replaced_of_run {lib : Libraries L} {directory : Units}
    (htotal : ∀ p, lib.toStringPretty p ≠ none) {sshUser : Option Units} {es : List Event}
    (hexisting : ∀ path, pathOf existing = some path → IsDocument path)
    (hes : ∀ e ∈ es, e.Faultless)
    (hrun : Runs.run (step reader (lib.writer directory))
      ⟨.opened existing sshUser, s₀⟩ es = some d) :
    ∃ own, Replaced (lib.writer directory) s₀ existing own d.store ∧
      (d.editor.mounted = true → d.editor.current = own) ∧
      ∀ l, d.store.files l ≠ s₀.files l → ∃ dto, (profileOf own = some dto ∨
        profileOf existing = some dto ∨ d.editor.waiting.halfway = some dto) ∧
          l = (lib.writer directory).locate ((lib.writer directory).secretPathFor dto.id) := by
  have hopened :
      Leaves (lib.writer directory) s₀ existing ⟨.opened existing sshUser, s₀⟩ existing :=
    ⟨.opened s₀, rfl, fun _ => rfl, trivial, fun l hl => absurd rfl hl⟩
  have hstep (d : Desk L) (e : Event) (d' : Desk L)
      (h : ∃ own, Leaves (lib.writer directory) s₀ existing d own) (he : e.Faultless)
      (hstep : step reader (lib.writer directory) d e = some d') :
      ∃ own, Leaves (lib.writer directory) s₀ existing d' own := by
    obtain ⟨own, h⟩ := h
    exact h.step (exports_of_check htotal) hexisting he hstep
  obtain ⟨own, h⟩ := Runs.run_invariant hstep ⟨existing, hopened⟩
    (Runs.guarded_of_forall (fun e he _ => hes e he) _) hrun
  exact ⟨own, h.replaced, fun hmounted => h.current (.inl hmounted), h.secrets⟩

/-! ## A profile that is saved twice -/

/-- A profile that is saved. -/
def mine : Config.ServerProfile where
  id := Reference.home.id
  name := "My server"
  protocol := .ssh
  host := "example.com"
  port := 22
  auth := .password (.file "/p/secrets/11111111-1111-1111-1111-111111111111")
  dns := ⟨.tcp, [.ofOctets 1 1 1 1, .ofOctets 1 0 0 1], none⟩
  splitTunnel := .allTraffic
  killSwitch := false

def other : Config.ServerProfile := { mine with name := "Other" }

/-- A profile whose link is imported. -/
def linked : Config.ServerProfile :=
  { mine with
    name := "Home"
    protocol := .shadowsocks
    host := "198.51.100.7"
    port := 8388
    auth := .shadowsocks "aes-256-gcm"
      (.file "/p/secrets/11111111-1111-1111-1111-111111111111") }

def editorLibraries : Libraries (Bool × List (List Char)) :=
  Reference.knowing [mine, other, linked]

def editorReader : LinkReader where
  crate := Protocols.Link.codecs
  display t := String.join (t.map fun | .lit s => s | _ => "")

/-- No file is there. -/
def emptyStore : Store (Bool × List (List Char)) := ⟨fun _ => none, fun _ => none⟩

/-- A new profile is saved, and saved again under another name. -/
def renamed : List Event :=
  [.edit (.type .host (units "example.com")), .edit (.type .user (units "me")),
    .edit (.secretMode .typed), .edit (.type .secret (units "pw")),
    .savePressed [.name, .host, .port],
    .minted (toDart Reference.homeId), .checked, .stored noFaults, .written noProfileFaults,
    .edit (.type .name (units "Other")), .savePressed [.name], .checked, .stored noFaults,
    .written noProfileFaults]

theorem replaced_of_run_renamed :
    ∃ d own, Runs.run (step editorReader (editorLibraries.writer (units "/p")))
        ⟨.opened none none, emptyStore⟩ renamed = some d ∧
      Replaced (editorLibraries.writer (units "/p")) emptyStore none own d.store ∧
      own = some ⟨units "/p/other.json", some (Reference.inApp other)⟩ ∧
      d.store.entries (units "/p/other.json") =
        some (toDart (other.toStringPretty Reference.texts)) := by
  have hran : (Runs.run (step editorReader (editorLibraries.writer (units "/p")))
      ⟨.opened none none, emptyStore⟩ renamed).map (fun d => (d.editor.mounted, d.editor.current)) =
        some (true, some ⟨units "/p/other.json", some (Reference.inApp other)⟩) := by
    decide +kernel
  obtain ⟨d, hrun, hd⟩ := Option.map_eq_some_iff.1 hran
  obtain ⟨hmounted, hcurrent⟩ := Prod.mk.inj hd
  have hes : ∀ e ∈ renamed, e.Faultless := by simp [renamed, Event.Faultless]
  obtain ⟨own, hreplaced, hown, -⟩ := replaced_of_run (fun _ => Option.some_ne_none _)
    (by simp [pathOf]) hes hrun
  obtain rfl := (hown hmounted).symm.trans hcurrent
  refine ⟨d, _, hrun, hreplaced, rfl, ?_⟩
  cases hreplaced.stands _ rfl with
  | opened h => cases h
  | saved dto json hprofile hjson _ hentry =>
    obtain rfl := Option.some.inj hprofile
    have hother : (editorLibraries.writer (units "/p")).exportProfile (Reference.inApp other) =
        .ok (toDart (other.toStringPretty Reference.texts)) :=
      Reference.exportProfile_knowing _ other
    rw [hentry, Except.ok.inj (hjson.symm.trans hother)]

end LiosTunnel.App.ProfileEditor
