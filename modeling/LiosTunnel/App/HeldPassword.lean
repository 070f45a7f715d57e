import LiosTunnel.App.EditedProfile
import LiosTunnel.Config.Files

/-!
# The password of a link

A password that was imported is held in the editor until a save is through, whatever is edited,
refused or fails before that; and a save with it is refused unless the profile names the one file
that it can be written to. So what the helper reads of that file, once a save is through, is the
link's password.

* `of_writeSecret`, `of_writeProfile`: the writer's operations, when they return.
* `Waiting.Meant`, `Waiting.Writes`: what a save is about while it waits, and what it writes.
* `Pending`: no import and no save is through.
* `stored_of_run`: **an imported password gets to the file that the saved profile names**.
-/

namespace LiosTunnel.App.ProfileEditor

open Act Runs Config

variable {L : Type} {w : World L} [DecidableEq L] {reader : LinkReader} {d d' : Desk L} {e : Event}
  {ed : Editor} {s s' : Store L} {r : Option LoadedProfile} {dto : ProfileDto} {id secret : Units}

/-! ## Writes that return -/

/-- A secret whose write returns is there. -/
theorem of_writeSecret {faults : SecretFaults} {ref : Units}
    (h : writeSecret w id secret faults s = (.ok ref, s')) :
    s'.files (w.locate (w.secretPathFor id)) = some (w.encode secret) := by
  have hwrite : Triple (fun _ => True) (writeSecret w id secret faults)
      (fun _ s => s.files (w.locate (w.secretPathFor id)) = some (w.encode secret))
      fun _ => True := by
    have htrue {α : Type} (m : Act (Store L) Failure α) :
        Triple (fun _ => True) m (fun _ _ => True) fun _ => True :=
      triple_keeps fun _ _ => trivial
    refine triple_bind (htrue _) fun _ => triple_bind (htrue _) fun _ =>
      triple_bind (htrue _) fun _ =>
      triple_bind (htrue _) fun _ => triple_bind (Q := fun _ s =>
        s.files (w.locate (w.secretPathFor id)) = some (w.encode secret)) ?_ fun _ =>
          triple_pure fun _ hs => hs
    intro s _
    unfold writeFile
    split
    · exact s.setFile_files_self _ _
    · trivial
    · trivial
  have hpost := hwrite s trivial
  rw [h] at hpost
  exact hpost

omit [DecidableEq L] in
/-- What is written after the document does not change it. -/
theorem keeps_document {path : Units} (hpath : IsDocument path) (json : Units) {P : Store L → Prop}
    (hP : ∀ s other text, P s → P (s.setEntry other text)) (user replacingPath : Option Units)
    (faults : ProfileFaults) :
    Keeps (fun s => P s ∧ s.entries path = some json) (writeSidecar path user faults) ∧
      Keeps (fun s => P s ∧ s.entries path = some json)
        (removeReplaced path replacingPath faults) := by
  have hother {other : Units} (hne : path ≠ other) (s : Store L) (text : Option Units)
      (hs : P s ∧ s.entries path = some json) :
      P (s.setEntry other text) ∧ (s.setEntry other text).entries path = some json :=
    ⟨hP s other text hs.1, (s.setEntry_entries_of_ne hne text).trans hs.2⟩
  refine ⟨keeps_writeSidecar (hother (hpath.ne_sidecarPath path)), ?_⟩
  unfold removeReplaced
  split
  · next old =>
    split
    · next hne =>
      exact keeps_bind (keeps_deleteEntry fun s hs => hother (Ne.symm hne) s none hs) fun _ =>
        keeps_deleteEntry fun s hs => hother (hpath.ne_sidecarPath old) s none hs
    · exact keeps_pure
  · exact keeps_pure

omit [DecidableEq L] in
/-- A profile whose write returns is there, and no secret is changed. -/
theorem of_writeProfile {faults : ProfileFaults} {user replacingPath : Option Units} {path : Units}
    (h : writeProfile w dto user replacingPath faults s = (.ok path, s')) :
    path = w.documentPath dto.name ∧ s'.files = s.files ∧
      ∃ json, w.exportProfile dto = .ok json ∧ s'.entries path = some json := by
  have hwrite : Triple (fun s' => s'.files = s.files) (writeProfile w dto user replacingPath faults)
      (fun path s' => path = w.documentPath dto.name ∧ s'.files = s.files ∧
        ∃ json, w.exportProfile dto = .ok json ∧ s'.entries path = some json) fun _ => True := by
    have hkept {α : Type} {P : Store L → Prop} {m : Act (Store L) Failure α} (hm : Keeps P m) :
        Triple P m (fun _ => P) fun _ => True :=
      triple_mono (triple_keeps hm) (fun _ hs => hs) (fun _ _ hs => hs) fun _ _ => trivial
    refine triple_bind (Q := fun json s' => s'.files = s.files ∧ w.exportProfile dto = .ok json)
      (triple_ofExcept (fun _ _ hs hjson => ⟨hs, hjson⟩) fun _ _ => trivial) fun json => ?_
    refine triple_bind (hkept (keeps_attempt _)) fun _ =>
      triple_bind (hkept keeps_ofExcept) fun _ => ?_
    have hkeeps := keeps_document (isDocument_documentPath w dto.name) json
      (P := fun s' => s'.files = s.files ∧ w.exportProfile dto = .ok json) (fun _ _ _ hs => hs) user
      replacingPath faults
    refine triple_bind (Q := fun _ s' => (s'.files = s.files ∧ w.exportProfile dto = .ok json) ∧
      s'.entries (w.documentPath dto.name) = some json) ?_ fun _ =>
      triple_bind (hkept hkeeps.1) fun _ =>
        triple_bind (hkept hkeeps.2) fun _ => triple_pure fun s' hs =>
          ⟨rfl, hs.1.1, json, hs.1.2, hs.2⟩
    intro s' hs
    unfold writeEntry
    split
    · exact ⟨hs, s'.setEntry_entries_self _ _⟩
    · trivial
    · trivial
  have hpost := hwrite s rfl
  rw [h] at hpost
  exact hpost

/-! ## What is held -/

variable (w) in
/-- What a save is about while it waits: the profile names the one file a password can be written
to. -/
def Waiting.Meant (saved : Option Units) : Waiting → Prop
  | .idle | .importing _ => True
  | .minting _ => saved = none
  | .checking _ dto | .storing _ dto _ | .writing _ dto _ =>
    saved = none ∧ dto.authSecretSource = filePrefix ++ w.secretPathFor dto.id

variable (w) in
/-- An editor that holds a password. -/
structure Holds (password : Units) (d : Desk L) : Prop where
  held : d.editor.importedPassword = some password
  meant : d.editor.waiting.Meant w d.editor.saved

variable (reader w) in
/-- No import and no save gets through. -/
def Pending (d : Desk L) : Event → Prop
  | .imported id => ∀ uri, d.editor.waiting = .importing uri → ∃ f, reader.read id uri = .error f
  | .written faults => ∀ d', step reader w d (.written faults) = some d' → d'.editor.saved = none
  | _ => True

omit [DecidableEq L] in
/-- A profile that is composed while a password is held names the password's file. -/
theorem source_of_compose {password : Units} (hheld : ed.importedPassword = some password)
    (h : ed.compose w s r id = .ok dto) :
    dto.authSecretSource = filePrefix ++ w.secretPathFor dto.id := by
  obtain ⟨port, rfl, -, hmanaged⟩ := of_compose h
  change filePrefix ++ ed.secretFile w id = _
  unfold Editor.secretFile
  cases hmode : ed.form.secretMode with
  | typed => rfl
  | file => exact congrArg (filePrefix ++ ·) (hmanaged hmode (by rw [hheld]; rfl))

namespace Holds

variable {password : Units}

omit [DecidableEq L] in
theorem fail (h : Holds w password d) {ed : Editor}
    (hed : ed.importedPassword = d.editor.importedPassword)
    (f : Failure) (s : Store L) : Holds w password ⟨ed.fail f, s⟩ :=
  ⟨hed.trans h.held, trivial⟩

omit [DecidableEq L] in
theorem proceed (h : Holds w password d) {ed : Editor}
    (hed : ed.importedPassword = d.editor.importedPassword) (hsaved : ed.saved = none)
    (r : Option LoadedProfile) (id : Units) :
    Holds w password ⟨ed.proceed w d.store r id, d.store⟩ := by
  obtain ⟨f, heq⟩ | ⟨dto, hdto, heq⟩ := proceed_cases w ed d.store r id
  · rw [heq]
    exact h.fail hed f d.store
  · rw [heq]
    exact ⟨hed.trans h.held, hsaved, source_of_compose (hed.trans h.held) hdto⟩

omit [DecidableEq L] in
theorem pressed (h : Holds w password d) : Holds w password ⟨d.editor.save w d.store, d.store⟩ := by
  have hcleared : d.editor.cleared.importedPassword = d.editor.importedPassword := rfl
  obtain ⟨f, heq⟩ | ⟨-, ⟨id, -, heq⟩ | ⟨-, heq⟩⟩ := save_cases w d.editor d.store
  · rw [heq]
    exact h.fail hcleared f d.store
  · rw [heq]
    exact h.proceed hcleared rfl _ id
  · rw [heq]
    exact ⟨h.held, rfl⟩

omit [DecidableEq L] in
theorem checked (h : Holds w password d) (hwaiting : d.editor.waiting = .checking r dto) :
    Holds w password ⟨d.editor.checked w r dto, d.store⟩ := by
  have hmeant := h.meant
  rw [hwaiting] at hmeant
  obtain ⟨f, heq⟩ | ⟨-, ⟨-, heq⟩ | ⟨-, ⟨secret, -, heq⟩ | ⟨hnone, -⟩⟩⟩ :=
    checked_cases w d.editor r dto
  · rw [heq]
    exact h.fail rfl f d.store
  · rw [heq]
    exact ⟨h.held, hmeant⟩
  · rw [heq]
    exact ⟨h.held, hmeant⟩
  · cases hnone.symm.trans h.held

/-- **Until an import or a save gets through, the password is held**, and what a save is about names
its file. -/
theorem step (h : Holds w password d) (he : Pending w reader d e)
    (hstep : step reader w d e = some d') : Holds w password d' := by
  cases moves_of_step hstep with
  | edited => exact ⟨h.held, h.meant⟩
  | importing => exact ⟨h.held, trivial⟩
  | refused f | unread _ f => exact h.fail rfl f d.store
  | filled id hwaiting hread =>
    obtain ⟨f, hf⟩ := he _ hwaiting
    cases hf.symm.trans hread
  | invalid => exact h
  | pressed => exact h.pressed
  | minted id hwaiting =>
    have hmeant := h.meant
    rw [hwaiting] at hmeant
    exact h.proceed rfl hmeant _ id
  | checked hwaiting => exact h.checked hwaiting
  | stored hwaiting =>
    have hmeant := h.meant
    rw [hwaiting] at hmeant
    exact ⟨h.held, hmeant⟩
  | unstored | unwritten => exact h.fail rfl _ _
  | @written faults r dto user path s hwaiting hwrite =>
    have hunsaved : (d.editor.adopt dto path).saved = none := he _ hstep
    unfold Editor.adopt at hunsaved ⊢
    split
    · next hmounted =>
      rw [if_pos hmounted] at hunsaved
      cases hunsaved
    · exact ⟨h.held, trivial⟩
  | deleted | undeleted => exact ⟨h.held, h.meant⟩
  | left => exact ⟨h.held, h.meant⟩

end Holds

/-! ## What is written -/

variable (w) in
/-- A save that has been checked writes the password. -/
def Waiting.Writes (password : Units) (s : Store L) : Waiting → Prop
  | .storing _ _ secret => secret = password
  | .writing _ dto _ => s.files (w.locate (w.secretPathFor dto.id)) = some (w.encode password)
  | _ => True

variable (reader w) in
/-- The last check in a run was answered while the form named a file. -/
def CheckedAsFile (d : Desk L) (es : List Event) : Prop :=
  ∃ es₁ es₂ d', es = es₁ ++ .checked :: es₂ ∧ (∀ e ∈ es₂, e ≠ .checked) ∧
    run (step reader w) d es₁ = some d' ∧ d'.editor.form.secretMode = .file

namespace Waiting.Writes

variable {password : Units}

omit [DecidableEq L] in
/-- A save that is not checked yet writes nothing. -/
theorem proceed (ed : Editor) (s s' : Store L) (r : Option LoadedProfile) (id : Units) :
    (ed.proceed w s r id).waiting.Writes w password s' := by
  obtain ⟨f, heq⟩ | ⟨dto, -, heq⟩ := proceed_cases w ed s r id
  · rw [heq]
    trivial
  · rw [heq]
    trivial

omit [DecidableEq L] in
/-- A check that is answered while the form names a file has the password written. -/
theorem checked (hheld : ed.importedPassword = some password) (hfile : ed.form.secretMode = .file)
    (s : Store L) : (ed.checked w r dto).waiting.Writes w password s := by
  obtain ⟨f, heq⟩ | ⟨-, ⟨htyped, -⟩ | ⟨-, ⟨secret, hsecret, heq⟩ | ⟨hnone, -⟩⟩⟩ :=
    checked_cases w ed r dto
  · rw [heq]
    trivial
  · cases htyped.symm.trans hfile
  · rw [heq]
    exact Option.some.inj (hsecret.symm.trans hheld)
  · cases hnone.symm.trans hheld

theorem step (h : d.editor.waiting.Writes w password d.store) (he : e ≠ .checked)
    (hstep : step reader w d e = some d') : d'.editor.waiting.Writes w password d'.store := by
  cases moves_of_step hstep with
  | edited | invalid | left => exact h
  | importing | refused | unread | unstored | unwritten => trivial
  | filled =>
    unfold Editor.fillIn
    dsimp only
    split <;> trivial
  | written =>
    unfold Editor.adopt
    dsimp only
    split <;> trivial
  | pressed =>
    obtain ⟨f, heq⟩ | ⟨-, ⟨id, -, heq⟩ | ⟨-, heq⟩⟩ := save_cases w d.editor d.store
    · rw [heq]
      trivial
    · rw [heq]
      exact proceed _ _ _ _ id
    · rw [heq]
      trivial
  | minted id => exact proceed _ _ _ _ id
  | checked => exact absurd rfl he
  | stored hwaiting hwrite =>
    rw [hwaiting] at h
    obtain rfl := h
    exact of_writeSecret hwrite
  | deleted hidle | undeleted hidle =>
    rw [show Desk.editor _ = d.editor from rfl, hidle]
    trivial

end Waiting.Writes

/-- **A save whose check was answered while the form named a file writes the password**, whatever
the form is made to say before and after. -/
theorem writes_of_run {password : Units} {es : List Event} (hfirst : Holds w password d)
    (hes : Guarded (step reader w) (Pending w reader) d es) (hchecked : CheckedAsFile w reader d es)
    (hrun : run (step reader w) d es = some d') : d'.editor.waiting.Writes w password d'.store := by
  obtain ⟨es₁, es₂, dc, rfl, hrest, hbefore, hfile⟩ := hchecked
  have hheld : Holds w password dc :=
    run_invariant (fun _ _ _ h he hstep => h.step he hstep) hfirst hes.left hbefore
  rw [run_append, hbefore, Option.bind_some, run_cons] at hrun
  obtain ⟨dk, hstep, hrun⟩ := Option.bind_eq_some_iff.1 hrun
  have hkeeps (d : Desk L) (e : Event) (d' : Desk L)
      (h : d.editor.waiting.Writes w password d.store) (he : e ≠ .checked)
      (hstep : step reader w d e = some d') : d'.editor.waiting.Writes w password d'.store :=
    h.step he hstep
  refine run_invariant hkeeps ?_ (guarded_of_forall (fun e he _ => hrest e he) dk) hrun
  cases moves_of_step hstep with
  | checked => exact Waiting.Writes.checked hheld.held hfile dc.store

/-! ## From the link to the helper -/

omit [DecidableEq L] in
/-- What the writer makes of a text is what a secret's file holds of it. -/
theorem encode_toDart (lib : Libraries L) (directory : Units) (text : String) :
    ((lib.writer directory).encode (toDart text)).toByteArray = text.toByteArray := by
  change (Protocols.Link.asBytes (Utf16.decode (Utf16.encode text.toList))).toByteArray = _
  rw [Utf16.decode_encode]
  exact String.utf8Encode_toList

/-- **An imported password gets to the helper**: it is held through every edit, refusal and failure,
and once a save is through whose check was answered while the form named a file, the document names
the file of its own identifier, which holds the password; the helper reads it there, but for a line
ending at its end. -/
theorem stored_of_run {lib : Libraries L} {directory : Units} {d₁ d₂ d₃ : Desk L}
    {newProfileId uri : Units} {link : ProfileDto} {password : String} {es : List Event}
    (hwaiting : d₁.editor.waiting = .importing uri) (hmounted : d₁.editor.mounted = true)
    (hread : reader.read newProfileId uri = .ok (link, toDart password))
    (himported : step reader (lib.writer directory) d₁ (.imported newProfileId) = some d₂)
    (hes : Guarded (step reader (lib.writer directory))
      (Pending (lib.writer directory) reader) d₂ es)
    (hrun : run (step reader (lib.writer directory)) d₂ es = some d₃) :
    d₃.editor.importedPassword = some (toDart password) ∧
      ∀ (faults : ProfileFaults) (d₄ : Desk L) (path : Units),
        CheckedAsFile (lib.writer directory) reader d₂ es →
        step reader (lib.writer directory) d₃ (.written faults) = some d₄ →
        d₄.editor.saved = some path →
        ∃ dto json, d₄.editor.adopted = some ⟨path, some dto⟩ ∧
          (lib.writer directory).exportProfile dto = .ok json ∧ d₄.store.entries path = some json ∧
          dto.authSecretSource = filePrefix ++ (lib.writer directory).secretPathFor dto.id ∧
          d₄.store.files
            ((lib.writer directory).locate ((lib.writer directory).secretPathFor dto.id)) =
            some ((lib.writer directory).encode (toDart password)) ∧
          ∀ (env : String → Option String) (uid : ℕ) (disk : Disk),
            disk (toRust ((lib.writer directory).secretPathFor dto.id)) =
              some (.file 0o600 ((lib.writer directory).encode (toDart password)).toByteArray) →
            (fileSecretStore env).resolve (disk.fileSystem uid)
              (.file (toRust ((lib.writer directory).secretPathFor dto.id))) =
                .ok (stripOneTrailingLineEnding password) := by
  have hfirst : Holds (lib.writer directory) (toDart password) d₂ := by
    unfold step at himported
    dsimp only at himported
    rw [hwaiting] at himported
    dsimp only at himported
    rw [hread] at himported
    obtain rfl := Option.some.inj himported
    unfold Editor.fillIn
    dsimp only
    rw [if_pos hmounted]
    exact ⟨rfl, trivial⟩
  have hlast : Holds (lib.writer directory) (toDart password) d₃ :=
    run_invariant (fun _ _ _ h he hstep => h.step he hstep) hfirst hes hrun
  refine ⟨hlast.held, fun faults d₄ path hchecked hwritten hsaved => ?_⟩
  have hwrites := writes_of_run hfirst hes hchecked hrun
  have hmeant := hlast.meant
  cases moves_of_step hwritten with
  | unwritten hwaiting hwrite =>
    rw [hwaiting] at hmeant
    cases hmeant.1.symm.trans hsaved
  | @written _ r dto user path' s hwaiting hwrite =>
    rw [hwaiting] at hmeant hwrites
    obtain ⟨hunsaved, hsource⟩ := hmeant
    have hmounted : d₃.editor.mounted = true := by
      by_contra hnot
      change (d₃.editor.adopt dto path').saved = some path at hsaved
      rw [Editor.adopt, if_neg hnot] at hsaved
      cases hunsaved.symm.trans hsaved
    change (d₃.editor.adopt dto path').saved = some path at hsaved
    rw [Editor.adopt, if_pos hmounted] at hsaved
    obtain rfl := Option.some.inj hsaved
    obtain ⟨rfl, hfiles, json, hjson, hentry⟩ := of_writeProfile hwrite
    refine ⟨dto, json, ?_, hjson, hentry, hsource, ?_, fun env uid disk hdisk => ?_⟩
    · change (d₃.editor.adopt dto _).adopted = _
      rw [Editor.adopt, if_pos hmounted]
    · exact (congrFun hfiles _).trans hwrites
    · rw [encode_toDart] at hdisk
      exact resolve_of_file hdisk

/-- A link is being read. -/
def reading : Desk (Bool × List (List Char)) :=
  ⟨{ Editor.opened none none with
      waiting := .importing (units "ss://YWVzLTI1Ni1nY206cHc@198.51.100.7:8388#Home") }, emptyStore⟩

/-- What the link says, but for its password. -/
def linkRead : Dto.ProfileDto where
  id := Reference.homeId
  name := "Home"
  protocol := "shadowsocks"
  host := "198.51.100.7"
  port := 8388
  authKind := "shadowsocks"
  cipher := some "aes-256-gcm"
  authSecretSource := ""
  authPassphraseSource := none
  peerPublicKey := none
  dnsMode := "tcp"
  dnsServers := ["1.1.1.1", "1.0.0.1"]
  dohSni := none
  dohPath := none
  splitTunnel := "all_traffic"
  splitTunnelApps := []
  killSwitch := false

/-- The link is saved; the form is edited while the save waits. -/
def saving : List Event :=
  [.savePressed [], .edit (.secretMode .typed), .edit (.secretMode .file), .checked,
    .edit (.secretMode .typed), .stored noFaults]

theorem stored_of_run_home :
    ∃ d : Desk (Bool × List (List Char)),
      d.editor.adopted = some ⟨units "/p/home.json", some (Reference.inApp linked)⟩ ∧
      d.store.entries (units "/p/home.json") =
        some (toDart (linked.toStringPretty Reference.texts)) ∧
      d.store.files ((editorLibraries.writer (units "/p")).locate
        ((editorLibraries.writer (units "/p")).secretPathFor (toDart Reference.homeId))) =
          some ((editorLibraries.writer (units "/p")).encode (toDart "pw")) := by
  have hread : editorReader.read (toDart Reference.homeId)
      (units "ss://YWVzLTI1Ni1nY206cHc@198.51.100.7:8388#Home") =
        .ok (.ofRust linkRead, toDart "pw") := by
    decide +kernel
  obtain ⟨d₂, hstep, hd₂⟩ : ∃ d₂, step editorReader (editorLibraries.writer (units "/p")) reading
      (.imported (toDart Reference.homeId)) = some d₂ ∧ d₂ = ⟨reading.editor.fillIn
        (editorLibraries.writer (units "/p"))
        (units "ss://YWVzLTI1Ni1nY206cHc@198.51.100.7:8388#Home") (.ofRust linkRead) (toDart "pw"),
          emptyStore⟩ := by
    refine ⟨_, ?_, rfl⟩
    unfold step
    dsimp only [reading]
    rw [hread]
  have hran :
      (run (step editorReader (editorLibraries.writer (units "/p"))) d₂ saving).bind (fun d =>
      (step editorReader (editorLibraries.writer (units "/p")) d (.written noProfileFaults)).map
        fun d' => (d'.editor.saved, d'.editor.adopted)) = some (some (units "/p/home.json"),
          some ⟨units "/p/home.json", some (Reference.inApp linked)⟩) := by
    rw [hd₂]
    decide +kernel
  have hran' : (run (step editorReader (editorLibraries.writer (units "/p"))) d₂
      [.savePressed [], .edit (.secretMode .typed), .edit (.secretMode .file)]).map
        (·.editor.form.secretMode) = some .file := by
    rw [hd₂]
    decide +kernel
  obtain ⟨d₃, hrun, hran⟩ := Option.bind_eq_some_iff.1 hran
  obtain ⟨d₄, hwritten, hran⟩ := Option.map_eq_some_iff.1 hran
  obtain ⟨hsaved, hlinked⟩ := Prod.mk.inj hran
  obtain ⟨dc, hbefore, hfile⟩ := Option.map_eq_some_iff.1 hran'
  have hes : ∀ e ∈ saving, ∀ d, Pending (editorLibraries.writer (units "/p")) editorReader d e := by
    simp [saving, Pending]
  obtain ⟨dto, json, hadopted, hjson, hentry, -, hstored, -⟩ :=
    (stored_of_run rfl rfl hread hstep (guarded_of_forall hes d₂) hrun).2 _ _ _
      ⟨_, [.edit (.secretMode .typed), .stored noFaults], dc, rfl, by simp, hbefore, hfile⟩ hwritten
        hsaved
  obtain rfl : Reference.inApp linked = dto := by
    have hprofile := congrArg profileOf (hlinked.symm.trans hadopted)
    exact Option.some.inj hprofile
  have hdocument : (editorLibraries.writer (units "/p")).exportProfile (Reference.inApp linked) =
      .ok (toDart (linked.toStringPretty Reference.texts)) :=
    Reference.exportProfile_knowing _ linked
  rw [Except.ok.inj (hjson.symm.trans hdocument)] at hentry
  have hid : (Reference.inApp linked).id = toDart Reference.homeId := by decide +kernel
  rw [hid] at hstored
  exact ⟨d₄, hadopted, hentry, hstored⟩

end LiosTunnel.App.ProfileEditor
