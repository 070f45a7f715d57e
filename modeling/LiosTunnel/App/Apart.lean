import LiosTunnel.App.ProfileWriter
import LiosTunnel.Lib.Runs

/-!
# Profiles that share no secret

A profile's own secret is the file named by its identifier, which `writeSecret` writes; other
profiles may lead to it under any spelling. `duplicate` copies a secret that is in the secrets
directory by the text of its path and carries any other reference across.

* `IsUuid`, `slug_uuid`: identifiers, which are their own slugs.
* `Apart`: no profile refers to another identifier's own file.
* `Op`, `perform`: the operations.
* `Harmless`, `Considerate`: what an operation should not do, and what it takes.
* `duplicate_unmanaged`, `duplicate_chmodFault`: what the conditions are about.
* `harmless_run`: in a run of considerate operations none does harm.
-/

namespace LiosTunnel.App

open Act

/-! ## Identifiers -/

/-- Groups joined by hyphens. -/
def hyphenated : List Units → Units
  | [] => []
  | [group] => group
  | group :: groups => group ++ unit '-' :: hyphenated groups

/-- A UUID as it is displayed, in lower case. -/
def IsUuid (id : Units) : Prop :=
  ∃ groups, id = hyphenated groups ∧ groups.map List.length = [8, 4, 4, 4, 12] ∧
    ∀ group ∈ groups, ∀ c ∈ group, (unit '0' ≤ c ∧ c ≤ unit '9') ∨ (unit 'a' ≤ c ∧ c ≤ unit 'f')

theorem isUuid_hyphenated {groups : List Units}
    (hlengths : groups.map List.length = [8, 4, 4, 4, 12])
    (hhex : groups.flatten.Forall fun c =>
      (unit '0' ≤ c ∧ c ≤ unit '9') ∨ (unit 'a' ≤ c ∧ c ≤ unit 'f')) : IsUuid (hyphenated groups) :=
  ⟨groups, rfl, hlengths, fun group hgroup c hc =>
    List.forall_iff_forall_mem.1 hhex c (List.mem_flatten.2 ⟨group, hgroup, hc⟩)⟩

/-- Groups of which each has a character, and each is kept by a slug. -/
def Kept (groups : List Units) : Prop := ∀ group ∈ groups, group ≠ [] ∧ ∀ c ∈ group, isKept c = true

theorem isKept_iff {c : UInt16} : isKept c = true ↔
    (0x61 ≤ c.toNat ∧ c.toNat ≤ 0x7A) ∨ (0x30 ≤ c.toNat ∧ c.toNat ≤ 0x39) := by
  simp only [isKept, Bool.or_eq_true, Bool.and_eq_true, decide_eq_true_eq, UInt16.le_iff_toNat_le]
  exact Iff.rfl

theorem isPlain_of_isKept {c : UInt16} (h : isKept c = true) : IsPlain c := by
  rw [isKept_iff] at h
  rw [IsPlain, UInt16.lt_iff_toNat_lt, UInt16.lt_iff_toNat_lt, UInt16.lt_iff_toNat_lt]
  change c.toNat < 128 ∧ (c.toNat < 65 ∨ 90 < c.toNat)
  omega

theorem not_isWhitespace_of_isKept {c : UInt16} (h : isKept c = true) : isWhitespace c = false := by
  rw [isKept_iff] at h
  have hc : c = .ofNat c.toNat := UInt16.ofNat_toNat.symm
  generalize c.toNat = n at h hc
  subst hc
  obtain ⟨hlow, hhigh⟩ | ⟨hlow, hhigh⟩ := h
  · interval_cases n <;> decide
  · interval_cases n <;> decide

theorem ne_hyphen_of_isKept {c : UInt16} (h : isKept c = true) : c ≠ unit '-' := by
  rintro rfl
  exact absurd h (by decide)

/-- What a text of kept characters and hyphens is to the functions of a slug. -/
theorem of_isLegal {c : UInt16} (h : IsLegal c) : IsPlain c ∧ isWhitespace c = false := by
  obtain h | rfl := h
  · exact ⟨isPlain_of_isKept h, not_isWhitespace_of_isKept h⟩
  · decide

theorem isLegal_of_mem_hyphenated {groups : List Units} (h : Kept groups) {c : UInt16}
    (hc : c ∈ hyphenated groups) : IsLegal c := by
  induction groups with
  | nil => cases hc
  | cons group groups ih =>
    have hgroup := (h group List.mem_cons_self).2
    cases groups with
    | nil => exact .inl (hgroup c hc)
    | cons group' groups =>
      obtain hc | hc := List.mem_append.1 hc
      · exact .inl (hgroup c hc)
      · obtain rfl | hc := List.mem_cons.1 hc
        · exact .inr rfl
        · exact ih (fun g hg => h g (List.mem_cons_of_mem _ hg)) hc

theorem collapse_kept_append {s : Units} (hne : s ≠ []) (h : ∀ c ∈ s, isKept c = true)
    (inRun : Bool)
    (t : Units) : collapse inRun (s ++ t) = s ++ collapse false t := by
  induction s generalizing inRun with
  | nil => exact absurd rfl hne
  | cons c s ih =>
    rw [List.cons_append, collapse, if_pos (h c List.mem_cons_self), List.cons_append]
    cases s with
    | nil => rfl
    | cons d s =>
      rw [ih (List.cons_ne_nil d s) fun c hc => h c (List.mem_cons_of_mem _ hc)]

/-- Groups stay as they are. -/
theorem collapse_hyphenated {groups : List Units} (hne : groups ≠ []) (h : Kept groups)
    (inRun : Bool) (t : Units) :
    collapse inRun (hyphenated groups ++ t) = hyphenated groups ++ collapse false t := by
  induction groups generalizing inRun with
  | nil => exact absurd rfl hne
  | cons group groups ih =>
    obtain ⟨hgroup, hkept⟩ := h group List.mem_cons_self
    cases groups with
    | nil => exact collapse_kept_append hgroup hkept inRun t
    | cons group' groups =>
      have hrest := ih (List.cons_ne_nil group' groups)
        (fun g hg => h g (List.mem_cons_of_mem _ hg)) true
      calc collapse inRun (group ++ unit '-' :: hyphenated (group' :: groups) ++ t)
          = group ++ collapse false (unit '-' :: (hyphenated (group' :: groups) ++ t)) := by
            rw [List.append_assoc, List.cons_append, collapse_kept_append hgroup hkept]
        _ = group ++ unit '-' :: collapse true (hyphenated (group' :: groups) ++ t) := rfl
        _ = group ++ unit '-' :: (hyphenated (group' :: groups) ++ collapse false t) := by
          rw [hrest]
        _ = group ++ unit '-' :: hyphenated (group' :: groups) ++ collapse false t := by simp

theorem hyphenated_begins {groups : List Units} (hne : groups ≠ []) (h : Kept groups) :
    ∃ c s, hyphenated groups = c :: s ∧ isKept c = true := by
  obtain ⟨group, groups, rfl⟩ := List.exists_cons_of_ne_nil hne
  obtain ⟨hgroup, hkept⟩ := h group List.mem_cons_self
  obtain ⟨c, s, rfl⟩ := List.exists_cons_of_ne_nil hgroup
  cases groups with
  | nil => exact ⟨c, s, rfl, hkept c List.mem_cons_self⟩
  | cons group' groups => exact ⟨c, _, rfl, hkept c List.mem_cons_self⟩

theorem hyphenated_ends {groups : List Units} (hne : groups ≠ []) (h : Kept groups) :
    ∃ s c, hyphenated groups = s ++ [c] ∧ isKept c = true := by
  induction groups with
  | nil => exact absurd rfl hne
  | cons group groups ih =>
    cases groups with
    | nil =>
      obtain ⟨hgroup, hkept⟩ := h group List.mem_cons_self
      exact ⟨_, _, (List.dropLast_append_getLast hgroup).symm, hkept _ (List.getLast_mem hgroup)⟩
    | cons group' groups =>
      obtain ⟨s, c, hs, hc⟩ := ih (List.cons_ne_nil _ _) fun g hg => h g (List.mem_cons_of_mem _ hg)
      refine ⟨group ++ unit '-' :: s, c, ?_, hc⟩
      change group ++ unit '-' :: hyphenated (group' :: groups) = _
      rw [hs, List.append_assoc, List.cons_append]

theorem length_hyphenated {groups : List Units} (hne : groups ≠ []) :
    (hyphenated groups).length + 1 = (groups.map List.length).sum + groups.length := by
  induction groups with
  | nil => exact absurd rfl hne
  | cons group groups ih =>
    cases groups with
    | nil => simp [hyphenated]
    | cons group' groups =>
      have hrest := ih (List.cons_ne_nil _ _)
      change (group ++ unit '-' :: hyphenated (group' :: groups)).length + 1 = _
      simp only [List.length_append, List.length_cons, List.map_cons, List.sum_cons] at hrest ⊢
      omega

section Slug

variable {toLowerCase : Units → Units}

theorem trim_of_forall {p : UInt16 → Bool} {s : Units} (h : ∀ c ∈ s, p c = false) :
    Split.trim p s = s := by
  have hdrop : s.dropWhile p = s := by
    cases s with
    | nil => rfl
    | cons c s => exact List.dropWhile_cons_of_neg (by simp [h c List.mem_cons_self])
  rw [Split.trim, hdrop, List.rdropWhile_eq_self_iff]
  exact fun hne => by simp [h _ (List.getLast_mem hne)]

/-- The slug of a plain text that its collapse leaves with kept ends. -/
theorem slug_eq (hlower : LowersCase toLowerCase) {s : Units}
    (hs : ∀ c ∈ s, IsPlain c ∧ isWhitespace c = false) {x y : UInt16} {t u : Units}
    (hcollapse : collapse false s = x :: t) (hends : x :: t = u ++ [y]) (hx : isKept x = true)
    (hy : isKept y = true) : slug toLowerCase s = x :: t := by
  have htrim : Split.trim (· = unit '-') (x :: t) = x :: t :=
    Split.trim_append [] (by simpa using ne_hyphen_of_isKept hx) hends
      (by simpa using ne_hyphen_of_isKept hy)
  rw [slug, trim_of_forall fun c hc => (hs c hc).2,
    hlower.plain s fun c hc => (hs c hc).1, hcollapse,
    htrim]
  exact if_neg Bool.false_ne_true

theorem IsUuid.kept {id : Units} (h : IsUuid id) :
    ∃ groups, id = hyphenated groups ∧ groups ≠ [] ∧ Kept groups := by
  obtain ⟨groups, rfl, hlengths, hhex⟩ := h
  refine ⟨groups, rfl, fun h => ?_, fun group hgroup => ⟨fun h => ?_, fun c hc => ?_⟩⟩
  · rw [h] at hlengths
    cases hlengths
  · have hlength : group.length ∈ [8, 4, 4, 4, 12] := hlengths ▸ List.mem_map_of_mem hgroup
    rw [h] at hlength
    revert hlength
    decide
  · have hcase := hhex group hgroup c hc
    simp only [UInt16.le_iff_toNat_le] at hcase
    change (48 ≤ c.toNat ∧ c.toNat ≤ 57) ∨ (97 ≤ c.toNat ∧ c.toNat ≤ 102) at hcase
    rw [isKept_iff]
    omega

theorem IsUuid.length {id : Units} (h : IsUuid id) : id.length = 36 := by
  obtain ⟨groups, rfl, hlengths, -⟩ := h
  have hnumber : groups.length = 5 := by simpa using congrArg List.length hlengths
  have hall := length_hyphenated (List.ne_nil_of_length_pos (by omega : 0 < groups.length))
  rw [hlengths, hnumber] at hall
  exact Nat.succ.inj hall

/-- **An identifier is its own slug.** -/
theorem slug_uuid (hlower : LowersCase toLowerCase) {id : Units} (h : IsUuid id) :
    slug toLowerCase id = id := by
  obtain ⟨groups, rfl, hne, hkept⟩ := h.kept
  obtain ⟨x, t, hbegin, hx⟩ := hyphenated_begins hne hkept
  obtain ⟨u, y, hend, hy⟩ := hyphenated_ends hne hkept
  have hcollapse := collapse_hyphenated hne hkept false []
  rw [List.append_nil, collapse, List.append_nil, hbegin] at hcollapse
  rw [hbegin] at hend ⊢
  refine slug_eq hlower
    (fun c hc => of_isLegal (isLegal_of_mem_hyphenated hkept ?_)) hcollapse hend hx hy
  rw [hbegin]
  exact hc

/-- The passphrase of an identifier has a name of its own. -/
theorem slug_passphrase (hlower : LowersCase toLowerCase) {id : Units} (h : IsUuid id) :
    slug toLowerCase (id ++ units ".passphrase") = id ++ units "-passphrase" := by
  obtain ⟨groups, rfl, hne, hkept⟩ := h.kept
  obtain ⟨x, t, hbegin, hx⟩ := hyphenated_begins hne hkept
  have hcollapse : collapse false (hyphenated groups ++ units ".passphrase") =
      hyphenated groups ++ units "-passphrase" := by
    rw [collapse_hyphenated hne hkept]
    rfl
  have hending : ∀ c ∈ units ".passphrase", IsPlain c ∧ isWhitespace c = false :=
    List.forall_iff_forall_mem.1 (by decide)
  have hplain :
      ∀ c ∈ hyphenated groups ++ units ".passphrase", IsPlain c ∧ isWhitespace c = false := by
    intro c hc
    obtain hc | hc := List.mem_append.1 hc
    · exact of_isLegal (isLegal_of_mem_hyphenated hkept hc)
    · exact hending c hc
  rw [hbegin, List.cons_append] at hcollapse
  rw [hbegin] at hplain ⊢
  refine slug_eq hlower hplain hcollapse (u := x :: t ++ units "-passphras") (y := unit 'e') ?_ hx
    (by decide)
  rw [List.append_assoc]
  rfl

end Slug

/-! ## Profiles and their files -/

variable {L : Type} (w : World L)

/-- The files of the directory that are read as profiles. -/
def IsDocument (path : Units) : Prop := units ".json" <:+ path

instance (path : Units) : Decidable (IsDocument path) := inferInstanceAs (Decidable (_ <:+ _))

theorem isDocument_documentPath (name : Units) : IsDocument (w.documentPath name) :=
  ⟨w.directory ++ unit '/' :: slug w.toLowerCase name, by
    simp [World.documentPath, documentPath]⟩

theorem sidecarPath_injective {path path' : Units} (h : sidecarPath path = sidecarPath path') :
    path = path' := List.append_cancel_right h

/-- No document is a sidecar. -/
theorem IsDocument.ne_sidecarPath {path : Units} (h : IsDocument path) (path' : Units) :
    path ≠ sidecarPath path' := by
  rintro rfl
  obtain ⟨s, hs⟩ := h
  have hlast : s ++ units ".jso" ++ [unit 'n'] = path' ++ units ".use" ++ [unit 'r'] := by
    rw [List.append_assoc, List.append_assoc]
    exact hs
  exact absurd (List.append_inj_right' hlast rfl) (by decide)

/-- What the writer's libraries and the file system do: case folding, a document that reads back
once it is whole, and one file for each name in the secrets directory. -/
structure World.Faithful : Prop where
  lowers : LowersCase w.toLowerCase
  reads : ∀ dto json q, IsUuid dto.id → w.exportProfile dto = .ok json →
    w.parseProfile json = some q → q.id = dto.id ∧
      ∀ file ∈ q.filePaths, ∃ file' ∈ dto.filePaths, w.locate file = w.locate file'
  cut : ∀ dto json n, w.exportProfile dto = .ok json → n < json.length →
    w.parseProfile (json.take n) = none
  plain : ∀ name name', (∀ c ∈ name ++ name', IsLegal c) → name ≠ [] → name' ≠ [] →
    w.locate (w.secretsDirectory ++ unit '/' :: name) =
      w.locate (w.secretsDirectory ++ unit '/' :: name') → name = name'

/-- A path leads to no own secret but, perhaps, one identifier's. -/
def LeadsNotTo (id path : Units) : Prop :=
  ∀ id', IsUuid id' → id' ≠ id → w.locate path ≠ w.locate (w.secretPathFor id')

/-- No profile refers to another identifier's own secret, however the reference is spelled. -/
def Apart (s : Store L) : Prop :=
  ∀ path text q, IsDocument path → s.entries path = some text → w.parseProfile text = some q →
    ∀ file ∈ q.filePaths, LeadsNotTo w q.id file

variable {w} {s : Store L}

/-- Whatever is left of a document that was being written reads as a profile whose references lead
where the profile's do, if it reads at all. -/
theorem World.Faithful.leadsNotTo (hw : w.Faithful) {dto q : ProfileDto} (hid : IsUuid dto.id)
    (hdto : ∀ file ∈ dto.filePaths, LeadsNotTo w dto.id file) {json : Units}
    (h : w.exportProfile dto = .ok json) {n : ℕ} (hq : w.parseProfile (json.take n) = some q) :
    ∀ file ∈ q.filePaths, LeadsNotTo w q.id file := by
  by_cases hn : n < json.length
  · rw [hw.cut dto json n h hn] at hq
    cases hq
  rw [List.take_of_length_le (not_lt.1 hn)] at hq
  obtain ⟨hqid, hfiles⟩ := hw.reads dto json q hid h hq
  intro file hfile id' hid' hne
  obtain ⟨file', hfile', hlocate⟩ := hfiles file hfile
  rw [hlocate]
  exact hdto file' hfile' id' hid' (hqid ▸ hne)

/-- A change of one document. -/
theorem Apart.setEntry (hs : Apart w s) {path : Units} {text : Option Units}
    (h : ∀ json q, text = some json → w.parseProfile json = some q → ∀ file ∈ q.filePaths,
      LeadsNotTo w q.id file) : Apart w (s.setEntry path text) := by
  intro path' json q hdocument hentry hparse
  by_cases hpath : path' = path
  · rw [hpath, Store.setEntry_entries_self] at hentry
    exact h json q hentry hparse
  · rw [s.setEntry_entries_of_ne hpath] at hentry
    exact hs path' json q hdocument hentry hparse

/-- A change of a sidecar. -/
theorem Apart.setSidecar (hs : Apart w s) (path : Units) (text : Option Units) :
    Apart w (s.setEntry (sidecarPath path) text) := by
  intro path' json q hdocument hentry hparse
  rw [s.setEntry_entries_of_ne (hdocument.ne_sidecarPath path)] at hentry
  exact hs path' json q hdocument hentry hparse

theorem filePath_filePrefix (path : Units) : filePath (filePrefix ++ path) = some path :=
  List.dropPrefix?_append_of_beq path (beq_self_eq_true filePrefix)

/-- The files of the secrets directory are told apart by their names. -/
theorem leadsNotTo_of_name (hw : w.Faithful) {id name : Units} (hname : name ≠ [])
    (hlegal : ∀ c ∈ name, IsLegal c) (hne : ∀ id', IsUuid id' → id' ≠ id → name ≠ id') :
    LeadsNotTo w id (w.secretsDirectory ++ unit '/' :: name) := by
  intro id' hid' hid heq
  have hslug := slug_legal w.toLowerCase id'
  unfold World.secretPathFor at heq
  rw [slug_uuid hw.lowers hid'] at heq hslug
  refine hne id' hid' hid (hw.plain name id' (fun c hc => ?_) hname hslug.1 heq)
  obtain hc | hc := List.mem_append.1 hc
  · exact hlegal c hc
  · exact hslug.2 c hc

theorem leadsNotTo_secretPathFor (hw : w.Faithful) {id : Units} (hid : IsUuid id) :
    LeadsNotTo w id (w.secretPathFor id) := by
  have hslug := slug_legal w.toLowerCase id
  refine leadsNotTo_of_name hw hslug.1 hslug.2 fun id' _ hne heq => hne ?_
  rw [← heq, slug_uuid hw.lowers hid]

theorem leadsNotTo_passphrasePathFor (hw : w.Faithful) {id : Units} (hid : IsUuid id) :
    LeadsNotTo w id (w.passphrasePathFor id) := by
  have hslug := slug_legal w.toLowerCase (id ++ units ".passphrase")
  refine leadsNotTo_of_name hw hslug.1 hslug.2 fun id' hid' _ heq => ?_
  have hlength := congrArg List.length heq
  rw [slug_passphrase hw.lowers hid, List.length_append, hid.length, hid'.length] at hlength
  exact absurd hlength (by decide)

variable (w) in
/-- What a copy would share leads elsewhere than to the original's own secret. -/
def Carried (src : ProfileDto) : Prop :=
  ∀ ref ∈ src.refs, w.isManaged ref = false → ∀ file, filePath ref = some file →
    w.locate file ≠ w.locate (w.secretPathFor src.id)

theorem leadsNotTo_copyRef {src : ProfileDto} {id path ref file : Units}
    (hsrc : ∀ file ∈ src.filePaths, LeadsNotTo w src.id file) (hcarried : Carried w src)
    (href : ref ∈ src.refs) (hpath : LeadsNotTo w id path)
    (hfile : filePath (copyRef w path ref) = some file) : LeadsNotTo w id file := by
  unfold copyRef at hfile
  split at hfile
  · rw [filePath_filePrefix] at hfile
    exact Option.some.inj hfile ▸ hpath
  · next hmanaged =>
    intro id' hid' _
    by_cases hid : id' = src.id
    · exact hid ▸ hcarried ref href (Bool.eq_false_of_not_eq_true hmanaged) file hfile
    · exact hsrc file (List.mem_filterMap.2 ⟨ref, href, hfile⟩) id' hid' hid

/-- A copy refers to its own files and to none that is another identifier's. -/
theorem leadsNotTo_copyOf (hw : w.Faithful) {src : ProfileDto} {id : Units} (hid : IsUuid id)
    (hsrc : ∀ file ∈ src.filePaths, LeadsNotTo w src.id file) (hcarried : Carried w src)
    (name : Units) : ∀ file ∈ (copyOf w src id name).filePaths, LeadsNotTo w id file := by
  intro file hfile
  obtain ⟨ref, href, hfile⟩ := List.mem_filterMap.1 hfile
  obtain rfl | href := List.mem_cons.1 href
  · exact leadsNotTo_copyRef hsrc hcarried List.mem_cons_self
      (leadsNotTo_secretPathFor hw hid) hfile
  · have hpassphrase :
        ∃ ref' ∈ src.authPassphraseSource, copyRef w (w.passphrasePathFor id) ref' = ref :=
      Option.map_eq_some_iff.1 (Option.mem_toList.1 href)
    obtain ⟨ref', href', rfl⟩ := hpassphrase
    exact leadsNotTo_copyRef hsrc hcarried
      (List.mem_cons_of_mem _ (Option.mem_toList.2 href'))
      (leadsNotTo_passphrasePathFor hw hid) hfile

/-! ## The operations -/

variable [DecidableEq L]

/-- An operation on a profile. -/
inductive Op
  | writeProfile (dto : ProfileDto) (sshUser replacingPath : Option Units) (faults : ProfileFaults)
  | writeSecret (profileId secret : Units) (faults : SecretFaults)
  | duplicate (path : Units) (newProfileId : Except Failure Units) (rounds : ℕ)
    (faults : DuplicateFaults)
  | delete (path : Units) (deleteDocument deleteSidecar : Option Failure)

variable (w) in
/-- A profile as the list has it. -/
def load (s : Store L) (path : Units) : LoadedProfile :=
  ⟨path, (s.entries path).bind w.parseProfile⟩

variable (w) in
/-- An operation, its value left out. -/
def perform (op : Op) : Act (Store L) Failure Unit := fun s =>
  match op with
  | .writeProfile dto sshUser replacingPath faults =>
    (do let _ ← writeProfile w dto sshUser replacingPath faults; return ()) s
  | .writeSecret profileId secret faults =>
      (do let _ ← writeSecret w profileId secret faults; return ()) s
  | .duplicate path newProfileId rounds faults =>
    (do let _ ← duplicate w (load w s path) newProfileId rounds faults; return ()) s
  | .delete path deleteDocument deleteSidecar => delete path deleteDocument deleteSidecar s

variable (w) in
/-- One step of a run. -/
def step (s : Store L) (op : Op) : Option (Store L) := some (perform w op s).2

/-- The operation names profiles: its identifiers are UUIDs and its paths are documents'. -/
def Op.WellFormed : Op → Prop
  | .writeProfile dto _ replacingPath _ => IsUuid dto.id ∧ ∀ old ∈ replacingPath, IsDocument old
  | .writeSecret profileId _ _ => IsUuid profileId
  | .duplicate path newProfileId _ _ => IsDocument path ∧ ∀ id, newProfileId = .ok id → IsUuid id
  | .delete path _ _ => IsDocument path

/-- The document of the profile that the operation is on and may change. -/
def Op.own : Op → Option Units
  | .writeProfile _ _ replacingPath _ => replacingPath
  | .delete path _ _ => some path
  | .writeSecret _ _ _ | .duplicate _ _ _ _ => none

variable (w) in
/-- The operation leaves every other profile's document and sidecar; a secret that it writes is what
no other profile's references lead to; and a duplicate that fails leaves no new secret behind. -/
structure Harmless (s : Store L) (op : Op) : Prop where
  documents : ∀ path, IsDocument path → s.entries path ≠ none → op.own ≠ some path →
    (perform w op s).2.entries path = s.entries path ∧
      (perform w op s).2.entries (sidecarPath path) = s.entries (sidecarPath path)
  secrets : ∀ profileId secret faults, op = .writeSecret profileId secret faults →
    ∀ path text q, IsDocument path → s.entries path = some text → w.parseProfile text = some q →
      q.id ≠ profileId → ∀ file ∈ q.filePaths,
        (perform w op s).2.files (w.locate file) = s.files (w.locate file)
  leftovers : ∀ path newProfileId rounds faults, op = .duplicate path newProfileId rounds faults →
    ∀ e, (perform w op s).1 = .error e → NoNew s.files (perform w op s).2

variable (w) in
/-- A saved profile refers to no other identifier's own secret; and a duplicate shares nothing that
leads to the original's, and meets no failure between the first secret it writes and the
document. -/
def Considerate (s : Store L) (op : Op) : Prop :=
  op.WellFormed ∧
    match op with
    | .writeProfile dto _ _ _ => ∀ file ∈ dto.filePaths, LeadsNotTo w dto.id file
    | .duplicate path _ _ faults => ∀ src, (load w s path).profile = some src →
      Carried w src ∧ NoLeftover (w.isManaged src.authSecretSource)
        (src.authPassphraseSource.any w.isManaged) faults
    | .writeSecret _ _ _ | .delete _ _ _ => True

omit [DecidableEq L] in
/-- The profile that is loaded refers to what it refers to in the store. -/
theorem Apart.of_load (hs : Apart w s) {path : Units} (hpath : IsDocument path) {src : ProfileDto}
    (h : (load w s path).profile = some src) :
    ∀ file ∈ src.filePaths, LeadsNotTo w src.id file := by
  obtain ⟨text, htext, hparse⟩ := Option.bind_eq_some_iff.1 h
  exact hs path text src hpath htext hparse

/-- **Considerate operations keep profiles apart.** -/
theorem Apart.perform (hw : w.Faithful) (hs : Apart w s) {op : Op} (hop : Considerate w s op) :
    Apart w (perform w op s).2 := by
  obtain ⟨hwell, hop⟩ := hop
  cases op with
  | writeProfile dto sshUser replacingPath faults =>
    refine keeps_bind (keeps_writeProfile (P := Apart w) (fun s json n hjson hs _ => ?_)
      (fun _ _ _ s text hs => hs.setSidecar _ text)
      (fun old _ s hs => hs.setEntry fun _ _ h => (nomatch h))
      fun old _ s hs => hs.setSidecar old none) (fun _ => keeps_pure) s hs
    refine hs.setEntry fun json' q htext hparse => ?_
    obtain rfl := Option.some.inj htext
    exact hw.leadsNotTo hwell.1 hop hjson hparse
  | writeSecret profileId secret faults =>
    exact keeps_bind (keeps_writeSecretBytes (P := Apart w) fun s bytes hs => hs)
      (fun _ => keeps_pure)
      s hs
  | duplicate path newProfileId rounds faults =>
    refine keeps_bind
      (keeps_duplicate (P := Apart w) (fun src id name hsrc hid s json n hjson hs _ => ?_)
      (fun name _ _ _ s text hs => hs.setSidecar _ text) (fun _ _ s bytes hs => hs)
      fun _ _ s bytes hs => hs) (fun _ => keeps_pure) s hs
    refine hs.setEntry fun json' q htext hparse => ?_
    obtain rfl := Option.some.inj htext
    have hcopy := leadsNotTo_copyOf hw (hwell.2 id hid) (Apart.of_load ‹_› hwell.1 hsrc)
      (hop src hsrc).1 name
    exact hw.leadsNotTo (hwell.2 id hid) hcopy hjson hparse
  | delete path deleteDocument deleteSidecar =>
    exact keeps_bind
      (keeps_deleteEntry (P := Apart w) fun s hs => hs.setEntry fun _ _ h => (nomatch h))
      (fun _ => keeps_deleteEntry fun s hs => hs.setSidecar path none) s hs

/-- A document and its sidecar are as they were. -/
def Same (path : Units) (s s' : Store L) : Prop :=
  s'.entries path = s.entries path ∧
    s'.entries (sidecarPath path) = s.entries (sidecarPath path)

omit [DecidableEq L] in
/-- A change of another document. -/
theorem Same.setDocument {s s' : Store L} {path other : Units} (h : Same path s s')
    (hother : IsDocument other) (hne : path ≠ other) (text : Option Units) :
    Same path s (s'.setEntry other text) :=
  ⟨(s'.setEntry_entries_of_ne hne text).trans h.1,
    (s'.setEntry_entries_of_ne (hother.ne_sidecarPath path).symm text).trans h.2⟩

omit [DecidableEq L] in
/-- A change of another document's sidecar. -/
theorem Same.setSidecar {s s' : Store L} {path other : Units} (h : Same path s s')
    (hpath : IsDocument path) (hne : path ≠ other) (text : Option Units) :
    Same path s (s'.setEntry (sidecarPath other) text) :=
  ⟨(s'.setEntry_entries_of_ne (hpath.ne_sidecarPath other) text).trans h.1,
    (s'.setEntry_entries_of_ne (fun heq => hne (sidecarPath_injective heq)) text).trans h.2⟩

/-- **No operation changes another profile's document or sidecar.** -/
theorem same_perform {op : Op} (hwell : op.WellFormed) {path : Units} (hpath : IsDocument path)
    (hthere : s.entries path ≠ none) (hown : op.own ≠ some path) :
    Same path s (perform w op s).2 := by
  have hrefl : Same path s s := ⟨rfl, rfl⟩
  cases op with
  | writeProfile dto sshUser replacingPath faults =>
    have hne {s' : Store L} (hs' : Same path s s') (hfree : Free w dto.name replacingPath s') :
        path ≠ w.documentPath dto.name := by
      rintro rfl
      obtain hnone | heq := hfree
      · exact hthere (hs'.1.symm.trans hnone)
      · exact hown heq.symm
    have hneOld {old : Units} (hold : replacingPath = some old) : path ≠ old := by
      rintro rfl
      exact hown hold
    exact keeps_bind (keeps_writeProfile
      (fun s' _ _ _ hs' hfree =>
        hs'.setDocument (isDocument_documentPath w dto.name) (hne hs' hfree) _)
      (fun s₀ hs₀ hfree s' text hs' => hs'.setSidecar hpath (hne hs₀ hfree) text)
      (fun old hold s' hs' => hs'.setDocument (hwell.2 old hold) (hneOld hold) none)
      fun old hold s' hs' => hs'.setSidecar hpath (hneOld hold) none) (fun _ => keeps_pure) s hrefl
  | writeSecret profileId secret faults =>
    exact keeps_bind (keeps_writeSecretBytes fun s' bytes hs' => hs') (fun _ => keeps_pure) s hrefl
  | duplicate source newProfileId rounds faults =>
    have hne {name : Units} {s' : Store L} (hs' : Same path s s')
        (hfree : s'.entries (w.documentPath name) = none) : path ≠ w.documentPath name := by
      rintro rfl
      exact hthere (hs'.1.symm.trans hfree)
    exact keeps_bind (keeps_duplicate
      (fun _ _ name _ _ s' _ _ _ hs' hfree =>
        hs'.setDocument (isDocument_documentPath w name) (hne hs' hfree) _)
      (fun name s₀ hs₀ hfree s' text hs' => hs'.setSidecar hpath (hne hs₀ hfree) text)
      (fun _ _ s' bytes hs' => hs') fun _ _ s' bytes hs' => hs') (fun _ => keeps_pure) s hrefl
  | delete other deleteDocument deleteSidecar =>
    have hne : path ≠ other := by
      rintro rfl
      exact hown rfl
    exact keeps_bind (keeps_deleteEntry fun s' hs' => hs'.setDocument hwell hne none)
      (fun _ => keeps_deleteEntry fun s' hs' => hs'.setSidecar hpath hne none) s hrefl

/-- **A considerate operation on profiles that are apart does no harm.** -/
theorem harmless_of_apart (hs : Apart w s) {op : Op} (hop : Considerate w s op) :
    Harmless w s op where
  documents _ hpath hthere hown := same_perform hop.1 hpath hthere hown
  secrets profileId secret faults hsecret path text q hdocument hentry hparse hid file hfile := by
    subst hsecret
    have hne : w.locate file ≠ w.locate (w.secretPathFor profileId) :=
      hs path text q hdocument hentry hparse file hfile profileId hop.1 (Ne.symm hid)
    exact keeps_bind (keeps_writeSecretBytes (P := fun s' => s'.files (w.locate file) =
      s.files (w.locate file)) fun s' bytes hs' => (s'.setFile_files_of_ne hne bytes).trans hs')
        (fun _ => keeps_pure) s rfl
  leftovers path newProfileId rounds faults hduplicate e herror := by
    subst hduplicate
    have hpost : Post (fun _ _ => True) (NoNew s.files)
        (perform w (.duplicate path newProfileId rounds faults) s) :=
      triple_bind (triple_duplicate fun src hsrc => (hop.2 src hsrc).2)
        (fun _ => triple_pure fun _ _ => trivial) s rfl
    exact hpost.of_error herror

/-- In a run of considerate operations from profiles that are apart, none does harm. -/
theorem harmless_run (hw : w.Faithful) {s₀ : Store L} (hs₀ : Apart w s₀) {ops : List Op}
    (hops : Runs.Guarded (step w) (Considerate w) s₀ ops) (hrun : Runs.run (step w) s₀ ops = some s)
    {op : Op} (hop : Considerate w s op) : Harmless w s op := by
  refine harmless_of_apart (Runs.run_invariant (fun s op s' hs hop h => ?_) hs₀ hops hrun) hop
  obtain rfl := Option.some.inj h
  exact hs.perform hw hop

/-! ## What a duplicate does -/

variable (w) in
/-- No two profiles have one identifier. -/
def Distinct (s : Store L) : Prop :=
  ∀ path path' text text' q q', IsDocument path → IsDocument path' → s.entries path = some text →
    s.entries path' = some text' → w.parseProfile text = some q → w.parseProfile text' = some q' →
      q.id = q'.id → path = path'

variable (w) in
/-- No two profiles refer to one file of the secrets directory, however the references are
spelled. -/
def Unshared (s : Store L) : Prop :=
  ∀ path path' text text' q q', IsDocument path → IsDocument path' → path ≠ path' →
    s.entries path = some text → s.entries path' = some text' → w.parseProfile text = some q →
    w.parseProfile text' = some q' → ∀ file ∈ q.filePaths, ∀ file' ∈ q'.filePaths,
      w.locate file = w.locate file' → ∀ name, unit '/' ∉ name →
        w.locate file ≠ w.locate (w.secretsDirectory ++ unit '/' :: name)

/-- Nothing fails. -/
def noFaults : SecretFaults := ⟨none, none, none, none, none⟩

/-- Nothing of a duplicate fails. -/
def noDuplicateFaults : DuplicateFaults :=
  ⟨none, none, noFaults, noFaults, none, ⟨none, none, none, none, none, none⟩, none, none⟩

/-- A secret that is written is there. -/
theorem writeSecret_files (id secret : Units) :
    (perform w (.writeSecret id secret noFaults) s).2.files (w.locate (w.secretPathFor id)) =
      some (w.encode secret) := by
  have hcreate : ∃ s', createFile w none (w.secretPathFor id) s = (.ok (), s') := by
    unfold createFile
    cases s.files (w.locate (w.secretPathFor id)) with
    | none => exact ⟨_, rfl⟩
    | some bytes => exact ⟨_, rfl⟩
  obtain ⟨s', hs'⟩ := hcreate
  have hwrite : writeSecretBytes w id (w.encode secret) noFaults s =
      (.ok (filePrefix ++ w.secretPathFor id),
        s'.setFile (w.locate (w.secretPathFor id)) (some (w.encode secret))) :=
    (bind_of_ok hs' _).trans rfl
  change ((writeSecretBytes w id (w.encode secret) noFaults >>= fun _ => pure ()) s).2.files _ = _
  rw [bind_of_ok hwrite]
  exact s'.setFile_files_self _ _

omit [DecidableEq L] in
theorem readManaged_of_not (fault : Option Failure) {ref : Option Units}
    (h : ∀ r ∈ ref, w.isManaged r = false)
    (missing : Failure) : readManaged w fault ref missing s = (.ok none, s) := by
  unfold readManaged
  cases ref with
  | none => rfl
  | some ref =>
    dsimp only
    rw [if_neg (by rw [h ref rfl]; exact Bool.false_ne_true)]
    rfl

omit [DecidableEq L] in
/-- A profile is written where there is nothing, without a username. -/
theorem writeProfile_of_free {dto : ProfileDto} {json : Units}
    (hjson : w.exportProfile dto = .ok json)
    (hfree : s.entries (w.documentPath dto.name) = none)
    (hsidecar : s.entries (sidecarPath (w.documentPath dto.name)) = none) :
    writeProfile w dto none none noDuplicateFaults.profile s =
      (.ok (w.documentPath dto.name), s.setEntry (w.documentPath dto.name) (some json)) := by
  have hcheck :
      checkNameFree w.toLowerCase (fun path => (s.entries path).isSome) w.directory dto.name
      none = .ok () := checkNameFree_eq_ok.2 (by
        change (s.entries (w.documentPath dto.name)).isSome = false
        rw [hfree]
        rfl)
  have hexport : Act.ofExcept (fun _ : Store L => w.exportProfile dto) s = (.ok json, s) :=
    ofExcept_of_ok hjson
  have hname : Act.ofExcept (fun s : Store L => checkNameFree w.toLowerCase
      (fun path => (s.entries path).isSome) w.directory dto.name none) s = (.ok (), s) :=
    ofExcept_of_ok hcheck
  have hne : sidecarPath (w.documentPath dto.name) ≠ w.documentPath dto.name :=
    ((isDocument_documentPath w dto.name).ne_sidecarPath _).symm
  have hnothing : (s.setEntry (w.documentPath dto.name) (some json)).entries
      (sidecarPath (w.documentPath dto.name)) = none := by
    rw [s.setEntry_entries_of_ne hne, hsidecar]
  have hdelete : writeSidecar (w.documentPath dto.name) none noDuplicateFaults.profile
      (s.setEntry (w.documentPath dto.name) (some json)) =
        (.ok (), s.setEntry (w.documentPath dto.name) (some json)) := by
    change deleteEntry _ _ _ = _
    unfold deleteEntry
    rw [hnothing]
  have hdir : attempt noDuplicateFaults.profile.createDir s = (.ok (), s) := rfl
  have hwrite : writeEntry noDuplicateFaults.profile.document
      (documentPath w.toLowerCase w.directory dto.name) json s =
        (.ok (), s.setEntry (w.documentPath dto.name) (some json)) := rfl
  unfold writeProfile
  rw [bind_of_ok hexport, bind_of_ok hdir, bind_of_ok hname, bind_of_ok hwrite]
  exact (bind_of_ok hdelete _).trans rfl

/-- Once everything that refuses has been asked, the copies are written and the copy is saved. -/
theorem duplicate_eq {path id name : Units} {src : ProfileDto} {rounds : ℕ}
    {faults : DuplicateFaults}
    {secret passphrase : Option (List UInt8)} (hfile : filePath src.authSecretSource ≠ none)
    (hsecret : readManaged w faults.readSecret (some src.authSecretSource)
      (units "this profile's secret file is missing") s = (.ok secret, s))
    (hpassphrase : readManaged w faults.readPassphrase src.authPassphraseSource
      (units "this profile's passphrase file is missing") s = (.ok passphrase, s))
    (hname : freeName w.toLowerCase (fun path => (s.entries path).isSome) w.directory src.name
        rounds =
      some name)
    (hcheck : w.checkProfile (copyOf w src id name) = .ok ()) :
    duplicate w ⟨path, some src⟩ (.ok id) rounds faults s =
      (writeCopies w id secret passphrase faults >>= fun _ =>
        saveCopy w (copyOf w src id name) path faults >>= fun path => pure (some path)) s := by
  have hfound : Act.ofExcept (fun s : Store L => (Except.ok (freeName w.toLowerCase
      (fun path => (s.entries path).isSome) w.directory src.name rounds) :
        Except Failure (Option Units))) s = (.ok (some name), s) :=
    ofExcept_of_ok (congrArg Except.ok hname)
  have hid :
      Act.ofExcept (fun _ : Store L => (Except.ok id : Except Failure Units)) s = (.ok id, s) :=
    rfl
  have hchecked :
      Act.ofExcept (fun _ : Store L => w.checkProfile (copyOf w src id name)) s = (.ok (), s) :=
    ofExcept_of_ok hcheck
  unfold duplicate
  dsimp only
  rw [if_neg hfile, bind_of_ok hsecret, bind_of_ok hpassphrase, bind_of_ok hfound]
  dsimp only
  rw [bind_of_ok hid, bind_of_ok hchecked]

/-- **A duplicate refers to what the original does where its references are not to the secrets
directory by the text of their paths**, and no file is copied. -/
theorem duplicate_unmanaged {path id name json : Units} {src : ProfileDto} {rounds : ℕ}
    (hfile : filePath src.authSecretSource ≠ none)
    (hrefs : ∀ ref ∈ src.refs, w.isManaged ref = false)
    (hname : freeName w.toLowerCase (fun path => (s.entries path).isSome) w.directory src.name
        rounds =
      some name)
    (hcheck : w.checkProfile (copyOf w src id name) = .ok ())
    (hjson : w.exportProfile (copyOf w src id name) = .ok json)
    (hfree : s.entries (w.documentPath name) = none) (huser : s.entries (sidecarPath path) = none)
    (hsidecar : s.entries (sidecarPath (w.documentPath name)) = none) :
    duplicate w ⟨path, some src⟩ (.ok id) rounds noDuplicateFaults s =
      (.ok (some (w.documentPath name)), s.setEntry (w.documentPath name) (some json)) := by
  have hsecret : ∀ r ∈ some src.authSecretSource, w.isManaged r = false :=
    fun r hr => hrefs r (Option.some.inj hr ▸ List.mem_cons_self)
  have hpassphrase : ∀ r ∈ src.authPassphraseSource, w.isManaged r = false :=
    fun r hr => hrefs r (List.mem_cons_of_mem _ (Option.mem_toList.2 hr))
  have hsave : saveCopy w (copyOf w src id name) path noDuplicateFaults s =
      (.ok (w.documentPath name), s.setEntry (w.documentPath name) (some json)) := by
    refine onError_of_ok (Eq.trans (bind_of_ok (ofExcept_of_ok (a := none) ?_) _)
      (writeProfile_of_free hjson hfree hsidecar))
    rw [huser]
  have hcopies : writeCopies w id none none noDuplicateFaults s = (.ok (), s) := rfl
  rw [duplicate_eq hfile (readManaged_of_not _ hsecret _) (readManaged_of_not _ hpassphrase _) hname
    hcheck, bind_of_ok hcopies, bind_of_ok hsave]
  rfl

/-- The permissions of the copied secret's file cannot be set. -/
def chmodFault (e : Failure) : DuplicateFaults :=
  { noDuplicateFaults with secret := { noFaults with chmod := some e } }

/-- **A duplicate that fails once it has created a file leaves the file behind.** -/
theorem duplicate_chmodFault {path id name : Units} {src : ProfileDto} {rounds : ℕ}
    {bytes : List UInt8} {e : Failure} (hmanaged : w.isManaged src.authSecretSource = true)
    (hpassphrase : src.authPassphraseSource = none)
    (hbytes : s.files (w.locate (src.authSecretSource.drop filePrefix.length)) = some bytes)
    (hname : freeName w.toLowerCase (fun path => (s.entries path).isSome) w.directory src.name
        rounds =
      some name)
    (hcheck : w.checkProfile (copyOf w src id name) = .ok ())
    (hnew : s.files (w.locate (w.secretPathFor id)) = none) :
    duplicate w ⟨path, some src⟩ (.ok id) rounds (chmodFault e) s =
      (.error e, s.setFile (w.locate (w.secretPathFor id)) (some [])) := by
  have hfile : filePath src.authSecretSource ≠ none := by
    intro h
    rw [World.isManaged, h] at hmanaged
    cases hmanaged
  have hsecret : readManaged w (chmodFault e).readSecret (some src.authSecretSource)
      (units "this profile's secret file is missing") s = (.ok (some bytes), s) := by
    have hread : readSecretFile w none src.authSecretSource
        (units "this profile's secret file is missing") s = (.ok bytes, s) :=
      ofExcept_of_ok (by rw [hbytes])
    unfold readManaged
    dsimp only
    rw [if_pos hmanaged]
    exact bind_of_ok hread _
  have hnothing : readManaged w (chmodFault e).readPassphrase src.authPassphraseSource
      (units "this profile's passphrase file is missing") s = (.ok none, s) := by
    rw [hpassphrase]
    rfl
  have hcreate : createFile w none (w.secretPathFor id) s =
      (.ok (), s.setFile (w.locate (w.secretPathFor id)) (some [])) := by
    unfold createFile
    rw [hnew]
  have hwrite : writeSecretBytes w id bytes (chmodFault e).secret s =
      (.error e, s.setFile (w.locate (w.secretPathFor id)) (some [])) :=
    (bind_of_ok hcreate _).trans rfl
  have hcopies : writeCopies w id (some bytes) none (chmodFault e) s =
      (.error e, s.setFile (w.locate (w.secretPathFor id)) (some [])) :=
    bind_of_error (bind_of_error hwrite _) _
  rw [duplicate_eq hfile hsecret hnothing hname hcheck, bind_of_error hcopies]

end LiosTunnel.App
