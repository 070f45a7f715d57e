import LiosTunnel.Lib.FirstUse
import LiosTunnel.Config.Profile
import LiosTunnel.Error

/-!
# The host keys of SSH servers

`check_server_key` of `ssh.rs` decides whether a server's key is trusted. Its lookups and the
recording of a new key are the SSH library's, which reads and writes the `known_hosts` file; they
are parameters here, with what the code relies on in `Russh.Documented`. Whether the file can be
read may change between two calls and is fixed within one.

* `Russh`, `Russh.Documented`: the library, and what is assumed of it.
* `KeyCheck`, `checkServerKey`: one check, with the file it leaves.
* `checkServerKey_accepts`, `checkServerKey_rejects`: what an answer says about the file.
* `checkServerKey_step`, `trace_presentations`: the checks are a book of trust on first use.
-/

namespace LiosTunnel.Protocols

open Config

/-- `russh::keys::Error`, as far as the code tells its variants apart. -/
inductive RusshError
  | keyChanged (line : ℕ)
  | other (reason : Text)

/-- The three functions of `russh::keys::known_hosts`. A file that cannot be opened is `none`;
`Disk` is whatever decides whether writing works. -/
structure Russh (File Key Disk : Type) where
  /-- The keys a file records for a host and port. -/
  recorded : File → String → ℕ → List Key
  /-- Each key with the line it stands on. -/
  knownHostKeysPath : Option File → String → ℕ → Except Text (List (ℕ × Key))
  checkKnownHostsPath : Option File → String → ℕ → Key → Except RusshError Bool
  /-- The answer and the file that is there afterwards, `none` when there is none. -/
  learnKnownHostsPath : Disk → Option File → String → ℕ → Key → Except Text Unit × Option File

variable {File Key Disk : Type}

/-- The keys recorded in a file that may not exist. -/
def Russh.keysIn (c : Russh File Key Disk) (file : Option File) (host : String) (port : ℕ) :
    List Key :=
  match file with
  | none => []
  | some f => c.recorded f host port

/-- What `check_server_key` relies on. -/
structure Russh.Documented (c : Russh File Key Disk) : Prop where
  keys_opened : ∀ f host port ks, c.knownHostKeysPath (some f) host port = .ok ks →
    ks.map Prod.snd = c.recorded f host port
  check_opened : ∀ f host port key, c.checkKnownHostsPath (some f) host port key = .ok true →
    key ∈ c.recorded f host port
  check_closed : ∀ host port key, c.checkKnownHostsPath none host port key = .ok false
  learn_ok : ∀ disk file host port key file',
    c.learnKnownHostsPath disk file host port key = (.ok (), file') →
    c.keysIn file' host port = c.keysIn file host port ++ [key] ∧
    ∀ host' port', (host', port') ≠ (host, port) →
      c.keysIn file' host' port' = c.keysIn file host' port'
  learn_error : ∀ disk file host port key e file',
    c.learnKnownHostsPath disk file host port key = (.error e, file') → file' = file

/-- `HostKeyPolicy`. -/
inductive HostKeyPolicy
  | verify (knownHosts : PathBuf)
  | acceptAny

/-- A call of `check_server_key`: the handler's host and port, the key, and what the file system
answers meanwhile. -/
structure KeyCheck (Key Disk : Type) where
  host : String
  port : ℕ
  key : Key
  /-- `create_dir_all` on the parent of `known_hosts`; also `ok` where it has none. -/
  createDirAll : Except Text Unit
  /-- Why `known_hosts` cannot be opened, for a reason other than that it does not exist. -/
  unreadable : Option Text
  disk : Disk

/-- What `File::open` finds: `none` for any error. -/
def KeyCheck.opened (call : KeyCheck Key Disk) (file : Option File) : Option File :=
  match call.unreadable with
  | some _ => none
  | none => file

/-- `ClientHandler::check_server_key`: the answer, and the file after it. -/
def checkServerKey (c : Russh File Key Disk) (policy : HostKeyPolicy) (file : Option File)
    (call : KeyCheck Key Disk) : Except TunnelError Bool × Option File :=
  match policy with
  | .acceptAny => (.ok true, file)
  | .verify knownHosts =>
    match call.createDirAll with
    | .error e =>
      (.error (.hostKey (.lit "cannot create known_hosts directory: " :: e)), file)
    | .ok () =>
      match c.knownHostKeysPath (call.opened file) call.host call.port with
      | .error e =>
        (.error (.hostKey ([.lit "cannot read ", .lit knownHosts, .lit ": "] ++ e)), file)
      | .ok existing =>
        match c.checkKnownHostsPath (call.opened file) call.host call.port call.key with
        | .ok true => (.ok true, file)
        | .ok false =>
          if existing ≠ [] then
            (.error (.hostKey [.lit "host key for ", .lit call.host, .lit ":",
              .lit (toString call.port), .lit " uses an algorithm not recorded in ",
              .lit knownHosts, .lit " (", .lit (toString existing.length),
              .lit " entries already recorded for this host); refusing to trust it automatically"]),
              file)
          else
            match call.unreadable with
            | none =>
              match c.learnKnownHostsPath call.disk file call.host call.port call.key with
              | (.error e, file') =>
                (.error (.hostKey (.lit "cannot record host key: " :: e)), file')
              | (.ok (), file') => (.ok true, file')
            | some e =>
              (.error (.hostKey ([.lit "cannot verify ", .lit knownHosts,
                .lit " has no entry for ", .lit call.host, .lit ":", .lit (toString call.port),
                .lit ": "] ++ e ++ [.lit "; refusing to treat this as first contact"])), file)
        | .error (.keyChanged line) =>
          (.error (.hostKey [.lit "host key for ", .lit call.host, .lit ":",
            .lit (toString call.port), .lit " does not match the key recorded at ",
            .lit knownHosts, .lit ":", .lit (toString line)]), file)
        | .error (.other e) =>
          (.error (.hostKey ([.lit "cannot verify host key for ", .lit call.host, .lit ":",
            .lit (toString call.port), .lit " against ", .lit knownHosts, .lit ": "] ++ e)), file)

/-! ## One check -/

/-- Whose keys a call is about. -/
def KeyCheck.site (call : KeyCheck Key Disk) : String × ℕ := (call.host, call.port)

/-- A file as a book: what it records for each host and port. -/
def Russh.book (c : Russh File Key Disk) (file : Option File) (site : String × ℕ) : List Key :=
  c.keysIn file site.1 site.2

variable {c : Russh File Key Disk} {knownHosts : PathBuf} {file file' : Option File}
  {call : KeyCheck Key Disk}

theorem KeyCheck.opened_of_readable (h : call.unreadable = none) (file : Option File) :
    call.opened file = file := by
  rw [KeyCheck.opened, h]

theorem KeyCheck.opened_of_unreadable {e : Text} (h : call.unreadable = some e)
    (file : Option File) :
    call.opened file = none := by
  rw [KeyCheck.opened, h]

/-- A yes of the library's check, on whatever could be opened. -/
theorem Russh.Documented.mem_of_check (hc : c.Documented)
    (h : c.checkKnownHostsPath (call.opened file) call.host call.port call.key = .ok true) :
    call.key ∈ c.book file call.site := by
  cases hread : call.unreadable with
  | some e =>
    rw [KeyCheck.opened_of_unreadable hread, hc.check_closed] at h
    cases h
  | none =>
    rw [KeyCheck.opened_of_readable hread] at h
    cases file with
    | none =>
      rw [hc.check_closed] at h
      cases h
    | some f => exact hc.check_opened f _ _ _ h

/-- An empty listing of a file that could be opened, or of none. -/
theorem Russh.Documented.book_eq_nil (hc : c.Documented) (hread : call.unreadable = none)
    (h : c.knownHostKeysPath (call.opened file) call.host call.port = .ok []) :
    c.book file call.site = [] := by
  cases file with
  | none => rfl
  | some f =>
    rw [KeyCheck.opened_of_readable hread] at h
    exact (hc.keys_opened f _ _ _ h).symm

/-- **What a yes says**: the key is recorded and the file is left alone, or nothing is recorded, in
a file that can be read or does not exist, and the key is the one entry afterwards. -/
theorem checkServerKey_accepts (hc : c.Documented)
    (h : checkServerKey c (.verify knownHosts) file call = (.ok true, file')) :
    (call.key ∈ c.book file call.site ∧ file' = file) ∨
    (c.book file call.site = [] ∧ call.unreadable = none ∧
      c.book file' = Function.update (c.book file) call.site [call.key]) := by
  unfold checkServerKey at h
  dsimp only at h
  split at h
  · cases h
  split at h
  · cases h
  next existing hkeys =>
    split at h
    · next hcheck => exact Or.inl ⟨hc.mem_of_check hcheck, (congrArg Prod.snd h).symm⟩
    · split at h
      · cases h
      next hnil =>
        obtain rfl := not_not.1 hnil
        split at h
        · next hread =>
          have hbook := hc.book_eq_nil hread hkeys
          split at h
          · cases h
          next hlearn =>
            obtain rfl := congrArg Prod.snd h
            obtain ⟨hsite, hother⟩ := hc.learn_ok _ _ _ _ _ _ hlearn
            refine Or.inr ⟨hbook, hread, funext fun site => ?_⟩
            by_cases hs : site = call.site
            · subst hs
              rw [Function.update_self]
              calc c.book _ call.site = c.book file call.site ++ [call.key] := hsite
                _ = [call.key] := by rw [hbook, List.nil_append]
            · rw [Function.update_of_ne hs]
              exact hother site.1 site.2 hs
        · cases h
    · cases h
    · cases h

/-- **What anything else says**: the file is left alone. -/
theorem checkServerKey_rejects (hc : c.Documented) {answer : Except TunnelError Bool}
    (h : checkServerKey c (.verify knownHosts) file call = (answer, file'))
    (hanswer : answer ≠ .ok true) : file' = file := by
  unfold checkServerKey at h
  dsimp only at h
  split at h
  · exact (congrArg Prod.snd h).symm
  split at h
  · exact (congrArg Prod.snd h).symm
  split at h
  · exact (congrArg Prod.snd h).symm
  · split at h
    · exact (congrArg Prod.snd h).symm
    split at h
    · split at h
      · next hlearn =>
        obtain rfl := congrArg Prod.snd h
        exact hc.learn_error _ _ _ _ _ _ _ hlearn
      · exact absurd (congrArg Prod.fst h).symm hanswer
    · exact (congrArg Prod.snd h).symm
  · exact (congrArg Prod.snd h).symm
  · exact (congrArg Prod.snd h).symm

/-! ## A list of checks -/

/-- The file after some calls. -/
def fileAfter (c : Russh File Key Disk) (policy : HostKeyPolicy) (file : Option File)
    (calls : List (KeyCheck Key Disk)) : Option File :=
  calls.foldl (fun file call => (checkServerKey c policy file call).2) file

/-- Whether a call, made with a file, accepts its key. -/
def Accepts (c : Russh File Key Disk) (policy : HostKeyPolicy) (file : Option File)
    (call : KeyCheck Key Disk) : Prop :=
  (checkServerKey c policy file call).1 = .ok true

instance (policy : HostKeyPolicy) (call : KeyCheck Key Disk) :
    Decidable (Accepts c policy file call) :=
  inferInstanceAs (Decidable (_ = _))

/-- What a call amounts to as a presentation. -/
def KeyCheck.presented (c : Russh File Key Disk) (policy : HostKeyPolicy) (file : Option File)
    (call : KeyCheck Key Disk) : FirstUse.Presented (String × ℕ) Key :=
  ⟨call.site, call.key, decide (Accepts c policy file call)⟩

/-- The presentations of a list of calls, each with the file it finds. -/
def presentations (c : Russh File Key Disk) (policy : HostKeyPolicy) :
    Option File → List (KeyCheck Key Disk) → List (FirstUse.Presented (String × ℕ) Key)
  | _, [] => []
  | file, call :: calls =>
    call.presented c policy file ::
      presentations c policy (checkServerKey c policy file call).2 calls

/-- One check is one step of a book of trust on first use. -/
theorem checkServerKey_step (hc : c.Documented) :
    FirstUse.Step (c.book file) (call.presented c (.verify knownHosts) file)
      (c.book (checkServerKey c (.verify knownHosts) file call).2) := by
  obtain ⟨answer, file', h⟩ : ∃ answer file',
      checkServerKey c (.verify knownHosts) file call = (answer, file') := ⟨_, _, rfl⟩
  by_cases hacc : answer = .ok true
  · subst hacc
    have hyes : Accepts c (.verify knownHosts) file call := congrArg Prod.fst h
    rw [KeyCheck.presented, decide_eq_true hyes, h]
    obtain ⟨hmem, rfl⟩ | ⟨hnil, -, hbook⟩ := checkServerKey_accepts hc h
    · exact .known hmem
    · dsimp only
      rw [hbook]
      exact .first hnil
  · have hno : ¬ Accepts c (.verify knownHosts) file call := by
      rw [Accepts, h]
      exact hacc
    rw [KeyCheck.presented, decide_eq_false hno, h]
    obtain rfl := checkServerKey_rejects hc h hacc
    exact .refused

/-- A list of checks is a run of such a book. -/
theorem trace_presentations (hc : c.Documented) (calls : List (KeyCheck Key Disk)) :
    FirstUse.Trace (c.book file) (presentations c (.verify knownHosts) file calls)
      (c.book (fileAfter c (.verify knownHosts) file calls)) := by
  induction calls generalizing file with
  | nil => exact .nil
  | cons call calls ih => exact .cons (checkServerKey_step hc) ih

theorem presented_mem (policy : HostKeyPolicy) (before after : List (KeyCheck Key Disk)) :
    call.presented c policy (fileAfter c policy file before) ∈
      presentations c policy file (before ++ call :: after) := by
  induction before generalizing file with
  | nil => exact List.mem_cons_self
  | cons call' before ih => exact List.mem_cons_of_mem _ ih

theorem fileAfter_append (policy : HostKeyPolicy) (before : List (KeyCheck Key Disk))
    (after : List (KeyCheck Key Disk)) :
    fileAfter c policy file (before ++ after) =
      fileAfter c policy (fileAfter c policy file before) after :=
  List.foldl_append

/-- **A key that is trusted once is the only one**: what is recorded for a host and port before some
checks is all they accept there. -/
theorem mem_of_accepts (hc : c.Documented) {before : List (KeyCheck Key Disk)}
    (hne : c.book file call.site ≠ [])
    (hacc : Accepts c (.verify knownHosts) (fileAfter c (.verify knownHosts) file before) call) :
    call.key ∈ c.book file call.site :=
  ((trace_presentations hc (before ++ [call])).pinned hne).2 _ (presented_mem _ before [])
    rfl (decide_eq_true hacc)

/-- **Trust on first use**: a key is accepted only if it is recorded for its host and port, or
nothing is and the file does not exist or can be read; a call that does not accept leaves the file
alone; no call touches what is recorded for another host and port; and the first key accepted with
nothing recorded is the only one that is accepted afterwards. -/
theorem checkServerKey_trusts_first_use (hc : c.Documented) (knownHosts : PathBuf)
    (file : Option File) (calls : List (KeyCheck Key Disk)) :
    (∀ before call after, calls = before ++ call :: after →
      let file₁ := fileAfter c (.verify knownHosts) file before
      let file₂ := (checkServerKey c (.verify knownHosts) file₁ call).2
      (Accepts c (.verify knownHosts) file₁ call → call.key ∈ c.book file₁ call.site ∨
        (c.book file₁ call.site = [] ∧ call.unreadable = none)) ∧
      (¬ Accepts c (.verify knownHosts) file₁ call → file₂ = file₁) ∧
      ∀ site, site ≠ call.site → c.book file₂ site = c.book file₁ site) ∧
    ∀ before first between later after,
      calls = before ++ first :: between ++ later :: after →
      let file₁ := fileAfter c (.verify knownHosts) file before
      let file₂ := fileAfter c (.verify knownHosts) file (before ++ first :: between)
      c.book file₁ first.site = [] → Accepts c (.verify knownHosts) file₁ first →
      later.site = first.site → Accepts c (.verify knownHosts) file₂ later →
      later.key = first.key := by
  constructor
  · rintro before call after - file₁ file₂
    refine ⟨fun hacc => ?_, fun hrej => ?_, fun site hsite => ?_⟩
    · obtain ⟨hmem, -⟩ | ⟨hnil, hread, -⟩ := checkServerKey_accepts hc (Prod.ext hacc rfl)
      · exact Or.inl hmem
      · exact Or.inr ⟨hnil, hread⟩
    · exact checkServerKey_rejects hc rfl hrej
    · exact (checkServerKey_step hc).frame hsite
  · rintro before first between later after - file₁ file₂ hnil hfirst hsite hlater
    obtain ⟨hmem, -⟩ | ⟨-, -, hbook⟩ := checkServerKey_accepts hc (Prod.ext hfirst rfl)
    · rw [hnil] at hmem
      cases hmem
    have hone : c.book (checkServerKey c (.verify knownHosts) file₁ first).2 later.site =
        [first.key] := by
      rw [hbook, hsite, Function.update_self]
    have hfile : file₂ = fileAfter c (.verify knownHosts)
        (checkServerKey c (.verify knownHosts) file₁ first).2 between :=
      fileAfter_append _ before (first :: between)
    rw [hfile] at hlater
    have hmem := mem_of_accepts hc (hone ▸ List.cons_ne_nil _ _) hlater
    rw [hone] at hmem
    exact List.mem_singleton.1 hmem

/-- The entries of a list for one host and port. -/
def entriesFor {α : Type} (entry : α → String × ℕ × String × ℕ) (host : String) (port : ℕ)
    (l : List α) : List α :=
  l.filter fun a => (entry a).1 == host && (entry a).2.1 == port

/-- A library that keeps a file as the list of its entries, a key being its algorithm and its value,
on a disk that takes a new entry or not. -/
def listRussh : Russh (List (String × ℕ × String × ℕ)) (String × ℕ) Bool where
  recorded f host port := (entriesFor id host port f).map fun entry => entry.2.2
  knownHostKeysPath f host port :=
    .ok ((entriesFor Prod.fst host port ((f.getD []).zipIdx 1)).map fun line =>
      (line.2, line.1.2.2))
  checkKnownHostsPath f host port key :=
    let lines := entriesFor Prod.fst host port ((f.getD []).zipIdx 1)
    match lines.find? fun line => line.1.2.2.1 == key.1 && line.1.2.2 != key with
    | some line => .error (.keyChanged line.2)
    | none => .ok (lines.any fun line => line.1.2.2 == key)
  learnKnownHostsPath disk f host port key :=
    if disk then (.ok (), some (f.getD [] ++ [(host, port, key)]))
    else (.error [.lit "No space left on device"], f)

theorem map_entriesFor_zipIdx (host : String) (port : ℕ) (f : List (String × ℕ × String × ℕ)) :
    (entriesFor Prod.fst host port (f.zipIdx 1)).map (fun line => line.1.2.2) =
      listRussh.recorded f host port := by
  have hfst : (entriesFor Prod.fst host port (f.zipIdx 1)).map Prod.fst =
      entriesFor id host port f := by
    conv_rhs => rw [← List.zipIdx_map_fst 1 f, entriesFor, List.filter_map]
    rfl
  calc (entriesFor Prod.fst host port (f.zipIdx 1)).map (fun line => line.1.2.2)
      = ((entriesFor Prod.fst host port (f.zipIdx 1)).map Prod.fst).map fun entry => entry.2.2 := by
        rw [List.map_map]
        rfl
    _ = listRussh.recorded f host port := by rw [hfst]; rfl

theorem listRussh_keysIn (f : Option (List (String × ℕ × String × ℕ))) (host : String) (port : ℕ) :
    listRussh.keysIn f host port = listRussh.recorded (f.getD []) host port := by
  cases f <;> rfl

theorem listRussh_documented : listRussh.Documented where
  keys_opened f host port ks h := by
    obtain rfl := Except.ok.inj h
    rw [List.map_map]
    exact map_entriesFor_zipIdx host port f
  check_opened f host port key h := by
    dsimp only [listRussh, Option.getD_some] at h
    split at h
    · cases h
    · obtain ⟨line, hline, hkey⟩ := List.any_eq_true.1 (Except.ok.inj h)
      rw [← map_entriesFor_zipIdx]
      exact List.mem_map.2 ⟨line, hline, beq_iff_eq.1 hkey⟩
  check_closed _ _ _ := rfl
  learn_ok disk f host port key f' h := by
    cases disk with
    | false => cases h
    | true =>
      obtain rfl := congrArg Prod.snd h
      simp only [listRussh_keysIn]
      refine ⟨by simp [listRussh, entriesFor], fun host' port' hne => ?_⟩
      have hother : (host == host' && port == port') = false := by
        rw [Bool.and_eq_false_iff, beq_eq_false_iff_ne, beq_eq_false_iff_ne]
        by_contra hboth
        push Not at hboth
        exact hne (Prod.ext hboth.1.symm hboth.2.symm)
      simp [listRussh, entriesFor, hother]
  learn_error disk f host port key e f' h := by
    cases disk with
    | false => exact (congrArg Prod.snd h).symm
    | true => cases h

/-- A first key is trusted and recorded; one of another algorithm is refused. -/
theorem checkServerKey_trusts_first_use_two_keys :
    let first : KeyCheck (String × ℕ) Bool :=
      ⟨"example.test", 2222, ("ssh-ed25519", 1), .ok (), none, true⟩
    let later : KeyCheck (String × ℕ) Bool :=
      ⟨"example.test", 2222, ("ecdsa-sha2-nistp256", 2), .ok (), none, true⟩
    Accepts listRussh (.verify "known_hosts") none first ∧
    ¬ Accepts listRussh (.verify "known_hosts")
      (fileAfter listRussh (.verify "known_hosts") none [first]) later := by
  intro first later
  have hfirst : Accepts listRussh (.verify "known_hosts") none first := by decide +kernel
  refine ⟨hfirst, fun hlater => ?_⟩
  have hkey : later.key = first.key :=
    (checkServerKey_trusts_first_use listRussh_documented "known_hosts" none [first, later]).2
      [] first [] later [] rfl rfl hfirst rfl hlater
  exact absurd hkey (by decide)

end LiosTunnel.Protocols
