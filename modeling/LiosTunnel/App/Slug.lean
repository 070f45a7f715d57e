import LiosTunnel.Lib.Split

/-!
# The files profiles are named by

`_slug` of `profile_writer.dart` makes a file name of a profile's name, and `duplicate` looks for a
name whose file is free, with no bound on how often it asks. A Dart string is a list of UTF-16 code
units, and a name is any list of them.

* `slug`, `copyName`, `freeName`: the file name, the names tried, the search.
* `slug_legal`: what a slug is made of.
* `slug_copyName_injective`: no two of the names tried have one file.
* `freeName_ends`: so the search ends in any directory with finitely many files.
-/

namespace LiosTunnel.App

/-! ## Strings -/

/-- A Dart string, by its code units. -/
abbrev Units := List UInt16

/-- The code unit of an ASCII character. -/
def unit (c : Char) : UInt16 := c.toNat.toUInt16

/-- The code units of an ASCII text. -/
def units (s : String) : Units := s.toList.map unit

/-- `'$n'`. -/
def decimal (n : ℕ) : Units := (Nat.toDigits 10 n).map unit

/-- What `String.trim` takes off. -/
def isWhitespace (c : UInt16) : Bool :=
  (0x09 ≤ c && c ≤ 0x0D) || c = 0x20 || c = 0x85 || c = 0xA0 || c = 0x1680 ||
    (0x2000 ≤ c && c ≤ 0x200A) || c = 0x2028 || c = 0x2029 || c = 0x202F || c = 0x205F ||
    c = 0x3000 || c = 0xFEFF

/-- ASCII without the upper-case letters. -/
def IsPlain (c : UInt16) : Prop := c < 0x80 ∧ (c < 0x41 ∨ 0x5A < c)

instance (c : UInt16) : Decidable (IsPlain c) := inferInstanceAs (Decidable (_ ∧ _))

/-- `String.toLowerCase`: ASCII has no lower case but that of its upper-case letters, and a space
parts what decides the case of the characters on its two sides. -/
structure LowersCase (toLowerCase : Units → Units) : Prop where
  plain : ∀ s, (∀ c ∈ s, IsPlain c) → toLowerCase s = s
  space : ∀ s t, (∀ c ∈ t, IsPlain c) →
    toLowerCase (s ++ unit ' ' :: t) = toLowerCase (s ++ [unit ' ']) ++ t

namespace Reference

/-- The lower case of ASCII. -/
def toLowerCase (s : Units) : Units := s.map fun c => if 0x41 ≤ c ∧ c ≤ 0x5A then c + 0x20 else c

theorem lowersCase : LowersCase toLowerCase := by
  have hplain : ∀ s, (∀ c ∈ s, IsPlain c) → toLowerCase s = s := by
    intro s h
    refine (List.map_congr_left (g := id) fun c hc => if_neg ?_).trans (List.map_id s)
    obtain ⟨-, hc⟩ := h c hc
    rintro ⟨hlow, hhigh⟩
    obtain hc | hc := hc
    · exact absurd hlow (UInt16.not_le.2 hc)
    · exact absurd hhigh (UInt16.not_le.2 hc)
  refine ⟨hplain, fun s t h => ?_⟩
  have htail : toLowerCase t = t := hplain t h
  unfold toLowerCase at htail ⊢
  rw [List.map_append, List.map_append, List.map_cons, htail]
  simp

end Reference

/-! ## The slug -/

/-- `[a-z0-9]`. -/
def isKept (c : UInt16) : Bool :=
  (unit 'a' ≤ c && c ≤ unit 'z') || (unit '0' ≤ c && c ≤ unit '9')

/-- `replaceAll(RegExp(r'[^a-z0-9]+'), '-')`; the flag says that a run has begun. -/
def collapse : Bool → Units → Units
  | _, [] => []
  | inRun, c :: s =>
    if isKept c then c :: collapse false s
    else if inRun then collapse true s
    else unit '-' :: collapse true s

variable (toLowerCase : Units → Units)

/-- `_slug`. -/
def slug (name : Units) : Units :=
  let cleaned := Split.trim (· = unit '-')
    (collapse false (toLowerCase (Split.trim isWhitespace name)))
  if cleaned.isEmpty then units "profile" else cleaned

/-- What a slug may consist of. -/
def IsLegal (c : UInt16) : Prop := isKept c = true ∨ c = unit '-'

theorem mem_collapse {inRun : Bool} {s : Units} {c : UInt16} (h : c ∈ collapse inRun s) :
    IsLegal c := by
  induction s generalizing inRun with
  | nil => cases h
  | cons d s ih =>
    rw [collapse] at h
    split at h
    · next hd =>
      obtain rfl | h := List.mem_cons.1 h
      · exact .inl hd
      · exact ih h
    · split at h
      · exact ih h
      · obtain rfl | h := List.mem_cons.1 h
        · exact .inr rfl
        · exact ih h

theorem mem_of_mem_trim {p : UInt16 → Bool} {s : Units} {c : UInt16} (h : c ∈ Split.trim p s) :
    c ∈ s :=
  (List.dropWhile_suffix p).subset ((List.rdropWhile_prefix p _).subset h)

/-- **A slug is not empty and is made of letters, digits and hyphens.** -/
theorem slug_legal (name : Units) :
    slug toLowerCase name ≠ [] ∧ ∀ c ∈ slug toLowerCase name, IsLegal c := by
  unfold slug
  dsimp only
  split
  · exact ⟨by decide, List.forall_iff_forall_mem.1 (by unfold IsLegal; decide)⟩
  · next hne => exact ⟨fun h => hne (by rw [h]; rfl), fun c hc => mem_collapse (mem_of_mem_trim hc)⟩

/-! ## The names of copies -/

/-- The names tried for a copy of `name`. -/
def copyName (name : Units) : ℕ → Units
  | 0 => name ++ units " copy"
  | i + 1 => name ++ units " copy " ++ decimal (i + 2)

/-- What a copy's name ends in, past the space. -/
def copySuffix : ℕ → Units
  | 0 => units "copy"
  | i + 1 => units "copy " ++ decimal (i + 2)

/-- What its slug ends in. -/
def slugSuffix : ℕ → Units
  | 0 => []
  | i + 1 => unit '-' :: decimal (i + 2)

theorem copyName_eq (name : Units) (i : ℕ) :
    copyName name i = name ++ unit ' ' :: copySuffix i := by
  cases i with
  | zero => rfl
  | succ i => exact List.append_assoc name (units " copy ") _

theorem isDigit_cases {d : Char} (h : d.isDigit = true) :
    d ∈ ['0', '1', '2', '3', '4', '5', '6', '7', '8', '9'] := by
  have hle : 48 ≤ d.val.toNat ∧ d.val.toNat ≤ 57 := by
    simpa [Char.isDigit, UInt32.le_iff_toNat_le] using h
  have hd : d = Char.ofNat d.val.toNat := (Char.ofNat_toNat d).symm
  generalize d.val.toNat = n at hle hd
  obtain ⟨hlow, hhigh⟩ := hle
  subst hd
  interval_cases n <;> decide

/-- What the code unit of a digit is to the functions below. -/
theorem unit_digit : ∀ d ∈ ['0', '1', '2', '3', '4', '5', '6', '7', '8', '9'],
    isKept (unit d) = true ∧ IsPlain (unit d) ∧ isWhitespace (unit d) = false ∧
      unit d ≠ unit '-' ∧ Char.ofNat (unit d).toNat = d :=
  List.forall_iff_forall_mem.1 (by decide)

theorem of_mem_decimal {n : ℕ} {c : UInt16} (h : c ∈ decimal n) :
    isKept c = true ∧ IsPlain c ∧ isWhitespace c = false ∧ c ≠ unit '-' := by
  obtain ⟨d, hd, rfl⟩ := List.mem_map.1 h
  obtain ⟨hkept, hplain, hspace, hhyphen, -⟩ :=
    unit_digit d (isDigit_cases (Nat.isDigit_of_mem_toDigits (by decide) le_rfl hd))
  exact ⟨hkept, hplain, hspace, hhyphen⟩

theorem decimal_injective : Function.Injective decimal := by
  intro i j h
  have hread (n : ℕ) : (decimal n).map (fun c => Char.ofNat c.toNat) = Nat.toDigits 10 n := by
    rw [decimal, List.map_map]
    refine (List.map_congr_left fun d hd => ?_).trans (List.map_id _)
    exact (unit_digit d
      (isDigit_cases (Nat.isDigit_of_mem_toDigits (by decide) le_rfl hd))).2.2.2.2
  calc i = Nat.ofDigitChars 10 (Nat.toDigits 10 i) 0 := Nat.ofDigitChars_ten_toDigits.symm
    _ = Nat.ofDigitChars 10 (Nat.toDigits 10 j) 0 := by rw [← hread, ← hread, h]
    _ = j := Nat.ofDigitChars_ten_toDigits

/-- A nonempty text as it ends. -/
theorem exists_decimal_eq (n : ℕ) : ∃ s c, decimal n = s ++ [c] := by
  have hne : decimal n ≠ [] := fun h => Nat.toDigits_ne_nil (List.map_eq_nil_iff.1 h)
  exact ⟨_, _, (List.dropLast_append_getLast hne).symm⟩

/-- A copy's suffix begins with a letter and ends in a letter or a digit. -/
theorem copySuffix_ends (i : ℕ) : ∃ s c, copySuffix i = s ++ [c] ∧ isWhitespace c = false := by
  cases i with
  | zero => exact ⟨units "cop", unit 'y', rfl, by decide⟩
  | succ i =>
    obtain ⟨s, c, hs⟩ := exists_decimal_eq (i + 2)
    refine ⟨units "copy " ++ s, c, by rw [copySuffix, hs, List.append_assoc], ?_⟩
    exact (of_mem_decimal (hs ▸ List.mem_append_right s List.mem_cons_self)).2.2.1

theorem slugSuffix_ends (i : ℕ) :
    ∃ s c, units "copy" ++ slugSuffix i = s ++ [c] ∧ c ≠ unit '-' := by
  cases i with
  | zero => exact ⟨units "cop", unit 'y', rfl, by decide⟩
  | succ i =>
    obtain ⟨s, c, hs⟩ := exists_decimal_eq (i + 2)
    refine ⟨units "copy-" ++ s, c, by rw [slugSuffix, hs]; rfl, ?_⟩
    exact (of_mem_decimal (hs ▸ List.mem_append_right s List.mem_cons_self)).2.2.2

theorem copySuffix_plain {i : ℕ} {c : UInt16} (h : c ∈ copySuffix i) : IsPlain c := by
  have hletters : ∀ c ∈ units "copy ", IsPlain c := List.forall_iff_forall_mem.1 (by decide)
  cases i with
  | zero => exact hletters c (List.mem_append_left [unit ' '] h)
  | succ i =>
    obtain h | h := List.mem_append.1 h
    · exact hletters c h
    · exact (of_mem_decimal h).2.1

theorem collapse_of_kept {inRun : Bool} {s : Units} (h : ∀ c ∈ s, isKept c = true) :
    collapse inRun s = s := by
  induction s generalizing inRun with
  | nil => rw [collapse]
  | cons c s ih =>
    rw [collapse, if_pos (h c List.mem_cons_self), ih fun d hd => h d (List.mem_cons_of_mem c hd)]

theorem collapse_append {c : UInt16} (hc : isKept c = true) (inRun : Bool) (s t : Units) :
    collapse inRun (s ++ c :: t) = collapse inRun s ++ c :: collapse false t := by
  induction s generalizing inRun with
  | nil => exact if_pos hc
  | cons d s ih =>
    rw [List.cons_append, collapse, collapse, ih, ih]
    split
    · rfl
    · split <;> rfl

/-- What a copy's suffix becomes in its slug. -/
theorem copySuffix_eq (i : ℕ) :
    ∃ t, copySuffix i = unit 'c' :: t ∧ collapse false t = units "opy" ++ slugSuffix i := by
  cases i with
  | zero => exact ⟨units "opy", rfl, by decide⟩
  | succ i =>
    refine ⟨units "opy " ++ decimal (i + 2), rfl, ?_⟩
    calc collapse false (units "opy " ++ decimal (i + 2))
        = units "opy-" ++ collapse true (decimal (i + 2)) := rfl
      _ = units "opy-" ++ decimal (i + 2) := by
          rw [collapse_of_kept fun c hc => (of_mem_decimal hc).1]

theorem trim_copyName (name : Units) (i : ℕ) :
    Split.trim isWhitespace (copyName name i) =
      (name ++ [unit ' ']).dropWhile isWhitespace ++ copySuffix i := by
  obtain ⟨s, c, hs, hc⟩ := copySuffix_ends i
  obtain ⟨t, ht, -⟩ := copySuffix_eq i
  rw [copyName_eq, ht, ← List.singleton_append, ← List.append_assoc]
  exact Split.trim_append _ (by decide) (ht ▸ hs) hc

/-- The part of a name that is trimmed at its front is empty or keeps the space. -/
theorem dropWhile_space (name : Units) :
    (name ++ [unit ' ']).dropWhile isWhitespace = [] ∨
      ∃ s, (name ++ [unit ' ']).dropWhile isWhitespace = s ++ [unit ' '] := by
  rw [List.dropWhile_append]
  split
  · exact .inl (by decide)
  · exact .inr ⟨_, rfl⟩

variable {toLowerCase}

/-- The slugs of a name's copies differ in their ends alone. -/
theorem slug_copyName (hlower : LowersCase toLowerCase) (name : Units) :
    ∃ s, ∀ i, slug toLowerCase (copyName name i) = s ++ units "copy" ++ slugSuffix i := by
  obtain ⟨front, hfront⟩ : ∃ front, ∀ i,
      toLowerCase (Split.trim isWhitespace (copyName name i)) = front ++ copySuffix i := by
    simp only [trim_copyName]
    obtain h | ⟨s, h⟩ := dropWhile_space name
    · refine ⟨[], fun i => ?_⟩
      rw [h]
      exact hlower.plain _ fun c hc => copySuffix_plain hc
    · refine ⟨toLowerCase (s ++ [unit ' ']), fun i => ?_⟩
      rw [h, List.append_assoc]
      exact hlower.space s _ fun c hc => copySuffix_plain hc
  refine ⟨(collapse false front).dropWhile (· = unit '-'), fun i => ?_⟩
  obtain ⟨t, ht, hcollapse⟩ := copySuffix_eq i
  obtain ⟨u, c, hu, hc⟩ := slugSuffix_ends i
  have hcleaned : Split.trim (· = unit '-') (collapse false (front ++ copySuffix i)) =
      (collapse false front).dropWhile (· = unit '-') ++ (units "copy" ++ slugSuffix i) := by
    rw [ht, collapse_append (by decide), hcollapse]
    exact Split.trim_append _ (by decide) hu (by simpa using hc)
  rw [slug, hfront, hcleaned, if_neg (by simp [units]), List.append_assoc]

/-- **No two copies of a name have one slug.** -/
theorem slug_copyName_injective (hlower : LowersCase toLowerCase) (name : Units) :
    Function.Injective fun i => slug toLowerCase (copyName name i) := by
  obtain ⟨s, hs⟩ := slug_copyName hlower name
  intro i j h
  dsimp only at h
  rw [hs, hs] at h
  have hsuffix : slugSuffix i = slugSuffix j := List.append_cancel_left h
  cases i with
  | zero =>
    cases j with
    | zero => rfl
    | succ j => cases hsuffix
  | succ i =>
    cases j with
    | zero => cases hsuffix
    | succ j =>
      have hdecimal : i + 2 = j + 2 := decimal_injective (List.cons.inj hsuffix).2
      omega

/-! ## The search -/

variable (toLowerCase) (existsSync : Units → Bool) (directory : Units)

/-- The file of the profile that has this name. -/
def documentPath (name : Units) : Units :=
  directory ++ unit '/' :: (slug toLowerCase name ++ units ".json")

/-- `checkNameFree`, with the text of its `StateError`. -/
def checkNameFree (name : Units) (replacingPath : Option Units) : Except Units Unit :=
  let path := documentPath toLowerCase directory name
  if existsSync path ∧ some path ≠ replacingPath then
    .error (units "a different profile is already called \"" ++ name ++ units "\"")
  else .ok ()

/-- The loop of `duplicate` from a name on, for so many rounds. -/
def search (source : Units) : ℕ → Units → ℕ → Option Units
  | 0, _, _ => none
  | rounds + 1, name, n =>
    match checkNameFree toLowerCase existsSync directory name none with
    | .ok _ => some name
    | .error _ => search source rounds (source ++ units " copy " ++ decimal n) (n + 1)

/-- The name `duplicate` settles on. -/
def freeName (source : Units) (rounds : ℕ) : Option Units :=
  search toLowerCase existsSync directory source rounds (source ++ units " copy") 2

/-- The files that stand in a directory. -/
def entries : Set Units :=
  {name | unit '/' ∉ name ∧ existsSync (directory ++ unit '/' :: name) = true}

variable {toLowerCase existsSync directory}

theorem checkNameFree_eq_ok {name : Units} :
    checkNameFree toLowerCase existsSync directory name none = .ok () ↔
      existsSync (documentPath toLowerCase directory name) = false := by
  unfold checkNameFree
  dsimp only
  cases existsSync (documentPath toLowerCase directory name) with
  | false => simp
  | true => simp

/-- The search passes over the names whose file is there and stops at the first whose is not. -/
theorem search_eq {source : Units} {n : ℕ}
    (hfree : existsSync (documentPath toLowerCase directory (copyName source n)) = false) :
    ∀ k i, i + k = n →
      (∀ j, i ≤ j → j < n →
        existsSync (documentPath toLowerCase directory (copyName source j)) = true) →
      ∀ rounds, k < rounds →
        search toLowerCase existsSync directory source rounds (copyName source i) (i + 2) =
          some (copyName source n) := by
  intro k
  induction k with
  | zero =>
    rintro i hi - rounds hrounds
    obtain ⟨rounds, rfl⟩ := Nat.exists_eq_add_one_of_ne_zero hrounds.ne'
    rw [Nat.add_zero] at hi
    rw [hi, search, checkNameFree_eq_ok.2 hfree]
  | succ k ih =>
    intro i hik htaken rounds hrounds
    obtain ⟨rounds, rfl⟩ :=
      Nat.exists_eq_add_one_of_ne_zero (Nat.ne_of_gt (k.succ_pos.trans hrounds))
    have hnext := ih (i + 1) (by omega) (fun j hij hj => htaken j (by omega) hj) rounds (by omega)
    have hthere := htaken i le_rfl (by omega)
    rw [search]
    split
    · next hok =>
      rw [checkNameFree_eq_ok.1 hok] at hthere
      cases hthere
    · exact hnext

theorem slash_notMem_slug (name : Units) : unit '/' ∉ slug toLowerCase name ++ units ".json" := by
  intro h
  obtain h | h := List.mem_append.1 h
  · obtain h | h := (slug_legal toLowerCase name).2 _ h
    · cases h
    · revert h
      decide
  · revert h
    decide

/-- Among the copies of a name there is one whose file is not there. -/
theorem exists_free (hlower : LowersCase toLowerCase) (hfin : (entries existsSync directory).Finite)
    (source : Units) :
    ∃ n, existsSync (documentPath toLowerCase directory (copyName source n)) = false := by
  by_contra! hall
  have hinjective : Function.Injective fun i =>
      slug toLowerCase (copyName source i) ++ units ".json" := fun i j h =>
    slug_copyName_injective hlower source (List.append_cancel_right h)
  refine Set.infinite_of_injective_forall_mem hinjective (fun i => ?_) hfin
  have hthere := hall i
  rw [ne_eq, Bool.not_eq_false] at hthere
  exact ⟨slash_notMem_slug _, hthere⟩

/-- **The search for a free name ends**, in any directory with finitely many files and for any name.
The slugs of the names it tries are all different, and no slug leads out of the directory. -/
theorem freeName_ends (hlower : LowersCase toLowerCase)
    (hfin : (entries existsSync directory).Finite) (source : Units) :
    (Function.Injective fun i => slug toLowerCase (copyName source i)) ∧
      (∃ n, existsSync (documentPath toLowerCase directory (copyName source n)) = false ∧
        (∀ i < n, existsSync (documentPath toLowerCase directory (copyName source i)) = true) ∧
        ∀ rounds, n < rounds →
          freeName toLowerCase existsSync directory source rounds = some (copyName source n)) ∧
      ∀ name, slug toLowerCase name ≠ [] ∧ (∀ c ∈ slug toLowerCase name, IsLegal c) ∧
        unit '/' ∉ slug toLowerCase name ++ units ".json" := by
  classical
  refine ⟨slug_copyName_injective hlower source, ?_, fun name =>
    ⟨(slug_legal toLowerCase name).1, (slug_legal toLowerCase name).2, slash_notMem_slug name⟩⟩
  have hexists := exists_free hlower hfin source
  have htaken : ∀ i < Nat.find hexists,
      existsSync (documentPath toLowerCase directory (copyName source i)) = true := fun i hi => by
    simpa using Nat.find_min hexists hi
  refine ⟨Nat.find hexists, Nat.find_spec hexists, htaken, fun rounds hrounds => ?_⟩
  exact search_eq (Nat.find_spec hexists) _ 0 (Nat.zero_add _) (fun j _ hj => htaken j hj) rounds
    hrounds

/-- A copy of `Home VPS` beside `home-vps-copy`. -/
theorem freeName_ends_home :
    ∃ n, ∀ rounds, n < rounds →
      freeName Reference.toLowerCase (· = units "/p/home-vps-copy.json") (units "/p")
        (units "Home VPS") rounds = some (copyName (units "Home VPS") n) := by
  have hfin : (entries (· = units "/p/home-vps-copy.json") (units "/p")).Finite := by
    refine (Set.finite_singleton (units "home-vps-copy.json")).subset ?_
    rintro name ⟨-, h⟩
    exact (List.cons.inj (List.append_cancel_left (of_decide_eq_true h))).2
  obtain ⟨-, ⟨n, -, -, hn⟩, -⟩ := freeName_ends Reference.lowersCase hfin (units "Home VPS")
  exact ⟨n, hn⟩

end LiosTunnel.App
