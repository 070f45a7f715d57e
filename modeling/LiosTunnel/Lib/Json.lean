import Mathlib.Tactic

/-!
# JSON, written over several lines

Values, and their text with a line for each item and two blanks a level. Numbers are natural. What
is written can be told from what follows it, so one document never begins another.

* `Json`, `Json.pretty`: the values and their text.
* `unescape`: a character is read back from what it is written as.
* `Json.pretty_append`: **a text is of one value**, and ends where the value does.
* `Json.eq_of_prefix`: no object's text begins another's.
-/

/-- A JSON value. -/
inductive Json
  | null
  | bool (b : Bool)
  | number (n : ℕ)
  | text (s : List Char)
  | array (items : List Json)
  | object (fields : List (List Char × Json))

namespace Json

/-! ## Texts -/

/-- The characters with an escape of one letter. -/
def ESCAPES : List (Char × Char) :=
  [('\x22', '\x22'), ('\\', '\\'), ('\x08', 'b'), ('\x0c', 'f'), ('\n', 'n'),
    ('\r', 'r'), ('\t', 't')]

def HEX : List Char := "0123456789abcdef".toList

/-- A character of a text. -/
def escape (c : Char) : List Char :=
  match ESCAPES.lookup c with
  | some letter => ['\\', letter]
  | none =>
    if c.toNat < 0x20 then
      ['\\', 'u', '0', '0', HEX.getD (c.toNat / 16) '0', HEX.getD (c.toNat % 16) '0']
    else [c]

/-- The first character of a text, and what follows it. -/
def unescape : List Char → Option (Char × List Char)
  | '\\' :: 'u' :: '0' :: '0' :: a :: b :: rest =>
    some (.ofNat (HEX.idxOf a * 16 + HEX.idxOf b), rest)
  | '\\' :: letter :: rest => ((ESCAPES.find? (·.2 = letter)).map (·.1, rest))
  | c :: rest => some (c, rest)
  | [] => none

def quoted (s : List Char) : List Char := '\x22' :: s.flatMap escape ++ ['\x22']

/-! ## Values -/

/-- The beginning of a line. -/
def newline (depth : ℕ) : List Char := '\n' :: List.replicate (2 * depth) ' '

/-- What comes before an item. -/
def between (first : Bool) (depth : ℕ) : List Char :=
  (if first then [] else [',']) ++ newline (depth + 1)

/-- What comes before the bracket that closes. -/
def closing (first : Bool) (depth : ℕ) : List Char := if first then [] else newline depth

mutual

/-- A value's text at a depth. -/
def pretty : Json → ℕ → List Char
  | null, _ => "null".toList
  | bool b, _ => (if b then "true" else "false").toList
  | number n, _ => Nat.toDigits 10 n
  | text s, _ => quoted s
  | array vs, depth => '[' :: items vs true depth ++ [']']
  | object fs, depth => '\x7b' :: fields fs true depth ++ ['\x7d']

/-- The items of an array, up to the bracket that closes it. -/
def items : List Json → Bool → ℕ → List Char
  | [], first, depth => closing first depth
  | v :: vs, first, depth =>
    between first depth ++ (v.pretty (depth + 1) ++ items vs false depth)

/-- The fields of an object, up to the brace that closes it. -/
def fields : List (List Char × Json) → Bool → ℕ → List Char
  | [], first, depth => closing first depth
  | (name, v) :: fs, first, depth =>
    between first depth ++
      (quoted name ++ (": ".toList ++ (v.pretty (depth + 1) ++ fields fs false depth)))

end

example : (array [number 20, object [("a".toList, null)], text "\n".toList]).pretty 0 =
    "[\n  20,\n  \x7b\n    \"a\": null\n  \x7d,\n  \"\\n\"\n]".toList := by
  decide +kernel

/-! ## What is written is read back -/

theorem getD_hex : ∀ d < 16, HEX.idxOf (HEX.getD d '0') = d := by decide

theorem unescape_escape (c : Char) (x : List Char) : unescape (escape c ++ x) = some (c, x) := by
  unfold escape
  split
  · next letter hlookup =>
    have htable : ∀ e ∈ ESCAPES, unescape ('\\' :: e.2 :: x) = some (e.1, x) := by
      simp [ESCAPES, unescape]
    obtain ⟨l, l', htable', -⟩ := List.lookup_eq_some_iff.1 hlookup
    exact htable (c, letter) (by simp [htable'])
  · next hplain =>
    split
    · next hcontrol =>
      have hdigits : c.toNat / 16 * 16 + c.toNat % 16 = c.toNat := by omega
      change some (Char.ofNat _, x) = _
      rw [getD_hex _ (by omega), getD_hex _ (by omega), hdigits, Char.ofNat_toNat]
    · have hbackslash : c ≠ '\\' := by
        rintro rfl
        cases hplain
      unfold unescape
      split <;> simp_all

theorem escape_append {c c' : Char} {x y : List Char} (h : escape c ++ x = escape c' ++ y) :
    c = c' ∧ x = y := by
  have hread : some (c, x) = some (c', y) := by rw [← unescape_escape, h, unescape_escape]
  exact Prod.mk.inj (Option.some.inj hread)

/-- A quote is escaped. -/
theorem escape_append_ne (c : Char) (x y : List Char) : escape c ++ x ≠ '\x22' :: y := by
  intro h
  have hread : some (c, x) = some ('\x22', y) := by
    rw [← unescape_escape, h]
    rfl
  obtain rfl := (Prod.mk.inj (Option.some.inj hread)).1
  cases h

/-- A text ends at its quote. -/
theorem quoted_append {s s' x y : List Char} (h : quoted s ++ x = quoted s' ++ y) :
    s = s' ∧ x = y := by
  simp only [quoted, List.cons_append, List.append_assoc, List.nil_append, List.cons.injEq,
    true_and] at h
  induction s generalizing s' with
  | nil =>
    cases s' with
    | nil => exact ⟨rfl, (List.cons.inj h).2⟩
    | cons c' s' =>
      rw [List.flatMap_cons, List.append_assoc] at h
      exact absurd h.symm (escape_append_ne c' _ _)
  | cons c s ih =>
    cases s' with
    | nil =>
      rw [List.flatMap_cons, List.append_assoc] at h
      exact absurd h (escape_append_ne c _ _)
    | cons c' s' =>
      simp only [List.flatMap_cons, List.append_assoc] at h
      obtain ⟨rfl, hrest⟩ := escape_append h
      obtain ⟨rfl, rfl⟩ := ih hrest
      exact ⟨rfl, rfl⟩

/-- What follows a number is not one of its digits. -/
def Ends (x : List Char) : Prop := ∀ c ∈ x.head?, c.isDigit = false

theorem isDigit_toDigits (n : ℕ) : ∀ c ∈ Nat.toDigits 10 n, c.isDigit = true :=
  fun _ hc => Nat.isDigit_of_mem_toDigits (by decide) (by decide) hc

theorem toDigits_append {n n' : ℕ} {x y : List Char} (hx : Ends x) (hy : Ends y)
    (h : Nat.toDigits 10 n ++ x = Nat.toDigits 10 n' ++ y) : n = n' ∧ x = y := by
  have hrest {x : List Char} (hx : Ends x) : x.takeWhile Char.isDigit = [] := by
    cases x with
    | nil => rfl
    | cons c x => rw [List.takeWhile_cons_of_neg (by simp [hx c rfl])]
  have hwhile (n : ℕ) {x : List Char} (hx : Ends x) :
      (Nat.toDigits 10 n ++ x).takeWhile Char.isDigit = Nat.toDigits 10 n := by
    rw [List.takeWhile_append_of_pos (isDigit_toDigits n), hrest hx, List.append_nil]
  have heq : Nat.toDigits 10 n = Nat.toDigits 10 n' := by rw [← hwhile n hx, h, hwhile n' hy]
  refine ⟨?_, List.append_cancel_left (heq ▸ h)⟩
  rw [← Nat.ofDigitChars_ten_toDigits (n := n), heq, Nat.ofDigitChars_ten_toDigits]

/-! ## Values -/

/-- The kind of value that a text is of, by its first character. -/
def kindOf (c : Char) : ℕ :=
  if c.isDigit then 0 else if c = 'n' then 1 else if c = 't' ∨ c = 'f' then 2
  else if c = '\x22' then 3 else if c = '[' then 4 else 5

def kind : Json → ℕ
  | number _ => 0
  | null => 1
  | bool _ => 2
  | text _ => 3
  | array _ => 4
  | object _ => 5

theorem kindOf_pretty (v : Json) (depth : ℕ) (x : List Char) :
    (v.pretty depth ++ x).head?.map kindOf = some v.kind := by
  cases v with
  | number n =>
    obtain ⟨c, cs, hcs⟩ : ∃ c cs, Nat.toDigits 10 n = c :: cs :=
      List.exists_cons_of_ne_nil Nat.toDigits_ne_nil
    have hc : c.isDigit = true := isDigit_toDigits n c (by rw [hcs]; exact List.mem_cons_self)
    simp [pretty, hcs, kindOf, hc, kind]
  | bool b => cases b <;> rfl
  | null => rfl
  | text s => rfl
  | array vs => simp [pretty, kindOf, kind]
  | object fs => simp [pretty, kindOf, kind]

/-- What follows an item begins with a comma or with the end of the line. -/
theorem ends_items (vs : List Json) (depth : ℕ) (x : List Char) :
    Ends (items vs false depth ++ x) := by
  cases vs <;> simp [Ends, items, closing, between, newline]

theorem ends_fields (fs : List (List Char × Json)) (depth : ℕ) (x : List Char) :
    Ends (fields fs false depth ++ x) := by
  rcases fs with _ | ⟨⟨name, v⟩, fs⟩ <;> simp [Ends, fields, closing, between, newline]

/-- Where the items are over is told by what is there. -/
theorem between_ne_closing (first : Bool) (depth : ℕ) {close : Char} (hclose : close ≠ '\n')
    (x y : List Char) : between first depth ++ x ≠ closing first depth ++ close :: y := by
  cases first with
  | true =>
    intro h
    exact hclose (List.cons.inj h).1.symm
  | false => simp [between, closing, newline]

mutual

/-- **A text is of one value**, and tells where the value ends. -/
theorem pretty_append {x y : List Char} (hx : Ends x) (hy : Ends y) : ∀ (v v' : Json) (depth : ℕ),
    v.pretty depth ++ x = v'.pretty depth ++ y → v = v' ∧ x = y
  | null, v', depth, h => by
    have hkind := kindOf_pretty null depth x
    rw [h, kindOf_pretty] at hkind
    cases v' <;> simp [kind] at hkind
    simpa [pretty] using h
  | bool b, v', depth, h => by
    have hkind := kindOf_pretty (bool b) depth x
    rw [h, kindOf_pretty] at hkind
    cases v' <;> simp [kind] at hkind
    next b' => cases b <;> cases b' <;> simp_all [pretty]
  | number n, v', depth, h => by
    have hkind := kindOf_pretty (number n) depth x
    rw [h, kindOf_pretty] at hkind
    cases v' <;> simp [kind] at hkind
    simpa [pretty] using toDigits_append hx hy h
  | text s, v', depth, h => by
    have hkind := kindOf_pretty (text s) depth x
    rw [h, kindOf_pretty] at hkind
    cases v' <;> simp [kind] at hkind
    simpa [pretty] using quoted_append h
  | array vs, v', depth, h => by
    have hkind := kindOf_pretty (array vs) depth x
    rw [h, kindOf_pretty] at hkind
    cases v' <;> simp [kind] at hkind
    next vs' =>
      have hitems := items_append vs vs' true depth (by simpa [pretty] using h)
      exact ⟨congrArg array hitems.1, hitems.2⟩
  | object fs, v', depth, h => by
    have hkind := kindOf_pretty (object fs) depth x
    rw [h, kindOf_pretty] at hkind
    cases v' <;> simp [kind] at hkind
    next fs' =>
      have hfields := fields_append fs fs' true depth (by simpa [pretty] using h)
      exact ⟨congrArg object hfields.1, hfields.2⟩

theorem items_append {x y : List Char} : ∀ (vs vs' : List Json) (first : Bool) (depth : ℕ),
    items vs first depth ++ ']' :: x = items vs' first depth ++ ']' :: y → vs = vs' ∧ x = y
  | [], [], first, depth, h => by
    rw [items] at h
    exact ⟨rfl, (List.cons.inj (List.append_cancel_left h)).2⟩
  | [], v' :: vs', first, depth, h => by
    rw [items, items, List.append_assoc] at h
    exact absurd h.symm (between_ne_closing first depth (by decide) _ _)
  | v :: vs, [], first, depth, h => by
    rw [items, items, List.append_assoc] at h
    exact absurd h (between_ne_closing first depth (by decide) _ _)
  | v :: vs, v' :: vs', first, depth, h => by
    simp only [items, List.append_assoc] at h
    obtain ⟨rfl, hrest⟩ := pretty_append (ends_items vs depth _) (ends_items vs' depth _) v v'
      (depth + 1) (List.append_cancel_left h)
    obtain ⟨rfl, rfl⟩ := items_append vs vs' false depth hrest
    exact ⟨rfl, rfl⟩

theorem fields_append {x y : List Char} :
    ∀ (fs fs' : List (List Char × Json)) (first : Bool) (depth : ℕ),
    fields fs first depth ++ '\x7d' :: x = fields fs' first depth ++ '\x7d' :: y → fs = fs' ∧ x = y
  | [], [], first, depth, h => by
    rw [fields] at h
    exact ⟨rfl, (List.cons.inj (List.append_cancel_left h)).2⟩
  | [], (name', v') :: fs', first, depth, h => by
    rw [fields, fields, List.append_assoc] at h
    exact absurd h.symm (between_ne_closing first depth (by decide) _ _)
  | (name, v) :: fs, [], first, depth, h => by
    rw [fields, fields, List.append_assoc] at h
    exact absurd h (between_ne_closing first depth (by decide) _ _)
  | (name, v) :: fs, (name', v') :: fs', first, depth, h => by
    simp only [fields, List.append_assoc] at h
    obtain ⟨rfl, hvalue⟩ := quoted_append (List.append_cancel_left h)
    obtain ⟨rfl, hrest⟩ := pretty_append (ends_fields fs depth _) (ends_fields fs' depth _) v v'
      (depth + 1) (List.append_cancel_left hvalue)
    obtain ⟨rfl, rfl⟩ := fields_append fs fs' false depth hrest
    exact ⟨rfl, rfl⟩

end

/-- **No object's text begins another's.** -/
theorem eq_of_prefix {fs fs' : List (List Char × Json)} {depth : ℕ}
    (h : (object fs).pretty depth <+: (object fs').pretty depth) : fs = fs' := by
  obtain ⟨x, hx⟩ := h
  simp only [pretty, List.cons_append, List.append_assoc, List.cons.injEq, true_and,
    List.nil_append] at hx
  exact (fields_append fs fs' true depth hx).1

end Json
