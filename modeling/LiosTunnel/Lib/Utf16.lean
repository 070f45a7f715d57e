import Mathlib.Tactic

/-!
# UTF-16

Texts as lists of characters and as lists of 16-bit code units. A character above U+FFFF is a pair
of surrogates; a surrogate that is in no pair reads as U+FFFD.

* `encode`, `decode`: the two directions.
* `decode_encode`: what is encoded is read back.
* `decode_append`, `eq_append_of_decode`: characters below the surrogates at the front of a text.
* `encode_decode`: a text without surrogates is what its characters encode to.
-/

namespace Utf16

/-- The first of a pair. -/
def IsHigh (c : UInt16) : Prop := 0xD800 ≤ c.toNat ∧ c.toNat < 0xDC00

/-- The second of a pair. -/
def IsLow (c : UInt16) : Prop := 0xDC00 ≤ c.toNat ∧ c.toNat < 0xE000

instance (c : UInt16) : Decidable (IsHigh c) := inferInstanceAs (Decidable (_ ∧ _))

instance (c : UInt16) : Decidable (IsLow c) := inferInstanceAs (Decidable (_ ∧ _))

/-- The character of a unit in no pair. -/
def single (c : UInt16) : Char := if IsHigh c ∨ IsLow c then '\uFFFD' else .ofNat c.toNat

/-- The character of a pair. -/
def pair (c d : UInt16) : Char :=
  .ofNat (0x10000 + (c.toNat - 0xD800) * 0x400 + (d.toNat - 0xDC00))

def decode : List UInt16 → List Char
  | [] => []
  | [c] => [single c]
  | c :: d :: s => if IsHigh c ∧ IsLow d then pair c d :: decode s else single c :: decode (d :: s)

def encodeChar (c : Char) : List UInt16 :=
  if c.toNat < 0x10000 then [.ofNat c.toNat]
  else [.ofNat (0xD800 + (c.toNat - 0x10000) / 0x400),
    .ofNat (0xDC00 + (c.toNat - 0x10000) % 0x400)]

def encode (s : List Char) : List UInt16 := s.flatMap encodeChar

theorem toNat_unit {n : ℕ} (h : n < 0x10000) : (UInt16.ofNat n).toNat = n :=
  UInt16.toNat_ofNat_of_lt' h

theorem toNat_char {n : ℕ} (h : n < 0xD800 ∨ (0xDFFF < n ∧ n < 0x110000)) :
    (Char.ofNat n).toNat = n := by
  have hvalid : n.isValidChar := h
  rw [Char.ofNat, dif_pos hvalid]
  rfl

theorem valid (c : Char) : c.toNat < 0xD800 ∨ (0xDFFF < c.toNat ∧ c.toNat < 0x110000) := c.valid

/-- A unit that begins no pair. -/
theorem decode_cons {c : UInt16} (h : ¬ IsHigh c) (s : List UInt16) :
    decode (c :: s) = single c :: decode s := by
  cases s with
  | nil => rw [decode, decode]
  | cons d s => rw [decode, if_neg fun hpair => h hpair.1]

/-- A character is read back, whatever follows it. -/
theorem decode_encodeChar_append (c : Char) (s : List UInt16) :
    decode (encodeChar c ++ s) = c :: decode s := by
  have hvalid := valid c
  unfold encodeChar
  split
  · next hlt =>
    have hnat := toNat_unit hlt
    have hhigh : ¬ IsHigh (.ofNat c.toNat) := fun h => by
      rw [IsHigh, hnat] at h
      omega
    have hlow : ¬ IsLow (.ofNat c.toNat) := fun h => by
      rw [IsLow, hnat] at h
      omega
    rw [List.cons_append, List.nil_append, decode_cons hhigh, single,
      if_neg (not_or.2 ⟨hhigh, hlow⟩),
      hnat, Char.ofNat_toNat]
  · next hge =>
    have hhigh := toNat_unit (n := 0xD800 + (c.toNat - 0x10000) / 0x400) (by omega)
    have hlow := toNat_unit (n := 0xDC00 + (c.toNat - 0x10000) % 0x400) (by omega)
    have hpair : IsHigh (.ofNat (0xD800 + (c.toNat - 0x10000) / 0x400)) ∧
        IsLow (.ofNat (0xDC00 + (c.toNat - 0x10000) % 0x400)) := by
      rw [IsHigh, IsLow, hhigh, hlow]
      omega
    have hsum : 0x10000 + (0xD800 + (c.toNat - 0x10000) / 0x400 - 0xD800) * 0x400 +
        (0xDC00 + (c.toNat - 0x10000) % 0x400 - 0xDC00) = c.toNat := by
      omega
    rw [List.cons_append, List.cons_append, List.nil_append, decode, if_pos hpair,
      pair, hhigh, hlow,
      hsum, Char.ofNat_toNat]

/-- **What is encoded is read back.** -/
theorem decode_encode (s : List Char) : decode (encode s) = s := by
  induction s with
  | nil => rfl
  | cons c s ih =>
    change decode (encodeChar c ++ encode s) = c :: s
    rw [decode_encodeChar_append, ih]

/-- The units of a character below the surrogates. -/
theorem encodeChar_of_lt {c : Char} (h : c.toNat < 0xD800) : encodeChar c = [.ofNat c.toNat] :=
  if_pos (by omega)

theorem encode_of_lt {s : List Char} (h : ∀ c ∈ s, c.toNat < 0xD800) :
    encode s = s.map fun c => UInt16.ofNat c.toNat := by
  induction s with
  | nil => rfl
  | cons c s ih =>
    obtain ⟨hc, hs⟩ := List.forall_mem_cons.1 h
    change encodeChar c ++ encode s = _
    rw [encodeChar_of_lt hc, ih hs]
    rfl

/-- A text begins with characters below the surrogates. -/
theorem decode_append {p : List Char} (h : ∀ c ∈ p, c.toNat < 0xD800) (s : List UInt16) :
    decode (p.map (fun c => UInt16.ofNat c.toNat) ++ s) = p ++ decode s := by
  induction p with
  | nil => rfl
  | cons c p ih =>
    obtain ⟨hc, hp⟩ := List.forall_mem_cons.1 h
    have hchar := decode_encodeChar_append c (p.map (fun c => UInt16.ofNat c.toNat) ++ s)
    rw [encodeChar_of_lt hc, ih hp] at hchar
    exact hchar

/-- A first character below the surrogates is a first unit. -/
theorem of_decode_cons {d : UInt16} {s : List UInt16} {c : Char} {cs : List Char}
    (h : decode (d :: s) = c :: cs) (hc : c.toNat < 0xD800) :
    d = .ofNat c.toNat ∧ decode s = cs := by
  have hsingle {e : UInt16} (he : single e = c) : e = .ofNat c.toNat := by
    subst he
    unfold single at hc ⊢
    split at hc
    · exact absurd hc (by decide)
    · next hnone =>
      have hnat := toNat_char (n := e.toNat) (by
        have hlt := e.toNat_lt
        unfold IsHigh IsLow at hnone
        omega)
      rw [if_neg hnone, hnat, UInt16.ofNat_toNat]
  cases s with
  | nil =>
    obtain ⟨hd, rfl⟩ := List.cons.inj (decode.eq_2 d ▸ h)
    exact ⟨hsingle hd, rfl⟩
  | cons e s =>
    rw [decode] at h
    split at h
    · next hpair =>
      obtain ⟨rfl, -⟩ := List.cons.inj h
      obtain ⟨⟨hd, hd'⟩, he, he'⟩ := hpair
      rw [pair, toNat_char (by omega)] at hc
      omega
    · obtain ⟨hd, hs⟩ := List.cons.inj h
      exact ⟨hsingle hd, hs⟩

/-- **Characters below the surrogates at the front of a text are its first units.** -/
theorem eq_append_of_decode {s : List UInt16} {p cs : List Char} (hp : ∀ c ∈ p, c.toNat < 0xD800)
    (h : decode s = p ++ cs) :
    ∃ s', s = p.map (fun c => UInt16.ofNat c.toNat) ++ s' ∧ decode s' = cs := by
  induction p generalizing s with
  | nil => exact ⟨s, rfl, h⟩
  | cons c p ih =>
    obtain ⟨hc, hp⟩ := List.forall_mem_cons.1 hp
    cases s with
    | nil => cases h
    | cons d s =>
      obtain ⟨rfl, hs⟩ := of_decode_cons h hc
      obtain ⟨s', rfl, hs'⟩ := ih hp hs
      exact ⟨s', rfl, hs'⟩

/-- **A text without surrogates is what its characters encode to.** -/
theorem encode_decode {s : List UInt16} (h : ∀ c ∈ s, c.toNat < 0xD800) :
    encode (decode s) = s := by
  induction s with
  | nil => rfl
  | cons c s ih =>
    obtain ⟨hc, hs⟩ := List.forall_mem_cons.1 h
    have hnone : ¬ (IsHigh c ∨ IsLow c) := by
      unfold IsHigh IsLow
      omega
    have hnat : (Char.ofNat c.toNat).toNat = c.toNat := toNat_char (.inl hc)
    rw [decode_cons (not_or.1 hnone).1, single, if_neg hnone]
    change encodeChar (.ofNat c.toNat) ++ encode (decode s) = c :: s
    rw [encodeChar_of_lt (by rwa [hnat]), hnat, UInt16.ofNat_toNat, ih hs]
    rfl

end Utf16
