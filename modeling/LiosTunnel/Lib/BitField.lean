import Mathlib

/-!
# Bit fields of a byte string, and its ones' complement sum

The bits of a byte string are numbered as they are sent, the most significant of the first byte
first. A field is a run of them, wherever it lies.

* `read`, `write`: a field's value and what it is set to (`read_write_self`,
  `read_write_of_disjoint`).
* `wordSum`, `checksum`: the sum of the 16-bit words, and what makes it all ones
  (`isValid_add_checksum`).
-/

namespace BitField

/-- A bit; past the end it is clear. -/
def bit (b : List UInt8) (i : ℕ) : Bool := (b.getD (i / 8) 0).toBitVec.getMsbD (i % 8)

/-- The field of `w` bits from bit `o` on. -/
def read (o w : ℕ) (b : List UInt8) : BitVec w := .ofFnBE fun k => bit b (o + k)

/-- The byte string with the field from bit `o` on set. -/
def write (o : ℕ) {w : ℕ} (v : BitVec w) (b : List UInt8) : List UInt8 :=
  b.mapIdx fun j _ => ⟨.ofFnBE fun k =>
    let i := 8 * j + k
    if o ≤ i ∧ i < o + w then v.getMsbD (i - o) else bit b i⟩

section Bits

variable {o w : ℕ} {v : BitVec w} {b : List UInt8}

theorem bit_of_length_le {i : ℕ} (h : 8 * b.length ≤ i) : bit b i = false := by
  rw [bit, List.getD_eq_default _ _ (by omega)]
  exact BitVec.getMsbD_zero

/-- A byte string is its bits. -/
theorem ext {b b' : List UInt8} (hlen : b.length = b'.length) (h : ∀ i, bit b i = bit b' i) :
    b = b' := by
  refine List.ext_getElem hlen fun j hj hj' => ?_
  refine UInt8.toBitVec_inj.1 (BitVec.eq_of_getMsbD_eq fun k hk => ?_)
  have hbit := h (8 * j + k)
  rw [bit, bit, show (8 * j + k) / 8 = j by omega, show (8 * j + k) % 8 = k by omega,
    List.getD_eq_getElem _ _ hj, List.getD_eq_getElem _ _ hj'] at hbit
  exact hbit

theorem bit_drop (n i : ℕ) : bit (b.drop n) i = bit b (8 * n + i) := by
  rw [bit, bit, List.getD_eq_getElem?_getD, List.getD_eq_getElem?_getD, List.getElem?_drop,
    show (8 * n + i) / 8 = n + i / 8 by omega, show (8 * n + i) % 8 = i % 8 by omega]

theorem bit_take {n i : ℕ} (h : i < 8 * n) : bit (b.take n) i = bit b i := by
  rw [bit, bit, List.getD_eq_getElem?_getD, List.getD_eq_getElem?_getD,
    List.getElem?_take_of_lt (by omega)]

@[simp] theorem length_write : (write o v b).length = b.length := by
  rw [write, List.length_mapIdx]

/-- What a write does to each bit. -/
theorem bit_write {i : ℕ} (hi : i < 8 * b.length) :
    bit (write o v b) i = if o ≤ i ∧ i < o + w then v.getMsbD (i - o) else bit b i := by
  have hj : i / 8 < b.length := by omega
  rw [bit, write, List.getD_eq_getElem _ _ (by rwa [List.length_mapIdx]), List.getElem_mapIdx]
  simp only [BitVec.getMsbD_ofFnBE]
  rw [dif_pos (by omega), show 8 * (i / 8) + i % 8 = i by omega]

theorem bit_write_of_disjoint {i : ℕ} (h : i < o ∨ o + w ≤ i) :
    bit (write o v b) i = bit b i := by
  by_cases hi : i < 8 * b.length
  · rw [bit_write hi, if_neg (by omega)]
  · rw [bit_of_length_le (by rw [length_write]; omega), bit_of_length_le (by omega)]

theorem getMsbD_read {k : ℕ} (h : k < w) : (read o w b).getMsbD k = bit b (o + k) := by
  rw [read, BitVec.getMsbD_ofFnBE, dif_pos h]

/-- A field depends on its bits only. -/
theorem read_congr {o' : ℕ} {b' : List UInt8} (h : ∀ k < w, bit b (o + k) = bit b' (o' + k)) :
    read o w b = read o' w b' := by
  refine BitVec.eq_of_getMsbD_eq fun k hk => ?_
  rw [getMsbD_read hk, getMsbD_read hk, h k hk]

theorem read_write_self (h : o + w ≤ 8 * b.length) : read o w (write o v b) = v := by
  refine BitVec.eq_of_getMsbD_eq fun k hk => ?_
  rw [getMsbD_read hk, bit_write (by omega), if_pos (by omega), Nat.add_sub_cancel_left]

theorem read_write_of_disjoint {o' w' : ℕ} (h : o' + w' ≤ o ∨ o + w ≤ o') :
    read o' w' (write o v b) = read o' w' b :=
  read_congr fun _ hk => bit_write_of_disjoint (by omega)

theorem read_take {n : ℕ} (h : o + w ≤ 8 * n) : read o w (b.take n) = read o w b :=
  read_congr fun k _ => bit_take (by omega)

theorem read_append {b' : List UInt8} (h : o + w ≤ 8 * b.length) :
    read o w (b ++ b') = read o w b := by
  rw [← read_take (b := b ++ b') h, List.take_left]

theorem write_write_self {v' : BitVec w} : write o v (write o v' b) = write o v b := by
  refine ext (by simp) fun i => ?_
  by_cases hi : i < 8 * b.length
  · rw [bit_write (by rwa [length_write]), bit_write hi, bit_write hi]
    split
    · rfl
    · rfl
  · rw [bit_of_length_le (by simp only [length_write]; omega),
      bit_of_length_le (by rw [length_write]; omega)]

/-- The bytes after a field are left alone. -/
theorem drop_write {n : ℕ} (h : o + w ≤ 8 * n) : (write o v b).drop n = b.drop n := by
  refine ext (by simp) fun i => ?_
  rw [bit_drop, bit_drop, bit_write_of_disjoint (by omega)]

/-- A field is written into the first bytes as it is into all. -/
theorem take_write_comm (n : ℕ) :
    (write o v b).take n = write o v (b.take n) := by
  refine ext (by simp) fun i => ?_
  by_cases hi : i < 8 * (b.take n).length
  · have hn : i < 8 * n := by rw [List.length_take] at hi; omega
    have hb : i < 8 * b.length := by rw [List.length_take] at hi; omega
    rw [bit_take hn, bit_write hb, bit_write hi, bit_take hn]
  · rw [bit_of_length_le (by rw [List.length_take, length_write, ← List.length_take]; omega),
      bit_of_length_le (by rw [length_write]; omega)]

end Bits

/-! ## The ones' complement sum -/

/-- The sum of the 16-bit words, the last one filled up with a zero byte. -/
def wordSum (b : List UInt8) : ℕ :=
  ∑ i ∈ Finset.range ((b.length + 1) / 2), (read (16 * i) 16 b).toNat

/-- A sum with its carries added back in, in 16 bits. -/
def fold (sum : ℕ) : ℕ := if sum = 0 then 0 else (sum - 1) % 65535 + 1

/-- All ones. -/
def IsValid (sum : ℕ) : Prop := fold sum = 65535

instance (sum : ℕ) : Decidable (IsValid sum) := inferInstanceAs (Decidable (fold sum = 65535))

/-- The complement of a sum. -/
def checksum (sum : ℕ) : BitVec 16 := .ofNat 16 (65535 - fold sum)

theorem toNat_checksum (sum : ℕ) : (checksum sum).toNat = 65535 - fold sum := by
  rw [checksum, BitVec.toNat_ofNat]
  omega

/-- A sum that its complement is added to is all ones. -/
theorem isValid_add_checksum (sum : ℕ) : IsValid (sum + (checksum sum).toNat) := by
  rw [toNat_checksum, IsValid]
  unfold fold
  split_ifs <;> omega

/-- So it is with all ones for a complement that is zero. -/
theorem isValid_add_ones {sum : ℕ} (h : checksum sum = 0#16) : IsValid (sum + 65535) := by
  have hfold : 65535 - fold sum = 0 := by rw [← toNat_checksum, h]; rfl
  rw [IsValid]
  unfold fold at *
  split_ifs at *
  all_goals omega

/-- A word counts once. -/
theorem wordSum_write {k : ℕ} (v : BitVec 16) {b : List UInt8} (h : 2 * k + 2 ≤ b.length)
    (hzero : read (16 * k) 16 b = 0#16) : wordSum (write (16 * k) v b) = wordSum b + v.toNat := by
  have hmem : k ∈ Finset.range ((b.length + 1) / 2) := Finset.mem_range.2 (by omega)
  rw [wordSum, wordSum, length_write, ← Finset.add_sum_erase _ _ hmem,
    ← Finset.add_sum_erase _ (fun i => (read (16 * i) 16 b).toNat) hmem,
    read_write_self (by omega), hzero]
  have hrest : ∀ i ∈ (Finset.range ((b.length + 1) / 2)).erase k,
      (read (16 * i) 16 (write (16 * k) v b)).toNat = (read (16 * i) 16 b).toNat := by
    intro i hi
    have hne := Finset.ne_of_mem_erase hi
    rw [read_write_of_disjoint (by omega)]
  rw [Finset.sum_congr rfl hrest]
  rw [BitVec.toNat_zero]
  omega

/-- A word of the first bytes, written into a field that was cleared. -/
theorem wordSum_take_write {k n : ℕ} (v : BitVec 16) {b : List UInt8} (h : 2 * k + 2 ≤ n)
    (hn : n ≤ b.length) : wordSum ((write (16 * k) v (write (16 * k) (0#16) b)).take n) =
      wordSum ((write (16 * k) (0#16) b).take n) + v.toNat := by
  rw [take_write_comm n, wordSum_write]
  · rw [List.length_take, length_write]
    omega
  · rw [read_take (by omega), read_write_self (by omega)]

end BitField
