import Mathlib.Tactic

/-!
# Base 64 without padding

The encoding of octets as digits of six bits, without padding and with the unused bits of the last
digit zero, over an alphabet that is a table of 64 characters.

* `sextets`, `octets`: octets and their digits, inverse to each other (`octets_eq_some_iff`).
* `encode`, `decode`: the same with the digits written in an alphabet.
* `encode_inj_of_agree`: what is spelled alike in two alphabets that do not confuse digits is the
  same.
-/

namespace Base64

/-- A digit of six bits. -/
abbrev Sextet := Fin 64

/-- The digits of some octets, three octets making four digits. -/
def sextets : List UInt8 → List Sextet
  | [] => []
  | [a] => [.ofNat 64 (a.toNat / 4), .ofNat 64 (a.toNat % 4 * 16)]
  | [a, b] =>
    [.ofNat 64 (a.toNat / 4), .ofNat 64 (a.toNat % 4 * 16 + b.toNat / 16),
      .ofNat 64 (b.toNat % 16 * 4)]
  | a :: b :: c :: rest =>
    .ofNat 64 (a.toNat / 4) :: .ofNat 64 (a.toNat % 4 * 16 + b.toNat / 16) ::
      .ofNat 64 (b.toNat % 16 * 4 + c.toNat / 64) :: .ofNat 64 (c.toNat % 64) :: sextets rest

/-- The octets of some digits, `none` if they are no octets' or the bits that are left are not
zero. -/
def octets : List Sextet → Option (List UInt8)
  | [] => some []
  | [_] => none
  | [p, q] => if q.val % 16 = 0 then some [.ofNat (p * 4 + q / 16)] else none
  | [p, q, r] =>
    if r.val % 4 = 0 then some [.ofNat (p * 4 + q / 16), .ofNat (q % 16 * 16 + r / 4)] else none
  | p :: q :: r :: s :: rest =>
    (octets rest).map fun bs =>
      .ofNat (p * 4 + q / 16) :: .ofNat (q % 16 * 16 + r / 4) :: .ofNat (r % 4 * 64 + s) :: bs

theorem octets_sextets (bs : List UInt8) : octets (sextets bs) = some bs := by
  induction bs using sextets.induct with
  | case1 => rfl
  | case2 a =>
    have ha := a.toNat_lt
    simp only [sextets, octets, Fin.ofNat]
    rw [if_pos (by omega)]
    congr 2
    refine UInt8.toNat_inj.1 ?_
    rw [UInt8.toNat_ofNat']
    omega
  | case3 a b =>
    have ha := a.toNat_lt
    have hb := b.toNat_lt
    simp only [sextets, octets, Fin.ofNat]
    rw [if_pos (by omega)]
    congr 2
    · refine UInt8.toNat_inj.1 ?_
      rw [UInt8.toNat_ofNat']
      omega
    · congr 1
      refine UInt8.toNat_inj.1 ?_
      rw [UInt8.toNat_ofNat']
      omega
  | case4 a b c rest ih =>
    have ha := a.toNat_lt
    have hb := b.toNat_lt
    have hc := c.toNat_lt
    simp only [sextets, octets, Fin.ofNat, ih, Option.map_some, Option.some.injEq, List.cons.injEq,
      and_true]
    refine ⟨UInt8.toNat_inj.1 ?_, UInt8.toNat_inj.1 ?_, UInt8.toNat_inj.1 ?_⟩ <;>
    · rw [UInt8.toNat_ofNat']
      omega

theorem sextets_of_octets {ds : List Sextet} {bs : List UInt8} (h : octets ds = some bs) :
    sextets bs = ds := by
  induction ds using octets.induct generalizing bs with
  | case1 =>
    obtain rfl := Option.some.inj h
    rfl
  | case2 => cases h
  | case3 p q hq =>
    rw [octets, if_pos hq] at h
    obtain rfl := Option.some.inj h
    have hp := p.isLt
    have hq' := q.isLt
    simp only [sextets, UInt8.toNat_ofNat', List.cons.injEq, and_true, Fin.ext_iff, Fin.ofNat]
    omega
  | case4 p q hq =>
    rw [octets, if_neg hq] at h
    cases h
  | case5 p q r hr =>
    rw [octets, if_pos hr] at h
    obtain rfl := Option.some.inj h
    have hp := p.isLt
    have hq := q.isLt
    have hr' := r.isLt
    simp only [sextets, UInt8.toNat_ofNat', List.cons.injEq, and_true, Fin.ext_iff, Fin.ofNat]
    omega
  | case6 p q r hr =>
    rw [octets, if_neg hr] at h
    cases h
  | case7 p q r s rest ih =>
    rw [octets, Option.map_eq_some_iff] at h
    obtain ⟨bs', hrest, rfl⟩ := h
    have hp := p.isLt
    have hq := q.isLt
    have hr := r.isLt
    have hs := s.isLt
    simp only [sextets, UInt8.toNat_ofNat', ih hrest, List.cons.injEq, and_true, Fin.ext_iff,
      Fin.ofNat]
    omega

/-- **Digits are digits of at most one list of octets**, and octets have one list of digits. -/
theorem octets_eq_some_iff {ds : List Sextet} {bs : List UInt8} :
    octets ds = some bs ↔ sextets bs = ds := by
  refine ⟨sextets_of_octets, ?_⟩
  rintro rfl
  exact octets_sextets bs

theorem sextets_injective : Function.Injective sextets := by
  intro bs bs' h
  have hsome := octets_sextets bs
  rw [h, octets_sextets] at hsome
  exact (Option.some.inj hsome).symm

theorem sextets_ne_nil {bs : List UInt8} (h : bs ≠ []) : sextets bs ≠ [] := by
  intro hnil
  exact h (sextets_injective (hnil.trans (show [] = sextets [] from rfl)))

/-! ## Alphabets -/

variable {α : Type*} (A : Sextet → α)

/-- The digits in an alphabet. -/
def encode (bs : List UInt8) : List α := (sextets bs).map A

/-- The digit a character stands for. -/
def digit [DecidableEq α] (c : α) : Option Sextet := (List.finRange 64).find? fun d => A d = c

/-- The inverse of `encode`. -/
def decode [DecidableEq α] (s : List α) : Option (List UInt8) := (s.mapM (digit A)).bind octets

variable {A}

theorem digit_eq_some_iff [DecidableEq α] (hA : Function.Injective A) {c : α} {d : Sextet} :
    digit A c = some d ↔ A d = c := by
  have hback : ∀ d', digit A c = some d' → A d' = c := by
    intro d' h
    exact of_decide_eq_true (List.find?_some (p := fun d => decide (A d = c)) h)
  refine ⟨hback d, ?_⟩
  rintro rfl
  have hsome : (digit A (A d)).isSome = true :=
    List.find?_isSome.2 ⟨d, List.mem_finRange d, decide_eq_true rfl⟩
  obtain ⟨d', hd'⟩ := Option.isSome_iff_exists.1 hsome
  rw [hd', hA (hback d' hd')]

theorem mapM_digit_eq_some_iff [DecidableEq α] (hA : Function.Injective A) {s : List α}
    {ds : List Sextet} : s.mapM (digit A) = some ds ↔ ds.map A = s := by
  induction s generalizing ds with
  | nil =>
    rw [List.mapM_nil, List.map_eq_nil_iff]
    exact ⟨fun h => (Option.some.inj h).symm, fun h => congrArg some h.symm⟩
  | cons c s ih =>
    rw [List.mapM_cons]
    constructor
    · intro h
      obtain ⟨d, hd, h⟩ := Option.bind_eq_some_iff.1 h
      obtain ⟨ds', hds', h⟩ := Option.bind_eq_some_iff.1 h
      obtain rfl := Option.some.inj h
      rw [List.map_cons, (digit_eq_some_iff hA).1 hd, ih.1 hds']
    · intro h
      cases ds with
      | nil => cases h
      | cons d ds =>
        obtain ⟨hd, hds⟩ := List.cons.inj h
        rw [(digit_eq_some_iff hA).2 hd, ih.2 hds]
        rfl

/-- **Decoding**: a text is read as the octets it is the encoding of. -/
theorem decode_eq_some_iff [DecidableEq α] (hA : Function.Injective A) {s : List α}
    {bs : List UInt8} : decode A s = some bs ↔ encode A bs = s := by
  rw [decode, Option.bind_eq_some_iff, encode]
  constructor
  · rintro ⟨ds, hds, hbs⟩
    rw [octets_eq_some_iff.1 hbs]
    exact (mapM_digit_eq_some_iff hA).1 hds
  · intro h
    exact ⟨sextets bs, (mapM_digit_eq_some_iff hA).2 h, octets_sextets bs⟩

theorem mem_encode {c : α} {bs : List UInt8} (h : c ∈ encode A bs) : ∃ d, A d = c := by
  obtain ⟨d, -, rfl⟩ := List.mem_map.1 h
  exact ⟨d, rfl⟩

theorem encode_ne_nil {bs : List UInt8} (h : bs ≠ []) : encode A bs ≠ [] :=
  fun hnil => sextets_ne_nil h (List.map_eq_nil_iff.1 hnil)

/-- **Two alphabets that confuse no digits** spell different octets differently. -/
theorem encode_inj_of_agree {B : Sextet → α} (hAB : ∀ d d', A d = B d' → d = d')
    {bs bs' : List UInt8} (h : encode A bs = encode B bs') : bs = bs' := by
  have hmap : ∀ ds ds' : List Sextet, ds.map A = ds'.map B → ds = ds' := by
    intro ds
    induction ds with
    | nil =>
      intro ds' h
      exact (List.map_eq_nil_iff.1 h.symm).symm
    | cons d ds ih =>
      intro ds' h
      cases ds' with
      | nil => cases h
      | cons d' ds' =>
        obtain ⟨hd, hds⟩ := List.cons.inj h
        rw [hAB d d' hd, ih ds' hds]
  exact sextets_injective (hmap _ _ h)

/-- The alphabets of letters, digits and two more characters. -/
def alphabet (c62 c63 : Char) (d : Sextet) : Char :=
  if d.val < 26 then .ofNat (d.val + 65)
  else if d.val < 52 then .ofNat (d.val + 71)
  else if d.val < 62 then .ofNat (d.val - 4)
  else if d.val = 62 then c62 else c63

/-- The standard alphabet. -/
def standard : Sextet → Char := alphabet '+' '/'

/-- The alphabet that is safe in URLs and file names. -/
def urlSafe : Sextet → Char := alphabet '-' '_'

theorem standard_injective : Function.Injective standard := by
  unfold Function.Injective
  decide +kernel

theorem urlSafe_injective : Function.Injective urlSafe := by
  unfold Function.Injective
  decide +kernel

/-- The two differ in two digits, whose characters are in one of them alone. -/
theorem urlSafe_standard_agree : ∀ d d', urlSafe d = standard d' → d = d' := by
  decide +kernel

end Base64
