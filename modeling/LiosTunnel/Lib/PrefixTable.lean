import Mathlib.Data.List.Infix
import Mathlib.Tactic

/-!
# Tables of prefixes and longest-prefix match

A table of prefixes over an alphabet `α` is a partial function on words; looking a word up in it
returns the entry of the longest prefix of the word that has one. Nothing here says what the
letters or the entries are: the route tables of this development are the tables over the bits of
an address.

* `lookup t w`: the entry of the longest prefix of `w` in `t`, by recursion on `w`.
* `lookup_eq_some_iff`: what a successful lookup says.
* `lookup_of_full`: an entry for the whole word wins over every other entry.
* `exists_of_entry`: an entry at a prefix is beaten only by an entry at a longer one.
-/

namespace PrefixTable

variable {α β : Type*}

/-- The entry of the longest prefix of `w` that has one in `t`. -/
def lookup : (List α → Option β) → List α → Option β
  | t, [] => t []
  | t, a :: w => (lookup (fun v => t (a :: v)) w).or (t [])

@[simp] theorem lookup_nil (t : List α → Option β) : lookup t [] = t [] := rfl

theorem lookup_cons (t : List α → Option β) (a : α) (w : List α) :
    lookup t (a :: w) = (lookup (fun v => t (a :: v)) w).or (t []) := rfl

/-- An entry for the word itself is the one that is found. -/
theorem lookup_of_full {t : List α → Option β} {w : List α} {b : β} (h : t w = some b) :
    lookup t w = some b := by
  induction w generalizing t with
  | nil => exact h
  | cons a w ih => rw [lookup_cons, ih (t := fun v => t (a :: v)) h, Option.some_or]

theorem lookup_eq_none_iff {t : List α → Option β} {w : List α} :
    lookup t w = none ↔ ∀ p, p <+: w → t p = none := by
  induction w generalizing t with
  | nil => simp
  | cons a w ih =>
    rw [lookup_cons, Option.or_eq_none_iff, ih]
    constructor
    · rintro ⟨hlong, hnil⟩ p hp
      rcases p with _ | ⟨b, p⟩
      · exact hnil
      · obtain ⟨rfl, hp'⟩ := List.cons_prefix_cons.1 hp
        exact hlong p hp'
    · intro h
      exact ⟨fun p hp => h (a :: p) (List.cons_prefix_cons.2 ⟨rfl, hp⟩), h [] List.nil_prefix⟩

/-- **What a lookup finds**: an entry at a prefix of the word, with no entry at a longer one. -/
theorem lookup_eq_some_iff {t : List α → Option β} {w : List α} {b : β} :
    lookup t w = some b ↔
      ∃ p, p <+: w ∧ t p = some b ∧ ∀ q, q <+: w → p.length < q.length → t q = none := by
  induction w generalizing t with
  | nil =>
    constructor
    · intro h
      exact ⟨[], List.nil_prefix, h, fun q hq hlen => by simp_all⟩
    · rintro ⟨p, hp, h, -⟩
      rwa [List.prefix_nil.1 hp] at h
  | cons a w ih =>
    rw [lookup_cons, Option.or_eq_some_iff, ih, lookup_eq_none_iff]
    constructor
    · rintro (⟨p, hp, h, hlong⟩ | ⟨hnone, h⟩)
      · refine ⟨a :: p, List.cons_prefix_cons.2 ⟨rfl, hp⟩, h, fun q hq hlen => ?_⟩
        rcases q with _ | ⟨c, q⟩
        · simp at hlen
        · obtain ⟨rfl, hq'⟩ := List.cons_prefix_cons.1 hq
          exact hlong q hq' (by simpa using hlen)
      · refine ⟨[], List.nil_prefix, h, fun q hq hlen => ?_⟩
        rcases q with _ | ⟨c, q⟩
        · simp at hlen
        · obtain ⟨rfl, hq'⟩ := List.cons_prefix_cons.1 hq
          exact hnone q hq'
    · rintro ⟨p, hp, h, hlong⟩
      rcases p with _ | ⟨c, p⟩
      · refine Or.inr ⟨fun q hq => ?_, h⟩
        exact hlong (a :: q) (List.cons_prefix_cons.2 ⟨rfl, hq⟩) (by simp)
      · obtain ⟨rfl, hp'⟩ := List.cons_prefix_cons.1 hp
        refine Or.inl ⟨p, hp', h, fun q hq hlen => ?_⟩
        exact hlong (c :: q) (List.cons_prefix_cons.2 ⟨rfl, hq⟩) (by simpa using hlen)

/-- An entry at a prefix of the word makes the lookup succeed, with an entry at least as long. -/
theorem exists_of_entry {t : List α → Option β} {w p : List α} {b : β} (hp : p <+: w)
    (h : t p = some b) :
    ∃ q c, q <+: w ∧ p.length ≤ q.length ∧ t q = some c ∧ lookup t w = some c := by
  obtain ⟨c, hc⟩ : ∃ c, lookup t w = some c := by
    by_contra hnone
    have : lookup t w = none := by simpa [Option.eq_none_iff_forall_ne_some] using hnone
    rw [lookup_eq_none_iff.1 this p hp] at h
    cases h
  obtain ⟨q, hq, htq, hlong⟩ := lookup_eq_some_iff.1 hc
  refine ⟨q, c, hq, ?_, htq, hc⟩
  by_contra hlt
  rw [hlong p hp (by omega)] at h
  cases h

/-- Where every entry that a word can match, but the empty prefix's, is `b`, the lookup finds `b`
exactly when some nonempty prefix of the word has an entry. -/
theorem lookup_eq_iff_of_uniform {t : List α → Option β} {w : List α} {b d : β} (hd : d ≠ b)
    (hnil : t [] = some d) (huniform : ∀ p, p <+: w → p ≠ [] → ∀ c, t p = some c → c = b) :
    lookup t w = some b ↔ ∃ p, p <+: w ∧ p ≠ [] ∧ t p = some b := by
  constructor
  · intro h
    obtain ⟨p, hp, htp, -⟩ := lookup_eq_some_iff.1 h
    refine ⟨p, hp, ?_, htp⟩
    rintro rfl
    exact hd (Option.some.inj (hnil.symm.trans htp))
  · rintro ⟨p, hp, hne, htp⟩
    obtain ⟨q, c, hq, hlen, htq, hc⟩ := exists_of_entry hp htp
    have hqne : q ≠ [] := by
      rintro rfl
      exact hne (List.length_eq_zero_iff.1 (by simpa using hlen))
    rw [hc, huniform q hq hqne c htq]

end PrefixTable
