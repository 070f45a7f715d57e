import Mathlib.Data.List.DropRight
import Mathlib.Tactic

/-!
# Splitting and trimming lists

A list is split at the first or the last occurrence of a separator, and trimmed at its ends. A split
is the unique one whose first part, or last part, is free of the separator.

* `splitOnce_eq_some_iff`, `rsplitOnce_eq_some_iff`: what a split is.
* `upTo_append_of_not_mem`: the part before a separator, past what is free of it.
* `trim_around`: trimming takes off what is put around a list whose ends stay.
* `trim_append`: trimming leaves the end of a list that ends in what stays.
-/

namespace Split

variable {α : Type*} [DecidableEq α]

/-- The parts before and after the first `c`. -/
def splitOnce (c : α) : List α → Option (List α × List α)
  | [] => none
  | x :: s => if x = c then some ([], s) else (splitOnce c s).map fun p => (x :: p.1, p.2)

/-- The parts before and after the last `c`. -/
def rsplitOnce (c : α) (s : List α) : Option (List α × List α) :=
  (splitOnce c s.reverse).map fun p => (p.2.reverse, p.1.reverse)

theorem splitOnce_eq_some_iff {c : α} {s a b : List α} :
    splitOnce c s = some (a, b) ↔ s = a ++ c :: b ∧ c ∉ a := by
  induction s generalizing a with
  | nil =>
    refine ⟨fun h => (nomatch h), fun ⟨h, _⟩ => ?_⟩
    exact absurd h.symm (List.append_ne_nil_of_right_ne_nil a (List.cons_ne_nil c b))
  | cons x s ih =>
    rw [splitOnce]
    split
    · next hx =>
      subst hx
      constructor
      · intro h
        obtain ⟨rfl, rfl⟩ := Prod.mk.inj (Option.some.inj h)
        exact ⟨rfl, List.not_mem_nil⟩
      · rintro ⟨h, hnot⟩
        cases a with
        | nil =>
          obtain ⟨-, rfl⟩ := List.cons.inj h
          rfl
        | cons y a =>
          obtain ⟨rfl, -⟩ := List.cons.inj h
          exact absurd List.mem_cons_self hnot
    · next hx =>
      rw [Option.map_eq_some_iff]
      constructor
      · rintro ⟨⟨a', b'⟩, hsplit, heq⟩
        obtain ⟨rfl, rfl⟩ := Prod.mk.inj heq
        obtain ⟨rfl, hnot⟩ := ih.1 hsplit
        refine ⟨rfl, fun hmem => ?_⟩
        obtain rfl | hmem := List.mem_cons.1 hmem
        · exact hx rfl
        · exact hnot hmem
      · rintro ⟨h, hnot⟩
        cases a with
        | nil =>
          obtain ⟨rfl, -⟩ := List.cons.inj h
          exact absurd rfl hx
        | cons y a =>
          obtain ⟨rfl, rfl⟩ := List.cons.inj h
          exact ⟨(a, b), ih.2 ⟨rfl, fun hmem => hnot (List.mem_cons_of_mem _ hmem)⟩, rfl⟩

theorem splitOnce_eq_none_iff {c : α} {s : List α} : splitOnce c s = none ↔ c ∉ s := by
  constructor
  · intro h hmem
    obtain ⟨a, b, rfl, hnot⟩ := List.eq_append_cons_of_mem hmem
    rw [splitOnce_eq_some_iff.2 ⟨rfl, hnot⟩] at h
    cases h
  · intro h
    cases hsplit : splitOnce c s with
    | none => rfl
    | some p =>
      obtain ⟨rfl, -⟩ := splitOnce_eq_some_iff.1 hsplit
      exact absurd (List.mem_append_right _ List.mem_cons_self) h

theorem rsplitOnce_eq_some_iff {c : α} {s a b : List α} :
    rsplitOnce c s = some (a, b) ↔ s = a ++ c :: b ∧ c ∉ b := by
  rw [rsplitOnce, Option.map_eq_some_iff]
  constructor
  · rintro ⟨⟨x, y⟩, hsplit, heq⟩
    obtain ⟨rfl, rfl⟩ := Prod.mk.inj heq
    obtain ⟨h, hnot⟩ := splitOnce_eq_some_iff.1 hsplit
    refine ⟨?_, fun hmem => hnot (List.mem_reverse.1 hmem)⟩
    rw [← List.reverse_reverse s, h]
    simp
  · rintro ⟨rfl, hnot⟩
    refine ⟨(b.reverse, a.reverse), splitOnce_eq_some_iff.2 ⟨by simp, ?_⟩, by simp⟩
    exact fun hmem => hnot (List.mem_reverse.1 hmem)

theorem rsplitOnce_eq_none_iff {c : α} {s : List α} : rsplitOnce c s = none ↔ c ∉ s := by
  rw [rsplitOnce, Option.map_eq_none_iff, splitOnce_eq_none_iff, List.mem_reverse]

/-- The part before the first `c`, which may be all. -/
def upTo (c : α) (s : List α) : List α :=
  match splitOnce c s with
  | some (a, _) => a
  | none => s

theorem not_mem_upTo (c : α) (s : List α) : c ∉ upTo c s := by
  rw [upTo]
  split
  · next h => exact (splitOnce_eq_some_iff.1 h).2
  · next h => exact splitOnce_eq_none_iff.1 h

theorem upTo_append_of_not_mem {c : α} {s : List α} (hs : c ∉ s) (t : List α) :
    upTo c (s ++ t) = s ++ upTo c t := by
  cases hsplit : splitOnce c t with
  | none =>
    have hnot : c ∉ s ++ t := by
      rw [List.mem_append, not_or]
      exact ⟨hs, splitOnce_eq_none_iff.1 hsplit⟩
    rw [upTo, upTo, splitOnce_eq_none_iff.2 hnot, hsplit]
  | some p =>
    obtain ⟨rfl, hp⟩ := splitOnce_eq_some_iff.1 hsplit
    have hall : splitOnce c (s ++ (p.1 ++ c :: p.2)) = some (s ++ p.1, p.2) := by
      rw [splitOnce_eq_some_iff, List.append_assoc, List.mem_append, not_or]
      exact ⟨rfl, hs, hp⟩
    rw [upTo, upTo, hall, hsplit]

theorem upTo_prefix_self (c : α) (s : List α) : upTo c s <+: s := by
  rw [upTo]
  split
  · next h => exact ⟨_, (splitOnce_eq_some_iff.1 h).1.symm⟩
  · exact List.prefix_rfl

/-! ## Trimming -/

/-- A list without what `p` says at its beginning and its end. -/
def trim (p : α → Bool) (s : List α) : List α := (s.dropWhile p).rdropWhile p

omit [DecidableEq α] in
theorem rdropWhile_append_of_all {p : α → Bool} {s t : List α} (ht : ∀ x ∈ t, p x = true) :
    (s ++ t).rdropWhile p = s.rdropWhile p := by
  induction t using List.reverseRecOn with
  | nil => rw [List.append_nil]
  | append_singleton t x ih =>
    rw [← List.append_assoc, List.rdropWhile_concat_pos _ _ _ (ht x (by simp))]
    exact ih fun y hy => ht y (List.mem_append_left _ hy)

omit [DecidableEq α] in
theorem rdropWhile_append_of_ne {p : α → Bool} {s : List α} {x : α} (t : List α)
    (hx : p x = false) : (s ++ x :: t).rdropWhile p = s ++ x :: t.rdropWhile p := by
  induction t using List.reverseRecOn with
  | nil => rw [List.rdropWhile_nil, List.rdropWhile_concat_neg _ _ _ (by simp [hx])]
  | append_singleton t y ih =>
    have hassoc : s ++ x :: (t ++ [y]) = (s ++ x :: t) ++ [y] := by simp
    cases hy : p y with
    | true =>
      rw [hassoc, List.rdropWhile_concat_pos _ _ _ hy, ih, List.rdropWhile_concat_pos _ _ _ hy]
    | false =>
      rw [hassoc, List.rdropWhile_concat_neg _ _ _ (by simp [hy]),
        List.rdropWhile_concat_neg _ _ _ (by simp [hy]), ← hassoc]

omit [DecidableEq α] in
/-- What stands around a list that begins with something else is trimmed off, with what trims off at
the end of the list. -/
theorem trim_around {p : α → Bool} {before after : List α} {x : α} (s : List α)
    (hbefore : ∀ y ∈ before, p y = true) (hx : p x = false) (hafter : ∀ y ∈ after, p y = true) :
    trim p (before ++ x :: s ++ after) = x :: s.rdropWhile p := by
  have hdrop : (before ++ x :: (s ++ after)).dropWhile p = x :: (s ++ after) := by
    rw [List.dropWhile_append_of_pos hbefore, List.dropWhile_cons_of_neg (by simp [hx])]
  rw [trim, List.append_assoc, List.cons_append, hdrop]
  calc (x :: (s ++ after)).rdropWhile p
      = x :: (s ++ after).rdropWhile p := rdropWhile_append_of_ne (s := []) _ hx
    _ = x :: s.rdropWhile p := by rw [rdropWhile_append_of_all hafter]

omit [DecidableEq α] in
/-- What begins and ends with something else stays, wherever it ends a list. -/
theorem trim_append {p : α → Bool} (s : List α) {x y : α} {t u : List α} (hx : p x = false)
    (hends : x :: t = u ++ [y]) (hy : p y = false) :
    trim p (s ++ x :: t) = s.dropWhile p ++ x :: t := by
  have hfront : (s ++ x :: t).dropWhile p = s.dropWhile p ++ x :: t := by
    rw [List.dropWhile_append]
    split
    · next hempty =>
      rw [List.isEmpty_iff.1 hempty, List.dropWhile_cons_of_neg (by simp [hx]), List.nil_append]
    · rfl
  rw [trim, hfront, hends, ← List.append_assoc, List.rdropWhile_concat_neg _ _ _ (by simp [hy])]

end Split
