import Mathlib.Logic.Function.Basic
import Mathlib.Data.List.Nodup
import Mathlib.Tactic

/-!
# Stores that refuse a second entry under one key

A store is a partial function on keys. Adding succeeds only at a key that has no entry and deleting
only at a key that has one, which is how a kernel's routing table answers. The main result is
`runAll_dels_of_adds`: whatever a list of successful additions did, deleting the same keys in any
order succeeds and gives the store back.

* `Op.run` and `runAll`: one operation and a list of them, stopping at the first refusal.
* `attempt` and `attemptAll`: the same, a refused operation changing nothing.
-/

namespace KeyedStore

variable {κ β : Type*} [DecidableEq κ]

/-- An operation on a store. -/
inductive Op (κ β : Type*)
  | add (k : κ) (b : β)
  | del (k : κ)
  deriving DecidableEq

/-- The key an operation is about. -/
def Op.key : Op κ β → κ
  | .add k _ => k
  | .del k => k

/-- One operation, `none` when the store refuses it. -/
def Op.run (t : κ → Option β) : Op κ β → Option (κ → Option β)
  | .add k b => if (t k).isNone then some (Function.update t k (some b)) else none
  | .del k => if (t k).isSome then some (Function.update t k none) else none

/-- A list of operations, `none` when one of them is refused. -/
def runAll (t : κ → Option β) : List (Op κ β) → Option (κ → Option β)
  | [] => some t
  | op :: ops => (op.run t).bind fun t' => runAll t' ops

/-- One operation, a refusal leaving the store as it is. -/
def attempt (t : κ → Option β) (op : Op κ β) : κ → Option β := (op.run t).getD t

/-- A list of operations, each refusal leaving the store as it is. -/
def attemptAll (t : κ → Option β) (ops : List (Op κ β)) : κ → Option β := ops.foldl attempt t

@[simp] theorem runAll_nil (t : κ → Option β) : runAll t [] = some t := rfl

theorem runAll_cons (t : κ → Option β) (op : Op κ β) (ops : List (Op κ β)) :
    runAll t (op :: ops) = (op.run t).bind fun t' => runAll t' ops := rfl

theorem runAll_append (t : κ → Option β) (ops ops' : List (Op κ β)) :
    runAll t (ops ++ ops') = (runAll t ops).bind fun t' => runAll t' ops' := by
  induction ops generalizing t with
  | nil => rfl
  | cons op ops ih =>
    rw [List.cons_append, runAll_cons, runAll_cons]
    cases op.run t with
    | none => rfl
    | some t' => exact ih t'

theorem run_add_eq_some {t t' : κ → Option β} {k : κ} {b : β} :
    (Op.add k b).run t = some t' ↔ t k = none ∧ Function.update t k (some b) = t' := by
  simp only [Op.run]
  split <;> simp_all

theorem run_del_eq_some {t t' : κ → Option β} {k : κ} :
    (Op.del (β := β) k).run t = some t' ↔ (t k).isSome ∧ Function.update t k none = t' := by
  simp only [Op.run]
  split <;> simp_all

/-! ## Additions -/

/-- The additions of a list of entries. -/
def adds (es : List (κ × β)) : List (Op κ β) := es.map fun e => .add e.1 e.2

/-- The deletions of a list of keys. -/
def dels (ks : List κ) : List (Op κ β) := ks.map .del

/-- **What successful additions say**: the keys were distinct and free, each of them has its entry
afterwards, and every other key is as it was. -/
theorem runAll_adds {t t' : κ → Option β} {es : List (κ × β)} (h : runAll t (adds es) = some t') :
    (es.map Prod.fst).Nodup ∧ (∀ e ∈ es, t e.1 = none ∧ t' e.1 = some e.2) ∧
      ∀ k, k ∉ es.map Prod.fst → t' k = t k := by
  induction es generalizing t with
  | nil =>
    obtain rfl := Option.some.inj h
    simp
  | cons e es ih =>
    rw [adds, List.map_cons, runAll_cons, Option.bind_eq_some_iff] at h
    obtain ⟨t₁, h₁, h⟩ := h
    obtain ⟨hfree, rfl⟩ := run_add_eq_some.1 h₁
    obtain ⟨hnodup, hentries, hrest⟩ := ih h
    -- the new key is free in the store the remaining additions start from, so it is not among them
    have hnew : e.1 ∉ es.map Prod.fst := by
      intro hmem
      obtain ⟨e', he', heq⟩ := List.mem_map.1 hmem
      have := (hentries e' he').1
      rw [heq, Function.update_self] at this
      cases this
    refine ⟨by simpa using ⟨by simpa using hnew, hnodup⟩, ?_, ?_⟩
    · intro e' he'
      rcases List.mem_cons.1 he' with rfl | he'
      · refine ⟨hfree, ?_⟩
        rw [hrest _ hnew, Function.update_self]
      · have hne : e'.1 ≠ e.1 := fun heq => hnew (heq ▸ List.mem_map_of_mem he')
        obtain ⟨hnone, hsome⟩ := hentries e' he'
        rw [Function.update_of_ne hne] at hnone
        exact ⟨hnone, hsome⟩
    · intro k hk
      simp only [List.map_cons, List.mem_cons, not_or] at hk
      rw [hrest k hk.2, Function.update_of_ne hk.1]

/-- Additions at distinct free keys succeed. -/
theorem exists_runAll_adds {t : κ → Option β} {es : List (κ × β)}
    (hnodup : (es.map Prod.fst).Nodup) (hfree : ∀ e ∈ es, t e.1 = none) :
    ∃ t', runAll t (adds es) = some t' := by
  induction es generalizing t with
  | nil => exact ⟨t, rfl⟩
  | cons e es ih =>
    rw [List.map_cons, List.nodup_cons] at hnodup
    have hfree' : ∀ e' ∈ es, Function.update t e.1 (some e.2) e'.1 = none := by
      intro e' he'
      have hne : e'.1 ≠ e.1 := fun heq => hnodup.1 (heq ▸ List.mem_map_of_mem he')
      rw [Function.update_of_ne hne]
      exact hfree e' (List.mem_cons_of_mem _ he')
    obtain ⟨t', ht'⟩ := ih hnodup.2 hfree'
    have hrun : (Op.add e.1 e.2).run t = some (Function.update t e.1 (some e.2)) :=
      run_add_eq_some.2 ⟨hfree e List.mem_cons_self, rfl⟩
    refine ⟨t', ?_⟩
    rw [adds, List.map_cons, runAll_cons, hrun, Option.bind_some]
    exact ht'

/-- Deleting distinct keys that all have an entry succeeds. -/
theorem runAll_dels {t : κ → Option β} {ks : List κ} (hnodup : ks.Nodup)
    (hpresent : ∀ k ∈ ks, (t k).isSome) :
    runAll t (dels ks) = some fun k => if k ∈ ks then none else t k := by
  induction ks generalizing t with
  | nil => simp [dels]
  | cons k ks ih =>
    obtain ⟨hk, hnodup⟩ := List.nodup_cons.1 hnodup
    have hrun : (Op.del (β := β) k).run t = some (Function.update t k none) :=
      run_del_eq_some.2 ⟨hpresent k (by simp), rfl⟩
    have hpresent' : ∀ k' ∈ ks, (Function.update t k none k').isSome := by
      intro k' hk'
      have hne : k' ≠ k := by rintro rfl; exact hk hk'
      rw [Function.update_of_ne hne]
      exact hpresent k' (by simp [hk'])
    rw [dels, List.map_cons, runAll_cons, hrun, Option.bind_some]
    change runAll (Function.update t k none) (dels ks) = _
    rw [ih hnodup hpresent']
    congr 1
    funext k'
    by_cases h : k' = k
    · simp [h]
    · simp [h]

/-- **Deletions undo additions**: after successful additions, deleting their keys in any order
succeeds key by key and gives the first store back. -/
theorem runAll_dels_of_adds {t t' : κ → Option β} {es : List (κ × β)} {ks : List κ}
    (h : runAll t (adds es) = some t') (hks : ks.Perm (es.map Prod.fst)) :
    runAll t' (dels ks) = some t := by
  obtain ⟨hnodup, hentries, hrest⟩ := runAll_adds h
  have hmem : ∀ k, k ∈ ks ↔ ∃ e ∈ es, e.1 = k := by
    intro k
    rw [hks.mem_iff, List.mem_map]
  have hpresent : ∀ k ∈ ks, (t' k).isSome := by
    intro k hk
    obtain ⟨e, he, rfl⟩ := (hmem k).1 hk
    rw [(hentries e he).2, Option.isSome_some]
  rw [runAll_dels (hks.nodup_iff.2 hnodup) hpresent]
  congr 1
  funext k
  by_cases hk : k ∈ ks
  · obtain ⟨e, he, rfl⟩ := (hmem k).1 hk
    rw [if_pos hk, (hentries e he).1]
  · rw [if_neg hk, hrest k (fun hk' => hk (hks.mem_iff.2 hk'))]

/-! ## Attempted additions -/

theorem attempt_add (t : κ → Option β) (k : κ) (b : β) (k' : κ) :
    attempt t (.add k b) k' = if k' = k then (t k).or (some b) else t k' := by
  simp only [attempt, Op.run]
  split
  · rename_i hnone
    by_cases h : k' = k
    · subst h; simp_all
    · simp [h]
  · rename_i hsome
    by_cases h : k' = k
    · subst h
      obtain ⟨c, hc⟩ := Option.ne_none_iff_exists'.1 (by simpa using hsome)
      simp [hc]
    · simp [h]

/-- An attempted addition never changes an entry that is there. -/
theorem attemptAll_adds_of_some {t : κ → Option β} {k : κ} {b : β} (h : t k = some b)
    (es : List (κ × β)) : attemptAll t (adds es) k = some b := by
  induction es generalizing t with
  | nil => exact h
  | cons e es ih =>
    have hstep : attempt t (.add e.1 e.2) k = some b := by
      rw [attempt_add]
      by_cases hk : k = e.1
      · simp [← hk, h]
      · simp [hk, h]
    change attemptAll (attempt t (.add e.1 e.2)) (adds es) k = some b
    exact ih hstep

/-- Additions of one value, each attempted, fill exactly the keys that were free. -/
theorem attemptAll_adds_const (t : κ → Option β) (b : β) (ks : List κ) (k : κ) :
    attemptAll t (adds (ks.map fun k => (k, b))) k =
      if k ∈ ks then (t k).or (some b) else t k := by
  induction ks generalizing t with
  | nil => simp [attemptAll, adds]
  | cons k' ks ih =>
    change attemptAll (attempt t (.add k' b)) (adds (ks.map fun k => (k, b))) k = _
    rw [ih, attempt_add]
    by_cases h : k = k' <;> by_cases h' : k ∈ ks <;> simp [h, h']

end KeyedStore
