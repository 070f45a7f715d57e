import Mathlib.Tactic

/-!
# Computations that take time

A computation emits events, lets time pass, and ends with a value or never. A deadline cuts it off,
and a loop takes alternatives in turn until one is decisive.

* `Timed`, `Timed.bind`: the computation and what follows it.
* `Timed.trace`, `Timed.result`, `Timed.time`: what is observed.
* `Timed.Answer`: a call to wait for.
* `Timed.timeout`: the deadline (`result_timeout`, `time_timeout_le`, `trace_timeout_prefix`).
* `Timed.firstOf`: the loop (`firstOf_cases`).
-/

/-- A computation that emits events of `ε` and ends with an `α`. -/
inductive Timed (ε α : Type)
  | done (a : α)
  | emit (e : ε) (k : Timed ε α)
  | wait (d : ℕ) (k : Timed ε α)
  | never
  deriving Repr

namespace Timed

variable {ε α β φ ι : Type}

/-- One computation after the other. -/
def bind : Timed ε α → (α → Timed ε β) → Timed ε β
  | done a, f => f a
  | emit e k, f => emit e (k.bind f)
  | wait d k, f => wait d (k.bind f)
  | never, _ => never

/-- The same for fallible computations; the second one follows a success. -/
def andThen {δ : Type} (c : Timed ε (Except δ α)) (f : α → Timed ε (Except δ β)) :
    Timed ε (Except δ β) :=
  c.bind fun
    | .ok a => f a
    | .error e => done (.error e)

/-- What is emitted, in order. -/
def trace : Timed ε α → List ε
  | done _ => []
  | emit e k => e :: k.trace
  | wait _ k => k.trace
  | never => []

/-- What it ends with, if it does. -/
def result : Timed ε α → Option α
  | done a => some a
  | emit _ k => k.result
  | wait _ k => k.result
  | never => none

/-- How long it takes, up to its end or to the point from which on nothing happens. -/
def time : Timed ε α → ℕ
  | done _ => 0
  | emit _ k => k.time
  | wait d k => d + k.time
  | never => 0

/-- The computation until a deadline; `none` if it did not end by then. -/
def timeout : ℕ → Timed ε α → Timed ε (Option α)
  | _, done a => done (some a)
  | T, emit e k => emit e (timeout T k)
  | T, wait d k => if d ≤ T then wait d (timeout (T - d) k) else wait T (done none)
  | T, never => wait T (done none)

/-- When a call returns and what; `none` if it never does. -/
abbrev Answer (α : Type) := Option (ℕ × α)

/-- Waiting for a call to return. -/
def Answer.wait : Answer α → Timed ε α
  | none => never
  | some (d, a) => .wait d (done a)

section Laws

variable (c : Timed ε α) (f : α → Timed ε β) {T : ℕ}

theorem trace_bind : (c.bind f).trace = c.trace ++ c.result.elim [] fun a => (f a).trace := by
  induction c with
  | done a => rfl
  | emit e k ih => exact congrArg (e :: ·) ih
  | wait d k ih => exact ih
  | never => rfl

theorem result_bind : (c.bind f).result = c.result.bind fun a => (f a).result := by
  induction c with
  | done a => rfl
  | emit e k ih => exact ih
  | wait d k ih => exact ih
  | never => rfl

theorem time_bind : (c.bind f).time = c.time + c.result.elim 0 fun a => (f a).time := by
  induction c with
  | done a => exact (Nat.zero_add _).symm
  | emit e k ih => exact ih
  | wait d k ih => rw [bind, time, ih, time, Nat.add_assoc, result]
  | never => rfl

theorem result_timeout : (c.timeout T).result = some (if c.time ≤ T then c.result else none) := by
  induction c generalizing T with
  | done a => rfl
  | emit e k ih => exact ih
  | wait d k ih =>
    by_cases hd : d ≤ T
    · rw [timeout, if_pos hd, result, ih, time, result]
      exact congrArg some (if_congr (by omega) rfl rfl)
    · rw [timeout, if_neg hd, time, if_neg (by omega)]
      rfl
  | never => exact congrArg some (ite_self _).symm

/-- A deadline is kept. -/
theorem time_timeout_le : (c.timeout T).time ≤ T := by
  induction c generalizing T with
  | done a => exact Nat.zero_le T
  | emit e k ih => exact ih
  | wait d k ih =>
    by_cases hd : d ≤ T
    · have hk := ih (T := T - d)
      rw [timeout, if_pos hd, time]
      omega
    · rw [timeout, if_neg hd]
      exact Nat.le_refl T
  | never => exact Nat.le_refl T

/-- A deadline cuts off what would be emitted later. -/
theorem trace_timeout_prefix : (c.timeout T).trace <+: c.trace := by
  induction c generalizing T with
  | done a => exact List.prefix_refl []
  | emit e k ih => exact (List.prefix_cons_inj e).2 ih
  | wait d k ih =>
    by_cases hd : d ≤ T
    · rw [timeout, if_pos hd]
      exact ih
    · rw [timeout, if_neg hd]
      exact List.nil_prefix
  | never => exact List.prefix_refl []

end Laws

section Fallible

variable {δ : Type} {c : Timed ε (Except δ α)} {f : α → Timed ε (Except δ β)} {a : α} {b : β}

end Fallible

/-! ## Alternatives in turn -/

/-- The loop over alternatives: a decisive one (`inl`) ends it, and the failure of the last one is
kept. -/
def firstOf (attempt : ι → Timed ε (β ⊕ φ)) : Option φ → List ι → Timed ε (β ⊕ Option φ)
  | last, [] => done (.inr last)
  | _, i :: rest => (attempt i).bind fun
    | .inl b => done (.inl b)
    | .inr e => firstOf attempt (some e) rest

section FirstOf

variable {attempt : ι → Timed ε (β ⊕ φ)} {outcome : ι → β ⊕ φ} {last : Option φ} {is : List ι}

variable (last is) in
theorem firstOf_cons_inl {i : ι} {b : β} (h : (attempt i).result = some (.inl b)) :
    (firstOf attempt last (i :: is)).trace = (attempt i).trace ∧
      (firstOf attempt last (i :: is)).result = some (.inl b) := by
  rw [firstOf, trace_bind, result_bind, h]
  exact ⟨List.append_nil _, rfl⟩

variable (last is) in
theorem firstOf_cons_inr {i : ι} {e : φ} (h : (attempt i).result = some (.inr e)) :
    (firstOf attempt last (i :: is)).trace =
        (attempt i).trace ++ (firstOf attempt (some e) is).trace ∧
      (firstOf attempt last (i :: is)).result = (firstOf attempt (some e) is).result := by
  rw [firstOf, trace_bind, result_bind, h]
  exact ⟨rfl, rfl⟩

variable (last) in
/-- Where every attempt ends, the loop takes the alternatives in order up to the first decisive one,
whose outcome is its own, or takes all of them, and the last failure is what is left. -/
theorem firstOf_cases (h : ∀ i ∈ is, (attempt i).result = some (outcome i)) :
    (∃ tried i rest b, is = tried ++ i :: rest ∧ (∀ j ∈ tried, ∃ e, outcome j = .inr e) ∧
      outcome i = .inl b ∧ (firstOf attempt last is).result = some (.inl b) ∧
      (firstOf attempt last is).trace = (tried ++ [i]).flatMap fun j => (attempt j).trace) ∨
    ((∀ j ∈ is, ∃ e, outcome j = .inr e) ∧
      (firstOf attempt last is).trace = is.flatMap (fun j => (attempt j).trace) ∧
      ∃ failure, (firstOf attempt last is).result = some (.inr failure) ∧
        (is = [] → failure = last) ∧
        ∀ j ∈ is.getLast?, ∃ e, outcome j = .inr e ∧ failure = some e) := by
  induction is generalizing last with
  | nil =>
    exact Or.inr ⟨fun _ hj => (nomatch hj), rfl, last, rfl, fun _ => rfl, fun _ hj => (nomatch hj)⟩
  | cons i is ih =>
    have hi := h i List.mem_cons_self
    have his := fun j hj => h j (List.mem_cons_of_mem i hj)
    cases ho : outcome i with
    | inl b =>
      obtain ⟨htrace, hresult⟩ := firstOf_cons_inl last is (hi.trans (by rw [ho]))
      refine Or.inl ⟨[], i, is, b, rfl, fun _ hj => (nomatch hj), ho, hresult, ?_⟩
      rw [htrace]
      exact (List.append_nil _).symm
    | inr e =>
      obtain ⟨htrace, hresult⟩ := firstOf_cons_inr last is (hi.trans (by rw [ho]))
      have hcons : ∀ {l : List ι}, (∀ j ∈ l, ∃ e, outcome j = .inr e) →
          ∀ j ∈ i :: l, ∃ e, outcome j = .inr e := fun hl => List.forall_mem_cons.2 ⟨⟨e, ho⟩, hl⟩
      obtain ⟨tried, i', rest, b, rfl, htried, ho', hresult', htrace'⟩ |
        ⟨hall, htrace', failure, hresult', hnil, hlast⟩ := ih (some e) his
      · refine Or.inl ⟨i :: tried, i', rest, b, rfl, hcons htried, ho', hresult.trans hresult', ?_⟩
        rw [htrace, htrace']
        rfl
      · refine Or.inr ⟨hcons hall, ?_, failure, hresult.trans hresult', fun h => (nomatch h), ?_⟩
        · rw [htrace, htrace']
          rfl
        · cases is with
          | nil =>
            rintro j ⟨⟩
            exact ⟨e, ho, hnil rfl⟩
          | cons i' is => exact hlast

variable (last) in
/-- Alternatives that keep a deadline each take as many of them at most. -/
theorem time_firstOf_le {T : ℕ} (h : ∀ i ∈ is, (attempt i).time ≤ T) :
    (firstOf attempt last is).time ≤ is.length * T := by
  induction is generalizing last with
  | nil => exact Nat.zero_le _
  | cons i is ih =>
    have hi := h i List.mem_cons_self
    have his := fun last => ih last fun j hj => h j (List.mem_cons_of_mem i hj)
    rw [firstOf, time_bind, List.length_cons, Nat.succ_mul]
    cases (attempt i).result with
    | none => exact (Nat.add_le_add_right hi _).trans (by simp only [Option.elim]; omega)
    | some o =>
      cases o with
      | inl b => exact (Nat.add_le_add_right hi _).trans (by simp only [Option.elim, time]; omega)
      | inr e =>
        have hrest := his (some e)
        simp only [Option.elim]
        omega

end FirstOf

end Timed
