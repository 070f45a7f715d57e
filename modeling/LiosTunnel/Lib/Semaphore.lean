import Mathlib.Tactic

/-!
# Counting semaphores

A fair counting semaphore: whoever finds no permit waits in line, and a permit that comes back goes
to the one that waits longest before it is counted as available again. Around it a pool: callers
that draw a permit, work with it, and either give it back or leave it with a guard that gives it
back when it is dropped.

* `Semaphore.acquire`, `Semaphore.release`, `Semaphore.withdraw`: the semaphore alone.
* `PermitPool`: where the permits of one semaphore are, with `request`, `wake`, `leave`, `keep` and
  `dropGuard` for what its callers do.
* `PermitPool.total`: the permits there are, the same after each of these.
* `PermitPool.Busy`: no permit is idle while somebody waits.
-/

/-- A fair counting semaphore. -/
structure Semaphore (α : Type*) where
  available : ℕ
  /-- Who waits for a permit, the longest waiting first. -/
  waiters : List α
  deriving DecidableEq

namespace Semaphore

variable {α : Type*}

def new (n : ℕ) : Semaphore α := ⟨n, []⟩

/-- A caller asks for a permit: it has one, or it waits. -/
def acquire (s : Semaphore α) (a : α) : Bool × Semaphore α :=
  if 0 < s.available then (true, { s with available := s.available - 1 })
  else (false, { s with waiters := s.waiters ++ [a] })

/-- A permit comes back: to the one that waits longest, if there is one. -/
def release (s : Semaphore α) : Option α × Semaphore α :=
  match s.waiters with
  | [] => (none, { s with available := s.available + 1 })
  | a :: waiters => (some a, { s with waiters })

/-- The `i`-th waiter gives up. -/
def withdraw (s : Semaphore α) (i : ℕ) : Semaphore α := { s with waiters := s.waiters.eraseIdx i }

end Semaphore

/-- Where the permits of one semaphore are. -/
structure PermitPool (α β : Type*) where
  limit : Semaphore α
  /-- Callers that a permit was handed to and that have not gone on yet. -/
  granted : List α
  /-- Callers that work with a permit. -/
  working : List α
  /-- What holds a permit after its caller is done. -/
  guards : List β
  deriving DecidableEq

namespace PermitPool

variable {α β : Type*}

def new (n : ℕ) : PermitPool α β := ⟨.new n, [], [], []⟩

/-- The callers that hold a permit. -/
def holding (p : PermitPool α β) : ℕ := p.granted.length + p.working.length

/-- All permits. -/
def total (p : PermitPool α β) : ℕ := p.limit.available + p.holding + p.guards.length

/-- No permit is idle while somebody waits. -/
def Busy (p : PermitPool α β) : Prop := p.limit.waiters ≠ [] → p.limit.available = 0

/-- A caller comes. -/
def request (p : PermitPool α β) (a : α) : PermitPool α β :=
  match p.limit.acquire a with
  | (true, limit) => { p with limit, working := p.working ++ [a] }
  | (false, limit) => { p with limit }

/-- A permit comes back. -/
def giveBack (p : PermitPool α β) : PermitPool α β :=
  match p.limit.release with
  | (none, limit) => { p with limit }
  | (some a, limit) => { p with limit, granted := p.granted ++ [a] }

/-- The `i`-th of those that a permit was handed to goes on. -/
def wake (p : PermitPool α β) (i : ℕ) : Option (PermitPool α β) :=
  p.granted[i]?.map fun a =>
    { p with granted := p.granted.eraseIdx i, working := p.working ++ [a] }

/-- How far a caller is. -/
inductive Stage
  | waiting
  | granted
  | working
  deriving DecidableEq, Repr

/-- The `i`-th caller of a stage goes, and gives back the permit it holds. -/
def leave (p : PermitPool α β) : Stage → ℕ → Option (PermitPool α β)
  | .waiting, i => p.limit.waiters[i]?.map fun _ => { p with limit := p.limit.withdraw i }
  | .granted, i => p.granted[i]?.map fun _ => { p with granted := p.granted.eraseIdx i }.giveBack
  | .working, i => p.working[i]?.map fun _ => { p with working := p.working.eraseIdx i }.giveBack

/-- The `i`-th working caller is done, and its permit stays with the guard it makes. -/
def keep (p : PermitPool α β) (i : ℕ) (guard : α → β) : Option (PermitPool α β) :=
  p.working[i]?.map fun a =>
    { p with working := p.working.eraseIdx i, guards := p.guards ++ [guard a] }

/-- The `i`-th guard is dropped. -/
def dropGuard (p : PermitPool α β) (i : ℕ) : Option (PermitPool α β) :=
  p.guards[i]?.map fun _ => { p with guards := p.guards.eraseIdx i }.giveBack

/-! ## A caller that comes -/

theorem working_request {p : PermitPool α β} (a : α) (h : 0 < p.limit.available) :
    (p.request a).working = p.working ++ [a] := by
  rw [request, Semaphore.acquire, if_pos h]

theorem waiters_request {p : PermitPool α β} (a : α) (h : p.limit.available = 0) :
    (p.request a).limit.waiters = p.limit.waiters ++ [a] := by
  rw [request, Semaphore.acquire, if_neg h.not_gt]

/-! ## No permit is lost or made -/

variable {p p' : PermitPool α β}

theorem length_eraseIdx_of_some {γ : Type*} {l : List γ} {i : ℕ} {x : γ} (h : l[i]? = some x) :
    (l.eraseIdx i).length + 1 = l.length := by
  obtain ⟨hi, -⟩ := List.getElem?_eq_some_iff.1 h
  rw [List.length_eraseIdx_of_lt hi]
  omega

@[simp] theorem total_new (n : ℕ) : (new n : PermitPool α β).total = n := rfl

theorem total_request (a : α) : (p.request a).total = p.total := by
  simp only [request, Semaphore.acquire, total, holding]
  split
  · next h =>
    split at h
    · next havail =>
      obtain rfl := (Prod.mk.inj h).2
      simp only [List.length_append, List.length_singleton]
      omega
    · cases h
  · next h =>
    split at h
    · cases h
    · obtain rfl := (Prod.mk.inj h).2
      rfl

/-- What comes back is one permit more, wherever it goes. -/
theorem total_giveBack : p.giveBack.total = p.total + 1 := by
  simp only [giveBack, Semaphore.release, total, holding]
  cases p.limit.waiters with
  | nil => simp only; omega
  | cons a waiters =>
    simp only [List.length_append, List.length_singleton]
    omega

theorem guards_giveBack : p.giveBack.guards = p.guards := by
  simp only [giveBack, Semaphore.release]
  cases p.limit.waiters <;> rfl

theorem guards_request (a : α) : (p.request a).guards = p.guards := by
  rw [request]
  split <;> rfl

theorem total_wake {i : ℕ} (h : p.wake i = some p') : p'.total = p.total := by
  obtain ⟨a, ha, rfl⟩ := Option.map_eq_some_iff.1 h
  have hlen := length_eraseIdx_of_some ha
  simp only [total, holding, List.length_append, List.length_singleton]
  omega

theorem guards_wake {i : ℕ} (h : p.wake i = some p') : p'.guards = p.guards := by
  obtain ⟨a, -, rfl⟩ := Option.map_eq_some_iff.1 h
  rfl

theorem total_leave {stage : Stage} {i : ℕ} (h : p.leave stage i = some p') :
    p'.total = p.total := by
  cases stage with
  | waiting =>
    obtain ⟨a, -, rfl⟩ := Option.map_eq_some_iff.1 h
    rfl
  | granted =>
    obtain ⟨a, ha, rfl⟩ := Option.map_eq_some_iff.1 h
    have hlen := length_eraseIdx_of_some ha
    rw [total_giveBack]
    simp only [total, holding]
    omega
  | working =>
    obtain ⟨a, ha, rfl⟩ := Option.map_eq_some_iff.1 h
    have hlen := length_eraseIdx_of_some ha
    rw [total_giveBack]
    simp only [total, holding]
    omega

theorem guards_leave {stage : Stage} {i : ℕ} (h : p.leave stage i = some p') :
    p'.guards = p.guards := by
  cases stage with
  | waiting =>
    obtain ⟨a, -, rfl⟩ := Option.map_eq_some_iff.1 h
    rfl
  | granted =>
    obtain ⟨a, -, rfl⟩ := Option.map_eq_some_iff.1 h
    exact guards_giveBack
  | working =>
    obtain ⟨a, -, rfl⟩ := Option.map_eq_some_iff.1 h
    exact guards_giveBack

theorem total_keep {i : ℕ} {guard : α → β} (h : p.keep i guard = some p') :
    p'.total = p.total := by
  obtain ⟨a, ha, rfl⟩ := Option.map_eq_some_iff.1 h
  have hlen := length_eraseIdx_of_some ha
  simp only [total, holding, List.length_append, List.length_singleton]
  omega

theorem length_guards_keep {i : ℕ} {guard : α → β} (h : p.keep i guard = some p') :
    p'.guards.length = p.guards.length + 1 := by
  obtain ⟨a, -, rfl⟩ := Option.map_eq_some_iff.1 h
  rw [List.length_append, List.length_singleton]

theorem total_dropGuard {i : ℕ} (h : p.dropGuard i = some p') : p'.total = p.total := by
  obtain ⟨b, hb, rfl⟩ := Option.map_eq_some_iff.1 h
  have hlen := length_eraseIdx_of_some hb
  rw [total_giveBack]
  simp only [total, holding]
  omega

theorem length_guards_dropGuard {i : ℕ} (h : p.dropGuard i = some p') :
    p'.guards.length + 1 = p.guards.length := by
  obtain ⟨b, hb, rfl⟩ := Option.map_eq_some_iff.1 h
  rw [guards_giveBack]
  exact length_eraseIdx_of_some hb

/-! ## No permit is idle while somebody waits -/

theorem Busy.new (n : ℕ) : (PermitPool.new n : PermitPool α β).Busy := fun h => absurd rfl h

theorem Busy.request (a : α) (h : p.Busy) : (p.request a).Busy := by
  unfold PermitPool.request Semaphore.acquire
  by_cases havail : 0 < p.limit.available
  · rw [if_pos havail]
    intro hwait
    have hnone := h hwait
    omega
  · rw [if_neg havail]
    intro _
    exact Nat.eq_zero_of_not_pos havail

theorem Busy.giveBack (h : p.Busy) : p.giveBack.Busy := by
  unfold PermitPool.giveBack Semaphore.release
  rcases hw : p.limit.waiters with _ | ⟨a, waiters⟩
  · intro hwait
    exact absurd rfl hwait
  · intro _
    exact h (hw ▸ List.cons_ne_nil a waiters)

theorem Busy.wake {i : ℕ} (h : p.Busy) (hp : p.wake i = some p') : p'.Busy := by
  obtain ⟨a, -, rfl⟩ := Option.map_eq_some_iff.1 hp
  exact h

theorem Busy.leave {stage : Stage} {i : ℕ} (h : p.Busy) (hp : p.leave stage i = some p') :
    p'.Busy := by
  cases stage with
  | waiting =>
    obtain ⟨a, ha, rfl⟩ := Option.map_eq_some_iff.1 hp
    intro _
    refine h fun hnil => ?_
    rw [hnil] at ha
    cases ha
  | granted =>
    obtain ⟨a, -, rfl⟩ := Option.map_eq_some_iff.1 hp
    exact Busy.giveBack h
  | working =>
    obtain ⟨a, -, rfl⟩ := Option.map_eq_some_iff.1 hp
    exact Busy.giveBack h

theorem Busy.keep {i : ℕ} {guard : α → β} (h : p.Busy) (hp : p.keep i guard = some p') :
    p'.Busy := by
  obtain ⟨a, -, rfl⟩ := Option.map_eq_some_iff.1 hp
  exact h

theorem Busy.dropGuard {i : ℕ} (h : p.Busy) (hp : p.dropGuard i = some p') : p'.Busy := by
  obtain ⟨b, -, rfl⟩ := Option.map_eq_some_iff.1 hp
  exact Busy.giveBack h

end PermitPool
