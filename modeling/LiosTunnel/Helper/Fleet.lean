import LiosTunnel.Helper.Coverage
import LiosTunnel.Helper.SocketPath

/-!
# Any number of helpers, one routing table

`main.rs` binds the socket before it recovers, and drops the tunnel before the listener, so that all
of a helper's work on routes, resolvers and the record lies between its `flock` and the end of its
lock. Helpers on one path therefore do that work one after another: whatever they do together is a
run of the one helper of `step`.

* `Fleet`, `Fleet.Event`, `fleetStep`: the helpers, each with a job, and what they share.
* `Sim`: the one helper that does the work of them all; `Matched`, `sim_step`: how it keeps up.
* `sim_of_fleet`, `covered_of_fleet`: what holds of all of them together.
-/

namespace LiosTunnel.Helper

open Route Runs

/-- The helpers on one socket path, the job of each, and what they share: the record, the changes in
force, and the ghosts of `State`. -/
structure Fleet where
  listeners : Listener.State
  job : ℕ → Job
  os : ℕ → Os
  number : ℕ → ℕ
  file : StateFile
  inForce : Finset Change
  writer : ℕ
  count : ℕ

/-- What one of the helpers works on; one that starts is the next process. -/
def Fleet.view (c : Fleet) (q : ℕ) : State :=
  ⟨c.job q, c.file, c.inForce, c.os q, c.writer, if c.job q = .down then c.count else c.number q⟩

/-- What one of the helpers leaves. -/
def Fleet.put (c : Fleet) (q : ℕ) (s : State) : Fleet :=
  { c with
    job := Function.update c.job q s.job
    os := Function.update c.os q s.os
    number := Function.update c.number q s.process
    file := s.file
    inForce := s.inForce
    writer := s.writer
    count := max c.count s.process }

/-- One thing that happens to the helpers. -/
inductive Fleet.Event
  /-- A call of a helper that starts or ends, or what an outsider does at the path. -/
  | listener (e : Listener.Event)
  /-- `main` returns: the tunnel is gone, and the listener is dropped. -/
  | ends (q : ℕ)
  /-- `SIGKILL`. -/
  | kill (q : ℕ) (tookEffect : Bool)
  /-- A helper that has its socket goes on. -/
  | works (q : ℕ) (e : Helper.Event)
  | lapse (ch : Change)

/-- Events of the listener that are part of another event here. -/
def Listener.Event.Apart : Listener.Event → Bool
  | .kill _ | .call _ .drop => false
  | _ => true

/-- Events of a helper that come from within it. -/
def Event.Within : Event → Bool
  | .kill _ | .lapse _ => false
  | _ => true

/-- The helpers, one event at a time. -/
def fleetStep (manager : RouteManager) (args : ℕ → Listener.Args) (c : Fleet) :
    Fleet.Event → Option Fleet
  | .listener e =>
    if e.Apart then
      (Listener.step args c.listeners e).map fun l => { c with listeners := l }
    else none
  | .ends q =>
    if c.job q = .idle then
      (Listener.step args c.listeners (.call q .drop)).map fun l =>
        { c with listeners := l, job := Function.update c.job q .down }
    else none
  | .kill q tookEffect =>
    (Listener.step args c.listeners (.kill q)).map fun l =>
      match step manager (c.view q) (.kill tookEffect) with
      | some s => { c with listeners := l }.put q s
      | none => { c with listeners := l }
  | .works q e =>
    match c.listeners.procs q with
    | some ⟨_, .serving _⟩ =>
      if e.Within then (step manager (c.view q) e).map (c.put q) else none
    | _ => none
  | .lapse ch => some { c with inForce := c.inForce.erase ch }

/-- Before the first start. -/
def Fleet.first (f : Listener.Files) (os : Os) : Fleet :=
  ⟨.first f, fun _ => .down, fun _ => os, fun _ => 0, .missing, ∅, 0, 0⟩

/-- The lock file is not unlinked. -/
def Fleet.KeepsLock (_ : Fleet) : Fleet.Event → Prop
  | .listener e => e ≠ .outside .removeLock
  | _ => True

/-- The lock file is not unlinked, and what a helper works on is what one helper handles. -/
def Fleet.Careful (c : Fleet) : Fleet.Event → Prop
  | .listener e => e ≠ .outside .removeLock
  | .works q e => Helper.Careful (c.view q) e
  | _ => True

theorem Fleet.Careful.keepsLock {c : Fleet} {e : Fleet.Event} (h : c.Careful e) :
    c.KeepsLock e := by
  cases e with
  | listener e => exact h
  | _ => trivial

/-! ## One helper that does the work -/

/-- The helper that does the work of them all: only one of them has work, and it has the lock. -/
structure Sim (c : Fleet) (s : State) : Prop where
  file : s.file = c.file
  inForce : s.inForce = c.inForce
  writer : s.writer = c.writer
  process : s.process = c.count
  locked : Listener.Locked c.listeners
  serving : ∀ q, c.job q ≠ .down → ∃ l sock, c.listeners.procs q = some ⟨l, .serving sock⟩
  works : ∀ q, c.job q ≠ .down → s.job = c.job q ∧ s.os = c.os q ∧ s.process = c.number q
  worker : s.job ≠ .down → ∃ q, c.job q ≠ .down

theorem Sim.first (f : Listener.Files) (os : Os) : Sim (.first f os) (.first os) where
  file := rfl
  inForce := rfl
  writer := rfl
  process := rfl
  locked := .first f
  serving _ h := absurd rfl h
  works _ h := absurd rfl h
  worker h := absurd rfl h

section

variable {manager : RouteManager} {args : ℕ → Listener.Args} {c c' : Fleet}
  {s s' : State} {q q' : ℕ}

/-- A helper that serves is the only one with work. -/
theorem Sim.alone (h : Sim c s) {l : ℕ} {sock : Listener.Sock}
    (hq : c.listeners.procs q = some ⟨l, .serving sock⟩) (hq' : c.job q' ≠ .down) : q' = q := by
  obtain ⟨l', sock', hserving⟩ := h.serving q' hq'
  exact h.locked.exclusive ⟨_, hserving, (fun h => nomatch h)⟩ ⟨_, hq, fun h => nomatch h⟩

theorem Sim.eq_view (h : Sim c s) (hq : c.job q ≠ .down) : c.view q = s := by
  obtain ⟨hjob, hos, hprocess⟩ := h.works q hq
  cases s
  simp only [Fleet.view, if_neg hq, State.mk.injEq]
  exact ⟨hjob.symm, h.file.symm, h.inForce.symm, hos.symm, h.writer.symm, hprocess.symm⟩

theorem process_le_of_step {e : Event} (hstep : step manager s e = some s') :
    s.process ≤ s'.process := by
  unfold step at hstep
  repeat' split at hstep
  all_goals cases hstep
  all_goals first
    | exact le_rfl
    | exact Nat.le_succ s.process

/-- The work of the helper that serves is the work of the one. -/
theorem Sim.put (h : Sim c s) {l : ℕ} {sock : Listener.Sock}
    (hq : c.listeners.procs q = some ⟨l, .serving sock⟩) (hle : s.process ≤ s'.process) :
    Sim (c.put q s') s' := by
  have hother {q' : ℕ} (hne : q' ≠ q) : c.job q' = .down := by
    by_contra hq'
    exact hne (h.alone hq hq')
  refine ⟨rfl, rfl, rfl, ?_, h.locked, fun q' hq' => ?_, fun q' hq' => ?_, fun hjob => ⟨q, ?_⟩⟩
  · simp only [Fleet.put]
    rw [← h.process, max_eq_right hle]
  · by_cases hne : q' = q
    · exact ⟨l, sock, hne ▸ hq⟩
    · simp only [Fleet.put, Function.update_of_ne hne] at hq'
      exact h.serving q' hq'
  · by_cases hne : q' = q
    · subst hne
      simp [Fleet.put]
    · simp only [Fleet.put, Function.update_of_ne hne] at hq'
      exact absurd (hother hne) hq'
  · simpa [Fleet.put] using hjob

/-- What the listeners do that serve, other than to end, leaves them serving. -/
theorem procs_of_apart {t t' : Listener.State} {e : Listener.Event} (he : e.Apart = true)
    (hstep : Listener.step args t e = some t') {l : ℕ} {sock : Listener.Sock}
    (hq : t.procs q = some ⟨l, .serving sock⟩) : t'.procs q = some ⟨l, .serving sock⟩ := by
  rcases hhelper : e.helper with _ | r
  · cases e with
    | outside o => cases o <;> obtain rfl := Option.some.inj hstep <;> exact hq
    | _ => cases hhelper
  · by_cases hr : r = q
    · subst hr
      cases Listener.moves_of_step hhelper hstep with
      | stays => exact hq
      | opens hp => cases hp.symm.trans hq
      | locks hp => cases hp.symm.trans hq
      | @calls call _ _ _ _ hp hcall =>
        cases hp.symm.trans hq
        cases call with
        | drop => cases he
        | _ => cases hcall
      | exits hp hpt =>
        cases hp.symm.trans hq
        rcases hpt with hpt | hpt | rfl
        · cases hpt
        · cases hpt
        · cases he
    · exact ((Listener.frame_of_step hstep hhelper).1 q hr).trans hq

theorem Sim.listeners (h : Sim c s) {t : Listener.State} (hlocked : Listener.Locked t)
    (hserving : ∀ q l sock, c.job q ≠ .down → c.listeners.procs q = some ⟨l, .serving sock⟩ →
      ∃ l sock, t.procs q = some ⟨l, .serving sock⟩) :
    Sim { c with listeners := t } s where
  file := h.file
  inForce := h.inForce
  writer := h.writer
  process := h.process
  locked := hlocked
  serving q hq := by
    obtain ⟨l, sock, hprocs⟩ := h.serving q hq
    exact hserving q l sock hq hprocs
  works := h.works
  worker := h.worker

/-- A helper that was started and has no work begins with its recovery. -/
theorem boot_of_down {e : Event} (hjob : s.job = .down) (he : e.Within = true)
    (hstep : step manager s e = some s') : ∃ os, e = .boot os := by
  cases e with
  | boot os => exact ⟨os, rfl⟩
  | kill | lapse => cases he
  | connect | saved | command | finished | disconnect | startFails => simp [step, hjob] at hstep

/-- The recovery does not look at the process that was there before. -/
theorem boot_congr {t : State} (hs : s.job = .down) (ht : t.job = .down) (hfile : s.file = t.file)
    (hinForce : s.inForce = t.inForce) (hwriter : s.writer = t.writer)
    (hprocess : s.process = t.process) (os : Os) :
    step manager s (.boot os) = step manager t (.boot os) := by
  simp [step, hs, ht, hfile, hinForce, hwriter, hprocess]

/-- The one helper matches an event of the helpers, with as much care. -/
def Matched (manager : RouteManager) (c : Fleet) (s : State) (e : Fleet.Event) (c' : Fleet) :
    Prop :=
  ∃ es' s', (c.Careful e → Guarded (step manager) Careful s es') ∧
    run (step manager) s es' = some s' ∧ Sim c' s'

theorem Matched.single {e : Fleet.Event} (e' : Event) (hcareful : c.Careful e → Careful s e')
    (hs' : step manager s e' = some s') (hsim : Sim c' s') : Matched manager c s e c' := by
  refine ⟨[e'], s', fun hcare => ⟨hcareful hcare, fun _ _ => trivial⟩, ?_, hsim⟩
  rw [run_cons, hs']
  rfl

/-- The end of a helper is a kill of the one that meets it without work. -/
theorem Sim.matched_ends (h : Sim c s)
    (hstep : fleetStep manager args c (.ends q) = some c') : Matched manager c s (.ends q) c' := by
  simp only [fleetStep, Option.ite_none_right_eq_some, Option.map_eq_some_iff] at hstep
  obtain ⟨hidle, t, ht, rfl⟩ := hstep
  have hq : c.job q ≠ .down := by simp [hidle]
  obtain ⟨l, sock, hserving⟩ := h.serving q hq
  have hjob : s.job = .idle := (h.works q hq).1.trans hidle
  have hdown {q' : ℕ} (hq' : Function.update c.job q .down q' ≠ .down) : False := by
    by_cases hne : q' = q
    · subst hne
      simp at hq'
    · rw [Function.update_of_ne hne] at hq'
      exact hne (h.alone hserving hq')
  refine .single (.kill false) (fun _ => trivial) (?_ : _ = some { s with job := .down }) ?_
  · simp [step, hjob, State.running]
  · exact ⟨h.file, h.inForce, h.writer, h.process,
      h.locked.step (by simp [Listener.KeepsLock]) ht,
      (fun q' hq' => (hdown hq').elim), (fun q' hq' => (hdown hq').elim),
      fun hne => absurd rfl hne⟩

/-- A kill of the helper with work is a kill of the one; of another it is nothing. -/
theorem Sim.matched_kill (h : Sim c s) {tookEffect : Bool}
    (hstep : fleetStep manager args c (.kill q tookEffect) = some c') :
    Matched manager c s (.kill q tookEffect) c' := by
  obtain ⟨t, ht, hc'⟩ := Option.map_eq_some_iff.1 hstep
  have hlocked : Listener.Locked t := h.locked.step (by simp [Listener.KeepsLock]) ht
  by_cases hq : c.job q = .down
  · -- it has no work yet, or no more
    have hnone : step manager (c.view q) (.kill tookEffect) = none := by
      simp [step, Fleet.view, hq]
    rw [hnone] at hc'
    subst hc'
    refine ⟨[], s, fun _ => trivial, rfl,
      h.listeners hlocked fun q' l sock hq' hprocs => ⟨l, sock, ?_⟩⟩
    have hne : q ≠ q' := by
      rintro rfl
      exact hq' hq
    exact ((Listener.frame_of_step ht rfl).1 q' hne).trans hprocs
  · obtain ⟨l, sock, hserving⟩ := h.serving q hq
    obtain ⟨s', hs', hdown⟩ :
        ∃ s', step manager s (.kill tookEffect) = some s' ∧ s'.job = .down := by
      have hjob : s.job ≠ .down := by
        rw [(h.works q hq).1]
        exact hq
      simp only [step]
      exact ⟨_, rfl, rfl⟩
    rw [h.eq_view hq, hs'] at hc'
    subst hc'
    refine .single (.kill tookEffect) (fun _ => trivial) hs' ?_
    have hput := h.put hserving (process_le_of_step hs')
    have hnone {q' : ℕ} (hq' : (c.put q s').job q' ≠ .down) : False := by
      rw [← (hput.works q' hq').1] at hq'
      exact hq' hdown
    exact ⟨hput.file, hput.inForce, hput.writer, hput.process, hlocked,
      (fun q' hq' => (hnone hq').elim), hput.works, hput.worker⟩

/-- What a helper works on, its recovery first, the one works on. -/
theorem Sim.matched_works (h : Sim c s) {e : Event}
    (hstep : fleetStep manager args c (.works q e) = some c') :
    Matched manager c s (.works q e) c' := by
  simp only [fleetStep] at hstep
  split at hstep
  · rename_i l sock hserving
    simp only [Option.ite_none_right_eq_some, Option.map_eq_some_iff] at hstep
    obtain ⟨hwithin, s', hs', rfl⟩ := hstep
    by_cases hq : c.job q = .down
    · have hview : (c.view q).job = .down := hq
      obtain ⟨os, rfl⟩ := boot_of_down hview hwithin hs'
      have hdown : s.job = .down := by
        by_contra hjob
        obtain ⟨q', hq'⟩ := h.worker hjob
        obtain rfl := h.alone hserving hq'
        exact hq' hq
      have hprocess : (c.view q).process = s.process := by
        rw [h.process, Fleet.view, if_pos hq]
      rw [boot_congr hview hdown h.file.symm h.inForce.symm h.writer.symm hprocess os] at hs'
      refine .single (.boot os) (fun hcare r hr => ?_) hs'
        (h.put hserving (process_le_of_step hs'))
      exact hcare r (h.file.symm.trans hr)
    · rw [h.eq_view hq] at hs'
      refine .single e (fun hcare => ?_) hs' (h.put hserving (process_le_of_step hs'))
      exact h.eq_view hq ▸ (hcare : Careful (c.view q) e)
  · cases hstep

/-- **One event of the helpers is matched by the one helper**, with as much care. -/
theorem sim_step {e : Fleet.Event} (h : Sim c s) (hlock : c.KeepsLock e)
    (hstep : fleetStep manager args c e = some c') : Matched manager c s e c' := by
  cases e with
  | listener e =>
    simp only [fleetStep, Option.ite_none_right_eq_some, Option.map_eq_some_iff] at hstep
    obtain ⟨hapart, t, ht, rfl⟩ := hstep
    exact ⟨[], s, fun _ => trivial, rfl, h.listeners (h.locked.step hlock ht) fun q l sock _ hq =>
      ⟨l, sock, procs_of_apart hapart ht hq⟩⟩
  | ends q => exact h.matched_ends hstep
  | kill q tookEffect => exact h.matched_kill hstep
  | works q e => exact h.matched_works hstep
  | lapse ch =>
    obtain rfl := Option.some.inj hstep
    have hs' : step manager s (.lapse ch) = some { s with inForce := s.inForce.erase ch } := rfl
    refine .single (.lapse ch) (fun _ => trivial) hs' ?_
    exact ⟨h.file, by rw [h.inForce], h.writer, h.process, h.locked, h.serving, h.works, h.worker⟩

/-- **Helpers on one path work one after another**: whatever any number of helpers do, in any order
and with any of them killed, as long as nobody unlinks the lock file, is on the routes, the
resolvers and the record what one helper does; and no two of them have work at the same time. -/
theorem sim_of_fleet {f : Listener.Files} {os : Os} {es : List Fleet.Event}
    (hes : Guarded (fleetStep manager args) Fleet.KeepsLock (.first f os) es)
    (hrun : run (fleetStep manager args) (.first f os) es = some c) :
    (∃ es' s, run (step manager) (.first os) es' = some s ∧ Sim c s) ∧
      ∀ q q', c.job q ≠ .down → c.job q' ≠ .down → q = q' := by
  have hmatch : ∀ c s e c', Sim c s → c.KeepsLock e → fleetStep manager args c e = some c' →
      ∃ es' s', Guarded (step manager) (fun _ _ => True) s es' ∧
        run (step manager) s es' = some s' ∧ Sim c' s' := by
    intro c s e c' h hlock hstep
    obtain ⟨es', s', -, hrun', hsim⟩ := sim_step h hlock hstep
    exact ⟨es', s', guarded_trivial s es', hrun', hsim⟩
  obtain ⟨es', s, -, hrun', hsim⟩ := run_simulates hmatch (.first f os) hes hrun
  refine ⟨⟨es', s, hrun', hsim⟩, fun q q' hq hq' => ?_⟩
  obtain ⟨l, sock, hserving⟩ := hsim.serving q' hq'
  exact hsim.alone hserving hq

end

/-- A helper that starts and gets as far as the pin of its connect. -/
def pinning : List Fleet.Event :=
  (Listener.startEvents 1 .notFound ⟨16, 7⟩ 0o755).map .listener ++ pinConnect.map (.works 1)

theorem guarded_pinning : Guarded (fleetStep linuxRoutes fun _ => ⟨501, 0⟩) Fleet.Careful
    (.first ⟨none, fun _ => ⟨0, 0⟩⟩ ⟨1, fun _ => .esrch⟩) pinning := by
  refine Guarded.append (guarded_of_forall (fun e he c => ?_) _) fun c hc => ?_
  · obtain ⟨call, hcall, rfl⟩ := List.mem_map.1 he
    have hall : ∀ e ∈ Listener.startEvents 1 .notFound ⟨16, 7⟩ 0o755, e ≠ .outside .removeLock := by
      decide
    exact hall call hcall
  · obtain rfl := Option.some.inj hc
    refine ⟨fun _ hr => (nomatch hr), fun c₁ h₁ => ?_⟩
    obtain rfl := Option.some.inj h₁
    exact ⟨rfl, fun _ _ => ⟨trivial, fun _ _ => ⟨trivial, fun _ _ => trivial⟩⟩⟩

theorem sim_of_fleet_pinning :
    ∃ c, run (fleetStep linuxRoutes fun _ => ⟨501, 0⟩)
        (.first ⟨none, fun _ => ⟨0, 0⟩⟩ ⟨1, fun _ => .esrch⟩) pinning = some c ∧
      ∃ es' s, run (step linuxRoutes) (.first ⟨1, fun _ => .esrch⟩) es' = some s ∧ Sim c s :=
  ⟨_, rfl, (sim_of_fleet (guarded_pinning.mono fun _ _ => Fleet.Careful.keepsLock) rfl).1⟩

/-! ## What covers the changes -/

/-- **Changes in force are covered, whichever helper made them**: after any careful events of any
number of helpers, in which nobody unlinks the lock file, each change in force is undone by the
record. -/
theorem covered_of_fleet {p : Platform} {args : ℕ → Listener.Args} {c : Fleet} {f : Listener.Files}
    {os : Os} {es : List Fleet.Event}
    (hes : Guarded (fleetStep p.manager args) Fleet.Careful (.first f os) es)
    (hrun : run (fleetStep p.manager args) (.first f os) es = some c) :
    ∀ ch ∈ c.inForce, ∃ r, c.file = .record r ∧ ch ∈ undone r.revert := by
  have hmatch : ∀ c s e c', Sim c s → c.Careful e → fleetStep p.manager args c e = some c' →
      ∃ es' s', Guarded (step p.manager) Careful s es' ∧
        run (step p.manager) s es' = some s' ∧ Sim c' s' := by
    intro c s e c' h hcare hstep
    obtain ⟨es', s', hes', hrun', hsim⟩ := sim_step h hcare.keepsLock hstep
    exact ⟨es', s', hes' hcare, hrun', hsim⟩
  obtain ⟨es', s, hes', hrun', hsim⟩ := run_simulates hmatch (.first f os) hes hrun
  have hinv : Inv p s := run_invariant (fun _ _ _ => step_inv) (inv_first os) hes' hrun'
  intro ch hch
  obtain ⟨r, hr, hmem⟩ := hinv.covers ch (hsim.inForce ▸ hch)
  exact ⟨r, hsim.file.symm.trans hr, hmem⟩

theorem covered_of_fleet_pinning :
    ∃ c, run (fleetStep linuxRoutes fun _ => ⟨501, 0⟩)
        (.first ⟨none, fun _ => ⟨0, 0⟩⟩ ⟨1, fun _ => .esrch⟩) pinning = some c ∧
      ∀ ch ∈ c.inForce, ∃ r, c.file = .record r ∧ ch ∈ undone r.revert :=
  ⟨_, rfl, covered_of_fleet (p := .linux) guarded_pinning rfl⟩

end LiosTunnel.Helper
