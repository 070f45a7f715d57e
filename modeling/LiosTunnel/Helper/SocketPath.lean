import LiosTunnel.Helper.Listener

/-!
# Who owns the socket path

The lock is on an inode, and the inode is the one at the lock path as long as nobody unlinks it
(`KeepsLock`). Then at most one helper is past its `flock`, and nothing another helper does reaches
the path. What a helper finds at the path at its end is its own socket, if outsiders leave the path
alone between a helper's look at it and what the helper does next (`Considerate`).

* `Locked`: the invariant of the lock, with `Locked.exclusive`.
* `alone_of_run`: what the others cannot do to the helper that holds the lock.
* `serving_of_run`: the socket of a helper that serves.
* `removes_own_of_run`, `present_iff_of_run`: what `Drop` removes, and what it leaves.
* `starts_iff_of_run`: when a helper can be started.
-/

namespace LiosTunnel.Helper.Listener

open Runs

variable {args : ℕ → Args} {s s' : State} {p q : ℕ}

/-- Past its `flock`. -/
def State.Holds (s : State) (p : ℕ) : Prop := ∃ pr, s.procs p = some pr ∧ pr.point ≠ .opened

/-- The lock file is not unlinked. -/
def KeepsLock (_ : State) (e : Event) : Prop := e ≠ .outside .removeLock

/-! ## One call -/

/-- What one call can do. -/
inductive Called (a : Args) (f : Files) : Point → Call → Files → Point → Prop
  | clears {r : Removal} {f' : Files} (hf : f.removeFile r = some f') (hr : r ≠ .failed) :
      Called a f .locked (.removeFile r) f' .cleared
  | gone {pt : Point} {c : Call} {f' : Files} (hpt : pt = .locked ∧ f' = f ∨ pt = .cleared)
      (hc : pt = .cleared → f' = f ∨ ∃ own mode, c = .bind (.unlistened own mode)) :
      Called a f pt c f' .closing
  | binds {own : FileId} {mode : ℕ} {f' : Files} (hf : f.bind own ⟨a.euid, mode⟩ = some f') :
      Called a f .cleared (.bind (.done own mode)) f' (.bound own)
  | records {own id : FileId} (hid : f.resolve = some id) :
      Called a f (.bound own) (.statPath (some id)) f (.made ⟨own, id⟩)
  | unstats (own : FileId) : Called a f (.bound own) (.statPath none) f (.unstatted own)
  | sets {sock : Sock} {f' : Files}
      (hf : f.change (fun b => { b with mode := socketMode }) = some f') :
      Called a f (.made sock) (.setPermissions true) f' (.moded sock)
  | ours (sock : Sock) (ha : a.authorizedUid = a.euid) :
      Called a f (.moded sock) (.giveToAuthorizedUid true) f (.serving sock)
  | gives {sock : Sock} {f' : Files}
      (hf : f.change (fun b => { b with owner := a.authorizedUid }) = some f') :
      Called a f (.moded sock) (.giveToAuthorizedUid true) f' (.serving sock)
  | drops {pt : Point} {c : Call} {sock : Sock}
      (hpt : pt = .made sock ∨ pt = .moded sock ∨ pt = .serving sock) :
      Called a f pt c f (.dropping sock)
  | finds {sock : Sock} (hid : f.resolve = some sock.id) :
      Called a f (.dropping sock) (.statPath (some sock.id)) f (.matched sock)
  | misses {sock : Sock} {r : Option FileId} (hr : f.Answers r) (hne : r ≠ some sock.id) :
      Called a f (.dropping sock) (.statPath r) f .closing
  | removes {pt : Point} {r : Removal} {f' : Files} (hf : f.removeFile r = some f')
      (hpt : ∃ own, pt = .unstatted own ∨ ∃ sock, pt = .matched sock) :
      Called a f pt (.removeFile r) f' .closing

/-- **What one call can do.** -/
theorem called_of_call {a : Args} {f f' : Files} {pt pt' : Point} {c : Call}
    (h : call a f pt c = some (f', pt')) : Called a f pt c f' pt' := by
  unfold call at h
  split at h
  · rename_i r
    obtain ⟨f₁, hf, heq⟩ := Option.map_eq_some_iff.1 h
    cases heq
    by_cases hr : r = .failed
    · subst hr
      obtain rfl := Option.some.inj hf
      exact .gone (Or.inl ⟨rfl, rfl⟩) fun h => nomatch h
    · rw [if_neg hr]
      exact .clears hf hr
  · obtain ⟨f₁, hf, heq⟩ := Option.map_eq_some_iff.1 h
    cases heq
    exact .binds hf
  · rename_i own mode
    obtain ⟨f₁, hf, heq⟩ := Option.map_eq_some_iff.1 h
    cases heq
    exact .gone (Or.inr rfl) fun _ => Or.inr ⟨own, mode, rfl⟩
  · cases h
    exact .gone (Or.inr rfl) fun _ => Or.inl rfl
  · rename_i own r
    split at h
    · rename_i hanswers
      cases h
      rcases r with _ | id
      · exact .unstats own
      · exact .records (hanswers.resolve_left (by simp)).symm
    · cases h
  · rename_i own r
    obtain ⟨f₁, hf, heq⟩ := Option.map_eq_some_iff.1 h
    cases heq
    exact .removes hf ⟨own, Or.inl rfl⟩
  · obtain ⟨f₁, hf, heq⟩ := Option.map_eq_some_iff.1 h
    cases heq
    exact .sets hf
  · cases h
    exact .drops (Or.inl rfl)
  · rename_i sock ok
    split at h
    · rename_i ha
      split at h
      · rename_i hok
        cases h
        rw [hok]
        exact .ours sock ha
      · cases h
    · split at h
      · rename_i hok
        obtain ⟨f₁, hf, heq⟩ := Option.map_eq_some_iff.1 h
        cases heq
        rw [hok]
        exact .gives hf
      · cases h
        exact .drops (Or.inr (Or.inl rfl))
  · cases h
    exact .drops (Or.inr (Or.inr rfl))
  · rename_i sock r
    split at h
    · rename_i hanswers
      cases h
      split
      · rename_i hr
        subst hr
        exact .finds (hanswers.resolve_left (by simp)).symm
      · rename_i hr
        exact .misses hanswers hr
    · cases h
  · rename_i sock r
    obtain ⟨f₁, hf, heq⟩ := Option.map_eq_some_iff.1 h
    cases heq
    exact .removes hf ⟨sock.own, Or.inr ⟨sock, rfl⟩⟩
  · cases h

/-- A call is made by a helper that holds the lock, and does not close the lock file. -/
theorem ne_opened_of_call {a : Args} {f f' : Files} {pt pt' : Point} {c : Call}
    (h : call a f pt c = some (f', pt')) : pt ≠ .opened ∧ pt' ≠ .opened := by
  cases called_of_call h <;> simp_all
  all_goals grind

/-- Whose event it is. -/
def Event.helper : Event → Option ℕ
  | .openLock p _ | .flock p _ | .call p _ | .release p | .kill p => some p
  | .outside _ => none

/-- What an event of helper `p` can do. -/
inductive Moves (args : ℕ → Args) (s : State) (p : ℕ) : Event → State → Prop
  | stays (e : Event) : Moves args s p e s
  | opens {e : Event} {l n : ℕ} (hp : s.procs p = none)
      (hl : s.lockFile = some l ∨ s.lockFile = none) :
      Moves args s p e { s with
        lockFile := some l
        nextInode := n
        procs := Function.update s.procs p (some ⟨l, .opened⟩) }
  | locks {e : Event} {l : ℕ} (hp : s.procs p = some ⟨l, .opened⟩) (hfree : s.locks l = none) :
      Moves args s p e { s with
        locks := Function.update s.locks l (some p)
        procs := Function.update s.procs p (some ⟨l, .locked⟩) }
  | calls {c : Call} {l : ℕ} {pt pt' : Point} {f : Files} (hp : s.procs p = some ⟨l, pt⟩)
      (hcall : call (args p) s.files pt c = some (f, pt')) :
      Moves args s p (.call p c)
        { s with files := f, procs := Function.update s.procs p (some ⟨l, pt'⟩) }
  | exits {e : Event} {pr : Proc} (hp : s.procs p = some pr)
      (hpt : pr.point = .opened ∨ pr.point = .closing ∨ e = .kill p) : Moves args s p e (s.exit p)

/-- **What one event of a helper can do.** -/
theorem moves_of_step {e : Event} (he : e.helper = some p) (hstep : step args s e = some s') :
    Moves args s p e s' := by
  cases e with
  | openLock p ok =>
    obtain rfl := Option.some.inj he
    simp only [step] at hstep
    split at hstep
    · cases hstep
    · rename_i hp
      split at hstep
      · split at hstep
        · rename_i l hl
          obtain rfl := Option.some.inj hstep
          -- the lock file is there already: the state names it as it was
          have hopens : Moves args s p (.openLock p ok)
              { s with
                lockFile := some l
                procs := Function.update s.procs p (some ⟨l, .opened⟩) } :=
            .opens hp (Or.inl hl)
          rwa [← hl] at hopens
        · rename_i hl
          obtain rfl := Option.some.inj hstep
          exact .opens hp (Or.inr hl)
      · obtain rfl := Option.some.inj hstep
        exact .stays _
  | flock p r =>
    obtain rfl := Option.some.inj he
    simp only [step] at hstep
    split at hstep
    · rename_i l hp
      split at hstep
      · split at hstep
        · rename_i hfree
          obtain rfl := Option.some.inj hstep
          exact .locks hp hfree
        · cases hstep
      · split at hstep
        · cases hstep
        · obtain rfl := Option.some.inj hstep
          exact .exits hp (Or.inl rfl)
      · obtain rfl := Option.some.inj hstep
        exact .exits hp (Or.inl rfl)
    · cases hstep
  | call p c =>
    obtain rfl := Option.some.inj he
    simp only [step] at hstep
    split at hstep
    · rename_i l pt hp
      obtain ⟨⟨f, pt'⟩, hcall, rfl⟩ := Option.map_eq_some_iff.1 hstep
      exact .calls hp hcall
    · cases hstep
  | release p =>
    obtain rfl := Option.some.inj he
    simp only [step] at hstep
    split at hstep
    · rename_i l hp
      obtain rfl := Option.some.inj hstep
      exact .exits hp (Or.inr (Or.inl rfl))
    · cases hstep
  | kill p =>
    obtain rfl := Option.some.inj he
    simp only [step] at hstep
    obtain ⟨pr, hp, rfl⟩ := Option.map_eq_some_iff.1 hstep
    exact .exits hp (Or.inr (Or.inr rfl))
  | outside o => cases he

/-! ## The lock -/

/-- Every helper has the one lock file open, and the lock is held by the helper past its `flock`. -/
structure Locked (s : State) : Prop where
  file : ∀ p pr, s.procs p = some pr → s.lockFile = some pr.lock
  holder : ∀ l p, s.locks l = some p ↔
    ∃ pr, s.procs p = some pr ∧ pr.lock = l ∧ pr.point ≠ .opened

theorem Locked.first (f : Files) : Locked (.first f) where
  file _ _ h := nomatch h
  holder _ _ := ⟨fun h => (nomatch h), fun ⟨_, h⟩ => nomatch h.1⟩

/-- **At most one helper is past its `flock`.** -/
theorem Locked.exclusive (h : Locked s) (hp : s.Holds p) (hq : s.Holds q) : p = q := by
  obtain ⟨pr, hp, hpt⟩ := hp
  obtain ⟨qr, hq, hqt⟩ := hq
  have hlock : pr.lock = qr.lock := Option.some.inj ((h.file p pr hp).symm.trans (h.file q qr hq))
  have hholds : s.locks pr.lock = some p := (h.holder _ p).2 ⟨pr, hp, rfl, hpt⟩
  have hholds' : s.locks pr.lock = some q := (h.holder _ q).2 ⟨qr, hq, hlock.symm, hqt⟩
  exact Option.some.inj (hholds.symm.trans hholds')

theorem Locked.exit (h : Locked s) (p : ℕ) : Locked (s.exit p) where
  file q qr hq := by
    simp only [State.exit, Function.update_apply] at hq
    split at hq
    · cases hq
    · exact h.file q qr hq
  holder l q := by
    simp only [State.exit, Function.update_apply]
    by_cases hqp : q = p
    · subst hqp
      simp
    · have hne : s.locks l = some q → s.locks l ≠ some p := by
        intro hl heq
        exact hqp (Option.some.inj (hl.symm.trans heq))
      rw [if_neg hqp, ← h.holder l q]
      split <;> simp_all

/-- A helper that holds the lock goes on, whatever it does to the path. -/
theorem Locked.move (h : Locked s) {l : ℕ} {pt pt' : Point} (hp : s.procs p = some ⟨l, pt⟩)
    (hpt : pt ≠ .opened) (hpt' : pt' ≠ .opened) (f : Files) :
    Locked { s with files := f, procs := Function.update s.procs p (some ⟨l, pt'⟩) } where
  file q qr hq := by
    simp only [Function.update_apply] at hq
    split at hq
    · obtain rfl := Option.some.inj hq
      exact h.file p ⟨l, pt⟩ hp
    · exact h.file q qr hq
  holder l' q := by
    rw [h.holder l' q]
    simp only [Function.update_apply]
    by_cases hqp : q = p
    · subst hqp
      simp [hp, hpt, hpt']
    · rw [if_neg hqp]

theorem Locked.openLock (h : Locked s) (hp : s.procs p = none) {l n : ℕ}
    (hl : s.lockFile = some l ∨ s.lockFile = none) :
    Locked { s with
      lockFile := some l
      nextInode := n
      procs := Function.update s.procs p (some ⟨l, .opened⟩) } where
  file q qr hq := by
    simp only [Function.update_apply] at hq
    split at hq
    · obtain rfl := Option.some.inj hq
      rfl
    · have hfile := h.file q qr hq
      rcases hl with hl | hl
      · exact hl.symm.trans hfile
      · rw [hl] at hfile
        cases hfile
  holder l' q := by
    rw [h.holder l' q]
    simp only [Function.update_apply]
    by_cases hqp : q = p
    · subst hqp
      simp [hp]
    · rw [if_neg hqp]

theorem Locked.grant (h : Locked s) {l : ℕ} (hp : s.procs p = some ⟨l, .opened⟩)
    (hfree : s.locks l = none) :
    Locked { s with
      locks := Function.update s.locks l (some p)
      procs := Function.update s.procs p (some ⟨l, .locked⟩) } where
  file q qr hq := by
    simp only [Function.update_apply] at hq
    split at hq
    · obtain rfl := Option.some.inj hq
      exact h.file p ⟨l, .opened⟩ hp
    · exact h.file q qr hq
  holder l' q := by
    simp only [Function.update_apply]
    by_cases hqp : q = p
    · subst hqp
      have hno := (h.holder l' q).not.2 (by simp [hp])
      by_cases hl : l' = l <;> simp_all [eq_comm]
    · by_cases hl : l' = l
      · subst hl
        have hno := (h.holder l' q).not.1 (by simp [hfree])
        rw [if_pos rfl, if_neg hqp]
        exact ⟨fun heq => absurd (Option.some.inj heq).symm hqp, fun hq => absurd hq hno⟩
      · rw [if_neg hl, if_neg hqp, h.holder l' q]

/-- **One event keeps the lock's invariant**, unless the lock file is unlinked. -/
theorem Locked.step (h : Locked s) {e : Event} (he : KeepsLock s e)
    (hstep : step args s e = some s') : Locked s' := by
  rcases hhelper : e.helper with _ | p
  · cases e with
    | outside o =>
      cases o with
      | place e =>
        obtain rfl := Option.some.inj hstep
        exact ⟨h.file, h.holder⟩
      | setAttrs id a =>
        obtain rfl := Option.some.inj hstep
        exact ⟨h.file, h.holder⟩
      | removeLock => exact absurd rfl he
    | _ => cases hhelper
  · cases moves_of_step hhelper hstep with
    | stays => exact h
    | opens hp hl => exact h.openLock hp hl
    | locks hp hfree => exact h.grant hp hfree
    | calls hp hcall =>
      obtain ⟨hpt, hpt'⟩ := ne_opened_of_call hcall
      exact h.move hp hpt hpt' _
    | exits => exact h.exit p

theorem Locked.of_run {f : Files} {es : List Event}
    (hes : Guarded (Listener.step args) KeepsLock (.first f) es)
    (hrun : run (Listener.step args) (.first f) es = some s) : Locked s :=
  run_invariant (fun _ _ _ h he => h.step he) (.first f) hes hrun

/-! ## The others -/

theorem procs_exit_of_ne (hq : q ≠ p) : (s.exit q).procs p = s.procs p :=
  Function.update_of_ne hq.symm _ _

theorem not_holds_exit (s : State) (q : ℕ) : ¬(s.exit q).Holds q := by
  rintro ⟨pr, hq, -⟩
  simp [State.exit] at hq

/-- A helper's event is about that helper alone, reaches the path only with the lock held, and gets
the lock only where it is free. -/
theorem frame_of_step {e : Event} (hstep : step args s e = some s') (he : e.helper = some q) :
    (∀ p, q ≠ p → s'.procs p = s.procs p) ∧ (s'.files = s.files ∨ s.Holds q) ∧
      (s'.Holds q → s.Holds q ∨ ∃ pr, s.procs q = some pr ∧ s.locks pr.lock = none) := by
  have hother (pr : Proc) (p : ℕ) (hqp : q ≠ p) :
      Function.update s.procs q (some pr) p = s.procs p := Function.update_of_ne hqp.symm _ _
  cases moves_of_step he hstep with
  | stays => exact ⟨fun _ _ => rfl, Or.inl rfl, Or.inl⟩
  | opens hp hl =>
    refine ⟨hother _, Or.inl rfl, ?_⟩
    rintro ⟨pr, hpr, hne⟩
    obtain rfl := Option.some.inj ((Function.update_self q _ s.procs).symm.trans hpr)
    exact absurd rfl hne
  | locks hp hfree => exact ⟨hother _, Or.inl rfl, fun _ => Or.inr ⟨_, hp, hfree⟩⟩
  | calls hp hcall =>
    have hholds : s.Holds q := ⟨_, hp, (ne_opened_of_call hcall).1⟩
    exact ⟨hother _, Or.inr hholds, fun _ => Or.inl hholds⟩
  | exits =>
    exact ⟨fun _ hqp => procs_exit_of_ne hqp, Or.inl rfl, fun h => absurd h (not_holds_exit s q)⟩

/-- **The holder of the lock is alone**: after any events, as long as nobody unlinked the lock file,
a helper past its `flock` is the only one there, and what any other helper does next leaves the
path and its files, and the holder, as they are, and does not get that helper past its `flock`. -/
theorem alone_of_run {f : Files} {es : List Event}
    (hes : Guarded (step args) KeepsLock (.first f) es)
    (hrun : run (step args) (.first f) es = some s) (hp : s.Holds p) :
    (∀ q, s.Holds q → q = p) ∧
      ∀ e q s', e.helper = some q → q ≠ p → step args s e = some s' →
        s'.files = s.files ∧ s'.procs p = s.procs p ∧ ¬s'.Holds q := by
  have hlocked := Locked.of_run hes hrun
  have halone (q : ℕ) (hq : s.Holds q) : q = p := hlocked.exclusive hq hp
  refine ⟨halone, fun e q s' he hne hstep => ?_⟩
  obtain ⟨hprocs, hfiles, hholds⟩ := frame_of_step hstep he
  refine ⟨hfiles.resolve_right fun hq => hne (halone q hq), hprocs p hne, fun hq' => ?_⟩
  rcases hholds hq' with hq | ⟨qr, hq, hfree⟩
  · exact hne (halone q hq)
  · -- the lock it found free is the one that `p` holds
    obtain ⟨pr, hp, hpt⟩ := hp
    have hlock : pr.lock = qr.lock :=
      Option.some.inj ((hlocked.file p pr hp).symm.trans (hlocked.file q qr hq))
    have hheld : s.locks pr.lock = some p := (hlocked.holder _ p).2 ⟨pr, hp, rfl, hpt⟩
    rw [hlock, hfree] at hheld
    cases hheld

/-- A start in which no call fails. -/
def startEvents (p : ℕ) (r : Removal) (own : FileId) (mode : ℕ) : List Event :=
  [.openLock p true, .flock p .granted, .call p (.removeFile r), .call p (.bind (.done own mode)),
    .call p (.statPath (some own)), .call p (.setPermissions true),
    .call p (.giveToAuthorizedUid true)]

/-- With a dangling link at the path, a start comes to its end; another helper is at its `flock`. -/
def secondStart : List Event := startEvents 1 .removed ⟨16, 7⟩ 0o755 ++ [.openLock 2 true]

theorem alone_of_run_secondStart :
    ∃ s, run (step fun _ => ⟨501, 0⟩) (.first ⟨some (.link none), fun _ => ⟨0, 0⟩⟩) secondStart =
        some s ∧ ∀ s', step (fun _ => ⟨501, 0⟩) s (.flock 2 .wouldBlock) = some s' →
          ¬s'.Holds 2 := by
  have hes : Guarded (step fun _ => ⟨501, 0⟩) KeepsLock
      (.first ⟨some (.link none), fun _ => ⟨0, 0⟩⟩) secondStart := by
    have hall : ∀ e ∈ secondStart, e ≠ .outside .removeLock := by decide
    exact guarded_of_forall (fun e he _ => hall e he) _
  refine ⟨_, rfl, fun s' hstep => ?_⟩
  exact ((alone_of_run (p := 1) hes rfl ⟨⟨0, .serving ⟨⟨16, 7⟩, ⟨16, 7⟩⟩⟩, rfl, by decide⟩).2
    _ 2 s' rfl (by decide) hstep).2.2

/-- A helper started up to its lock. -/
def lockEvents (p : ℕ) : List Event := [.openLock p true, .flock p .granted]

/-- The lock file must stay: a helper that finds none makes a new one, whose lock is free. -/
theorem not_exclusive_of_removeLock :
    ∃ s, run (step fun _ => ⟨501, 0⟩) (.first ⟨none, fun _ => ⟨0, 0⟩⟩)
      (lockEvents 1 ++ [.outside .removeLock] ++ lockEvents 2) = some s ∧ s.Holds 1 ∧ s.Holds 2 :=
  ⟨_, rfl, ⟨⟨0, .locked⟩, rfl, by decide⟩, ⟨⟨1, .locked⟩, rfl, by decide⟩⟩

/-! ## What the holder knows of the path -/

section Rule

variable {guard : State → Event → Prop} {P : ℕ → Files → Point → Prop}

/-- The lock's invariant, and what each helper knows of the path at its point. -/
def Knows (P : ℕ → Files → Point → Prop) (s : State) : Prop :=
  Locked s ∧ ∀ p l pt, s.procs p = some ⟨l, pt⟩ → P p s.files pt

/-- What the events keep of the helper past its `flock` and the path: the other helpers reach
neither, so only the helper's own calls and outsiders are left. -/
structure Keeps (args : ℕ → Args) (guard : State → Event → Prop) (P : ℕ → Files → Point → Prop) :
    Prop where
  lock : ∀ s e, guard s e → KeepsLock s e
  opened : ∀ p f, P p f .opened
  locked : ∀ p f, P p f .locked
  calls : ∀ s p l c f pt pt', guard s (.call p c) → s.procs p = some ⟨l, pt⟩ → P p s.files pt →
    call (args p) s.files pt c = some (f, pt') → P p f pt'
  outside : ∀ s o s', guard s (.outside o) → step args s (.outside o) = some s' →
    ∀ p l pt, s.procs p = some ⟨l, pt⟩ → P p s.files pt → P p s'.files pt

theorem Knows.step (hkeeps : Keeps args guard P) {e : Event} (hs : Knows P s) (he : guard s e)
    (hstep : step args s e = some s') : Knows P s' := by
  refine ⟨hs.1.step (hkeeps.lock s e he) hstep, ?_⟩
  obtain ⟨hl, hs⟩ := hs
  intro q l' qt hq
  rcases hhelper : e.helper with _ | p
  · cases e with
    | outside o =>
      refine hkeeps.outside s o s' he hstep q l' qt ?_ (hs q l' qt ?_) <;>
        cases o <;> obtain rfl := Option.some.inj hstep <;> exact hq
    | _ => cases hhelper
  · have hmoved {pr : Proc} (hq : Function.update s.procs p (some pr) q = some ⟨l', qt⟩) :
        q = p ∧ pr = ⟨l', qt⟩ ∨ q ≠ p ∧ s.procs q = some ⟨l', qt⟩ := by
      rw [Function.update_apply] at hq
      split at hq
      · exact Or.inl ⟨‹_›, Option.some.inj hq⟩
      · exact Or.inr ⟨‹_›, hq⟩
    cases moves_of_step hhelper hstep with
    | stays => exact hs q l' qt hq
    | opens hp =>
      rcases hmoved hq with ⟨rfl, hpr⟩ | ⟨-, hq⟩
      · cases hpr
        exact hkeeps.opened q _
      · exact hs q l' qt hq
    | locks hp =>
      rcases hmoved hq with ⟨rfl, hpr⟩ | ⟨-, hq⟩
      · cases hpr
        exact hkeeps.locked q _
      · exact hs q l' qt hq
    | calls hp hc =>
      rcases hmoved hq with ⟨rfl, hpr⟩ | ⟨hne, hq⟩
      · cases hpr
        exact hkeeps.calls s q _ _ _ _ _ he hp (hs q _ _ hp) hc
      · by_cases hqt : qt = .opened
        · subst hqt
          exact hkeeps.opened q _
        · -- no other helper is past its `flock`
          exact absurd (hl.exclusive ⟨_, hq, hqt⟩ ⟨_, hp, (ne_opened_of_call hc).1⟩) hne
    | exits hp =>
      simp only [State.exit, Function.update_apply] at hq
      split at hq
      · cases hq
      · exact hs q l' qt hq

theorem Knows.first (f : Files) : Knows P (.first f) := ⟨.first f, fun _ _ _ h => nomatch h⟩

theorem Keeps.of_run (hkeeps : Keeps args guard P) {f : Files} {es : List Event}
    (hes : Guarded (step args) guard (.first f) es)
    (hrun : run (step args) (.first f) es = some s) : Knows P s :=
  run_invariant (fun _ _ _ hs he => hs.step hkeeps he) (.first f) hes hrun

end Rule

/-! ## What `Drop` removes -/

/-- The socket that a helper has made and not closed. -/
def Point.socket : Point → Option FileId
  | .bound own | .unstatted own => some own
  | .made sock | .moded sock | .serving sock | .dropping sock | .matched sock => some sock.own
  | .opened | .locked | .cleared | .closing => none

/-- The helper goes by what it has just seen, or made, at the path. -/
def Point.Looks : Point → Prop
  | .bound _ | .unstatted _ | .matched _ => True
  | _ => False

/-- Nobody unlinks the lock file, and outsiders leave the path alone where a helper goes by what it
has just seen there. -/
def Considerate (s : State) : Event → Prop
  | .outside .removeLock => False
  | .outside (.place _) => ∀ p l pt, s.procs p = some ⟨l, pt⟩ → ¬pt.Looks
  | _ => True

/-- What a helper has recorded is its own socket, and so is what it is about to remove. -/
def Point.Owns (f : Files) : Point → Prop
  | .bound own | .unstatted own => f.resolve = some own
  | .made sock | .moded sock | .serving sock | .dropping sock => sock.id = sock.own
  | .matched sock => sock.id = sock.own ∧ f.resolve = some sock.own
  | _ => True

theorem resolve_of_bind {f f' : Files} {own : FileId} {a : Attrs} (h : f.bind own a = some f') :
    f'.resolve = some own ∧ f'.attrs own = a := by
  unfold Files.bind at h
  split at h
  · obtain rfl := Option.some.inj h
    exact ⟨rfl, Function.update_self _ _ _⟩
  · obtain rfl := Option.some.inj h
    exact ⟨rfl, Function.update_self _ _ _⟩
  · cases h

theorem owns_of_call {a : Args} {f f' : Files} {pt pt' : Point} {c : Call} (h : pt.Owns f)
    (hcall : call a f pt c = some (f', pt')) : pt'.Owns f' := by
  cases called_of_call hcall with
  | clears | gone | misses | removes => trivial
  | binds hf => exact (resolve_of_bind hf).1
  | records hid => exact Option.some.inj (hid.symm.trans h)
  | unstats => exact h
  | sets | ours | gives => exact h
  | drops hpt => rcases hpt with rfl | rfl | rfl <;> exact h
  | @finds sock hid =>
    have hrecorded : sock.id = sock.own := h
    exact ⟨hrecorded, by rw [hid, hrecorded]⟩

theorem keeps_owns : Keeps args Considerate fun _ f pt => pt.Owns f where
  lock s e he := by
    rintro rfl
    exact he
  opened _ _ := trivial
  locked _ _ := trivial
  calls _ _ _ _ _ _ _ _ _ h hcall := owns_of_call h hcall
  outside s o s' he hstep p l pt hp h := by
    cases o with
    | place e =>
      obtain rfl := Option.some.inj hstep
      have hlooks : ¬pt.Looks := he p l pt hp
      cases pt <;> first | exact h | exact absurd trivial hlooks
    | setAttrs id a =>
      obtain rfl := Option.some.inj hstep
      cases pt <;> exact h
    | removeLock => exact he.elim

/-- **A helper removes no socket but its own**: after any events of any helpers, in which nobody
unlinks the lock file and outsiders leave the path alone where a helper goes by what it has just
seen there, the name that a helper with a socket removes is that of its own socket. -/
theorem removes_own_of_run {f : Files} {es : List Event}
    (hes : Guarded (step args) Considerate (.first f) es)
    (hrun : run (step args) (.first f) es = some s) {l : ℕ} {pt : Point} {own : FileId}
    (hp : s.procs p = some ⟨l, pt⟩) (hown : pt.socket = some own)
    (hstep : step args s (.call p (.removeFile .removed)) = some s') :
    s.files.resolve = some own ∧ s'.files.entry = none := by
  have howns : pt.Owns s.files := (keeps_owns.of_run hes hrun).2 p l pt hp
  simp only [step, hp] at hstep
  obtain ⟨⟨f', pt'⟩, hcall, rfl⟩ := Option.map_eq_some_iff.1 hstep
  have hremoved (hr : (s.files.removeFile .removed).map (fun f' => (f', Point.closing)) =
      some (f', pt')) : f'.entry = none := by
    obtain ⟨f₁, hf₁, heq⟩ := Option.map_eq_some_iff.1 hr
    cases heq
    simp only [Files.removeFile] at hf₁
    split at hf₁
    · cases hf₁
    · obtain rfl := Option.some.inj hf₁
      rfl
  cases pt with
  | unstatted own' =>
    obtain rfl := Option.some.inj hown
    exact ⟨howns, hremoved hcall⟩
  | matched sock =>
    obtain rfl := Option.some.inj hown
    exact ⟨howns.2, hremoved hcall⟩
  | locked => cases hown
  | _ => cases hcall

/-- A helper that is started and asked to end, up to what it removes. -/
def dropEvents : List Event :=
  startEvents 1 .notFound ⟨16, 7⟩ 0o755 ++ [.call 1 .drop, .call 1 (.statPath (some ⟨16, 7⟩))]

theorem removes_own_of_run_dropEvents :
    ∃ s s', run (step fun _ => ⟨501, 0⟩) (.first ⟨none, fun _ => ⟨0, 0⟩⟩) dropEvents = some s ∧
      step (fun _ => ⟨501, 0⟩) s (.call 1 (.removeFile .removed)) = some s' ∧
      s.files.resolve = some ⟨16, 7⟩ ∧ s'.files.entry = none := by
  have hes : Guarded (step fun _ => ⟨501, 0⟩) Considerate (.first ⟨none, fun _ => ⟨0, 0⟩⟩)
      dropEvents := by
    have hall : ∀ e ∈ dropEvents, e.helper = some 1 := by decide
    refine guarded_of_forall (fun e he s => ?_) _
    have hhelper := hall e he
    cases e with
    | outside o => cases hhelper
    | _ => trivial
  have hends : ((run (step fun _ => ⟨501, 0⟩) (.first ⟨none, fun _ => ⟨0, 0⟩⟩) dropEvents).bind
      fun s => step (fun _ => ⟨501, 0⟩) s (.call 1 (.removeFile .removed))).isSome := rfl
  have hpoint : (run (step fun _ => ⟨501, 0⟩) (.first ⟨none, fun _ => ⟨0, 0⟩⟩) dropEvents).map
      (·.procs 1) = some (some ⟨0, .matched ⟨⟨16, 7⟩, ⟨16, 7⟩⟩⟩) := rfl
  obtain ⟨s', hs'⟩ := Option.isSome_iff_exists.1 hends
  obtain ⟨s, hs, hstep⟩ := Option.bind_eq_some_iff.1 hs'
  rw [hs] at hpoint
  exact ⟨s, s', hs, hstep, removes_own_of_run hes hs (Option.some.inj hpoint) rfl hstep⟩

/-! ## A helper that serves -/

/-- Nobody unlinks the lock file, and outsiders leave the path and its files alone while a helper
has a socket there. -/
def Quiet (s : State) : Event → Prop
  | .outside .removeLock => False
  | .outside _ => ∀ p l pt, s.procs p = some ⟨l, pt⟩ → pt.socket = none
  | _ => True

/-- Who may open the socket. -/
def Point.Admits (a : Args) (now : Attrs) : Point → Prop
  | .bound _ | .unstatted _ | .made _ => now.owner = a.euid
  | .moded _ => now = ⟨a.euid, socketMode⟩
  | .serving _ => now = ⟨a.authorizedUid, socketMode⟩
  | _ => True

/-- The path leads to the helper's socket, which is as far as its point says. -/
def Point.Serves (a : Args) (f : Files) (pt : Point) : Prop :=
  ∀ own, pt.socket = some own → f.resolve = some own ∧ pt.Admits a (f.attrs own)

theorem change_of_resolve {f f' : Files} {g : Attrs → Attrs} {own : FileId}
    (hf : f.resolve = some own) (h : f.change g = some f') :
    f'.resolve = some own ∧ f'.attrs own = g (f.attrs own) := by
  simp only [Files.change, hf, Option.map_some, Option.some.injEq] at h
  subst h
  exact ⟨hf, Function.update_self _ _ _⟩

theorem serves_of_call {a : Args} {f f' : Files} {pt pt' : Point} {c : Call} (h : pt.Serves a f)
    (hcall : call a f pt c = some (f', pt')) : pt'.Serves a f' := by
  intro own hown
  cases called_of_call hcall with
  | clears | gone | misses | removes => cases hown
  | binds hf =>
    obtain rfl := Option.some.inj hown
    obtain ⟨hresolve, hattrs⟩ := resolve_of_bind hf
    exact ⟨hresolve, congrArg Attrs.owner hattrs⟩
  | records | unstats => exact h own hown
  | sets hf =>
    obtain ⟨hresolve, howner⟩ := h own hown
    obtain ⟨hresolve', hattrs⟩ := change_of_resolve hresolve hf
    exact ⟨hresolve', hattrs.trans (congrArg (Attrs.mk · socketMode) howner)⟩
  | ours sock ha =>
    obtain ⟨hresolve, hmoded⟩ := h own hown
    exact ⟨hresolve, hmoded.trans (congrArg (Attrs.mk · socketMode) ha.symm)⟩
  | gives hf =>
    obtain ⟨hresolve, hmoded⟩ := h own hown
    obtain ⟨hresolve', hattrs⟩ := change_of_resolve hresolve hf
    refine ⟨hresolve', hattrs.trans ?_⟩
    rw [show f.attrs own = ⟨a.euid, socketMode⟩ from hmoded]
  | drops hpt => rcases hpt with rfl | rfl | rfl <;> exact ⟨(h own hown).1, trivial⟩
  | finds => exact ⟨(h own hown).1, trivial⟩

theorem keeps_serves : Keeps args Quiet fun p f pt => pt.Serves (args p) f where
  lock s e he := by
    rintro rfl
    exact he
  opened _ _ _ h := nomatch h
  locked _ _ _ h := nomatch h
  calls _ _ _ _ _ _ _ _ _ h hcall := serves_of_call h hcall
  outside s o s' he hstep p l pt hp h := by
    intro own hown
    cases o with
    | removeLock => exact he.elim
    | _ =>
      rw [he p l pt hp] at hown
      cases hown

/-- **The socket of a helper that serves**: after any events of any helpers, in which nobody unlinks
the lock file and outsiders leave the path and its files alone while a helper has a socket there,
the path of a helper that serves leads to its socket, which belongs to the uid the helper serves and
is open to no other. -/
theorem serving_of_run {f : Files} {es : List Event}
    (hes : Guarded (step args) Quiet (.first f) es)
    (hrun : run (step args) (.first f) es = some s) {l : ℕ} {sock : Sock}
    (hp : s.procs p = some ⟨l, .serving sock⟩) :
    s.files.resolve = some sock.own ∧
      s.files.attrs sock.own = ⟨(args p).authorizedUid, socketMode⟩ :=
  (keeps_serves.of_run hes hrun).2 p l _ hp sock.own rfl

theorem serving_of_run_startEvents :
    ∃ s, run (step fun _ => ⟨501, 0⟩) (.first ⟨none, fun _ => ⟨0, 0⟩⟩)
        (startEvents 1 .notFound ⟨16, 7⟩ 0o755) = some s ∧
      s.files.attrs ⟨16, 7⟩ = ⟨501, 0o600⟩ := by
  have hes : Guarded (step fun _ => ⟨501, 0⟩) Quiet (.first ⟨none, fun _ => ⟨0, 0⟩⟩)
      (startEvents 1 .notFound ⟨16, 7⟩ 0o755) := by
    have hall : ∀ e ∈ startEvents 1 .notFound ⟨16, 7⟩ 0o755, e.helper = some 1 := by decide
    refine guarded_of_forall (fun e he s => ?_) _
    have hhelper := hall e he
    cases e with
    | outside o => cases hhelper
    | _ => trivial
  obtain ⟨s, hrun, hp⟩ : ∃ s, run (step fun _ => ⟨501, 0⟩) (.first ⟨none, fun _ => ⟨0, 0⟩⟩)
      (startEvents 1 .notFound ⟨16, 7⟩ 0o755) = some s ∧
      s.procs 1 = some ⟨0, .serving ⟨⟨16, 7⟩, ⟨16, 7⟩⟩⟩ := ⟨_, rfl, rfl⟩
  exact ⟨s, hrun, (serving_of_run hes hrun hp).2⟩

/-! ## What is left at the path -/

/-- The calls that may leave a socket behind. -/
def Point.Leaves : Point → Call → Prop
  | .cleared, .bind (.unlistened _ _) => True
  | .unstatted _, .removeFile .failed | .matched _, .removeFile .failed => True
  | .dropping _, .statPath none => True
  | _, _ => False

/-- Helpers alone are about, none is killed, no `listen` fails after its `bind`, and what they call
to clean up does not fail. -/
def Orderly (s : State) : Event → Prop
  | .outside _ | .kill _ => False
  | .call p c => ∀ l pt, s.procs p = some ⟨l, pt⟩ → ¬pt.Leaves c
  | _ => True

/-- A helper has a socket. -/
def State.Has (s : State) (p : ℕ) (own : FileId) : Prop :=
  ∃ l pt, s.procs p = some ⟨l, pt⟩ ∧ pt.socket = some own

/-- The path names the helper's socket, and nothing before there is one. -/
structure Point.Fits (f : Files) (pt : Point) : Prop where
  owns : pt.Owns f
  socket : ∀ own, pt.socket = some own → f.entry = some (.file own)
  cleared : pt = .cleared → f.entry = none

theorem entry_of_removeFile {f f' : Files} {r : Removal} (h : f.removeFile r = some f')
    (hr : r ≠ .failed) : f'.entry = none := by
  unfold Files.removeFile at h
  split at h
  · split at h
    · cases h
    · obtain rfl := Option.some.inj h
      rfl
  · split at h
    · obtain rfl := Option.some.inj h
      assumption
    · cases h
  · exact absurd rfl hr

theorem entry_of_change {f f' : Files} {g : Attrs → Attrs} (h : f.change g = some f') :
    f'.entry = f.entry := by
  obtain ⟨id, -, rfl⟩ := Option.map_eq_some_iff.1 h
  rfl

theorem fits_of_call {a : Args} {f f' : Files} {pt pt' : Point} {c : Call} (h : pt.Fits f)
    (hcall : call a f pt c = some (f', pt')) : pt'.Fits f' := by
  have howns := owns_of_call h.owns hcall
  cases called_of_call hcall with
  | clears hf hr => exact ⟨howns, (fun _ h => nomatch h), fun _ => entry_of_removeFile hf hr⟩
  | gone | misses | removes => exact ⟨howns, (fun _ h => nomatch h), fun h => nomatch h⟩
  | binds hf =>
    refine ⟨howns, fun own hown => ?_, fun h => nomatch h⟩
    obtain rfl := Option.some.inj hown
    simp only [Files.bind, h.cleared rfl, Option.some.injEq] at hf
    subst hf
    rfl
  | records | unstats | ours | finds => exact ⟨howns, h.socket, fun h => nomatch h⟩
  | sets hf | gives hf =>
    exact ⟨howns, fun own hown => (entry_of_change hf).trans (h.socket own hown),
      fun h => nomatch h⟩
  | drops hpt => rcases hpt with rfl | rfl | rfl <;> exact ⟨howns, h.socket, fun h => nomatch h⟩

theorem keeps_fits : Keeps args Orderly fun _ f pt => pt.Fits f where
  lock s e he := by
    rintro rfl
    exact he
  opened _ _ := ⟨trivial, (fun _ h => nomatch h), fun h => nomatch h⟩
  locked _ _ := ⟨trivial, (fun _ h => nomatch h), fun h => nomatch h⟩
  calls _ _ _ _ _ _ _ _ _ h hcall := fits_of_call h hcall
  outside _ _ _ he := he.elim

/-- An orderly call leaves nothing at the path that no socket of the helper accounts for. -/
theorem entry_of_call {a : Args} {f f' : Files} {pt pt' : Point} {c : Call} (h : pt.Fits f)
    (hleaves : ¬pt.Leaves c) (hcall : call a f pt c = some (f', pt'))
    (hbefore : pt.socket = none → f.entry = none) (hafter : pt'.socket = none) :
    f'.entry = none := by
  cases called_of_call hcall with
  | clears hf hr => exact entry_of_removeFile hf hr
  | gone hpt hc =>
    rcases hpt with ⟨rfl, rfl⟩ | rfl
    · exact hbefore rfl
    · rcases hc rfl with rfl | ⟨own, mode, rfl⟩
      · exact hbefore rfl
      · exact absurd trivial hleaves
  | @misses sock r hr hne =>
    rcases hr with rfl | rfl
    · exact absurd trivial hleaves
    · -- what is at the path is the helper's own socket
      have hrecorded : sock.id = sock.own := h.owns
      have hresolve : f.resolve = some sock.own := by
        rw [Files.resolve, h.socket sock.own rfl]
      exact absurd (hresolve.trans (congrArg some hrecorded.symm)) hne
  | @removes _ r _ hf hpt =>
    refine entry_of_removeFile hf ?_
    rintro rfl
    obtain ⟨own, rfl | ⟨sock, rfl⟩⟩ := hpt
    · exact hleaves trivial
    · exact hleaves trivial
  | drops hpt => cases hafter
  | _ => cases hafter

/-- The path names something only while a helper has a socket. -/
def Accounted (s : State) : Prop := s.files.entry ≠ none → ∃ p own, s.Has p own

theorem Accounted.step {e : Event} (hs : Accounted s) (hk : Knows (fun _ f pt => pt.Fits f) s)
    (he : Orderly s e) (hstep : step args s e = some s') : Accounted s' := by
  intro hentry
  rcases hhelper : e.helper with _ | p
  · cases e with
    | outside o => exact he.elim
    | _ => cases hhelper
  · -- the socket that was there is another helper's, or the event leaves it
    have hkeep {pr : Option Proc}
      (hpr : ∀ l pt own, s.procs p = some ⟨l, pt⟩ → pt.socket ≠ some own)
        (hentry : s.files.entry ≠ none) :
        ∃ q own l pt, Function.update s.procs p pr q = some ⟨l, pt⟩ ∧ pt.socket = some own := by
      obtain ⟨q, own, l, pt, hq, hown⟩ := hs hentry
      have hqp : q ≠ p := by
        rintro rfl
        exact hpr l pt own hq hown
      exact ⟨q, own, l, pt, (Function.update_of_ne hqp _ _).trans hq, hown⟩
    cases moves_of_step hhelper hstep with
    | stays => exact hs hentry
    | opens hp =>
      refine hkeep (fun l pt own hq => ?_) hentry
      rw [hp] at hq
      cases hq
    | locks hp =>
      refine hkeep (fun l pt own hq => ?_) hentry
      cases hp.symm.trans hq
      exact fun h => nomatch h
    | @calls c l pt pt' f hp hcall =>
      rcases hsocket : pt'.socket with _ | own
      · refine absurd (entry_of_call (hk.2 p l pt hp) (he l pt hp) hcall (fun hnone => ?_) hsocket)
          hentry
        by_contra hbefore
        obtain ⟨q, own, l', qt, hq, hown⟩ := hs hbefore
        have hqt : qt ≠ .opened := by
          rintro rfl
          cases hown
        obtain rfl := hk.1.exclusive ⟨_, hq, hqt⟩ ⟨_, hp, (ne_opened_of_call hcall).1⟩
        cases hp.symm.trans hq
        rw [hnone] at hown
        cases hown
      · exact ⟨p, own, l, pt', Function.update_self _ _ _, hsocket⟩
    | exits hp hpt =>
      refine hkeep (fun l pt own hq => ?_) hentry
      cases hp.symm.trans hq
      rcases hpt with rfl | rfl | rfl
      · exact fun h => nomatch h
      · exact fun h => nomatch h
      · exact he.elim

/-- **What is at the path is the socket of a helper**: where helpers alone are about, none is
killed, no `listen` fails after its `bind` and what they call to clean up does not fail, the path
names a file exactly while some helper has that file as its socket; a refused start and an orderly
end leave nothing. -/
theorem present_iff_of_run {attrs : FileId → Attrs} {es : List Event}
    (hes : Guarded (step args) Orderly (.first ⟨none, attrs⟩) es)
    (hrun : run (step args) (.first ⟨none, attrs⟩) es = some s) (e : Entry) :
    s.files.entry = some e ↔ ∃ p own, s.Has p own ∧ e = .file own := by
  have hstep (s : State) (e : Event) (s' : State)
    (hs : Knows (fun _ f pt => pt.Fits f) s ∧ Accounted s)
      (he : Orderly s e) (hs' : step args s e = some s') :
      Knows (fun _ f pt => pt.Fits f) s' ∧ Accounted s' :=
    ⟨hs.1.step keeps_fits he hs', hs.2.step hs.1 he hs'⟩
  obtain ⟨hk, haccounted⟩ := run_invariant hstep ⟨.first _, fun h => absurd rfl h⟩ hes hrun
  have hentry {p : ℕ} {own : FileId} (h : s.Has p own) : s.files.entry = some (.file own) := by
    obtain ⟨l, pt, hp, hown⟩ := h
    exact (hk.2 p l pt hp).socket own hown
  constructor
  · intro he
    obtain ⟨p, own, hhas⟩ := haccounted (by simp [he])
    exact ⟨p, own, hhas, Option.some.inj (he.symm.trans (hentry hhas))⟩
  · rintro ⟨p, own, hhas, rfl⟩
    exact hentry hhas

theorem present_iff_of_run_startEvents :
    ∃ s, run (step fun _ => ⟨501, 0⟩) (.first ⟨none, fun _ => ⟨0, 0⟩⟩)
        (startEvents 1 .notFound ⟨16, 7⟩ 0o755) = some s ∧
      ∀ e, s.files.entry = some e ↔ ∃ p own, s.Has p own ∧ e = .file own := by
  have hes : Guarded (step fun _ => ⟨501, 0⟩) Orderly (.first ⟨none, fun _ => ⟨0, 0⟩⟩)
      (startEvents 1 .notFound ⟨16, 7⟩ 0o755) := by
    refine ⟨trivial, fun _ _ => ⟨trivial, fun _ _ => ⟨?_, fun _ _ => ⟨?_, fun _ _ => ⟨?_,
      fun _ _ => ⟨?_, fun _ _ => ⟨?_, fun _ _ => trivial⟩⟩⟩⟩⟩⟩⟩ <;>
      exact fun l pt _ => by cases pt <;> exact id
  exact ⟨_, rfl, present_iff_of_run hes rfl⟩

/-! ## When a helper can be started -/

/-- A helper that is not there can be started. -/
theorem exists_openLock (args : ℕ → Args) (hp : s.procs p = none) :
    ∃ l n, s.lockFile.getD s.nextInode = l ∧ step args s (.openLock p true) = some { s with
      lockFile := some l
      nextInode := n
      procs := Function.update s.procs p (some ⟨l, .opened⟩) } := by
  rcases hl : s.lockFile with _ | l
  · exact ⟨s.nextInode, s.nextInode + 1, rfl, by simp [step, hp, hl]⟩
  · exact ⟨l, s.nextInode, rfl, by simp [step, hp, hl]⟩

/-- With the lock free and no directory at the path, a start comes to its end. -/
theorem serves_of_startEvents (hp : s.procs p = none) (hdir : s.files.isDir = false)
    (hfree : ∀ l, s.lockFile.getD s.nextInode = l → s.locks l = none) (own : FileId) (mode : ℕ) :
    ∃ r s' l, run (step args) s (startEvents p r own mode) = some s' ∧
      s'.procs p = some ⟨l, .serving ⟨own, own⟩⟩ ∧ s'.files.entry = some (.file own) := by
  refine ⟨if s.files.entry = none then .notFound else .removed, ?_⟩
  obtain ⟨l, n, hlock, hstep⟩ := exists_openLock args hp
  have hl := hfree l hlock
  have hremove : s.files.removeFile (if s.files.entry = none then .notFound else .removed) =
      some ⟨none, s.files.attrs⟩ := by
    by_cases he : s.files.entry = none
    · rw [if_pos he, Files.removeFile, if_pos he, ← he]
    · rw [if_neg he, Files.removeFile, hdir, if_neg (by simpa using he)]
  have hne : (if s.files.entry = none then Removal.notFound else Removal.removed) ≠ .failed := by
    split <;> simp
  rw [startEvents, run_cons, hstep]
  by_cases ha : (args p).authorizedUid = (args p).euid
  · simp [run_cons, step, hl, call, hremove, hne, Files.bind, Files.Answers, Files.resolve,
      Files.change, ha]
  · simp [run_cons, step, hl, call, hremove, hne, Files.bind, Files.Answers, Files.resolve,
      Files.change, ha]

/-- A directory at the path is not removed, and stops a start. -/
theorem run_startEvents_of_isDir (hp : s.procs p = none) (hdir : s.files.isDir = true) (r : Removal)
    (own : FileId) (mode : ℕ) : run (step args) s (startEvents p r own mode) = none := by
  have hentry : s.files.entry ≠ none := by
    intro hnone
    rw [Files.isDir, hnone] at hdir
    cases hdir
  obtain ⟨l, n, -, hstep⟩ := exists_openLock args hp
  rw [startEvents, run_cons, hstep]
  by_cases hl : s.locks l = none
  · cases r <;> simp [run_cons, step, hl, call, Files.removeFile, hdir, hentry]
  · simp [run_cons, step, hl]

/-- **A helper can be started exactly where none is past its `flock`**, whatever else than a
directory is at the path and however the helpers before it came to their end: after any events in
which nobody unlinked the lock file, a start in which no call fails is possible if and only if no
helper holds the lock and the path is not a directory's. -/
theorem starts_iff_of_run {f : Files} {es : List Event}
    (hes : Guarded (step args) KeepsLock (.first f) es)
    (hrun : run (step args) (.first f) es = some s) (hp : s.procs p = none) (own : FileId)
    (mode : ℕ) :
    (∃ r s' l, run (step args) s (startEvents p r own mode) = some s' ∧
      s'.procs p = some ⟨l, .serving ⟨own, own⟩⟩ ∧ s'.files.entry = some (.file own)) ↔
      s.files.isDir = false ∧ ∀ q, ¬s.Holds q := by
  have hlocked := Locked.of_run hes hrun
  constructor
  · rintro ⟨r, s', l, hstart, -⟩
    refine ⟨?_, ?_⟩
    · by_contra hdir
      rw [run_startEvents_of_isDir hp (by simpa using hdir)] at hstart
      cases hstart
    rintro q ⟨qr, hq, hqt⟩
    have hfile := hlocked.file q qr hq
    have hheld : s.locks qr.lock = some q := (hlocked.holder _ q).2 ⟨qr, hq, rfl, hqt⟩
    simp [startEvents, run_cons, step, hp, hfile, hheld] at hstart
  · rintro ⟨hdir, hnone⟩
    refine serves_of_startEvents hp hdir (fun l hl => ?_) own mode
    by_contra hheld
    obtain ⟨q, hq⟩ := Option.ne_none_iff_exists'.1 hheld
    obtain ⟨qr, hqr, -, hqt⟩ := (hlocked.holder l q).1 hq
    exact hnone q ⟨qr, hqr, hqt⟩

/-- A helper killed while it serves, which leaves its socket. -/
def killed : List Event := startEvents 1 .notFound ⟨16, 7⟩ 0o755 ++ [.kill 1]

theorem starts_iff_of_run_killed :
    ∃ s, run (step fun _ => ⟨501, 0⟩) (.first ⟨none, fun _ => ⟨0, 0⟩⟩) killed = some s ∧
      ((∃ r s' l, run (step fun _ => ⟨501, 0⟩) s (startEvents 2 r ⟨16, 8⟩ 0o755) = some s' ∧
        s'.procs 2 = some ⟨l, .serving ⟨⟨16, 8⟩, ⟨16, 8⟩⟩⟩ ∧
        s'.files.entry = some (.file ⟨16, 8⟩)) ↔ s.files.isDir = false ∧ ∀ q, ¬s.Holds q) := by
  have hes :
      Guarded (step fun _ => ⟨501, 0⟩) KeepsLock (.first ⟨none, fun _ => ⟨0, 0⟩⟩) killed := by
    have hall : ∀ e ∈ killed, e ≠ .outside .removeLock := by decide
    exact guarded_of_forall (fun e he _ => hall e he) _
  exact ⟨_, rfl, starts_iff_of_run hes rfl rfl ⟨16, 8⟩ 0o755⟩

end LiosTunnel.Helper.Listener
