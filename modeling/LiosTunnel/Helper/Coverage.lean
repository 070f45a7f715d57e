import LiosTunnel.Helper.Routes

/-!
# Every change in force is covered, over careful runs

A change in force is covered by a live guard or by the record. The record covers whatever an apply
makes, since it is written first and lists a command for every change (`Route.makes_mem_undone`),
and it goes only when a revert or a replay is through. What is left to the environment is in
`Careful`: a connect that truncates the record while something is still in force, a revert command
that fails with its change in force, and a start that does not replay the record it finds.

* `Covered`, `OwnRecord`, `Replayed`: what should hold of a state.
* `Careful`: the condition on an event and the state it meets.
* `Inv`: the invariant, with `step_inv` for one event.
* `covered_of_guarded`: the result over runs.
-/

namespace LiosTunnel.Helper

open Route Runs

variable {p : Platform}

/-- Each change in force is undone by the live guard's plan or by the record. -/
def State.Covered (p : Platform) (s : State) : Prop :=
  ∀ ch ∈ s.inForce,
    (∃ plan rs, s.job = .up plan ∧ p.manager.revertCommands plan = .ok rs ∧ ch ∈ undone rs) ∨
    ∃ r, s.file = .record r ∧ ch ∈ undone r.revert

/-- The startup recovery is over. -/
def Job.Serving : Job → Prop
  | .down | .recovering _ => False
  | _ => True

/-- Past the startup recovery, a record is one the running process wrote, so a connect never
overwrites the record of a process that has died. -/
def State.OwnRecord (s : State) : Prop :=
  s.job.Serving → ∀ r, s.file = .record r → s.writer = s.process

/-- While the startup recovery runs, the record it replays is still there. -/
def State.Replayed (s : State) : Prop :=
  ∀ rest, s.job = .recovering rest → ∃ r, s.file = .record r ∧ rest <:+ r.revert

/-- The event does not meet one of the states the helper mishandles: a start finds no record whose
pid is alive or its own, a connect finds nothing in force, and a revert command fails only where
its change is not in force. -/
def Careful (s : State) : Event → Prop
  | .boot os => ∀ r, s.file = .record r → processIsAlive os r.pid = false ∧ r.pid ≠ os.pid
  | .connect _ true => s.inForce = ∅
  | .command (.failed false) =>
    ∀ c ch, s.running = some c → c.undoes = some ch → ch ∉ s.inForce
  | _ => True

/-! ## The invariant -/

/-- What the job says about the record and the changes in force. -/
def State.JobInv (p : Platform) (s : State) : Prop :=
  match s.job with
  | .down | .idle => True
  | .saving plan rs =>
    s.file = truncated ∧ s.writer = s.process ∧ p.manager.revertCommands plan = .ok rs
  | .applying plan rest =>
    ∃ r cs, s.file = .record r ∧ p.manager.revertCommands plan = .ok r.revert ∧
      p.manager.applyCommands plan = .ok cs ∧ rest <:+ cs
  | .up plan => ∃ r, s.file = .record r ∧ p.manager.revertCommands plan = .ok r.revert
  | .recovering rest | .reverting rest _ =>
    (∃ r, s.file = .record r ∧ rest <:+ r.revert) ∧ ∀ ch ∈ s.inForce, ch ∈ undone rest

/-- The invariant of careful runs. -/
structure Inv (p : Platform) (s : State) : Prop where
  covers : ∀ ch ∈ s.inForce, ∃ r, s.file = .record r ∧ ch ∈ undone r.revert
  pure : ∀ r, s.file = .record r → ∀ c ∈ r.revert, c.makes = none
  own : s.OwnRecord
  job : s.JobInv p

theorem inv_first (os : Os) : Inv p (.first os) :=
  ⟨by simp [State.first], by simp [State.first], by simp [State.OwnRecord, State.first],
    trivial⟩

/-- Changes in force that ended, with everything else as it was, keep the invariant. -/
theorem Inv.mono {s : State} (h : Inv p s) {inForce : Finset Change} (hsub : inForce ⊆ s.inForce) :
    Inv p { s with inForce := inForce } := by
  refine ⟨fun ch hch => h.covers ch (hsub hch), h.pure, h.own, ?_⟩
  have hjob := h.job
  unfold State.JobInv at hjob ⊢
  rcases hj : s.job with _ | rest | _ | ⟨plan, rs⟩ | ⟨plan, rest⟩ | plan | ⟨rest, clear⟩ <;>
    simp only [hj] at hjob ⊢
  · exact ⟨hjob.1, fun ch hch => hjob.2 ch (hsub hch)⟩
  · exact hjob
  · exact hjob
  · exact hjob
  · exact ⟨hjob.1, fun ch hch => hjob.2 ch (hsub hch)⟩

/-- With nothing in force but what the record undoes, a daemon that is not running or serves
without a tunnel keeps the invariant. -/
theorem Inv.rest {s : State} (h : Inv p s) {job : Job} (hjob : job = .down ∨ job = .idle)
    (hserving : job = .idle → s.job.Serving) {inForce : Finset Change}
    (hcovers : ∀ ch ∈ inForce, ∃ r, s.file = .record r ∧ ch ∈ undone r.revert) :
    Inv p { s with job := job, inForce := inForce } := by
  refine ⟨hcovers, h.pure, ?_, ?_⟩
  · rcases hjob with rfl | rfl
    · exact False.elim
    · exact fun _ => h.own (hserving rfl)
  · rcases hjob with rfl | rfl <;> trivial

/-- What a command of a revert or a replay leaves in force is undone by the commands after it. -/
theorem mem_undone_of_settle {s : State} {c : RouteCommand} {rest : List RouteCommand}
    (hc : c.makes = none) (hforce : ∀ ch ∈ s.inForce, ch ∈ undone (c :: rest)) {o : Outcome}
    (hfail : o = .failed false → ∀ ch, c.undoes = some ch → ch ∉ s.inForce) {ch : Change}
    (hch : ch ∈ o.settle c s.inForce) : ch ∈ s.inForce ∧ ch ∈ undone rest := by
  have hmem : ch ∈ s.inForce ∧ c.undoes ≠ some ch := by
    unfold Outcome.settle at hch
    split at hch
    · rename_i ho
      exact ⟨hch, fun hundoes => hfail ho ch hundoes hch⟩
    · exact mem_settle_of_makes hc hch
  refine ⟨hmem.1, ?_⟩
  obtain ⟨c', hc', hundoes⟩ := mem_undone.1 (hforce ch hmem.1)
  rcases List.mem_cons.1 hc' with rfl | hc'
  · exact absurd hundoes hmem.2
  · exact mem_undone.2 ⟨c', hc', hundoes⟩

theorem mem_of_outcome_settle {o : Outcome} {c : RouteCommand} {inForce : Finset Change}
    {ch : Change} (h : ch ∈ o.settle c inForce) : ch ∈ inForce ∨ c.makes = some ch := by
  unfold Outcome.settle at h
  split at h
  · exact Or.inl h
  · exact mem_settle h

/-- Whatever the running command does, the record undoes what is in force afterwards. -/
theorem Inv.covers_of_running {s : State} (h : Inv p s) {c : RouteCommand}
    (hc : s.running = some c) (o : Outcome) :
    ∀ ch ∈ o.settle c s.inForce, ∃ r, s.file = .record r ∧ ch ∈ undone r.revert := by
  intro ch hch
  have hjob := h.job
  rcases mem_of_outcome_settle hch with hmem | hmakes
  · exact h.covers ch hmem
  · unfold State.running at hc
    split at hc
    · rename_i c' rest hj
      obtain rfl := Option.some.inj hc
      simp only [State.JobInv, hj] at hjob
      obtain ⟨⟨r, hr, hrest⟩, -⟩ := hjob
      rw [h.pure r hr c' (hrest.subset List.mem_cons_self)] at hmakes
      cases hmakes
    · rename_i plan c' rest hj
      obtain rfl := Option.some.inj hc
      simp only [State.JobInv, hj] at hjob
      obtain ⟨r, cs, hfile, hrevert, happly, hrest⟩ := hjob
      exact ⟨r, hfile, makes_mem_undone happly hrevert (hrest.subset List.mem_cons_self) hmakes⟩
    · rename_i c' rest clear hj
      obtain rfl := Option.some.inj hc
      simp only [State.JobInv, hj] at hjob
      obtain ⟨⟨r, hr, hrest⟩, -⟩ := hjob
      rw [h.pure r hr c' (hrest.subset List.mem_cons_self)] at hmakes
      cases hmakes
    · cases hc

/-! ## One event -/

theorem inv_boot {s s' : State} {os : Os} (h : Inv p s) (hcare : Careful s (.boot os))
    (hstep : step p.manager s (.boot os) = some s') : Inv p s' := by
  simp only [step] at hstep
  split at hstep
  · obtain rfl := Option.some.inj hstep
    by_cases hrecord : ∃ r, s.file = .record r
    · obtain ⟨r, hr⟩ := hrecord
      have hreplays : replays os s.file = some r := by
        rw [hr, replays, if_pos (hcare r hr)]
      simp only [hreplays]
      refine ⟨h.covers, h.pure, False.elim, ⟨r, hr, List.suffix_rfl⟩, fun ch hch => ?_⟩
      obtain ⟨r', hr', hmem⟩ := h.covers ch hch
      obtain rfl := StateFile.record.inj (hr.symm.trans hr')
      exact hmem
    · have hreplays : replays os s.file = none := by
        cases hf : s.file with
        | record r => exact absurd ⟨r, hf⟩ hrecord
        | _ => rfl
      simp only [hreplays]
      exact ⟨h.covers, h.pure, fun _ r hr => absurd ⟨r, hr⟩ hrecord, trivial⟩
  · cases hstep

theorem inv_connect {s s' : State} {plan : RoutePlan} {opened : Bool} (h : Inv p s)
    (hcare : Careful s (.connect plan opened))
    (hstep : step p.manager s (.connect plan opened) = some s') : Inv p s' := by
  simp only [step] at hstep
  split at hstep
  · split at hstep
    · obtain rfl := Option.some.inj hstep
      exact h
    · rename_i rs hrs
      cases opened with
      | false =>
        obtain rfl := Option.some.inj hstep
        exact h
      | true =>
        obtain rfl := Option.some.inj hstep
        have hempty : s.inForce = ∅ := hcare
        exact ⟨by simp [hempty], by simp [truncated], fun _ _ _ => rfl, rfl, rfl, hrs⟩
  · cases hstep

theorem inv_saved {s s' : State} {written : Bool} (h : Inv p s)
    (hstep : step p.manager s (.saved written) = some s') : Inv p s' := by
  simp only [step] at hstep
  split at hstep
  · rename_i plan rs hj
    have hjob := h.job
    simp only [State.JobInv, hj] at hjob
    obtain ⟨hfile, hwriter, hrevert⟩ := hjob
    have hempty : ∀ ch, ch ∉ s.inForce := by
      intro ch hch
      obtain ⟨r, hr, -⟩ := h.covers ch hch
      rw [hfile] at hr
      cases hr
    cases written with
    | false =>
      obtain rfl := Option.some.inj hstep
      exact h.rest (Or.inr rfl) (fun _ => by rw [hj]; trivial) h.covers
    | true =>
      obtain rfl := Option.some.inj hstep
      refine ⟨fun ch hch => absurd hch (hempty ch), ?_, fun _ _ _ => hwriter, ?_⟩
      · intro r hr c hc
        obtain rfl := StateFile.record.inj hr
        exact makes_of_revert hrevert hc
      · unfold State.JobInv
        rcases hcs : p.manager.applyCommands plan with e | cs
        · trivial
        · exact ⟨_, cs, rfl, hrevert, hcs, List.suffix_rfl⟩
  · cases hstep

/-- A command of a revert list has come to its end with care: what is still in force is undone by
the commands after it. -/
theorem Inv.undone_rest {s : State} (h : Inv p s) {o : Outcome} {c : RouteCommand}
    {rest : List RouteCommand} {r : AppliedState} (hr : s.file = .record r)
    (hrest : c :: rest <:+ r.revert) (hforce : ∀ ch ∈ s.inForce, ch ∈ undone (c :: rest))
    (hfail : o = .failed false → ∀ ch, c.undoes = some ch → ch ∉ s.inForce) :
    rest <:+ r.revert ∧ ∀ ch ∈ o.settle c s.inForce, ch ∈ s.inForce ∧ ch ∈ undone rest := by
  have hpure := h.pure r hr c (hrest.subset List.mem_cons_self)
  exact ⟨(List.suffix_cons c rest).trans hrest,
    fun _ hch => mem_undone_of_settle hpure hforce hfail hch⟩

theorem inv_command {s s' : State} {o : Outcome} (h : Inv p s) (hcare : Careful s (.command o))
    (hstep : step p.manager s (.command o) = some s') : Inv p s' := by
  have hjob := h.job
  have hfail : o = .failed false → ∀ c, s.running = some c → ∀ ch, c.undoes = some ch →
      ch ∉ s.inForce := by
    rintro rfl c hc ch hch
    exact hcare c ch hc hch
  simp only [step] at hstep
  split at hstep
  · rename_i c rest hj
    simp only [State.JobInv, hj] at hjob
    obtain ⟨⟨r, hr, hrest⟩, hforce⟩ := hjob
    obtain rfl := Option.some.inj hstep
    obtain ⟨hsuffix, hkeep⟩ := h.undone_rest hr hrest hforce
      fun ho => hfail ho c (by rw [State.running, hj])
    exact ⟨fun ch hch => h.covers ch (hkeep ch hch).1, h.pure, False.elim,
      ⟨r, hr, hsuffix⟩, fun ch hch => (hkeep ch hch).2⟩
  · rename_i plan c rest hj
    have hcovers := h.covers_of_running (by rw [State.running, hj]) o
    obtain rfl := Option.some.inj hstep
    by_cases ho : o = .done
    · simp only [State.JobInv, hj] at hjob
      obtain ⟨r, cs, hfile, hrevert, happly, hrest⟩ := hjob
      simp only [ho, if_true] at hcovers ⊢
      refine ⟨hcovers, h.pure, fun _ => h.own (by rw [hj]; trivial), r, cs, hfile, hrevert,
        happly, (List.suffix_cons c rest).trans hrest⟩
    · simp only [ho, if_false]
      exact h.rest (Or.inr rfl) (fun _ => by rw [hj]; trivial) hcovers
  · rename_i c rest clear hj
    simp only [State.JobInv, hj] at hjob
    obtain ⟨⟨r, hr, hrest⟩, hforce⟩ := hjob
    obtain rfl := Option.some.inj hstep
    obtain ⟨hsuffix, hkeep⟩ := h.undone_rest hr hrest hforce
      fun ho => hfail ho c (by rw [State.running, hj])
    exact ⟨fun ch hch => h.covers ch (hkeep ch hch).1, h.pure,
      fun _ => h.own (by rw [hj]; trivial), ⟨r, hr, hsuffix⟩, fun ch hch => (hkeep ch hch).2⟩
  · cases hstep

theorem inv_finished {s s' : State} (h : Inv p s)
    (hstep : step p.manager s .finished = some s') : Inv p s' := by
  have hjob := h.job
  simp only [step] at hstep
  split at hstep
  · rename_i hj
    simp only [State.JobInv, hj] at hjob
    obtain rfl := Option.some.inj hstep
    refine ⟨fun ch hch => ?_, by simp, fun _ => by simp, trivial⟩
    simpa [undone] using hjob.2 ch hch
  · rename_i plan hj
    simp only [State.JobInv, hj] at hjob
    obtain ⟨r, cs, hfile, hrevert, -⟩ := hjob
    obtain rfl := Option.some.inj hstep
    exact ⟨h.covers, h.pure, fun _ => h.own (by rw [hj]; trivial), r, hfile, hrevert⟩
  · rename_i clear hj
    simp only [State.JobInv, hj] at hjob
    obtain rfl := Option.some.inj hstep
    -- nothing is left in force, whether or not the record is cleared
    have hempty : ∀ ch, ch ∉ s.inForce := fun ch hch => by simpa [undone] using hjob.2 ch hch
    refine ⟨fun ch hch => absurd hch (hempty ch), ?_, ?_, trivial⟩
    · cases clear with
      | true => simp
      | false => exact h.pure
    · cases clear with
      | true => exact fun _ => by simp
      | false => exact fun _ => h.own (by rw [hj]; trivial)
  · cases hstep

/-- The guard's commands are the record's. -/
theorem inv_drop {s : State} {plan : RoutePlan} (h : Inv p s) (hj : s.job = .up plan)
    (clear : Bool) :
    Inv p { s with job := .reverting (guardCommands p.manager plan) clear } := by
  have hjob := h.job
  simp only [State.JobInv, hj] at hjob
  obtain ⟨r, hfile, hrevert⟩ := hjob
  have hcommands : guardCommands p.manager plan = r.revert := by
    rw [guardCommands, hrevert]
  rw [hcommands]
  refine ⟨h.covers, h.pure, fun _ => h.own (by rw [hj]; trivial), ⟨r, hfile, List.suffix_rfl⟩, ?_⟩
  intro ch hch
  obtain ⟨r', hr', hmem⟩ := h.covers ch hch
  obtain rfl := StateFile.record.inj (hfile.symm.trans hr')
  exact hmem

theorem inv_kill {s s' : State} {tookEffect : Bool} (h : Inv p s)
    (hstep : step p.manager s (.kill tookEffect) = some s') : Inv p s' := by
  have hcovers : ∀ ch ∈ s.running.elim s.inForce fun c =>
      (Outcome.failed tookEffect).settle c s.inForce,
      ∃ r, s.file = .record r ∧ ch ∈ undone r.revert := by
    rcases hc : s.running with _ | c
    · exact h.covers
    · exact h.covers_of_running hc _
  simp only [step] at hstep
  split at hstep
  · cases hstep
  · obtain rfl := Option.some.inj hstep
    exact h.rest (Or.inl rfl) (fun hidle => by cases hidle) hcovers

/-- **One careful event keeps the invariant.** -/
theorem step_inv {s s' : State} {e : Event} (h : Inv p s) (hcare : Careful s e)
    (hstep : step p.manager s e = some s') : Inv p s' := by
  cases e with
  | boot os => exact inv_boot h hcare hstep
  | connect plan opened => exact inv_connect h hcare hstep
  | saved written => exact inv_saved h hstep
  | command o => exact inv_command h hcare hstep
  | finished => exact inv_finished h hstep
  | disconnect =>
    simp only [step] at hstep
    split at hstep
    · rename_i plan hj
      obtain rfl := Option.some.inj hstep
      exact inv_drop h hj true
    · cases hstep
  | startFails =>
    simp only [step] at hstep
    split at hstep
    · rename_i plan hj
      obtain rfl := Option.some.inj hstep
      exact inv_drop h hj false
    · cases hstep
  | lapse ch =>
    obtain rfl := Option.some.inj hstep
    exact h.mono (Finset.erase_subset ch s.inForce)
  | kill tookEffect => exact inv_kill h hstep

/-! ## Runs -/

/-- **Changes in force are covered over careful runs**: after any events, each meeting its
condition, every change in force is undone by the live guard or by the record; past the startup
recovery a record is the running process's own; and a record is there for as long as its replay
runs. -/
theorem covered_of_guarded {os : Os} {s : State} {es : List Event}
    (hes : Guarded (step p.manager) Careful (.first os) es)
    (hrun : run (step p.manager) (.first os) es = some s) :
    s.Covered p ∧ s.OwnRecord ∧ s.Replayed := by
  have h : Inv p s := run_invariant (fun _ _ _ => step_inv) (inv_first os) hes hrun
  refine ⟨fun ch hch => Or.inr (h.covers ch hch), h.own, fun rest hj => ?_⟩
  have hjob := h.job
  simp only [State.JobInv, hj] at hjob
  exact hjob.1

/-- A connect that gets as far as its pin. -/
def pinConnect : List Event :=
  [.boot ⟨100, fun _ => .esrch⟩,
    .connect ⟨"tun0", .default, .ofOctets 198 51 100 7, .ofOctets 192 168 1 1, [], false⟩ true,
    .saved true, .command .done]

theorem covered_of_guarded_pinConnect :
    ∃ s, run (step linuxRoutes) (.first ⟨1, fun _ => .esrch⟩) pinConnect = some s ∧
      s.Covered .linux := by
  have hes : Guarded (step linuxRoutes) Careful (.first ⟨1, fun _ => .esrch⟩) pinConnect := by
    refine ⟨fun _ hr => (nomatch hr), fun s₁ h₁ => ?_⟩
    obtain rfl := Option.some.inj h₁
    exact ⟨rfl, fun _ _ => ⟨trivial, fun _ _ => ⟨trivial, fun _ _ => trivial⟩⟩⟩
  exact ⟨_, rfl, (covered_of_guarded (p := .linux) hes rfl).1⟩

/-- The condition on a connect cannot be dropped: once its record is truncated, what was in force
is covered by nothing. -/
theorem covered_connect_iff {s s' : State} {plan : RoutePlan} {rs : List RouteCommand}
    (hj : s.job = .idle) (hrs : p.manager.revertCommands plan = .ok rs)
    (hstep : step p.manager s (.connect plan true) = some s') :
    s'.Covered p ↔ s.inForce = ∅ := by
  simp only [step, hj, hrs, if_true, Option.some.injEq] at hstep
  subst hstep
  rw [Finset.eq_empty_iff_forall_notMem]
  constructor
  · intro hcov ch hch
    rcases hcov ch hch with ⟨plan', rs', hup, -⟩ | ⟨r, hr, -⟩
    · cases hup
    · cases hr
  · exact fun hempty ch hch => absurd hch (hempty ch)

/-- Two connects in default mode, the first of which loses its second command. -/
def secondConnect (server₁ server₂ : IpAddr) : List Event :=
  let plan (server : IpAddr) : RoutePlan :=
    ⟨"tun0", .default, server, .ofOctets 192 168 1 1, [.ofOctets 1 1 1 1], false⟩
  [.boot ⟨100, fun _ => .esrch⟩, .connect (plan server₁) true, .saved true, .command .done,
    .command (.failed false), .connect (plan server₂) true, .saved true]

/-- After these events the pin of the first server is in force and nothing covers it. -/
theorem not_covered_of_secondConnect :
    ∃ s, run (step linuxRoutes) (.first ⟨1, fun _ => .esrch⟩)
        (secondConnect (.ofOctets 198 51 100 7) (.ofOctets 203 0 113 9)) = some s ∧
      ¬s.Covered .linux := by
  refine ⟨_, rfl, fun hcov => ?_⟩
  rcases hcov (.route (IpAddr.ofOctets 198 51 100 7).host) (by decide +kernel) with
    ⟨plan, rs, hup, -⟩ | ⟨r, hr, hmem⟩
  · cases hup
  · obtain rfl := StateFile.record.inj hr
    revert hmem
    decide +kernel

end LiosTunnel.Helper
