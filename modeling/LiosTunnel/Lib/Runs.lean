import Mathlib.Tactic

/-!
# Runs of a machine whose events carry the environment's choices

A machine is a partial function from a state and an event to the next state. What the environment
decides is in the event, so a run is a list of events, and an assumption on the environment is a
guard: a condition on each event and the state it meets.

* `run`: a list of events, `none` when one of them does not fit the state.
* `Guarded`: every event of the list meets its guard in the state before it.
* `run_invariant`: what guarded steps keep, guarded runs keep.
* `Forever`: runs that do not end, with `exists_last` and `exists_rest` for what happens on them,
  and `exists_forever_of_loop` for a run that goes round.
* `guarded_iff`: a guard that is exactly what a property of all states needs.
* `decidableGuarded`: a guard decided along a run.
* `run_simulates`: a machine whose steps another machine matches, and their runs.
* `foldl_rule`, `foldl_reaches`, `foldl_keeps`: the same for a loop over distinct items, what one of
  its rounds brings about, and what a loop leaves alone.
-/

namespace Runs

variable {σ ε : Type*} (step : σ → ε → Option σ) (guard : σ → ε → Prop)

/-- A list of events from a state. -/
def run : σ → List ε → Option σ
  | s, [] => some s
  | s, e :: es => (step s e).bind fun s' => run s' es

/-- Every event of the list meets its guard. -/
def Guarded : σ → List ε → Prop
  | _, [] => True
  | s, e :: es => guard s e ∧ ∀ s', step s e = some s' → Guarded s' es

variable {step guard}

@[simp] theorem run_nil (s : σ) : run step s [] = some s := rfl

theorem run_cons (s : σ) (e : ε) (es : List ε) :
    run step s (e :: es) = (step s e).bind fun s' => run step s' es := rfl

/-- **The run rule**: an invariant of guarded steps holds at the end of every guarded run. -/
theorem run_invariant {Inv : σ → Prop}
    (hstep : ∀ s e s', Inv s → guard s e → step s e = some s' → Inv s') {s s' : σ} {es : List ε}
    (hs : Inv s) (hes : Guarded step guard s es) (h : run step s es = some s') : Inv s' := by
  induction es generalizing s with
  | nil =>
    obtain rfl := Option.some.inj h
    exact hs
  | cons e es ih =>
    rw [run_cons, Option.bind_eq_some_iff] at h
    obtain ⟨s₁, h₁, h⟩ := h
    exact ih (hstep s e s₁ hs hes.1 h₁) (hes.2 s₁ h₁) h

theorem guarded_trivial (s : σ) (es : List ε) : Guarded step (fun _ _ => True) s es := by
  induction es generalizing s with
  | nil => trivial
  | cons e es ih => exact ⟨trivial, fun s' _ => ih s'⟩

/-- An invariant that needs no guard. -/
theorem run_invariant_of_step {Inv : σ → Prop}
    (hstep : ∀ s e s', Inv s → step s e = some s' → Inv s') {s s' : σ} {es : List ε}
    (hs : Inv s) (h : run step s es = some s') : Inv s' :=
  run_invariant (fun s e s' hs _ => hstep s e s' hs) hs (guarded_trivial s es) h

/-- A run that goes on for ever. -/
def Forever (step : σ → ε → Option σ) (r : ℕ → σ) (es : ℕ → ε) : Prop :=
  ∀ n, step (r n) (es n) = some (r (n + 1))

namespace Forever

variable {r : ℕ → σ} {es : ℕ → ε}

theorem invariant (h : Forever step r es) {Inv : σ → Prop}
    (hstep : ∀ s e s', Inv s → step s e = some s' → Inv s') (hs : Inv (r 0)) (n : ℕ) :
    Inv (r n) := by
  induction n with
  | zero => exact hs
  | succ n ih => exact hstep _ _ _ ih (h n)

/-- What each step relates, the states of the run relate. -/
theorem relates (h : Forever step r es) {R : σ → σ → Prop} (hrefl : ∀ s, R s s)
    (htrans : ∀ s s₁ s₂, R s s₁ → R s₁ s₂ → R s s₂)
    (hstep : ∀ s e s', step s e = some s' → R s s') {n m : ℕ} (hnm : n ≤ m) : R (r n) (r m) := by
  induction hnm with
  | refl => exact hrefl _
  | step _ ih => exact htrans _ _ _ ih (hstep _ _ _ (h _))

end Forever

/-- A condition that comes to an end does so at a step. -/
theorem exists_last {P : ℕ → Prop} {n m : ℕ} (hnm : n ≤ m) (hn : P n) (hm : ¬ P m) :
    ∃ k, n ≤ k ∧ P k ∧ ¬ P (k + 1) := by
  by_contra hnone
  refine hm (Nat.le_induction hn (fun k hk hP => ?_) m hnm)
  by_contra hnot
  exact hnone ⟨k, hk, hP, hnot⟩

/-- A count that never falls and stays under a bound comes to rest. -/
theorem exists_rest {f : ℕ → ℕ} {bound n : ℕ} (hmono : Monotone f) (hf : ∀ m, n ≤ m → f m < bound) :
    ∃ t, n ≤ t ∧ ∀ m, t ≤ m → f m = f t := by
  induction hd : bound - f n using Nat.strong_induction_on generalizing n with
  | _ d ih =>
    by_cases hrest : ∀ m, n ≤ m → f m = f n
    · exact ⟨n, le_rfl, hrest⟩
    · push Not at hrest
      obtain ⟨m, hnm, hne⟩ := hrest
      have hlt : f n < f m := lt_of_le_of_ne (hmono hnm) (Ne.symm hne)
      have hbound := hf m hnm
      obtain ⟨t, hmt, ht⟩ := ih (bound - f m) (by omega) (fun k hk => hf k (hnm.trans hk)) rfl
      exact ⟨t, hnm.trans hmt, ht⟩

/-- **The exact guard**: where an unguarded event always leads somewhere bad, a fair run is guarded
if and only if no state it passes through is bad. -/
theorem guarded_iff {fair : σ → ε → Prop} {Inv Good : σ → Prop} (hgood : ∀ s, Inv s → Good s)
    (hstep : ∀ s e s', Inv s → fair s e → guard s e → step s e = some s' → Inv s')
    (hbad : ∀ s e, Inv s → fair s e → ¬ guard s e → ∃ s', step s e = some s' ∧ ¬ Good s') {s : σ}
    (hs : Inv s) {es : List ε} (hfair : Guarded step fair s es) :
    Guarded step guard s es ↔ ∀ es' s', es' <+: es → run step s es' = some s' → Good s' := by
  induction es generalizing s with
  | nil =>
    refine ⟨fun _ es' s' hes' h => ?_, fun _ => trivial⟩
    obtain rfl := List.prefix_nil.1 hes'
    obtain rfl := Option.some.inj h
    exact hgood s hs
  | cons e es ih =>
    constructor
    · intro hes es' s' hes' h
      cases es' with
      | nil =>
        obtain rfl := Option.some.inj h
        exact hgood s hs
      | cons e' es' =>
        obtain ⟨rfl, hsub⟩ := List.cons_prefix_cons.1 hes'
        rw [run_cons, Option.bind_eq_some_iff] at h
        obtain ⟨s₁, h₁, h⟩ := h
        have hs₁ : Inv s₁ := hstep s e' s₁ hs hfair.1 hes.1 h₁
        exact (ih hs₁ (hfair.2 s₁ h₁)).1 (hes.2 s₁ h₁) es' s' hsub h
    · intro h
      have hone : guard s e := by
        by_contra hnot
        obtain ⟨s₁, h₁, hnot⟩ := hbad s e hs hfair.1 hnot
        refine hnot (h [e] s₁ (List.cons_prefix_cons.2 ⟨rfl, List.nil_prefix⟩) ?_)
        rw [run_cons, h₁]
        rfl
      refine ⟨hone, fun s₁ h₁ => ?_⟩
      have hs₁ : Inv s₁ := hstep s e s₁ hs hfair.1 hone h₁
      refine (ih hs₁ (hfair.2 s₁ h₁)).2 fun es' s' hes' h' => ?_
      refine h (e :: es') s' (List.cons_prefix_cons.2 ⟨rfl, hes'⟩) ?_
      rw [run_cons, h₁]
      exact h'

theorem Guarded.mono {guard' : σ → ε → Prop} (hg : ∀ s e, guard s e → guard' s e) {s : σ}
    {es : List ε} (h : Guarded step guard s es) : Guarded step guard' s es := by
  induction es generalizing s with
  | nil => trivial
  | cons e es ih => exact ⟨hg s e h.1, fun s' hs' => ih (h.2 s' hs')⟩

/-- Events that meet their guard in any state. -/
theorem guarded_of_forall {es : List ε} (h : ∀ e ∈ es, ∀ s, guard s e) (s : σ) :
    Guarded step guard s es := by
  induction es generalizing s with
  | nil => trivial
  | cons e es ih =>
    exact ⟨h e List.mem_cons_self s,
      fun s' _ => ih (fun e' he' => h e' (List.mem_cons_of_mem _ he')) s'⟩

/-- What holds of every event of the list can be added to a guard. -/
theorem Guarded.and_forall {q : ε → Prop} {s : σ} {es : List ε} (h : Guarded step guard s es)
    (hq : ∀ e ∈ es, q e) : Guarded step (fun s e => guard s e ∧ q e) s es := by
  induction es generalizing s with
  | nil => trivial
  | cons e es ih =>
    exact ⟨⟨h.1, hq e List.mem_cons_self⟩,
      fun s' hs' => ih (h.2 s' hs') fun e' he' => hq e' (List.mem_cons_of_mem _ he')⟩

theorem run_append (s : σ) (es es' : List ε) :
    run step s (es ++ es') = (run step s es).bind fun s' => run step s' es' := by
  induction es generalizing s with
  | nil => rfl
  | cons e es ih =>
    rw [List.cons_append, run_cons, run_cons, Option.bind_assoc]
    exact congrArg _ (funext ih)

theorem Guarded.append {s : σ} {es es' : List ε} (h : Guarded step guard s es)
    (h' : ∀ s', run step s es = some s' → Guarded step guard s' es') :
    Guarded step guard s (es ++ es') := by
  induction es generalizing s with
  | nil => exact h' s rfl
  | cons e es ih =>
    refine ⟨h.1, fun s₁ h₁ => ih (h.2 s₁ h₁) fun s' hs' => h' s' ?_⟩
    rw [run_cons, h₁]
    exact hs'

/-- What a guarded run begins with is guarded. -/
theorem Guarded.left {s : σ} {es es' : List ε} (h : Guarded step guard s (es ++ es')) :
    Guarded step guard s es := by
  induction es generalizing s with
  | nil => trivial
  | cons e es ih => exact ⟨h.1, fun s' hs' => ih (h.2 s' hs')⟩

/-- A run that comes back to where it began can go round for ever. -/
theorem exists_forever_of_loop {s : σ} {loop : List ε} (hne : loop ≠ [])
    (hloop : run step s loop = some s) : ∃ r es, Forever step r es ∧
      ∀ n, run step s (loop.take (n % loop.length)) = some (r n) := by
  have hpos : 0 < loop.length := List.length_pos_iff.2 hne
  have hsome (n : ℕ) : ∃ s', run step s (loop.take n) = some s' := by
    rw [← List.take_append_drop n loop, run_append, Option.bind_eq_some_iff] at hloop
    obtain ⟨s', hs', -⟩ := hloop
    exact ⟨s', hs'⟩
  choose after hafter using hsome
  refine ⟨fun n => after (n % loop.length), fun n => loop.get ⟨n % loop.length, Nat.mod_lt n hpos⟩,
    fun n => ?_, fun n => hafter _⟩
  have hlt := Nat.mod_lt n hpos
  have hone : run step s (loop.take (n % loop.length + 1)) =
      step (after (n % loop.length)) (loop.get ⟨n % loop.length, hlt⟩) := by
    rw [List.take_succ_eq_append_getElem hlt, run_append, hafter, Option.bind_some, run_cons]
    exact Option.bind_fun_some _
  rw [← hone, ← hafter ((n + 1) % loop.length)]
  -- within the loop, or at its end, which is where it began
  obtain hin | hend : n % loop.length + 1 < loop.length ∨ n % loop.length + 1 = loop.length := by
    omega
  · rw [← Nat.mod_add_mod, Nat.mod_eq_of_lt hin]
  · rw [← Nat.mod_add_mod, hend, Nat.mod_self, List.take_length, hloop]
    rfl

/-- A run can come before one that does not end. -/
theorem exists_forever_of_run {s s' : σ} {pre : List ε} (h : run step s pre = some s')
    {r : ℕ → σ} {es : ℕ → ε} (hr : Forever step r es) (hs' : r 0 = s') :
    ∃ r' es', Forever step r' es' ∧ (∀ n ≤ pre.length, run step s (pre.take n) = some (r' n)) ∧
      ∀ n, r' (pre.length + n) = r n := by
  induction pre generalizing s with
  | nil =>
    obtain rfl := Option.some.inj h
    refine ⟨r, es, hr, fun n hn => ?_, fun n => by rw [List.length_nil, Nat.zero_add]⟩
    obtain rfl := Nat.le_zero.1 hn
    exact congrArg some hs'.symm
  | cons e pre ih =>
    rw [run_cons, Option.bind_eq_some_iff] at h
    obtain ⟨s₁, h₁, h⟩ := h
    obtain ⟨r', es', hr', hpre, hrest⟩ := ih h
    have hfirst : r' 0 = s₁ := (Option.some.inj (hpre 0 (Nat.zero_le _))).symm
    refine ⟨fun n => n.casesOn s r', fun n => n.casesOn e es', fun n => ?_,
      fun n hn => ?_, fun n => ?_⟩
    · cases n with
      | zero => exact h₁.trans (congrArg some hfirst.symm)
      | succ n => exact hr' n
    · cases n with
      | zero => rfl
      | succ n =>
        rw [List.take_succ_cons, run_cons, h₁, Option.bind_some]
        exact hpre n (Nat.le_of_succ_le_succ hn)
    · rw [List.length_cons, Nat.add_right_comm]
      exact hrest n

/-- **Simulation**: where each guarded step is matched by guarded steps of another machine, and the
states stay related, so is each guarded run. -/
theorem run_simulates {τ η : Type*} {step' : τ → η → Option τ} {guard' : τ → η → Prop}
    {R : σ → τ → Prop}
    (hstep : ∀ s t e s', R s t → guard s e → step s e = some s' →
      ∃ es' t', Guarded step' guard' t es' ∧ run step' t es' = some t' ∧ R s' t')
    {s s' : σ} {t : τ} {es : List ε} (h : R s t) (hes : Guarded step guard s es)
    (hrun : run step s es = some s') :
    ∃ es' t', Guarded step' guard' t es' ∧ run step' t es' = some t' ∧ R s' t' := by
  induction es generalizing s t with
  | nil =>
    obtain rfl := Option.some.inj hrun
    exact ⟨[], t, trivial, rfl, h⟩
  | cons e es ih =>
    rw [run_cons, Option.bind_eq_some_iff] at hrun
    obtain ⟨s₁, h₁, hrun⟩ := hrun
    obtain ⟨es₁, t₁, hg₁, hr₁, hR₁⟩ := hstep s t e s₁ h hes.1 h₁
    obtain ⟨es₂, t₂, hg₂, hr₂, hR₂⟩ := ih hR₁ (hes.2 s₁ h₁) hrun
    have hthen (t' : τ) (ht' : run step' t es₁ = some t') : t' = t₁ :=
      Option.some.inj (ht'.symm.trans hr₁)
    refine ⟨es₁ ++ es₂, t₂, hg₁.append fun t' ht' => hthen t' ht' ▸ hg₂, ?_, hR₂⟩
    rw [run_append, hr₁]
    exact hr₂

/-- What is claimed of an outcome can be decided if there is none, or of the one there is. -/
instance decidableForallSome {α : Type*} (p : α → Prop) [DecidablePred p] :
    (o : Option α) → Decidable (∀ a, o = some a → p a)
  | none => .isTrue fun _ h => nomatch h
  | some a => decidable_of_iff (p a) ⟨fun h _ heq => Option.some.inj heq ▸ h, fun h => h a rfl⟩

/-- A guard that can be decided can be decided along a run. -/
instance decidableGuarded [∀ s e, Decidable (guard s e)] :
    (s : σ) → (es : List ε) → Decidable (Guarded step guard s es)
  | _, [] => .isTrue trivial
  | s, e :: es =>
    haveI := fun s' => decidableGuarded s' es
    inferInstanceAs (Decidable (guard s e ∧ ∀ s', step s e = some s' → Guarded step guard s' es))

/-- **A loop over distinct items**: a round may rely on what holds of its item as long as the
rounds before it, about other items, keep that. -/
theorem foldl_rule {ι : Type*} {f : σ → ι → σ} {P : σ → Prop} {Q : ι → σ → Prop}
    (hstep : ∀ s a, P s → Q a s → P (f s a))
    (hkeep : ∀ s a b, a ≠ b → P s → Q a s → Q b s → Q b (f s a)) {l : List ι} (hl : l.Nodup)
    {s : σ} (hs : P s) (hq : ∀ a ∈ l, Q a s) : P (l.foldl f s) := by
  induction l generalizing s with
  | nil => exact hs
  | cons a l ih =>
    obtain ⟨ha, hl⟩ := List.nodup_cons.1 hl
    have hqa := hq a List.mem_cons_self
    refine ih hl (hstep s a hs hqa) fun b hb => ?_
    have hne : a ≠ b := by
      rintro rfl
      exact ha hb
    exact hkeep s a b hne hs hqa (hq b (List.mem_cons_of_mem _ hb))

/-- What the round of one item brings about, and the other rounds keep, holds when a loop over
distinct items is through. -/
theorem foldl_reaches {ι : Type*} {f : σ → ι → σ} {P R : σ → Prop} {Q : ι → σ → Prop}
    (hstep : ∀ s a, P s → Q a s → P (f s a))
    (hkeep : ∀ s a b, a ≠ b → P s → Q a s → Q b s → Q b (f s a)) {a : ι}
    (hdone : ∀ s, P s → Q a s → R (f s a)) (hstay : ∀ s b, P s → Q b s → R s → R (f s b))
    {l : List ι} (hl : l.Nodup) (ha : a ∈ l) {s : σ} (hs : P s) (hq : ∀ b ∈ l, Q b s) :
    R (l.foldl f s) := by
  induction l generalizing s with
  | nil => cases ha
  | cons b l ih =>
    obtain ⟨hb, hnodup⟩ := List.nodup_cons.1 hl
    have hqb := hq b List.mem_cons_self
    have hrest : ∀ c ∈ l, Q c (f s b) := by
      intro c hc
      have hne : b ≠ c := by
        rintro rfl
        exact hb hc
      exact hkeep s b c hne hs hqb (hq c (List.mem_cons_of_mem _ hc))
    obtain rfl | ha := List.mem_cons.1 ha
    · have hfirst : P (f s a) ∧ R (f s a) := ⟨hstep s a hs hqb, hdone s hs hqb⟩
      have hreached : P (l.foldl f (f s a)) ∧ R (l.foldl f (f s a)) :=
        foldl_rule (P := fun s => P s ∧ R s)
          (fun s b hs hq => ⟨hstep s b hs.1 hq, hstay s b hs.1 hq hs.2⟩)
          (fun s b c hne hs => hkeep s b c hne hs.1) hnodup hfirst hrest
      exact hreached.2
    · exact ih hnodup ha (hstep s b hs hqb) hrest

/-- A loop whose rounds leave something alone leaves it alone. -/
theorem foldl_keeps {ι α : Type*} {f : σ → ι → σ} {π : σ → α} (hf : ∀ s a, π (f s a) = π s)
    (l : List ι) (s : σ) : π (l.foldl f s) = π s := by
  induction l generalizing s with
  | nil => rfl
  | cons a l ih => rw [List.foldl_cons, ih, hf]

end Runs
