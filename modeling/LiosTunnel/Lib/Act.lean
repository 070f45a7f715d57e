import Mathlib.Tactic.Basic

/-!
# Actions that may fail

An action changes a state and returns a value or fails; what it did before it failed stays done. A
triple says what holds in the end in either case, and each way to build an action has a rule.

* `Act`: actions, a monad, with `throw`, `ofExcept`, `get` and `onError`.
* `Triple`: from a state in which `P` holds, `Q` if the action returns and `E` if it fails.
* `Keeps`: what an action preserves however it ends.
* `triple_bind`, `triple_onError`, `keeps_bind`, `keeps_onError`: the rules.
-/

universe u v w

/-- An action on a state that may fail. -/
def Act (σ : Type u) (ε : Type v) (α : Type w) := σ → Except ε α × σ

namespace Act

variable {σ : Type u} {ε : Type v} {α β : Type w}

/-- A value, with nothing done. -/
def ret (a : α) : Act σ ε α := fun s => (.ok a, s)

/-- One action after another. -/
def andThen (m : Act σ ε α) (f : α → Act σ ε β) : Act σ ε β := fun s =>
  match m s with
  | (.ok a, s') => f a s'
  | (.error e, s') => (.error e, s')

instance : Monad (Act σ ε) where
  pure := ret
  bind := andThen

/-- A failure. -/
def throw (e : ε) : Act σ ε α := fun s => (.error e, s)

/-- What a function of the state says. -/
def ofExcept (f : σ → Except ε α) : Act σ ε α := fun s => (f s, s)

/-- An action with one more to do if it fails. The failure is passed on, or that of the second
action. -/
def onError (m : Act σ ε α) (cleanup : Act σ ε PUnit) : Act σ ε α := fun s =>
  match m s with
  | (.ok a, s') => (.ok a, s')
  | (.error e, s') =>
    match cleanup s' with
    | (.ok _, s'') => (.error e, s'')
    | (.error e', s'') => (.error e', s'')

/-! ## Runs from one state -/

theorem bind_of_ok {m : Act σ ε α} {s s' : σ} {a : α} (h : m s = (.ok a, s')) (f : α → Act σ ε β) :
    (m >>= f) s = f a s' := by
  change andThen m f s = f a s'
  rw [andThen, h]

theorem bind_of_error {m : Act σ ε α} {s s' : σ} {e : ε} (h : m s = (.error e, s'))
    (f : α → Act σ ε β) : (m >>= f) s = (.error e, s') := by
  change andThen m f s = _
  rw [andThen, h]

theorem ofExcept_of_ok {f : σ → Except ε α} {s : σ} {a : α} (h : f s = .ok a) :
    Act.ofExcept f s = (.ok a, s) := Prod.ext h rfl

theorem onError_of_ok {m : Act σ ε α} {cleanup : Act σ ε PUnit} {s s' : σ} {a : α}
    (h : m s = (.ok a, s')) : onError m cleanup s = (.ok a, s') := by
  rw [onError, h]

/-! ## Triples -/

/-- What holds in the end: `Q` if the action returns, `E` if it fails. -/
def Post (Q : α → σ → Prop) (E : σ → Prop) : Except ε α × σ → Prop
  | (.ok a, s) => Q a s
  | (.error _, s) => E s

/-- From a state in which `P` holds. -/
def Triple (P : σ → Prop) (m : Act σ ε α) (Q : α → σ → Prop) (E : σ → Prop) : Prop :=
  ∀ s, P s → Post Q E (m s)

/-- What holds before holds after, however the action ends. -/
def Keeps (P : σ → Prop) (m : Act σ ε α) : Prop := ∀ s, P s → P (m s).2

variable {P : σ → Prop} {Q : α → σ → Prop} {R : β → σ → Prop} {E : σ → Prop} {m : Act σ ε α}
  {f : α → Act σ ε β}

theorem post_state {r : Except ε α × σ} (h : Post (fun _ => E) E r) : E r.2 := by
  obtain ⟨_ | _, s⟩ := r
  · exact h
  · exact h

theorem post_of_state {r : Except ε α × σ} (h : E r.2) : Post (fun _ => E) E r := by
  obtain ⟨_ | _, s⟩ := r
  · exact h
  · exact h

theorem Post.of_error {r : Except ε α × σ} {e : ε} (h : Post Q E r) (he : r.1 = .error e) :
    E r.2 := by
  obtain ⟨_ | a, s⟩ := r
  · exact h
  · cases he

theorem triple_keeps (h : Keeps P m) : Triple P m (fun _ => P) P :=
  fun s hs => post_of_state (h s hs)

theorem keeps_triple (h : Triple P m (fun _ => P) P) : Keeps P m := fun s hs => post_state (h s hs)

/-- The consequence rule. -/
theorem triple_mono {P' : σ → Prop} {Q' : α → σ → Prop} {E' : σ → Prop} (h : Triple P m Q E)
    (hP : ∀ s, P' s → P s) (hQ : ∀ a s, Q a s → Q' a s) (hE : ∀ s, E s → E' s) :
    Triple P' m Q' E' := by
  intro s hs
  have hpost := h s (hP s hs)
  generalize m s = r at hpost ⊢
  obtain ⟨_ | a, s'⟩ := r
  · exact hE s' hpost
  · exact hQ a s' hpost

theorem triple_bind (hm : Triple P m Q E) (hf : ∀ a, Triple (Q a) (f a) R E) :
    Triple P (m >>= f) R E := by
  intro s hs
  have hpost := hm s hs
  change Post R E (match m s with
    | (.ok a, s') => f a s'
    | (.error e, s') => (.error e, s'))
  generalize m s = r at hpost ⊢
  obtain ⟨_ | a, s'⟩ := r
  · exact hpost
  · exact hf a s' hpost

theorem triple_pure {a : α} (h : ∀ s, P s → Q a s) : Triple P (pure a : Act σ ε α) Q E :=
  fun s hs => h s hs

theorem triple_throw {e : ε} (h : ∀ s, P s → E s) : Triple P (throw e : Act σ ε α) Q E :=
  fun s hs => h s hs

theorem triple_ofExcept {g : σ → Except ε α} (hok : ∀ s a, P s → g s = .ok a → Q a s)
    (herror : ∀ s, P s → E s) : Triple P (ofExcept g) Q E := by
  intro s hs
  unfold ofExcept
  cases h : g s with
  | ok a => exact hok s a hs h
  | error e => exact herror s hs

theorem triple_onError {cleanup : Act σ ε PUnit} {E' : σ → Prop} (hm : Triple P m Q E')
    (hcleanup : Triple E' cleanup (fun _ => E) E) : Triple P (onError m cleanup) Q E := by
  intro s hs
  have hpost := hm s hs
  unfold onError
  generalize m s = r at hpost ⊢
  obtain ⟨_ | a, s'⟩ := r
  · have hclean := hcleanup s' hpost
    dsimp only
    generalize cleanup s' = r at hclean ⊢
    obtain ⟨_ | _, s''⟩ := r
    · exact hclean
    · exact hclean
  · exact hpost

theorem keeps_pure {a : α} : Keeps P (pure a : Act σ ε α) := fun _ hs => hs

theorem keeps_throw {e : ε} : Keeps P (throw e : Act σ ε α) := fun _ hs => hs

theorem keeps_ofExcept {g : σ → Except ε α} : Keeps P (ofExcept g) := fun _ hs => hs

theorem keeps_bind (hm : Keeps P m) (hf : ∀ a, Keeps P (f a)) : Keeps P (m >>= f) :=
  keeps_triple (triple_bind (triple_keeps hm) fun a => triple_keeps (hf a))

theorem keeps_onError {cleanup : Act σ ε PUnit} (hm : Keeps P m) (hcleanup : Keeps P cleanup) :
    Keeps P (onError m cleanup) :=
  keeps_triple (triple_onError (triple_keeps hm) (triple_keeps hcleanup))

end Act
