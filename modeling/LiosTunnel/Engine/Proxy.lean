import LiosTunnel.Stack.Endings
import LiosTunnel.Stack.Outbound

/-!
# How a failed flow ends

`proxy_one` of `engine.rs` opens a stream through the tunnel and copies between it and the
`LocalStream` until either ends or fails; on every path it drops the `LocalStream`. The stack sees
no more than that: a stream that is shut down or dropped is the end of what the application is sent,
and `socket.close()` follows with a FIN as soon as the rest is in the send buffer. Only where it
never gets so far is a failed flow ended by a reset.

* `Task`, `Proxied`, `Proxied.next`: the stack with the tasks of its flows.
* `EndsByReset`: no failed flow had a FIN asked for, and each that is over was reset.
* `Withheld`: no failed flow comes to `socket.close()` in a state that sends a FIN.
* `failed_flows_end`: failed flows end by a reset exactly in the runs that are withheld, and in any
  run by their deadline.
-/

namespace LiosTunnel.Engine

open Runs Stack

/-- Where the task of a flow is. -/
inductive Task
  | opening
  | copying
  | finished
  | failed
  /-- It panicked or was aborted. -/
  | abandoned
  deriving DecidableEq, Repr

/-- The stack, the tasks by their streams' numbers and the two counters of `proxy_one`. -/
structure Proxied (S : Type) where
  stack : Loop S
  task : ℕ → Task
  flowsOpened : ℕ
  flowsFailed : ℕ

/-- One thing that happens to the stack or a task. -/
inductive ProxyEvent (S : Type)
  /-- To the stack, other than through a stream. -/
  | stack (e : Event S)
  /-- `open_tcp_stream` answers. -/
  | opened (n : ℕ) (ok : Bool)
  /-- `copy_bidirectional` uses the stream. -/
  | copy (n : ℕ) (op : StreamOp)
  /-- `copy_bidirectional` ends. -/
  | copied (n : ℕ) (ok : Bool)
  | abandon (n : ℕ)

namespace ProxyEvent

variable {S : Type}

/-- What the stack sees of it. -/
def seen : ProxyEvent S → Option (Event S)
  | .stack e => some e
  | .opened n ok => if ok then none else some (.stream n .drop)
  | .copy n op => some (.stream n op)
  | .copied n _ | .abandon n => some (.stream n .drop)

/-- The events of a step after its begin, with what the tasks do meanwhile. -/
def inStep : ProxyEvent S → Bool
  | .stack e => e.inStep
  | _ => true

/-- The task that fails. -/
def fails : ProxyEvent S → Option ℕ
  | .opened n ok | .copied n ok => if ok then none else some n
  | _ => none

theorem inStep_seen {e : ProxyEvent S} {e' : Event S} (hin : e.inStep = true)
    (hseen : e.seen = some e') : e'.inStep = true := by
  cases e with
  | stack e =>
    obtain rfl := Option.some.inj hseen
    exact hin
  | opened n ok =>
    cases ok <;> cases hseen
    rfl
  | copy n op | copied n ok | abandon n =>
    cases hseen
    rfl

end ProxyEvent

namespace Proxied

variable {S : Type}

/-- Before the first packet. -/
def start (cfg : StackConfig) : Proxied S := ⟨.start cfg, fun _ => .opening, 0, 0⟩

/-- A task uses its stream. -/
def useStream (p : Proxied S) (n : ℕ) (op : StreamOp) : Proxied S :=
  { p with stack := { p.stack with core := p.stack.core.stream n op } }

/-- A task is over and its `LocalStream` dropped. -/
def drop (p : Proxied S) (n : ℕ) (task : Task) : Proxied S :=
  { p.useStream n .drop with task := Function.update p.task n task }

/-- A task runs: its stream is there and it has not ended. -/
def runs (p : Proxied S) (n : ℕ) (task : Task) : Bool :=
  decide (n < p.stack.core.nextStream) && p.task n == task

/-- `proxy_one` and the stack, one event at a time. -/
def next (wire : Wire) (api : TcpApi S) (p : Proxied S) : ProxyEvent S → Option (Proxied S)
  | .stack (.stream _ _) => none
  | .stack e => (p.stack.next wire api e).map fun l => { p with stack := l }
  | .opened n ok =>
    if p.runs n .opening then
      if ok then
        some { p with
          task := Function.update p.task n .copying
          flowsOpened := p.flowsOpened + 1 }
      -- dropping `stream` resets the local connection, as the source has it
      else some { p.drop n .failed with flowsFailed := p.flowsFailed + 1 }
    else none
  | .copy n op => if p.runs n .copying && op != .drop then some (p.useStream n op) else none
  | .copied n ok =>
    if p.runs n .copying then some (p.drop n (if ok then .finished else .failed)) else none
  | .abandon n =>
    if p.runs n .opening || p.runs n .copying then some (p.drop n .abandoned) else none

variable {wire : Wire} {api : TcpApi S} {p p' : Proxied S} {e : ProxyEvent S}

theorem runs_iff {n : ℕ} {task : Task} :
    p.runs n task = true ↔ n < p.stack.core.nextStream ∧ p.task n = task := by
  rw [runs, Bool.and_eq_true, decide_eq_true_eq, beq_iff_eq]

/-- What an event does to the stack and the tasks. -/
inductive Moves (wire : Wire) (api : TcpApi S) (p : Proxied S) (e : ProxyEvent S)
    (p' : Proxied S) : Prop
  /-- No task gets any further. -/
  | goesOn {e' : Event S} (hseen : e.seen = some e')
      (hn : p.stack.next wire api e' = some p'.stack) (htask : p'.task = p.task)
  /-- The tunnel's stream is open. -/
  | opens {n : ℕ} (he : e = .opened n true) (hlt : n < p.stack.core.nextStream)
      (hstack : p'.stack = p.stack) (htask : p'.task = Function.update p.task n .copying)
  /-- A task is over. -/
  | ends {n : ℕ} {task : Task} (hseen : e.seen = some (.stream n .drop))
      (hlt : n < p.stack.core.nextStream) (hstack : p'.stack = (p.useStream n .drop).stack)
      (htask : p'.task = Function.update p.task n task) (hfails : task = .failed → e.fails = some n)

theorem moves_of_next (hn : p.next wire api e = some p') : Moves wire api p e p' := by
  cases e with
  | stack e =>
    have hnext : (p.stack.next wire api e).map (fun l => { p with stack := l }) = some p' := by
      cases e with
      | stream n op => cases hn
      | _ => exact hn
    obtain ⟨l, hl, rfl⟩ := Option.map_eq_some_iff.1 hnext
    exact .goesOn rfl hl rfl
  | opened n ok =>
    simp only [next] at hn
    split at hn
    · rename_i hrun
      obtain ⟨hlt, -⟩ := runs_iff.1 hrun
      cases ok with
      | true =>
        obtain rfl := Option.some.inj hn
        exact .opens rfl hlt rfl rfl
      | false =>
        obtain rfl := Option.some.inj hn
        exact .ends rfl hlt rfl rfl fun _ => rfl
    · cases hn
  | copy n op =>
    simp only [next] at hn
    split at hn
    · obtain rfl := Option.some.inj hn
      exact .goesOn rfl rfl rfl
    · cases hn
  | copied n ok =>
    simp only [next] at hn
    split at hn
    · rename_i hrun
      obtain ⟨hlt, -⟩ := runs_iff.1 hrun
      obtain rfl := Option.some.inj hn
      refine .ends rfl hlt rfl rfl fun hfailed => ?_
      cases ok with
      | true => cases hfailed
      | false => rfl
    · cases hn
  | abandon n =>
    simp only [next] at hn
    split at hn
    · rename_i hrun
      obtain rfl := Option.some.inj hn
      have hlt : n < p.stack.core.nextStream := by
        rw [Bool.or_eq_true, runs_iff, runs_iff] at hrun
        exact hrun.elim And.left And.left
      exact .ends rfl hlt rfl rfl fun hfailed => (by cases hfailed)
    · cases hn

/-- The stack takes one of its own steps, or none. -/
theorem Moves.stack (h : Moves wire api p e p') : p'.stack = p.stack ∨
    ∃ e', e.seen = some e' ∧ p.stack.next wire api e' = some p'.stack := by
  cases h with
  | goesOn hseen hn _ => exact Or.inr ⟨_, hseen, hn⟩
  | opens _ _ hstack _ => exact Or.inl hstack
  | ends hseen _ hstack _ _ => exact Or.inr ⟨_, hseen, hstack ▸ rfl⟩

end Proxied

/-- **No failed flow is presented as a completed one**: on none was a FIN asked for, and each whose
connection is over was aborted by the stack, or reset by the application. -/
structure EndsByReset {S : Type} (p : Proxied S) : Prop where
  noFin : ∀ n, p.task n = .failed → p.stack.core.finAsked n = false
  reset : ∀ f ∈ p.stack.core.retired, p.task f.stream = .failed →
    f.link.trace.aborted = true ∨ f.link.trace.reset = true

section

variable {S : Type} (api : TcpApi S)

/-- `pump_outbound` would ask for a FIN, if the stream has ended: the send buffer takes what is
left. -/
def finishesOut (c : Cell S) : Bool :=
  (api.state c.socket).finishes && takesAll api c.socket c.unsent

/-- `pump_inbound` would ask for a FIN, if the stream is dropped: there are bytes to hand over. -/
def finishesIn (c : Cell S) : Bool :=
  (api.state c.socket).finishes && (!c.flow.link.inbound.senderGone && api.canRecv c.socket)

/-- No failed flow is about to have its FIN asked for, and no flow fails that has. -/
def Withheld (p : Proxied S) : ProxyEvent S → Prop
  | .stack .pass => ∀ k c, p.stack.core.cell k = some c → p.task c.flow.stream = .failed →
      (p.stack.phase = .pumpOutbound → finishesOut api c = false) ∧
        (p.stack.phase = .pumpInbound → finishesIn api c = false)
  | .opened n ok => ok = false → p.runs n .opening = true → p.stack.core.finAsked n = false
  | .copied n ok => ok = false → p.runs n .copying = true → p.stack.core.finAsked n = false
  | _ => True

/-- The polls lead each socket where they may. -/
def Abides (p : Proxied S) : ProxyEvent S → Prop
  | .stack e => Obeys api p.stack e
  | _ => True

instance (p : Proxied S) : (e : ProxyEvent S) → Decidable (Abides api p e)
  | .stack e => inferInstanceAs (Decidable (Obeys api p.stack e))
  | .opened _ _ | .copy _ _ | .copied _ _ | .abandon _ => .isTrue trivial

instance (p : Proxied S) : (e : ProxyEvent S) → Decidable (Withheld api p e)
  | .stack .pass => inferInstanceAs (Decidable (∀ k c, p.stack.core.cell k = some c →
      p.task c.flow.stream = .failed →
        (p.stack.phase = .pumpOutbound → finishesOut api c = false) ∧
          (p.stack.phase = .pumpInbound → finishesIn api c = false)))
  | .opened n ok => inferInstanceAs (Decidable (ok = false → p.runs n .opening = true →
      p.stack.core.finAsked n = false))
  | .copied n ok => inferInstanceAs (Decidable (ok = false → p.runs n .copying = true →
      p.stack.core.finAsked n = false))
  | .stack (.ingest _) | .stack (.begin _) | .stack (.poll _) | .stack (.stream _ _)
  | .stack .drain | .copy _ _ | .abandon _ => .isTrue trivial

end

variable {S : Type} {api : TcpApi S} {wire : Wire} {p p' : Proxied S} {e : ProxyEvent S}

theorem Abides.obeys {e' : Event S} (h : Abides api p e) (hseen : e.seen = some e') :
    Obeys api p.stack e' := by
  cases e with
  | stack e =>
    obtain rfl := Option.some.inj hseen
    exact h
  | opened n ok =>
    cases ok <;> cases hseen
    trivial
  | copy n op | copied n ok | abandon n =>
    cases hseen
    trivial

/-! ## The streams of failed flows -/

/-- The stream of a failed flow is dropped. -/
def Gone (task : ℕ → Task) (c : Cell S) : Prop :=
  task c.flow.stream = .failed → c.flow.link.inbound.receiverGone = true

theorem Gone.of_sameEnds {task : ℕ → Task} {c c' : Cell S} (h : Gone task c)
    (hends : Cell.SameEnds c c') : Gone task c' := by
  intro hfailed
  rw [hends.receiver]
  exact h (hends.stream ▸ hfailed)

theorem Gone.useStream {task : ℕ → Task} {c : Cell S} (h : Gone task c) (n : ℕ) (op : StreamOp) :
    Gone task (c.useStream n op) := by
  intro hfailed
  have hgone := h ((congrArg task (c.flow.stream_useStream n op)).symm.trans hfailed)
  rw [Cell.useStream, Flow.useStream]
  split
  · unfold Link.apply
    rwa [if_pos hgone]
  · exact hgone

/-- Every task that has got anywhere has its stream. -/
def Started (task : ℕ → Task) (l : Loop S) (_ : Event S) : Prop :=
  ∀ n, task n ≠ .opening → n < l.core.nextStream

variable (api) in
theorem gone_rules (task : ℕ → Task) :
    FlowRules api (Started task) (fun _ _ => Gone task) (fun _ => True) where
  start _ _ _ := id
  quiet _ _ := ⟨id, id, id⟩
  abort now c h := h.of_sameEnds (c.sameEnds_abortExpired now)
  pumpOutbound _ _ _ _ c _ h := h.of_sameEnds (c.sameEnds_pumpOutbound _)
  poll _ _ _ _ _ _ _ _ _ _ h := h.of_sameEnds ⟨rfl, rfl, rfl⟩
  promote l _ hg _ _ _ _ n _ _ _ _ _ _ _ hle hfailed := by
    have hfailed : task n = .failed := hfailed
    have hlt := hg n (by rw [hfailed]; decide)
    omega
  pumpInbound _ _ _ _ c _ h := h.of_sameEnds (c.sameEnds_pumpInbound _)
  observe now c h := h.of_sameEnds (c.sameEnds_observe now)
  reap _ _ _ _ := trivial
  stream l n op _ k c _ h := h.useStream n op
  streamRetired _ _ _ _ _ _ _ := trivial

/-- What holds between events. -/
structure Sound (api : TcpApi S) (p : Proxied S) : Prop where
  ends : Ends api p.stack
  gone : FlowInv (Gone p.task) (fun _ => True) p.stack.core
  started : ∀ n, p.task n ≠ .opening → n < p.stack.core.nextStream

namespace Sound

theorem start (hapi : Terminates api) (cfg : StackConfig) : Sound api (.start cfg : Proxied S) :=
  ⟨ends_start hapi cfg, (gone_rules api _).flowInv_start cfg, fun _ hn => absurd rfl hn⟩

/-- A connection whose flow has failed is closed both ways. -/
theorem failed (h : Sound api p) {k : ℕ} {c : Cell S} (hc : p.stack.core.cell k = some c)
    (hfailed : p.task c.flow.stream = .failed) :
    c.flow.link.inbound.receiverGone = true ∧ c.flow.link.outbound.senderGone = true :=
  have hgone := h.gone.live k c hc hfailed
  ⟨hgone, (h.ends.flows.live k c hc).dropped hgone⟩

/-- A task is over once its stream is dropped. -/
theorem receiverGone_drop {s : StackCore S} {n k : ℕ} {c : Cell S}
    (hc : (s.stream n .drop).cell k = some c) (hstream : c.flow.stream = n) :
    c.flow.link.inbound.receiverGone = true := by
  obtain ⟨c₀, -, rfl⟩ := Option.map_eq_some_iff.1 ((s.cell_stream n .drop k).symm.trans hc)
  have hstream : c₀.flow.stream = n := (c₀.flow.stream_useStream n .drop).symm.trans hstream
  rw [Cell.useStream, Flow.useStream, if_pos hstream]
  unfold Link.apply
  split
  · assumption
  · rfl

theorem next (hapi : Terminates api) (h : Sound api p) (hg : Abides api p e)
    (hn : p.next wire api e = some p') : Sound api p' := by
  have hmoves := Proxied.moves_of_next hn
  have hends : Ends api p'.stack := by
    obtain hstack | ⟨e', hseen, hl⟩ := hmoves.stack
    · exact hstack ▸ h.ends
    · exact h.ends.next hapi (hg.obeys hseen) hl
  cases hmoves with
  | goesOn hseen hl htask =>
    refine ⟨hends, ?_, fun n hne => ?_⟩
    · rw [htask]
      exact (gone_rules api p.task).flowInv_next h.gone h.started hl
    · exact (h.started n (htask ▸ hne)).trans_le (nextStream_next hl)
  | @opens n he hlt hstack htask =>
    refine ⟨hends, ⟨hends.flows.accounted, fun k c hc hfailed => ?_, fun _ _ => trivial⟩,
      fun m hne => ?_⟩
    · rw [htask] at hfailed
      by_cases heq : c.flow.stream = n
      · rw [heq, Function.update_self] at hfailed
        cases hfailed
      · rw [Function.update_of_ne heq] at hfailed
        exact h.gone.live k c (hstack ▸ hc) hfailed
    · rw [hstack]
      by_cases heq : m = n
      · exact heq ▸ hlt
      · rw [htask, Function.update_of_ne heq] at hne
        exact h.started m hne
  | @ends n task hseen hlt hstack htask hfails =>
    refine ⟨hends, ⟨hends.flows.accounted, fun k c hc hfailed => ?_, fun _ _ => trivial⟩,
      fun m hne => ?_⟩
    · rw [hstack] at hc
      by_cases heq : c.flow.stream = n
      · exact receiverGone_drop hc heq
      · rw [htask, Function.update_of_ne heq] at hfailed
        obtain ⟨c₀, hc₀, rfl⟩ :=
          Option.map_eq_some_iff.1 ((p.stack.core.cell_stream n .drop k).symm.trans hc)
        exact (h.gone.live k c₀ hc₀).useStream n .drop hfailed
    · rw [hstack]
      by_cases heq : m = n
      · exact heq ▸ hlt
      · rw [htask, Function.update_of_ne heq] at hne
        exact h.started m hne

/-- In any run. -/
theorem of_run (hapi : Terminates api) {cfg : StackConfig} {es : List (ProxyEvent S)}
    (hes : Guarded (Proxied.next wire api) (Abides api) (.start cfg) es)
    (h : run (Proxied.next wire api) (.start cfg) es = some p) : Sound api p :=
  run_invariant (fun _ _ _ hs hg hn => hs.next hapi hg hn) (start hapi cfg) hes h

end Sound

/-! ## Failed flows on which no FIN is asked for -/

/-- No FIN was asked for if the flow has failed. -/
def Unfinished (task : ℕ → Task) (f : Flow) : Prop := task f.stream = .failed → f.finAsked = false

theorem Unfinished.useStream {task : ℕ → Task} {f : Flow} (h : Unfinished task f) (n : ℕ)
    (op : StreamOp) : Unfinished task (f.useStream n op) := by
  intro hfailed
  rw [(f.ended_useStream n op).1]
  exact h ((congrArg task (f.stream_useStream n op)).symm.trans hfailed)

/-- The stack's own events, where no failed flow comes to a FIN. -/
def Calm (api : TcpApi S) (task : ℕ → Task) (l : Loop S) (e : Event S) : Prop :=
  Started task l e ∧ (e = .pass → ∀ k c, l.core.cell k = some c → task c.flow.stream = .failed →
    c.flow.link.inbound.receiverGone = true ∧
      (l.phase = .pumpOutbound → finishesOut api c = false) ∧
        (l.phase = .pumpInbound → finishesIn api c = false))

theorem unfinished_rules (hapi : Terminates api)
    (hsend : ∀ sk data, api.canSend sk = true → (api.sendSlice sk data).isSome = true)
    (task : ℕ → Task) : FlowRules api (Calm api task) (fun _ _ c => Unfinished task c.flow)
      (Unfinished task) where
  start _ _ _ := id
  quiet _ _ := ⟨id, id, id⟩
  abort now c h := by
    rw [Cell.abortExpired]
    split <;> exact h
  pumpOutbound l hp hg k c hc h hfailed := by
    rw [(c.sameEnds_pumpOutbound _).stream] at hfailed
    have hquiet := (hg.2 rfl k c hc hfailed).2.1 hp
    have hasked : (c.pumpOutbound api l.core.lastStep).flow.finAsked = _ :=
      congrArg Prod.snd (c.ending_pumpOutbound hapi hsend _)
    rw [hasked]
    split
    · rename_i hcloses
      rw [Bool.and_eq_true] at hcloses
      rw [finishesOut, hcloses.2, Bool.and_true] at hquiet
      show (c.flow.finAsked || (api.state c.socket).finishes) = false
      rw [h hfailed, hquiet, Bool.or_self]
    · exact h hfailed
  poll _ _ _ _ _ _ _ _ _ _ h := h
  promote _ _ _ _ _ _ _ _ _ _ _ _ _ _ _ _ := fun _ => rfl
  pumpInbound l hp hg k c hc h hfailed := by
    rw [(c.sameEnds_pumpInbound _).stream] at hfailed
    obtain ⟨hgone, -, hquiet⟩ := hg.2 rfl k c hc hfailed
    have hquiet := hquiet hp
    have hasked : (c.pumpInbound api l.core.lastStep).flow.finAsked = _ :=
      congrArg Prod.snd (c.ending_pumpInbound hapi _ hgone)
    rw [hasked]
    split
    · rename_i hcloses
      rw [finishesIn, hcloses, Bool.and_true] at hquiet
      show (c.flow.finAsked || (api.state c.socket).finishes) = false
      rw [h hfailed, hquiet, Bool.or_self]
    · exact h hfailed
  observe now c h := by
    obtain ⟨_, hobserve⟩ := c.observe_changes api now
    rw [hobserve]
    exact h
  reap _ _ h _ := h
  stream l n op _ k c _ h := h.useStream n op
  streamRetired l n op _ f _ h := h.useStream n op

/-- What holds between the events of a run that is withheld. -/
structure Resets (api : TcpApi S) (p : Proxied S) : Prop where
  sound : Sound api p
  unfinished : FlowInv (fun c => Unfinished p.task c.flow) (Unfinished p.task) p.stack.core

namespace Resets

theorem endsByReset (h : Resets api p) : EndsByReset p := by
  have hacc := h.sound.ends.flows.accounted
  refine ⟨fun n hfailed => hacc.finAsked_eq_false.2
    ⟨fun k c hc hstream => h.unfinished.live k c hc (hstream ▸ hfailed),
      fun f hf hstream => h.unfinished.retired f hf (hstream ▸ hfailed)⟩, fun f hf hfailed => ?_⟩
  have hquiet := h.unfinished.retired f hf hfailed
  obtain haborted | hreset | hasked := h.sound.ends.flows.retired f hf
  · exact Or.inl haborted
  · exact Or.inr hreset
  · exact absurd (hquiet.symm.trans hasked) Bool.false_ne_true

/-- Only a task that is withheld fails. -/
theorem finAsked_of_fails {n : ℕ} (hw : Withheld api p e) (hfails : e.fails = some n)
    (hn : p.next wire api e = some p') : p.stack.core.finAsked n = false := by
  cases e with
  | opened m ok | copied m ok =>
    cases ok <;> cases hfails
    simp only [Proxied.next] at hn
    split at hn
    · exact hw rfl ‹_›
    · cases hn
  | stack e | copy m op | abandon m => cases hfails

/-- One event that is withheld keeps what holds. -/
theorem next (hapi : Terminates api)
    (hsend : ∀ sk data, api.canSend sk = true → (api.sendSlice sk data).isSome = true)
    (h : Resets api p) (hg : Abides api p e) (hw : Withheld api p e)
    (hn : p.next wire api e = some p') : Resets api p' := by
  have hsound := h.sound.next hapi hg hn
  refine ⟨hsound, ?_⟩
  cases Proxied.moves_of_next hn with
  | goesOn hseen hl htask =>
    rw [htask]
    refine (unfinished_rules hapi hsend p.task).flowInv_next h.unfinished
      ⟨h.sound.started, fun hpass k c hc hfailed => ?_⟩ hl
    subst hpass
    have he : e = .stack .pass := by
      cases e with
      | stack e => exact congrArg _ (Option.some.inj hseen)
      | opened m ok => cases ok <;> cases hseen
      | copy m op | copied m ok | abandon m => cases hseen
    subst he
    exact ⟨(h.sound.failed hc hfailed).1, hw k c hc hfailed⟩
  | @opens n he hlt hstack htask =>
    have hkept : ∀ f, Unfinished p.task f → Unfinished p'.task f := by
      intro f hf hfailed
      rw [htask] at hfailed
      by_cases heq : f.stream = n
      · rw [heq, Function.update_self] at hfailed
        cases hfailed
      · rw [Function.update_of_ne heq] at hfailed
        exact hf hfailed
    rw [hstack]
    exact ⟨h.unfinished.accounted, fun k c hc => hkept _ (h.unfinished.live k c hc),
      fun f hf => hkept f (h.unfinished.retired f hf)⟩
  | @ends n task hseen hlt hstack htask hfails =>
    have hkept : ∀ f, (p.stack.core.finAsked n = false → f.stream = n → f.finAsked = false) →
        Unfinished p.task f → Unfinished p'.task (f.useStream n .drop) := by
      intro f hquiet hf hfailed
      rw [f.stream_useStream n .drop, htask] at hfailed
      rw [(f.ended_useStream n .drop).1]
      by_cases heq : f.stream = n
      · rw [heq, Function.update_self] at hfailed
        exact hquiet (finAsked_of_fails hw (hfails hfailed) hn) heq
      · rw [Function.update_of_ne heq] at hfailed
        exact hf hfailed
    have hacc := h.unfinished.accounted
    rw [hstack]
    refine ⟨accounted_stream hacc n .drop, fun k c hc => ?_, fun f hf => ?_⟩
    · obtain ⟨c₀, hc₀, rfl⟩ :=
        Option.map_eq_some_iff.1 ((p.stack.core.cell_stream n .drop k).symm.trans hc)
      exact hkept c₀.flow (fun hquiet => (hacc.finAsked_eq_false.1 hquiet).1 k c₀ hc₀)
        (h.unfinished.live k c₀ hc₀)
    · obtain ⟨g, hg, rfl⟩ := List.mem_map.1 hf
      exact hkept g (fun hquiet => (hacc.finAsked_eq_false.1 hquiet).2 g hg)
        (h.unfinished.retired g hg)

/-- A failed flow that comes to `socket.close()` in a state that sends a FIN has one asked for. -/
theorem not_endsByReset_of_pass (hapi : Terminates api)
    (hsend : ∀ sk data, api.canSend sk = true → (api.sendSlice sk data).isSome = true)
    (h : Resets api p) {k : ℕ} {c : Cell S} (hc : p.stack.core.cell k = some c)
    (hfailed : p.task c.flow.stream = .failed)
    (hbad : (p.stack.phase = .pumpOutbound ∧ finishesOut api c = true) ∨
      (p.stack.phase = .pumpInbound ∧ finishesIn api c = true)) :
    ∃ p', p.next wire api (.stack .pass) = some p' ∧ ¬ EndsByReset p' := by
  obtain ⟨hgone, hsender⟩ := h.sound.failed hc hfailed
  have hacc : Accounted p.stack.core := h.sound.ends.flows.accounted
  -- the connection after the pass shows that a FIN was asked for
  have hseen : ∀ (pump : Cell S → Cell S) (phase : Phase), (pump c).flow.stream = c.flow.stream →
      (pump c).ending api = Cell.closeEnding (c.ending api) →
      (api.state c.socket).finishes = true →
        ¬ EndsByReset { p with stack := ⟨p.stack.core.forFlows pump, phase⟩ } := by
    intro pump phase hstream hending hfin hends
    have hcell : (p.stack.core.forFlows pump).cell k = some (pump c) := by
      rw [StackCore.cell_forFlows, hc]
      rfl
    have hquiet := ((accounted_forFlows hacc pump).finAsked_eq_false.1
      (hends.noFin c.flow.stream hfailed)).1 k (pump c) hcell hstream
    have hasked : (pump c).flow.finAsked = _ := congrArg Prod.snd hending
    rw [hasked] at hquiet
    exact Bool.false_ne_true (((Bool.or_eq_false_iff.1 hquiet).2).symm.trans hfin)
  obtain ⟨hp, hfinishes⟩ | ⟨hp, hfinishes⟩ := hbad
  · rw [finishesOut, Bool.and_eq_true] at hfinishes
    have hending := c.ending_pumpOutbound hapi hsend p.stack.core.lastStep
    rw [Channel.isClosed, hsender, Bool.true_or, hfinishes.2, Bool.true_and, if_pos rfl] at hending
    refine ⟨{ p with stack := ⟨p.stack.core.pumpOutbound api, .poll⟩ }, ?_, ?_⟩
    · simp only [Proxied.next, Loop.next, hp, Option.map_some]
    · exact hseen _ .poll (c.sameEnds_pumpOutbound _).stream hending hfinishes.1
  · rw [finishesIn, Bool.and_eq_true] at hfinishes
    have hending := c.ending_pumpInbound hapi p.stack.core.lastStep hgone
    rw [hfinishes.2, if_pos rfl] at hending
    refine ⟨{ p with stack := ⟨p.stack.core.pumpInbound api, .observe⟩ }, ?_, ?_⟩
    · simp only [Proxied.next, Loop.next, hp, Option.map_some]
    · exact hseen _ .observe (c.sameEnds_pumpInbound _).stream hending hfinishes.1

/-- What is not withheld is seen at once. -/
theorem not_endsByReset_of_not_withheld (hapi : Terminates api)
    (hsend : ∀ sk data, api.canSend sk = true → (api.sendSlice sk data).isSome = true)
    (h : Resets api p) (hnot : ¬ Withheld api p e) :
    ∃ p', p.next wire api e = some p' ∧ ¬ EndsByReset p' := by
  -- a flow that fails with its FIN asked for
  have hfails : ∀ n (p' : Proxied S), p.stack.core.finAsked n ≠ false →
      p'.stack.core = p.stack.core.stream n .drop →
        p'.task = Function.update p.task n .failed → ¬ EndsByReset p' := by
    intro n p' hasked hcore htask hends
    have hacc : Accounted p.stack.core := h.sound.ends.flows.accounted
    have hquiet := hends.noFin n (by rw [htask, Function.update_self])
    rw [hcore, (accounted_stream hacc n .drop).finAsked_eq_false] at hquiet
    refine hasked (hacc.finAsked_eq_false.2 ⟨fun k c hc hstream => ?_, fun f hf hstream => ?_⟩)
    · have hcell : (p.stack.core.stream n .drop).cell k = some (c.useStream n .drop) := by
        rw [StackCore.cell_stream, hc]
        rfl
      exact (c.flow.ended_useStream n .drop).1.symm.trans
        (hquiet.1 k _ hcell ((c.flow.stream_useStream n .drop).trans hstream))
    · exact (f.ended_useStream n .drop).1.symm.trans
        (hquiet.2 _ (List.mem_map_of_mem hf) ((f.stream_useStream n .drop).trans hstream))
  cases e with
  | stack e =>
    cases e with
    | pass =>
      simp only [Withheld, not_forall] at hnot
      obtain ⟨k, c, hc, hfailed, hnot⟩ := hnot
      refine h.not_endsByReset_of_pass hapi hsend hc hfailed ?_
      by_contra hgood
      rw [not_or, not_and, not_and] at hgood
      exact hnot ⟨fun hp => by simpa using hgood.1 hp, fun hp => by simpa using hgood.2 hp⟩
    | _ => exact absurd trivial hnot
  | opened n ok =>
    simp only [Withheld, not_forall] at hnot
    obtain ⟨rfl, hrun, hasked⟩ := hnot
    refine ⟨{ p.drop n .failed with flowsFailed := p.flowsFailed + 1 }, ?_,
      hfails n _ hasked rfl rfl⟩
    rw [Proxied.next, if_pos hrun]
    rfl
  | copied n ok =>
    simp only [Withheld, not_forall] at hnot
    obtain ⟨rfl, hrun, hasked⟩ := hnot
    refine ⟨p.drop n .failed, ?_, hfails n _ hasked rfl rfl⟩
    rw [Proxied.next, if_pos hrun]
    rfl
  | _ => exact absurd trivial hnot

end Resets

/-! ## By the deadline -/

/-- What the stack goes through in a run of both. -/
theorem exists_stack_run {l : Loop S} {es : List (ProxyEvent S)} (hl : l = p.stack)
    (hes : Guarded (Proxied.next wire api) (fun p e => Abides api p e ∧ e.inStep = true) p es)
    (h : run (Proxied.next wire api) p es = some p') :
    ∃ es', Guarded (Loop.next wire api) (fun l e => Obeys api l e ∧ e.inStep = true) l es' ∧
      run (Loop.next wire api) l es' = some p'.stack := by
  have hmatch : ∀ (p : Proxied S) (l : Loop S) e p', l = p.stack →
      (Abides api p e ∧ e.inStep = true) → p.next wire api e = some p' →
        ∃ es' l', Guarded (Loop.next wire api) (fun l e => Obeys api l e ∧ e.inStep = true) l es' ∧
          run (Loop.next wire api) l es' = some l' ∧ l' = p'.stack := by
    rintro p l e p' rfl hg hn
    obtain hstack | ⟨e', hseen, hnext⟩ := (Proxied.moves_of_next hn).stack
    · exact ⟨[], p.stack, trivial, rfl, hstack.symm⟩
    · refine ⟨[e'], p'.stack, ⟨⟨hg.1.obeys hseen, e.inStep_seen hg.2 hseen⟩, fun _ _ => trivial⟩,
        ?_, rfl⟩
      rw [run_cons, hnext]
      rfl
  obtain ⟨es', l', hg, hrun, rfl⟩ := run_simulates hmatch hl hes h
  exact ⟨es', hg, hrun⟩

/-- A step settles every flow that had failed before. -/
theorem Sound.settles (hapi : Terminates api) (h : Sound api p) (hp : p.stack.phase = .idle) {n : ℕ}
    (hfailed : p.task n = .failed) {now : ℕ} {es : List (ProxyEvent S)}
    (hin : ∀ e ∈ es, e.inStep = true)
    (hg : Guarded (Proxied.next wire api) (Abides api) p (.stack (.begin now) :: es))
    (hrun : run (Proxied.next wire api) p (.stack (.begin now) :: es) = some p')
    (hp' : p'.stack.phase = .idle) : Settles api n now p.stack.core p'.stack.core := by
  let p₁ : Proxied S := { p with stack := ⟨{ p.stack.core with lastStep := now }, .abort⟩ }
  have hbegin : p.next wire api (.stack (.begin now)) = some p₁ := by
    simp only [Proxied.next, Loop.next, hp, if_true, Option.map_some, p₁]
  rw [run_cons, hbegin, Option.bind_some] at hrun
  obtain ⟨es', hg', hrun'⟩ := exists_stack_run rfl ((hg.2 p₁ hbegin).and_forall hin) hrun
  refine h.ends.settles hapi hp (h.started n (by rw [hfailed]; decide)) ?_ hg' hrun' hp'
  exact fun k c hc hstream => (h.failed hc (hstream ▸ hfailed)).2

/-- **How failed flows end.** The application is never sent a FIN on a failed flow, and each that is
over was reset, exactly in the runs in which none fails after its FIN and none comes to
`socket.close()` in a state that sends one. In any run a failed flow that is over was aborted, reset
by the application, or had its FIN asked for; and a step at or past its deadline aborts and retires
it, while what a step leaves of it is in TIME-WAIT after its FIN or has a deadline ahead. -/
theorem failed_flows_end (hapi : Terminates api)
    (hsend : ∀ sk data, api.canSend sk = true → (api.sendSlice sk data).isSome = true)
    (cfg : StackConfig) {es : List (ProxyEvent S)}
    (hes : Guarded (Proxied.next wire api) (Abides api) (.start cfg) es)
    (h : run (Proxied.next wire api) (.start cfg) es = some p) :
    (Guarded (Proxied.next wire api) (Withheld api) (.start cfg) es ↔
      ∀ es' p', es' <+: es → run (Proxied.next wire api) (.start cfg) es' = some p' →
        EndsByReset p') ∧
    (∀ f ∈ p.stack.core.retired, p.task f.stream = .failed → f.Over) ∧
    (p.stack.phase = .idle → ∀ n, p.task n = .failed → ∀ now es' p', (∀ e ∈ es', e.inStep = true) →
      Guarded (Proxied.next wire api) (Abides api) p (.stack (.begin now) :: es') →
        run (Proxied.next wire api) p (.stack (.begin now) :: es') = some p' →
          p'.stack.phase = .idle → Settles api n now p.stack.core p'.stack.core) := by
  have hsound := Sound.of_run hapi hes h
  refine ⟨?_, fun f hf _ => hsound.ends.flows.retired f hf,
    fun hp n hfailed now es' p' hin hg hrun =>
      hsound.settles hapi hp hfailed hin hg hrun⟩
  have hstart : Resets api (.start cfg : Proxied S) :=
    ⟨Sound.start hapi cfg, (unfinished_rules hapi hsend _).flowInv_start cfg⟩
  exact guarded_iff (fun _ hp => hp.endsByReset)
    (fun _ _ _ hp hg hw hn => hp.next hapi hsend hg hw hn)
    (fun _ _ hp _ hnot => hp.not_endsByReset_of_not_withheld hapi hsend hnot) hstart hes

theorem reference_terminates : Terminates Reference.api where
  listen n dst sk hlisten := by
    simp only [Reference.api, Reference.Sock.listen] at hlisten
    split at hlisten <;> cases hlisten
    rfl
  close sk := by
    obtain ⟨state, _⟩ := sk
    cases state <;> rfl
  abort _ := rfl
  setTimeout _ _ := rfl
  sendSlice sk data n sk' hslice := by
    simp only [Reference.api, Reference.Sock.sendSlice] at hslice
    split at hslice <;> cases hslice
    rfl
  recvAdvance _ _ := rfl
  maySend sk := by simp [Reference.api, Reference.Sock.maySend]
  isActive sk hactive hclosed := by
    have hstate : sk.state = .closed := hclosed
    simp [Reference.api, Reference.Sock.isActive, hstate] at hactive

/-- Where a run of the reference socket leads from the start, if it fits. -/
abbrev proxied (cfg : StackConfig) (es : List (ProxyEvent Reference.Sock)) :
    Option (Proxied Reference.Sock) :=
  run (Proxied.next Reference.wire Reference.api) (.start cfg) es

/-- The tunnel fails after two bytes, of which the send buffer takes one, and the application
acknowledges none: it is aborted at its deadline. -/
def stalled : List (ProxyEvent Reference.Sock) :=
  Reference.handshake.map .stack ++ [.opened 0 true, .copy 0 (.write [1, 2])] ++
    (Loop.stepEvents 30000 Reference.poll).map .stack ++ [.copied 0 false] ++
    (Loop.stepEvents 40000 Reference.poll).map .stack ++
    (Loop.stepEvents (40000 + SHUTDOWN_TIMEOUT) Reference.poll).map .stack

theorem isSome_proxied_stalled : (proxied ⟨1, 32⟩ stalled).isSome = true := by decide +kernel

theorem failed_flows_end_stalled :
    let p := (proxied ⟨1, 32⟩ stalled).get isSome_proxied_stalled
    (Guarded (Proxied.next Reference.wire Reference.api) (Withheld Reference.api)
        (.start ⟨1, 32⟩) stalled ↔
      ∀ es' p', es' <+: stalled → proxied ⟨1, 32⟩ es' = some p' → EndsByReset p') ∧
    (∀ f ∈ p.stack.core.retired, p.task f.stream = .failed → f.Over) ∧
    (p.stack.phase = .idle → ∀ n, p.task n = .failed → ∀ now es' p', (∀ e ∈ es', e.inStep = true) →
      Guarded (Proxied.next Reference.wire Reference.api) (Abides Reference.api) p
          (.stack (.begin now) :: es') →
        run (Proxied.next Reference.wire Reference.api) p (.stack (.begin now) :: es') = some p' →
          p'.stack.phase = .idle →
            Settles Reference.api n now p.stack.core p'.stack.core) :=
  failed_flows_end reference_terminates Reference.sends.isSome_sendSlice ⟨1, 32⟩
    (by decide +kernel) (Option.some_get isSome_proxied_stalled).symm

example :
    Guarded (Proxied.next Reference.wire Reference.api) (Withheld Reference.api)
        (.start ⟨1, 32⟩) stalled ∧
      ((proxied ⟨1, 32⟩ stalled).any fun p => p.task 0 == .failed &&
        p.stack.core.retired.any fun f => f.stream == 0 && f.link.trace.aborted) = true := by
  decide +kernel

/-- A connection whose stream through the tunnel cannot be opened. -/
def refused : List (ProxyEvent Reference.Sock) :=
  Reference.handshake.map .stack ++ [.opened 0 false] ++
    (Loop.stepEvents 30000 Reference.sending).map .stack

theorem isSome_proxied_refused : (proxied Reference.cfg refused).isSome = true := by decide +kernel

/-- **A failed flow that looks completed**: the application is sent a FIN. -/
theorem not_endsByReset_refused :
    Guarded (Proxied.next Reference.wire Reference.api) (Abides Reference.api)
        (.start Reference.cfg) refused ∧
      let p := (proxied Reference.cfg refused).get isSome_proxied_refused
      p.task 0 = .failed ∧ ¬ EndsByReset p ∧ ∃ packet ∈ p.stack.core.tx,
        ∃ seg, Reference.segment packet = some seg ∧ seg.fin = true ∧ seg.rst = false ∧
          seg.src = Reference.endOf Reference.web ∧ seg.dst = Reference.endOf Reference.app := by
  have hrun : let p := (proxied Reference.cfg refused).get isSome_proxied_refused
      p.task 0 = .failed ∧ p.stack.core.finAsked 0 = true ∧
        (p.stack.core.tx.any fun packet => (Reference.segment packet).any fun seg =>
          decide (seg.fin = true ∧ seg.rst = false ∧ seg.src = Reference.endOf Reference.web ∧
            seg.dst = Reference.endOf Reference.app)) = true := by decide +kernel
  obtain ⟨hfailed, hasked, htx⟩ := hrun
  refine ⟨by decide +kernel, hfailed, fun hends => ?_, ?_⟩
  · exact Bool.false_ne_true ((hends.noFin 0 hfailed).symm.trans hasked)
  · obtain ⟨packet, hmem, hpacket⟩ := List.any_eq_true.1 htx
    obtain ⟨seg, hseg, hfin⟩ := (Option.any_eq_true _ _).1 hpacket
    exact ⟨packet, hmem, seg, hseg, of_decide_eq_true hfin⟩

end LiosTunnel.Engine
