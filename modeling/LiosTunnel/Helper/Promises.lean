import LiosTunnel.Helper.Serve

/-!
# What the helper promises its clients

Three things the daemon's comments say of it, each with the runs in which it holds: a tunnel whose
disconnect was accepted is down before anyone else is served, `Connected` is said of a tunnel that
runs alone, and a client told to reinstall is not served. `serve_one` writes before it acts, learns
of a dead engine from the ticker of a greeted client alone, and never takes a greeting back.

* `delivered_iff_tornDown`: no client after a disconnect whose reply was lost.
* `attested_iff_trulyConnected`: no status asked for over an engine that is gone.
* `refreshed_iff_gateFollows`: no request from a client that greeted in another version since.
-/

namespace LiosTunnel.Helper

open Config Dto Runs

theorem greets_isNone {req : Request} : req.greets.isNone = true ↔ ∀ id v, req ≠ .hello id v := by
  cases req <;> simp [Request.greets]

namespace Daemon

variable {parsers : Parsers} {d d' : Daemon} {e : DaemonEvent} {uid : ℕ} {c : Client}
  {text : String} {files : ℕ → FileSystem} {written : ℕ} {snapshot : StatsSnapshot} {s : Sent}

/-! ## What a turn writes -/

theorem mem_writeAll {lines : List Line} : s ∈ (d.writeAll c lines written).sent ↔
    s ∈ d.sent ∨ ∃ line ∈ lines.take written, ⟨line, d.tunnel, c.hellos⟩ = s := by
  rw [writeAll, List.mem_append, List.mem_map]

@[simp] theorem sent_handleLine : (d.handleLine parsers c text files written).sent =
    (d.writeAll c (c.session.handle parsers files text).1 written).sent :=
  handleLine_elim (motive := fun d' => d'.sent = _) Session.handle_eta (fun _ => rfl)
    (fun _ _ => rfl) (fun _ _ => rfl) fun _ _ _ _ => rfl

@[simp] theorem answers_handleLine : (d.handleLine parsers c text files written).answers =
    d.answers ++ ((parsers.request text).filter fun req => req.greets.isNone).toList.map
      fun req => ⟨req, (c.session.handle parsers files text).1, c.hellos⟩ :=
  handleLine_elim (motive := fun d' => d'.answers = _) Session.handle_eta (fun _ => rfl)
    (fun _ _ => rfl) (fun _ _ => rfl) fun _ _ _ _ => rfl

/-- A request that is no greeting is answered in its turn. -/
theorem mem_answers_handleLine {a : Answer} :
    a ∈ (d.handleLine parsers c text files written).answers ↔
      a ∈ d.answers ∨ ∃ req, parsers.request text = some req ∧ (∀ id v, req ≠ .hello id v) ∧
        ⟨req, (c.session.handle parsers files text).1, c.hellos⟩ = a := by
  simp only [answers_handleLine, List.mem_append, List.mem_map, Option.mem_toList,
    Option.filter_eq_some_iff, greets_isNone, and_assoc]

/-- What the report of a start writes. -/
theorem mem_sent_reportStart {call : StartCall} {result : Except StartError Bool}
    (h : s ∈ (d.reportStart c call result written).sent) :
    s ∈ d.sent ∨ (∃ id, s.line = .ack id) ∨ (∃ id kind message, s.line = .error id kind message) ∨
      ∃ hasStopped, result = .ok hasStopped ∧ s.tunnel = some ⟨d.tunnels, hasStopped⟩ ∧
        s.line = .state "Connected" ∧ 2 ≤ written := by
  cases result with
  | ok hasStopped =>
    obtain h | ⟨line, hline, rfl⟩ := mem_writeAll.1 h
    · exact Or.inl h
    · match written, hline with
      | 1, hline =>
        obtain rfl := List.mem_singleton.1 hline
        exact Or.inr (Or.inl ⟨_, rfl⟩)
      | written + 2, hline =>
        obtain rfl | hline := List.mem_cons.1 hline
        · exact Or.inr (Or.inl ⟨_, rfl⟩)
        · obtain rfl := List.mem_singleton.1 (List.mem_of_mem_take hline)
          exact Or.inr (Or.inr (Or.inr ⟨hasStopped, rfl, rfl, rfl, by omega⟩))
  | error e =>
    obtain h | ⟨line, hline, rfl⟩ := mem_writeAll.1 h
    · exact Or.inl h
    · obtain rfl := List.mem_singleton.1 (List.mem_of_mem_take hline)
      exact Or.inr (Or.inr (Or.inl ⟨_, _, _, rfl⟩))

/-- What a tick writes. -/
theorem mem_sent_handleTick (h : s ∈ (d.handleTick c snapshot written).sent) :
    s ∈ d.sent ∨ s.line = .state "Disconnected" ∨
      s = ⟨.stats snapshot, d.tunnel, c.hellos⟩ ∧ c.session.greeted = true ∧ 0 < written ∧
        ∃ t, d.tunnel = some t ∧ t.hasStopped = false := by
  unfold handleTick at h
  split at h
  · exact Or.inl h
  · rename_i hgreeted
    split at h
    · exact Or.inl h
    · rename_i t ht
      split at h
      · obtain h | ⟨line, hline, rfl⟩ := mem_writeAll.1 h
        · exact Or.inl h
        · obtain rfl := List.mem_singleton.1 (List.mem_of_mem_take hline)
          exact Or.inr (Or.inl rfl)
      · rename_i hstopped
        obtain h | ⟨line, hline, rfl⟩ := mem_writeAll.1 h
        · exact Or.inl h
        · obtain rfl := List.mem_singleton.1 (List.mem_of_mem_take hline)
          have hpos : 0 < written := by
            by_contra hnot
            rw [Nat.eq_zero_of_not_pos hnot] at hline
            cases hline
          rw [Bool.not_eq_true', Bool.not_eq_false] at hgreeted
          exact Or.inr (Or.inr ⟨rfl, hgreeted, hpos, t, ht, Bool.eq_false_iff.2 hstopped⟩)

/-- A greeted client's tunnel, up to here. -/
def connectOnce : List DaemonEvent :=
  [.accept (.ok 501), .line Reference.helloLine (fun _ => Reference.files 501) 1,
    .line Reference.connectLine (fun _ => Reference.files 501) 0, .started (.ok false) 2]

/-- A greeted client of a running tunnel is sent statistics. -/
theorem stats_mem_handleTick {t : Tunnel} (hgreeted : c.session.greeted = true)
    (ht : d.tunnel = some t) (hruns : t.hasStopped = false) (hwritten : 0 < written) :
    ⟨.stats snapshot, d.tunnel, c.hellos⟩ ∈ (d.handleTick c snapshot written).sent := by
  simp only [handleTick, hgreeted, Bool.not_true, Bool.false_eq_true, if_false, ht, hruns]
  refine mem_writeAll.2 (Or.inr ⟨.stats snapshot, ?_, by rw [ht]⟩)
  rw [List.take_of_length_le (Nat.succ_le_of_lt hwritten)]
  exact List.mem_cons_self

/-! ## Disconnects -/

/-- While a client is served, every tunnel whose disconnect was accepted is torn down. -/
def TornDown (d : Daemon) : Prop :=
  ∀ c, d.client = some c → ∀ n ∈ d.dismissed, ∀ k, (n, k) ∈ d.torn

/-- No client is served after one whose disconnect was accepted without its reply getting
through. -/
def Delivered (d : Daemon) (e : DaemonEvent) : Prop :=
  match e with
  | .accept peer => d.exited = false → d.client = none → authorize peer d.uid = .ok () →
      d.undelivered = false
  | _ => True

/-- What holds of the tunnels whose disconnect was accepted: they are torn down, but for the one
whose reply was lost, which is still up. -/
structure Dismissals (d : Daemon) : Prop where
  torn : ∀ n k, (n, k) ∈ d.torn → n < d.tunnels ∧ ∀ t, d.tunnel = some t → t.number ≠ n
  down : d.undelivered = false → ∀ n ∈ d.dismissed, ∀ k, (n, k) ∈ d.torn
  up : d.undelivered = true → d.exited = false →
    d.client = none ∧ ∃ t, d.tunnel = some t ∧ t.number ∈ d.dismissed

theorem mem_stopTunnel {n : ℕ} {k : Teardown} : (n, k) ∈ d.stopTunnel.torn ↔
    (n, k) ∈ d.torn ∨ ∃ t, d.tunnel = some t ∧ t.number = n := by
  rw [stopTunnel, List.mem_append]
  cases d.tunnel with
  | none => simp
  | some t =>
    constructor
    · rintro (h | h)
      · exact Or.inl h
      · simp only [Option.elim_some, Tunnel.drop, List.mem_cons, Prod.mk.injEq, List.not_mem_nil,
          or_false] at h
        exact Or.inr ⟨t, rfl, by tauto⟩
    · rintro (h | ⟨t', ht', rfl⟩)
      · exact Or.inl h
      · obtain rfl := Option.some.inj ht'
        exact Or.inr (mem_drop t k)

namespace Dismissals

theorem stopTunnel_torn (h : Dismissals d) (howned : Owned d) {n : ℕ} {k : Teardown}
    (hn : (n, k) ∈ d.stopTunnel.torn) : n < d.tunnels := by
  obtain hn | ⟨t, ht, rfl⟩ := mem_stopTunnel.1 hn
  · exact (h.torn n k hn).1
  · exact howned.counted t ht

/-- A disconnect that was lost waits for a client to leave. -/
theorem delivered_of_client (h : Dismissals d) (hlive : d.exited = false) (hc : d.client = some c) :
    d.undelivered = false := by
  by_contra hlost
  rw [(h.up (Bool.not_eq_false _ ▸ hlost) hlive).1] at hc
  cases hc

/-- A line either leaves the dismissed tunnels alone, or takes down the one it dismisses, or loses
the reply that would have. -/
theorem handleLine (h : Dismissals d) (hstep : InStep parsers uid d) (hc : d.client = some c)
    (text : String) (files : ℕ → FileSystem) (written : ℕ) :
    Dismissals (d.handleLine parsers c text files written) := by
  have hnone := h.delivered_of_client (hstep.live hc) hc
  refine handleLine_elim (motive := Dismissals) Session.handle_eta (fun _ => ?_) (fun _ _ => ?_)
    (fun _ _ => ?_) fun id authorized _ _ => ?_
  · refine ⟨h.torn, fun hdown n hn k => ?_, fun hup _ => ⟨rfl, ?_⟩⟩
    · simp only [writeAll, note, hnone, Bool.false_or, Bool.not_false, Bool.and_true] at hdown
      simp only [writeAll, note, List.mem_append] at hn
      obtain hn | hn := hn
      · exact h.down hnone n hn k
      · rw [Bool.and_eq_false_iff] at hdown
        obtain hno | hno := hdown
        · rw [hno] at hn
          cases hn
        · rw [Option.isSome_eq_false_iff, Option.isNone_iff_eq_none] at hno
          rw [hno] at hn
          split at hn <;> cases hn
    · simp only [writeAll, note, hnone, Bool.false_or, Bool.not_false, Bool.and_true,
        Bool.and_eq_true] at hup
      obtain ⟨t, ht⟩ := Option.isSome_iff_exists.1 hup.2
      refine ⟨t, ht, ?_⟩
      simp only [writeAll, note, hup.1, ht]
      exact List.mem_append_right _ List.mem_cons_self
  · refine ⟨h.torn, fun _ n hn => ?_, fun hup => ?_⟩
    · exact h.down hnone n ((List.mem_append.1 hn).resolve_right (List.not_mem_nil))
    · simp [writeAll, note, hnone] at hup
  · refine ⟨fun n k hn => ⟨h.stopTunnel_torn hstep.owned hn, fun _ ht => (nomatch ht)⟩,
      fun _ n hn k => ?_, fun hup => ?_⟩
    · refine mem_stopTunnel.2 ?_
      obtain hn | hn := List.mem_append.1 hn
      · exact Or.inl (h.down hnone n hn k)
      · obtain ⟨t, ht, rfl⟩ := List.mem_map.1 hn
        exact Or.inr ⟨t, Option.mem_toList.1 ht, rfl⟩
    · simp [Daemon.stopTunnel, writeAll, note, hnone] at hup
  · refine ⟨h.torn, fun _ n hn => ?_, fun hup => ?_⟩
    · exact h.down hnone n ((List.mem_append.1 hn).resolve_right (List.not_mem_nil))
    · simp [writeAll, note, hnone] at hup

theorem start (uid : ℕ) : Dismissals (start uid) where
  torn := fun _ _ h => nomatch h
  down := fun _ _ h => nomatch h
  up := fun h => nomatch h

theorem stopTunnel (h : Dismissals d) (howned : Owned d) (hnone : d.undelivered = false) :
    Dismissals d.stopTunnel where
  torn := fun _ _ hn => ⟨h.stopTunnel_torn howned hn, fun _ ht => nomatch ht⟩
  down := fun _ n hn k => mem_stopTunnel.2 (Or.inl (h.down hnone n hn k))
  up := fun hup => nomatch hnone.symm.trans hup

theorem reportStart (h : Dismissals d) (hstep : InStep parsers uid d) (hc : d.client = some c)
    {call : StartCall} (result : Except StartError Bool) (written : ℕ) :
    Dismissals (d.reportStart c call result written) := by
  have hnone := h.delivered_of_client (hstep.live hc) hc
  cases result with
  | ok hasStopped =>
    refine ⟨fun n k hn => ?_, (h.stopTunnel hstep.owned hnone).down,
      fun hup => (nomatch hnone.symm.trans hup)⟩
    have hlt := h.stopTunnel_torn hstep.owned hn
    refine ⟨Nat.lt_succ_of_lt hlt, fun t ht => ?_⟩
    obtain rfl := Option.some.inj ht
    exact Nat.ne_of_gt hlt
  | error e => exact ⟨h.torn, h.down, fun hup => (nomatch hnone.symm.trans hup)⟩

theorem handleTick (h : Dismissals d) (hstep : InStep parsers uid d) (hc : d.client = some c)
    (snapshot : StatsSnapshot) (written : ℕ) : Dismissals (d.handleTick c snapshot written) := by
  have hnone := h.delivered_of_client (hstep.live hc) hc
  unfold Daemon.handleTick
  split
  · exact h
  · split
    · exact h
    · split
      · have hstop := h.stopTunnel hstep.owned hnone
        exact ⟨hstop.torn, hstop.down, fun hup => (nomatch hnone.symm.trans hup)⟩
      · exact ⟨h.torn, h.down, fun hup => (nomatch hnone.symm.trans hup)⟩

theorem exit (h : Dismissals d) (howned : Owned d) : Dismissals d.exit where
  torn := fun _ _ hn => ⟨h.stopTunnel_torn howned hn, fun _ ht => nomatch ht⟩
  down := fun hnone n hn k => mem_stopTunnel.2 (Or.inl (h.down hnone n hn k))
  up := fun _ hexited => nomatch hexited

theorem engineStops (h : Dismissals d) {t : Tunnel} (ht : d.tunnel = some t) :
    Dismissals { d with tunnel := some { t with hasStopped := true } } where
  torn := by
    refine fun n k hn => ⟨(h.torn n k hn).1, fun t' ht' => ?_⟩
    obtain rfl := Option.some.inj ht'
    exact (h.torn n k hn).2 t ht
  down := h.down
  up := by
    intro hup hlive
    obtain ⟨hidle, t', ht', hmem⟩ := h.up hup hlive
    obtain rfl := Option.some.inj (ht.symm.trans ht')
    exact ⟨hidle, _, rfl, hmem⟩

theorem next (h : Dismissals d) (hstep : InStep parsers uid d) (hdelivered : Delivered d e)
    (hnext : d.next parsers e = some d') : Dismissals d' := by
  obtain ⟨hlive, hturn⟩ := next_eq_some.1 hnext
  cases hturn with
  | serve hidle hsame =>
    have hnone := hdelivered hlive hidle hsame
    exact ⟨h.torn, h.down, fun hup => (nomatch hnone.symm.trans hup)⟩
  | refuse => exact h
  | acceptFailed => exact h.exit hstep.owned
  | signal => exact h.exit hstep.owned
  | line hhead => exact h.handleLine hstep hhead _ _ _
  | hangUp hhead =>
    have hnone := h.delivered_of_client hlive hhead
    exact ⟨h.torn, h.down, fun hup => (nomatch hnone.symm.trans hup)⟩
  | tick hhead => exact h.handleTick hstep hhead _ _
  | started hwaiting => exact h.reportStart hstep hwaiting _ _
  | engineStops hup => exact h.engineStops hup

theorem tornDown (h : Dismissals d) (hstep : InStep parsers uid d) : TornDown d :=
  fun _ hc => h.down (h.delivered_of_client (hstep.live hc) hc)

end Dismissals

/-- **An accepted disconnect tears the tunnel down** before anyone is served, over every prefix of a
run, exactly if no client is accepted after a disconnect whose reply was lost. -/
theorem delivered_iff_tornDown {es : List DaemonEvent} :
    Guarded (next parsers) Delivered (start uid) es ↔
      ∀ es' d, es' <+: es → run (next parsers) (start uid) es' = some d → TornDown d := by
  refine guarded_iff (fun d (h : InStep parsers uid d ∧ Dismissals d) => h.2.tornDown h.1)
    (fun d e d' h _ hdelivered hnext => ⟨h.1.next hnext,
      h.2.next h.1 hdelivered hnext⟩) (fun d e h _ hnot => ?_)
    ⟨InStep.start parsers uid, Dismissals.start uid⟩ (guarded_trivial _ _)
  cases e with
  | accept peer =>
    simp only [Delivered, not_forall, Bool.not_eq_false] at hnot
    obtain ⟨hlive, hidle, hsame, hlost⟩ := hnot
    refine ⟨_, next_eq_some.2 ⟨hlive, .serve hidle hsame⟩, fun hdown => ?_⟩
    obtain ⟨-, t, ht, hmem⟩ := h.2.up hlost hlive
    exact (h.2.torn _ .abortEngine (hdown _ rfl _ hmem _)).2 t ht rfl
  | _ => exact absurd trivial hnot

/-- The client disconnects and is gone before the second line of the reply. -/
theorem not_tornDown_hangUp :
    ∃ d, run (next Reference.parsers) (start 501) (connectOnce ++
        [.line Reference.disconnectLine (fun _ => Reference.files 501) 1, .accept (.ok 501)]) =
          some d ∧
      ¬ TornDown d := by
  have hrun : (run (next Reference.parsers) (start 501) (connectOnce ++
      [.line Reference.disconnectLine (fun _ => Reference.files 501) 1, .accept (.ok 501)])).map
        (fun d => (d.client.isSome, d.dismissed, d.torn)) = some (true, [0], []) := by
    decide +kernel
  obtain ⟨d, hd, hfields⟩ := Option.map_eq_some_iff.1 hrun
  obtain ⟨hserved, hdismissed, htorn⟩ :
      d.client.isSome = true ∧ d.dismissed = [0] ∧ d.torn = [] := by
    simpa using hfields
  obtain ⟨c, hc⟩ := Option.isSome_iff_exists.1 hserved
  refine ⟨d, hd, fun h => ?_⟩
  have hmem := h c hc 0 (hdismissed ▸ List.mem_cons_self) .revertRoutes
  rw [htorn] at hmem
  cases hmem

/-! ## Connected -/

/-- Whoever was told `Connected` was told so of a tunnel whose engine had not stopped. -/
def TrulyConnected (d : Daemon) : Prop :=
  ∀ s ∈ d.sent, s.line = .state "Connected" → ∃ t, s.tunnel = some t ∧ t.hasStopped = false

/-- No status is asked for, and no start reported, with an engine that has stopped, as long as the
answer gets through. -/
def Attested (parsers : Parsers) (d : Daemon) (e : DaemonEvent) : Prop :=
  match e with
  | .line text _ written => ∀ c t id, d.client = some c → c.starting = none →
      c.session.greeted = true → parsers.request text = some (.getStatus id) →
        d.tunnel = some t → t.hasStopped = true → written < 2
  | .started (.ok true) written =>
      ∀ c call, d.client = some c → c.starting = some call → written < 2
  | _ => True

theorem TrulyConnected.handleLine (h : TrulyConnected d) (hstep : InStep parsers uid d)
    (hc : d.client = some c) (hhead : c.starting = none)
    (hattested : Attested parsers d (.line text files written)) :
    TrulyConnected (d.handleLine parsers c text files written) := by
  intro s hs hline
  rw [sent_handleLine] at hs
  obtain hs | ⟨line, hmem, rfl⟩ := mem_writeAll.1 hs
  · exact h s hs hline
  · obtain rfl : line = .state "Connected" := hline
    obtain ⟨hgreeted, hconnected, id, hreq, hlines⟩ :=
      Session.getStatus_of_connected (List.mem_of_mem_take hmem)
    rw [(hstep.mirrors c hc).connected, Option.isSome_iff_exists] at hconnected
    obtain ⟨t, ht⟩ := hconnected
    refine ⟨t, ht, ?_⟩
    by_contra hstopped
    rw [Bool.not_eq_false] at hstopped
    have hwritten := hattested c t id hc hhead hgreeted hreq ht hstopped
    rw [hlines] at hmem
    -- the acknowledgement is written first
    match written, hwritten with
    | 0, _ => cases hmem
    | 1, _ => simp at hmem

theorem TrulyConnected.reportStart (h : TrulyConnected d) (hc : d.client = some c)
    {call : StartCall} (hcall : c.starting = some call) {result : Except StartError Bool}
    (hattested : Attested parsers d (.started result written)) :
    TrulyConnected (d.reportStart c call result written) := by
  intro s hs hline
  obtain hs | ⟨id, hs⟩ | ⟨id, kind, message, hs⟩ | ⟨hasStopped, hresult, ht, -, hwritten⟩ :=
    mem_sent_reportStart hs
  · exact h s hs hline
  · rw [hs] at hline
    cases hline
  · rw [hs] at hline
    cases hline
  · cases hasStopped with
    | false => exact ⟨_, ht, rfl⟩
    | true =>
      rw [hresult] at hattested
      exact absurd (hattested c call hc hcall) (by omega)

theorem TrulyConnected.handleTick (h : TrulyConnected d) :
    TrulyConnected (d.handleTick c snapshot written) := by
  intro s hs hline
  obtain hs | hs | ⟨rfl, -⟩ := mem_sent_handleTick hs
  · exact h s hs hline
  · rw [hs] at hline
    exact absurd hline (by decide)
  · cases hline

theorem TrulyConnected.next (h : TrulyConnected d) (hstep : InStep parsers uid d)
    (hattested : Attested parsers d e) (hnext : d.next parsers e = some d') :
    TrulyConnected d' := by
  obtain ⟨-, hturn⟩ := next_eq_some.1 hnext
  cases hturn with
  | line hhead => exact h.handleLine hstep hhead rfl hattested
  | tick hhead => exact h.handleTick
  | started hwaiting => exact h.reportStart hwaiting rfl hattested
  | _ => exact h

/-- A status that is asked for with a dead engine is `Connected`. -/
theorem not_trulyConnected_handleLine {t : Tunnel} {id : ℕ} (hstep : InStep parsers uid d)
    (hc : d.client = some c) (hgreeted : c.session.greeted = true)
    (hreq : parsers.request text = some (.getStatus id)) (ht : d.tunnel = some t)
    (hstopped : t.hasStopped = true) (hwritten : 2 ≤ written) :
    ¬ TrulyConnected (d.handleLine parsers c text files written) := by
  intro h
  have hconnected : c.session.connected = true := by
    rw [(hstep.mirrors c hc).connected, ht]
    rfl
  obtain ⟨t', ht', hruns⟩ := h ⟨.state "Connected", d.tunnel, c.hellos⟩
    (by
      rw [sent_handleLine, mem_writeAll, Session.handle_getStatus hreq hgreeted,
        List.take_of_length_le (by simpa using hwritten)]
      exact Or.inr ⟨_, List.mem_cons_of_mem _ (by simp [Session.stateEvent, hconnected]), rfl⟩) rfl
  obtain rfl := Option.some.inj (ht.symm.trans ht')
  exact absurd hstopped (Bool.eq_false_iff.1 hruns)

/-- **`Connected` is said of a running tunnel**, over every prefix of a run, exactly if no status is
asked for and no start reported over an engine that has stopped. -/
theorem attested_iff_trulyConnected {es : List DaemonEvent} :
    Guarded (next parsers) (Attested parsers) (start uid) es ↔
      ∀ es' d, es' <+: es → run (next parsers) (start uid) es' = some d → TrulyConnected d := by
  refine guarded_iff (fun d (h : InStep parsers uid d ∧ TrulyConnected d) => h.2)
    (fun d e d' h _ hattested hnext => ⟨h.1.next hnext,
      h.2.next h.1 hattested hnext⟩) (fun d e h _ hnot => ?_)
    ⟨InStep.start parsers uid, fun _ h => (nomatch h)⟩ (guarded_trivial _ _)
  cases e with
  | line text files written =>
    simp only [Attested, not_forall, not_lt] at hnot
    obtain ⟨⟨session, starting, hellos⟩, t, id, hc, rfl, hgreeted, hreq, ht, hstopped, hwritten⟩ :=
      hnot
    exact ⟨_, next_eq_some.2 ⟨h.1.live hc, .line hc⟩,
      not_trulyConnected_handleLine h.1 hc hgreeted hreq ht hstopped hwritten⟩
  | started result written =>
    match result with
    | .ok true =>
      simp only [Attested, not_forall, not_lt] at hnot
      obtain ⟨⟨session, starting, hellos⟩, call, hc, rfl, hwritten⟩ := hnot
      refine ⟨_, next_eq_some.2 ⟨h.1.live hc, .started hc⟩, fun hall => ?_⟩
      obtain ⟨t, ht, hruns⟩ := hall ⟨.state "Connected", some ⟨d.tunnels, true⟩, hellos⟩
        (mem_writeAll.2 (Or.inr ⟨_, by
          rw [List.take_of_length_le hwritten]
          exact List.mem_cons_of_mem _ List.mem_cons_self, rfl⟩)) rfl
      obtain rfl := Option.some.inj ht
      cases hruns
    | .ok false => exact absurd trivial hnot
    | .error _ => exact absurd trivial hnot
  | _ => exact absurd trivial hnot

/-- The engine dies and the client asks before the next tick. -/
theorem not_trulyConnected_engineStops :
    ∃ d, run (next Reference.parsers) (start 501) (connectOnce ++
        [.engineStops, .line Reference.statusLine (fun _ => Reference.files 501) 2]) = some d ∧
      ¬ TrulyConnected d := by
  have hrun : (run (next Reference.parsers) (start 501) (connectOnce ++
      [.engineStops, .line Reference.statusLine (fun _ => Reference.files 501) 2])).map
        (fun d => d.sent.getLast?) =
      some (some ⟨.state "Connected", some ⟨0, true⟩, [2]⟩) := by decide +kernel
  obtain ⟨d, hd, hlast⟩ := Option.map_eq_some_iff.1 hrun
  refine ⟨d, hd, fun h => ?_⟩
  obtain ⟨t, ht, hruns⟩ := h _ (List.mem_of_getLast? hlast) rfl
  obtain rfl := Option.some.inj ht
  cases hruns

/-! ## The version gate -/

/-- The last greeting was in the helper's version. -/
def Current (hellos : List ℕ) : Prop := hellos.getLast? = some PROTOCOL_VERSION

instance : DecidablePred Current := fun hellos =>
  inferInstanceAs (Decidable (hellos.getLast? = some PROTOCOL_VERSION))

/-- The gate is open to a request, and statistics are sent, after a last greeting in the helper's
version alone. -/
structure GateFollows (d : Daemon) : Prop where
  answers : ∀ a ∈ d.answers,
    a.lines = [Session.expectedHello (requestId a.request)] ↔ ¬ Current a.hellos
  stats : ∀ s ∈ d.sent, ∀ snapshot, s.line = .stats snapshot → Current s.hellos

/-- A client that greeted in the helper's version, and in another one since. -/
def Stale (c : Client) : Prop := PROTOCOL_VERSION ∈ c.hellos ∧ ¬ Current c.hellos

/-- Such a client asks for nothing, and no statistics get through to it. -/
def Refreshed (parsers : Parsers) (d : Daemon) (e : DaemonEvent) : Prop :=
  match e with
  | .line text _ _ => ∀ c req, d.client = some c → c.starting = none → Stale c →
      parsers.request text = some req → req.greets.isNone = false
  | .tick _ written => ∀ c t, d.client = some c → c.starting = none → Stale c →
      d.tunnel = some t → t.hasStopped = false → written = 0
  | _ => True

theorem GateFollows.handleLine (h : GateFollows d) (hstep : InStep parsers uid d)
    (hc : d.client = some c) (hhead : c.starting = none)
    (hrefreshed : Refreshed parsers d (.line text files written)) :
    GateFollows (d.handleLine parsers c text files written) := by
  refine ⟨fun a ha => ?_, fun s hs snapshot hline => ?_⟩
  · obtain ha | ⟨req, hreq, hnot, rfl⟩ := mem_answers_handleLine.1 ha
    · exact h.answers a ha
    · have hgreeted := (hstep.mirrors c hc).greeted
      rw [Session.handle_eq_expectedHello hreq hnot, Bool.eq_false_iff, ne_eq, hgreeted]
      refine not_congr ⟨fun hmem => ?_, fun hcurrent => List.mem_of_getLast? hcurrent⟩
      by_contra hstale
      have hnone := hrefreshed c req hc hhead ⟨hmem, hstale⟩ hreq
      rw [greets_isNone.2 hnot] at hnone
      cases hnone
  · rw [sent_handleLine] at hs
    obtain hs | ⟨line, hmem, rfl⟩ := mem_writeAll.1 hs
    · exact h.stats s hs snapshot hline
    · obtain rfl : line = .stats snapshot := hline
      exact absurd (List.mem_of_mem_take hmem) (Session.stats_notMem_handle snapshot)

theorem GateFollows.reportStart (h : GateFollows d) {call : StartCall}
    {result : Except StartError Bool} : GateFollows (d.reportStart c call result written) := by
  refine ⟨fun a ha => ?_, fun s hs snapshot hline => ?_⟩
  · cases result <;> exact h.answers a ha
  · obtain hs | ⟨id, hs⟩ | ⟨id, kind, message, hs⟩ | ⟨-, -, -, hs, -⟩ := mem_sent_reportStart hs
    · exact h.stats s hs snapshot hline
    all_goals
      rw [hs] at hline
      cases hline

@[simp] theorem answers_handleTick : (d.handleTick c snapshot written).answers = d.answers := by
  unfold handleTick
  split
  · rfl
  · split
    · rfl
    · split <;> rfl

theorem GateFollows.handleTick (h : GateFollows d) (hstep : InStep parsers uid d)
    (hc : d.client = some c) (hhead : c.starting = none)
    (hrefreshed : Refreshed parsers d (.tick snapshot written)) :
    GateFollows (d.handleTick c snapshot written) := by
  refine ⟨fun a ha => h.answers a (by simpa using ha), fun s hs snapshot' hline => ?_⟩
  obtain hs | hs | ⟨rfl, hgreeted, hwritten, t, ht, hruns⟩ := mem_sent_handleTick hs
  · exact h.stats s hs snapshot' hline
  · rw [hs] at hline
    cases hline
  · by_contra hstale
    have hmem := (hstep.mirrors c hc).greeted.1 hgreeted
    exact absurd (hrefreshed c t hc hhead ⟨hmem, hstale⟩ ht hruns) hwritten.ne'

theorem GateFollows.next (h : GateFollows d) (hstep : InStep parsers uid d)
    (hrefreshed : Refreshed parsers d e) (hnext : d.next parsers e = some d') :
    GateFollows d' := by
  obtain ⟨-, hturn⟩ := next_eq_some.1 hnext
  cases hturn with
  | line hhead => exact h.handleLine hstep hhead rfl hrefreshed
  | tick hhead => exact h.handleTick hstep hhead rfl hrefreshed
  | started => exact h.reportStart
  | _ => exact ⟨h.answers, h.stats⟩

/-- **The version gate follows the last greeting**, over every prefix of a run, exactly if no client
that greeted in the helper's version and then in another asks for anything or is sent statistics. -/
theorem refreshed_iff_gateFollows {es : List DaemonEvent} :
    Guarded (next parsers) (Refreshed parsers) (start uid) es ↔
      ∀ es' d, es' <+: es → run (next parsers) (start uid) es' = some d → GateFollows d := by
  refine guarded_iff (fun d (h : InStep parsers uid d ∧ GateFollows d) => h.2)
    (fun d e d' h _ hrefreshed hnext => ⟨h.1.next hnext,
      h.2.next h.1 hrefreshed hnext⟩) (fun d e h _ hnot => ?_)
    ⟨InStep.start parsers uid, ⟨fun _ h => (nomatch h), fun _ h => (nomatch h)⟩⟩
    (guarded_trivial _ _)
  cases e with
  | line text files written =>
    simp only [Refreshed, not_forall, Bool.not_eq_false] at hnot
    obtain ⟨⟨session, starting, hellos⟩, req, hc, rfl, hstale, hreq, hnone⟩ := hnot
    refine ⟨_, next_eq_some.2 ⟨h.1.live hc, .line hc⟩, fun hfollows => ?_⟩
    have hnot := greets_isNone.1 hnone
    have hrefused := (hfollows.answers _
      (mem_answers_handleLine.2 (Or.inr ⟨req, hreq, hnot, rfl⟩))).2 hstale.2
    rw [Session.handle_eq_expectedHello hreq hnot] at hrefused
    exact absurd ((h.1.mirrors _ hc).greeted.2 hstale.1) (Bool.eq_false_iff.1 hrefused)
  | tick snapshot written =>
    simp only [Refreshed, not_forall] at hnot
    obtain ⟨⟨session, starting, hellos⟩, t, hc, rfl, hstale, ht, hruns, hwritten⟩ := hnot
    refine ⟨_, next_eq_some.2 ⟨h.1.live hc, .tick hc⟩, fun hfollows => ?_⟩
    have hgreeted := (h.1.mirrors _ hc).greeted.2 hstale.1
    exact hstale.2 (hfollows.stats _ (stats_mem_handleTick hgreeted ht hruns
      (Nat.pos_of_ne_zero hwritten)) snapshot rfl)
  | _ => exact absurd trivial hnot

/-- The client greets in the helper's version, then in a later one, and asks. -/
theorem not_gateFollows_laterHello :
    ∃ d, run (next Reference.parsers) (start 501)
        [.accept (.ok 501), .line Reference.helloLine (fun _ => Reference.files 501) 1,
          .line Reference.laterHelloLine (fun _ => Reference.files 501) 1,
          .line Reference.statusLine (fun _ => Reference.files 501) 2] = some d ∧
      ¬ GateFollows d := by
  have hrun : (run (next Reference.parsers) (start 501)
      [.accept (.ok 501), .line Reference.helloLine (fun _ => Reference.files 501) 1,
        .line Reference.laterHelloLine (fun _ => Reference.files 501) 1,
        .line Reference.statusLine (fun _ => Reference.files 501) 2]).map (fun d => d.answers) =
      some [⟨.getStatus 3, [.ack 3, .state "Disconnected"], [2, 3]⟩] := by decide +kernel
  obtain ⟨d, hd, hanswers⟩ := Option.map_eq_some_iff.1 hrun
  refine ⟨d, hd, fun h => ?_⟩
  have hrefused := (h.answers _ (hanswers ▸ List.mem_cons_self)).2 (by decide)
  exact absurd hrefused (by decide)

end Daemon

end LiosTunnel.Helper
