import LiosTunnel.Helper.Serve

/-!
# What a client is answered

A line of a client is answered by one `Response`: at once, or, where it asks for a tunnel, when
`Tunnel::start` is through. The states and the statistics that go out besides answer nothing.

* `Line.answers`: the request a line answers.
* `Exchange`: a line of a client and what answered it; `Exchange.Sound` is what the answer promises.
* `Daemon.fresh`, `Daemon.exchange`: what a turn writes, and which line it answers.
* `Told`: all that a turn can be to a client that waits for answers, with `told_of_next`.
-/

namespace LiosTunnel

/-- The request a line answers, if it is a `Response`. -/
def Dto.Line.answers : Dto.Line → Option ℕ
  | .ack id | .error id _ _ => some id
  | .state _ | .stats _ => none

namespace Helper

open Config Dto

/-- A line that was read and the line that answered it: what the line was parsed as, the tunnel
before and after the turn of the answer, what `Tunnel::start` had been called with, and whether the
reply was written to its end. -/
structure Exchange where
  request : Option Request
  reply : Line
  before : Option Tunnel
  after : Option Tunnel
  started : Option Authorized
  whole : Bool

/-- What the helper has done once it accepts a request. -/
def Exchange.Done (parsers : Parsers) (uid : ℕ) (x : Exchange) : Request → Prop
  | .hello _ version => version = PROTOCOL_VERSION ∧ x.after = x.before
  | .connect _ params => x.before = none ∧ x.after.isSome = true ∧
      ∃ files authorized, x.started = some authorized ∧
        authorizeParams parsers files params uid = .ok authorized
  | .disconnect _ => x.before.isSome = true ∧ (x.whole = true → x.after = none)
  | .getStatus _ => x.after = x.before

/-- An answer is to the request it answers; an accepted request was carried out, and one that was
refused changed nothing. -/
structure Exchange.Sound (parsers : Parsers) (uid : ℕ) (x : Exchange) : Prop where
  answers : x.reply.answers = some (x.request.elim 0 requestId)
  accepted : ∀ id, x.reply = .ack id → ∃ req, x.request = some req ∧ x.Done parsers uid req
  refused : ∀ id kind message, x.reply = .error id kind message → x.after = x.before

namespace Daemon

/-- What a turn writes. -/
def fresh (d d' : Daemon) : List Line := (d'.sent.drop d.sent.length).map Sent.line

/-- The call of `Tunnel::start` the client waits for. -/
def starting (d : Daemon) : Option StartCall := d.client.bind Client.starting

/-- The line a turn may answer. -/
def asked (d : Daemon) : DaemonEvent → Option String
  | .line text _ _ => some text
  | .started _ _ => d.starting.map StartCall.line
  | _ => none

/-- The answer a turn gives. -/
def exchange (parsers : Parsers) (d : Daemon) (e : DaemonEvent) (d' : Daemon) : Option Exchange :=
  (d.asked e).bind fun text => ((d.fresh d').find? fun line => line.answers.isSome).map fun reply =>
    ⟨parsers.request text, reply, d.tunnel, d'.tunnel, d.starting.map StartCall.authorized,
      d'.client.isSome⟩

variable {parsers : Parsers} {d d' : Daemon} {e : DaemonEvent}

@[simp] theorem fresh_self : d.fresh d = [] := by simp [fresh]

theorem fresh_of_sent (h : d'.sent = d.sent) : d.fresh d' = [] := by simp [fresh, h]

theorem fresh_eq_take {tunnel : Option Tunnel} {hellos : List ℕ} {lines : List Line} {written : ℕ}
    (h : d'.sent = d.sent ++ (lines.take written).map fun line => ⟨line, tunnel, hellos⟩) :
    d.fresh d' = lines.take written := by
  rw [fresh, h, List.drop_left, List.map_map]
  exact List.map_id _

end Daemon

/-! ## What a line is answered at once -/

/-- What `handle` accepts a request with. -/
def Session.Grants (sess : Session) (action : Action) : Request → Prop
  | .hello _ version => version = PROTOCOL_VERSION ∧ action = .none
  | .connect _ _ => False
  | .disconnect _ => sess.connected = true ∧ action = .stopTunnel
  | .getStatus _ => action = .none

/-- The replies that begin with the answer to a line. -/
structure Session.Replies (parsers : Parsers) (sess : Session) (text : String) (reply : Line)
    (rest : List Line) (action : Action) : Prop where
  answers : reply.answers = some ((parsers.request text).elim 0 requestId)
  quiet : ∀ line ∈ rest, line.answers = none
  accepted : ∀ id, reply = .ack id → ∃ req, parsers.request text = some req ∧ sess.Grants action req
  refused : ∀ id kind message, reply = .error id kind message → action = .none

variable {parsers : Parsers} {uid : ℕ}

/-- A refusal, which is all of the replies. -/
theorem Session.Replies.error {sess : Session} {text : String} {id : ℕ} (kind : ErrorKind)
    (message : Text) (hid : (parsers.request text).elim 0 requestId = id) :
    sess.Replies parsers text (.error id kind message) [] .none where
  answers := by rw [hid]; rfl
  quiet := fun _ h => nomatch h
  accepted := fun _ h => nomatch h
  refused := fun _ _ _ _ => rfl

/-- An acceptance, and the state that goes with it. -/
theorem Session.Replies.ack {sess : Session} {text : String} {id : ℕ} {req : Request}
    {action : Action} {rest : List Line} (hreq : parsers.request text = some req)
    (hid : requestId req = id) (hrest : ∀ line ∈ rest, line.answers = none)
    (hgrants : sess.Grants action req) : sess.Replies parsers text (.ack id) rest action where
  answers := by rw [hreq, ← hid]; rfl
  quiet := hrest
  accepted := fun _ _ => ⟨req, hreq, hgrants⟩
  refused := fun _ _ _ h => nomatch h

/-- What asks for a tunnel is not answered at once. -/
theorem Session.Replies.ne_start {sess : Session} {text : String} {reply : Line} {rest : List Line}
    {action : Action} (h : sess.Replies parsers text reply rest action) (id : ℕ) (a : Authorized) :
    action ≠ .start id a := by
  rintro rfl
  cases reply with
  | ack id =>
    obtain ⟨req, -, hgrants⟩ := h.accepted id rfl
    cases req with
    | hello => cases hgrants.2
    | connect => exact hgrants
    | disconnect => cases hgrants.2
    | getStatus => cases hgrants
  | error id kind message => cases h.refused id kind message rfl
  | state => cases h.answers
  | stats => cases h.answers

/-- A line is answered at once, if it does not ask for a tunnel that the gate approves. -/
theorem Session.replies_of_handle (parsers : Parsers) (sess : Session) (files : ℕ → FileSystem)
    (text : String) :
    ((sess.handle parsers files text).1 = [] ∧
      ∃ id a, (sess.handle parsers files text).2.1 = .start id a) ∨
    ∃ reply rest, (sess.handle parsers files text).1 = reply :: rest ∧
      sess.Replies parsers text reply rest (sess.handle parsers files text).2.1 := by
  have hstate : ∀ st : String, ∀ line ∈ [Line.state st], line.answers = none := by
    intro st line hline
    obtain rfl := List.mem_singleton.1 hline
    rfl
  refine handle_elim
    (motive := fun replies action _ => (replies = [] ∧ ∃ id a, action = .start id a) ∨
      ∃ reply rest, replies = reply :: rest ∧ sess.Replies parsers text reply rest action)
    (fun hreq => ?_) (fun id v hreq _ => ?_) (fun id hreq => ?_) (fun req hreq _ _ => ?_)
    (fun id hreq _ => ?_) (fun id hreq _ _ => ?_) (fun id hreq _ hconnected => ?_)
    (fun id params hreq _ _ => ?_) (fun id params a _ _ _ _ => ?_) fun id params e hreq _ _ _ => ?_
  · exact Or.inr ⟨_, _, rfl, .error _ _ (by rw [hreq]; rfl)⟩
  · exact Or.inr ⟨_, _, rfl, .error _ _ (by rw [hreq]; rfl)⟩
  · exact Or.inr ⟨_, _, rfl, .ack hreq rfl (fun _ h => (nomatch h)) ⟨rfl, rfl⟩⟩
  · exact Or.inr ⟨_, _, rfl, .error _ _ (by rw [hreq]; rfl)⟩
  · exact Or.inr ⟨_, _, rfl, .ack hreq rfl (hstate _) rfl⟩
  · exact Or.inr ⟨_, _, rfl, .error _ _ (by rw [hreq]; rfl)⟩
  · exact Or.inr ⟨_, _, rfl, .ack hreq rfl (hstate _) ⟨hconnected, rfl⟩⟩
  · exact Or.inr ⟨_, _, rfl, .error _ _ (by rw [hreq]; rfl)⟩
  · exact Or.inl ⟨rfl, id, a, rfl⟩
  · exact Or.inr ⟨_, _, rfl, .error _ _ (by rw [hreq]; rfl)⟩

/-! ## One turn -/

namespace Daemon

variable {d d' : Daemon} {e : DaemonEvent}

/-- The daemon in step, whose client waits for a call that was made. -/
structure Served (parsers : Parsers) (uid : ℕ) (d : Daemon) : Prop where
  inStep : InStep parsers uid d
  called : ∀ call, d.starting = some call → call ∈ d.calls

theorem Served.start (parsers : Parsers) (uid : ℕ) : Served parsers uid (start uid) where
  inStep := .start parsers uid
  called := fun _ h => nomatch h

/-- The client after a line waits for the call that the line asked for, if for any. -/
theorem starting_handleLine {c : Client} {text : String} {files : ℕ → FileSystem} {written : ℕ}
    {call : StartCall} (h : (d.handleLine parsers c text files written).starting = some call) :
    call ∈ (d.handleLine parsers c text files written).calls ∧ call.line = text := by
  revert h
  refine handleLine_elim (motive := fun d' => d'.starting = some call →
    call ∈ d'.calls ∧ call.line = text) Session.handle_eta (fun _ h => (nomatch h))
    (fun _ _ h => (nomatch h)) (fun _ _ h => (nomatch h)) fun id a _ _ h => ?_
  obtain rfl := Option.some.inj h
  exact ⟨List.mem_append_right _ (List.mem_singleton_self _), rfl⟩

theorem fresh_reportStart (c : Client) (call : StartCall) (result : Except StartError Bool)
    (written : ℕ) : d.fresh (d.reportStart c call result written) =
      (match result with
        | .ok _ => [.ack call.id, .state "Connected"]
        | .error e =>
          [.error call.id (Session.errorKind e) e.display] : List Line).take written := by
  cases result with
  | ok hasStopped =>
    have hsent : (d.reportStart c call (.ok hasStopped) written).sent = d.sent ++
        (List.take written [Line.ack call.id, .state "Connected"]).map fun line =>
          ⟨line, some ⟨d.tunnels, hasStopped⟩, c.hellos⟩ := rfl
    exact fresh_eq_take hsent
  | error e =>
    have hsent : (d.reportStart c call (.error e) written).sent = d.sent ++
        (List.take written [Line.error call.id (Session.errorKind e) e.display]).map fun line =>
          ⟨line, d.tunnel, c.hellos⟩ := rfl
    exact fresh_eq_take hsent

theorem starting_reportStart (c : Client) (call : StartCall) (result : Except StartError Bool)
    (written : ℕ) : (d.reportStart c call result written).starting = none := by
  cases result <;> simp only [reportStart, starting] <;> split <;> rfl

theorem starting_handleTick {c : Client} (hc : d.client = some c) (hhead : c.starting = none)
    (snapshot : StatsSnapshot) (written : ℕ) :
    (d.handleTick c snapshot written).starting = none := by
  have hsame : d.starting = none := by rw [starting, hc]; exact hhead
  rw [handleTick]
  split
  · exact hsame
  · split
    · exact hsame
    · split
      · simp only [starting]
        split <;> rfl
      · simp only [starting]
        split
        · exact hhead
        · rfl

theorem Served.next (h : Served parsers uid d) (hnext : d.next parsers e = some d') :
    Served parsers uid d' where
  inStep := h.inStep.next hnext
  called := by
    intro call hcall
    obtain ⟨-, hturn⟩ := next_eq_some.1 hnext
    cases hturn with
    | serve => cases hcall
    | refuse => exact h.called call hcall
    | acceptFailed => exact h.called call hcall
    | signal => exact h.called call hcall
    | line => exact (starting_handleLine hcall).1
    | hangUp => cases hcall
    | tick hhead => cases (starting_handleTick hhead rfl _ _).symm.trans hcall
    | started => cases (starting_reportStart _ _ _ _).symm.trans hcall
    | engineStops => exact h.called call hcall

/-- What a turn is to a client that waits for answers. -/
inductive Told (parsers : Parsers) (uid : ℕ) (d : Daemon) (e : DaemonEvent) (d' : Daemon) : Prop
  /-- There was nothing to answer, and nothing is answered. -/
  | silent (asked : d.asked e = none) (same : d'.starting = d.starting)
      (quiet : ∀ line ∈ d.fresh d', line.answers = none)
  /-- The line that was read waits for `Tunnel::start`. -/
  | waits (call : StartCall) (asked : d.asked e = some call.line)
      (waiting : d'.starting = some call) (nothing : d.fresh d' = [])
  /-- None of the reply gets through, and the client is gone. -/
  | lost (gone : d'.client = none) (nothing : d.fresh d' = [])
  /-- The line is answered. -/
  | answered (text : String) (x : Exchange) (rest : List Line) (asked : d.asked e = some text)
      (request : x.request = parsers.request text) (lines : d.fresh d' = x.reply :: rest)
      (quiet : ∀ line ∈ rest, line.answers = none) (settled : d'.starting = none)
      (exchange : d.exchange parsers e d' = some x) (sound : x.Sound parsers uid)

/-- A turn whose reply begins with an answer that is written. -/
theorem exchange_of_fresh {text : String} {reply : Line} {rest : List Line} {id : ℕ}
    (hasked : d.asked e = some text) (hlines : d.fresh d' = reply :: rest)
    (hid : reply.answers = some id) : d.exchange parsers e d' = some
      ⟨parsers.request text, reply, d.tunnel, d'.tunnel, d.starting.map StartCall.authorized,
        d'.client.isSome⟩ := by
  simp [exchange, hasked, hlines, hid]

/-- A reply of which some is written begins with the answer. -/
theorem take_cons_of_pos {reply : Line} {rest : List Line} {written : ℕ} (h : 0 < written) :
    (reply :: rest).take written = reply :: rest.take (written - 1) := by
  obtain ⟨n, rfl⟩ := Nat.exists_eq_succ_of_ne_zero h.ne'
  rfl

/-- A line whose answer is written. -/
theorem told_of_replies {c : Client} {text : String} {files : ℕ → FileSystem} {written : ℕ}
    {reply : Line} {rest : List Line} {action : Action} (hmirrors : Mirrors d c)
    (hanswer : c.session.Replies parsers text reply rest action) (hpos : 0 < written)
    (hlines : d.fresh d' = (reply :: rest).take written) (hsettled : d'.starting = none)
    (hsame : action = .none ∨ d'.client = none → d'.tunnel = d.tunnel)
    (hstop : action = .stopTunnel → d'.client.isSome = true → d'.tunnel = none) :
    Told parsers uid d (.line text files written) d' := by
  rw [take_cons_of_pos hpos] at hlines
  refine .answered text _ _ rfl rfl hlines (fun line hline => ?_) hsettled
    (exchange_of_fresh rfl hlines hanswer.answers) ⟨hanswer.answers, fun id hid => ?_, ?_⟩
  · exact hanswer.quiet line (List.mem_of_mem_take hline)
  · obtain ⟨req, hreq, hgrants⟩ := hanswer.accepted id hid
    refine ⟨req, hreq, ?_⟩
    cases req with
    | hello => exact ⟨hgrants.1, hsame (Or.inl hgrants.2)⟩
    | connect => exact hgrants.elim
    | disconnect => exact ⟨hmirrors.connected.symm.trans hgrants.1, hstop hgrants.2⟩
    | getStatus => exact hsame (Or.inl hgrants)
  · intro id kind message herror
    exact hsame (Or.inl (hanswer.refused id kind message herror))

theorem told_handleLine (h : Served parsers uid d) {c : Client} (hc : d.client = some c)
    (text : String) (files : ℕ → FileSystem) (written : ℕ) :
    Told parsers uid d (.line text files written) (d.handleLine parsers c text files written) := by
  have hmirrors := h.inStep.mirrors c hc
  have hcases := c.session.replies_of_handle parsers files text
  rcases hhandle : c.session.handle parsers files text with ⟨replies, action, session⟩
  rw [hhandle] at hcases
  obtain ⟨rfl, id, a, rfl⟩ | ⟨reply, rest, rfl, hanswer⟩ := hcases
  · refine handleLine_elim (motive := fun d' => Told parsers uid d (.line text files written) d')
      hhandle (fun hwritten => ?_) (fun _ haction => ?_) (fun _ haction => ?_) fun id' a' _ _ => ?_
    · exact absurd hwritten (Nat.not_lt_zero _)
    · cases haction
    · cases haction
    · exact .waits _ rfl rfl ((fresh_eq_take rfl).trans List.take_nil)
  · refine handleLine_elim (motive := fun d' => Told parsers uid d (.line text files written) d')
      hhandle (fun _ => ?_) (fun hwritten haction => ?_) (fun hwritten haction => ?_)
      fun id a _ haction => absurd haction (hanswer.ne_start id a)
    · obtain rfl | hpos := Nat.eq_zero_or_pos written
      · have hnothing : (reply :: rest).take 0 = [] := List.take_zero
        exact .lost rfl ((fresh_eq_take rfl).trans hnothing)
      · exact told_of_replies hmirrors hanswer hpos (fresh_eq_take rfl) rfl (fun _ => rfl)
          fun _ hclient => (nomatch hclient)
    · subst haction
      exact told_of_replies hmirrors hanswer (Nat.lt_of_lt_of_le (Nat.succ_pos _) hwritten)
        (fresh_eq_take rfl) rfl (fun _ => rfl) fun haction => (nomatch haction)
    · subst haction
      refine told_of_replies hmirrors hanswer (Nat.lt_of_lt_of_le (Nat.succ_pos _) hwritten)
        (fresh_eq_take rfl) rfl (fun hor => ?_) fun _ _ => rfl
      obtain haction | hclient := hor
      · cases haction
      · cases hclient

/-- What `Tunnel::start` led to answers the line that asked for it. -/
theorem told_reportStart (h : Served parsers uid d) {c : Client} (hc : d.client = some c)
    {call : StartCall} (hcall : c.starting = some call) (result : Except StartError Bool)
    (written : ℕ) :
    Told parsers uid d (.started result written) (d.reportStart c call result written) := by
  have hstarting : d.starting = some call := by rw [starting, hc]; exact hcall
  have hasked : d.asked (.started result written) = some call.line := by rw [asked, hstarting]; rfl
  have hsettled := starting_reportStart (d := d) c call result written
  have hbefore : d.tunnel = none := (h.inStep.mirrors c hc).waiting (by rw [hcall]; rfl)
  have hfresh := fresh_reportStart (d := d) c call result written
  obtain ⟨params, hreq, hauth⟩ := (h.inStep.due call (h.called call hstarting)).approved
  have hid : some call.id = some ((parsers.request call.line).elim 0 requestId) := by rw [hreq]; rfl
  obtain rfl | hpos := Nat.eq_zero_or_pos written
  · refine .lost ?_ (hfresh.trans List.take_zero)
    cases result <;> rfl
  · cases result with
    | ok hasStopped =>
      have hlines := hfresh.trans (take_cons_of_pos hpos)
      refine .answered call.line _ _ hasked rfl hlines (fun line hline => ?_) hsettled
        (exchange_of_fresh hasked hlines rfl) ⟨hid, fun id _ => ?_, fun _ _ _ h => (nomatch h)⟩
      · obtain rfl := List.mem_singleton.1 (List.mem_of_mem_take hline)
        rfl
      · exact ⟨_, hreq, hbefore, rfl, call.files, call.authorized, by rw [hstarting]; rfl, hauth⟩
    | error err =>
      have hlines := hfresh.trans (take_cons_of_pos hpos)
      refine .answered call.line _ _ hasked rfl hlines (fun line hline => ?_) hsettled
        (exchange_of_fresh hasked hlines rfl) ⟨hid, fun id h => (nomatch h), fun _ _ _ _ => rfl⟩
      cases List.mem_of_mem_take hline

/-- What a tick writes is a state or the statistics. -/
theorem answers_of_tick {c : Client} {snapshot : StatsSnapshot} {written : ℕ} {line : Line}
    (h : line ∈ d.fresh (d.handleTick c snapshot written)) : line.answers = none := by
  unfold handleTick at h
  split at h
  · rw [fresh_self] at h
    cases h
  · split at h
    · rw [fresh_self] at h
      cases h
    · split at h
      · have hmem : line ∈ List.take written [Line.state "Disconnected"] :=
          (congrArg (line ∈ ·) (fresh_eq_take rfl)).mp h
        obtain rfl := List.mem_singleton.1 (List.mem_of_mem_take hmem)
        rfl
      · have hmem : line ∈ List.take written [Line.stats snapshot] :=
          (congrArg (line ∈ ·) (fresh_eq_take rfl)).mp h
        obtain rfl := List.mem_singleton.1 (List.mem_of_mem_take hmem)
        rfl

/-- **One turn**: a line that is read is answered in that turn, waits for `Tunnel::start`, or loses
its client; and what waits is answered when the start is through, or loses its client. -/
theorem told_of_next (h : Served parsers uid d) (hnext : d.next parsers e = some d') :
    Told parsers uid d e d' := by
  obtain ⟨-, hturn⟩ := next_eq_some.1 hnext
  have hnothing (d' : Daemon) (hsent : d'.sent = d.sent) :
      ∀ line ∈ d.fresh d', line.answers = none := by
    rw [fresh_of_sent hsent]
    exact fun _ hline => nomatch hline
  cases hturn with
  | serve hidle =>
    have hstarting : d.starting = none := by rw [starting, hidle]; rfl
    exact .silent rfl hstarting.symm (hnothing _ rfl)
  | refuse => exact .silent rfl rfl (hnothing _ rfl)
  | acceptFailed => exact .silent rfl rfl (hnothing _ rfl)
  | signal => exact .silent rfl rfl (hnothing _ rfl)
  | line hhead => exact told_handleLine h hhead _ _ _
  | hangUp hhead =>
    have hstarting : d.starting = none := by rw [starting, hhead]; rfl
    exact .silent rfl hstarting.symm (hnothing _ rfl)
  | tick hhead =>
    have hstarting : d.starting = none := by rw [starting, hhead]; rfl
    exact .silent rfl ((starting_handleTick hhead rfl _ _).trans hstarting.symm)
      fun line hline => answers_of_tick hline
  | started hwaiting => exact told_reportStart h hwaiting rfl _ _
  | engineStops => exact .silent rfl rfl (hnothing _ rfl)

end Daemon

end Helper

end LiosTunnel
