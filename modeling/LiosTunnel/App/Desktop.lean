import LiosTunnel.App.Requests
import LiosTunnel.Helper.Replies

/-!
# The app, the helper and the sockets between them

A desktop runs the app and one helper, which is started again when it has ended. Each connection of
the app is a pair of streams of lines: what the app writes is read in its order, and so is what the
helper writes; the helper serves one connection at a time, its own choice among those of the app and
of other programs, and leaves a connection when it cannot write to it or is ended. What `serde_json`
makes of a message is a parameter, of which all that is used is that it reads back what it wrote.

* `Desktop`, `DesktopEvent`, `Desktop.next`: both programs, one event of either at a time.
* `Linked`: what the streams, the app's books and the helper's answers have to do with each other.
* `settled_of_run`: how a request ends is how the helper answered that very request.
* `underWay_of_run`: a request that waits is somewhere on its way.
-/

namespace LiosTunnel.App

open Dto Runs

/-! ## What the codecs agree on -/

/-- How the request ends that a line answers. -/
def Json.outcome (json : Json) : Line → Option Outcome
  | .ack _ => some .acked
  | .error _ kind message => some (.refused kind (json.display message))
  | .state _ | .stats _ => none

/-- `serde_json` reads back what it wrote: a request as itself, and a line of the helper as the
`Response` or the `Event` it was, but not as the other. -/
structure Json.Lawful (json : Json) (codec : Codec) (parsers : Helper.Parsers) : Prop where
  request : ∀ req text, json.request req = some text → parsers.request text = some req
  ack : ∀ id text, json.line (.ack id) = some text → codec.response text = some (.ack id)
  error : ∀ id kind message text, json.line (.error id kind message) = some text →
    codec.response text = some (.error id kind (json.display message))
  state : ∀ st text, json.line (.state st) = some text →
    codec.response text = none ∧ codec.push text = some (.state st)
  stats : ∀ snapshot text, json.line (.stats snapshot) = some text →
    codec.response text = none ∧ codec.push text = some (.stats snapshot)

variable {json : Json} {codec : Codec} {parsers : Helper.Parsers}

/-- A line of the helper is decoded as what it answers. -/
theorem Json.Lawful.decode (h : json.Lawful codec parsers) {line : Line} {text : String}
    (htext : json.line line = some text) : ∃ dto, decodeMessage codec text = .ok dto ∧
      dto.answer = line.answers.bind fun id =>
        (json.outcome line).map fun outcome => (id, outcome) := by
  cases line with
  | ack id => exact ⟨.ack id, by rw [decodeMessage, h.ack id text htext], rfl⟩
  | error id kind message =>
    exact ⟨.error id kind _, by rw [decodeMessage, h.error id kind message text htext], rfl⟩
  | state st =>
    obtain ⟨hresponse, hpush⟩ := h.state st text htext
    exact ⟨.state st, by rw [decodeMessage, hresponse, hpush], rfl⟩
  | stats snapshot =>
    obtain ⟨hresponse, hpush⟩ := h.stats snapshot text htext
    exact ⟨_, by rw [decodeMessage, hresponse, hpush], rfl⟩

/-- The request that a line of the app is read as. -/
def Sending.request (x : Sending) : Request := x.dto.toRequest

theorem Sending.requestId_request (x : Sending) : Helper.requestId x.request = x.dto.id := by
  obtain ⟨conn, dto⟩ := x
  cases dto <;> rfl

theorem Json.Lawful.reads (h : json.Lawful codec parsers) {x : Sending} {text : String}
    (htext : encodeRequest json x.dto = .ok text) : parsers.request text = some x.request := by
  rw [encodeRequest] at htext
  split at htext
  · rename_i line hline
    obtain rfl := Except.ok.inj htext
    exact h.request _ _ hline
  · cases htext

/-! ## The two programs -/

/-- The app, the helper there is, and each connection: how many of the app's lines the helper has
read on it, what the helper wrote, and how many of those lines the app was given. The connections
the helper has come to, or went down without, and what it answered on each, are ghosts. -/
structure Desktop where
  sender : Sender
  daemon : Helper.Daemon
  /-- The connection of the app that is served, if it is one of the app's. -/
  serving : Option ℕ
  met : List ℕ
  read : ℕ → ℕ
  down : ℕ → List Line
  received : ℕ → ℕ
  log : List (ℕ × Helper.Exchange)

/-- What can happen. -/
inductive DesktopEvent
  /-- Anything in the app but the arrival of a line. -/
  | app (e : SendEvent)
  /-- The app is given the next line of a connection. -/
  | deliver (c : ℕ)
  /-- The helper accepts a connection of the app, or another program's. -/
  | accept (c : Option ℕ) (peer : Except Text ℕ)
  /-- The helper reads the next line of the app's connection. -/
  | read (files : ℕ → Config.FileSystem) (written : ℕ)
  /-- Anything else in the helper; a line is another program's. -/
  | helper (e : Helper.DaemonEvent)
  /-- The helper ends, in whatever way, and is started again. -/
  | restart

namespace Desktop

/-- At first. -/
def start (uid : ℕ) : Desktop where
  sender := .init
  daemon := .start uid
  serving := none
  met := []
  read := fun _ => 0
  down := fun _ => []
  received := fun _ => 0
  log := []

variable (json : Json) (codec : Codec) (parsers : Helper.Parsers) (uid : ℕ) (d : Desktop)

/-- A turn of the helper, with what it writes put on the connection it serves; it ends where a
message could not be serialized, which the source expects never to happen. -/
def turn (e : Helper.DaemonEvent) : Option Desktop :=
  (d.daemon.next parsers e).bind fun daemon =>
    let lines := d.daemon.fresh daemon
    if lines.all fun line => (json.line line).isSome then
      some { d with
        daemon := daemon
        serving := if daemon.client.isSome then d.serving else none
        down := d.serving.elim d.down fun c => Function.update d.down c (d.down c ++ lines)
        log := d.log ++ d.serving.elim [] fun c =>
          ((d.daemon.exchange parsers e daemon).map fun x => (c, x)).toList }
    else none

/-- One step, `none` where it cannot happen. -/
def next : DesktopEvent → Option Desktop
  | .app (.client (.line _ _)) => none
  | .app e => (d.sender.next json codec e).map fun sender => { d with sender := sender }
  | .deliver c =>
    (d.down c)[d.received c]?.bind fun line => (json.line line).bind fun text =>
      (d.sender.next json codec (.client (.line c text))).map fun sender =>
        { d with sender := sender, received := Function.update d.received c (d.received c + 1) }
  | .accept c peer =>
    if ∀ n ∈ c, n < d.sender.client.connections ∧ n ∉ d.met then
      (d.daemon.next parsers (.accept peer)).map fun daemon =>
        { d with
          daemon := daemon
          serving := if daemon.client.isSome then c else none
          met := c.toList ++ d.met }
    else none
  | .read files written =>
    d.serving.bind fun c => (d.sender.written c)[d.read c]?.bind fun x =>
      match encodeRequest json x.dto with
      | .ok text =>
        ({ d with read := Function.update d.read c (d.read c + 1) } : Desktop).turn json parsers
          (.line text files written)
      | .error _ => none
  | .helper (.accept _) => none
  | .helper (.line text files written) =>
    if d.serving.isSome then none else d.turn json parsers (.line text files written)
  | .helper e => d.turn json parsers e
  | .restart =>
    some { d with
      daemon := .start uid
      serving := none
      met := List.range d.sender.client.connections }

variable {json codec parsers} {d d' : Desktop} {uid : ℕ}

/-- What the helper has read on a connection. -/
def heard (d : Desktop) (c : ℕ) : List Sending := (d.sender.written c).take (d.read c)

/-- The app's side of the streams: the lines it was given are those the helper wrote, what was given
is being decoded or was heeded, and a request ended as some line said. -/
structure Given (json : Json) (codec : Codec) (d : Desktop) : Prop where
  readable : ∀ c, ∀ l ∈ d.down c, (json.line l).isSome = true
  within : ∀ c, d.received c ≤ (d.down c).length
  lines : ∀ c text, (c, text) ∈ d.sender.client.lines → ∃ l ∈ d.down c, json.line l = some text
  delivered : ∀ c, ∀ l ∈ (d.down c).take (d.received c), ∃ (i : ℕ) (text : String),
    d.sender.client.lines[i]? = some (c, text) ∧ json.line l = some text
  bound : ∀ i ∈ d.sender.client.decoding, i < d.sender.client.lines.length
  heeded : ∀ (i c : ℕ) (text : String) dto, d.sender.client.lines[i]? = some (c, text) →
    i ∉ d.sender.client.decoding → decodeMessage codec text = .ok dto → ∀ id outcome,
      dto.answer = some (id, outcome) → id ∉ d.sender.client.pending
  settled : ∀ p ∈ d.sender.client.settled, (∃ detail, p.2 = .unavailable detail) ∨
    ∃ c text dto, (c, text) ∈ d.sender.client.lines ∧ decodeMessage codec text = .ok dto ∧
      dto.answer = some p

/-- The helper's side: what it answered was read on that connection, and answered once. -/
structure Answered (parsers : Helper.Parsers) (uid : ℕ) (d : Desktop) : Prop where
  served : Helper.Daemon.Served parsers uid d.daemon
  met : ∀ c, d.serving = some c → c ∈ d.met
  unread : ∀ c, c ∉ d.met → d.read c = 0
  within : ∀ c, d.read c ≤ (d.sender.written c).length
  sound : ∀ p ∈ d.log, p.2.Sound parsers uid ∧ p.2.reply ∈ d.down p.1 ∧
    ∃ x ∈ d.heard p.1, p.2.request = some x.request
  once : (d.log.map fun p => (p.1, p.2.request)).Nodup
  down : ∀ c, ∀ l ∈ d.down c, l.answers.isSome = true → ∃ x, (c, x) ∈ d.log ∧ x.reply = l

/-- A request was answered on a connection. -/
def Logged (d : Desktop) (c : ℕ) (req : Option Request) : Prop :=
  ∃ x, (c, x) ∈ d.log ∧ x.request = req

/-- What the helper read on the connection it serves was answered, or waits for `Tunnel::start`. -/
structure Waiting (parsers : Helper.Parsers) (d : Desktop) : Prop where
  heard : ∀ c, d.serving = some c → ∀ x ∈ d.heard c, d.Logged c (some x.request) ∨
    ∃ call, d.daemon.starting = some call ∧ parsers.request call.line = some x.request
  waits : ∀ c call, d.serving = some c → d.daemon.starting = some call →
    ∃ x ∈ d.heard c, parsers.request call.line = some x.request ∧ ¬ d.Logged c (some x.request)

/-- What holds after any events. -/
structure Linked (json : Json) (codec : Codec) (parsers : Helper.Parsers) (uid : ℕ) (d : Desktop) :
    Prop where
  books : Sender.Books d.sender
  given : Given json codec d
  answered : Answered parsers uid d
  waiting : Waiting parsers d

/-- A request is told apart by what is read of it. -/
theorem request_inj (h : Sender.Books d.sender) {x y : Sending} (hx : x ∈ d.sender.requests)
    (hy : y ∈ d.sender.requests) (hxy : x.request = y.request) : x = y := by
  have hid : x.dto.id = y.dto.id := by
    rw [← x.requestId_request, ← y.requestId_request, hxy]
  have hnodup : (d.sender.requests.map fun x => x.dto.id).Nodup := by
    rw [h.fates.numbered]
    exact List.nodup_range'
  exact List.inj_on_of_nodup_map hnodup hx hy hid

theorem mem_requests_of_heard (h : Sender.Books d.sender) {c : ℕ} {x : Sending}
    (hx : x ∈ d.heard c) : x ∈ d.sender.requests ∧ x.conn = c := by
  obtain ⟨hmem, hconn, -⟩ := h.heard.written c x (List.mem_of_mem_take hx)
  exact ⟨hmem, hconn⟩

/-- An answer on a connection is to a request that was made on it. -/
theorem Linked.request_of_answer (h : Linked json codec parsers uid d) {c id : ℕ} {l : Line}
    (hl : l ∈ d.down c) (hid : l.answers = some id) :
    ∃ x ∈ d.sender.requests, x.conn = c ∧ x.dto.id = id ∧
      ∃ y, (c, y) ∈ d.log ∧ y.request = some x.request ∧ y.reply = l := by
  obtain ⟨y, hy, rfl⟩ := h.answered.down c l hl (by rw [hid]; rfl)
  obtain ⟨hsound, -, x, hx, hreq⟩ := h.answered.sound _ hy
  obtain ⟨hmem, hconn⟩ := mem_requests_of_heard h.books hx
  have hanswers := hsound.answers
  rw [hreq, hid] at hanswers
  refine ⟨x, hmem, hconn, ?_, y, hy, hreq, rfl⟩
  rw [← x.requestId_request]
  exact (Option.some.inj hanswers).symm

/-! ## The app's steps -/

theorem Given.hears (h : Given json codec d) {sender : Sender} {e : Event}
    (hline : ∀ c text, e ≠ .line c text)
    (hears : d.sender.client.Hears codec e sender.client) :
    Given json codec { d with sender := sender } := by
  cases hears with
  | line c text he => exact absurd he (hline c text)
  | decodes i c text hi hlines hdecoding hheeds hpending hsettled =>
    refine ⟨h.readable, h.within, ?_, ?_, fun j hj => ?_, ?_, fun p hp => ?_⟩
    · rw [hlines]
      exact h.lines
    · rw [hlines]
      exact h.delivered
    · rw [hdecoding] at hj
      rw [hlines]
      exact h.bound j (List.mem_filter.1 hj).1
    · intro j c' text' dto hj hnot hdto id outcome hanswer hid
      rw [hlines] at hj
      by_cases hji : j = i
      · subst hji
        obtain ⟨rfl, rfl⟩ := Prod.mk.inj (Option.some.inj (hi.symm.trans hj))
        exact hheeds dto hdto id outcome hanswer hid
      · refine h.heeded j c' text' dto hj (fun hin => hnot ?_) hdto id outcome hanswer
          (hpending id hid)
        rw [hdecoding, List.mem_filter]
        exact ⟨hin, decide_eq_true hji⟩
    · rw [hlines]
      obtain hold | ⟨dto, hdto, hanswer⟩ := hsettled p hp
      · exact h.settled p hold
      · exact Or.inr ⟨c, text, dto, List.mem_of_getElem? hi, hdto, hanswer⟩
  | other hlines hdecoding hpending hsettled =>
    refine ⟨h.readable, h.within, ?_, ?_, ?_, ?_, fun p hp => ?_⟩
    · rw [hlines]
      exact h.lines
    · rw [hlines]
      exact h.delivered
    · rw [hlines, hdecoding]
      exact h.bound
    · intro j c' text' dto hj hnot hdto id outcome hanswer hid
      rw [hlines] at hj
      rw [hdecoding] at hnot
      exact h.heeded j c' text' dto hj hnot hdto id outcome hanswer (hpending id hid)
    · rw [hlines]
      obtain hold | hunavailable := hsettled p hp
      · exact h.settled p hold
      · exact Or.inl hunavailable

/-- A line that was given answers a request that was made. -/
theorem Linked.lt_of_given (hjson : json.Lawful codec parsers) (h : Linked json codec parsers uid d)
    {c id : ℕ} {text : String} {dto : IncomingDto} {outcome : Outcome}
    (hline : (c, text) ∈ d.sender.client.lines) (hdto : decodeMessage codec text = .ok dto)
    (hanswer : dto.answer = some (id, outcome)) : id < d.sender.client.nextId := by
  obtain ⟨l, hl, htext⟩ := h.given.lines c text hline
  obtain ⟨dto', hdto', hanswer'⟩ := hjson.decode htext
  obtain rfl := Except.ok.inj (hdto.symm.trans hdto')
  rw [hanswer, eq_comm, Option.bind_eq_some_iff] at hanswer'
  obtain ⟨id', hid', hmap⟩ := hanswer'
  obtain ⟨_, -, heq⟩ := Option.map_eq_some_iff.1 hmap
  obtain rfl := (Prod.mk.inj heq).1
  obtain ⟨x, hx, -, rfl, -⟩ := h.request_of_answer hl hid'
  have hmem : x.dto.id ∈ d.sender.requests.map fun x => x.dto.id := List.mem_map_of_mem hx
  have := h.books.fates.first
  rw [h.books.fates.numbered, List.mem_range'_1] at hmem
  omega

/-- What the app does besides taking a line. -/
theorem Linked.given_app (hjson : json.Lawful codec parsers) (h : Linked json codec parsers uid d)
    {e : SendEvent} {sender : Sender} (hline : ∀ c text, e ≠ .client (.line c text))
    (hstep : Sender.Step json codec d.sender e sender) :
    Given json codec { d with sender := sender } := by
  have hplain {e : Event} (hsend : e ≠ .send) (hline : ∀ c text, e ≠ .line c text)
      (hnext : App.next codec d.sender.client e = some sender.client) :
      Given json codec { d with sender := sender } :=
    h.given.hears hline (Client.hears_of_next hsend hnext)
  have hframe (hclient : sender.client = d.sender.client) :
      Given json codec { d with sender := sender } := by
    refine h.given.hears (e := .connect) (fun _ _ h => by cases h) ?_
    rw [hclient]
    exact .other rfl rfl (fun _ h => h) fun _ h => Or.inl h
  cases hstep with
  | client _ _ hears =>
    refine h.given.hears (fun c text he => ?_) hears
    exact hline c text (congrArg SendEvent.client he)
  | closes => exact hplain (e := .close) (fun h => by cases h) (fun _ _ h => by cases h) rfl
  | closed => exact hplain (e := .closeEnds) (fun h => by cases h) (fun _ _ h => by cases h) rfl
  | throws => exact h.given
  | sends =>
    refine ⟨h.given.readable, h.given.within, h.given.lines, h.given.delivered, h.given.bound,
      fun j c text dto hj hnot hdto id outcome hanswer hid => ?_, h.given.settled⟩
    -- no line can have answered the request that is only made now
    obtain rfl | hid := List.mem_cons.1 hid
    · exact lt_irrefl _ (h.lt_of_given hjson (List.mem_of_getElem? hj) hdto hanswer)
    · exact h.given.heeded j c text dto hj hnot hdto id outcome hanswer hid
  | writes =>
    refine hframe ?_
    rw [Sender.write]
    split <;> rfl
  | @withdraws x _ _ =>
    exact hplain (e := .sendFails x.dto.id) (fun h => by cases h) (fun _ _ h => by cases h) rfl

/-- The app is given a line that the helper wrote. -/
theorem Given.deliver (h : Given json codec d) {c : ℕ} {l : Line} {text : String} {sender : Sender}
    (hl : (d.down c)[d.received c]? = some l) (htext : json.line l = some text)
    (hclient : sender.client = d.sender.client.onLine c text) :
    Given json codec
      { d with sender := sender, received := Function.update d.received c (d.received c + 1) } := by
  obtain ⟨hlt, hget⟩ := List.getElem?_eq_some_iff.1 hl
  have hlines : sender.client.lines = d.sender.client.lines ++ [(c, text)] := by rw [hclient]; rfl
  have hdecoding : sender.client.decoding =
      d.sender.client.lines.length :: d.sender.client.decoding := by rw [hclient]; rfl
  have hpending : sender.client.pending = d.sender.client.pending := by rw [hclient]; rfl
  have hsettled : sender.client.settled = d.sender.client.settled := by rw [hclient]; rfl
  have hold {j : ℕ} {p : ℕ × String} (hj : d.sender.client.lines[j]? = some p) :
      sender.client.lines[j]? = some p := by
    rw [hlines, List.getElem?_append_left (List.getElem?_eq_some_iff.1 hj).1, hj]
  refine ⟨h.readable, fun c' => ?_, fun c' text' hmem => ?_, fun c' l' hl' => ?_, fun j hj => ?_,
    fun j c' text' dto hj hnot hdto id outcome hanswer => ?_, fun p hp => ?_⟩
  · change Function.update d.received c (d.received c + 1) c' ≤ (d.down c').length
    by_cases hc : c' = c
    · subst hc
      rw [Function.update_self]
      exact hlt
    · rw [Function.update_of_ne hc]
      exact h.within c'
  · rw [hlines, List.mem_append, List.mem_singleton] at hmem
    obtain hmem | heq := hmem
    · exact h.lines c' text' hmem
    · obtain ⟨rfl, rfl⟩ := Prod.mk.inj heq
      exact ⟨l, List.mem_of_getElem? hl, htext⟩
  · change l' ∈ (d.down c').take (Function.update d.received c (d.received c + 1) c') at hl'
    have hdelivered (hl' : l' ∈ (d.down c').take (d.received c')) : ∃ (i : ℕ) (text : String),
        sender.client.lines[i]? = some (c', text) ∧ json.line l' = some text := by
      obtain ⟨j, text', hj, htext'⟩ := h.delivered c' l' hl'
      exact ⟨j, text', hold hj, htext'⟩
    by_cases hc : c' = c
    · subst hc
      rw [Function.update_self, List.take_add_one, List.mem_append, hl] at hl'
      obtain hl' | hl' := hl'
      · exact hdelivered hl'
      · obtain rfl := Option.some.inj (Option.mem_toList.1 hl')
        exact ⟨_, text, by rw [hlines, List.getElem?_concat_length], htext⟩
    · rw [Function.update_of_ne hc] at hl'
      exact hdelivered hl'
  · rw [hdecoding] at hj
    rw [hlines, List.length_append, List.length_singleton]
    obtain rfl | hj := List.mem_cons.1 hj
    · exact Nat.lt_succ_self _
    · exact (h.bound j hj).trans (Nat.lt_succ_self _)
  · rw [hdecoding, List.mem_cons, not_or] at hnot
    rw [hpending]
    obtain ⟨hlt', -⟩ := List.getElem?_eq_some_iff.1 hj
    rw [hlines, List.length_append, List.length_singleton] at hlt'
    have hlt' : j < d.sender.client.lines.length := by omega
    rw [hlines, List.getElem?_append_left hlt'] at hj
    exact h.heeded j c' text' dto hj hnot.2 hdto id outcome hanswer
  · rw [hsettled] at hp
    refine (h.settled p hp).imp_right fun ⟨c', text', dto, hmem, hdto, hanswer⟩ => ?_
    exact ⟨c', text', dto, by rw [hlines]; exact List.mem_append_left _ hmem, hdto, hanswer⟩

/-- The helper writes lines that can be read. -/
theorem Given.wrote (h : Given json codec d) {d' : Desktop} (hsender : d'.sender = d.sender)
    (hreceived : d'.received = d.received)
    (hdown : ∀ c, ∃ lines, d'.down c = d.down c ++ lines ∧
      ∀ l ∈ lines, (json.line l).isSome = true) :
    Given json codec d' := by
  refine ⟨fun c l hl => ?_, fun c => ?_, fun c text hmem => ?_, fun c l hl => ?_, ?_, ?_, ?_⟩
  · obtain ⟨lines, hlines, hreadable⟩ := hdown c
    rw [hlines, List.mem_append] at hl
    exact hl.elim (h.readable c l) (hreadable l)
  · obtain ⟨lines, hlines, -⟩ := hdown c
    rw [hlines, hreceived, List.length_append]
    exact (h.within c).trans (Nat.le_add_right _ _)
  · rw [hsender] at hmem
    obtain ⟨l, hl, htext⟩ := h.lines c text hmem
    obtain ⟨lines, hlines, -⟩ := hdown c
    exact ⟨l, by rw [hlines]; exact List.mem_append_left _ hl, htext⟩
  · obtain ⟨lines, hlines, -⟩ := hdown c
    rw [hlines, hreceived, List.take_append_of_le_length (h.within c)] at hl
    rw [hsender]
    exact h.delivered c l hl
  · rw [hsender]
    exact h.bound
  · rw [hsender]
    exact h.heeded
  · rw [hsender]
    exact h.settled

/-! ## The helper's steps -/

/-- What the helper has read is not changed by what the app does. -/
theorem heard_of_written {sender : Sender} {c : ℕ} (h : d.read c ≤ (d.sender.written c).length)
    (hwritten : d.sender.written c <+: sender.written c) :
    ({ d with sender := sender } : Desktop).heard c = d.heard c := by
  obtain ⟨more, hmore⟩ := hwritten
  change (sender.written c).take (d.read c) = _
  rw [← hmore, List.take_append_of_le_length h]
  rfl

/-- The app's writing only adds to what is on a connection. -/
theorem written_of_step {s s' : Sender} {e : SendEvent}
    (h : Sender.Step json codec s e s') (c : ℕ) :
    s.written c <+: s'.written c := by
  cases h with
  | writes =>
    rename_i x line hx hencodes
    rw [Sender.write]
    split
    · exact List.prefix_rfl
    · change s.written c <+: Function.update s.written x.conn (s.written x.conn ++ [x]) c
      by_cases hc : c = x.conn
      · subst hc
        rw [Function.update_self]
        exact List.prefix_append _ _
      · rw [Function.update_of_ne hc]
  | _ => exact List.prefix_rfl

theorem Answered.app (h : Answered parsers uid d) {sender : Sender}
    (hwritten : ∀ c, d.sender.written c <+: sender.written c) (received : ℕ → ℕ) :
    Answered parsers uid { d with sender := sender, received := received } where
  served := h.served
  met := h.met
  unread := h.unread
  within c := (h.within c).trans (hwritten c).length_le
  sound p hp := by
    obtain ⟨hsound, hreply, hheard⟩ := h.sound p hp
    have hsame : ({ d with sender := sender, received := received } : Desktop).heard p.1 =
        d.heard p.1 := heard_of_written (h.within p.1) (hwritten p.1)
    rw [hsame]
    exact ⟨hsound, hreply, hheard⟩
  once := h.once
  down := h.down

theorem Waiting.app (h : Waiting parsers d) {sender : Sender}
    (hwithin : ∀ c, d.read c ≤ (d.sender.written c).length)
    (hwritten : ∀ c, d.sender.written c <+: sender.written c) (received : ℕ → ℕ) :
    Waiting parsers { d with sender := sender, received := received } := by
  have hsame (c : ℕ) : ({ d with sender := sender, received := received } : Desktop).heard c =
      d.heard c := heard_of_written (hwithin c) (hwritten c)
  refine ⟨fun c hc x hx => ?_, fun c call hc hcall => ?_⟩
  · rw [hsame] at hx
    exact h.heard c hc x hx
  · rw [hsame]
    exact h.waits c call hc hcall

/-- What a turn asks of the helper: the line it may answer was read on the connection that is served
and was not answered yet, and so was all else there. -/
structure Asking (parsers : Helper.Parsers) (d : Desktop) (e : Helper.DaemonEvent) : Prop where
  due : ∀ c text, d.serving = some c → d.daemon.asked e = some text →
    ∃ x ∈ d.heard c, parsers.request text = some x.request ∧ ¬ d.Logged c (some x.request)
  heard : ∀ c, d.serving = some c → ∀ x ∈ d.heard c, d.Logged c (some x.request) ∨
    (∃ text, d.daemon.asked e = some text ∧ parsers.request text = some x.request) ∨
      d.daemon.asked e = none ∧
        ∃ call, d.daemon.starting = some call ∧ parsers.request call.line = some x.request
  waits : ∀ c call, d.serving = some c → d.daemon.asked e = none →
    d.daemon.starting = some call →
      ∃ x ∈ d.heard c, parsers.request call.line = some x.request ∧ ¬ d.Logged c (some x.request)

/-- What a turn leaves. -/
structure Turned (json : Json) (parsers : Helper.Parsers) (d : Desktop) (e : Helper.DaemonEvent)
    (d' : Desktop) : Prop where
  next : d.daemon.next parsers e = some d'.daemon
  sender : d'.sender = d.sender
  read : d'.read = d.read
  received : d'.received = d.received
  met : d'.met = d.met
  serving : ∀ c, d'.serving = some c → d.serving = some c ∧ d'.daemon.client.isSome = true
  other : ∀ c, d.serving ≠ some c → d'.down c = d.down c
  down : ∀ c, d.serving = some c → d'.down c = d.down c ++ d.daemon.fresh d'.daemon
  log : d'.log = d.log ++ d.serving.elim [] fun c =>
    ((d.daemon.exchange parsers e d'.daemon).map fun x => (c, x)).toList
  readable : ∀ l ∈ d.daemon.fresh d'.daemon, (json.line l).isSome = true

theorem turned_of_turn {e : Helper.DaemonEvent} (h : d.turn json parsers e = some d') :
    Turned json parsers d e d' := by
  rw [turn, Option.bind_eq_some_iff] at h
  obtain ⟨daemon, hnext, h⟩ := h
  dsimp only at h
  split at h
  · rename_i hreadable
    obtain rfl := Option.some.inj h
    refine ⟨hnext, rfl, rfl, rfl, rfl, fun c hc => ?_, fun c hc => ?_, fun c hc => ?_, rfl,
      List.all_eq_true.1 hreadable⟩
    · obtain ⟨hclient, hserving⟩ := Option.ite_none_right_eq_some.1 hc
      exact ⟨hserving, hclient⟩
    · dsimp only
      cases hserving : d.serving with
      | none => rfl
      | some c' =>
        refine Function.update_of_ne (fun heq => hc ?_) _ _
        rw [hserving, heq]
    · dsimp only
      rw [hc]
      exact Function.update_self _ _ _
  · cases h

namespace Turned

variable {e : Helper.DaemonEvent}

theorem heard (ht : Turned json parsers d e d') (c : ℕ) : d'.heard c = d.heard c := by
  rw [Desktop.heard, Desktop.heard, ht.sender, ht.read]

theorem mem_log (ht : Turned json parsers d e d') {p : ℕ × Helper.Exchange} (hp : p ∈ d.log) :
    p ∈ d'.log := by
  rw [ht.log]
  exact List.mem_append_left _ hp

theorem logged (ht : Turned json parsers d e d') {c : ℕ} {req : Option Request}
    (h : d.Logged c req) : d'.Logged c req := by
  obtain ⟨x, hx, hreq⟩ := h
  exact ⟨x, ht.mem_log hx, hreq⟩

theorem mem_down (ht : Turned json parsers d e d') {c : ℕ} {l : Line} (hl : l ∈ d.down c) :
    l ∈ d'.down c := by
  by_cases hc : d.serving = some c
  · rw [ht.down c hc]
    exact List.mem_append_left _ hl
  · rw [ht.other c hc]
    exact hl

/-- A turn that answers nothing on a connection of the app. -/
theorem answered_of_silent (ht : Turned json parsers d e d') (h : Answered parsers uid d)
    (hlog : d'.log = d.log)
    (hquiet : d.serving = none ∨ ∀ l ∈ d.daemon.fresh d'.daemon, l.answers = none) :
    Answered parsers uid d' where
  served := h.served.next ht.next
  met c hc := ht.met ▸ h.met c (ht.serving c hc).1
  unread c hc := ht.read ▸ h.unread c (ht.met ▸ hc)
  within c := by
    rw [ht.read, ht.sender]
    exact h.within c
  sound p hp := by
    obtain ⟨hsound, hreply, hheard⟩ := h.sound p (hlog ▸ hp)
    rw [ht.heard]
    exact ⟨hsound, ht.mem_down hreply, hheard⟩
  once := hlog ▸ h.once
  down := by
    intro c l hl hanswers
    have hold (hl : l ∈ d.down c) : ∃ x, (c, x) ∈ d'.log ∧ x.reply = l := by
      obtain ⟨x, hx, hreply⟩ := h.down c l hl hanswers
      exact ⟨x, ht.mem_log hx, hreply⟩
    by_cases hc : d.serving = some c
    · rw [ht.down c hc, List.mem_append] at hl
      refine hl.elim hold fun hl => ?_
      obtain hnone | hquiet := hquiet
      · cases hc.symm.trans hnone
      · rw [hquiet l hl] at hanswers
        cases hanswers
    · rw [ht.other c hc] at hl
      exact hold hl

/-- A turn that answers a line on a connection of the app. -/
theorem answered_of_answer (ht : Turned json parsers d e d') (h : Answered parsers uid d)
    (ha : Asking parsers d e) {c : ℕ} (hc : d.serving = some c) {text : String}
    {x : Helper.Exchange} {rest : List Line} (hasked : d.daemon.asked e = some text)
    (hrequest : x.request = parsers.request text)
    (hlines : d.daemon.fresh d'.daemon = x.reply :: rest)
    (hquiet : ∀ line ∈ rest, line.answers = none)
    (hlog : d'.log = d.log ++ [(c, x)]) (hsound : x.Sound parsers uid) :
    Answered parsers uid d' where
  served := h.served.next ht.next
  met c hc := ht.met ▸ h.met c (ht.serving c hc).1
  unread c hc := ht.read ▸ h.unread c (ht.met ▸ hc)
  within c := by
    rw [ht.read, ht.sender]
    exact h.within c
  sound p hp := by
    rw [hlog, List.mem_append, List.mem_singleton] at hp
    rw [ht.heard]
    obtain hp | rfl := hp
    · obtain ⟨hsound, hreply, hheard⟩ := h.sound p hp
      exact ⟨hsound, ht.mem_down hreply, hheard⟩
    · obtain ⟨y, hy, hreq, -⟩ := ha.due c text hc hasked
      refine ⟨hsound, ?_, y, hy, hrequest.trans hreq⟩
      rw [ht.down c hc, hlines]
      exact List.mem_append_right _ List.mem_cons_self
  once := by
    obtain ⟨y, -, hreq, hfresh⟩ := ha.due c text hc hasked
    rw [hlog, List.map_append, List.map_singleton]
    refine h.once.append (List.nodup_singleton _) fun p hp hp' => hfresh ?_
    obtain ⟨⟨c', x'⟩, hmem, rfl⟩ := List.mem_map.1 hp
    obtain ⟨rfl, hsame⟩ := Prod.mk.inj (List.mem_singleton.1 hp')
    exact ⟨x', hmem, hsame.trans (hrequest.trans hreq)⟩
  down := by
    intro c' l hl hanswers
    have hold (hl : l ∈ d.down c') : ∃ x, (c', x) ∈ d'.log ∧ x.reply = l := by
      obtain ⟨x, hx, hreply⟩ := h.down c' l hl hanswers
      exact ⟨x, ht.mem_log hx, hreply⟩
    by_cases hc' : d.serving = some c'
    · obtain rfl := Option.some.inj (hc.symm.trans hc')
      rw [ht.down c hc, hlines, List.mem_append, List.mem_cons] at hl
      obtain hl | rfl | hl := hl
      · exact hold hl
      · exact ⟨x, by rw [hlog]; exact List.mem_append_right _ (List.mem_singleton_self _), rfl⟩
      · rw [hquiet l hl] at hanswers
        cases hanswers
    · rw [ht.other c' hc'] at hl
      exact hold hl

theorem logged_iff (hlog : d'.log = d.log) {c : ℕ} {req : Option Request} :
    d'.Logged c req ↔ d.Logged c req := by
  rw [Logged, Logged, hlog]

/-- **A turn of the helper** answers what it was asked, or has it wait, or leaves the connection. -/
theorem linked (ht : Turned json parsers d e d') (h : Answered parsers uid d)
    (ha : Asking parsers d e) : Answered parsers uid d' ∧ Waiting parsers d' := by
  cases hserving : d.serving with
  | none =>
    have hlog : d'.log = d.log := by rw [ht.log, hserving]; exact List.append_nil _
    have hleft (c : ℕ) : d'.serving ≠ some c := by
      intro hc
      cases hserving.symm.trans (ht.serving c hc).1
    exact ⟨ht.answered_of_silent h hlog (Or.inl hserving),
      fun c hc => absurd hc (hleft c), fun c _ hc => absurd hc (hleft c)⟩
  | some c =>
    have hsilent (hexchange : d.daemon.exchange parsers e d'.daemon = none) : d'.log = d.log := by
      rw [ht.log, hserving, hexchange]
      exact List.append_nil _
    have hnothing (hfresh : d.daemon.fresh d'.daemon = []) :
        d.daemon.exchange parsers e d'.daemon = none := by
      simp [Helper.Daemon.exchange, hfresh]
    cases Helper.Daemon.told_of_next h.served ht.next with
    | silent hasked hsame hquiet =>
      have hlog := hsilent (by rw [Helper.Daemon.exchange, hasked]; rfl)
      refine ⟨ht.answered_of_silent h hlog (Or.inr hquiet), fun c' hc' x hx => ?_,
        fun c' call hc' hcall => ?_⟩
      · rw [ht.heard] at hx
        rw [logged_iff hlog, hsame]
        obtain hlogged | ⟨text, htext, -⟩ | ⟨-, hcall⟩ := ha.heard c' (ht.serving c' hc').1 x hx
        · exact Or.inl hlogged
        · cases hasked.symm.trans htext
        · exact Or.inr hcall
      · rw [ht.heard]
        simp only [logged_iff hlog]
        exact ha.waits c' call (ht.serving c' hc').1 hasked (hsame.symm.trans hcall)
    | waits call hasked hwaiting hfresh =>
      have hlog := hsilent (hnothing hfresh)
      have hquiet : ∀ l ∈ d.daemon.fresh d'.daemon, l.answers = none := by
        rw [hfresh]
        exact fun _ hl => absurd hl List.not_mem_nil
      refine ⟨ht.answered_of_silent h hlog (Or.inr hquiet), fun c' hc' x hx => ?_,
        fun c' call' hc' hcall' => ?_⟩
      · rw [ht.heard] at hx
        rw [logged_iff hlog]
        obtain hlogged | ⟨text, htext, hreads⟩ | ⟨hnone, -⟩ :=
          ha.heard c' (ht.serving c' hc').1 x hx
        · exact Or.inl hlogged
        · obtain rfl := Option.some.inj (hasked.symm.trans htext)
          exact Or.inr ⟨call, hwaiting, hreads⟩
        · cases hasked.symm.trans hnone
      · obtain rfl := Option.some.inj (hwaiting.symm.trans hcall')
        rw [ht.heard]
        simp only [logged_iff hlog]
        exact ha.due c' call.line (ht.serving c' hc').1 hasked
    | lost hgone hfresh =>
      have hlog := hsilent (hnothing hfresh)
      have hquiet : ∀ l ∈ d.daemon.fresh d'.daemon, l.answers = none := by
        rw [hfresh]
        exact fun _ hl => absurd hl List.not_mem_nil
      have hleft (c : ℕ) : d'.serving ≠ some c := by
        intro hc
        have hclient := (ht.serving c hc).2
        rw [hgone] at hclient
        cases hclient
      exact ⟨ht.answered_of_silent h hlog (Or.inr hquiet), fun c hc => absurd hc (hleft c),
        fun c _ hc => absurd hc (hleft c)⟩
    | answered text x rest hasked hrequest hlines hquiet hsettled hexchange hsound =>
      have hlog : d'.log = d.log ++ [(c, x)] := by rw [ht.log, hserving, hexchange]; rfl
      refine ⟨ht.answered_of_answer h ha hserving hasked hrequest hlines hquiet hlog hsound,
        fun c' hc' y hy => ?_, fun c' call _ hcall => by cases hsettled.symm.trans hcall⟩
      have hc := (ht.serving c' hc').1
      obtain rfl := Option.some.inj (hserving.symm.trans hc)
      rw [ht.heard] at hy
      obtain hlogged | ⟨text', htext, hreads⟩ | ⟨hnone, -⟩ := ha.heard c hc y hy
      · exact Or.inl (ht.logged hlogged)
      · obtain rfl := Option.some.inj (hasked.symm.trans htext)
        refine Or.inl ⟨x, ?_, hrequest.trans hreads⟩
        rw [hlog]
        exact List.mem_append_right _ (List.mem_singleton_self _)
      · cases hasked.symm.trans hnone

end Turned

/-- The turn of a client whose call of `Tunnel::start` is through answers what it waits for. -/
theorem asked_of_starting {parsers : Helper.Parsers} {daemon daemon' : Helper.Daemon}
    {e : Helper.DaemonEvent} {call : Helper.StartCall}
    (h : daemon.next parsers e = some daemon') (hcall : daemon.starting = some call) :
    daemon.asked e = none ∨ daemon.asked e = some call.line := by
  obtain ⟨-, hturn⟩ := Helper.Daemon.next_eq_some.1 h
  cases hturn with
  | line hhead =>
    rw [Helper.Daemon.starting, hhead] at hcall
    cases hcall
  | started =>
    rw [Helper.Daemon.asked, hcall]
    exact Or.inr rfl
  | _ => exact Or.inl rfl

/-- Where no line is read, the turn is asked what already waits. -/
theorem Waiting.asking (h : Waiting parsers d) {e : Helper.DaemonEvent} {daemon : Helper.Daemon}
    (hnext : d.daemon.next parsers e = some daemon)
    (hline : d.serving ≠ none → ∀ text files written, e ≠ .line text files written) :
    Asking parsers d e where
  due := by
    intro c text hc hasked
    cases e with
    | line text' files written => exact absurd rfl (hline (by rw [hc]; simp) text' files written)
    | started =>
      obtain ⟨call, hcall, rfl⟩ := Option.map_eq_some_iff.1 hasked
      exact h.waits c call hc hcall
    | _ => cases hasked
  heard := by
    intro c hc x hx
    refine (h.heard c hc x hx).imp_right fun ⟨call, hcall, hreads⟩ => ?_
    obtain hnone | hsome := asked_of_starting hnext hcall
    · exact Or.inr ⟨hnone, call, hcall, hreads⟩
    · exact Or.inl ⟨call.line, hsome, hreads⟩
  waits c call hc _ hcall := h.waits c call hc hcall

/-- The helper reads the next line of the connection it serves. -/
def readNext (d : Desktop) (c : ℕ) : Desktop :=
  { d with read := Function.update d.read c (d.read c + 1) }

theorem heard_readNext {c : ℕ} {x : Sending} (hx : (d.sender.written c)[d.read c]? = some x) :
    (d.readNext c).heard c = d.heard c ++ [x] := by
  change (d.sender.written c).take (Function.update d.read c (d.read c + 1) c) = _
  rw [Function.update_self, List.take_add_one, hx]
  rfl

theorem heard_readNext_of_ne {c c' : ℕ} (h : c' ≠ c) : (d.readNext c).heard c' = d.heard c' := by
  change (d.sender.written c').take (Function.update d.read c (d.read c + 1) c') = _
  rw [Function.update_of_ne h]
  rfl

theorem heard_subset_readNext {c c' : ℕ} {x y : Sending}
    (hx : (d.sender.written c)[d.read c]? = some x) (hy : y ∈ d.heard c') :
    y ∈ (d.readNext c).heard c' := by
  by_cases h : c' = c
  · subst h
    rw [heard_readNext hx]
    exact List.mem_append_left _ hy
  · rw [heard_readNext_of_ne h]
    exact hy

/-- What comes next was not heard before. -/
theorem notMem_heard (h : Sender.Books d.sender) {c : ℕ} {x : Sending}
    (hx : (d.sender.written c)[d.read c]? = some x) : x ∉ d.heard c := by
  intro hmem
  obtain ⟨j, hj, hget⟩ := List.mem_take_iff_getElem.1 hmem
  obtain ⟨hlt, hget'⟩ := List.getElem?_eq_some_iff.1 hx
  have hne : j = d.read c := ((h.heard.once c).getElem_inj_iff).1 (hget.trans hget'.symm)
  omega

theorem Linked.answered_readNext (h : Linked json codec parsers uid d) {c : ℕ} {x : Sending}
    (hc : d.serving = some c) (hx : (d.sender.written c)[d.read c]? = some x) :
    Answered parsers uid (d.readNext c) where
  served := h.answered.served
  met := h.answered.met
  unread c' hc' := by
    have hne : c' ≠ c := by
      rintro rfl
      exact hc' (h.answered.met _ hc)
    change Function.update d.read c (d.read c + 1) c' = 0
    rw [Function.update_of_ne hne]
    exact h.answered.unread c' hc'
  within c' := by
    change Function.update d.read c (d.read c + 1) c' ≤ (d.sender.written c').length
    by_cases hcc : c' = c
    · subst hcc
      rw [Function.update_self]
      exact (List.getElem?_eq_some_iff.1 hx).1
    · rw [Function.update_of_ne hcc]
      exact h.answered.within c'
  sound p hp := by
    obtain ⟨hsound, hreply, y, hy, hreq⟩ := h.answered.sound p hp
    exact ⟨hsound, hreply, y, heard_subset_readNext hx hy, hreq⟩
  once := h.answered.once
  down := h.answered.down

/-- The line that is read asks for an answer, and all that was read before has its. -/
theorem Linked.asking_readNext (hjson : json.Lawful codec parsers)
    (h : Linked json codec parsers uid d) {c : ℕ} {x : Sending} {text : String}
    {files : ℕ → Config.FileSystem} {written : ℕ} {daemon : Helper.Daemon}
    (hc : d.serving = some c) (hx : (d.sender.written c)[d.read c]? = some x)
    (htext : encodeRequest json x.dto = .ok text)
    (hnext : d.daemon.next parsers (.line text files written) = some daemon) :
    Asking parsers (d.readNext c) (.line text files written) := by
  have hreads := hjson.reads htext
  refine ⟨fun c' text' hc' hasked => ?_, fun c' hc' y hy => ?_, fun _ _ _ hasked => nomatch hasked⟩
  · obtain rfl := Option.some.inj (hc.symm.trans hc')
    obtain rfl := Option.some.inj hasked
    refine ⟨x, by rw [heard_readNext hx]; exact List.mem_append_right _ (List.mem_singleton_self x),
      hreads, fun ⟨y, hy, hreq⟩ => ?_⟩
    obtain ⟨-, -, z, hz, hreq'⟩ := h.answered.sound _ hy
    have hxmem : x ∈ d.sender.requests :=
      (h.books.heard.written c x (List.mem_of_getElem? hx)).1
    have hsame : z = x := request_inj h.books (mem_requests_of_heard h.books hz).1 hxmem
      (Option.some.inj (hreq'.symm.trans hreq))
    exact notMem_heard h.books hx (hsame ▸ hz)
  · obtain rfl := Option.some.inj (hc.symm.trans hc')
    rw [heard_readNext hx, List.mem_append, List.mem_singleton] at hy
    obtain hy | rfl := hy
    · refine (h.waiting.heard c hc y hy).imp_right fun ⟨call, hcall, hwaits⟩ => ?_
      obtain hnone | hsome := asked_of_starting hnext hcall
      · cases hnone
      · exact Or.inl ⟨call.line, hsome, hwaits⟩
    · exact Or.inr (Or.inl ⟨text, rfl, hreads⟩)

/-- A turn keeps what is known of the app, whose lines it leaves alone. -/
theorem Turned.given {e : Helper.DaemonEvent} (ht : Turned json parsers d e d')
    (h : Given json codec d) : Given json codec d' := by
  refine h.wrote ht.sender ht.received fun c => ?_
  by_cases hc : d.serving = some c
  · exact ⟨_, ht.down c hc, ht.readable⟩
  · exact ⟨[], by rw [ht.other c hc, List.append_nil], fun _ hl => absurd hl List.not_mem_nil⟩

/-- The helper takes a connection. -/
theorem Linked.accept (h : Linked json codec parsers uid d) {c : Option ℕ} {peer : Except Text ℕ}
    {daemon : Helper.Daemon} (hnew : ∀ n ∈ c, n < d.sender.client.connections ∧ n ∉ d.met)
    (hnext : d.daemon.next parsers (.accept peer) = some daemon) :
    Linked json codec parsers uid { d with
      daemon := daemon, serving := if daemon.client.isSome then c else none
      met := c.toList ++ d.met } where
  books := h.books
  given := h.given.wrote rfl rfl fun c =>
    ⟨[], (List.append_nil _).symm, fun _ hl => absurd hl List.not_mem_nil⟩
  answered := by
    refine ⟨h.answered.served.next hnext, fun n hn => ?_, fun n hn => ?_, h.answered.within,
      h.answered.sound, h.answered.once, h.answered.down⟩
    · obtain ⟨-, rfl⟩ := Option.ite_none_right_eq_some.1 hn
      exact List.mem_append_left _ (Option.mem_toList.2 rfl)
    · exact h.answered.unread n fun hmem => hn (List.mem_append_right _ hmem)
  waiting := by
    have hstarting : daemon.starting = none := by
      obtain ⟨-, hturn⟩ := Helper.Daemon.next_eq_some.1 hnext
      cases hturn with
      | serve => rfl
      | refuse hidle => rw [Helper.Daemon.starting, hidle]; rfl
    refine ⟨fun n hn x hx => ?_, fun n call _ hcall => by cases hstarting.symm.trans hcall⟩
    obtain ⟨-, rfl⟩ := Option.ite_none_right_eq_some.1 hn
    have hunread : d.read n = 0 := h.answered.unread n (hnew n rfl).2
    change x ∈ (d.sender.written n).take (d.read n) at hx
    rw [hunread, List.take_zero] at hx
    exact absurd hx List.not_mem_nil

/-- Another helper is started. -/
theorem Linked.restart (h : Linked json codec parsers uid d) :
    Linked json codec parsers uid { d with
      daemon := .start uid, serving := none, met := List.range d.sender.client.connections } where
  books := h.books
  given := h.given.wrote rfl rfl fun c =>
    ⟨[], (List.append_nil _).symm, fun _ hl => absurd hl List.not_mem_nil⟩
  answered := by
    refine ⟨.start parsers uid, fun _ hc => (nomatch hc), fun c hc => ?_, h.answered.within,
      h.answered.sound, h.answered.once, h.answered.down⟩
    have hnone : d.sender.written c = [] := by
      refine List.eq_nil_iff_forall_not_mem.2 fun x hx => hc ?_
      obtain ⟨hmem, rfl, -⟩ := h.books.heard.written c x hx
      exact List.mem_range.2 (h.books.heard.conns x hmem)
    have hwithin := h.answered.within c
    rw [hnone] at hwithin
    exact Nat.le_zero.1 hwithin
  waiting := ⟨fun _ hc => (nomatch hc), fun _ _ hc => (nomatch hc)⟩

theorem next_app {e : SendEvent} (hline : ∀ c text, e ≠ .client (.line c text)) :
    next json codec parsers uid d (.app e) =
      (d.sender.next json codec e).map fun sender => { d with sender := sender } := by
  cases e with
  | client e =>
    cases e with
    | line c text => exact absurd rfl (hline c text)
    | _ => rfl
  | send => rfl
  | encoded => rfl

/-- **One step** keeps the streams, the books and the answers together. -/
theorem Linked.next (hjson : json.Lawful codec parsers) (h : Linked json codec parsers uid d)
    {e : DesktopEvent} (hnext : next json codec parsers uid d e = some d') :
    Linked json codec parsers uid d' := by
  have happ {e : SendEvent} (hline : ∀ c text, e ≠ .client (.line c text))
      (hnext : (d.sender.next json codec e).map (fun sender => { d with sender := sender }) =
        some d') : Linked json codec parsers uid d' := by
    obtain ⟨sender, hsender, rfl⟩ := Option.map_eq_some_iff.1 hnext
    have hstep := Sender.step_of_next hsender
    exact ⟨h.books.next hsender, h.given_app hjson hline hstep,
      h.answered.app (written_of_step hstep) d.received,
      h.waiting.app h.answered.within (written_of_step hstep) d.received⟩
  have hturn {e : Helper.DaemonEvent}
      (hline : d.serving ≠ none → ∀ text files written, e ≠ .line text files written)
      (hnext : d.turn json parsers e = some d') : Linked json codec parsers uid d' := by
    have ht := turned_of_turn hnext
    obtain ⟨hanswered, hwaiting⟩ := ht.linked h.answered (h.waiting.asking ht.next hline)
    exact ⟨ht.sender ▸ h.books, ht.given h.given, hanswered, hwaiting⟩
  cases e with
  | app e =>
    by_cases hline : ∃ c text, e = .client (.line c text)
    · obtain ⟨c, text, rfl⟩ := hline
      cases hnext
    · rw [not_exists] at hline
      simp only [not_exists] at hline
      exact happ hline ((next_app hline).symm.trans hnext)
  | deliver c =>
    obtain ⟨l, hl, hnext⟩ := Option.bind_eq_some_iff.1 hnext
    obtain ⟨text, htext, hnext⟩ := Option.bind_eq_some_iff.1 hnext
    obtain ⟨sender, hsender, rfl⟩ := Option.map_eq_some_iff.1 hnext
    have hstep := Sender.step_of_next hsender
    have hclient : sender.client = d.sender.client.onLine c text := by
      cases hstep with
      | client hline =>
        simp only [App.next] at hline
        split at hline
        · exact (Option.some.inj hline).symm
        · cases hline
    exact ⟨h.books.next hsender, h.given.deliver hl htext hclient,
      h.answered.app (written_of_step hstep) _,
      h.waiting.app h.answered.within (written_of_step hstep) _⟩
  | accept c peer =>
    simp only [Desktop.next] at hnext
    split at hnext
    · obtain ⟨daemon, hdaemon, rfl⟩ := Option.map_eq_some_iff.1 hnext
      exact h.accept ‹_› hdaemon
    · cases hnext
  | read files written =>
    obtain ⟨c, hc, hnext⟩ := Option.bind_eq_some_iff.1 hnext
    obtain ⟨x, hx, hnext⟩ := Option.bind_eq_some_iff.1 hnext
    split at hnext
    · rename_i text htext
      have ht : Turned json parsers (d.readNext c) (.line text files written) d' :=
        turned_of_turn hnext
      obtain ⟨hanswered, hwaiting⟩ :=
        ht.linked (h.answered_readNext hc hx) (h.asking_readNext hjson hc hx htext ht.next)
      refine ⟨ht.sender ▸ h.books, ht.given (h.given.wrote rfl rfl fun c => ?_),
        hanswered, hwaiting⟩
      exact ⟨[], (List.append_nil _).symm, fun _ hl => absurd hl List.not_mem_nil⟩
    · cases hnext
  | helper e =>
    cases e with
    | accept => cases hnext
    | line text files written =>
      simp only [Desktop.next] at hnext
      split at hnext
      · cases hnext
      · rename_i hserving
        rw [Option.not_isSome_iff_eq_none] at hserving
        exact hturn (fun hne => absurd hserving hne) hnext
    | _ =>
      refine hturn (fun _ _ _ _ heq => ?_) hnext
      cases heq
  | restart =>
    obtain rfl := Option.some.inj hnext
    exact h.restart

theorem Linked.start (json : Json) (codec : Codec) (parsers : Helper.Parsers) (uid : ℕ) :
    Linked json codec parsers uid (start uid) where
  books := ⟨Sender.Fates.init, Sender.Heard.init⟩
  given := by
    constructor <;> intros <;> first | contradiction | exact Nat.zero_le _
  answered := by
    refine ⟨.start parsers uid, ?_, ?_, ?_, ?_, List.nodup_nil, ?_⟩ <;>
      intros <;> first | contradiction | rfl
  waiting := ⟨fun _ hc => (nomatch hc), fun _ _ hc => (nomatch hc)⟩

theorem Linked.run (hjson : json.Lawful codec parsers) {es : List DesktopEvent}
    (h : Runs.run (Desktop.next json codec parsers uid) (Desktop.start uid) es = some d) :
    Linked json codec parsers uid d :=
  run_invariant_of_step (fun _ _ _ h hnext => Linked.next hjson h hnext)
    (.start json codec parsers uid) h

/-- **A request ends as the helper answered it**: whatever the app, the helper and other programs
do, with whatever connections lost and helpers killed, a request that ends without being unavailable
ends as the helper answered that very request on the connection it was written to; the helper
answers each request once at most, and does what it says: what it accepts it has carried out for
what was asked, and what it refuses changes no tunnel. -/
theorem settled_of_run (hjson : json.Lawful codec parsers) {es : List DesktopEvent}
    (h : Runs.run (next json codec parsers uid) (start uid) es = some d) :
    (∀ id outcome, (id, outcome) ∈ d.sender.client.settled →
      (∃ detail, outcome = .unavailable detail) ∨
        ∃ x ∈ d.sender.requests, x.dto.id = id ∧ ∃ y, (x.conn, y) ∈ d.log ∧
          y.request = some x.request ∧ json.outcome y.reply = some outcome) ∧
    (d.log.map fun p => (p.1, p.2.request)).Nodup ∧ ∀ p ∈ d.log, p.2.Sound parsers uid := by
  have hlinked := Linked.run hjson h
  refine ⟨fun id outcome hsettled => ?_, hlinked.answered.once,
    fun p hp => (hlinked.answered.sound p hp).1⟩
  refine (hlinked.given.settled _ hsettled).imp_right fun ⟨c, text, dto, hline, hdto, hanswer⟩ => ?_
  obtain ⟨l, hl, htext⟩ := hlinked.given.lines c text hline
  obtain ⟨dto', hdto', hanswer'⟩ := hjson.decode htext
  obtain rfl := Except.ok.inj (hdto.symm.trans hdto')
  rw [hanswer, eq_comm, Option.bind_eq_some_iff] at hanswer'
  obtain ⟨id', hid, hmap⟩ := hanswer'
  obtain ⟨outcome', houtcome, heq⟩ := Option.map_eq_some_iff.1 hmap
  obtain ⟨rfl, rfl⟩ := Prod.mk.inj heq
  obtain ⟨x, hx, rfl, hxid, y, hy, hreq, rfl⟩ := hlinked.request_of_answer hl hid
  exact ⟨x, hx, hxid, y, hy, hreq, houtcome⟩

/-- The lines of one client, who greets, connects and asks for the state. -/
def visitJson : Json where
  request req :=
    if req = .hello 1 2 then some Helper.Reference.helloLine
    else if req = .connect 2 Helper.Reference.connectParams then some Helper.Reference.connectLine
    else if req = .getStatus 3 then some Helper.Reference.statusLine
    else none
  line l :=
    if l = .ack 1 then some "\x7b\"type\":\"ack\",\"id\":1\x7d"
    else if l = .ack 2 then some "\x7b\"type\":\"ack\",\"id\":2\x7d"
    else if l = .state "Connected" then some "\x7b\"type\":\"state\",\"state\":\"Connected\"\x7d"
    else none
  display _ := ""

def visitCodec : Codec where
  response text :=
    if text = "\x7b\"type\":\"ack\",\"id\":1\x7d" then some (.ack 1)
    else if text = "\x7b\"type\":\"ack\",\"id\":2\x7d" then some (.ack 2)
    else none
  push text :=
    if text = "\x7b\"type\":\"state\",\"state\":\"Connected\"\x7d" then some (.state "Connected")
    else none

theorem lawful_visitJson : visitJson.Lawful visitCodec Helper.Reference.parsers := by
  have hline (l : Line) (text : String) (h : visitJson.line l = some text) :
      (l = .ack 1 ∧ text = "\x7b\"type\":\"ack\",\"id\":1\x7d") ∨
      (l = .ack 2 ∧ text = "\x7b\"type\":\"ack\",\"id\":2\x7d") ∨
      (l = .state "Connected" ∧ text = "\x7b\"type\":\"state\",\"state\":\"Connected\"\x7d") := by
    simp only [visitJson] at h
    split_ifs at h with h₁ h₂ h₃
    · exact Or.inl ⟨h₁, (Option.some.inj h).symm⟩
    · exact Or.inr (Or.inl ⟨h₂, (Option.some.inj h).symm⟩)
    · exact Or.inr (Or.inr ⟨h₃, (Option.some.inj h).symm⟩)
  refine ⟨fun req text h => ?_, fun id text h => ?_, fun id kind message text h => ?_,
    fun st text h => ?_, fun snapshot text h => ?_⟩
  · simp only [visitJson] at h
    split_ifs at h with h₁ h₂ h₃
    · obtain rfl := Option.some.inj h
      subst h₁
      rfl
    · obtain rfl := Option.some.inj h
      subst h₂
      rfl
    · obtain rfl := Option.some.inj h
      subst h₃
      rfl
  · obtain ⟨heq, rfl⟩ | ⟨heq, rfl⟩ | ⟨heq, rfl⟩ := hline _ _ h
    · obtain rfl := Line.ack.inj heq
      decide
    · obtain rfl := Line.ack.inj heq
      decide
    · cases heq
  · obtain ⟨heq, rfl⟩ | ⟨heq, rfl⟩ | ⟨heq, rfl⟩ := hline _ _ h <;> cases heq
  · obtain ⟨heq, rfl⟩ | ⟨heq, rfl⟩ | ⟨heq, rfl⟩ := hline _ _ h
    · cases heq
    · cases heq
    · obtain rfl := Line.state.inj heq
      decide
  · obtain ⟨heq, rfl⟩ | ⟨heq, rfl⟩ | ⟨heq, rfl⟩ := hline _ _ h <;> cases heq

/-- The greeting and the connect are answered; the question is on its way. -/
def visit : List DesktopEvent :=
  [.app (.client .connect), .app (.client (.opens true)), .app (.send .hello),
    .app (.encoded ⟨0, .hello 1⟩ true), .accept (some 0) (.ok 501),
    .read (fun _ => Helper.Reference.files 501) 1, .deliver 0, .app (.client (.decoded 0)),
    .app (.send (.sendConnect Helper.Reference.connectParams)),
    .app (.encoded ⟨0, .connect 2 Helper.Reference.connectParams⟩ true),
    .read (fun _ => Helper.Reference.files 501) 0, .helper (.started (.ok false) 2), .deliver 0,
    .deliver 0, .app (.client (.decoded 2)), .app (.client (.decoded 1)), .app (.send .getStatus),
    .app (.encoded ⟨0, .getStatus 3⟩ true)]

theorem run_visit : (Runs.run (next visitJson visitCodec Helper.Reference.parsers 501) (start 501)
    visit).map (fun d => (d.sender.client.settled, d.sender.client.pending)) =
      some ([(1, .acked), (2, .acked)], [3]) := by
  decide +kernel

theorem settled_of_run_visit :
    ∃ d, Runs.run (next visitJson visitCodec Helper.Reference.parsers 501) (start 501) visit =
        some d ∧ d.sender.client.settled = [(1, .acked), (2, .acked)] ∧
      (∀ id outcome, (id, outcome) ∈ d.sender.client.settled →
        (∃ detail, outcome = .unavailable detail) ∨
          ∃ x ∈ d.sender.requests, x.dto.id = id ∧ ∃ y, (x.conn, y) ∈ d.log ∧
            y.request = some x.request ∧ visitJson.outcome y.reply = some outcome) ∧
      (d.log.map fun p => (p.1, p.2.request)).Nodup ∧
        ∀ p ∈ d.log, p.2.Sound Helper.Reference.parsers 501 := by
  obtain ⟨d, hd, hbooks⟩ := Option.map_eq_some_iff.1 run_visit
  exact ⟨d, hd, (Prod.mk.inj hbooks).1, settled_of_run lawful_visitJson hd⟩

/-- Where a request may be that waits. -/
inductive UnderWay (json : Json) (parsers : Helper.Parsers) (d : Desktop) (x : Sending) : Prop
  /-- It is being encoded. -/
  | encoding (mem : x ∈ d.sender.encoding)
  /-- It is on its connection, and the helper has yet to read it. -/
  | unread (mem : x ∈ (d.sender.written x.conn).drop (d.read x.conn))
  /-- The helper is starting the tunnel it asks for. -/
  | starting (call : Helper.StartCall) (serving : d.serving = some x.conn)
      (waiting : d.daemon.starting = some call)
      (reads : parsers.request call.line = some x.request)
  /-- Its answer is on its connection, and the app has yet to be given it. -/
  | answered (y : Helper.Exchange) (mem : (x.conn, y) ∈ d.log)
      (request : y.request = some x.request)
      (undelivered : y.reply ∈ (d.down x.conn).drop (d.received x.conn))
  /-- The app was given its answer and is decoding it. -/
  | decoding (y : Helper.Exchange) (i : ℕ) (text : String) (mem : (x.conn, y) ∈ d.log)
      (request : y.request = some x.request)
      (line : d.sender.client.lines[i]? = some (x.conn, text))
      (reply : json.line y.reply = some text)
      (decodes : i ∈ d.sender.client.decoding)
  /-- The helper has left the connection, of which the app will meet the end. -/
  | left (met : x.conn ∈ d.met) (elsewhere : d.serving ≠ some x.conn)

/-- **No request is lost**: whatever happens, a request that waits is being encoded, is read or will
be, waits for a tunnel to start, or its answer is on the way; or the helper has left its connection,
which the app still listens to, unless a `close` is about to fail all that waits. -/
theorem underWay_of_run (hjson : json.Lawful codec parsers) {es : List DesktopEvent}
    (h : Runs.run (next json codec parsers uid) (start uid) es = some d) :
    ∀ x ∈ d.sender.requests, x.dto.id ∈ d.sender.client.pending → UnderWay json parsers d x ∧
      x.conn ∉ d.sender.client.destroyed ∧
        (x.conn ∈ d.sender.client.readers ∨ 0 < d.sender.closing) := by
  intro x hx hid
  have hlinked := Linked.run hjson h
  refine ⟨?_, hlinked.books.heard.listened x hx hid⟩
  obtain hencoding | hwritten := hlinked.books.heard.sent x hx hid
  · exact .encoding hencoding
  · rw [← List.take_append_drop (d.read x.conn) (d.sender.written x.conn), List.mem_append]
      at hwritten
    obtain hheard | hunread := hwritten
    · by_cases hserving : d.serving = some x.conn
      · obtain ⟨y, hy, hreq⟩ | ⟨call, hcall, hreads⟩ :=
          hlinked.waiting.heard x.conn hserving x hheard
        · obtain ⟨hsound, hreply, -⟩ := hlinked.answered.sound _ hy
          rw [← List.take_append_drop (d.received x.conn) (d.down x.conn), List.mem_append]
            at hreply
          obtain hgiven | hcoming := hreply
          · obtain ⟨i, text, hline, htext⟩ := hlinked.given.delivered x.conn _ hgiven
            by_cases hdecoding : i ∈ d.sender.client.decoding
            · exact .decoding y i text hy hreq hline htext hdecoding
            · -- its answer was decoded, so it does not wait
              obtain ⟨dto, hdto, hanswer⟩ := hjson.decode htext
              have hanswers := hsound.answers
              rw [hreq] at hanswers
              change y.reply.answers = some (Helper.requestId x.request) at hanswers
              rw [x.requestId_request] at hanswers
              rw [hanswers] at hanswer
              obtain ⟨outcome, houtcome⟩ : ∃ outcome, json.outcome y.reply = some outcome := by
                cases hreply : y.reply with
                | ack => exact ⟨_, rfl⟩
                | error => exact ⟨_, rfl⟩
                | state => rw [hreply] at hanswers; cases hanswers
                | stats => rw [hreply] at hanswers; cases hanswers
              rw [houtcome] at hanswer
              exact absurd hid
                (hlinked.given.heeded i x.conn text dto hline hdecoding hdto _ _ hanswer)
          · exact .answered y hy hreq hcoming
        · exact .starting call hserving hcall hreads
      · refine .left ?_ hserving
        by_contra hmet
        rw [hlinked.answered.unread x.conn hmet, List.take_zero] at hheard
        exact absurd hheard List.not_mem_nil
    · exact .unread hunread

theorem underWay_of_run_visit :
    ∃ d, Runs.run (next visitJson visitCodec Helper.Reference.parsers 501) (start 501) visit =
        some d ∧ d.sender.client.pending = [3] ∧
      ∀ x ∈ d.sender.requests, x.dto.id ∈ d.sender.client.pending →
        UnderWay visitJson Helper.Reference.parsers d x ∧ x.conn ∉ d.sender.client.destroyed ∧
          (x.conn ∈ d.sender.client.readers ∨ 0 < d.sender.closing) := by
  obtain ⟨d, hd, hbooks⟩ := Option.map_eq_some_iff.1 run_visit
  exact ⟨d, hd, (Prod.mk.inj hbooks).2, underWay_of_run lawful_visitJson hd⟩

end Desktop

end LiosTunnel.App
