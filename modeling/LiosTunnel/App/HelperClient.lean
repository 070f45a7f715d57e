import LiosTunnel.Lib.Runs
import LiosTunnel.Dto.Protocol

/-!
# The app's connection to the helper

`helper_client.dart`: the app reads lines from the helper's socket, has each decoded by
`decode_message` of `api/protocol.rs`, and puts what they say on its event stream. A decode is a
call into another thread that the reader does not wait for, so decodes end in any order, and the
connection may drop before some of them do. A retry opens a connection without closing the one
before it, so the readers of several may be there at once.

* `decodeMessage`: the codec.
* `Client`, `Event`, `next`: the client and what can happen to it.
* `Ordered`: what the stream should be.
* `InTurn`: the ends of decodes that keep it so.
* `ordered_iff_inTurn`: exactly these do.
-/

namespace LiosTunnel.App

open Dto

/-! ## The codec -/

/-- `protocol::Response`. -/
inductive Response
  | ack (id : ℕ)
  | error (id : ℕ) (kind : ErrorKind) (message : String)
  deriving DecidableEq, Repr

/-- `protocol::Event`. -/
inductive Push
  | state (state : String)
  | stats (snapshot : StatsSnapshot)
  deriving DecidableEq, Repr

/-- `serde_json::from_str` at the two types, by what it reads. -/
structure Codec where
  response : String → Option Response
  push : String → Option Push

/-- `IncomingDto`; its error kinds are those of the protocol. -/
inductive IncomingDto
  | ack (id : ℕ)
  | error (id : ℕ) (kind : ErrorKind) (message : String)
  | state (state : String)
  | stats (bytesUp bytesDown activeFlows flowsFailed dnsQueries : ℕ)
  deriving DecidableEq, Repr

/-- `decode_message`. -/
def decodeMessage (codec : Codec) (line : String) : Except String IncomingDto :=
  match codec.response line with
  | some (.ack id) => .ok (.ack id)
  | some (.error id kind message) => .ok (.error id kind message)
  | none =>
    match codec.push line with
    | some (.state state) => .ok (.state state)
    | some (.stats snapshot) =>
      .ok (.stats snapshot.bytesUp snapshot.bytesDown snapshot.activeFlows snapshot.flowsFailed
        snapshot.dnsQueries)
    | none => .error "not a message this build understands"

/-! ## The client -/

/-- `HelperEvent`. -/
inductive HelperEvent
  | state (state : String)
  | stats (bytesUp bytesDown activeFlows flowsFailed dnsQueries : ℕ)
  deriving DecidableEq, Repr

/-- What a message puts on the stream. -/
def IncomingDto.event : IncomingDto → Option HelperEvent
  | .ack _ => none
  | .error _ _ _ => none
  | .state st => some (.state st)
  | .stats up down active failed queries => some (.stats up down active failed queries)

/-- An event on the stream and where it is from: the `i`-th line, which came on connection `c`, or
the drop of a connection. -/
inductive Sent
  | decoded (i c : ℕ) (e : HelperEvent)
  | dropped (c : ℕ)
  deriving DecidableEq, Repr

/-- What a listener sees. -/
def Sent.event : Sent → HelperEvent
  | .decoded _ _ e => e
  | .dropped _ => .state "Disconnected"

/-- How a request ends. -/
inductive Outcome
  | acked
  | refused (kind : ErrorKind) (message : String)
  /-- `HelperUnavailable`. -/
  | unavailable (detail : String)
  deriving DecidableEq, Repr

/-- `HelperClient`. Connections and lines are numbered as they come. -/
structure Client where
  socket : Option ℕ
  /-- `_reader`. -/
  reader : Option ℕ
  /-- The connections that are still listened to. -/
  readers : List ℕ
  /-- The connections whose socket was destroyed, which deliver nothing more. -/
  destroyed : List ℕ
  /-- The calls of `_open` that wait for the socket. -/
  opening : ℕ
  connections : ℕ
  retryTimer : Bool
  /-- The callbacks of the retry timer that have not come to an end. -/
  retries : ℕ
  closed : Bool
  /-- What was received, each line with its connection. -/
  lines : List (ℕ × String)
  /-- The lines whose decode has not ended. -/
  decoding : List ℕ
  /-- The stream. -/
  events : List Sent
  eventsClosed : Bool
  pending : List ℕ
  nextId : ℕ
  settled : List (ℕ × Outcome)
  deriving DecidableEq, Repr

/-- A new client. -/
def Client.init : Client :=
  ⟨none, none, [], [], 0, 0, false, 0, false, [], [], [], false, [], 1, []⟩

variable (s : Client)

/-- `_events.add`, which throws on a closed stream. -/
def Client.add (x : Sent) : Client :=
  if s.eventsClosed then s else { s with events := s.events ++ [x] }

/-- `_pending.remove(id)?.complete`. -/
def Client.settle (id : ℕ) (outcome : Outcome) : Client :=
  if id ∈ s.pending then
    { s with pending := s.pending.filter (· ≠ id), settled := s.settled ++ [(id, outcome)] }
  else s

/-- What fails every request in flight. -/
def Client.failPending (detail : String) : Client :=
  { s with
    pending := []
    settled := s.settled ++ s.pending.map fun id => (id, .unavailable detail) }

/-- `_socket?.destroy(); _socket = null`. -/
def Client.destroySocket : Client :=
  { s with socket := none, destroyed := s.socket.toList ++ s.destroyed }

/-- `_scheduleRetry`. -/
def Client.scheduleRetry : Client := { s with retryTimer := true }

/-- The end of `_open` with a socket. -/
def Client.opened : Client :=
  let c := s.connections
  { s with socket := some c, reader := some c, readers := c :: s.readers, connections := c + 1 }

/-- `_onLine` up to its `await`. -/
def Client.onLine (c : ℕ) (line : String) : Client :=
  { s with lines := s.lines ++ [(c, line)], decoding := s.lines.length :: s.decoding }

/-- `_onLine` after its `await`. -/
def Client.handle (i c : ℕ) : Except String IncomingDto → Client
  | .error _ => s
  | .ok (.ack id) => s.settle id .acked
  | .ok (.error id kind message) => s.settle id (.refused kind message)
  | .ok (.state state) => s.add (.decoded i c (.state state))
  | .ok (.stats up down active failed queries) =>
    s.add (.decoded i c (.stats up down active failed queries))

/-- `_onDropped`, called by the reader of a connection. -/
def Client.onDropped (c : ℕ) : Client :=
  let s := { s with readers := s.readers.filter (· ≠ c) }
  let s := s.destroySocket.failPending "the connection dropped"
  if s.closed then s
  else if s.eventsClosed then s
  else (s.add (.dropped c)).scheduleRetry

/-- `close` up to its `await`. -/
def Client.close : Client :=
  { s with
    closed := true
    retryTimer := false
    readers := s.readers.filter fun c => some c ≠ s.reader }

/-- `close` after its `await`. -/
def Client.closeEnds : Client :=
  let s := ({ s with reader := none }.destroySocket).failPending "the client was closed"
  { s with eventsClosed := true }

/-- What can happen. -/
inductive Event
  /-- `connect` is called. -/
  | connect
  /-- `Socket.connect` answers a call of `_open`. -/
  | opens (ok : Bool)
  /-- A connection delivers a line. -/
  | line (c : ℕ) (line : String)
  /-- The decode of a line ends. -/
  | decoded (i : ℕ)
  /-- The reader of a connection meets its end or an error. -/
  | dropped (c : ℕ)
  /-- The retry timer fires. -/
  | timer
  /-- The callback of the timer ends: the helper answered, or something in it threw. -/
  | retryEnds (ok : Bool)
  /-- A request is sent. -/
  | send
  /-- Its encoding or writing throws. -/
  | sendFails (id : ℕ)
  | close
  | closeEnds
  deriving DecidableEq, Repr

/-- One step, `none` where it cannot happen. -/
def next (codec : Codec) (s : Client) : Event → Option Client
  | .connect => some { s with closed := false, opening := s.opening + 1 }
  | .opens ok =>
    if s.opening = 0 then none
    else
      let s := { s with opening := s.opening - 1 }
      some (if ok then s.opened else s)
  | .line c line => if c ∈ s.readers ∧ c ∉ s.destroyed then some (s.onLine c line) else none
  | .decoded i =>
    match s.lines[i]? with
    | some (c, line) =>
      if i ∈ s.decoding then
        some ({ s with decoding := s.decoding.filter (· ≠ i) }.handle i c
          (decodeMessage codec line))
      else none
    | none => none
  | .dropped c => if c ∈ s.readers then some (s.onDropped c) else none
  | .timer =>
    if s.retryTimer then
      let s := { s with retryTimer := false }
      some (if s.closed then s else { s with retries := s.retries + 1, opening := s.opening + 1 })
    else none
  | .retryEnds ok =>
    if s.retries = 0 then none
    else
      let s := { s with retries := s.retries - 1 }
      some (if ok || s.closed then s else s.scheduleRetry)
  | .send =>
    match s.socket with
    | none => some s
    | some _ => some { s with pending := s.nextId :: s.pending, nextId := s.nextId + 1 }
  | .sendFails id => some { s with pending := s.pending.filter (· ≠ id) }
  | .close => some s.close
  | .closeEnds => some s.closeEnds

/-! ## The order of the stream -/

/-- Two events of the stream, one before the other: lines stand in the order they came in, and none
stands behind the drop of its connection. -/
def InOrder : Sent → Sent → Prop
  | .decoded i _ _, .decoded j _ _ => i < j
  | .dropped c, .decoded _ c' _ => c ≠ c'
  | _, .dropped _ => True

/-- The stream carries the events of lines in the order the lines came in, and none of a connection
after its drop. -/
def Ordered (s : Client) : Prop := s.events.Pairwise InOrder

variable (codec : Codec)

/-- A line that puts an event on the stream, with its connection. -/
def Carries (s : Client) (i c : ℕ) (e : HelperEvent) : Prop :=
  ∃ line dto, s.lines[i]? = some (c, line) ∧ decodeMessage codec line = .ok dto ∧ dto.event = some e

/-- The decode of a line with an event ends, if the stream is open, before its connection has
dropped and while those of all later lines with one are still under way. -/
def InTurn (s : Client) : Event → Prop
  | .decoded i => i ∈ s.decoding → s.eventsClosed = false → ∀ c e, Carries codec s i c e →
      .dropped c ∉ s.events ∧ ∀ j c' e', Carries codec s j c' e' → i < j → j ∈ s.decoding
  | _ => True

/-- The books between the lines and the stream. -/
structure Lined (s : Client) : Prop where
  ordered : Ordered s
  bound : ∀ i ∈ s.decoding, i < s.lines.length
  shown : ∀ i c e, .decoded i c e ∈ s.events → Carries codec s i c e ∧ i ∉ s.decoding
  all : s.eventsClosed = false → ∀ i c e, Carries codec s i c e → i ∉ s.decoding →
    .decoded i c e ∈ s.events

variable {codec} {s s' : Client}

theorem carries_congr (hlines : s'.lines = s.lines) {i c : ℕ} {e : HelperEvent} :
    Carries codec s' i c e ↔ Carries codec s i c e := by
  rw [Carries, Carries, hlines]

/-- A line has one connection and one event. -/
theorem Carries.unique {i c c' : ℕ} {e e' : HelperEvent} (h : Carries codec s i c e)
    (h' : Carries codec s i c' e') : c = c' ∧ e = e' := by
  obtain ⟨line, dto, hline, hdto, he⟩ := h
  obtain ⟨line', dto', hline', hdto', he'⟩ := h'
  rw [hline, Option.some.injEq, Prod.mk.injEq] at hline'
  obtain ⟨rfl, rfl⟩ := hline'
  rw [hdto, Except.ok.injEq] at hdto'
  subst hdto'
  rw [he, Option.some.injEq] at he'
  exact ⟨rfl, he'⟩

/-- What a line says does not depend on the lines after it. -/
theorem carries_onLine {i c c' : ℕ} {e : HelperEvent} {line : String} (hi : i < s.lines.length) :
    Carries codec (s.onLine c line) i c' e ↔ Carries codec s i c' e := by
  rw [Carries, Carries, Client.onLine, List.getElem?_append_left hi]

theorem Carries.lt {i c : ℕ} {e : HelperEvent} (h : Carries codec s i c e) :
    i < s.lines.length := by
  obtain ⟨line, dto, hline, -⟩ := h
  exact (List.getElem?_eq_some_iff.1 hline).1

theorem Lined.init : Lined codec Client.init where
  ordered := List.Pairwise.nil
  bound _ h := nomatch h
  shown _ _ _ h := nomatch h
  all _ _ _ _ h := nomatch h.lt

/-- An event at the end of the stream. -/
theorem Ordered.concat (hs : Ordered s) {x : Sent} (hevents : s'.events = s.events ++ [x])
    (hx : ∀ y ∈ s.events, InOrder y x) : Ordered s' := by
  rw [Ordered, hevents, List.pairwise_append]
  refine ⟨hs, List.pairwise_singleton _ _, fun y hy z hz => ?_⟩
  obtain rfl := List.mem_singleton.1 hz
  exact hx y hy

/-- A step that is nothing to the lines and the stream. -/
theorem Lined.frame (hs : Lined codec s) (hlines : s'.lines = s.lines)
    (hdecoding : s'.decoding = s.decoding) (hevents : s'.events = s.events)
    (hclosed : s'.eventsClosed = false → s.eventsClosed = false) : Lined codec s' where
  ordered := by
    rw [Ordered, hevents]
    exact hs.ordered
  bound := by
    rw [hlines, hdecoding]
    exact hs.bound
  shown i c e hmem := by
    rw [hevents] at hmem
    rw [carries_congr hlines, hdecoding]
    exact hs.shown i c e hmem
  all hopen i c e hcarries hnot := by
    rw [carries_congr hlines] at hcarries
    rw [hdecoding] at hnot
    rw [hevents]
    exact hs.all (hclosed hopen) i c e hcarries hnot

/-- A line that comes in. -/
theorem Lined.onLine (hs : Lined codec s) (c : ℕ) (line : String) :
    Lined codec (s.onLine c line) where
  ordered := hs.ordered
  bound i hi := by
    simp only [Client.onLine, List.length_append, List.length_singleton]
    obtain rfl | hi := List.mem_cons.1 hi
    · omega
    · have := hs.bound i hi
      omega
  shown i c' e hmem := by
    obtain ⟨hcarries, hnot⟩ := hs.shown i c' e hmem
    have hlt := hcarries.lt
    refine ⟨(carries_onLine hlt).2 hcarries, fun hi => ?_⟩
    obtain rfl | hi := List.mem_cons.1 hi
    · omega
    · exact hnot hi
  all hopen i c' e hcarries hnot := by
    obtain ⟨hne, hnot⟩ := not_or.1 (mt List.mem_cons.2 hnot)
    have hlt := hcarries.lt
    simp only [Client.onLine, List.length_append, List.length_singleton] at hlt
    exact hs.all hopen i c' e ((carries_onLine (by omega)).1 hcarries) hnot

/-- A drop that is announced. -/
theorem Lined.dropped (hs : Lined codec s) {c : ℕ} (hlines : s'.lines = s.lines)
    (hdecoding : s'.decoding = s.decoding) (hevents : s'.events = s.events ++ [.dropped c])
    (hclosed : s'.eventsClosed = s.eventsClosed) : Lined codec s' where
  ordered := by
    refine hs.ordered.concat hevents fun x _ => ?_
    cases x <;> trivial
  bound := by
    rw [hlines, hdecoding]
    exact hs.bound
  shown i c' e hmem := by
    rw [hevents, List.mem_append, List.mem_singleton] at hmem
    rw [carries_congr hlines, hdecoding]
    exact hs.shown i c' e (hmem.resolve_right Sent.noConfusion)
  all hopen i c' e hcarries hnot := by
    rw [hclosed] at hopen
    rw [hdecoding] at hnot
    rw [carries_congr hlines] at hcarries
    rw [hevents]
    exact List.mem_append_left _ (hs.all hopen i c' e hcarries hnot)

/-- The end of a decode that puts nothing on the stream. -/
theorem Lined.silent (hs : Lined codec s) {i : ℕ}
    (hnothing : s.eventsClosed = false → ∀ c e, ¬ Carries codec s i c e)
    (hlines : s'.lines = s.lines) (hdecoding : s'.decoding = s.decoding.filter (· ≠ i))
    (hevents : s'.events = s.events) (hclosed : s'.eventsClosed = s.eventsClosed) :
    Lined codec s' where
  ordered := by
    rw [Ordered, hevents]
    exact hs.ordered
  bound j hj := by
    rw [hdecoding] at hj
    rw [hlines]
    exact hs.bound j (List.mem_filter.1 hj).1
  shown j c e hmem := by
    rw [hevents] at hmem
    rw [carries_congr hlines, hdecoding]
    obtain ⟨hcarries, hnot⟩ := hs.shown j c e hmem
    exact ⟨hcarries, fun hj => hnot (List.mem_filter.1 hj).1⟩
  all hopen j c e hcarries hnot := by
    rw [hclosed] at hopen
    rw [carries_congr hlines] at hcarries
    rw [hevents]
    refine hs.all hopen j c e hcarries fun hj => hnot ?_
    rw [hdecoding, List.mem_filter]
    refine ⟨hj, decide_eq_true ?_⟩
    rintro rfl
    exact hnothing hopen c e hcarries

/-- The end of a decode in its turn. -/
theorem Lined.decoded (hs : Lined codec s) {i c : ℕ} {e : HelperEvent} (hi : i ∈ s.decoding)
    (hcarries : Carries codec s i c e) (hdrop : .dropped c ∉ s.events)
    (hlater : ∀ j c' e', Carries codec s j c' e' → i < j → j ∈ s.decoding)
    (hlines : s'.lines = s.lines) (hdecoding : s'.decoding = s.decoding.filter (· ≠ i))
    (hevents : s'.events = s.events ++ [.decoded i c e])
    (hclosed : s'.eventsClosed = s.eventsClosed) : Lined codec s' where
  ordered := by
    refine hs.ordered.concat hevents fun x hx => ?_
    cases x with
    | dropped c' =>
      change c' ≠ c
      rintro rfl
      exact hdrop hx
    | decoded j c' e' =>
      change j < i
      -- a line whose event is on the stream is not being decoded any more
      obtain ⟨hj, hnot⟩ := hs.shown j c' e' hx
      rcases lt_trichotomy j i with hlt | rfl | hgt
      · exact hlt
      · exact absurd hi hnot
      · exact absurd (hlater j c' e' hj hgt) hnot
  bound j hj := by
    rw [hdecoding] at hj
    rw [hlines]
    exact hs.bound j (List.mem_filter.1 hj).1
  shown j c' e' hmem := by
    rw [hevents, List.mem_append, List.mem_singleton] at hmem
    rw [carries_congr hlines, hdecoding]
    obtain hmem | heq := hmem
    · obtain ⟨hj, hnot⟩ := hs.shown j c' e' hmem
      exact ⟨hj, fun hj => hnot (List.mem_filter.1 hj).1⟩
    · obtain ⟨rfl, rfl, rfl⟩ := Sent.decoded.inj heq
      exact ⟨hcarries, fun hj => of_decide_eq_true (List.mem_filter.1 hj).2 rfl⟩
  all hopen j c' e' hj hnot := by
    rw [hclosed] at hopen
    rw [carries_congr hlines] at hj
    rw [hevents, List.mem_append, List.mem_singleton]
    by_cases hji : j = i
    · subst hji
      obtain ⟨rfl, rfl⟩ := hj.unique hcarries
      exact Or.inr rfl
    · refine Or.inl (hs.all hopen j c' e' hj fun hmem => hnot ?_)
      rw [hdecoding, List.mem_filter]
      exact ⟨hmem, decide_eq_true hji⟩

/-! ## One step -/

/-- What an end of a decode does: it adds the event of the line, or nothing. -/
theorem handle_cases (s : Client) (i c : ℕ) (answer : Except String IncomingDto) :
    (∃ dto e, answer = .ok dto ∧ dto.event = some e ∧
      s.handle i c answer = s.add (.decoded i c e)) ∨
    ((∀ dto, answer = .ok dto → dto.event = none) ∧ (s.handle i c answer).lines = s.lines ∧
      (s.handle i c answer).decoding = s.decoding ∧ (s.handle i c answer).events = s.events ∧
      (s.handle i c answer).eventsClosed = s.eventsClosed) := by
  have hsettle : ∀ id outcome, (s.settle id outcome).lines = s.lines ∧
      (s.settle id outcome).decoding = s.decoding ∧ (s.settle id outcome).events = s.events ∧
      (s.settle id outcome).eventsClosed = s.eventsClosed := by
    intro id outcome
    rw [Client.settle]
    split <;> exact ⟨rfl, rfl, rfl, rfl⟩
  cases answer with
  | error e => exact Or.inr ⟨fun _ h => (nomatch h), rfl, rfl, rfl, rfl⟩
  | ok dto =>
    cases dto with
    | ack id =>
      refine Or.inr ⟨fun dto h => ?_, hsettle id _⟩
      obtain rfl := Except.ok.inj h
      rfl
    | error id kind message =>
      refine Or.inr ⟨fun dto h => ?_, hsettle id _⟩
      obtain rfl := Except.ok.inj h
      rfl
    | state st => exact Or.inl ⟨_, _, rfl, rfl, rfl⟩
    | stats up down active failed queries => exact Or.inl ⟨_, _, rfl, rfl, rfl⟩

/-- A drop is announced, or it is nothing to the stream. -/
theorem onDropped_cases (s : Client) (c : ℕ) :
    (s.onDropped c).lines = s.lines ∧ (s.onDropped c).decoding = s.decoding ∧
      (s.onDropped c).eventsClosed = s.eventsClosed ∧
      ((s.onDropped c).events = s.events ∨ (s.onDropped c).events = s.events ++ [.dropped c]) := by
  cases hclosed : s.closed with
  | true =>
    simp [Client.onDropped, Client.destroySocket, Client.failPending, hclosed]
  | false =>
    cases hopen : s.eventsClosed with
    | true =>
      simp [Client.onDropped, Client.destroySocket, Client.failPending, hclosed, hopen]
    | false =>
      simp [Client.onDropped, Client.destroySocket, Client.failPending, Client.add,
        Client.scheduleRetry, hclosed, hopen]

/-- A step that is in turn. -/
theorem Lined.next (hs : Lined codec s) {ev : Event} (hturn : InTurn codec s ev)
    (h : next codec s ev = some s') : Lined codec s' := by
  cases ev with
  | connect =>
    obtain rfl := Option.some.inj h
    exact hs.frame rfl rfl rfl id
  | opens ok =>
    simp only [App.next] at h
    split at h
    · cases h
    · obtain rfl := Option.some.inj h
      cases ok <;> exact hs.frame rfl rfl rfl id
  | line c line =>
    simp only [App.next] at h
    split at h
    · obtain rfl := Option.some.inj h
      exact hs.onLine c line
    · cases h
  | decoded i =>
    simp only [App.next] at h
    split at h
    · rename_i c line hline
      split at h
      · rename_i hi
        obtain rfl := Option.some.inj h
        obtain ⟨dto, e, hdto, he, heq⟩ | ⟨hnone, hlines, hdecoding, hevents, hclosed⟩ :=
          handle_cases { s with decoding := s.decoding.filter (· ≠ i) } i c
            (decodeMessage codec line)
        · have hcarries : Carries codec s i c e := ⟨line, dto, hline, hdto, he⟩
          rw [heq, Client.add]
          cases hopen : s.eventsClosed with
          | true =>
            exact hs.silent
              (fun hopen' => by rw [hopen] at hopen'; cases hopen') rfl rfl rfl hopen.symm
          | false =>
            obtain ⟨hdrop, hlater⟩ := hturn hi hopen c e hcarries
            exact hs.decoded hi hcarries hdrop hlater rfl rfl rfl hopen.symm
        · refine hs.silent (fun _ c' e hcarries => ?_) hlines hdecoding hevents hclosed
          obtain ⟨line', dto, hline', hdto, he⟩ := hcarries
          rw [hline, Option.some.injEq, Prod.mk.injEq] at hline'
          rw [← hline'.2] at hdto
          rw [hnone dto hdto] at he
          cases he
      · cases h
    · cases h
  | dropped c =>
    simp only [App.next] at h
    split at h
    · obtain rfl := Option.some.inj h
      obtain ⟨hlines, hdecoding, hclosed, hevents | hevents⟩ := onDropped_cases s c
      · exact hs.frame hlines hdecoding hevents fun h => hclosed ▸ h
      · exact hs.dropped hlines hdecoding hevents hclosed
    · cases h
  | timer =>
    simp only [App.next] at h
    split at h
    · obtain rfl := Option.some.inj h
      cases hclosed : s.closed <;> exact hs.frame rfl rfl rfl id
    · cases h
  | retryEnds ok =>
    simp only [App.next] at h
    split at h
    · cases h
    · obtain rfl := Option.some.inj h
      cases hquiet : ok || s.closed <;> exact hs.frame rfl rfl rfl id
  | send =>
    simp only [App.next] at h
    split at h
    · obtain rfl := Option.some.inj h
      exact hs
    · obtain rfl := Option.some.inj h
      exact hs.frame rfl rfl rfl id
  | sendFails id =>
    obtain rfl := Option.some.inj h
    exact hs.frame rfl rfl rfl fun h => h
  | close =>
    obtain rfl := Option.some.inj h
    exact hs.frame rfl rfl rfl id
  | closeEnds =>
    obtain rfl := Option.some.inj h
    exact hs.frame rfl rfl rfl fun h => (nomatch h)

/-- A decode that ends out of turn puts its event where it does not belong. -/
theorem Lined.not_ordered_next (hs : Lined codec s) {ev : Event} (hturn : ¬ InTurn codec s ev) :
    ∃ s', App.next codec s ev = some s' ∧ ¬ Ordered s' := by
  cases ev with
  | decoded i =>
    simp only [InTurn, Classical.not_imp, not_forall] at hturn
    obtain ⟨hi, hopen, c, e, ⟨line, dto, hline, hdto, he⟩, hbad⟩ := hturn
    refine ⟨{ s with decoding := s.decoding.filter (· ≠ i) }.handle i c (decodeMessage codec line),
      by simp only [App.next, hline, if_pos hi], fun hord => hbad ?_⟩
    obtain ⟨dto', e', hdto', he', heq⟩ | ⟨hnone, -⟩ :=
      handle_cases { s with decoding := s.decoding.filter (· ≠ i) } i c (decodeMessage codec line)
    · rw [hdto, Except.ok.injEq] at hdto'
      subst hdto'
      rw [he, Option.some.injEq] at he'
      subst he'
      rw [Ordered, heq, Client.add, if_neg (by simp [hopen]), List.pairwise_append] at hord
      have hlast := fun x hx => hord.2.2 x hx _ (List.mem_singleton_self _)
      refine ⟨fun hdrop => hlast _ hdrop rfl, fun j c' e' hj hlt => ?_⟩
      by_contra hnot
      have hji : j < i := hlast _ (hs.all hopen j c' e' hj hnot)
      omega
    · rw [hnone dto hdto] at he
      cases he
  | _ => exact absurd trivial hturn

/-- **The order of the stream**: it carries the events of the helper's lines in the order the lines
came in, and none of a connection after its drop, all along a run, if and only if decodes end in
their turn. -/
theorem ordered_iff_inTurn (codec : Codec) (evs : List Event) :
    (∀ evs' s, evs' <+: evs → Runs.run (next codec) Client.init evs' = some s → Ordered s) ↔
      Runs.Guarded (next codec) (InTurn codec) Client.init evs :=
  (Runs.guarded_iff (fun _ (h : Lined codec _) => h.ordered)
    (fun _ _ _ hs _ hturn h => hs.next hturn h)
    (fun _ _ hs _ hturn => hs.not_ordered_next hturn) Lined.init (Runs.guarded_trivial _ evs)).symm

def connectedLine : String := "\x7b\"type\":\"state\",\"state\":\"Connected\"\x7d"

def disconnectedLine : String := "\x7b\"type\":\"state\",\"state\":\"Disconnected\"\x7d"

/-- What `serde_json` reads of the two lines. -/
def stateCodec : Codec where
  response _ := none
  push line :=
    if line = connectedLine then some (.state "Connected")
    else if line = disconnectedLine then some (.state "Disconnected") else none

/-- Two states whose decodes end the other way round. -/
theorem not_ordered : ∃ (codec : Codec) (evs : List Event) (s : Client),
    Runs.run (next codec) Client.init evs = some s ∧
      s.events.map Sent.event = [.state "Disconnected", .state "Connected"] ∧
      s.lines = [(0, connectedLine), (0, disconnectedLine)] ∧ ¬ Ordered s := by
  refine ⟨stateCodec,
    [.connect, .opens true, .line 0 connectedLine, .line 0 disconnectedLine, .decoded 1,
    .decoded 0], _, rfl, rfl, rfl, fun hord => ?_⟩
  have hlt : InOrder (.decoded 1 0 (.state "Disconnected")) (.decoded 0 0 (.state "Connected")) :=
    (List.pairwise_cons.1 hord).1 _ (List.mem_singleton_self _)
  exact absurd hlt (by change ¬ 1 < 0; omega)

end LiosTunnel.App
