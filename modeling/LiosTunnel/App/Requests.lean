import LiosTunnel.App.HelperClient

/-!
# The app's requests

`_send` of `helper_client.dart` takes the next identifier, has the request encoded by
`encode_request` of `api/protocol.rs`, and writes it to the socket there was when it was called; the
encoding is a call into another thread, and by its end that connection may be gone. What
became of a request is then up to the lines that come in, to a drop and to `close`.

* `RequestDto`, `encodeRequest`: the codec's other side.
* `Sender`, `SendEvent`, `Sender.next`: the client with the calls of `_send` and of `close` that are
  under way, and what was written on each connection.
* `Books`: each request has one fate, and what waits is listened for.
* `one_fate_of_run`: after any run.
-/

namespace LiosTunnel.App

open Dto Runs

/-! ## The codec -/

/-- `RequestDto`; its parameters are those of the protocol, field for field. -/
inductive RequestDto
  | hello (id : ℕ)
  | connect (id : ℕ) (params : ConnectParams)
  | disconnect (id : ℕ)
  | getStatus (id : ℕ)
  deriving DecidableEq, Repr

def RequestDto.id : RequestDto → ℕ
  | hello id | connect id _ | disconnect id | getStatus id => id

/-- `serde_json::to_string`, which may fail, and what prints a text. -/
structure Json where
  request : Request → Option String
  line : Line → Option String
  display : Text → String

/-- The request that `encode_request` serializes, in this build's version of the protocol. -/
def RequestDto.toRequest : RequestDto → Request
  | hello id => .hello id PROTOCOL_VERSION
  | connect id params => .connect id params
  | disconnect id => .disconnect id
  | getStatus id => .getStatus id

/-- `encode_request`. -/
def encodeRequest (json : Json) (req : RequestDto) : Except String String :=
  match json.request req.toRequest with
  | some line => .ok line
  | none => .error "could not encode request"

/-! ## The client and what it sends -/

/-- What `_send` is asked for: `hello`, `sendConnect`, `disconnect`, `getStatus`. -/
inductive Ask
  | hello
  | sendConnect (params : ConnectParams)
  | disconnect
  | getStatus
  deriving DecidableEq, Repr

/-- The `build` that goes with it. -/
def Ask.build (id : ℕ) : Ask → RequestDto
  | hello => .hello id
  | sendConnect params => .connect id params
  | disconnect => .disconnect id
  | getStatus => .getStatus id

@[simp] theorem Ask.id_build (id : ℕ) (ask : Ask) : (ask.build id).id = id := by
  cases ask <;> rfl

/-- A call of `_send` that took an identifier: the connection it met, and its request. -/
structure Sending where
  conn : ℕ
  dto : RequestDto
  deriving DecidableEq, Repr

/-- The client, the calls of `_send` whose encoding has not ended and those of `close` that wait for
their cancellation, and what went out on each connection. All requests there were, and those that
were withdrawn because they could not be encoded or written, are ghosts. -/
structure Sender where
  client : Client
  encoding : List Sending
  closing : ℕ
  /-- What was written on each connection, by the request it is of. -/
  written : ℕ → List Sending
  requests : List Sending
  withdrawn : List ℕ

/-- A new client. -/
def Sender.init : Sender := ⟨Client.init, [], 0, fun _ => [], [], []⟩

/-- What can happen. -/
inductive SendEvent
  /-- Anything that is not a call of `_send`. -/
  | client (e : Event)
  | send (ask : Ask)
  /-- The encoding of a request ends, and the write to its socket does not throw, or does. -/
  | encoded (x : Sending) (writes : Bool)
  deriving DecidableEq, Repr

namespace Sender

variable (json : Json) (codec : Codec) (s : Sender)

/-- The `catch` of `_send`. -/
def withdraw (id : ℕ) : Sender :=
  { s with
    client := { s.client with pending := s.client.pending.filter (· ≠ id) }
    withdrawn := s.withdrawn ++ if id ∈ s.client.pending then [id] else [] }

/-- What is written to a socket that was destroyed goes nowhere. -/
def write (x : Sending) : Sender :=
  if x.conn ∈ s.client.destroyed then s
  else { s with written := Function.update s.written x.conn (s.written x.conn ++ [x]) }

/-- One step, `none` where it cannot happen. -/
def next : SendEvent → Option Sender
  | .client .send | .client (.sendFails _) => none
  | .client .close => some { s with client := s.client.close, closing := s.closing + 1 }
  | .client .closeEnds =>
    if s.closing = 0 then none
    else some { s with client := s.client.closeEnds, closing := s.closing - 1 }
  | .client e => (App.next codec s.client e).map fun client => { s with client := client }
  | .send ask =>
    match s.client.socket with
    -- it throws
    | none => some s
    | some c =>
      let x : Sending := ⟨c, ask.build s.client.nextId⟩
      (App.next codec s.client .send).map fun client =>
        { s with client := client, encoding := x :: s.encoding, requests := s.requests ++ [x] }
  | .encoded x writes =>
    if x ∈ s.encoding then
      let s := { s with encoding := s.encoding.filter (· ≠ x) }
      match encodeRequest json x.dto, writes with
      | .ok _, true => some (s.write x)
      | _, _ => some (s.withdraw x.dto.id)
    else none

end Sender

/-! ## What the client does to its requests -/

/-- Two clients that a request cannot tell apart. -/
structure Client.Same (c c' : Client) : Prop where
  nextId : c'.nextId = c.nextId
  pending : c'.pending = c.pending
  settled : c'.settled = c.settled
  socket : c'.socket = c.socket
  destroyed : c'.destroyed = c.destroyed
  readers : c'.readers = c.readers
  connections : c'.connections = c.connections

theorem Client.Same.refl (c : Client) : Client.Same c c := ⟨rfl, rfl, rfl, rfl, rfl, rfl, rfl⟩

/-- What an event that is no call of `_send` or `close` is to the requests. -/
inductive Client.Moves (c c' : Client) : Prop
  | keeps (same : Client.Same c c')
  | opens (same : Client.Same c.opened c')
  | settles (id : ℕ) (outcome : Outcome) (same : Client.Same (c.settle id outcome) c')
  | drops (conn : ℕ) (detail : String) (same : Client.Same
      (({ c with readers := c.readers.filter (· ≠ conn) } : Client).destroySocket.failPending
        detail)
      c')

variable {json : Json} {codec : Codec}

/-- Whatever the decode of a line says. -/
theorem Client.moves_handle (c : Client) (decoding : List ℕ) (i conn : ℕ)
    (answer : Except String IncomingDto) :
    c.Moves (({ c with decoding := decoding } : Client).handle i conn answer) := by
  have hadd (x : App.Sent) : Client.Same c (({ c with decoding := decoding } : Client).add x) := by
    rw [Client.add]
    split <;> exact ⟨rfl, rfl, rfl, rfl, rfl, rfl, rfl⟩
  have hsettle (id : ℕ) (outcome : Outcome) : Client.Same (c.settle id outcome)
      (({ c with decoding := decoding } : Client).settle id outcome) := by
    rw [Client.settle, Client.settle]
    dsimp only
    split <;> exact ⟨rfl, rfl, rfl, rfl, rfl, rfl, rfl⟩
  cases answer with
  | error => exact .keeps ⟨rfl, rfl, rfl, rfl, rfl, rfl, rfl⟩
  | ok dto =>
    cases dto with
    | ack id => exact .settles id _ (hsettle _ _)
    | error id kind message => exact .settles id _ (hsettle _ _)
    | state => exact .keeps (hadd _)
    | stats => exact .keeps (hadd _)

theorem Client.moves_onDropped (c : Client) (conn : ℕ) : c.Moves (c.onDropped conn) := by
  refine .drops conn "the connection dropped" ?_
  rw [Client.onDropped]
  split
  · exact .refl _
  · split
    · exact .refl _
    · rw [Client.add]
      split <;> exact ⟨rfl, rfl, rfl, rfl, rfl, rfl, rfl⟩

/-- **One event** that is no call of `_send` or `close`. -/
theorem Client.moves_of_next {c c' : Client} {e : Event} (hsend : e ≠ .send)
    (hfails : ∀ id, e ≠ .sendFails id) (hclose : e ≠ .close) (hends : e ≠ .closeEnds)
    (h : App.next codec c e = some c') : c.Moves c' := by
  cases e with
  | connect =>
    obtain rfl := Option.some.inj h
    exact .keeps ⟨rfl, rfl, rfl, rfl, rfl, rfl, rfl⟩
  | opens ok =>
    simp only [App.next] at h
    split at h
    · cases h
    · obtain rfl := Option.some.inj h
      cases ok with
      | true => exact .opens ⟨rfl, rfl, rfl, rfl, rfl, rfl, rfl⟩
      | false => exact .keeps ⟨rfl, rfl, rfl, rfl, rfl, rfl, rfl⟩
  | line conn line =>
    simp only [App.next] at h
    split at h
    · obtain rfl := Option.some.inj h
      exact .keeps ⟨rfl, rfl, rfl, rfl, rfl, rfl, rfl⟩
    · cases h
  | decoded i =>
    simp only [App.next] at h
    split at h
    · split at h
      · obtain rfl := Option.some.inj h
        exact c.moves_handle _ _ _ _
      · cases h
    · cases h
  | dropped conn =>
    simp only [App.next] at h
    split at h
    · obtain rfl := Option.some.inj h
      exact c.moves_onDropped conn
    · cases h
  | timer =>
    simp only [App.next] at h
    split at h
    · obtain rfl := Option.some.inj h
      refine .keeps ?_
      split <;> exact ⟨rfl, rfl, rfl, rfl, rfl, rfl, rfl⟩
    · cases h
  | retryEnds ok =>
    simp only [App.next] at h
    split at h
    · cases h
    · obtain rfl := Option.some.inj h
      refine .keeps ?_
      split <;> exact ⟨rfl, rfl, rfl, rfl, rfl, rfl, rfl⟩
  | send => exact absurd rfl hsend
  | sendFails id => exact absurd rfl (hfails id)
  | close => exact absurd rfl hclose
  | closeEnds => exact absurd rfl hends

/-- The request a message settles, and how. -/
def IncomingDto.answer : IncomingDto → Option (ℕ × Outcome)
  | .ack id => some (id, .acked)
  | .error id kind message => some (id, .refused kind message)
  | .state _ | .stats _ _ _ _ _ => none

/-- What an event is to the lines, and what the lines are to the requests. -/
inductive Client.Hears (codec : Codec) (c : Client) (e : Event) (c' : Client) : Prop
  | line (conn : ℕ) (text : String) (event : e = .line conn text)
      (lines : c'.lines = c.lines ++ [(conn, text)])
      (decoding : c'.decoding = c.lines.length :: c.decoding) (pending : c'.pending = c.pending)
      (settled : c'.settled = c.settled)
  | decodes (i conn : ℕ) (text : String) (at_ : c.lines[i]? = some (conn, text))
      (lines : c'.lines = c.lines) (decoding : c'.decoding = c.decoding.filter (· ≠ i))
      (heeds : ∀ dto, decodeMessage codec text = .ok dto → ∀ id outcome,
        dto.answer = some (id, outcome) → id ∉ c'.pending)
      (pending : ∀ id ∈ c'.pending, id ∈ c.pending)
      (settled : ∀ p ∈ c'.settled, p ∈ c.settled ∨ ∃ dto, decodeMessage codec text = .ok dto ∧
        dto.answer = some p)
  | other (lines : c'.lines = c.lines) (decoding : c'.decoding = c.decoding)
      (pending : ∀ id ∈ c'.pending, id ∈ c.pending)
      (settled : ∀ p ∈ c'.settled, p ∈ c.settled ∨ ∃ detail, p.2 = .unavailable detail)

/-- An answer comes to a request that waits, or to none. -/
theorem Client.mem_settle (c : Client) (id : ℕ) (outcome : Outcome) :
    id ∉ (c.settle id outcome).pending ∧
      (∀ n ∈ (c.settle id outcome).pending, n ∈ c.pending) ∧
      ∀ p ∈ (c.settle id outcome).settled, p ∈ c.settled ∨ p = (id, outcome) := by
  rw [Client.settle]
  split
  · refine ⟨fun h => of_decide_eq_true (List.mem_filter.1 h).2 rfl,
      fun n hn => (List.mem_filter.1 hn).1, fun p hp => ?_⟩
    exact (List.mem_append.1 hp).imp_right List.mem_singleton.1
  · exact ⟨‹_›, fun _ h => h, fun _ h => Or.inl h⟩

/-- What has no answer in it settles nothing. -/
theorem Client.hears_add {c : Client} {e : Event} {i conn : ℕ} {text : String} (x : App.Sent)
    (hline : c.lines[i]? = some (conn, text))
    (hanswer : ∀ dto, decodeMessage codec text = .ok dto → dto.answer = none) :
    c.Hears codec e (({ c with decoding := c.decoding.filter (· ≠ i) } : Client).add x) := by
  have hheeds (c' : Client) : ∀ dto, decodeMessage codec text = .ok dto → ∀ id outcome,
      dto.answer = some (id, outcome) → id ∉ c'.pending := fun dto hdto id outcome h =>
    nomatch (hanswer dto hdto).symm.trans h
  rw [Client.add]
  split
  · exact .decodes i conn text hline rfl rfl (hheeds _) (fun _ h => h) fun _ h => Or.inl h
  · exact .decodes i conn text hline rfl rfl (hheeds _) (fun _ h => h) fun _ h => Or.inl h

/-- The end of a decode. -/
theorem Client.hears_handle {c : Client} {e : Event} {i conn : ℕ} {text : String}
    (hline : c.lines[i]? = some (conn, text)) :
    c.Hears codec e (({ c with decoding := c.decoding.filter (· ≠ i) } : Client).handle i conn
      (decodeMessage codec text)) := by
  have hsettle (id : ℕ) (outcome : Outcome) (dto : IncomingDto)
      (hdto : decodeMessage codec text = .ok dto) (hanswer : dto.answer = some (id, outcome)) :
      c.Hears codec e
        (({ c with decoding := c.decoding.filter (· ≠ i) } : Client).settle id outcome) := by
    obtain ⟨hgone, hpending, hsettled⟩ :=
      Client.mem_settle { c with decoding := c.decoding.filter (· ≠ i) } id outcome
    have hframe : (({ c with decoding := c.decoding.filter (· ≠ i) } : Client).settle id
        outcome).lines = c.lines ∧
        (({ c with decoding := c.decoding.filter (· ≠ i) } : Client).settle
          id outcome).decoding = c.decoding.filter (· ≠ i) := by
      rw [Client.settle]
      split <;> exact ⟨rfl, rfl⟩
    refine .decodes i conn text hline hframe.1 hframe.2 (fun dto' hdto' id' outcome' h => ?_)
      hpending fun p hp => (hsettled p hp).imp_right fun heq => ⟨dto, hdto, by rw [heq, hanswer]⟩
    obtain rfl := Except.ok.inj (hdto.symm.trans hdto')
    obtain ⟨rfl, rfl⟩ := Prod.mk.inj (Option.some.inj (hanswer.symm.trans h))
    exact hgone
  cases hdto : decodeMessage codec text with
  | error e =>
    refine .decodes i conn text hline rfl rfl (fun dto h => ?_) (fun _ h => h) fun _ h => Or.inl h
    cases hdto.symm.trans h
  | ok dto =>
    have honly (dto' : IncomingDto) (h : decodeMessage codec text = .ok dto') : dto' = dto :=
      Except.ok.inj (h.symm.trans hdto)
    cases dto with
    | ack id => exact hsettle id .acked _ hdto rfl
    | error id kind message => exact hsettle id (.refused kind message) _ hdto rfl
    | state st => exact Client.hears_add _ hline fun dto' h => honly dto' h ▸ rfl
    | stats => exact Client.hears_add _ hline fun dto' h => honly dto' h ▸ rfl

/-- All that waits fails with what is known to be unavailable. -/
theorem Client.unavailable_failPending {c : Client} {detail : String} {p : ℕ × Outcome}
    (h : p ∈ (c.failPending detail).settled) :
    p ∈ c.settled ∨ ∃ detail, p.2 = .unavailable detail := by
  refine (List.mem_append.1 h).imp_right fun h => ?_
  obtain ⟨id, -, rfl⟩ := List.mem_map.1 h
  exact ⟨detail, rfl⟩

/-- **One event** that makes no request. -/
theorem Client.hears_of_next {c c' : Client} {e : Event} (hsend : e ≠ .send)
    (h : App.next codec c e = some c') : c.Hears codec e c' := by
  have hsame {c' : Client} (hlines : c'.lines = c.lines) (hdecoding : c'.decoding = c.decoding)
      (hpending : c'.pending = c.pending) (hsettled : c'.settled = c.settled) :
      c.Hears codec e c' :=
    .other hlines hdecoding (fun _ h => hpending ▸ h) fun _ h => Or.inl (hsettled ▸ h)
  cases e with
  | connect =>
    obtain rfl := Option.some.inj h
    exact hsame rfl rfl rfl rfl
  | opens ok =>
    simp only [App.next] at h
    split at h
    · cases h
    · obtain rfl := Option.some.inj h
      cases ok <;> exact hsame rfl rfl rfl rfl
  | line conn text =>
    simp only [App.next] at h
    split at h
    · obtain rfl := Option.some.inj h
      exact .line conn text rfl rfl rfl rfl rfl
    · cases h
  | decoded i =>
    simp only [App.next] at h
    split at h
    · rename_i conn text hline
      split at h
      · obtain rfl := Option.some.inj h
        exact Client.hears_handle hline
      · cases h
    · cases h
  | dropped conn =>
    simp only [App.next] at h
    split at h
    · obtain rfl := Option.some.inj h
      have hfails (p : ℕ × Outcome) (hp : p ∈ (c.failPending "the connection dropped").settled) :=
        Client.unavailable_failPending hp
      obtain ⟨hlines, hdecoding, -, -⟩ := onDropped_cases c conn
      have hbooks : (c.onDropped conn).pending = [] ∧
          (c.onDropped conn).settled = (c.failPending "the connection dropped").settled := by
        rw [Client.onDropped]
        split
        · exact ⟨rfl, rfl⟩
        · split
          · exact ⟨rfl, rfl⟩
          · rw [Client.add]
            split <;> exact ⟨rfl, rfl⟩
      refine .other hlines hdecoding (fun id hid => ?_) fun p hp => hfails p (hbooks.2 ▸ hp)
      rw [hbooks.1] at hid
      exact absurd hid List.not_mem_nil
    · cases h
  | timer =>
    simp only [App.next] at h
    split at h
    · obtain rfl := Option.some.inj h
      split <;> exact hsame rfl rfl rfl rfl
    · cases h
  | retryEnds ok =>
    simp only [App.next] at h
    split at h
    · cases h
    · obtain rfl := Option.some.inj h
      split <;> exact hsame rfl rfl rfl rfl
  | send => exact absurd rfl hsend
  | sendFails id =>
    obtain rfl := Option.some.inj h
    exact .other rfl rfl (fun _ hid => (List.mem_filter.1 hid).1) fun _ h => Or.inl h
  | close =>
    obtain rfl := Option.some.inj h
    exact hsame rfl rfl rfl rfl
  | closeEnds =>
    obtain rfl := Option.some.inj h
    exact .other rfl rfl (fun _ hid => absurd hid List.not_mem_nil) fun p hp =>
      Client.unavailable_failPending hp

/-! ## The books -/

namespace Sender

/-- Every request has one fate: it waits, it came to an end, or it was withdrawn. -/
structure Fates (s : Sender) : Prop where
  first : 0 < s.client.nextId
  numbered : s.requests.map (fun x => x.dto.id) = List.range' 1 (s.client.nextId - 1)
  fates : (s.client.pending ++ s.client.settled.map Prod.fst ++ s.withdrawn).Perm
    (List.range' 1 (s.client.nextId - 1))

variable {s s' : Sender}

theorem Fates.init : Fates init := ⟨Nat.zero_lt_one, rfl, List.Perm.refl _⟩

theorem Fates.nodup_pending (h : Fates s) : s.client.pending.Nodup := by
  have hall := h.fates.nodup_iff.2 List.nodup_range'
  exact (List.nodup_append.1 (List.nodup_append.1 hall).1).1

/-- A request that waits is taken off the list. -/
theorem perm_cons_filter {l : List ℕ} {id : ℕ} (hl : l.Nodup) (hid : id ∈ l) :
    l.Perm (id :: l.filter (· ≠ id)) := by
  have herase : l.erase id = l.filter (· ≠ id) := by
    rw [hl.erase_eq_filter]
    exact List.filter_congr fun x _ => by rw [Bool.eq_iff_iff]; simp
  rw [← herase]
  exact List.perm_cons_erase hid

theorem Fates.congr (h : Fates s) (hnext : s'.client.nextId = s.client.nextId)
    (hrequests : s'.requests = s.requests)
    (hfates : (s'.client.pending ++ s'.client.settled.map Prod.fst ++ s'.withdrawn).Perm
      (s.client.pending ++ s.client.settled.map Prod.fst ++ s.withdrawn)) : Fates s' where
  first := hnext ▸ h.first
  numbered := by rw [hrequests, hnext]; exact h.numbered
  fates := by rw [hnext]; exact hfates.trans h.fates

/-- A request comes to its end. -/
theorem perm_settle (c : Client) (hc : c.pending.Nodup) (id : ℕ) (outcome : Outcome) :
    ((c.settle id outcome).pending ++ (c.settle id outcome).settled.map Prod.fst).Perm
      (c.pending ++ c.settled.map Prod.fst) := by
  rw [Client.settle]
  split
  · rename_i hid
    have hperm := perm_cons_filter hc hid
    simp only [List.map_append, List.map_cons, List.map_nil]
    refine List.Perm.trans ?_ (hperm.append_right _).symm
    rw [← List.append_assoc, List.cons_append]
    exact List.perm_append_singleton _ _
  · exact .refl _

/-- All that waits fails. -/
theorem perm_failPending (c : Client) (detail : String) :
    ((c.failPending detail).pending ++ (c.failPending detail).settled.map Prod.fst).Perm
      (c.pending ++ c.settled.map Prod.fst) := by
  have hids :
      (c.pending.map fun id => (id, Outcome.unavailable detail)).map Prod.fst = c.pending := by
    rw [List.map_map]
    exact List.map_id _
  simp only [Client.failPending, List.map_append, hids, List.nil_append]
  exact List.perm_append_comm

theorem Fates.client {c' : Client} (h : Fates s) (hmoves : s.client.Moves c') :
    Fates { s with client := c' } := by
  have hframe {c : Client} (hsame : Client.Same c c') (hnext : c.nextId = s.client.nextId)
      (hperm : (c.pending ++ c.settled.map Prod.fst).Perm
        (s.client.pending ++ s.client.settled.map Prod.fst)) : Fates { s with client := c' } := by
    refine h.congr (hsame.nextId.trans hnext) rfl (List.Perm.append_right _ ?_)
    rw [hsame.pending, hsame.settled]
    exact hperm
  cases hmoves with
  | keeps hsame => exact hframe hsame rfl (.refl _)
  | opens hsame => exact hframe hsame rfl (.refl _)
  | settles id outcome hsame =>
    refine hframe hsame ?_ (perm_settle _ h.nodup_pending id outcome)
    rw [Client.settle]
    split <;> rfl
  | drops conn detail hsame => exact hframe hsame rfl (perm_failPending _ detail)

theorem Fates.withdraw (h : Fates s) (id : ℕ) : Fates (s.withdraw id) := by
  refine h.congr rfl rfl ?_
  by_cases hid : id ∈ s.client.pending
  · have hperm := perm_cons_filter h.nodup_pending hid
    simp only [Sender.withdraw, if_pos hid]
    refine List.Perm.trans ?_ ((hperm.append_right _).append_right _).symm
    rw [← List.append_assoc, List.cons_append, List.cons_append]
    exact List.perm_append_singleton _ _
  · have hsame : s.client.pending.filter (· ≠ id) = s.client.pending := by
      refine List.filter_eq_self.2 fun x hx => decide_eq_true ?_
      rintro rfl
      exact hid hx
    simp only [Sender.withdraw, if_neg hid, hsame, List.append_nil]
    exact .refl _

/-- A request takes the next identifier. -/
theorem Fates.send {c' : Client} (h : Fates s) (x : Sending) (encoding : List Sending)
    (hid : x.dto.id = s.client.nextId) (hpending : c'.pending = s.client.nextId :: s.client.pending)
    (hnext : c'.nextId = s.client.nextId + 1) (hsettled : c'.settled = s.client.settled) :
    Fates { s with client := c', encoding := encoding, requests := s.requests ++ [x] } := by
  have hfirst := h.first
  have hrange : List.range' 1 (c'.nextId - 1) =
      List.range' 1 (s.client.nextId - 1) ++ [s.client.nextId] := by
    have hlength : c'.nextId - 1 = s.client.nextId - 1 + 1 := by omega
    rw [hlength, List.range'_1_concat]
    congr 2
    omega
  refine ⟨by change 0 < c'.nextId; omega, ?_, ?_⟩
  · rw [List.map_append, h.numbered]
    change _ = List.range' 1 (c'.nextId - 1)
    rw [hrange, List.map_singleton, hid]
  · change (c'.pending ++ c'.settled.map Prod.fst ++ s.withdrawn).Perm
      (List.range' 1 (c'.nextId - 1))
    rw [hrange, hpending, hsettled, List.cons_append, List.cons_append]
    exact (List.perm_append_singleton _ _).symm.trans (h.fates.append_right _)

/-- What waits is listened for: on its connection, where it is or will have been written. While the
client is being closed, a connection may be left before what waits on it fails. -/
structure Heard (s : Sender) : Prop where
  socket : ∀ c, s.client.socket = some c → c < s.client.connections ∧ c ∉ s.client.destroyed ∧
    (c ∈ s.client.readers ∨ 0 < s.closing)
  destroyed : ∀ c ∈ s.client.destroyed, c < s.client.connections
  conns : ∀ x ∈ s.requests, x.conn < s.client.connections
  encoding : ∀ x ∈ s.encoding, x ∈ s.requests
  written : ∀ c, ∀ x ∈ s.written c, x ∈ s.requests ∧ x.conn = c ∧ x ∉ s.encoding
  once : ∀ c, (s.written c).Nodup
  listened : ∀ x ∈ s.requests, x.dto.id ∈ s.client.pending → x.conn ∉ s.client.destroyed ∧
    (x.conn ∈ s.client.readers ∨ 0 < s.closing)
  sent : ∀ x ∈ s.requests, x.dto.id ∈ s.client.pending → x ∈ s.encoding ∨ x ∈ s.written x.conn

theorem Heard.init : Heard init := by
  constructor <;> intros <;> first | contradiction | exact List.nodup_nil

/-- A step that takes no reader away and destroys nothing. -/
theorem Heard.keep {c' : Client} (h : Heard s)
    (hconnections : s.client.connections ≤ c'.connections)
    (hdestroyed : c'.destroyed = s.client.destroyed)
    (hreaders : ∀ c ∈ s.client.readers, c ∈ c'.readers)
    (hpending : ∀ id ∈ c'.pending, id ∈ s.client.pending)
    (hsocket : ∀ c, c'.socket = some c → s.client.socket = some c ∨
      c < c'.connections ∧ c ∉ s.client.destroyed ∧ c ∈ c'.readers) :
    Heard { s with client := c' } where
  socket := by
    intro c hc
    obtain hold | ⟨hlt, hnot, hread⟩ := hsocket c hc
    · obtain ⟨hlt, hnot, hread⟩ := h.socket c hold
      exact ⟨hlt.trans_le hconnections, hdestroyed ▸ hnot, hread.imp_left (hreaders c)⟩
    · exact ⟨hlt, hdestroyed ▸ hnot, Or.inl hread⟩
  destroyed c hc := (h.destroyed c (hdestroyed ▸ hc)).trans_le hconnections
  conns x hx := (h.conns x hx).trans_le hconnections
  encoding := h.encoding
  written := h.written
  once := h.once
  listened := by
    intro x hx hid
    obtain ⟨hnot, hread⟩ := h.listened x hx (hpending _ hid)
    exact ⟨hdestroyed ▸ hnot, hread.imp_left (hreaders _)⟩
  sent x hx hid := h.sent x hx (hpending _ hid)

/-- A step after which there is no socket, and nothing waits. -/
theorem Heard.quiet {c' : Client} (h : Heard s) (closing : ℕ)
    (hconnections : c'.connections = s.client.connections)
    (hdestroyed : c'.destroyed = s.client.socket.toList ++ s.client.destroyed)
    (hpending : c'.pending = []) (hsocket : c'.socket = none) :
    Heard { s with client := c', closing := closing } where
  socket c hc := nomatch hsocket.symm.trans hc
  destroyed := by
    intro c hc
    change c ∈ c'.destroyed at hc
    change c < c'.connections
    rw [hdestroyed, List.mem_append, Option.mem_toList] at hc
    rw [hconnections]
    obtain hc | hc := hc
    · exact (h.socket c hc).1
    · exact h.destroyed c hc
  conns x hx := (h.conns x hx).trans_eq hconnections.symm
  encoding := h.encoding
  written := h.written
  once := h.once
  listened x _ hid := nomatch (hpending ▸ hid : x.dto.id ∈ [])
  sent x _ hid := nomatch (hpending ▸ hid : x.dto.id ∈ [])

theorem Heard.client {c' : Client} (h : Heard s) (hmoves : s.client.Moves c') :
    Heard { s with client := c' } := by
  cases hmoves with
  | keeps hsame =>
    refine h.keep hsame.connections.ge hsame.destroyed (fun c hc => ?_) (fun id hid => ?_)
      fun c hc => Or.inl (hsame.socket ▸ hc)
    · rw [hsame.readers]
      exact hc
    · rw [← hsame.pending]
      exact hid
  | opens hsame =>
    have hconnections : c'.connections = s.client.connections + 1 := hsame.connections
    refine h.keep (by omega) hsame.destroyed (fun c hc => ?_) (fun id hid => ?_) fun c hc => ?_
    · rw [hsame.readers]
      exact List.mem_cons_of_mem _ hc
    · rw [hsame.pending] at hid
      exact hid
    · rw [hsame.socket] at hc
      obtain rfl := Option.some.inj hc
      refine Or.inr ⟨by omega, fun hd => absurd (h.destroyed _ hd) (lt_irrefl _), ?_⟩
      rw [hsame.readers]
      exact List.mem_cons_self
  | settles id outcome hsame =>
    rw [Client.settle] at hsame
    split at hsame
    · refine h.keep hsame.connections.ge hsame.destroyed (fun c hc => ?_) (fun id hid => ?_)
        fun c hc => Or.inl (hsame.socket ▸ hc)
      · rw [hsame.readers]
        exact hc
      · rw [hsame.pending] at hid
        exact (List.mem_filter.1 hid).1
    · refine h.keep hsame.connections.ge hsame.destroyed (fun c hc => ?_) (fun id hid => ?_)
        fun c hc => Or.inl (hsame.socket ▸ hc)
      · rw [hsame.readers]
        exact hc
      · rw [← hsame.pending]
        exact hid
  | drops conn detail hsame =>
    exact h.quiet s.closing hsame.connections hsame.destroyed hsame.pending hsame.socket

theorem Heard.closes (h : Heard s) :
    Heard { s with client := s.client.close, closing := s.closing + 1 } where
  socket c hc := ⟨(h.socket c hc).1, (h.socket c hc).2.1, Or.inr (Nat.succ_pos _)⟩
  destroyed := h.destroyed
  conns := h.conns
  encoding := h.encoding
  written := h.written
  once := h.once
  listened x hx hid := ⟨(h.listened x hx hid).1, Or.inr (Nat.succ_pos _)⟩
  sent := h.sent

theorem Heard.send {c : ℕ} (h : Heard s) (hf : Fates s) (hc : s.client.socket = some c)
    (x : Sending) (hconn : x.conn = c) (hid : x.dto.id = s.client.nextId) :
    Heard { s with
      client := { s.client with
        pending := s.client.nextId :: s.client.pending, nextId := s.client.nextId + 1 }
      encoding := x :: s.encoding, requests := s.requests ++ [x] } := by
  obtain ⟨hlt, hnot, hread⟩ := h.socket c hc
  have hnew : x ∉ s.requests := by
    intro hx
    have hmem : x.dto.id ∈ s.requests.map fun x => x.dto.id := List.mem_map_of_mem hx
    have := hf.first
    rw [hf.numbered, List.mem_range'_1] at hmem
    omega
  have hold {y : Sending} (hy : y ∈ s.requests)
      (hpending : y.dto.id ∈ s.client.nextId :: s.client.pending) :
      y.dto.id ∈ s.client.pending := by
    refine (List.mem_cons.1 hpending).resolve_left fun heq => ?_
    have hmem : y.dto.id ∈ s.requests.map fun x => x.dto.id := List.mem_map_of_mem hy
    have := hf.first
    rw [hf.numbered, List.mem_range'_1] at hmem
    omega
  refine ⟨h.socket, h.destroyed, fun y hy => ?_, fun y hy => ?_, fun c' y hy => ?_, h.once,
    fun y hy hpending => ?_, fun y hy hpending => ?_⟩
  · obtain hy | hy := List.mem_append.1 hy
    · exact h.conns y hy
    · obtain rfl := List.mem_singleton.1 hy
      exact hconn ▸ hlt
  · obtain rfl | hy := List.mem_cons.1 hy
    · exact List.mem_append_right _ (List.mem_singleton_self _)
    · exact List.mem_append_left _ (h.encoding y hy)
  · obtain ⟨hmem, hcon, hnotin⟩ := h.written c' y hy
    refine ⟨List.mem_append_left _ hmem, hcon, fun hin => ?_⟩
    obtain rfl | hin := List.mem_cons.1 hin
    · exact hnew hmem
    · exact hnotin hin
  · obtain hy | hy := List.mem_append.1 hy
    · exact h.listened y hy (hold hy hpending)
    · obtain rfl := List.mem_singleton.1 hy
      exact ⟨hconn ▸ hnot, hconn ▸ hread⟩
  · obtain hy | hy := List.mem_append.1 hy
    · exact (h.sent y hy (hold hy hpending)).imp_left (List.mem_cons_of_mem _)
    · obtain rfl := List.mem_singleton.1 hy
      exact Or.inl List.mem_cons_self

/-- The encoding of a request ends. -/
def encoded (s : Sender) (x : Sending) : Sender :=
  { s with encoding := s.encoding.filter (· ≠ x) }

theorem mem_encoded {x y : Sending} : y ∈ (s.encoded x).encoding ↔ y ∈ s.encoding ∧ y ≠ x := by
  rw [encoded, List.mem_filter, decide_eq_true_iff]

/-- What is written is on its connection from then on. -/
theorem Heard.write (h : Heard s) {x : Sending} (hx : x ∈ s.encoding) :
    Heard ((s.encoded x).write x) := by
  have hkeep {y : Sending} (hy : y ∈ s.encoding) (hne : y ≠ x) : y ∈ (s.encoded x).encoding :=
    mem_encoded.2 ⟨hy, hne⟩
  rw [Sender.write]
  split
  · rename_i hgone
    refine ⟨h.socket, h.destroyed, h.conns, fun y hy => h.encoding y (mem_encoded.1 hy).1,
      fun c y hy => ?_, h.once, h.listened, fun y hy hid => ?_⟩
    · obtain ⟨hmem, hcon, hnot⟩ := h.written c y hy
      exact ⟨hmem, hcon, fun hin => hnot (mem_encoded.1 hin).1⟩
    · refine (h.sent y hy hid).imp_left fun hin => hkeep hin ?_
      rintro rfl
      exact (h.listened y hy hid).1 hgone
  · have hfresh : x ∉ s.written x.conn := fun hin => (h.written _ x hin).2.2 hx
    refine ⟨h.socket, h.destroyed, h.conns, fun y hy => h.encoding y (mem_encoded.1 hy).1,
      fun c y hy => ?_, fun c => ?_, h.listened, fun y hy hid => ?_⟩
    · have hold (hin : y ∈ s.written c) :
          y ∈ s.requests ∧ y.conn = c ∧ y ∉ (s.encoded x).encoding := by
        obtain ⟨hmem, hcon, hnot⟩ := h.written c y hin
        exact ⟨hmem, hcon, fun hin => hnot (mem_encoded.1 hin).1⟩
      by_cases hc : c = x.conn
      · subst hc
        change y ∈ Function.update s.written x.conn (s.written x.conn ++ [x]) x.conn at hy
        rw [Function.update_self, List.mem_append, List.mem_singleton] at hy
        obtain hy | rfl := hy
        · exact hold hy
        · exact ⟨h.encoding y hx, rfl, fun hin => (mem_encoded.1 hin).2 rfl⟩
      · change y ∈ Function.update s.written x.conn (s.written x.conn ++ [x]) c at hy
        rw [Function.update_of_ne hc] at hy
        exact hold hy
    · change (Function.update s.written x.conn (s.written x.conn ++ [x]) c).Nodup
      by_cases hc : c = x.conn
      · subst hc
        rw [Function.update_self]
        refine (h.once x.conn).append (List.nodup_singleton x) fun y hy hy' => ?_
        obtain rfl := List.mem_singleton.1 hy'
        exact hfresh hy
      · rw [Function.update_of_ne hc]
        exact h.once c
    · change y ∈ (s.encoded x).encoding ∨
        y ∈ Function.update s.written x.conn (s.written x.conn ++ [x]) y.conn
      by_cases hyx : y = x
      · subst hyx
        rw [Function.update_self]
        exact Or.inr (List.mem_append_right _ (List.mem_singleton_self y))
      · refine (h.sent y hy hid).imp (fun hin => hkeep hin hyx) fun hin => ?_
        by_cases hc : y.conn = x.conn
        · rw [hc, Function.update_self]
          exact List.mem_append_left _ (hc ▸ hin)
        · rw [Function.update_of_ne hc]
          exact hin

/-- What is withdrawn does not wait. -/
theorem Heard.withdraw (h : Heard s) (x : Sending) : Heard ((s.encoded x).withdraw x.dto.id) := by
  have hold {id : ℕ} (hid : id ∈ s.client.pending.filter (· ≠ x.dto.id)) :
      id ∈ s.client.pending ∧ id ≠ x.dto.id := by
    rw [List.mem_filter, decide_eq_true_iff] at hid
    exact hid
  refine ⟨h.socket, h.destroyed, h.conns, fun y hy => h.encoding y (mem_encoded.1 hy).1,
    fun c y hy => ?_, h.once, fun y hy hid => h.listened y hy (hold hid).1, fun y hy hid => ?_⟩
  · obtain ⟨hmem, hcon, hnot⟩ := h.written c y hy
    exact ⟨hmem, hcon, fun hin => hnot (mem_encoded.1 hin).1⟩
  · refine (h.sent y hy (hold hid).1).imp_left fun hin => mem_encoded.2 ⟨hin, ?_⟩
    rintro rfl
    exact (hold hid).2 rfl

/-- All that a step can be. -/
inductive Step (json : Json) (codec : Codec) (s : Sender) : SendEvent → Sender → Prop
  | client {e : Event} {c' : Client} (next : App.next codec s.client e = some c')
      (moves : s.client.Moves c') (hears : s.client.Hears codec e c') :
      Step json codec s (.client e) { s with client := c' }
  | closes : Step json codec s (.client .close)
      { s with client := s.client.close, closing := s.closing + 1 }
  | closed (waiting : s.closing ≠ 0) : Step json codec s (.client .closeEnds)
      { s with client := s.client.closeEnds, closing := s.closing - 1 }
  | throws {ask : Ask} (unconnected : s.client.socket = none) : Step json codec s (.send ask) s
  | sends {ask : Ask} {c : ℕ} (connected : s.client.socket = some c) : Step json codec s (.send ask)
      { s with
        client := { s.client with
          pending := s.client.nextId :: s.client.pending, nextId := s.client.nextId + 1 }
        encoding := ⟨c, ask.build s.client.nextId⟩ :: s.encoding
        requests := s.requests ++ [⟨c, ask.build s.client.nextId⟩] }
  | writes {x : Sending} {line : String} (encoding : x ∈ s.encoding)
      (encodes : encodeRequest json x.dto = .ok line) :
      Step json codec s (.encoded x true) ((s.encoded x).write x)
  | withdraws {x : Sending} {writes : Bool} (encoding : x ∈ s.encoding) :
      Step json codec s (.encoded x writes) ((s.encoded x).withdraw x.dto.id)

theorem step_of_next {e : SendEvent} (h : s.next json codec e = some s') :
    Step json codec s e s' := by
  cases e with
  | client e =>
    have hplain (hsend : e ≠ .send) (hfails : ∀ id, e ≠ .sendFails id) (hclose : e ≠ .close)
        (hends : e ≠ .closeEnds)
        (h : (App.next codec s.client e).map
          (fun client => { s with client := client }) = some s') :
        Step json codec s (.client e) s' := by
      obtain ⟨c', hc', rfl⟩ := Option.map_eq_some_iff.1 h
      exact .client hc' (Client.moves_of_next hsend hfails hclose hends hc')
        (Client.hears_of_next hsend hc')
    cases e with
    | send => cases h
    | sendFails => cases h
    | close =>
      obtain rfl := Option.some.inj h
      exact .closes
    | closeEnds =>
      simp only [Sender.next] at h
      split at h
      · cases h
      · obtain rfl := Option.some.inj h
        exact .closed ‹_›
    | _ =>
      exact hplain (fun h => (nomatch h)) (fun _ h => (nomatch h)) (fun h => (nomatch h))
        (fun h => (nomatch h)) h
  | send ask =>
    simp only [Sender.next] at h
    split at h
    · obtain rfl := Option.some.inj h
      exact .throws ‹_›
    · rename_i c hc
      have htaken : App.next codec s.client .send = some { s.client with
          pending := s.client.nextId :: s.client.pending, nextId := s.client.nextId + 1 } := by
        simp only [App.next]
        split
        · cases hc.symm.trans ‹s.client.socket = none›
        · rfl
      obtain ⟨c', hc', rfl⟩ := Option.map_eq_some_iff.1 h
      obtain rfl := Option.some.inj (htaken.symm.trans hc')
      exact .sends hc
  | encoded x writes =>
    simp only [Sender.next] at h
    split at h
    · split at h
      · obtain rfl := Option.some.inj h
        exact .writes ‹_› ‹_›
      · obtain rfl := Option.some.inj h
        exact .withdraws ‹_›
    · cases h

/-- What holds after any events. -/
structure Books (s : Sender) : Prop where
  fates : Fates s
  heard : Heard s

theorem Books.next {e : SendEvent} (h : Books s) (hnext : s.next json codec e = some s') :
    Books s' := by
  cases step_of_next hnext with
  | client _ hmoves _ => exact ⟨h.fates.client hmoves, h.heard.client hmoves⟩
  | closes => exact ⟨h.fates.congr rfl rfl (.refl _), h.heard.closes⟩
  | closed =>
    refine ⟨h.fates.congr rfl rfl ?_, h.heard.quiet _ rfl rfl rfl rfl⟩
    exact (perm_failPending s.client "the client was closed").append_right _
  | throws => exact h
  | sends hc =>
    exact ⟨h.fates.send _ _ (Ask.id_build _ _) rfl rfl rfl,
      h.heard.send h.fates hc _ rfl (Ask.id_build _ _)⟩
  | writes hx =>
    refine ⟨?_, h.heard.write hx⟩
    rw [Sender.write]
    split <;> exact h.fates.congr rfl rfl (.refl _)
  | @withdraws x _ _ =>
    have hfates : Fates (s.encoded x) := h.fates.congr rfl rfl (.refl _)
    exact ⟨hfates.withdraw _, h.heard.withdraw x⟩

theorem Books.run {es : List SendEvent} (h : Runs.run (Sender.next json codec) init es = some s) :
    Books s :=
  run_invariant_of_step (fun _ _ _ => Books.next) ⟨Fates.init, Heard.init⟩ h

/-- **Each request has one fate**: after any events, of the numbers that were given to requests,
each is that of a request that waits, of one that came to an end, once, or of one that was
withdrawn. One that waits will be written or was, to a connection that is open and listened to,
unless a `close` is about to fail it. -/
theorem one_fate_of_run {es : List SendEvent}
    (h : Runs.run (Sender.next json codec) init es = some s) :
    (s.client.pending ++ s.client.settled.map Prod.fst ++ s.withdrawn).Perm
        (s.requests.map fun x => x.dto.id) ∧
      (s.requests.map fun x => x.dto.id).Nodup ∧
      ∀ x ∈ s.requests, x.dto.id ∈ s.client.pending →
        (x ∈ s.encoding ∨ x ∈ s.written x.conn) ∧ x.conn ∉ s.client.destroyed ∧
          (x.conn ∈ s.client.readers ∨ 0 < s.closing) := by
  have hbooks := Books.run h
  refine ⟨?_, ?_, fun x hx hid => ⟨hbooks.heard.sent x hx hid, hbooks.heard.listened x hx hid⟩⟩
  · rw [hbooks.fates.numbered]
    exact hbooks.fates.fates
  · rw [hbooks.fates.numbered]
    exact List.nodup_range'

/-- A greeting is answered; a question is asked, and the next one cannot be written. -/
def greeting : List SendEvent :=
  [.client .connect, .client (.opens true), .send .hello, .encoded ⟨0, .hello 1⟩ true,
    .client (.line 0 "\x7b\"type\":\"ack\",\"id\":1\x7d"), .client (.decoded 0), .send .getStatus,
    .send .disconnect, .encoded ⟨0, .disconnect 3⟩ false]

/-- `serde_json` on what the greeting takes. -/
def greetingJson : Json where
  request := fun
    | .hello 1 2 => some "\x7b\"type\":\"hello\",\"id\":1,\"protocol_version\":2\x7d"
    | .disconnect 3 => some "\x7b\"type\":\"disconnect\",\"id\":3\x7d"
    | _ => none
  line := fun _ => none
  display := fun _ => ""

def greetingCodec : Codec where
  response line := if line = "\x7b\"type\":\"ack\",\"id\":1\x7d" then some (.ack 1) else none
  push _ := none

theorem one_fate_of_run_greeting :
    ∃ s, Runs.run (Sender.next greetingJson greetingCodec) init greeting = some s ∧
      s.client.pending = [2] ∧ s.client.settled = [(1, .acked)] ∧ s.withdrawn = [3] ∧
      (s.client.pending ++ s.client.settled.map Prod.fst ++ s.withdrawn).Perm
        (s.requests.map fun x => x.dto.id) ∧
      (s.requests.map fun x => x.dto.id).Nodup ∧
      ∀ x ∈ s.requests, x.dto.id ∈ s.client.pending →
        (x ∈ s.encoding ∨ x ∈ s.written x.conn) ∧ x.conn ∉ s.client.destroyed ∧
          (x.conn ∈ s.client.readers ∨ 0 < s.closing) := by
  have hrun : Runs.run (Sender.next greetingJson greetingCodec) init greeting = some _ := rfl
  exact ⟨_, hrun, rfl, rfl, rfl, one_fate_of_run hrun⟩

end Sender

end LiosTunnel.App
