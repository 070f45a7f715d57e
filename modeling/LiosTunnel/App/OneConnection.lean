import LiosTunnel.App.HelperClient

/-!
# How many connections the app holds

The helper serves one client at a time, so a second connection waits until the first is gone.
`helper_client.dart` keeps its socket and the socket's reader in two fields: `_open` sets both and
looks at neither, `_onDropped` and `close` destroy what is there. A retry whose greeting failed
opens again, and so may `connect`.

* `Dial`, `dial`: the client with the calls of `close` that wait.
* `OneConnection`: what the client should hold.
* `Vacant`: the attempts that end where nothing is held.
* `oneConnection_of_vacant`: with these alone it holds that.
-/

namespace LiosTunnel.App

/-- The client, and how many calls of `close` wait for a reader. -/
structure Dial where
  client : Client
  closing : ℕ
  deriving DecidableEq, Repr

/-- A new client. -/
def Dial.init : Dial := ⟨Client.init, 0⟩

/-- One step; `close` comes to its end after it has begun. -/
def dial (codec : Codec) (s : Dial) : Event → Option Dial
  | .close => some ⟨s.client.close, s.closing + 1⟩
  | .closeEnds => if s.closing = 0 then none else some ⟨s.client.closeEnds, s.closing - 1⟩
  | e => (next codec s.client e).map fun client => ⟨client, s.closing⟩

/-- A socket that was opened and not destroyed. -/
def Client.Live (s : Client) (c : ℕ) : Prop := c < s.connections ∧ c ∉ s.destroyed

/-- While no attempt is under way, the one socket that was not destroyed is the client's. Unless a
`close` waits for its reader, that socket has one reader, and there is none when the client is
closed. And the drop of a socket destroys no other. -/
structure OneConnection (codec : Codec) (s : Dial) : Prop where
  held : s.client.opening = 0 → ∀ c, s.client.Live c → s.client.socket = some c
  reader : s.client.opening = 0 → s.closing = 0 → ∀ c, s.client.Live c →
    s.client.readers.count c = 1
  closed : s.client.opening = 0 → s.closing = 0 → s.client.closed = true → ∀ c, ¬ s.client.Live c
  dropped : ∀ c s', dial codec s (.dropped c) = some s' →
    ∀ c' ∈ s'.client.destroyed, c' ∈ s.client.destroyed ∨ c' = c

/-- A socket comes to a client that has none, that was not closed since the attempt began and is not
being closed. -/
def Vacant (s : Dial) : Event → Prop
  | .opens true => s.client.socket = none ∧ s.client.closed = false ∧ s.closing = 0
  | _ => True

instance : (s : Dial) → (ev : Event) → Decidable (Vacant s ev)
  | s, .opens true =>
    inferInstanceAs (Decidable (s.client.socket = none ∧ s.client.closed = false ∧ s.closing = 0))
  | _, .opens false => .isTrue trivial
  | _, .connect | _, .line _ _ | _, .decoded _ | _, .dropped _ | _, .timer | _, .retryEnds _
  | _, .send | _, .sendFails _ | _, .close | _, .closeEnds => .isTrue trivial

/-! ## What the client holds -/

/-- The books of sockets and readers. -/
structure Sole (s : Dial) : Prop where
  live : ∀ c, s.client.Live c → s.client.socket = some c
  socket : ∀ c, s.client.socket = some c → s.client.Live c
  destroyed : ∀ c ∈ s.client.destroyed, c < s.client.connections
  nodup : s.client.readers.Nodup
  readers : ∀ c ∈ s.client.readers, s.client.socket = some c ∧ s.client.reader = some c
  attached : ∀ c, s.client.socket = some c → s.closing = 0 → c ∈ s.client.readers
  closing : 0 < s.closing → s.client.readers = []
  closed : s.client.closed = true → s.closing = 0 → s.client.socket = none

variable {codec : Codec} {s s' : Dial}

theorem Sole.init : Sole Dial.init where
  live _ h := absurd h.1 (Nat.not_lt_zero _)
  socket _ h := nomatch h
  destroyed _ h := nomatch h
  nodup := List.nodup_nil
  readers _ h := nomatch h
  attached _ h := nomatch h
  closing h := absurd h (lt_irrefl 0)
  closed h := nomatch h

/-- What the books are about. -/
structure SameSockets (s s' : Client) : Prop where
  socket : s'.socket = s.socket
  reader : s'.reader = s.reader
  readers : s'.readers = s.readers
  destroyed : s'.destroyed = s.destroyed
  connections : s'.connections = s.connections

/-- A step that is nothing to the sockets. -/
theorem Sole.frame {client : Client} (hs : Sole s) (h : SameSockets s.client client)
    (hclosed : client.closed = true → s.client.closed = true) : Sole ⟨client, s.closing⟩ where
  live c hc := by
    rw [Client.Live, h.connections, h.destroyed] at hc
    exact h.socket.trans (hs.live c hc)
  socket c hc := by
    rw [Client.Live, h.connections, h.destroyed]
    exact hs.socket c (h.socket.symm.trans hc)
  destroyed := by
    rw [h.connections, h.destroyed]
    exact hs.destroyed
  nodup := h.readers ▸ hs.nodup
  readers c hc := by
    rw [h.readers] at hc
    rw [h.socket, h.reader]
    exact hs.readers c hc
  attached c hc hclosing := h.readers ▸ hs.attached c (h.socket.symm.trans hc) hclosing
  closing hclosing := h.readers.trans (hs.closing hclosing)
  closed hc hclosing := h.socket.trans (hs.closed (hclosed hc) hclosing)

theorem sameSockets_add (s : Client) (x : Sent) : SameSockets s (s.add x) := by
  unfold Client.add
  split <;> exact ⟨rfl, rfl, rfl, rfl, rfl⟩

theorem sameSockets_settle (s : Client) (id : ℕ) (outcome : Outcome) :
    SameSockets s (s.settle id outcome) := by
  unfold Client.settle
  split <;> exact ⟨rfl, rfl, rfl, rfl, rfl⟩

theorem sameSockets_handle (s : Client) (i c : ℕ) (answer : Except String IncomingDto) :
    SameSockets s (s.handle i c answer) := by
  cases answer with
  | error e => exact ⟨rfl, rfl, rfl, rfl, rfl⟩
  | ok dto =>
    cases dto with
    | ack id => exact sameSockets_settle s id _
    | error id kind message => exact sameSockets_settle s id _
    | state st => exact sameSockets_add s _
    | stats up down active failed queries => exact sameSockets_add s _

theorem closed_handle (s : Client) (i c : ℕ) (answer : Except String IncomingDto) :
    (s.handle i c answer).closed = s.closed := by
  have hadd (x : Sent) : (s.add x).closed = s.closed := by
    unfold Client.add
    split <;> rfl
  have hsettle (id : ℕ) (outcome : Outcome) : (s.settle id outcome).closed = s.closed := by
    unfold Client.settle
    split <;> rfl
  cases answer with
  | error e => rfl
  | ok dto =>
    cases dto with
    | ack id => exact hsettle id _
    | error id kind message => exact hsettle id _
    | state st => exact hadd _
    | stats up down active failed queries => exact hadd _

/-- What a drop does to the sockets. -/
theorem onDropped_sockets (s : Client) (c : ℕ) :
    (s.onDropped c).socket = none ∧ (s.onDropped c).reader = s.reader ∧
      (s.onDropped c).readers = s.readers.filter (· ≠ c) ∧
      (s.onDropped c).destroyed = s.socket.toList ++ s.destroyed ∧
      (s.onDropped c).connections = s.connections ∧ (s.onDropped c).closed = s.closed := by
  unfold Client.onDropped
  dsimp only
  split
  · exact ⟨rfl, rfl, rfl, rfl, rfl, rfl⟩
  · split
    · exact ⟨rfl, rfl, rfl, rfl, rfl, rfl⟩
    · next hopen =>
      rw [Client.add, if_neg hopen]
      exact ⟨rfl, rfl, rfl, rfl, rfl, rfl⟩

/-- The socket of a client that has one is all it has. -/
theorem Sole.live_destroySocket (hs : Sole s) {c : ℕ} (hconn : c < s.client.connections)
    (hdest : c ∉ s.client.socket.toList ++ s.client.destroyed) : False := by
  obtain ⟨hnot, hdest⟩ := not_or.1 (mt List.mem_append.2 hdest)
  have hsocket := hs.live c ⟨hconn, hdest⟩
  rw [hsocket] at hnot
  exact hnot List.mem_cons_self

theorem Sole.destroySocket_lt (hs : Sole s) :
    ∀ c ∈ s.client.socket.toList ++ s.client.destroyed, c < s.client.connections := by
  intro c hc
  obtain hc | hc := List.mem_append.1 hc
  · exact (hs.socket c (Option.mem_toList.1 hc)).1
  · exact hs.destroyed c hc

/-- A drop leaves no socket and no reader. -/
theorem Sole.dropped (hs : Sole s) {c : ℕ} (hc : c ∈ s.client.readers) :
    Sole ⟨s.client.onDropped c, s.closing⟩ := by
  obtain ⟨hsocket, hreader, hreaders, hdestroyed, hconnections, hclosed⟩ :=
    onDropped_sockets s.client c
  have hnone : (s.client.onDropped c).readers = [] := by
    rw [hreaders, List.filter_eq_nil_iff]
    intro c' hc'
    have heq : c' = c :=
      Option.some.inj ((hs.readers c' hc').1.symm.trans (hs.readers c hc).1)
    simp [heq]
  refine ⟨fun c' hc' => ?_, fun c' hc' => ?_, ?_, ?_, fun c' hc' => ?_, fun c' hc' => ?_,
    fun _ => hnone, fun _ _ => hsocket⟩
  · rw [Client.Live, hconnections, hdestroyed] at hc'
    exact (hs.live_destroySocket hc'.1 hc'.2).elim
  · rw [hsocket] at hc'
    cases hc'
  · rw [hconnections, hdestroyed]
    exact hs.destroySocket_lt
  · rw [hnone]
    exact List.nodup_nil
  · rw [hnone] at hc'
    cases hc'
  · rw [hsocket] at hc'
    cases hc'

/-- A socket comes to a client that has none. -/
theorem Sole.opened (hs : Sole s) {client : Client} (hsame : SameSockets s.client client)
    (hclosed : client.closed = s.client.closed) (hvacant : Vacant s (.opens true)) :
    Sole ⟨client.opened, s.closing⟩ := by
  obtain ⟨hnone, hopen, hclosing⟩ := hvacant
  have hreaders : client.readers = [] := by
    rw [hsame.readers]
    refine List.eq_nil_iff_forall_not_mem.2 fun c hc => ?_
    rw [(hs.readers c hc).1] at hnone
    cases hnone
  have hlive (c : ℕ) : client.opened.Live c ↔ c = client.connections := by
    unfold Client.Live Client.opened
    dsimp only
    rw [hsame.connections, hsame.destroyed]
    constructor
    · rintro ⟨hlt, hnot⟩
      refine (Nat.lt_succ_iff_lt_or_eq.1 hlt).resolve_left fun hold => ?_
      rw [hs.live c ⟨hold, hnot⟩] at hnone
      cases hnone
    · rintro rfl
      exact ⟨Nat.lt_succ_self _, fun h => absurd (hs.destroyed _ h) (lt_irrefl _)⟩
  have hone : client.opened.readers = [client.connections] :=
    congrArg (client.connections :: ·) hreaders
  refine ⟨fun c hc => ?_, fun c hc => ?_, fun c hc => ?_, ?_, fun c hc => ?_, fun c hc _ => ?_,
    fun h => ?_, fun h _ => ?_⟩
  · rw [(hlive c).1 hc]
    rfl
  · exact (hlive c).2 (Option.some.inj hc).symm
  · have hold : c ∈ s.client.destroyed := hsame.destroyed ▸ hc
    have hlt : c < client.connections := hsame.connections ▸ hs.destroyed c hold
    exact Nat.lt_succ_of_lt hlt
  · rw [hone]
    exact List.nodup_singleton _
  · rw [hone] at hc
    obtain rfl := List.mem_singleton.1 hc
    exact ⟨rfl, rfl⟩
  · rw [hone, ← Option.some.inj hc]
    exact List.mem_cons_self
  · rw [hclosing] at h
    exact absurd h (lt_irrefl 0)
  · rw [show client.opened.closed = client.closed from rfl, hclosed, hopen] at h
    cases h

theorem Sole.close (hs : Sole s) : Sole ⟨s.client.close, s.closing + 1⟩ := by
  have hreaders : s.client.close.readers = [] := by
    unfold Client.close
    dsimp only
    rw [List.filter_eq_nil_iff]
    intro c hc
    simp [(hs.readers c hc).2]
  refine ⟨hs.live, hs.socket, hs.destroyed, ?_, fun c hc => ?_, fun c hc h => ?_, fun _ => hreaders,
    fun _ h => ?_⟩
  · rw [hreaders]
    exact List.nodup_nil
  · rw [hreaders] at hc
    cases hc
  · exact absurd h (Nat.succ_ne_zero _)
  · exact absurd h (Nat.succ_ne_zero _)

theorem Sole.closeEnds (hs : Sole s) (hclosing : s.closing ≠ 0) :
    Sole ⟨s.client.closeEnds, s.closing - 1⟩ := by
  have hreaders : s.client.closeEnds.readers = [] := hs.closing (Nat.pos_of_ne_zero hclosing)
  refine ⟨fun c hc => ?_, fun c hc => (nomatch hc), hs.destroySocket_lt, ?_, fun c hc => ?_,
    fun c hc => (nomatch hc), fun _ => hreaders, fun _ _ => rfl⟩
  · exact (hs.live_destroySocket hc.1 hc.2).elim
  · rw [hreaders]
    exact List.nodup_nil
  · rw [hreaders] at hc
    cases hc

/-- **Each step keeps the books**, if the sockets that come find none. -/
theorem Sole.step (hs : Sole s) {ev : Event} (hvacant : Vacant s ev)
    (h : dial codec s ev = some s') :
    Sole s' := by
  cases ev with
  | close =>
    obtain rfl := Option.some.inj h
    exact hs.close
  | closeEnds =>
    rw [dial] at h
    split at h
    · cases h
    · next hclosing =>
      obtain rfl := Option.some.inj h
      exact hs.closeEnds hclosing
  | connect =>
    obtain rfl := Option.some.inj h
    exact hs.frame ⟨rfl, rfl, rfl, rfl, rfl⟩ fun h => (nomatch h)
  | opens ok =>
    obtain ⟨client, hnext, rfl⟩ := Option.map_eq_some_iff.1 h
    simp only [App.next] at hnext
    split at hnext
    · cases hnext
    · obtain rfl := Option.some.inj hnext
      cases ok with
      | false => exact hs.frame ⟨rfl, rfl, rfl, rfl, rfl⟩ id
      | true => exact hs.opened ⟨rfl, rfl, rfl, rfl, rfl⟩ rfl hvacant
  | line c line =>
    obtain ⟨client, hnext, rfl⟩ := Option.map_eq_some_iff.1 h
    simp only [App.next] at hnext
    split at hnext
    · obtain rfl := Option.some.inj hnext
      exact hs.frame ⟨rfl, rfl, rfl, rfl, rfl⟩ id
    · cases hnext
  | decoded i =>
    obtain ⟨client, hnext, rfl⟩ := Option.map_eq_some_iff.1 h
    simp only [App.next] at hnext
    split at hnext
    · split at hnext
      · obtain rfl := Option.some.inj hnext
        obtain ⟨hsocket, hreader, hreaders, hdestroyed, hconnections⟩ :=
          sameSockets_handle { s.client with decoding := s.client.decoding.filter (· ≠ i) } i _ _
        exact hs.frame ⟨hsocket, hreader, hreaders, hdestroyed, hconnections⟩
          fun hclosed => by
            rw [closed_handle] at hclosed
            exact hclosed
      · cases hnext
    · cases hnext
  | dropped c =>
    obtain ⟨client, hnext, rfl⟩ := Option.map_eq_some_iff.1 h
    simp only [App.next] at hnext
    split at hnext
    · next hc =>
      obtain rfl := Option.some.inj hnext
      exact hs.dropped hc
    · cases hnext
  | timer =>
    obtain ⟨client, hnext, rfl⟩ := Option.map_eq_some_iff.1 h
    simp only [App.next] at hnext
    split at hnext
    · obtain rfl := Option.some.inj hnext
      split
      · exact hs.frame ⟨rfl, rfl, rfl, rfl, rfl⟩ id
      · exact hs.frame ⟨rfl, rfl, rfl, rfl, rfl⟩ id
    · cases hnext
  | retryEnds ok =>
    obtain ⟨client, hnext, rfl⟩ := Option.map_eq_some_iff.1 h
    simp only [App.next] at hnext
    split at hnext
    · cases hnext
    · obtain rfl := Option.some.inj hnext
      split
      · exact hs.frame ⟨rfl, rfl, rfl, rfl, rfl⟩ id
      · exact hs.frame ⟨rfl, rfl, rfl, rfl, rfl⟩ id
  | send =>
    obtain ⟨client, hnext, rfl⟩ := Option.map_eq_some_iff.1 h
    simp only [App.next] at hnext
    split at hnext
    · obtain rfl := Option.some.inj hnext
      exact hs
    · obtain rfl := Option.some.inj hnext
      exact hs.frame ⟨rfl, rfl, rfl, rfl, rfl⟩ id
  | sendFails id =>
    obtain rfl := Option.some.inj h
    exact hs.frame ⟨rfl, rfl, rfl, rfl, rfl⟩ fun h => h

theorem Sole.oneConnection (hs : Sole s) : OneConnection codec s where
  held _ c hc := hs.live c hc
  reader _ hclosing c hc :=
    have hmem : c ∈ s.client.readers := hs.attached c (hs.live c hc) hclosing
    List.count_eq_one_of_mem hs.nodup hmem
  closed _ hclosing hclosed c hc := by
    have hsocket := hs.live c hc
    rw [hs.closed hclosed hclosing] at hsocket
    cases hsocket
  dropped c s' h c' hc' := by
    obtain ⟨client, hnext, rfl⟩ := Option.map_eq_some_iff.1 h
    simp only [App.next] at hnext
    split at hnext
    · next hc =>
      obtain rfl := Option.some.inj hnext
      dsimp only at hc'
      rw [(onDropped_sockets s.client c).2.2.2.1, (hs.readers c hc).1] at hc'
      obtain rfl | hc' := List.mem_cons.1 hc'
      · exact .inr rfl
      · exact .inl hc'
    · cases hnext

/-- **The client never holds two connections**, in any run whose sockets come to a client that has
none, was not closed since and is not being closed. -/
theorem oneConnection_of_vacant {evs : List Event}
    (hvacant : Runs.Guarded (dial codec) Vacant Dial.init evs)
    (hrun : Runs.run (dial codec) Dial.init evs = some s) : OneConnection codec s :=
  (Runs.run_invariant (fun _ _ _ hs hv h => Sole.step hs hv h) Sole.init hvacant hrun).oneConnection

/-- A drop, a retry whose greeting is answered, and `close`. -/
theorem oneConnection_of_vacant_retry :
    ∃ s, Runs.run (dial ⟨fun _ => none, fun _ => none⟩) Dial.init
        [.connect, .opens true, .dropped 0,
        .timer, .opens true, .retryEnds true, .close, .closeEnds] = some s ∧
      OneConnection ⟨fun _ => none, fun _ => none⟩ s :=
  have hvacant : Runs.Guarded (dial ⟨fun _ => none, fun _ => none⟩) Vacant Dial.init [.connect,
      .opens true, .dropped 0, .timer, .opens true, .retryEnds true, .close, .closeEnds] := by
    decide
  ⟨_, rfl, oneConnection_of_vacant hvacant rfl⟩

/-- The helper's greeting does not come in time after a drop: the next retry opens a third
connection beside the second, and when that one drops the third is destroyed. -/
theorem not_oneConnection_retry :
    ¬ ∀ (codec : Codec) (evs : List Event) (s : Dial),
      Runs.run (dial codec) Dial.init evs = some s → OneConnection codec s := by
  intro hall
  have h := hall ⟨fun _ => none, fun _ => none⟩
    [.connect, .opens true, .dropped 0, .timer, .opens true, .retryEnds false, .timer,
      .opens true] _ rfl
  exact absurd (h.held rfl 1 (by unfold Client.Live; decide)) (by decide)

end LiosTunnel.App
