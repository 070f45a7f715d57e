import LiosTunnel.Protocols.SsUri

/-!
# What `ss://` links mean

A link is put together of its parts and taken apart again. Which form it has is guessed from its
text, so what is in the encoded section, or in a host, may be taken for a delimiter.

* `parse_linkOf`: how a link that is put together of its parts is read.
* `nameable_of_parseBody`: what is accepted.
* `parse_render_iff`, `parse_renderSsUri_iff`: exactly which inputs survive rendering and reading.
* `Spelling`, `parseSsUri_spelling`: all spellings of a server are read as that server.
-/

namespace LiosTunnel.Protocols.Link

open Split

variable {crate : Base64Crate}

/-! ## Reading a link -/

/-- A server as a link can name it. -/
structure Nameable (r : SsUri) : Prop where
  method_ne : r.method ≠ []
  method_colon : ':' ∉ r.method
  password_ne : r.password ≠ []
  host_ne : r.host ≠ []
  host_colon : ':' ∉ r.host
  host_bracket : '[' ∉ r.host
  port_ne : r.port ≠ 0

theorem Nameable.withTag {r : SsUri} (hr : Nameable r) (tag : Option Str) :
    Nameable { r with tag := tag } :=
  ⟨hr.method_ne, hr.method_colon, hr.password_ne, hr.host_ne, hr.host_colon, hr.host_bracket,
    hr.port_ne⟩

theorem splitHostPort_display {host : Str} {port : BitVec 16} (hhost : host ≠ []) (hport : port ≠ 0)
    (hcolon : ':' ∉ host) (hbracket : '[' ∉ host) :
    splitHostPort (host ++ ':' :: displayPort port) = .ok (host, port) :=
  splitHostPort_eq_ok.2 ⟨displayPort port, rfl, not_mem_displayPort (by decide),
    parseU16_displayPort port, hhost, hport, hcolon, hbracket⟩

theorem stripSlash_append (s : Str) : stripSlash (s ++ ['/']) = s := by
  rw [stripSlash, List.getLast?_concat, if_pos rfl, List.dropLast_concat]

theorem stripSlash_display (host : Str) (port : BitVec 16) :
    stripSlash (host ++ ':' :: displayPort port) = host ++ ':' :: displayPort port := by
  rw [stripSlash, if_neg]
  intro h
  have hlast : (displayPort port).getLast? = some '/' := by
    have hne : displayPort port ≠ [] := Nat.toDigits_ne_nil
    rwa [List.getLast?_append_of_ne_nil _ (List.cons_ne_nil _ _),
      List.getLast?_cons_of_ne_nil hne] at h
  exact not_mem_displayPort (by decide) (List.mem_of_getLast? hlast)

/-- The userinfo form of a body, with or without the slash at its end. -/
theorem parseBody_sip002 (hcrate : crate.Rfc4648) {r : SsUri} (hr : Nameable r) (hat : '@' ∉ r.host)
    (a : Alphabet) (padding : ℕ) (slash : Bool) :
    parseBody crate (encoded crate a padding (r.method ++ ':' :: r.password) ++ '@' ::
      (r.host ++ ':' :: displayPort r.port ++ if slash then ['/'] else [])) r.tag = .ok r := by
  have hsplit : '@' ∉ r.host ++ ':' :: displayPort r.port ++ if slash then ['/'] else [] := by
    have hport : '@' ∉ displayPort r.port := not_mem_displayPort (by decide)
    cases slash <;> simp [hat, hport]
  have hstrip : stripSlash (r.host ++ ':' :: displayPort r.port ++ if slash then ['/'] else []) =
      r.host ++ ':' :: displayPort r.port := by
    cases slash with
    | false => rw [if_neg Bool.false_ne_true, List.append_nil, stripSlash_display]
    | true => rw [if_pos rfl, stripSlash_append]
  rw [parseBody, rsplitOnce_eq_some_iff.2 ⟨rfl, hsplit⟩]
  dsimp only
  rw [decode_encoded hcrate, hstrip]
  simp only [bind, Except.bind,
    splitCreds_eq_ok.2 ⟨rfl, hr.method_colon, hr.method_ne, hr.password_ne⟩,
    splitHostPort_display hr.host_ne hr.port_ne hr.host_colon hr.host_bracket]
  rfl

/-- The form with everything encoded. -/
theorem parseBody_legacy (hcrate : crate.Rfc4648) {r : SsUri} (hr : Nameable r) (hat : '@' ∉ r.host)
    (a : Alphabet) (padding : ℕ) :
    parseBody crate (encoded crate a padding
      (r.method ++ ':' :: r.password ++ '@' :: (r.host ++ ':' :: displayPort r.port))) r.tag =
        .ok r := by
  have hnone : rsplitOnce '@' (encoded crate a padding
      (r.method ++ ':' :: r.password ++ '@' :: (r.host ++ ':' :: displayPort r.port))) = none :=
    rsplitOnce_eq_none_iff.2 fun h => (mem_encoded hcrate h).1 rfl
  have hsplit : '@' ∉ r.host ++ ':' :: displayPort r.port := by
    have hport : '@' ∉ displayPort r.port := not_mem_displayPort (by decide)
    simp [hat, hport]
  rw [parseBody, hnone]
  dsimp only
  rw [decode_encoded hcrate]
  simp only [bind, Except.bind, rsplitOnce_eq_some_iff.2 ⟨rfl, hsplit⟩,
    splitCreds_eq_ok.2 ⟨rfl, hr.method_colon, hr.method_ne, hr.password_ne⟩,
    splitHostPort_display hr.host_ne hr.port_ne hr.host_colon hr.host_bracket]
  rfl

/-- A query with its mark. -/
def queryPart (query : Option Str) : Str :=
  match query with
  | some q => '?' :: q
  | none => []

/-- A fragment with its mark. -/
def tagPart (tag : Option Str) : Str :=
  match tag with
  | some t => '#' :: encodeTag t
  | none => []

/-- A tag as a link has it: an empty one is none. -/
def readTag (tag : Option Str) : Option Str := tag.filter (· ≠ [])

theorem fragment_eq (tag : Option Str) : fragment tag = tagPart (readTag tag) := by
  cases tag with
  | none => rfl
  | some t =>
    by_cases ht : t = []
    · subst ht
      rfl
    · rw [fragment, if_pos ht, readTag, Option.filter_some_pos (by simpa using ht), tagPart]

@[simp] theorem readTag_readTag (tag : Option Str) : readTag (readTag tag) = readTag tag := by
  cases tag with
  | none => rfl
  | some t => by_cases ht : t = [] <;> simp [readTag, ht]

theorem splitTag_parts {body : Str} (hbody : '#' ∉ body) (tag : Option Str) :
    splitTag (body ++ tagPart tag) = (body, readTag tag) := by
  cases tag with
  | none =>
    rw [tagPart, List.append_nil, splitTag, splitOnce_eq_none_iff.2 hbody]
    rfl
  | some t =>
    rw [tagPart, splitTag, splitOnce_eq_some_iff.2 ⟨rfl, hbody⟩]
    dsimp only
    by_cases ht : t = []
    · subst ht
      rfl
    · rw [if_pos (encodeTag_ne_nil ht), decodeTag_encodeTag, readTag,
        Option.filter_some_pos (by simpa using ht)]

theorem dropQuery_parts {body : Str} (hbody : '?' ∉ body) (query : Option Str) :
    dropQuery (body ++ queryPart query) = body := by
  cases query with
  | none => rw [queryPart, List.append_nil, dropQuery, upTo, splitOnce_eq_none_iff.2 hbody]
  | some q => rw [queryPart, dropQuery, upTo, splitOnce_eq_some_iff.2 ⟨rfl, hbody⟩]

/-- Trimming may shorten a query at the end of a link, and nothing else of it. -/
theorem rdropWhile_parts {front : Str} (hfront : front.rdropWhile isWhitespace = front)
    {query : Option Str} (hquery : ∀ q ∈ query, '#' ∉ q) (tag : Option Str) :
    ∃ query' : Option Str, (∀ q ∈ query', '#' ∉ q) ∧ (query = none → query' = none) ∧
      (front ++ queryPart query ++ tagPart tag).rdropWhile isWhitespace =
        front ++ queryPart query' ++ tagPart tag := by
  cases tag with
  | some t =>
    refine ⟨query, hquery, id, ?_⟩
    have htag : (encodeTag t).rdropWhile isWhitespace = encodeTag t := by
      rw [List.rdropWhile_eq_self_iff]
      intro hne hlast
      rw [not_isWhitespace_encodeTag (List.getLast_mem hne)] at hlast
      cases hlast
    rw [tagPart, rdropWhile_append_of_ne _ (by decide), htag]
  | none =>
    cases query with
    | none => exact ⟨none, hquery, id, by simpa [tagPart, queryPart] using hfront⟩
    | some q =>
      refine ⟨some (q.rdropWhile isWhitespace), fun q' hq' hmem => ?_, fun h => (nomatch h), ?_⟩
      · obtain rfl := Option.some.inj hq'
        exact hquery q rfl ((List.rdropWhile_prefix _ _).subset hmem)
      · rw [tagPart, List.append_nil, List.append_nil, queryPart, queryPart,
          rdropWhile_append_of_ne _ (by decide)]

/-- What is around a link goes before it is read. -/
theorem parse_trimmed (crate : Base64Crate) (before body : Str) (query tag : Option Str)
    (after : Str) (hbefore : ∀ c ∈ before, isWhitespace c = true)
    (hafter : ∀ c ∈ after, isWhitespace c = true) (hlast : body.rdropWhile isWhitespace = body)
    (hbody : body ≠ []) (hquery : ∀ q ∈ query, '#' ∉ q) :
    ∃ query' : Option Str, (∀ q ∈ query', '#' ∉ q) ∧ (query = none → query' = none) ∧
      parseSsUri crate
        (before ++ ("ss://".toList ++ (body ++ queryPart query ++ tagPart tag)) ++ after) =
        parseBody crate (dropQuery (splitTag (body ++ queryPart query' ++ tagPart tag)).1)
          (splitTag (body ++ queryPart query' ++ tagPart tag)).2 := by
  have hfront : (['s', ':', '/', '/'] ++ body).rdropWhile isWhitespace =
      ['s', ':', '/', '/'] ++ body := by
    rw [List.rdropWhile_eq_self_iff] at hlast ⊢
    intro hne
    rw [List.getLast_append_of_right_ne_nil _ _ hbody]
    exact hlast hbody
  obtain ⟨query', hquery', hnone, htail⟩ := rdropWhile_parts hfront hquery tag
  have htrim : trim isWhitespace
      (before ++ ("ss://".toList ++ (body ++ queryPart query ++ tagPart tag)) ++ after) =
        "ss://".toList ++ (body ++ queryPart query' ++ tagPart tag) := by
    have haround := trim_around (p := isWhitespace) (x := 's')
      (['s', ':', '/', '/'] ++ body ++ queryPart query ++ tagPart tag) hbefore (by decide) hafter
    rw [htail] at haround
    simpa [List.append_assoc] using haround
  refine ⟨query', hquery', hnone, ?_⟩
  rw [parseSsUri, htrim, List.dropPrefix?_append_of_beq _ (beq_self_eq_true _)]

/-- **How a link is read**: what is around it goes, its query goes, its tag is decoded, and its body
is read in the form it has. -/
theorem parse_linkOf (crate : Base64Crate) (before body : Str)
    (query tag : Option Str) (after : Str)
    (hbefore : ∀ c ∈ before, isWhitespace c = true) (hafter : ∀ c ∈ after, isWhitespace c = true)
    (hlast : body.rdropWhile isWhitespace = body) (hbody : body ≠ [])
    (hhash : '#' ∉ body) (hmark : '?' ∉ body) (hquery : ∀ q ∈ query, '#' ∉ q) :
    parseSsUri crate
      (before ++ ("ss://".toList ++ (body ++ queryPart query ++ tagPart tag)) ++ after) =
        parseBody crate body (readTag tag) := by
  obtain ⟨query', hquery', -, hparse⟩ :=
    parse_trimmed crate before body query tag after hbefore hafter hlast hbody hquery
  have hno : '#' ∉ body ++ queryPart query' := by
    intro h
    obtain h | h := List.mem_append.1 h
    · exact hhash h
    · cases query' with
      | none => cases h
      | some q =>
        obtain h | h := List.mem_cons.1 h
        · cases h
        · exact hquery' q rfl h
  rw [hparse, splitTag_parts hno, dropQuery_parts hmark]

/-! ## What is read -/

/-- **What is accepted can be named**, and in the userinfo form the host is a part of the link. -/
theorem nameable_of_parseBody {body : Str} {tag : Option Str} {r : SsUri}
    (h : parseBody crate body tag = .ok r) :
    Nameable r ∧ ('@' ∈ body → '@' ∉ r.host ∧ ∀ c ∈ r.host, c ∈ body) := by
  have hfinish : ∀ {s hostport m p host port}, splitCreds s = .ok (m, p) →
      splitHostPort hostport = .ok (host, port) →
      Nameable ⟨host, port, m, p, tag⟩ ∧ ∀ c ∈ host, c ∈ hostport := by
    intro s hostport m p host port hcreds hhost
    obtain ⟨-, hcolon, hm, hp⟩ := splitCreds_eq_ok.1 hcreds
    obtain ⟨digits, rfl, -, -, hne, hport, hc, hb⟩ := splitHostPort_eq_ok.1 hhost
    exact ⟨⟨hm, hcolon, hp, hne, hc, hb, hport⟩, fun c hmem => List.mem_append_left _ hmem⟩
  rw [parseBody] at h
  split at h
  · next creds hostport hsplit =>
    obtain ⟨hbody, hat⟩ := rsplitOnce_eq_some_iff.1 hsplit
    obtain ⟨text, -, h⟩ := bind_eq_ok h
    obtain ⟨⟨m, p⟩, hcreds, h⟩ := bind_eq_ok h
    obtain ⟨⟨host, port⟩, hhost, h⟩ := bind_eq_ok h
    obtain rfl := Except.ok.inj h
    obtain ⟨hname, hmem⟩ := hfinish hcreds hhost
    have hstrip : ∀ c ∈ stripSlash hostport, c ∈ hostport := by
      intro c hc
      rw [stripSlash] at hc
      split at hc
      · exact List.dropLast_subset _ hc
      · exact hc
    refine ⟨hname, fun _ => ⟨fun hmem' => hat (hstrip _ (hmem _ hmem')), fun c hc => ?_⟩⟩
    rw [hbody]
    exact List.mem_append_right _ (List.mem_cons_of_mem _ (hstrip c (hmem c hc)))
  · next hnone =>
    obtain ⟨all, -, h⟩ := bind_eq_ok h
    split at h
    · cases h
    · obtain ⟨⟨m, p⟩, hcreds, h⟩ := bind_eq_ok h
      obtain ⟨⟨host, port⟩, hhost, h⟩ := bind_eq_ok h
      obtain rfl := Except.ok.inj h
      exact ⟨(hfinish hcreds hhost).1, fun hat => absurd hat (rsplitOnce_eq_none_iff.1 hnone)⟩

theorem splitTag_fst (rest : Str) : (splitTag rest).1 = upTo '#' rest := by
  rw [splitTag, upTo]
  split <;> next h => rw [h]

/-- No character of a host that ends a host in a link. -/
def Undelimited (host : Str) : Prop := '@' ∉ host ∧ '#' ∉ host ∧ '?' ∉ host

/-- The body of a rendered link. -/
def renderBody (crate : Base64Crate) (r : SsUri) : Str :=
  encoded crate .urlSafe 0 (r.method ++ ':' :: r.password) ++ '@' ::
    (r.host ++ ':' :: displayPort r.port)

theorem renderSsUri_eq (r : SsUri) :
    renderSsUri crate r.method r.password r.host r.port r.tag =
      "ss://".toList ++ (renderBody crate r ++ tagPart (readTag r.tag)) := by
  unfold renderSsUri renderBody encoded Base64Crate.engine
  rw [fragment_eq, List.replicate_zero, List.append_nil]
  simp only [List.append_assoc, List.cons_append]

theorem renderBody_ne_nil (r : SsUri) : renderBody crate r ≠ [] :=
  List.append_ne_nil_of_right_ne_nil _ (List.cons_ne_nil _ _)

/-- A digit is no white space. -/
theorem not_isWhitespace_of_isDigit {c : Char} (hc : c.isDigit = true) :
    isWhitespace c = false := by
  rw [Char.isDigit, Bool.and_eq_true, decide_eq_true_iff, decide_eq_true_iff] at hc
  have hlow : 48 ≤ c.toNat := hc.1
  have hhigh : c.toNat ≤ 57 := hc.2
  rw [Bool.eq_false_iff]
  intro h
  simp only [isWhitespace, Bool.or_eq_true, Bool.and_eq_true, decide_eq_true_iff, beq_iff_eq] at h
  omega

theorem displayPort_rdropWhile (port : BitVec 16) :
    (displayPort port).rdropWhile isWhitespace = displayPort port := by
  rw [List.rdropWhile_eq_self_iff]
  intro hne hlast
  rw [not_isWhitespace_of_isDigit (isDigit_of_mem_displayPort (List.getLast_mem hne))] at hlast
  cases hlast

theorem renderBody_rdropWhile (r : SsUri) :
    (renderBody crate r).rdropWhile isWhitespace = renderBody crate r := by
  have hsplit : renderBody crate r = (encoded crate .urlSafe 0 (r.method ++ ':' :: r.password) ++
      '@' :: r.host) ++ ':' :: displayPort r.port := by
    rw [renderBody, List.append_assoc, List.cons_append]
  rw [hsplit, rdropWhile_append_of_ne _ (by decide), displayPort_rdropWhile]

/-- The marks of a fragment and a query are not in the credentials, nor in the '@' behind them. -/
theorem not_mem_userinfo (hcrate : crate.Rfc4648) {a : Alphabet} {padding : ℕ} {creds rest : Str}
    {c : Char} (hc : c = '#' ∨ c = '?') (hrest : c ∉ rest) :
    c ∉ encoded crate a padding creds ++ '@' :: rest := by
  intro hmem
  obtain hmem | hmem := List.mem_append.1 hmem
  · obtain ⟨-, hhash, hmark, -⟩ := mem_encoded hcrate hmem
    exact hc.elim hhash hmark
  · obtain rfl | hmem := List.mem_cons.1 hmem
    · exact absurd hc (by decide)
    · exact hrest hmem

/-- A rendered link is read, if at all, in the userinfo form and up to a delimiter in its host. -/
theorem parse_render_host (hcrate : crate.Rfc4648) {r r' : SsUri}
    (h : parseSsUri crate (renderSsUri crate r.method r.password r.host r.port r.tag) = .ok r') :
    Nameable r' ∧ Undelimited r'.host := by
  obtain ⟨query, -, hnone, hparse⟩ := parse_trimmed crate [] (renderBody crate r) none
    (readTag r.tag) [] (fun _ h => (nomatch h)) (fun _ h => (nomatch h)) (renderBody_rdropWhile r)
    (renderBody_ne_nil r) (fun _ h => (nomatch h))
  obtain rfl := hnone rfl
  simp only [queryPart, List.append_nil, List.nil_append] at hparse
  rw [renderSsUri_eq, hparse, splitTag_fst, dropQuery] at h
  have hcreds : ∀ c, c = '#' ∨ c = '?' →
      c ∉ encoded crate .urlSafe 0 (r.method ++ ':' :: r.password) ++ ['@'] :=
    fun c hc => not_mem_userinfo hcrate hc List.not_mem_nil
  -- the credentials and the '@' behind them are free of the delimiters that end a body
  have hfront : renderBody crate r ++ tagPart (readTag r.tag) =
      encoded crate .urlSafe 0 (r.method ++ ':' :: r.password) ++ ['@'] ++
        (r.host ++ ':' :: displayPort r.port ++ tagPart (readTag r.tag)) := by
    simp only [renderBody, List.append_assoc, List.cons_append, List.nil_append]
  rw [hfront, upTo_append_of_not_mem (hcreds '#' (Or.inl rfl)),
    upTo_append_of_not_mem (hcreds '?' (Or.inr rfl))] at h
  obtain ⟨hname, hhost⟩ := nameable_of_parseBody h
  obtain ⟨hat, hmem⟩ := hhost (by simp)
  refine ⟨hname, hat, fun hc => ?_, fun hc => ?_⟩
  · obtain hc | hc := List.mem_append.1 (hmem _ hc)
    · exact hcreds '#' (Or.inl rfl) hc
    · exact not_mem_upTo _ _ ((upTo_prefix_self _ _).subset hc)
  · obtain hc | hc := List.mem_append.1 (hmem _ hc)
    · exact hcreds '?' (Or.inr rfl) hc
    · exact not_mem_upTo _ _ hc

theorem Undelimited.not_mem_display {host : Str} (h : Undelimited host) (port : BitVec 16) :
    '#' ∉ host ++ ':' :: displayPort port ∧ '?' ∉ host ++ ':' :: displayPort port := by
  have hhash : '#' ∉ displayPort port := not_mem_displayPort (by decide)
  have hmark : '?' ∉ displayPort port := not_mem_displayPort (by decide)
  simp [h.2.1, h.2.2, hhash, hmark]

/-- **Rendering and reading**: exactly the servers that can be named, with a host that has no
delimiter in it, survive. -/
theorem parse_render_iff (hcrate : crate.Rfc4648) (r : SsUri) :
    parseSsUri crate (renderSsUri crate r.method r.password r.host r.port r.tag) =
      .ok { r with tag := readTag r.tag } ↔ Nameable r ∧ Undelimited r.host := by
  constructor
  · intro h
    obtain ⟨hname, hhost⟩ := parse_render_host hcrate h
    exact ⟨hname.withTag r.tag, hhost⟩
  · rintro ⟨hname, hhost⟩
    obtain ⟨hhash, hmark⟩ := hhost.not_mem_display r.port
    have hlink := parse_linkOf crate [] (renderBody crate r) none (readTag r.tag) []
      (fun _ h => (nomatch h)) (fun _ h => (nomatch h)) (renderBody_rdropWhile r)
      (renderBody_ne_nil r) (not_mem_userinfo hcrate (Or.inl rfl) hhash)
      (not_mem_userinfo hcrate (Or.inr rfl) hmark) (fun _ h => (nomatch h))
    simp only [queryPart, List.append_nil, List.nil_append, readTag_readTag] at hlink
    rw [renderSsUri_eq, hlink]
    have hbody := parseBody_sip002 hcrate (hname.withTag (readTag r.tag)) hhost.1 .urlSafe 0 false
    simp only [Bool.false_eq_true, if_false, List.append_nil] at hbody
    exact hbody

/-- **The domain of rendering**: what was rendered is read as it was, an empty tag as none, exactly
if the method is not empty and has no colon, the password is not empty, the host is not empty and
has none of the delimiters, and the port is not zero. -/
theorem parse_renderSsUri_iff (hcrate : crate.Rfc4648) (method password host : Str)
    (port : BitVec 16) (tag : Option Str) :
    parseSsUri crate (renderSsUri crate method password host port tag) =
        .ok ⟨host, port, method, password, readTag tag⟩ ↔
      (method ≠ [] ∧ ':' ∉ method) ∧ password ≠ [] ∧
        (host ≠ [] ∧ ':' ∉ host ∧ '[' ∉ host ∧ '@' ∉ host ∧ '#' ∉ host ∧ '?' ∉ host) ∧
        1 ≤ port.toNat := by
  have hport : port ≠ 0 ↔ 1 ≤ port.toNat := by
    rw [Nat.one_le_iff_ne_zero, ne_eq, ne_eq, ← BitVec.toNat_inj]
    rfl
  rw [parse_render_iff hcrate ⟨host, port, method, password, tag⟩, ← hport]
  constructor
  · rintro ⟨hname, hat, hhash, hmark⟩
    exact ⟨⟨hname.method_ne, hname.method_colon⟩, hname.password_ne,
      ⟨hname.host_ne, hname.host_colon, hname.host_bracket, hat, hhash, hmark⟩, hname.port_ne⟩
  · rintro ⟨⟨hm, hcolon⟩, hp, ⟨hh, hc, hb, hat, hhash, hmark⟩, hport⟩
    exact ⟨⟨hm, hcolon, hp, hh, hc, hb, hport⟩, hat, hhash, hmark⟩

/-- The codecs themselves as a crate. -/
def codecs : Base64Crate :=
  ⟨⟨Base64.encode Base64.urlSafe, Base64.decode Base64.urlSafe⟩,
    ⟨Base64.encode Base64.standard, Base64.decode Base64.standard⟩⟩

theorem codecs_rfc4648 : codecs.Rfc4648 where
  urlSafe := ⟨fun _ => rfl, fun _ _ => Base64.decode_eq_some_iff Base64.urlSafe_injective⟩
  standard := ⟨fun _ => rfl, fun _ _ => Base64.decode_eq_some_iff Base64.standard_injective⟩

/-- A link with a tag survives; one whose host has a question mark does not. -/
theorem parse_renderSsUri_home :
    parseSsUri codecs (renderSsUri codecs "aes-256-gcm".toList "a:b@c".toList "example.com".toList
      8388 (some "My Home".toList)) =
        .ok ⟨"example.com".toList, 8388, "aes-256-gcm".toList, "a:b@c".toList,
          some "My Home".toList⟩ ∧
    parseSsUri codecs (renderSsUri codecs "aes-256-gcm".toList "pw".toList "a?b".toList 8388 none) ≠
        .ok ⟨"a?b".toList, 8388, "aes-256-gcm".toList, "pw".toList, none⟩ := by
  constructor
  · exact (parse_renderSsUri_iff codecs_rfc4648 _ _ _ _ _).2 (by decide)
  · intro h
    have hhost := (parse_renderSsUri_iff codecs_rfc4648 _ _ _ _ none).1 h
    exact absurd hhost (by decide)

/-! ## Spellings -/

/-- A form of a link, with what only that form has. -/
inductive Form
  | sip002 (slash : Bool) (query : Option Str)
  | legacy

/-- A way to spell a link. -/
structure Spelling where
  alphabet : Alphabet
  padding : ℕ
  form : Form
  before : Str
  after : Str

/-- White space around the link, and no fragment mark in the query. -/
structure Spelling.WellFormed (sp : Spelling) : Prop where
  before : ∀ c ∈ sp.before, isWhitespace c = true
  after : ∀ c ∈ sp.after, isWhitespace c = true
  query : ∀ slash q, sp.form = .sip002 slash (some q) → '#' ∉ q

/-- The body of a server's link, and its query. -/
def Spelling.body (crate : Base64Crate) (sp : Spelling) (r : SsUri) : Str × Option Str :=
  match sp.form with
  | .sip002 slash query =>
    (encoded crate sp.alphabet sp.padding (r.method ++ ':' :: r.password) ++ '@' ::
      (r.host ++ ':' :: displayPort r.port ++ if slash then ['/'] else []), query)
  | .legacy =>
    (encoded crate sp.alphabet sp.padding
      (r.method ++ ':' :: r.password ++ '@' :: (r.host ++ ':' :: displayPort r.port)), none)

/-- A server's link. -/
def Spelling.link (crate : Base64Crate) (sp : Spelling) (r : SsUri) : Str :=
  sp.before ++ ("ss://".toList ++ ((sp.body crate r).1 ++ queryPart (sp.body crate r).2 ++
    tagPart r.tag)) ++ sp.after

theorem encoded_ne_nil (hcrate : crate.Rfc4648) (a : Alphabet) (padding : ℕ) {s : Str}
    (hs : s ≠ []) :
    encoded crate a padding s ≠ [] := by
  refine List.append_ne_nil_of_left_ne_nil ?_ _
  have hbytes := asBytes_ne_nil hs
  cases a with
  | urlSafe =>
    rw [Base64Crate.engine, hcrate.urlSafe.encode]
    exact Base64.encode_ne_nil hbytes
  | standard =>
    rw [Base64Crate.engine, hcrate.standard.encode]
    exact Base64.encode_ne_nil hbytes

/-- A body has no mark of a fragment or a query in it, and white space is not at its end. -/
theorem Spelling.body_clean (hcrate : crate.Rfc4648) (sp : Spelling) {r : SsUri}
    (hhost : Undelimited r.host) :
    '#' ∉ (sp.body crate r).1 ∧ '?' ∉ (sp.body crate r).1 ∧ (sp.body crate r).1 ≠ [] ∧
      (sp.body crate r).1.rdropWhile isWhitespace = (sp.body crate r).1 := by
  obtain ⟨hhash, hmark⟩ := hhost.not_mem_display r.port
  rw [Spelling.body]
  cases sp.form with
  | sip002 slash query =>
    have hslash : ∀ c, c = '#' ∨ c = '?' → c ∉ r.host ++ ':' :: displayPort r.port →
        c ∉ r.host ++ ':' :: displayPort r.port ++ if slash then ['/'] else [] := by
      intro c hc hnot hmem
      obtain hmem | hmem := List.mem_append.1 hmem
      · exact hnot hmem
      · cases slash with
        | false => cases hmem
        | true =>
          obtain rfl := List.mem_singleton.1 hmem
          exact absurd hc (by decide)
    refine ⟨not_mem_userinfo hcrate (Or.inl rfl) (hslash '#' (Or.inl rfl) hhash),
      not_mem_userinfo hcrate (Or.inr rfl) (hslash '?' (Or.inr rfl) hmark),
      List.append_ne_nil_of_right_ne_nil _ (List.cons_ne_nil _ _), ?_⟩
    cases slash with
    | false =>
      simp only [Bool.false_eq_true, if_false, List.append_nil]
      rw [← List.cons_append, ← List.append_assoc, rdropWhile_append_of_ne _ (by decide),
        displayPort_rdropWhile]
    | true =>
      simp only [if_true]
      rw [← List.cons_append, ← List.append_assoc, rdropWhile_append_of_ne _ (by decide),
        List.rdropWhile_nil]
  | legacy =>
    refine ⟨fun h => (mem_encoded hcrate h).2.1 rfl, fun h => (mem_encoded hcrate h).2.2.1 rfl,
      encoded_ne_nil hcrate _ _ (List.append_ne_nil_of_right_ne_nil _ (List.cons_ne_nil _ _)), ?_⟩
    rw [List.rdropWhile_eq_self_iff]
    intro hne hlast
    rw [(mem_encoded hcrate (List.getLast_mem hne)).2.2.2] at hlast
    cases hlast

/-- **All spellings are one server**: in either form and alphabet, with any padding, with or without
a slash and a query, and with white space around it, a link is read as the server it was written
for. -/
theorem parseSsUri_spelling (hcrate : crate.Rfc4648) (r : SsUri)
    (hmethod : r.method ≠ [] ∧ ':' ∉ r.method) (hpassword : r.password ≠ [])
    (hhost : r.host ≠ [] ∧ ':' ∉ r.host ∧ '[' ∉ r.host ∧ '@' ∉ r.host ∧ '#' ∉ r.host ∧ '?' ∉ r.host)
    (hport : 1 ≤ r.port.toNat) (sp : Spelling) (hsp : sp.WellFormed) :
    parseSsUri crate (sp.link crate r) = .ok { r with tag := readTag r.tag } := by
  obtain ⟨hh, hc, hb, hundelimited⟩ := hhost
  have hzero : r.port ≠ 0 := by
    intro h
    rw [h] at hport
    exact absurd hport (by decide)
  have hname : Nameable { r with tag := readTag r.tag } :=
    ⟨hmethod.1, hmethod.2, hpassword, hh, hc, hb, hzero⟩
  obtain ⟨hhash, hmark, hne, hlast⟩ := sp.body_clean hcrate hundelimited
  have hquery : ∀ q ∈ (sp.body crate r).2, '#' ∉ q := by
    intro q hq
    rw [Spelling.body] at hq
    cases hform : sp.form with
    | sip002 slash query =>
      rw [hform] at hq
      obtain rfl : query = some q := hq
      exact hsp.query slash q hform
    | legacy =>
      rw [hform] at hq
      cases hq
  rw [Spelling.link, parse_linkOf _ _ _ _ _ _ hsp.before hsp.after hlast hne hhash hmark hquery,
    Spelling.body]
  cases sp.form with
  | sip002 slash query =>
    exact parseBody_sip002 hcrate hname hundelimited.1 sp.alphabet sp.padding slash
  | legacy => exact parseBody_legacy hcrate hname hundelimited.1 sp.alphabet sp.padding

/-- A padded legacy link in the standard alphabet, and the same server's with a slash and a
query. -/
theorem parseSsUri_spelling_home :
    let r : SsUri := ⟨"198.51.100.7".toList, 8388, "aes-256-gcm".toList, ".NnOB?FXL4k".toList, none⟩
    parseSsUri codecs (Spelling.link codecs ⟨.standard, 2, .legacy, [], ['\n']⟩ r) =
      parseSsUri codecs
        (Spelling.link codecs
          ⟨.urlSafe, 0, .sip002 true (some "outline=1".toList), [' '], []⟩ r) := by
  intro r
  have hone := parseSsUri_spelling codecs_rfc4648 r (by decide) (by decide) (by decide) (by decide)
    ⟨.standard, 2, .legacy, [], ['\n']⟩
    ⟨List.forall_mem_nil _, List.forall_mem_singleton.2 (by decide), fun _ _ h => (nomatch h)⟩
  have htwo := parseSsUri_spelling codecs_rfc4648 r (by decide) (by decide) (by decide) (by decide)
    ⟨.urlSafe, 0, .sip002 true (some "outline=1".toList), [' '], []⟩
    ⟨List.forall_mem_singleton.2 (by decide), List.forall_mem_nil _, fun slash q h => by
      obtain ⟨-, hq⟩ := Form.sip002.inj h
      obtain rfl := Option.some.inj hq
      decide⟩
  rw [hone, htwo]

end LiosTunnel.Protocols.Link
