import Pop3sf.Answers

set_option autoImplicit false

/-!
# What a session writes: whole responses, and 7-bit ones before `UTF8` (RFC 6856)

A session encodes its responses under `ClientStatusHolder.encoding`: `"ascii"` from
the start, `"utf-8"` once `_command_utf8` has run, and never back
(`ClientStatusHolder.Evolves`).  `_encode_and_send_data_to_client` encodes every
response, the greeting included, under the encoding the session has when it is
written, and writes the ASCII `-ERR [UTF8]` substitute for a response that does not
encode.  So a session that has not switched to UTF-8 has written nothing but 7-bit
bytes (`sent_ascii_until_utf8`), which RFC 6856 asks of a server until the client
sends `UTF8`.

Every write is the encoding of the whole text of the response its step raised
(`ClientHandler.raisedResponse` for a line, the greeting for the opening), or of the
`[UTF8]` substitute when that one does not encode (`ClientHandler.writtenResponse`), and
both encodings a session uses decode as UTF-8 to the text they encoded
(`decodeUtf8_encodeWith`).  So the byte stream a session has written reads, as UTF-8, as
the texts of its responses one after the other (`sent_decodes_to_responses`).

`SessionStep.sent_cases` says once what a step can write: nothing, or one response
encoded under the status the step leaves.
-/

namespace Pop3sf

/-- Under an encoding other than `"utf-8"` (the session's `"ascii"`), every byte
written is below `0x80`. -/
theorem encodeWith_lt_of_ne_utf8 {encoding : String} (hu : encoding ≠ "utf-8") {s : List Char}
    {bytes : List UInt8} (h : encodeWith encoding s = some bytes) :
    ∀ b ∈ bytes, b.toNat < 0x80 := by
  unfold encodeWith at h
  rw [if_neg hu] at h
  split_ifs at h with hall
  cases h
  intro b hb
  obtain ⟨c, hc, rfl⟩ := List.mem_map.1 hb
  have hlt : c.toNat < 0x80 := by simpa using List.all_eq_true.1 hall c hc
  rw [Nat.toUInt8, UInt8.toNat_ofNat_of_lt (lt_of_lt_of_le hlt (by decide))]
  exact hlt

namespace ClientHandler

/-- A response written by `_encode_and_send_data_to_client` under a status that is not
in UTF-8 mode, substitute or not, is 7-bit. -/
theorem encodeAndSendDataToClient_lt {st : ClientStatusHolder} (hu : st.encoding ≠ "utf-8")
    {e : SendDataToClientException} {bytes : List UInt8}
    (h : encodeAndSendDataToClient st e = some bytes) : ∀ b ∈ bytes, b.toNat < 0x80 := by
  unfold encodeAndSendDataToClient at h
  split at h
  · cases h
    exact encodeWith_lt_of_ne_utf8 hu ‹_›
  · exact encodeWith_lt_of_ne_utf8 hu h

/-- The response `_encode_and_send_data_to_client` writes for `e` under the status `st`:
`e` itself, or the `[UTF8]` substitute when `e` does not encode. -/
def writtenResponse (st : ClientStatusHolder) (e : SendDataToClientException) :
    SendDataToClientException :=
  if (e.buildMessage st.customLanguage st.encoding).isSome then e else nonAsciiSubstitute

/-- What `_encode_and_send_data_to_client` writes decodes as UTF-8 to the whole text of
the response it writes. -/
theorem encodeAndSendDataToClient_decodes {st : ClientStatusHolder} {e : SendDataToClientException}
    {bytes : List UInt8} (h : encodeAndSendDataToClient st e = some bytes) :
    decodeUtf8 bytes = some ((writtenResponse st e).buildMessageString st.customLanguage) := by
  unfold encodeAndSendDataToClient at h
  unfold writtenResponse
  split at h
  · rename_i hb
    cases h
    rw [hb, if_pos Option.isSome_some]
    exact decodeUtf8_encodeWith hb
  · rename_i hb
    rw [hb, if_neg (by simp)]
    exact decodeUtf8_encodeWith h

variable {σ : Type} (cfg : Settings) (A : AdapterBase σ)

/-- The response processing a line raises: the `Empty command` of `_parse_command`, or
the one the command handler raises; `none` when an adapter exception escapes. -/
def raisedResponse (line : String) (w : World σ) : Option SendDataToClientException :=
  match parseCommand line with
  | .error e => some e
  | .ok (command, args) =>
    match ClientCommandHandler.handleCommand cfg A command args w with
    | .error (.send e) _ => some e
    | _ => none

/-- Processing a line writes the response it raises, and only that. -/
theorem processLine_raised (line : String) (w : World σ) :
    (∀ e, raisedResponse cfg A line w = some e →
      (processLine cfg A line w).1 = sendResponse (processLine cfg A line w).2 e) ∧
    (raisedResponse cfg A line w = none → ∀ bytes close,
      (processLine cfg A line w).1 ≠ .sent bytes close) := by
  unfold raisedResponse processLine
  cases parseCommand line with
  | error e => exact ⟨fun e' he => by cases he; rfl, fun h => nomatch h⟩
  | ok p =>
    obtain ⟨r, w', hw⟩ := exists_error_of_wp
      (ClientCommandHandler.handleCommand_answers cfg A p.1 p.2 w)
    dsimp only
    rw [hw]
    cases r with
    | send e => exact ⟨fun e' he => by cases he; rfl, fun h => nomatch h⟩
    | adapterFault _ => exact ⟨fun _ h => (nomatch h), fun _ _ _ h => nomatch h⟩

end ClientHandler

/-- Chunks that each decode to a message decode, written one after the other, to the
messages one after the other. -/
theorem exists_decodeUtf8_flatten {P : List Char → Prop} :
    ∀ {chunks : List (List UInt8)},
      (∀ chunk ∈ chunks, ∃ m, decodeUtf8 chunk = some m ∧ P m) →
        ∃ msgs : List (List Char),
          List.Forall₂ (fun chunk m => decodeUtf8 chunk = some m ∧ P m) chunks msgs ∧
            decodeUtf8 chunks.flatten = some msgs.flatten
  | [], _ => ⟨[], .nil, rfl⟩
  | chunk :: chunks, h => by
    obtain ⟨m, hm, hp⟩ := h chunk (List.mem_cons_self _ _)
    obtain ⟨msgs, h₂, hd⟩ :=
      exists_decodeUtf8_flatten fun c hc => h c (List.mem_cons_of_mem _ hc)
    exact ⟨m :: msgs, .cons ⟨hm, hp⟩ h₂, decodeUtf8_append hm hd⟩

section Steps

variable {σ : Type} {cfg : Settings} {A : AdapterBase σ}

/-- What one step of a session writes: nothing, or one response encoded under the
status the step leaves. -/
theorem SessionStep.sent_cases {s t : Session σ} (h : SessionStep cfg A s t) :
    t.sent = s.sent ∨
      ∃ e bytes, ClientHandler.encodeAndSendDataToClient t.world.status e = some bytes ∧
        t.sent = s.sent ++ [bytes] := by
  rcases h with ⟨h⟩ | ⟨call, -⟩
  · cases h with
    | opened =>
      unfold Session.opened
      split
      · split
        · exact .inr ⟨greeting, _, ‹_›, rfl⟩
        · exact .inl rfl
      · exact .inl rfl
    | line line =>
      unfold Session.serveLine
      split
      · rename_i bytes close w hp
        rcases ClientHandler.processLine_outcome cfg A line s.world with
          ⟨e, he⟩ | ⟨fault, hf⟩
        · rw [hp] at he
          unfold ClientHandler.sendResponse at he
          split at he
          · cases he
            exact .inr ⟨e, bytes, ‹_›, rfl⟩
          · cases he
        · rw [hp] at hf
          cases hf
      · exact .inl rfl
    | dropped => exact .inl rfl
    | tornDown => exact .inl rfl
  · exact .inl rfl

/-- A line served in a reachable session writes the whole text of the response it raised
(or of the `[UTF8]` substitute), and a line that raises none writes nothing. -/
theorem Session.serveLine_sent {s : Session σ} (hs : SessionReachable cfg A s)
    (hph : s.phase = .serving) (line : String) :
    (∀ e, ClientHandler.raisedResponse cfg A line s.world = some e → ∃ bytes,
      (s.serveLine cfg A line).sent = s.sent ++ [bytes] ∧ decodeUtf8 bytes = some
        ((ClientHandler.writtenResponse (s.serveLine cfg A line).world.status e).buildMessageString
          (s.serveLine cfg A line).world.status.customLanguage)) ∧
    (ClientHandler.raisedResponse cfg A line s.world = none →
      (s.serveLine cfg A line).sent = s.sent) := by
  have ht : SessionReachable cfg A (s.serveLine cfg A line) := .step hs (.own (.line s line hph))
  have hlanguage :=
    (ht.invariant.consistent (Session.serveLine_phase_ne_closed cfg A s line)).customLanguage_mem
  rw [Session.serveLine_world] at hlanguage ⊢
  obtain ⟨hsome, hnone⟩ := ClientHandler.processLine_raised cfg A line s.world
  refine ⟨fun e he => ?_, fun he => ?_⟩
  · obtain ⟨bytes, hbytes⟩ :=
      Option.isSome_iff_exists.mp (encodeAndSendDataToClient_isSome hlanguage e)
    have h := hsome e he
    rw [ClientHandler.sendResponse, hbytes] at h
    refine ⟨bytes, ?_, ClientHandler.encodeAndSendDataToClient_decodes hbytes⟩
    unfold Session.serveLine
    rw [← Prod.mk.eta (p := ClientHandler.processLine cfg A line s.world), h]
  · unfold Session.serveLine
    split
    · rename_i bytes close w hp
      exact absurd (by rw [hp]) (hnone he bytes close)
    · rfl

/-- The greeting is written whole when `connection_opened` returns, and nothing is written
when it raises. -/
theorem Session.opened_sent {s : Session σ} (hs : SessionReachable cfg A s)
    (hph : s.phase = .opening) :
    (∀ w, AdapterHelperWrapper.connectionOpened A s.world = .ok () w → ∃ bytes,
      (s.opened A).sent = s.sent ++ [bytes] ∧ decodeUtf8 bytes = some
        ((ClientHandler.writtenResponse w.status greeting).buildMessageString
          w.status.customLanguage)) ∧
    (∀ r w, AdapterHelperWrapper.connectionOpened A s.world = .error r w →
      (s.opened A).sent = s.sent) := by
  have ht : SessionReachable cfg A (s.opened A) := .step hs (.own (.opened s hph))
  have hlanguage :=
    (ht.invariant.consistent (Session.opened_phase_ne_closed A s)).customLanguage_mem
  rw [Session.opened_world] at hlanguage
  refine ⟨fun w hc => ?_, fun r w hc => ?_⟩ <;> unfold Session.opened <;> simp only [hc]
  simp only [hc, World.after] at hlanguage
  obtain ⟨bytes, hbytes⟩ :=
    Option.isSome_iff_exists.mp (encodeAndSendDataToClient_isSome hlanguage greeting)
  exact ⟨bytes, by simp only [hbytes], ClientHandler.encodeAndSendDataToClient_decodes hbytes⟩

/-- A session that is not in UTF-8 mode has written only 7-bit bytes. -/
def Session.WroteAscii (s : Session σ) : Prop :=
  s.world.status.encoding ≠ "utf-8" → ∀ chunk ∈ s.sent, ∀ b ∈ chunk, b.toNat < 0x80

theorem SessionStep.wroteAscii {s t : Session σ} (h : SessionStep cfg A s t) (hs : s.Invariant)
    (hw : s.WroteAscii) : t.WroteAscii := by
  intro hu
  have hu' : s.world.status.encoding ≠ "utf-8" := fun h' =>
    hu ((h.invariant hs).2.status.encoding h')
  rcases h.sent_cases with hsent | ⟨e, bytes, he, hsent⟩
  · exact hsent ▸ hw hu'
  · intro chunk hchunk
    rw [hsent, List.mem_append, List.mem_singleton] at hchunk
    rcases hchunk with hchunk | rfl
    · exact hw hu' chunk hchunk
    · exact ClientHandler.encodeAndSendDataToClient_lt hu he

theorem SessionReachable.wroteAscii {s : Session σ} (hs : SessionReachable cfg A s) :
    s.WroteAscii := by
  induction hs with
  | initial => exact fun _ chunk h => absurd h (List.not_mem_nil chunk)
  | step hs hstep ih => exact hstep.wroteAscii hs.invariant ih

/-- In every session run, as long as the client has not switched the session to UTF-8,
every byte the server has written to it, greeting included, is 7-bit ASCII. -/
theorem sent_ascii_until_utf8 {s : Session σ} (hs : SessionReachable cfg A s)
    (hascii : s.world.status.encoding = "ascii") :
    ∀ chunk ∈ s.sent, ∀ b ∈ chunk, b.toNat < 0x80 :=
  hs.wroteAscii (by rw [hascii]; decide)

/-- Every chunk a session has written decodes as UTF-8 to the text of a response. -/
def Session.WroteResponses (s : Session σ) : Prop :=
  ∀ chunk ∈ s.sent, ∃ (e : SendDataToClientException) (language : Option String),
    decodeUtf8 chunk = some (e.buildMessageString language)

theorem SessionStep.wroteResponses {s t : Session σ} (h : SessionStep cfg A s t)
    (hw : s.WroteResponses) : t.WroteResponses := by
  rcases h.sent_cases with hsent | ⟨e, bytes, he, hsent⟩
  · exact fun chunk hc => hw chunk (hsent ▸ hc)
  · intro chunk hchunk
    rw [hsent, List.mem_append, List.mem_singleton] at hchunk
    rcases hchunk with hchunk | rfl
    · exact hw chunk hchunk
    · exact ⟨_, _, ClientHandler.encodeAndSendDataToClient_decodes he⟩

theorem SessionReachable.wroteResponses {s : Session σ} (hs : SessionReachable cfg A s) :
    s.WroteResponses := by
  induction hs with
  | initial => exact fun chunk h => absurd h (List.not_mem_nil chunk)
  | step _ hstep ih => exact hstep.wroteResponses ih

/-- In every session run, the bytes the server has written, read as one UTF-8 stream,
are the texts of whole responses one after the other, one per write.  Each write is the
whole text of the response its step raised, or of the `[UTF8]` substitute when that one
does not encode: the greeting once `connection_opened` has returned, the response to a
line; a step that raises none writes nothing.  No write cuts a response or splits a
character, whatever the session's encoding was. -/
theorem sent_decodes_to_responses {s : Session σ} (hs : SessionReachable cfg A s) :
    (∃ msgs : List (List Char),
      List.Forall₂ (fun chunk m => decodeUtf8 chunk = some m ∧
        ∃ (e : SendDataToClientException) (language : Option String),
          m = e.buildMessageString language) s.sent msgs ∧
      decodeUtf8 s.sent.flatten = some msgs.flatten) ∧
    (s.phase = .opening →
      (∀ w, AdapterHelperWrapper.connectionOpened A s.world = .ok () w → ∃ bytes,
        (s.opened A).sent = s.sent ++ [bytes] ∧ decodeUtf8 bytes = some
          ((ClientHandler.writtenResponse w.status greeting).buildMessageString
            w.status.customLanguage)) ∧
      ∀ r w, AdapterHelperWrapper.connectionOpened A s.world = .error r w →
        (s.opened A).sent = s.sent) ∧
    (s.phase = .serving → ∀ line,
      (∀ e, ClientHandler.raisedResponse cfg A line s.world = some e → ∃ bytes,
        (s.serveLine cfg A line).sent = s.sent ++ [bytes] ∧ decodeUtf8 bytes = some
          ((ClientHandler.writtenResponse (s.serveLine cfg A line).world.status e).buildMessageString
            (s.serveLine cfg A line).world.status.customLanguage)) ∧
      (ClientHandler.raisedResponse cfg A line s.world = none →
        (s.serveLine cfg A line).sent = s.sent)) :=
  ⟨exists_decodeUtf8_flatten fun chunk hc => by
    obtain ⟨e, language, h⟩ := hs.wroteResponses chunk hc
    exact ⟨_, h, e, language, rfl⟩,
  fun hph => Session.opened_sent hs hph, fun hph line => Session.serveLine_sent hs hph line⟩

end Steps

/-- After the greeting and `USER bob`, the session is still in ASCII mode. -/
theorem sent_ascii_until_utf8_after_user :
    let s := ((Session.initial ⟨1, "127.0.0.1", 50000⟩ (ListAdapter.new "bob" "pw" ["hi"])
      []).opened (ListAdapter.adapter id)).serveLine Settings.default (ListAdapter.adapter id)
        "USER bob"
    SessionReachable Settings.default (ListAdapter.adapter id) s ∧
      s.world.status.encoding = "ascii" ∧
      ∀ chunk ∈ s.sent, ∀ b ∈ chunk, b.toNat < 0x80 :=
  have hs : SessionReachable Settings.default (ListAdapter.adapter id) _ :=
    .step (.step (.initial _ _ [] fun _ h => absurd h (List.not_mem_nil _)) (.own (.opened _ rfl)))
      (.own (.line _ "USER bob" rfl))
  ⟨hs, rfl, sent_ascii_until_utf8 hs rfl⟩

/-- The greeting and the answer to `USER bob` read as two responses. -/
theorem sent_decodes_to_responses_after_user :
    let A := ListAdapter.adapter id
    let s := ((Session.initial ⟨1, "127.0.0.1", 50000⟩ (ListAdapter.new "bob" "pw" ["hi"])
      []).opened A).serveLine Settings.default A "USER bob"
    SessionReachable Settings.default A s ∧ s.sent.length = 2 ∧
      (∃ msgs : List (List Char),
        List.Forall₂ (fun chunk m => decodeUtf8 chunk = some m ∧
          ∃ (e : SendDataToClientException) (language : Option String),
            m = e.buildMessageString language) s.sent msgs ∧
        decodeUtf8 s.sent.flatten = some msgs.flatten) ∧
      (s.phase = .opening →
        (∀ w, AdapterHelperWrapper.connectionOpened A s.world = .ok () w → ∃ bytes,
          (s.opened A).sent = s.sent ++ [bytes] ∧ decodeUtf8 bytes = some
            ((ClientHandler.writtenResponse w.status greeting).buildMessageString
              w.status.customLanguage)) ∧
        ∀ r w, AdapterHelperWrapper.connectionOpened A s.world = .error r w →
          (s.opened A).sent = s.sent) ∧
      (s.phase = .serving → ∀ line,
        (∀ e, ClientHandler.raisedResponse Settings.default A line s.world = some e → ∃ bytes,
          (s.serveLine Settings.default A line).sent = s.sent ++ [bytes] ∧ decodeUtf8 bytes = some
            ((ClientHandler.writtenResponse (s.serveLine Settings.default A line).world.status
              e).buildMessageString (s.serveLine Settings.default A line).world.status.customLanguage)) ∧
        (ClientHandler.raisedResponse Settings.default A line s.world = none →
          (s.serveLine Settings.default A line).sent = s.sent)) :=
  have hs : SessionReachable Settings.default (ListAdapter.adapter id) _ :=
    .step (.step (.initial _ _ [] fun _ h => absurd h (List.not_mem_nil _)) (.own (.opened _ rfl)))
      (.own (.line _ "USER bob" rfl))
  ⟨hs, rfl, sent_decodes_to_responses hs⟩

end Pop3sf
