import Mathlib.Logic.Relation
import Pop3sf.Codec
import Pop3sf.Handler

set_option autoImplicit false

/-!
# Receiving lines (`ClientHandler._line_receiver_generator`)

`handle_client` reads its command lines from `_line_receiver_generator`, which keeps
a text buffer and loops: split the buffer with
`split_lines_without_discarding_empty_lines`, keep the last piece as the new buffer
and yield the others, then append the next batch of bytes, decoded as UTF-8, and
close the connection when the buffer has grown past `_RECEIVE_BUFFER_MAX_SIZE`.
A batch is what one `_receive_all_buffered_data_from_socket` returns: everything
the socket has buffered, so that a character is not usually cut between two reads.
The loop ends with a `CloseConnectionException` when a receive fails (the peer
closed, `poll` reported an error, a batch was too large), when a batch is not valid
UTF-8 on its own, or when the buffer is too large.  The generator is modelled by
`lineReceiverGenerator` over the batches received, with the reason it stops; the
exception texts are only logged, and are left out.

The lines do not depend on where the batch boundaries fall, as long as

* every batch is valid UTF-8 on its own (`decode` runs per batch, so a character
  cut between two batches raises, though the whole stream is valid), and
* no boundary falls between a CR and the LF after it (the CR already ends a line,
  and the LF then ends an empty one);

then the lines are the pieces of the decoded stream but the last
(`lineReceiverGenerator_batches`).  `lineReceiverGenerator_cut_crlf_or_char` shows
that either cut changes what the client's commands are.

`Session.handleClient` feeds the lines to the session one by one, as the `for` loop
of `handle_client` does, and is a run of `SessionStep` (`handleClient_run`): what
holds of every reachable session holds of a session fed by the receiver.  The
generator is lazy, but receiving changes nothing the session sees, so yielding all
lines first and serving them after gives the same session.
-/

namespace Pop3sf

namespace ClientHandler

/-- `_RECEIVE_BUFFER_MAX_SIZE`. -/
def receiveBufferMaxSize : Nat := 262144

/-- Why `_line_receiver_generator` stops. -/
inductive ReceiverStop where
  /-- `_receive_all_buffered_data_from_socket` raised: the peer closed the connection,
  `poll` reported an error, the socket failed, or one batch was too large -/
  | receiveFailed
  /-- `received_data.decode("utf-8")` raised -/
  | invalidUtf8
  /-- `len(buffer) > _RECEIVE_BUFFER_MAX_SIZE` -/
  | bufferTooLarge
  deriving DecidableEq, Repr

/-- `_line_receiver_generator` holding `buffer`, over the batches still to be
received: the lines it yields, and why it stops. -/
def lineReceiverGenerator (buffer : String) (batches : List (List UInt8)) :
    List String × ReceiverStop :=
  let splitBuffer := splitLinesWithoutDiscardingEmptyLines buffer
  let lines := splitBuffer.dropLast
  let buffer := splitBuffer.getLastD ""
  match batches with
  | [] => (lines, .receiveFailed)
  | receivedData :: more =>
    match decodeUtf8 receivedData with
    | none => (lines, .invalidUtf8)
    | some text =>
      let buffer := buffer ++ ⟨text⟩
      if buffer.length > receiveBufferMaxSize then (lines, .bufferTooLarge)
      else
        let rest := lineReceiverGenerator buffer more
        (lines ++ rest.1, rest.2)

/-- Whether a boundary between the decoded batches falls between a CR and the LF
after it; `afterCr` says that the text before the batches ends in a CR.  An empty
batch does not separate the two. -/
def splitsCrLf (afterCr : Bool) : List (List Char) → Bool
  | [] => false
  | [] :: more => splitsCrLf afterCr more
  | (c :: rest) :: more =>
    (afterCr && c == '\n') || splitsCrLf ((c :: rest).getLast? == some '\r') more

/-! ## One turn of the loop -/

/-- The buffer `buf` split: the lines yielded, and the last piece kept. -/
theorem splitBuffer_eq {buf : List Char} {init : List (List Char)} {last : List Char}
    (h : splitLines buf = init ++ [last]) :
    (splitLinesWithoutDiscardingEmptyLines ⟨buf⟩).dropLast = init.map String.mk ∧
      (splitLinesWithoutDiscardingEmptyLines ⟨buf⟩).getLastD "" = ⟨last⟩ := by
  simp [splitLinesWithoutDiscardingEmptyLines, h, ← List.map_dropLast, List.getLastD_eq_getLast?]

theorem exists_splitLines_eq (buf : List Char) :
    ∃ init last, splitLines buf = init ++ [last] := by
  obtain h | ⟨init, last, h⟩ := List.eq_nil_or_concat (splitLines buf)
  · exact absurd h (splitLines_ne_nil buf)
  · exact ⟨init, last, by simpa using h⟩

/-- The turn that appends a batch decoding to `text`, when the buffer still fits. -/
theorem lineReceiverGenerator_cons {buf : List Char} {init : List (List Char)}
    {last : List Char} (h : splitLines buf = init ++ [last]) {receivedData : List UInt8}
    {text : List Char} (hdec : decodeUtf8 receivedData = some text)
    (more : List (List UInt8)) :
    lineReceiverGenerator ⟨buf⟩ (receivedData :: more) =
      if (last ++ text).length > receiveBufferMaxSize then
        (init.map String.mk, .bufferTooLarge)
      else
        (init.map String.mk ++ (lineReceiverGenerator ⟨last ++ text⟩ more).1,
          (lineReceiverGenerator ⟨last ++ text⟩ more).2) := by
  obtain ⟨hlines, hlast⟩ := splitBuffer_eq h
  rw [lineReceiverGenerator]
  simp only [hlines, hlast, hdec]
  rfl

/-! ## Stops -/

/-- Unless the buffer overflows first, the generator stops on invalid UTF-8 exactly
when some batch is not valid UTF-8 on its own. -/
theorem lineReceiverGenerator_invalidUtf8_iff (batches : List (List UInt8)) :
    ∀ buf : List Char, (lineReceiverGenerator ⟨buf⟩ batches).2 ≠ .bufferTooLarge →
      ((lineReceiverGenerator ⟨buf⟩ batches).2 = .invalidUtf8 ↔
        ∃ b ∈ batches, decodeUtf8 b = none) := by
  induction batches with
  | nil => intro buf _; simp [lineReceiverGenerator]
  | cons b more ih =>
    intro buf hfits
    obtain ⟨init, last, h⟩ := exists_splitLines_eq buf
    cases hdec : decodeUtf8 b with
    | none => simp [lineReceiverGenerator, hdec]
    | some text =>
      rw [lineReceiverGenerator_cons h hdec] at hfits ⊢
      split_ifs at hfits ⊢ with hlen
      · exact absurd rfl hfits
      · simpa [hdec] using ih (last ++ text) hfits

/-! ## The lines of a well-cut stream -/

/-- The text `last ++ text` ends in a CR only where `text` does, when `last` is a
piece of a split. -/
theorem getLast?_append_of_noNewline {last : List Char} (hl : NoNewline last)
    (text : List Char) (h : (last ++ text).getLast? = some '\r') :
    text ≠ [] ∧ text.getLast? = some '\r' := by
  rcases text with _ | ⟨c, rest⟩
  · exact absurd (Or.inl rfl) (hl '\r' (List.mem_of_getLast?_eq_some (by simpa using h)))
  · simpa [List.getLast?_append] using h

/-- With no CR-LF cut and a CR just before, the batches do not start with an LF. -/
theorem head?_ne_lf_of_splitsCrLf {texts : List (List Char)}
    (h : splitsCrLf true texts = false) : texts.flatten.head? ≠ some '\n' := by
  induction texts with
  | nil => simp
  | cons t more ih =>
    rcases t with _ | ⟨c, rest⟩
    · exact ih (by simpa [splitsCrLf] using h)
    · simp only [splitsCrLf, Bool.true_and, Bool.or_eq_false_iff, beq_eq_false_iff_ne] at h
      simpa using h.1

/-- The generator over valid, well-cut batches whose buffer never overflows yields
the pieces of the buffer and the decoded batches but the last, then stops when the
receive fails.  `afterCr` records whether the buffer ends in a CR. -/
theorem lineReceiverGenerator_of_valid {batches : List (List UInt8)}
    {texts : List (List Char)} (hdec : List.Forall₂ (fun b t => decodeUtf8 b = some t) batches texts) :
    ∀ (buf : List Char) (afterCr : Bool), (buf.getLast? = some '\r' → afterCr = true) →
      splitsCrLf afterCr texts = false →
      (lineReceiverGenerator ⟨buf⟩ batches).2 ≠ .bufferTooLarge →
      lineReceiverGenerator ⟨buf⟩ batches =
        ((splitLinesWithoutDiscardingEmptyLines ⟨buf ++ texts.flatten⟩).dropLast,
          .receiveFailed) := by
  induction hdec with
  | nil => intro buf _ _ _ _; simp [lineReceiverGenerator]
  | @cons b text more texts hb _ ih =>
    intro buf afterCr hcr hcut hfits
    obtain ⟨init, last, h⟩ := exists_splitLines_eq buf
    have hlast : NoNewline last := splitLines_noNewline buf last (by simp [h])
    rw [lineReceiverGenerator_cons h hb] at hfits ⊢
    split_ifs at hfits ⊢ with hlen
    · exact absurd rfl hfits
    -- the rest of the stream, from the last piece on
    have hrest : splitsCrLf ((text.getLast? == some '\r') || (text.isEmpty && afterCr)) texts
        = false := by
      rcases text with _ | ⟨c, rest⟩
      · simpa [splitsCrLf] using hcut
      · simp only [splitsCrLf, Bool.or_eq_false_iff] at hcut
        simpa using hcut.2
    have hcr' : (last ++ text).getLast? = some '\r' →
        ((text.getLast? == some '\r') || (text.isEmpty && afterCr)) = true := fun hl => by
      simp [(getLast?_append_of_noNewline hlast text hl).2]
    -- where the buffer ends in a CR, the batches do not start with an LF
    have hboundary : buf.getLast? = some '\r' → (text ++ texts.flatten).head? ≠ some '\n' :=
      fun hb => @head?_ne_lf_of_splitsCrLf (text :: texts) (hcr hb ▸ hcut)
    rw [ih (last ++ text) _ hcr' hrest hfits]
    simp only [splitLinesWithoutDiscardingEmptyLines, List.flatten_cons, ← List.append_assoc,
      ← List.map_dropLast]
    rw [List.append_assoc buf, splitLines_append _ h hboundary, List.append_assoc,
      List.dropLast_append_of_ne_nil _ (splitLines_ne_nil _), List.map_append]

/-- Valid batches decode, together, to their texts in order. -/
theorem decodeUtf8_flatten {batches : List (List UInt8)} {texts : List (List Char)}
    (hdec : List.Forall₂ (fun b t => decodeUtf8 b = some t) batches texts) :
    decodeUtf8 batches.flatten = some texts.flatten := by
  induction hdec with
  | nil => rfl
  | cons hb _ ih => exact decodeUtf8_append hb ih

/-- The lines of a stream received in batches: unless the buffer overflows, the
generator stops on invalid UTF-8 exactly when a batch is not valid UTF-8 on its own;
and when every batch is valid and no boundary cuts a CR-LF, it yields the pieces of
the decoded stream but the last, wherever the boundaries fall. -/
theorem lineReceiverGenerator_batches (batches : List (List UInt8))
    (hfits : (lineReceiverGenerator "" batches).2 ≠ .bufferTooLarge) :
    ((lineReceiverGenerator "" batches).2 = .invalidUtf8 ↔
        ∃ b ∈ batches, decodeUtf8 b = none) ∧
      ∀ texts : List (List Char),
        List.Forall₂ (fun b t => decodeUtf8 b = some t) batches texts →
        splitsCrLf false texts = false →
        decodeUtf8 batches.flatten = some texts.flatten ∧
          lineReceiverGenerator "" batches =
            ((splitLinesWithoutDiscardingEmptyLines ⟨texts.flatten⟩).dropLast, .receiveFailed) :=
  ⟨lineReceiverGenerator_invalidUtf8_iff batches [] hfits, fun _ hdec hcut =>
    ⟨decodeUtf8_flatten hdec,
      lineReceiverGenerator_of_valid hdec [] false (fun h => absurd h (by simp)) hcut hfits⟩⟩

/-- Two commands, each in a batch of its own. -/
theorem lineReceiverGenerator_batches_two_commands :
    (lineReceiverGenerator "" [[78, 79, 79, 80, 13, 10], [81, 85, 73, 84, 13, 10]]).2 ≠
        .bufferTooLarge ∧
      List.Forall₂ (fun b t => decodeUtf8 b = some t)
        [[78, 79, 79, 80, 13, 10], [81, 85, 73, 84, 13, 10]]
        [['N', 'O', 'O', 'P', '\r', '\n'], ['Q', 'U', 'I', 'T', '\r', '\n']] ∧
      splitsCrLf false [['N', 'O', 'O', 'P', '\r', '\n'], ['Q', 'U', 'I', 'T', '\r', '\n']] =
        false ∧
      lineReceiverGenerator "" [[78, 79, 79, 80, 13, 10], [81, 85, 73, 84, 13, 10]] =
        (["NOOP", "QUIT"], .receiveFailed) := by
  have hfits : (lineReceiverGenerator "" [[78, 79, 79, 80, 13, 10],
      [81, 85, 73, 84, 13, 10]]).2 ≠ .bufferTooLarge := by decide
  have hdec : List.Forall₂ (fun b t => decodeUtf8 b = some t)
      [[78, 79, 79, 80, 13, 10], [81, 85, 73, 84, 13, 10]]
      [['N', 'O', 'O', 'P', '\r', '\n'], ['Q', 'U', 'I', 'T', '\r', '\n']] := by decide
  have hcut : splitsCrLf false [['N', 'O', 'O', 'P', '\r', '\n'],
      ['Q', 'U', 'I', 'T', '\r', '\n']] = false := by decide
  refine ⟨hfits, hdec, hcut, ?_⟩
  rw [((lineReceiverGenerator_batches _ hfits).2 _ hdec hcut).2]
  decide

/-- A CR-LF cut between two batches yields an extra empty line, and a character cut
between two batches closes the connection, though the stream is the same. -/
theorem lineReceiverGenerator_cut_crlf_or_char :
    (lineReceiverGenerator "" [[78, 79, 79, 80, 13], [10]]).1 = ["NOOP", ""] ∧
      (lineReceiverGenerator "" [[78, 79, 79, 80, 13, 10]]).1 = ["NOOP"] ∧
      decodeUtf8 [0xC3, 0xA9] = some ['é'] ∧
      (lineReceiverGenerator "" [[0xC3], [0xA9]]).2 = .invalidUtf8 ∧
      (lineReceiverGenerator "" [[0xC3, 0xA9]]).2 = .receiveFailed := by
  decide

end ClientHandler

/-! ## Serving the lines -/

open ClientHandler

namespace Session

variable {σ : Type} (cfg : Settings) (A : AdapterBase σ)

/-- The `for` loop of `handle_client`: serve line after line while the session
serves. -/
def serveLines (s : Session σ) : List String → Session σ
  | [] => s
  | line :: more => if s.phase = .serving then serveLines (s.serveLine cfg A line) more else s

/-- `handle_client` after the greeting: the lines the receiver yields for the
batches, then the loop ends with the receiver's exception if it still runs. -/
def handleClient (s : Session σ) (batches : List (List UInt8)) : Session σ :=
  let s := s.serveLines cfg A (lineReceiverGenerator "" batches).1
  if s.phase = .serving then { s with phase := .closing } else s

theorem serveLine_phase (s : Session σ) (line : String) :
    (s.serveLine cfg A line).phase = .serving ∨ (s.serveLine cfg A line).phase = .closing := by
  unfold serveLine
  split
  · split <;> simp
  · simp

/-- Serving lines from a serving session is a run that ends serving or closing. -/
theorem serveLines_run (lines : List String) :
    ∀ s : Session σ, s.phase = .serving →
      Relation.ReflTransGen (SessionStep cfg A) s (s.serveLines cfg A lines) ∧
        ((s.serveLines cfg A lines).phase = .serving ∨
          (s.serveLines cfg A lines).phase = .closing) := by
  induction lines with
  | nil => intro s hs; exact ⟨.refl, .inl hs⟩
  | cons line more ih =>
    intro s hs
    simp only [serveLines, hs, if_true]
    rcases serveLine_phase cfg A s line with h | h
    · exact ⟨.head (.own (.line s line hs)) (ih _ h).1, (ih _ h).2⟩
    · cases more <;>
        simp [serveLines, h, Relation.ReflTransGen.single (SessionStep.own (.line s line hs))]

/-- A session fed by the receiver runs by `SessionStep` and ends closing. -/
theorem handleClient_run (s : Session σ) (hs : s.phase = .serving)
    (batches : List (List UInt8)) :
    Relation.ReflTransGen (SessionStep cfg A) s (s.handleClient cfg A batches) ∧
      (s.handleClient cfg A batches).phase = .closing := by
  obtain ⟨hrun, hph⟩ := serveLines_run cfg A (lineReceiverGenerator "" batches).1 s hs
  unfold handleClient
  rcases hph with hph | hph
  · dsimp only
    rw [if_pos hph]
    exact ⟨hrun.tail (.own (.dropped _ hph)), rfl⟩
  · simp [hph, hrun]

end Session

end Pop3sf
