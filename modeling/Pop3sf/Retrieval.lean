import Pop3sf.Session

set_option autoImplicit false

/-!
# What RETR and TOP deliver (`_command_retr`, `_command_top`, `get_message_size`)

RETR answers with a message's content as a multiline response, TOP with the text
`get_headers_and_first_n_lines_of_a_message` cuts from it, and LIST and STAT report the
size `get_message_size` computes: the content with its line breaks normalised to CRLF,
encoded under the session's encoding.  This module compares the three as a client sees
them.

* `retr_body_octets`: between the first line of the RETR response and its `.` line stand
  exactly size + (the byte-stuffing dots) octets, plus the two of the CRLF
  `build_message` adds before the terminator unless the content's last line is empty,
  that is, unless the content is empty or ends with a line break.
  `retr_body_octets_abc` is a message for which the octets less the dots and the size
  differ.
* `top_retr_lines`: a client reads from TOP the header lines, the empty line after them
  and the first `n` body lines, less a last empty line when `n > 0` (the terminator's
  CRLF swallows it, as for RETR); for `n > 0` that is a prefix of what it reads from RETR,
  and all of it once `n` covers the body; for `n = 0` the forced CRLF keeps an empty last
  line that RETR drops (`top_retr_lines_no_body`).

The client is `readMultilineBody`: the lines after the first one up to the `.` line,
with one leading `.` removed.
-/

namespace Pop3sf

open SendDataToClientException AdapterHelperWrapper

/-! ## The client's view of a multiline response -/

/-- The body lines a client takes from a multiline response: the lines after the
first one, up to the terminating `.` line, with byte-stuffing undone. -/
def readMultilineBody (text : List Char) : List (List Char) :=
  (((crlfSplit text).drop 1).takeWhile fun l => l != ['.']).map unstuff

/-- The lines a client reads from the RETR response for a message. -/
def retrLines (language : Option String) (content : String) : List (List Char) :=
  readMultilineBody
    ((okMultiline "Sending the message's content" content false).buildMessageString language)

/-- The lines a client reads from the TOP response for a message and a line count. -/
def topLines (language : Option String) (content : String) (n : Nat) : List (List Char) :=
  readMultilineBody ((okMultiline "Sending the message's partial content"
    (headersAndFirstNLines (splitLinesWithoutDiscardingEmptyLines content) n)
    (n == 0)).buildMessageString language)

/-- The body lines of a multiline response are what a client reads back, less a last
empty line unless the CRLF before the terminator is forced. -/
theorem readMultilineBody_okMultiline (message body : String) (force : Bool)
    {language : Option String} (hlanguage : ∀ tag, language = some tag → NoNewline tag.data)
    (hmessage : NoNewline message.data) :
    readMultilineBody ((okMultiline message body force).buildMessageString language) =
      if force then splitLines body.data else dropLastIfEmpty (splitLines body.data) := by
  obtain ⟨lines, hsplit, hlines, hread⟩ := crlfSplit_frame _ (splitLines body.data) force
    (noNewline_firstLineContent (okMultiline message body force) hlanguage hmessage)
    (splitLines_noNewline body.data) (splitLines_ne_nil body.data)
  rw [buildMessageString_okMultiline, readMultilineBody, hsplit, List.cons_append, List.drop_one,
    List.tail_cons, List.takeWhile_append_of_pos fun l hl => by simpa using (hlines l hl).2]
  simpa using hread

/-! ## Octets of the RETR body -/

/-- The dots byte-stuffing adds to a body: one for each line that starts with `.`. -/
def stuffingDots (body : String) : Nat :=
  (splitLines body.data).countP fun l => l.head? == some '.'

theorem encodeWith_stuff (encoding : String) {l : List Char} {x : List UInt8}
    (h : encodeWith encoding l = some x) :
    ∃ y, encodeWith encoding (stuff l) = some y ∧
      y.length = x.length + if l.head? == some '.' then 1 else 0 := by
  unfold stuff
  split
  · rename_i hdot
    refine ⟨['.'.toNat.toUInt8] ++ x, ?_, by simp [hdot, Nat.add_comm]⟩
    rw [show '.' :: l = ['.'] ++ l from rfl, encodeWith_append, encodeWith_ascii encoding (by decide), h]
    rfl
  · exact ⟨x, h, by simp [*]⟩

/-- Byte-stuffing the lines of a text adds one octet per stuffed line to its encoding. -/
theorem encodeWith_joinLines_stuff (encoding : String) {L : List (List Char)}
    {x : List UInt8} (h : encodeWith encoding (joinLines L) = some x) :
    ∃ y, encodeWith encoding (joinLines (L.map stuff)) = some y ∧
      y.length = x.length + L.countP fun l => l.head? == some '.' := by
  induction L generalizing x with
  | nil => exact ⟨x, h, rfl⟩
  | cons l L ih =>
    cases L with
    | nil => simpa [joinLines, List.countP_cons] using encodeWith_stuff encoding h
    | cons m ms =>
      obtain ⟨xlc, xr, hlc, hr, rfl⟩ := encodeWith_append_eq_some h
      obtain ⟨xl, xc, hl, hc, rfl⟩ := encodeWith_append_eq_some hlc
      obtain ⟨yl, hyl, hyl_len⟩ := encodeWith_stuff encoding hl
      obtain ⟨yr, hyr, hyr_len⟩ := ih hr
      refine ⟨yl ++ xc ++ yr, ?_, ?_⟩
      · show encodeWith encoding (stuff l ++ crlf ++ joinLines ((m :: ms).map stuff)) = _
        rw [encodeWith_append, encodeWith_append, hyl, hc, hyr]
        rfl
      · simp only [List.length_append, List.countP_cons _ l, hyl_len, hyr_len]
        omega

/-- The text before the terminator ends with CRLF exactly when the body's last line is
empty. -/
theorem crlf_isSuffixOf_text (first : List Char) {L : List (List Char)}
    (hL : ∀ l ∈ L, NoNewline l) (hne : L ≠ []) :
    crlf.isSuffixOf (first ++ crlf ++ joinLines (L.map stuff)) = (L.getLast? == some []) := by
  obtain ⟨x, hx⟩ := Option.isSome_iff_exists.mp (List.getLast?_isSome.mpr hne)
  by_cases hx0 : x = []
  · subst hx0
    obtain ⟨M, rfl⟩ := List.getLast?_eq_some_iff.mp hx
    rw [hx, beq_self_eq_true, List.isSuffixOf_iff_suffix]
    by_cases hM : M = []
    · subst hM; simp [joinLines]
    · rw [List.map_append, List.map_singleton, stuff_nil,
        joinLines_append_nil (by simpa using hM), ← List.append_assoc]
      exact List.suffix_append _ _
  · rw [hx]
    have hsuffix := @not_crlf_suffix_joinLines (L.map stuff) (stuff x)
      (by simp [List.getLast?_map, hx]) (by simpa using hx0)
      (noNewline_stuff (hL x (List.mem_of_getLast?_eq_some hx))) (first ++ crlf)
    rw [show (some x == some []) = false by simpa using hx0]
    exact Bool.eq_false_iff.mpr fun h => hsuffix (List.isSuffixOf_iff_suffix.mp h)

/-- The RETR response for a message, once `get_message_size` has found its size: the
first line, a body, and the `.` line; the body is the content's lines byte-stuffed,
and the CRLF `build_message` adds unless the last line is empty; it encodes to the
size, plus the stuffing dots, plus two octets for that CRLF; and the bytes sent are the
first line's, the body's and `.` CRLF. -/
theorem retr_body_octets (c encoding : String) (language : Option String)
    {sizeBytes : List UInt8} (hsize : encodeWith encoding (normalizeNewlines c.data) = some sizeBytes) :
    ∃ (body : List Char) (bodyBytes : List UInt8),
      (okMultiline "Sending the message's content" c false).buildMessageString language =
        (okMultiline "Sending the message's content" c false).composeTheFirstLineOfTheMessage
          language ++ body ++ ['.'] ++ crlf ∧
      encodeWith encoding body = some bodyBytes ∧
      bodyBytes.length = sizeBytes.length + stuffingDots c +
        (if (splitLinesWithoutDiscardingEmptyLines c).getLast? = some "" then 0 else 2) ∧
      ∀ wire, (okMultiline "Sending the message's content" c false).buildMessage language
          encoding = some wire →
        ∃ firstBytes, encodeWith encoding
            ((okMultiline "Sending the message's content" c false).composeTheFirstLineOfTheMessage
              language) = some firstBytes ∧
          wire = firstBytes ++ bodyBytes ++ [46, 13, 10] := by
  rw [← joinLines_splitLines] at hsize
  obtain ⟨y, hy, hylen⟩ := encodeWith_joinLines_stuff encoding hsize
  have hlast : (splitLinesWithoutDiscardingEmptyLines c).getLast? = some "" ↔
      (splitLines c.data).getLast? = some [] := by
    rw [splitLinesWithoutDiscardingEmptyLines, List.getLast?_map]
    cases (splitLines c.data).getLast? <;> simp [String.ext_iff]
  have htext := crlf_isSuffixOf_text ((okMultiline "Sending the message's content" c false).firstLineContent
    language) (splitLines_noNewline c.data) (splitLines_ne_nil c.data)
  have hcrlf : encodeWith encoding crlf = some [13, 10] := encodeWith_ascii encoding (by decide)
  have hdot : encodeWith encoding ['.'] = some [46] := encodeWith_ascii encoding (by decide)
  -- the body, and its bytes, with or without the added CRLF
  obtain ⟨body, bodyBytes, hstring, hbody, hlen⟩ : ∃ (body : List Char) (bodyBytes : List UInt8),
      (okMultiline "Sending the message's content" c false).buildMessageString language =
        (okMultiline "Sending the message's content" c false).composeTheFirstLineOfTheMessage
          language ++ body ++ ['.'] ++ crlf ∧
      encodeWith encoding body = some bodyBytes ∧
      bodyBytes.length = sizeBytes.length + stuffingDots c +
        (if (splitLinesWithoutDiscardingEmptyLines c).getLast? = some "" then 0 else 2) := by
    rw [buildMessageString_okMultiline]
    dsimp only
    rw [htext]
    by_cases hl : (splitLines c.data).getLast? = some []
    · exact ⟨joinLines ((splitLines c.data).map stuff), y,
        by simp [hl, composeTheFirstLineOfTheMessage], hy, by simp [hlast.mpr hl, hylen, stuffingDots]⟩
    · exact ⟨joinLines ((splitLines c.data).map stuff) ++ crlf, y ++ [13, 10],
        by simp [hl, composeTheFirstLineOfTheMessage], by rw [encodeWith_append, hy, hcrlf]; rfl,
        by simp [hlast, hl, hylen, stuffingDots]⟩
  refine ⟨body, bodyBytes, hstring, hbody, hlen, fun wire hwire => ?_⟩
  rw [buildMessage, hstring] at hwire
  obtain ⟨x1, xc, h1, hc, rfl⟩ := encodeWith_append_eq_some hwire
  obtain ⟨x2, xd, h2, hd, rfl⟩ := encodeWith_append_eq_some h1
  obtain ⟨firstBytes, xb, hfirst, hb, rfl⟩ := encodeWith_append_eq_some h2
  obtain rfl := Option.some.inj (hb.symm.trans hbody)
  obtain rfl := Option.some.inj (hd.symm.trans hdot)
  obtain rfl := Option.some.inj (hc.symm.trans hcrlf)
  exact ⟨firstBytes, hfirst, by simp⟩

/-- A message whose one line starts with `.` and ends with CRLF: size 5, one stuffing
dot, no added CRLF, 6 octets. -/
theorem retr_body_octets_dotted :
    encodeWith "ascii" (normalizeNewlines "..x\r\n".data) = some [46, 46, 120, 13, 10] ∧
    ∃ (body : List Char) (bodyBytes : List UInt8),
      (okMultiline "Sending the message's content" "..x\r\n" false).buildMessageString none =
        (okMultiline "Sending the message's content" "..x\r\n" false).composeTheFirstLineOfTheMessage
          none ++ body ++ ['.'] ++ crlf ∧
      encodeWith "ascii" body = some bodyBytes ∧ bodyBytes.length = 6 := by
  have hsize : encodeWith "ascii" (normalizeNewlines "..x\r\n".data) = some [46, 46, 120, 13, 10] := by
    decide
  obtain ⟨body, bodyBytes, hstring, hbody, hlen, -⟩ := retr_body_octets "..x\r\n" "ascii" none hsize
  exact ⟨hsize, body, bodyBytes, hstring, hbody, by rw [hlen]; decide⟩

/-- The message `abc`: its size is 3, but the RETR body between the first line and the
`.` line is `abc` CRLF, 5 octets with no stuffing dot. -/
theorem retr_body_octets_abc :
    (okMultiline "Sending the message's content" "abc" false).buildMessageString none =
      (okMultiline "Sending the message's content" "abc" false).composeTheFirstLineOfTheMessage
        none ++ "abc\r\n".data ++ ['.'] ++ crlf ∧
    (encodeWith "ascii" "abc\r\n".data).map List.length = some 5 ∧
    stuffingDots "abc" = 0 ∧
    (encodeWith "ascii" (normalizeNewlines "abc".data)).map List.length = some 3 := by
  decide

/-! ## The lines of TOP and RETR -/

/-- The header lines of a message: its lines up to the first empty one. -/
def headerLines (content : String) : List String :=
  (splitLinesWithoutDiscardingEmptyLines content).takeWhile (· ≠ "")

/-- The empty line after the header lines, if the message has one, and the lines
after it. -/
def separatorAndBody (content : String) : List String :=
  (splitLinesWithoutDiscardingEmptyLines content).dropWhile (· ≠ "")

/-- The body lines of a message: the lines after its first empty line. -/
def bodyLines (content : String) : List String := (separatorAndBody content).drop 1

/-- What TOP sends: the header lines, the empty line after them, and the first `n`
body lines. -/
def firstNLines (content : String) (n : Nat) : List String :=
  headerLines content ++ (separatorAndBody content).take 1 ++ (bodyLines content).take n

theorem headersAndFirstNLines_eq (content : String) (n : Nat) :
    headersAndFirstNLines (splitLinesWithoutDiscardingEmptyLines content) n =
      joinCrlf (firstNLines content n) := rfl

/-- The lines of a message are what TOP sends for `n` and the body lines after the
first `n`. -/
theorem firstNLines_append_drop (content : String) (n : Nat) :
    firstNLines content n ++ (bodyLines content).drop n =
      splitLinesWithoutDiscardingEmptyLines content := by
  rw [firstNLines, List.append_assoc, List.take_append_drop, bodyLines, List.append_assoc,
    List.take_append_drop, headerLines, separatorAndBody, List.takeWhile_append_dropWhile]

theorem firstNLines_ne_nil (content : String) (n : Nat) : firstNLines content n ≠ [] := by
  have hsplit := firstNLines_append_drop content 0
  have hne : splitLinesWithoutDiscardingEmptyLines content ≠ [] := by
    simpa [splitLinesWithoutDiscardingEmptyLines] using splitLines_ne_nil content.data
  intro h
  simp only [firstNLines, List.append_eq_nil, List.take_eq_nil_iff] at h
  obtain ⟨⟨hh, hs⟩, -⟩ := h
  rw [firstNLines, hh, bodyLines] at hsplit
  rcases hs with hs | hs
  · omega
  · simp [hs] at hsplit; exact hne hsplit

theorem splitLines_firstNLines (content : String) (n : Nat) :
    splitLines (joinCrlf (firstNLines content n)).data = (firstNLines content n).map String.data := by
  refine splitLines_joinLines (by simpa using firstNLines_ne_nil content n) ?_
  have hpieces : ∀ l ∈ firstNLines content n, l ∈ splitLinesWithoutDiscardingEmptyLines content :=
    fun l hl => (firstNLines_append_drop content n) ▸ List.mem_append_left _ hl
  simp only [List.mem_map]
  rintro _ ⟨l, hl, rfl⟩
  have := hpieces l hl
  simp only [splitLinesWithoutDiscardingEmptyLines, List.mem_map] at this
  obtain ⟨l', hl', rfl⟩ := this
  exact splitLines_noNewline content.data l' hl'

/-- The first line after the header lines is the empty one. -/
theorem separatorAndBody_head (content : String) {s : String} {rest : List String}
    (h : separatorAndBody content = s :: rest) : s = "" := by
  unfold separatorAndBody at h
  have hnot := List.head_dropWhile_not (· ≠ "") (splitLinesWithoutDiscardingEmptyLines content)
    (by rw [h]; exact List.cons_ne_nil s rest)
  simp only [h, List.head_cons] at hnot
  simpa using hnot

theorem dropLastIfEmpty_prefix (ls : List (List Char)) : dropLastIfEmpty ls <+: ls := by
  unfold dropLastIfEmpty
  split
  · exact List.dropLast_prefix ls
  · exact List.prefix_refl ls

theorem prefix_dropLastIfEmpty_append (ls : List (List Char)) {rest : List (List Char)}
    (hrest : rest ≠ []) : ls <+: dropLastIfEmpty (ls ++ rest) := by
  unfold dropLastIfEmpty
  split
  · rw [List.dropLast_append_of_ne_nil _ hrest]; exact List.prefix_append _ _
  · exact List.prefix_append _ _

/-- What a client reads from TOP and from RETR, for every message and line count: RETR
gives the lines of the message, less a last empty one; TOP gives the header lines, the
empty line after them and the first `n` body lines, less a last empty one when `n > 0`.
For `n > 0` TOP is a prefix of RETR, and equal to it once `n` covers the body; for
`n = 0` it is a prefix of RETR, or, when the message's only empty line is its last,
RETR followed by that empty line. -/
theorem top_retr_lines (c : String) (n : Nat) (language : Option String)
    (hlanguage : ∀ tag, language = some tag → NoNewline tag.data) :
    retrLines language c = dropLastIfEmpty ((splitLinesWithoutDiscardingEmptyLines c).map String.data) ∧
    topLines language c n = (if n = 0 then (firstNLines c n).map String.data
      else dropLastIfEmpty ((firstNLines c n).map String.data)) ∧
    (0 < n → topLines language c n <+: retrLines language c ∧
      ((bodyLines c).length ≤ n → topLines language c n = retrLines language c)) ∧
    (n = 0 → topLines language c n <+: retrLines language c ∨
      separatorAndBody c = [""] ∧ topLines language c n = retrLines language c ++ [[]]) := by
  have hretr : retrLines language c =
      dropLastIfEmpty ((splitLinesWithoutDiscardingEmptyLines c).map String.data) := by
    rw [retrLines, readMultilineBody_okMultiline _ _ _ hlanguage (by decide),
      splitLinesWithoutDiscardingEmptyLines, List.map_map]
    exact congrArg dropLastIfEmpty (List.map_id _).symm
  have htop : topLines language c n = (if n = 0 then (firstNLines c n).map String.data
      else dropLastIfEmpty ((firstNLines c n).map String.data)) := by
    rw [topLines, readMultilineBody_okMultiline _ _ _ hlanguage (by decide), headersAndFirstNLines_eq,
      splitLines_firstNLines]
    simp
  have hlines := firstNLines_append_drop c n
  refine ⟨hretr, htop, fun hn => ?_, fun hn => ?_⟩
  · rw [htop, if_neg (by omega), hretr, ← hlines, List.map_append]
    by_cases hrest : (bodyLines c).drop n = []
    · simp [hrest]
    · refine ⟨( dropLastIfEmpty_prefix _).trans (prefix_dropLastIfEmpty_append _ (by simpa using hrest)),
        fun hle => absurd (List.drop_eq_nil_of_le hle) hrest⟩
  · subst hn
    rw [htop, if_pos rfl, hretr, ← hlines, List.map_append]
    cases hS : separatorAndBody c with
    | nil =>
      -- no empty line: every line is a header line, and none of them is empty
      left
      simp only [firstNLines, bodyLines, hS, List.take_nil, List.drop_nil, List.append_nil,
        List.map_nil]
      have hH : ∀ l ∈ (headerLines c).map String.data, l ≠ [] := by
        simp only [List.mem_map]
        rintro _ ⟨l, hl, rfl⟩ hl0
        have hne : l ≠ "" := by simpa using List.mem_takeWhile_imp hl
        exact hne (String.ext hl0)
      have hdrop : dropLastIfEmpty ((headerLines c).map String.data) =
          (headerLines c).map String.data := by
        rw [dropLastIfEmpty, if_neg fun h => hH _ (List.mem_of_getLast?_eq_some h) rfl]
      exact ⟨[], (List.append_nil _).trans hdrop.symm⟩
    | cons s rest =>
      obtain rfl := separatorAndBody_head c hS
      cases rest with
      | nil => right; simp [firstNLines, bodyLines, hS, dropLastIfEmpty]
      | cons r rest => left; exact prefix_dropLastIfEmpty_append _ (by simp [bodyLines, hS])

/-- A message with a header line, the empty line after it, and one body line: TOP with
one line gives all of RETR. -/
theorem top_retr_lines_one_body_line :
    topLines (some "en") "Subject: x\r\n\r\nHello" 1 = retrLines (some "en") "Subject: x\r\n\r\nHello" :=
  have hen : ∀ tag, some "en" = some tag → NoNewline tag.data := by
    rintro tag ⟨⟩; decide
  ((top_retr_lines "Subject: x\r\n\r\nHello" 1 (some "en") hen).2.2.1 (by decide)).2 (by decide)

/-- A message whose only empty line is its last: it has no body line, so `n = 0` covers
the body, yet TOP shows one line more than RETR. -/
theorem top_retr_lines_no_body :
    bodyLines "Subject: x\n" = [] ∧
      topLines none "Subject: x\n" 0 = retrLines none "Subject: x\n" ++ [[]] := by
  decide

end Pop3sf
