import Pop3sf.Lines
import Pop3sf.Codec

set_option autoImplicit false

/-!
# Responses (`SendDataToClientException.py`, `POP3ResponseCodes.py`)

A response is the structured value `SendDataToClientException` that a command
handler raises; `build_message` turns it into the bytes written to the socket.
The first line is `+OK ` or `-ERR `, the bracketed response code, the language tag
(only for a human-readable message), the message and CRLF.  A multiline response
then carries its body split at every line break, each line starting with `.`
byte-stuffed, joined with CRLF, a CRLF unless the text so far already ends with
one (or the caller forces it), and the terminating `.` line.

What a POP3 client makes of the text is modelled on the client's side:
`crlfSplit` cuts the text at CRLF, as a client reading lines does, and `unstuff`
removes the one leading `.` that byte-stuffing added.  The main result,
`buildMessageString_wire`, says the encoder and that client agree: a multiline
response is CRLF-terminated lines with no stray CR or LF, exactly one `.` line
and that one last, and the client gets back the body's lines (less a trailing
empty one the terminator swallows unless the caller forces the CRLF).
-/

namespace Pop3sf

/-- `POP3ResponseCodes.Codes`. -/
inductive Codes where
  | inUse
  | sysTemp
  | sysPerm
  | auth
  | utf8
  | xPop3sfReadOnly
  deriving DecidableEq, Repr

/-- The wire form of a response code, the enum member's value. -/
def Codes.value : Codes → String
  | .inUse => "IN-USE"
  | .sysTemp => "SYS/TEMP"
  | .sysPerm => "SYS/PERM"
  | .auth => "AUTH"
  | .utf8 => "UTF8"
  | .xPop3sfReadOnly => "X-POP3SF-READ-ONLY"

/-- Byte-stuffing of one line. -/
def stuff (line : List Char) : List Char :=
  if line.head? = some '.' then '.' :: line else line

/-- The response a command handler raises. -/
structure SendDataToClientException where
  success : Bool
  pop3ResponseCode : Option Codes
  message : String
  isMessageHumanReadable : Bool
  messageMultiline : Option String
  forceAddCrlfBeforeMultilineTerminationOctet : Bool
  shouldCloseConnectionAfterSendingData : Bool
  deriving DecidableEq, Repr

namespace SendDataToClientException

/-- `INTERNAL_SERVER_ERROR_MESSAGE`. -/
def internalServerErrorMessage : String := "Internal server error"

def ok (humanReadableMessage : String) : SendDataToClientException :=
  ⟨true, none, humanReadableMessage, true, none, false, false⟩

def okHumanUnreadable (humanUnreadableMessage : String) : SendDataToClientException :=
  ⟨true, none, humanUnreadableMessage, false, none, false, false⟩

def okMultiline (humanReadableMessage messageMultiline : String)
    (forceAddCrlfBeforeMultilineTerminationOctet : Bool) : SendDataToClientException :=
  ⟨true, none, humanReadableMessage, true, some messageMultiline,
    forceAddCrlfBeforeMultilineTerminationOctet, false⟩

def err (humanReadableMessage : String) (pop3ResponseCode : Option Codes) :
    SendDataToClientException :=
  ⟨false, pop3ResponseCode, humanReadableMessage, true, none, false, false⟩

def errInternal : SendDataToClientException :=
  err internalServerErrorMessage (some .sysTemp)

def errReadOnlyMailboxAccess : SendDataToClientException :=
  err "The mailbox access mode is set to read-only" (some .xPop3sfReadOnly)

def closeConnectionAfterSendingData (e : SendDataToClientException) :
    SendDataToClientException :=
  { e with shouldCloseConnectionAfterSendingData := true }

/-! ## Composing the text -/

/-- The first line without its CRLF. -/
def firstLineContent (e : SendDataToClientException) (language : Option String) :
    List Char :=
  (if e.success then "+OK " else "-ERR ").data ++
    (match e.pop3ResponseCode with
      | some code => ("[" ++ code.value ++ "] ").data
      | none => []) ++
    (match language with
      | some tag => if e.isMessageHumanReadable then (tag ++ " ").data else []
      | none => []) ++
    e.message.data

/-- `_compose_the_first_line_of_the_message`. -/
def composeTheFirstLineOfTheMessage (e : SendDataToClientException)
    (language : Option String) : List Char :=
  firstLineContent e language ++ crlf

/-- `_compose_next_lines_of_a_multiline_message`. -/
def composeNextLinesOfAMultilineMessage (messageMultiline : String) : List Char :=
  joinLines ((splitLines messageMultiline.data).map stuff)

/-- `build_message` before the final `encode`. -/
def buildMessageString (e : SendDataToClientException) (language : Option String) :
    List Char :=
  match e.messageMultiline with
  | none => composeTheFirstLineOfTheMessage e language
  | some body =>
    let text := composeTheFirstLineOfTheMessage e language ++
      composeNextLinesOfAMultilineMessage body
    let text := if e.forceAddCrlfBeforeMultilineTerminationOctet || !crlf.isSuffixOf text
      then text ++ crlf else text
    text ++ ['.'] ++ crlf

/-- `build_message`: `none` is the `UnicodeEncodeError` of the final `encode`. -/
def buildMessage (e : SendDataToClientException) (language : Option String)
    (encoding : String) : Option (List UInt8) :=
  encodeWith encoding (buildMessageString e language)

end SendDataToClientException

/-! ## What a client reads -/

/-- The lines a client reads: the text cut at every CRLF; the last piece is what
follows the last CRLF. -/
def crlfSplit : List Char → List (List Char)
  | [] => [[]]
  | '\r' :: '\n' :: rest => [] :: crlfSplit rest
  | c :: rest => consHead c (crlfSplit rest)

/-- Undo byte-stuffing: drop one leading `.`. -/
def unstuff : List Char → List Char
  | '.' :: line => line
  | line => line

/-- The body lines a multiline response carries when the caller does not force
the CRLF: the final CRLF of the body doubles as the terminator's, so a last empty
line is not sent. -/
def dropLastIfEmpty (ls : List (List Char)) : List (List Char) :=
  if ls.getLast? = some [] then ls.dropLast else ls

/-! ## The client reads the lines back -/

theorem crlfSplit_line {l : List Char} (hl : NoNewline l) (rest : List Char) :
    crlfSplit (l ++ crlf ++ rest) = l :: crlfSplit rest := by
  induction l with
  | nil => rfl
  | cons c l ih =>
    have hc : c ≠ '\r' := fun h => hl c (List.mem_cons_self c l) (.inl h)
    rw [List.cons_append, List.cons_append, crlfSplit.eq_3 c _ (fun _ h => absurd h hc),
      ih (fun d hd => hl d (List.mem_cons_of_mem c hd))]
    rfl

/-- Lines without line breaks, each followed by CRLF, are read back one by one. -/
theorem crlfSplit_terminated {ls : List (List Char)} (hls : ∀ l ∈ ls, NoNewline l)
    (rest : List Char) :
    crlfSplit ((ls.map (· ++ crlf)).flatten ++ rest) = ls ++ crlfSplit rest := by
  induction ls with
  | nil => rfl
  | cons l ls ih =>
    simp only [List.map_cons, List.flatten_cons, List.append_assoc, List.cons_append]
    rw [← List.append_assoc l, crlfSplit_line (hls l (List.mem_cons_self l ls)),
      ih (fun d hd => hls d (List.mem_cons_of_mem l hd))]

/-- Joining with CRLF and adding one CRLF terminates every line. -/
theorem joinLines_append_crlf {ls : List (List Char)} (hne : ls ≠ []) :
    joinLines ls ++ crlf = (ls.map (· ++ crlf)).flatten := by
  induction ls with
  | nil => exact absurd rfl hne
  | cons l ls ih =>
    cases ls with
    | nil => simp [joinLines]
    | cons m ms =>
      rw [joinLines_cons_cons, List.append_assoc, ih (List.cons_ne_nil m ms)]
      simp

theorem crlf_suffix_terminated {ls : List (List Char)} (hne : ls ≠ []) :
    crlf <:+ (ls.map (· ++ crlf)).flatten := by
  induction ls with
  | nil => exact absurd rfl hne
  | cons l ls ih =>
    cases ls with
    | nil => simp
    | cons m ms =>
      rw [List.map_cons, List.flatten_cons]
      exact (ih (List.cons_ne_nil m ms)).trans (List.suffix_append _ _)

theorem joinLines_append_nil {ls : List (List Char)} (hne : ls ≠ []) :
    joinLines (ls ++ [[]]) = joinLines ls ++ crlf := by
  induction ls with
  | nil => exact absurd rfl hne
  | cons l ls ih =>
    cases ls with
    | nil => simp [joinLines]
    | cons m ms =>
      simp only [List.cons_append] at ih ⊢
      rw [joinLines_cons_cons, ih (by simp), joinLines_cons_cons]
      simp only [List.append_assoc]

theorem getLast?_joinLines {ls : List (List Char)} {x : List Char}
    (hlast : ls.getLast? = some x) (hx : x ≠ []) : (joinLines ls).getLast? = x.getLast? := by
  induction ls with
  | nil => simp at hlast
  | cons l ls ih =>
    cases ls with
    | nil =>
      obtain rfl : l = x := by simpa using hlast
      rfl
    | cons m ms =>
      have hx' : x.getLast?.isSome := by simpa using hx
      rw [joinLines_cons_cons, List.getLast?_append, ih (by simpa [List.getLast?_cons_cons] using hlast)]
      cases h : x.getLast? <;> simp_all

/-- Joined lines whose last line is neither empty nor ends with a line break do
not end with CRLF. -/
theorem not_crlf_suffix_joinLines {ls : List (List Char)} {x : List Char}
    (hlast : ls.getLast? = some x) (hx : x ≠ []) (hnl : NoNewline x) (p : List Char) :
    ¬ crlf <:+ p ++ joinLines ls := by
  rintro ⟨t, ht⟩
  have hlf : (p ++ joinLines ls).getLast? = some '\n' := by rw [← ht]; simp [crlf]
  obtain ⟨c, hc⟩ := Option.isSome_iff_exists.mp ((List.getLast?_isSome (l := x)).mpr hx)
  rw [List.getLast?_append, getLast?_joinLines hlast hx, hc] at hlf
  cases hlf
  exact hnl '\n' (List.mem_of_getLast?_eq_some hc) (.inr rfl)

/-! ## Byte-stuffing -/

@[simp] theorem unstuff_stuff (line : List Char) : unstuff (stuff line) = line := by
  unfold stuff
  split
  · rfl
  · rename_i h
    match line, h with
    | [], _ => rfl
    | c :: l, h =>
      have hc : c ≠ '.' := by simpa using h
      unfold unstuff
      split <;> simp_all

theorem stuff_ne_dot (line : List Char) : stuff line ≠ ['.'] := by
  unfold stuff
  split
  · rename_i h
    cases line <;> simp_all
  · rename_i h
    rintro rfl
    exact h rfl

theorem noNewline_stuff {line : List Char} (h : NoNewline line) : NoNewline (stuff line) := by
  unfold stuff
  split
  · intro c hc
    rcases List.mem_cons.mp hc with rfl | hc
    · simp [IsNewline]
    · exact h c hc
  · exact h

@[simp] theorem stuff_nil : stuff [] = [] := rfl

@[simp] theorem stuff_eq_nil_iff (line : List Char) : stuff line = [] ↔ line = [] := by
  unfold stuff
  split
  · rename_i h
    cases line <;> simp_all
  · rfl

/-! ## The first line -/

theorem noNewline_append {a b : List Char} : NoNewline (a ++ b) ↔ NoNewline a ∧ NoNewline b :=
  List.forall_mem_append

theorem noNewline_value (code : Codes) : NoNewline code.value.data := by
  cases code <;> decide

namespace SendDataToClientException

/-- The first line has no line break when the message and the language tag have
none. -/
theorem noNewline_firstLineContent (e : SendDataToClientException) {language : Option String}
    (hlanguage : ∀ tag, language = some tag → NoNewline tag.data)
    (hmessage : NoNewline e.message.data) : NoNewline (e.firstLineContent language) := by
  unfold firstLineContent
  refine noNewline_append.mpr ⟨noNewline_append.mpr ⟨noNewline_append.mpr ⟨?_, ?_⟩, ?_⟩, hmessage⟩
  · split <;> decide
  · split
    · simp only [String.data_append, noNewline_append]
      exact ⟨⟨by decide, noNewline_value _⟩, by decide⟩
    · exact List.forall_mem_nil _
  · cases language with
    | none => exact List.forall_mem_nil _
    | some tag =>
      dsimp only
      split
      · simp only [String.data_append, noNewline_append]
        exact ⟨hlanguage tag rfl, by decide⟩
      · exact List.forall_mem_nil _

theorem firstLineContent_ne_dot (e : SendDataToClientException) (language : Option String) :
    e.firstLineContent language ≠ ['.'] := by
  unfold firstLineContent
  cases e.success <;> simp

/-! ## The encoder and the client agree -/

theorem buildMessageString_okMultiline (message body : String) (force : Bool)
    (language : Option String) :
    (okMultiline message body force).buildMessageString language =
      let first := (okMultiline message body force).firstLineContent language
      let text := first ++ crlf ++ joinLines ((splitLines body.data).map stuff)
      (if force || !crlf.isSuffixOf text then text ++ crlf else text) ++ ['.'] ++ crlf :=
  rfl

/-- The text of a multiline response, read by a client: for any first line and any
body lines, what `build_message` appends after them is read back as the lines, the
terminator, and nothing after it. -/
theorem crlfSplit_frame (first : List Char) (L : List (List Char)) (force : Bool)
    (hfirst : NoNewline first) (hL : ∀ l ∈ L, NoNewline l) (hne : L ≠ []) :
    let text := first ++ crlf ++ joinLines (L.map stuff)
    ∃ lines : List (List Char),
      crlfSplit ((if force || !crlf.isSuffixOf text then text ++ crlf else text) ++
          ['.'] ++ crlf) = first :: lines ++ [['.'], []] ∧
      (∀ l ∈ lines, NoNewline l ∧ l ≠ ['.']) ∧
      lines.map unstuff = if force then L else dropLastIfEmpty L := by
  intro text
  have hstuffed : ∀ M ⊆ L, ∀ l ∈ M.map stuff, NoNewline l ∧ l ≠ ['.'] := by
    simp only [List.mem_map]
    rintro M hM _ ⟨l, hl, rfl⟩
    exact ⟨noNewline_stuff (hL l (hM hl)), stuff_ne_dot l⟩
  have hunstuff : ∀ M : List (List Char), (M.map stuff).map unstuff = M := by
    intro M; simp [Function.comp_def]
  -- the response, once `text` is followed by a CRLF, is `first` and `ls` terminated
  have hread : ∀ ls : List (List Char), (∀ l ∈ ls, NoNewline l) →
      crlfSplit ((((first :: ls).map (· ++ crlf)).flatten) ++ ['.'] ++ crlf) =
        first :: ls ++ [['.'], []] := by
    intro ls hls
    rw [List.append_assoc, crlfSplit_terminated (by simpa using ⟨hfirst, hls⟩)]
    rfl
  have hmap_ne : L.map stuff ≠ [] := by simpa using hne
  -- a body whose last line is empty: `text` itself already ends with that line's CRLF
  have hempty : ∀ M, L = M ++ [[]] → text = ((first :: M.map stuff).map (· ++ crlf)).flatten := by
    rintro M rfl
    simp only [text, List.map_append, List.map_singleton, stuff_nil]
    by_cases hM : M = []
    · subst hM; simp [joinLines]
    · rw [joinLines_append_nil (by simpa using hM), List.append_assoc,
        joinLines_append_crlf (by simpa using hM)]
      simp
  by_cases hadd : (force || !crlf.isSuffixOf text) = true
  · rw [if_pos hadd]
    refine ⟨L.map stuff, ?_, hstuffed L (List.Subset.refl L), ?_⟩
    · have htext : text ++ crlf = ((first :: L.map stuff).map (· ++ crlf)).flatten := by
        simp only [text, List.append_assoc, joinLines_append_crlf hmap_ne]; simp
      rw [htext, hread _ fun l hl => (hstuffed L (List.Subset.refl L) l hl).1]
    · rw [hunstuff]
      cases force
      · have hlast : L.getLast? ≠ some [] := by
          intro h
          obtain ⟨M, hM⟩ := List.getLast?_eq_some_iff.mp h
          have hsuffix := @crlf_suffix_terminated (first :: M.map stuff) (List.cons_ne_nil _ _)
          rw [← hempty M hM] at hsuffix
          simp [List.isSuffixOf_iff_suffix.mpr hsuffix] at hadd
        simp [dropLastIfEmpty, hlast]
      · rfl
  · rw [if_neg hadd]
    simp only [Bool.or_eq_true, Bool.not_eq_true', not_or, Bool.not_eq_false,
      List.isSuffixOf_iff_suffix] at hadd
    obtain ⟨hforce, hsuffix⟩ := hadd
    rw [Bool.not_eq_true] at hforce
    subst hforce
    have hlast : L.getLast? = some [] := by
      by_contra h
      obtain ⟨x, hx⟩ : ∃ x, L.getLast? = some x :=
        Option.isSome_iff_exists.mp (List.getLast?_isSome.mpr hne)
      have hx0 : x ≠ [] := fun h0 => h (h0 ▸ hx)
      exact not_crlf_suffix_joinLines (x := stuff x) (by simp [List.getLast?_map, hx])
        (by simpa using hx0) (noNewline_stuff (hL x (List.mem_of_getLast?_eq_some hx)))
        (first ++ crlf) hsuffix
    obtain ⟨M, hM⟩ := List.getLast?_eq_some_iff.mp hlast
    have hsub : M.map stuff ⊆ L.map stuff := by
      rw [hM, List.map_append]; exact List.subset_append_left _ _
    refine ⟨M.map stuff, ?_, fun l hl => hstuffed L (List.Subset.refl L) l (hsub hl), ?_⟩
    · rw [hempty M hM, hread _ fun l hl => (hstuffed L (List.Subset.refl L) l (hsub hl)).1]
    · simp [hunstuff, dropLastIfEmpty, hlast, hM]

/-- What a POP3 client reads from every response `build_message` composes (before
encoding), whatever the language tag: a multiline response is its first line, the
byte-stuffed body lines and the `.` line, each ended by CRLF, with no other CR or
LF and no other `.` line, and removing one leading `.` from the body lines gives
back the body's lines, less a last empty one unless the CRLF before the
terminator is forced; a single-line response is one CRLF-terminated line. -/
theorem buildMessageString_wire (language : Option String)
    (hlanguage : ∀ tag, language = some tag → NoNewline tag.data) :
    (∀ (message body : String) (force : Bool), NoNewline message.data →
      ∃ lines : List (List Char),
        crlfSplit ((okMultiline message body force).buildMessageString language) =
          (okMultiline message body force).firstLineContent language :: lines ++ [['.'], []] ∧
        (∀ l ∈ (okMultiline message body force).firstLineContent language :: lines,
          NoNewline l ∧ l ≠ ['.']) ∧
        lines.map unstuff =
          if force then (splitLinesWithoutDiscardingEmptyLines body).map String.data
          else dropLastIfEmpty ((splitLinesWithoutDiscardingEmptyLines body).map String.data)) ∧
    (∀ e : SendDataToClientException, e.messageMultiline = none → NoNewline e.message.data →
      crlfSplit (e.buildMessageString language) = [e.firstLineContent language, []] ∧
        NoNewline (e.firstLineContent language)) := by
  refine ⟨fun message body force hmessage => ?_, fun e he hmessage => ?_⟩
  · have hfirst := noNewline_firstLineContent (okMultiline message body force) hlanguage hmessage
    obtain ⟨lines, hsplit, hlines, hread⟩ := crlfSplit_frame _ _ force hfirst
      (splitLines_noNewline body.data) (splitLines_ne_nil body.data)
    refine ⟨lines, hsplit, ?_, by simpa [splitLinesWithoutDiscardingEmptyLines, Function.comp_def] using hread⟩
    rintro l (_ | ⟨_, hl⟩)
    · exact ⟨hfirst, firstLineContent_ne_dot _ _⟩
    · exact hlines l hl
  · have hfirst := noNewline_firstLineContent e hlanguage hmessage
    refine ⟨?_, hfirst⟩
    rw [buildMessageString, he, composeTheFirstLineOfTheMessage, ← List.append_nil (_ ++ crlf),
      crlfSplit_line hfirst]
    rfl

/-- `buildMessageString_wire` at the language listing of `LANG`, sent after `LANG en`. -/
theorem buildMessageString_wire_languages :
    (∀ tag, some "en" = some tag → NoNewline tag.data) ∧ NoNewline "Listing all languages".data ∧
      ∃ lines : List (List Char),
        crlfSplit ((okMultiline "Listing all languages" "en English" false).buildMessageString
            (some "en")) =
          (okMultiline "Listing all languages" "en English" false).firstLineContent (some "en") ::
            lines ++ [['.'], []] ∧
        (∀ l ∈ (okMultiline "Listing all languages" "en English" false).firstLineContent
            (some "en") :: lines, NoNewline l ∧ l ≠ ['.']) ∧
        lines.map unstuff =
          if false then (splitLinesWithoutDiscardingEmptyLines "en English").map String.data
          else dropLastIfEmpty ((splitLinesWithoutDiscardingEmptyLines "en English").map String.data) :=
  have hen : ∀ tag, some "en" = some tag → NoNewline tag.data := by
    rintro tag ⟨⟩; decide
  ⟨hen, by decide, (buildMessageString_wire (some "en") hen).1 _ _ _ (by decide)⟩

end SendDataToClientException

end Pop3sf
