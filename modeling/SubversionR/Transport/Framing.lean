import SubversionR.Text
import SubversionR.Lib.PathOrder
import SubversionR.Lib.Incremental

/-!
# Framing — `framing.ts`, `stdio.rs`

The extension and the daemon exchange JSON texts over the daemon's standard streams.  Each text is
preceded by its length in bytes:

    Content-Length: <decimal>\r\n\r\n<UTF-8 bytes>

Either side has its own writer and its own reader.  The extension's decoder gets the stream in
chunks of any size; the daemon reads lines and then exactly the announced bytes from a buffered
reader, whose buffer is refilled wherever the operating system cut the stream.

* `ContentLengthFrameDecoder` — the extension's decoder as an incremental one;
* `readContentLengthFrame` — the daemon's reader over the pieces `fill_buf` returns;
* `framing_is_faithful` — a list of texts arrives as this list, whichever side wrote it, whichever
  reads it and however the bytes are cut.

`Buffer.toString("utf8")` replaces what is not UTF-8; the replacement is the parameter `lossy`.
-/

namespace SubversionR

open Incremental

/-! ## Bytes of texts -/

namespace Text

/-- The text whose UTF-8 bytes these are. -/
def ofUtf8? (bytes : List UInt8) : Option Text :=
  bytes.toByteArray.utf8Decode?.map Array.toList

theorem ofUtf8?_utf8 (t : Text) : ofUtf8? t.utf8 = some t := by
  unfold ofUtf8? utf8
  have h : t.utf8Encode.utf8Decode? = some t.toArray := List.utf8Decode?_utf8Encode
  rw [List.utf8Encode] at h
  rw [h]
  rfl

theorem utf8_append (s t : Text) : utf8 (s ++ t) = s.utf8 ++ t.utf8 := List.flatMap_append

/-- The decimal digits of a number. -/
def ofNat (n : Nat) : Text := Nat.toDigits 10 n

end Text

/-- `buffer.toString("utf8")`. -/
def toStringUtf8 (lossy : List UInt8 → Text) (bytes : List UInt8) : Text :=
  (Text.ofUtf8? bytes).getD (lossy bytes)

/-! ## Writers -/

def headerSeparator : Text := "\r\n\r\n"

theorem utf8_headerSeparator : headerSeparator.utf8 = [13, 10, 13, 10] := by decide

def encodeContentLengthFrame (payload : Text) : Text :=
  let length := payload.utf8.length
  "Content-Length: ".toList ++ Text.ofNat length ++ headerSeparator ++ payload

/-- The daemon's writer; `payload` is what `serde_json::to_vec` made of the response. -/
def writeContentLengthFrame (payload : List UInt8) : List UInt8 :=
  Text.utf8 ("Content-Length: ".toList ++ Text.ofNat payload.length ++ "\r\n\r\n".toList) ++ payload

/-! ## The extension's decoder -/

inductive FrameError where
  | invalidHeader
deriving DecidableEq

def FrameError.message : FrameError → Text
  | .invalidHeader => "Invalid Content-Length header"

/-- The number in a header that matches `/^Content-Length: (?<length>\d+)$/u`. -/
def headerLength (header : Text) : Option Nat :=
  match Text.stripPrefix "Content-Length: " header with
  | none => none
  | some digits =>
    if digits ≠ [] ∧ digits.all Char.isDigit = true then some (Nat.ofDigitChars 10 digits 0)
    else none

/-- The frame at the front of the buffer, if it is complete. -/
def nextFrame (lossy : List UInt8 → Text) (buffer : List UInt8) : Next Text UInt8 FrameError :=
  match indexOf headerSeparator.utf8 buffer with
  | none => .wait
  | some headerEnd =>
    let header := toStringUtf8 lossy (buffer.take headerEnd)
    match headerLength header with
    | none => .fail .invalidHeader
    | some length =>
      let payloadStart := headerEnd + headerSeparator.utf8.length
      let payloadEnd := payloadStart + length
      if buffer.length < payloadEnd then .wait
      else
        .emit (toStringUtf8 lossy ((buffer.take payloadEnd).drop payloadStart))
          (buffer.drop payloadEnd)

section Decoder

variable {lossy : List UInt8 → Text}

variable {buffer : List UInt8}

/-- What a complete frame at the front looks like. -/
theorem nextFrame_eq_emit_iff {rest : List UInt8} {payload : Text} :
    nextFrame lossy buffer = .emit payload rest ↔
      ∃ headerEnd length, indexOf headerSeparator.utf8 buffer = some headerEnd ∧
        headerLength (toStringUtf8 lossy (buffer.take headerEnd)) = some length ∧
        headerEnd + headerSeparator.utf8.length + length ≤ buffer.length ∧
        payload = toStringUtf8 lossy
          ((buffer.take (headerEnd + headerSeparator.utf8.length + length)).drop
            (headerEnd + headerSeparator.utf8.length)) ∧
        rest = buffer.drop (headerEnd + headerSeparator.utf8.length + length) := by
  unfold nextFrame
  cases indexOf headerSeparator.utf8 buffer with
  | none => simp
  | some headerEnd =>
    dsimp only
    cases hlength : headerLength (toStringUtf8 lossy (buffer.take headerEnd)) with
    | none => simp [hlength]
    | some length =>
      dsimp only
      split
      · constructor
        · intro h
          cases h
        · rintro ⟨headerEnd', length', hsame, hlength', _⟩
          cases hsame
          rw [hlength] at hlength'
          cases hlength'
          omega
      · constructor
        · intro h
          cases h
          exact ⟨headerEnd, length, rfl, hlength, by omega, rfl, rfl⟩
        · rintro ⟨headerEnd', length', hsame, hlength', -, rfl, rfl⟩
          cases hsame
          rw [hlength] at hlength'
          cases hlength'
          rfl

theorem nextFrame_eq_fail_iff {error : FrameError} :
    nextFrame lossy buffer = .fail error ↔
      ∃ headerEnd, indexOf headerSeparator.utf8 buffer = some headerEnd ∧
        headerLength (toStringUtf8 lossy (buffer.take headerEnd)) = none := by
  unfold nextFrame
  cases indexOf headerSeparator.utf8 buffer with
  | none => simp
  | some headerEnd =>
    dsimp only
    cases hlength : headerLength (toStringUtf8 lossy (buffer.take headerEnd)) with
    | none => simp [hlength]
    | some length =>
      dsimp only
      split <;> simp [hlength]

theorem nextFrame_nil : nextFrame lossy [] = .wait := rfl

theorem take_of_indexOf {needle : List UInt8} {i : Nat} (h : indexOf needle buffer = some i)
    (more : List UInt8) : (buffer ++ more).take i = buffer.take i := by
  have hle := length_le_of_indexOf h
  rw [List.take_append_of_le_length (by omega)]

end Decoder

/-- The decoder of the extension: what it holds is its buffer. -/
def ContentLengthFrameDecoder (lossy : List UInt8 → Text) : Decoder Text UInt8 FrameError where
  next := nextFrame lossy
  next_nil := nextFrame_nil
  consumes := by
    intro buffer payload rest h
    obtain ⟨headerEnd, length, hindex, -, hle, -, rfl⟩ := nextFrame_eq_emit_iff.mp h
    rw [utf8_headerSeparator] at hle ⊢
    rw [List.length_drop]
    dsimp only [List.length_cons, List.length_nil] at hle ⊢
    omega
  emit_append := by
    intro buffer payload rest h more
    obtain ⟨headerEnd, length, hindex, hlength, hle, rfl, rfl⟩ := nextFrame_eq_emit_iff.mp h
    rw [nextFrame_eq_emit_iff]
    refine ⟨headerEnd, length, indexOf_append hindex more, ?_, ?_, ?_, ?_⟩
    · rw [take_of_indexOf hindex, hlength]
    · rw [List.length_append]
      omega
    · rw [List.take_append_of_le_length hle]
    · rw [List.drop_append_of_le_length hle]
  fail_append := by
    intro buffer error h more
    obtain ⟨headerEnd, hindex, hlength⟩ := nextFrame_eq_fail_iff.mp h
    rw [nextFrame_eq_fail_iff]
    exact ⟨headerEnd, indexOf_append hindex more, by rw [take_of_indexOf hindex, hlength]⟩

/-! ## The daemon's reader -/

/-- `MAX_JSON_RPC_FRAME_BYTES`. -/
def maxJsonRpcFrameBytes : Nat := 4 * 1024 * 1024

/-- `MAX_JSON_RPC_HEADER_BYTES`. -/
def maxJsonRpcHeaderBytes : Nat := 8 * 1024

/-- `MAX_JSON_RPC_HEADER_LINE_BYTES`. -/
def maxJsonRpcHeaderLineBytes : Nat := 1024

inductive FrameReadError where
  | eofInHeader
  | headerTooLarge
  | headerLineTooLarge
  | headerNotUtf8
  | duplicateContentLength
  | unsupportedHeader
  | invalidLength
  | payloadTooLarge
  | missingContentLength
  | eofInPayload
deriving DecidableEq

/-- A buffered reader, as the pieces `fill_buf` is going to return.  An empty piece is skipped: an
empty buffer means the end of the input. -/
abbrev Pieces : Type := List (List UInt8)

/-- `read_bounded_header_line`; `line` is what has been read of it. -/
def readBoundedHeaderLine (line : List UInt8) :
    Pieces → Except FrameReadError (List UInt8 × Pieces)
  | [] => .ok (line, [])
  | available :: pieces =>
    if available = [] then readBoundedHeaderLine line pieces
    else
      match available.findIdx? fun byte => byte == 10 with
      | some newlineIndex =>
        if line.length + (newlineIndex + 1) > maxJsonRpcHeaderLineBytes then
          .error .headerLineTooLarge
        else
          .ok (line ++ available.take (newlineIndex + 1),
            available.drop (newlineIndex + 1) :: pieces)
      | none =>
        if line.length + available.length > maxJsonRpcHeaderLineBytes then
          .error .headerLineTooLarge
        else readBoundedHeaderLine (line ++ available) pieces

/-- `text.parse::<usize>()`: a sign `+` is allowed. -/
def Text.parseUsize (t : Text) : Option Nat :=
  let digits := match t with
    | '+' :: rest => rest
    | _ => t
  if digits = [] ∨ ¬ digits.all Char.isDigit then none
  else
    let value := Nat.ofDigitChars 10 digits 0
    if value < 2 ^ 64 then some value else none

/-- The locals of the header loop. -/
structure HeaderState where
  contentLength : Option Nat
  readAnyHeader : Bool
  totalHeaderBytes : Nat
  headerError : Option FrameReadError

/-- What a header line that is not blank does: the first error is kept until the headers end. -/
def HeaderState.accept (state : HeaderState) (header : Text) : HeaderState :=
  if state.headerError.isSome then state
  else if state.contentLength.isSome then
    { state with headerError := some .duplicateContentLength }
  else
    match Text.stripPrefix "Content-Length: " header with
    | none => { state with headerError := some .unsupportedHeader }
    | some lengthText =>
      match Text.parseUsize lengthText with
      | none => { state with headerError := some .invalidLength }
      | some length =>
        if length > maxJsonRpcFrameBytes then
          { state with headerError := some .payloadTooLarge }
        else { state with contentLength := some length }

variable {pieces : Pieces}

theorem readBoundedHeaderLine_flatten {line line' : List UInt8} {pieces' : Pieces}
    (h : readBoundedHeaderLine line pieces = .ok (line', pieces')) :
    line ++ pieces.flatten = line' ++ pieces'.flatten := by
  induction pieces generalizing line with
  | nil =>
    cases h
    rfl
  | cons available pieces ih =>
    unfold readBoundedHeaderLine at h
    split at h
    · rename_i hempty
      rw [List.flatten_cons, hempty, List.nil_append]
      exact ih h
    · split at h
      · split at h
        · cases h
        cases h
        rw [List.flatten_cons, List.flatten_cons, List.append_assoc, ← List.append_assoc
          (available.take _), List.take_append_drop]
      · split at h
        · cases h
        · rw [List.flatten_cons, ← List.append_assoc]
          exact ih h

/-- The header loop; `none` at the end of the input. -/
def readHeaders (state : HeaderState) (pieces : Pieces) :
    Except FrameReadError (Option (HeaderState × Pieces)) :=
  match h : readBoundedHeaderLine [] pieces with
  | .error error => .error error
  | .ok (line, rest) =>
    if hline : line = [] then
      if state.readAnyHeader then .error .eofInHeader else .ok none
    else
      have : rest.flatten.length < pieces.flatten.length := by
        have hall : pieces.flatten = line ++ rest.flatten := readBoundedHeaderLine_flatten h
        have hpos := List.length_pos_iff.mpr hline
        rw [hall, List.length_append]
        omega
      let state := { state with
        readAnyHeader := true, totalHeaderBytes := state.totalHeaderBytes + line.length }
      if state.totalHeaderBytes > maxJsonRpcHeaderBytes then .error .headerTooLarge
      else
        match Text.ofUtf8? line with
        | none => .error .headerNotUtf8
        | some text =>
          let header := text.trimEndMatches fun c => c == '\r' || c == '\n'
          if header = [] then .ok (some (state, rest))
          else readHeaders (state.accept header) rest
termination_by pieces.flatten.length
decreasing_by assumption

/-- `read_exact`. -/
def readExact : Nat → Pieces → Except FrameReadError (List UInt8 × Pieces)
  | length, [] => if length = 0 then .ok ([], []) else .error .eofInPayload
  | length, available :: pieces =>
    if length ≤ available.length then .ok (available.take length, available.drop length :: pieces)
    else
      match readExact (length - available.length) pieces with
      | .error error => .error error
      | .ok (rest, pieces) => .ok (available ++ rest, pieces)

/-- `read_content_length_frame`; `none` at the end of the input. -/
def readContentLengthFrame (pieces : Pieces) :
    Except FrameReadError (Option (List UInt8 × Pieces)) :=
  match readHeaders ⟨none, false, 0, none⟩ pieces with
  | .error error => .error error
  | .ok none => .ok none
  | .ok (some (state, pieces)) =>
    match state.headerError, state.contentLength with
    | some error, _ => .error error
    | none, none => .error .missingContentLength
    | none, some length =>
      match readExact length pieces with
      | .error error => .error error
      | .ok result => .ok (some result)

/-- Reading frame after frame gives the list, then the end of the input. -/
def Reads : Pieces → List (List UInt8) → Prop
  | pieces, [] => readContentLengthFrame pieces = .ok none
  | pieces, payload :: payloads =>
    ∃ rest, readContentLengthFrame pieces = .ok (some (payload, rest)) ∧ Reads rest payloads

/-! ## The header of a frame -/

/-- The header of a frame without its line end. -/
def frameHeader (length : Nat) : Text := "Content-Length: ".toList ++ Text.ofNat length

theorem utf8_encodeContentLengthFrame (payload : Text) :
    Text.utf8 (encodeContentLengthFrame payload) =
      (frameHeader payload.utf8.length).utf8 ++ (headerSeparator.utf8 ++ payload.utf8) := by
  show Text.utf8 (frameHeader payload.utf8.length ++ headerSeparator ++ payload) = _
  rw [Text.utf8_append, Text.utf8_append, List.append_assoc]

/-- Both sides write the same bytes. -/
theorem writeContentLengthFrame_utf8 (payload : Text) :
    writeContentLengthFrame payload.utf8 = Text.utf8 (encodeContentLengthFrame payload) := by
  rw [utf8_encodeContentLengthFrame, ← List.append_assoc, ← Text.utf8_append]
  rfl

variable {length : Nat} {c : Char}

theorem isDigit_of_mem_ofNat (h : c ∈ Text.ofNat length) : c.isDigit = true :=
  Nat.isDigit_of_mem_toDigits (by omega) (by omega) h

/-- The characters of a header are printable ASCII. -/
theorem toNat_of_mem_frameHeader (h : c ∈ frameHeader length) : 32 ≤ c.toNat ∧ c.toNat < 128 := by
  rcases List.mem_append.mp h with hlabel | hdigit
  · have hall : ("Content-Length: ".toList.all fun c =>
        decide (32 ≤ c.toNat) && decide (c.toNat < 128)) = true := by decide +kernel
    simpa using List.all_eq_true.mp hall c hlabel
  · have hrange : 48 ≤ c.toNat ∧ c.toNat ≤ 57 :=
      Char.isDigit_iff_toNat.mp (isDigit_of_mem_ofNat hdigit)
    omega

theorem utf8EncodeChar_ascii (h : c.toNat < 128) :
    String.utf8EncodeChar c = [UInt8.ofNat c.toNat] := by
  have hle : c.val.toNat ≤ 127 := by
    have : c.toNat = c.val.toNat := rfl
    omega
  simp only [String.utf8EncodeChar, if_pos hle]
  rfl

/-- The bytes of a header are those of its characters: no line end is among them. -/
theorem le_of_mem_utf8_frameHeader {byte : UInt8} (h : byte ∈ (frameHeader length).utf8) :
    32 ≤ byte.toNat := by
  obtain ⟨_, hc, hbyte⟩ := List.mem_flatMap.mp h
  obtain ⟨_, hhigh⟩ := toNat_of_mem_frameHeader hc
  rw [utf8EncodeChar_ascii hhigh, List.mem_singleton] at hbyte
  rw [hbyte, UInt8.toNat_ofNat']
  omega

theorem frameHeader_ne_nil (length : Nat) : frameHeader length ≠ [] :=
  List.append_ne_nil_of_right_ne_nil _ Nat.toDigits_ne_nil

theorem stripPrefix_frameHeader (length : Nat) :
    Text.stripPrefix "Content-Length: " (frameHeader length) = some (Text.ofNat length) := by
  unfold Text.stripPrefix frameHeader
  rw [if_pos (List.isPrefixOf_iff_prefix.mpr (List.prefix_append _ _)), List.drop_left]

theorem headerLength_frameHeader (length : Nat) :
    headerLength (frameHeader length) = some length := by
  unfold headerLength
  rw [stripPrefix_frameHeader]
  have hdigits : Text.ofNat length ≠ [] ∧ (Text.ofNat length).all Char.isDigit = true :=
    ⟨Nat.toDigits_ne_nil, List.all_eq_true.mpr fun c hc => isDigit_of_mem_ofNat hc⟩
  dsimp only
  rw [if_pos hdigits]
  exact congrArg some Nat.ofDigitChars_ten_toDigits

/-! ## The extension decodes what was written -/

/-- **A written frame at the front is found**, whatever follows it. -/
theorem nextFrame_encoded (lossy : List UInt8 → Text) (payload : Text) (more : List UInt8) :
    nextFrame lossy (Text.utf8 (encodeContentLengthFrame payload) ++ more) =
      .emit payload more := by
  have hbytes : Text.utf8 (encodeContentLengthFrame payload) ++ more =
      (frameHeader payload.utf8.length).utf8 ++
        (headerSeparator.utf8 ++ (payload.utf8 ++ more)) := by
    rw [utf8_encodeContentLengthFrame, List.append_assoc, List.append_assoc]
  have hlength := headerLength_frameHeader payload.utf8.length
  rw [hbytes, nextFrame_eq_emit_iff]
  generalize hheader : frameHeader payload.utf8.length = header at hlength
  have hindex : indexOf headerSeparator.utf8
      (header.utf8 ++ (headerSeparator.utf8 ++ (payload.utf8 ++ more))) =
        some header.utf8.length := by
    refine indexOf_of_notMem fun hmem => ?_
    have hprintable : 32 ≤ (13 : UInt8).toNat := le_of_mem_utf8_frameHeader (hheader ▸ hmem)
    exact absurd hprintable (by decide)
  refine ⟨header.utf8.length, payload.utf8.length, hindex, ?_, ?_, ?_, ?_⟩
  · rw [List.take_left, toStringUtf8, Text.ofUtf8?_utf8]
    exact hlength
  · simp only [List.length_append]
    omega
  · -- dropping the header and the separator leaves the payload in front
    rw [← List.append_assoc, ← List.length_append, ← List.append_assoc, ← List.length_append,
      List.take_left, List.drop_left, toStringUtf8, Text.ofUtf8?_utf8]
    rfl
  · rw [← List.append_assoc, ← List.length_append, ← List.append_assoc, ← List.length_append,
      List.drop_left]

/-! ## The daemon reads what was written -/

variable {after : List UInt8}

theorem findIdx?_newline {before : List UInt8} (h : 10 ∉ before) :
    (before ++ 10 :: after).findIdx? (fun byte => byte == 10) = some before.length := by
  have hnone : before.findIdx? (fun byte => byte == 10) = none := by
    rw [List.findIdx?_eq_none_iff]
    intro byte hbyte
    have hne : byte ≠ 10 := fun heq => h (heq ▸ hbyte)
    simpa using hne
  rw [List.findIdx?_append, hnone, List.findIdx?_cons]
  simp

/-- **A line is read up to its end**, however the reader's buffer is filled. -/
theorem readBoundedHeaderLine_eq {line before after : List UInt8} {pieces : Pieces}
    (hflatten : pieces.flatten = before ++ 10 :: after) (hbefore : 10 ∉ before)
    (hlength : line.length + before.length + 1 ≤ maxJsonRpcHeaderLineBytes) :
    ∃ rest, readBoundedHeaderLine line pieces = .ok (line ++ (before ++ [10]), rest) ∧
      rest.flatten = after := by
  induction pieces generalizing line before with
  | nil => simp at hflatten
  | cons available pieces ih =>
    rw [List.flatten_cons] at hflatten
    unfold readBoundedHeaderLine
    by_cases hempty : available = []
    · rw [if_pos hempty]
      rw [hempty, List.nil_append] at hflatten
      exact ih hflatten hbefore hlength
    · rw [if_neg hempty]
      by_cases hmem : 10 ∈ available
      · -- the line ends in this piece
        obtain ⟨front, back, rfl, hfront⟩ := List.eq_append_cons_of_mem hmem
        rw [List.append_assoc, List.cons_append] at hflatten
        obtain ⟨rfl, hafter⟩ := PathOrder.append_sep_inj hfront hbefore hflatten
        rw [findIdx?_newline hfront]
        dsimp only
        rw [if_neg (by omega)]
        have hline : (front ++ 10 :: back).take (front.length + 1) = front ++ [10] := by
          rw [List.take_length_add_append]
          rfl
        have hrest : (front ++ 10 :: back).drop (front.length + 1) = back := by
          rw [List.drop_length_add_append]
          rfl
        rw [hline, hrest]
        exact ⟨back :: pieces, rfl, hafter⟩
      · -- the piece is all line, and the line goes on
        have hnone : available.findIdx? (fun byte => byte == 10) = none := by
          rw [List.findIdx?_eq_none_iff]
          intro byte hbyte
          have hne : byte ≠ 10 := fun heq => hmem (heq ▸ hbyte)
          simpa using hne
        obtain ⟨more, rfl, hmore⟩ : ∃ more, before = available ++ more ∧
            pieces.flatten = more ++ 10 :: after := by
          rcases List.append_eq_append_iff.mp hflatten with ⟨more, hmore, hrest⟩ |
            ⟨more, hmore, hrest⟩
          · exact ⟨more, hmore, hrest⟩
          · cases more with
            | nil => exact ⟨[], by rw [hmore, List.append_nil, List.append_nil], hrest.symm⟩
            | cons byte more =>
              obtain ⟨rfl, -⟩ := List.cons.inj hrest
              exact absurd (hmore ▸ List.mem_append_right before List.mem_cons_self) hmem
        rw [hnone]
        rw [List.length_append] at hlength
        rw [if_neg (by omega)]
        have hnext := @ih (line ++ available) more hmore
          (fun hmem => hbefore (List.mem_append_right available hmem))
          (by rw [List.length_append]; omega)
        rwa [List.append_assoc, ← List.append_assoc available] at hnext

theorem readExact_eq {payload : List UInt8} (hflatten : pieces.flatten = payload ++ after) :
    ∃ rest, readExact payload.length pieces = .ok (payload, rest) ∧ rest.flatten = after := by
  induction pieces generalizing payload with
  | nil =>
    obtain ⟨rfl, rfl⟩ := List.append_eq_nil_iff.mp hflatten.symm
    exact ⟨[], rfl, rfl⟩
  | cons available pieces ih =>
    unfold readExact
    rcases List.append_eq_append_iff.mp hflatten with ⟨more, rfl, hrest⟩ | ⟨back, rfl, hrest⟩
    · -- the payload goes on behind this piece
      by_cases hmore : more = []
      · subst hmore
        rw [List.append_nil, if_pos le_rfl, List.take_length, List.drop_length]
        exact ⟨[] :: pieces, rfl, hrest⟩
      · have hpos := List.length_pos_iff.mpr hmore
        rw [List.length_append, if_neg (by omega), Nat.add_sub_cancel_left]
        obtain ⟨rest, hread, hafter⟩ := ih hrest
        rw [hread]
        exact ⟨rest, rfl, hafter⟩
    · rw [if_pos (by rw [List.length_append]; omega), List.take_left, List.drop_left]
      exact ⟨back :: pieces, rfl, hrest.symm⟩

variable {state : HeaderState}

/-- One round of the header loop. -/
theorem readHeaders_of_line {rest : Pieces} {line : List UInt8} {text : Text}
    (hread : readBoundedHeaderLine [] pieces = .ok (line, rest)) (hline : line ≠ [])
    (htotal : state.totalHeaderBytes + line.length ≤ maxJsonRpcHeaderBytes)
    (htext : Text.ofUtf8? line = some text) :
    readHeaders state pieces =
      let state := { state with
        readAnyHeader := true, totalHeaderBytes := state.totalHeaderBytes + line.length }
      let header := text.trimEndMatches fun c => c == '\r' || c == '\n'
      if header = [] then .ok (some (state, rest)) else readHeaders (state.accept header) rest := by
  rw [readHeaders]
  split
  · rename_i herror
    rw [hread] at herror
    cases herror
  · rename_i hok
    rw [hread] at hok
    cases hok
    rw [dif_neg hline]
    dsimp only
    rw [if_neg (by omega), htext]

theorem readHeaders_end {rest : Pieces} (hread : readBoundedHeaderLine [] pieces = .ok ([], rest))
    (hany : state.readAnyHeader = false) :
    readHeaders state pieces = .ok none := by
  rw [readHeaders]
  split
  · rename_i herror
    rw [hread] at herror
    cases herror
  · rename_i hok
    rw [hread] at hok
    cases hok
    rw [dif_pos rfl, hany]
    rfl

theorem readContentLengthFrame_end (h : pieces.flatten = []) :
    readContentLengthFrame pieces = .ok none := by
  have hread : ∃ rest, readBoundedHeaderLine [] pieces = .ok ([], rest) := by
    induction pieces with
    | nil => exact ⟨[], rfl⟩
    | cons available pieces ih =>
      obtain ⟨rfl, hrest⟩ := List.append_eq_nil_iff.mp (List.flatten_cons ▸ h)
      exact ih hrest
  obtain ⟨rest, hread⟩ := hread
  unfold readContentLengthFrame
  rw [readHeaders_end hread rfl]

theorem length_utf8_frameHeader (length : Nat) :
    (frameHeader length).utf8.length = 16 + (Text.ofNat length).length := by
  have hascii : ∀ t : Text, (∀ c ∈ t, c.toNat < 128) → t.utf8.length = t.length := by
    intro t ht
    unfold Text.utf8
    rw [List.length_flatMap, List.map_congr_left fun c hc => congrArg List.length
      (utf8EncodeChar_ascii (ht c hc))]
    simp
  rw [hascii _ fun c hc => (toNat_of_mem_frameHeader hc).2]
  exact List.length_append

theorem length_ofNat_le (h : length ≤ maxJsonRpcFrameBytes) : (Text.ofNat length).length ≤ 7 := by
  unfold Text.ofNat
  rw [Nat.length_toDigits_le_iff (by omega) (by omega)]
  unfold maxJsonRpcFrameBytes at h
  omega

/-- Trimming the line end leaves the header. -/
theorem trimEnd_frameHeader (length : Nat) :
    Text.trimEndMatches (fun c => c == '\r' || c == '\n') (frameHeader length ++ ['\r', '\n']) =
      frameHeader length := by
  have hkeep : Text.trimEndMatches (fun c => c == '\r' || c == '\n') (frameHeader length) =
      frameHeader length := by
    unfold Text.trimEndMatches
    have hdrop : (frameHeader length).reverse.dropWhile (fun c => c == '\r' || c == '\n') =
        (frameHeader length).reverse := by
      rw [List.dropWhile_eq_self_iff]
      intro hpos
      have hmem := List.mem_reverse.mp (List.getElem_mem hpos)
      have hprintable := toNat_of_mem_frameHeader hmem
      generalize (frameHeader length).reverse[0] = c at hprintable
      intro hend
      rcases Bool.or_eq_true_iff.mp hend with h | h <;> rw [beq_iff_eq] at h <;> subst h <;>
        simp at hprintable
    rw [hdrop, List.reverse_reverse]
  have hsplit : frameHeader length ++ ['\r', '\n'] = frameHeader length ++ ['\r'] ++ ['\n'] := by
    simp
  rw [hsplit, Text.trimEndMatches_concat, if_pos (by decide), Text.trimEndMatches_concat,
    if_pos (by decide), hkeep]

theorem parseUsize_ofNat (h : length ≤ maxJsonRpcFrameBytes) :
    Text.parseUsize (Text.ofNat length) = some length := by
  have hunsigned : (match Text.ofNat length with
      | '+' :: rest => rest
      | _ => Text.ofNat length) = Text.ofNat length := by
    split
    · rename_i rest heq
      have hdigit : Char.isDigit '+' = true := isDigit_of_mem_ofNat (heq ▸ List.mem_cons_self)
      exact absurd hdigit (by decide)
    · rfl
  have hdigits : ¬ (Text.ofNat length = [] ∨ ¬ (Text.ofNat length).all Char.isDigit = true) := by
    rw [not_or, not_not]
    exact ⟨Nat.toDigits_ne_nil, List.all_eq_true.mpr fun c hc => isDigit_of_mem_ofNat hc⟩
  have hvalue : Nat.ofDigitChars 10 (Text.ofNat length) 0 = length := Nat.ofDigitChars_ten_toDigits
  unfold maxJsonRpcFrameBytes at h
  unfold Text.parseUsize
  rw [hunsigned, if_neg hdigits, hvalue, if_pos (by omega)]

theorem accept_frameHeader (h : length ≤ maxJsonRpcFrameBytes) (herror : state.headerError = none)
    (hnone : state.contentLength = none) :
    state.accept (frameHeader length) = { state with contentLength := some length } := by
  unfold HeaderState.accept
  rw [herror, hnone, stripPrefix_frameHeader]
  dsimp only
  rw [parseUsize_ofNat h]
  simp only [Option.isSome_none, Bool.false_eq_true, if_false, Nat.not_lt.mpr h]

/-- **A written frame is read**: its payload is returned, and what follows it stays. -/
theorem readContentLengthFrame_eq {payload : List UInt8}
    (hlength : payload.length ≤ maxJsonRpcFrameBytes)
    (hflatten : pieces.flatten = writeContentLengthFrame payload ++ after) :
    ∃ rest, readContentLengthFrame pieces = .ok (some (payload, rest)) ∧
      rest.flatten = after := by
  have hdigits := length_ofNat_le hlength
  have hheaderLength := length_utf8_frameHeader payload.length
  have hbytes : writeContentLengthFrame payload ++ after =
      (Text.utf8 (frameHeader payload.length) ++ [13]) ++
        10 :: ([13] ++ 10 :: (payload ++ after)) := by
    show Text.utf8 (frameHeader payload.length ++ headerSeparator) ++ payload ++ after = _
    rw [Text.utf8_append, utf8_headerSeparator]
    simp
  rw [hbytes] at hflatten
  have hnewline : 10 ∉ Text.utf8 (frameHeader payload.length) ++ [13] := by
    intro hmem
    rcases List.mem_append.mp hmem with hheader | hreturn
    · have hprintable : 32 ≤ (10 : UInt8).toNat := le_of_mem_utf8_frameHeader hheader
      exact absurd hprintable (by decide)
    · exact absurd hreturn (by decide)
  -- the header line
  obtain ⟨_, hline, hflatten₁⟩ := @readBoundedHeaderLine_eq [] _ _ _ hflatten hnewline
    (by rw [List.length_append, hheaderLength]; unfold maxJsonRpcHeaderLineBytes; simp; omega)
  have hlineText : Text.ofUtf8? (Text.utf8 (frameHeader payload.length) ++ [13] ++ [10]) =
      some (frameHeader payload.length ++ ['\r', '\n']) := by
    have hsame : Text.utf8 (frameHeader payload.length) ++ [13] ++ [10] =
        Text.utf8 (frameHeader payload.length ++ ['\r', '\n']) := by
      rw [Text.utf8_append, List.append_assoc]
      rfl
    rw [hsame, Text.ofUtf8?_utf8]
  -- the blank line
  obtain ⟨pieces₂, hblank, hflatten₂⟩ := @readBoundedHeaderLine_eq [] _ _ _ hflatten₁ (by decide)
    (by decide)
  have hblankText : Text.ofUtf8? ([13] ++ [10]) = some ['\r', '\n'] :=
    Text.ofUtf8?_utf8 ['\r', '\n']
  obtain ⟨rest, hread, hrest⟩ := readExact_eq hflatten₂
  refine ⟨rest, ?_, hrest⟩
  unfold readContentLengthFrame
  have hheaders : readHeaders ⟨none, false, 0, none⟩ pieces = .ok (some (⟨some payload.length, true,
      0 + (Text.utf8 (frameHeader payload.length) ++ [13] ++ [10]).length + 2, none⟩,
        pieces₂)) := by
    rw [readHeaders_of_line hline (by simp) (by
      unfold maxJsonRpcHeaderBytes
      simp
      omega) hlineText]
    rw [trimEnd_frameHeader, if_neg (frameHeader_ne_nil _), accept_frameHeader hlength rfl rfl,
      readHeaders_of_line hblank (by simp) (by
        unfold maxJsonRpcHeaderBytes
        simp
        omega) hblankText]
    rfl
  rw [hheaders]
  dsimp only
  rw [hread]

theorem reads_of_flatten {payloads : List (List UInt8)}
    (hlength : ∀ payload ∈ payloads, payload.length ≤ maxJsonRpcFrameBytes)
    (hflatten : pieces.flatten = payloads.flatMap writeContentLengthFrame) :
    Reads pieces payloads := by
  induction payloads generalizing pieces with
  | nil => exact readContentLengthFrame_end hflatten
  | cons payload payloads ih =>
    obtain ⟨rest, hread, hrest⟩ :=
      readContentLengthFrame_eq (hlength payload List.mem_cons_self) hflatten
    exact ⟨rest, hread, ih (fun other hother =>
      hlength other (List.mem_cons_of_mem _ hother)) hrest⟩

/-! ## The channel -/

/-- **Framing is a faithful channel.**  The bytes of a list of texts, written by either side and cut
anywhere, give the extension's decoder exactly this list with nothing left in its buffer; and if no
text exceeds the daemon's limit, the daemon reads the bytes of exactly this list and then the end of
the input. -/
theorem framing_is_faithful (lossy : List UInt8 → Text) (payloads : List Text) (chunks : Pieces)
    (hchunks : chunks.flatten = payloads.flatMap (fun p => Text.utf8 (encodeContentLengthFrame p)) ∨
      chunks.flatten = payloads.flatMap (fun p => writeContentLengthFrame p.utf8)) :
    (ContentLengthFrameDecoder lossy).pushAll [] chunks = .ok (payloads, []) ∧
      ((∀ payload ∈ payloads, payload.utf8.length ≤ maxJsonRpcFrameBytes) →
        Reads chunks (payloads.map Text.utf8)) := by
  have hsame : payloads.flatMap (fun p => writeContentLengthFrame p.utf8) =
      payloads.flatMap fun p => Text.utf8 (encodeContentLengthFrame p) := by
    simp only [writeContentLengthFrame_utf8]
  rw [hsame, or_self] at hchunks
  constructor
  · rw [Decoder.pushAll_eq_drain (Decoder.next_nil _), List.nil_append, hchunks]
    exact Decoder.drain_flatMap fun payload _ more => nextFrame_encoded lossy payload more
  · intro hlength
    refine reads_of_flatten ?_ ?_
    · intro _ hbytes
      obtain ⟨payload, hpayload, rfl⟩ := List.mem_map.mp hbytes
      exact hlength payload hpayload
    · rw [hchunks, List.flatMap_map, ← hsame]

namespace FramingExample

/-- Two texts, one with a character of two bytes and one that looks like a header. -/
def payloads : List Text := ["é", "Content-Length: 3\r\n\r\n"]

/-- Their frames, byte by byte. -/
def bytewise : Pieces :=
  (payloads.flatMap fun p => Text.utf8 (encodeContentLengthFrame p)).map ([·])

/-- Nothing that is not UTF-8 is received, so the replacement does not matter. -/
def lossy (_ : List UInt8) : Text := []

theorem bytewise_arrives :
    (ContentLengthFrameDecoder lossy).pushAll [] bytewise = .ok (payloads, []) ∧
      Reads bytewise (payloads.map Text.utf8) := by
  have hflatten : bytewise.flatten =
      payloads.flatMap fun p => Text.utf8 (encodeContentLengthFrame p) := by
    unfold bytewise
    rw [← List.flatMap_def, List.flatMap_singleton']
  have h := framing_is_faithful lossy payloads bytewise (.inl hflatten)
  exact ⟨h.1, h.2 (by decide)⟩

end FramingExample

end SubversionR
