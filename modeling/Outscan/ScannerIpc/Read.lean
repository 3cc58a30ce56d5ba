import Outscan.ScannerIpc.Frame

/-! The frame reader: it collects the header and then the payload over chunk
boundaries. What it answers depends on the bytes alone, not on the cuts. -/
namespace Outscan

structure ScannerIpcReadOptions where
  maxPayloadBytes : Nat
  timeoutMs : Nat
deriving DecidableEq, Repr

/-- The options as the caller passes them: `none` for a number that is not an
integer, `false` for a signal that is no `AbortSignal`. -/
structure RawScannerIpcReadOptions where
  maxPayloadBytes : Option Int
  timeoutMs : Option Int
  signal : Bool
deriving DecidableEq, Repr

/-- `snapshotOptions`. -/
def RawScannerIpcReadOptions.snapshot (value : RawScannerIpcReadOptions) :
    Option ScannerIpcReadOptions :=
  match validLimit value.maxPayloadBytes, value.timeoutMs with
  | some maxPayloadBytes, some timeoutMs =>
    if 0 < timeoutMs ∧ timeoutMs ≤ (scannerIpcMaxTimeoutMs : Int) ∧ value.signal = true then
      some ⟨maxPayloadBytes, timeoutMs.toNat⟩
    else none
  | _, _ => none

/-- What `nextWithDeadline` resolves with: a value of the stream, its end, or
the abort, the timeout or the error that came first. -/
inductive NextResult where
  | chunk (value : List UInt8)
  | other
  | done
  | aborted
  | timeout
  | error
deriving DecidableEq, Repr

structure ScannerIpcPayload where
  payloadSize : Nat
  readPayload : List UInt8
deriving DecidableEq, Repr

abbrev ScannerIpcReadResult := Except ScannerIpcError ScannerIpcPayload

/-- The variables of the loop of `readScannerIpcFrame`. -/
structure ReadState where
  header : List UInt8
  headerOffset : Nat
  payload : Option (List UInt8)
  payloadOffset : Nat
  chunks : Nat
deriving DecidableEq, Repr

def ReadState.initial : ReadState :=
  ⟨List.replicate scannerIpcHeaderBytes 0, 0, none, 0, 0⟩

/-- `source.copy(target, start)`, within the bounds of the target. -/
def copyInto (target : List UInt8) (start : Nat) (source : List UInt8) : List UInt8 :=
  target.take start ++ (source ++ target.drop (start + source.length))

def payloadBuffer (maxPayloadBytes : Nat) (header : List UInt8) :
    Except ScannerIpcError (List UInt8) :=
  if !hasScannerIpcMagic header then .error .ipcInvalidFrame
  else
    match readScannerIpcPayloadLength header with
    | none => .error .ipcInvalidFrame
    | some length =>
      if length = 0 then .error .ipcInvalidFrame
      else if maxPayloadBytes < length then .error .ipcOutputTooLarge
      else .ok (List.replicate length 0)

/-- The part of a chunk that still belongs to the header; the number is the
`offset` behind it. -/
def readHeader (maxPayloadBytes : Nat) (s : ReadState) (chunk : List UInt8) :
    Except ScannerIpcError (ReadState × Nat) :=
  if s.headerOffset < s.header.length then
    let count := min (s.header.length - s.headerOffset) chunk.length
    let header := copyInto s.header s.headerOffset (chunk.take count)
    let read := { s with header := header, headerOffset := s.headerOffset + count }
    if read.headerOffset = header.length then
      match payloadBuffer maxPayloadBytes header with
      | .error code => .error code
      | .ok payload => .ok ({ read with payload := some payload }, count)
    else .ok (read, count)
  else .ok (s, 0)

/-- The part of a chunk behind `offset` that fits in the payload. -/
def readPayload (s : ReadState) (chunk : List UInt8) (offset : Nat) : ReadState × Nat :=
  match s.payload with
  | none => (s, offset)
  | some payload =>
    if offset < chunk.length then
      let count := min (payload.length - s.payloadOffset) (chunk.length - offset)
      ({ s with
          payload := some (copyInto payload s.payloadOffset ((chunk.drop offset).take count))
          payloadOffset := s.payloadOffset + count },
        offset + count)
    else (s, offset)

def readChunk (maxPayloadBytes : Nat) (s : ReadState) (chunk : List UInt8) :
    Except ScannerIpcError ReadState :=
  match readHeader maxPayloadBytes s chunk with
  | .error code => .error code
  | .ok (s, offset) =>
    let (s, offset) := readPayload s chunk offset
    if offset ≠ chunk.length then .error .ipcInvalidFrame else .ok s

def readDone (s : ReadState) : ScannerIpcReadResult :=
  match s.payload with
  | none => .error .ipcInvalidFrame
  | some payload =>
    if s.payloadOffset ≠ payload.length then .error .ipcInvalidFrame
    else .ok ⟨payload.length, payload⟩

/-- The loop of `readScannerIpcFrame` over what the stream delivers; `none`
while it waits for more. -/
def readLoop (maxPayloadBytes : Nat) : ReadState → List NextResult → Option ScannerIpcReadResult
  | _, [] => none
  | _, .aborted :: _ => some (.error .ipcAborted)
  | _, .timeout :: _ => some (.error .ipcTimeout)
  | _, .error :: _ => some (.error .ipcStreamError)
  | s, .done :: _ => some (readDone s)
  | s, .other :: _ =>
    if scannerIpcMaxChunks < s.chunks + 1 then some (.error .ipcTooFragmented)
    else some (.error .ipcStreamError)
  | s, .chunk value :: rest =>
    if scannerIpcMaxChunks < s.chunks + 1 then some (.error .ipcTooFragmented)
    else
      match readChunk maxPayloadBytes { s with chunks := s.chunks + 1 } value with
      | .error code => some (.error code)
      | .ok s => readLoop maxPayloadBytes s rest

/-- `readScannerIpcFrame`; the source is `none` when it is not async iterable. -/
def readScannerIpcFrame (source : Option (List NextResult)) (options : RawScannerIpcReadOptions) :
    Option ScannerIpcReadResult :=
  match options.snapshot, source with
  | none, _ => some (.error .invalidIpcContext)
  | some _, none => some (.error .invalidIpcContext)
  | some context, some source => readLoop context.maxPayloadBytes .initial source

/-! ### Buffers filled from the left -/

/-- A buffer of `size` bytes whose first bytes are `bytes`. -/
def filled (size : Nat) (bytes : List UInt8) : List UInt8 :=
  bytes ++ List.replicate (size - bytes.length) 0

theorem length_filled {size : Nat} {bytes : List UInt8} (h : bytes.length ≤ size) :
    (filled size bytes).length = size := by
  rw [filled, List.length_append, List.length_replicate]
  omega

theorem filled_of_full {size : Nat} {bytes : List UInt8} (h : bytes.length = size) :
    filled size bytes = bytes := by
  rw [filled, h, Nat.sub_self, List.replicate_zero, List.append_nil]

theorem copyInto_filled (size : Nat) (bytes more : List UInt8) :
    copyInto (filled size bytes) bytes.length more = filled size (bytes ++ more) := by
  have hdrop : (filled size bytes).drop (bytes.length + more.length) =
      List.replicate (size - (bytes ++ more).length) 0 := by
    rw [filled, ← List.drop_drop, List.drop_left, List.drop_replicate, List.length_append,
      Nat.sub_sub]
  rw [copyInto, hdrop, filled, List.take_left, filled, List.append_assoc]

/-! ### The verdict on a stream -/

/-- Why a reader that has seen `bytes` refuses, whatever follows. -/
def refusal (maxPayloadBytes : Nat) (bytes : List UInt8) : Option ScannerIpcError :=
  if bytes.length < scannerIpcHeaderBytes then none
  else
    match readScannerIpcPayloadLength (bytes.take scannerIpcHeaderBytes) with
    | none => some .ipcInvalidFrame
    | some length =>
      if length = 0 then some .ipcInvalidFrame
      else if maxPayloadBytes < length then some .ipcOutputTooLarge
      else if scannerIpcHeaderBytes + length < bytes.length then some .ipcInvalidFrame
      else none

/-- What the reader answers to a stream of exactly `bytes`. -/
def verdict (maxPayloadBytes : Nat) (bytes : List UInt8) : ScannerIpcReadResult :=
  match refusal maxPayloadBytes bytes with
  | some code => .error code
  | none =>
    if bytes.length < scannerIpcHeaderBytes then .error .ipcInvalidFrame
    else
      match readScannerIpcPayloadLength (bytes.take scannerIpcHeaderBytes) with
      | none => .error .ipcInvalidFrame
      | some length =>
        let payload := bytes.drop scannerIpcHeaderBytes
        if payload.length ≠ length then .error .ipcInvalidFrame else .ok ⟨payload.length, payload⟩

/-- The state of a reader that has taken `bytes` and not refused: inside the
header, or behind a header that announced `length`. -/
inductive Taken (maxPayloadBytes : Nat) : List UInt8 → ReadState → Prop
  | header {bytes : List UInt8} {s : ReadState} (short : bytes.length < scannerIpcHeaderBytes)
      (header : s.header = filled scannerIpcHeaderBytes bytes)
      (headerOffset : s.headerOffset = bytes.length) (payload : s.payload = none)
      (payloadOffset : s.payloadOffset = 0) : Taken maxPayloadBytes bytes s
  | payload {head bytes : List UInt8} {length : Nat} {s : ReadState}
      (announced : readScannerIpcPayloadLength head = some length) (positive : 0 < length)
      (within : length ≤ maxPayloadBytes) (fits : bytes.length ≤ length)
      (header : s.header.length = scannerIpcHeaderBytes)
      (headerOffset : s.headerOffset = scannerIpcHeaderBytes)
      (payload : s.payload = some (filled length bytes))
      (payloadOffset : s.payloadOffset = bytes.length) : Taken maxPayloadBytes (head ++ bytes) s

theorem length_of_announced {head : List UInt8} {length : Nat}
    (h : readScannerIpcPayloadLength head = some length) :
    head.length = scannerIpcHeaderBytes := by
  obtain ⟨lengthField, hfield, rfl⟩ := readScannerIpcPayloadLength_eq_some.mp h
  rw [List.length_append, length_of_u32be hfield, scannerIpcHeaderBytes]

theorem refusal_append {maxPayloadBytes : Nat} {head bytes : List UInt8}
    (h : head.length = scannerIpcHeaderBytes) :
    refusal maxPayloadBytes (head ++ bytes) =
      match readScannerIpcPayloadLength head with
      | none => some .ipcInvalidFrame
      | some length =>
        if length = 0 then some .ipcInvalidFrame
        else if maxPayloadBytes < length then some .ipcOutputTooLarge
        else if length < bytes.length then some .ipcInvalidFrame
        else none := by
  have htake : (head ++ bytes).take scannerIpcHeaderBytes = head := by
    rw [← h, List.take_left]
  rw [refusal, if_neg (by rw [List.length_append]; omega), htake, List.length_append, h]
  simp only [Nat.add_lt_add_iff_left]

theorem payloadBuffer_eq (maxPayloadBytes : Nat) (header : List UInt8) :
    payloadBuffer maxPayloadBytes header =
      match readScannerIpcPayloadLength header with
      | none => .error .ipcInvalidFrame
      | some length =>
        if length = 0 then .error .ipcInvalidFrame
        else if maxPayloadBytes < length then .error .ipcOutputTooLarge
        else .ok (List.replicate length 0) := by
  rw [payloadBuffer]
  by_cases hmagic : hasScannerIpcMagic header = true
  · simp [hmagic]
  · simp [hmagic, readScannerIpcPayloadLength]

/-! ### One chunk -/

theorem readPayload_fits {s : ReadState} {chunk bytes : List UInt8} {length offset : Nat}
    (hpayload : s.payload = some (filled length bytes)) (hoffset : s.payloadOffset = bytes.length)
    (hwithin : offset ≤ chunk.length) (hfits : bytes.length + (chunk.length - offset) ≤ length) :
    readPayload s chunk offset =
      ({ s with
          payload := some (filled length (bytes ++ chunk.drop offset))
          payloadOffset := (bytes ++ chunk.drop offset).length }, chunk.length) := by
  have hlength : (filled length bytes).length = length := length_filled (by omega)
  rw [readPayload, hpayload]
  dsimp only
  rw [hlength, hoffset]
  by_cases hmore : offset < chunk.length
  · have hcount : min (length - bytes.length) (chunk.length - offset) = chunk.length - offset := by
      omega
    have hall : (chunk.drop offset).take (chunk.length - offset) = chunk.drop offset := by
      exact List.take_of_length_le (Nat.le_of_eq List.length_drop)
    have hend : offset + (chunk.length - offset) = chunk.length := by omega
    rw [if_pos hmore, hcount, hall, copyInto_filled,
      hend, List.length_append, List.length_drop]
  · have hend : offset = chunk.length := by omega
    have hnone : chunk.drop offset = [] := by rw [hend, List.drop_length]
    rw [if_neg hmore, hnone, List.append_nil, ← hpayload, ← hoffset, hend]

theorem readPayload_over {s : ReadState} {chunk bytes : List UInt8} {length offset : Nat}
    (hpayload : s.payload = some (filled length bytes)) (hoffset : s.payloadOffset = bytes.length)
    (hbytes : bytes.length ≤ length) (hover : length < bytes.length + (chunk.length - offset)) :
    (readPayload s chunk offset).2 ≠ chunk.length := by
  have hlength : (filled length bytes).length = length := length_filled hbytes
  rw [readPayload, hpayload]
  dsimp only
  rw [hlength, hoffset, if_pos (by omega)]
  dsimp only
  omega

theorem readPayload_taken {maxPayloadBytes length : Nat} {head : List UInt8} (s : ReadState)
    (bytes chunk : List UInt8) (offset : Nat) (hannounced : readScannerIpcPayloadLength head = some length)
    (hpositive : 0 < length) (hmaximum : length ≤ maxPayloadBytes)
    (hbytes : bytes.length ≤ length) (hheader : s.header.length = scannerIpcHeaderBytes)
    (hheaderOffset : s.headerOffset = scannerIpcHeaderBytes)
    (hpayload : s.payload = some (filled length bytes)) (hoffset : s.payloadOffset = bytes.length)
    (hwithin : offset ≤ chunk.length) :
    if length < bytes.length + (chunk.length - offset) then
      (readPayload s chunk offset).2 ≠ chunk.length
    else
      (readPayload s chunk offset).2 = chunk.length ∧
        Taken maxPayloadBytes (head ++ (bytes ++ chunk.drop offset))
          (readPayload s chunk offset).1 ∧
        (readPayload s chunk offset).1.chunks = s.chunks := by
  split
  · exact readPayload_over hpayload hoffset hbytes (by assumption)
  · rename_i hfits
    rw [readPayload_fits hpayload hoffset hwithin (by omega)]
    refine ⟨rfl, ?_, rfl⟩
    have hlength : (bytes ++ chunk.drop offset).length ≤ length := by
      rw [List.length_append, List.length_drop]
      omega
    exact .payload hannounced hpositive hmaximum hlength hheader hheaderOffset rfl rfl

theorem readHeader_short {maxPayloadBytes : Nat} {s : ReadState} {bytes chunk : List UInt8}
    (hheader : s.header = filled scannerIpcHeaderBytes bytes)
    (hoffset : s.headerOffset = bytes.length)
    (hshort : (bytes ++ chunk).length < scannerIpcHeaderBytes) :
    readHeader maxPayloadBytes s chunk =
      .ok ({ s with
        header := filled scannerIpcHeaderBytes (bytes ++ chunk)
        headerOffset := (bytes ++ chunk).length }, chunk.length) := by
  rw [List.length_append] at hshort
  have hlength : s.header.length = scannerIpcHeaderBytes := by
    rw [hheader, length_filled (by omega)]
  have hcount : min (scannerIpcHeaderBytes - bytes.length) chunk.length = chunk.length := by
    omega
  rw [readHeader, hlength, hoffset, if_pos (by omega), hcount]
  dsimp only
  rw [List.take_length, hheader, copyInto_filled]
  rw [length_filled (by rw [List.length_append]; omega), if_neg (by omega), List.length_append]

theorem readHeader_full (maxPayloadBytes : Nat) {s : ReadState} {bytes chunk : List UInt8}
    (hheader : s.header = filled scannerIpcHeaderBytes bytes)
    (hoffset : s.headerOffset = bytes.length) (hshort : bytes.length < scannerIpcHeaderBytes)
    (hfull : scannerIpcHeaderBytes ≤ (bytes ++ chunk).length) :
    let count := scannerIpcHeaderBytes - bytes.length
    let head := bytes ++ chunk.take count
    head.length = scannerIpcHeaderBytes ∧ count ≤ chunk.length ∧
      readHeader maxPayloadBytes s chunk =
        match payloadBuffer maxPayloadBytes head with
        | .error code => .error code
        | .ok payload =>
          .ok ({ s with
            header := head
            headerOffset := scannerIpcHeaderBytes
            payload := some payload }, count) := by
  intro count head
  rw [List.length_append] at hfull
  have hlength : s.header.length = scannerIpcHeaderBytes := by
    rw [hheader, length_filled (by omega)]
  have hcount : min (scannerIpcHeaderBytes - bytes.length) chunk.length = count := by omega
  have htake : (chunk.take count).length = count := by
    rw [List.length_take]
    omega
  have hhead : head.length = scannerIpcHeaderBytes := by
    rw [List.length_append, htake]
    omega
  refine ⟨hhead, by omega, ?_⟩
  rw [readHeader, hlength, hoffset, if_pos hshort, hcount]
  dsimp only
  rw [hheader, copyInto_filled]
  have hend : bytes.length + count = scannerIpcHeaderBytes := by omega
  rw [filled_of_full hhead, hhead, if_pos hend, hend]

/-- One chunk takes the state of the bytes before it to the state of the bytes
with it, or is refused as those bytes are. -/
theorem readChunk_taken {maxPayloadBytes : Nat} {s : ReadState} {bytes : List UInt8}
    (h : Taken maxPayloadBytes bytes s) (chunk : List UInt8) :
    match refusal maxPayloadBytes (bytes ++ chunk) with
    | some code => readChunk maxPayloadBytes s chunk = .error code
    | none => ∃ next, readChunk maxPayloadBytes s chunk = .ok next ∧
        Taken maxPayloadBytes (bytes ++ chunk) next ∧ next.chunks = s.chunks := by
  cases h with
  | header hshort hheader hheaderOffset hpayload hpayloadOffset =>
    by_cases hall : (bytes ++ chunk).length < scannerIpcHeaderBytes
    · rw [refusal, if_pos hall]
      refine ⟨{ s with
        header := filled scannerIpcHeaderBytes (bytes ++ chunk)
        headerOffset := (bytes ++ chunk).length }, ?_,
        .header hall rfl rfl hpayload hpayloadOffset, rfl⟩
      rw [readChunk, readHeader_short hheader hheaderOffset hall]
      simp [readPayload, hpayload]
    · obtain ⟨hhead, hcount, hread⟩ := readHeader_full maxPayloadBytes
        hheader hheaderOffset hshort (Nat.not_lt.mp hall)
      generalize scannerIpcHeaderBytes - bytes.length = count at hhead hcount hread
      have hsplit : bytes ++ chunk = (bytes ++ chunk.take count) ++ chunk.drop count := by
        rw [List.append_assoc, List.take_append_drop]
      rw [hsplit, refusal_append hhead, readChunk, hread, payloadBuffer_eq]
      cases hannounced : readScannerIpcPayloadLength (bytes ++ chunk.take count) with
      | none => rfl
      | some length =>
        dsimp only
        by_cases hzero : length = 0
        · rw [if_pos hzero, if_pos hzero]
        rw [if_neg hzero, if_neg hzero]
        by_cases hlarge : maxPayloadBytes < length
        · rw [if_pos hlarge, if_pos hlarge]
        rw [if_neg hlarge, if_neg hlarge, List.length_drop]
        dsimp only
        have hempty : List.replicate length 0 = filled length [] := by simp [filled]
        generalize hs : ({ s with
          header := bytes ++ chunk.take count
          headerOffset := scannerIpcHeaderBytes
          payload := some (List.replicate length 0) } : ReadState) = started
        have hstarted := readPayload_taken started [] chunk _
          hannounced (by omega) (Nat.not_lt.mp hlarge) (by simp) (by rw [← hs]; exact hhead)
          (by rw [← hs]) (by rw [← hs]; simp [hempty]) (by rw [← hs]; exact hpayloadOffset) hcount
        have hchunks : started.chunks = s.chunks := by rw [← hs]
        simp only [List.length_nil, Nat.zero_add, List.nil_append, hchunks] at hstarted
        by_cases hover : length < chunk.length - count
        · rw [if_pos hover] at hstarted ⊢
          rw [if_pos hstarted]
        · rw [if_neg hover] at hstarted ⊢
          exact ⟨_, if_neg (not_not.mpr hstarted.1), hstarted.2⟩
  | @payload head rest length s hannounced hpositive hmaximum hfits hheader hheaderOffset hpayload
      hpayloadOffset =>
    have htaken := readPayload_taken _ _ chunk 0 hannounced hpositive hmaximum
      hfits hheader hheaderOffset hpayload hpayloadOffset (Nat.zero_le _)
    rw [List.append_assoc, refusal_append (length_of_announced hannounced), hannounced]
    dsimp only
    rw [if_neg (by omega), if_neg (by omega), List.length_append, readChunk, readHeader, hheader,
      hheaderOffset, if_neg (Nat.lt_irrefl _)]
    dsimp only
    rw [Nat.sub_zero, List.drop_zero] at htaken
    by_cases hover : length < rest.length + chunk.length
    · rw [if_pos hover] at htaken ⊢
      rw [if_pos htaken]
    · rw [if_neg hover] at htaken ⊢
      exact ⟨_, if_neg (not_not.mpr htaken.1), htaken.2⟩

theorem taken_initial (maxPayloadBytes : Nat) : Taken maxPayloadBytes [] .initial :=
  .header (by decide) rfl rfl rfl rfl

theorem refusal_extend {maxPayloadBytes : Nat} {bytes : List UInt8} {code : ScannerIpcError}
    (h : refusal maxPayloadBytes bytes = some code) (more : List UInt8) :
    refusal maxPayloadBytes (bytes ++ more) = some code := by
  by_cases hshort : bytes.length < scannerIpcHeaderBytes
  · rw [refusal, if_pos hshort] at h
    cases h
  have hhead : (bytes.take scannerIpcHeaderBytes).length = scannerIpcHeaderBytes := by
    rw [List.length_take]
    omega
  rw [← List.take_append_drop scannerIpcHeaderBytes bytes, refusal_append hhead] at h
  rw [← List.take_append_drop scannerIpcHeaderBytes bytes, List.append_assoc,
    refusal_append hhead]
  cases hannounced : readScannerIpcPayloadLength (bytes.take scannerIpcHeaderBytes) with
  | none =>
    rw [hannounced] at h
    exact h
  | some length =>
    rw [hannounced] at h
    dsimp only at h ⊢
    split at h
    · rwa [if_pos (by assumption)]
    rw [if_neg (by assumption)]
    split at h
    · rwa [if_pos (by assumption)]
    rw [if_neg (by assumption)]
    split at h
    · rw [if_pos (by rw [List.length_append]; omega)]
      exact h
    · cases h

theorem readDone_taken {maxPayloadBytes : Nat} {s : ReadState} {bytes : List UInt8}
    (h : Taken maxPayloadBytes bytes s) : readDone s = verdict maxPayloadBytes bytes := by
  cases h with
  | header hshort _ _ hpayload _ =>
    rw [readDone, hpayload, verdict, refusal, if_pos hshort]
    dsimp only
    rw [if_pos hshort]
  | @payload head rest length s hannounced hpositive hmaximum hfits _ _ hpayload hpayloadOffset =>
    have hhead := length_of_announced hannounced
    have htake : (head ++ rest).take scannerIpcHeaderBytes = head := by
      rw [← hhead, List.take_left]
    have hdrop : (head ++ rest).drop scannerIpcHeaderBytes = rest := by
      rw [← hhead, List.drop_left]
    rw [verdict, refusal_append hhead, hannounced]
    dsimp only
    rw [if_neg (by omega), if_neg (by omega), if_neg (by omega)]
    dsimp only
    rw [if_neg (by rw [List.length_append]; omega), htake, hannounced, hdrop]
    dsimp only
    rw [readDone, hpayload]
    dsimp only
    rw [hpayloadOffset, length_filled hfits]
    by_cases hfull : rest.length = length
    · rw [if_neg (not_not.mpr hfull), if_neg (not_not.mpr hfull), filled_of_full hfull, hfull]
    · rw [if_pos hfull, if_pos hfull]

theorem Taken.counted {maxPayloadBytes : Nat} {bytes : List UInt8} {s : ReadState}
    (h : Taken maxPayloadBytes bytes s) :
    Taken maxPayloadBytes bytes { s with chunks := s.chunks + 1 } := by
  cases h with
  | header hshort hheader hheaderOffset hpayload hpayloadOffset =>
    exact .header hshort hheader hheaderOffset hpayload hpayloadOffset
  | payload hannounced hpositive hmaximum hfits hheader hheaderOffset hpayload hoffset =>
    exact .payload hannounced hpositive hmaximum hfits hheader hheaderOffset hpayload hoffset

theorem readLoop_taken {maxPayloadBytes : Nat} {s : ReadState} {bytes : List UInt8}
    (h : Taken maxPayloadBytes bytes s) (chunks : List (List UInt8))
    (hchunks : s.chunks + chunks.length ≤ scannerIpcMaxChunks) :
    readLoop maxPayloadBytes s (chunks.map .chunk ++ [.done]) =
      some (verdict maxPayloadBytes (bytes ++ chunks.flatten)) := by
  induction chunks generalizing s bytes with
  | nil =>
    rw [List.flatten_nil, List.append_nil]
    exact congrArg some (readDone_taken h)
  | cons chunk rest ih =>
    rw [List.length_cons] at hchunks
    have hstep := readChunk_taken h.counted chunk
    rw [List.map_cons, List.cons_append, readLoop, if_neg (by omega), List.flatten_cons,
      ← List.append_assoc]
    cases hrefusal : refusal maxPayloadBytes (bytes ++ chunk) with
    | some code =>
      rw [hrefusal] at hstep
      dsimp only at hstep
      rw [hstep, verdict, refusal_extend hrefusal]
    | none =>
      rw [hrefusal] at hstep
      obtain ⟨next, hnext, htaken, hcount⟩ := hstep
      rw [hnext]
      exact ih htaken (by rw [hcount]; dsimp only; omega)

/-- A source that delivers `chunks` and ends. -/
def undisturbed (chunks : List (List UInt8)) : Option (List NextResult) :=
  some (chunks.map .chunk ++ [.done])

/-- What the reader answers to an undisturbed stream is the verdict on its
bytes: the cuts do not matter. -/
theorem readScannerIpcFrame_eq {options : RawScannerIpcReadOptions}
    {context : ScannerIpcReadOptions} (hoptions : options.snapshot = some context)
    {chunks : List (List UInt8)} (hchunks : chunks.length ≤ scannerIpcMaxChunks) :
    readScannerIpcFrame (undisturbed chunks) options =
      some (verdict context.maxPayloadBytes chunks.flatten) := by
  simp only [readScannerIpcFrame, hoptions, undisturbed]
  exact readLoop_taken (taken_initial _) chunks (by
    rw [show ReadState.initial.chunks = 0 from rfl]
    omega)

theorem verdict_ok {maxPayloadBytes : Nat} {bytes : List UInt8} {result : ScannerIpcPayload} :
    verdict maxPayloadBytes bytes = .ok result ↔
      IsScannerIpcFrame maxPayloadBytes result.readPayload bytes ∧
        result.payloadSize = result.readPayload.length := by
  constructor
  · intro h
    rw [verdict] at h
    split at h
    · cases h
    · rename_i hrefusal
      split at h
      · cases h
      · rename_i hlong
        rw [refusal, if_neg hlong] at hrefusal
        split at h
        · cases h
        · rename_i length hannounced
          rw [hannounced] at hrefusal
          dsimp only at h hrefusal
          split at h
          · cases h
          · rename_i hlength
            rw [not_not] at hlength
            cases h
            obtain ⟨lengthField, hfield, hhead⟩ :=
              readScannerIpcPayloadLength_eq_some.mp hannounced
            refine ⟨⟨?_, lengthField, ?_, ?_⟩, rfl⟩
            · dsimp only
              rw [hlength]
              split at hrefusal
              · cases hrefusal
              split at hrefusal
              · cases hrefusal
              omega
            · dsimp only
              rw [hlength, hfield]
            · dsimp only
              rw [← List.append_assoc, ← hhead, List.take_append_drop]
  · obtain ⟨size, payload⟩ := result
    rintro ⟨⟨⟨hpositive, hmaximum⟩, lengthField, hfield, rfl⟩, hsize⟩
    dsimp only at hsize hpositive hmaximum hfield
    subst hsize
    have hannounced : readScannerIpcPayloadLength (scannerIpcMagic ++ lengthField) =
        some payload.length := readScannerIpcPayloadLength_eq_some.mpr ⟨_, hfield, rfl⟩
    have hhead := length_of_announced hannounced
    have htake : (scannerIpcMagic ++ lengthField ++ payload).take scannerIpcHeaderBytes =
        scannerIpcMagic ++ lengthField := by rw [← hhead, List.take_left]
    have hdrop : (scannerIpcMagic ++ lengthField ++ payload).drop scannerIpcHeaderBytes =
        payload := by rw [← hhead, List.drop_left]
    rw [← List.append_assoc, verdict, refusal_append hhead, hannounced]
    dsimp only
    rw [if_neg (by omega), if_neg (by omega), if_neg (Nat.lt_irrefl _)]
    dsimp only
    rw [if_neg (by rw [List.length_append]; omega), htake, hannounced, hdrop]
    dsimp only
    rw [if_neg (not_not.mpr rfl)]

theorem IsScannerIpcFrame.eq_of_prefix {m n : Nat} {payload other stream longer : List UInt8}
    (ha : IsScannerIpcFrame m payload stream) (hb : IsScannerIpcFrame n other longer)
    (h : stream <+: longer) : stream = longer := by
  obtain ⟨-, fieldA, hfieldA, rfl⟩ := ha
  obtain ⟨-, fieldB, hfieldB, rfl⟩ := hb
  have hlengthA := length_of_u32be hfieldA
  have hlengthB := length_of_u32be hfieldB
  obtain ⟨more, hmore⟩ := h
  rw [List.append_assoc, List.append_assoc] at hmore
  have hrest := List.append_cancel_left hmore
  obtain ⟨hfield, htail⟩ := List.append_inj hrest (by rw [hlengthA, hlengthB])
  rw [hfield] at hfieldA
  have hsize : payload.length = other.length := u32be_injective hfieldA hfieldB
  have hnil : more.length = 0 := by
    have htotal := congrArg List.length htail
    rw [List.length_append] at htotal
    omega
  rw [List.length_eq_zero_iff.mp hnil, List.append_nil] at htail
  rw [hfield, htail]

theorem readLoop_ok {maxPayloadBytes : Nat} {s : ReadState} {bytes : List UInt8}
    (h : Taken maxPayloadBytes bytes s) {source : List NextResult} {result : ScannerIpcPayload}
    (hread : readLoop maxPayloadBytes s source = some (.ok result)) :
    ∃ (chunks : List (List UInt8)) (rest : List NextResult),
      source = chunks.map .chunk ++ .done :: rest ∧
      IsScannerIpcFrame maxPayloadBytes result.readPayload (bytes ++ chunks.flatten) := by
  induction source generalizing s bytes with
  | nil => cases hread
  | cons next rest ih =>
    cases next with
    | done =>
      have hverdict : verdict maxPayloadBytes bytes = .ok result :=
        (readDone_taken h).symm.trans (Option.some.inj hread)
      refine ⟨[], rest, rfl, ?_⟩
      rw [List.flatten_nil, List.append_nil]
      exact (verdict_ok.mp hverdict).1
    | chunk value =>
      have hstep := readChunk_taken h.counted value
      rw [readLoop] at hread
      split at hread
      · cases hread
      · cases hrefusal : refusal maxPayloadBytes (bytes ++ value) with
        | some code =>
          rw [hrefusal] at hstep
          dsimp only at hstep
          rw [hstep] at hread
          cases hread
        | none =>
          rw [hrefusal] at hstep
          obtain ⟨next, hnext, htaken, -⟩ := hstep
          rw [hnext] at hread
          obtain ⟨chunks, others, rfl, hframe⟩ := ih htaken hread
          refine ⟨value :: chunks, others, rfl, ?_⟩
          rwa [List.flatten_cons, ← List.append_assoc]
    | other =>
      rw [readLoop] at hread
      split at hread
      · cases hread
      · cases hread
    | aborted => cases hread
    | timeout => cases hread
    | error => cases hread

theorem readScannerIpcFrame_ok {source : Option (List NextResult)}
    {options : RawScannerIpcReadOptions} {result : ScannerIpcPayload}
    (h : readScannerIpcFrame source options = some (.ok result)) :
    ∃ context, ∃ chunks : List (List UInt8), ∃ rest, options.snapshot = some context ∧
      source = some (chunks.map .chunk ++ .done :: rest) ∧
      IsScannerIpcFrame context.maxPayloadBytes result.readPayload chunks.flatten := by
  unfold readScannerIpcFrame at h
  split at h
  · cases h
  · cases h
  · rename_i context source hoptions
    obtain ⟨chunks, rest, rfl, hframe⟩ := readLoop_ok (taken_initial _) h
    exact ⟨context, chunks, rest, hoptions, rfl, hframe⟩

def ReadRefused (result : Option ScannerIpcReadResult) : Prop :=
  ∃ code, result = some (.error code)

theorem refused_of_not_frame {options : RawScannerIpcReadOptions}
    {context : ScannerIpcReadOptions} (hoptions : options.snapshot = some context)
    {chunks : List (List UInt8)} (hchunks : chunks.length ≤ scannerIpcMaxChunks)
    (h : ∀ payload, ¬ IsScannerIpcFrame context.maxPayloadBytes payload chunks.flatten) :
    ReadRefused (readScannerIpcFrame (undisturbed chunks) options) := by
  rw [readScannerIpcFrame_eq hoptions hchunks]
  cases hverdict : verdict context.maxPayloadBytes chunks.flatten with
  | error code => exact ⟨code, rfl⟩
  | ok result => exact absurd (verdict_ok.mp hverdict).1 (h _)

/-- The framing contract: what is read back is exactly what was framed. -/
theorem readScannerIpcFrame_framing {options : RawScannerIpcReadOptions}
    {context : ScannerIpcReadOptions} (hoptions : options.snapshot = some context)
    {chunks : List (List UInt8)} (hchunks : chunks.length ≤ scannerIpcMaxChunks) :
    (∀ result, readScannerIpcFrame (undisturbed chunks) options = some (.ok result) ↔
      IsScannerIpcFrame context.maxPayloadBytes result.readPayload chunks.flatten ∧
        result.payloadSize = result.readPayload.length) ∧
    (∀ others, others.length ≤ scannerIpcMaxChunks → others.flatten = chunks.flatten →
      readScannerIpcFrame (undisturbed others) options =
        readScannerIpcFrame (undisturbed chunks) options) ∧
    (∀ payload maximumBytes, payload.length ≤ context.maxPayloadBytes →
      encodeScannerIpcFrame payload maximumBytes = .ok chunks.flatten →
      readScannerIpcFrame (undisturbed chunks) options =
        some (.ok ⟨payload.length, payload⟩)) ∧
    (∀ payload maximumBytes frame, encodeScannerIpcFrame payload maximumBytes = .ok frame →
      chunks.flatten ≠ frame → chunks.flatten <+: frame ∨ frame <+: chunks.flatten →
      ReadRefused (readScannerIpcFrame (undisturbed chunks) options)) ∧
    (¬ scannerIpcMagic <+: chunks.flatten →
      ReadRefused (readScannerIpcFrame (undisturbed chunks) options)) := by
  have hframe : ∀ {payload maximumBytes frame},
      encodeScannerIpcFrame payload maximumBytes = .ok frame →
      ∃ maximum, IsScannerIpcFrame maximum payload frame := by
    intro payload maximumBytes frame hencode
    cases hmaximum : validLimit maximumBytes with
    | none =>
      rw [encodeScannerIpcFrame, hmaximum] at hencode
      cases hencode
    | some maximum => exact ⟨maximum, (encodeScannerIpcFrame_ok hmaximum).mp hencode⟩
  refine ⟨fun result => ?_, fun others hothers hflatten => ?_,
    fun payload maximumBytes hsize hencode => ?_,
    fun payload maximumBytes frame hencode hne hcut => ?_, fun hmagic => ?_⟩
  · rw [readScannerIpcFrame_eq hoptions hchunks, Option.some.injEq]
    exact verdict_ok
  · rw [readScannerIpcFrame_eq hoptions hothers, readScannerIpcFrame_eq hoptions hchunks, hflatten]
  · obtain ⟨maximum, ⟨hpositive, -⟩, hstream⟩ := hframe hencode
    rw [readScannerIpcFrame_eq hoptions hchunks]
    exact congrArg some (verdict_ok.mpr ⟨⟨⟨hpositive, hsize⟩, hstream⟩, rfl⟩)
  · obtain ⟨maximum, hisFrame⟩ := hframe hencode
    apply refused_of_not_frame hoptions hchunks
    intro other hother
    rcases hcut with h | h
    · exact hne (hother.eq_of_prefix hisFrame h)
    · exact hne (hisFrame.eq_of_prefix hother h).symm
  · apply refused_of_not_frame hoptions hchunks
    rintro payload ⟨-, lengthField, -, hstream⟩
    exact hmagic ⟨_, hstream.symm⟩

/-- The frame of a one-byte payload, cut inside the magic, inside the length and by empty chunks. -/
theorem readScannerIpcFrame_framing_sample :
    let chunks := [scannerIpcMagic.take 3, [], scannerIpcMagic.drop 3 ++ [0, 0], [0, 1], [], [7]]
    encodeScannerIpcFrame [7] (some 16) = .ok chunks.flatten ∧
      readScannerIpcFrame (undisturbed chunks) ⟨some 16, some 1000, true⟩ =
        some (.ok ⟨1, [7]⟩) := by
  intro chunks
  have hsnapshot : (⟨some 16, some 1000, true⟩ : RawScannerIpcReadOptions).snapshot =
      some ⟨16, 1000⟩ := by decide
  have hencoded : encodeScannerIpcFrame [7] (some 16) = .ok chunks.flatten := by decide
  exact ⟨hencoded, (readScannerIpcFrame_framing hsnapshot (by decide)).2.2.1 [7] (some 16) (by decide)
    hencoded⟩

end Outscan
