import Rmux.Protocol.Basic
import Rmux.Bufio

/-!
# Forwarding and discarding replies

The routines that move a backend's reply from its `*bufio.Reader` to a client's
`*bufio.Writer` (`CopyServerResponse`, `CopyMultiBulkMessage`, `copyBulkMessage`), and those
that read a reply and drop it (`IgnoreMultiBulkMessage`, `ignoreBulkMessage`), with the line
writers they use (`writeLine`, `FlushLine`).

Each routine is a function of the reader and the writer it is handed, returning Go's `err`
together with both after the call. `IgnoreMultiBulkMessage` indexes an element line that can be
empty, so it answers `Except Panic`. The discard loop of `ignoreBulkMessage` also returns the
reads it issues, each as the length it asked for and the bytes it got (`DiscardLog`): they are
thrown away by the code, and kept here so that what is read can be stated.
-/

namespace Rmux

/-! ## Writing lines -/

/-- `writeLine(line, destination)`: the line, then `REDIS_NEWLINE`. Reference:
`connection.go:494`. -/
def writeLine (line : List UInt8) (destination : Writer) : Option Error × Writer :=
  match destination.Write line with
  | (_, some e, destination) => (some e, destination)
  | (_, none, destination) =>
    match destination.Write REDIS_NEWLINE with
    | (_, err, destination) => (err, destination)

/-- `FlushLine(line, destination)`: `writeLine`, then a flush. Reference: `connection.go:480`. -/
def FlushLine (line : List UInt8) (destination : Writer) : Option Error × Writer :=
  match writeLine line destination with
  | (some e, destination) => (some e, destination)
  | (none, destination) => destination.Flush

/-- Into a writer whose writes never fail, `writeLine` appends the line and `\r\n`. -/
theorem writeLine_reliable {w : Writer} (h : w.Reliable) (line : List UInt8) :
    writeLine line w = (none, { w with out := w.out ++ (line ++ REDIS_NEWLINE) }) := by
  simp [writeLine, Writer.Write_reliable h, Writer.Write_reliable (h.append line)]

/-! ## Discarding -/

/-- The reads of a discard loop: the length each one asked for, and the bytes it got. -/
abbrev DiscardLog := List (Nat × List UInt8)

/-- The reads of a discard loop take `x` from its start, in order, each one asking for at least
one byte, at most `BUFFER_SIZE`, and none past the end of `x`. -/
def DiscardsPayload : DiscardLog → List UInt8 → Prop
  | [], x => x = []
  | (k, d) :: log, x =>
    0 < k ∧ k ≤ BUFFER_SIZE ∧ k ≤ x.length ∧ d ≠ [] ∧ d <+: x ∧ DiscardsPayload log (x.drop d.length)

/-- How the body of a Go loop is left: the loop runs out (`next`), or the function returns from
inside it with its error (`ret`). -/
inductive Flow where
  | next
  | ret (err : Option Error)
  deriving DecidableEq, Repr

/-- The discard loop of `ignoreBulkMessage`: while `n > 0`, read at most `BUFFER_SIZE` bytes, and
at most `n`, into `REFUSE_HEAP`. A read is never longer than asked, so `n -= copied` stays
non-negative. Reference: `connection.go:536`. -/
def ignoreBulkMessage.loop (source : Reader) (n : Int) : Flow × Reader × DiscardLog :=
  if hn : n ≤ 0 then (.next, source, [])
  else
    let k := if n > BUFFER_SIZE then BUFFER_SIZE else n.toNat
    match source.Read k with
    | (copied, err, source) =>
      if hc : err ≠ none ∨ copied.length = 0 then (.ret err, source, [(k, copied)])
      else
        match ignoreBulkMessage.loop source (n - copied.length) with
        | (flow, source, log) => (flow, source, (k, copied) :: log)
termination_by n.toNat
decreasing_by
  have : 0 < copied.length := by omega
  omega

/-- The discard loop over a payload of `n` bytes, however they are buffered and chunked, reads
exactly the payload. -/
theorem ignoreBulkMessage.loop_discards (n : Nat) :
    ∀ {x rest : List UInt8} {source : Reader}, x.length = n → source.unread = x ++ rest →
      ∃ source' log, ignoreBulkMessage.loop source n = (.next, source', log) ∧
        source'.unread = rest ∧ source'.size = source.size ∧ DiscardsPayload log x := by
  induction n using Nat.strong_induction_on with
  | _ n ih =>
  intro x rest source hx h
  unfold ignoreBulkMessage.loop
  rcases Nat.eq_zero_or_pos n with rfl | hpos
  · obtain rfl := List.length_eq_zero.1 hx
    exact ⟨source, [], by simp, by simpa using h, rfl, rfl⟩
  have hk : (if (n : Int) > BUFFER_SIZE then BUFFER_SIZE else (n : Int).toNat) = min n BUFFER_SIZE := by
    simp only [BUFFER_SIZE] at *; split <;> omega
  have hu : source.unread ≠ [] := by
    rw [h]; intro he; simp [List.append_eq_nil] at he; simp [he.1] at hx; omega
  obtain ⟨d, b₁, hr, hne, hlen, hsplit, -, hsize⟩ :=
    Reader.Read_progress (show 0 < min n BUFFER_SIZE by simp [BUFFER_SIZE]; omega) hu
  have hdx : d.length ≤ x.length := by have := Nat.min_le_left n BUFFER_SIZE; omega
  have hxr : x ++ rest = d ++ b₁.unread := h.symm.trans hsplit
  have hpre : x.take d.length = d := by
    simpa [List.take_append_of_le_length hdx] using congrArg (List.take d.length) hxr
  have hb₁ : b₁.unread = x.drop d.length ++ rest := by
    simpa [List.drop_append_of_le_length hdx] using (congrArg (List.drop d.length) hxr).symm
  have hd0 : 0 < d.length := List.length_pos.2 hne
  obtain ⟨b', log, h1, h2, h3, h4⟩ := ih (n - d.length) (by omega)
    (show (x.drop d.length).length = n - d.length by simp [hx]) hb₁
  refine ⟨b', (min n BUFFER_SIZE, d) :: log, ?_, h2, by rw [h3, hsize], ?_⟩
  · simp only [show ¬ (n : Int) ≤ 0 by omega, dite_false, hk, hr, ne_eq, not_true_eq_false,
      false_or, List.length_eq_zero, hne, dite_false]
    rw [show (n : Int) - d.length = ((n - d.length : Nat) : Int) by omega, h1]
  · exact ⟨by simp [BUFFER_SIZE]; omega, Nat.min_le_right _ _, by omega, hne,
      hpre ▸ List.take_prefix _ _, h4⟩

/-- The format check of a first line passes on its type byte followed by at least one byte. -/
theorem firstLine_check {c : UInt8} {t : List UInt8} (ht : t ≠ []) :
    ¬ ((c :: t).length < 2 ∨ (c :: t).head? ≠ some c) := by
  cases t <;> simp_all

/-- `ignoreBulkMessage(firstLine, source)`. Reference: `connection.go:513`. -/
def ignoreBulkMessage (firstLine : List UInt8) (source : Reader) :
    Option Error × Reader × DiscardLog :=
  if firstLine.length < 2 ∨ firstLine.head? ≠ some '$'.toUInt8 then
    (some .badBulkFormat, source, [])
  else if firstLine = ERR_RESPONSE then (none, source, [])
  else
    match ParseInt (firstLine.drop 1) with
    | (_, some e) => (some e, source, [])
    | (n, none) =>
      match ignoreBulkMessage.loop source n with
      | (.ret err, source, log) => (err, source, log)
      | (.next, source, log) =>
        match source.ReadByte with
        | (_, some e, source) => (some e, source, log)
        | (char, none, source) =>
          if char ≠ '\r'.toUInt8 then (some .badBulkFormat, source, log)
          else
            match source.ReadByte with
            | (_, some e, source) => (some e, source, log)
            | (char, none, source) =>
              if char ≠ '\n'.toUInt8 then (some .badBulkFormat, source, log)
              else (none, source, log)

/-- `ignoreBulkMessage` on the header of a bulk string skips the payload and its `\r\n`, reading
exactly the payload in its discard loop. -/
theorem ignoreBulkMessage_bulk {x rest : List UInt8} {source : Reader} (hx : x.length < 2 ^ 63)
    (h : source.unread = x ++ 13 :: 10 :: rest) :
    ∃ source' log, ignoreBulkMessage ('$'.toUInt8 :: decimal x.length) source = (none, source', log) ∧
      source'.unread = rest ∧ source'.size = source.size ∧ DiscardsPayload log x := by
  obtain ⟨b₁, log, h1, h2, h3, h4⟩ := ignoreBulkMessage.loop_discards x.length rfl h
  obtain ⟨b₂, h5, h6, -, h7⟩ := Reader.ReadByte_cons h2
  obtain ⟨b₃, h8, h9, -, h10⟩ := Reader.ReadByte_cons h6
  refine ⟨b₃, log, ?_, h9, by rw [h10, h7, h3], h4⟩
  simp only [ignoreBulkMessage, firstLine_check (decimal_ne_nil _), bulk_header_ne_ERR_RESPONSE,
    if_false, List.drop_succ_cons, List.drop_zero, ParseInt_decimal hx, h1, h5, h8]
  rfl

/-- `ignoreBulkMessage` refuses a first line that is not a bulk header, and reads nothing. -/
theorem ignoreBulkMessage_not_bulk {c : UInt8} (hc : c ≠ '$'.toUInt8) (t : List UInt8)
    (source : Reader) : ignoreBulkMessage (c :: t) source = (some .badBulkFormat, source, []) := by
  rw [ignoreBulkMessage, if_pos (.inr (by simpa using hc))]

/-- `ignoreBulkMessage` on the null bulk reads nothing more. -/
theorem ignoreBulkMessage_nullBulk (source : Reader) :
    ignoreBulkMessage ERR_RESPONSE source = (none, source, []) := rfl

/-- The loop of `IgnoreMultiBulkMessage` with `i` elements left to read. Go's loop over
`0 ≤ i < n` runs `n` times, and not at all when `n ≤ 0`. An element line of `':'` is an integer
and skipped; `firstLine[0]` panics on an empty line. Reference: `connection.go:594`. -/
def IgnoreMultiBulkMessage.loop (source : Reader) : Nat → Except Panic (Option Error × Reader × DiscardLog)
  | 0 => .ok (none, source, [])
  | i + 1 =>
    match source.ReadLine with
    | (_, _, some e, source) => .ok (some e, source, [])
    | ([], _, none, _) => .error (.indexOutOfRange 0 0)
    | (c :: line, _, none, source) =>
      if c = ':'.toUInt8 then IgnoreMultiBulkMessage.loop source i
      else
        match ignoreBulkMessage (c :: line) source with
        | (some e, source, log) => .ok (some e, source, log)
        | (none, source, log) =>
          (IgnoreMultiBulkMessage.loop source i).map fun (err, source, log') => (err, source, log ++ log')

/-- `IgnoreMultiBulkMessage(firstLine, source)`. Reference: `connection.go:576`. -/
def IgnoreMultiBulkMessage (firstLine : List UInt8) (source : Reader) :
    Except Panic (Option Error × Reader × DiscardLog) :=
  if firstLine.length < 2 ∨ firstLine.head? ≠ some '*'.toUInt8 then
    .ok (some .badBulkFormat, source, [])
  else
    match ParseInt (firstLine.drop 1) with
    | (_, some e) => .ok (some e, source, [])
    | (n, none) => IgnoreMultiBulkMessage.loop source n.toNat

/-! ## Forwarding -/

/-- `copyBulkMessage(firstLine, destination, source)`: the header line, `n` bytes by `io.CopyN`,
then the `\r\n` after them, checked and written. A copy that ends short without an error (only
for `n < 0`) returns no error. Reference: `connection.go:615`. -/
def copyBulkMessage (firstLine : List UInt8) (destination : Writer) (source : Reader) :
    Option Error × Writer × Reader :=
  if firstLine.length < 2 ∨ firstLine.head? ≠ some '$'.toUInt8 then
    (some .badBulkFormat, destination, source)
  else if firstLine = ERR_RESPONSE then
    match writeLine ERR_RESPONSE destination with
    | (err, destination) => (err, destination, source)
  else
    match ParseInt (firstLine.drop 1) with
    | (_, some e) => (some e, destination, source)
    | (n, none) =>
      match writeLine firstLine destination with
      | (some e, destination) => (some e, destination, source)
      | (none, destination) =>
        match CopyN destination source n with
        | (_, some e, destination, source) => (some e, destination, source)
        | (written, none, destination, source) =>
          if written ≠ n then (none, destination, source)
          else
            match source.ReadByte with
            | (_, some e, source) => (some e, destination, source)
            | (char, none, source) =>
              if char ≠ '\r'.toUInt8 then (some .badBulkFormat, destination, source)
              else
                match source.ReadByte with
                | (_, some e, source) => (some e, destination, source)
                | (char, none, source) =>
                  if char ≠ '\n'.toUInt8 then (some .badBulkFormat, destination, source)
                  else
                    match destination.Write REDIS_NEWLINE with
                    | (_, err, destination) => (err, destination, source)

/-- `copyBulkMessage` on the header of a bulk string, into a writer whose writes never fail,
forwards the bulk string byte for byte and leaves the stream after it. -/
theorem copyBulkMessage_bulk {x rest : List UInt8} {w : Writer} {source : Reader}
    (hw : w.Reliable) (hx : x.length < 2 ^ 63) (h : source.unread = x ++ 13 :: 10 :: rest) :
    ∃ source', copyBulkMessage ('$'.toUInt8 :: decimal x.length) w source =
        (none, { w with out := w.out ++ bulk x }, source') ∧
      source'.unread = rest ∧ source'.size = source.size := by
  have hl : x.length ≤ source.unread.length := by simp [h]
  obtain ⟨b₁, h1, h2, -, h3⟩ :=
    CopyN_copies (hw.append ('$'.toUInt8 :: decimal x.length ++ REDIS_NEWLINE)) hl
  rw [h, List.take_left, List.drop_left] at *
  obtain ⟨b₂, h5, h6, -, h7⟩ := Reader.ReadByte_cons h2
  obtain ⟨b₃, h8, h9, -, h10⟩ := Reader.ReadByte_cons h6
  refine ⟨b₃, ?_, h9, by rw [h10, h7, h3]⟩
  rw [copyBulkMessage, if_neg (firstLine_check (decimal_ne_nil _)),
    if_neg (bulk_header_ne_ERR_RESPONSE _)]
  simp only [List.drop_succ_cons, List.drop_zero, ParseInt_decimal hx, writeLine_reliable hw, h1,
    ne_eq, not_true_eq_false, if_false, h5, h8, cr_eq, lf_eq,
    Writer.Write_reliable ((hw.append _).append _), bulk]
  simp

/-- `copyBulkMessage` refuses a first line that is not a bulk header, and writes nothing. -/
theorem copyBulkMessage_not_bulk {c : UInt8} (hc : c ≠ '$'.toUInt8) (t : List UInt8) (w : Writer)
    (source : Reader) : copyBulkMessage (c :: t) w source = (some .badBulkFormat, w, source) := by
  rw [copyBulkMessage, if_pos (.inr (by simpa using hc))]

/-- `copyBulkMessage` on the null bulk forwards it. -/
theorem copyBulkMessage_nullBulk {w : Writer} (hw : w.Reliable) (source : Reader) :
    copyBulkMessage ERR_RESPONSE w source =
      (none, { w with out := w.out ++ (ERR_RESPONSE ++ REDIS_NEWLINE) }, source) := by
  rw [copyBulkMessage, if_neg (by decide), if_pos rfl, writeLine_reliable hw]

/-- The loop of `CopyMultiBulkMessage` with `i` elements left: every element line goes to
`copyBulkMessage`. Reference: `connection.go:719`. -/
def CopyMultiBulkMessage.loop (destination : Writer) (source : Reader) :
    Nat → Option Error × Writer × Reader
  | 0 => (none, destination, source)
  | i + 1 =>
    match source.ReadLine with
    | (_, _, some e, source) => (some e, destination, source)
    | (firstLine, _, none, source) =>
      match copyBulkMessage firstLine destination source with
      | (some e, destination, source) => (some e, destination, source)
      | (none, destination, source) => CopyMultiBulkMessage.loop destination source i

/-- `CopyMultiBulkMessage(firstLine, destination, source)`. Reference: `connection.go:698`. -/
def CopyMultiBulkMessage (firstLine : List UInt8) (destination : Writer) (source : Reader) :
    Option Error × Writer × Reader :=
  if firstLine.length < 2 ∨ firstLine.head? ≠ some '*'.toUInt8 then
    (some .badBulkFormat, destination, source)
  else
    match ParseInt (firstLine.drop 1) with
    | (_, some e) => (some e, destination, source)
    | (n, none) =>
      match writeLine firstLine destination with
      | (some e, destination) => (some e, destination, source)
      | (none, destination) =>
        match CopyMultiBulkMessage.loop destination source n.toNat with
        | (some e, destination, source) => (some e, destination, source)
        | (none, destination, source) =>
          match destination.Flush with
          | (err, destination) => (err, destination, source)

/-- `CopyServerResponse(remoteBuffer, localBuffer)`: a bulk goes to `copyBulkMessage`, a
multibulk other than `*-…` to `CopyMultiBulkMessage`, any other line is forwarded as it is.
The closing `localBuffer.Flush()` follows a reply forwarded with no error; its error is not
checked, and stays in the writer.
Reference: `connection.go:742`. -/
def CopyServerResponse (remoteBuffer : Reader) (localBuffer : Writer) :
    Option Error × Reader × Writer :=
  match remoteBuffer.ReadLine with
  | (_, _, some e, remoteBuffer) => (some e, remoteBuffer, localBuffer)
  | (firstLine, _, none, remoteBuffer) =>
    match firstLine with
    | b₀ :: b₁ :: rest =>
      if b₀ = '$'.toUInt8 then
        match copyBulkMessage firstLine localBuffer remoteBuffer with
        | (some e, localBuffer, remoteBuffer) => (some e, remoteBuffer, localBuffer)
        | (none, localBuffer, remoteBuffer) => (none, remoteBuffer, localBuffer.Flush.2)
      else if b₀ = '*'.toUInt8 ∧ b₁ ≠ '-'.toUInt8 then
        match CopyMultiBulkMessage firstLine localBuffer remoteBuffer with
        | (some e, localBuffer, remoteBuffer) => (some e, remoteBuffer, localBuffer)
        | (none, localBuffer, remoteBuffer) => (none, remoteBuffer, localBuffer.Flush.2)
      else
        match writeLine (b₀ :: b₁ :: rest) localBuffer with
        | (some e, localBuffer) => (some e, remoteBuffer, localBuffer)
        | (none, localBuffer) => (none, remoteBuffer, localBuffer.Flush.2)
    | _ => (some .badBulkFormat, remoteBuffer, localBuffer)

end Rmux
