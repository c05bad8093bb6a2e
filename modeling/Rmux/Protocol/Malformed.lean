import Rmux.Protocol.StreamCorrect

/-!
# Backend streams outside the reply grammar

What the forwarding and discarding routines of `Rmux.Protocol.Stream` do on a stream that is not
a reply of `Rmux.Protocol.Reply`, or not one the code handles:

* `CopyServerResponse_rewrites_line_ends`: a line ended by a bare `\n`, and a line longer than the
  reader's buffer, are forwarded with no error as the line and a `\r\n`. The bytes taken from the
  stream are not a reply, and not the bytes written.
* `CopyServerResponse_cut_line`: a stream that ends inside a line (the backend closed, or its
  deadline passed) is forwarded with no error as the part received and a `\r\n`, a whole reply
  the backend never sent.
* `IgnoreMultiBulkMessage_empty_element_panics`: an empty element line in a multibulk makes
  `IgnoreMultiBulkMessage` index `firstLine[0]` of an empty slice. The other routines answer no
  `Panic` at all.

The line cases go through what `ReadLine` returns (`Reader.ReadLine_lf`, `Reader.ReadLine_long`,
`Reader.ReadLine_end`, `Reader.ReadLine_crlf`): the routines see only the line, never how it was
ended.
-/

namespace Rmux

/-! ## Lines that are not replies -/

/-- Bytes ended by a `\n` with no `\r` before it are no reply: every reply ends with `\r\n`. -/
theorem Reply.encode_ne_of_bare_lf {line : List UInt8} (hc : line.getLast? ≠ some 13) (r : Reply) :
    r.encode ≠ line ++ [10] := fun h => by
  obtain ⟨p, hp⟩ := Reply.crlf_suffix_encode r
  rw [h, show [13, 10] = [(13 : UInt8)] ++ [10] from rfl, ← List.append_assoc] at hp
  exact hc (by rw [← List.append_cancel_right hp]; simp)

/-- Bytes with no `\n` are no reply: every reply's first line is ended by `\r\n`. -/
theorem Reply.encode_ne_of_no_lf {line : List UInt8} (hl : 10 ∉ line) (r : Reply) :
    r.encode ≠ line := fun h => by
  obtain ⟨body, hb⟩ := Reply.encode_eq r
  exact hl (h ▸ hb ▸ by simp)

/-! ## Forwarding a line whatever ended it -/

/-- `CopyServerResponse` forwards a line that opens neither a bulk string nor a multibulk as the
line and a `\r\n`, whatever ended it on the stream and whether `ReadLine` flagged it `isPrefix`. -/
theorem CopyServerResponse_of_ReadLine {source source' : Reader} {w : Writer} {b₀ b₁ : UInt8}
    {t : List UInt8} {isPrefix : Bool} (hw : w.Reliable) (hc : b₀ ≠ '$'.toUInt8)
    (hs : ¬ (b₀ = '*'.toUInt8 ∧ b₁ ≠ '-'.toUInt8))
    (hr : source.ReadLine = (b₀ :: b₁ :: t, isPrefix, none, source')) :
    CopyServerResponse source w =
      (none, source', { w with out := w.out ++ ((b₀ :: b₁ :: t) ++ REDIS_NEWLINE) }) := by
  rw [CopyServerResponse, hr]
  simp only [if_neg hc, if_neg hs, writeLine_reliable hw, Writer.Flush_reliable (hw.append _)]

/-- `CopyServerResponse` on a stream whose first line is ended by a bare `\n`: no error, the line
and its `\n` taken from the stream, the line and a `\r\n` written. -/
theorem CopyServerResponse_bare_lf {source : Reader} {w : Writer} {b₀ b₁ : UInt8}
    {t rest : List UInt8} (hw : w.Reliable) (hc : b₀ ≠ '$'.toUInt8)
    (hs : ¬ (b₀ = '*'.toUInt8 ∧ b₁ ≠ '-'.toUInt8)) (hl : 10 ∉ b₀ :: b₁ :: t)
    (hcr : (b₀ :: b₁ :: t).getLast? ≠ some 13) (hsize : (b₀ :: b₁ :: t).length < source.size)
    (h : source.unread = (b₀ :: b₁ :: t) ++ 10 :: rest) :
    ∃ source', CopyServerResponse source w =
        (none, source', { w with out := w.out ++ ((b₀ :: b₁ :: t) ++ [13, 10]) }) ∧
      source.unread = ((b₀ :: b₁ :: t) ++ [10]) ++ source'.unread := by
  obtain ⟨b', h1, h2, -⟩ := Reader.ReadLine_lf hl hcr h hsize
  exact ⟨b', CopyServerResponse_of_ReadLine hw hc hs h1, by simp [h, h2]⟩

/-- `CopyServerResponse` on a stream whose first `source.size` bytes hold no `\n` and do not end
in `\r`: no error, those bytes taken from the stream and written with a `\r\n`, the rest of the
line left unread. -/
theorem CopyServerResponse_long_line {source : Reader} {w : Writer} {b₀ b₁ : UInt8}
    {t rest : List UInt8} (hw : w.Reliable) (hc : b₀ ≠ '$'.toUInt8)
    (hs : ¬ (b₀ = '*'.toUInt8 ∧ b₁ ≠ '-'.toUInt8)) (he : source.err = none)
    (hl : 10 ∉ b₀ :: b₁ :: t) (hcr : (b₀ :: b₁ :: t).getLast? ≠ some 13)
    (hsize : (b₀ :: b₁ :: t).length = source.size) (h : source.unread = (b₀ :: b₁ :: t) ++ rest) :
    ∃ source', CopyServerResponse source w =
        (none, source', { w with out := w.out ++ ((b₀ :: b₁ :: t) ++ [13, 10]) }) ∧
      source'.unread = rest := by
  obtain ⟨b', h1, h2, -⟩ := Reader.ReadLine_long he hl hcr h hsize
  exact ⟨b', CopyServerResponse_of_ReadLine hw hc hs h1, h2⟩

/-- `CopyServerResponse` returns no error on streams that do not start with a reply, and writes
bytes other than those it takes. A first line ended by a bare `\n` is taken with its `\n` and
written with a `\r\n`; a first line longer than the buffer is taken as its first `source.size`
bytes, with no `\n`, and written with a `\r\n`. Neither piece taken is a reply. On `+OK\n` the
client is sent `+OK\r\n`. -/
theorem CopyServerResponse_rewrites_line_ends :
    (∀ (source : Reader) (w : Writer) (b₀ b₁ : UInt8) (t rest : List UInt8), w.Reliable →
      b₀ ≠ '$'.toUInt8 → ¬ (b₀ = '*'.toUInt8 ∧ b₁ ≠ '-'.toUInt8) → 10 ∉ b₀ :: b₁ :: t →
      (b₀ :: b₁ :: t).getLast? ≠ some 13 → (b₀ :: b₁ :: t).length < source.size →
      source.unread = (b₀ :: b₁ :: t) ++ 10 :: rest →
      ∃ source', CopyServerResponse source w =
          (none, source', { w with out := w.out ++ ((b₀ :: b₁ :: t) ++ [13, 10]) }) ∧
        source.unread = ((b₀ :: b₁ :: t) ++ [10]) ++ source'.unread ∧
        (b₀ :: b₁ :: t) ++ [13, 10] ≠ (b₀ :: b₁ :: t) ++ [10] ∧
        ∀ r : Reply, r.encode ≠ (b₀ :: b₁ :: t) ++ [10]) ∧
    (∀ (source : Reader) (w : Writer) (b₀ b₁ : UInt8) (t rest : List UInt8), w.Reliable →
      b₀ ≠ '$'.toUInt8 → ¬ (b₀ = '*'.toUInt8 ∧ b₁ ≠ '-'.toUInt8) → source.err = none →
      10 ∉ b₀ :: b₁ :: t → (b₀ :: b₁ :: t).getLast? ≠ some 13 →
      (b₀ :: b₁ :: t).length = source.size → source.unread = (b₀ :: b₁ :: t) ++ rest →
      ∃ source', CopyServerResponse source w =
          (none, source', { w with out := w.out ++ ((b₀ :: b₁ :: t) ++ [13, 10]) }) ∧
        source.unread = (b₀ :: b₁ :: t) ++ source'.unread ∧
        ∀ r : Reply, r.encode ≠ b₀ :: b₁ :: t) ∧
    ∃ source', CopyServerResponse (Reader.ofBytes (bytesOf "+OK\n") BUFFER_SIZE .eof (by decide)
        (by decide) (by decide)) ⟨[], none, none⟩ =
          (none, source', ⟨bytesOf "+OK\r\n", none, none⟩) ∧
      source'.unread = [] := by
  obtain ⟨b', h1, h2⟩ := @CopyServerResponse_bare_lf (Reader.ofBytes (bytesOf "+OK\n")
    BUFFER_SIZE .eof (by decide) (by decide) (by decide)) ⟨[], none, none⟩ 43 79 [75] []
    ⟨rfl, rfl⟩ (by decide) (by decide) (by decide) (by decide) (by decide) (by decide)
  refine ⟨fun source w b₀ b₁ t rest hw hc hs hl hcr hsize h => ?_,
    fun source w b₀ b₁ t rest hw hc hs he hl hcr hsize h => ?_, b', h1,
    List.append_cancel_left (h2.symm.trans (by decide))⟩
  · obtain ⟨b', h1, h2⟩ := CopyServerResponse_bare_lf hw hc hs hl hcr hsize h
    exact ⟨b', h1, h2, by simp, Reply.encode_ne_of_bare_lf hcr⟩
  · obtain ⟨b', h1, h2⟩ := CopyServerResponse_long_line hw hc hs he hl hcr hsize h
    exact ⟨b', h1, h2 ▸ h, Reply.encode_ne_of_no_lf hl⟩

/-! ## A stream cut inside a line -/

/-- A backend stream that ends, closed or silent past the deadline, inside a line that opens
neither a bulk string nor a multibulk: `CopyServerResponse` sends the client the part it got and
a `\r\n` the backend never sent, and answers no error. A reply cut short reaches the client as
another reply, whole. -/
theorem CopyServerResponse_cut_line {source : Reader} {w : Writer} {b₀ b₁ : UInt8} {t : List UInt8}
    (hw : w.Reliable) (hc : b₀ ≠ '$'.toUInt8) (hs : ¬ (b₀ = '*'.toUInt8 ∧ b₁ ≠ '-'.toUInt8))
    (he : source.err = none) (hf : source.rd.final ≠ .bufferFull) (hl : 10 ∉ b₀ :: b₁ :: t)
    (hsize : (b₀ :: b₁ :: t).length < source.size) (h : source.unread = b₀ :: b₁ :: t) :
    ∃ source', CopyServerResponse source w =
        (none, source', { w with out := w.out ++ ((b₀ :: b₁ :: t) ++ REDIS_NEWLINE) }) ∧
      source'.unread = [] := by
  obtain ⟨b', h1, h2, -⟩ := Reader.ReadLine_end he hf (h ▸ hl) (by simp [h]) (h ▸ hsize)
  rw [h] at h1
  exact ⟨b', CopyServerResponse_of_ReadLine hw hc hs h1, h2⟩

/-- `+OK` cut after `+O` by the backend closing reaches the client as `+O\r\n`. -/
theorem CopyServerResponse_cut_line_status :
    ∃ source', CopyServerResponse (Reader.ofBytes (bytesOf "+O") BUFFER_SIZE .eof (by decide)
        (by decide) (by decide)) ⟨[], none, none⟩ = (none, source', ⟨bytesOf "+O\r\n", none, none⟩) ∧
      source'.unread = [] :=
  @CopyServerResponse_cut_line (Reader.ofBytes (bytesOf "+O") BUFFER_SIZE .eof (by decide)
    (by decide) (by decide)) ⟨[], none, none⟩ 43 79 [] ⟨rfl, rfl⟩ (by decide) (by decide) rfl
    (by decide) (by decide) (by decide) rfl

/-! ## An empty element line -/

/-- The loop of `IgnoreMultiBulkMessage` panics at an element line that `ReadLine` returns empty,
whatever ended it. -/
theorem IgnoreMultiBulkMessage.loop_empty_line {source source' : Reader} {isPrefix : Bool} (i : Nat)
    (h : source.ReadLine = ([], isPrefix, none, source')) :
    IgnoreMultiBulkMessage.loop source (i + 1) = .error (.indexOutOfRange 0 0) := by
  rw [IgnoreMultiBulkMessage.loop, h]

/-- `IgnoreMultiBulkMessage` on the header of a multibulk of `n > 0` elements panics when the first
element line is empty. -/
theorem IgnoreMultiBulkMessage_of_empty_line {n : Nat} {source source' : Reader} {isPrefix : Bool}
    (hn : 0 < n) (hn' : n < 2 ^ 63) (h : source.ReadLine = ([], isPrefix, none, source')) :
    IgnoreMultiBulkMessage ('*'.toUInt8 :: decimal n) source = .error (.indexOutOfRange 0 0) := by
  obtain ⟨i, rfl⟩ := Nat.exists_eq_add_of_lt hn
  rw [IgnoreMultiBulkMessage, if_neg (firstLine_check (decimal_ne_nil _))]
  simp only [List.drop_succ_cons, List.drop_zero, ParseInt_decimal hn', Int.toNat_ofNat]
  exact IgnoreMultiBulkMessage.loop_empty_line _ h

/-- The same on the stream: an empty line ended by `\r\n` or by a bare `\n`, as `ReadLine` returns
it whatever is buffered. -/
theorem IgnoreMultiBulkMessage_of_empty_element {n : Nat} {source : Reader} {rest : List UInt8}
    (hn : 0 < n) (hn' : n < 2 ^ 63)
    (h : source.unread = 13 :: 10 :: rest ∨ source.unread = 10 :: rest) :
    IgnoreMultiBulkMessage ('*'.toUInt8 :: decimal n) source = .error (.indexOutOfRange 0 0) := by
  have h16 := source.size_ge
  rcases h with h | h
  · obtain ⟨b', h1, -⟩ := Reader.ReadLine_crlf (List.not_mem_nil _) h (by simp; omega)
    exact IgnoreMultiBulkMessage_of_empty_line hn hn' h1
  · obtain ⟨b', h1, -⟩ := Reader.ReadLine_lf (List.not_mem_nil _) (by simp) h (by simp; omega)
    exact IgnoreMultiBulkMessage_of_empty_line hn hn' h1

/-- `IgnoreMultiBulkMessage` panics on a multibulk whose first element line is empty, ended by
`\r\n` or by a bare `\n`: it reads `firstLine[0]` of the element line with no length check. On
`*1` followed by `\r\n` it panics with index 0 out of range for length 0. -/
theorem IgnoreMultiBulkMessage_empty_element_panics :
    (∀ (n : Nat) (source : Reader) (rest : List UInt8), 0 < n → n < 2 ^ 63 →
      (source.unread = 13 :: 10 :: rest ∨ source.unread = 10 :: rest) →
      IgnoreMultiBulkMessage ('*'.toUInt8 :: decimal n) source = .error (.indexOutOfRange 0 0)) ∧
    IgnoreMultiBulkMessage (bytesOf "*1") (Reader.ofBytes (bytesOf "\r\n") BUFFER_SIZE .eof
      (by decide) (by decide) (by decide)) = .error (.indexOutOfRange 0 0) := by
  refine ⟨fun _ _ _ => IgnoreMultiBulkMessage_of_empty_element, ?_⟩
  rw [show bytesOf "*1" = '*'.toUInt8 :: decimal 1 by rw [decimal_of_lt_ten (by decide)]; rfl]
  exact @IgnoreMultiBulkMessage_of_empty_element 1 _ [] (by decide) (by decide) (.inl rfl)

end Rmux
