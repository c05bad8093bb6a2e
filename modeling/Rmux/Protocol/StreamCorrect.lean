import Rmux.Protocol.Reply
import Rmux.Protocol.Stream

/-!
# What the forwarding and discarding routines do to a reply

The routines of `Rmux.Protocol.Stream` against the reply grammar of `Rmux.Protocol.Reply`, on
every reader: whatever its buffer holds and however the socket's chunks fall, only the stream
`Reader.unread` matters.

* `CopyServerResponse_forwards`: a reply the code forwards whole (`Reply.Forwarded`) reaches the
  writer byte for byte, and the stream after it is left unread.
* `IgnoreMultiBulkMessage_skips`: a multibulk of integer lines, bulk strings and null bulks is
  skipped exactly, each payload read by discard reads of at most `BUFFER_SIZE` bytes that stay
  inside it.

The proofs go element by element: `Reader.ReadLine_fits` reads a first line, the spec lemmas of
`copyBulkMessage` and `ignoreBulkMessage` take the rest, and the two loops are inductions over the
elements.
-/

namespace Rmux

/-- `ReadLine` returns a line that fits in the buffer whole. -/
theorem Reader.ReadLine_fits {b : Reader} {line rest : List UInt8} (hl : LineFits b.size line)
    (h : b.unread = line ++ 13 :: 10 :: rest) :
    ∃ b', b.ReadLine = (line, false, none, b') ∧ b'.unread = rest ∧ b'.size = b.size :=
  let ⟨b', h1, h2, _, h4⟩ := Reader.ReadLine_crlf hl.1 h hl.2
  ⟨b', h1, h2, h4⟩

theorem Reply.encode_bulk (x : List UInt8) :
    (Reply.bulk x).encode = (Reply.bulk x).header ++ 13 :: 10 :: (x ++ [13, 10]) := by
  simp [Reply.encode, Reply.header, bulk_eq]

theorem Reply.encode_array (es : List Reply) :
    (Reply.array es).encode = (Reply.array es).header ++ 13 :: 10 :: Reply.encodeAll es := by
  simp [Reply.encode]

/-! ## Forwarding -/

/-- The first line of a bulk string or of the null bulk is a `$` and at least one more byte. -/
theorem Reply.header_of_isBulk {e : Reply} (he : e.IsBulk) : ∃ d t, e.header = '$'.toUInt8 :: d :: t := by
  cases e with
  | bulk x =>
    obtain ⟨d, t, hd⟩ := List.exists_cons_of_ne_nil (decimal_ne_nil x.length)
    exact ⟨d, t, by rw [Reply.header, hd]⟩
  | nullBulk => exact ⟨_, _, rfl⟩
  | _ => cases he

/-- One element of a multibulk of bulk strings: its first line, then `copyBulkMessage`. -/
theorem copyBulkMessage_element {e : Reply} {w : Writer} {source : Reader} {rest : List UInt8}
    (he : e.IsBulk) (hf : e.Framed source.size) (hw : w.Reliable)
    (h : source.unread = e.encode ++ rest) :
    ∃ source₁ source₂, source.ReadLine = (e.header, false, none, source₁) ∧
      copyBulkMessage e.header w source₁ = (none, { w with out := w.out ++ e.encode }, source₂) ∧
      source₂.unread = rest ∧ source₂.size = source.size := by
  cases e with
  | bulk x =>
    obtain ⟨b₁, h1, h2, h3⟩ := Reader.ReadLine_fits hf.2
      (show _ = _ ++ 13 :: 10 :: (x ++ 13 :: 10 :: rest) by simp [h, Reply.encode_bulk])
    obtain ⟨b₂, h4, h5, h6⟩ := copyBulkMessage_bulk hw hf.1 h2
    exact ⟨b₁, b₂, h1, h4, h5, by rw [h6, h3]⟩
  | nullBulk =>
    obtain ⟨b₁, h1, h2, h3⟩ := Reader.ReadLine_fits hf
      (show _ = _ ++ 13 :: 10 :: rest by simp [h, Reply.encode, Reply.header])
    exact ⟨b₁, b₁, h1, copyBulkMessage_nullBulk hw b₁, h2, h3⟩
  | _ => cases he

/-- The loop of `CopyMultiBulkMessage` forwards a run of bulk strings and null bulks. -/
theorem CopyMultiBulkMessage.loop_bulks {es : List Reply} :
    ∀ {w : Writer} {source : Reader} {rest : List UInt8}, w.Reliable →
      (∀ e ∈ es, e.IsBulk ∧ e.Framed source.size) → source.unread = Reply.encodeAll es ++ rest →
      ∃ source', CopyMultiBulkMessage.loop w source es.length =
          (none, { w with out := w.out ++ Reply.encodeAll es }, source') ∧
        source'.unread = rest ∧ source'.size = source.size := by
  induction es with
  | nil => intro w source rest _ _ h; exact ⟨source, by simp [CopyMultiBulkMessage.loop], by simpa using h, rfl⟩
  | cons e es ih =>
    intro w source rest hw hes h
    obtain ⟨b₁, b₂, h1, h2, h3, h4⟩ := copyBulkMessage_element (hes e (.head _)).1
      (hes e (.head _)).2 hw (show _ = _ ++ (Reply.encodeAll es ++ rest) by simp [h])
    obtain ⟨b', h5, h6, h7⟩ := ih (hw.append e.encode) (fun e' he' => h4 ▸ hes e' (.tail _ he')) h3
    refine ⟨b', ?_, h6, by rw [h7, h4]⟩
    simp [CopyMultiBulkMessage.loop, h1, h2, h5]

/-- `CopyMultiBulkMessage` on the first line of a multibulk of bulk strings and null bulks
forwards the multibulk byte for byte. -/
theorem CopyMultiBulkMessage_bulks {es : List Reply} {w : Writer} {source : Reader}
    {rest : List UInt8} (hw : w.Reliable) (hn : es.length < 2 ^ 63)
    (hes : ∀ e ∈ es, e.IsBulk ∧ e.Framed source.size) (h : source.unread = Reply.encodeAll es ++ rest) :
    ∃ source', CopyMultiBulkMessage (Reply.array es).header w source =
        (none, { w with out := w.out ++ (Reply.array es).encode }, source') ∧
      source'.unread = rest ∧ source'.size = source.size := by
  obtain ⟨b', h1, h2, h3⟩ :=
    CopyMultiBulkMessage.loop_bulks (hw.append ((Reply.array es).header ++ REDIS_NEWLINE)) hes h
  refine ⟨b', ?_, h2, h3⟩
  simp only [Reply.header] at h1 ⊢
  rw [CopyMultiBulkMessage, if_neg (firstLine_check (decimal_ne_nil _))]
  simp only [List.drop_succ_cons, List.drop_zero, ParseInt_decimal hn, Int.toNat_natCast,
    writeLine_reliable hw, h1]
  simp [Writer.Flush, hw.1, hw.2, Reply.encode_array, Reply.header]

/-- `CopyServerResponse` forwards a line that opens neither a bulk string nor a multibulk as it
is. -/
theorem CopyServerResponse_line {c b₁ : UInt8} {t rest : List UInt8} {w : Writer} {source : Reader}
    (hw : w.Reliable) (hc : c ≠ '$'.toUInt8) (hs : ¬ (c = '*'.toUInt8 ∧ b₁ ≠ '-'.toUInt8))
    (hl : LineFits source.size (c :: b₁ :: t)) (h : source.unread = (c :: b₁ :: t) ++ 13 :: 10 :: rest) :
    ∃ source', CopyServerResponse source w =
        (none, source', { w with out := w.out ++ ((c :: b₁ :: t) ++ REDIS_NEWLINE) }) ∧
      source'.unread = rest := by
  obtain ⟨b', h1, h2, -⟩ := Reader.ReadLine_fits hl h
  refine ⟨b', ?_, h2⟩
  rw [CopyServerResponse, h1]
  simp only [if_neg hc, if_neg hs, writeLine_reliable hw, Writer.Flush_reliable (hw.append _)]

/-- `CopyServerResponse` forwards a bulk string or the null bulk through `copyBulkMessage`. -/
theorem CopyServerResponse_bulk {e : Reply} {rest : List UInt8} {source : Reader} {w : Writer}
    (he : e.IsBulk) (hf : e.Framed source.size) (hw : w.Reliable)
    (h : source.unread = e.encode ++ rest) :
    ∃ source', CopyServerResponse source w = (none, source', { w with out := w.out ++ e.encode }) ∧
      source'.unread = rest := by
  obtain ⟨b₁, b₂, h1, h2, h3, -⟩ := copyBulkMessage_element he hf hw h
  obtain ⟨d, t, hd⟩ := Reply.header_of_isBulk he
  rw [hd] at h1 h2
  refine ⟨b₂, ?_, h3⟩
  rw [CopyServerResponse, h1]
  simp only [if_pos rfl, h2, Writer.Flush_reliable (hw.append _)]
  rfl

/-- `CopyServerResponse` forwards every reply it forwards whole (`Reply.Forwarded`) into a writer
whose writes never fail: no error, the reply's bytes appended to the writer and nothing else,
and the stream after the reply left unread. -/
theorem CopyServerResponse_forwards {m : Reply} {rest : List UInt8} {source : Reader} {w : Writer}
    (hm : m.Forwarded source.size) (hw : w.Reliable) (h : source.unread = m.encode ++ rest) :
    ∃ source', CopyServerResponse source w = (none, source', { w with out := w.out ++ m.encode }) ∧
      source'.unread = rest := by
  obtain ⟨hf, hm⟩ := hm
  cases m with
  | status t | error t | integer t =>
    obtain ⟨b₁, t, rfl⟩ := List.exists_cons_of_ne_nil hm
    exact CopyServerResponse_line hw (by decide) (fun h => absurd h.1 (by decide)) hf
      (by simp [h, Reply.encode, Reply.header])
  | nullArray =>
    exact CopyServerResponse_line hw (by decide) (fun h => absurd h.2 (by decide)) hf (by rw [h]; rfl)
  | bulk _ | nullBulk => exact CopyServerResponse_bulk trivial hf hw h
  | array es =>
    obtain ⟨b₁, h1, h2, h3⟩ := Reader.ReadLine_fits hf.2
      (show _ = _ ++ 13 :: 10 :: (Reply.encodeAll es ++ rest) by simp [h, Reply.encode_array])
    obtain ⟨b₂, h4, h5, -⟩ := CopyMultiBulkMessage_bulks hw hf.1 (h3 ▸ hm) h2
    obtain ⟨d, ds, hd⟩ := List.exists_cons_of_ne_nil (decimal_ne_nil es.length)
    refine ⟨b₂, ?_, h5⟩
    simp only [Reply.header, hd] at h1 h4
    rw [CopyServerResponse, h1]
    simp only [if_neg (show ('*'.toUInt8 : UInt8) ≠ '$'.toUInt8 by decide), h4]
    simp [decimal_head_ne_minus hd, Writer.Flush_reliable (hw.append _)]

/-- The three-element multibulk `*3\r\n$3\r\nfoo\r\n$-1\r\n$3\r\nbar\r\n`, followed by the next
reply `+OK\r\n`, is forwarded byte for byte. -/
theorem CopyServerResponse_forwards_three :
    let m := Reply.array [.bulk (bytesOf "foo"), .nullBulk, .bulk (bytesOf "bar")]
    let source := Reader.ofBytes (bytesOf "*3\r\n$3\r\nfoo\r\n$-1\r\n$3\r\nbar\r\n+OK\r\n") BUFFER_SIZE
      .eof (by decide) (by decide) (by decide)
    let w : Writer := ⟨[], none, none⟩
    m.Forwarded source.size ∧ w.Reliable ∧ source.unread = m.encode ++ bytesOf "+OK\r\n" ∧
      ∃ source', CopyServerResponse source w = (none, source', { w with out := w.out ++ m.encode }) ∧
        source'.unread = bytesOf "+OK\r\n" := by
  intro m source w
  have hl : (bytesOf "foo").length = 3 ∧ (bytesOf "bar").length = 3 := ⟨rfl, rfl⟩
  have h1 : m.Forwarded source.size := by
    simp [m, Reply.Forwarded, Reply.Framed, Reply.header, Reply.IsBulk, hl, decimal_of_lt_ten]
    decide
  have h3 : source.unread = m.encode ++ bytesOf "+OK\r\n" := by
    simp [m, Reply.encode, Reply.header, bulk_eq, hl, decimal_of_lt_ten]; decide
  exact ⟨h1, ⟨rfl, rfl⟩, h3, CopyServerResponse_forwards h1 ⟨rfl, rfl⟩ h3⟩

/-- The loop of `CopyMultiBulkMessage` stops with `ERROR_BAD_BULK_FORMAT` at an element line that
is not a bulk header, an integer line's included, and writes nothing of it. -/
theorem CopyMultiBulkMessage.loop_not_bulk {w : Writer} {source source₁ : Reader} {c : UInt8}
    {t : List UInt8} {p : Bool} (hc : c ≠ '$'.toUInt8)
    (h : source.ReadLine = (c :: t, p, none, source₁)) (i : Nat) :
    CopyMultiBulkMessage.loop w source (i + 1) = (some .badBulkFormat, w, source₁) := by
  rw [CopyMultiBulkMessage.loop, h]
  simp only [copyBulkMessage_not_bulk hc]

/-- `CopyMultiBulkMessage` on a multibulk whose first element is neither a bulk string nor a null
bulk (an integer line, a nested multibulk, a status or an error line) stops at that element with
`ERROR_BAD_BULK_FORMAT`. -/
theorem CopyMultiBulkMessage_first_not_bulk {e : Reply} {es : List Reply} {rest : List UInt8}
    {w : Writer} {source : Reader} (hw : w.Reliable) (hn : es.length + 1 < 2 ^ 63)
    (he : ¬ e.IsBulk) (hi : LineFits source.size e.header)
    (h : source.unread = Reply.encodeAll (e :: es) ++ rest) :
    (CopyMultiBulkMessage (Reply.array (e :: es)).header w source).1 = some .badBulkFormat := by
  obtain ⟨c, t, hct, hb, -⟩ := e.header_cons
  obtain ⟨body, hbody⟩ := e.encode_eq
  obtain ⟨b₁, h1, -, -⟩ := Reader.ReadLine_fits hi
    (show _ = _ ++ 13 :: 10 :: (body ++ (Reply.encodeAll es ++ rest)) by simp [h, hbody])
  rw [hct] at h1
  rw [CopyMultiBulkMessage, Reply.header, if_neg (firstLine_check (decimal_ne_nil _))]
  simp only [List.drop_succ_cons, List.drop_zero, List.length_cons, ParseInt_decimal hn,
    Int.toNat_natCast, writeLine_reliable hw,
    CopyMultiBulkMessage.loop_not_bulk (fun hc => he (hb.2 hc)) h1]

/-- `CopyServerResponse` refuses a multibulk whose first element is neither a bulk string nor a
null bulk, with `ERROR_BAD_BULK_FORMAT`. -/
theorem CopyServerResponse_first_not_bulk {e : Reply} {es : List Reply} {rest : List UInt8}
    {w : Writer} {source : Reader} (hw : w.Reliable)
    (hf : (Reply.array (e :: es)).Framed source.size) (he : ¬ e.IsBulk)
    (hi : LineFits source.size e.header) (h : source.unread = (Reply.array (e :: es)).encode ++ rest) :
    (CopyServerResponse source w).1 = some .badBulkFormat := by
  obtain ⟨b₁, h1, h2, h3⟩ := Reader.ReadLine_fits hf.2
    (show _ = _ ++ 13 :: 10 :: (Reply.encodeAll (e :: es) ++ rest) by simp [h, Reply.encode_array])
  have h4 := CopyMultiBulkMessage_first_not_bulk hw hf.1 he (h3 ▸ hi) h2
  obtain ⟨d, ds, hd⟩ := List.exists_cons_of_ne_nil (decimal_ne_nil (es.length + 1))
  simp only [Reply.header, List.length_cons, hd] at h1 h4
  rcases hC : CopyMultiBulkMessage ('*'.toUInt8 :: d :: ds) w b₁ with ⟨err, w', s'⟩
  obtain rfl : err = some .badBulkFormat := by rw [hC] at h4; exact h4
  rw [CopyServerResponse, h1]
  simp only [if_neg (show ('*'.toUInt8 : UInt8) ≠ '$'.toUInt8 by decide), hC]
  simp [decimal_head_ne_minus hd]

/-- Replies of the grammar that `CopyServerResponse` does not forward whole: a multibulk nesting a
multibulk and a status line with no text are refused with `ERROR_BAD_BULK_FORMAT`; a status line
longer than a 16-byte reader's buffer is forwarded as its first 16 bytes and a `\r\n`, with no
error, leaving the rest of it unread. -/
theorem CopyServerResponse_not_forwarded :
    (Reply.array [.array []]).encode = bytesOf "*1\r\n*0\r\n" ∧
      (CopyServerResponse (Reader.ofBytes (bytesOf "*1\r\n*0\r\n") BUFFER_SIZE .eof (by decide)
        (by decide) (by decide)) ⟨[], none, none⟩).1 = some .badBulkFormat ∧
    (Reply.status []).encode = bytesOf "+\r\n" ∧
      (CopyServerResponse (Reader.ofBytes (bytesOf "+\r\n") BUFFER_SIZE .eof (by decide)
        (by decide) (by decide)) ⟨[], none, none⟩).1 = some .badBulkFormat ∧
    (Reply.status (bytesOf "AAAAAAAAAAAAAAAAAAA")).encode = bytesOf "+AAAAAAAAAAAAAAAAAAA\r\n" ∧
      CopyServerResponse ⟨bytesOf "+AAAAAAAAAAAAAAA", 16, none, ⟨[bytesOf "AAAA\r\n"], .eof, by decide⟩,
        by decide, by decide, by decide, by simp⟩ ⟨[], none, none⟩ =
        (none, ⟨[], 16, none, ⟨[bytesOf "AAAA\r\n"], .eof, by decide⟩, by decide, by decide, by decide,
          by simp⟩, ⟨bytesOf "+AAAAAAAAAAAAAAA\r\n", none, none⟩) := by
  have he₁ : (Reply.array [.array []]).encode = bytesOf "*1\r\n*0\r\n" := by
    simp [Reply.encode, Reply.header, decimal_of_lt_ten]; decide
  have hf₁ : (Reply.array [.array []]).Framed BUFFER_SIZE := by
    simp [Reply.Framed, Reply.header, decimal_of_lt_ten]; decide
  have hi₁ : LineFits BUFFER_SIZE (Reply.array []).header := by
    simp [LineFits, Reply.header, decimal_of_lt_ten]; decide
  refine ⟨he₁, CopyServerResponse_first_not_bulk ⟨rfl, rfl⟩ hf₁ id hi₁
    (show _ = _ ++ [] by rw [List.append_nil, he₁]; rfl), by rfl, ?_, by decide, ?_⟩
  · obtain ⟨b₁, h1, -, -⟩ := Reader.ReadLine_fits (show LineFits BUFFER_SIZE [43] by decide)
      (show (Reader.ofBytes (bytesOf "+\r\n") BUFFER_SIZE .eof (by decide) (by decide)
        (by decide)).unread = [43] ++ 13 :: 10 :: [] by decide)
    rw [CopyServerResponse, h1]
  · rw [CopyServerResponse, Reader.ReadLine_full rfl (by decide) (by decide) (by decide)]
    rfl

/-! ## Discarding -/

/-- One element of a multibulk that `IgnoreMultiBulkMessage` skips: its first line, then, unless it
is an integer line, `ignoreBulkMessage`. The loop goes on from the reader after the element, with
the element's discard reads before those of the rest. -/
theorem IgnoreMultiBulkMessage.loop_element {e : Reply} {source : Reader} {rest : List UInt8}
    (hs : e.IsSkipped) (hf : e.Framed source.size) (h : source.unread = e.encode ++ rest) :
    ∃ source₁ log, source₁.unread = rest ∧ source₁.size = source.size ∧
      DiscardsPayload log e.payload ∧ ∀ i r, IgnoreMultiBulkMessage.loop source₁ i = .ok r →
        IgnoreMultiBulkMessage.loop source (i + 1) = .ok (r.1, r.2.1, log ++ r.2.2) := by
  cases e with
  | integer t =>
    obtain ⟨b₁, h1, h2, h3⟩ := Reader.ReadLine_fits hf
      (show _ = _ ++ 13 :: 10 :: rest by simp [h, Reply.encode])
    refine ⟨b₁, [], h2, h3, rfl, fun i r hr => ?_⟩
    rw [IgnoreMultiBulkMessage.loop, h1, Reply.header]
    simpa using hr
  | bulk x =>
    obtain ⟨b₁, h1, h2, h3⟩ := Reader.ReadLine_fits hf.2
      (show _ = _ ++ 13 :: 10 :: (x ++ 13 :: 10 :: rest) by simp [h, Reply.encode_bulk])
    obtain ⟨b₂, log, h4, h5, h6, h7⟩ := ignoreBulkMessage_bulk hf.1 h2
    refine ⟨b₂, log, h5, by rw [h6, h3], h7, fun i r hr => ?_⟩
    rw [IgnoreMultiBulkMessage.loop, h1, Reply.header]
    simp only [if_neg (show ('$'.toUInt8 : UInt8) ≠ ':'.toUInt8 by decide), h4, hr]
    rfl
  | nullBulk =>
    obtain ⟨b₁, h1, h2, h3⟩ := Reader.ReadLine_fits hf
      (show _ = _ ++ 13 :: 10 :: rest by simp [h, Reply.encode, Reply.header])
    refine ⟨b₁, [], h2, h3, rfl, fun i r hr => ?_⟩
    have h4 := ignoreBulkMessage_nullBulk b₁
    rw [show ERR_RESPONSE = '$'.toUInt8 :: [45, 49] from rfl] at h4
    rw [IgnoreMultiBulkMessage.loop, h1, show Reply.nullBulk.header = '$'.toUInt8 :: [45, 49] from rfl]
    simp only [if_neg (show ('$'.toUInt8 : UInt8) ≠ ':'.toUInt8 by decide), h4, hr]
    rfl
  | _ => cases hs

/-- The loop of `IgnoreMultiBulkMessage` skips a run of integer lines, bulk strings and null
bulks; its discard reads are those of each element's payload in turn. -/
theorem IgnoreMultiBulkMessage.loop_skips {es : List Reply} :
    ∀ {source : Reader} {rest : List UInt8}, (∀ e ∈ es, e.IsSkipped ∧ e.Framed source.size) →
      source.unread = Reply.encodeAll es ++ rest →
      ∃ source' logs, IgnoreMultiBulkMessage.loop source es.length = .ok (none, source', logs.flatten) ∧
        source'.unread = rest ∧ source'.size = source.size ∧
        List.Forall₂ DiscardsPayload logs (es.map Reply.payload) := by
  induction es with
  | nil => intro source rest _ h; exact ⟨source, [], rfl, by simpa using h, rfl, .nil⟩
  | cons e es ih =>
    intro source rest hes h
    obtain ⟨b₁, log, h1, h2, h3, h4⟩ := IgnoreMultiBulkMessage.loop_element (hes e (.head _)).1
      (hes e (.head _)).2 (show _ = _ ++ (Reply.encodeAll es ++ rest) by simp [h])
    obtain ⟨b', logs, h5, h6, h7, h8⟩ := ih (fun e' he' => h2 ▸ hes e' (.tail _ he')) h1
    exact ⟨b', log :: logs, h4 _ _ h5, h6, by rw [h7, h2], .cons h3 h8⟩

/-- `IgnoreMultiBulkMessage` called with the first line of a multibulk of integer lines, bulk
strings and null bulks, on a reader positioned just after that line, skips exactly the rest of
the multibulk, with no error, whatever the buffer holds and however the socket's chunks fall.
Its discard reads fall into one run per element, each of which reads exactly the element's
payload, asking for at most `BUFFER_SIZE` bytes at a time and never past the payload's end. -/
theorem IgnoreMultiBulkMessage_skips {es : List Reply} {rest : List UInt8} {source : Reader}
    (hn : es.length < 2 ^ 63) (hes : ∀ e ∈ es, e.IsSkipped ∧ e.Framed source.size)
    (h : source.unread = Reply.encodeAll es ++ rest) :
    ∃ source' logs, IgnoreMultiBulkMessage (Reply.array es).header source =
        .ok (none, source', logs.flatten) ∧
      source'.unread = rest ∧ List.Forall₂ DiscardsPayload logs (es.map Reply.payload) := by
  obtain ⟨b', logs, h1, h2, -, h3⟩ := IgnoreMultiBulkMessage.loop_skips hes h
  refine ⟨b', logs, ?_, h2, h3⟩
  rw [IgnoreMultiBulkMessage, Reply.header, if_neg (firstLine_check (decimal_ne_nil _))]
  simp only [List.drop_succ_cons, List.drop_zero, ParseInt_decimal hn, Int.toNat_natCast, h1]

/-- A multibulk of an integer line, a bulk string and a null bulk, whose bytes reach a 16-byte
reader partly buffered and partly in two chunks cut inside the payload, is skipped up to the
next reply `+OK\r\n`. -/
theorem IgnoreMultiBulkMessage_skips_three :
    let es := [Reply.integer (bytesOf "1"), .bulk (bytesOf "foo"), .nullBulk]
    let source : Reader := ⟨bytesOf ":1\r\n$3", 16, none,
      ⟨[bytesOf "\r\nfo", bytesOf "o\r\n$-1\r\n+OK\r\n"], .eof, by decide⟩, by decide, by decide, by decide,
      by simp⟩
    es.length < 2 ^ 63 ∧ (∀ e ∈ es, e.IsSkipped ∧ e.Framed source.size) ∧
      source.unread = Reply.encodeAll es ++ bytesOf "+OK\r\n" ∧
      ∃ source' logs, IgnoreMultiBulkMessage (Reply.array es).header source =
          .ok (none, source', logs.flatten) ∧
        source'.unread = bytesOf "+OK\r\n" ∧ List.Forall₂ DiscardsPayload logs (es.map Reply.payload) := by
  intro es source
  have hl : (bytesOf "foo").length = 3 := rfl
  have h2 : ∀ e ∈ es, e.IsSkipped ∧ e.Framed source.size := by
    simp [es, Reply.Framed, Reply.header, Reply.IsSkipped, hl, decimal_of_lt_ten]; decide
  have h3 : source.unread = Reply.encodeAll es ++ bytesOf "+OK\r\n" := by
    simp [es, Reply.encode, Reply.header, bulk_eq, hl, decimal_of_lt_ten]; decide
  exact ⟨by decide, h2, h3, IgnoreMultiBulkMessage_skips (by decide) h2 h3⟩

/-- The loop of `IgnoreMultiBulkMessage` stops with `ERROR_BAD_BULK_FORMAT` at an element line that
opens neither an integer nor a bulk string, a nested multibulk's included. -/
theorem IgnoreMultiBulkMessage.loop_not_skipped {source source₁ : Reader} {c : UInt8}
    {t : List UInt8} {p : Bool} (hc : c ≠ '$'.toUInt8) (hi : c ≠ ':'.toUInt8)
    (h : source.ReadLine = (c :: t, p, none, source₁)) (i : Nat) :
    IgnoreMultiBulkMessage.loop source (i + 1) = .ok (some .badBulkFormat, source₁, []) := by
  rw [IgnoreMultiBulkMessage.loop, h]
  simp only [if_neg hi, ignoreBulkMessage_not_bulk hc]

/-- `IgnoreMultiBulkMessage` on a multibulk whose first element is neither an integer line, a bulk
string nor a null bulk (a nested multibulk, a status or an error line) stops at that element's
first line with `ERROR_BAD_BULK_FORMAT`. -/
theorem IgnoreMultiBulkMessage_first_not_skipped {e : Reply} {es : List Reply} {rest : List UInt8}
    {source : Reader} (hn : es.length + 1 < 2 ^ 63) (he : ¬ e.IsSkipped)
    (hi : LineFits source.size e.header) (h : source.unread = Reply.encodeAll (e :: es) ++ rest) :
    ∃ r, IgnoreMultiBulkMessage (Reply.array (e :: es)).header source = .ok r ∧
      r.1 = some .badBulkFormat := by
  obtain ⟨c, t, hct, -, hs⟩ := e.header_cons
  obtain ⟨body, hbody⟩ := e.encode_eq
  obtain ⟨b₁, h1, -, -⟩ := Reader.ReadLine_fits hi
    (show _ = _ ++ 13 :: 10 :: (body ++ (Reply.encodeAll es ++ rest)) by simp [h, hbody])
  rw [hct] at h1
  refine ⟨(some .badBulkFormat, b₁, []), ?_, rfl⟩
  rw [IgnoreMultiBulkMessage, Reply.header, if_neg (firstLine_check (decimal_ne_nil _))]
  simp only [List.drop_succ_cons, List.drop_zero, List.length_cons, ParseInt_decimal hn,
    Int.toNat_natCast, IgnoreMultiBulkMessage.loop_not_skipped (fun hc => he (hs.2 (.inl hc)))
      (fun hc => he (hs.2 (.inr hc))) h1]

/-- Multibulks of the grammar that `IgnoreMultiBulkMessage` does not skip exactly: a nested
multibulk is refused with `ERROR_BAD_BULK_FORMAT`; an integer element longer than a 16-byte
reader's buffer is taken as its first 16 bytes, with no error, leaving the rest of the line
unread. -/
theorem IgnoreMultiBulkMessage_not_skipped :
    (Reply.array [.array []]).header = bytesOf "*1" ∧ Reply.encodeAll [.array []] = bytesOf "*0\r\n" ∧
      (∃ r, IgnoreMultiBulkMessage (bytesOf "*1") (Reader.ofBytes (bytesOf "*0\r\n") BUFFER_SIZE .eof
        (by decide) (by decide) (by decide)) = .ok r ∧ r.1 = some .badBulkFormat) ∧
    Reply.encodeAll [.integer (bytesOf "1234567890123456789")] = bytesOf ":1234567890123456789\r\n" ∧
      IgnoreMultiBulkMessage (bytesOf "*1") ⟨bytesOf ":123456789012345", 16, none,
        ⟨[bytesOf "6789\r\n"], .eof, by decide⟩, by decide, by decide, by decide, by simp⟩ =
        .ok (none, ⟨[], 16, none, ⟨[bytesOf "6789\r\n"], .eof, by decide⟩, by decide, by decide,
          by decide, by simp⟩, []) := by
  have hh : (Reply.array [.array []]).header = bytesOf "*1" := by
    simp [Reply.header, decimal_of_lt_ten]; decide
  have he : Reply.encodeAll [.array []] = bytesOf "*0\r\n" := by
    simp [Reply.encode, Reply.header, decimal_of_lt_ten]; decide
  have hi : LineFits BUFFER_SIZE (Reply.array []).header := by
    simp [LineFits, Reply.header, decimal_of_lt_ten]; decide
  refine ⟨hh, he, hh ▸ IgnoreMultiBulkMessage_first_not_skipped (show [].length + 1 < 2 ^ 63 by decide)
    id hi (show _ = _ ++ [] by rw [List.append_nil, he]; rfl), by simp [Reply.encode, Reply.header]; decide, ?_⟩
  rw [IgnoreMultiBulkMessage, if_neg (by decide),
    show ParseInt ((bytesOf "*1").drop 1) = (1, none) by decide]
  show IgnoreMultiBulkMessage.loop _ (0 + 1) = _
  rw [IgnoreMultiBulkMessage.loop, Reader.ReadLine_full rfl (by decide) (by decide) (by decide)]
  rfl

/-! ## The two multibulk loops side by side -/

/-- `IgnoreMultiBulkMessage` and `CopyMultiBulkMessage` part on the first line `*1` and the stream
`:5\r\n`: the first skips the integer element with no error and reads the stream to its end; the
second, into a writer whose writes never fail, answers `ERROR_BAD_BULK_FORMAT`. -/
theorem IgnoreMultiBulkMessage_CopyMultiBulkMessage_integer :
    (∃ source', IgnoreMultiBulkMessage (bytesOf "*1") (Reader.ofBytes (bytesOf ":5\r\n") BUFFER_SIZE
        .eof (by decide) (by decide) (by decide)) = .ok (none, source', []) ∧ source'.unread = []) ∧
      (CopyMultiBulkMessage (bytesOf "*1") ⟨[], none, none⟩ (Reader.ofBytes (bytesOf ":5\r\n")
        BUFFER_SIZE .eof (by decide) (by decide) (by decide))).1 = some .badBulkFormat := by
  have hh : (Reply.array [.integer (bytesOf "5")]).header = bytesOf "*1" := by
    simp [Reply.header, decimal_of_lt_ten]; decide
  have hi : LineFits BUFFER_SIZE (Reply.integer (bytesOf "5")).header := by decide
  have hs : (Reader.ofBytes (bytesOf ":5\r\n") BUFFER_SIZE .eof (by decide) (by decide)
      (by decide)).unread = Reply.encodeAll [.integer (bytesOf "5")] ++ [] := by
    simp [Reply.encode, Reply.header]; decide
  obtain ⟨b₁, h1, h2, -⟩ := Reader.ReadLine_fits hi
    (show _ = (Reply.integer (bytesOf "5")).header ++ 13 :: 10 :: [] by rw [hs]; simp [Reply.encode])
  refine ⟨⟨b₁, ?_, h2⟩, hh ▸ CopyMultiBulkMessage_first_not_bulk ⟨rfl, rfl⟩
    (show [].length + 1 < 2 ^ 63 by decide) id hi hs⟩
  rw [Reply.header] at h1
  rw [IgnoreMultiBulkMessage, if_neg (by decide),
    show ParseInt ((bytesOf "*1").drop 1) = (1, none) by decide]
  show IgnoreMultiBulkMessage.loop _ (0 + 1) = _
  rw [IgnoreMultiBulkMessage.loop, h1]
  rfl

end Rmux
