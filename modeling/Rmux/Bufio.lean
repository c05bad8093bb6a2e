import Rmux.Runtime

/-!
# The socket and the `bufio` reader and writer beneath the engine

The engine reads the backend through a `*bufio.Reader` over a socket and writes through a
`*bufio.Writer`. This module models the parts of Go's `bufio` and `io` packages the engine
calls: a socket hands its bytes over in the chunks they arrive in (`Socket`), a reader holds
the bytes it has taken from the socket and not yet returned together with the error of its last
fill (`Reader`), and a writer keeps every byte it has taken and sends them at `Flush`
(`Writer`). `Reader.unread` is the stream still to be read; the spec lemmas of
`Reader.ReadLine`, `Reader.Read`, `Reader.ReadByte` and `CopyN` say how each call moves
through it, whatever the chunks and whatever the buffer holds. The size of the writer's buffer
is not modelled: Go's `Write` also sends when it fills the buffer, and can fail there.
-/

namespace Rmux

/-! ## Sockets -/

/-- The receiving side of a socket: the chunks its bytes arrive in, and the error every `Read`
answers after the last one (`io.EOF` once the peer has closed, a timeout while it is silent).
A `Read` of a socket never answers no bytes and no error. -/
structure Socket where
  chunks : List (List UInt8)
  final : Error
  chunks_ne : [] ∉ chunks

/-- What one `Read` of `k` bytes answers: the bytes, the error, and the socket after it. -/
structure SocketRead where
  data : List UInt8
  err : Option Error
  rest : Socket

/-- `conn.Read(p)` with `len(p) = k`: the first chunk, or as much of it as fits. -/
def Socket.read (s : Socket) (k : Nat) : SocketRead :=
  match h : s.chunks with
  | [] => ⟨[], some s.final, s⟩
  | c :: cs =>
    if hk : c.length ≤ k then
      ⟨c, none, ⟨cs, s.final, fun hc => s.chunks_ne (h ▸ .tail _ hc)⟩⟩
    else
      ⟨c.take k, none, ⟨c.drop k :: cs, s.final, by
        intro hc
        rcases List.mem_cons.1 hc with hc | hc
        · have := congrArg List.length hc; simp at this; omega
        · exact s.chunks_ne (h ▸ .tail _ hc)⟩⟩

/-- The bytes a socket has still to deliver. -/
def Socket.bytes (s : Socket) : List UInt8 := s.chunks.flatten

theorem Socket.read_bytes (s : Socket) (k : Nat) :
    (s.read k).data ++ (s.read k).rest.bytes = s.bytes := by
  unfold Socket.read Socket.bytes
  split
  · simp [*]
  · rename_i c cs h
    split <;> simp [h, List.flatten, ← List.append_assoc]

theorem Socket.read_length_le (s : Socket) (k : Nat) : (s.read k).data.length ≤ k := by
  unfold Socket.read
  split
  · simp
  · split <;> simp [*]

theorem Socket.read_final (s : Socket) (k : Nat) : (s.read k).rest.final = s.final := by
  unfold Socket.read
  split
  · rfl
  · split <;> rfl

/-- A socket answers an error only once it has nothing left, and then stays as it is. -/
theorem Socket.read_err {s : Socket} {k : Nat} {e : Error} (h : (s.read k).err = some e) :
    s.chunks = [] ∧ e = s.final ∧ (s.read k).data = [] ∧ (s.read k).rest = s := by
  unfold Socket.read at h ⊢
  split at h
  · simp_all
  · split at h <;> cases h

/-- A read of at least one byte that answers no error answers at least one byte. -/
theorem Socket.read_data_ne {s : Socket} {k : Nat} (hk : 0 < k) (h : (s.read k).err = none) :
    (s.read k).data ≠ [] := by
  unfold Socket.read at h ⊢
  split at h
  · cases h
  · rename_i c cs hs
    have hc : c ≠ [] := fun hc => s.chunks_ne (hs ▸ hc ▸ .head _)
    split
    · exact hc
    · simpa [List.take_eq_nil_iff] using ⟨by omega, hc⟩

/-- A socket with no chunks left answers its error. -/
theorem Socket.read_of_chunks_nil {s : Socket} (h : s.chunks = []) (k : Nat) :
    s.read k = ⟨[], some s.final, s⟩ := by
  unfold Socket.read
  split
  · rfl
  · simp_all

/-! ## `bufio.Reader` -/

/-- A `bufio.Reader` over a socket: `buf` is `b.buf[b.r:b.w]`, the bytes taken from the socket
and not yet returned; `size` is `len(b.buf)`; `err` is the error of the last fill, not yet
returned. `bufio.NewReaderSize` never makes a buffer smaller than 16 bytes, and an error is
only kept once the socket has nothing left. -/
structure Reader where
  buf : List UInt8
  size : Nat
  err : Option Error
  rd : Socket
  buf_le : buf.length ≤ size
  size_ge : 16 ≤ size
  size_lt : size < 2 ^ 63
  err_end : err ≠ none → rd.chunks = []

namespace Reader

/-- The buffer of a `bufio.Reader` is a Go slice, whose length is an `int`. -/
theorem buf_length_lt (b : Reader) : b.buf.length < 2 ^ 63 :=
  lt_of_le_of_lt b.buf_le b.size_lt

/-- A reader with a `size`-byte buffer that holds `buf`, over a socket that has nothing left
and answers `final`: a client's reader once a request has arrived. -/
def ofBytes (buf : List UInt8) (size : Nat) (final : Error) (h₁ : buf.length ≤ size)
    (h₂ : 16 ≤ size) (h₃ : size < 2 ^ 63) : Reader :=
  ⟨buf, size, none, ⟨[], final, by simp⟩, h₁, h₂, h₃, by simp⟩

/-- The stream still to be read: the buffered bytes, then what the socket has still to deliver. -/
def unread (b : Reader) : List UInt8 := b.buf ++ b.rd.bytes

/-- `b.r += n`: the first `n` buffered bytes are returned. -/
def consume (b : Reader) (n : Nat) : Reader :=
  { b with buf := b.buf.drop n, buf_le := by simp; have := b.buf_le; omega }

/-- `b.readErr()`: the kept error is returned, and cleared. -/
def clearErr (b : Reader) : Reader := { b with err := none, err_end := by simp }

@[simp] theorem consume_buf (b : Reader) (n : Nat) : (b.consume n).buf = b.buf.drop n := rfl
@[simp] theorem consume_err (b : Reader) (n : Nat) : (b.consume n).err = b.err := rfl
@[simp] theorem consume_rd (b : Reader) (n : Nat) : (b.consume n).rd = b.rd := rfl
@[simp] theorem consume_size (b : Reader) (n : Nat) : (b.consume n).size = b.size := rfl
@[simp] theorem clearErr_buf (b : Reader) : b.clearErr.buf = b.buf := rfl
@[simp] theorem clearErr_err (b : Reader) : b.clearErr.err = none := rfl
@[simp] theorem clearErr_rd (b : Reader) : b.clearErr.rd = b.rd := rfl
@[simp] theorem clearErr_size (b : Reader) : b.clearErr.size = b.size := rfl

/-- `b.fill()`: one `Read` of the socket into the free end of the buffer. A `Read` of a socket
answers bytes or an error, so Go's retry over empty reads never runs. `fill` is only called
on a buffer that is not full (Go panics otherwise), and is the identity there. -/
def fill (b : Reader) : Reader :=
  if h : b.buf.length < b.size then
    let r := b.rd.read (b.size - b.buf.length)
    { buf := b.buf ++ r.data
      size := b.size
      err := match r.err with
        | some e => some e
        | none => b.err
      rd := r.rest
      buf_le := by
        have := Socket.read_length_le b.rd (b.size - b.buf.length)
        simp only [List.length_append, r]; omega
      size_ge := b.size_ge
      size_lt := b.size_lt
      err_end := by
        intro he
        cases hr : r.err with
        | some e => exact (Socket.read_err hr).2.2.2 ▸ (Socket.read_err hr).1
        | none =>
          rw [hr] at he
          have := Socket.read_of_chunks_nil (b.err_end he) (b.size - b.buf.length)
          simp [r, this] at hr }
  else b

@[simp] theorem fill_size (b : Reader) : b.fill.size = b.size := by
  unfold fill; split <;> rfl

theorem fill_unread (b : Reader) : b.fill.unread = b.unread := by
  unfold fill unread
  split
  · simp only [List.append_assoc, Socket.read_bytes]
  · rfl

theorem fill_final (b : Reader) : b.fill.rd.final = b.rd.final := by
  unfold fill
  split
  · exact Socket.read_final _ _
  · rfl

/-- A fill of a buffer with room either takes bytes from the socket and keeps no error, or
takes none and keeps the socket's error. -/
theorem fill_cases {b : Reader} (he : b.err = none) (hlt : b.buf.length < b.size) :
    (∃ d, d ≠ [] ∧ b.fill.buf = b.buf ++ d ∧ b.fill.err = none) ∨
      (b.fill.buf = b.buf ∧ b.fill.err = some b.rd.final ∧ b.rd.bytes = []) := by
  unfold fill
  simp only [hlt, dite_true]
  cases hr : (b.rd.read (b.size - b.buf.length)).err with
  | none => exact .inl ⟨_, Socket.read_data_ne (by omega) hr, rfl, by simp [hr, he]⟩
  | some e =>
    obtain ⟨hc, rfl, hd, -⟩ := Socket.read_err hr
    exact .inr ⟨by simp [hd], by simp [hr], by simp [Socket.bytes, hc]⟩

/-- What `ReadSlice` decreases: the room left in the buffer, and whether an error is kept. -/
def sliceMeasure (b : Reader) : Nat := 2 * (b.size - b.buf.length) + if b.err = none then 1 else 0

theorem fill_sliceMeasure {b : Reader} (he : b.err = none) (hlt : b.buf.length < b.size) :
    b.fill.sliceMeasure < b.sliceMeasure := by
  have := b.fill.buf_le
  unfold sliceMeasure
  rcases fill_cases he hlt with ⟨d, hd, hb, he'⟩ | ⟨hb, he', -⟩
  · have : 0 < d.length := List.length_pos.2 hd
    simp only [hb, he', fill_size, List.length_append, he] at *; omega
  · simp [hb, he', he]

/-- `b.ReadSlice(delim)`: the bytes up to and including the first `delim`, filling the buffer
until one is there, the buffer is full (`bufio.ErrBufferFull`, with all of it returned), or the
socket fails. -/
def ReadSlice (b : Reader) (delim : UInt8) : List UInt8 × Option Error × Reader :=
  match b.buf.indexOf? delim with
  | some i => (b.buf.take (i + 1), none, b.consume (i + 1))
  | none =>
    match he : b.err with
    | some e => (b.buf, some e, (b.consume b.buf.length).clearErr)
    | none =>
      if hlt : b.size ≤ b.buf.length then (b.buf, some .bufferFull, b.consume b.buf.length)
      else b.fill.ReadSlice delim
termination_by b.sliceMeasure
decreasing_by exact fill_sliceMeasure he (by omega)

/-- `ReadSlice` returns the stream up to the first `delim` and leaves the rest, as long as that
part fits in the buffer: whatever the buffer holds and however the socket's chunks fall. -/
theorem ReadSlice_found {d : UInt8} {pre rest : List UInt8} (hd : d ∉ pre) :
    ∀ {b : Reader}, b.unread = pre ++ d :: rest → pre.length < b.size →
      ∃ b', b.ReadSlice d = (pre ++ [d], none, b') ∧ b'.unread = rest ∧ b'.err = b.err ∧
        b'.size = b.size := by
  intro b
  generalize hm : b.sliceMeasure = m
  induction m using Nat.strong_induction_on generalizing b with
  | _ m ih =>
  intro h hsize
  unfold ReadSlice
  rcases indexOf?_cases b.buf d with ⟨hn, hnm⟩ | ⟨p₀, post, hbuf, hp₀, hi⟩
  · have hpre := prefix_of_not_mem hnm h
    simp only [hn]
    split
    · rename_i e he
      have : b.rd.bytes = [] := by simp [Socket.bytes, b.err_end (by simp [he])]
      simp only [unread, this, List.append_nil] at h
      exact absurd (h ▸ List.mem_append_right _ (.head _)) hnm
    · rename_i he
      have hlt : b.buf.length < b.size := by
        obtain ⟨m, rfl⟩ := hpre; simp at hsize; omega
      simp only [Nat.not_le.2 hlt, dite_false]
      obtain ⟨b', h1, h2, h3, h4⟩ := ih _ (hm ▸ fill_sliceMeasure he hlt) rfl
        (by rw [fill_unread, h]) (by simpa using hsize)
      refine ⟨b', h1, h2, ?_, by simpa using h4⟩
      rcases fill_cases he hlt with ⟨-, -, -, he'⟩ | ⟨-, -, hb⟩
      · rw [h3, he', he]
      · simp only [unread, hb, List.append_nil] at h
        exact absurd (h ▸ List.mem_append_right _ (.head _)) hnm
  · have h' : p₀ ++ d :: (post ++ b.rd.bytes) = pre ++ d :: rest := by simpa [unread, hbuf] using h
    obtain ⟨rfl, hrest⟩ := append_cons_inj_of_not_mem hp₀ hd h'
    refine ⟨b.consume (p₀.length + 1), by rw [hi]; simp [hbuf, List.take_append_eq_append_take], ?_,
      rfl, rfl⟩
    simp [unread, hbuf, ← hrest]

/-- `ReadSlice` returns bytes of the stream only: a prefix of it. -/
theorem ReadSlice_prefix (d : UInt8) (b : Reader) : (b.ReadSlice d).1 <+: b.unread := by
  generalize hm : b.sliceMeasure = m
  induction m using Nat.strong_induction_on generalizing b with
  | _ m ih =>
  unfold ReadSlice
  split
  · exact (List.take_prefix _ _).trans (List.prefix_append _ _)
  · split
    · exact List.prefix_append _ _
    · rename_i he
      split
      · exact List.prefix_append _ _
      · exact fill_unread b ▸ ih _ (hm ▸ fill_sliceMeasure he (by omega)) _ rfl

/-- `ReadSlice` on a stream whose first `b.size` bytes hold no `delim` fills the buffer with them
and returns them all with `bufio.ErrBufferFull`, however the socket's chunks fall. -/
theorem ReadSlice_bufferFull {d : UInt8} {pre rest : List UInt8} (hd : d ∉ pre) :
    ∀ {b : Reader}, b.err = none → b.unread = pre ++ rest → pre.length = b.size →
      ∃ b', b.ReadSlice d = (pre, some .bufferFull, b') ∧ b'.unread = rest ∧ b'.err = none ∧
        b'.size = b.size := by
  intro b
  generalize hm : b.sliceMeasure = m
  induction m using Nat.strong_induction_on generalizing b with
  | _ m ih =>
  intro he h hsize
  have hbuf : b.buf <+: pre :=
    List.prefix_of_prefix_length_le (by rw [← h]; exact List.prefix_append _ _)
      (List.prefix_append _ rest) (hsize ▸ b.buf_le)
  unfold ReadSlice
  simp only [indexOf?_of_not_mem fun hm => hd (hbuf.subset hm)]
  split
  · rename_i e he'
    simp [he] at he'
  · split
    · obtain rfl := hbuf.eq_of_length (by have := b.buf_le; omega)
      refine ⟨_, rfl, ?_, he, rfl⟩
      simpa [unread] using h
    · rcases fill_cases he (by omega) with ⟨-, -, -, he'⟩ | ⟨-, -, hr⟩
      · obtain ⟨b', h1, h2, h3, h4⟩ := ih _ (hm ▸ fill_sliceMeasure he (by omega)) rfl he'
          (by rw [fill_unread, h]) (by simpa using hsize)
        exact ⟨b', h1, h2, h3, by simpa using h4⟩
      · have := congrArg List.length h
        simp only [unread, hr, List.append_nil, List.length_append] at this
        omega

/-- `ReadSlice` on a stream that holds no `delim` and ends before the buffer is full returns all
of it, with the error the socket answers once it has nothing left, however its chunks fall; the
error is returned, and not kept. -/
theorem ReadSlice_end {d : UInt8} :
    ∀ {b : Reader}, b.err = none → d ∉ b.unread → b.unread.length < b.size →
      ∃ b', b.ReadSlice d = (b.unread, some b.rd.final, b') ∧ b'.unread = [] ∧ b'.err = none ∧
        b'.size = b.size := by
  intro b
  generalize hm : b.sliceMeasure = m
  induction m using Nat.strong_induction_on generalizing b with
  | _ m ih =>
  intro he hd hsize
  have hbuf : d ∉ b.buf := fun h => hd (List.mem_append_left _ h)
  have hlt : b.buf.length < b.size := by simp only [unread, List.length_append] at hsize; omega
  rw [ReadSlice, indexOf?_of_not_mem hbuf]
  dsimp only
  split
  · rename_i e he'
    simp [he] at he'
  simp only [Nat.not_le.2 hlt, dite_false]
  rcases fill_cases he hlt with ⟨-, -, -, he'⟩ | ⟨hb, he', hr⟩
  · obtain ⟨b', h1, h2, h3, h4⟩ := ih _ (hm ▸ fill_sliceMeasure he hlt) rfl he'
      (by rwa [fill_unread]) (by simpa [fill_unread] using hsize)
    exact ⟨b', by rw [h1, fill_unread, fill_final], h2, h3, by rw [h4, fill_size]⟩
  · have hu := fill_unread b
    simp only [unread, hb, hr, List.append_nil, List.append_right_eq_self] at hu
    rw [ReadSlice, indexOf?_of_not_mem (hb ▸ hbuf)]
    dsimp only
    split
    · rename_i e he''
      rw [he'] at he''
      cases he''
      exact ⟨(b.fill.consume b.buf.length).clearErr, by simp [unread, hb, hr], by simp [unread, hb, hu],
        rfl, by simp⟩
    · rename_i he''
      simp [he'] at he''

/-- `b.r--` right after `ReadSlice` has returned the whole buffer with `bufio.ErrBufferFull`,
which leaves `b.r = b.w`: the carriage return at the end of the buffer is unread again. -/
def unreadCR (b : Reader) : Reader :=
  { b with buf := [13], buf_le := by have := b.size_ge; simp; omega }

/-- `b.ReadLine()`: `(line, isPrefix, err)`. A line too long for the buffer comes back in pieces
with `isPrefix`; the line's `\n`, or `\r\n`, is dropped; a last line without one is returned
as it is, with no error. -/
def ReadLine (b : Reader) : List UInt8 × Bool × Option Error × Reader :=
  match b.ReadSlice 10 with
  | (line, some .bufferFull, b) =>
    if line.getLast? = some 13 then (line.dropLast, true, none, b.unreadCR)
    else (line, true, none, b)
  | (line, err, b) =>
    if line = [] then ([], false, err, b)
    else if line.getLast? = some 10 then
      if 1 < line.length ∧ line.dropLast.getLast? = some 13 then
        (line.dropLast.dropLast, false, none, b)
      else (line.dropLast, false, none, b)
    else (line, false, none, b)

/-- `ReadLine` on a stream that starts with a line ended by `\r\n` that fits in the buffer
returns that line, and leaves the stream after it. -/
theorem ReadLine_crlf {b : Reader} {line rest : List UInt8} (hl : 10 ∉ line)
    (h : b.unread = line ++ 13 :: 10 :: rest) (hsize : line.length + 2 ≤ b.size) :
    ∃ b', b.ReadLine = (line, false, none, b') ∧ b'.unread = rest ∧ b'.err = b.err ∧
      b'.size = b.size := by
  obtain ⟨b', h1, h2, h3, h4⟩ := ReadSlice_found (show (10 : UInt8) ∉ line ++ [13] by simpa using hl)
    (show b.unread = (line ++ [13]) ++ 10 :: rest by simpa using h) (by simp; omega)
  refine ⟨b', ?_, h2, h3, h4⟩
  unfold ReadLine
  rw [h1]
  simp [List.dropLast_append_of_ne_nil]

/-- `ReadLine` takes a line ended by a bare `\n` as it takes one ended by `\r\n`: it returns the
line, and leaves the stream after the `\n`. -/
theorem ReadLine_lf {b : Reader} {line rest : List UInt8} (hl : 10 ∉ line)
    (hc : line.getLast? ≠ some 13) (h : b.unread = line ++ 10 :: rest) (hsize : line.length < b.size) :
    ∃ b', b.ReadLine = (line, false, none, b') ∧ b'.unread = rest ∧ b'.err = b.err ∧
      b'.size = b.size := by
  obtain ⟨b', h1, h2, h3, h4⟩ := ReadSlice_found hl h hsize
  refine ⟨b', ?_, h2, h3, h4⟩
  rw [ReadLine, h1]
  simp [hc]

/-- `ReadLine` returns bytes of the stream only: a prefix of it. -/
theorem ReadLine_prefix (b : Reader) : b.ReadLine.1 <+: b.unread := by
  have h := ReadSlice_prefix 10 b
  have hd : ∀ l : List UInt8, l.dropLast <+: l := fun l => List.dropLast_prefix l
  rcases hs : b.ReadSlice 10 with ⟨line, err, b'⟩
  rw [hs] at h
  rw [ReadLine, hs]
  split <;> rename_i heq <;> cases heq
  · split
    · exact (hd _).trans h
    · exact h
  · split
    · exact List.nil_prefix
    · split
      · split
        · exact ((hd _).trans (hd _)).trans h
        · exact (hd _).trans h
      · exact h

/-- `ReadLine` on a full buffer that holds no `\n` and does not end in `\r` returns the whole
buffer, flagged `isPrefix`: a line longer than the buffer comes back in pieces. -/
theorem ReadLine_full {b : Reader} (he : b.err = none) (hs : b.size ≤ b.buf.length)
    (hl : 10 ∉ b.buf) (hc : b.buf.getLast? ≠ some 13) :
    b.ReadLine = (b.buf, true, none, b.consume b.buf.length) := by
  have hr : b.ReadSlice 10 = (b.buf, some .bufferFull, b.consume b.buf.length) := by
    rw [ReadSlice, indexOf?_of_not_mem hl]
    dsimp only
    split
    · simp_all
    · simp [hs]
  rw [ReadLine, hr]
  simp [hc]

/-- `ReadLine` on a stream whose first `b.size` bytes hold no `\n` and do not end in `\r` returns
them, flagged `isPrefix`, and leaves the rest of the line unread, however the socket's chunks
fall. -/
theorem ReadLine_long {b : Reader} {line rest : List UInt8} (he : b.err = none) (hl : 10 ∉ line)
    (hc : line.getLast? ≠ some 13) (h : b.unread = line ++ rest) (hsize : line.length = b.size) :
    ∃ b', b.ReadLine = (line, true, none, b') ∧ b'.unread = rest ∧ b'.size = b.size := by
  obtain ⟨b', h1, h2, -, h4⟩ := ReadSlice_bufferFull hl he h hsize
  refine ⟨b', ?_, h2, h4⟩
  rw [ReadLine, h1]
  simp [hc]

/-- `ReadLine` on a stream that ends with no `\n` before the buffer is full returns all of it as
a line, with no error: Go's `ReadLine` answers a last line without its end, and the error only on
the next call. -/
theorem ReadLine_end {b : Reader} (he : b.err = none) (hf : b.rd.final ≠ .bufferFull)
    (hl : 10 ∉ b.unread) (hne : b.unread ≠ []) (hsize : b.unread.length < b.size) :
    ∃ b', b.ReadLine = (b.unread, false, none, b') ∧ b'.unread = [] ∧ b'.err = none ∧
      b'.size = b.size := by
  obtain ⟨b', h1, h2, h3, h4⟩ := ReadSlice_end he hl hsize
  refine ⟨b', ?_, h2, h3, h4⟩
  have hlast : b.unread.getLast? ≠ some 10 := fun h => hl (List.mem_of_getLast?_eq_some h)
  rw [ReadLine, h1]
  simp [hf, hne, hlast]

/-- `b.Read(p)` with `len(p) = k`: buffered bytes, as many as fit in `p`; on an empty buffer,
the kept error, or one `Read` of the socket, straight into `p` when `p` is at least as long as
the buffer. -/
def Read (b : Reader) (k : Nat) : List UInt8 × Option Error × Reader :=
  if k = 0 then (if b.buf = [] then ([], b.err, b.clearErr) else ([], none, b))
  else match hb : b.buf with
  | [] =>
    match he : b.err with
    | some e => ([], some e, b.clearErr)
    | none =>
      if b.size ≤ k then
        let r := b.rd.read k
        (r.data, r.err, { b with rd := r.rest, err_end := by simp [he] })
      else
        let r := b.rd.read b.size
        if hd : r.data = [] then ([], r.err, { b with rd := r.rest, err_end := by simp [he] })
        else
          (r.data.take k, none,
            { buf := r.data.drop k
              size := b.size
              err := r.err
              rd := r.rest
              buf_le := by
                have := Socket.read_length_le b.rd b.size; simp only [r, List.length_drop]; omega
              size_ge := b.size_ge
              size_lt := b.size_lt
              err_end := fun h' => by
                obtain ⟨e, he'⟩ := Option.ne_none_iff_exists'.1 h'
                exact absurd (Socket.read_err he').2.2.1 hd })
  | _ :: _ => (b.buf.take k, none, b.consume k)

/-- A `Read` of at least one byte from a stream with bytes left returns some of them, at most
as many as asked for, and no error. -/
theorem Read_progress {b : Reader} {k : Nat} (hk : 0 < k) (hu : b.unread ≠ []) :
    ∃ d b', b.Read k = (d, none, b') ∧ d ≠ [] ∧ d.length ≤ k ∧ b.unread = d ++ b'.unread ∧
      b'.err = b.err ∧ b'.size = b.size := by
  unfold Read
  simp only [Nat.pos_iff_ne_zero.1 hk, if_false]
  split
  · rename_i hb
    have hbytes : b.rd.bytes ≠ [] := by simpa [unread, hb] using hu
    have hread (k' : Nat) (hk' : 0 < k') : (b.rd.read k').err = none := by
      cases hr : (b.rd.read k').err with
      | none => rfl
      | some e => exact absurd (by simp [Socket.bytes, (Socket.read_err hr).1]) hbytes
    split
    · rename_i e he
      exact absurd (by simp [Socket.bytes, b.err_end (by simp [he])]) hbytes
    · rename_i he
      split
      · refine ⟨_, _, Prod.ext rfl (Prod.ext (hread k hk) rfl), Socket.read_data_ne hk (hread k hk),
          Socket.read_length_le _ _, ?_, rfl, rfl⟩
        simp [unread, hb, Socket.read_bytes]
      · have hne := Socket.read_data_ne (by have := b.size_ge; omega) (hread b.size (by have := b.size_ge; omega))
        simp only [hne, dite_false]
        refine ⟨_, _, rfl, by simp [List.take_eq_nil_iff, hne]; omega, by simp, ?_,
          by simp [hread b.size (by have := b.size_ge; omega), he], rfl⟩
        simp only [unread, hb, ← Socket.read_bytes b.rd b.size, List.nil_append]
        rw [← List.append_assoc, List.take_append_drop]
  · rename_i c cs hb
    refine ⟨_, _, rfl, by simp [hb]; omega, by simp, ?_, rfl, rfl⟩
    simp only [unread, consume_buf, consume_rd]
    rw [← List.append_assoc, List.take_append_drop]

/-- `b.ReadByte()`. Go's loop fills the empty buffer until it holds a byte or an error; one fill
always brings one or the other. -/
def ReadByte (b : Reader) : UInt8 × Option Error × Reader :=
  match b.buf with
  | c :: _ => (c, none, b.consume 1)
  | [] =>
    match b.err with
    | some e => (0, some e, b.clearErr)
    | none =>
      match b.fill.buf with
      | c :: _ => (c, none, b.fill.consume 1)
      | [] => (0, b.fill.err, b.fill.clearErr)

/-- `ReadByte` on a stream with a byte left returns it. -/
theorem ReadByte_cons {b : Reader} {c : UInt8} {rest : List UInt8} (h : b.unread = c :: rest) :
    ∃ b', b.ReadByte = (c, none, b') ∧ b'.unread = rest ∧ b'.err = b.err ∧ b'.size = b.size := by
  unfold ReadByte
  split
  · rename_i c' cs hb
    simp only [unread, hb, List.cons_append, List.cons.injEq] at h
    obtain ⟨rfl, rfl⟩ := h
    exact ⟨_, rfl, by simp [unread, hb], rfl, rfl⟩
  · rename_i hb
    have hbytes : b.rd.bytes = c :: rest := by simpa [unread, hb] using h
    split
    · rename_i e he
      simp [Socket.bytes, b.err_end (by simp [he])] at hbytes
    · rename_i he
      rcases fill_cases he (by rw [hb]; have := b.size_ge; simp; omega) with
        ⟨d, hne, hd, he'⟩ | ⟨-, -, hb'⟩
      · have hu := fill_unread b
        simp only [unread, hb, List.nil_append] at hd hu
        split
        · rename_i c' cs hf
          rw [hf, hbytes] at hu
          simp only [List.cons_append, List.cons.injEq] at hu
          obtain ⟨rfl, hrest⟩ := hu
          exact ⟨_, rfl, by simp [unread, hf, hrest], by simp [he', he], by simp⟩
        · rename_i hf
          exact absurd (by rw [← hd, hf]) hne
      · simp [hbytes] at hb'

end Reader

/-! ## `bufio.Writer` -/

/-- A `bufio.Writer` over a client connection: every byte it has taken, in order, whether still in
its buffer or sent; how many bytes the connection takes in all before a send fails (`none`: all
of them); and the error a failed flush leaves behind, which every later call answers. The model
sends only at `Flush`; the size of the buffer, at which Go's `Write` also sends, is not kept. -/
structure Writer where
  out : List UInt8
  room : Option Nat
  err : Option Error

/-- The error of a send the connection no longer takes: `write: broken pipe`. -/
def brokenPipe : Error := .net 32

/-- `w.Write(p)`: `(n, err)`. The bytes go into the buffer; a kept error is answered instead. -/
def Writer.Write (w : Writer) (p : List UInt8) : Nat × Option Error × Writer :=
  match w.err with
  | some e => (0, some e, w)
  | none => (p.length, none, { w with out := w.out ++ p })

/-- `w.Flush()`: the buffered bytes are sent. When the connection takes fewer bytes than the
writer has taken, the send fails with `brokenPipe`, which the writer keeps. -/
def Writer.Flush (w : Writer) : Option Error × Writer :=
  match w.err, w.room with
  | some e, _ => (some e, w)
  | none, some k => if k < w.out.length then (some brokenPipe, { w with err := some brokenPipe }) else (none, w)
  | none, none => (none, w)

/-- A writer whose writes and flushes never fail. -/
def Writer.Reliable (w : Writer) : Prop := w.err = none ∧ w.room = none

theorem Writer.Write_reliable {w : Writer} (h : w.Reliable) (p : List UInt8) :
    w.Write p = (p.length, none, { w with out := w.out ++ p }) := by
  simp [Writer.Write, h.1]

theorem Writer.Flush_reliable {w : Writer} (h : w.Reliable) : w.Flush = (none, w) := by
  simp [Writer.Flush, h.1, h.2]

theorem Writer.Reliable.append {w : Writer} (h : w.Reliable) (p : List UInt8) :
    ({ w with out := w.out ++ p } : Writer).Reliable := h

/-! ## `io.CopyN` -/

/-- The loop of `io.CopyN(dst, src, n)`, which is `io.Copy` from `io.LimitReader(src, n)` into
the writer's `ReadFrom`: read at most what is left, write what came, until nothing is left or a
read or a write fails (`io.EOF` included). How much a read asks for is up to the writer's
buffer; the model asks for all that is left, which changes how the bytes come in and not which
bytes are taken. -/
def CopyN.loop (dst : Writer) (src : Reader) (left written : Nat) :
    Nat × Option Error × Writer × Reader :=
  if hl : left = 0 then (written, none, dst, src)
  else
    match src.Read left with
    | (data, rerr, src') =>
      if hd : data = [] then (written, some (rerr.getD .noProgress), dst, src')
      else
        match dst.Write data with
        | (nw, some e, dst') => (written + nw, some e, dst', src')
        | (_, none, dst') =>
          match rerr with
          | some e => (written + data.length, some e, dst', src')
          | none => CopyN.loop dst' src' (left - data.length) (written + data.length)
termination_by left
decreasing_by exact Nat.sub_lt (Nat.pos_of_ne_zero hl) (List.length_pos.2 hd)

/-- `io.CopyN(dst, src, n)`: `(written, err)`. A length `n ≤ 0` copies nothing, with no error. -/
def CopyN (dst : Writer) (src : Reader) (n : Int) : Int × Option Error × Writer × Reader :=
  if n ≤ 0 then (0, none, dst, src)
  else
    match CopyN.loop dst src n.toNat 0 with
    | (written, err, dst, src) => (written, err, dst, src)

/-- Into a writer that never fails, the loop copies the next `left` bytes of the stream when
there are that many. -/
theorem CopyN.loop_copies {left : Nat} :
    ∀ {dst : Writer} {src : Reader} (written : Nat), dst.Reliable → left ≤ src.unread.length →
      ∃ src', CopyN.loop dst src left written =
          (written + left, none, { dst with out := dst.out ++ src.unread.take left }, src') ∧
        src'.unread = src.unread.drop left ∧ src'.err = src.err ∧ src'.size = src.size := by
  induction left using Nat.strong_induction_on with
  | _ left ih =>
  intro dst src written hd hl
  unfold CopyN.loop
  by_cases h0 : left = 0
  · subst h0
    exact ⟨src, by simp, by simp, rfl, rfl⟩
  · simp only [h0, dite_false]
    have hu : src.unread ≠ [] := by intro h; simp [h] at hl; omega
    obtain ⟨d, src₁, hr, hne, hlen, hsplit, herr, hsize⟩ :=
      Reader.Read_progress (Nat.pos_of_ne_zero h0) hu
    rw [hr]
    simp only [hne, dite_false, Writer.Write_reliable hd]
    obtain ⟨src', h1, h2, h3, h4⟩ := ih (left - d.length)
      (Nat.sub_lt (Nat.pos_of_ne_zero h0) (List.length_pos.2 hne)) (written + d.length)
      (hd.append d) (show left - d.length ≤ src₁.unread.length by rw [hsplit] at hl; simp at hl; omega)
    refine ⟨src', by rw [h1]; simp [hsplit, List.take_append_eq_append_take,
      Nat.sub_eq_zero_of_le hlen]; omega, ?_, by rw [h3, herr], by rw [h4, hsize]⟩
    rw [h2, hsplit, List.drop_append_eq_append_drop]
    simp [Nat.sub_eq_zero_of_le hlen, hlen]

/-- `io.CopyN` into a writer that never fails copies the next `n` bytes of the stream when there
are that many, with no error. -/
theorem CopyN_copies {dst : Writer} {src : Reader} {n : Nat} (hd : dst.Reliable)
    (hl : n ≤ src.unread.length) :
    ∃ src', CopyN dst src n =
        ((n : Int), none, { dst with out := dst.out ++ src.unread.take n }, src') ∧
      src'.unread = src.unread.drop n ∧ src'.err = src.err ∧ src'.size = src.size := by
  unfold CopyN
  by_cases h0 : n = 0
  · subst h0; exact ⟨src, by simp, by simp, rfl, rfl⟩
  · obtain ⟨src', h1, h2⟩ := CopyN.loop_copies 0 hd hl
    refine ⟨src', ?_, h2⟩
    simp only [show ¬ (n : Int) ≤ 0 by omega, if_false, Int.toNat_ofNat, h1]
    simp

end Rmux
