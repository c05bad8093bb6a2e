import Rmux.Protocol.Basic
import Rmux.Bufio

/-!
# `GetCommand`, the scanner of buffered requests

`GetCommand` reads the command of a request, and its first argument, out of the bytes already
in the client's reader, without reading from the socket: `source.Peek(source.Buffered())` is
the buffer. Both results are slices of the buffer (`Span`), and the command is case-mapped in
place, through the slice, so the bytes the proxy later forwards are the mapped ones. Every
slice expression is checked as Go checks it, so a run that would panic ends in `.error`.
-/

namespace Rmux

/-- The body of `GetCommand`'s loop over the command: `if value <= 'Z' { command[index] = value
+ 32 }`. -/
def caseMap (value : UInt8) : UInt8 := if value ≤ 'Z'.toUInt8 then value + 32 else value

/-- The loop over `command`, which writes through the slice into the reader's buffer. -/
def Reader.lowercase (b : Reader) (command : Span) : Reader :=
  { b with
    buf := b.buf.mapIdx fun i v => if command.start ≤ i ∧ i < command.stop then caseMap v else v
    buf_le := by simp [b.buf_le] }

/-- The named results of `GetCommand`, `(command, firstArgument, err)`, with the client's reader
after the call: its buffer holds the case-mapped command. -/
structure GetCommandResult where
  command : Option Span
  firstArgument : Option Span
  err : Option Error
  source : Reader

/-- The second half of `GetCommand`, once the command is read and case-mapped: from
`messageLength = nextLine + messageLength + 2`, the start of the argument's header, its length
field and the argument. Reference: `connection.go:445`. -/
def GetCommand.argument (source : Reader) (command : Span) (messageLength : Int) :
    Except Panic GetCommandResult :=
  let contents := source.buf
  (sliceSpan contents.length messageLength contents.length).bind fun rest =>
  let nextLine := IndexByte (rest.read contents) 13
  if nextLine = -1 then .ok ⟨some command, none, some .multibulkFormatRequired, source⟩ else
  let nextLine := wrap (nextLine + messageLength)
  (sliceSpan contents.length (wrap (messageLength + 1)) nextLine).bind fun field =>
  match ParseInt (field.read contents) with
  | (_, some e) => .ok ⟨some command, none, some e, source⟩
  | (messageLength, none) =>
  let nextLine := wrap (nextLine + 2)
  if wrap (wrap (nextLine + messageLength) + 2) > contents.length then
    .ok ⟨some command, none, some .multibulkFormatRequired, source⟩ else
  (sliceSpan contents.length nextLine (wrap (nextLine + messageLength))).bind fun firstArgument =>
  .ok ⟨some command, some firstArgument, none, source⟩

/-- `GetCommand(source)`. Reference: `connection.go:391`. -/
def GetCommand (source : Reader) : Except Panic GetCommandResult :=
  let contents := source.buf
  let nextLine := IndexByte contents 13
  if nextLine = -1 then .ok ⟨none, none, some .multibulkFormatRequired, source⟩ else
  (sliceSpan contents.length 1 nextLine).bind fun field =>
  match ParseInt (field.read contents) with
  | (_, some e) => .ok ⟨none, none, some e, source⟩
  | (messageLength, none) =>
  let nextLine := wrap (nextLine + 2)
  if wrap (wrap (nextLine + messageLength) + 2) > contents.length then
    .ok ⟨none, none, some .multibulkFormatRequired, source⟩ else
  (sliceSpan contents.length nextLine (wrap (nextLine + messageLength))).bind fun command =>
  let source := source.lowercase command
  if wrap (wrap (nextLine + messageLength) + 2) = contents.length then
    .ok ⟨some command, none, none, source⟩ else
  GetCommand.argument source command (wrap (wrap (nextLine + messageLength) + 2))

/-! ## The case mapping -/

/-- ASCII lowercasing, the way a backend reads a command name: `'A'..'Z'` to `'a'..'z'`, every
other byte as it is. -/
def asciiLower (b : UInt8) : UInt8 := if 'A'.toUInt8 ≤ b ∧ b ≤ 'Z'.toUInt8 then b + 32 else b

/-- Moving a byte up by 32 always changes it. -/
theorem add_32_ne (b : UInt8) : b + 32 ≠ b := fun h => by
  have h1 := congrArg UInt8.toNat h
  have h2 := b.toNat_lt_size
  rw [UInt8.toNat_add] at h1
  simp only [UInt8.size] at *
  have : (32 : UInt8).toNat = 32 := rfl
  omega

/-- `GetCommand`'s case mapping changes exactly the bytes up to `'Z'`. -/
theorem caseMap_eq_self_iff (v : UInt8) : caseMap v = v ↔ 'Z'.toUInt8 < v := by
  unfold caseMap
  split_ifs with h
  · exact iff_of_false (add_32_ne v) (by
      simp only [UInt8.lt_def, UInt8.le_def, BitVec.lt_def, BitVec.le_def] at *; omega)
  · exact iff_of_true rfl (by
      simp only [UInt8.lt_def, UInt8.le_def, BitVec.lt_def, BitVec.le_def] at *; omega)

theorem map_caseMap_eq_self_iff (c : List UInt8) :
    c.map caseMap = c ↔ ∀ v ∈ c, 'Z'.toUInt8 < v := by
  conv_lhs => rhs; rw [← List.map_id c]
  rw [List.map_eq_map_iff]
  simp [caseMap_eq_self_iff]

/-- `GetCommand`'s case mapping agrees with ASCII lowercasing exactly on the bytes from `'A'`
up: every byte below `'A'` (digits, punctuation, control bytes) is moved up by 32 too. -/
theorem caseMap_eq_asciiLower_iff (b : UInt8) : caseMap b = asciiLower b ↔ 'A'.toUInt8 ≤ b := by
  have hA : ('A'.toUInt8).toNat = 65 := rfl
  have hZ : ('Z'.toUInt8).toNat = 90 := rfl
  have hb := b.toNat_lt_size
  simp only [caseMap, asciiLower, UInt8.le_def, BitVec.le_def, UInt8.size] at *
  show (if b.toNat ≤ ('Z'.toUInt8).toNat then _ else _) =
    (if ('A'.toUInt8).toNat ≤ b.toNat ∧ b.toNat ≤ ('Z'.toUInt8).toNat then _ else _) ↔
      ('A'.toUInt8).toNat ≤ b.toNat
  rw [hA, hZ]
  split_ifs
  · exact iff_of_true rfl (by omega)
  · exact iff_of_false (add_32_ne b) (by omega)
  · exact iff_of_false (by omega) (by omega)
  · exact iff_of_true rfl (by omega)

theorem mapIdx_eq_map_of {l : List UInt8} {f : Nat → UInt8 → UInt8} {g : UInt8 → UInt8}
    (h : ∀ i < l.length, ∀ v, f i v = g v) : l.mapIdx f = l.map g :=
  List.ext_getElem (by simp) fun i h₁ _ => by
    simp only [List.getElem_mapIdx, List.getElem_map]; exact h i (by simpa using h₁) _

/-- The loop writes exactly the command's span of the buffer. -/
theorem lowercase_buf {b : Reader} {pre mid post : List UInt8} (h : b.buf = pre ++ mid ++ post) :
    (b.lowercase ⟨pre.length, pre.length + mid.length⟩).buf = pre ++ mid.map caseMap ++ post := by
  simp only [Reader.lowercase, h, List.mapIdx_append]
  rw [mapIdx_eq_map_of (g := id), mapIdx_eq_map_of (g := caseMap), mapIdx_eq_map_of (g := id)]
  · simp only [List.map_id]
  · exact fun i _ v => if_neg (by rw [List.length_append]; omega)
  · exact fun i hi v => if_pos (by omega)
  · exact fun i hi v => if_neg (by omega)

/-! ## A request that begins with a bulk element -/

/-- Where the payload of a bulk element that starts the buffer lies: after `$`, the length
field and `\r\n`. -/
def payloadSpan (c : List UInt8) : Span :=
  ⟨(decimal c.length).length + 3, (decimal c.length).length + 3 + c.length⟩

/-- The header of a bulk element: `$`, the length field, `\r\n`. -/
def bulkHeader (c : List UInt8) : List UInt8 := 36 :: decimal c.length ++ [13, 10]

theorem bulk_split (c : List UInt8) : bulk c = bulkHeader c ++ c ++ [13, 10] := by
  simp [bulk, bulkHeader]

theorem payloadSpan_eq (c : List UInt8) :
    payloadSpan c = ⟨(bulkHeader c).length, (bulkHeader c).length + c.length⟩ := by
  simp [payloadSpan, bulkHeader]

/-- The case mapping of the command leaves the rest of the buffer as it was. -/
theorem lowercase_payloadSpan {b : Reader} {c tail : List UInt8} (h : b.buf = bulk c ++ tail) :
    (b.lowercase (payloadSpan c)).buf = bulkHeader c ++ c.map caseMap ++ ([13, 10] ++ tail) := by
  rw [payloadSpan_eq, lowercase_buf (show b.buf = bulkHeader c ++ c ++ ([13, 10] ++ tail) by
    simp [h, bulk_split])]

/-- The payload's span reads the payload. -/
theorem payloadSpan_read (c tail : List UInt8) : (payloadSpan c).read (bulk c ++ tail) = c := by
  rw [payloadSpan_eq, bulk_split]; simpa using Span.read_append (bulkHeader c) c ([13, 10] ++ tail)

/-- After the case mapping, the payload's span reads the mapped payload, whatever the element's
four framing bytes are. -/
theorem payloadSpan_read_lowercase_framed {b : Reader} {s z : UInt8} {c post : List UInt8}
    (h : b.buf = s :: decimal c.length ++ 13 :: z :: (c ++ post)) :
    (payloadSpan c).read (b.lowercase (payloadSpan c)).buf = c.map caseMap := by
  have hp : payloadSpan c = ⟨(s :: decimal c.length ++ [13, z]).length,
      (s :: decimal c.length ++ [13, z]).length + c.length⟩ := by simp [payloadSpan]
  rw [hp, lowercase_buf (show b.buf = (s :: decimal c.length ++ [13, z]) ++ c ++ post by simp [h])]
  simpa using Span.read_append (s :: decimal c.length ++ [13, z]) (c.map caseMap) post

theorem payloadSpan_read_lowercase {b : Reader} {c tail : List UInt8} (h : b.buf = bulk c ++ tail) :
    (payloadSpan c).read (b.lowercase (payloadSpan c)).buf = c.map caseMap :=
  payloadSpan_read_lowercase_framed
    (show b.buf = 36 :: decimal c.length ++ 13 :: 10 :: (c ++ ([13, 10] ++ tail)) by
      rw [h, bulk_eq]; simp)

/-- `GetCommand` takes the first element's length field from after its first byte up to the first
`\r`, and its payload from two bytes past that `\r`; it looks at neither the first byte, nor the
byte after the `\r`, nor the two bytes after the payload. On `s`, the length field of `c`, `\r`,
`z`, `c`, `x`, `y` and a tail it reads `c`'s span as the command, and stops there when nothing
follows. Reference: `connection.go:398-441`. -/
theorem GetCommand_of_framed {source : Reader} {s z x y : UInt8} {c tail : List UInt8} (hs : s ≠ 13)
    (h : source.buf = s :: decimal c.length ++ 13 :: z :: (c ++ x :: y :: tail)) :
    GetCommand source =
      if tail = [] then .ok ⟨some (payloadSpan c), none, none, source.lowercase (payloadSpan c)⟩
      else GetCommand.argument (source.lowercase (payloadSpan c)) (payloadSpan c)
        ((decimal c.length).length + c.length + 5 : Nat) := by
  have hlen := source.buf_length_lt
  have hl : source.buf.length = (decimal c.length).length + c.length + 5 + tail.length := by
    simp [h]; omega
  have hi : IndexByte source.buf 13 = (((decimal c.length).length + 1 : Nat) : Int) := by
    rw [h, List.cons_append, ← List.cons_append,
      IndexByte_append (by simp [hs.symm, cr_not_mem_decimal])]; simp
  have hf : sliceSpan source.buf.length 1 (((decimal c.length).length + 1 : Nat) : Int) =
      .ok ⟨1, (decimal c.length).length + 1⟩ := sliceSpan_ok (i := 1) (by omega) (by omega)
  have hr : Span.read ⟨1, (decimal c.length).length + 1⟩ source.buf = decimal c.length := by
    rw [h]; simp [Span.read]
  have hne : (((decimal c.length).length + 1 : Nat) : Int) ≠ -1 := by omega
  have hcmd : sliceSpan source.buf.length (((decimal c.length).length + 1 + 2 : Nat) : Int)
      (((decimal c.length).length + 1 + 2 + c.length : Nat) : Int) = .ok (payloadSpan c) :=
    sliceSpan_ok (by omega) (by omega)
  have hc : c.length < 2 ^ 63 := by omega
  have hw₁ : wrap ((((decimal c.length).length + 1 : Nat) : Int) + 2) =
      (((decimal c.length).length + 1 + 2 : Nat) : Int) := wrap_natCast_add (b := 2) (by omega)
  have hw₂ : wrap ((((decimal c.length).length + 1 + 2 : Nat) : Int) + (c.length : Int)) =
      (((decimal c.length).length + 1 + 2 + c.length : Nat) : Int) := wrap_natCast_add (by omega)
  have hw₃ : wrap ((((decimal c.length).length + 1 + 2 + c.length : Nat) : Int) + 2) =
      (((decimal c.length).length + 1 + 2 + c.length + 2 : Nat) : Int) :=
    wrap_natCast_add (b := 2) (by omega)
  unfold GetCommand
  simp only [hi, hf, Except.ok_bind, hr, ParseInt_decimal hc, if_neg hne, hw₁, hw₂, hw₃, hcmd,
    gt_iff_lt, Nat.cast_lt, Nat.cast_inj]
  rw [if_neg (by omega), show (decimal c.length).length + 1 + 2 + c.length + 2 =
    (decimal c.length).length + c.length + 5 by omega]
  by_cases ht : tail = [] <;> simp [ht, hl]

/-- On a buffer that begins with the bulk encoding of `c`, `GetCommand` reads `c`'s span as the
command, and stops there when nothing follows. -/
theorem GetCommand_of_bulk {source : Reader} {c tail : List UInt8}
    (h : source.buf = bulk c ++ tail) :
    GetCommand source =
      if tail = [] then .ok ⟨some (payloadSpan c), none, none, source.lowercase (payloadSpan c)⟩
      else GetCommand.argument (source.lowercase (payloadSpan c)) (payloadSpan c)
        ((bulk c).length : Nat) := by
  rw [length_bulk]
  exact GetCommand_of_framed (s := 36) (z := 10) (x := 13) (y := 10) (by decide)
    (by rw [h, bulk_eq]; simp)

/-- On a buffer whose bytes from `messageLength` on begin with the bulk encoding of `a`, the
second half of `GetCommand` reads `a`'s span as the first argument. Reference:
`connection.go:445-474`. -/
theorem GetCommand.argument_of_bulk {source : Reader} {command : Span} {pre a rest : List UInt8}
    (h : source.buf = pre ++ bulk a ++ rest) :
    GetCommand.argument source command (pre.length : Nat) =
      .ok ⟨some command, some ⟨pre.length + (payloadSpan a).start, pre.length + (payloadSpan a).stop⟩,
        none, source⟩ := by
  have hlen := source.buf_length_lt
  have hl : source.buf.length = pre.length + ((decimal a.length).length + a.length + 5) +
      rest.length := by simp [h]; omega
  have hrest : sliceSpan source.buf.length (pre.length : Nat) source.buf.length =
      .ok ⟨pre.length, source.buf.length⟩ := sliceSpan_ok (by omega) le_rfl
  have hrr : Span.read ⟨pre.length, source.buf.length⟩ source.buf = bulk a ++ rest := by
    rw [h, List.append_assoc, Span.read_suffix]
  have hb : bulk a ++ rest = (36 :: decimal a.length) ++ 13 :: (10 :: (a ++ [13, 10] ++ rest)) := by
    rw [bulk_eq]; simp
  have hi : IndexByte (bulk a ++ rest) 13 = (((decimal a.length).length + 1 : Nat) : Int) := by
    rw [hb, IndexByte_append (by simp [cr_not_mem_decimal])]; simp
  have hne : (((decimal a.length).length + 1 : Nat) : Int) ≠ -1 := by omega
  have hf : sliceSpan source.buf.length ((pre.length + 1 : Nat) : Int)
      (((decimal a.length).length + 1 + pre.length : Nat) : Int) =
      .ok ⟨pre.length + 1, (decimal a.length).length + 1 + pre.length⟩ :=
    sliceSpan_ok (by omega) (by omega)
  have hr : Span.read ⟨pre.length + 1, (decimal a.length).length + 1 + pre.length⟩ source.buf =
      decimal a.length := by
    rw [show (⟨pre.length + 1, (decimal a.length).length + 1 + pre.length⟩ : Span) =
        ⟨(pre ++ [36]).length, (pre ++ [36]).length + (decimal a.length).length⟩ by simp; omega,
      show source.buf = (pre ++ [36]) ++ (decimal a.length ++ 13 :: 10 :: (a ++ [13, 10] ++ rest)) by
        rw [h, bulk_eq]; simp, Span.read_append]
  have harg : sliceSpan source.buf.length (((decimal a.length).length + 1 + pre.length + 2 : Nat) : Int)
      (((decimal a.length).length + 1 + pre.length + 2 + a.length : Nat) : Int) =
      .ok ⟨pre.length + (payloadSpan a).start, pre.length + (payloadSpan a).stop⟩ := by
    rw [sliceSpan_ok (by omega) (by omega)]; simp [payloadSpan]; omega
  unfold GetCommand.argument
  simp only [hrest, Except.ok_bind, hrr, hi, if_neg hne]
  simp (disch := omega) only [← Nat.cast_one (R := Int), ← Nat.cast_two (R := Int), wrap_natCast_add,
    Except.ok_bind, hf, hr, ParseInt_decimal, harg]
  rw [if_neg (by omega)]

/-- `GetCommand` on a buffer that holds one bulk element, or two and anything after them: the
command is the first payload's span, case-mapped in the buffer, and the first argument the
second payload's span, which holds the second payload byte for byte. -/
theorem GetCommand_bulk_request :
    (∀ (source : Reader) (c : List UInt8), source.buf = bulk c →
      ∃ r, GetCommand source = .ok r ∧ r.err = none ∧ r.firstArgument = none ∧
        r.command = some (payloadSpan c) ∧ (payloadSpan c).read source.buf = c ∧
        (payloadSpan c).read r.source.buf = c.map caseMap) ∧
    (∀ (source : Reader) (c a rest : List UInt8), source.buf = bulk c ++ bulk a ++ rest →
      ∃ r, GetCommand source = .ok r ∧ r.err = none ∧ r.command = some (payloadSpan c) ∧
        (payloadSpan c).read source.buf = c ∧ (payloadSpan c).read r.source.buf = c.map caseMap ∧
        ∃ arg, r.firstArgument = some arg ∧ arg.read r.source.buf = a) := by
  refine ⟨fun source c h => ?_, fun source c a rest h => ?_⟩
  · have h' : source.buf = bulk c ++ [] := by simp [h]
    rw [GetCommand_of_bulk h', if_pos rfl]
    exact ⟨_, rfl, rfl, rfl, rfl, by simpa [h] using payloadSpan_read c [], payloadSpan_read_lowercase h'⟩
  · have h' : source.buf = bulk c ++ (bulk a ++ rest) := by simp [h]
    have hl : (source.lowercase (payloadSpan c)).buf =
        (bulkHeader c ++ c.map caseMap ++ [13, 10]) ++ bulk a ++ rest := by
      rw [lowercase_payloadSpan h']; simp
    have hlen : (bulkHeader c ++ c.map caseMap ++ [13, 10]).length = (bulk c).length := by
      simp [bulk_split]
    rw [GetCommand_of_bulk h', if_neg (by simp [bulk]), ← hlen, GetCommand.argument_of_bulk hl]
    refine ⟨_, rfl, rfl, rfl, by rw [h', payloadSpan_read], payloadSpan_read_lowercase h', _, rfl, ?_⟩
    rw [hl, List.append_assoc _ (bulk a), Span.read_shift, payloadSpan_read]

/-- The requests `$3\r\nGET\r\n` and `$3\r\nGET\r\n$3\r\nfoo\r\n`. -/
theorem GetCommand_bulk_request_get_foo :
    (∃ r, GetCommand (Reader.ofBytes (bulk (bytesOf "GET")) 4096 .timeout
        (by simp [bytesOf, decimal_of_lt_ten]) (by decide) (by decide)) = .ok r ∧
      r.err = none ∧ r.firstArgument = none ∧ r.command = some (payloadSpan (bytesOf "GET")) ∧
      (payloadSpan (bytesOf "GET")).read (bulk (bytesOf "GET")) = bytesOf "GET" ∧
      (payloadSpan (bytesOf "GET")).read r.source.buf = (bytesOf "GET").map caseMap) ∧
    (∃ r, GetCommand (Reader.ofBytes (bulk (bytesOf "GET") ++ bulk (bytesOf "foo") ++ []) 4096
        .timeout (by simp [bytesOf, decimal_of_lt_ten]) (by decide) (by decide)) = .ok r ∧
      r.err = none ∧ r.command = some (payloadSpan (bytesOf "GET")) ∧
      (payloadSpan (bytesOf "GET")).read (bulk (bytesOf "GET") ++ bulk (bytesOf "foo") ++ []) =
        bytesOf "GET" ∧
      (payloadSpan (bytesOf "GET")).read r.source.buf = (bytesOf "GET").map caseMap ∧
      ∃ arg, r.firstArgument = some arg ∧ arg.read r.source.buf = bytesOf "foo") :=
  ⟨GetCommand_bulk_request.1 _ _ rfl, GetCommand_bulk_request.2 _ _ _ _ rfl⟩

/-- A client's reader whose 4096-byte buffer (`bufio.NewReader`'s) holds `buf`. -/
def clientReader (buf : List UInt8) (h : buf.length ≤ 4096) : Reader :=
  Reader.ofBytes buf 4096 .timeout h (by decide) (by decide)

/-- A bulk string of fewer than ten bytes, and what follows it, fit in a client's buffer. -/
theorem bulk_append_fits {x tail : List UInt8} (hx : x.length < 10) (ht : tail.length ≤ 4000) :
    (bulk x ++ tail).length ≤ 4096 := by
  rw [List.length_append, length_bulk, decimal_of_lt_ten hx]
  simp only [List.length_singleton]
  omega

/-- The request `$8\r\nflus(all\r\n` leaves `flusHall` in the buffer, which a backend reads as
`flushall`, a member of `UNSAFE_FUNCTIONS`; the command `GetCommand` returns is not a member,
and is not the ASCII lowercase of `flus(all`. -/
theorem GetCommand_flus_paren_all :
    ∃ r, GetCommand (clientReader (bulk (bytesOf "flus(all")) (by simp [bytesOf, decimal_of_lt_ten])) =
        .ok r ∧ r.err = none ∧ r.command = some (payloadSpan (bytesOf "flus(all")) ∧
      (payloadSpan (bytesOf "flus(all")).read r.source.buf = bytesOf "flusHall" ∧
      bytesOf "flusHall" ≠ (bytesOf "flus(all").map asciiLower ∧
      bytesOf "flusHall" ∉ UNSAFE_FUNCTIONS ∧
      (bytesOf "flusHall").map asciiLower ∈ UNSAFE_FUNCTIONS := by
  have h : (clientReader (bulk (bytesOf "flus(all")) (by simp [bytesOf, decimal_of_lt_ten])).buf =
      bulk (bytesOf "flus(all") ++ [] := by simp [clientReader, Reader.ofBytes]
  rw [GetCommand_of_bulk h, if_pos rfl]
  exact ⟨_, rfl, rfl, rfl, by rw [payloadSpan_read_lowercase h]; decide, by decide, by decide,
    by decide⟩

/-! ## What the scanner checks

The spec's bulk element, `StartsWithBulk`, against what `GetCommand` accepts: it reads the length
field up to the first `\r` and the payload after it, and looks at none of the element's four
framing bytes, `$`, the `\n` after the length and the `\r\n` after the payload. -/

/-- The spec's bulk element at the start of a buffer: `$`, a run of decimal digits whose value is
the payload's length, `\r\n`, the payload `c`, `\r\n`. -/
def StartsWithBulk (B c : List UInt8) : Prop :=
  ∃ ds rest, B = 36 :: ds ++ 13 :: 10 :: (c ++ 13 :: 10 :: rest) ∧ ds ≠ [] ∧
    (∀ d ∈ ds, IsDigit d) ∧ decimalValue 0 ds = c.length

/-- A buffer laid out as a bulk element but for its four framing bytes starts with a bulk element
exactly when those bytes are `$`, `\n`, `\r` and `\n`: the digit run ends at the first `\r`, and
its value fixes where the payload ends. -/
theorem startsWithBulk_framed_iff {s z x y : UInt8} {c : List UInt8} :
    (∃ c', StartsWithBulk (s :: decimal c.length ++ 13 :: z :: (c ++ [x, y])) c') ↔
      s = 36 ∧ z = 10 ∧ x = 13 ∧ y = 10 := by
  constructor
  · rintro ⟨c', ds, rest, h, -, hds, hv⟩
    simp only [List.cons_append, List.cons.injEq] at h
    obtain ⟨rfl, h⟩ := h
    obtain ⟨rfl, h2⟩ := append_cons_inj_of_not_mem (cr_not_mem_decimal _)
      (fun h => absurd (hds 13 h) (by decide)) h
    obtain ⟨rfl, h3⟩ := List.cons.inj h2
    rw [decimalValue_decimal] at hv
    obtain ⟨-, h4⟩ := List.append_inj h3 hv
    simp only [List.cons.injEq] at h4
    exact ⟨rfl, rfl, h4.1, h4.2.1⟩
  · rintro ⟨rfl, rfl, rfl, rfl⟩
    exact ⟨c, decimal c.length, [], by simp, decimal_ne_nil _, decimal_digits _,
      decimalValue_decimal _⟩

/-- `GetCommand` accepts a lone element whatever its framing bytes: no error, the payload's span
as the command, case-mapped in the buffer, and no argument. -/
theorem GetCommand_of_framed_ok {source : Reader} {s z x y : UInt8} {c : List UInt8} (hs : s ≠ 13)
    (h : source.buf = s :: decimal c.length ++ 13 :: z :: (c ++ [x, y])) :
    ∃ r, GetCommand source = .ok r ∧ r.err = none ∧ r.command = some (payloadSpan c) ∧
      r.firstArgument = none ∧ (payloadSpan c).read r.source.buf = c.map caseMap := by
  rw [GetCommand_of_framed hs (show source.buf = s :: decimal c.length ++ 13 :: z :: (c ++ x :: y :: [])
    from h), if_pos rfl]
  exact ⟨_, rfl, rfl, rfl, rfl, payloadSpan_read_lowercase_framed h⟩

/-- `GetCommand` returns no error on buffers that do not begin with a bulk element: for every
first byte `s` but `\r`, byte `z` after the length field's `\r`, and bytes `x`, `y` after the
payload, it reads the payload `c` as the command, and the buffer starts with a bulk element only
when these are `$`, `\n`, `\r`, `\n`. So `X3\r\nGET\r\n` gives the command `get`. -/
theorem GetCommand_accepts_unframed :
    (∀ (source : Reader) (s z x y : UInt8) (c : List UInt8), s ≠ 13 →
      source.buf = s :: decimal c.length ++ 13 :: z :: (c ++ [x, y]) →
      ∃ r, GetCommand source = .ok r ∧ r.err = none ∧ r.command = some (payloadSpan c) ∧
        r.firstArgument = none ∧ (payloadSpan c).read r.source.buf = c.map caseMap ∧
        ((∃ c', StartsWithBulk source.buf c') ↔ s = 36 ∧ z = 10 ∧ x = 13 ∧ y = 10)) ∧
    ∃ r, GetCommand (clientReader (bytesOf "X3\r\nGET\r\n") (by decide)) = .ok r ∧ r.err = none ∧
      r.command = some (payloadSpan (bytesOf "GET")) ∧
      (payloadSpan (bytesOf "GET")).read r.source.buf = bytesOf "get" ∧
      ¬ ∃ c', StartsWithBulk (bytesOf "X3\r\nGET\r\n") c' := by
  have hx : bytesOf "X3\r\nGET\r\n" = 88 :: decimal (bytesOf "GET").length ++ 13 :: 10 ::
      (bytesOf "GET" ++ [13, 10]) := by
    rw [show (bytesOf "GET").length = 3 from rfl, decimal_of_lt_ten (by decide)]; rfl
  obtain ⟨r, h1, h2, h3, -, h4⟩ := @GetCommand_of_framed_ok
    (clientReader (bytesOf "X3\r\nGET\r\n") (by decide)) 88 10 13 10 _ (by decide) hx
  refine ⟨fun source s z x y c hs h => ?_, r, h1, h2, h3, by rw [h4]; decide,
    fun h => absurd (startsWithBulk_framed_iff.1 (hx ▸ h)).1 (by decide)⟩
  obtain ⟨r, h1, h2, h3, h4, h5⟩ := GetCommand_of_framed_ok hs h
  exact ⟨r, h1, h2, h3, h4, h5, h ▸ startsWithBulk_framed_iff⟩

/-! ## Errors after the command

The command is case-mapped in the buffer, and assigned to the named result, before the second
element's header is read; an error there returns both. -/

/-- The second half of `GetCommand` on a buffer with no `\r` past the command: the argument's
header has no end, and the error comes back with the command. -/
theorem GetCommand.argument_of_no_cr {source : Reader} {command : Span} {pre tail : List UInt8}
    (h : source.buf = pre ++ tail) (ht : 13 ∉ tail) :
    GetCommand.argument source command (pre.length : Nat) =
      .ok ⟨some command, none, some .multibulkFormatRequired, source⟩ := by
  have hl : pre.length ≤ source.buf.length := by simp [h]
  have hrest : sliceSpan source.buf.length (pre.length : Nat) source.buf.length =
      .ok ⟨pre.length, source.buf.length⟩ := sliceSpan_ok (by omega) le_rfl
  have hrr : Span.read ⟨pre.length, source.buf.length⟩ source.buf = tail := by
    simp [Span.read, h, List.drop_left']
  unfold GetCommand.argument
  simp only [hrest, Except.ok_bind, hrr, IndexByte, indexOf?_of_not_mem ht, if_true]

/-- A whole first element followed by bytes with no `\r`: `GetCommand` returns
`ERROR_MULTIBULK_FORMAT_REQUIRED` together with the command's span, the command case-mapped in the
buffer, which is left as it was only if no byte of the command is at or below `'Z'`. -/
theorem GetCommand_error_after_command {source : Reader} {c tail : List UInt8}
    (h : source.buf = bulk c ++ tail) (ht : tail ≠ []) (hcr : 13 ∉ tail) :
    ∃ r, GetCommand source = .ok r ∧ r.err = some .multibulkFormatRequired ∧
      r.command = some (payloadSpan c) ∧ r.firstArgument = none ∧
      r.source.buf = bulkHeader c ++ c.map caseMap ++ ([13, 10] ++ tail) ∧
      (r.source.buf = source.buf ↔ ∀ v ∈ c, 'Z'.toUInt8 < v) := by
  have hl := lowercase_payloadSpan h
  have hlen : (bulkHeader c ++ c.map caseMap ++ [13, 10]).length = (bulk c).length := by
    simp [bulk_split]
  rw [GetCommand_of_bulk h, if_neg ht, ← hlen,
    GetCommand.argument_of_no_cr (by rw [hl]; simp) hcr]
  refine ⟨_, rfl, rfl, rfl, rfl, hl, ?_⟩
  rw [hl, h, bulk_split, ← map_caseMap_eq_self_iff]
  simp

/-- An error of `GetCommand` can come with a command, and with the buffer changed: for every
whole first element followed by bytes with no `\r`, the error comes back with the command's span,
and the command is case-mapped in the buffer. On `$3\r\nGET\r\nx` the buffer afterwards reads
`$3\r\nget\r\nx`. -/
theorem GetCommand_error_keeps_command :
    (∀ (source : Reader) (c tail : List UInt8), source.buf = bulk c ++ tail → tail ≠ [] →
      13 ∉ tail →
      ∃ r, GetCommand source = .ok r ∧ r.err = some .multibulkFormatRequired ∧
        r.command = some (payloadSpan c) ∧ r.firstArgument = none ∧
        r.source.buf = bulkHeader c ++ c.map caseMap ++ ([13, 10] ++ tail) ∧
        (r.source.buf = source.buf ↔ ∀ v ∈ c, 'Z'.toUInt8 < v)) ∧
    ∃ r, GetCommand (clientReader (bulk (bytesOf "GET") ++ bytesOf "x")
        (by simp [bytesOf, decimal_of_lt_ten])) = .ok r ∧
      r.err = some .multibulkFormatRequired ∧ r.command = some (payloadSpan (bytesOf "GET")) ∧
      r.source.buf ≠ bulk (bytesOf "GET") ++ bytesOf "x" := by
  obtain ⟨r, h1, h2, h3, -, -, h4⟩ := @GetCommand_error_after_command
    (clientReader (bulk (bytesOf "GET") ++ bytesOf "x") (by simp [bytesOf, decimal_of_lt_ten]))
    (bytesOf "GET") (bytesOf "x") rfl (by decide) (by decide)
  exact ⟨fun _ _ _ => GetCommand_error_after_command, r, h1, h2, h3,
    fun h => absurd (h4.1 h) (by decide)⟩

/-! ## Panics -/

/-- A buffer that begins with `\r` makes `GetCommand` evaluate `contents[1:0]`. -/
theorem GetCommand_panics_of_cr_first {source : Reader} {rest : List UInt8}
    (h : source.buf = 13 :: rest) : GetCommand source = .error (.sliceBounds 1 0) := by
  have hi : IndexByte source.buf 13 = 0 := by rw [h]; simp [IndexByte, List.indexOf?_cons]
  unfold GetCommand
  simp [hi, sliceSpan]

/-- A bulk element followed by `\r` makes `GetCommand` evaluate
`contents[messageLength+1:nextLine]` with `nextLine = messageLength`. -/
theorem GetCommand_panics_of_cr_argument {source : Reader} {c rest : List UInt8}
    (h : source.buf = bulk c ++ 13 :: rest) :
    GetCommand source = .error (.sliceBounds ((bulk c).length + 1) (bulk c).length) := by
  have hlen := source.buf_length_lt
  have hl : (source.lowercase (payloadSpan c)).buf =
      (bulkHeader c ++ c.map caseMap ++ [13, 10]) ++ 13 :: rest := by
    rw [lowercase_payloadSpan h]; simp
  have hlen' : (bulkHeader c ++ c.map caseMap ++ [13, 10]).length = (bulk c).length := by
    simp [bulk_split]
  have hsrc : source.buf.length = (bulk c).length + rest.length + 1 := by
    simp only [h, List.length_append, List.length_cons]; omega
  have hi : IndexByte (13 :: rest) 13 = 0 := by simp [IndexByte, List.indexOf?_cons]
  rw [GetCommand_of_bulk h, if_neg (by simp), GetCommand.argument]
  simp only
  rw [hl, ← hlen', sliceSpan_ok (by simp) le_rfl, Except.ok_bind, Span.read_suffix, hi,
    if_neg (by decide), zero_add, wrap_natCast (by omega), ← Nat.cast_one (R := Int), wrap_natCast_add (by omega),
    sliceSpan_of_lt (by omega)]
  rfl

/-- The buffers `\r` and `$1\r\na\r\n\r`: `GetCommand` panics on both, slicing
`contents[1:0]` and `contents[8:7]`. -/
theorem GetCommand_panics :
    GetCommand (clientReader [13] (by decide)) = .error (.sliceBounds 1 0) ∧
      GetCommand (clientReader (bulk (bytesOf "a") ++ [13])
        (bulk_append_fits (by decide) (by decide))) = .error (.sliceBounds 8 7) := by
  refine ⟨GetCommand_panics_of_cr_first (show _ = [13] from rfl), ?_⟩
  rw [GetCommand_panics_of_cr_argument (show _ = bulk (bytesOf "a") ++ [13] from rfl)]
  simp [bytesOf, decimal_of_lt_ten]

end Rmux
