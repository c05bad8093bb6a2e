import Rmux.Protocol.Basic

/-!
# Replies of the backend

The replies a Redis backend sends, as a grammar (`Reply`), and their bytes on the wire
(`Reply.encode`). The grammar is what the forwarding and discarding routines of the engine are
specified against: `CopyServerResponse` should forward a reply's bytes unchanged and
`IgnoreMultiBulkMessage` should skip exactly a multibulk's bytes.

The code handles a part of the grammar, which the predicates below name:
`Reply.Framed` (each line fits in the reader's buffer and each announced length is an `int`),
`Reply.IsBulk` (the elements `copyBulkMessage` takes) and `Reply.IsSkipped` (the elements
`IgnoreMultiBulkMessage` lets through or hands to `ignoreBulkMessage`).
-/

namespace Rmux

/-- A reply of the backend: a status (`+`), error (`-`) or integer (`:`) line with its text, a
bulk string with its payload, the null bulk `$-1`, the null multibulk `*-1`, or a multibulk of
replies. -/
inductive Reply where
  | status (text : List UInt8)
  | error (text : List UInt8)
  | integer (text : List UInt8)
  | bulk (payload : List UInt8)
  | nullBulk
  | nullArray
  | array (elems : List Reply)
  deriving Repr

/-- The first line of a reply, without its `\r\n`. -/
def Reply.header : Reply → List UInt8
  | .status t => '+'.toUInt8 :: t
  | .error t => '-'.toUInt8 :: t
  | .integer t => ':'.toUInt8 :: t
  | .bulk x => '$'.toUInt8 :: decimal x.length
  | .nullBulk => ERR_RESPONSE
  | .nullArray => bytesOf "*-1"
  | .array es => '*'.toUInt8 :: decimal es.length

mutual

/-- The bytes of a reply on the wire. -/
def Reply.encode : Reply → List UInt8
  | .bulk x => Rmux.bulk x
  | .array es => (Reply.array es).header ++ REDIS_NEWLINE ++ Reply.encodeAll es
  | .status t => (Reply.status t).header ++ REDIS_NEWLINE
  | .error t => (Reply.error t).header ++ REDIS_NEWLINE
  | .integer t => (Reply.integer t).header ++ REDIS_NEWLINE
  | .nullBulk => Reply.nullBulk.header ++ REDIS_NEWLINE
  | .nullArray => Reply.nullArray.header ++ REDIS_NEWLINE

/-- The bytes of replies sent one after another. -/
def Reply.encodeAll : List Reply → List UInt8
  | [] => []
  | r :: rs => r.encode ++ Reply.encodeAll rs

end

@[simp] theorem Reply.encodeAll_nil : Reply.encodeAll [] = [] := by simp [Reply.encodeAll]

@[simp] theorem Reply.encodeAll_cons (r : Reply) (rs : List Reply) :
    Reply.encodeAll (r :: rs) = r.encode ++ Reply.encodeAll rs := by simp [Reply.encodeAll]

/-- Every reply starts with its first line and `\r\n`. -/
theorem Reply.encode_eq (r : Reply) : ∃ body, r.encode = r.header ++ 13 :: 10 :: body := by
  cases r <;> simp [Reply.encode, Reply.header, bulk_eq]

mutual

/-- Every reply ends with `\r\n`. -/
theorem Reply.crlf_suffix_encode : ∀ r : Reply, [13, 10] <:+ r.encode
  | .array [] => by
    rw [Reply.encode, Reply.encodeAll_nil, List.append_nil, REDIS_NEWLINE_eq]
    exact List.suffix_append _ _
  | .array (e :: es) => by
    rw [Reply.encode]
    exact (Reply.crlf_suffix_encodeAll (e :: es) (List.cons_ne_nil _ _)).trans
      (List.suffix_append _ _)
  | .bulk x => by
    rw [Reply.encode, Rmux.bulk, REDIS_NEWLINE_eq]
    exact List.suffix_append _ _
  | .status _ | .error _ | .integer _ | .nullBulk | .nullArray => by
    rw [Reply.encode, REDIS_NEWLINE_eq]
    exact List.suffix_append _ _

/-- Replies sent one after another end with `\r\n`, unless there are none. -/
theorem Reply.crlf_suffix_encodeAll : ∀ rs : List Reply, rs ≠ [] → [13, 10] <:+ Reply.encodeAll rs
  | [r], _ => by simpa using Reply.crlf_suffix_encode r
  | r :: r' :: rs, _ => by
    rw [Reply.encodeAll_cons]
    exact (Reply.crlf_suffix_encodeAll (r' :: rs) (List.cons_ne_nil _ _)).trans
      (List.suffix_append _ _)

end

/-! ## The part of the grammar the code handles -/

/-- A line that `ReadLine` returns whole from a reader of `size` bytes: no `\n` in it, and room in
the buffer for it and its `\r\n`. -/
def LineFits (size : Nat) (line : List UInt8) : Prop := 10 ∉ line ∧ line.length + 2 ≤ size

instance (size : Nat) (line : List UInt8) : Decidable (LineFits size line) :=
  inferInstanceAs (Decidable (_ ∧ _))

/-- The first line of a reply fits in a reader of `size` bytes, and the length a bulk string or a
multibulk announces is an `int`. -/
def Reply.Framed (size : Nat) : Reply → Prop
  | .bulk x => x.length < 2 ^ 63 ∧ LineFits size (Reply.bulk x).header
  | .array es => es.length < 2 ^ 63 ∧ LineFits size (Reply.array es).header
  | r => LineFits size r.header

instance (size : Nat) : DecidablePred (Reply.Framed size)
  | .bulk _ | .array _ => inferInstanceAs (Decidable (_ ∧ _))
  | .status _ | .error _ | .integer _ => inferInstanceAs (Decidable (LineFits _ _))
  | .nullBulk | .nullArray => inferInstanceAs (Decidable (LineFits _ _))

/-- The elements `copyBulkMessage` takes: bulk strings and the null bulk. -/
def Reply.IsBulk : Reply → Prop
  | .bulk _ | .nullBulk => True
  | _ => False

instance : DecidablePred Reply.IsBulk
  | .bulk _ | .nullBulk => isTrue trivial
  | .status _ | .error _ | .integer _ | .array _ | .nullArray => isFalse id

/-- The elements `IgnoreMultiBulkMessage` skips: integer lines, bulk strings and the null bulk. -/
def Reply.IsSkipped : Reply → Prop
  | .integer _ | .bulk _ | .nullBulk => True
  | _ => False

instance : DecidablePred Reply.IsSkipped
  | .integer _ | .bulk _ | .nullBulk => isTrue trivial
  | .status _ | .error _ | .array _ | .nullArray => isFalse id

/-- Every first line starts with its type byte, and the elements the two multibulk loops take are
told apart by it. -/
theorem Reply.header_cons (r : Reply) : ∃ c t, r.header = c :: t ∧
    (r.IsBulk ↔ c = '$'.toUInt8) ∧ (r.IsSkipped ↔ c = '$'.toUInt8 ∨ c = ':'.toUInt8) := by
  cases r <;> exact ⟨_, _, rfl, by simp only [Reply.IsBulk, Reply.IsSkipped]; decide⟩

/-- The replies `CopyServerResponse` forwards whole from a reader of `size` bytes: framed, a status,
error or integer line with some text after its type byte, and a multibulk only of framed bulk
strings and null bulks. -/
def Reply.Forwarded (size : Nat) (r : Reply) : Prop :=
  r.Framed size ∧ match r with
    | .status t | .error t | .integer t => t ≠ []
    | .array es => ∀ e ∈ es, e.IsBulk ∧ e.Framed size
    | _ => True

/-- The bytes a discard of a reply reads past its first line: a bulk string's payload. -/
def Reply.payload : Reply → List UInt8
  | .bulk x => x
  | _ => []

end Rmux
