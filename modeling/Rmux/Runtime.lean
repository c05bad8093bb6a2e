import Mathlib.Data.List.Basic
import Mathlib.Data.String.Basic
import Mathlib.Tactic.Ring

/-!
# The Go runtime the protocol engine runs on

The pieces of Go's semantics that `connection.go` leans on and that a shallow embedding has to
make explicit: `int` is 64 bits wide and wraps around (`wrap`), a slice expression `s[i:j]`
panics unless `0 ≤ i ≤ j ≤ len(s)` (`sliceSpan`), `bytes.IndexByte` answers `-1` for a missing
byte (`IndexByte`), and `error` values are compared by identity (`Error`). A slice that
aliases a buffer is kept as its bounds (`Span`), so that an in-place write through it is a
write to the buffer.
-/

namespace Rmux

/-! ## `int` -/

/-- Go's `int` on a 64-bit target: arithmetic wraps around modulo `2^64`, read back in two's
complement. -/
def wrap (x : Int) : Int := x.bmod (2 ^ 64)

/-- A value that is already an `int` is its own wrap. -/
theorem wrap_of_lt {x : Int} (h₁ : -2 ^ 63 ≤ x) (h₂ : x < 2 ^ 63) : wrap x = x := by
  simp only [wrap, Int.bmod_def, Nat.cast_pow, Nat.cast_ofNat]
  split <;> omega

/-- A value from `2^63` up to below `2^64 + 2^63` wraps down by `2^64`. -/
theorem wrap_of_ge {x : Int} (h₁ : 2 ^ 63 ≤ x) (h₂ : x < 2 ^ 64 + 2 ^ 63) : wrap x = x - 2 ^ 64 := by
  simp only [wrap, Int.bmod_def, Nat.cast_pow, Nat.cast_ofNat]
  split <;> omega

/-- Wrapping an intermediate sum changes nothing modulo `2^64`. -/
@[simp] theorem wrap_add_wrap (x y : Int) : wrap (wrap x + y) = wrap (x + y) :=
  Int.bmod_add_bmod_congr

/-- Wrapping an intermediate product changes nothing modulo `2^64`. -/
@[simp] theorem wrap_mul_wrap (x y : Int) : wrap (wrap x * y) = wrap (x * y) :=
  Int.bmod_mul_bmod

/-- A length below `2^63` is an `int`. -/
theorem wrap_natCast {n : Nat} (h : n < 2 ^ 63) : wrap (n : Int) = n :=
  wrap_of_lt (by omega) (by exact_mod_cast h)

/-- A sum of lengths below `2^63` does not wrap. -/
theorem wrap_natCast_add {a b : Nat} (h : a + b < 2 ^ 63) :
    wrap ((a : Int) + (b : Int)) = ((a + b : Nat) : Int) := by
  rw [← wrap_natCast h]; push_cast; rfl

/-- Every wrapped value is an `int`. -/
theorem wrap_bounds (x : Int) : -2 ^ 63 ≤ wrap x ∧ wrap x < 2 ^ 63 := by
  simp only [wrap, Int.bmod_def, Nat.cast_pow, Nat.cast_ofNat]
  split <;> omega

/-- A sum of two `int`s, the first not negative, that comes out no smaller than the first did not
wrap around. -/
theorem wrap_add_of_le {a n : Int} (h₀ : 0 ≤ a) (ha : a < 2 ^ 63) (hn₁ : -2 ^ 63 ≤ n)
    (hn₂ : n < 2 ^ 63) (h : a ≤ wrap (a + n)) : wrap (a + n) = a + n := by
  simp only [wrap, Int.bmod_def] at *
  split at h <;> split <;> omega

/-! ## Panics and errors -/

/-- A Go run-time panic. -/
inductive Panic where
  /-- `runtime error: slice bounds out of range [i:j]` -/
  | sliceBounds (i j : Int)
  /-- `runtime error: index out of range [i] with length n` -/
  | indexOutOfRange (i : Int) (n : Nat)
  /-- `bufio: tried to rewind past start of buffer` and the other panics of `bufio` -/
  | bufio
  /-- `runtime error: invalid memory address or nil pointer dereference` -/
  | nilPointer
  deriving DecidableEq, Repr

/-- The `error` values that flow through the engine. Go compares them by identity, so each
package-level variable is a constructor of its own; an `errors.New` made at a call site keeps
its text. -/
inductive Error where
  /-- `protocol.ERROR_INVALID_INT` -/
  | invalidInt
  /-- `protocol.ERROR_MULTIBULK_FORMAT_REQUIRED` -/
  | multibulkFormatRequired
  /-- `protocol.ERROR_BAD_BULK_FORMAT` -/
  | badBulkFormat
  /-- `io.EOF` -/
  | eof
  /-- `io.ErrNoProgress` -/
  | noProgress
  /-- `bufio.ErrBufferFull` -/
  | bufferFull
  /-- a `net.Error` whose `Timeout()` is true: a deadline expired -/
  | timeout
  /-- any other transport error of the socket (reset, refused, broken pipe) -/
  | net (code : Nat)
  /-- `errors.New(text)` -/
  | new (text : String)
  deriving DecidableEq, Repr

/-- The text `Error()` returns. -/
def Error.text : Error → String
  | .invalidInt => "Did not receive valid int value"
  | .multibulkFormatRequired => "Multibulk format is required"
  | .badBulkFormat => "Bad bulk format supplied"
  | .eof => "EOF"
  | .noProgress => "multiple Read calls return no data or error"
  | .bufferFull => "bufio: buffer full"
  | .timeout => "i/o timeout"
  | .net _ => "network error"
  | .new text => text

/-! ## Slices -/

/-- A Go slice `s[start:stop]` that aliases the buffer `s`, kept as its bounds. -/
structure Span where
  start : Nat
  stop : Nat
  deriving DecidableEq, Repr

/-- The bytes a span sees in the buffer `s`. -/
def Span.read (p : Span) (s : List UInt8) : List UInt8 := (s.drop p.start).take (p.stop - p.start)

/-- The slice expression `s[i:j]` over a slice of length `len`: the span, or Go's run-time panic
unless `0 ≤ i ≤ j ≤ len`. -/
def sliceSpan (len : Nat) (i j : Int) : Except Panic Span :=
  if 0 ≤ i ∧ i ≤ j ∧ j ≤ len then .ok ⟨i.toNat, j.toNat⟩ else .error (.sliceBounds i j)

theorem sliceSpan_ok {len : Nat} {i j : Nat} (h₁ : i ≤ j) (h₂ : j ≤ len) :
    sliceSpan len i j = .ok ⟨i, j⟩ := by
  simp [sliceSpan, h₁, h₂, Int.natCast_nonneg]

/-- A slice whose end is before its start panics, whatever the slice's length. -/
theorem sliceSpan_of_lt {len : Nat} {i j : Int} (h : j < i) :
    sliceSpan len i j = .error (.sliceBounds i j) :=
  if_neg (by omega)

theorem sliceSpan_eq_ok {len : Nat} {i j : Int} {p : Span} (h : sliceSpan len i j = .ok p) :
    0 ≤ i ∧ i ≤ j ∧ j ≤ len ∧ p = ⟨i.toNat, j.toNat⟩ := by
  unfold sliceSpan at h
  split at h
  · cases h; exact ⟨by omega, by omega, by omega, rfl⟩
  · cases h

@[simp] theorem Span.read_length (p : Span) (s : List UInt8) (h : p.stop ≤ s.length) :
    (p.read s).length = p.stop - p.start := by
  simp [Span.read]; omega

/-- The bytes at positions `[i, i + n)` of `pre ++ (mid ++ post)`, where `pre` has length `i`
and `mid` length `n`, are `mid`. -/
theorem Span.read_append (pre mid post : List UInt8) :
    Span.read ⟨pre.length, pre.length + mid.length⟩ (pre ++ (mid ++ post)) = mid := by
  simp [Span.read, List.drop_left', List.take_left']

/-- The span from the end of a prefix to the end reads what follows the prefix. -/
theorem Span.read_suffix (pre s : List UInt8) :
    Span.read ⟨pre.length, (pre ++ s).length⟩ (pre ++ s) = s := by
  simp [Span.read, List.drop_left']

/-- A span shifted past a prefix reads what it reads after the prefix. -/
theorem Span.read_shift (p : Span) (pre s : List UInt8) :
    Span.read ⟨pre.length + p.start, pre.length + p.stop⟩ (pre ++ s) = p.read s := by
  simp [Span.read, List.drop_append, Nat.add_sub_add_left]

/-- `Except`'s bind at a success. -/
@[simp] theorem Except.ok_bind {ε α β : Type} (a : α) (f : α → Except ε β) :
    (Except.ok a).bind f = f a := rfl

/-- `Except`'s bind at a failure. -/
@[simp] theorem Except.error_bind {ε α β : Type} (e : ε) (f : α → Except ε β) :
    (Except.error e).bind f = .error e := rfl

/-- A bind succeeds exactly when its first step does and the rest succeeds from there. -/
theorem Except.bind_eq_ok {ε α β : Type} {x : Except ε α} {f : α → Except ε β} {b : β} :
    x.bind f = .ok b ↔ ∃ a, x = .ok a ∧ f a = .ok b := by
  cases x <;> simp

/-- A map succeeds exactly when what it maps does. -/
theorem Except.map_eq_ok {ε α β : Type} {x : Except ε α} {f : α → β} {b : β} :
    x.map f = .ok b ↔ ∃ a, x = .ok a ∧ f a = b := by
  cases x <;> simp [Except.map]

/-! ## `bytes.IndexByte` -/

/-- `bytes.IndexByte(s, c)`: the index of the first `c` in `s`, or `-1`. -/
def IndexByte (s : List UInt8) (c : UInt8) : Int :=
  match s.indexOf? c with
  | some i => i
  | none => -1

theorem indexOf?_append {pre post : List UInt8} {c : UInt8} (h : c ∉ pre) :
    (pre ++ c :: post).indexOf? c = some pre.length := by
  induction pre with
  | nil => simp [List.indexOf?_cons]
  | cons b pre ih =>
    simp only [List.mem_cons, not_or] at h
    simp [List.indexOf?_cons, Ne.symm h.1, ih h.2]

theorem indexOf?_of_not_mem {s : List UInt8} {c : UInt8} (h : c ∉ s) : s.indexOf? c = none := by
  induction s with
  | nil => rfl
  | cons b s ih =>
    simp only [List.mem_cons, not_or] at h
    simp [List.indexOf?_cons, Ne.symm h.1, ih h.2]

/-- In `pre ++ c :: post` with no `c` in `pre`, the first `c` is at `len(pre)`. -/
theorem IndexByte_append {pre post : List UInt8} {c : UInt8} (h : c ∉ pre) :
    IndexByte (pre ++ c :: post) c = pre.length := by
  simp [IndexByte, indexOf?_append h]

/-- A byte is found at the length of the part before its first occurrence, or not at all. -/
theorem indexOf?_cases (s : List UInt8) (c : UInt8) :
    (s.indexOf? c = none ∧ c ∉ s) ∨
      ∃ pre post, s = pre ++ c :: post ∧ c ∉ pre ∧ s.indexOf? c = some pre.length := by
  by_cases hs : c ∈ s
  · right
    induction s with
    | nil => cases hs
    | cons b s ih =>
      by_cases hb : b = c
      · subst hb; exact ⟨[], s, rfl, by simp, by simp [List.indexOf?_cons]⟩
      · obtain ⟨pre, post, rfl, h2, -⟩ := ih (by simpa [Ne.symm hb] using hs)
        have hpre : c ∉ b :: pre := by simp [Ne.symm hb, h2]
        exact ⟨b :: pre, post, rfl, hpre, indexOf?_append hpre⟩
  · exact .inl ⟨indexOf?_of_not_mem hs, hs⟩

/-- `IndexByte` answers `-1` on a slice without `c`, and otherwise the length of the part before
the first `c`. -/
theorem IndexByte_cases (s : List UInt8) (c : UInt8) :
    (IndexByte s c = -1 ∧ c ∉ s) ∨
      ∃ pre post, s = pre ++ c :: post ∧ c ∉ pre ∧ IndexByte s c = pre.length := by
  rcases indexOf?_cases s c with ⟨h1, h2⟩ | ⟨pre, post, h1, h2, h3⟩
  · exact .inl ⟨by simp [IndexByte, h1], h2⟩
  · exact .inr ⟨pre, post, h1, h2, by simp [IndexByte, h3]⟩

/-- The part before the first occurrence of a byte is determined by the list. -/
theorem append_cons_inj_of_not_mem {c : UInt8} {p₁ p₂ r₁ r₂ : List UInt8} (h₁ : c ∉ p₁)
    (h₂ : c ∉ p₂) (h : p₁ ++ c :: r₁ = p₂ ++ c :: r₂) : p₁ = p₂ ∧ r₁ = r₂ := by
  induction p₁ generalizing p₂ with
  | nil =>
    cases p₂ with
    | nil => simpa using h
    | cons b p₂ =>
      simp only [List.nil_append, List.cons_append, List.cons.injEq] at h
      exact absurd (List.mem_cons.2 (.inl h.1)) h₂
  | cons b p₁ ih =>
    cases p₂ with
    | nil =>
      simp only [List.nil_append, List.cons_append, List.cons.injEq] at h
      exact absurd (List.mem_cons.2 (.inl h.1.symm)) h₁
    | cons b' p₂ =>
      simp only [List.cons_append, List.cons.injEq] at h
      obtain ⟨e₁, e₂⟩ := ih (List.not_mem_of_not_mem_cons h₁) (List.not_mem_of_not_mem_cons h₂) h.2
      exact ⟨by rw [h.1, e₁], e₂⟩

/-- A prefix without the byte `c` of a list whose first `c` ends `pre` is a prefix of `pre`. -/
theorem prefix_of_not_mem {c : UInt8} {l₁ l₂ pre rest : List UInt8} (h₁ : c ∉ l₁)
    (h : l₁ ++ l₂ = pre ++ c :: rest) : ∃ m, pre = l₁ ++ m := by
  rcases List.append_eq_append_iff.1 h with ⟨a', rfl, -⟩ | ⟨c', rfl, h'⟩
  · exact ⟨a', rfl⟩
  · cases c' with
    | nil => exact ⟨[], by simp⟩
    | cons x c' =>
      obtain ⟨rfl, -⟩ := List.cons.inj h'
      exact absurd (List.mem_append_right _ (.head _)) h₁

end Rmux
