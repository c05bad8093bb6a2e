import Rmux.Runtime

/-!
# Wire constants and `ParseInt`

The byte strings of the protocol package that the modelled functions read, the set of unsafe
commands a router refuses, and `ParseInt`, the decimal reader behind every length field the engine
parses. `ParseInt_of_digits` is its specification: on a run of ASCII digits it answers the
decimal value wrapped into an `int`, and on anything else `ERROR_INVALID_INT`
(`ParseInt_error_iff`). The wrap is real: `ParseInt_wraps` reads a 19-digit length as a
negative one.
-/

namespace Rmux

/-- The bytes of an ASCII string literal. -/
def bytesOf (s : String) : List UInt8 := s.toList.map Char.toUInt8

/-! ## Constants of `package protocol` -/

/-- `BUFFER_SIZE`, the length of `REFUSE_HEAP`. Reference: `connection.go:270`. -/
def BUFFER_SIZE : Nat := 4096

/-- `SHORT_PING_COMMAND`. Reference: `connection.go:290`. -/
def SHORT_PING_COMMAND : List UInt8 := bytesOf "PING"

/-- `OK_RESPONSE`. Reference: `connection.go:295`. -/
def OK_RESPONSE : List UInt8 := bytesOf "+OK"

/-- `PONG_RESPONSE`. Reference: `connection.go:296`. -/
def PONG_RESPONSE : List UInt8 := bytesOf "+PONG"

/-- `ERR_RESPONSE`, the null bulk header. Reference: `connection.go:297`. -/
def ERR_RESPONSE : List UInt8 := bytesOf "$-1"

/-- `REDIS_NEWLINE`. Reference: `connection.go:300`. -/
def REDIS_NEWLINE : List UInt8 := bytesOf "\r\n"

/-- The keys of `UNSAFE_FUNCTIONS`, all mapped to `true`. Reference: `connection.go:304`. -/
def UNSAFE_FUNCTIONS : List (List UInt8) :=
  ["auth", "bgrewriteaof", "bgsave", "client", "config", "dbsize", "debug", "flushall",
    "flushdb", "lastsave", "move", "monitor", "migrate", "object", "punsubscribe", "psubscribe",
    "pubsub", "randomkey", "save", "shutdown", "slaveof", "slowlog", "sync", "time",
    "unsubscribe"].map bytesOf

/-! ## `ParseInt` -/

/-- The loop of `ParseInt` over the bytes not yet read, from the length parsed so far. Each byte
is reduced by `'0'` in `uint8` arithmetic, so a byte below `'0'` wraps past `9`. -/
def ParseInt.loop (length : Int) : List UInt8 → Int × Option Error
  | [] => (length, none)
  | b :: rest =>
    let b := b - '0'.toUInt8
    if b > 9 then (length, some .invalidInt)
    else ParseInt.loop (wrap (wrap (length * 10) + b.toNat)) rest

/-- `ParseInt(response)`: the named results `(length, err)`. Reference: `connection.go:371`. -/
def ParseInt (response : List UInt8) : Int × Option Error := ParseInt.loop 0 response

/-- An ASCII digit `'0'..'9'`. -/
def IsDigit (b : UInt8) : Prop := 48 ≤ b.toNat ∧ b.toNat ≤ 57

instance : DecidablePred IsDigit := fun b => inferInstanceAs (Decidable (48 ≤ b.toNat ∧ b.toNat ≤ 57))

/-- The `uint8` test of `ParseInt` is the digit test. -/
theorem nine_lt_sub_zero_iff (b : UInt8) : 9 < b - '0'.toUInt8 ↔ ¬ IsDigit b := by
  show 9 < (b - '0'.toUInt8).toNat ↔ _
  have : ('0'.toUInt8).toNat = 48 := rfl
  have := b.toNat_lt_size
  rw [UInt8.toNat_sub]; simp only [UInt8.size, IsDigit] at *; omega

/-- The digit a digit byte stands for. -/
theorem toNat_sub_zero {b : UInt8} (h : IsDigit b) : (b - '0'.toUInt8).toNat = b.toNat - 48 := by
  have : ('0'.toUInt8).toNat = 48 := rfl
  rw [UInt8.toNat_sub]; simp only [UInt8.size, IsDigit] at *; omega

/-- One step of the loop over a digit. -/
theorem ParseInt.loop_digit {b : UInt8} (hb : IsDigit b) (length : Int) (s : List UInt8) :
    ParseInt.loop length (b :: s) = ParseInt.loop (wrap (length * 10 + (b.toNat - 48 : Nat))) s := by
  have : ¬ 9 < b - '0'.toUInt8 := (nine_lt_sub_zero_iff b).not.2 (not_not.2 hb)
  simp only [ParseInt.loop, gt_iff_lt, this, if_false, toNat_sub_zero hb, wrap_add_wrap]

/-- The decimal value of a run of digits, from the value `acc` of the digits before it. -/
def decimalValue (acc : Nat) (s : List UInt8) : Nat := s.foldl (fun acc b => acc * 10 + (b.toNat - 48)) acc

@[simp] theorem decimalValue_nil (acc : Nat) : decimalValue acc [] = acc := rfl

theorem decimalValue_cons (acc : Nat) (b : UInt8) (s : List UInt8) :
    decimalValue acc (b :: s) = decimalValue (acc * 10 + (b.toNat - 48)) s := by
  simp only [decimalValue, List.foldl_cons]

/-- On digits, the loop computes the decimal value modulo `2^64`. -/
theorem ParseInt.loop_of_digits (acc : Nat) {s : List UInt8} (h : ∀ b ∈ s, IsDigit b) :
    ParseInt.loop (wrap acc) s = (wrap (decimalValue acc s), none) := by
  induction s generalizing acc with
  | nil => rfl
  | cons b s ih =>
    have hstep : wrap (wrap acc * 10 + (b.toNat - 48 : Nat)) = wrap (acc * 10 + (b.toNat - 48) : Nat) := by
      rw [← wrap_add_wrap, wrap_mul_wrap, wrap_add_wrap]; push_cast; rfl
    rw [ParseInt.loop_digit (h b (.head _)), hstep, ih _ fun x hx => h x (.tail _ hx),
      decimalValue_cons]

/-- `ParseInt` on a run of ASCII digits: no error, and the decimal value wrapped into an `int`. -/
theorem ParseInt_of_digits {s : List UInt8} (h : ∀ b ∈ s, IsDigit b) :
    ParseInt s = (wrap (decimalValue 0 s), none) := by
  simpa using ParseInt.loop_of_digits 0 h

/-- The loop stops with `ERROR_INVALID_INT` at the first byte that is not a digit. -/
theorem ParseInt.loop_error_iff (length : Int) (s : List UInt8) :
    (ParseInt.loop length s).2 = some .invalidInt ↔ ∃ b ∈ s, ¬ IsDigit b := by
  induction s generalizing length with
  | nil => simp [ParseInt.loop]
  | cons b s ih =>
    by_cases hb : IsDigit b
    · simp [ParseInt.loop_digit hb, hb, ih]
    · simp [ParseInt.loop, nine_lt_sub_zero_iff, hb]

/-- `ParseInt` fails exactly on a byte string with a byte that is not an ASCII digit, and then
with `ERROR_INVALID_INT`. -/
theorem ParseInt_error_iff (s : List UInt8) :
    (ParseInt s).2 = some .invalidInt ↔ ∃ b ∈ s, ¬ IsDigit b :=
  ParseInt.loop_error_iff 0 s

/-- Below `2^63` the decimal value comes back unwrapped. -/
theorem ParseInt_of_digits_lt {s : List UInt8} (h : ∀ b ∈ s, IsDigit b)
    (hlt : decimalValue 0 s < 2 ^ 63) : ParseInt s = ((decimalValue 0 s : Int), none) := by
  rw [ParseInt_of_digits h, wrap_of_lt (by omega) (by exact_mod_cast hlt)]

/-- `ParseInt` answers no error exactly on a run of digits, and then their value wrapped into an
`int`. -/
theorem ParseInt_eq_none_iff {s : List UInt8} {n : Int} :
    ParseInt s = (n, none) ↔ (∀ b ∈ s, IsDigit b) ∧ n = wrap (decimalValue 0 s) := by
  constructor
  · intro h
    have hd : ∀ b ∈ s, IsDigit b := fun b hb => by
      by_contra hn
      have := (ParseInt_error_iff s).2 ⟨b, hb, hn⟩
      simp [h] at this
    rw [ParseInt_of_digits hd] at h
    exact ⟨hd, (Prod.mk.inj h).1.symm⟩
  · rintro ⟨hd, hn⟩
    rw [hn, ParseInt_of_digits hd]

theorem ParseInt.loop_digit_wrap {b : UInt8} (hb : IsDigit b) (acc : Nat) (s : List UInt8) :
    ParseInt.loop (wrap acc) (b :: s) =
      ParseInt.loop (wrap (acc * 10 + (b.toNat - 48) : Nat)) s := by
  rw [ParseInt.loop_digit hb, ← wrap_add_wrap, wrap_mul_wrap, wrap_add_wrap]; push_cast; rfl

/-- The loop from a wrapped value `acc`, on any bytes: the value of the digits before the first
byte that is not one, and an error exactly when there is such a byte. -/
theorem ParseInt.loop_eq (acc : Nat) (s : List UInt8) :
    ParseInt.loop (wrap acc) s =
      (wrap (decimalValue acc (s.takeWhile fun b => decide (IsDigit b))),
        if ∀ b ∈ s, IsDigit b then none else some .invalidInt) := by
  induction s generalizing acc with
  | nil => simp [ParseInt.loop]
  | cons b s ih =>
    by_cases hb : IsDigit b
    · rw [ParseInt.loop_digit_wrap hb, ih]
      simp [hb, List.takeWhile_cons, decimalValue_cons]
    · simp [ParseInt.loop, nine_lt_sub_zero_iff, hb, List.takeWhile_cons]

/-- `ParseInt` on any bytes: the value, wrapped into an `int`, of the digits before the first byte
that is not one, and `ERROR_INVALID_INT` exactly when there is such a byte. -/
theorem ParseInt_eq_takeWhile (s : List UInt8) :
    ParseInt s = (wrap (decimalValue 0 (s.takeWhile fun b => decide (IsDigit b))),
      if ∀ b ∈ s, IsDigit b then none else some .invalidInt) := by
  simpa using ParseInt.loop_eq 0 s

/-! ## Decimal lengths -/

/-- The decimal digits of `n`, most significant first, as ASCII bytes: how a sender writes a
length field. -/
def decimal (n : Nat) : List UInt8 :=
  (if n < 10 then [] else decimal (n / 10)) ++ [(n % 10 + 48).toUInt8]
termination_by n
decreasing_by omega

theorem decimalValue_append (acc : Nat) (l₁ l₂ : List UInt8) :
    decimalValue acc (l₁ ++ l₂) = decimalValue (decimalValue acc l₁) l₂ := by
  simp only [decimalValue, List.foldl_append]

theorem toNat_digit (n : Nat) : ((n % 10 + 48).toUInt8).toNat = n % 10 + 48 :=
  UInt8.toNat_ofNat_of_lt (by unfold UInt8.size; omega)

theorem decimal_digits (n : Nat) : ∀ b ∈ decimal n, IsDigit b := by
  induction n using Nat.strong_induction_on with
  | _ n ih =>
  rw [decimal]
  intro b hb
  rcases List.mem_append.1 hb with hb | hb
  · split at hb
    · cases hb
    · exact ih _ (by omega) b hb
  · rw [List.mem_singleton.1 hb, IsDigit, toNat_digit]; omega

theorem decimalValue_decimal (n : Nat) : decimalValue 0 (decimal n) = n := by
  induction n using Nat.strong_induction_on with
  | _ n ih =>
  rw [decimal, decimalValue_append]
  split
  · simp only [decimalValue_cons, toNat_digit, decimalValue_nil]; omega
  · simp only [ih _ (by omega : n / 10 < n), decimalValue_cons, toNat_digit, decimalValue_nil]
    omega

/-- A length below ten is one digit. -/
theorem decimal_of_lt_ten {n : Nat} (h : n < 10) : decimal n = [(n + 48).toUInt8] := by
  rw [decimal, if_pos h, Nat.mod_eq_of_lt h]; rfl

theorem decimal_ne_nil (n : Nat) : decimal n ≠ [] := by
  rw [decimal]; simp

/-- No byte of a length field is a carriage return. -/
theorem cr_not_mem_decimal (n : Nat) : 13 ∉ decimal n := fun h =>
  absurd (decimal_digits n 13 h) (by decide)

/-- A length field never starts with a minus sign. -/
theorem decimal_head_ne_minus {n : Nat} {d : UInt8} {ds : List UInt8} (h : decimal n = d :: ds) :
    d ≠ 45 := by
  rintro rfl
  exact absurd (decimal_digits n 45 (by rw [h]; exact .head _)) (by decide)

/-- `ParseInt` reads back every length a sender writes below `2^63`. -/
theorem ParseInt_decimal {n : Nat} (h : n < 2 ^ 63) : ParseInt (decimal n) = ((n : Int), none) := by
  rw [ParseInt_of_digits_lt (decimal_digits n) (by rwa [decimalValue_decimal]),
    decimalValue_decimal]

/-- The bulk encoding `$<len>\r\n<x>\r\n` of a byte string. -/
def bulk (x : List UInt8) : List UInt8 :=
  '$'.toUInt8 :: decimal x.length ++ REDIS_NEWLINE ++ x ++ REDIS_NEWLINE

@[simp] theorem REDIS_NEWLINE_eq : REDIS_NEWLINE = [13, 10] := rfl

@[simp] theorem dollar_eq : '$'.toUInt8 = 36 := rfl

@[simp] theorem ERR_RESPONSE_eq : ERR_RESPONSE = [36, 45, 49] := rfl

@[simp] theorem cr_eq : '\r'.toUInt8 = 13 := rfl

@[simp] theorem lf_eq : '\n'.toUInt8 = 10 := rfl

@[simp] theorem star_eq : '*'.toUInt8 = 42 := rfl

@[simp] theorem colon_eq : ':'.toUInt8 = 58 := rfl

@[simp] theorem minus_eq : '-'.toUInt8 = 45 := rfl

/-- A bulk header as a sender writes it is not the null bulk's: no length field holds a `-`. -/
theorem bulk_header_ne_ERR_RESPONSE (n : Nat) : '$'.toUInt8 :: decimal n ≠ ERR_RESPONSE := by
  intro h
  have : (45 : UInt8) ∈ decimal n := by simp at h; simp [h]
  exact absurd (decimal_digits n 45 this) (by decide)

theorem bulk_eq (x : List UInt8) :
    bulk x = (36 :: decimal x.length) ++ 13 :: 10 :: (x ++ [13, 10]) := by
  simp [bulk]

@[simp] theorem length_bulk (x : List UInt8) :
    (bulk x).length = (decimal x.length).length + x.length + 5 := by
  simp [bulk]; omega

/-- `ParseInt("9223372036854775808")`, the digits of `2^63`, answers `-2^63` and no error. -/
theorem ParseInt_wraps :
    ParseInt (bytesOf "9223372036854775808") = (-9223372036854775808, none) := by
  rw [ParseInt_of_digits (by decide)]
  decide

end Rmux
