import Rmux.Protocol.GetCommand

/-!
# The requests `GetCommand` accepts, and the buffers it panics on

`GetCommand` reads a request's first two elements out of the buffer, but it checks less than the
bulk format it is written for: it skips the first byte of each element, reads the length field
up to the first `\r`, skips the byte after it, and reads the two bytes after the payload only
through the test on the buffer's length. `Element` is what it accepts as one element, and
`Request` the buffers it reads with no error: an element, then either exactly two bytes, or two
bytes and a second element, the first argument.

`GetCommand_ok_iff` says that these are all of them: `GetCommand` answers a command and no error
exactly on a `Request`, with the command and the first argument at the payloads' spans.
`GetCommand_panics_iff` says where it panics instead: exactly at a header that begins with `\r`,
or whose length field, wrapped into an `int`, sends the payload's slice out of bounds
(`HeaderPanics`), first or second. Both have one guard, that the buffer is at least two bytes
short of `2^63`: beyond it the test on the buffer's length wraps around, and an element whose
payload ends the buffer passes it.

`GetCommand_reread`: since the case mapping is written back into the buffer it only peeked at, a
second `GetCommand` on the same reader reads the same request and maps the command again, which
changes the buffer a second time exactly when the command holds a byte up to `':'`.

The proofs rest on a completeness lemma for each half of `GetCommand` (`GetCommand_of_element`,
`GetCommand.argument_of_element`), a panic lemma for each (`GetCommand_error_of_headerPanics`,
`GetCommand.argument_error_of_headerPanics`), and an inversion for each (`header_of_GetCommand`,
`header_of_argument`): a half that gives no error result panics at its header or reads an
element. The arithmetic of the test and the slice after it is `slicePanics_iff` and
`payload_fits`.
-/

namespace Rmux

/-! ## Spans -/

/-- The bytes from `m` on. -/
theorem Span.read_from {B : List UInt8} {m : Nat} : Span.read ⟨m, B.length⟩ B = B.drop m := by
  simp [Span.read]

/-- A span inside the part of `B` from `m` on. -/
theorem Span.read_drop {B : List UInt8} {m : Nat} (hm : m ≤ B.length) (i j : Nat) :
    Span.read ⟨m + i, m + j⟩ B = Span.read ⟨i, j⟩ (B.drop m) := by
  conv_lhs => rw [← List.take_append_drop m B]
  have := Span.read_shift ⟨i, j⟩ (B.take m) (B.drop m)
  rwa [List.length_take_of_le hm] at this

/-! ## Elements -/

/-- An element as `GetCommand` reads one at the start of `B`: a first byte other than `\r`, the
digits `ds` up to the first `\r`, one more byte, then the payload `c`, as long as the digits'
value once wrapped into an `int`, and `rest`, at least two bytes. -/
def Element (B ds c rest : List UInt8) : Prop :=
  ∃ s z, B = s :: ds ++ 13 :: z :: (c ++ rest) ∧ s ≠ 13 ∧ (∀ d ∈ ds, IsDigit d) ∧
    wrap (decimalValue 0 ds) = c.length ∧ 2 ≤ rest.length

/-- The payload's span in an element that starts at `p`. -/
def Element.span (p : Nat) (ds c : List UInt8) : Span :=
  ⟨p + ds.length + 3, p + ds.length + 3 + c.length⟩

theorem cr_not_mem_of_digits {ds : List UInt8} (hd : ∀ d ∈ ds, IsDigit d) : 13 ∉ ds :=
  fun h => absurd (hd 13 h) (by decide)

/-- An element around the first `\r` of `E`: a header of at least one byte before it, digits
after the header's first byte, and room for the payload and two more bytes after it. -/
theorem Element.of_cr {E pre post : List UInt8} {n : Nat} (hE : E = pre ++ 13 :: post)
    (hpre : 13 ∉ pre) (hp : 1 ≤ pre.length) (hd : ∀ d ∈ pre.tail, IsDigit d)
    (hv : wrap (decimalValue 0 pre.tail) = n) (hl : n + 3 ≤ post.length) :
    Element E pre.tail (post.tail.take n) (post.tail.drop n) := by
  obtain ⟨s, ds, rfl⟩ := List.exists_cons_of_length_pos hp
  obtain ⟨z, post, rfl⟩ := List.exists_cons_of_length_pos (show 0 < post.length by omega)
  simp only [List.tail_cons, List.length_cons] at hd hv hl ⊢
  refine ⟨s, z, by simp [hE], fun h => hpre (h ▸ List.mem_cons_self _ _), hd, ?_, ?_⟩
  · rw [List.length_take, hv]; omega
  · rw [List.length_drop]; omega

/-- What follows an element. -/
theorem Element.drop_eq {B ds c rest : List UInt8} (h : Element B ds c rest) :
    B.drop (ds.length + c.length + 3) = rest := by
  obtain ⟨s, z, rfl, -⟩ := h
  rw [show ds.length + c.length + 3 = (s :: ds ++ [13, z] ++ c).length by simp; omega]
  simp

/-- An element and the two bytes after it fit in the buffer. -/
theorem Element.length_le {B ds c rest : List UInt8} (h : Element B ds c rest) :
    ds.length + c.length + 5 ≤ B.length := by
  obtain ⟨s, z, rfl, -, -, -, hr⟩ := h
  simp; omega

/-! ## A header

Both halves of `GetCommand` read a header the same way: the first `\r` from the header's start,
then the length field between the header's first byte and that `\r`. -/

/-- What both halves of `GetCommand` compute at a header at `m` of `B` (a first byte, the bytes
`ds` up to the first `\r`, then `post`): where the `\r` is, the length field's slice, and what it
reads. -/
structure Header (B : List UInt8) (m : Nat) (ds post : List UInt8) : Prop where
  index : IndexByte (B.drop m) 13 = ((ds.length + 1 : Nat) : Int)
  length : B.length = m + (ds.length + post.length + 2)
  field : sliceSpan B.length ((m + 1 : Nat) : Int) ((ds.length + 1 + m : Nat) : Int) =
    .ok ⟨m + 1, ds.length + 1 + m⟩
  read : Span.read ⟨m + 1, ds.length + 1 + m⟩ B = ds

theorem Header.of_drop {B ds post : List UInt8} {m : Nat} {s : UInt8}
    (hE : B.drop m = s :: ds ++ 13 :: post) (hs : s ≠ 13) (hds : 13 ∉ ds) : Header B m ds post := by
  have hl : B.length = m + (ds.length + post.length + 2) := by
    have := congrArg List.length hE
    simp only [List.length_drop, List.cons_append, List.length_cons, List.length_append] at this
    omega
  refine ⟨?_, hl, sliceSpan_ok (by omega) (by omega), ?_⟩
  · rw [hE, List.cons_append, ← List.cons_append, IndexByte_append (by simp [hs.symm, hds])]
    simp
  · rw [show (⟨m + 1, ds.length + 1 + m⟩ : Span) = ⟨m + 1, m + (ds.length + 1)⟩ by simp; omega,
      Span.read_drop (by omega), hE]
    simp [Span.read]

/-! ## Completeness: an element is read -/

/-- `GetCommand` on a buffer that starts with an element. -/
theorem GetCommand_of_element {source : Reader} {ds c rest : List UInt8}
    (h : Element source.buf ds c rest) :
    GetCommand source =
      if rest.length = 2 then
        .ok ⟨some (Element.span 0 ds c), none, none, source.lowercase (Element.span 0 ds c)⟩
      else GetCommand.argument (source.lowercase (Element.span 0 ds c)) (Element.span 0 ds c)
        ((ds.length + c.length + 5 : Nat) : Int) := by
  obtain ⟨s, z, hb, hs, hd, hv, hr⟩ := h
  have hh : Header source.buf 0 ds (z :: (c ++ rest)) := .of_drop hb hs (cr_not_mem_of_digits hd)
  have hlen := source.buf_length_lt
  have hl : source.buf.length = ds.length + c.length + rest.length + 3 := by
    simp only [hh.length, List.length_cons, List.length_append]; omega
  have hp : ParseInt ds = ((c.length : Int), none) := ParseInt_eq_none_iff.2 ⟨hd, hv.symm⟩
  have hne : ((ds.length + 1 : Nat) : Int) ≠ -1 := by omega
  have hw₁ : wrap (((ds.length + 1 : Nat) : Int) + 2) = ((ds.length + 1 + 2 : Nat) : Int) :=
    wrap_natCast_add (b := 2) (by omega)
  have hw₂ : wrap (((ds.length + 1 + 2 : Nat) : Int) + (c.length : Int)) =
      ((ds.length + 1 + 2 + c.length : Nat) : Int) := wrap_natCast_add (by omega)
  have hw₃ : wrap (((ds.length + 1 + 2 + c.length : Nat) : Int) + 2) =
      ((ds.length + 1 + 2 + c.length + 2 : Nat) : Int) := wrap_natCast_add (b := 2) (by omega)
  have hcmd : sliceSpan source.buf.length ((ds.length + 1 + 2 : Nat) : Int)
      ((ds.length + 1 + 2 + c.length : Nat) : Int) = .ok (Element.span 0 ds c) := by
    rw [sliceSpan_ok (by omega) (by omega)]; simp [Element.span]
  have hi : IndexByte source.buf 13 = _ := hh.index
  have hf : sliceSpan source.buf.length 1 _ = _ := hh.field
  have hr : Span.read ⟨1, ds.length + 1⟩ source.buf = ds := hh.read
  unfold GetCommand
  simp only [hi, hf, Except.ok_bind, hr, hp, if_neg hne, hw₁, hw₂,
    hw₃, hcmd, gt_iff_lt, Nat.cast_lt, Nat.cast_inj]
  rw [if_neg (by omega), show ds.length + 1 + 2 + c.length + 2 = ds.length + c.length + 5 by omega]
  exact if_congr (by omega) rfl rfl

/-- The second half of `GetCommand` on a buffer with an element at `m`. -/
theorem GetCommand.argument_of_element {source : Reader} {command : Span} {m : Nat}
    {ds a rest : List UInt8} (h : Element (source.buf.drop m) ds a rest) :
    GetCommand.argument source command (m : Int) =
      .ok ⟨some command, some (Element.span m ds a), none, source⟩ := by
  obtain ⟨s, z, hb, hs, hd, hv, hr⟩ := h
  have hh := Header.of_drop hb hs (cr_not_mem_of_digits hd)
  have hlen := source.buf_length_lt
  have hl := hh.length
  simp only [List.length_cons, List.length_append] at hl
  have hrest : sliceSpan source.buf.length (m : Int) source.buf.length =
      .ok ⟨m, source.buf.length⟩ := sliceSpan_ok (by omega) le_rfl
  have hne : ((ds.length + 1 : Nat) : Int) ≠ -1 := by omega
  have harg : sliceSpan source.buf.length ((ds.length + 1 + m + 2 : Nat) : Int)
      ((ds.length + 1 + m + 2 + a.length : Nat) : Int) = .ok (Element.span m ds a) := by
    rw [sliceSpan_ok (by omega) (by omega)]
    simp only [Element.span, Except.ok.injEq, Span.mk.injEq]; omega
  unfold GetCommand.argument
  simp only [hrest, Except.ok_bind, Span.read_from, hh.index, if_neg hne]
  simp (disch := omega) only [← Nat.cast_one (R := Int), ← Nat.cast_two (R := Int), wrap_natCast_add,
    Except.ok_bind, hh.field, hh.read, ParseInt_eq_none_iff.2 ⟨hd, hv.symm⟩, harg]
  rw [if_neg (by omega)]

/-! ## Headers that panic -/

/-- The length field's value `n` with which the payload's slice `contents[start : start+n]`
panics once the test against `len(contents)` has let it through: `start + n + 2` is past the end
of `int` and wraps around, or `n` is negative, a length field that wrapped, and the slice ends
before it starts. -/
def SlicePanics (start : Nat) (n : Int) (len : Nat) : Prop :=
  2 ^ 63 ≤ start + n + 2 ∨ (n < 0 ∧ start + n + 2 ≤ len)

instance (start : Nat) (n : Int) (len : Nat) : Decidable (SlicePanics start n len) :=
  inferInstanceAs (Decidable (_ ∨ _))

/-- The header at position `m` of a buffer of length `len`, `E` the bytes from there on, on which
`GetCommand` panics: it begins with `\r`, so that the slice of its length field ends before it
starts; or its length field is a run of digits whose value makes the payload's slice panic. -/
def HeaderPanics (E : List UInt8) (m len : Nat) : Prop :=
  (∃ post, E = 13 :: post) ∨
    ∃ s ds post, E = s :: ds ++ 13 :: post ∧ s ≠ 13 ∧ (∀ d ∈ ds, IsDigit d) ∧
      SlicePanics (m + ds.length + 3) (wrap (decimalValue 0 ds)) len

theorem sliceSpan_error_iff {len : Nat} {i j : Int} :
    (∃ p, sliceSpan len i j = .error p) ↔ ¬ (0 ≤ i ∧ i ≤ j ∧ j ≤ len) := by
  unfold sliceSpan
  split
  · exact iff_of_false (fun ⟨_, h⟩ => nomatch h) (not_not.2 ‹_›)
  · exact iff_of_true ⟨_, rfl⟩ ‹_›

/-- The checks both halves of `GetCommand` make after the length field, whose `\r` is at `nl`,
on a payload of `n` bytes: the slice `contents[nl+2 : nl+2+n]` panics after the test against
`len(contents)` exactly when `SlicePanics` says so. -/
theorem slicePanics_iff {len nl : Nat} {n : Int} (hfit : len + 2 < 2 ^ 63) (hnl : nl < len)
    (hn : -2 ^ 63 ≤ n ∧ n < 2 ^ 63) :
    (¬ wrap (wrap (wrap (nl + 2) + n) + 2) > len ∧
      ∃ p, sliceSpan len (wrap (nl + 2)) (wrap (wrap (nl + 2) + n)) = .error p) ↔
      SlicePanics (nl + 2) n len := by
  have hw : wrap ((nl : Int) + 2) = nl + 2 := wrap_of_lt (by omega) (by omega)
  rw [sliceSpan_error_iff, hw]
  unfold SlicePanics
  by_cases hx : (nl : Int) + 2 + n < 2 ^ 63
  · rw [wrap_of_lt (by omega) hx]
    by_cases hx₂ : (nl : Int) + 2 + n + 2 < 2 ^ 63
    · rw [wrap_of_lt (by omega) hx₂]; omega
    · rw [wrap_of_ge (x := (nl : Int) + 2 + n + 2) (by omega) (by omega)]; omega
  · rw [wrap_of_ge (x := (nl : Int) + 2 + n) (by omega) (by omega),
      wrap_of_lt (x := (nl : Int) + 2 + n - 2 ^ 64 + 2) (by omega) (by omega)]
    omega

/-- The same checks, when the slice is taken: the payload fits, with two more bytes, in the
buffer. -/
theorem payload_fits {len nl : Nat} {n : Int} (hfit : len + 2 < 2 ^ 63) (hnl : nl < len)
    (hn : -2 ^ 63 ≤ n ∧ n < 2 ^ 63) (h₁ : wrap (nl + 2) ≤ wrap (wrap (nl + 2) + n))
    (h₂ : wrap (wrap (nl + 2) + n) ≤ len) (h₃ : ¬ wrap (wrap (wrap (nl + 2) + n) + 2) > len) :
    0 ≤ n ∧ nl + n + 4 ≤ len := by
  have hw₁ : wrap ((nl : Int) + 2) = nl + 2 := wrap_of_lt (by omega) (by omega)
  rw [hw₁] at h₁ h₂ h₃
  have hw₂ := wrap_add_of_le (by omega) (by omega) hn.1 hn.2 h₁
  rw [hw₂, wrap_of_lt (by omega) (by omega)] at h₃
  omega

/-- `GetCommand` panics on a buffer whose first header panics. -/
theorem GetCommand_error_of_headerPanics {source : Reader} (hfit : source.buf.length + 2 < 2 ^ 63)
    (h : HeaderPanics source.buf 0 source.buf.length) : ∃ p, GetCommand source = .error p := by
  rcases h with ⟨post, hb⟩ | ⟨s, ds, post, hb, hs, hd, hp⟩
  · have hi : IndexByte source.buf 13 = 0 := by rw [hb]; exact @IndexByte_append [] post 13 (by simp)
    unfold GetCommand
    simp only [hi, if_neg (show (0 : Int) ≠ -1 by decide), sliceSpan_of_lt (show (0 : Int) < 1 by decide),
      Except.error_bind]
    exact ⟨_, rfl⟩
  have hh : Header source.buf 0 ds post := .of_drop hb hs (cr_not_mem_of_digits hd)
  have hl := hh.length
  obtain ⟨hc, p, hp'⟩ := (@slicePanics_iff _ (ds.length + 1) (wrap (decimalValue 0 ds)) hfit
    (by omega) (wrap_bounds _)).2 (by rwa [show ds.length + 1 + 2 = 0 + ds.length + 3 by omega])
  have hi : IndexByte source.buf 13 = _ := hh.index
  have hf : sliceSpan source.buf.length 1 _ = _ := hh.field
  have hr : Span.read ⟨1, ds.length + 1⟩ source.buf = ds := hh.read
  unfold GetCommand
  simp only [hi, if_neg (show ((ds.length + 1 : Nat) : Int) ≠ -1 by omega), hf, Except.ok_bind, hr,
    ParseInt_of_digits hd]
  rw [if_neg hc, hp']
  exact ⟨_, rfl⟩

/-- The second half of `GetCommand` panics on a buffer whose header at `m` panics. -/
theorem GetCommand.argument_error_of_headerPanics {source : Reader} {command : Span} {m : Nat}
    (hfit : source.buf.length + 2 < 2 ^ 63) (hm : m ≤ source.buf.length)
    (h : HeaderPanics (source.buf.drop m) m source.buf.length) :
    ∃ p, GetCommand.argument source command m = .error p := by
  have hrest : sliceSpan source.buf.length (m : Int) source.buf.length =
      .ok ⟨m, source.buf.length⟩ := sliceSpan_ok hm le_rfl
  rcases h with ⟨post, hb⟩ | ⟨s, ds, post, hb, hs, hd, hp⟩
  · have hi : IndexByte (source.buf.drop m) 13 = 0 := by
      rw [hb]; exact @IndexByte_append [] post 13 (by simp)
    have hl : m < source.buf.length := by
      have := congrArg List.length hb; simp only [List.length_drop, List.length_cons] at this; omega
    unfold GetCommand.argument
    simp only [hrest, Except.ok_bind, Span.read_from, hi, if_neg (show (0 : Int) ≠ -1 by decide),
      zero_add, sliceSpan_of_lt (show wrap (m : Int) < wrap ((m : Int) + 1) by
        rw [wrap_natCast (by omega), ← Nat.cast_one (R := Int), wrap_natCast_add (by omega)]; omega), Except.error_bind]
    exact ⟨_, rfl⟩
  have hh := Header.of_drop hb hs (cr_not_mem_of_digits hd)
  have hl := hh.length
  obtain ⟨hc, p, hp'⟩ := (@slicePanics_iff _ (ds.length + 1 + m) (wrap (decimalValue 0 ds)) hfit
    (by omega) (wrap_bounds _)).2 (by rwa [show ds.length + 1 + m + 2 = m + ds.length + 3 by omega])
  unfold GetCommand.argument
  simp only [hrest, Except.ok_bind, Span.read_from, hh.index,
    if_neg (show ((ds.length + 1 : Nat) : Int) ≠ -1 by omega)]
  simp (disch := omega) only [← Nat.cast_one (R := Int), wrap_natCast_add, Except.ok_bind, hh.field, hh.read,
    ParseInt_of_digits hd]
  rw [if_neg hc, hp']
  exact ⟨_, rfl⟩

/-! ## Inversion: what is read is an element -/

/-- A `GetCommand` that answers no error result either panics at the first header or reads an
element at the start of the buffer. -/
theorem header_of_GetCommand {source : Reader} (hfit : source.buf.length + 2 < 2 ^ 63)
    (h : ∀ r, GetCommand source = .ok r → r.err = none) :
    HeaderPanics source.buf 0 source.buf.length ∨ ∃ ds c rest, Element source.buf ds c rest := by
  generalize hx : GetCommand source = x at h
  dsimp only [GetCommand] at hx
  rcases IndexByte_cases source.buf 13 with ⟨hi, -⟩ | ⟨pre, post, hE, hpre, -⟩
  · rw [if_pos hi] at hx; cases h _ hx.symm
  rcases pre with _ | ⟨s, ds⟩
  · exact .inl (.inl ⟨post, hE⟩)
  have hs : s ≠ 13 := fun h => hpre (h ▸ List.mem_cons_self _ _)
  have hh : Header source.buf 0 ds post := .of_drop hE hs fun h => hpre (List.mem_cons_of_mem _ h)
  have hl := hh.length
  have hi : IndexByte source.buf 13 = _ := hh.index
  have hf : sliceSpan source.buf.length 1 _ = _ := hh.field
  have hr : Span.read ⟨1, ds.length + 1⟩ source.buf = ds := hh.read
  rw [hi, if_neg (by omega), hf, Except.ok_bind, hr] at hx
  split at hx
  · cases h _ hx.symm
  rename_i n hp
  split at hx
  · cases h _ hx.symm
  rename_i hc
  obtain ⟨hd, hn⟩ := ParseInt_eq_none_iff.1 hp
  rcases hcmd : sliceSpan source.buf.length (wrap ((ds.length + 1 : Nat) + 2))
    (wrap (wrap ((ds.length + 1 : Nat) + 2) + n)) with p | command
  · refine .inl (.inr ⟨s, ds, post, by simpa using hE, hs, hd, ?_⟩)
    have := (slicePanics_iff hfit (by omega) (hn ▸ wrap_bounds _)).1 ⟨hc, p, hcmd⟩
    rwa [show ds.length + 1 + 2 = 0 + ds.length + 3 by omega, hn] at this
  · obtain ⟨-, hc₁, hc₂, -⟩ := sliceSpan_eq_ok hcmd
    have := payload_fits hfit (by omega) (hn ▸ wrap_bounds _) hc₁ hc₂ hc
    exact .inr ⟨_, _, _, Element.of_cr (n := n.toNat) hE hpre (by simp) hd (by simp; omega)
      (by omega)⟩

/-- A second half of `GetCommand` that answers no error result either panics at the header at `m`
or reads an element there. -/
theorem header_of_argument {source : Reader} {command : Span} {m : Nat}
    (hfit : source.buf.length + 2 < 2 ^ 63) (hm : m ≤ source.buf.length)
    (h : ∀ r, GetCommand.argument source command m = .ok r → r.err = none) :
    HeaderPanics (source.buf.drop m) m source.buf.length ∨
      ∃ ds a rest, Element (source.buf.drop m) ds a rest := by
  generalize hx : GetCommand.argument source command m = x at h
  dsimp only [GetCommand.argument] at hx
  rw [sliceSpan_ok hm le_rfl, Except.ok_bind, Span.read_from] at hx
  rcases IndexByte_cases (source.buf.drop m) 13 with ⟨hi, -⟩ | ⟨pre, post, hE, hpre, -⟩
  · rw [if_pos hi] at hx; cases h _ hx.symm
  rcases pre with _ | ⟨s, ds⟩
  · exact .inl (.inl ⟨post, hE⟩)
  have hs : s ≠ 13 := fun h => hpre (h ▸ List.mem_cons_self _ _)
  have hh := Header.of_drop hE hs fun h => hpre (List.mem_cons_of_mem _ h)
  have hl := hh.length
  rw [hh.index, if_neg (by omega), wrap_natCast_add (by omega), ← Nat.cast_one (R := Int), wrap_natCast_add (by omega),
    hh.field, Except.ok_bind, hh.read] at hx
  split at hx
  · cases h _ hx.symm
  rename_i n hp
  split at hx
  · cases h _ hx.symm
  rename_i hc
  obtain ⟨hd, hn⟩ := ParseInt_eq_none_iff.1 hp
  rcases harg : sliceSpan source.buf.length (wrap ((ds.length + 1 + m : Nat) + 2))
    (wrap (wrap ((ds.length + 1 + m : Nat) + 2) + n)) with p | arg
  · refine .inl (.inr ⟨s, ds, post, by simpa using hE, hs, hd, ?_⟩)
    have := (slicePanics_iff hfit (by omega) (hn ▸ wrap_bounds _)).1 ⟨hc, p, harg⟩
    rwa [show ds.length + 1 + m + 2 = m + ds.length + 3 by omega, hn] at this
  · obtain ⟨-, ha₁, ha₂, -⟩ := sliceSpan_eq_ok harg
    have := payload_fits hfit (by omega) (hn ▸ wrap_bounds _) ha₁ ha₂ hc
    exact .inr ⟨_, _, _, Element.of_cr (n := n.toNat) hE hpre (by simp) hd (by simp; omega)
      (by omega)⟩

/-! ## The accepted requests -/

@[simp] theorem lowercase_length (b : Reader) (p : Span) : (b.lowercase p).buf.length = b.buf.length := by
  simp [Reader.lowercase]

/-- The case mapping leaves the buffer after the command as it was. -/
theorem lowercase_drop {b : Reader} {p : Span} {k : Nat} (h : p.stop ≤ k) :
    (b.lowercase p).buf.drop k = b.buf.drop k :=
  List.ext_getElem (by simp [Reader.lowercase]) fun i _ _ => by
    simp only [Reader.lowercase, List.getElem_drop, List.getElem_mapIdx]
    exact if_neg (by omega)

/-- Where the second half of `GetCommand` starts reading, two bytes after the first payload: the
case mapping did not reach there. -/
theorem Element.drop_lowercase {source : Reader} {ds c rest : List UInt8}
    (h : Element source.buf ds c rest) :
    (source.lowercase (Element.span 0 ds c)).buf.drop (ds.length + c.length + 5) = rest.drop 2 := by
  have hs : (Element.span 0 ds c).stop ≤ ds.length + c.length + 5 := by
    simp only [Element.span]; omega
  rw [lowercase_drop hs, ← h.drop_eq, List.drop_drop]

/-- The second half of `GetCommand` after an element reads a buffer as long as the first half's,
from a position inside it. -/
theorem Element.lowercase_bounds {source : Reader} {ds c rest : List UInt8}
    (hfit : source.buf.length + 2 < 2 ^ 63) (h : Element source.buf ds c rest) :
    (source.lowercase (Element.span 0 ds c)).buf.length + 2 < 2 ^ 63 ∧
      ds.length + c.length + 5 ≤ (source.lowercase (Element.span 0 ds c)).buf.length := by
  rw [lowercase_length]; exact ⟨hfit, h.length_le⟩

/-- The requests `GetCommand` reads with no error: an element, whose payload is the command, then
either exactly two more bytes, or two bytes and a second element, whose payload is the first
argument. -/
def Request (B : List UInt8) (command : Span) (firstArgument : Option Span) : Prop :=
  ∃ ds c rest, Element B ds c rest ∧ command = Element.span 0 ds c ∧
    match firstArgument with
    | none => rest.length = 2
    | some arg => ∃ ds' a rest', Element (rest.drop 2) ds' a rest' ∧
        arg = Element.span (command.stop + 2) ds' a

/-- A `GetCommand` that answers no error read a request. -/
theorem GetCommand_request {source : Reader} {r : GetCommandResult}
    (hfit : source.buf.length + 2 < 2 ^ 63) (h : GetCommand source = .ok r) (he : r.err = none) :
    ∃ command firstArgument, r = ⟨some command, firstArgument, none, source.lowercase command⟩ ∧
      Request source.buf command firstArgument := by
  have hno : ∀ r', GetCommand source = .ok r' → r'.err = none := fun r' h' => by
    rw [h] at h'; cases h'; exact he
  obtain hp | ⟨ds, c, rest, hel⟩ := header_of_GetCommand hfit hno
  · obtain ⟨p, hp⟩ := GetCommand_error_of_headerPanics hfit hp
    rw [hp] at h; cases h
  rw [GetCommand_of_element hel] at h
  split at h
  · cases h; exact ⟨_, _, rfl, ds, c, rest, hel, rfl, ‹_›⟩
  obtain ⟨hfit', hm⟩ := hel.lowercase_bounds hfit
  obtain hp | ⟨ds', a, rest', hel'⟩ := header_of_argument hfit' hm fun r' h' => by
    rw [h] at h'; cases h'; exact he
  · obtain ⟨p, hp⟩ := GetCommand.argument_error_of_headerPanics hfit' hm hp
    rw [hp] at h; cases h
  rw [GetCommand.argument_of_element hel'] at h
  cases h
  rw [hel.drop_lowercase] at hel'
  exact ⟨_, _, rfl, ds, c, rest, hel, rfl, ds', a, rest', hel', by simp [Element.span]; omega⟩

/-- `GetCommand` reads a request, whatever the buffer's length. -/
theorem GetCommand_of_request {source : Reader} {command : Span} {firstArgument : Option Span}
    (hr : Request source.buf command firstArgument) :
    GetCommand source = .ok ⟨some command, firstArgument, none, source.lowercase command⟩ := by
  obtain ⟨ds, c, rest, hel, rfl, hf⟩ := hr
  rw [GetCommand_of_element hel]
  cases firstArgument with
  | none => simp [hf]
  | some arg =>
    obtain ⟨ds', a, rest', hel', rfl⟩ := hf
    have hl : 3 ≤ rest.length := by
      obtain ⟨s', z', hb', -⟩ := hel'
      have := congrArg List.length hb'
      simp only [List.length_drop, List.length_append, List.length_cons] at this
      omega
    rw [if_neg (by omega), GetCommand.argument_of_element (by rwa [hel.drop_lowercase])]
    simp only [Element.span, Except.ok.injEq, GetCommandResult.mk.injEq, Option.some.injEq,
      Span.mk.injEq, and_true, true_and]
    omega

/-- `GetCommand` answers a command and no error exactly on the requests: with the first payload's
span as the command, case-mapped in the buffer, and the second payload's span, if there is a
second element, as the first argument. -/
theorem GetCommand_ok_iff {source : Reader} {r : GetCommandResult}
    (hfit : source.buf.length + 2 < 2 ^ 63) :
    (GetCommand source = .ok r ∧ r.err = none) ↔
      ∃ command firstArgument, r = ⟨some command, firstArgument, none, source.lowercase command⟩ ∧
        Request source.buf command firstArgument := by
  constructor
  · exact fun ⟨h, he⟩ => GetCommand_request hfit h he
  · rintro ⟨command, firstArgument, rfl, hr⟩
    exact ⟨GetCommand_of_request hr, rfl⟩

/-- `$4\r\nPING\r\n` is a request with no argument, and `GetCommand` reads it so. -/
theorem GetCommand_ok_iff_ping :
    GetCommand (Reader.ofBytes (bytesOf "$4\r\nPING\r\n") BUFFER_SIZE .timeout (by decide) (by decide)
      (by decide)) = .ok ⟨some ⟨4, 8⟩, none, none, (Reader.ofBytes (bytesOf "$4\r\nPING\r\n")
        BUFFER_SIZE .timeout (by decide) (by decide) (by decide)).lowercase ⟨4, 8⟩⟩ :=
  ((GetCommand_ok_iff (by decide)).2
    ⟨_, none, rfl, [52], bytesOf "PING", [13, 10], ⟨36, 10, by decide, by decide, by decide, by decide,
      by decide⟩, rfl, rfl⟩).1

/-- `GetCommand` panics exactly on the buffers whose first header panics, or that hold an element,
then more than two bytes, and a second header that panics. -/
theorem GetCommand_panics_iff {source : Reader} (hfit : source.buf.length + 2 < 2 ^ 63) :
    (∃ p, GetCommand source = .error p) ↔
      HeaderPanics source.buf 0 source.buf.length ∨
        ∃ ds c rest, Element source.buf ds c rest ∧ rest.length ≠ 2 ∧
          HeaderPanics (rest.drop 2) (ds.length + c.length + 5) source.buf.length := by
  constructor
  · rintro ⟨p, h⟩
    obtain hp | ⟨ds, c, rest, hel⟩ := header_of_GetCommand hfit fun r h' => by rw [h] at h'; cases h'
    · exact .inl hp
    rw [GetCommand_of_element hel] at h
    split at h
    · cases h
    rename_i h2
    obtain ⟨hfit', hm⟩ := hel.lowercase_bounds hfit
    obtain hp | ⟨ds', a, rest', hel'⟩ := header_of_argument hfit' hm fun r h' => by
      rw [h] at h'; cases h'
    · rw [hel.drop_lowercase, lowercase_length] at hp
      exact .inr ⟨ds, c, rest, hel, h2, hp⟩
    · rw [GetCommand.argument_of_element hel'] at h; cases h
  · rintro (hp | ⟨ds, c, rest, hel, h2, hp⟩)
    · exact GetCommand_error_of_headerPanics hfit hp
    · rw [GetCommand_of_element hel, if_neg h2]
      obtain ⟨hfit', hm⟩ := hel.lowercase_bounds hfit
      exact GetCommand.argument_error_of_headerPanics hfit' hm
        (by rwa [hel.drop_lowercase, lowercase_length])

/-- A length field that wraps around to `-1` makes `GetCommand` panic: on
`$18446744073709551615\r\nx` it slices `contents[23:22]`. -/
theorem GetCommand_panics_iff_wrapped :
    ∃ p, GetCommand (Reader.ofBytes (bytesOf "$18446744073709551615\r\nx") BUFFER_SIZE .timeout
      (by decide) (by decide) (by decide)) = .error p :=
  (GetCommand_panics_iff (by decide)).2
    (.inl (.inr ⟨36, bytesOf "18446744073709551615", [10, 120], by decide, by decide, by decide,
      by decide⟩))

/-! ## Reading a request twice

`GetCommand` only peeks at the buffer, and writes the case-mapped command back into it: a second
call on the same reader reads the same request, and maps the command a second time. -/

/-- The payload's span, between the header and what follows the payload. -/
theorem Element.span_eq (s z : UInt8) (ds c : List UInt8) :
    Element.span 0 ds c = ⟨(s :: ds ++ [13, z]).length, (s :: ds ++ [13, z]).length + c.length⟩ := by
  simp only [Element.span, List.length_append, List.length_cons, List.length_nil, Span.mk.injEq]
  omega

/-- The case mapping keeps an element an element, with its payload mapped. -/
theorem Element.lowercase {source : Reader} {ds c rest : List UInt8}
    (h : Element source.buf ds c rest) :
    Element (source.lowercase (Element.span 0 ds c)).buf ds (c.map caseMap) rest := by
  obtain ⟨s, z, hb, hs, hd, hv, hr⟩ := h
  rw [Element.span_eq s z, lowercase_buf (show source.buf = (s :: ds ++ [13, z]) ++ c ++ rest by
    simp [hb])]
  exact ⟨s, z, by simp, hs, hd, by rw [List.length_map]; exact hv, hr⟩

/-- The case mapping keeps a request the same request. -/
theorem Request.lowercase {source : Reader} {command : Span} {firstArgument : Option Span}
    (h : Request source.buf command firstArgument) :
    Request (source.lowercase command).buf command firstArgument := by
  obtain ⟨ds, c, rest, hel, rfl, hf⟩ := h
  exact ⟨ds, c.map caseMap, rest, hel.lowercase, by simp [Element.span], hf⟩

/-- A byte that the case mapping moves lands above `'Z'` exactly when it was above `':'`. -/
theorem Z_lt_caseMap_iff (v : UInt8) : 'Z'.toUInt8 < caseMap v ↔ ':'.toUInt8 < v := by
  have hv := v.toNat_lt_size
  unfold caseMap
  split_ifs with h
  · change v.toNat ≤ 90 at h
    change 90 < (v + 32).toNat ↔ 58 < v.toNat
    rw [UInt8.toNat_add]
    change _ < (v.toNat + 32) % 256 ↔ _
    omega
  · change ¬ v.toNat ≤ 90 at h
    change 90 < v.toNat ↔ 58 < v.toNat
    omega

/-- **Reading a request twice.** A second `GetCommand` on the reader the first one returns reads
the same command and first argument, and case-maps the command again. That leaves the buffer as
it was exactly when every byte of the command as the client sent it is above `':'`: a digit or a
punctuation byte is moved twice (`'1'` to `'Q'`, then to `'q'`). -/
theorem GetCommand_reread {source : Reader} {r : GetCommandResult}
    (hfit : source.buf.length + 2 < 2 ^ 63) (h : GetCommand source = .ok r) (he : r.err = none) :
    ∃ command, r.command = some command ∧
      GetCommand r.source = .ok ⟨some command, r.firstArgument, none, r.source.lowercase command⟩ ∧
      ((r.source.lowercase command).buf = r.source.buf ↔
        ∀ b ∈ command.read source.buf, ':'.toUInt8 < b) := by
  obtain ⟨command, firstArgument, rfl, hr⟩ := GetCommand_request hfit h he
  refine ⟨command, rfl, GetCommand_of_request hr.lowercase, ?_⟩
  obtain ⟨ds, c, rest, ⟨s, z, hb, -⟩, rfl, -⟩ := hr
  have hsp := Element.span_eq s z ds c
  have hB : source.buf = (s :: ds ++ [13, z]) ++ c ++ rest := by simp [hb]
  have h₁ : (source.lowercase (Element.span 0 ds c)).buf =
      (s :: ds ++ [13, z]) ++ c.map caseMap ++ rest := by
    rw [hsp]; exact lowercase_buf hB
  have h₂ : ((source.lowercase (Element.span 0 ds c)).lowercase (Element.span 0 ds c)).buf =
      (s :: ds ++ [13, z]) ++ (c.map caseMap).map caseMap ++ rest := by
    have := lowercase_buf h₁
    rwa [List.length_map, ← hsp] at this
  have h₃ : (Element.span 0 ds c).read source.buf = c := by
    rw [hsp, hB, List.append_assoc, Span.read_append]
  rw [h₂, h₁, h₃, List.append_cancel_right_eq, List.append_cancel_left_eq, map_caseMap_eq_self_iff,
    List.forall_mem_map]
  simp only [Z_lt_caseMap_iff]

/-- The command `1` of `$1\r\n1\r\n` is read again, and mapped again. -/
theorem GetCommand_reread_digit :
    let source := Reader.ofBytes (bytesOf "$1\r\n1\r\n") BUFFER_SIZE .eof (by decide) (by decide)
      (by decide)
    let r : GetCommandResult := ⟨some ⟨4, 5⟩, none, none, source.lowercase ⟨4, 5⟩⟩
    ∃ command, r.command = some command ∧
      GetCommand r.source = .ok ⟨some command, r.firstArgument, none, r.source.lowercase command⟩ ∧
      ((r.source.lowercase command).buf = r.source.buf ↔
        ∀ b ∈ command.read source.buf, ':'.toUInt8 < b) :=
  GetCommand_reread (by decide) rfl rfl

end Rmux
