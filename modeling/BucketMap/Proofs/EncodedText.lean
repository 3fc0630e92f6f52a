import BucketMap.Encoding.Detect
import Mathlib.Algebra.Group.Nat.Defs
import Mathlib.Data.List.Basic

/-!
# Text in its encoding forms

A text is read back from its bytes in each of the encoding forms (`Encoding.decode_encode`), wherever
the bytes stand. Code points are read one by one: the bytes of the first one leave the reader where it
started, with the bytes of the others in front of it.

UTF-8 gives back surrogates too. In UTF-16 a high surrogate and a low one behind it are one code point,
so that the text must have none.
-/

namespace BucketMap

/-! ## UTF-8 -/

namespace Utf8

/-- From a state on, the bytes are read as the text at any position. -/
def ReadsAs (state : Option Pending) (bytes : Bytes) (t : Text) : Prop :=
  ∀ position, decodeFrom state position bytes = .ok t

theorem toNat_byte {n : Nat} (h : n < 0x100) : (byte n).toNat = n := UInt8.toNat_ofNat_of_lt' h

variable {bytes : Bytes} {t : Text} {first : UInt8} {n x q position start owed low high bits : Nat}

theorem ReadsAs.single (h : ReadsAs none bytes t) (hn : n < 0x80) :
    ReadsAs none (byte n :: bytes) (CodePoint.ofNat n :: t) := by
  intro position
  have hvalue : (byte n).toNat = n := toNat_byte (by omega)
  rw [decodeFrom, hvalue, if_pos hn, h]
  rfl

theorem le_of_lead? {b : UInt8} {p : Pending} (h : lead? b position = some p) : 0x80 ≤ b.toNat := by
  unfold lead? at h
  dsimp only at h
  by_contra hlt
  rw [if_neg (by simp; omega), if_neg (by omega), if_neg (by simp; omega), if_neg (by omega),
    if_neg (by simp; omega), if_neg (by omega)] at h
  cases h

/-- The first byte of a code point that has others owed behind it. -/
theorem ReadsAs.lead {b : UInt8} {p : Nat → Pending}
    (hlead : ∀ position, lead? b position = some (p position))
    (h : ∀ position, ReadsAs (some (p position)) bytes t) : ReadsAs none (b :: bytes) t := by
  intro position
  rw [decodeFrom, if_neg (Nat.not_lt.mpr (le_of_lead? (hlead position))), hlead]
  exact h position _

/-- A byte that goes on a code point, with others owed behind it. -/
theorem ReadsAs.next
    (h : ReadsAs (some ⟨first, start, owed + 1, 0x80, 0xBF, bits * 0x40 + x⟩) bytes t)
    (hx : x < 0x40) (hlow : low ≤ 0x80 + x) (hhigh : 0x80 + x ≤ high) :
    ReadsAs (some ⟨first, start, owed + 2, low, high, bits⟩) (byte (0x80 + x) :: bytes) t := by
  intro position
  have hvalue : (byte (0x80 + x)).toNat = 0x80 + x := toNat_byte (by omega)
  rw [decodeFrom, hvalue, if_pos (by simp [hlow, hhigh]), if_neg (by simp), Nat.add_sub_cancel_left]
  exact h _

/-- The last byte of a code point. -/
theorem ReadsAs.last (h : ReadsAs none bytes t) (hx : x < 0x40) (hlow : low ≤ 0x80 + x)
    (hhigh : 0x80 + x ≤ high) (hn : bits * 0x40 + x = n) :
    ReadsAs (some ⟨first, start, 1, low, high, bits⟩) (byte (0x80 + x) :: bytes)
      (CodePoint.ofNat n :: t) := by
  intro position
  have hvalue : (byte (0x80 + x)).toNat = 0x80 + x := toNat_byte (by omega)
  rw [decodeFrom, hvalue, if_pos (by simp [hlow, hhigh]), if_pos rfl, Nat.add_sub_cancel_left, h, hn]
  rfl

theorem lead?_two (h : 2 ≤ q) (hq : q < 0x20) :
    lead? (byte (0xC0 + q)) position = some ⟨byte (0xC0 + q), position, 1, 0x80, 0xBF, q⟩ := by
  unfold lead?
  rw [toNat_byte (by omega)]
  dsimp only
  rw [if_pos (by simp; omega), Nat.add_sub_cancel_left]

theorem lead?_three (hq : q < 0x10) :
    lead? (byte (0xE0 + q)) position = some ⟨byte (0xE0 + q), position, 2,
      if q = 0 then 0xA0 else 0x80, 0xBF, q⟩ := by
  unfold lead?
  rw [toNat_byte (by omega)]
  dsimp only
  rw [if_neg (by simp; omega)]
  by_cases hzero : q = 0
  · subst hzero
    rfl
  · rw [if_neg (by omega), if_pos (by simp; omega), if_neg hzero, Nat.add_sub_cancel_left]

theorem lead?_four (hq : q < 5) :
    lead? (byte (0xF0 + q)) position = some ⟨byte (0xF0 + q), position, 3,
      if q = 0 then 0x90 else 0x80, if q = 4 then 0x8F else 0xBF, q⟩ := by
  unfold lead?
  rw [toNat_byte (by omega)]
  dsimp only
  rw [if_neg (by simp; omega), if_neg (by omega), if_neg (by simp; omega)]
  by_cases hzero : q = 0
  · subst hzero
    rfl
  by_cases hfour : q = 4
  · subst hfour
    rfl
  · rw [if_neg (by omega), if_pos (by simp; omega), if_neg hzero, if_neg hfour,
      Nat.add_sub_cancel_left]

/-- The bytes of a code point are read as this code point. -/
theorem ReadsAs.bytesOf (h : ReadsAs none bytes t) (c : CodePoint) :
    ReadsAs none (bytesOf c ++ bytes) (c :: t) := by
  obtain ⟨n, hn⟩ := c
  have hc : CodePoint.ofNat n = ⟨n, hn⟩ := CodePoint.ext (CodePoint.val_ofNat hn)
  rw [← hc]
  unfold Utf8.bytesOf
  rw [CodePoint.val_ofNat hn]
  dsimp only
  -- The second byte is bounded more closely than the others, to keep out what fits in fewer bytes.
  split_ifs with hone htwo hthree
  · exact h.single hone
  · refine .lead (fun position => lead?_two (by omega) (by omega)) fun position => ?_
    exact h.last (by omega) (by omega) (by omega) (by omega)
  · refine .lead (fun position => lead?_three (by omega)) fun position => ?_
    refine .next ?_ (by omega) (by split <;> omega) (by omega)
    exact h.last (by omega) (by omega) (by omega) (by omega)
  · refine .lead (fun position => lead?_four (by omega)) fun position => ?_
    refine .next ?_ (by omega) (by split <;> omega) (by split <;> omega)
    refine .next ?_ (by omega) (by omega) (by omega)
    exact h.last (by omega) (by omega) (by omega) (by omega)

theorem decode_encode (t : Text) : decode (t.flatMap bytesOf) = .ok t := by
  have hreads : ReadsAs none (t.flatMap bytesOf) t := by
    induction t with
    | nil => exact fun _ => rfl
    | cons c t ih => exact ih.bytesOf c
  exact hreads 0

end Utf8

/-! ## Code units -/

namespace Encoding

variable {order : ByteOrder} {width n : Nat}

theorem length_unitBytes (order : ByteOrder) (width n : Nat) :
    (unitBytes order width n).length = width := by
  have hbig : (bigEndian width n).length = width := by
    induction width generalizing n with
    | zero => rfl
    | succ width ih => simp [bigEndian, ih]
  cases order with
  | big => exact hbig
  | little => exact (List.length_reverse).trans hbig

theorem unitValue_unitBytes (order : ByteOrder) (h : n < 256 ^ width) :
    unitValue order (unitBytes order width n) = n := by
  have hbig : (bigEndian width n).foldl (fun v b => v * 256 + b.toNat) 0 = n := by
    induction width generalizing n with
    | zero =>
      have hzero : n = 0 := by simpa using h
      rw [hzero]
      rfl
    | succ width ih =>
      have hlast : (UInt8.ofNat n).toNat = n % 256 := UInt8.toNat_ofNat
      rw [bigEndian, List.foldl_append, ih (by rw [Nat.pow_succ] at h; omega), List.foldl_cons, hlast]
      exact Nat.div_add_mod' n 256
  cases order with
  | big => exact hbig
  | little =>
    unfold unitValue unitBytes
    dsimp only
    rw [List.reverse_reverse, hbig]

/-- A unit of two bytes. -/
theorem exists_unitBytes_two (order : ByteOrder) (n : Nat) :
    ∃ a b, unitBytes order 2 n = [a, b] :=
  List.length_eq_two.mp (length_unitBytes order 2 n)

/-- A unit of four bytes. -/
theorem exists_unitBytes_four (order : ByteOrder) (n : Nat) :
    ∃ a b c d, unitBytes order 4 n = [a, b, c, d] := by
  cases order <;> exact ⟨_, _, _, _, rfl⟩

end Encoding

open Encoding

namespace Utf16

theorem unit_lt {c : CodePoint} : ∀ unit ∈ unitsOf c, unit < 0x10000 := by
  have hlt := c.isLt
  unfold unitsOf
  split <;> simp <;> omega

theorem units_flatMap (order : ByteOrder) (position : Nat) {us : List Nat}
    (h : ∀ unit ∈ us, unit < 0x10000) :
    units order position (us.flatMap (unitBytes order 2)) = .ok us := by
  induction us generalizing position with
  | nil => rfl
  | cons unit us ih =>
    obtain ⟨hunit, hus⟩ := List.forall_mem_cons.mp h
    have hvalue : unitValue order (unitBytes order 2 unit) = unit := unitValue_unitBytes order hunit
    obtain ⟨a, b, hbytes⟩ := exists_unitBytes_two order unit
    rw [hbytes] at hvalue
    rw [List.flatMap_cons, hbytes, List.cons_append, List.cons_append, List.nil_append, units, hvalue,
      ih _ hus]
    rfl

/-- A unit that is no high surrogate stands for itself. -/
theorem join_cons {unit : Nat} (h : ¬ (0xD800 ≤ unit ∧ unit < 0xDC00)) (us : List Nat) :
    join (unit :: us) = CodePoint.ofNat unit :: join us := by
  cases us with
  | nil => rfl
  | cons next us =>
    rw [join, if_neg]
    simp only [Bool.and_eq_true, decide_eq_true_eq]
    omega

theorem join_unitsOf {c : CodePoint} (hc : c.isSurrogate = false) (us : List Nat) :
    join (unitsOf c ++ us) = c :: join us := by
  have hlt := c.isLt
  have hplain : ¬ (0xD800 ≤ c.val ∧ c.val ≤ 0xDFFF) := by
    simpa [CodePoint.isSurrogate] using hc
  unfold unitsOf
  split
  · rw [List.cons_append, List.nil_append, join_cons (by omega)]
    exact congrArg (· :: join us) (CodePoint.ext (CodePoint.val_ofNat hlt))
  · have hvalue : 0x10000 + (0xD800 + (c.val - 0x10000) / 0x400 - 0xD800) * 0x400 +
        (0xDC00 + (c.val - 0x10000) % 0x400 - 0xDC00) = c.val := by omega
    rw [List.cons_append, List.cons_append, List.nil_append, join, if_pos, hvalue]
    · exact congrArg (· :: join us) (CodePoint.ext (CodePoint.val_ofNat hlt))
    · simp only [Bool.and_eq_true, decide_eq_true_eq]
      omega

theorem decode_encode (order : ByteOrder) (position : Nat) {t : Text}
    (ht : ∀ c ∈ t, c.isSurrogate = false) : decode order position (encode order t) = .ok t := by
  have hunits : ∀ unit ∈ t.flatMap unitsOf, unit < 0x10000 := by
    intro unit hunit
    obtain ⟨c, -, hc⟩ := List.mem_flatMap.mp hunit
    exact unit_lt unit hc
  have hjoin : join (t.flatMap unitsOf) = t := by
    clear hunits
    induction t with
    | nil => rfl
    | cons c t ih =>
      obtain ⟨hc, ht⟩ := List.forall_mem_cons.mp ht
      rw [List.flatMap_cons, join_unitsOf hc, ih ht]
  unfold decode encode
  rw [units_flatMap order position hunits]
  exact congrArg Except.ok hjoin

end Utf16

namespace Utf32

theorem decode_encode (order : ByteOrder) (position : Nat) (t : Text) :
    decode order position (encode order t) = .ok t := by
  induction t generalizing position with
  | nil => rfl
  | cons c t ih =>
    have hlt := c.isLt
    have hvalue : unitValue order (unitBytes order 4 c.val) = c.val :=
      unitValue_unitBytes order (by omega)
    obtain ⟨b₁, b₂, b₃, b₄, hbytes⟩ := exists_unitBytes_four order c.val
    rw [hbytes] at hvalue
    unfold encode at ih ⊢
    rw [List.flatMap_cons, hbytes, List.cons_append, List.cons_append, List.cons_append,
      List.cons_append, List.nil_append, decode]
    simp only [hvalue, hlt, dif_pos, ih]
    rfl

end Utf32

/-- The bytes of a text are read as this text, at any position. -/
theorem Encoding.decode_encode (e : Encoding) (position : Nat) {t : Text}
    (ht : ∀ c ∈ t, c.isSurrogate = false) : e.decode position (e.encode t) = .ok t := by
  cases e with
  | utf8 => exact Utf8.decode_encode t
  | utf16 order => exact Utf16.decode_encode order position ht
  | utf32 order => exact Utf32.decode_encode order position t

end BucketMap
