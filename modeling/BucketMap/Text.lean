/-!
# Text

A text is a finite sequence of code points. Surrogates are code points like any other and may
stand alone: host names, keys and bucket names arrive as escaped code units and are kept as they
came, so a `String` (which holds scalar values only) would lose some of them.

* `Text.splitOn` cuts at every occurrence of a mark, `Text.cut` at the first one, and
  `Text.afterLast` keeps what follows the last one.
* `Text.cut_append` and `Text.cut_eq_none` say that nothing is lost by the first cut.
-/

namespace BucketMap

/-- A number below `0x110000`: a scalar value or a surrogate. -/
structure CodePoint where
  val : Nat
  isLt : val < 0x110000
deriving DecidableEq

/-- A sequence of code points. -/
abbrev Text := List CodePoint

namespace CodePoint

theorem ext {a b : CodePoint} (h : a.val = b.val) : a = b := by
  cases a
  cases b
  cases h
  rfl

/-- The code point of a character. -/
def ofChar (c : Char) : CodePoint :=
  ⟨c.toNat, by
    have h := c.valid
    simp only [UInt32.isValidChar, Nat.isValidChar] at h
    simp only [Char.toNat]
    omega⟩

instance : Coe Char CodePoint := ⟨ofChar⟩

instance : Inhabited CodePoint := ⟨ofChar ' '⟩

/-- One of the 2048 code points that are no scalar values. -/
def isSurrogate (c : CodePoint) : Bool := 0xD800 ≤ c.val && c.val ≤ 0xDFFF

/-- Membership in a union of closed intervals. -/
def isIn (ranges : List (Nat × Nat)) (c : CodePoint) : Bool :=
  ranges.any fun r => r.1 ≤ c.val && c.val ≤ r.2

/-- The number `n` as a code point; beyond the last one, the space. -/
def ofNat (n : Nat) : CodePoint :=
  if h : n < 0x110000 then ⟨n, h⟩ else default

theorem val_ofNat {n : Nat} (h : n < 0x110000) : (ofNat n).val = n := by
  simp [ofNat, h]

end CodePoint

namespace Text

/-- The text of a string. -/
def ofString (s : String) : Text := s.toList.map CodePoint.ofChar

instance : Coe String Text := ⟨ofString⟩

/-! ## Cutting and joining -/

/-- The pieces between the marks; there is one more of them than there are marks. -/
def splitOn (mark : CodePoint) : Text → List Text
  | [] => [[]]
  | c :: rest =>
    if c = mark then [] :: splitOn mark rest
    else
      match splitOn mark rest with
      | [] => [[c]]
      | piece :: pieces => (c :: piece) :: pieces

/-- The text before the first mark and, if there is a mark, the text after it. -/
def cut (mark : CodePoint) : Text → Text × Option Text
  | [] => ([], none)
  | c :: rest =>
    if c = mark then ([], some rest)
    else
      let (before, after) := cut mark rest
      (c :: before, after)

/-- The text after the last mark, or the whole text without one. -/
def afterLast (mark : CodePoint) (t : Text) : Text :=
  (t.reverse.takeWhile (· ≠ mark)).reverse

/-- The pieces with a separator between each two of them. -/
def join (separator : Text) : List Text → Text
  | [] => []
  | [piece] => piece
  | piece :: next :: pieces => piece ++ separator ++ join separator (next :: pieces)

/-- The text starts with the given one. -/
def startsWith (t start : Text) : Bool := start.isPrefixOf t

/-- The text ends with the given mark. -/
def endsWith (t : Text) (mark : CodePoint) : Bool := t.getLast? = some mark

theorem splitOn_ne_nil (mark : CodePoint) (t : Text) : splitOn mark t ≠ [] := by
  cases t with
  | nil => simp [splitOn]
  | cons c rest =>
    rw [splitOn]
    split
    · simp
    · split <;> simp

theorem cut_cons (mark c : CodePoint) (rest : Text) :
    cut mark (c :: rest) =
      if c = mark then ([], some rest) else (c :: (cut mark rest).1, (cut mark rest).2) := rfl

theorem cut_append {mark : CodePoint} {t before after : Text}
    (h : cut mark t = (before, some after)) : t = before ++ mark :: after := by
  induction t generalizing before with
  | nil => simp [cut] at h
  | cons c rest ih =>
    rw [cut_cons] at h
    split at h
    · rename_i hc
      simp only [Prod.mk.injEq, Option.some.injEq] at h
      simp [← h.1, ← h.2, hc]
    · simp only [Prod.mk.injEq] at h
      have hr : cut mark rest = ((cut mark rest).1, some after) := by rw [← h.2]
      rw [ih hr, ← h.1]
      rfl

theorem cut_eq_none {mark : CodePoint} {t before : Text} (h : cut mark t = (before, none)) :
    before = t ∧ mark ∉ t := by
  induction t generalizing before with
  | nil => simp [cut] at h; simp [h]
  | cons c rest ih =>
    rw [cut_cons] at h
    split at h
    · simp at h
    · rename_i hc
      simp only [Prod.mk.injEq] at h
      have hr : cut mark rest = ((cut mark rest).1, none) := by rw [← h.2]
      obtain ⟨h1, h2⟩ := ih hr
      refine ⟨by rw [← h.1, h1], ?_⟩
      simp only [List.mem_cons, not_or]
      exact ⟨fun e => hc e.symm, h2⟩

end Text

end BucketMap
