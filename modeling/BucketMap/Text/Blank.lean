import BucketMap.Text

/-!
# White space

* `CodePoint.isBlank` is the white space that is cut from the ends of a text: the characters with
  the Unicode property White_Space and the four information separators U+001C to U+001F.
* `Text.strip` cuts it; `Text.strip_strip` says that one cut is enough.
-/

namespace BucketMap

/-- White space and the information separators. -/
def blankRanges : List (Nat × Nat) :=
  [(0x0009, 0x000D), (0x001C, 0x0020), (0x0085, 0x0085), (0x00A0, 0x00A0), (0x1680, 0x1680),
   (0x2000, 0x200A), (0x2028, 0x2029), (0x202F, 0x202F), (0x205F, 0x205F), (0x3000, 0x3000)]

namespace CodePoint

/-- White space at the ends of a text. -/
def isBlank (c : CodePoint) : Bool := c.isIn blankRanges

/-- White space of the first 128 code points without the information separators. -/
def isAsciiSpace (c : CodePoint) : Bool := (9 ≤ c.val && c.val ≤ 13) || c.val = 32

end CodePoint

namespace Text

/-- The text without the white space at its start. -/
def stripStart (t : Text) : Text := t.dropWhile CodePoint.isBlank

/-- The text without the white space at its end. -/
def stripEnd (t : Text) : Text := (stripStart t.reverse).reverse

/-- The text without the white space at its ends. -/
def strip (t : Text) : Text := stripEnd (stripStart t)

/-- A text that starts and ends with no white space. -/
def Trim (t : Text) : Prop :=
  (∀ c, t.head? = some c → c.isBlank = false) ∧ ∀ c, t.getLast? = some c → c.isBlank = false

theorem stripStart_of_head {t : Text} (h : ∀ c, t.head? = some c → c.isBlank = false) :
    stripStart t = t := by
  cases t with
  | nil => rfl
  | cons c rest => simp [stripStart, List.dropWhile, h c rfl]

theorem head_stripStart (t : Text) : ∀ c, (stripStart t).head? = some c → c.isBlank = false := by
  intro c h
  have := List.head?_dropWhile_not CodePoint.isBlank t
  rw [stripStart] at h
  rw [h] at this
  simpa using this

theorem strip_of_trim {t : Text} (h : Trim t) : strip t = t := by
  rw [strip, stripStart_of_head h.1, stripEnd, stripStart_of_head, List.reverse_reverse]
  intro c hc
  exact h.2 c (by rwa [List.head?_reverse] at hc)

theorem trim_strip (t : Text) : Trim (strip t) := by
  constructor
  · intro c hc
    rw [strip, stripEnd, List.head?_reverse] at hc
    have hs : stripStart (stripStart t).reverse <:+ (stripStart t).reverse :=
      List.dropWhile_suffix _
    obtain ⟨front, hf⟩ := hs
    have hr : stripStart t = (stripStart (stripStart t).reverse).reverse ++ front.reverse := by
      have := congrArg List.reverse hf
      rw [List.reverse_append, List.reverse_reverse] at this
      exact this.symm
    have hh : (stripStart t).head? = some c := by
      rw [hr, List.head?_append, List.head?_reverse, hc]
      rfl
    exact head_stripStart t c hh
  · intro c hc
    rw [strip, stripEnd, List.getLast?_reverse] at hc
    exact head_stripStart _ c hc

theorem strip_strip (t : Text) : strip (strip t) = strip t := strip_of_trim (trim_strip t)

end Text

end BucketMap
