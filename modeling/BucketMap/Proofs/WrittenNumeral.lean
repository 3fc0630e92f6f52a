import BucketMap.Proofs.Pieces

/-!
# Written numerals are read back

An integer that can be written is read back from its numeral (`Numeral.read_numeral`): the numeral is
a row of digits, whose value is the integer without its sign, and one minus in front of the row if
the integer is negative. No mark by which other texts are cut is in it
(`Numeral.not_blank_of_mem_numeral`).
-/

namespace BucketMap

namespace Numeral

/-- A row of digits as it is written. -/
def digitsText (ds : List Nat) : Text := (ds.map Nat.digitChar).map CodePoint.ofChar

theorem member?_digitChar :
    ∀ d < 10, member? (CodePoint.ofChar (Nat.digitChar d)) = some (some d) := by
  decide

theorem not_padding_digitChar :
    ∀ d < 10, isPadding (CodePoint.ofChar (Nat.digitChar d)) = false ∧
      CodePoint.ofChar (Nat.digitChar d) ≠ '-' ∧ CodePoint.ofChar (Nat.digitChar d) ≠ '+' := by
  decide

theorem body_digitsText {ds : List Nat} (hten : ∀ d ∈ ds, d < 10) :
    body (digitsText ds) = (ds.map some, []) := by
  induction ds with
  | nil => rfl
  | cons d ds ih =>
    obtain ⟨hd, hds⟩ := List.forall_mem_cons.mp hten
    have hbody : body (digitsText ds) = (ds.map some, []) := ih hds
    have hcons : digitsText (d :: ds) = CodePoint.ofChar (Nat.digitChar d) :: digitsText ds := rfl
    rw [hcons, body, member?_digitChar d hd]
    dsimp only
    rw [hbody]
    rfl

theorem digits?_map_some {ds : List Nat} (hne : ds ≠ []) : digits? (ds.map some) = some ds := by
  induction ds with
  | nil => exact absurd rfl hne
  | cons d ds ih =>
    cases ds with
    | nil => rfl
    | cons e ds =>
      have hrest : digits? ((e :: ds).map some) = some (e :: ds) := ih (by simp)
      rw [List.map_cons, List.map_cons, digits?, ← List.map_cons, hrest]
      rfl

theorem sign_numeral {n : Int} {ds : List Nat} (hten : ∀ d ∈ ds, d < 10) (hne : ds ≠ [])
    (hds : natural n.natAbs = digitsText ds) :
    sign ((numeral n).dropWhile isPadding) = (decide (n < 0), digitsText ds) := by
  unfold numeral
  split
  · rename_i hneg
    rw [hds, decide_eq_true hneg]
    rfl
  · rename_i hpos
    rw [hds, decide_eq_false hpos]
    cases ds with
    | nil => exact absurd rfl hne
    | cons d ds =>
      obtain ⟨hpadding, hminus, hplus⟩ := not_padding_digitChar d (hten d List.mem_cons_self)
      have hcons : digitsText (d :: ds) = CodePoint.ofChar (Nat.digitChar d) :: digitsText ds := rfl
      rw [hcons, List.dropWhile_cons_of_neg (by simp [hpadding]), sign, if_neg hminus, if_neg hplus]

theorem exists_natural_eq (n : Nat) :
    ∃ ds, natural n = digitsText ds ∧ ds ≠ [] ∧ (∀ d ∈ ds, d < 10) ∧ Text.valueOf 10 ds = n := by
  obtain ⟨ds, hdigits, hten, hvalue⟩ := Text.exists_digits (show 1 < 10 by omega) n
  have hne : ds ≠ [] := by
    rintro rfl
    exact absurd hdigits (List.ne_nil_of_length_pos Nat.length_toDigits_pos)
  exact ⟨ds, congrArg (List.map CodePoint.ofChar) hdigits, hne, hten, hvalue⟩

theorem read_numeral {n : Int} (h : Writable n) : read (numeral n) = .ok n := by
  obtain ⟨ds, hds, hne, hten, hvalue⟩ := exists_natural_eq n.natAbs
  have hshort : ¬ maxDigits < ds.length := by
    have hlength : (natural n.natAbs).length ≤ maxDigits := (length_natural_le (by decide)).mpr h
    rw [hds, digitsText, List.length_map, List.length_map] at hlength
    omega
  unfold read
  rw [sign_numeral hten hne hds]
  simp only [body_digitsText hten, digits?_map_some hne, if_neg hshort, List.all_nil, if_true,
    hvalue, decide_eq_true_eq, Except.ok.injEq]
  split
  · omega
  · omega

theorem not_blank_digitChar :
    ∀ d < 10, (CodePoint.ofChar (Nat.digitChar d)).isBlank = false ∧
      CodePoint.ofChar (Nat.digitChar d) ≠ ':' := by
  decide

theorem not_blank_of_mem_numeral {n : Int} {c : CodePoint} (h : c ∈ numeral n) :
    c.isBlank = false ∧ c ≠ ':' := by
  have hdigit : c ∈ natural n.natAbs → c.isBlank = false ∧ c ≠ ':' := by
    obtain ⟨ds, hds, -, hten, -⟩ := exists_natural_eq n.natAbs
    rw [hds, digitsText, List.map_map]
    intro hmem
    obtain ⟨d, hd, rfl⟩ := List.mem_map.mp hmem
    exact not_blank_digitChar d (hten d hd)
  unfold numeral at h
  split at h
  · rcases List.mem_cons.mp h with rfl | h
    · decide
    · exact hdigit h
  · exact hdigit h

end Numeral

end BucketMap
