import BucketMap.Text
import BucketMap.Proofs.ShortNumeral

/-!
# Digits and pieces of texts

The digits of a number have the number as their value (`Text.exists_digits`), and what is cut at a
mark and put together again is the text that it was (`Text.splitOn_eq_iff`, `Text.cut_eq_some_iff`).
-/

namespace BucketMap

namespace Text

/-! ## Digits -/

/-- The digits of a number have the number as their value. -/
theorem exists_digits {base : Nat} (hbase : 1 < base) (n : Nat) :
    ∃ ds, Nat.toDigits base n = ds.map Nat.digitChar ∧ (∀ d ∈ ds, d < base) ∧
      valueOf base ds = n := by
  induction n using Nat.strongRecOn with
  | ind n ih =>
    rw [Nat.toDigits_eq_if hbase]
    split
    · rename_i hlt
      exact ⟨[n], rfl, by simpa using hlt, by simp [valueOf]⟩
    · rename_i hge
      obtain ⟨ds, hds, hlt, hvalue⟩ := ih (n / base) (Nat.div_lt_self (by omega) hbase)
      refine ⟨ds ++ [n % base], by rw [hds, List.map_append]; rfl, ?_, ?_⟩
      · intro d hd
        rcases List.mem_append.mp hd with hd | hd
        · exact hlt d hd
        · rw [List.mem_singleton.mp hd]
          exact Nat.mod_lt _ (by omega)
      · rw [valueOf_append_singleton, hvalue]
        exact Nat.div_add_mod' n base

/-! ## Pieces -/

theorem splitOn_cons (mark c : CodePoint) (t : Text) :
    splitOn mark (c :: t) =
      if c = mark then [] :: splitOn mark t else (splitOn mark t).modifyHead (c :: ·) := by
  rw [splitOn]
  split
  · rfl
  · cases h : splitOn mark t with
    | nil => exact absurd h (splitOn_ne_nil mark t)
    | cons piece pieces => rfl

theorem splitOn_eq (mark : CodePoint) (t : Text) : splitOn mark t = List.splitOn mark t := by
  induction t with
  | nil => rfl
  | cons c t ih => rw [splitOn_cons, ih, List.splitOn_cons_eq_if_modifyHead]; simp only [beq_iff_eq]

theorem join_eq (separator : Text) (pieces : List Text) :
    join separator pieces = separator.intercalate pieces := by
  fun_induction join separator pieces with
  | case1 => rfl
  | case2 piece => simp
  | case3 piece next pieces ih => rw [ih]; simp

theorem splitOn_join {mark : CodePoint} {pieces : List Text} (hne : pieces ≠ [])
    (h : ∀ piece ∈ pieces, mark ∉ piece) : splitOn mark (join [mark] pieces) = pieces := by
  rw [splitOn_eq, join_eq]
  exact List.splitOn_intercalate mark h hne

theorem join_splitOn (mark : CodePoint) (t : Text) : join [mark] (splitOn mark t) = t := by
  rw [splitOn_eq, join_eq]
  exact List.intercalate_splitOn mark

theorem mem_of_mem_join {separator c} {pieces : List Text} (h : c ∈ join separator pieces) :
    c ∈ separator ∨ ∃ piece ∈ pieces, c ∈ piece := by
  fun_induction join separator pieces with
  | case1 => cases h
  | case2 piece => exact .inr ⟨piece, by simp, h⟩
  | case3 piece next pieces ih =>
    rcases List.mem_append.mp h with h | h
    · rcases List.mem_append.mp h with h | h
      · exact .inr ⟨piece, by simp, h⟩
      · exact .inl h
    · rcases ih h with h | ⟨other, hmem, h⟩
      · exact .inl h
      · exact .inr ⟨other, List.mem_cons_of_mem _ hmem, h⟩

theorem not_mem_of_mem_splitOn {mark : CodePoint} {t piece : Text} (h : piece ∈ splitOn mark t) :
    mark ∉ piece := by
  induction t generalizing piece with
  | nil =>
    rw [List.mem_singleton.mp h]
    exact List.not_mem_nil
  | cons c t ih =>
    rw [splitOn_cons] at h
    split at h
    · rcases List.mem_cons.mp h with rfl | h
      · exact List.not_mem_nil
      · exact ih h
    · rename_i hc
      cases hs : splitOn mark t with
      | nil => exact absurd hs (splitOn_ne_nil mark t)
      | cons first pieces =>
        rw [hs] at h ih
        rcases List.mem_cons.mp h with rfl | h
        · rw [List.mem_cons, not_or]
          exact ⟨Ne.symm hc, ih List.mem_cons_self⟩
        · exact ih (List.mem_cons_of_mem _ h)

theorem splitOn_eq_iff {mark : CodePoint} {t : Text} {pieces : List Text} (hne : pieces ≠ []) :
    splitOn mark t = pieces ↔ join [mark] pieces = t ∧ ∀ piece ∈ pieces, mark ∉ piece := by
  constructor
  · rintro rfl
    exact ⟨join_splitOn mark t, fun _ => not_mem_of_mem_splitOn⟩
  · rintro ⟨rfl, h⟩
    exact splitOn_join hne h

/-- A text without its marks is in the pieces between them. -/
theorem mem_splitOn (mark : CodePoint) {c : CodePoint} {t : Text} (h : c ∈ t) :
    c = mark ∨ ∃ piece ∈ splitOn mark t, c ∈ piece := by
  rw [← join_splitOn mark t] at h
  exact (mem_of_mem_join h).imp_left List.mem_singleton.mp

theorem cut_of_not_mem {mark : CodePoint} {t : Text} (h : mark ∉ t) : cut mark t = (t, none) := by
  induction t with
  | nil => rfl
  | cons c t ih =>
    obtain ⟨hc, ht⟩ := not_or.mp (List.mem_cons.not.mp h)
    rw [cut_cons, if_neg (Ne.symm hc), ih ht]

theorem cut_append_mark {mark : CodePoint} {t rest : Text} (h : mark ∉ t) :
    cut mark (t ++ mark :: rest) = (t, some rest) := by
  induction t with
  | nil => rw [List.nil_append, cut_cons, if_pos rfl]
  | cons c t ih =>
    obtain ⟨hc, ht⟩ := not_or.mp (List.mem_cons.not.mp h)
    rw [List.cons_append, cut_cons, if_neg (Ne.symm hc), ih ht]

theorem cut_eq_some_iff {mark : CodePoint} {t before after : Text} :
    cut mark t = (before, some after) ↔ t = before ++ mark :: after ∧ mark ∉ before := by
  constructor
  · intro h
    refine ⟨cut_append h, ?_⟩
    induction t generalizing before with
    | nil => cases h
    | cons c t ih =>
      rw [cut_cons] at h
      split at h
      · cases h
        exact List.not_mem_nil
      · rename_i hc
        cases hcut : cut mark t with
        | mk front back =>
          rw [hcut] at h
          cases h
          rw [List.mem_cons, not_or]
          exact ⟨Ne.symm hc, ih hcut⟩
  · rintro ⟨rfl, h⟩
    exact cut_append_mark h

end Text

end BucketMap
