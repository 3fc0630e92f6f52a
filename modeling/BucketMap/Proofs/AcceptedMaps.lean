import BucketMap.Proofs.AcceptedFields

/-!
# Reading partition maps

A map is accepted if all its rows are well-formed, and the first row that is not decides how it is
refused (`verdict_readRows`). `Layout.verdict_read` is the verdict on the whole server map: the
current map is read before the fast-forward map, so its faults come first.
-/

namespace BucketMap

/-! ## Integers -/

theorem integerOfText_ne_infinite (t : Text) : integerOfText t ≠ .error .infinite := by
  unfold integerOfText
  split <;> simp

theorem integerOfFloat_eq_infinite_iff {x : Binary64} :
    integerOfFloat x = .error .infinite ↔ ∃ negative, x = .infinity negative := by
  cases x <;> simp [integerOfFloat, Binary64.truncate?]

theorem writable_integerOfText {t : Text} {n : Int} (h : integerOfText t = .ok n) :
    Numeral.Writable n := by
  unfold integerOfText at h
  split at h
  · rename_i m hm
    cases h
    exact Numeral.writable_of_read hm
  · cases h

theorem writable_integerOfFloat {x : Binary64} (hx : x.InFormat) {n : Int}
    (h : integerOfFloat x = .ok n) : Numeral.Writable n := by
  unfold integerOfFloat at h
  split at h
  · rename_i m hm
    cases h
    exact hx.writable_truncate hm
  · split at h <;> cases h

namespace Json

theorem toInt_eq_infinite_iff {v : Json} : v.toInt = .error .infinite ↔ v.IsInfinite := by
  unfold IsInfinite
  cases v <;> simp [toInt, integerOfFloat_eq_infinite_iff, integerOfText_ne_infinite]

theorem verdict_toInt (v : Json) : Verdict v.toInt v.StandsForInteger v.IsInfinite :=
  ⟨Iff.rfl, toInt_eq_infinite_iff, fun _ _ => .inr trivial⟩

/-- The integer that an admissible value stands for can be written. -/
theorem Admissible.writable_toInt {v : Json} (h : v.Admissible) {n : Int} (hn : v.toInt = .ok n) :
    Numeral.Writable n := by
  cases v with
  | bool b =>
    cases hn
    exact Numeral.fits_of_lt_ten (by split <;> decide) (by decide)
  | int m =>
    cases hn
    rwa [Admissible] at h
  | float x =>
    rw [Admissible] at h
    exact writable_integerOfFloat h hn
  | str t => exact writable_integerOfText hn
  | null => cases hn
  | arr items => cases hn
  | obj fields => cases hn

end Json

/-! ## Rows -/

theorem verdict_integers (values : List Json) :
    Verdict (Partition.integers values) (∀ v ∈ values, v.StandsForInteger)
      (FirstFault Json.StandsForInteger Json.IsInfinite values) := by
  induction values with
  | nil => exact verdict_nil _
  | cons v values ih =>
    rw [Partition.integers]
    exact (Json.verdict_toInt v).cons ih

theorem integers_ne_nil {values : List Json} {ns : List Int} (hne : values ≠ [])
    (h : Partition.integers values = .ok ns) : ns ≠ [] := by
  cases values with
  | nil => exact absurd rfl hne
  | cons v values =>
    rw [Partition.integers] at h
    obtain ⟨n, _, h⟩ := bind_eq_ok_iff.mp h
    obtain ⟨others, _, h⟩ := bind_eq_ok_iff.mp h
    cases h
    exact List.cons_ne_nil _ _

theorem verdict_readOrdinals (map : String) (number : Nat) {items : List Json} (hne : items ≠ [])
    (h : (Json.arr items).Writable) :
    Verdict (readRow map number (.arr items)) (∀ v ∈ items, v.StandsForInteger)
      (FirstFault Json.StandsForInteger Json.IsInfinite items) := by
  cases items with
  | nil => exact absurd rfl hne
  | cons v values =>
    unfold readRow
    dsimp only
    apply (verdict_integers (v :: values)).carry
    · intro ns hns
      obtain ⟨n, others, rfl⟩ := List.exists_cons_of_ne_nil (integers_ne_nil hne hns)
      rw [hns]
      exact ⟨⟨n, others⟩, rfl⟩
    · intro hinfinite
      rw [hinfinite]
      rfl
    · intro e he hother
      rw [he]
      split
      · rename_i hok
        cases hok
      · rename_i hinfinite
        cases hinfinite
        exact absurd rfl hother
      · exact verdict_refuse (by simpa [ConfigurationFault.message] using h)

theorem verdict_readRow (map : String) (number : Nat) {row : Json} (h : row.Writable) :
    Verdict (readRow map number row) (RowWellFormed row) (RowOverflowing row) := by
  have hempty : Verdict (refuse (.emptyRow (Text.ofString map) number) : Except Failure Partition)
      False False := verdict_refuse (by simp [ConfigurationFault.message])
  unfold RowWellFormed RowOverflowing Json.ArrayFaulty
  by_cases hitems : ∃ items, row = .arr items ∧ items ≠ []
  · obtain ⟨items, rfl, hne⟩ := hitems
    exact (verdict_readOrdinals map number hne h).congr (by simp [hne]) (by simp)
  · have hread : readRow map number row = refuse (.emptyRow (Text.ofString map) number) := by
      unfold readRow
      split
      · rfl
      · rename_i items hne
        exact absurd ⟨items, rfl, hne⟩ hitems
      · rfl
    rw [hread]
    refine hempty.congr ?_ ?_
    · rw [false_iff]
      rintro ⟨items, rfl, hne, _⟩
      exact hitems ⟨items, rfl, hne⟩
    · rw [false_iff]
      rintro ⟨items, rfl, hfault⟩
      apply hitems
      refine ⟨items, rfl, ?_⟩
      rintro rfl
      exact firstFault_nil hfault

theorem verdict_readRows (map : String) (number : Nat) {rows : List Json}
    (h : ∀ row ∈ rows, row.Writable) :
    Verdict (readRows map number rows) (∀ row ∈ rows, RowWellFormed row)
      (FirstFault RowWellFormed RowOverflowing rows) := by
  induction rows generalizing number with
  | nil => exact verdict_nil _
  | cons row rows ih =>
    obtain ⟨hrow, hrows⟩ := List.forall_mem_cons.mp h
    rw [readRows]
    exact (verdict_readRow map number hrow).cons (ih (number + 1) hrows)

/-! ## The server map -/

theorem verdict_readForward {forward : Option (List Json)}
    (h : ∀ row ∈ forward.getD [], row.Writable) :
    Verdict (readForward forward) (∀ row ∈ forward.getD [], RowWellFormed row)
      (FirstFault RowWellFormed RowOverflowing (forward.getD [])) := by
  cases forward with
  | none => exact verdict_nil _
  | some rows =>
    cases rows with
    | nil => exact verdict_nil _
    | cons row rows =>
      rw [readForward]
      · exact (verdict_readRows _ 0 h).then_pure _
      · simp

namespace Layout

variable {fields : Fields}

theorem serverMapWellFormed_iff :
    (fields.Required "serverList" Json.IsArray ∧ fields.Required "vBucketMap" Json.IsArray ∧
      fields.Required "vBucketMap" (Json.ArrayOf RowWellFormed) ∧
      fields.Optional "vBucketMapForward" Json.IsArray ∧
      fields.Optional "vBucketMapForward" (Json.ArrayOf RowWellFormed) ∧
      fields.Required "numReplicas" Json.IsInteger) ↔ ServerMapWellFormed fields := by
  constructor
  · rintro ⟨hservers, _, hcurrent, _, hforward, hreplicas⟩
    exact ⟨hservers, hcurrent, hforward, hreplicas⟩
  · rintro ⟨hservers, hcurrent, hforward, hreplicas⟩
    have hrows := hcurrent.mono fun _ => Json.ArrayOf.isArray
    have hforwardRows := hforward.mono fun _ => Json.ArrayOf.isArray
    exact ⟨hservers, hrows, hcurrent, hforwardRows, hforward, hreplicas⟩

theorem serverMapOverflowing_iff :
    (fields.Required "serverList" Json.IsArray ∧ fields.Required "vBucketMap" Json.IsArray ∧
      (fields.Required "vBucketMap" MapOverflowing ∨
        fields.Required "vBucketMap" (Json.ArrayOf RowWellFormed) ∧
          fields.Optional "vBucketMapForward" Json.IsArray ∧
          fields.Required "vBucketMapForward" MapOverflowing)) ↔ ServerMapOverflowing fields := by
  constructor
  · rintro ⟨hservers, _, hcurrent | ⟨hcurrent, _, hforward⟩⟩
    · exact .current hservers hcurrent
    · exact .forward hservers hcurrent hforward
  · rintro (⟨hservers, hcurrent⟩ | ⟨hservers, hcurrent, hforward⟩)
    · exact ⟨hservers, hcurrent.mono fun _ => Json.ArrayFaulty.isArray, .inl hcurrent⟩
    · have hforwardRows := hforward.optional.mono fun _ => Json.ArrayFaulty.isArray
      exact ⟨hservers, hcurrent.mono fun _ => Json.ArrayOf.isArray,
        .inr ⟨hcurrent, hforwardRows, hforward⟩⟩

/-- The verdict on a server map. -/
theorem verdict_read (h : (Json.obj fields).Admissible) :
    Verdict (Layout.read fields) (ServerMapWellFormed fields) (ServerMapOverflowing fields) := by
  unfold Layout.read
  apply Verdict.congr
  · apply Fields.verdict_array.bind
    intro hosts hhosts
    apply Fields.verdict_array.bind
    intro rows hrows
    have hcurrent := verdict_readRows "vBucketMap" 0
      fun row hrow => (Fields.admissible_of_array h hrows row hrow).writable
    apply (hcurrent.congr (Fields.arrayOf_iff_of_array hrows)
      (Fields.arrayFaulty_iff_of_array hrows)).bind
    intro partitions _
    apply Fields.verdict_array?.bind
    intro forward hforward
    have hahead := verdict_readForward
      fun row hrow => (Fields.admissible_of_array? h hforward row hrow).writable
    apply (hahead.congr (Fields.arrayOf_iff_of_array? hforward)
      (Fields.arrayFaulty_iff_of_array? hforward)).bind
    intro forwardPartitions _
    apply Fields.verdict_integer.bind
    intro replicaCount _
    exact (Fields.verdict_displayAll fun host hhost =>
      (Fields.admissible_of_array h hhosts host hhost).writable).then_pure _
  · rw [← serverMapWellFormed_iff]
    simp only [and_true]
  · rw [← serverMapOverflowing_iff]
    simp only [and_false, or_false, false_or]
    rfl

end Layout

end BucketMap
