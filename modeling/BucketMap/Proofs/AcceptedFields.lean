import BucketMap.Proofs.Grammar

/-!
# Reading fields

What the readers of single fields accept and what they give. None of them fails in another way than
by refusing the document, since their messages name keys and kinds only.
-/

namespace BucketMap

namespace Json

theorem asInteger?_eq_some_iff {v : Json} {n : Int} : v.asInteger? = some n ↔ v = .int n := by
  cases v <;> simp [asInteger?]

theorem asText?_eq_some_iff {v : Json} {t : Text} : v.asText? = some t ↔ v = .str t := by
  cases v <;> simp [asText?]

theorem asArray?_eq_some_iff {v : Json} {items : List Json} :
    v.asArray? = some items ↔ v = .arr items := by
  cases v <;> simp [asArray?]

theorem asObject?_eq_some_iff {v : Json} {fields : List (Text × Json)} :
    v.asObject? = some fields ↔ v = .obj fields := by
  cases v <;> simp [asObject?]

theorem asArray?_eq_none_iff {v : Json} : v.asArray? = none ↔ ¬ v.IsArray := by
  cases v <;> simp [asArray?, IsArray]

theorem asObject?_eq_none_iff {v : Json} : v.asObject? = none ↔ ¬ v.IsObject := by
  cases v <;> simp [asObject?, IsObject]

theorem objectWith_obj_iff {P : List (Text × Json) → Prop} {fields : List (Text × Json)} :
    ObjectWith P (obj fields) ↔ P fields := by
  simp [ObjectWith]

theorem arrayOf_arr_iff {P : Json → Prop} {items : List Json} :
    ArrayOf P (arr items) ↔ ∀ item ∈ items, P item := by
  simp [ArrayOf]

theorem arrayFaulty_arr_iff {Good Bad : Json → Prop} {items : List Json} :
    ArrayFaulty Good Bad (arr items) ↔ FirstFault Good Bad items := by
  simp [ArrayFaulty]

theorem ObjectWith.isObject {P : List (Text × Json) → Prop} {v : Json} (h : v.ObjectWith P) :
    v.IsObject := by
  obtain ⟨fields, hv, _⟩ := h
  exact ⟨fields, hv⟩

theorem ArrayOf.isArray {P : Json → Prop} {v : Json} (h : v.ArrayOf P) : v.IsArray := by
  obtain ⟨items, hv, _⟩ := h
  exact ⟨items, hv⟩

theorem ArrayFaulty.isArray {Good Bad : Json → Prop} {v : Json} (h : v.ArrayFaulty Good Bad) :
    v.IsArray := by
  obtain ⟨items, hv, _⟩ := h
  exact ⟨items, hv⟩

theorem admissible_of_lookup {key : Text} {v : Json} {fields : List (Text × Json)}
    (hf : (obj fields).Admissible) (h : lookup key fields = some v) : v.Admissible := by
  rw [admissible_obj_iff] at hf
  induction fields with
  | nil => cases h
  | cons f fields ih =>
    obtain ⟨hfirst, hothers⟩ := List.forall_mem_cons.mp hf
    obtain ⟨k, value⟩ := f
    rw [lookup] at h
    split at h
    · cases h
      exact hfirst
    · exact ih hothers h

end Json

namespace Fields

variable {α : Type} {fields : Fields} {key : String} {kind? : Json → Option α}

theorem admissible_of_given? {v : Json} (hf : (Json.obj fields).Admissible)
    (h : fields.given? key = some v) : v.Admissible := by
  unfold given? at h
  split at h
  · cases h
  · exact Json.admissible_of_lookup hf h

/-! ## Required fields -/

theorem required_eq_ok_iff {a : α} :
    fields.required key kind? = .ok a ↔ ∃ v, fields.given? key = some v ∧ kind? v = some a := by
  unfold required
  split
  · rename_i hnone
    simp [hnone, refuse]
  · rename_i value hsome
    split
    · rename_i b hb
      simp [hsome, hb]
    · rename_i hb
      simp [hsome, hb, refuse]

theorem onlyRefuses_required : OnlyRefuses (fields.required key kind?) := by
  unfold required
  split
  · exact onlyRefuses_refuse (by simp [ConfigurationFault.message])
  · split
    · exact onlyRefuses_ok _
    · exact onlyRefuses_refuse (by simp [ConfigurationFault.message])

theorem verdict_required {P : Json → Prop} (hP : ∀ v, (∃ a, kind? v = some a) ↔ P v) :
    Verdict (fields.required key kind?) (fields.Required key P) False := by
  refine onlyRefuses_required.verdict.congr ?_ Iff.rfl
  unfold Required
  constructor
  · rintro ⟨a, ha⟩
    obtain ⟨v, hv, hkind⟩ := required_eq_ok_iff.mp ha
    exact ⟨v, hv, (hP v).mp ⟨a, hkind⟩⟩
  · rintro ⟨v, hv, hp⟩
    obtain ⟨a, hkind⟩ := (hP v).mpr hp
    exact ⟨a, required_eq_ok_iff.mpr ⟨v, hv, hkind⟩⟩

theorem integer_eq_ok_iff {n : Int} :
    fields.integer key = .ok n ↔ fields.given? key = some (.int n) := by
  unfold integer
  simp [required_eq_ok_iff, Json.asInteger?_eq_some_iff]

theorem text_eq_ok_iff {t : Text} : fields.text key = .ok t ↔ fields.given? key = some (.str t) := by
  unfold text
  simp [required_eq_ok_iff, Json.asText?_eq_some_iff]

theorem array_eq_ok_iff {items : List Json} :
    fields.array key = .ok items ↔ fields.given? key = some (.arr items) := by
  unfold array
  simp [required_eq_ok_iff, Json.asArray?_eq_some_iff]

theorem object_eq_ok_iff {members : Fields} :
    fields.object key = .ok members ↔ fields.given? key = some (.obj members) := by
  unfold object
  simp [required_eq_ok_iff, Json.asObject?_eq_some_iff]

theorem verdict_integer :
    Verdict (fields.integer key) (fields.Required key Json.IsInteger) False :=
  verdict_required fun v => by simp [Json.asInteger?_eq_some_iff, Json.IsInteger]

theorem verdict_text : Verdict (fields.text key) (fields.Required key Json.IsText) False :=
  verdict_required fun v => by simp [Json.asText?_eq_some_iff, Json.IsText]

theorem verdict_object : Verdict (fields.object key) (fields.Required key Json.IsObject) False :=
  verdict_required fun v => by simp [Json.asObject?_eq_some_iff, Json.IsObject]

theorem verdict_array : Verdict (fields.array key) (fields.Required key Json.IsArray) False :=
  verdict_required fun v => by simp [Json.asArray?_eq_some_iff, Json.IsArray]

/-! ## Optional fields -/

theorem optional_eq_ok_iff {o : Option α} :
    fields.optional key kind? = .ok o ↔
      (fields.given? key = none ∧ o = none) ∨ ∃ a, fields.required key kind? = .ok a ∧ o = some a := by
  unfold optional
  split
  · rename_i hnone
    have hreq : ¬ ∃ a, fields.required key kind? = .ok a := by
      rintro ⟨a, ha⟩
      obtain ⟨v, hv, _⟩ := required_eq_ok_iff.mp ha
      rw [hnone] at hv
      cases hv
    constructor
    · intro h
      cases h
      exact .inl ⟨hnone, rfl⟩
    · rintro (⟨_, rfl⟩ | ⟨a, ha, _⟩)
      · rfl
      · exact absurd ⟨a, ha⟩ hreq
  · rename_i value hsome
    cases fields.required key kind? with
    | error e => simp [hsome, Except.map]
    | ok a => simp [hsome, Except.map, eq_comm]

theorem onlyRefuses_optional : OnlyRefuses (fields.optional key kind?) := by
  unfold optional
  split
  · exact onlyRefuses_ok _
  · intro f hf
    cases hreq : fields.required key kind? with
    | error e =>
      rw [hreq] at hf
      cases hf
      exact onlyRefuses_required f hreq
    | ok a =>
      rw [hreq] at hf
      cases hf

theorem verdict_optional {P : Json → Prop} (hP : ∀ v, (∃ a, kind? v = some a) ↔ P v) :
    Verdict (fields.optional key kind?) (fields.Optional key P) False := by
  refine onlyRefuses_optional.verdict.congr ?_ Iff.rfl
  unfold Optional
  constructor
  · rintro ⟨o, ho⟩ v hv
    rcases optional_eq_ok_iff.mp ho with ⟨hnone, _⟩ | ⟨a, ha, _⟩
    · rw [hnone] at hv
      cases hv
    · obtain ⟨w, hw, hkind⟩ := required_eq_ok_iff.mp ha
      rw [hw] at hv
      cases hv
      exact (hP v).mp ⟨a, hkind⟩
  · intro h
    cases hv : fields.given? key with
    | none => exact ⟨none, optional_eq_ok_iff.mpr (.inl ⟨hv, rfl⟩)⟩
    | some v =>
      obtain ⟨a, hkind⟩ := (hP v).mpr (h v hv)
      exact ⟨some a, optional_eq_ok_iff.mpr (.inr ⟨a, required_eq_ok_iff.mpr ⟨v, hv, hkind⟩, rfl⟩)⟩

theorem array?_eq_ok_iff {o : Option (List Json)} :
    fields.array? key = .ok o ↔ fields.given? key = o.map .arr := by
  unfold array?
  rw [optional_eq_ok_iff]
  cases o with
  | none => simp
  | some items =>
    simp [required_eq_ok_iff, Json.asArray?_eq_some_iff]

theorem verdict_text? : Verdict (fields.text? key) (fields.Optional key Json.IsText) False :=
  verdict_optional fun v => by simp [Json.asText?_eq_some_iff, Json.IsText]

theorem verdict_array? : Verdict (fields.array? key) (fields.Optional key Json.IsArray) False :=
  verdict_optional fun v => by simp [Json.asArray?_eq_some_iff, Json.IsArray]

/-! ## Members of fields -/

section Members

variable {P Q Good Bad : Json → Prop} {v : Json} {items : List Json} {members : Fields}

theorem required_iff_of_given? (h : fields.given? key = some v) :
    fields.Required key P ↔ P v := by
  unfold Required
  rw [h]
  simp

theorem optional_iff_of_given? (h : fields.given? key = some v) :
    fields.Optional key P ↔ P v := by
  unfold Optional
  rw [h]
  simp

theorem Required.mono (h : fields.Required key P) (hPQ : ∀ v, P v → Q v) :
    fields.Required key Q := by
  obtain ⟨v, hv, hp⟩ := h
  exact ⟨v, hv, hPQ v hp⟩

theorem Optional.mono (h : fields.Optional key P) (hPQ : ∀ v, P v → Q v) :
    fields.Optional key Q := by
  intro v hv
  exact hPQ v (h v hv)

theorem Required.optional (h : fields.Required key P) : fields.Optional key P := by
  obtain ⟨v, hv, hp⟩ := h
  exact (optional_iff_of_given? hv).mpr hp

theorem objectWith_iff_of_object {Q : Fields → Prop} (h : fields.object key = .ok members) :
    Q members ↔ fields.Required key (Json.ObjectWith Q) := by
  rw [required_iff_of_given? (object_eq_ok_iff.mp h), Json.objectWith_obj_iff]

theorem arrayOf_iff_of_array (h : fields.array key = .ok items) :
    (∀ item ∈ items, P item) ↔ fields.Required key (Json.ArrayOf P) := by
  rw [required_iff_of_given? (array_eq_ok_iff.mp h), Json.arrayOf_arr_iff]

theorem arrayFaulty_iff_of_array (h : fields.array key = .ok items) :
    FirstFault Good Bad items ↔ fields.Required key (Json.ArrayFaulty Good Bad) := by
  rw [required_iff_of_given? (array_eq_ok_iff.mp h), Json.arrayFaulty_arr_iff]

/-- A missing array counts as an empty one. -/
theorem arrayOf_iff_of_array? {o : Option (List Json)} (h : fields.array? key = .ok o) :
    (∀ item ∈ o.getD [], P item) ↔ fields.Optional key (Json.ArrayOf P) := by
  have hgiven := array?_eq_ok_iff.mp h
  cases o with
  | none =>
    unfold Optional
    rw [hgiven]
    simp
  | some items => rw [optional_iff_of_given? hgiven, Json.arrayOf_arr_iff, Option.getD_some]

theorem arrayFaulty_iff_of_array? {o : Option (List Json)} (h : fields.array? key = .ok o) :
    FirstFault Good Bad (o.getD []) ↔ fields.Required key (Json.ArrayFaulty Good Bad) := by
  have hgiven := array?_eq_ok_iff.mp h
  cases o with
  | none =>
    unfold Required
    rw [hgiven]
    simp [firstFault_nil]
  | some items => rw [required_iff_of_given? hgiven, Json.arrayFaulty_arr_iff, Option.getD_some]

theorem admissible_of_object (hf : (Json.obj fields).Admissible)
    (h : fields.object key = .ok members) : (Json.obj members).Admissible :=
  admissible_of_given? hf (object_eq_ok_iff.mp h)

theorem admissible_of_array (hf : (Json.obj fields).Admissible) (h : fields.array key = .ok items) :
    ∀ item ∈ items, item.Admissible :=
  Json.admissible_arr_iff.mp (admissible_of_given? hf (array_eq_ok_iff.mp h))

theorem admissible_of_array? {o : Option (List Json)} (hf : (Json.obj fields).Admissible)
    (h : fields.array? key = .ok o) : ∀ item ∈ o.getD [], item.Admissible := by
  cases o with
  | none => simp
  | some items =>
    exact Json.admissible_arr_iff.mp (admissible_of_given? hf (array?_eq_ok_iff.mp h))

end Members

/-! ## Texts of values -/

theorem verdict_displayAll {values : List Json} (h : ∀ v ∈ values, v.Writable) :
    Verdict (displayAll values) True False := by
  induction values with
  | nil => exact verdict_ok _
  | cons v values ih =>
    obtain ⟨hv, hvalues⟩ := List.forall_mem_cons.mp h
    obtain ⟨t, ht⟩ := Json.display_of_writable hv
    rw [displayAll, ht]
    exact (ih hvalues).then_pure _

end Fields

/-! ## Two lists of fields -/

section SameAt

variable {fields fields' : Fields} {key : String}

/-- The fields hold the same at a key, where null counts as nothing. -/
def SameAt (key : String) (fields fields' : Fields) : Prop :=
  fields'.given? key = fields.given? key

theorem SameAt.required_eq {α : Type} (h : SameAt key fields fields') (kind? : Json → Option α) :
    fields'.required key kind? = fields.required key kind? := by
  unfold Fields.required
  rw [h]

theorem SameAt.optional_eq {α : Type} (h : SameAt key fields fields') (kind? : Json → Option α) :
    fields'.optional key kind? = fields.optional key kind? := by
  unfold Fields.optional
  rw [h, h.required_eq]

end SameAt

end BucketMap
