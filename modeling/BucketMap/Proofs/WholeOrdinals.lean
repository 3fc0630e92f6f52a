import BucketMap.Proofs.AcceptedDocuments
import BucketMap.Proofs.ListedMaps

/-!
# The numbers in the rows of a map

An ordinal is the integer part of the member of the row that it is read from. For a whole number that
is the number itself (`Json.same_toInt_iff`), while a fraction is dropped without notice. So the
ordinals keep the numbers of a document, and a number with a fraction is refused (`KeepsOrdinals`),
unless a document with such a number in one of its maps is read for all that, or stops at an infinite
number.

* `Document.storesMaps_of_read`: a document that is read has one partition for each row of its maps and
  one ordinal for each member of the row.
* `Document.keepsOrdinals_iff` is the exact condition, and `Document.not_keepsOrdinals` the smallest
  document whose ordinals do not keep its numbers.
-/

namespace BucketMap

open Json

/-! ## Numbers and their integer parts -/

namespace Binary64

/-- A significand that is a multiple of its power of two is divided without a remainder. -/
theorem truncate?_of_signed_eq {negative : Bool} {significand k : Nat} {n : Int}
    (h : signedSignificand negative significand = n * (Nat.pow 2 k : Nat)) :
    (finite negative significand (-k)).truncate? = some n := by
  have hpow : ((Nat.pow 2 k : Nat) : Int) ≠ 0 := by
    exact_mod_cast (Nat.pow_pos (by decide)).ne'
  have hmagnitude : (significand : Int) = (if negative then -n else n) * (Nat.pow 2 k : Nat) := by
    unfold signedSignificand at h
    cases negative with
    | true =>
      rw [if_pos rfl] at h ⊢
      rw [Int.neg_mul, ← h, Int.neg_neg]
    | false => exact h
  have hquotient : (significand : Int) / (Nat.pow 2 k : Nat) = if negative then -n else n := by
    rw [hmagnitude, Int.mul_ediv_cancel _ hpow]
  have hsign :
      (if negative then -(if negative then -n else n) else if negative then -n else n) = n := by
    cases negative <;> simp
  unfold truncate?
  dsimp only
  rw [neg_neg, Int.toNat_natCast, hquotient]
  -- With the exponent zero the significand is multiplied instead, by one.
  by_cases hk : 0 ≤ -(k : Int)
  · obtain rfl : k = 0 := by omega
    have hone : (significand : Int) * (Nat.pow 2 (-((0 : Nat) : Int)).toNat : Nat) =
        if negative then -n else n := by
      simpa using hmagnitude
    rw [hone, ite_self, hsign]
  · rw [if_neg hk, hsign]

theorem truncate?_of_sameAsInt {x : Binary64} {n : Int} (h : x.sameAsInt n = true) :
    x.truncate? = some n := by
  cases x with
  | nan => cases h
  | infinity negative => cases h
  | finite negative significand exponent =>
    unfold sameAsInt sameScaled at h
    dsimp only at h
    split at h
    · obtain ⟨k, rfl⟩ : ∃ k : Nat, exponent = -(k : Int) := ⟨(-exponent).toNat, by omega⟩
      apply truncate?_of_signed_eq
      simpa using h
    · have hpos : 0 ≤ exponent := by omega
      have hvalue := of_decide_eq_true h
      unfold truncate?
      dsimp only
      rw [if_pos hpos, ← hvalue, sub_zero]
      unfold signedSignificand
      cases negative <;> simp

end Binary64

namespace Json

/-- A number, with or without a fraction. The infinite ones and the one that is no number count. -/
def IsNumber (v : Json) : Prop := v.IsInteger ∨ ∃ x, v = float x

/-- The value is equal to an integer. -/
def IsWhole (v : Json) : Prop := ∃ n, v.same (int n) = true

/-- A number that is equal to no integer. -/
def IsFractional (v : Json) : Prop := v.IsNumber ∧ ¬ v.IsWhole

/-- A number is equal to its integer part only. -/
theorem eq_of_same_int {v : Json} {n o : Int} (hv : v.IsNumber) (ho : v.toInt = .ok o)
    (h : v.same (int n) = true) : n = o := by
  rcases hv with ⟨m, rfl⟩ | ⟨x, rfl⟩
  · cases ho
    simpa [same, integer?] using h
  · have hsame : x.sameAsInt n = true := by simpa [same, integer?] using h
    have htruncate := Binary64.truncate?_of_sameAsInt hsame
    unfold toInt integerOfFloat at ho
    simp only [htruncate] at ho
    exact Except.ok.inj ho

theorem same_toInt_iff {v : Json} {o : Int} (hv : v.IsNumber) (ho : v.toInt = .ok o) :
    v.same (int o) = true ↔ v.IsWhole := by
  constructor
  · intro h
    exact ⟨o, h⟩
  · rintro ⟨n, h⟩
    rwa [← eq_of_same_int hv ho h]

end Json

/-! ## Rows and partitions -/

/-- The ordinal is the integer that the value stands for. If the value is a number, the two are equal
exactly if the number is whole. -/
def IntegerPart (v : Json) (ordinal : Int) : Prop :=
  v.toInt = .ok ordinal ∧ (v.IsNumber → (v.same (.int ordinal) = true ↔ v.IsWhole))

/-- The ordinal is equal to the value if that is a number. -/
def KeepsNumber (v : Json) (ordinal : Int) : Prop := v.IsNumber → v.same (.int ordinal) = true

/-- Related lists stay related if the members of the first one allow it. -/
theorem forall₂_imp_of_mem {α β : Type} {R S : α → β → Prop} {xs : List α} {ys : List β}
    (h : List.Forall₂ R xs ys) (hRS : ∀ x ∈ xs, ∀ y, R x y → S x y) : List.Forall₂ S xs ys := by
  have hboth := (List.forall₂_and_left xs ys).mpr ⟨hRS, h⟩
  exact hboth.imp fun x y hxy => hxy.1 y hxy.2

theorem StoresRows.imp {R S : Json → Int → Prop} {rows : List Json} {partitions : List Partition}
    (h : StoresRows R rows partitions)
    (hRS : ∀ items, .arr items ∈ rows → ∀ v ∈ items, ∀ o, R v o → S v o) :
    StoresRows S rows partitions := by
  refine forall₂_imp_of_mem h ?_
  rintro row hrow p ⟨items, rfl, hitems⟩
  exact ⟨items, rfl, forall₂_imp_of_mem hitems (hRS items hrow)⟩

theorem storesRows_integerPart {map : String} {number : Nat} {rows : List Json}
    {partitions : List Partition} (h : readRows map number rows = .ok partitions) :
    StoresRows IntegerPart rows partitions :=
  (storesRows_of_readRows h).imp fun _ _ _ _ _ ho => ⟨ho, fun hv => same_toInt_iff hv ho⟩

/-! ## Maps of a document -/

/-- The document lists these rows in the map with the given key. -/
def ListsRows (v : Json) (key : String) (rows : List Json) : Prop :=
  v.ObjectWith fun fields => Fields.Required fields "vBucketServerMap"
    (ObjectWith fun serverMap => Fields.given? serverMap key = some (.arr rows))

/-- The layout has the maps that the document lists. A fast-forward map without rows counts as none. -/
structure StoresMaps (R : Json → Int → Prop) (v : Json) (l : Layout) : Prop where
  current : ∃ rows, ListsRows v "vBucketMap" rows ∧ StoresRows R rows l.partitions
  forward : ∀ rows, ListsRows v "vBucketMapForward" rows → rows ≠ [] →
    ∃ partitions, l.forward = some partitions ∧ StoresRows R rows partitions

/-- Some row of a map of the document holds a number that is equal to no integer. -/
def HoldsFraction (v : Json) : Prop :=
  ∃ key rows items, (key = "vBucketMap" ∨ key = "vBucketMapForward") ∧ ListsRows v key rows ∧
    .arr items ∈ rows ∧ ∃ x ∈ items, x.IsFractional

/-- Ordinals are equal to the numbers that the document lists for them, and a document with a number
that is equal to no integer is refused. -/
structure KeepsOrdinals (v : Json) (outcome : Except Failure Document) : Prop where
  stored : ∀ doc, outcome = .ok doc → StoresMaps KeepsNumber v doc.layout
  refused : HoldsFraction v → ∃ f, outcome = .error f ∧ f.family = .configuration

theorem listsRows_iff {fields serverMap : Fields} {key : String} {rows : List Json}
    (h : fields.given? "vBucketServerMap" = some (.obj serverMap)) :
    ListsRows (.obj fields) key rows ↔ serverMap.given? key = some (.arr rows) := by
  unfold ListsRows
  rw [objectWith_obj_iff, Fields.required_iff_of_given? h, objectWith_obj_iff]

theorem forward_of_readForward_cons {row : Json} {rows : List Json}
    {forward : Option (List Partition)} (h : readForward (some (row :: rows)) = .ok forward) :
    ∃ partitions, forward = some partitions ∧ StoresRows IntegerPart (row :: rows) partitions := by
  unfold readForward at h
  obtain ⟨partitions, hpartitions, h⟩ := bind_eq_ok_iff.mp h
  cases h
  exact ⟨partitions, rfl, storesRows_integerPart hpartitions⟩

/-- The maps of a layout that is read from a server map. -/
theorem Layout.storesMaps_of_read {fields serverMap : Fields} {l : Layout}
    (hmap : fields.given? "vBucketServerMap" = some (.obj serverMap))
    (h : Layout.read serverMap = .ok l) : StoresMaps IntegerPart (.obj fields) l := by
  unfold Layout.read at h
  obtain ⟨hosts, -, h⟩ := bind_eq_ok_iff.mp h
  obtain ⟨rows, hrows, h⟩ := bind_eq_ok_iff.mp h
  obtain ⟨partitions, hpartitions, h⟩ := bind_eq_ok_iff.mp h
  obtain ⟨ahead, hahead, h⟩ := bind_eq_ok_iff.mp h
  obtain ⟨forward, hforward, h⟩ := bind_eq_ok_iff.mp h
  obtain ⟨_, -, h⟩ := bind_eq_ok_iff.mp h
  obtain ⟨_, -, h⟩ := bind_eq_ok_iff.mp h
  cases h
  constructor
  · exact ⟨rows, (listsRows_iff hmap).mpr (Fields.array_eq_ok_iff.mp hrows),
      storesRows_integerPart hpartitions⟩
  · intro rows' hrows' hne
    have hgiven := (listsRows_iff hmap).mp hrows'
    rw [Fields.array?_eq_ok_iff.mp hahead] at hgiven
    obtain ⟨items, rfl, heq⟩ := Option.map_eq_some_iff.mp hgiven
    cases heq
    obtain ⟨row, others, rfl⟩ := List.exists_cons_of_ne_nil hne
    exact forward_of_readForward_cons hforward

theorem StoresMaps.keepsNumber {v : Json} {l : Layout} (h : StoresMaps IntegerPart v l)
    (hno : ¬ HoldsFraction v) : StoresMaps KeepsNumber v l := by
  have hkeeps : ∀ key rows, key = "vBucketMap" ∨ key = "vBucketMapForward" → ListsRows v key rows →
      ∀ items, .arr items ∈ rows → ∀ x ∈ items, ∀ o, IntegerPart x o → KeepsNumber x o := by
    intro key rows hkey hrows items hitems x hx o ho hnumber
    by_contra hne
    have hwhole : ¬ x.IsWhole := fun hw => hne ((ho.2 hnumber).mpr hw)
    exact hno ⟨key, rows, items, hkey, hrows, hitems, x, hx, hnumber, hwhole⟩
  constructor
  · obtain ⟨rows, hrows, hstores⟩ := h.current
    exact ⟨rows, hrows, hstores.imp (hkeeps _ rows (.inl rfl) hrows)⟩
  · intro rows hrows hne
    obtain ⟨partitions, hforward, hstores⟩ := h.forward rows hrows hne
    exact ⟨partitions, hforward, hstores.imp (hkeeps _ rows (.inr rfl) hrows)⟩

namespace Document

theorem storesMaps_of_read {defaults : PortDefaults} {source : Source} {v : Json}
    {doc : BucketMap.Document} (hv : decode source = .ok v)
    (h : (read defaults source).outcome = .ok doc) : StoresMaps IntegerPart v doc.layout := by
  obtain ⟨v', hv', hvalue⟩ := read_outcome_eq_ok_iff.mp h
  cases hv.symm.trans hv'
  cases v with
  | obj fields =>
    obtain ⟨serverMap, hmap, hlayout⟩ := readFields_layout hvalue
    exact Layout.storesMaps_of_read hmap hlayout
  | _ => cases hvalue

theorem verdict_read_of_decode (defaults : PortDefaults) {source : Source} {v : Json}
    (hs : source.Admissible) (hv : decode source = .ok v) :
    Verdict (read defaults source).outcome (WellFormed ExtendedWellFormed v) (Overflowing v) :=
  (verdict_read defaults hs (by simp [hv])).congr (by simp [hv]) (by simp [hv])

/-- **Ordinals and numbers.** A document that is read has an ordinal for each member of the rows of its
maps, the integer part of that member. The ordinals keep the numbers, and fractions are refused, unless
a document with a fraction is read, or stops at an infinite number. -/
theorem keepsOrdinals_iff (defaults : PortDefaults) {source : Source} {v : Json}
    (hs : source.Admissible) (hv : decode source = .ok v) :
    (∀ doc, (read defaults source).outcome = .ok doc → StoresMaps IntegerPart v doc.layout) ∧
    (KeepsOrdinals v (read defaults source).outcome ↔
      ¬ (HoldsFraction v ∧ (WellFormed ExtendedWellFormed v ∨ Overflowing v))) := by
  have hverdict := verdict_read_of_decode defaults hs hv
  refine ⟨fun doc hdoc => storesMaps_of_read hv hdoc, ?_, ?_⟩
  · rintro hkeeps ⟨hfraction, hread⟩
    obtain ⟨f, hf, hfamily⟩ := hkeeps.refused hfraction
    rcases hread with hform | hoverflow
    · obtain ⟨doc, hdoc⟩ := hverdict.accepts_iff.mpr hform
      cases hf.symm.trans hdoc
    · cases hf.symm.trans (hverdict.stops_iff.mpr hoverflow)
      cases hfamily
  · intro hno
    constructor
    · intro doc hdoc
      have hform := hverdict.accepts_iff.mp ⟨doc, hdoc⟩
      exact (storesMaps_of_read hv hdoc).keepsNumber fun hfraction => hno ⟨hfraction, .inl hform⟩
    · intro hfraction
      have honly := hverdict.onlyRefuses_iff.mpr fun hoverflow => hno ⟨hfraction, .inr hoverflow⟩
      refine honly.exists_error fun hread => hno ⟨hfraction, .inl ?_⟩
      exact hverdict.accepts_iff.mp hread

/-! ### A master between two hosts -/

/-- A document whose only partition has this value in the place of its master. -/
def mastered (master : Json) : Json :=
  .obj [(Text.ofString "rev", .int 1), (Text.ofString "name", .str (Text.ofString "b")),
    (Text.ofString "vBucketServerMap",
      .obj [(Text.ofString "serverList", .arr []),
        (Text.ofString "vBucketMap", .arr [.arr [master]]), (Text.ofString "numReplicas", .int 0)]),
    (Text.ofString "nodes", .arr [])]

/-- The number 0.5. -/
def half : Json := .float (.finite false 1 (-1))

/-- The number 1.0. -/
def one : Json := .float (.finite false 1 0)

theorem admissible_mastered {master : Json} (h : master.Admissible) : (mastered master).Admissible := by
  simpa [mastered, Admissible, ItemsAdmissible, FieldsAdmissible] using h

theorem admissible_half : half.Admissible := by
  rw [half, Admissible]
  exact ⟨by decide, by decide, by decide⟩

theorem admissible_one : one.Admissible := by
  rw [one, Admissible]
  exact ⟨by decide, by decide, by decide⟩

theorem listsRows_mastered (master : Json) :
    ListsRows (mastered master) "vBucketMap" [.arr [master]] :=
  ⟨_, rfl, _, rfl, _, rfl, rfl⟩

theorem isFractional_half : half.IsFractional := by
  refine ⟨.inr ⟨_, rfl⟩, ?_⟩
  rintro ⟨n, hn⟩
  -- The integer part is zero, and 0.5 is not equal to it.
  have hzero : n = 0 := eq_of_same_int (.inr ⟨_, rfl⟩) rfl hn
  subst hzero
  exact absurd hn (by decide)

theorem not_holdsFraction_one : ¬ HoldsFraction (mastered one) := by
  rintro ⟨key, rows, items, hkey, hrows, hitems, x, hx, -, hwhole⟩
  have hmap := (listsRows_iff rfl).mp hrows
  rcases hkey with rfl | rfl
  · cases hmap
    cases List.mem_singleton.mp hitems
    cases List.mem_singleton.mp hx
    exact hwhole ⟨1, rfl⟩
  · cases hmap

/-- A whole number is kept, although it is written with a point. -/
theorem keepsOrdinals_iff_one :
    (Source.value (mastered one)).Admissible ∧
      decode (.value (mastered one)) = .ok (mastered one) ∧
      (∃ doc, (read ⟨11210, 8091⟩ (.value (mastered one))).outcome = .ok doc ∧
        doc.layout.partitions = [⟨1, []⟩]) ∧
      KeepsOrdinals (mastered one) (read ⟨11210, 8091⟩ (.value (mastered one))).outcome := by
  have hs : (Source.value (mastered one)).Admissible := admissible_mastered admissible_one
  have hv : decode (.value (mastered one)) = .ok (mastered one) := rfl
  refine ⟨hs, hv, ⟨_, rfl, rfl⟩, (keepsOrdinals_iff ⟨11210, 8091⟩ hs hv).2.mpr ?_⟩
  exact fun h => not_holdsFraction_one h.1

/-- Half a number is read as the ordinal zero. -/
theorem not_keepsOrdinals :
    ¬ ∀ (defaults : PortDefaults) (source : Source) (v : Json), source.Admissible →
      decode source = .ok v → KeepsOrdinals v (read defaults source).outcome := by
  intro h
  have hread : ∃ doc, (read ⟨11210, 8091⟩ (.value (mastered half))).outcome = .ok doc ∧
      doc.layout.partitions = [⟨0, []⟩] := ⟨_, rfl, rfl⟩
  have hfraction : HoldsFraction (mastered half) :=
    ⟨_, _, _, .inl rfl, listsRows_mastered half, List.mem_cons_self, half, List.mem_cons_self,
      isFractional_half⟩
  have hkeeps := h ⟨11210, 8091⟩ (.value (mastered half)) _ (admissible_mastered admissible_half) rfl
  obtain ⟨doc, hdoc, -⟩ := hread
  obtain ⟨f, hf, -⟩ := hkeeps.refused hfraction
  cases hf.symm.trans hdoc

end Document

end BucketMap
