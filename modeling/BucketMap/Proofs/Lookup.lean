import BucketMap.Proofs.BuiltConfig

/-!
# Looking up owners

What the queries of a config answer. A lookup gives the ordinal at the position, or `notExistent`
for a position outside the map (`BucketConfig.masterOrdinal_of_standsAt`,
`BucketConfig.masterOrdinal_of_outside` and their siblings for replicas). For a built config that
ordinal marks a missing owner or has a partition host, so the answer `notExistent` always means what
it says, in the current map and in the fast-forward map (`BucketConfig.lookups_resolve`).
-/

namespace BucketMap

/-! ## Positions -/

/-- The element stands at the position. -/
def StandsAt {α : Type} (xs : List α) (position : Int) (x : α) : Prop :=
  ∃ k : Nat, position = k ∧ xs[k]? = some x

/-- The list has no such position. -/
def Outside {α : Type} (xs : List α) (position : Int) : Prop :=
  position < 0 ∨ xs.length ≤ position

section Positions

variable {α : Type} {xs : List α} {position : Int}

theorem StandsAt.mem {x : α} (h : StandsAt xs position x) : x ∈ xs := by
  obtain ⟨k, _, hk⟩ := h
  exact List.mem_of_getElem? hk

theorem StandsAt.nonneg {x : α} (h : StandsAt xs position x) : 0 ≤ position := by
  obtain ⟨k, rfl, _⟩ := h
  omega

theorem elementAt?_eq_some_iff {x : α} :
    BucketConfig.elementAt? xs position = some x ↔ StandsAt xs position x := by
  unfold BucketConfig.elementAt? StandsAt
  constructor
  · intro h
    split at h
    · rename_i hpos
      exact ⟨position.toNat, (Int.toNat_of_nonneg hpos).symm, h⟩
    · cases h
  · rintro ⟨k, rfl, hk⟩
    rw [if_pos (Int.natCast_nonneg k), Int.toNat_natCast]
    exact hk

theorem elementAt?_eq_none_iff :
    BucketConfig.elementAt? xs position = none ↔ Outside xs position := by
  unfold BucketConfig.elementAt? Outside
  split
  · rename_i hpos
    rw [List.getElem?_eq_none_iff]
    omega
  · rename_i hneg
    constructor
    · intro _
      omega
    · intro _
      rfl

theorem exists_standsAt (h : ¬ Outside xs position) : ∃ x, StandsAt xs position x := by
  cases hx : BucketConfig.elementAt? xs position with
  | none => exact absurd (elementAt?_eq_none_iff.mp hx) h
  | some x => exact ⟨x, elementAt?_eq_some_iff.mp hx⟩

theorem StandsAt.not_outside {x : α} (h : StandsAt xs position x) : ¬ Outside xs position := by
  rw [← elementAt?_eq_none_iff, elementAt?_eq_some_iff.mpr h]
  simp

theorem StandsAt.unique {x y : α} (hx : StandsAt xs position x) (hy : StandsAt xs position y) :
    x = y := by
  have he := elementAt?_eq_some_iff.mpr hx
  rw [elementAt?_eq_some_iff.mpr hy] at he
  exact (Option.some.inj he).symm

end Positions

namespace BucketConfig

variable {c : BucketConfig} {forward : Bool} {partitions : List Partition} {p r : Int}

/-! ## The two lookups -/

theorem masterOrdinal_of_standsAt {q : Partition} (hm : c.map forward = .ok partitions)
    (hq : StandsAt partitions p q) : (c.masterOrdinal p forward).outcome = .ok q.master := by
  unfold masterOrdinal
  rw [hm, Run.ofExcept_ok, Run.bind_eq, Run.ok_andThen, elementAt?_eq_some_iff.mpr hq]
  rfl

theorem masterOrdinal_of_outside (hm : c.map forward = .ok partitions) (hp : Numeral.Writable p)
    (hout : Outside partitions p) : (c.masterOrdinal p forward).outcome = .ok notExistent := by
  unfold masterOrdinal
  rw [hm, Run.ofExcept_ok, Run.bind_eq, Run.ok_andThen, elementAt?_eq_none_iff.mpr hout]
  dsimp only
  rw [Run.outcome_bind_of_ok (Run.outcome_emit (by simpa using hp))]
  rfl

/-- The replica stands in the row of the partition. -/
def ReplicaAt (partitions : List Partition) (p r ordinal : Int) : Prop :=
  ∃ q, StandsAt partitions p q ∧ StandsAt q.replicas r ordinal

/-- The partition or the replica is not there. -/
def ReplicaOutside (partitions : List Partition) (p r : Int) : Prop :=
  Outside partitions p ∨ ∃ q, StandsAt partitions p q ∧ Outside q.replicas r

theorem elementAt?_bind_eq_some {ordinal : Int} (h : ReplicaAt partitions p r ordinal) :
    ((elementAt? partitions p).bind fun q => elementAt? q.replicas r) = some ordinal := by
  obtain ⟨q, hq, ho⟩ := h
  rw [elementAt?_eq_some_iff.mpr hq, Option.bind_some]
  exact elementAt?_eq_some_iff.mpr ho

theorem elementAt?_bind_eq_none (h : ReplicaOutside partitions p r) :
    ((elementAt? partitions p).bind fun q => elementAt? q.replicas r) = none := by
  rcases h with hp | ⟨q, hq, hr⟩
  · rw [elementAt?_eq_none_iff.mpr hp, Option.bind_none]
  · rw [elementAt?_eq_some_iff.mpr hq, Option.bind_some]
    exact elementAt?_eq_none_iff.mpr hr

theorem exists_replicaAt (h : ¬ ReplicaOutside partitions p r) :
    ∃ ordinal, ReplicaAt partitions p r ordinal := by
  obtain ⟨q, hq⟩ := exists_standsAt fun hp => h (.inl hp)
  obtain ⟨ordinal, ho⟩ := exists_standsAt fun hr => h (.inr ⟨q, hq, hr⟩)
  exact ⟨ordinal, q, hq, ho⟩

theorem replicaOrdinal_of_replicaAt {ordinal : Int} (hm : c.map forward = .ok partitions)
    (ho : ReplicaAt partitions p r ordinal) :
    (c.replicaOrdinal p r forward).outcome = .ok ordinal := by
  unfold replicaOrdinal
  rw [hm, Run.ofExcept_ok, Run.bind_eq, Run.ok_andThen, elementAt?_bind_eq_some ho]
  rfl

theorem replicaOrdinal_of_outside (hm : c.map forward = .ok partitions) (hp : Numeral.Writable p)
    (hr : Numeral.Writable r) (hout : ReplicaOutside partitions p r) :
    (c.replicaOrdinal p r forward).outcome = .ok notExistent := by
  unfold replicaOrdinal
  rw [hm, Run.ofExcept_ok, Run.bind_eq, Run.ok_andThen, elementAt?_bind_eq_none hout]
  dsimp only
  rw [Run.outcome_bind_of_ok (Run.outcome_emit (by simpa using ⟨hr, hp⟩))]
  rfl

/-! ## Ordinals of a built config -/

/-- The ordinal marks a missing owner or has a partition host. -/
def Resolvable (c : BucketConfig) (ordinal : Int) : Prop :=
  ordinal = noOwner ∨ ∃ n, c.nodeAt ordinal = .ok n

theorem nodeAt_eq_ok_iff {ordinal : Int} {n : Node} :
    c.nodeAt ordinal = .ok n ↔ StandsAt c.hosts ordinal n := by
  rw [← elementAt?_eq_some_iff]
  unfold nodeAt
  cases elementAt? c.hosts ordinal with
  | none =>
    constructor
    · intro h
      cases h
    · intro h
      cases h
  | some node =>
    constructor
    · intro h
      cases h
      rfl
    · intro h
      cases h
      rfl

theorem resolvable_of_inRange {ordinal : Int} (h : OrdinalInRange c.hosts.length ordinal) :
    c.Resolvable ordinal := by
  obtain ⟨hlow, hhigh⟩ := h
  by_cases hown : ordinal = noOwner
  · exact .inl hown
  · have hin : ¬ Outside c.hosts ordinal := by
      unfold Outside
      unfold noOwner at hlow hown
      omega
    obtain ⟨n, hn⟩ := exists_standsAt hin
    exact .inr ⟨n, nodeAt_eq_ok_iff.mpr hn⟩

theorem Resolvable.ne_notExistent {ordinal : Int} (h : c.Resolvable ordinal) :
    ordinal ≠ notExistent := by
  rcases h with rfl | ⟨n, hn⟩
  · decide
  · rintro rfl
    obtain ⟨k, hk, _⟩ := nodeAt_eq_ok_iff.mp hn
    unfold notExistent at hk
    omega

theorem Sound.resolvable {q : Partition} {ordinal : Int} (h : c.Sound)
    (hm : c.map forward = .ok partitions) (hq : StandsAt partitions p q) (ho : ordinal ∈ q.row) :
    c.Resolvable ordinal :=
  resolvable_of_inRange (h.map_inRange hm q hq.mem ordinal ho)

/-- What the lookups of a position in these partitions answer: that it does not exist exactly if it is
outside of them, and otherwise the ordinal there, which nobody owns or which has a node. -/
structure ResolvesAt (c : BucketConfig) (forward : Bool) (partitions : List Partition) (p r : Int) :
    Prop where
  master : ∃ m, (c.masterOrdinal p forward).outcome = .ok m ∧
    (m = notExistent ↔ Outside partitions p) ∧ (m = notExistent ∨ c.Resolvable m) ∧
    ∀ q, StandsAt partitions p q → m = q.master
  replica : ∃ o, (c.replicaOrdinal p r forward).outcome = .ok o ∧
    (o = notExistent ↔ ReplicaOutside partitions p r) ∧ (o = notExistent ∨ c.Resolvable o) ∧
    ∀ ordinal, ReplicaAt partitions p r ordinal → o = ordinal

theorem ReplicaAt.not_outside {ordinal : Int} (h : ReplicaAt partitions p r ordinal) :
    ¬ ReplicaOutside partitions p r := by
  intro hout
  have hsome := elementAt?_bind_eq_some h
  rw [elementAt?_bind_eq_none hout] at hsome
  cases hsome

theorem ReplicaAt.unique {ordinal ordinal' : Int} (h : ReplicaAt partitions p r ordinal)
    (h' : ReplicaAt partitions p r ordinal') : ordinal = ordinal' := by
  have hsome := elementAt?_bind_eq_some h
  rw [elementAt?_bind_eq_some h'] at hsome
  exact (Option.some.inj hsome).symm

theorem Sound.resolvesAt (h : c.Sound) (hm : c.map forward = .ok partitions)
    (hp : Numeral.Writable p) (hr : Numeral.Writable r) : c.ResolvesAt forward partitions p r := by
  constructor
  · by_cases hout : Outside partitions p
    · exact ⟨notExistent, masterOrdinal_of_outside hm hp hout, by simp [hout], .inl rfl,
        fun q hq => absurd hout hq.not_outside⟩
    · obtain ⟨q, hq⟩ := exists_standsAt hout
      have hres : c.Resolvable q.master := h.resolvable hm hq List.mem_cons_self
      refine ⟨q.master, masterOrdinal_of_standsAt hm hq, ?_, .inr hres, ?_⟩
      · simp [hout, hres.ne_notExistent]
      · intro q' hq'
        rw [hq.unique hq']
  · by_cases hout : ReplicaOutside partitions p r
    · exact ⟨notExistent, replicaOrdinal_of_outside hm hp hr hout, by simp [hout], .inl rfl,
        fun ordinal ho => absurd hout ho.not_outside⟩
    · obtain ⟨ordinal, q, hq, ho⟩ := exists_replicaAt hout
      have hat : ReplicaAt partitions p r ordinal := ⟨q, hq, ho⟩
      have hres : c.Resolvable ordinal := h.resolvable hm hq (List.mem_cons_of_mem _ ho.mem)
      refine ⟨ordinal, replicaOrdinal_of_replicaAt hm hat, ?_, .inr hres, fun _ => hat.unique⟩
      simp [hout, hres.ne_notExistent]

/-- **No dangling ordinals.** In the current map of a built config, and in its fast-forward map if it
has one, a lookup answers that a position does not exist exactly if it is outside the map, and
otherwise that nobody owns it or an ordinal that has a node. -/
theorem lookups_resolve {log : Option Channel} {d : Document} {c : BucketConfig}
    (hb : (build log d).outcome = .ok c) {p r : Int} (hp : Numeral.Fits 4000 p)
    (hr : Numeral.Fits 4000 r) :
    c.ResolvesAt false c.layout.partitions p r ∧
      ∀ partitions, c.layout.forward = some partitions → c.ResolvesAt true partitions p r := by
  have hsound : c.Sound := (builtFrom_of_build hb).sound
  have hpw : Numeral.Writable p := hp.writable (by decide)
  have hrw : Numeral.Writable r := hr.writable (by decide)
  refine ⟨hsound.resolvesAt (map_false c) hpw hrw, fun partitions hforward => ?_⟩
  exact hsound.resolvesAt (map_true_of_forward hforward) hpw hrw

/-- A bucket with two partitions, one of them without an owner, in the middle of a rebalance. -/
def rebalancing : Document :=
  { rev := 7
    name := Text.ofString "b"
    uri := none
    streamingUri := none
    layout :=
      { replicaCount := 1
        descriptors := [.str (Text.ofString "x:1"), .str (Text.ofString "y:1")]
        partitions := [⟨1, [0]⟩, ⟨-1, [0]⟩]
        forward := some [⟨0, [1, -1]⟩]
        tainted := true }
    nodes := [⟨Text.ofString "x", [(.data, 1)]⟩, ⟨Text.ofString "y", [(.data, 1)]⟩]
    capabilities := none }

/-- The config of that bucket. -/
def rebalanced : BucketConfig :=
  { rev := 7
    name := Text.ofString "b"
    uri := none
    streamingUri := none
    nodes := rebalancing.nodes
    layout := rebalancing.layout
    hosts := rebalancing.nodes
    primaries := [Text.ofString "y"]
    ephemeral := false }

theorem build_rebalancing : (build none rebalancing).outcome = .ok rebalanced := rfl

/-- The master of the second partition is not assigned yet, and the fast-forward map has no second
partition. -/
theorem lookups_resolve_rebalanced :
    (build none rebalancing).outcome = .ok rebalanced ∧ Numeral.Fits 4000 1 ∧
      Numeral.Fits 4000 0 ∧
      rebalanced.layout.forward = some [⟨0, [1, -1]⟩] ∧
      (rebalanced.masterOrdinal 1 false).outcome = .ok noOwner ∧
      (rebalanced.replicaOrdinal 1 0 false).outcome = .ok 0 ∧ rebalanced.Resolvable 0 ∧
      (rebalanced.masterOrdinal 1 true).outcome = .ok notExistent ∧
      (rebalanced.replicaOrdinal 1 0 true).outcome = .ok notExistent := by
  have hone : Numeral.Fits 4000 1 := Numeral.fits_of_lt_ten (by decide) (by decide)
  have hzero : Numeral.Fits 4000 0 := Numeral.fits_of_lt_ten (by decide) (by decide)
  have hforward : rebalanced.layout.forward = some [⟨0, [1, -1]⟩] := rfl
  obtain ⟨hcurrent, hahead⟩ := lookups_resolve build_rebalancing hone hzero
  obtain ⟨⟨m, hm, -, -, hmaster⟩, o, ho, -, hresolvable, hreplica⟩ := hcurrent
  obtain ⟨⟨m', hm', hmout, -⟩, o', ho', hoout, -⟩ := hahead _ hforward
  obtain rfl : m = noOwner := hmaster ⟨-1, [0]⟩ ⟨1, rfl, rfl⟩
  obtain rfl : o = 0 := hreplica 0 ⟨⟨-1, [0]⟩, ⟨1, rfl, rfl⟩, ⟨0, rfl, rfl⟩⟩
  have hout : Outside [(⟨0, [1, -1]⟩ : Partition)] 1 := .inr (by decide)
  obtain rfl : m' = notExistent := hmout.mpr hout
  obtain rfl : o' = notExistent := hoout.mpr (.inl hout)
  exact ⟨build_rebalancing, hone, hzero, hforward, hm, ho, hresolvable.resolve_left (by decide), hm',
    ho'⟩

end BucketConfig

end BucketMap
