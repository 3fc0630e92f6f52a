import BucketMap.Proofs.PartitionHosts

/-!
# What a built config holds

A build ends with a config only if all its steps do (`BucketConfig.BuiltFrom`). So every ordinal in
the maps of a built config marks a missing owner or is the place of a partition host, and the
partition hosts are nodes of the node list.

* `checkMap_eq_ok_iff`: the check accepts a map exactly if all its ordinals are in range.
* `BucketConfig.builtFrom_of_build` takes a build apart; `BucketConfig.Sound` is the invariant on
  which the queries rely, and `BucketConfig.BuiltFrom.sound` establishes it.
-/

namespace BucketMap

/-! ## The check of a map -/

/-- The ordinal marks a missing owner or is the place of one of the hosts. -/
def OrdinalInRange (hosts ordinal : Int) : Prop := noOwner ≤ ordinal ∧ ordinal < hosts

/-- All ordinals of a map are in range. -/
def MapInRange (hosts : Int) (partitions : List Partition) : Prop :=
  ∀ p ∈ partitions, ∀ ordinal ∈ p.row, OrdinalInRange hosts ordinal

variable {hosts : Int} {map : Text}

theorem checkOrdinal_eq_ok_iff {number : Nat} {ordinal : Int} :
    checkOrdinal hosts map number ordinal = .ok () ↔ OrdinalInRange hosts ordinal := by
  unfold checkOrdinal OrdinalInRange
  split
  · constructor
    · intro h
      cases h
    · intro h
      omega
  · split
    · constructor
      · intro h
        cases h
      · intro h
        omega
    · constructor
      · intro _
        omega
      · intro _
        rfl

theorem checkRow_eq_ok_iff {number : Nat} {row : List Int} :
    checkRow hosts map number row = .ok () ↔ ∀ ordinal ∈ row, OrdinalInRange hosts ordinal := by
  induction row with
  | nil =>
    constructor
    · intro _ ordinal h
      cases h
    · intro _
      rfl
  | cons ordinal ordinals ih =>
    rw [checkRow, bind_eq_ok_iff, List.forall_mem_cons]
    constructor
    · rintro ⟨_, h, hs⟩
      exact ⟨checkOrdinal_eq_ok_iff.mp h, ih.mp hs⟩
    · rintro ⟨h, hs⟩
      exact ⟨(), checkOrdinal_eq_ok_iff.mpr h, ih.mpr hs⟩

theorem checkMapFrom_eq_ok_iff {number : Nat} {partitions : List Partition} :
    checkMapFrom hosts map number partitions = .ok () ↔ MapInRange hosts partitions := by
  unfold MapInRange
  induction partitions generalizing number with
  | nil =>
    constructor
    · intro _ p h
      cases h
    · intro _
      rfl
  | cons p partitions ih =>
    rw [checkMapFrom, bind_eq_ok_iff, List.forall_mem_cons]
    constructor
    · rintro ⟨_, h, hs⟩
      exact ⟨checkRow_eq_ok_iff.mp h, ih.mp hs⟩
    · rintro ⟨h, hs⟩
      exact ⟨(), checkRow_eq_ok_iff.mpr h, ih.mpr hs⟩

theorem checkMap_eq_ok_iff {partitions : List Partition} :
    checkMap partitions hosts map = .ok () ↔ MapInRange hosts partitions :=
  checkMapFrom_eq_ok_iff

namespace BucketConfig

theorem checkForward_eq_ok_iff {hosts : Nat} {forward : Option (List Partition)} :
    checkForward hosts forward = .ok () ↔
      ∀ partitions, forward = some partitions → MapInRange hosts partitions := by
  cases forward with
  | none =>
    constructor
    · intro _ partitions h
      cases h
    · intro _
      rfl
  | some partitions =>
    rw [checkForward, checkMap_eq_ok_iff]
    constructor
    · intro h partitions' he
      cases he
      exact h
    · intro h
      exact h partitions rfl

/-! ## Taking a build apart -/

/-- The config is what a build of the document gives. -/
structure BuiltFrom (log : Option Channel) (d : Document) (c : BucketConfig) : Prop where
  hosts : (partitionHosts log d.nodes d.layout.descriptors).outcome = .ok c.hosts
  primaries : primaryHosts d.nodes d.layout.partitions = .ok c.primaries
  current : MapInRange c.hosts.length c.layout.partitions
  forward : ∀ partitions, c.layout.forward = some partitions →
    MapInRange c.hosts.length partitions
  rev_writable : Numeral.Writable c.rev
  fields : c.rev = d.rev ∧ c.name = d.name ∧ c.uri = d.uri ∧ c.streamingUri = d.streamingUri ∧
    c.nodes = d.nodes ∧ c.layout = d.layout ∧ c.ephemeral = isEphemeral d.capabilities

theorem builtFrom_of_build {log : Option Channel} {d : Document} {c : BucketConfig}
    (h : (build log d).outcome = .ok c) : BuiltFrom log d c := by
  unfold build at h
  obtain ⟨hosts, hhosts, h⟩ := Run.outcome_bind_eq_ok_iff.mp h
  obtain ⟨primaries, hprimaries, h⟩ := Run.outcome_bind_eq_ok_iff.mp h
  obtain ⟨_, hcurrent, h⟩ := Run.outcome_bind_eq_ok_iff.mp h
  obtain ⟨_, hforward, h⟩ := Run.outcome_bind_eq_ok_iff.mp h
  dsimp only at h
  obtain ⟨_, hemit, h⟩ := Run.outcome_bind_eq_ok_iff.mp h
  cases h
  rw [Run.outcome_ofExcept] at hprimaries hcurrent hforward
  refine ⟨hhosts, hprimaries, checkMap_eq_ok_iff.mp hcurrent, checkForward_eq_ok_iff.mp hforward,
    ?_, rfl, rfl, rfl, rfl, rfl, rfl, rfl⟩
  exact Run.writable_of_emit hemit (by simp [message])

/-! ## The invariant -/

/-- What the queries of a config rely on. -/
structure Sound (c : BucketConfig) : Prop where
  hosts_mem : ∀ n ∈ c.hosts, n ∈ c.nodes
  current : MapInRange c.hosts.length c.layout.partitions
  forward : ∀ partitions, c.layout.forward = some partitions →
    MapInRange c.hosts.length partitions

theorem BuiltFrom.sound {log : Option Channel} {d : Document} {c : BucketConfig}
    (h : BuiltFrom log d c) : c.Sound := by
  obtain ⟨_, _, _, _, hnodes, _, _⟩ := h.fields
  refine ⟨?_, h.current, h.forward⟩
  rw [hnodes]
  exact mem_of_partitionHosts h.hosts

/-- The map that a query looks at is in range. -/
theorem Sound.map_inRange {c : BucketConfig} (h : c.Sound) {forward : Bool}
    {partitions : List Partition} (hm : c.map forward = .ok partitions) :
    MapInRange c.hosts.length partitions := by
  unfold map at hm
  split at hm
  · split at hm
    · rename_i hf
      cases hm
      exact h.forward _ hf
    · cases hm
  · cases hm
    exact h.current

end BucketConfig

end BucketMap
