import BucketMap.Proofs.KeyHash
import BucketMap.Proofs.ListedMaps
import BucketMap.Proofs.Locate

/-!
# Asking for a missing map

A config without fast-forward map cannot say which node a key moves to. To locate a key in that map
is a failure, of the key's partition or of the lookup, but only where there are partitions: a config
without any answers that nobody owns the key, before it looks for the map
(`Holder.locate_without_map_iff`, `Holder.not_locate_without_map`).
-/

namespace BucketMap

/-- The key or the number of partitions is refused. -/
theorem Key.family_of_partition {key : Key} {n : Int} {f : Failure}
    (h : key.partition n = .error f) : f.family = .value ∨ f.family = .encoding := by
  by_cases hn : IsCount n
  · cases hb : key.bytes? with
    | error run =>
      rw [partition_of_isCount_of_error hn hb] at h
      cases h
      exact .inr rfl
    | ok b =>
      obtain ⟨k, rfl⟩ := hn
      rw [partition_two_pow hb] at h
      cases h
  · rw [partition_of_not_isCount key hn] at h
    cases h
    exact .inl (family_partitionCount n)

namespace Holder

open BucketConfig

variable {c : BucketConfig} {key : Key} {replica : Int} {forward : Bool} {p : Nat} {f : Failure}

/-! ## Failures of locating a key -/

theorem locate_eq_locateIn (c : BucketConfig) (key : Key) (replica : Int) (forward : Bool) :
    locate ⟨some c⟩ key replica forward = locateIn c key replica forward := rfl

theorem locateIn_of_unpartitioned (hcount : c.partitionCount = 0) :
    (locateIn c key replica forward).outcome = .ok none := by
  unfold locateIn
  rw [if_pos hcount]
  rfl

theorem locateIn_of_partition_error (hcount : c.partitionCount ≠ 0)
    (hp : key.partition c.partitionCount = .error f) :
    (locateIn c key replica forward).outcome = .error f := by
  unfold locateIn
  rw [if_neg hcount, Run.outcome_bind, Run.outcome_ofExcept, hp]
  rfl

theorem ownerOrdinal_of_map_error {p : Int} (hm : c.map forward = .error f) :
    (ownerOrdinal c p replica forward).outcome = .error f := by
  unfold ownerOrdinal
  split
  · exact (lookups_without_map hm p replica).1
  · exact (lookups_without_map hm p (replica - 1)).2

theorem locateIn_of_map_error (hcount : c.partitionCount ≠ 0)
    (hp : key.partition c.partitionCount = .ok p) (hm : c.map forward = .error f) :
    (locateIn c key replica forward).outcome = .error f := by
  unfold locateIn
  rw [if_neg hcount, Run.outcome_bind_of_ok hp, Run.outcome_bind, ownerOrdinal_of_map_error hm]
  rfl

/-! ## A missing map -/

/-- The failure says that the map is missing, unless the key or the number of partitions is
refused. -/
inductive Noticed (c : BucketConfig) (key : Key) : Failure → Prop
  | missing {p : Nat} (h : key.partition c.partitionCount = .ok p) : Noticed c key .noForwardMap
  | refused {f : Failure} (h : key.partition c.partitionCount = .error f)
      (hfamily : f.family = .value ∨ f.family = .encoding) : Noticed c key f

theorem locateIn_of_missing (hno : c.hasForward = false) (hcount : c.partitionCount ≠ 0) :
    ∃ f, (locateIn c key replica true).outcome = .error f ∧ Noticed c key f := by
  have hnone : c.layout.forward = none :=
    Option.not_isSome_iff_eq_none.mp (Bool.eq_false_iff.mp hno)
  have hm := map_true_of_none hnone
  cases hp : key.partition c.partitionCount with
  | error f =>
    exact ⟨f, locateIn_of_partition_error hcount hp, .refused hp (Key.family_of_partition hp)⟩
  | ok p => exact ⟨_, locateIn_of_map_error hcount hp hm, .missing hp⟩

/-- **Missing maps.** To locate a key in a map that is missing fails exactly if there are
partitions; else nobody owns the key. -/
theorem locate_without_map_iff (hno : c.hasForward = false) (key : Key) (replica : Int) :
    ((∃ f, (locate ⟨some c⟩ key replica true).outcome = .error f ∧ Noticed c key f) ↔
      c.partitionCount ≠ 0) ∧
    (c.partitionCount = 0 → (locate ⟨some c⟩ key replica true).outcome = .ok none) := by
  rw [locate_eq_locateIn]
  refine ⟨⟨?_, locateIn_of_missing hno⟩, locateIn_of_unpartitioned⟩
  rintro ⟨f, hf, -⟩ hcount
  rw [locateIn_of_unpartitioned hcount] at hf
  cases hf

/-- The bucket of `rebalancing` without its rebalance. -/
def forwardless : Document :=
  { rebalancing with layout := { rebalancing.layout with forward := none, tainted := false } }

/-- No partition has a fifth replica, but the missing map counts first. -/
theorem locate_without_map_forwardless :
    ∃ c, (build none forwardless).outcome = .ok c ∧ c.hasForward = false ∧
      ∃ f, (locate ⟨some c⟩ (.text (Text.ofString "a")) 5 true).outcome = .error f ∧
        Noticed c (.text (Text.ofString "a")) f := by
  have hbuild : ∃ c, (build none forwardless).outcome = .ok c ∧ c.hasForward = false ∧
      c.partitionCount = 2 := ⟨_, rfl, rfl, rfl⟩
  obtain ⟨c, hc, hno, hcount⟩ := hbuild
  have hne : c.partitionCount ≠ 0 := by omega
  exact ⟨c, hc, hno, (locate_without_map_iff hno _ 5).1.mpr hne⟩

/-- A bucket without partitions. -/
def unpartitioned : Document :=
  { rev := 1
    name := Text.ofString "b"
    uri := none
    streamingUri := none
    layout := ⟨0, [], [], none, false⟩
    nodes := []
    capabilities := none }

/-- A missing map does not always go noticed. -/
theorem not_locate_without_map :
    ¬ ∀ (c : BucketConfig) (key : Key) (replica : Int), c.Built → c.hasForward = false →
      ∃ f, (locate ⟨some c⟩ key replica true).outcome = .error f ∧ Noticed c key f := by
  intro h
  have hbuild : ∃ c, (build none unpartitioned).outcome = .ok c ∧ c.hasForward = false ∧
      (locate ⟨some c⟩ (.bytes []) 0 true).outcome = .ok none := ⟨_, rfl, rfl, rfl⟩
  obtain ⟨c, hc, hno, howner⟩ := hbuild
  obtain ⟨f, hf, -⟩ := h c (.bytes []) 0 ⟨none, unpartitioned, hc⟩ hno
  rw [howner] at hf
  cases hf

end Holder

end BucketMap
