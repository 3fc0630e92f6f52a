import BucketMap.Inspector
import BucketMap.Proofs.MissingMap

/-!
# Failures of locating keys

To locate a key in a built config fails only in the ways that the inspector reports: the key or the
number of partitions is refused, the map is missing, or a number in a record is too long
(`Inspector.reported_locate`). A lookup of a node cannot fail, since the ordinals of a built config
have hosts. `Inspector.Reported` is proved of a run step by step (`Inspector.reported_bind`).
-/

namespace BucketMap

namespace Inspector

open BucketConfig

variable {α β : Type} {Q : α → Prop} {P : β → Prop}

/-- A value has the property, and a failure is one that the inspector reports. -/
def Reported (x : Run α) (Q : α → Prop) : Prop :=
  (∀ a, x.outcome = .ok a → Q a) ∧ ∀ f, x.outcome = .error f → isReported f = true

/-! ## Steps of a run -/

theorem reported_ok {a : α} (h : Q a) : Reported (.ok a) Q := by
  constructor
  · intro a' ha'
    cases ha'
    exact h
  · intro f hf
    cases hf

theorem reported_fail {f : Failure} (h : isReported f = true) : Reported (.fail f) Q := by
  constructor
  · intro a ha
    cases ha
  · intro f' hf'
    cases hf'
    exact h

theorem reported_bind {x : Run α} {f : α → Run β} (hx : Reported x Q)
    (hf : ∀ a, Q a → Reported (f a) P) : Reported (x >>= f) P := by
  unfold Reported
  rw [Run.outcome_bind]
  cases h : x.outcome with
  | ok a => exact hf a (hx.1 a h)
  | error e => exact reported_fail (hx.2 e h)

theorem reported_emit (channel : Channel) (severity : Severity) (message : Message) :
    Reported (Run.emit channel severity message) fun _ => True := by
  unfold Run.emit
  split
  · exact ⟨fun _ _ => trivial, fun f hf => by cases hf⟩
  · exact reported_fail rfl

theorem reported_partition (key : Key) (n : Int) :
    Reported (Run.ofExcept (key.partition n)) fun _ => True := by
  refine ⟨fun _ _ => trivial, fun f hf => ?_⟩
  unfold isReported
  rcases Key.family_of_partition hf with h | h <;> rw [h]

/-! ## Locating a key -/

variable {c : BucketConfig} {p replica o : Int} {forward : Bool}

theorem reported_map (c : BucketConfig) (forward : Bool) :
    Reported (Run.ofExcept (c.map forward)) fun partitions => c.map forward = .ok partitions := by
  refine ⟨fun _ h => h, fun f hf => ?_⟩
  rw [Run.outcome_ofExcept] at hf
  unfold map at hf
  split at hf
  · split at hf
    · cases hf
    · cases hf
      rfl
  · cases hf

theorem reported_masterOrdinal (hs : c.Sound) :
    Reported (c.masterOrdinal p forward) fun o => o = notExistent ∨ c.Resolvable o := by
  unfold masterOrdinal
  refine reported_bind (reported_map c forward) fun partitions hm => ?_
  split
  · rename_i q hq
    exact reported_ok (.inr (hs.resolvable hm (elementAt?_eq_some_iff.mp hq) List.mem_cons_self))
  · exact reported_bind (reported_emit _ _ _) fun _ _ => reported_ok (.inl rfl)

theorem reported_replicaOrdinal (hs : c.Sound) :
    Reported (c.replicaOrdinal p replica forward) fun o => o = notExistent ∨ c.Resolvable o := by
  unfold replicaOrdinal
  refine reported_bind (reported_map c forward) fun partitions hm => ?_
  split
  · rename_i ordinal hordinal
    obtain ⟨q, hq, ho⟩ := Option.bind_eq_some_iff.mp hordinal
    have hmem : ordinal ∈ q.row := List.mem_cons_of_mem _ (elementAt?_eq_some_iff.mp ho).mem
    exact reported_ok (.inr (hs.resolvable hm (elementAt?_eq_some_iff.mp hq) hmem))
  · exact reported_bind (reported_emit _ _ _) fun _ _ => reported_ok (.inl rfl)

theorem reported_ownerOrdinal (hs : c.Sound) :
    Reported (Holder.ownerOrdinal c p replica forward) fun o =>
      o = notExistent ∨ c.Resolvable o := by
  unfold Holder.ownerOrdinal
  split
  · exact reported_masterOrdinal hs
  · exact reported_replicaOrdinal hs

theorem reported_ownerAt {p : Nat} (ho : o = notExistent ∨ c.Resolvable o) :
    Reported (Holder.ownerAt c p replica o) fun _ => True := by
  unfold Holder.ownerAt
  split
  · exact reported_bind (reported_emit _ _ _) fun _ _ => reported_ok trivial
  · rename_i hpos
    -- Both marks of a missing owner are below zero, so the ordinal has a host.
    have hhost : ∃ n, c.nodeAt o = .ok n := by
      rcases ho with rfl | rfl | hn
      · exact absurd (by decide) hpos
      · exact absurd (by decide) hpos
      · exact hn
    obtain ⟨n, hn⟩ := hhost
    rw [hn]
    exact reported_ok trivial

/-- **Failures of locating keys.** The inspector reports every one of them. -/
theorem reported_locate (hs : c.Sound) (key : Key) (replica : Int) (forward : Bool) :
    Reported (Holder.locate ⟨some c⟩ key replica forward) fun _ => True := by
  rw [Holder.locate_eq_locateIn]
  unfold Holder.locateIn
  split
  · exact reported_ok trivial
  · refine reported_bind (reported_partition key c.partitionCount) fun p _ => ?_
    exact reported_bind (reported_ownerOrdinal hs) fun o ho => reported_ownerAt ho

end Inspector

end BucketMap
