import BucketMap.Proofs.Buildable
import BucketMap.Proofs.Holder
import Mathlib.Data.List.OfFn
import Mathlib.Logic.Equiv.Basic

/-!
# The numbering of partition hosts

The order of the server list is a matter of writing: if the descriptors are put into another order
and every ordinal follows its descriptor (`Document.renumbered`), keys are routed to the same nodes.
Ordinals that are no position stay as they are, so missing owners and lookups outside the maps are
not touched.

* `Moved` says that two lists hold the same elements at permuted positions. Descriptors that name
  one node each carry the permutation over to the partition hosts (`Moved.of_forall₂`).
* `BucketConfig.RenumberedBy` relates the two configs; under it all queries agree up to the
  numbering (`RenumberedBy.locateIn_outcome`).
* `Holder.locate_renumbered` is the result. The node list has a bound of its own for masters, so a
  document may build in one order only; with as many nodes as descriptors it does not.
-/

namespace BucketMap

/-! ## Ordinals -/

/-- The ordinal after a permutation of the positions below `n`. What is no position stays. -/
def renumber {n : Nat} (σ : Equiv.Perm (Fin n)) (ordinal : Int) : Int :=
  if h : 0 ≤ ordinal ∧ ordinal.toNat < n then (σ ⟨ordinal.toNat, h.2⟩).val else ordinal

/-- The partition with all its ordinals renumbered. -/
def Partition.renumbered {n : Nat} (σ : Equiv.Perm (Fin n)) (p : Partition) : Partition :=
  ⟨renumber σ p.master, p.replicas.map (renumber σ)⟩

section Ordinals

variable {n : Nat} {σ : Equiv.Perm (Fin n)} {o : Int}

theorem renumber_natCast (i : Fin n) : renumber σ (i.val : Int) = (σ i).val := by
  have hi : 0 ≤ (i.val : Int) ∧ (i.val : Int).toNat < n := by
    have hlt := i.isLt
    omega
  unfold renumber
  rw [dif_pos hi]
  rfl

theorem renumber_of_neg (h : o < 0) : renumber σ o = o := by
  unfold renumber
  rw [dif_neg (by omega)]

theorem renumber_of_le (h : (n : Int) ≤ o) : renumber σ o = o := by
  unfold renumber
  rw [dif_neg (by omega)]

/-- An ordinal is below zero, a position, or beyond all positions. -/
theorem renumber_cases (σ : Equiv.Perm (Fin n)) (o : Int) :
    (o < 0 ∧ renumber σ o = o) ∨ (∃ i : Fin n, o = i.val ∧ renumber σ o = (σ i).val) ∨
      ((n : Int) ≤ o ∧ renumber σ o = o) := by
  by_cases hneg : o < 0
  · exact .inl ⟨hneg, renumber_of_neg hneg⟩
  · by_cases hbeyond : (n : Int) ≤ o
    · exact .inr (.inr ⟨hbeyond, renumber_of_le hbeyond⟩)
    · obtain ⟨k, rfl⟩ := Int.eq_ofNat_of_zero_le (show 0 ≤ o by omega)
      have hk : k < n := by omega
      exact .inr (.inl ⟨⟨k, hk⟩, rfl, renumber_natCast ⟨k, hk⟩⟩)

theorem renumber_neg_iff : renumber σ o < 0 ↔ o < 0 := by
  rcases renumber_cases σ o with ⟨_, h⟩ | ⟨i, rfl, h⟩ | ⟨_, h⟩ <;> rw [h]
  omega

theorem ordinalInRange_renumber_iff :
    OrdinalInRange n (renumber σ o) ↔ OrdinalInRange n o := by
  rcases renumber_cases σ o with ⟨_, h⟩ | ⟨i, rfl, h⟩ | ⟨_, h⟩ <;> rw [h]
  have hi := i.isLt
  have hσ := (σ i).isLt
  unfold OrdinalInRange noOwner
  omega

theorem mapInRange_renumbered_iff {partitions : List Partition} :
    MapInRange n (partitions.map (Partition.renumbered σ)) ↔ MapInRange n partitions := by
  unfold MapInRange
  simp only [List.forall_mem_map, Partition.renumbered, Partition.row, List.forall_mem_cons,
    ordinalInRange_renumber_iff]

end Ordinals

/-! ## Lists -/

/-- The lists have `n` elements, and each one of the first list stands in the second one at its new
position. -/
def Moved {α : Type} {n : Nat} (σ : Equiv.Perm (Fin n)) (xs ys : List α) : Prop :=
  xs.length = n ∧ ys.length = n ∧ ∀ i : Fin n, ys[(σ i).val]? = xs[i.val]?

section Lists

variable {α β : Type} {n : Nat} {σ : Equiv.Perm (Fin n)} {xs ys : List α}

theorem moved_ofFn (xs : List α) (σ : Equiv.Perm (Fin xs.length)) :
    Moved σ xs (List.ofFn fun i => xs.get (σ.symm i)) := by
  refine ⟨rfl, List.length_ofFn, fun i => ?_⟩
  simp

theorem Moved.elementAt?_renumber (h : Moved σ xs ys) (o : Int) :
    BucketConfig.elementAt? ys (renumber σ o) = BucketConfig.elementAt? xs o := by
  obtain ⟨hxs, hys, hmoved⟩ := h
  rcases renumber_cases σ o with ⟨hneg, hr⟩ | ⟨i, rfl, hr⟩ | ⟨hbeyond, hr⟩
  · have hx : Outside xs o := .inl hneg
    have hy : Outside ys o := .inl hneg
    rw [hr, elementAt?_eq_none_iff.mpr hx, elementAt?_eq_none_iff.mpr hy]
  · rw [hr]
    unfold BucketConfig.elementAt?
    rw [if_pos (Int.natCast_nonneg _), if_pos (Int.natCast_nonneg _)]
    exact hmoved i
  · have hx : Outside xs o := .inr (by omega)
    have hy : Outside ys o := .inr (by omega)
    rw [hr, elementAt?_eq_none_iff.mpr hx, elementAt?_eq_none_iff.mpr hy]

/-- What the elements of a list determine moves along with them. -/
theorem Moved.of_forall₂ {R : α → β → Prop} {bs bs' : List β} (h : Moved σ xs ys)
    (hR : ∀ a b b', R a b → R a b' → b = b') (hbs : List.Forall₂ R xs bs)
    (hbs' : List.Forall₂ R ys bs') : Moved σ bs bs' := by
  obtain ⟨hxs, hys, hmoved⟩ := h
  have hlen : bs.length = n := hbs.length_eq.symm.trans hxs
  have hlen' : bs'.length = n := hbs'.length_eq.symm.trans hys
  refine ⟨hlen, hlen', fun i => ?_⟩
  have hi : i.val < bs.length := by omega
  have hσ : (σ i).val < bs'.length := by omega
  have hsame : ys[(σ i).val] = xs[i.val] := by
    have hget := hmoved i
    rwa [List.getElem?_eq_getElem, List.getElem?_eq_getElem, Option.some.injEq] at hget
  have hright := hbs.get (by omega) hi
  have hleft := hbs'.get (by omega) hσ
  simp only [List.get_eq_getElem, hsame] at hleft hright
  rw [List.getElem?_eq_getElem hi, List.getElem?_eq_getElem hσ, hR _ _ _ hleft hright]

theorem elementAt?_map (f : α → β) (xs : List α) (p : Int) :
    BucketConfig.elementAt? (xs.map f) p = (BucketConfig.elementAt? xs p).map f := by
  unfold BucketConfig.elementAt?
  split
  · exact List.getElem?_map
  · rfl

end Lists

/-! ## Queries -/

namespace BucketConfig

/-- The second config holds the hosts of the first one at their new positions, and its maps with
all ordinals renumbered. -/
structure RenumberedBy {n : Nat} (σ : Equiv.Perm (Fin n)) (c c' : BucketConfig) : Prop where
  hosts : Moved σ c.hosts c'.hosts
  current : c'.layout.partitions = c.layout.partitions.map (Partition.renumbered σ)
  forward : c'.layout.forward =
    c.layout.forward.map fun partitions => partitions.map (Partition.renumbered σ)

namespace RenumberedBy

variable {n : Nat} {σ : Equiv.Perm (Fin n)} {c c' : BucketConfig} {ahead : Bool}

theorem partitionCount_eq (h : RenumberedBy σ c c') : c'.partitionCount = c.partitionCount := by
  unfold partitionCount
  rw [h.current, List.length_map]

theorem map_eq (h : RenumberedBy σ c c') (ahead : Bool) :
    c'.map ahead = (c.map ahead).map (List.map (Partition.renumbered σ)) := by
  unfold BucketConfig.map
  cases ahead with
  | false =>
    rw [h.current]
    rfl
  | true =>
    rw [h.forward]
    cases c.layout.forward <;> rfl

/-- The answer for a position outside the map, and the failure to report it, have no numbering. -/
theorem notExistent_outcome (message : Message) :
    (do Run.emit .bucket .debug message; return notExistent : Run Int).outcome =
      (do Run.emit .bucket .debug message; return notExistent : Run Int).outcome.map
        (renumber σ) := by
  rw [Run.outcome_bind]
  cases (Run.emit .bucket .debug message).outcome with
  | error f => rfl
  | ok _ =>
    have hsame : renumber σ notExistent = notExistent := renumber_of_neg (by decide)
    exact congrArg Except.ok hsame.symm

theorem masterOrdinal_outcome (h : RenumberedBy σ c c') (p : Int) :
    (c'.masterOrdinal p ahead).outcome = (c.masterOrdinal p ahead).outcome.map (renumber σ) := by
  unfold masterOrdinal
  rw [Run.outcome_bind, Run.outcome_bind, Run.outcome_ofExcept, Run.outcome_ofExcept, h.map_eq]
  cases c.map ahead with
  | error f => rfl
  | ok partitions =>
    show Run.outcome _ = Except.map _ (Run.outcome _)
    rw [elementAt?_map]
    cases elementAt? partitions p with
    | some q => rfl
    | none => exact notExistent_outcome _

theorem replicaOrdinal_outcome (h : RenumberedBy σ c c') (p r : Int) :
    (c'.replicaOrdinal p r ahead).outcome =
      (c.replicaOrdinal p r ahead).outcome.map (renumber σ) := by
  unfold replicaOrdinal
  rw [Run.outcome_bind, Run.outcome_bind, Run.outcome_ofExcept, Run.outcome_ofExcept, h.map_eq]
  cases c.map ahead with
  | error f => rfl
  | ok partitions =>
    show Run.outcome _ = Except.map _ (Run.outcome _)
    have hreplica :
        ((elementAt? (partitions.map (Partition.renumbered σ)) p).bind
            fun q => elementAt? q.replicas r) =
          ((elementAt? partitions p).bind fun q => elementAt? q.replicas r).map (renumber σ) := by
      rw [elementAt?_map]
      cases elementAt? partitions p with
      | none => rfl
      | some q => exact elementAt?_map (renumber σ) q.replicas r
    rw [hreplica]
    cases (elementAt? partitions p).bind fun q => elementAt? q.replicas r with
    | some ordinal => rfl
    | none => exact notExistent_outcome _

theorem ownerOrdinal_outcome (h : RenumberedBy σ c c') (p replica : Int) :
    (Holder.ownerOrdinal c' p replica ahead).outcome =
      (Holder.ownerOrdinal c p replica ahead).outcome.map (renumber σ) := by
  unfold Holder.ownerOrdinal
  split
  · exact h.masterOrdinal_outcome p
  · exact h.replicaOrdinal_outcome p (replica - 1)

theorem nodeAt_eq (h : RenumberedBy σ c c') (o : Int) : c'.nodeAt (renumber σ o) = c.nodeAt o := by
  obtain ⟨hlen, hlen', _⟩ := h.hosts
  unfold nodeAt
  rw [h.hosts.elementAt?_renumber]
  cases ho : elementAt? c.hosts o with
  | some node => rfl
  | none =>
    -- What is no position keeps its number, so both refusals name the same ordinal.
    have hsame : renumber σ o = o := by
      rcases elementAt?_eq_none_iff.mp ho with hneg | hbeyond
      · exact renumber_of_neg hneg
      · exact renumber_of_le (by omega)
    rw [hsame, hlen, hlen']

theorem ownerAt_outcome (h : RenumberedBy σ c c') (p : Nat) (replica o : Int) :
    (Holder.ownerAt c' p replica (renumber σ o)).outcome =
      (Holder.ownerAt c p replica o).outcome := by
  unfold Holder.ownerAt
  by_cases hneg : o < 0
  · rw [renumber_of_neg hneg, if_pos hneg, if_pos hneg]
  · rw [if_neg (mt renumber_neg_iff.mp hneg), if_neg hneg, h.nodeAt_eq]

/-- Both configs give a key the same owner, or fail in the same way. -/
theorem locateIn_outcome (h : RenumberedBy σ c c') (key : Key) (replica : Int) :
    (Holder.locateIn c' key replica ahead).outcome =
      (Holder.locateIn c key replica ahead).outcome := by
  unfold Holder.locateIn
  rw [h.partitionCount_eq]
  split
  · rfl
  · rw [Run.outcome_bind, Run.outcome_bind]
    congr 1
    funext p
    rw [Run.outcome_bind, Run.outcome_bind, h.ownerOrdinal_outcome]
    cases (Holder.ownerOrdinal c p replica ahead).outcome with
    | error f => rfl
    | ok o => exact h.ownerAt_outcome p replica o

end RenumberedBy

end BucketConfig

/-! ## Documents -/

/-- The layout with its descriptors at their new positions and all ordinals renumbered. -/
def Layout.renumbered (l : Layout) (σ : Equiv.Perm (Fin l.descriptors.length)) : Layout :=
  { l with
    descriptors := List.ofFn fun i => l.descriptors.get (σ.symm i)
    partitions := l.partitions.map (Partition.renumbered σ)
    forward := l.forward.map fun partitions => partitions.map (Partition.renumbered σ) }

/-- The document with its server list in another order. -/
def Document.renumbered (d : Document) (σ : Equiv.Perm (Fin d.layout.descriptors.length)) :
    Document :=
  { d with layout := d.layout.renumbered σ }

/-- Each descriptor of the document names one node only. -/
def Document.NamesEach (log : Option Channel) (d : Document) : Prop :=
  ∀ raw ∈ d.layout.descriptors, ∃ n, NamesOnly log d.nodes raw n

theorem partitionHosts_of_namesOnly {log : Option Channel} {nodes : List Node}
    {descriptors : List Json} (h : ∀ raw ∈ descriptors, ∃ n, NamesOnly log nodes raw n) :
    ∃ hosts, (partitionHosts log nodes descriptors).outcome = .ok hosts ∧
      List.Forall₂ (NamesOnly log nodes) descriptors hosts := by
  obtain ⟨founds, hf, hlen⟩ := exists_founds_of_namesOnly h
  refine ⟨founds.flatten, partitionHosts_outcome_eq_ok_iff.mpr ⟨⟨founds, hf, rfl⟩, hlen⟩, ?_⟩
  exact forall₂_namesOnly_flatten hf (length_eq_one_of_namesOnly hf h)

theorem NamesOnly.unique {log : Option Channel} {nodes : List Node} {raw : Json} {n n' : Node}
    (h : NamesOnly log nodes raw n) (h' : NamesOnly log nodes raw n') : n = n' := by
  have he : Except.ok [n] = Except.ok [n'] := h.symm.trans h'
  cases he
  rfl

namespace Document

variable {log : Option Channel} {d : Document} {σ : Equiv.Perm (Fin d.layout.descriptors.length)}

theorem NamesEach.renumbered (h : d.NamesEach log) (σ : Equiv.Perm (Fin d.layout.descriptors.length)) :
    (d.renumbered σ).NamesEach log := by
  intro raw hraw
  obtain ⟨i, rfl⟩ := List.mem_ofFn.mp hraw
  exact h _ (List.get_mem _ _)

/-- The partition hosts of both documents are there, at permuted positions. -/
theorem NamesEach.exists_hosts (h : d.NamesEach log)
    (σ : Equiv.Perm (Fin d.layout.descriptors.length)) :
    ∃ hosts hosts',
      (partitionHosts log d.nodes d.layout.descriptors).outcome = .ok hosts ∧
      (partitionHosts log (d.renumbered σ).nodes (d.renumbered σ).layout.descriptors).outcome =
        .ok hosts' ∧ Moved σ hosts hosts' := by
  obtain ⟨hosts, hhosts, hall⟩ := partitionHosts_of_namesOnly h
  obtain ⟨hosts', hhosts', hall'⟩ := partitionHosts_of_namesOnly (h.renumbered σ)
  refine ⟨hosts, hosts', hhosts, hhosts', ?_⟩
  have hmoved : Moved σ d.layout.descriptors (d.renumbered σ).layout.descriptors := moved_ofFn _ σ
  exact hmoved.of_forall₂ (R := NamesOnly log d.nodes) (fun _ _ _ => NamesOnly.unique) hall hall'

theorem NamesEach.renumberedBy {c c' : BucketConfig} (h : d.NamesEach log)
    (hb : (BucketConfig.build log d).outcome = .ok c)
    (hb' : (BucketConfig.build log (d.renumbered σ)).outcome = .ok c') : c.RenumberedBy σ c' := by
  have hbuilt := BucketConfig.builtFrom_of_build hb
  have hbuilt' := BucketConfig.builtFrom_of_build hb'
  obtain ⟨-, -, -, -, -, hlayout, -⟩ := hbuilt.fields
  obtain ⟨-, -, -, -, -, hlayout', -⟩ := hbuilt'.fields
  obtain ⟨hosts, hosts', hhosts, hhosts', hmoved⟩ := h.exists_hosts σ
  rw [hbuilt.hosts] at hhosts
  rw [hbuilt'.hosts] at hhosts'
  cases hhosts
  cases hhosts'
  refine ⟨hmoved, ?_, ?_⟩
  · rw [hlayout', hlayout]
    rfl
  · rw [hlayout', hlayout]
    rfl

/-- Where there is a node for every position, the bound of the node list follows from that of the
partition hosts. -/
theorem NamesEach.exists_build_iff (h : d.NamesEach log)
    (hnodes : d.layout.descriptors.length ≤ d.nodes.length) :
    (∃ c, (BucketConfig.build log d).outcome = .ok c) ↔
      MapInRange d.layout.descriptors.length d.layout.partitions ∧
        (∀ partitions, d.layout.forward = some partitions →
          MapInRange d.layout.descriptors.length partitions) ∧
        Numeral.Writable d.rev ∧ Numeral.Writable d.layout.replicaCount := by
  rw [BucketConfig.exists_build_iff]
  constructor
  · rintro ⟨hosts, hb⟩
    have hlen := (partitionHosts_outcome_eq_ok_iff.mp hb.resolved).2
    rw [← hlen]
    exact ⟨hb.current, hb.forward, hb.rev_writable, hb.replicaCount_writable⟩
  · rintro ⟨hcurrent, hforward, hrev, hreplicas⟩
    obtain ⟨hosts, hhosts, -⟩ := partitionHosts_of_namesOnly h
    have hlen := (partitionHosts_outcome_eq_ok_iff.mp hhosts).2
    rw [← hlen] at hcurrent hforward
    refine ⟨hosts, hhosts, ?_, hcurrent, hforward, hrev, hreplicas⟩
    intro q hq
    obtain ⟨_, hlt⟩ := hcurrent q hq q.master List.mem_cons_self
    omega

theorem NamesEach.exists_build_renumbered_iff (h : d.NamesEach log)
    (σ : Equiv.Perm (Fin d.layout.descriptors.length))
    (hnodes : d.layout.descriptors.length ≤ d.nodes.length) :
    (∃ c, (BucketConfig.build log d).outcome = .ok c) ↔
      ∃ c', (BucketConfig.build log (d.renumbered σ)).outcome = .ok c' := by
  have hlen : (d.renumbered σ).layout.descriptors.length = d.layout.descriptors.length :=
    List.length_ofFn
  have hnodes' : (d.renumbered σ).layout.descriptors.length ≤ (d.renumbered σ).nodes.length := by
    rw [hlen]
    exact hnodes
  have hcurrent : MapInRange d.layout.descriptors.length (d.renumbered σ).layout.partitions ↔
      MapInRange d.layout.descriptors.length d.layout.partitions := mapInRange_renumbered_iff
  have hforward : (∀ partitions, (d.renumbered σ).layout.forward = some partitions →
        MapInRange d.layout.descriptors.length partitions) ↔
      ∀ partitions, d.layout.forward = some partitions →
        MapInRange d.layout.descriptors.length partitions := by
    unfold Document.renumbered Layout.renumbered
    cases d.layout.forward with
    | none => simp
    | some partitions => simp [mapInRange_renumbered_iff]
  rw [h.exists_build_iff hnodes, (h.renumbered σ).exists_build_iff hnodes', hlen, hcurrent, hforward]
  rfl

end Document

/-! ## Routing -/

namespace Holder

/-- **The numbering of the hosts does not matter.** If the descriptors of a document name one node
each, then putting them into another order, with all ordinals following them, changes the outcome
of no lookup of a key. A document with as many nodes as descriptors builds in all orders or in
none. -/
theorem locate_renumbered {log : Option Channel} {d : Document} (hd : d.NamesEach log)
    (σ : Equiv.Perm (Fin d.layout.descriptors.length)) :
    (∀ (c c' : BucketConfig) (h h' : Holder), (BucketConfig.build log d).outcome = .ok c →
      (BucketConfig.build log (d.renumbered σ)).outcome = .ok c' →
      h.current = some c → h'.current = some c' →
        ∀ (key : Key) (replica : Int) (ahead : Bool),
          (h'.locate key replica ahead).outcome = (h.locate key replica ahead).outcome) ∧
    (d.layout.descriptors.length ≤ d.nodes.length →
      ((∃ c, (BucketConfig.build log d).outcome = .ok c) ↔
        ∃ c', (BucketConfig.build log (d.renumbered σ)).outcome = .ok c')) := by
  refine ⟨?_, hd.exists_build_renumbered_iff σ⟩
  intro c c' h h' hb hb' hc hc' key replica ahead
  unfold locate
  rw [hc, hc']
  exact (hd.renumberedBy hb hb').locateIn_outcome key replica

/-- The two descriptors of `rebalancing` change places. -/
theorem locate_renumbered_rebalancing :
    ∃ (σ : Equiv.Perm (Fin BucketConfig.rebalancing.layout.descriptors.length)) (c' : BucketConfig),
      BucketConfig.rebalancing.NamesEach none ∧
      (BucketConfig.rebalancing.renumbered σ).layout.partitions = [⟨0, [1]⟩, ⟨-1, [1]⟩] ∧
      (BucketConfig.build none (BucketConfig.rebalancing.renumbered σ)).outcome = .ok c' ∧
      ∀ (key : Key) (replica : Int) (ahead : Bool),
        (Holder.locate ⟨some c'⟩ key replica ahead).outcome =
          (Holder.locate ⟨some BucketConfig.rebalanced⟩ key replica ahead).outcome := by
  have hd : BucketConfig.rebalancing.NamesEach none := by
    intro raw hraw
    rcases List.mem_cons.mp hraw with rfl | hraw
    · exact ⟨_, rfl⟩
    · rw [List.mem_singleton.mp hraw]
      exact ⟨_, rfl⟩
  have hb := BucketConfig.build_rebalancing
  let σ : Equiv.Perm (Fin BucketConfig.rebalancing.layout.descriptors.length) :=
    Equiv.swap ⟨0, by decide⟩ ⟨1, by decide⟩
  obtain ⟨hsame, hbuilds⟩ := locate_renumbered hd σ
  obtain ⟨c', hb'⟩ := (hbuilds (by decide)).mp ⟨_, hb⟩
  exact ⟨σ, c', hd, by decide, hb', hsame _ c' _ ⟨some c'⟩ hb hb' rfl rfl⟩

end Holder

end BucketMap
