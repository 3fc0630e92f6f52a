import BucketMap.Config.Build
import BucketMap.Proofs.Descriptor
import Mathlib.Data.List.Forall2

/-!
# Partition hosts and their descriptors

The partition hosts should line up with the descriptors: one host for each of them, the only node
that it names (`LinesUp`). The build looks at the number of hosts alone, so a descriptor that names
several nodes can make up for others that name none (`Offsetting`), and the hosts behind it shift.

* `partitionHosts_outcome_eq_ok_iff`: the hosts are the nodes of all descriptors one behind the
  other, and they are given exactly if there are as many of them as there are descriptors.
* `partitionHosts_linesUp_iff`: they line up exactly if the descriptors are not offsetting.
  `not_linesUp` is the smallest case in which they do not.
-/

namespace BucketMap

/-- The descriptor is well-formed and these are the nodes that it names. -/
def Resolves (log : Option Channel) (nodes : List Node) (raw : Json) (found : List Node) : Prop :=
  (Descriptor.resolve log raw nodes).outcome = .ok found

/-- The descriptor is well-formed and names this node only. -/
def NamesOnly (log : Option Channel) (nodes : List Node) (raw : Json) (n : Node) : Prop :=
  Resolves log nodes raw [n]

/-- The hosts of the descriptors, or their refusal, as they are meant to be. -/
structure LinesUp (log : Option Channel) (nodes : List Node) (descriptors : List Json)
    (outcome : Except Failure (List Node)) : Prop where
  returns_iff : (∃ hosts, outcome = .ok hosts) ↔ ∀ raw ∈ descriptors, ∃ n, NamesOnly log nodes raw n
  /-- Each descriptor has its host at its own place. -/
  aligned : ∀ hosts, outcome = .ok hosts → List.Forall₂ (NamesOnly log nodes) descriptors hosts
  refuses : (¬ ∀ raw ∈ descriptors, ∃ n, NamesOnly log nodes raw n) →
    ∃ f, outcome = .error f ∧ f.family = .configuration

/-- The descriptors name as many nodes as there are descriptors, but not one each. -/
def Offsetting (log : Option Channel) (nodes : List Node) (descriptors : List Json) : Prop :=
  ∃ founds, List.Forall₂ (Resolves log nodes) descriptors founds ∧
    founds.flatten.length = descriptors.length ∧ ∃ found ∈ founds, found.length ≠ 1

/-- What stands in the second of two related lists is related to something in the first one. -/
theorem exists_mem_of_forall₂ {α β : Type} {R : α → β → Prop} {as : List α} {bs : List β}
    (h : List.Forall₂ R as bs) {b : β} (hb : b ∈ bs) : ∃ a ∈ as, R a b := by
  induction h with
  | nil => cases hb
  | cons hr _ ih =>
    rcases List.mem_cons.mp hb with rfl | hb
    · exact ⟨_, List.mem_cons_self, hr⟩
    · obtain ⟨a, ha, hr⟩ := ih hb
      exact ⟨a, List.mem_cons_of_mem _ ha, hr⟩

variable {log : Option Channel} {nodes : List Node} {descriptors : List Json}

/-! ## The nodes of all descriptors -/

theorem resolveAll_outcome_eq_ok_iff {channel : Channel} {hosts : List Node} :
    (resolveAll channel nodes descriptors).outcome = .ok hosts ↔
      ∃ founds, List.Forall₂ (Resolves log nodes) descriptors founds ∧ hosts = founds.flatten := by
  induction descriptors generalizing hosts with
  | nil =>
    constructor
    · intro h
      cases h
      exact ⟨[], .nil, rfl⟩
    · rintro ⟨founds, hf, rfl⟩
      cases hf
      rfl
  | cons raw descriptors ih =>
    have hchannel := Descriptor.outcome_resolve (some channel) log raw nodes
    unfold resolveAll
    constructor
    · intro h
      obtain ⟨found, hfound, h⟩ := Run.outcome_bind_eq_ok_iff.mp h
      obtain ⟨others, hothers, h⟩ := Run.outcome_bind_eq_ok_iff.mp h
      obtain ⟨founds, hf, rfl⟩ := ih.mp hothers
      cases h
      exact ⟨found :: founds, .cons (hchannel.trans hfound) hf, rfl⟩
    · rintro ⟨founds, hf, rfl⟩
      cases hf with
      | @cons _ found _ founds hfound hf =>
        rw [Run.outcome_bind_of_ok (hchannel.symm.trans hfound),
          Run.outcome_bind_of_ok (ih.mpr ⟨founds, hf, rfl⟩)]
        rfl

theorem onlyRefuses_resolveAll (channel : Channel) (hn : PortsWritable nodes)
    (hd : ∀ raw ∈ descriptors, raw.Writable) :
    OnlyRefuses (resolveAll channel nodes descriptors).outcome := by
  induction descriptors with
  | nil => exact onlyRefuses_ok _
  | cons raw descriptors ih =>
    unfold resolveAll
    refine Run.onlyRefuses_bind ?_ (fun found _ => Run.onlyRefuses_bind ?_ (fun others _ => ?_))
    · exact Descriptor.onlyRefuses_resolve _ (hd raw List.mem_cons_self) hn
    · exact ih fun r hr => hd r (List.mem_cons_of_mem _ hr)
    · exact onlyRefuses_ok _

/-- Hosts that are looked up without a channel are reported on the builder's. -/
theorem partitionHosts_getD (log : Option Channel) (nodes : List Node) (descriptors : List Json) :
    partitionHosts log nodes descriptors =
      partitionHosts (some (log.getD .builder)) nodes descriptors := rfl

theorem partitionHosts_outcome_eq_ok_iff {hosts : List Node} :
    (partitionHosts log nodes descriptors).outcome = .ok hosts ↔
      (∃ founds, List.Forall₂ (Resolves log nodes) descriptors founds ∧ hosts = founds.flatten) ∧
        hosts.length = descriptors.length := by
  unfold partitionHosts
  rw [Run.outcome_bind_eq_ok_iff]
  constructor
  · rintro ⟨all, hall, h⟩
    split at h
    · rename_i hlen
      cases h
      exact ⟨resolveAll_outcome_eq_ok_iff.mp hall, hlen⟩
    · cases h
  · rintro ⟨hall, hlen⟩
    refine ⟨hosts, resolveAll_outcome_eq_ok_iff.mpr hall, ?_⟩
    rw [if_pos hlen]
    rfl

theorem onlyRefuses_partitionHosts (hn : PortsWritable nodes)
    (hd : ∀ raw ∈ descriptors, raw.Writable) :
    OnlyRefuses (partitionHosts log nodes descriptors).outcome := by
  unfold partitionHosts
  refine Run.onlyRefuses_bind (onlyRefuses_resolveAll _ hn hd) (fun hosts _ => ?_)
  split
  · exact onlyRefuses_ok _
  · exact onlyRefuses_refuse (by simp [ConfigurationFault.message])

/-- The hosts are nodes of the node list. -/
theorem mem_of_partitionHosts {hosts : List Node}
    (h : (partitionHosts log nodes descriptors).outcome = .ok hosts) : ∀ n ∈ hosts, n ∈ nodes := by
  obtain ⟨⟨founds, hf, rfl⟩, -⟩ := partitionHosts_outcome_eq_ok_iff.mp h
  intro n hn
  obtain ⟨found, hfound, hnf⟩ := List.mem_flatten.mp hn
  obtain ⟨raw, _, hr⟩ := exists_mem_of_forall₂ hf hfound
  exact Descriptor.mem_of_resolve hr n hnf

/-! ## One node for each descriptor -/

/-- Where every descriptor names one node, these nodes are the hosts. -/
theorem forall₂_namesOnly_flatten {founds : List (List Node)}
    (h : List.Forall₂ (Resolves log nodes) descriptors founds)
    (hone : ∀ found ∈ founds, found.length = 1) :
    List.Forall₂ (NamesOnly log nodes) descriptors founds.flatten := by
  induction h with
  | nil => exact .nil
  | @cons raw found _ founds hr _ ih =>
    obtain ⟨n, rfl⟩ := List.length_eq_one_iff.mp (hone found List.mem_cons_self)
    exact .cons hr (ih fun f hf => hone f (List.mem_cons_of_mem _ hf))

theorem exists_founds_of_namesOnly (h : ∀ raw ∈ descriptors, ∃ n, NamesOnly log nodes raw n) :
    ∃ founds, List.Forall₂ (Resolves log nodes) descriptors founds ∧
      founds.flatten.length = descriptors.length := by
  induction descriptors with
  | nil => exact ⟨[], .nil, rfl⟩
  | cons raw descriptors ih =>
    obtain ⟨n, hn⟩ := h raw List.mem_cons_self
    obtain ⟨founds, hf, hlen⟩ := ih fun r hr => h r (List.mem_cons_of_mem _ hr)
    refine ⟨[n] :: founds, .cons hn hf, ?_⟩
    simp only [List.flatten_cons, List.length_append, List.length_cons, List.length_nil, hlen]
    omega

theorem exists_namesOnly_of_forall₂ {hosts : List Node}
    (h : List.Forall₂ (NamesOnly log nodes) descriptors hosts) :
    ∀ raw ∈ descriptors, ∃ n, NamesOnly log nodes raw n := by
  intro raw hraw
  obtain ⟨n, _, hn⟩ := exists_mem_of_forall₂ (List.Forall₂.flip h) hraw
  exact ⟨n, hn⟩

/-- A descriptor that names one node only has no other number of nodes. -/
theorem length_eq_one_of_namesOnly {founds : List (List Node)}
    (h : List.Forall₂ (Resolves log nodes) descriptors founds)
    (hone : ∀ raw ∈ descriptors, ∃ n, NamesOnly log nodes raw n) :
    ∀ found ∈ founds, found.length = 1 := by
  intro found hfound
  obtain ⟨raw, hraw, hr⟩ := exists_mem_of_forall₂ h hfound
  obtain ⟨n, hn⟩ := hone raw hraw
  have he : Except.ok found = Except.ok [n] := hr.symm.trans hn
  cases he
  rfl

/-! ## When the hosts line up -/

theorem linesUp_of_not_offsetting (hn : PortsWritable nodes)
    (hd : ∀ raw ∈ descriptors, raw.Writable) (hoff : ¬ Offsetting log nodes descriptors) :
    LinesUp log nodes descriptors (partitionHosts log nodes descriptors).outcome := by
  have haligned : ∀ hosts, (partitionHosts log nodes descriptors).outcome = .ok hosts →
      List.Forall₂ (NamesOnly log nodes) descriptors hosts := by
    intro hosts h
    obtain ⟨⟨founds, hf, rfl⟩, hlen⟩ := partitionHosts_outcome_eq_ok_iff.mp h
    apply forall₂_namesOnly_flatten hf
    intro found hfound
    by_contra hne
    exact hoff ⟨founds, hf, hlen, found, hfound, hne⟩
  have hreturns : (∃ hosts, (partitionHosts log nodes descriptors).outcome = .ok hosts) ↔
      ∀ raw ∈ descriptors, ∃ n, NamesOnly log nodes raw n := by
    constructor
    · rintro ⟨hosts, h⟩
      exact exists_namesOnly_of_forall₂ (haligned hosts h)
    · intro h
      obtain ⟨founds, hf, hlen⟩ := exists_founds_of_namesOnly h
      exact ⟨founds.flatten, partitionHosts_outcome_eq_ok_iff.mpr ⟨⟨founds, hf, rfl⟩, hlen⟩⟩
  refine ⟨hreturns, haligned, fun hnot => ?_⟩
  exact (onlyRefuses_partitionHosts hn hd).exists_error (fun h => hnot (hreturns.mp h))

theorem not_offsetting_of_linesUp
    (h : LinesUp log nodes descriptors (partitionHosts log nodes descriptors).outcome) :
    ¬ Offsetting log nodes descriptors := by
  rintro ⟨founds, hf, hlen, found, hfound, hne⟩
  have hone : ∀ raw ∈ descriptors, ∃ n, NamesOnly log nodes raw n :=
    h.returns_iff.mp ⟨founds.flatten, partitionHosts_outcome_eq_ok_iff.mpr ⟨⟨founds, hf, rfl⟩, hlen⟩⟩
  exact hne (length_eq_one_of_namesOnly hf hone found hfound)

/-- **Hosts and descriptors.** The hosts are the nodes of all descriptors one behind the other if
there are as many as descriptors, and a refusal otherwise. They line up with the descriptors
except for those that are offsetting. -/
theorem partitionHosts_linesUp_iff (log : Option Channel) {nodes : List Node} {descriptors : List Json}
    (hn : PortsWritable nodes) (hd : ∀ raw ∈ descriptors, raw.Writable) :
    (∀ hosts, (partitionHosts log nodes descriptors).outcome = .ok hosts ↔
      (∃ founds, List.Forall₂ (Resolves log nodes) descriptors founds ∧ hosts = founds.flatten) ∧
        hosts.length = descriptors.length) ∧
    OnlyRefuses (partitionHosts log nodes descriptors).outcome ∧
    (LinesUp log nodes descriptors (partitionHosts log nodes descriptors).outcome ↔
      ¬ Offsetting log nodes descriptors) :=
  ⟨fun _ => partitionHosts_outcome_eq_ok_iff, onlyRefuses_partitionHosts hn hd,
    not_offsetting_of_linesUp, linesUp_of_not_offsetting hn hd⟩

/-! ## Two nodes at one address -/

/-- Two nodes at one address, told apart by their data ports. -/
def twins : List Node :=
  [⟨Text.ofString "a", [(.data, 1)]⟩, ⟨Text.ofString "a", [(.data, 2)]⟩]

/-- The first of these descriptors names both nodes, the second one none. -/
def lopsided : List Json := [.str (Text.ofString "a"), .str (Text.ofString "b")]

/-- These descriptors name one node each, in the other order. -/
def crossed : List Json := [.str (Text.ofString "a:2"), .str (Text.ofString "a:1")]

theorem portsWritable_twins : PortsWritable twins := by
  intro n hn port hp
  have hport : port = 1 ∨ port = 2 := by
    rcases List.mem_cons.mp hn with rfl | hn
    · exact .inl (Option.some.inj hp).symm
    · rw [List.mem_singleton.mp hn] at hp
      exact .inr (Option.some.inj hp).symm
  exact Numeral.fits_of_lt_ten (by omega) (by decide)

theorem writable_of_mem_texts (ts : List Text) : ∀ raw ∈ ts.map Json.str, raw.Writable := by
  intro raw hraw
  obtain ⟨t, _, rfl⟩ := List.mem_map.mp hraw
  exact Json.writable_str t

/-- Descriptors that cross over line up with their hosts. -/
theorem linesUp_crossed :
    PortsWritable twins ∧ (∀ raw ∈ crossed, raw.Writable) ∧
      (partitionHosts none twins crossed).outcome = .ok twins.reverse ∧
      LinesUp none twins crossed (partitionHosts none twins crossed).outcome := by
  have hw : ∀ raw ∈ crossed, raw.Writable :=
    writable_of_mem_texts [Text.ofString "a:2", Text.ofString "a:1"]
  have hall : List.Forall₂ (NamesOnly none twins) crossed twins.reverse :=
    .cons rfl (.cons rfl .nil)
  obtain ⟨-, -, hiff⟩ := partitionHosts_linesUp_iff none portsWritable_twins hw
  refine ⟨portsWritable_twins, hw, rfl, hiff.mpr ?_⟩
  rintro ⟨founds, hf, -, found, hfound, hne⟩
  exact hne (length_eq_one_of_namesOnly hf (exists_namesOnly_of_forall₂ hall) found hfound)

/-- The hosts do not always line up with the descriptors. -/
theorem not_linesUp :
    ¬ ∀ (log : Option Channel) (nodes : List Node) (descriptors : List Json), PortsWritable nodes →
      (∀ raw ∈ descriptors, raw.Writable) →
        LinesUp log nodes descriptors (partitionHosts log nodes descriptors).outcome := by
  intro h
  have hlines := h none twins lopsided portsWritable_twins
    (writable_of_mem_texts [Text.ofString "a", Text.ofString "b"])
  have hret : (partitionHosts none twins lopsided).outcome = .ok twins := rfl
  obtain ⟨n, hn⟩ := hlines.returns_iff.mp ⟨twins, hret⟩ _ List.mem_cons_self
  have hboth : Resolves none twins (.str (Text.ofString "a")) twins := rfl
  have he : Except.ok twins = Except.ok [n] := hboth.symm.trans hn
  cases he

end BucketMap
