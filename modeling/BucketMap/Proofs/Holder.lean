import BucketMap.Routing
import BucketMap.Proofs.BuiltConfig

/-!
# Histories of a holder

A proposed config is put to use if it is newer than the one in use, else the holder stays what it is
(`Holder.propose_cases`). If the configs were built, that is always answered
(`Holder.Reachable.propose_answers`). So what is in use after any history of proposals was built
(`Holder.Reachable.built`), and all that is known of built configs holds for it.
-/

namespace BucketMap

/-- The config was built from some document. -/
def BucketConfig.Built (c : BucketConfig) : Prop :=
  ∃ log d, (BucketConfig.build log d).outcome = .ok c

theorem BucketConfig.Built.sound {c : BucketConfig} (h : c.Built) : c.Sound := by
  obtain ⟨log, d, hb⟩ := h
  exact (BucketConfig.builtFrom_of_build hb).sound

theorem BucketConfig.Built.rev_writable {c : BucketConfig} (h : c.Built) :
    Numeral.Writable c.rev := by
  obtain ⟨log, d, hb⟩ := h
  exact (BucketConfig.builtFrom_of_build hb).rev_writable

namespace Holder

variable {h : Holder} {c : BucketConfig}

/-! ## One proposal -/

/-- All that a proposal can do. -/
theorem propose_cases (h : Holder) (c : BucketConfig) :
    (h.propose c = (⟨some c⟩, reportInstalled c) ∧
      ∀ current, h.current = some current → current.rev < c.rev) ∨
    ∃ current, h.current = some current ∧ c.rev ≤ current.rev ∧
      h.propose c = (h, reportIgnored c current) := by
  obtain ⟨current⟩ := h
  cases current with
  | none => exact .inl ⟨rfl, by simp⟩
  | some current =>
    by_cases hold : c.rev ≤ current.rev
    · exact .inr ⟨current, rfl, hold, if_pos hold⟩
    · refine .inl ⟨if_neg hold, ?_⟩
      rintro current' ⟨⟩
      omega

theorem outcome_reportInstalled (hrev : Numeral.Writable c.rev) :
    (reportInstalled c).outcome = .ok true := by
  have hreport : (reportRebalance c).outcome = .ok () := by
    unfold reportRebalance
    split
    · exact Run.outcome_emit (by simp)
    · rfl
  unfold reportInstalled
  rw [Run.outcome_bind_of_ok (Run.outcome_emit (by simpa using hrev)),
    Run.outcome_bind_of_ok hreport]
  rfl

theorem outcome_reportIgnored {current : BucketConfig} (hrev : Numeral.Writable c.rev)
    (hcurrent : Numeral.Writable current.rev) : (reportIgnored c current).outcome = .ok false := by
  unfold reportIgnored
  rw [Run.outcome_bind_of_ok (Run.outcome_emit (by simpa using ⟨hrev, hcurrent⟩))]
  rfl

/-- A config that is not newer is never reported as put to use. -/
theorem outcome_reportIgnored_ne (c current : BucketConfig) :
    (reportIgnored c current).outcome ≠ .ok true := by
  unfold reportIgnored
  rw [Ne, Run.outcome_bind_eq_ok_iff]
  rintro ⟨_, _, h⟩
  cases h

/-- What a proposal leaves behind: the new config, or the holder as it was. -/
inductive Proposal (h : Holder) (c : BucketConfig) : Holder → Bool → Prop
  | newer (hnew : ∀ current, h.current = some current → current.rev < c.rev) :
      Proposal h c ⟨some c⟩ true
  | stale {current : BucketConfig} (hcurrent : h.current = some current)
      (hold : c.rev ≤ current.rev) : Proposal h c h false

theorem propose_outcome (hrev : Numeral.Writable c.rev)
    (hcurrent : ∀ current, h.current = some current → Numeral.Writable current.rev) :
    ∃ installed, (h.propose c).2.outcome = .ok installed ∧
      Proposal h c (h.propose c).1 installed := by
  rcases propose_cases h c with ⟨hp, hnew⟩ | ⟨current, hsome, hold, hp⟩
  · rw [hp]
    exact ⟨true, outcome_reportInstalled hrev, .newer hnew⟩
  · rw [hp]
    exact ⟨false, outcome_reportIgnored hrev (hcurrent current hsome), .stale hsome hold⟩

/-! ## Histories -/

/-- Proposals of built configs lead to the holder. It starts empty or with a built config. -/
inductive Reachable : Holder → Prop
  | empty : Reachable ⟨none⟩
  | holding {c : BucketConfig} (hc : c.Built) : Reachable ⟨some c⟩
  | proposed {h : Holder} {c : BucketConfig} (hr : Reachable h) (hc : c.Built) :
      Reachable (h.propose c).1

theorem current_built_of_propose (hc : c.Built)
    (hh : ∀ current, h.current = some current → current.Built) :
    ∀ current, (h.propose c).1.current = some current → current.Built := by
  rcases propose_cases h c with ⟨hp, -⟩ | ⟨_, -, -, hp⟩
  · rw [hp]
    rintro current ⟨⟩
    exact hc
  · rwa [hp]

theorem Reachable.built (hr : h.Reachable) : ∀ c, h.current = some c → c.Built := by
  induction hr with
  | empty =>
    intro c hsome
    cases hsome
  | holding hc =>
    intro c hsome
    cases hsome
    exact hc
  | proposed _ hc ih => exact current_built_of_propose hc ih

/-- A history can always be continued, and each proposal is answered. -/
theorem Reachable.propose_answers (hr : h.Reachable) (hc : c.Built) :
    ∃ installed, (h.propose c).2.outcome = .ok installed ∧
      Proposal h c (h.propose c).1 installed ∧ (h.propose c).1.Reachable := by
  have hcurrent : ∀ current, h.current = some current → Numeral.Writable current.rev :=
    fun current hsome => (hr.built current hsome).rev_writable
  obtain ⟨installed, hp, hproposal⟩ := propose_outcome hc.rev_writable hcurrent
  exact ⟨installed, hp, hproposal, .proposed hr hc⟩

end Holder

end BucketMap
