import BucketMap.Proofs.Holder
import BucketMap.Proofs.Lookup
import Mathlib.Data.List.Nodup

/-!
# The newest config

A holder keeps the first config of greatest revision among all that it has seen: the one that it
started with, if any, and those proposed since then. The revision that it ends with does not depend
on the order of the proposals, and neither does the config if no two proposals have one revision.

* `FirstGreatest` names that config in a list.
* `keep` is the effect of a proposal on what is in use (`Holder.current_after`), `Newest.keep` is
  the step of the invariant and `newest_foldl` the run.
* `Holder.proposals_keep_newest` collects what holds of every run.
-/

namespace BucketMap

/-- The config is the first one of greatest revision in the list. -/
def FirstGreatest (seen : List BucketConfig) (c : BucketConfig) : Prop :=
  ∃ before after, seen = before ++ c :: after ∧ (∀ e ∈ before, e.rev < c.rev) ∧
    ∀ e ∈ after, e.rev ≤ c.rev

section FirstGreatest

variable {seen others : List BucketConfig} {c k : BucketConfig}

theorem FirstGreatest.mem (h : FirstGreatest seen k) : k ∈ seen := by
  obtain ⟨before, after, rfl, _, _⟩ := h
  simp

theorem FirstGreatest.rev_le (h : FirstGreatest seen k) : ∀ e ∈ seen, e.rev ≤ k.rev := by
  obtain ⟨before, after, rfl, hbefore, hafter⟩ := h
  intro e he
  rcases List.mem_append.mp he with he | he
  · exact Int.le_of_lt (hbefore e he)
  · rcases List.mem_cons.mp he with rfl | he
    · exact Int.le_refl _
    · exact hafter e he

theorem firstGreatest_singleton (c : BucketConfig) : FirstGreatest [c] c :=
  ⟨[], [], rfl, by simp, by simp⟩

theorem FirstGreatest.append_stale (h : FirstGreatest seen k) (hold : c.rev ≤ k.rev) :
    FirstGreatest (seen ++ [c]) k := by
  obtain ⟨before, after, rfl, hbefore, hafter⟩ := h
  refine ⟨before, after ++ [c], by simp, hbefore, ?_⟩
  intro e he
  rcases List.mem_append.mp he with he | he
  · exact hafter e he
  · rwa [List.mem_singleton.mp he]

theorem FirstGreatest.append_newer (h : FirstGreatest seen k) (hnew : k.rev < c.rev) :
    FirstGreatest (seen ++ [c]) c := by
  refine ⟨seen, [], rfl, ?_, by simp⟩
  intro e he
  exact Int.lt_of_le_of_lt (h.rev_le e he) hnew

/-- The first config of the list is the one if it has the greatest revision. -/
theorem FirstGreatest.eq_head (h : FirstGreatest (c :: seen) k) (hrev : k.rev ≤ c.rev) : k = c := by
  obtain ⟨before, after, hsplit, hbefore, _⟩ := h
  cases before with
  | nil =>
    cases hsplit
    rfl
  | cons e before =>
    cases hsplit
    have hlt := hbefore c List.mem_cons_self
    omega

theorem FirstGreatest.rev_eq_of_perm {k' : BucketConfig} (h : FirstGreatest seen k)
    (h' : FirstGreatest others k') (hperm : others.Perm seen) : k'.rev = k.rev := by
  have hle := h.rev_le k' (hperm.mem_iff.mp h'.mem)
  have hge := h'.rev_le k (hperm.mem_iff.mpr h.mem)
  omega

end FirstGreatest

/-! ## Runs -/

/-- What is in use after a proposal. -/
def keep (current : Option BucketConfig) (c : BucketConfig) : Option BucketConfig :=
  match current with
  | none => some c
  | some k => if c.rev ≤ k.rev then some k else some c

/-- What is in use is the first config of greatest revision among those seen. -/
inductive Newest : List BucketConfig → Option BucketConfig → Prop
  | nothing : Newest [] none
  | something {seen : List BucketConfig} {k : BucketConfig} (hk : FirstGreatest seen k) :
      Newest seen (some k)

theorem newest_toList (start : Option BucketConfig) : Newest start.toList start := by
  cases start with
  | none => exact .nothing
  | some s => exact .something (firstGreatest_singleton s)

theorem Newest.keep {seen : List BucketConfig} {current : Option BucketConfig} (c : BucketConfig)
    (h : Newest seen current) : Newest (seen ++ [c]) (keep current c) := by
  cases h with
  | nothing => exact .something (firstGreatest_singleton c)
  | something hk =>
    unfold BucketMap.keep
    dsimp only
    split
    · rename_i hold
      exact .something (hk.append_stale hold)
    · rename_i hnew
      exact .something (hk.append_newer (by omega))

theorem newest_foldl {seen : List BucketConfig} {current : Option BucketConfig}
    (cs : List BucketConfig) (h : Newest seen current) :
    Newest (seen ++ cs) (cs.foldl keep current) := by
  -- Induction on the proposals; what was seen before them varies with the config in use.
  induction cs generalizing seen current with
  | nil => simpa using h
  | cons c cs ih =>
    have hstep := ih (h.keep c)
    rwa [List.append_assoc, List.singleton_append] at hstep

namespace Newest

variable {seen others : List BucketConfig} {current current' : Option BucketConfig}

theorem mem (h : Newest seen current) : ∀ k, current = some k → k ∈ seen := by
  cases h with
  | nothing => simp
  | something hk =>
    rintro k ⟨⟩
    exact hk.mem

theorem exists_of_ne_nil (h : Newest seen current) (hne : seen ≠ []) :
    ∃ k, current = some k ∧ FirstGreatest seen k := by
  cases h with
  | nothing => exact absurd rfl hne
  | something hk => exact ⟨_, rfl, hk⟩

/-- A config is newer than what is in use exactly if it is newer than all that was seen. -/
theorem newer_iff (h : Newest seen current) (c : BucketConfig) :
    (∀ k, current = some k → k.rev < c.rev) ↔ ∀ e ∈ seen, e.rev < c.rev := by
  cases h with
  | nothing => simp
  | something hk =>
    constructor
    · intro hnew e he
      exact Int.lt_of_le_of_lt (hk.rev_le e he) (hnew _ rfl)
    · rintro hnew k ⟨⟩
      exact hnew _ hk.mem

theorem rev_eq_of_perm (h : Newest seen current) (h' : Newest others current')
    (hperm : others.Perm seen) : current'.map (·.rev) = current.map (·.rev) := by
  cases h with
  | nothing =>
    rw [List.perm_nil.mp hperm] at h'
    cases h' with
    | nothing => rfl
    | something hk => cases hk.mem
  | something hk =>
    have hne : others ≠ [] := List.ne_nil_of_mem (hperm.mem_iff.mpr hk.mem)
    obtain ⟨k', rfl, hk'⟩ := h'.exists_of_ne_nil hne
    rw [Option.map_some, Option.map_some, hk.rev_eq_of_perm hk' hperm]

end Newest

/-- Configs of different revisions behind a first one: the newest of all does not depend on their
order, since the first one wins against others of its revision. -/
theorem FirstGreatest.eq_of_perm {start : Option BucketConfig} {cs cs' : List BucketConfig}
    {k k' : BucketConfig} (h : FirstGreatest (start.toList ++ cs) k)
    (h' : FirstGreatest (start.toList ++ cs') k') (hperm : cs'.Perm cs)
    (hrevs : (cs.map (·.rev)).Nodup) : k' = k := by
  have hrev : k'.rev = k.rev := h.rev_eq_of_perm h' (hperm.append_left _)
  have hinj : k ∈ cs → k' ∈ cs' → k' = k := fun hk hk' =>
    List.inj_on_of_nodup_map hrevs (hperm.mem_iff.mp hk') hk hrev
  cases start with
  | none => exact hinj h.mem h'.mem
  | some s =>
    -- The config at the start wins against proposals of its revision, so only these must differ.
    by_cases hfirst : k.rev ≤ s.rev
    · rw [h.eq_head hfirst, h'.eq_head (by omega)]
    · have hk : k ∈ cs := by
        rcases List.mem_cons.mp h.mem with rfl | hk
        · omega
        · exact hk
      have hk' : k' ∈ cs' := by
        rcases List.mem_cons.mp h'.mem with rfl | hk'
        · omega
        · exact hk'
      exact hinj hk hk'

theorem Newest.firstGreatest {seen : List BucketConfig} {k : BucketConfig}
    (h : Newest seen (some k)) : FirstGreatest seen k := by
  cases h with
  | something hk => exact hk

theorem Newest.eq_of_perm {start current current' : Option BucketConfig}
    {cs cs' : List BucketConfig} (h : Newest (start.toList ++ cs) current)
    (h' : Newest (start.toList ++ cs') current') (hperm : cs'.Perm cs)
    (hrevs : (cs.map (·.rev)).Nodup) : current' = current := by
  have hrev := h.rev_eq_of_perm h' (hperm.append_left _)
  cases current with
  | none => simpa using hrev
  | some k =>
    cases current' with
    | none => simp at hrev
    | some k' => rw [h.firstGreatest.eq_of_perm h'.firstGreatest hperm hrevs]

namespace Holder

/-- The holder after a proposal. -/
def after (h : Holder) (c : BucketConfig) : Holder := (h.propose c).1

/-- The holder after proposals. -/
def afterAll (h : Holder) (cs : List BucketConfig) : Holder := cs.foldl after h

variable {h : Holder} {c : BucketConfig}

theorem current_after (h : Holder) (c : BucketConfig) :
    (h.after c).current = keep h.current c := by
  unfold keep after
  rcases propose_cases h c with ⟨hp, hnew⟩ | ⟨k, hk, hold, hp⟩
  · rw [hp]
    split
    · rfl
    · rename_i k hk
      have hlt := hnew k hk
      rw [if_neg (by omega)]
  · rw [hp, hk]
    dsimp only
    rw [if_pos hold]

theorem current_afterAll (h : Holder) (cs : List BucketConfig) :
    (h.afterAll cs).current = cs.foldl keep h.current := by
  unfold afterAll
  induction cs generalizing h with
  | nil => rfl
  | cons c cs ih => rw [List.foldl_cons, List.foldl_cons, ih (h.after c), current_after h c]

/-- A run leaves the first config of greatest revision in use. -/
theorem newest_afterAll (start : Option BucketConfig) (cs : List BucketConfig) :
    Newest (start.toList ++ cs) ((⟨start⟩ : Holder).afterAll cs).current := by
  rw [current_afterAll]
  exact newest_foldl cs (newest_toList start)

/-! ## What every run keeps -/

/-- What a proposal does to a holder that has seen the given configs. -/
structure KeepsNewest (seen : List BucketConfig) (h : Holder) (c : BucketConfig) : Prop where
  current : ∃ k, (h.after c).current = some k ∧ FirstGreatest (seen ++ [c]) k
  installs_iff : (h.propose c).2.outcome = .ok true ↔ ∀ e ∈ seen, e.rev < c.rev
  installed : (h.propose c).2.outcome = .ok true →
    (h.after c).current = some c ∧ ∀ k, h.current = some k → k.rev < c.rev
  unchanged : (h.propose c).2.outcome = .ok false → h.after c = h

theorem keepsNewest {seen : List BucketConfig} (hseen : Newest seen h.current)
    (hrev : Numeral.Writable c.rev) : KeepsNewest seen h c := by
  have hafter : Newest (seen ++ [c]) (h.after c).current := by
    rw [current_after h c]
    exact hseen.keep c
  have hcurrent := hafter.exists_of_ne_nil (by simp)
  rcases propose_cases h c with ⟨hp, hnew⟩ | ⟨k, hk, hold, hp⟩
  · have hyes : (h.propose c).2.outcome = .ok true := by
      rw [hp]
      exact outcome_reportInstalled hrev
    refine ⟨hcurrent, ?_, ?_, ?_⟩
    · rw [← hseen.newer_iff c]
      exact iff_of_true hyes hnew
    · intro _
      exact ⟨congrArg (·.1.current) hp, hnew⟩
    · intro hno
      rw [hyes] at hno
      cases hno
  · have hno : (h.propose c).2.outcome ≠ .ok true := by
      rw [hp]
      exact outcome_reportIgnored_ne c k
    refine ⟨hcurrent, ?_, ?_, ?_⟩
    · rw [← hseen.newer_iff c]
      refine iff_of_false hno ?_
      intro hnew
      have hlt := hnew k hk
      omega
    · intro hyes
      exact absurd hyes hno
    · intro _
      exact congrArg (·.1) hp

/-- A proposal is answered if the revision that the holder started with can be reported. -/
theorem propose_answers {start : Option BucketConfig} {earlier : List BucketConfig}
    (hearlier : ∀ e ∈ earlier, e.Built) (hrev : Numeral.Writable c.rev)
    (hstart : ∀ s, start = some s → Numeral.Writable s.rev) :
    ∃ installed,
      (((⟨start⟩ : Holder).afterAll earlier).propose c).2.outcome = .ok installed := by
  have hcurrent : ∀ k, ((⟨start⟩ : Holder).afterAll earlier).current = some k →
      Numeral.Writable k.rev := by
    intro k hk
    rcases List.mem_append.mp ((newest_afterAll start earlier).mem k hk) with hs | he
    · exact hstart k (Option.mem_toList.mp hs)
    · exact (hearlier k he).rev_writable
  obtain ⟨installed, hp, -⟩ := propose_outcome hrev hcurrent
  exact ⟨installed, hp⟩

/-- **The first of the newest configs.** After each of the proposals of built configs the first one
of greatest revision is in use, among the config at the start and those proposed so far; a proposal
is accepted exactly if it is newer than all of them. The revision at the end does not depend on the
order of the proposals, and the config does not either if they have different revisions. -/
theorem proposals_keep_newest (start : Option BucketConfig) {cs : List BucketConfig}
    (hcs : ∀ c ∈ cs, c.Built) :
    (∀ earlier c later, cs = earlier ++ c :: later →
      KeepsNewest (start.toList ++ earlier) ((⟨start⟩ : Holder).afterAll earlier) c ∧
      ((∀ s, start = some s → Numeral.Writable s.rev) → ∃ installed,
        (((⟨start⟩ : Holder).afterAll earlier).propose c).2.outcome = .ok installed)) ∧
    ∀ cs', cs'.Perm cs →
      ((⟨start⟩ : Holder).afterAll cs').current.map (·.rev) =
        ((⟨start⟩ : Holder).afterAll cs).current.map (·.rev) ∧
      ((cs.map (·.rev)).Nodup →
        ((⟨start⟩ : Holder).afterAll cs').current = ((⟨start⟩ : Holder).afterAll cs).current) := by
  constructor
  · rintro earlier c later rfl
    have hc : c.Built := hcs c (by simp)
    have hearlier : ∀ e ∈ earlier, e.Built := fun e he => hcs e (by simp [he])
    exact ⟨keepsNewest (newest_afterAll start earlier) hc.rev_writable,
      propose_answers hearlier hc.rev_writable⟩
  · intro cs' hperm
    have hnewest := newest_afterAll start cs
    have hnewest' := newest_afterAll start cs'
    refine ⟨hnewest.rev_eq_of_perm hnewest' (hperm.append_left _), ?_⟩
    intro hrevs
    exact hnewest.eq_of_perm hnewest' hperm hrevs

/-- The same bucket before the rebalance of `rebalancing`. -/
def settled : Document := { BucketConfig.rebalancing with rev := 6 }

/-- Two configs in the wrong order: the newer one stays in use. -/
theorem proposals_keep_newest_rebalanced :
    ∃ older : BucketConfig, (∀ c ∈ [BucketConfig.rebalanced, older], c.Built) ∧
      KeepsNewest [BucketConfig.rebalanced] (afterAll ⟨none⟩ [BucketConfig.rebalanced]) older ∧
      (afterAll ⟨none⟩ [older, BucketConfig.rebalanced]).current =
        (afterAll ⟨none⟩ [BucketConfig.rebalanced, older]).current := by
  have hsettled : ∃ older, (BucketConfig.build none settled).outcome = .ok older ∧
      older.rev = 6 := ⟨_, rfl, rfl⟩
  obtain ⟨older, holder, hrev⟩ := hsettled
  have hbuilt : ∀ c ∈ [BucketConfig.rebalanced, older], c.Built := by
    intro c hc
    rcases List.mem_cons.mp hc with rfl | hc
    · exact ⟨_, _, BucketConfig.build_rebalancing⟩
    · rw [List.mem_singleton.mp hc]
      exact ⟨_, _, holder⟩
  have hrevs : ([BucketConfig.rebalanced, older].map (·.rev)).Nodup := by
    simp [hrev, BucketConfig.rebalanced]
  obtain ⟨hsteps, horder⟩ := proposals_keep_newest none hbuilt
  obtain ⟨hstep, -⟩ := hsteps [BucketConfig.rebalanced] older [] rfl
  obtain ⟨-, hsame⟩ := horder [older, BucketConfig.rebalanced] (List.Perm.swap _ _ [])
  exact ⟨older, hbuilt, hstep, hsame hrevs⟩

end Holder

end BucketMap
