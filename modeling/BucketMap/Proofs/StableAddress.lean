import BucketMap.Descriptor
import BucketMap.Proofs.NormalForm
import BucketMap.Proofs.Outcome
import Mathlib.Data.List.DropRight

/-!
# Stable normal forms

When the normal form of a host is a normal form of its own (`Address.normalize_stable_iff`): white
space and one pair of brackets are cut from the host, but nothing is cut from what is left. A host
such as `[[a]]` loses its brackets one pair at a time (`Address.not_normalize_stable`).

What a host denotes is kept in all cases (`Address.read?_of_normalize`).
-/

namespace BucketMap

open Text

namespace Address

/-! ## Brackets -/

/-- The host in one pair of brackets. -/
def bracketed (bare : Text) : Text := CodePoint.ofChar '[' :: (bare ++ [CodePoint.ofChar ']'])

theorem inner_bracketed (bare : Text) : inner (bracketed bare) = bare := by
  unfold inner bracketed
  rw [List.tail_cons, List.dropLast_concat]

theorem head_bracketed (bare : Text) :
    (bracketed bare).head? = some (CodePoint.ofChar '[') := rfl

theorem last_bracketed (bare : Text) :
    (bracketed bare).getLast? = some (CodePoint.ofChar ']') := by
  unfold bracketed
  rw [← List.cons_append, List.getLast?_concat]

theorem strip_bracketed (bare : Text) : strip (bracketed bare) = bracketed bare := by
  refine strip_of_trim ⟨fun c hc => ?_, fun c hc => ?_⟩
  · rw [head_bracketed] at hc
    cases hc
    decide
  · rw [last_bracketed] at hc
    cases hc
    decide

theorem eq_bracketed {t : Text} (hopens : t.head? = some (CodePoint.ofChar '['))
    (hcloses : t.getLast? = some (CodePoint.ofChar ']')) : t = bracketed (inner t) := by
  cases t with
  | nil => cases hopens
  | cons c rest =>
    cases hopens
    cases rest using List.reverseRec with
    | nil => exact absurd hcloses (by decide)
    | append_singleton rest d _ =>
      rw [← List.cons_append, List.getLast?_concat] at hcloses
      cases hcloses
      exact congrArg bracketed (inner_bracketed rest).symm

/-- What a host leaves without its brackets: either there is a pair of them, or none stands at its
end of the host. -/
theorem unbracket_eq_ok_iff {t bare : Text} :
    unbracket t = .ok bare ↔
      t = bracketed bare ∨ t = bare ∧ t.head? ≠ some (CodePoint.ofChar '[') ∧
        t.getLast? ≠ some (CodePoint.ofChar ']') := by
  have hopens_of : t = bracketed bare → t.head? = some (CodePoint.ofChar '[') := by
    rintro rfl
    exact head_bracketed bare
  have hcloses_of : t = bracketed bare → t.getLast? = some (CodePoint.ofChar ']') := by
    rintro rfl
    exact last_bracketed bare
  unfold unbracket endsWith
  simp only [decide_eq_true_eq]
  by_cases hopens : t.head? = some (CodePoint.ofChar '[')
  · by_cases hcloses : t.getLast? = some (CodePoint.ofChar ']')
    · rw [if_pos (.inl hopens), if_pos ⟨hopens, hcloses⟩, Except.ok.injEq]
      constructor
      · rintro rfl
        exact .inl (eq_bracketed hopens hcloses)
      · rintro (rfl | ⟨-, hno, -⟩)
        · exact inner_bracketed bare
        · exact absurd hopens hno
    · rw [if_pos (.inl hopens), if_neg fun h => hcloses h.2]
      refine iff_of_false (by simp) ?_
      rintro (hpair | ⟨-, hno, -⟩)
      · exact hcloses (hcloses_of hpair)
      · exact hno hopens
  · by_cases hcloses : t.getLast? = some (CodePoint.ofChar ']')
    · rw [if_pos (.inr hcloses), if_neg fun h => hopens h.1]
      refine iff_of_false (by simp) ?_
      rintro (hpair | ⟨-, -, hno⟩)
      · exact hopens (hopens_of hpair)
      · exact hno hcloses
    · rw [if_neg (by simp [hopens, hcloses]), Except.ok.injEq]
      constructor
      · rintro rfl
        exact .inr ⟨rfl, hopens, hcloses⟩
      · rintro (hpair | ⟨rfl, -⟩)
        · exact absurd (hopens_of hpair) hopens
        · rfl

theorem unbracket_strip_bracketed (bare : Text) :
    unbracket (strip (bracketed bare)) = .ok bare := by
  rw [strip_bracketed]
  exact unbracket_eq_ok_iff.mpr (.inl rfl)

theorem normalize_eq_ok_iff {host address : Text} :
    normalize host = .ok address ↔
      ∃ bare, unbracket (strip host) = .ok bare ∧ bare ≠ [] ∧ canonical bare = address := by
  unfold normalize
  cases unbracket (strip host) with
  | error fault => simp [bind, Except.bind]
  | ok bare =>
    cases bare with
    | nil => simp [bind, Except.bind]
    | cons c rest => simp [bind, Except.bind]

/-! ## Stable normal forms -/

theorem Bare.unbracket_strip {t : Text} (h : Bare t) : unbracket (strip t) = .ok t := by
  rw [strip_of_trim h.trim]
  exact unbracket_eq_ok_iff.mpr (.inr ⟨rfl, fun hc => (h.head _ hc).2 rfl,
    fun hc => (h.last _ hc).2 rfl⟩)

theorem bare_of_trim {t : Text} (htrim : Trim t) (hopens : t.head? ≠ some (CodePoint.ofChar '['))
    (hcloses : t.getLast? ≠ some (CodePoint.ofChar ']')) : Bare t := by
  refine ⟨fun c hc => ⟨htrim.1 c hc, ?_⟩, fun c hc => ⟨htrim.2 c hc, ?_⟩⟩
  · rintro rfl
    exact hopens hc
  · rintro rfl
    exact hcloses hc

theorem canonical_ne_nil {t : Text} (h : t ≠ []) : canonical t ≠ [] := by
  cases hread : IPAddress.read? t with
  | none =>
    rw [canonical_of_name hread]
    exact fun hnil => h ((lowered_lower t).eq_nil_iff.mp hnil)
  | some a =>
    intro hnil
    have hcanonical := read?_canonical t
    rw [hnil, hread] at hcanonical
    cases hcanonical

/-- Nothing is cut from a bare host. -/
theorem Bare.normalize_eq {t : Text} (h : Bare t) (hne : t ≠ []) :
    normalize t = .ok (canonical t) :=
  normalize_eq_ok_iff.mpr ⟨t, h.unbracket_strip, hne, rfl⟩

theorem stripEnd_isPrefix (t : Text) : stripEnd t <+: t := List.rdropWhile_prefix _ _

theorem strip_isInfix (t : Text) : strip t <:+: t :=
  (stripEnd_isPrefix (stripStart t)).isInfix.trans (List.dropWhile_suffix _).isInfix

theorem infix_bracketed (t : Text) : t <:+: bracketed t :=
  ⟨[CodePoint.ofChar '['], [CodePoint.ofChar ']'], rfl⟩

theorem infix_of_unbracket {t bare : Text} (h : unbracket t = .ok bare) : bare <:+: t := by
  rcases unbracket_eq_ok_iff.mp h with rfl | ⟨rfl, -⟩
  · exact infix_bracketed bare
  · exact List.infix_rfl

/-- A host that loses nothing was bare. -/
theorem bare_of_unbracket_strip {t : Text} (h : unbracket (strip t) = .ok t) : Bare t := by
  rcases unbracket_eq_ok_iff.mp h with hpair | ⟨hstrip, hopens, hcloses⟩
  · have hlength := (strip_isInfix t).length_le
    rw [hpair, bracketed, List.length_cons, List.length_append] at hlength
    omega
  · rw [hstrip] at hopens hcloses
    exact bare_of_trim (hstrip ▸ trim_strip t) hopens hcloses

/-- Where no white space stands in front, it is cut at the end only. -/
theorem head?_strip {t : Text} (h : ∀ c, t.head? = some c → c.isBlank = false) :
    (strip t).head? = t.head? := by
  rw [strip, stripStart_of_head h]
  cases ht : t with
  | nil => rfl
  | cons c rest =>
    have hblank : c.isBlank = false := h c (by rw [ht]; rfl)
    have hne : stripEnd (c :: rest) ≠ [] := by
      intro hnil
      rw [List.rdropWhile_eq_nil_iff.mp hnil c List.mem_cons_self] at hblank
      cases hblank
    obtain ⟨behind, hbehind⟩ := stripEnd_isPrefix (c :: rest)
    conv_rhs => rw [← hbehind, List.head?_append_of_ne_nil _ hne]

theorem head_strip_of_read? {t : Text} {a : IPAddress} (h : IPAddress.read? t = some a) :
    (strip t).head? = t.head? := by
  obtain ⟨c, hc, hin⟩ := exists_head_of_read? h
  refine head?_strip fun d hd => ?_
  cases hc.symm.trans hd
  exact (not_blank_of_inLiteral hin).1

/-- An address is bare if it is the normal form of what is left of it. -/
theorem bare_of_normalize_eq {t : Text} (hcanonical : canonical t = t) (h : normalize t = .ok t) :
    Bare t := by
  obtain ⟨bare, hbare, hne, heq⟩ := normalize_eq_ok_iff.mp h
  have hread : IPAddress.read? bare = IPAddress.read? t := by rw [← read?_canonical, heq]
  cases ht : IPAddress.read? t with
  | none =>
    -- The letters of what is left are letters of the address, so they are in lower case.
    have hsettled : ∀ c ∈ t, c.Settled := by
      rw [← hcanonical, canonical_of_name ht]
      exact (lowered_lower t).settled
    have hsub : bare ⊆ t := ((infix_of_unbracket hbare).trans (strip_isInfix t)).subset
    have hsame : canonical bare = bare := by
      rw [canonical_of_name (hread.trans ht)]
      exact lowerAfter_of_settled [] fun c hc => hsettled c (hsub hc)
    have ht' : bare = t := hsame.symm.trans heq
    subst ht'
    exact bare_of_unbracket_strip hbare
  | some a =>
    -- No bracket opens a literal, so what is left of it is bare.
    have hliteral : Bare bare := by
      rcases unbracket_eq_ok_iff.mp hbare with hpair | ⟨hstrip, hopens, hcloses⟩
      · obtain ⟨c, hc, hin⟩ := exists_head_of_read? ht
        rw [← head_strip_of_read? ht, hpair, head_bracketed] at hc
        cases hc
        exact absurd hin (by decide)
      · rw [hstrip] at hopens hcloses
        exact bare_of_trim (hstrip ▸ trim_strip t) hopens hcloses
    exact (bare_congr_of_read? (hread.trans ht) ht).mp hliteral

/-- The normal form denotes what the host denoted without its brackets. -/
theorem read?_of_normalize {host bare address : Text} (hbare : unbracket (strip host) = .ok bare)
    (h : normalize host = .ok address) : IPAddress.read? address = IPAddress.read? bare := by
  obtain ⟨_, hb, -, rfl⟩ := normalize_eq_ok_iff.mp h
  cases hbare.symm.trans hb
  exact read?_canonical bare

theorem normalize_normalize_iff {host bare address : Text}
    (hbare : unbracket (strip host) = .ok bare) (h : normalize host = .ok address) :
    normalize address = .ok address ↔ Bare bare := by
  obtain ⟨_, hb, hne, rfl⟩ := normalize_eq_ok_iff.mp h
  cases hbare.symm.trans hb
  rw [← bare_canonical_iff bare]
  constructor
  · exact bare_of_normalize_eq (canonical_canonical bare)
  · intro hends
    rw [hends.normalize_eq (canonical_ne_nil hne), canonical_canonical]

end Address

theorem Descriptor.exists_normalize_of_read {log : Option Channel} {raw : Json} {d : Descriptor}
    (h : (read log raw).outcome = .ok d) : ∃ host, Address.normalize host = .ok d.address := by
  unfold read at h
  split at h
  · split at h
    · cases h
    · unfold readStripped at h
      split at h
      · cases h
      · rename_i host port _
        split at h
        · cases h
        · rename_i address haddress
          obtain ⟨p, -, hd⟩ := Run.outcome_bind_eq_ok_iff.mp h
          cases hd
          exact ⟨host, haddress⟩
  · cases h

theorem Node.of_eq_ok_iff {host address : Text} {services : Services} :
    Node.of host services = .ok ⟨address, services⟩ ↔ Address.normalize host = .ok address := by
  unfold Node.of
  cases Address.normalize host with
  | ok hostname => simp
  | error fault => simp [refuse]

namespace Address

/-- **Stable normal forms.** The normal form of a host is its own normal form exactly if neither
white space nor brackets stand at the ends of what the host leaves without its white space and its
pair of brackets. The same holds of the addresses of descriptors, when they become addresses of
nodes. -/
theorem normalize_stable_iff {host address : Text} (h : normalize host = .ok address) :
    (∃ bare, unbracket (strip host) = .ok bare ∧
      (normalize address = .ok address ↔ Bare bare)) ∧
    ∀ (log : Option Channel) (raw : Json) (d : Descriptor),
      (Descriptor.read log raw).outcome = .ok d →
      ∀ services, Node.of d.address services = .ok ⟨d.address, services⟩ ↔ Bare d.address := by
  obtain ⟨bare, hbare, -, -⟩ := normalize_eq_ok_iff.mp h
  refine ⟨⟨bare, hbare, normalize_normalize_iff hbare h⟩, ?_⟩
  intro log raw d hd services
  obtain ⟨host', hhost'⟩ := Descriptor.exists_normalize_of_read hd
  obtain ⟨bare', hbare', -, hcanonical⟩ := normalize_eq_ok_iff.mp hhost'
  rw [Node.of_eq_ok_iff, normalize_normalize_iff hbare' hhost', ← hcanonical, bare_canonical_iff]

/-! ### A host that is bare, and one that is not -/

/-- An address with a scope, in brackets and white space. -/
def scopedHost : Text := Text.ofString " [FE80:0::1%Eth0] "

/-- The same address as a descriptor with a port. -/
def scopedDescriptor : Json := .str (Text.ofString "[FE80:0::1%Eth0]:11210")

theorem normalize_stable_scoped :
    normalize scopedHost = .ok (Text.ofString "fe80::1%Eth0") ∧
      normalize (Text.ofString "fe80::1%Eth0") = .ok (Text.ofString "fe80::1%Eth0") ∧
      (Descriptor.read none scopedDescriptor).outcome =
        .ok ⟨Text.ofString "fe80::1%Eth0", 11210⟩ ∧
      Node.of (Text.ofString "fe80::1%Eth0") [] = .ok ⟨Text.ofString "fe80::1%Eth0", []⟩ := by
  have hnormalize : normalize scopedHost = .ok (Text.ofString "fe80::1%Eth0") := rfl
  have hread : (Descriptor.read none scopedDescriptor).outcome =
      .ok ⟨Text.ofString "fe80::1%Eth0", 11210⟩ := rfl
  obtain ⟨⟨bare, hbare, hiff⟩, hnodes⟩ := normalize_stable_iff hnormalize
  obtain rfl : Text.ofString "FE80:0::1%Eth0" = bare := Except.ok.inj hbare
  exact ⟨hnormalize, hiff.mpr (by decide), hread, (hnodes _ _ _ hread []).mpr (by decide)⟩

/-- A normal form may have another normal form. -/
theorem not_normalize_stable :
    ¬ ∀ host address, normalize host = .ok address → normalize address = .ok address := by
  intro h
  have hspaced : normalize (Text.ofString "[ a ]") = .ok (Text.ofString " a ") := rfl
  have hcut : normalize (Text.ofString " a ") = .ok (Text.ofString "a") := rfl
  have heq := hcut.symm.trans (h _ _ hspaced)
  injection heq with heq
  revert heq
  decide

end Address

end BucketMap
