import BucketMap.Proofs.LowerCase
import BucketMap.Proofs.WrittenAddress

/-!
# Normal forms of bare hosts

A bare host, one without brackets around it, has a normal form that is its own normal form
(`Address.canonical_canonical`): a literal is read back from its written form, a name stays in lower
case, and lower case makes no literal out of a name (`IPAddress.read?_lower_eq_none`).

`Address.Bare` says that a host ends in neither white space nor brackets, so that nothing is cut
from it. A normal form is bare exactly if the host was (`Address.bare_canonical_iff`); only scopes
and names can end otherwise.
-/

namespace BucketMap

open CodePoint Text

/-! ## Literals in lower case -/

theorem CodePoint.Caseless.of_isAsciiDigit {c : CodePoint} (h : c.isAsciiDigit = true) :
    c.Caseless := by
  unfold isAsciiDigit at h
  simp only [Bool.and_eq_true, decide_eq_true_eq] at h
  exact .inl (by omega)

namespace Text

theorem splitOn_map_lower {mark : CodePoint} (hmark : mark.Caseless) (t : Text) :
    splitOn mark (t.map CodePoint.lower) = (splitOn mark t).map (List.map CodePoint.lower) := by
  induction t with
  | nil => rfl
  | cons c t ih =>
    rw [List.map_cons, splitOn_cons, splitOn_cons, ih]
    simp only [lower_eq_iff_of_caseless hmark]
    split
    · rfl
    · cases splitOn mark t <;> rfl

theorem mem_map_lower_iff {m : CodePoint} (hm : m.Caseless) {t : Text} :
    m ∈ t.map CodePoint.lower ↔ m ∈ t := by
  simp [List.mem_map, lower_eq_iff_of_caseless hm]

end Text

namespace IPv4

theorem caseless_of_read? {t : Text} {a : IPv4} (h : read? t = some a) : ∀ c ∈ t, c.Caseless := by
  intro c hc
  rcases isAsciiDigit_or_eq_point_of_read? h c hc with hdigit | rfl
  · exact .of_isAsciiDigit hdigit
  · decide

theorem read?_map_lower (t : Text) : read? (t.map CodePoint.lower) = read? t := by
  have hself (h : ∀ c ∈ t, c.lower = c) : t.map CodePoint.lower = t :=
    (List.map_congr_left h).trans (List.map_id t)
  ext a
  constructor
  · intro h
    rwa [hself fun c hc => ?_] at h
    have hcaseless := caseless_of_read? h c.lower (List.mem_map_of_mem hc)
    exact ((lower_eq_iff_of_caseless hcaseless).mp rfl).symm
  · intro h
    rwa [hself fun c hc => (lower_eq_iff_of_caseless (caseless_of_read? h c hc)).mpr rfl]

end IPv4

namespace IPv6

theorem hextet?_map_lower (t : Text) : hextet? (t.map CodePoint.lower) = hextet? t := by
  have hdigits : (t.map CodePoint.lower).mapM CodePoint.hexDigit? = t.mapM CodePoint.hexDigit? := by
    rw [List.mapM_map]
    congr 1
    funext c
    exact hexDigit?_lower c
  unfold hextet?
  rw [hdigits, List.isEmpty_map, List.length_map]

theorem groupsOf?_map_lower (tail : Bool) (pieces : List Text) :
    groupsOf? tail (pieces.map (List.map CodePoint.lower)) = groupsOf? tail pieces := by
  induction pieces with
  | nil => rfl
  | cons piece pieces ih =>
    cases pieces with
    | nil =>
      have hpoint : (CodePoint.ofChar '.').Caseless := by decide
      simp only [List.map_cons, List.map_nil, groupsOf?, mem_map_lower_iff hpoint, hextet?_map_lower,
        IPv4.read?_map_lower]
    | cons next pieces =>
      rw [List.map_cons, List.map_cons, groupsOf?_cons_cons, ← List.map_cons, ih,
        hextet?_map_lower, groupsOf?_cons_cons]

theorem side?_map_lower (tail : Bool) (t : Text) :
    side? tail (t.map CodePoint.lower) = side? tail t := by
  unfold side?
  rw [List.isEmpty_map, splitOn_map_lower (by decide), groupsOf?_map_lower]

theorem doubleColon?_map_lower (t : Text) :
    doubleColon? (t.map CodePoint.lower) =
      (doubleColon? t).map fun cut => (cut.1.map CodePoint.lower, cut.2.map CodePoint.lower) := by
  induction t with
  | nil => rfl
  | cons c t ih =>
    have hcolon : (CodePoint.ofChar ':').Caseless := by decide
    have hhead : (t.map CodePoint.lower).head? = some (CodePoint.ofChar ':') ↔
        t.head? = some (CodePoint.ofChar ':') := by
      rw [List.head?_map, Option.map_eq_some_iff]
      simp [lower_eq_iff_of_caseless hcolon]
    rw [List.map_cons, doubleColon?_cons, doubleColon?_cons]
    simp only [lower_eq_iff_of_caseless hcolon, hhead]
    split
    · simp
    · rw [ih, Option.map_map, Option.map_map]
      rfl

/-- The groups that a text writes do not depend on the case of its digits. -/
theorem groups?_map_lower (t : Text) : groups? (t.map CodePoint.lower) = groups? t := by
  unfold groups?
  rw [doubleColon?_map_lower]
  cases doubleColon? t with
  | none =>
    dsimp only [Option.map_none]
    rw [splitOn_map_lower (by decide), groupsOf?_map_lower]
  | some cut =>
    dsimp only [Option.map_some]
    rw [side?_map_lower, side?_map_lower]

/-- Letters whose form is in a literal have a form of one letter. -/
theorem eq_map_of_inLiteral {t t' : Text} (h : Lowered t t') (hlit : ∀ c ∈ t', c.InLiteral) :
    t' = t.map CodePoint.lower := by
  induction h with
  | nil => rfl
  | cons hform _ ih =>
    rw [ih fun d hd => hlit d (List.mem_append_right _ hd)]
    cases hform with
    | simple hne => rfl
    | finalSigma => exact absurd (hlit _ List.mem_cons_self) (by decide)
    | dottedI => exact absurd (hlit _ List.mem_cons_self) (by decide)

theorem groups?_of_lowered {t t' : Text} {gs : List Hextet} (h : Lowered t t')
    (hgs : groups? t' = some gs) : groups? t = some gs := by
  rw [eq_map_of_inLiteral h (inLiteral_of_groups? hgs), groups?_map_lower] at hgs
  exact hgs

/-- What is a literal in lower case was one before. -/
theorem exists_read?_of_lowered {t t' : Text} {a : IPv6} (h : Lowered t t')
    (ha : read? t' = some a) : ∃ b, read? t = some b := by
  obtain ⟨address, rfl, hgs, hscope⟩ := read?_eq_some_iff.mp ha
  cases hs : a.scope with
  | none =>
    rw [hs, scopeText, List.append_nil] at h
    refine ⟨⟨a.groups, a.length_groups, none⟩, read?_eq_some_iff.mpr ?_⟩
    exact ⟨t, by simp [scopeText], groups?_of_lowered h hgs, by simp [Readable]⟩
  | some scope =>
    rw [hs, scopeText] at h
    obtain ⟨hne, hpercent, hslash⟩ := hscope scope hs
    obtain ⟨u, v, rfl, hu, hv⟩ := h.exists_of_append_cons (by decide)
    refine ⟨⟨a.groups, a.length_groups, some v⟩, read?_eq_some_iff.mpr ?_⟩
    refine ⟨u, rfl, groups?_of_lowered hu hgs, ?_⟩
    rintro _ ⟨rfl⟩
    exact ⟨fun hnil => hne (hv.eq_nil_iff.mpr hnil),
      fun hmem => hpercent ((hv.mem_iff_of_caseless (by decide)).mpr hmem),
      fun hmem => hslash ((hv.mem_iff_of_caseless (by decide)).mpr hmem)⟩

end IPv6

namespace IPAddress

/-- Lower case makes no literal out of a name. -/
theorem read?_lower_eq_none {t : Text} (h : read? t = none) : read? (lower t) = none := by
  rw [Option.eq_none_iff_forall_ne_some]
  intro a ha
  have hlowered := lowered_lower t
  rcases read?_cases ha with ⟨b, -, hb⟩ | ⟨b, -, -, hb⟩
  · rw [← hlowered.eq_of_caseless (IPv4.caseless_of_read? hb), h] at ha
    cases ha
  · obtain ⟨c, hc⟩ := IPv6.exists_read?_of_lowered hlowered hb
    unfold read? at h
    split at h
    · cases h
    · rw [hc] at h
      cases h

end IPAddress

namespace Address

/-! ## The normal form of a bare host -/

theorem canonical_of_read? {t : Text} {a : IPAddress} (h : IPAddress.read? t = some a) :
    canonical t = a.text := by
  unfold canonical
  rw [h]

theorem canonical_of_name {t : Text} (h : IPAddress.read? t = none) : canonical t = lower t := by
  unfold canonical
  rw [h]

/-- The normal form denotes what the host denoted. -/
theorem read?_canonical (t : Text) : IPAddress.read? (canonical t) = IPAddress.read? t := by
  cases h : IPAddress.read? t with
  | none => rw [canonical_of_name h, IPAddress.read?_lower_eq_none h]
  | some a => rw [canonical_of_read? h, IPAddress.read?_text (IPAddress.readable_of_read? h)]

theorem canonical_canonical (t : Text) : canonical (canonical t) = canonical t := by
  cases h : IPAddress.read? t with
  | none =>
    have hname : IPAddress.read? (canonical t) = none := by rw [read?_canonical, h]
    rw [canonical_of_name hname, canonical_of_name h, Text.lower_lower]
  | some a =>
    have hlit : IPAddress.read? (canonical t) = some a := by rw [read?_canonical, h]
    rw [canonical_of_read? hlit, canonical_of_read? h]

/-! ## Ends -/

/-- Neither white space nor brackets stand at the ends. -/
structure Bare (t : Text) : Prop where
  head : ∀ c, t.head? = some c → c.isBlank = false ∧ c ≠ '['
  last : ∀ c, t.getLast? = some c → c.isBlank = false ∧ c ≠ ']'

instance (t : Text) : Decidable (Bare t) :=
  decidable_of_iff ((∀ c ∈ t.head?, c.isBlank = false ∧ c ≠ '[') ∧
    ∀ c ∈ t.getLast?, c.isBlank = false ∧ c ≠ ']') ⟨fun h => ⟨h.1, h.2⟩, fun h => ⟨h.head, h.last⟩⟩

theorem Bare.trim {t : Text} (h : Bare t) : Trim t :=
  ⟨fun c hc => (h.head c hc).1, fun c hc => (h.last c hc).1⟩

theorem val_of_inLiteral {c : CodePoint} (h : c.InLiteral) : 0x2E ≤ c.val ∧ c.val ≤ 0x66 := by
  rcases h with hdigit | rfl | rfl
  · unfold hexDigit? at hdigit
    simp only [Bool.and_eq_true, decide_eq_true_eq] at hdigit
    split at hdigit
    · omega
    · split at hdigit
      · omega
      · split at hdigit
        · omega
        · cases hdigit
  · decide
  · decide

theorem not_blank_of_inLiteral {c : CodePoint} (h : c.InLiteral) :
    c.isBlank = false ∧ c ≠ '[' ∧ c ≠ ']' := by
  refine ⟨?_, ?_, ?_⟩
  · obtain ⟨hlow, hhigh⟩ := val_of_inLiteral h
    have hoff : ∀ r ∈ blankRanges, r.2 < 0x2E ∨ 0x66 < r.1 := by decide
    unfold isBlank isIn
    rw [List.any_eq_false]
    intro r hr
    have hr' := hoff r hr
    simp only [Bool.and_eq_true, decide_eq_true_eq]
    omega
  · rintro rfl
    exact absurd h (by decide)
  · rintro rfl
    exact absurd h (by decide)

theorem bare_of_inLiteral {t : Text} (h : ∀ c ∈ t, c.InLiteral) : Bare t := by
  constructor
  · intro c hc
    obtain ⟨hblank, hopens, -⟩ := not_blank_of_inLiteral (h c (List.mem_of_head? hc))
    exact ⟨hblank, hopens⟩
  · intro c hc
    obtain ⟨hblank, -, hcloses⟩ := not_blank_of_inLiteral (h c (List.mem_of_getLast? hc))
    exact ⟨hblank, hcloses⟩

theorem bare_lower_iff (t : Text) : Bare (lower t) ↔ Bare t := by
  have hkept {m : CodePoint} (hm : m.Caseless) (c : CodePoint) (form : Text)
      (hform : LowerForm c form) (d : CodePoint) (hd : d ∈ form) :
      d.isBlank = false ∧ d ≠ m ↔ c.isBlank = false ∧ c ≠ m := by
    have hblank := hform.isBlank_iff d hd
    have hmark := hform.eq_iff_of_caseless hm d hd
    rw [Ne, Ne, hmark, Bool.eq_false_iff, Bool.eq_false_iff, Ne, Ne, hblank]
  have hhead := (lowered_lower t).head_iff (hkept (m := '[') (by decide))
  have hlast := (lowered_lower t).last_iff (hkept (m := ']') (by decide))
  exact ⟨fun h => ⟨hhead.mp h.head, hlast.mp h.last⟩, fun h => ⟨hhead.mpr h.head, hlast.mpr h.last⟩⟩

/-- A literal with a scope ends like the scope; its other members are never cut off. -/
theorem bare_iff_of_read? {t : Text} {a : IPv6} (h : IPv6.read? t = some a) :
    Bare t ↔ ∀ scope, a.scope = some scope →
      ∀ c, scope.getLast? = some c → c.isBlank = false ∧ c ≠ ']' := by
  obtain ⟨address, rfl, hgs, hscope⟩ := IPv6.read?_eq_some_iff.mp h
  have haddress := bare_of_inLiteral (IPv6.inLiteral_of_groups? hgs)
  cases hs : a.scope with
  | none => simpa [IPv6.scopeText] using haddress
  | some scope =>
    obtain ⟨hne, -⟩ := hscope scope hs
    have hhead : (address ++ IPv6.scopeText (some scope)).head? = address.head? :=
      List.head?_append_of_ne_nil _ (IPv6.ne_nil_of_groups? hgs)
    have hlast : (address ++ IPv6.scopeText (some scope)).getLast? = scope.getLast? := by
      rw [List.getLast?_append_of_ne_nil _ (by simp [IPv6.scopeText]), IPv6.scopeText,
        List.getLast?_cons_of_ne_nil hne]
    constructor
    · rintro hbare _ ⟨rfl⟩
      rw [← hlast]
      exact hbare.last
    · intro hends
      refine ⟨?_, ?_⟩
      · rw [hhead]
        exact haddress.head
      · rw [hlast]
        exact hends scope rfl

/-- Literals of one address are bare together. -/
theorem bare_congr_of_read? {t u : Text} {a : IPAddress} (ht : IPAddress.read? t = some a)
    (hu : IPAddress.read? u = some a) : Bare t ↔ Bare u := by
  rcases IPAddress.read?_cases ht with ⟨b, rfl, hb⟩ | ⟨b, rfl, -, hb⟩
  · rcases IPAddress.read?_cases hu with ⟨c, hc, hc'⟩ | ⟨c, hc, -, -⟩
    · exact iff_of_true (bare_of_inLiteral (IPv4.inLiteral_of_read? hb))
        (bare_of_inLiteral (IPv4.inLiteral_of_read? hc'))
    · cases hc
  · rcases IPAddress.read?_cases hu with ⟨c, hc, -⟩ | ⟨c, hc, -, hc'⟩
    · cases hc
    · cases hc
      rw [bare_iff_of_read? hb, bare_iff_of_read? hc']

theorem bare_canonical_iff (t : Text) : Bare (canonical t) ↔ Bare t := by
  cases h : IPAddress.read? t with
  | none => rw [canonical_of_name h, bare_lower_iff]
  | some a => exact bare_congr_of_read? (by rw [read?_canonical, h]) h

/-- A literal starts with one of its digits or a colon. -/
theorem exists_head_of_read? {t : Text} {a : IPAddress} (h : IPAddress.read? t = some a) :
    ∃ c, t.head? = some c ∧ c.InLiteral := by
  rcases IPAddress.read?_cases h with ⟨b, -, hb⟩ | ⟨b, -, -, hb⟩
  · cases t with
    | nil => cases hb
    | cons c t => exact ⟨c, rfl, IPv4.inLiteral_of_read? hb c List.mem_cons_self⟩
  · obtain ⟨address, rfl, hgs, -⟩ := IPv6.read?_eq_some_iff.mp hb
    cases address with
    | nil => exact absurd rfl (IPv6.ne_nil_of_groups? hgs)
    | cons c address => exact ⟨c, rfl, IPv6.inLiteral_of_groups? hgs c List.mem_cons_self⟩

end Address

end BucketMap
