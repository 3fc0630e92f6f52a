import BucketMap.Address
import BucketMap.Proofs.Pieces

/-!
# Written addresses are read back

The written form of an IP address is a literal of that address: reading inverts writing, from the
digits of an octet or a group (`IPv4.octet?_natural`, `IPv6.hextet?_groupText`) over the longest
run of zeros, which the double colon stands for (`IPv6.longestZeros_spec`,
`IPv6.groups?_compressed`), to whole addresses (`IPAddress.read?_text`). A scope is read back if it
could have been read at all (`IPAddress.Readable`).

Apart from its scope a literal consists of hexadecimal digits, colons and points
(`IPv6.read?_eq_some_iff`, `IPv6.inLiteral_of_groups?`).
-/

namespace BucketMap

/-- A member of a literal in front of its scope. -/
def CodePoint.InLiteral (c : CodePoint) : Prop :=
  c.hexDigit?.isSome = true ∨ c = ':' ∨ c = '.'

instance (c : CodePoint) : Decidable c.InLiteral := inferInstanceAs (Decidable (_ ∨ _))

/-! ## IPv4 -/

namespace IPv4

theorem octet?_natural : ∀ o : Fin 256, octet? (Numeral.natural o.val) = some o := by
  decide +kernel

theorem point_not_mem_natural : ∀ o : Fin 256, CodePoint.ofChar '.' ∉ Numeral.natural o.val := by
  decide +kernel

theorem read?_text (a : IPv4) : read? a.text = some a := by
  unfold read? text
  rw [show Text.ofString "." = [CodePoint.ofChar '.'] from rfl, Text.splitOn_join (by simp)]
  · simp only [List.map_cons, List.map_nil, octet?_natural]
    rfl
  · intro piece hpiece
    obtain ⟨o, -, rfl⟩ := List.mem_map.mp hpiece
    exact point_not_mem_natural o

theorem isAsciiDigit_of_octet? {t : Text} {o : Fin 256} (h : octet? t = some o) :
    ∀ c ∈ t, c.isAsciiDigit = true := by
  unfold octet? at h
  split at h
  · cases h
  · rename_i hno
    simp only [Bool.or_eq_true, Bool.not_eq_true', not_or, Bool.not_eq_false,
      List.all_eq_true] at hno
    exact hno.1.2

/-- A literal of an IPv4 address consists of digits and points. -/
theorem isAsciiDigit_or_eq_point_of_read? {t : Text} {a : IPv4} (h : read? t = some a) :
    ∀ c ∈ t, c.isAsciiDigit = true ∨ c = '.' := by
  unfold read? at h
  split at h
  · rename_i p q r s hsplit
    simp only [Option.bind_eq_bind, Option.bind_eq_some_iff] at h
    obtain ⟨_, hp, _, hq, _, hr, _, hs, -⟩ := h
    intro c hc
    rcases Text.mem_splitOn '.' hc with hmark | ⟨piece, hpiece, hc⟩
    · exact .inr hmark
    · left
      rw [hsplit] at hpiece
      simp only [List.mem_cons, List.not_mem_nil, or_false] at hpiece
      rcases hpiece with rfl | rfl | rfl | rfl
      · exact isAsciiDigit_of_octet? hp c hc
      · exact isAsciiDigit_of_octet? hq c hc
      · exact isAsciiDigit_of_octet? hr c hc
      · exact isAsciiDigit_of_octet? hs c hc
  · cases h

theorem inLiteral_of_read? {t : Text} {a : IPv4} (h : read? t = some a) :
    ∀ c ∈ t, c.InLiteral := by
  intro c hc
  rcases isAsciiDigit_or_eq_point_of_read? h c hc with hdigit | hpoint
  · left
    unfold CodePoint.isAsciiDigit at hdigit
    unfold CodePoint.hexDigit?
    rw [if_pos hdigit]
    rfl
  · exact .inr (.inr hpoint)

end IPv4

/-! ## Groups -/

namespace IPv6

/-- The hexadecimal digits of a group. -/
def groupText (g : Hextet) : Text := (Nat.toDigits 16 g.val).map CodePoint.ofChar

theorem groupsText_eq (gs : List Hextet) : groupsText gs = Text.join [':'] (gs.map groupText) := rfl

theorem hexDigit?_digitChar :
    ∀ d < 16, (CodePoint.ofChar (Nat.digitChar d)).hexDigit? = some d := by
  decide

theorem hexDigit?_of_mem_groupText {g : Hextet} {c : CodePoint} (h : c ∈ groupText g) :
    c.hexDigit?.isSome = true := by
  obtain ⟨ds, hds, hlt, -⟩ := Text.exists_digits (show 1 < 16 by omega) g.val
  unfold groupText at h
  rw [hds, List.map_map] at h
  obtain ⟨d, hd, rfl⟩ := List.mem_map.mp h
  rw [Function.comp_apply, hexDigit?_digitChar d (hlt d hd)]
  rfl

theorem not_mem_groupText {g : Hextet} {m : CodePoint} (hm : m.hexDigit? = none) :
    m ∉ groupText g := by
  intro h
  have hsome := hexDigit?_of_mem_groupText h
  rw [hm] at hsome
  cases hsome

theorem groupText_ne_nil (g : Hextet) : groupText g ≠ [] := by
  unfold groupText
  rw [Ne, List.map_eq_nil_iff, ← List.length_eq_zero_iff]
  exact Nat.pos_iff_ne_zero.mp Nat.length_toDigits_pos

theorem mapM_hexDigit? {ds : List Nat} (h : ∀ d ∈ ds, d < 16) :
    ((ds.map Nat.digitChar).map CodePoint.ofChar).mapM CodePoint.hexDigit? = some ds := by
  induction ds with
  | nil => rfl
  | cons d ds ih =>
    obtain ⟨hd, hds⟩ := List.forall_mem_cons.mp h
    rw [List.map_cons, List.map_cons, List.mapM_cons, hexDigit?_digitChar d hd, ih hds]
    rfl

theorem hextet?_groupText (g : Hextet) : hextet? (groupText g) = some g := by
  obtain ⟨ds, hds, hlt, hvalue⟩ := Text.exists_digits (show 1 < 16 by omega) g.val
  -- A number below 16 ^ 4 has at most four digits.
  have hlength : (groupText g).length ≤ 4 := by
    unfold groupText
    rw [List.length_map, Nat.length_toDigits_le_iff (by omega) (by omega)]
    exact g.isLt
  have hdigits : (groupText g).mapM CodePoint.hexDigit? = some ds := by
    unfold groupText
    rw [hds, mapM_hexDigit? hlt]
  unfold hextet?
  rw [if_neg (by simp [groupText_ne_nil]; omega), hdigits]
  simp only [Option.bind_eq_bind, Option.bind_some, hvalue]
  rw [dif_pos g.isLt]

theorem groupsOf?_cons_cons (tail : Bool) (piece next : Text) (pieces : List Text) :
    groupsOf? tail (piece :: next :: pieces) =
      (hextet? piece).bind fun g => (groupsOf? tail (next :: pieces)).map (g :: ·) := by
  rw [groupsOf?]
  · cases hextet? piece with
    | none => rfl
    | some g => cases groupsOf? tail (next :: pieces) <;> rfl
  · simp

theorem groupsOf?_map_groupText (tail : Bool) (gs : List Hextet) :
    groupsOf? tail (gs.map groupText) = some gs := by
  induction gs with
  | nil => rfl
  | cons g gs ih =>
    cases gs with
    | nil =>
      have hpoint : ¬ (tail && decide (CodePoint.ofChar '.' ∈ groupText g)) = true := by
        simp [not_mem_groupText (show (CodePoint.ofChar '.').hexDigit? = none by decide)]
      rw [List.map_cons, List.map_nil, groupsOf?, if_neg hpoint, hextet?_groupText]
      rfl
    | cons next gs =>
      rw [List.map_cons, List.map_cons, groupsOf?_cons_cons, ← List.map_cons, ih,
        hextet?_groupText]
      rfl

theorem splitOn_groupsText {gs : List Hextet} (hne : gs ≠ []) :
    Text.splitOn ':' (groupsText gs) = gs.map groupText := by
  rw [groupsText_eq]
  refine Text.splitOn_join (by simpa using hne) ?_
  intro piece hpiece
  obtain ⟨g, -, rfl⟩ := List.mem_map.mp hpiece
  exact not_mem_groupText (by decide)

theorem groupsText_cons_cons (g next : Hextet) (gs : List Hextet) :
    groupsText (g :: next :: gs) = groupText g ++ CodePoint.ofChar ':' :: groupsText (next :: gs) := by
  simp only [groupsText_eq, List.map_cons, Text.join, List.append_assoc, List.cons_append,
    List.nil_append]

/-- The written form of groups starts with a digit. -/
theorem exists_groupsText_cons (g : Hextet) (gs : List Hextet) :
    ∃ c rest, groupsText (g :: gs) = c :: rest ∧ c.hexDigit?.isSome = true := by
  have hfirst : ∃ rest, groupsText (g :: gs) = groupText g ++ rest := by
    cases gs with
    | nil => exact ⟨[], by simp [groupsText_eq, Text.join]⟩
    | cons next gs => exact ⟨_, groupsText_cons_cons g next gs⟩
  obtain ⟨rest, hrest⟩ := hfirst
  cases hg : groupText g with
  | nil => exact absurd hg (groupText_ne_nil g)
  | cons c digits =>
    refine ⟨c, digits ++ rest, by rw [hrest, hg]; rfl, ?_⟩
    exact hexDigit?_of_mem_groupText (hg ▸ List.mem_cons_self)

theorem side?_groupsText (tail : Bool) (gs : List Hextet) : side? tail (groupsText gs) = some gs := by
  unfold side?
  cases gs with
  | nil => rfl
  | cons g gs =>
    obtain ⟨c, rest, hcons, -⟩ := exists_groupsText_cons g gs
    rw [if_neg (by simp [hcons]), splitOn_groupsText (by simp), groupsOf?_map_groupText]

/-! ## The double colon -/

theorem doubleColon?_cons (c : CodePoint) (t : Text) :
    doubleColon? (c :: t) =
      if c = ':' ∧ t.head? = some (CodePoint.ofChar ':') then some ([], t.tail)
      else (doubleColon? t).map fun cut => (c :: cut.1, cut.2) := by
  cases t with
  | nil => simp [doubleColon?]
  | cons d t => simp [doubleColon?]

theorem doubleColon?_append_of_not_mem {t : Text} (h : CodePoint.ofChar ':' ∉ t) (u : Text) :
    doubleColon? (t ++ u) = (doubleColon? u).map fun cut => (t ++ cut.1, cut.2) := by
  induction t with
  | nil => simp
  | cons c t ih =>
    obtain ⟨hc, ht⟩ := not_or.mp (List.mem_cons.not.mp h)
    have hno : ¬ (c = ':' ∧ (t ++ u).head? = some (CodePoint.ofChar ':')) := fun hyp => hc hyp.1.symm
    rw [List.cons_append, doubleColon?_cons, if_neg hno, ih ht, Option.map_map]
    rfl

/-- Groups between single colons have no double colon. -/
theorem doubleColon?_groupsText (gs : List Hextet) {u : Text} (hu : doubleColon? u = none) :
    doubleColon? (groupsText gs ++ u) = none := by
  induction gs with
  | nil => exact hu
  | cons g gs ih =>
    have hcolon : CodePoint.ofChar ':' ∉ groupText g := not_mem_groupText (by decide)
    cases gs with
    | nil =>
      rw [groupsText_eq, List.map_cons, List.map_nil, Text.join,
        doubleColon?_append_of_not_mem hcolon, hu]
      rfl
    | cons next gs =>
      -- Behind the colon the next group starts with a digit, so this is no double colon.
      obtain ⟨c, rest, hcons, hdigit⟩ := exists_groupsText_cons next gs
      have hno : (groupsText (next :: gs) ++ u).head? ≠ some (CodePoint.ofChar ':') := by
        rw [hcons, List.cons_append, List.head?_cons, Ne, Option.some.injEq]
        rintro rfl
        exact absurd hdigit (by decide)
      rw [groupsText_cons_cons, List.append_assoc, doubleColon?_append_of_not_mem hcolon,
        List.cons_append, doubleColon?_cons, if_neg (fun hyp => hno hyp.2), ih]
      rfl

/-- The double colon is found behind a text that has none, not even with one more colon. -/
theorem doubleColon?_append {t : Text} (h : doubleColon? (t ++ [CodePoint.ofChar ':']) = none)
    (rest : Text) : doubleColon? (t ++ (Text.ofString "::" ++ rest)) = some (t, rest) := by
  induction t with
  | nil => rfl
  | cons c t ih =>
    rw [List.cons_append, doubleColon?_cons] at h ⊢
    split at h
    · cases h
    · rename_i hno
      have hhead : (t ++ (Text.ofString "::" ++ rest)).head? = (t ++ [CodePoint.ofChar ':']).head? := by
        cases t <;> rfl
      rw [hhead, if_neg hno, ih (Option.map_eq_none_iff.mp h)]
      rfl

/-- A row of groups starts with its leading zeros. -/
theorem replicate_leadingZeros (gs : List Hextet) :
    List.replicate (leadingZeros gs) 0 ++ gs.drop (leadingZeros gs) = gs := by
  have hzeros : gs.takeWhile (·.val = 0) = List.replicate (leadingZeros gs) 0 := by
    refine List.eq_replicate_of_mem fun z hz => Fin.ext ?_
    exact of_decide_eq_true (List.all_eq_true.mp List.all_takeWhile z hz)
  have hdrop : gs.dropWhile (·.val = 0) = gs.drop (leadingZeros gs) :=
    calc gs.dropWhile (·.val = 0)
        = (gs.takeWhile (·.val = 0) ++ gs.dropWhile (·.val = 0)).drop (leadingZeros gs) :=
          (List.drop_left' rfl).symm
      _ = gs.drop (leadingZeros gs) := by rw [List.takeWhile_append_dropWhile]
  rw [← hzeros, ← hdrop]
  exact List.takeWhile_append_dropWhile

/-- The run of zeros stands at its position. -/
theorem longestZeros_spec (gs : List Hextet) :
    gs = gs.take (longestZeros gs).1 ++ (List.replicate (longestZeros gs).2 0 ++
      gs.drop ((longestZeros gs).1 + (longestZeros gs).2)) := by
  induction gs with
  | nil => rfl
  | cons g gs ih =>
    rw [longestZeros]
    dsimp only
    split
    · rw [List.take_zero, List.nil_append, Nat.zero_add, replicate_leadingZeros]
    · rw [List.take_succ_cons, Nat.add_right_comm, List.drop_succ_cons, List.cons_append, ← ih]

theorem groups?_compressed {gs : List Hextet} (h : gs.length = 8) :
    groups? (compressed gs) = some gs := by
  unfold compressed
  dsimp only
  by_cases hlong : 2 ≤ (longestZeros gs).2
  · rw [if_pos hlong]
    have hspec := longestZeros_spec gs
    generalize gs.take (longestZeros gs).1 = high at hspec ⊢
    generalize gs.drop ((longestZeros gs).1 + (longestZeros gs).2) = low at hspec ⊢
    have hlength := congrArg List.length hspec
    rw [List.length_append, List.length_append, List.length_replicate, h] at hlength
    -- The double colon is read as the zeros that are missing for eight groups.
    have hcount : 8 - (high.length + low.length) = (longestZeros gs).2 := by omega
    unfold groups?
    rw [List.append_assoc, doubleColon?_append (doubleColon?_groupsText high rfl)]
    simp only [side?_groupsText, Option.bind_eq_bind, Option.bind_some]
    rw [if_pos (by omega), hcount, List.append_assoc, ← hspec]
  · rw [if_neg hlong]
    have hnone := doubleColon?_groupsText gs (u := []) rfl
    rw [List.append_nil] at hnone
    have hne : gs ≠ [] := by
      rintro rfl
      cases h
    unfold groups?
    rw [hnone]
    dsimp only
    rw [splitOn_groupsText hne, groupsOf?_map_groupText]

/-! ## Members of literals -/

theorem hexDigit?_of_mapM {t : Text} {ds : List Nat} (h : t.mapM CodePoint.hexDigit? = some ds) :
    ∀ c ∈ t, c.hexDigit?.isSome = true := by
  induction t generalizing ds with
  | nil => simp
  | cons c t ih =>
    rw [List.mapM_cons] at h
    simp only [Option.bind_eq_bind, Option.bind_eq_some_iff] at h
    obtain ⟨d, hd, rest, hrest, -⟩ := h
    exact List.forall_mem_cons.mpr ⟨by rw [hd]; rfl, ih hrest⟩

theorem inLiteral_of_hextet? {t : Text} {g : Hextet} (h : hextet? t = some g) :
    ∀ c ∈ t, c.InLiteral := by
  unfold hextet? at h
  split at h
  · cases h
  · simp only [Option.bind_eq_bind, Option.bind_eq_some_iff] at h
    obtain ⟨ds, hds, -⟩ := h
    intro c hc
    exact .inl (hexDigit?_of_mapM hds c hc)

theorem inLiteral_of_groupsOf? {tail : Bool} {pieces : List Text} {gs : List Hextet}
    (h : groupsOf? tail pieces = some gs) : ∀ piece ∈ pieces, ∀ c ∈ piece, c.InLiteral := by
  fun_induction groupsOf? tail pieces generalizing gs with
  | case1 => simp
  | case2 piece hpoint =>
    obtain ⟨a, ha, -⟩ := Option.map_eq_some_iff.mp h
    simpa using IPv4.inLiteral_of_read? ha
  | case3 piece hpoint =>
    obtain ⟨g, hg, -⟩ := Option.map_eq_some_iff.mp h
    simpa using inLiteral_of_hextet? hg
  | case4 piece pieces hne ih =>
    simp only [Option.bind_eq_bind, Option.bind_eq_some_iff] at h
    obtain ⟨g, hg, rest, hrest, -⟩ := h
    exact List.forall_mem_cons.mpr ⟨inLiteral_of_hextet? hg, ih hrest⟩

theorem inLiteral_of_splitOn {t : Text}
    (h : ∀ piece ∈ Text.splitOn ':' t, ∀ c ∈ piece, c.InLiteral) : ∀ c ∈ t, c.InLiteral := by
  intro c hc
  rcases Text.mem_splitOn ':' hc with hmark | ⟨piece, hpiece, hc⟩
  · exact .inr (.inl hmark)
  · exact h piece hpiece c hc

theorem inLiteral_of_side? {tail : Bool} {t : Text} {gs : List Hextet} (h : side? tail t = some gs) :
    ∀ c ∈ t, c.InLiteral := by
  unfold side? at h
  split at h
  · rename_i hempty
    rw [List.isEmpty_iff.mp hempty]
    simp
  · exact inLiteral_of_splitOn (inLiteral_of_groupsOf? h)

theorem doubleColon?_eq_some {t before after : Text} (h : doubleColon? t = some (before, after)) :
    t = before ++ (Text.ofString "::" ++ after) := by
  induction t generalizing before with
  | nil => cases h
  | cons c t ih =>
    rw [doubleColon?_cons] at h
    split at h
    · rename_i hcolons
      obtain ⟨rfl, hhead⟩ := hcolons
      cases h
      cases t with
      | nil => cases hhead
      | cons d t =>
        cases hhead
        rfl
    · obtain ⟨cut, hcut, heq⟩ := Option.map_eq_some_iff.mp h
      cases heq
      rw [ih hcut]
      rfl

/-- The groups of a literal are written with hexadecimal digits, colons and points. -/
theorem inLiteral_of_groups? {t : Text} {gs : List Hextet} (h : groups? t = some gs) :
    ∀ c ∈ t, c.InLiteral := by
  unfold groups? at h
  split at h
  · exact inLiteral_of_splitOn (inLiteral_of_groupsOf? h)
  · rename_i before after hcut
    simp only [Option.bind_eq_bind, Option.bind_eq_some_iff] at h
    obtain ⟨high, hhigh, low, hlow, -⟩ := h
    rw [doubleColon?_eq_some hcut]
    intro c hc
    rcases List.mem_append.mp hc with hc | hc
    · exact inLiteral_of_side? hhigh c hc
    · rcases List.mem_append.mp hc with hc | hc
      · refine .inr (.inl ?_)
        simpa [Text.ofString] using hc
      · exact inLiteral_of_side? hlow c hc

theorem ne_nil_of_groups? {t : Text} {gs : List Hextet} (h : groups? t = some gs) : t ≠ [] := by
  rintro rfl
  cases h

/-! ## Addresses with a scope -/

/-- The scope of a literal with its sign. -/
def scopeText : Option Text → Text
  | none => []
  | some scope => CodePoint.ofChar '%' :: scope

theorem text_eq (a : IPv6) : a.text = compressed a.groups ++ scopeText a.scope := by
  unfold text
  split <;> simp [scopeText, *, Text.ofString]

/-- The scope is one that literals can have. -/
def Readable (a : IPv6) : Prop :=
  ∀ scope, a.scope = some scope →
    scope ≠ [] ∧ CodePoint.ofChar '%' ∉ scope ∧ CodePoint.ofChar '/' ∉ scope

theorem not_mem_of_groups? {t : Text} {gs : List Hextet} (h : groups? t = some gs) :
    CodePoint.ofChar '%' ∉ t ∧ CodePoint.ofChar '/' ∉ t :=
  ⟨fun hc => absurd (inLiteral_of_groups? h _ hc) (by decide),
    fun hc => absurd (inLiteral_of_groups? h _ hc) (by decide)⟩

/-- A literal is what writes the groups and, behind them, the scope. -/
theorem read?_eq_some_iff {t : Text} {a : IPv6} :
    read? t = some a ↔
      ∃ address, t = address ++ scopeText a.scope ∧ groups? address = some a.groups ∧
        a.Readable := by
  obtain ⟨groups, hlength, scope⟩ := a
  unfold read? Readable
  constructor
  · intro h
    cases hcut : Text.cut '%' t with
    | mk address rest =>
      rw [hcut] at h
      dsimp only at h
      split at h
      · cases h
      rename_i hslash
      split at h
      · cases h
      rename_i hscope
      simp only [Option.bind_eq_bind, Option.bind_eq_some_iff] at h
      obtain ⟨gs, hgs, h⟩ := h
      split at h
      · cases h
        refine ⟨address, ?_, hgs, ?_⟩
        · cases scope with
          | none => rw [(Text.cut_eq_none hcut).1, scopeText, List.append_nil]
          | some scope => exact Text.cut_append hcut
        · rintro scope rfl
          rw [Text.cut_append hcut] at hslash
          simp only [Option.any_some, Bool.or_eq_true, List.isEmpty_iff, decide_eq_true_eq,
            not_or] at hscope
          exact ⟨hscope.1, hscope.2, fun hmem => hslash (by simp [hmem])⟩
      · cases h
  · rintro ⟨address, rfl, hgs, hscope⟩
    obtain ⟨hpercent, hslash⟩ := not_mem_of_groups? hgs
    cases scope with
    | none =>
      rw [scopeText, List.append_nil, Text.cut_of_not_mem hpercent]
      dsimp only
      rw [if_neg hslash, if_neg (by simp), hgs]
      simp [hlength]
    | some scope =>
      obtain ⟨hne, hpercent', hslash'⟩ := hscope scope rfl
      rw [scopeText, Text.cut_append_mark hpercent]
      dsimp only
      rw [if_neg (by simp [hslash, hslash']; decide), if_neg (by simp [hne, hpercent']), hgs]
      simp [hlength]

theorem read?_text {a : IPv6} (h : a.Readable) : read? a.text = some a :=
  read?_eq_some_iff.mpr ⟨compressed a.groups, text_eq a, groups?_compressed a.length_groups, h⟩

theorem colon_mem_compressed {gs : List Hextet} (h : gs.length = 8) :
    CodePoint.ofChar ':' ∈ compressed gs := by
  unfold compressed
  dsimp only
  split
  · simp [Text.ofString]
  · match gs, h with
    | g :: next :: gs, _ =>
      rw [groupsText_cons_cons]
      simp

end IPv6

/-! ## Both versions -/

namespace IPAddress

/-- The scope of an address, if it has one, is one that literals can have. -/
def Readable : IPAddress → Prop
  | v4 _ => True
  | v6 a => a.Readable

theorem read?_cases {t : Text} {a : IPAddress} (h : read? t = some a) :
    (∃ b, a = .v4 b ∧ IPv4.read? t = some b) ∨
      ∃ b, a = .v6 b ∧ IPv4.read? t = none ∧ IPv6.read? t = some b := by
  unfold read? at h
  split at h
  · rename_i b hb
    cases h
    exact .inl ⟨b, rfl, hb⟩
  · rename_i hnone
    obtain ⟨b, hb, rfl⟩ := Option.map_eq_some_iff.mp h
    exact .inr ⟨b, rfl, hnone, hb⟩

theorem readable_of_read? {t : Text} {a : IPAddress} (h : read? t = some a) : a.Readable := by
  rcases read?_cases h with ⟨b, rfl, -⟩ | ⟨b, rfl, -, hb⟩
  · trivial
  · obtain ⟨_, -, -, hscope⟩ := IPv6.read?_eq_some_iff.mp hb
    exact hscope

/-- The written form of an address is a literal of that address. -/
theorem read?_text {a : IPAddress} (h : a.Readable) : read? a.text = some a := by
  unfold read?
  cases a with
  | v4 b => rw [text, IPv4.read?_text]
  | v6 b =>
    have hnone : IPv4.read? b.text = none := by
      rw [Option.eq_none_iff_forall_ne_some]
      intro c hc
      have hcolon : CodePoint.ofChar ':' ∈ b.text := by
        rw [IPv6.text_eq]
        exact List.mem_append_left _ (IPv6.colon_mem_compressed b.length_groups)
      exact absurd (IPv4.isAsciiDigit_or_eq_point_of_read? hc _ hcolon) (by decide)
    rw [text, hnone, IPv6.read?_text h]
    rfl

end IPAddress

end BucketMap
