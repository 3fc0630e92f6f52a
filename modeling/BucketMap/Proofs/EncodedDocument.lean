import BucketMap.Proofs.AcceptedDocuments
import BucketMap.Proofs.EncodedText
import BucketMap.Proofs.KeyHash

/-!
# One document as text, as bytes and as a value

The form of bytes without a mark is guessed from the first four of them. The guess is right for what
starts as JSON text does: with a character below 128 other than null, and with no null behind it
(`StartsPlain`). No token has a null in it, so that every text that is read as JSON starts in this way
(`Json.startsPlain_of_read`).

`Document.read_encoded`: a document that is read from a text without surrogates is also read from the
bytes of the text in all forms, with or without a mark, and from the value that the text describes.
-/

namespace BucketMap

/-- The character is below 128 and not null. -/
def CodePoint.IsPlain (c : CodePoint) : Prop := c.val ≠ 0 ∧ c.val < 0x80

instance (c : CodePoint) : Decidable c.IsPlain := inferInstanceAs (Decidable (_ ∧ _))

/-- The text starts with a plain character, and no null stands behind it. -/
inductive StartsPlain : Text → Prop
  | intro {c : CodePoint} {rest : Text} (first : c.IsPlain)
      (second : ∀ d, rest.head? = some d → d.val ≠ 0) : StartsPlain (c :: rest)

/-! ## The form of bytes -/

namespace Encoding

/-- The bytes start as those of a text that starts with a plain character do in the form. -/
inductive Shows : Encoding → Bytes → Prop
  | utf8 {a : UInt8} {rest : Bytes} (first : a ≠ 0) (ascii : a < 0x80)
      (second : ∀ b, rest.head? = some b → b ≠ 0) : Shows .utf8 (a :: rest)
  | utf16Big {a : UInt8} {rest : Bytes} (first : a ≠ 0) (ascii : a < 0x80) (even : rest.length ≠ 1) :
      Shows (.utf16 .big) (0 :: a :: rest)
  | utf16Little {a : UInt8} {rest : Bytes} (first : a ≠ 0) (ascii : a < 0x80)
      (second : rest = [] ∨ ∃ b c others, rest = b :: c :: others ∧ ¬ (b = 0 ∧ c = 0)) :
      Shows (.utf16 .little) (a :: 0 :: rest)
  | utf32Big {a : UInt8} {rest : Bytes} (first : a ≠ 0) (ascii : a < 0x80) :
      Shows (.utf32 .big) (0 :: 0 :: 0 :: a :: rest)
  | utf32Little {a : UInt8} {rest : Bytes} (first : a ≠ 0) (ascii : a < 0x80) :
      Shows (.utf32 .little) (a :: 0 :: 0 :: 0 :: rest)

variable {e : Encoding} {bytes : Bytes} {t : Text}

theorem Shows.detectUnmarked_eq (h : Shows e bytes) : detectUnmarked bytes = e := by
  cases h with
  | @utf8 a rest first ascii second =>
    match rest with
    | [] => rfl
    | [b] => simp [detectUnmarked, first, second b rfl]
    | [_, _] => rfl
    | b :: _ :: _ :: _ => simp [detectUnmarked, first, second b rfl]
  | @utf16Big a rest first ascii even =>
    match rest with
    | [] => rfl
    | [_] => exact absurd rfl even
    | _ :: _ :: _ => simp [detectUnmarked, first]
  | utf16Little first ascii second =>
    rcases second with rfl | ⟨b, c, others, rfl, hunit⟩
    · simp [detectUnmarked, first]
    · simp [detectUnmarked, first, hunit]
  | utf32Big first ascii => rfl
  | utf32Little first ascii => simp [detectUnmarked, first]

theorem ne_of_ascii {a b : UInt8} (ha : a < 0x80) (hb : ¬ b < 0x80) : ¬ b = a := by
  rintro rfl
  exact hb ha

/-- The first byte of a mark is zero or not below 128. -/
theorem Shows.detect_eq (h : Shows e bytes) : detect bytes = (e, false) := by
  have hnone : (marked.find? fun e => e.mark.isPrefixOf bytes) = none := by
    cases h with
    | utf8 first ascii | utf16Big first ascii | utf16Little first ascii | utf32Big first ascii
    | utf32Little first ascii => simp [marked, mark, ne_of_ascii ascii, Ne.symm first]
  unfold detect
  rw [hnone, h.detectUnmarked_eq]

theorem Shows.detect_mark (h : Shows e bytes) : detect (e.mark ++ bytes) = (e, true) := by
  have hfind : (marked.find? fun e' => e'.mark.isPrefixOf (e.mark ++ bytes)) = some e := by
    -- The mark of the little-endian form of two bytes starts that of four bytes.
    cases h with
    | utf16Little first ascii second => simp [marked, mark, Ne.symm first]
    | utf8 | utf16Big | utf32Big | utf32Little => simp [marked, mark]
  unfold detect
  rw [hfind]

/-! ## The start of encoded text -/

theorem ofNat_ne_zero {n : Nat} (hne : n ≠ 0) (hlt : n < 0x100) : UInt8.ofNat n ≠ 0 := by
  intro hzero
  have hvalue : (UInt8.ofNat n).toNat = n := Utf8.toNat_byte hlt
  rw [hzero] at hvalue
  exact hne hvalue.symm

theorem ofNat_lt {n : Nat} (hlt : n < 0x80) : UInt8.ofNat n < 0x80 := by
  have hvalue : (UInt8.ofNat n).toNat = n := Utf8.toNat_byte (by omega)
  rw [UInt8.lt_iff_toNat_lt, hvalue]
  exact hlt

/-- The bytes of a character other than null do not start with zero. -/
theorem exists_bytesOf_cons {c : CodePoint} (hc : c.val ≠ 0) :
    ∃ b bytes, Utf8.bytesOf c = b :: bytes ∧ b ≠ 0 := by
  have hlt := c.isLt
  unfold Utf8.bytesOf
  dsimp only
  split_ifs
  all_goals exact ⟨_, _, rfl, ofNat_ne_zero (by omega) (by omega)⟩

theorem exists_unitsOf_cons {c : CodePoint} (hc : c.val ≠ 0) :
    ∃ unit units, Utf16.unitsOf c = unit :: units ∧ unit ≠ 0 := by
  unfold Utf16.unitsOf
  split_ifs
  · exact ⟨_, _, rfl, hc⟩
  · exact ⟨_, _, rfl, by omega⟩

/-- The two bytes of a unit other than zero are not both zero. -/
theorem unitBytes_ne_zero {order : ByteOrder} {unit : Nat} {b c : UInt8} (hne : unit ≠ 0)
    (hlt : unit < 0x10000) (h : unitBytes order 2 unit = [b, c]) : ¬ (b = 0 ∧ c = 0) := by
  rintro ⟨rfl, rfl⟩
  have hvalue : unitValue order (unitBytes order 2 unit) = unit := unitValue_unitBytes order hlt
  rw [h] at hvalue
  cases order <;> exact hne hvalue.symm

theorem utf16_encode_cases (order : ByteOrder) (h : ∀ d, t.head? = some d → d.val ≠ 0) :
    Utf16.encode order t = [] ∨
      ∃ b c others, Utf16.encode order t = b :: c :: others ∧ ¬ (b = 0 ∧ c = 0) := by
  cases t with
  | nil => exact .inl rfl
  | cons d t =>
    obtain ⟨unit, units, hunits, hne⟩ := exists_unitsOf_cons (h d rfl)
    have hlt : unit < 0x10000 := Utf16.unit_lt unit (hunits ▸ List.mem_cons_self)
    obtain ⟨b, c, hbytes⟩ := exists_unitBytes_two order unit
    refine .inr ⟨b, c, (units ++ t.flatMap Utf16.unitsOf).flatMap (unitBytes order 2), ?_,
      unitBytes_ne_zero hne hlt hbytes⟩
    rw [Utf16.encode, List.flatMap_cons, hunits, List.cons_append, List.flatMap_cons, hbytes]
    rfl

theorem unitBytes_of_plain {c : CodePoint} (hc : c.IsPlain) :
    bigEndian 2 c.val = [0, UInt8.ofNat c.val] ∧ bigEndian 4 c.val = [0, 0, 0, UInt8.ofNat c.val] := by
  have hlt := hc.2
  have hone : c.val / 256 = 0 := by omega
  constructor
  · simp [bigEndian, hone]
  · simp [bigEndian, hone]

theorem shows_encode (h : StartsPlain t) (e : Encoding) : Shows e (e.encode t) := by
  obtain @⟨c, rest, first, second⟩ := h
  have hne : UInt8.ofNat c.val ≠ 0 := ofNat_ne_zero first.1 (by have := first.2; omega)
  have hlt : UInt8.ofNat c.val < 0x80 := ofNat_lt first.2
  obtain ⟨htwo, hfour⟩ := unitBytes_of_plain first
  have hunits : Utf16.unitsOf c = [c.val] := if_pos (by have := first.2; omega)
  have hutf16 : ∀ order, Utf16.encode order (c :: rest) =
      unitBytes order 2 c.val ++ Utf16.encode order rest := by
    intro order
    rw [Utf16.encode, List.flatMap_cons, hunits]
    rfl
  match e with
  | utf8 =>
    have hbytes : Utf8.bytesOf c = [UInt8.ofNat c.val] := if_pos first.2
    have hencode : encode utf8 (c :: rest) = UInt8.ofNat c.val :: rest.flatMap Utf8.bytesOf := by
      rw [encode, List.flatMap_cons, hbytes]
      rfl
    rw [hencode]
    refine .utf8 hne hlt fun b hb => ?_
    cases rest with
    | nil => cases hb
    | cons d rest =>
      obtain ⟨b', bytes, hd, hb'⟩ := exists_bytesOf_cons (second d rfl)
      rw [List.flatMap_cons, hd] at hb
      cases hb
      exact hb'
  | utf16 .big =>
    rw [encode, hutf16, unitBytes, htwo]
    refine .utf16Big hne hlt ?_
    rcases utf16_encode_cases .big second with hnil | ⟨b, c, others, hcons, -⟩
    · simp [hnil]
    · simp [hcons]
  | utf16 .little =>
    rw [encode, hutf16, unitBytes, htwo]
    exact .utf16Little hne hlt (utf16_encode_cases .little second)
  | utf32 .big =>
    rw [encode, Utf32.encode, List.flatMap_cons, unitBytes, hfour]
    exact .utf32Big hne hlt
  | utf32 .little =>
    rw [encode, Utf32.encode, List.flatMap_cons, unitBytes, hfour]
    exact .utf32Little hne hlt

/-- The form of a text that starts with a plain character is recognised from its bytes. -/
theorem decodeAny_encode (h : StartsPlain t) (ht : ∀ c ∈ t, c.isSurrogate = false) (e : Encoding) :
    decodeAny (e.encode t) = .ok t := by
  unfold decodeAny
  rw [(shows_encode h e).detect_eq]
  exact decode_encode e 0 ht

theorem decodeAny_mark (h : StartsPlain t) (ht : ∀ c ∈ t, c.isSurrogate = false) (e : Encoding) :
    decodeAny (e.mark ++ e.encode t) = .ok t := by
  unfold decodeAny
  rw [(shows_encode h e).detect_mark]
  dsimp only
  rw [if_pos rfl, List.drop_left]
  exact decode_encode e _ ht

end Encoding

/-! ## The start of JSON text -/

namespace Json

namespace Token

variable {maxDigits : Option Nat} {c : CodePoint} {t rest : Text}

theorem isPlain_of_isSpace (h : isSpace c = true) : c.IsPlain := by
  unfold isSpace at h
  rw [decide_eq_true_eq] at h
  rcases h with rfl | rfl | rfl | rfl <;> decide

theorem isPlain_of_mark? {symbol : Symbol} (h : mark? c = some symbol) : c.IsPlain := by
  unfold mark? at h
  split_ifs at h with h₁ h₂ h₃ h₄ h₅ h₆
  all_goals
    subst c
    decide

theorem isPlain_of_isAsciiDigit (h : c.isAsciiDigit = true) : c.IsPlain := by
  unfold CodePoint.isAsciiDigit at h
  rw [Bool.and_eq_true, decide_eq_true_eq, decide_eq_true_eq] at h
  constructor <;> omega

theorem isPlain_of_mem_words : ∀ w ∈ words, 2 ≤ w.1.length ∧ ∀ c ∈ w.1, c.IsPlain := by
  decide

theorem ne_of_not_isPlain {c d : CodePoint} (hd : ¬ d.IsPlain) (hc : c.IsPlain) : d ≠ c := by
  rintro rfl
  exact hd hc

/-! ### Characters that start no token -/

section Other

variable {d : CodePoint} (hd : ¬ d.IsPlain)
include hd

theorem isSpace_of_not_isPlain : isSpace d = false :=
  Bool.eq_false_iff.mpr fun h => hd (isPlain_of_isSpace h)

theorem mark?_of_not_isPlain : mark? d = none :=
  Option.eq_none_iff_forall_ne_some.mpr fun _ h => hd (isPlain_of_mark? h)

theorem find?_words_of_not_isPlain (before : Text) (hbefore : before.length ≤ 1) :
    (words.find? fun w => Text.startsWith (before ++ d :: rest) w.1) = none := by
  rw [List.find?_eq_none]
  intro w hw hstarts
  obtain ⟨hlength, hplain⟩ := isPlain_of_mem_words w hw
  have hmem : d ∈ w.1 := by
    have hhead : w.1 <+: before ++ d :: rest := List.isPrefixOf_iff_prefix.mp hstarts
    have hget : w.1[before.length] = d := by
      rw [hhead.getElem (by omega)]
      simp
    exact hget ▸ List.getElem_mem _
  exact hd (hplain d hmem)

theorem isAsciiDigit_of_not_isPlain : d.isAsciiDigit = false :=
  Bool.eq_false_iff.mpr fun h => hd (isPlain_of_isAsciiDigit h)

theorem digits_of_not_isPlain : digits (d :: rest) = ([], d :: rest) := by
  have hdigit := isAsciiDigit_of_not_isPlain hd
  simp [digits, hdigit]

theorem whole_of_not_isPlain : whole (d :: rest) = ([], d :: rest) := by
  rw [whole, if_neg (ne_of_not_isPlain hd (by decide)), digits_of_not_isPlain hd]

theorem number?_of_not_isPlain : number? (d :: rest) = none := by
  unfold number?
  rw [minus, if_neg (ne_of_not_isPlain hd (by decide))]
  dsimp only
  rw [whole_of_not_isPlain hd]
  rfl

theorem whole_before (c : CodePoint) :
    whole (c :: d :: rest) = ([c], d :: rest) ∨ whole (c :: d :: rest) = ([], c :: d :: rest) := by
  have hdigit := isAsciiDigit_of_not_isPlain hd
  unfold whole
  dsimp only
  split
  · exact .inl rfl
  · by_cases hc : c.isAsciiDigit = true
    · exact .inl (by simp [digits, hc, hdigit])
    · exact .inr (by simp [digits, hc])

/-- A number ends in front of such a character. -/
theorem number?_before {n : Number} {remaining : Text}
    (h : number? (c :: d :: rest) = some (n, remaining)) : remaining = d :: rest := by
  have hfraction : fraction? (d :: rest) = none := if_neg (ne_of_not_isPlain hd (by decide))
  have hexponent : exponent? (d :: rest) = none :=
    if_neg (not_or.mpr ⟨ne_of_not_isPlain hd (by decide), ne_of_not_isPlain hd (by decide)⟩)
  unfold number? at h
  by_cases hminus : c = '-'
  · -- A minus alone is no number.
    rw [minus, if_pos hminus] at h
    dsimp only at h
    rw [whole_of_not_isPlain hd] at h
    cases h
  · rw [minus, if_neg hminus] at h
    dsimp only at h
    rcases whole_before hd c with hwhole | hwhole
    · rw [hwhole] at h
      dsimp only at h
      rw [hfraction] at h
      dsimp only at h
      rw [hexponent] at h
      cases h
      rfl
    · rw [hwhole] at h
      cases h

theorem symbolAt_of_not_isPlain (position : Nat) :
    symbolAt maxDigits position (d :: rest) = (.broken .value position, none) := by
  have hwords : (words.find? fun w => Text.startsWith (d :: rest) w.1) = none :=
    find?_words_of_not_isPlain hd [] (by simp)
  rw [symbolAt, mark?_of_not_isPlain hd]
  dsimp only
  rw [if_neg (ne_of_not_isPlain hd (by decide)), hwords]
  rw [number?_of_not_isPlain hd]

end Other

theorem mark?_ne_finish {symbol : Symbol} (h : mark? c = some symbol) : symbol ≠ .finish := by
  unfold mark? at h
  rintro rfl
  split_ifs at h <;> cases h

theorem symbol_ne_finish (n : Number) : n.symbol maxDigits ≠ .finish := by
  unfold Number.symbol
  split
  · split <;> simp
  · simp

/-- The end of a text is a token only where nothing is left. -/
theorem symbolAt_ne_finish (position : Nat) :
    (symbolAt maxDigits position (c :: rest)).1 ≠ .finish := by
  unfold symbolAt
  dsimp only
  split
  · rename_i hmark
    exact mark?_ne_finish hmark
  · split
    · split <;> simp
    · split
      · simp
      · split
        · exact symbol_ne_finish _
        · simp

/-- A token ends in front of a null. -/
theorem symbolAt_before_null {d : CodePoint} (hd : d.val = 0) {position after : Nat} {remaining : Text}
    (h : (symbolAt maxDigits position (c :: d :: rest)).2 = some (after, remaining)) :
    remaining = d :: rest := by
  have hplain : ¬ d.IsPlain := fun hplain => hplain.1 hd
  have hwords : (words.find? fun w => Text.startsWith (c :: d :: rest) w.1) = none :=
    find?_words_of_not_isPlain hplain [c] (by simp)
  have hbody : ∀ start position,
      body start .plain position (d :: rest) = .error (.controlCharacter, position) := by
    intro start position
    rw [body, if_neg (ne_of_not_isPlain hplain (by decide)),
      if_neg (ne_of_not_isPlain hplain (by decide)), if_pos (by omega)]
  unfold symbolAt at h
  dsimp only at h
  rw [hwords] at h
  split at h
  · cases h
    rfl
  · split at h
    · rw [hbody] at h
      cases h
    · dsimp only at h
      split at h
      · rename_i hnumber
        cases h
        exact number?_before hplain hnumber
      · cases h

/-! ### Tokens up to the end -/

theorem isPlain_of_finish_mem {fuel position : Nat} {token : Token}
    (h : token ∈ listFrom maxDigits fuel position (c :: rest)) (hfinish : token.symbol = .finish) :
    c.IsPlain := by
  by_contra hc
  cases fuel with
  | zero => cases h
  | succ fuel =>
    rw [listFrom, List.takeWhile_cons_of_neg (by simp [isSpace_of_not_isPlain hc]),
      List.dropWhile_cons_of_neg (by simp [isSpace_of_not_isPlain hc]), symbolAt_of_not_isPlain hc] at h
    rw [List.mem_singleton.mp h] at hfinish
    cases hfinish

theorem second_of_finish_mem {d : CodePoint} {fuel position : Nat} {token : Token}
    (h : token ∈ listFrom maxDigits fuel position (c :: d :: rest)) (hfinish : token.symbol = .finish) :
    d.val ≠ 0 := by
  intro hd
  have hplain : ¬ d.IsPlain := fun hplain => hplain.1 hd
  cases fuel with
  | zero => cases h
  | succ fuel =>
    rw [listFrom] at h
    by_cases hspace : isSpace c = true
    · rw [List.dropWhile_cons_of_pos hspace,
        List.dropWhile_cons_of_neg (by simp [isSpace_of_not_isPlain hplain]),
        symbolAt_of_not_isPlain hplain] at h
      rw [List.mem_singleton.mp h] at hfinish
      cases hfinish
    · rw [List.dropWhile_cons_of_neg hspace] at h
      rcases List.mem_cons.mp h with rfl | h
      · exact symbolAt_ne_finish _ hfinish
      · split at h
        · rename_i after remaining hnext
          rw [symbolAt_before_null hd hnext] at h
          exact hplain (isPlain_of_finish_mem h hfinish)
        · cases h

end Token

/-- What is read ends with the end of the text. -/
theorem exists_finish_of_readTokens {limits : Limits} {stage : Stage} {tokens : List Token} {v : Json}
    (h : readTokens limits stage tokens = .ok v) : ∃ token ∈ tokens, token.symbol = .finish := by
  induction tokens generalizing stage with
  | nil => cases h
  | cons token tokens ih =>
    unfold readTokens at h
    split at h
    · rename_i hfinish
      exact ⟨token, List.mem_cons_self, hfinish⟩
    · obtain ⟨next, -, h⟩ := bind_eq_ok_iff.mp h
      obtain ⟨last, hmem, hfinish⟩ := ih h
      exact ⟨last, List.mem_cons_of_mem _ hmem, hfinish⟩

theorem startsPlain_of_read {limits : Limits} {t : Text} {v : Json} (h : read limits t = .ok v) :
    StartsPlain t := by
  have htokens : readTokens limits (.value []) (Token.list limits.maxDigits t) = .ok v := by
    unfold read at h
    split at h <;> cases h
    assumption
  cases t with
  | nil => cases htokens
  | cons c rest =>
    obtain ⟨token, hmem, hfinish⟩ := exists_finish_of_readTokens htokens
    refine .intro (Token.isPlain_of_finish_mem hmem hfinish) ?_
    rintro d hd
    cases rest with
    | nil => cases hd
    | cons d' rest =>
      cases hd
      exact Token.second_of_finish_mem hmem hfinish

theorem read_of_ofText {limits : Limits} {t : Text} {v : Json} (h : ofText limits t = .ok v) :
    read limits t = .ok v := by
  unfold ofText at h
  split at h
  · cases h
  · exact h

/-- What a text describes is described by its bytes in any form, with or without a mark. -/
theorem ofBytes_encode {limits : Limits} {t : Text} {v : Json} (h : ofText limits t = .ok v)
    (ht : ∀ c ∈ t, c.isSurrogate = false) (e : Encoding) :
    ofBytes limits (e.encode t) = .ok v ∧ ofBytes limits (e.mark ++ e.encode t) = .ok v := by
  have hread := read_of_ofText h
  have hstart := startsPlain_of_read hread
  unfold ofBytes
  rw [Encoding.decodeAny_encode hstart ht, Encoding.decodeAny_mark hstart ht]
  exact ⟨hread, hread⟩

end Json

namespace Document

/-- **Forms of a document.** A document that is read from a text without surrogates is read from the
bytes of the text in all encoding forms, with or without a byte order mark, and from the value that the
text describes. -/
theorem read_encoded {defaults : PortDefaults} {t : Text} {doc : Document}
    (ht : ∀ c ∈ t, c.isSurrogate = false) (h : (read defaults (.text t)).outcome = .ok doc) :
    (∀ e : Encoding, (read defaults (.bytes (e.encode t))).outcome = .ok doc ∧
      (read defaults (.bytes (e.mark ++ e.encode t))).outcome = .ok doc) ∧
    ∃ v, Json.ofText .standard t = .ok v ∧ (read defaults (.value v)).outcome = .ok doc := by
  obtain ⟨v, hv, hvalue⟩ := read_outcome_eq_ok_iff.mp h
  have htext : Json.ofText .standard t = .ok v := mapError_eq_ok_iff.mp hv
  refine ⟨fun e => ?_, v, htext, ?_⟩
  · obtain ⟨hplain, hmarked⟩ := Json.ofBytes_encode htext ht e
    exact ⟨read_outcome_eq_ok_iff.mpr ⟨v, mapError_eq_ok_iff.mpr hplain, hvalue⟩,
      read_outcome_eq_ok_iff.mpr ⟨v, mapError_eq_ok_iff.mpr hmarked, hvalue⟩⟩
  · have hself : decode (.value v) = .ok v := by
      cases v with
      | str t => cases hvalue
      | _ => rfl
    exact read_outcome_eq_ok_iff.mpr ⟨v, hself, hvalue⟩

/-- A text of a document whose name has a character of two bytes and one of four. -/
def accented : Text :=
  Text.ofString "\n\x7b\"rev\":1,\"name\":\"ü😀\",\"nodes\":[],\"vBucketServerMap\":" ++
    Text.ofString "\x7b\"serverList\":[],\"vBucketMap\":[],\"numReplicas\":0\x7d\x7d"

/-- What that text describes. -/
def accentedFields : Fields :=
  [(Text.ofString "rev", .int 1), (Text.ofString "name", .str (Text.ofString "ü😀")),
    (Text.ofString "nodes", .arr []),
    (Text.ofString "vBucketServerMap",
      .obj [(Text.ofString "serverList", .arr []), (Text.ofString "vBucketMap", .arr []),
        (Text.ofString "numReplicas", .int 0)])]

theorem decode_accented : decode (.text accented) = .ok (.obj accentedFields) := by
  rfl

theorem isSurrogate_accented : ∀ c ∈ accented, c.isSurrogate = false := by
  intro c hc
  obtain hc | hc := List.mem_append.mp hc
  all_goals
    obtain ⟨d, -, rfl⟩ := List.mem_map.mp hc
    exact CodePoint.isSurrogate_ofChar d

theorem read_encoded_accented :
    ∃ doc, (∀ c ∈ accented, c.isSurrogate = false) ∧
      (read ⟨11210, 8091⟩ (.text accented)).outcome = .ok doc ∧ doc.name = Text.ofString "ü😀" ∧
      (read ⟨11210, 8091⟩ (.bytes (Encoding.utf8.encode accented))).outcome = .ok doc ∧
      (read ⟨11210, 8091⟩
        (.bytes (0xFF :: 0xFE :: (Encoding.utf16 .little).encode accented))).outcome = .ok doc := by
  have hread : ∃ doc, (read ⟨11210, 8091⟩ (.text accented)).outcome = .ok doc ∧
      doc.name = Text.ofString "ü😀" :=
    ⟨_, read_outcome_eq_ok_iff.mpr ⟨_, decode_accented, rfl⟩, rfl⟩
  obtain ⟨doc, hdoc, hname⟩ := hread
  obtain ⟨hbytes, -⟩ := read_encoded isSurrogate_accented hdoc
  exact ⟨doc, isSurrogate_accented, hdoc, hname, (hbytes .utf8).1, (hbytes (.utf16 .little)).2⟩

end Document

end BucketMap
