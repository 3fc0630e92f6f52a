import Mathlib.Algebra.Group.Nat.Defs
import Mathlib.Algebra.Group.Int.Defs
import BucketMap.Proofs.KeyPartition

/-!
# Hashes of keys

The partition of a key comes from the check value of its bytes, which for a string are its UTF-8
encoding (`Key.HasBytes`). Shifted and masked, that is a remainder modulo the number of partitions
(`Key.partition_two_pow`), so that the partition among fewer of them follows from the one among
more.

`Key.partition_total`: a key has a partition among any power of two and among no other number. A
text with surrogates has none at all, but a number that is no power of two is refused before that.
-/

namespace BucketMap

/-! ## UTF-8 -/

theorem Utf8.bytesOf_ofChar (c : Char) :
    bytesOf (CodePoint.ofChar c) = String.utf8EncodeChar c := by
  have hval : (CodePoint.ofChar c).val = c.val.toNat := rfl
  have hlt : c.val.toNat < 0x110000 := (CodePoint.ofChar c).isLt
  unfold bytesOf String.utf8EncodeChar byte
  rw [hval]
  generalize c.val.toNat = n at hlt
  dsimp only
  -- The two encoders bound the same four ranges, one by the least value outside of each.
  by_cases hone : n < 0x80
  · have hone' : n ≤ 127 := by omega
    rw [if_pos hone, if_pos hone']
  have hone' : ¬ n ≤ 127 := by omega
  rw [if_neg hone, if_neg hone']
  by_cases htwo : n < 0x800
  · have htwo' : n ≤ 2047 := by omega
    have hfirst : n / 64 % 32 + 192 = 0xC0 + n / 0x40 := by omega
    rw [if_pos htwo, if_pos htwo', hfirst, Nat.add_comm (n % 64)]
  have htwo' : ¬ n ≤ 2047 := by omega
  rw [if_neg htwo, if_neg htwo']
  by_cases hthree : n < 0x10000
  · have hthree' : n ≤ 65535 := by omega
    have hfirst : n / 4096 % 16 + 224 = 0xE0 + n / 0x1000 := by omega
    rw [if_pos hthree, if_pos hthree', hfirst, Nat.add_comm (n / 64 % 64), Nat.add_comm (n % 64)]
  · have hthree' : ¬ n ≤ 65535 := by omega
    have hfirst : n / 262144 % 8 + 240 = 0xF0 + n / 0x40000 := by omega
    rw [if_neg hthree, if_neg hthree', hfirst, Nat.add_comm (n / 4096 % 64),
      Nat.add_comm (n / 64 % 64), Nat.add_comm (n % 64)]

theorem Utf8.flatMap_bytesOf_ofString (s : String) :
    (Text.ofString s).flatMap bytesOf = s.toUTF8.data.toList := by
  have hbytes : s.toUTF8.data.toList = s.toList.flatMap String.utf8EncodeChar := by
    simp [String.toUTF8_eq_toByteArray, ← String.utf8Encode_toList, List.utf8Encode]
  rw [hbytes, Text.ofString, List.flatMap_map]
  simp only [bytesOf_ofChar]

theorem CodePoint.isSurrogate_ofChar (c : Char) : (CodePoint.ofChar c).isSurrogate = false := by
  have hvalid := c.valid
  have hval : (CodePoint.ofChar c).val = c.val.toNat := rfl
  simp only [UInt32.isValidChar, Nat.isValidChar] at hvalid
  unfold isSurrogate
  rw [hval, Bool.and_eq_false_iff, decide_eq_false_iff_not, decide_eq_false_iff_not]
  omega

theorem CodePoint.exists_ofChar {c : CodePoint} (h : c.isSurrogate = false) :
    ∃ char, ofChar char = c := by
  have hvalid : Nat.isValidChar c.val := by
    have hlt := c.isLt
    unfold isSurrogate at h
    rw [Bool.and_eq_false_iff, decide_eq_false_iff_not, decide_eq_false_iff_not] at h
    unfold Nat.isValidChar
    omega
  refine ⟨Char.ofNatAux c.val hvalid, CodePoint.ext ?_⟩
  rfl

/-- A text without surrogates is a string. -/
theorem Text.exists_ofString {t : Text} (h : ∀ c ∈ t, c.isSurrogate = false) :
    ∃ s, Text.ofString s = t := by
  induction t with
  | nil => exact ⟨"", rfl⟩
  | cons c t ih =>
    obtain ⟨char, hchar⟩ := CodePoint.exists_ofChar (h c List.mem_cons_self)
    obtain ⟨s, hs⟩ := ih fun c hc => h c (List.mem_cons_of_mem _ hc)
    refine ⟨String.ofList (char :: s.toList), ?_⟩
    rw [Text.ofString, String.toList_ofList, List.map_cons, hchar, ← hs]
    rfl

theorem Utf8.exists_surrogateRun {t : Text} (h : ¬ ∀ c ∈ t, c.isSurrogate = false) :
    ∃ run, surrogateRun? t = some run := by
  cases hrun : surrogateRun? t with
  | some run => exact ⟨run, rfl⟩
  | none =>
    -- Nothing follows the longest start without surrogates.
    have hdrop : t.drop (t.takeWhile fun c => !c.isSurrogate).length = [] := by
      unfold surrogateRun? at hrun
      dsimp only at hrun
      split at hrun
      · assumption
      · cases hrun
    have hwhole : (t.takeWhile fun c => !c.isSurrogate) = t := by
      apply List.IsPrefix.eq_of_length_le (List.takeWhile_prefix _)
      exact List.drop_eq_nil_iff.mp hdrop
    rw [List.takeWhile_eq_self_iff] at hwhole
    exact absurd (fun c hc => by simpa using hwhole c hc) h

namespace Key

/-! ## The bytes of a key -/

/-- The bytes of a key: those that are given, or the UTF-8 encoding of a string. -/
inductive HasBytes : Key → Bytes → Prop
  | bytes (b : Bytes) : HasBytes (.bytes b) b
  | text (s : String) : HasBytes (.text (Text.ofString s)) s.toUTF8.data.toList

variable {key : Key} {b : Bytes} {n : Int}

theorem HasBytes.bytes?_eq (h : key.HasBytes b) : key.bytes? = .ok b := by
  cases h with
  | bytes => rfl
  | text s =>
    have hnone : Utf8.surrogateRun? (Text.ofString s) = none := by
      apply Utf8.surrogateRun?_eq_none
      intro c hc
      obtain ⟨char, -, rfl⟩ := List.mem_map.mp hc
      exact CodePoint.isSurrogate_ofChar char
    show Utf8.encode (Text.ofString s) = _
    rw [Utf8.encode, hnone, ← Utf8.flatMap_bytesOf_ofString]

theorem Encodable.exists_hasBytes (h : key.Encodable) : ∃ b, key.HasBytes b := by
  cases key with
  | bytes b => exact ⟨b, .bytes b⟩
  | text t =>
    obtain ⟨s, rfl⟩ := Text.exists_ofString h
    exact ⟨_, .text s⟩

theorem bytes?_of_not_encodable (h : ¬ key.Encodable) : ∃ run, key.bytes? = .error run := by
  cases key with
  | bytes b => exact absurd trivial h
  | text t =>
    obtain ⟨run, hrun⟩ := Utf8.exists_surrogateRun h
    refine ⟨run, ?_⟩
    show Utf8.encode t = _
    rw [Utf8.encode, hrun]

/-! ## Numbers of partitions -/

/-- The number is one, two, four, ... -/
def IsCount (n : Int) : Prop := ∃ k : Nat, n = 2 ^ k

theorem isCount_iff : IsCount n ↔ ¬ (n ≤ 0 || !isPowerOfTwo n.toNat) = true := by
  cases n with
  | ofNat m =>
    have hcast : IsCount (Int.ofNat m) ↔ m.isPowerOfTwo :=
      exists_congr fun k => by rw [Int.ofNat_eq_natCast]; norm_cast
    rw [hcast, ← isPowerOfTwo_iff]
    cases m with
    | zero => decide
    | succ m => simp
  | negSucc m =>
    have hneg : ¬ IsCount (Int.negSucc m) := by
      rintro ⟨k, hk⟩
      have hpos : (0 : Int) < 2 ^ k := Int.pow_pos (by omega)
      omega
    simp [hneg]

theorem partition_of_not_isCount (key : Key) (h : ¬ IsCount n) :
    key.partition n = .error (Failure.partitionCount n).sayable := by
  rw [isCount_iff, Decidable.not_not] at h
  unfold partition
  rw [if_pos h]

theorem partition_two_pow (h : key.bytes? = .ok b) (k : Nat) :
    key.partition (2 ^ k) = .ok (hash b % 2 ^ k) := by
  have htwo : (2 ^ k).isPowerOfTwo := ⟨k, rfl⟩
  have hk := partition_of_isPowerOfTwo h htwo
  exact_mod_cast hk

theorem partition_of_isCount_of_error {run : Utf8.SurrogateRun} (hn : IsCount n)
    (h : key.bytes? = .error run) : key.partition n = .error (.unencodable run) := by
  unfold partition
  rw [if_neg (isCount_iff.mp hn), h]

theorem family_partitionCount (n : Int) : (Failure.partitionCount n).sayable.family = .value := by
  unfold Failure.sayable
  split <;> rfl

/-! ## Partitions among all numbers -/

/-- The partitions of a key with these bytes. -/
structure PartitionedBy (key : Key) (b : Bytes) : Prop where
  refused : ∀ n, (∃ f, key.partition n = .error f ∧ f.family = .value) ↔ ¬ IsCount n
  failure : ∀ n f, key.partition n = .error f →
    f = (Failure.partitionCount n).sayable ∧ f.family = .value
  found : ∀ k : Nat, key.partition (2 ^ k) = .ok ((crc32 b).toNat / 2 ^ 16 % 2 ^ 15 % 2 ^ k)
  inRange : ∀ n p, key.partition n = .ok p → p < n ∧ p < 32768
  consistent : ∀ (j k p q : Nat), j ≤ k → key.partition (2 ^ k) = .ok p →
    key.partition (2 ^ j) = .ok q → q = p % 2 ^ j

/-- The key has no partition, which is reported after a bad number of partitions. -/
structure Unpartitioned (key : Key) : Prop where
  encoding : ∀ n, (∃ f, key.partition n = .error f ∧ f.family = .encoding) ↔ IsCount n
  count : ∀ n, ¬ IsCount n → ∃ f, key.partition n = .error f ∧
    f = (Failure.partitionCount n).sayable ∧ f.family = .value

theorem partitionedBy_of_hasBytes (h : key.HasBytes b) : key.PartitionedBy b := by
  have hb := h.bytes?_eq
  have hfailure : ∀ n f, key.partition n = .error f → ¬ IsCount n := by
    rintro n f hf ⟨k, rfl⟩
    rw [partition_two_pow hb] at hf
    cases hf
  have hfound : ∀ n p, key.partition n = .ok p → ∃ k : Nat, n = 2 ^ k ∧ p = hash b % 2 ^ k := by
    intro n p hp
    by_cases hn : IsCount n
    · obtain ⟨k, rfl⟩ := hn
      rw [partition_two_pow hb] at hp
      exact ⟨k, rfl, (Except.ok.inj hp).symm⟩
    · rw [partition_of_not_isCount key hn] at hp
      cases hp
  constructor
  · intro n
    constructor
    · rintro ⟨f, hf, -⟩
      exact hfailure n f hf
    · intro hn
      exact ⟨_, partition_of_not_isCount key hn, family_partitionCount n⟩
  · intro n f hf
    rw [partition_of_not_isCount key (hfailure n f hf)] at hf
    cases hf
    exact ⟨rfl, family_partitionCount n⟩
  · intro k
    simp only [partition_two_pow hb, hash_eq_mod, Nat.reducePow]
  · intro n p hp
    obtain ⟨k, rfl, rfl⟩ := hfound n p hp
    have hlt : hash b % 2 ^ k < 2 ^ k := Nat.mod_lt _ (Nat.two_pow_pos k)
    refine ⟨by exact_mod_cast hlt, ?_⟩
    exact Nat.lt_of_le_of_lt (Nat.mod_le _ _) (hash_lt b)
  · intro j k p q hle hp hq
    rw [partition_two_pow hb] at hp hq
    cases hp
    cases hq
    exact (Nat.mod_mod_of_dvd _ (Nat.pow_dvd_pow 2 hle)).symm

theorem unpartitioned_of_not_encodable (h : ¬ key.Encodable) : key.Unpartitioned := by
  obtain ⟨run, hrun⟩ := bytes?_of_not_encodable h
  constructor
  · intro n
    constructor
    · rintro ⟨f, hf, hfamily⟩
      by_contra hn
      rw [partition_of_not_isCount key hn] at hf
      cases hf
      rw [family_partitionCount] at hfamily
      cases hfamily
    · intro hn
      exact ⟨_, partition_of_isCount_of_error hn hrun, rfl⟩
  · intro n hn
    exact ⟨_, partition_of_not_isCount key hn, rfl, family_partitionCount n⟩

/-- **Partitions of keys.** A key that can be encoded has a partition among exactly the powers of
two, which are consistent; any other key has none. -/
theorem partition_total (key : Key) :
    (key.Encodable → ∃ b, key.HasBytes b ∧ key.PartitionedBy b) ∧
      (¬ key.Encodable → key.Unpartitioned) := by
  refine ⟨fun h => ?_, unpartitioned_of_not_encodable⟩
  obtain ⟨b, hb⟩ := h.exists_hasBytes
  exact ⟨b, hb, partitionedBy_of_hasBytes hb⟩

/-- A key of two characters, one beyond the first plane, and a key that is half a character. -/
theorem partition_total_surrogate :
    let whole : Key := .text (Text.ofString "ü😀")
    let half : Key := .text [CodePoint.ofNat 0xD83D]
    (whole.Encodable ∧ ∃ b, whole.HasBytes b ∧ whole.PartitionedBy b) ∧
      ¬ half.Encodable ∧ half.Unpartitioned := by
  intro whole half
  have hwhole : whole.Encodable := by
    unfold Encodable
    decide
  have hhalf : ¬ half.Encodable := by
    unfold Encodable
    decide
  exact ⟨⟨hwhole, (partition_total whole).1 hwhole⟩, hhalf, (partition_total half).2 hhalf⟩

end Key

end BucketMap
