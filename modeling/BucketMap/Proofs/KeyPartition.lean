import Mathlib.Data.List.TakeWhile
import BucketMap.Routing.Hash
import BucketMap.Proofs.Writable

/-!
# The partition of a key

A key that can be encoded has a partition among any number of partitions that is a power of two:
its hash modulo that number (`Key.partition_of_isPowerOfTwo`), since the mask of one bit less than
a power of two gives the remainder (`Key.and_sub_one_eq_mod`). Only a text with surrogates cannot be
encoded (`Key.exists_bytes_of_encodable`).
-/

namespace BucketMap

/-! ## Bytes of a key -/

theorem Utf8.surrogateRun?_eq_none {t : Text} (h : ∀ c ∈ t, c.isSurrogate = false) :
    surrogateRun? t = none := by
  have hall : (t.takeWhile fun c => !c.isSurrogate) = t := by
    rw [List.takeWhile_eq_self_iff]
    intro c hc
    rw [h c hc]
    rfl
  unfold surrogateRun?
  rw [hall]
  simp

namespace Key

/-- The key is given as bytes or as a text without surrogates. -/
def Encodable : Key → Prop
  | text t => ∀ c ∈ t, c.isSurrogate = false
  | bytes _ => True

theorem exists_bytes_of_encodable {key : Key} (h : key.Encodable) : ∃ b, key.bytes? = .ok b := by
  cases key with
  | text t =>
    refine ⟨t.flatMap Utf8.bytesOf, ?_⟩
    have hnone : Utf8.surrogateRun? t = none := Utf8.surrogateRun?_eq_none h
    unfold bytes? Utf8.encode
    simp only [hnone]
  | bytes b => exact ⟨b, rfl⟩

/-! ## Its partition -/

theorem isPowerOfTwo_iff {n : Nat} : isPowerOfTwo n = true ↔ n.isPowerOfTwo := by
  unfold isPowerOfTwo
  rw [← Nat.ne_zero_and_sub_one_eq_zero_iff_isPowerOfTwo]
  simp

/-- The mask below a power of two leaves the remainder. -/
theorem and_sub_one_eq_mod {n : Nat} (hn : n.isPowerOfTwo) (h : Nat) : h &&& (n - 1) = h % n := by
  obtain ⟨k, rfl⟩ := hn
  exact Nat.and_two_pow_sub_one_eq_mod h k

theorem hash_eq_mod (b : Bytes) : hash b = (crc32 b).toNat / 0x10000 % 0x8000 := by
  have hshift : (crc32 b).toNat >>> 16 = (crc32 b).toNat / 0x10000 := Nat.shiftRight_eq_div_pow _ 16
  have hmask (h : Nat) : h &&& 0x7fff = h % 0x8000 := and_sub_one_eq_mod ⟨15, rfl⟩ h
  rw [hash, hshift, hmask]

theorem hash_lt (b : Bytes) : hash b < 0x8000 := by
  rw [hash_eq_mod]
  exact Nat.mod_lt _ (by decide)

theorem partition_of_isPowerOfTwo {key : Key} {b : Bytes} {n : Nat} (hb : key.bytes? = .ok b)
    (hn : n.isPowerOfTwo) : key.partition n = .ok (hash b % n) := by
  have hpos : 0 < n := Nat.pos_of_isPowerOfTwo hn
  have htwo : isPowerOfTwo (n : Int).toNat = true := by
    rw [Int.toNat_natCast]
    exact isPowerOfTwo_iff.mpr hn
  unfold partition
  rw [htwo, hb, if_neg (by simp; omega), Int.toNat_natCast, ← and_sub_one_eq_mod hn]

/-- The number of a partition is short. -/
theorem writable_of_partition {key : Key} {count : Int} {p : Nat}
    (h : key.partition count = .ok p) : Numeral.Writable p := by
  have hlt : p < 0x8000 := by
    unfold partition at h
    split at h
    · cases h
    · split at h
      · cases h
        exact Nat.lt_of_le_of_lt Nat.and_le_left (hash_lt _)
      · cases h
  have hfits : Numeral.Fits 5 p := Nat.lt_of_lt_of_le hlt (by decide)
  exact hfits.writable (by decide)

end Key

end BucketMap
