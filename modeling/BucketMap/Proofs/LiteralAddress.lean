import BucketMap.Proofs.StableAddress
import Mathlib.Data.Nat.Digits.Defs

/-!
# Literals as identities

The normal form of a literal stands for its IP address (`Address.normalize_literals`): it is the
same for all literals of the address, however their groups are written and whether or not they
stand in brackets, and it is the normal form of nothing else. The address is told by its version,
its value and its scope (`IPAddress.eq_iff_same`).
-/

namespace BucketMap

open Text

/-! ## What tells addresses apart -/

theorem Text.valueOf_eq_ofDigits (base : Nat) (ds : List Nat) :
    valueOf base ds = Nat.ofDigits base ds.reverse := by
  rw [Nat.ofDigits_eq_foldr, List.foldr_reverse]
  unfold valueOf
  congr 1
  funext v d
  rw [Nat.cast_id, Nat.mul_comm, Nat.add_comm]

/-- Rows of as many digits are told apart by their values. -/
theorem Text.eq_of_valueOf {base : Nat} (hbase : 1 < base) {ds es : List (Fin base)}
    (hlength : ds.length = es.length)
    (h : valueOf base (ds.map Fin.val) = valueOf base (es.map Fin.val)) : ds = es := by
  rw [valueOf_eq_ofDigits, valueOf_eq_ofDigits, ← List.map_reverse, ← List.map_reverse] at h
  have hvals := Nat.ofDigits_inj_of_len_eq hbase (by simpa using hlength) (by simp) (by simp) h
  exact List.reverse_injective ((List.map_inj_right fun _ _ => Fin.ext).mp hvals)

def IPv4.octets (a : IPv4) : List (Fin 256) := [a.first, a.second, a.third, a.fourth]

theorem IPv4.octets_inj {a b : IPv4} (h : a.octets = b.octets) : a = b := by
  cases a
  cases b
  simpa [octets] using h

namespace IPAddress

/-- The version of the protocol. -/
def version : IPAddress → Nat
  | v4 _ => 4
  | v6 _ => 6

/-- The address as a number, its first octet or group highest. -/
def value : IPAddress → Nat
  | v4 a => valueOf 256 (a.octets.map Fin.val)
  | v6 a => valueOf 0x10000 (a.groups.map Fin.val)

def scope? : IPAddress → Option Text
  | v4 _ => none
  | v6 a => a.scope

/-- The addresses have one version, one value and one scope. -/
structure Same (a b : IPAddress) : Prop where
  version : a.version = b.version
  value : a.value = b.value
  scope : a.scope? = b.scope?

theorem octets_eq_of_value {a b : IPv4} (h : (v4 a).value = (v4 b).value) : a.octets = b.octets :=
  eq_of_valueOf (by omega) (Eq.refl 4) h

theorem groups_eq_of_value {a b : IPv6} (h : (v6 a).value = (v6 b).value) : a.groups = b.groups :=
  eq_of_valueOf (by omega) (a.length_groups.trans b.length_groups.symm) h

theorem eq_iff_same {a b : IPAddress} : a = b ↔ a.Same b := by
  constructor
  · rintro rfl
    exact ⟨rfl, rfl, rfl⟩
  · rintro ⟨hversion, hvalue, hscope⟩
    cases a with
    | v4 a =>
      cases b with
      | v4 b => rw [IPv4.octets_inj (octets_eq_of_value hvalue)]
      | v6 b => cases hversion
    | v6 a =>
      cases b with
      | v4 b => cases hversion
      | v6 b =>
        have hgroups := groups_eq_of_value hvalue
        obtain ⟨groups, _, scope⟩ := a
        obtain ⟨groups', _, scope'⟩ := b
        cases hgroups
        cases hscope
        rfl

end IPAddress

namespace Address

/-! ## Literals in and out of brackets -/

/-- The host is the given one, plainly or inside one pair of brackets. -/
inductive Gives (bare : Text) : Text → Prop
  | plain : Gives bare bare
  | brackets : Gives bare (bracketed bare)

variable {x y g h : Text} {a b : IPAddress}

theorem Gives.unbracket_strip (hx : Bare x) (hg : Gives x g) : unbracket (strip g) = .ok x := by
  cases hg with
  | plain => exact hx.unbracket_strip
  | brackets => exact unbracket_strip_bracketed x

theorem ne_nil_of_read? (ha : IPAddress.read? x = some a) : x ≠ [] := by
  rintro rfl
  cases ha

theorem Gives.normalize_eq (ha : IPAddress.read? x = some a) (hx : Bare x) (hg : Gives x g) :
    normalize g = .ok a.text :=
  normalize_eq_ok_iff.mpr ⟨x, hg.unbracket_strip hx, ne_nil_of_read? ha, canonical_of_read? ha⟩

/-- What has the normal form of a literal is a literal of that address. -/
theorem Gives.read?_of_normalize_eq (ha : a.Readable) {z k : Text} (hz : Bare z) (hk : Gives z k)
    (h : normalize k = .ok a.text) : IPAddress.read? z = some a := by
  rw [← read?_of_normalize (hk.unbracket_strip hz) h, IPAddress.read?_text ha]

/-- **Literals and their normal forms.** Literals, plainly or inside one pair of brackets, have one
normal form exactly if they denote one address. The normal form is a literal of the address and a
normal form of its own, and no host that is not a literal has it. -/
theorem normalize_literals (ha : IPAddress.read? x = some a) (hb : IPAddress.read? y = some b)
    (hx : Bare x) (hy : Bare y) (hg : Gives x g) (hh : Gives y h) :
    ∃ r s, normalize g = .ok r ∧ normalize h = .ok s ∧ (r = s ↔ a.Same b) ∧
      IPAddress.read? r = some a ∧ normalize r = .ok r ∧
      ∀ z k, IPAddress.read? z = none → Bare z → Gives z k → normalize k ≠ .ok r := by
  have hra := IPAddress.readable_of_read? ha
  have hrb := IPAddress.readable_of_read? hb
  have htext : IPAddress.read? a.text = some a := IPAddress.read?_text hra
  refine ⟨a.text, b.text, hg.normalize_eq ha hx, hh.normalize_eq hb hy, ?_, htext, ?_, ?_⟩
  · rw [← IPAddress.eq_iff_same]
    constructor
    · intro heq
      have hsome := IPAddress.read?_text hrb
      rw [← heq, htext] at hsome
      exact Option.some.inj hsome
    · rintro rfl
      rfl
  · rw [normalize_normalize_iff (hg.unbracket_strip hx) (hg.normalize_eq ha hx)]
    exact hx
  · intro z k hz hbare hk hnormalize
    rw [hk.read?_of_normalize_eq hra hbare hnormalize] at hz
    cases hz

/-! ### Two spellings of one address -/

/-- An address of two short runs of zeros and a scope, in capitals. -/
def spelled : Text := Text.ofString "2001:DB8:0:0:1:0:0:1%Eth0"

/-- The same address with a double colon in the second run, and the last two groups written as
an IPv4 address. -/
def respelled : Text := Text.ofString "2001:db8:0:0:1::0.0.0.1%Eth0"

/-- Both spellings have the normal form with a double colon in the place of the first run, which no
name has. -/
theorem normalize_literals_spelled :
    ∃ a r, IPAddress.read? spelled = some a ∧ IPAddress.read? respelled = some a ∧
      Bare spelled ∧ Bare respelled ∧
      normalize spelled = .ok r ∧ normalize (bracketed respelled) = .ok r ∧
      IPAddress.read? r = some a ∧ normalize r = .ok r ∧
      ∀ z k, IPAddress.read? z = none → Bare z → Gives z k → normalize k ≠ .ok r := by
  have hsome : (IPAddress.read? spelled).isSome = true := by decide +kernel
  obtain ⟨a, ha⟩ := Option.isSome_iff_exists.mp hsome
  have hb : IPAddress.read? respelled = some a := by
    rw [← ha]
    decide +kernel
  have hx : Bare spelled := by decide
  have hy : Bare respelled := by decide
  obtain ⟨r, s, hr, hs, hiff, hread, hstable, hother⟩ :=
    normalize_literals ha hb hx hy .plain .brackets
  obtain rfl := hiff.mpr ⟨rfl, rfl, rfl⟩
  exact ⟨a, r, ha, hb, hx, hy, hr, hs, hread, hstable, hother⟩

example : normalize spelled = .ok (Text.ofString "2001:db8::1:0:0:1%Eth0") := rfl

end Address

end BucketMap
