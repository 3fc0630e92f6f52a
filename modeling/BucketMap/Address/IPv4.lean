import BucketMap.Numeral

/-!
# IPv4 addresses

* `IPv4.read?` accepts four decimal octets between points, without leading zeros.
* `IPv4.text` writes them.
-/

namespace BucketMap

/-- An IPv4 address by its four octets. -/
structure IPv4 where
  first : Fin 256
  second : Fin 256
  third : Fin 256
  fourth : Fin 256
deriving DecidableEq

namespace IPv4

/-- An octet: one to three digits, at most 255, no zero in front of another digit. -/
def octet? (t : Text) : Option (Fin 256) :=
  if t.isEmpty || !t.all (·.isAsciiDigit) || 3 < t.length then none
  else if t.head? = some (CodePoint.ofChar '0') && t.length ≠ 1 then none
  else
    let value := Text.valueOf 10 (t.map fun c => c.val - 48)
    if h : value < 256 then some ⟨value, h⟩ else none

/-- The address that a text writes. -/
def read? (t : Text) : Option IPv4 :=
  match Text.splitOn '.' t with
  | [a, b, c, d] => do return ⟨← octet? a, ← octet? b, ← octet? c, ← octet? d⟩
  | _ => none

/-- The written form. -/
def text (a : IPv4) : Text :=
  Text.join (Text.ofString ".")
    ([a.first, a.second, a.third, a.fourth].map fun o => Numeral.natural o.val)

end IPv4

end BucketMap
