import BucketMap.Address.IPv4

/-!
# IPv6 addresses

* `IPv6.read?` accepts eight groups of one to four hexadecimal digits between colons, where one
  double colon may stand for one or more groups of zeros and the last two groups may be written
  as an IPv4 address; a scope may follow behind a percent sign.
* `IPv6.text` writes lower-case groups without leading zeros, the longest run of two or more zero
  groups (the first of several) as a double colon, and the scope as it is.
-/

namespace BucketMap

/-- A group of sixteen bits. -/
abbrev Hextet := Fin 0x10000

/-- An IPv6 address by its eight groups, with a scope. -/
structure IPv6 where
  groups : List Hextet
  length_groups : groups.length = 8
  scope : Option Text
deriving DecidableEq

namespace IPv6

/-! ## Reading -/

/-- A group: one to four hexadecimal digits. -/
def hextet? (t : Text) : Option Hextet :=
  if t.isEmpty || 4 < t.length then none
  else do
    let value := Text.valueOf 16 (← t.mapM (·.hexDigit?))
    if h : value < 0x10000 then some ⟨value, h⟩ else none

/-- The two groups of an IPv4 address. -/
def ofIPv4 (a : IPv4) : List Hextet :=
  [Fin.ofNat _ (a.first.val * 256 + a.second.val), Fin.ofNat _ (a.third.val * 256 + a.fourth.val)]

/-- The groups of pieces, the last of which may be an IPv4 address if `tail` says so. -/
def groupsOf? (tail : Bool) : List Text → Option (List Hextet)
  | [] => some []
  | [piece] =>
    if tail && CodePoint.ofChar '.' ∈ piece then (IPv4.read? piece).map ofIPv4
    else (hextet? piece).map ([·])
  | piece :: pieces => do return (← hextet? piece) :: (← groupsOf? tail pieces)

/-- The groups of a text, which may be empty. -/
def side? (tail : Bool) (t : Text) : Option (List Hextet) :=
  if t.isEmpty then some [] else groupsOf? tail (Text.splitOn ':' t)

/-- The text before and behind the first double colon. -/
def doubleColon? : Text → Option (Text × Text)
  | c :: d :: rest =>
    if c = ':' ∧ d = ':' then some ([], rest)
    else (doubleColon? (d :: rest)).map fun (before, after) => (c :: before, after)
  | _ => none

/-- The eight groups that a text without scope writes. -/
def groups? (t : Text) : Option (List Hextet) :=
  match doubleColon? t with
  | none => groupsOf? true (Text.splitOn ':' t)
  | some (before, after) => do
    let high ← side? false before
    let low ← side? true after
    if high.length + low.length < 8 then
      some (high ++ List.replicate (8 - (high.length + low.length)) 0 ++ low)
    else none

/-- The address that a text writes. -/
def read? (t : Text) : Option IPv6 := do
  let (address, scope) := Text.cut '%' t
  if CodePoint.ofChar '/' ∈ t then none
  else if scope.any fun s => s.isEmpty || CodePoint.ofChar '%' ∈ s then none
  else
    let groups ← groups? address
    if h : groups.length = 8 then some ⟨groups, h, scope⟩ else none

/-! ## Writing -/

/-- The number of zero groups at the start. -/
def leadingZeros (groups : List Hextet) : Nat := (groups.takeWhile (·.val = 0)).length

/-- The position and length of the longest run of zero groups, the first one of several. -/
def longestZeros : List Hextet → Nat × Nat
  | [] => (0, 0)
  | group :: groups =>
    let here := leadingZeros (group :: groups)
    let (position, length) := longestZeros groups
    if length ≤ here then (0, here) else (position + 1, length)

/-- Groups between colons. -/
def groupsText (groups : List Hextet) : Text :=
  Text.join (Text.ofString ":") (groups.map fun g => (Nat.toDigits 16 g.val).map CodePoint.ofChar)

/-- The written form of eight groups. -/
def compressed (groups : List Hextet) : Text :=
  let (position, length) := longestZeros groups
  if 2 ≤ length then
    groupsText (groups.take position) ++ Text.ofString "::" ++
      groupsText (groups.drop (position + length))
  else groupsText groups

/-- The written form. -/
def text (a : IPv6) : Text :=
  match a.scope with
  | none => compressed a.groups
  | some scope => compressed a.groups ++ Text.ofString "%" ++ scope

end IPv6

end BucketMap
