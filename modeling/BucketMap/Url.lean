import BucketMap.Address

/-!
# The port of a URL

`Url.port` is the port that a URL names. White space and controls in front of it and tabs and line
ends anywhere are dropped. Only a URL with an authority (behind `//`) has a port. The authority is
refused if its brackets do not match, if what stands between them is no IPv6 address, if one of
its characters is a disguise of a delimiter, and if the port is no number below 65536.

The splitting of URLs has become stricter over the maintenance releases of the library it belongs
to. This is the stricter form, as current releases have it and as distributions put it into the
older release 3.11.2: upstream, that release keeps controls and spaces in front of a URL
(`Url.cleaned` drops them) and looks at brackets for being paired only (`Url.isBracketedHost` asks
for an address between them).
-/

namespace BucketMap

namespace Url

/-- The authority or the port is malformed. -/
inductive Fault
  | malformed

/-- Characters whose compatibility form holds one of the delimiters `/`, `?`, `#`, `@`, `:`. -/
def disguises : List Nat :=
  [0x2047, 0x2048, 0x2049, 0x2100, 0x2101, 0x2105, 0x2106, 0x2A74, 0xFE13, 0xFE16, 0xFE55, 0xFE56,
   0xFE5F, 0xFE6B, 0xFF03, 0xFF0F, 0xFF1A, 0xFF1F, 0xFF20]

/-- The greatest port. -/
def maxPort : Nat := 65535

/-- A letter below 128. -/
def isLetter (c : CodePoint) : Bool :=
  (65 ≤ c.val && c.val ≤ 90) || (97 ≤ c.val && c.val ≤ 122)

/-- A character of a scheme. -/
def isSchemeChar (c : CodePoint) : Bool :=
  isLetter c || c.isAsciiDigit || c = '+' || c = '-' || c = '.'

/-- The text without what is dropped from URLs. -/
def cleaned (t : Text) : Text :=
  (t.dropWhile fun c => c.val ≤ 32).filter fun c => c ≠ '\t' ∧ c ≠ '\n' ∧ c ≠ '\r'

/-- The text behind the scheme, if there is one. -/
def afterScheme (t : Text) : Text :=
  match Text.cut ':' t with
  | (scheme, some rest) =>
    if (scheme.head?.any isLetter) && scheme.all isSchemeChar then rest else t
  | (_, none) => t

/-- The authority; it is empty if there is none. -/
def authority (t : Text) : Text :=
  let rest := afterScheme (cleaned t)
  if Text.startsWith rest (Text.ofString "//") then
    (rest.drop 2).takeWhile fun c => c ≠ '/' ∧ c ≠ '?' ∧ c ≠ '#'
  else []

/-- A host of a later version: `v`, hexadecimal digits, a point and something more. -/
def isLaterVersion (host : Text) : Bool :=
  match host with
  | [] => false
  | c :: rest =>
    let version := rest.takeWhile fun d => d.hexDigit?.isSome
    c = 'v' && !version.isEmpty &&
      match rest.drop version.length with
      | point :: _ :: _ => point = '.'
      | _ => false

/-- What may stand between brackets. -/
def isBracketedHost (host : Text) : Bool :=
  if host.head? = some (CodePoint.ofChar 'v') then isLaterVersion host
  else
    match IPAddress.read? host with
    | some (.v6 _) => true
    | _ => false

/-- The text without the name and password of a user. -/
def hostAndPort (authority : Text) : Text := Text.afterLast '@' authority

/-- The brackets of an authority that has both stand around the host, with nothing beside it. -/
def bracketsFit (authority : Text) : Bool :=
  match Text.cut '[' (hostAndPort authority) with
  | (before, some bracketed) =>
    let (host, after) := Text.cut ']' bracketed
    let behind := after.getD []
    before.isEmpty && (behind.isEmpty || behind.head? = some (CodePoint.ofChar ':')) &&
      isBracketedHost host
  | (_, none) => isBracketedHost (Text.cut ':' (hostAndPort authority)).1

/-- The authority is not refused. -/
def isSound (authority : Text) : Bool :=
  let opens := CodePoint.ofChar '[' ∈ authority
  let closes := CodePoint.ofChar ']' ∈ authority
  (if opens ∧ closes then bracketsFit authority else ¬opens ∧ ¬closes) &&
    authority.all fun c => c.val ∉ disguises

/-- The text of the port; it is empty if there is none. -/
def portText (authority : Text) : Text :=
  let behindHost :=
    match Text.cut '[' (hostAndPort authority) with
    | (_, some bracketed) => (Text.cut ']' bracketed).2.getD []
    | (_, none) => hostAndPort authority
  (Text.cut ':' behindHost).2.getD []

/-- The port that a URL names. -/
def port (t : Text) : Except Fault (Option Int) :=
  let authority := authority t
  if isSound authority then
    let digits := portText authority
    if digits.isEmpty then .ok none
    else if digits.all (·.isAsciiDigit) && digits.length ≤ Numeral.maxDigits then
      let value := Text.valueOf 10 (digits.map fun c => c.val - 48)
      if value ≤ maxPort then .ok (some value) else .error .malformed
    else .error .malformed
  else .error .malformed

end Url

end BucketMap
