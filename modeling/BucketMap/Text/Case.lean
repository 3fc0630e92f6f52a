import BucketMap.Text.CaseTable

/-!
# Lower case

* `Text.lower` maps every letter to its lower-case form. One letter has a form of two code points
  (U+0130), and a capital sigma becomes a final sigma at the end of a word.
* `CodePoint.asciiUpper?` is the upper-case form of a character as far as it is written in the
  first 128 code points.
-/

namespace BucketMap

namespace CodePoint

/-- The lower-case form of one code point. -/
def lower (c : CodePoint) : CodePoint :=
  match lowerRuns.find? fun r => r.1 ≤ c.val && c.val ≤ r.2.1 && (c.val - r.1) % r.2.2.1 = 0 with
  | some r => ofNat (r.2.2.2 + (c.val - r.1))
  | none => c

/-- A letter with case. -/
def isCased (c : CodePoint) : Bool := c.isIn casedRanges

/-- A character that the rule for sigma skips. -/
def isCaseIgnorable (c : CodePoint) : Bool := c.isIn caseIgnorableRanges

/-- The capital letter sigma. -/
def capitalSigma : CodePoint := ofNat 0x03A3

/-- The capital letter I with dot above. -/
def capitalDottedI : CodePoint := ofNat 0x0130

/--
The upper-case form of a character if it consists of characters below 128: besides the letters
`a` to `z` and those without case, the dotless i, the long s, the sharp s and the Latin ligatures
have one.
-/
def asciiUpper? (c : CodePoint) : Option Text :=
  if 97 ≤ c.val && c.val ≤ 122 then some [ofNat (c.val - 32)]
  else if c.val < 128 then some [c]
  else
    match c.val with
    | 0x00DF => some (Text.ofString "SS")
    | 0x0131 => some (Text.ofString "I")
    | 0x017F => some (Text.ofString "S")
    | 0xFB00 => some (Text.ofString "FF")
    | 0xFB01 => some (Text.ofString "FI")
    | 0xFB02 => some (Text.ofString "FL")
    | 0xFB03 => some (Text.ofString "FFI")
    | 0xFB04 => some (Text.ofString "FFL")
    | 0xFB05 => some (Text.ofString "ST")
    | 0xFB06 => some (Text.ofString "ST")
    | _ => none

end CodePoint

namespace Text

/-- The nearest character that the rule for sigma does not skip has case. -/
def nextIsCased (t : Text) : Bool :=
  match t.dropWhile CodePoint.isCaseIgnorable with
  | [] => false
  | c :: _ => c.isCased

/-- The lower-case form of the code points after those in `before`, which come nearest first. -/
def lowerAfter (before : Text) : Text → Text
  | [] => []
  | c :: rest =>
    let form : Text :=
      if c = .capitalSigma then
        if nextIsCased before && !nextIsCased rest then [.ofNat 0x03C2] else [.ofNat 0x03C3]
      else if c = .capitalDottedI then [.ofChar 'i', .ofNat 0x0307]
      else [c.lower]
    form ++ lowerAfter (c :: before) rest

/-- The text in lower case. -/
def lower (t : Text) : Text := lowerAfter [] t

/-- The text in upper case, if that form holds only code points below 128. -/
def asciiUpper? : Text → Option Text
  | [] => some []
  | c :: rest => do
    let form ← c.asciiUpper?
    let forms ← asciiUpper? rest
    return form ++ forms

end Text

end BucketMap
