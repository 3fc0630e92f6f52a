import BucketMap.Numeral
import BucketMap.Text.Quoted

/-!
# File paths

* `FilePath.normalize` is a path without empty and `.` components; two slashes in front, and
  only exactly two, are kept.
* `ReadFault` is the reason for which a file could not be read.
-/

namespace BucketMap

namespace FilePath

/-- The slashes in front that are kept. -/
def root (t : Text) : Text :=
  let slashes := t.takeWhile (· = CodePoint.ofChar '/')
  if slashes.length = 2 then slashes else slashes.take 1

/-- The components that are kept. -/
def components (t : Text) : List Text :=
  (Text.splitOn '/' t).filter fun c => c ≠ [] ∧ c ≠ [CodePoint.ofChar '.']

/-- The path in normal form. -/
def normalize (t : Text) : Text :=
  let path := root t ++ Text.join (Text.ofString "/") (components t)
  if path.isEmpty then Text.ofString "." else path

end FilePath

/-- Why a file could not be read: the number and the words of the system. -/
structure ReadFault where
  number : Nat
  words : String

namespace ReadFault

/-- No such file. -/
def missing : ReadFault := ⟨2, "No such file or directory"⟩

/-- Reading is not permitted. -/
def denied : ReadFault := ⟨13, "Permission denied"⟩

/-- A component in front of others is no directory. -/
def notADirectory : ReadFault := ⟨20, "Not a directory"⟩

/-- The path names a directory. -/
def isADirectory : ReadFault := ⟨21, "Is a directory"⟩

/-- A component is too long. -/
def nameTooLong : ReadFault := ⟨36, "File name too long"⟩

/-- The text of the fault for a path. -/
def text (f : ReadFault) (path : Text) : Text :=
  Text.ofString "[Errno " ++ Numeral.natural f.number ++ Text.ofString "] " ++
    Text.ofString f.words ++ Text.ofString ": " ++ path.quoted

end ReadFault

end BucketMap
