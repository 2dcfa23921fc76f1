/-
  File:      InputMask/FileFault.lean
  Subject:   Why a file or a stream cannot be used.
-/
import InputMask.Text.Blank
namespace InputMask

/-- Why a file or a stream cannot be read or written. -/
inductive FileFault where
  | missing
  | directory
  | notDirectory
  | longName
  | denied
  | notText
  deriving DecidableEq, Repr

/-- The message of a fault. -/
def FileFault.message : FileFault → Text
  | missing => "No such file or directory (os error 2)".toList
  | directory => "Is a directory (os error 21)".toList
  | notDirectory => "Not a directory (os error 20)".toList
  | longName => "File name too long (os error 36)".toList
  | denied => "Permission denied (os error 13)".toList
  | notText => "stream did not contain valid UTF-8".toList

end InputMask
