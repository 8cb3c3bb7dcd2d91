import Polyquery.Text

/-!
# Faults of file operations

Why an operation on files does not succeed, with the message and the number of the operating system.
-/

namespace Polyquery

inductive FileFault where
  | noEntry
  | busy
  | exists
  | notDirectory
  | isDirectory
  | nameTooLong
  | nullInPath
  /-- No part of a path can be created. -/
  | wholeTree
  | invalidText
  | other (message : Text)
  deriving Repr, DecidableEq

private def numbered (message : String) (number : Nat) : Text :=
  message.toList ++ " (os error ".toList ++ Text.decimal number ++ ")".toList

def FileFault.message : FileFault → Text
  | .noEntry => numbered "No such file or directory" 2
  | .busy => numbered "Device or resource busy" 16
  | .exists => numbered "File exists" 17
  | .notDirectory => numbered "Not a directory" 20
  | .isDirectory => numbered "Is a directory" 21
  | .nameTooLong => numbered "File name too long" 36
  | .nullInPath => "file name contained an unexpected NUL byte".toList
  | .wholeTree => "failed to create whole tree".toList
  | .invalidText => "stream did not contain valid UTF-8".toList
  | .other message => message

end Polyquery
