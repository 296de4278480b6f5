/-!
# Faults of the operating system

Why a file or a program could not be used, and the text the system has for it.
-/

namespace OffloadVolume

/-- Why a file or a program could not be used. -/
inductive Fault where
  | notFound
  | notDirectory
  | isDirectory
  | nameTooLong
  | denied
  | zeroInPath
  | zeroInArgument
  | notUtf8
  | other (text : String)
  deriving DecidableEq, Repr

namespace Fault

def message : Fault → String
  | notFound => "No such file or directory (os error 2)"
  | denied => "Permission denied (os error 13)"
  | notDirectory => "Not a directory (os error 20)"
  | isDirectory => "Is a directory (os error 21)"
  | nameTooLong => "File name too long (os error 36)"
  | zeroInPath => "file name contained an unexpected NUL byte"
  | zeroInArgument => "nul byte found in provided data"
  | notUtf8 => "stream did not contain valid UTF-8"
  | other text => text

end Fault
end OffloadVolume
