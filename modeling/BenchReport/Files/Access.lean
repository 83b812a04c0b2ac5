/-!
# Access errors

The causes for which the file tree refuses an access, with the wording of the operating system.
-/

namespace BenchReport

/-- Why an access to the file tree failed. -/
inductive AccessError where
  /-- Nothing has that name. -/
  | notFound
  /-- The name is taken. -/
  | alreadyExists
  /-- Something that is no directory stands where a directory is needed. -/
  | notADirectory
  /-- A directory stands where a file is needed. -/
  | isADirectory
  /-- A name, or the whole path, is longer than the system takes. -/
  | nameTooLong
  /-- The path holds a NUL. -/
  | nulInName
  /-- The content is not text. -/
  | notText
  deriving DecidableEq, Repr

/-- The wording of an access error. -/
def AccessError.message : AccessError → String
  | notFound => "No such file or directory (os error 2)"
  | alreadyExists => "File exists (os error 17)"
  | notADirectory => "Not a directory (os error 20)"
  | isADirectory => "Is a directory (os error 21)"
  | nameTooLong => "File name too long (os error 36)"
  | nulInName => "file name contained an unexpected NUL byte"
  | notText => "stream did not contain valid UTF-8"

end BenchReport
