/-!
# Refusals of the system

`Refusal` lists the causes for which the file tree or the start of a program says no, and `Refusal.message` is
their wording, with the number of the cause where the system has one.
-/

namespace DocRunner

/-- Why the system refuses a request. -/
inductive Refusal
  /-- Nothing stands at the path, or a link on the way to it dangles. -/
  | notFound
  /-- What should be started is no program. -/
  | denied
  /-- A name on the way is no directory. -/
  | notDirectory
  /-- A directory stands where a file is needed. -/
  | isDirectory
  /-- A name or a whole path is too long. -/
  | nameTooLong
  /-- Too many links had to be followed. -/
  | linkLoop
  /-- A path holds a NUL. -/
  | nulInPath
  /-- A NUL stands in the program, an argument or a variable of a command. -/
  | nulInCommand
  /-- The bytes of a file are no UTF-8 text. -/
  | notUtf8
  deriving DecidableEq, Repr

namespace Refusal

/-- How a refusal reads. -/
def message : Refusal → String
  | notFound => "No such file or directory (os error 2)"
  | denied => "Permission denied (os error 13)"
  | notDirectory => "Not a directory (os error 20)"
  | isDirectory => "Is a directory (os error 21)"
  | nameTooLong => "File name too long (os error 36)"
  | linkLoop => "Too many levels of symbolic links (os error 40)"
  | nulInPath => "file name contained an unexpected NUL byte"
  | nulInCommand => "nul byte found in provided data"
  | notUtf8 => "stream did not contain valid UTF-8"

end Refusal

end DocRunner
