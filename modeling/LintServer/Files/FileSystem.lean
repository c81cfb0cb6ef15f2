import LintServer.Files.Path

/-!
# File systems

All that a configuration load asks of a file system is which paths are regular files and what
reading a path yields. Nothing ties the two together: a file may be unreadable, and a theorem
over every `FileSystem` covers every state a disk can be in.
-/

namespace LintServer

/-- Why a file could not be read. -/
inductive ReadFailure where
  | notFound
  | notADirectory
  | isADirectory
  | nameTooLong
  | nulInName
  | notUtf8
  | other (text : String)
  deriving Repr, DecidableEq

def ReadFailure.message : ReadFailure → String
  | .notFound => "No such file or directory (os error 2)"
  | .notADirectory => "Not a directory (os error 20)"
  | .isADirectory => "Is a directory (os error 21)"
  | .nameTooLong => "File name too long (os error 36)"
  | .nulInName => "file name contained an unexpected NUL byte"
  | .notUtf8 => "stream did not contain valid UTF-8"
  | .other text => text

/-- The state of the files at one moment. -/
structure FileSystem where
  isFile : Path → Bool
  read : Path → Except ReadFailure String

end LintServer
