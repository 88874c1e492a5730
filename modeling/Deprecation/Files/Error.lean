/-
# File errors

What can go wrong with a file, and what the operating system says of it.
-/

namespace Deprecation

/-- Why an operation on a file fails. -/
inductive FileError where
  /-- There is nothing at the path. -/
  | notFound
  /-- Something on the way to the path is no directory. -/
  | notADirectory
  /-- A file is wanted where a directory is. -/
  | isADirectory
  /-- There is something at the path already. -/
  | alreadyExists
  /-- A directory that should be replaced has files in it. -/
  | notEmpty
  /-- The path is in use by the system. -/
  | busy
  /-- A name in the path is too long. -/
  | nameTooLong
  /-- A name in the path has a character that no name has. -/
  | badName
  /-- The file is no text. -/
  | notText
  /-- Anything else. -/
  | other (description : String)
deriving DecidableEq, Repr, Inhabited

namespace FileError

/-- What is said of a failed operation. -/
def message : FileError → String
  | notFound => "No such file or directory (os error 2)"
  | notADirectory => "Not a directory (os error 20)"
  | isADirectory => "Is a directory (os error 21)"
  | alreadyExists => "File exists (os error 17)"
  | notEmpty => "Directory not empty (os error 39)"
  | busy => "Device or resource busy (os error 16)"
  | nameTooLong => "File name too long (os error 36)"
  | badName => "file name contained an unexpected NUL byte"
  | notText => "stream did not contain valid UTF-8"
  | other description => description

end FileError

end Deprecation
