/-!
# FileProblem

Why no text can be read from a path.  Where there is no file, the path itself tells the reason
(`ofPath`): a path cannot hold the null character, a name on it cannot have more than 255 bytes, and
a path of dots and slashes alone leads to a directory.
-/

namespace FilterEditor

/-- Why no text can be read from a path. -/
inductive FileProblem where
  | nullInPath
  | missing
  | denied
  | isDirectory
  | nameTooLong
  /-- The bytes of the file are no text. -/
  | notText
deriving DecidableEq, Repr

namespace FileProblem

/-- The text of a problem. -/
def message : FileProblem → String
  | .nullInPath => "file name contained an unexpected NUL byte"
  | .missing => "No such file or directory (os error 2)"
  | .denied => "Permission denied (os error 13)"
  | .isDirectory => "Is a directory (os error 21)"
  | .nameTooLong => "File name too long (os error 36)"
  | .notText => "stream did not contain valid UTF-8"

/-- The most bytes of a name on a path. -/
def maxName : Nat := 255

/-- The most bytes of a path. -/
def maxPath : Nat := 4095

/-- A name on a path that stays in place or leads upwards. -/
def isStep (name : List Char) : Bool :=
  name == [] || name == ['.'] || name == ['.', '.']

/-- The number of bytes of a text. -/
def bytes (cs : List Char) : Nat :=
  (String.ofList cs).utf8ByteSize

/-- The problem with a path at which there is no file, and where no directory below the root and
the current one is known. -/
def ofPath (path : String) : FileProblem :=
  let cs := path.toList
  if cs.contains '\x00' then .nullInPath
  else if cs.isEmpty then .missing
  else if maxPath < bytes cs then .nameTooLong
  else
    match (cs.splitOn '/').dropWhile isStep with
    | [] => .isDirectory
    | name :: _ => if maxName < bytes name then .nameTooLong else .missing

end FileProblem
end FilterEditor
