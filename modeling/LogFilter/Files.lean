import LogFilter.Text.Basic

/-!
# Files

A directory of files in memory, with the rules by which a path leads to one of them, and the
reasons why a file cannot be read as text.
-/

namespace LogFilter

inductive FileError where
  | notFound
  | notDirectory
  | isDirectory
  | nameTooLong
  | nulByte
  | notUtf8
  | other (message : Text)
  deriving DecidableEq, Repr

namespace FileError

def message : FileError → Text
  | notFound => "No such file or directory (os error 2)"
  | notDirectory => "Not a directory (os error 20)"
  | isDirectory => "Is a directory (os error 21)"
  | nameTooLong => "File name too long (os error 36)"
  | nulByte => "file name contained an unexpected NUL byte"
  | notUtf8 => "stream did not contain valid UTF-8"
  | other message => message

end FileError

/-- The text of a file. -/
def decodeUtf8 (bytes : ByteArray) : Except FileError Text :=
  match String.fromUTF8? bytes with
  | some s => .ok s.toList
  | none => .error .notUtf8

/-- Files by their paths below a directory. A directory below it exists where a file is in it. -/
abbrev Directory := List (List Text × ByteArray)

namespace Directory

/-- The parts of a path that lead somewhere. A slash at the end leads to a directory, as `.` does. -/
def parts (path : Text) : List Text :=
  (Text.splitAt '/' path).filter (· ≠ [])

def longestName : Nat := 255

def longestPath : Nat := 4095

/-- Follows the parts of a path from a directory, given by the names that lead to it. Above the
outermost directory there are directories, but nothing is known to be in them. -/
def follow (d : Directory) : List Text → List Text → Except FileError ByteArray
  | _, [] => .error .isDirectory
  | here, part :: rest =>
    if part = ("." : Text) then follow d here rest
    else if part = (".." : Text) then
      if here ≠ [] then follow d here.dropLast rest
      else if rest.all fun part => part = ("." : Text) || part = (".." : Text) then
        .error .isDirectory
      else .error .notFound
    else if longestName < byteLength part then .error .nameTooLong
    else
      match d.lookup (here ++ [part]) with
      | some bytes => if rest = [] then .ok bytes else .error .notDirectory
      | none =>
        if d.any fun file => (here ++ [part]).isPrefixOf file.1 then follow d (here ++ [part]) rest
        else .error .notFound

/-- The bytes of the file that a path leads to from the directory. -/
def read (d : Directory) (path : Text) : Except FileError ByteArray :=
  if path.contains '\x00' then .error .nulByte
  else if longestPath < byteLength path then .error .nameTooLong
  else if path = [] then .error .notFound
  else
    match path with
    | '/' :: _ => if parts path = [] then .error .isDirectory else .error .notFound
    | _ => follow d [] (parts path ++ if path.getLast? = some '/' then [['.']] else [])

end Directory

end LogFilter
