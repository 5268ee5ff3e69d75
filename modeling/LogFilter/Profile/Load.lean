import LogFilter.Files
import LogFilter.Profile.Read

/-!
# Loading a profile

The profile of a file, or the base profile where no file is named.
-/

namespace LogFilter

inductive ProfileError where
  | unreadable (path : Text) (error : FileError)
  | invalid (path : Text)
  deriving DecidableEq, Repr

namespace ProfileError

def message : ProfileError → Text
  | unreadable path error => "Failed to read config file '" ++ path ++ "': " ++ error.message
  | invalid path => "Failed to parse config file '" ++ path ++ "'"

end ProfileError

namespace Profile

/-- The profile of a file with a known content. -/
def ofFile (path : Text) (content : Except FileError ByteArray) : Except ProfileError Profile :=
  match content.bind decodeUtf8 with
  | .error error => .error (.unreadable path error)
  | .ok s =>
    match ofToml? s with
    | some profile => .ok profile
    | none => .error (.invalid path)

def load (read : Text → Except FileError ByteArray) :
    Option Text → Except ProfileError Profile
  | none => .ok base
  | some path => ofFile path (read path)

end Profile

end LogFilter
