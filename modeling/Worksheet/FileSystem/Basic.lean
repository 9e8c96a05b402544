namespace Worksheet

inductive FileError where
  | system (number : Nat) (text : String)
  | plain (text : String)
deriving DecidableEq

namespace FileError

def message : FileError → String
  | system number text => text ++ " (os error " ++ number.repr ++ ")"
  | plain text => text

def noEntry : FileError := system 2 "No such file or directory"

def notDirectory : FileError := system 20 "Not a directory"

def notUtf8 : FileError := plain "stream did not contain valid UTF-8"

end FileError

structure Metadata where
  regular : Bool
  size : Nat
deriving DecidableEq

/-- What the two ways of looking at a path come to. They need not agree: a device has contents and
    no size, and what is known of a file says nothing about whether it may be read. -/
structure Lookup where
  metadata : Except FileError Metadata
  contents : Except FileError ByteArray

structure FileSystem where
  userPath? : Option String
  lookup : String → Lookup

namespace FileSystem

-- Whoever may not look finds nothing, too.
def has (files : FileSystem) (path : String) : Bool := (files.lookup path).metadata.isOk

def readText (files : FileSystem) (path : String) : Except FileError String :=
  match (files.lookup path).contents with
  | .error error => .error error
  | .ok bytes =>
    match String.fromUTF8? bytes with
    | some text => .ok text
    | none => .error .notUtf8

end FileSystem

def joined (directory name : String) : String :=
  if directory.endsWith "/" then directory ++ name else directory ++ "/" ++ name

/-- Where a user keeps settings. The directory for them, if one is named, must be an absolute
    path; otherwise it is in the home directory, without which there is none. -/
def userPath? (home? named? : Option String) : Option String :=
  (home?.filter (· ≠ "")).map fun home =>
    let directory := (named?.filter (·.startsWith "/")).getD (joined home ".config")
    joined (joined directory "cellgrid") "config.toml"

end Worksheet
