import CallAudio.Document

/-! Configuration files. -/

namespace CallAudio

/-- What a path leads to. -/
inductive PathTarget
  | missing
  | directory
  | file (bytes : ByteArray)

/-- A directory that holds at most one file, with the path and the bytes of it. -/
structure Folder where
  file : Option (String × ByteArray) := none

namespace Folder

/-- Whether every part of a path stays where it is or goes up, which leads to a directory. -/
def climbs (path : List Char) : Bool :=
  (path.splitOn '/').all fun part => part == [] || part == ['.'] || part == ['.', '.']

/-- What a path leads to from the directory. The empty path leads nowhere. -/
def resolve (f : Folder) (path : String) : PathTarget :=
  if path.isEmpty then .missing
  else
    match f.file with
    | some (name, bytes) =>
      if name = path then .file bytes else if climbs path.toList then .directory else .missing
    | none => if climbs path.toList then .directory else .missing

end Folder

/-- The text at the end of a path, or why there is none. -/
def PathTarget.read : PathTarget → Except String String
  | missing => .error "No such file or directory (os error 2)"
  | directory => .error "Is a directory (os error 21)"
  | file bytes =>
    match String.fromUTF8? bytes with
    | some text => .ok text
    | none => .error "stream did not contain valid UTF-8"

/-- The usable configuration that a file holds. -/
def RoutingConfig.ofFile (folder : Folder) (path : String) : Except RouteError RoutingConfig :=
  match (folder.resolve path).read with
  | .error reason => .error (.config ("Cannot read " ++ path ++ ": " ++ reason))
  | .ok text => ofText text

end CallAudio
