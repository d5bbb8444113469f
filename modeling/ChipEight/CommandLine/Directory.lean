/-!
# CommandLine — Directory

Files, as far as a command looks at them: a path leads to bytes, or to a reason why it does not.
A path is followed segment by segment from the directory itself, or from the root when it starts
with a slash.

* `Directory.follow`: where the segments lead.
* `Directory.ofFiles`: the directory that holds some files.
-/

namespace ChipEight.CommandLine

/-- Why a file cannot be read. -/
inductive ReadFailure where
  | notFound
  | isDirectory
  | notDirectory
  | nameTooLong
  | other (reason : String)
  deriving DecidableEq, Repr

/-- The reason in words. -/
def ReadFailure.message : ReadFailure → String
  | .notFound => "No such file or directory (os error 2)"
  | .isDirectory => "Is a directory (os error 21)"
  | .notDirectory => "Not a directory (os error 20)"
  | .nameTooLong => "File name too long (os error 36)"
  | .other reason => reason

/-- What every path leads to. -/
abbrev Directory := String → Except ReadFailure (List UInt8)

namespace Directory

/-- The most bytes of a name. -/
def maxName : Nat := 255

/-- The most bytes of a path. -/
def maxPath : Nat := 4095

/-- The names between the slashes of a path. -/
def segments (path : String) : List String := (path.toList.splitOn '/').map String.ofList

/-- Where a name is looked up: in the directory itself, or in one of those above it, the root
among them. -/
inductive Place where
  | inside
  | above
  deriving DecidableEq, Repr

/-- What the segments of a path lead to from a place.  An empty segment and a single dot stay,
two dots go up, and above the root is the root.  The directory holds files alone, so a name in it
is the last of its path, and of what lies above it nothing is known by name. -/
def follow (file? : String → Option (List UInt8)) : Place → List String →
    Except ReadFailure (List UInt8)
  | _, [] => .error .isDirectory
  | place, segment :: rest =>
    if segment = "" || segment = "." then follow file? place rest
    else if segment = ".." then follow file? .above rest
    else if maxName < segment.utf8ByteSize then .error .nameTooLong
    else match place, file? segment with
      | .inside, some bytes => if rest = [] then .ok bytes else .error .notDirectory
      | _, _ => .error .notFound

/-- The directory that holds some files and no directory.  Of two files with one name the later
counts. -/
def ofFiles (files : List (String × List UInt8)) : Directory := fun path =>
  if path = "" then .error .notFound
  else if maxPath < path.utf8ByteSize then .error .nameTooLong
  else
    let start := if path.toList.head? = some '/' then Place.above else Place.inside
    follow (fun name => files.reverse.lookup name) start (segments path)

end Directory

end ChipEight.CommandLine
