import ChipEight.CommandLine.Report

/-!
# Main

The command line: runs a program without a display, or lists its instructions.
-/

namespace ChipEight.CommandLine

/-- Why a file could not be read, from what the system says. -/
def readFailure : IO.Error → ReadFailure
  | .noFileOrDirectory _ _ _ => .notFound
  | .inappropriateType _ 21 _ => .isDirectory
  | .inappropriateType _ _ _ => .notDirectory
  | .invalidArgument _ 36 _ => .nameTooLong
  | .permissionDenied _ code reason => .other (reason ++ " (os error " ++ code.toNat.repr ++ ")")
  | e => .other e.toString

/-- What a path leads to. -/
def readFile (path : String) : IO (Except ReadFailure (List UInt8)) := do
  try
    return .ok (← IO.FS.readBinFile path).toList
  catch e => return .error (readFailure e)

/-- What some arguments lead to on a platform, in the directory of the process. -/
def report (p : Platform) (args : List String) : IO Report := do
  match p.invocation args with
  | .error r => return r
  | .ok inv => return p.report inv.level (inv.perform p (← readFile inv.path))

end ChipEight.CommandLine

/-- Writes the report of the arguments, and exits with its code. -/
def main (args : List String) : IO UInt32 := do
  let report ← ChipEight.CommandLine.report .standard args
  report.output.forM IO.println
  report.errors.forM IO.eprintln
  return UInt32.ofNat report.exit
