import Wayfinding.Command.Run

/-!
The program. It reads the environment and the configuration document, if the command line
names one, prints what the command comes to, and exits with its code.
-/

namespace Wayfinding.Command

/-- The contents of a file, or why there are none. -/
def readDocument (path : String) : IO (Except FileFault String) := do
  try
    match String.fromUTF8? (← IO.FS.readBinFile path) with
    | some text => return .ok text
    | none => return .error .notText
  catch
    | .noFileOrDirectory .. => return .error .absent
    | .permissionDenied .. => return .error .denied
    | .inappropriateType none .. => return .error .isDirectory
    | .inappropriateType (some _) .. => return .error .notDirectory
    | error => return .error (.other (toString error))

end Wayfinding.Command

open Wayfinding.Command in
def main (arguments : List String) : IO UInt32 := do
  let invocation := Invocation.read (← IO.getEnv "OXIDE_NAV_APP") false arguments
  let document ←
    match Invocation.document? invocation with
    | some path => some <$> readDocument path
    | none => pure none
  let outcome := Invocation.outcome document invocation
  IO.print outcome.output
  IO.eprint outcome.errors
  return outcome.exitCode.toUInt32
