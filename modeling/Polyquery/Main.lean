import Polyquery.CommandLine.Run

/-!
# The program

The command line, with files from the disk.
-/

namespace Polyquery
namespace CommandLine

def openOnDisk (path : Path) : IO (Except FileFault ByteStream) := do
  if '\x00' ∈ path.text then return .error .nullInPath
  try
    let bytes ← IO.FS.readBinFile (String.ofList path.text)
    return .ok (.ofBytes bytes.toList)
  catch error =>
    match error with
    | .noFileOrDirectory .. => return .error .noEntry
    | .inappropriateType _ code _ =>
      return if code = 21 then .ok .ofDirectory else .error .notDirectory
    | other => return .error (.other (toString other).toList)

end CommandLine
end Polyquery

open Polyquery in
def main (arguments : List String) : IO UInt32 := do
  let outcome ← CommandLine.run CommandLine.openOnDisk (arguments.map String.toList)
  (← IO.getStdout).putStr (String.ofList outcome.output)
  (← IO.getStderr).putStr (String.ofList outcome.report)
  return outcome.code
