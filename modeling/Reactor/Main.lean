import Reactor.CommandLine

/-!
The program itself: it reads the options file that the arguments name, runs, and prints.
-/

open Reactor

private def countCores : IO Nat := do
  try
    let lines ← IO.FS.lines "/proc/cpuinfo"
    return max 1 (lines.filter (·.startsWith "processor")).size
  catch _ => return 1

private def readOptionsFile (host : Host) (path : String) : IO FileTree := do
  let files := host.bareFiles
  try
    let content ← IO.FS.readBinFile path
    return (files.writeFile host.workingPlace path content.toList).1
  catch
    | .inappropriateType _ 21 _ => return (files.makeDirectory host.workingPlace path).1
    | .inappropriateType .. =>
      return (files.writeFile host.workingPlace (Path.directory path) []).1
    | _ => return files

def main (arguments : List String) : IO UInt32 := do
  let host : Host := ⟨← countCores, some (toString (← IO.currentDir)), 0, none⟩
  let files ←
    match Command.ofArgs arguments with
    | .run (some path) _ => readOptionsFile host path
    | _ => pure host.bareFiles
  let filter := LogFilter.ofText ((← IO.getEnv "RUST_LOG").getD "info")
  let exit := Program.run host files filter .zero arguments
  exit.output.forM IO.println
  exit.errors.forM IO.eprintln
  return UInt32.ofNat exit.code
