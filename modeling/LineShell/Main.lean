import LineShell.Program

namespace LineShell

def write (written : Written) : IO Unit := do
  let output ← IO.getStdout
  output.putStr (written.stdout.string)
  output.flush
  let errors ← IO.getStderr
  errors.putStr (written.stderr.string)
  errors.flush

def readEnvironment : IO Bindings := do
  try
    let bytes ← IO.FS.readBinFile "/proc/self/environ"
    let text := (String.fromUTF8? bytes).getD ""
    let entries := Text.splitWhere (· = '\x00') text.text
    return Bindings.ofList (entries.filterMap (Text.cutAt '='))
  catch _ => return Bindings.empty

partial def readLines (input : IO.FS.Stream) (console : Console) : IO Console := do
  let line ← input.getLine
  if line.isEmpty then
    let closed := console.close
    write closed.1
    return closed.2
  let fed := console.feed line.text
  write fed.1
  if fed.2.stopped then return fed.2
  readLines input fed.2

/-- The exit code that the process ends with; a failure of the shell itself is reported. -/
def finish (ending : Except Failure Int) : IO UInt32 :=
  match ending with
  | .ok code => return UInt32.ofNat (code.emod 256).toNat
  | .error _ => do
      IO.eprintln "myshell: the line could not be run"
      return 1

end LineShell

open LineShell in
def main (arguments : List String) : IO UInt32 := do
  let directory := toString (← IO.currentDir)
  let surroundings : Surroundings := ⟨← readEnvironment, directory.text⟩
  match Program.begin surroundings (Invocation.read (arguments.map String.text)) with
  | .done written ending =>
      write written
      finish ending
  | .reading written console =>
      write written
      let last ← readLines (← IO.getStdin) console
      finish (Program.endingOf last)
