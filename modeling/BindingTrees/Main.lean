import BindingTrees.Console.Program
import BindingTrees.Scenario.Decode

/-!
# The command line

Reads the files that an invocation names, runs the program on them, and prints what
it leaves behind.  The documents are written in TOML.
-/

set_option autoImplicit false

namespace BindingTrees.Console

/-- The environment variable that names the strategy to fall back on. -/
def freshenVariable : String := "ABT_FRESHEN"

/-- The text of a file, or why it cannot be read. -/
def readFileText (path : String) : IO (Except FileFault String) := do
  try
    return .ok (← IO.FS.readFile path)
  catch
    | .permissionDenied _ _ _ => return .error .denied
    | .inappropriateType _ _ _ => return .error .isDirectory
    | .invalidArgument _ _ _ => return .error .invalidName
    | _ => return .error .notFound

/-- The program as a process: its words, its output, and its exit code. -/
def process (words : List String) : IO UInt32 := do
  let paths := match Invocation.read true words with
    | .ok (.check _ paths) => paths
    | _ => []
  let texts ← paths.mapM fun path => return (path, ← readFileText path)
  let world : World Scenario.DecodeError :=
    { files := fun path => (texts.lookup path).getD (.error .notFound)
      decode := Scenario.Document.ofToml
      explain := Scenario.DecodeError.message
      fallback := (← IO.getEnv freshenVariable).getD ""
      released := true }
  let transcript := run world words
  IO.print transcript.output
  IO.eprint (transcript.diagnostics world.explain)
  return transcript.exitCode.toUInt32

end BindingTrees.Console

def main (words : List String) : IO UInt32 := BindingTrees.Console.process words
