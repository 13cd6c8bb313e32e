import BindingTrees.Console.Folder
import BindingTrees.Console.Invocation
import BindingTrees.Console.LogLine
import BindingTrees.Scenario.Report
import BindingTrees.Scenario.Validation
import BindingTrees.Text.ControlSequence

/-!
# The program

`run` carries out the words of an invocation in a world that it can only read: the
files by their paths, the decoder of documents, the strategy to fall back on, how texts
are styled and checks shown in full, and how much its output accepts.  It returns what
goes to the output and to the log, and an error if there is one.

**Checking.** The documents are taken in order.  Each is read, its checks are run and
reported; the first document that cannot be read or run ends the program.  If all
can, the checks that did not pass are counted over all documents, and it is an error
if there are any.

**Fresh names.** The name is bound in a node of its own, the node is opened under the
names in use, and the name that it is given is printed.
-/

set_option autoImplicit false

namespace BindingTrees.Console

open Scenario

/-! ## The world and what comes of a run -/

/-- What a run depends on besides its words.  The errors of the decoder are of type `δ`, and
`explain` gives their messages. -/
structure World (δ : Type) where
  files : String → Except FileFault String
  decode : String → Except δ Document
  explain : δ → String
  render : Text.Style → String → String := Text.Style.apply
  dump : Check → String := Check.dump
  fallback : String := ""
  canceled : Bool := false
  room : Option Nat := none
  released : Bool := false

/-- Why a document at a path has no results. -/
inductive LoadError (δ : Type) where
  | open (fault : FileFault)
  | read (fault : FileFault)
  | document (error : ReadError δ)
  | strategy (error : UnknownStrategy)
  | canceled (error : Canceled)
deriving DecidableEq

/-- Why a run ends in an error. -/
inductive ProgramError (δ : Type) where
  | usage (error : UsageError)
  | load (path : String) (error : LoadError δ)
  | writeFailed
  | checksFailed (count : Nat)
  | strategy (error : UnknownStrategy)
  | malformed (error : Malformed)
  | engine (fault : Fault)
deriving DecidableEq

variable {δ : Type}

/-- The message of an error about the file at a path, given the messages of the decoder. -/
def LoadError.message (explain : δ → String) (path : String) : LoadError δ → String
  | .open fault => "open " ++ path ++ ": " ++ fault.message
  | .read fault => "parsing " ++ path ++ ": read " ++ path ++ ": " ++ fault.message
  | .document error => "parsing " ++ path ++ ": " ++ error.message explain
  | .strategy error => path ++ ": " ++ error.message
  | .canceled error => path ++ ": " ++ error.message

/-- The message of an error, given the messages of the decoder. -/
def ProgramError.message (explain : δ → String) : ProgramError δ → String
  | .usage error => error.message
  | .load path error => error.message explain path
  | .writeFailed => "write failed"
  | .checksFailed count => toString count ++ " checks failed"
  | .strategy error => error.message
  | .malformed error => error.message
  | .engine fault => fault.message

/-- What a run leaves behind. -/
structure Transcript (δ : Type) where
  output : String := ""
  log : String := ""
  error : Option (ProgramError δ) := none

/-- The exit code of a run. -/
def Transcript.exitCode (transcript : Transcript δ) : Nat :=
  if transcript.error.isSome then 1 else 0

/-- The log of a run, with the message of its error as the last line.  No control
sequence of a terminal gets into the message. -/
def Transcript.diagnostics (explain : δ → String) (transcript : Transcript δ) : String :=
  match transcript.error with
  | some error => transcript.log ++ Text.withoutSequences (error.message explain ++ "\n")
  | none => transcript.log

/-! ## Checking documents -/

/-- The document at a path. -/
def World.load (world : World δ) (path : String) : Except (LoadError δ) Document :=
  match world.files path with
  | .error .isDirectory => .error (.read .isDirectory)
  | .error fault => .error (.open fault)
  | .ok text => (Document.read world.decode text).mapError .document

/-- The log line of an event, if it has one. -/
def eventLine? : Event → Option String
  | .renamed old new =>
      some (logLine "freshening bound names" [("from", logList old), ("to", logList new)])
  | .asked _ _ _ => none

/-- The log lines of one check: its renamings, then its result. -/
def checkLog (run : Result EvalError × List Event) : String :=
  let (result, events) := run
  String.join (events.filterMap eventLine?) ++
    logLine "ran check" [("check", result.check.name), ("kind", result.check.kind.word),
      ("passed", toString result.passed)]

/-- The results of the document at a path, and the log of its run. -/
def World.examine (world : World δ) (settings : Settings) (path : String) :
    Except (LoadError δ × String) (List (Result EvalError) × String) := do
  let doc ← (world.load path).mapError (·, "")
  let fresh ← (doc.strategy settings.freshen world.fallback).mapError (.strategy ·, "")
  let head := logLine "running scenario" [("file", path), ("checks", toString doc.checks.length)]
  let runs ← (doc.runUnless world.canceled fresh).mapError (.canceled ·, head)
  return (runs.map (·.1), head ++ String.join (runs.map checkLog))

/-- The layout that settings ask for. -/
def World.layout (world : World δ) (settings : Settings) : Layout :=
  { color := !settings.noColor, verbose := settings.verbose
    render := world.render, dump := world.dump }

/-- Checks the documents at paths, on top of what was written, logged and counted
already. -/
def World.checkFrom (world : World δ) (settings : Settings) (sink : Sink) (log : String)
    (failed : Nat) : List String → Transcript δ
  | [] =>
      { output := sink.written, log
        error := if failed = 0 then none else some (.checksFailed failed) }
  | path :: rest =>
      match world.examine settings path with
      | .error (error, more) =>
          { output := sink.written, log := log ++ more, error := some (.load path error) }
      | .ok (results, more) =>
          let reported :=
            (world.layout settings).report EvalError.message sink (baseName path) results
          if reported.complete then
            world.checkFrom settings reported.sink (log ++ more) (failed + reported.failed) rest
          else
            { output := reported.sink.written, log := log ++ more, error := some .writeFailed }

/-- Checks the documents at paths. -/
def World.check (world : World δ) (settings : Settings) (paths : List String) : Transcript δ :=
  let transcript := world.checkFrom settings { room := world.room } "" 0 paths
  if settings.debug then transcript else { transcript with log := "" }

/-! ## Fresh names -/

/-- The name that a strategy picks for a name under names in use. -/
def World.pickFresh (world : World δ) (settings : Settings) (name : String) :
    Except (ProgramError δ) String := do
  let fresh ← (Document.strategy {} settings.freshen world.fallback).mapError .strategy
  let args ← (Args.form "lam" 0 [.scoped ⟨[name], .var name⟩]).mapError .malformed
  let opened ← (openNode fresh (.ofList settings.used) "lam" args).outcome.mapError .engine
  match opened with
  | .cons (picked :: _) _ _ => return picked
  | _ => return name

/-- Prints the name that a strategy picks for a name under names in use. -/
def World.fresh (world : World δ) (settings : Settings) (name : String) : Transcript δ :=
  match world.pickFresh settings name with
  | .error error => { error := some error }
  | .ok picked =>
      match Sink.write { room := world.room } (picked ++ "\n") with
      | some sink => { output := sink.written }
      | none => { error := some .writeFailed }

/-! ## Running -/

/-- The version of a released program. -/
def versionLine : String := "abt version v0.1.0\n"

/-- Carries out the words of an invocation. -/
def run (world : World δ) (words : List String) : Transcript δ :=
  match Invocation.read world.released words with
  | .error error => { error := some (.usage error) }
  | .ok .nothing => {}
  | .ok .version => { output := versionLine }
  | .ok (.check settings paths) => world.check settings paths
  | .ok (.fresh settings name) => world.fresh settings name

end BindingTrees.Console
