import BindingTrees.Console.Flag
import BindingTrees.Console.Suggestion

/-!
# Invocations

The words after the program's name say what to do.  The first word that is neither a
flag nor the value of one names a command; flags may come before and after it.
Before the command is known only the flags of the program itself are, and an unknown
flag is taken to have the next word as its value unless that is the last word.  A
command may have commands of its own, which are found in the words left in the same
way.

Flags are read before anything else is checked; then a request for help or for the
version is met; then the operands are counted.
-/

set_option autoImplicit false

namespace BindingTrees.Console

/-! ## Commands -/

/-- The shells that words can be completed for. -/
inductive Shell where
  | bash
  | zsh
  | fish
  | powershell
deriving DecidableEq, Repr

def Shell.name : Shell → String
  | .bash => "bash"
  | .zsh => "zsh"
  | .fish => "fish"
  | .powershell => "powershell"

/-- What the program can be asked to do.  The commands from `help` on only tell about
the program: to a reader, or to a shell that completes words. -/
inductive Command where
  | top
  | check
  | fresh
  | help
  | completion
  | script (shell : Shell)
  | complete
  | manual
deriving DecidableEq, Repr

/-- The command of a name under a command.  A released program has a manual. -/
def Command.sub? (released : Bool) (command : Command) (name : String) : Option Command :=
  match command with
  | .top =>
      if name = "check" then some .check
      else if name = "fresh" then some .fresh
      else if name = "help" then some .help
      else if name = "completion" then some .completion
      else if name = "__complete" || name = "__completeNoDesc" then some .complete
      else if released && name = "man" then some .manual
      else none
  | .completion => ([.bash, .zsh, .fish, .powershell].find? (·.name = name)).map .script
  | _ => none

/-- The words that lead to a command. -/
def Command.path : Command → String
  | .top => "abt"
  | .check => "abt check"
  | .fresh => "abt fresh"
  | .help => "abt help"
  | .completion => "abt completion"
  | .script shell => "abt completion " ++ shell.name
  | .complete => "abt __complete"
  | .manual => "abt man"

/-- The commands that are suggested. -/
def shownCommands : List String := ["check", "fresh", "completion"]

/-- The flags of every command. -/
def commonFlags : List Flag := [.debug, .freshen]

/-- The flags of a command.  A released program can tell its version. -/
def Command.flags (released : Bool) : Command → List Flag
  | .top => commonFlags ++ [.help] ++ (if released then [.version] else [])
  | .check => [.verbose, .noColor] ++ commonFlags ++ [.help]
  | .fresh => [.used] ++ commonFlags ++ [.help]
  | .script _ => [.noDescriptions] ++ commonFlags ++ [.help]
  | _ => commonFlags ++ [.help]

/-! ## Errors -/

/-- Why words make no invocation. -/
inductive UsageError where
  | flag (error : FlagError)
  | unknownCommand (name : String)
  | notOneOperand (count : Nat)
  | noOperand
  | unexpected (operand : String) (command : Command)
deriving DecidableEq

def UsageError.message : UsageError → String
  | .flag error => error.message
  | .unknownCommand name =>
      let head := "unknown command " ++ Text.quote name ++ " for \"abt\""
      match suggestions shownCommands name with
      | [] => head
      | known => head ++ "\n\nDid you mean this?\n" ++
          String.join (known.map fun word => "\t" ++ word ++ "\n")
  | .notOneOperand count => "accepts 1 arg(s), received " ++ toString count
  | .noOperand => "requires at least 1 arg(s), only received 0"
  | .unexpected operand command =>
      "unknown command " ++ Text.quote operand ++ " for " ++ Text.quote command.path

/-! ## Finding the command -/

/-- Whether a word is a flag that has the next word as its value, as far as the flags
of the program itself tell. -/
def takesNextWord (word : String) : Bool :=
  match word.toList with
  | '-' :: '-' :: name =>
      !name.contains '=' &&
        !commonFlags.any fun flag => flag.isSwitch && flag.name == String.ofList name
  | ['-', letter] =>
      letter != '=' && letter.utf8Size == 1 &&
        !commonFlags.any fun flag => flag.isSwitch && flag.letter? == some letter
  | _ => false

/-- Whether a word is neither empty nor begins with a hyphen. -/
def isPlainWord (word : String) : Bool :=
  match word.toList with
  | [] => false
  | c :: _ => c != '-'

/-- The word that names the command. -/
def commandWord? : List String → Option String
  | [] => none
  | word :: rest =>
      if word = "--" then none
      else if takesNextWord word then
        match rest with
        | _ :: next :: more => commandWord? (next :: more)
        | _ => none
      else if isPlainWord word then some word
      else commandWord? rest

/-- The words without the one that names the command. -/
def withoutCommand (name : String) : List String → List String
  | [] => []
  | word :: rest =>
      if word = "--" then word :: rest
      else if takesNextWord word then
        match rest with
        | value :: more => word :: value :: withoutCommand name more
        | [] => [word]
      else if isPlainWord word && word = name then rest
      else word :: withoutCommand name rest

/-! ## Invocations -/

/-- What an invocation asks for. -/
inductive Invocation where
  | nothing
  | version
  | check (settings : Settings) (paths : List String)
  | fresh (settings : Settings) (name : String)

/-- The command that words name under a command, and the words left. -/
def Command.descend (released : Bool) (command : Command) (words : List String) :
    Command × List String :=
  match commandWord? words with
  | none => (command, words)
  | some name =>
      match command.sub? released name with
      | some sub => (sub, withoutCommand name words)
      | none => (command, words)

/-- The command of a list of words, and the words left.  Commands are two levels
deep. -/
def findCommand (released : Bool) (words : List String) :
    Except UsageError (Command × List String) :=
  match Command.top.descend released words with
  | (.top, words) =>
      match commandWord? words with
      | none => .ok (.top, words)
      | some name => .error (.unknownCommand name)
  | (command, words) => .ok (command.descend released words)

/-- Complains about the first operand of a command that takes none. -/
def Command.refuse (command : Command) : List String → Except UsageError Invocation
  | [] => .ok .nothing
  | operand :: _ => .error (.unexpected operand command)

/-- The invocation that words make.  The words to complete are not read as flags. -/
def Invocation.read (released : Bool) (words : List String) : Except UsageError Invocation := do
  let (command, words) ← findCommand released words
  if command = .complete then
    if words.isEmpty then throw .noOperand
    return .nothing
  let (settings, operands) ← (Settings.read (command.flags released) {} [] words).mapError .flag
  if settings.help then return .nothing
  if settings.version then return .version
  match command with
  | .check =>
      if operands.isEmpty then throw .noOperand
      return .check settings operands
  | .fresh =>
      match operands with
      | [name] => return .fresh settings name
      | _ => throw (.notOneOperand operands.length)
  | .script _ | .manual => command.refuse operands
  | _ => return .nothing

end BindingTrees.Console
