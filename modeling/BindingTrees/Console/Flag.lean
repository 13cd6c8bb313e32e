import BindingTrees.Console.Record
import BindingTrees.Text.Quoted

/-!
# Flags

A flag is given by its name after two hyphens or, if it has one, by its letter
after one; letters may be joined.  A switch stands by itself or has a truth value
after an equals sign.  Any other flag has a value after an equals sign or as the
next word.  Two hyphens alone end the flags; all other words are operands.

Each flag given changes the settings in turn, so that the last one counts, except
that the names in use add up.
-/

set_option autoImplicit false

namespace BindingTrees.Console

/-! ## Settings -/

inductive Flag where
  | debug
  | freshen
  | verbose
  | noColor
  | used
  | noDescriptions
  | help
  | version
deriving DecidableEq, Repr

namespace Flag

def name : Flag → String
  | .debug => "debug"
  | .freshen => "freshen"
  | .verbose => "verbose"
  | .noColor => "no-color"
  | .used => "used"
  | .noDescriptions => "no-descriptions"
  | .help => "help"
  | .version => "version"

/-- The letter of a flag, if it has one. -/
def letter? : Flag → Option Char
  | .debug => some 'd'
  | .verbose => some 'v'
  | .help => some 'h'
  | .version => some 'v'
  | _ => none

/-- Whether a flag stands for a truth value. -/
def isSwitch : Flag → Bool
  | .freshen => false
  | .used => false
  | _ => true

/-- A flag as it is shown in messages. -/
def shown (flag : Flag) : String :=
  match flag.letter? with
  | some letter => "-" ++ String.singleton letter ++ ", --" ++ flag.name
  | none => "--" ++ flag.name

end Flag

/-- What the flags amount to. -/
structure Settings where
  debug : Bool := false
  freshen : String := ""
  verbose : Bool := false
  noColor : Bool := false
  used : List String := []
  noDescriptions : Bool := false
  help : Bool := false
  version : Bool := false

/-! ## Errors -/

/-- Why a value does not fit a flag. -/
inductive ValueError where
  | notBoolean
  | record (error : RecordError)
deriving DecidableEq

/-- Why words cannot be read as flags. -/
inductive FlagError where
  | badSyntax (word : String)
  | unknown (name : String)
  | unknownLetter (letter : Char) (group : String)
  | missingValue (name : String)
  | badValue (value : String) (flag : Flag) (error : ValueError)
deriving DecidableEq

def ValueError.message (value : String) : ValueError → String
  | .notBoolean => "strconv.ParseBool: parsing " ++ Text.quote value ++ ": invalid syntax"
  | .record error => error.message

/-- The character shown for an unknown letter: itself if it is in ASCII, and otherwise
the one that all others are shown as. -/
def shownLetter (letter : Char) : Char := if letter.toNat < 0x80 then letter else '\u00c3'

def FlagError.message : FlagError → String
  | .badSyntax word => "bad flag syntax: " ++ word
  | .unknown name => "unknown flag: --" ++ name
  | .unknownLetter letter group =>
      "unknown shorthand flag: " ++ Text.quoteSingle (shownLetter letter) ++ " in -" ++ group
  | .missingValue name => "flag needs an argument: --" ++ name
  | .badValue value flag error =>
      "invalid argument " ++ Text.quote value ++ " for " ++ Text.quote flag.shown ++ " flag: "
        ++ error.message value

/-! ## Values -/

/-- The truth value of a word. -/
def truthOf? (word : String) : Option Bool :=
  if ["1", "t", "T", "TRUE", "true", "True"].contains word then some true
  else if ["0", "f", "F", "FALSE", "false", "False"].contains word then some false
  else none

/-- The settings after a flag was given with a value. -/
def Settings.set (settings : Settings) (flag : Flag) (value : String) :
    Except FlagError Settings :=
  match flag with
  | .freshen => .ok { settings with freshen := value }
  | .used =>
      match fieldsOf value with
      | .ok names => .ok { settings with used := settings.used ++ names }
      | .error error => .error (.badValue value flag (.record error))
  | _ =>
      match truthOf? value with
      | none => .error (.badValue value flag .notBoolean)
      | some truth =>
          .ok (match flag with
            | .debug => { settings with debug := truth }
            | .verbose => { settings with verbose := truth }
            | .noColor => { settings with noColor := truth }
            | .noDescriptions => { settings with noDescriptions := truth }
            | .help => { settings with help := truth }
            | .version => { settings with version := truth }
            | .freshen | .used => settings)

/-! ## Words -/

/-- A word at the first equals sign, which is dropped. -/
def cutEquals : List Char → List Char × Option (List Char)
  | [] => ([], none)
  | '=' :: rest => ([], some rest)
  | c :: rest =>
      let (before, after) := cutEquals rest
      (c :: before, after)

/-- The settings after the letters of one word.  No flag with a letter takes a value
from the next word.  Letters that begin with `test.` are meant for a test runner and
change nothing. -/
def Settings.setLetters (flags : List Flag) (settings : Settings) :
    List Char → Except FlagError Settings
  | [] => .ok settings
  | 't' :: 'e' :: 's' :: 't' :: '.' :: _ => .ok settings
  | letter :: rest =>
      match flags.find? (·.letter? == some letter) with
      | none => .error (.unknownLetter letter (String.ofList (letter :: rest)))
      | some flag =>
          match rest with
          | '=' :: c :: value => settings.set flag (String.ofList (c :: value))
          | _ => do
              let settings ← settings.set flag "true"
              settings.setLetters flags rest

/-- The settings and operands of a list of words. -/
def Settings.read (flags : List Flag) (settings : Settings) (operands : List String) :
    List String → Except FlagError (Settings × List String)
  | [] => .ok (settings, operands)
  | word :: rest =>
      match word.toList with
      | ['-', '-'] => .ok (settings, operands ++ rest)
      | '-' :: '-' :: text =>
          if text.head? == some '-' || text.head? == some '=' then .error (.badSyntax word)
          else
            let (name, value?) := cutEquals text
            let name := String.ofList name
            match flags.find? (·.name == name) with
            | none => .error (.unknown name)
            | some flag =>
                match value? with
                | some value => do
                    let settings ← settings.set flag (String.ofList value)
                    settings.read flags operands rest
                | none =>
                    if flag.isSwitch then do
                      let settings ← settings.set flag "true"
                      settings.read flags operands rest
                    else match rest with
                      | [] => .error (.missingValue name)
                      | value :: rest => do
                          let settings ← settings.set flag value
                          settings.read flags operands rest
      | '-' :: c :: letters => do
          let settings ← settings.setLetters flags (c :: letters)
          settings.read flags operands rest
      | _ => settings.read flags (operands ++ [word]) rest

end BindingTrees.Console
