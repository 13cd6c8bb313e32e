import BindingTrees.Text.Columns

/-!
# Control sequences of a terminal

A terminal reads text in which control sequences are embedded.  An escape character
begins one: a bracket after it opens a control sequence with parameters, other marks
open strings for the device, for the system or for an application, which last until
a terminator, and any other character ends it.

The automaton reads bytes of UTF-8.  A character outside ASCII is text, and ends
whatever sequence it stands in, except in a string for the device or the system,
where its bytes are passed over one by one; one of them may be a terminator.

`withoutSequences` is a text without its control sequences, and `lineColumns` the
number of columns that a line takes.
-/

set_option autoImplicit false

namespace BindingTrees.Text

/-! ## The automaton -/

/-- Where in a control sequence the terminal is, if it is in one. -/
inductive SequenceState where
  | text
  | escape
  | escapeMiddle
  | control
  | controlMiddle
  | device
  | deviceParameters
  | deviceMiddle
  | deviceString
  | systemString
  | applicationString
deriving DecidableEq, Repr

/-- What becomes of a byte: it is shown, it acts on the terminal, or it is part of a
sequence. -/
inductive ByteEffect where
  | shown
  | acts
  | passed
deriving DecidableEq, Repr

/-- What a byte does in any state that has no rule of its own for it. -/
def byteAnywhere (byte : UInt8) : SequenceState × ByteEffect :=
  if byte == 0x1b then (.escape, .passed)
  else if byte == 0x90 then (.device, .passed)
  else if byte == 0x98 || byte == 0x9e || byte == 0x9f then (.applicationString, .passed)
  else if byte == 0x9b then (.control, .passed)
  else if byte == 0x9d then (.systemString, .passed)
  else if byte < 0xa0 then (.text, .acts)
  else (.text, .passed)

/-- The bytes that mean the same in most states. -/
def isUniversal (byte : UInt8) : Bool := byte == 0x18 || byte == 0x1a || byte == 0x1b || 0x80 ≤ byte

/-- What an escape character followed by a byte begins. -/
def afterEscape (byte : UInt8) : SequenceState :=
  if byte < 0x30 then .escapeMiddle
  else if byte == 0x50 then .device
  else if byte == 0x5b then .control
  else if byte == 0x5d then .systemString
  else if byte == 0x58 || byte == 0x5e || byte == 0x5f then .applicationString
  else .text

/-- The next state of the automaton, and what becomes of the byte. -/
def SequenceState.step (state : SequenceState) (byte : UInt8) : SequenceState × ByteEffect :=
  match state with
  | .text =>
      if isUniversal byte then byteAnywhere byte
      else if byte < 0x20 || byte == 0x7f then (.text, .acts)
      else (.text, .shown)
  | .escape =>
      if isUniversal byte then byteAnywhere byte
      else if byte < 0x20 then (.escape, .acts)
      else if byte == 0x7f then (.escape, .passed)
      else (afterEscape byte, .passed)
  | .escapeMiddle =>
      if isUniversal byte then byteAnywhere byte
      else if byte < 0x20 then (.escapeMiddle, .acts)
      else if byte < 0x30 || byte == 0x7f then (.escapeMiddle, .passed)
      else (.text, .passed)
  | .control =>
      if isUniversal byte then byteAnywhere byte
      else if byte < 0x20 then (.control, .acts)
      else if byte < 0x30 then (.controlMiddle, .passed)
      else if byte < 0x40 || byte == 0x7f then (.control, .passed)
      else (.text, .passed)
  | .controlMiddle =>
      if isUniversal byte then byteAnywhere byte
      else if byte < 0x20 then (.controlMiddle, .acts)
      else if byte < 0x30 || byte == 0x7f then (.controlMiddle, .passed)
      else (.text, .passed)
  | .device =>
      if byte == 0x1b || (0x08 ≤ byte && byte ≤ 0x0d) then (.deviceString, .passed)
      else if isUniversal byte then byteAnywhere byte
      else if byte < 0x20 || byte == 0x7f then (.device, .passed)
      else if byte < 0x30 then (.deviceMiddle, .passed)
      else if byte < 0x40 then (.deviceParameters, .passed)
      else (.deviceString, .passed)
  | .deviceParameters =>
      if isUniversal byte then byteAnywhere byte
      else if byte < 0x20 || byte == 0x7f then (.deviceParameters, .passed)
      else if byte < 0x30 then (.deviceMiddle, .passed)
      else if byte < 0x40 then (.deviceParameters, .passed)
      else (.deviceString, .passed)
  | .deviceMiddle =>
      if isUniversal byte then byteAnywhere byte
      else if byte < 0x30 || byte == 0x7f then (.deviceMiddle, .passed)
      else (.deviceString, .passed)
  | .deviceString =>
      if byte == 0x1b then (.escape, .passed)
      else if byte == 0x18 || byte == 0x1a || byte == 0x9c then (.text, .passed)
      else (.deviceString, .passed)
  | .systemString =>
      if byte == 0x1b then (.escape, .passed)
      else if byte == 0x07 || byte == 0x18 || byte == 0x1a || byte == 0x9c then (.text, .passed)
      else (.systemString, .passed)
  | .applicationString =>
      if byte == 0x1b then (.escape, .passed)
      else if byte == 0x18 || byte == 0x1a || byte == 0x9c then (.text, .passed)
      else if byte < 0x80 then (.applicationString, .passed)
      else byteAnywhere byte

/-- Whether characters outside ASCII are passed over byte by byte. -/
def SequenceState.hidesText (state : SequenceState) : Bool :=
  state == .deviceString || state == .systemString

/-- The state after some bytes, and how many of them acted on the terminal. -/
def SequenceState.steps (state : SequenceState) : List UInt8 → SequenceState × Nat
  | [] => (state, 0)
  | byte :: rest =>
      let (next, effect) := state.step byte
      let (last, count) := next.steps rest
      (last, if effect = .acts then count + 1 else count)

/-- The state after a character outside ASCII that is passed over, and how many of its
bytes acted on the terminal. -/
def SequenceState.passOver (state : SequenceState) (c : Char) : SequenceState × Nat :=
  state.steps (String.singleton c).toUTF8.data.toList

/-! ## Text without sequences -/

/-- What stands for a byte that is no character by itself. -/
def replacementChar : Char := '\ufffd'

/-- A text without its control sequences, from a state on. -/
def SequenceState.clean (state : SequenceState) : List Char → List Char
  | [] => []
  | c :: rest =>
      if c.toNat < 0x80 then
        let (next, effect) := state.step c.toUInt8
        if effect = .passed then next.clean rest else c :: next.clean rest
      else if state.hidesText then
        let (next, strays) := state.passOver c
        List.replicate strays replacementChar ++ next.clean rest
      else c :: SequenceState.text.clean rest

/-- A text without its control sequences. -/
def withoutSequences (text : String) : String :=
  String.ofList (SequenceState.text.clean text.toList)

/-! ## Columns -/

/-- The number of columns that a line takes, from a state on.  A character of ASCII
never joins what is before it. -/
def SequenceState.columns (state : SequenceState) : List Char → Nat
  | [] => 0
  | c :: rest =>
      if c.toNat < 0x80 then
        let (next, effect) := state.step c.toUInt8
        (if effect = .shown then 1 else 0) + next.columns rest
      else if state.hidesText then (state.passOver c).1.columns rest
      else clusterColumns c rest + SequenceState.text.columns (clusterRest c rest)
termination_by line => line.length
decreasing_by
  · exact Nat.lt_succ_self _
  · exact Nat.lt_succ_self _
  · exact Nat.lt_succ_of_le (length_clusterRest_le c rest)

/-- The number of columns that a line takes. -/
def lineColumns (line : String) : Nat := SequenceState.text.columns line.toList

end BindingTrees.Text
