import BindingTrees.Scenario.Dump
import BindingTrees.Scenario.Verdict
import BindingTrees.Text.Styled

/-!
# Reports

A report has one line per result, the full check after the line of each failure if
that is asked for, and a summary.  Each of these is one write to a sink.  A sink
may refuse a write, and the report ends there: what was written before stays, and
the failures counted are those whose line was tried.

`report` writes as it goes; `chunks` lists what it writes to a sink that refuses
nothing.
-/

set_option autoImplicit false

namespace BindingTrees.Scenario

/-! ## Sinks -/

/-- Where a report goes: what was written, and how many more writes are accepted, if
that is limited. -/
structure Sink where
  written : String := ""
  room : Option Nat := none
deriving DecidableEq, Repr

/-- The sink after one more write, unless it refuses. -/
def Sink.write (sink : Sink) (text : String) : Option Sink :=
  match sink.room with
  | none => some { sink with written := sink.written ++ text }
  | some 0 => none
  | some (room + 1) => some ⟨sink.written ++ text, some room⟩

/-! ## Lines -/

/-- How a report is laid out: what it shows, how a text is put in a style, and how a check is
shown in full. -/
structure Layout where
  color : Bool
  verbose : Bool
  render : Text.Style → String → String := Text.Style.apply
  dump : Check → String := Check.dump

/-- Bold green, for what passed. -/
def passStyle : Text.Style := ⟨"1;38;5;42"⟩

/-- Bold red, for what failed. -/
def failStyle : Text.Style := ⟨"1;38;5;196"⟩

/-- Grey, for the full check. -/
def dumpStyle : Text.Style := ⟨"38;5;241"⟩

/-- A text in a style, if the layout has colors. -/
def Layout.paint (layout : Layout) (style : Text.Style) (text : String) : String :=
  if layout.color then layout.render style text else text

/-- What a check expects, as shown after its answer. -/
def Check.expectation (check : Check) : String :=
  match check.kind with
  | .equal | .unequal => check.kind.word
  | .freeVars => check.expectedNames.text
  | .error => "error containing " ++ Text.quote check.want
  | _ => check.want

variable {ε : Type}

/-- The line of a result, given the messages of errors. -/
def Layout.resultLine (layout : Layout) (message : ε → String) (result : Result ε) : String :=
  let name := result.check.name
  if result.passed then layout.paint passStyle "PASS" ++ " " ++ name ++ "\n"
  else
    let head := layout.paint failStyle "FAIL" ++ " " ++ name ++ ": "
    match result.err with
    | some error => head ++ message error ++ "\n"
    | none => head ++ "got " ++ result.got ++ ", want " ++ result.check.expectation ++ "\n"

/-- The full check of a result. -/
def Layout.dumpLines (layout : Layout) (result : Result ε) : String :=
  layout.paint dumpStyle (layout.dump result.check) ++ "\n"

/-- The last line of a report on `total` results of which `failed` failed. -/
def Layout.summaryLine (layout : Layout) (name : String) (total failed : Nat) : String :=
  let text := name ++ ": " ++ toString (total - failed) ++ " passed, " ++ toString failed
    ++ " failed"
  layout.paint (if failed = 0 then passStyle else failStyle) text ++ "\n"

/-! ## Writing a report -/

/-- A report as far as it was written. -/
structure Reported where
  sink : Sink
  failed : Nat
  complete : Bool
deriving DecidableEq, Repr

/-- Writes the lines of results to a sink, on top of failures counted already. -/
def Layout.reportResults (layout : Layout) (message : ε → String) (sink : Sink) (failed : Nat) :
    List (Result ε) → Reported
  | [] => ⟨sink, failed, true⟩
  | result :: rest =>
      let failed := if result.passed then failed else failed + 1
      match sink.write (layout.resultLine message result) with
      | none => ⟨sink, failed, false⟩
      | some sink =>
          if !result.passed && layout.verbose then
            match sink.write (layout.dumpLines result) with
            | none => ⟨sink, failed, false⟩
            | some sink => layout.reportResults message sink failed rest
          else layout.reportResults message sink failed rest

/-- Writes a report to a sink. -/
def Layout.report (layout : Layout) (message : ε → String) (sink : Sink) (name : String)
    (results : List (Result ε)) : Reported :=
  let lines := layout.reportResults message sink 0 results
  if lines.complete then
    match lines.sink.write (layout.summaryLine name results.length lines.failed) with
    | none => { lines with complete := false }
    | some sink => { lines with sink }
  else lines

/-! ## The writes of a report -/

/-- The number of results that did not pass. -/
def failures (results : List (Result ε)) : Nat :=
  (results.filter fun result => !result.passed).length

/-- The writes for one result. -/
def Layout.resultChunks (layout : Layout) (message : ε → String) (result : Result ε) :
    List String :=
  layout.resultLine message result ::
    (if !result.passed && layout.verbose then [layout.dumpLines result] else [])

/-- The writes of a whole report. -/
def Layout.chunks (layout : Layout) (message : ε → String) (name : String)
    (results : List (Result ε)) : List String :=
  results.flatMap (layout.resultChunks message) ++
    [layout.summaryLine name results.length (failures results)]

end BindingTrees.Scenario
