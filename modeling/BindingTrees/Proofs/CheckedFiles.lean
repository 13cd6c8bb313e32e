import BindingTrees.Console.Program
import BindingTrees.Proofs.ReportWrites
import BindingTrees.Scenario.Decode
import Mathlib.Data.List.Forall2

/-!
# Checking files

The program checks the documents at a list of paths one after the other.  Its output grows by the
report of each, failures are counted on the way, and the first document that cannot be read or run
ends it.  Here the run is not called off, and the output accepts every write.  How documents are
decoded, how texts are styled and how checks are shown in full is up to the world, and nothing is
assumed about it.

**One file** either yields results (`World.Yields`) or is refused with an error
(`World.Refuses`), never both.  The error of a file that cannot be decoded is the decoder's own.

**One report** to an output that accepts every write puts the report after what is there already,
and counts the results that did not pass (`Layout.report_unlimited`).

**A run** over files that yield results is thereby a sum: the reports are appended in order, and
the failures added (`World.checkFrom_append`).  What is left is the first refused file, or the
verdict on the sum.
-/

set_option autoImplicit false

namespace BindingTrees.Console

open Scenario

variable {δ : Type}

/-! ## One file -/

/-- A file can be read and decoded, and the document is valid. -/
def World.Holds (world : World δ) (path : String) (doc : Document) : Prop :=
  ∃ text, world.files path = .ok text ∧ world.decode text = .ok doc ∧ doc.validate = .ok ()

/-- A file yields results: it holds a valid document, the name that counts for the document is
that of a strategy, and the results are those of its checks, in order. -/
def World.Yields (world : World δ) (settings : Settings) (path : String)
    (results : List (Result EvalError)) : Prop :=
  ∃ doc name fresh, world.Holds path doc ∧ doc.Asks settings.freshen world.fallback name ∧
    Strategy.Named name fresh ∧ results = doc.checks.map fun check => (doc.runCheck fresh check).1

/-- Why a file has no results. -/
inductive World.Refuses (world : World δ) (settings : Settings) (path : String) :
    LoadError δ → Prop
  | directory : world.files path = .error .isDirectory →
      world.Refuses settings path (.read .isDirectory)
  | unopened {fault : FileFault} : world.files path = .error fault → fault ≠ .isDirectory →
      world.Refuses settings path (.open fault)
  | undecoded {text : String} {error : δ} : world.files path = .ok text →
      world.decode text = .error error → world.Refuses settings path (.document (.undecoded error))
  | invalid {text : String} {doc : Document} {invalid : Invalid} : world.files path = .ok text →
      world.decode text = .ok doc → doc.validate = .error invalid →
      world.Refuses settings path (.document (.invalid invalid))
  | strategy {doc : Document} {name : String} : world.Holds path doc →
      doc.Asks settings.freshen world.fallback name → (∀ fresh, ¬ Strategy.Named name fresh) →
      world.Refuses settings path (.strategy ⟨name⟩)

/-- **Every file yields results or is refused.** -/
theorem World.yields_or_refuses (world : World δ) (settings : Settings) (path : String) :
    (∃ results, world.Yields settings path results) ∨
      ∃ error, world.Refuses settings path error := by
  cases file : world.files path with
  | error fault =>
      by_cases directory : fault = .isDirectory
      · exact .inr ⟨_, .directory (directory ▸ file)⟩
      · exact .inr ⟨_, .unopened file directory⟩
  | ok text =>
      cases decoded : world.decode text with
      | error error => exact .inr ⟨_, .undecoded file decoded⟩
      | ok doc =>
          cases validated : doc.validate with
          | error invalid => exact .inr ⟨_, .invalid file decoded validated⟩
          | ok =>
              have holds : world.Holds path doc := ⟨text, file, decoded, validated⟩
              cases chosen : doc.strategy settings.freshen world.fallback with
              | error unknown =>
                  obtain ⟨asks, unnamed⟩ := Document.strategy_eq_error_iff.mp chosen
                  exact .inr ⟨_, .strategy holds asks unnamed⟩
              | ok fresh =>
                  obtain ⟨name, asks, named⟩ := Document.strategy_eq_ok_iff.mp chosen
                  exact .inl ⟨_, doc, name, fresh, holds, asks, named, rfl⟩

section OneFile

variable {world : World δ} {settings : Settings} {path : String}

theorem World.load_of_holds {doc : Document} (holds : world.Holds path doc) :
    world.load path = .ok doc := by
  obtain ⟨text, file, decoded, validated⟩ := holds
  rw [World.load, file]
  simp only [Document.read_of_decoded decoded, validated]
  rfl

theorem World.examine_of_yields (running : world.canceled = false)
    {results : List (Result EvalError)} (yields : world.Yields settings path results) :
    ∃ log, world.examine settings path = .ok (results, log) := by
  obtain ⟨doc, name, fresh, holds, asks, named, rfl⟩ := yields
  have chosen : doc.strategy settings.freshen world.fallback = .ok fresh :=
    Document.strategy_eq_ok_iff.mpr ⟨name, asks, named⟩
  have runs : doc.runUnless world.canceled fresh = .ok (doc.run fresh) := by
    rw [Document.runUnless, running]
    rfl
  rw [World.examine, World.load_of_holds holds]
  simp only [Except.mapError, bind, Except.bind, chosen, runs, Document.run, List.map_map]
  exact ⟨_, rfl⟩

theorem World.examine_of_refuses {error : LoadError δ}
    (refuses : world.Refuses settings path error) :
    ∃ log, world.examine settings path = .error (error, log) := by
  rw [World.examine]
  cases refuses with
  | directory file =>
      simp only [World.load, file]
      exact ⟨_, rfl⟩
  | unopened file other =>
      simp only [World.load, file]
      exact ⟨_, rfl⟩
  | undecoded file undecoded =>
      simp only [World.load, file, Document.read_of_undecoded undecoded]
      exact ⟨_, rfl⟩
  | invalid file decoded refused =>
      simp only [World.load, file, Document.read_of_decoded decoded, refused]
      exact ⟨_, rfl⟩
  | @strategy doc name holds asks unnamed =>
      have unknown : doc.strategy settings.freshen world.fallback = .error ⟨name⟩ :=
        Document.strategy_eq_error_iff.mpr ⟨asks, unnamed⟩
      rw [World.load_of_holds holds]
      simp only [Except.mapError, bind, Except.bind, unknown]
      exact ⟨_, rfl⟩

/-- A file yields one list of results. -/
theorem World.Yields.functional {results others : List (Result EvalError)}
    (running : world.canceled = false) (yields : world.Yields settings path results)
    (again : world.Yields settings path others) : results = others := by
  obtain ⟨log, examined⟩ := World.examine_of_yields running yields
  obtain ⟨log', reexamined⟩ := World.examine_of_yields running again
  cases examined.symm.trans reexamined
  rfl

/-- A file that yields results is not refused. -/
theorem World.Yields.not_refuses {results : List (Result EvalError)} {error : LoadError δ}
    (running : world.canceled = false) (yields : world.Yields settings path results) :
    ¬ world.Refuses settings path error := by
  intro refuses
  obtain ⟨log, examined⟩ := World.examine_of_yields running yields
  obtain ⟨log', refused⟩ := World.examine_of_refuses refuses
  cases examined.symm.trans refused

end OneFile

/-! ## Files one after the other -/

/-- The report on the results of a file. -/
def World.reportOf (world : World δ) (settings : Settings) (path : String)
    (results : List (Result EvalError)) : String :=
  String.join ((world.layout settings).chunks EvalError.message (baseName path) results)

/-- The reports on files, in order. -/
def World.reports (world : World δ) (settings : Settings) (paths : List String)
    (all : List (List (Result EvalError))) : String :=
  String.join (List.zipWith (world.reportOf settings) paths all)

/-- **The first refused file**, if not every file yields results. -/
theorem World.first_refused (world : World δ) (settings : Settings) (paths : List String) :
    (∃ all, List.Forall₂ (world.Yields settings) paths all) ∨
      ∃ before path after all error, paths = before ++ path :: after ∧
        List.Forall₂ (world.Yields settings) before all ∧ world.Refuses settings path error := by
  induction paths with
  | nil => exact .inl ⟨[], .nil⟩
  | cons first rest ih =>
      rcases world.yields_or_refuses settings first with ⟨results, yields⟩ | ⟨error, refuses⟩
      · rcases ih with ⟨all, restYield⟩ | ⟨before, path, after, all, error, rfl, restYield, refuses⟩
        · exact .inl ⟨results :: all, .cons yields restYield⟩
        · exact .inr ⟨first :: before, path, after, results :: all, error, rfl,
            .cons yields restYield, refuses⟩
      · exact .inr ⟨[], first, rest, [], error, rfl, .nil, refuses⟩

section Run

variable {world : World δ} {settings : Settings}

/-- One file that yields results: its report is written and its failures are counted. -/
theorem World.checkFrom_of_yields (running : world.canceled = false) {path : String}
    {results : List (Result EvalError)} (yields : world.Yields settings path results)
    (written log : String) (failed : Nat) (rest : List String) :
    ∃ more, world.checkFrom settings ⟨written, none⟩ log failed (path :: rest) =
      world.checkFrom settings ⟨written ++ world.reportOf settings path results, none⟩ more
        (failed + failures results) rest := by
  obtain ⟨more, examined⟩ := World.examine_of_yields running yields
  refine ⟨log ++ more, ?_⟩
  rw [World.checkFrom, examined]
  simp only [Layout.report_unlimited, if_true]
  rfl

/-- One file that is refused: the run ends there. -/
theorem World.checkFrom_of_refuses {path : String} {error : LoadError δ}
    (refuses : world.Refuses settings path error) (sink : Sink) (log : String) (failed : Nat)
    (rest : List String) :
    ∃ more, world.checkFrom settings sink log failed (path :: rest) =
      { output := sink.written, log := more, error := some (.load path error) } := by
  obtain ⟨more, refused⟩ := World.examine_of_refuses refuses
  refine ⟨log ++ more, ?_⟩
  rw [World.checkFrom, refused]

/-- **All files that yield results**, before any others: the reports are written in order, and the
failures are added up. -/
theorem World.checkFrom_append (running : world.canceled = false) {before : List String}
    {all : List (List (Result EvalError))}
    (yields : List.Forall₂ (world.Yields settings) before all) :
    ∀ (written log : String) (failed : Nat) (rest : List String),
    ∃ more, world.checkFrom settings ⟨written, none⟩ log failed (before ++ rest) =
      world.checkFrom settings ⟨written ++ world.reports settings before all, none⟩ more
        (failed + failures all.flatten) rest := by
  -- Each file adds to what is written and counted, so both stay open in the induction.
  induction yields with
  | nil =>
      intro written log failed rest
      refine ⟨log, ?_⟩
      simp [World.reports, failures]
  | @cons path results before all first _ ih =>
      intro written log failed rest
      obtain ⟨between, one⟩ :=
        World.checkFrom_of_yields running first written log failed (before ++ rest)
      obtain ⟨more, others⟩ := ih (written ++ world.reportOf settings path results) between
        (failed + failures results) rest
      refine ⟨more, ?_⟩
      rw [List.cons_append, one, others, World.reports, World.reports, List.zipWith_cons_cons,
        String.join_cons, String.append_assoc, List.flatten_cons, failures_append, Nat.add_assoc]

/-- Whether all files pass, when all of them yield results. -/
theorem World.all_pass_iff (running : world.canceled = false) {paths : List String}
    {all : List (List (Result EvalError))}
    (yields : List.Forall₂ (world.Yields settings) paths all) :
    failures all.flatten = 0 ↔ ∀ path ∈ paths, ∃ results, world.Yields settings path results ∧
      ∀ result ∈ results, result.passed = true := by
  induction yields with
  | nil => simp [failures]
  | @cons path results paths all first _ ih =>
      have here : (∀ result ∈ results, result.passed = true) ↔
          ∃ results, world.Yields settings path results ∧
            ∀ result ∈ results, result.passed = true := by
        refine ⟨fun pass => ⟨results, first, pass⟩, ?_⟩
        rintro ⟨others, again, pass⟩
        rwa [first.functional running again]
      rw [List.flatten_cons, failures_append, Nat.add_eq_zero_iff, failures_eq_zero_iff, here, ih,
        List.forall_mem_cons]

end Run

/-! ## The command -/

section Check

variable {world : World δ} {settings : Settings}

/-- Whether a log is kept makes no difference to the output and the error. -/
theorem World.check_eq (accepting : world.room = none) (settings : Settings)
    (paths : List String) :
    (world.check settings paths).output =
        (world.checkFrom settings ⟨"", none⟩ "" 0 paths).output ∧
      (world.check settings paths).error =
        (world.checkFrom settings ⟨"", none⟩ "" 0 paths).error := by
  rw [World.check, accepting]
  cases settings.debug with
  | false => exact ⟨rfl, rfl⟩
  | true => exact ⟨rfl, rfl⟩

/-- The command on files that all yield results. -/
theorem World.check_of_yields (running : world.canceled = false) (accepting : world.room = none)
    {paths : List String} {all : List (List (Result EvalError))}
    (yields : List.Forall₂ (world.Yields settings) paths all) :
    (world.check settings paths).output = world.reports settings paths all ∧
      (world.check settings paths).error =
        if failures all.flatten = 0 then none else some (.checksFailed (failures all.flatten)) := by
  obtain ⟨output, error⟩ := World.check_eq accepting settings paths
  obtain ⟨log, run⟩ := World.checkFrom_append running yields "" "" 0 []
  rw [List.append_nil, World.checkFrom, String.empty_append, Nat.zero_add] at run
  rw [output, error, run]
  exact ⟨rfl, rfl⟩

/-- The command on files of which one is refused, and those before it are not. -/
theorem World.check_of_refuses (running : world.canceled = false) (accepting : world.room = none)
    {before after : List String} {path : String} {all : List (List (Result EvalError))}
    {error : LoadError δ} (yields : List.Forall₂ (world.Yields settings) before all)
    (refuses : world.Refuses settings path error) :
    (world.check settings (before ++ path :: after)).output = world.reports settings before all ∧
      (world.check settings (before ++ path :: after)).error = some (.load path error) := by
  obtain ⟨outputIs, errorIs⟩ := World.check_eq accepting settings (before ++ path :: after)
  obtain ⟨log, run⟩ := World.checkFrom_append running yields "" "" 0 (path :: after)
  obtain ⟨more, stop⟩ := World.checkFrom_of_refuses refuses
    ⟨world.reports settings before all, none⟩ log (failures all.flatten) after
  rw [String.empty_append, Nat.zero_add, stop] at run
  rw [outputIs, errorIs, run]
  exact ⟨rfl, rfl⟩

end Check

/-- **The command loses no failure.**  For any files, decoder of documents, settings and strategy to
fall back on, if the run is not called off and the output accepts every write, there is no error
exactly when every file yields results and all of them pass.

When every file yields results, the output consists of the reports in the order of the paths, and
if there are results that did not pass, the error gives their number over all files.  When there
is a first file that is refused, the error is the one it is refused with, and the output consists
of the reports on the files before it.  One of the two is the case. -/
theorem World.check_loses_no_failure (world : World δ) (settings : Settings) (paths : List String)
    (running : world.canceled = false) (accepting : world.room = none) :
    let transcript := world.check settings paths
    (transcript.error = none ↔ ∀ path ∈ paths, ∃ results, world.Yields settings path results ∧
      ∀ result ∈ results, result.passed = true) ∧
    (∀ all, List.Forall₂ (world.Yields settings) paths all →
      transcript.output = world.reports settings paths all ∧
      (failures all.flatten ≠ 0 →
        transcript.error = some (.checksFailed (failures all.flatten)) ∧
        transcript.error.map (ProgramError.message world.explain) =
          some (toString (failures all.flatten) ++ " checks failed"))) ∧
    (∀ before path after all error, paths = before ++ path :: after →
      List.Forall₂ (world.Yields settings) before all → world.Refuses settings path error →
      transcript.output = world.reports settings before all ∧
      transcript.error = some (.load path error)) ∧
    ((∃ all, List.Forall₂ (world.Yields settings) paths all) ∨
      ∃ before path after all error, paths = before ++ path :: after ∧
        List.Forall₂ (world.Yields settings) before all ∧ world.Refuses settings path error) := by
  intro transcript
  refine ⟨?_, ?_, ?_, world.first_refused settings paths⟩
  · rcases world.first_refused settings paths with ⟨all, yields⟩ |
      ⟨before, path, after, all, error, rfl, yields, refuses⟩
    · have verdict : transcript.error = _ := (World.check_of_yields running accepting yields).2
      rw [← World.all_pass_iff running yields, verdict]
      split
      · next passing => simp [passing]
      · next failing => simp [failing]
    · have verdict : transcript.error = some (.load path error) :=
        (World.check_of_refuses running accepting yields refuses).2
      rw [verdict]
      refine ⟨nofun, fun pass => ?_⟩
      obtain ⟨results, here, _⟩ := pass path (by simp)
      exact absurd refuses (here.not_refuses running)
  · intro all yields
    obtain ⟨output, verdict⟩ := World.check_of_yields running accepting yields
    refine ⟨output, fun failing => ?_⟩
    rw [if_neg failing] at verdict
    exact ⟨verdict, congrArg (Option.map (ProgramError.message world.explain)) verdict⟩
  · rintro before path after all error rfl yields refuses
    exact World.check_of_refuses running accepting yields refuses

/-- A document with two checks, the first of which fails because it does not expect the free
variable. -/
def unexpectedVariable : String :=
  "[terms.x]\nvar='x'\n[[check]]\nname='free'\nkind='freevars'\nleft='x'\n" ++
    "[[check]]\nname='print'\nkind='print'\nleft='x'\nwant='x'\n"

/-- The document in a file, and a file with a key that has no value. -/
def twoFiles : World DecodeError where
  files path :=
    if path = "one.toml" then .ok unexpectedVariable
    else if path = "torn.toml" then .ok "freshen="
    else .error .notFound
  decode := Document.ofToml
  explain := DecodeError.message

/-- The first file fails one check each time it is given, unless the other one comes before, and
then the error is that of the decoder. -/
theorem World.check_loses_no_failure_twoFiles :
    let settings : Settings := { freshen := "primes" }
    ∃ results, twoFiles.Yields settings "one.toml" results ∧
      (twoFiles.check settings ["one.toml", "one.toml"]).error = some (.checksFailed 2) ∧
      (twoFiles.check settings ["one.toml", "torn.toml", "one.toml"]).error =
        some (.load "torn.toml" (.document (.undecoded .syntactic))) ∧
      (twoFiles.check settings ["one.toml", "torn.toml", "one.toml"]).output =
        twoFiles.reports settings ["one.toml"] [results] := by
  intro settings
  have decoding : (Document.ofToml unexpectedVariable).toOption.map (fun doc =>
      (doc.validate.toBool,
        failures (doc.checks.map fun check => (doc.runCheck .primes check).1))) =
      some (true, 1) := by
    decide +kernel
  obtain ⟨doc, found, summary⟩ := Option.map_eq_some_iff.mp decoding
  have decoded : Document.ofToml unexpectedVariable = .ok doc := by
    cases outcome : Document.ofToml unexpectedVariable with
    | error error => simp [outcome, Except.toOption] at found
    | ok other => simpa [outcome, Except.toOption] using found
  obtain ⟨valid, failing⟩ := Prod.mk.inj summary
  have validated : doc.validate = .ok () := by
    cases outcome : doc.validate with
    | error invalid => simp [outcome, Except.toBool] at valid
    | ok => rfl
  have toml : twoFiles.decode = Document.ofToml := rfl
  have holds : twoFiles.Holds "one.toml" doc :=
    ⟨unexpectedVariable, rfl, by rw [toml, decoded], validated⟩
  have yields : twoFiles.Yields settings "one.toml" _ :=
    ⟨doc, "primes", .primes, holds, .caller (by decide), .primes, rfl⟩
  have unparsed : Toml.parse? "freshen=" = none := Option.isNone_iff_eq_none.mp (by decide +kernel)
  have torn : twoFiles.Refuses settings "torn.toml" (.document (.undecoded .syntactic)) :=
    .undecoded rfl (by rw [toml, Document.ofToml, unparsed]; rfl)
  have twice := ((World.check_loses_no_failure twoFiles settings _ rfl rfl).2.1 _
    (.cons yields (.cons yields .nil))).2
  obtain ⟨output, error⟩ := (World.check_loses_no_failure twoFiles settings _ rfl rfl).2.2.1
    ["one.toml"] "torn.toml" ["one.toml"] _ _ rfl (.cons yields .nil) torn
  simp only [List.flatten_cons, List.flatten_nil, List.append_nil, failures_append, failing]
    at twice
  exact ⟨_, yields, (twice (by decide)).1, error, output⟩

end BindingTrees.Console
