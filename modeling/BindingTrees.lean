import BindingTrees.Console.Flag
import BindingTrees.Console.Folder
import BindingTrees.Console.Invocation
import BindingTrees.Console.LogLine
import BindingTrees.Console.Program
import BindingTrees.Console.Record
import BindingTrees.Console.Suggestion
import BindingTrees.Engine.Alpha
import BindingTrees.Engine.Environment
import BindingTrees.Engine.Opening
import BindingTrees.Engine.Picking
import BindingTrees.Engine.Printing
import BindingTrees.Engine.Record
import BindingTrees.Engine.Subst
import BindingTrees.Freshening
import BindingTrees.Main
import BindingTrees.Names
import BindingTrees.Proofs.AlphaCongruence
import BindingTrees.Proofs.BindingHygiene
import BindingTrees.Proofs.BoundNames
import BindingTrees.Proofs.CheckVerdicts
import BindingTrees.Proofs.CheckedFiles
import BindingTrees.Proofs.Collisions
import BindingTrees.Proofs.Comparison
import BindingTrees.Proofs.ComparisonLaws
import BindingTrees.Proofs.ConstructionChecks
import BindingTrees.Proofs.EscapingVariables
import BindingTrees.Proofs.FreeVariableChecks
import BindingTrees.Proofs.FreeVariables
import BindingTrees.Proofs.FreshNames
import BindingTrees.Proofs.JustifiedFaults
import BindingTrees.Proofs.KeptShape
import BindingTrees.Proofs.LeastCandidates
import BindingTrees.Proofs.NameSets
import BindingTrees.Proofs.NamelessForm
import BindingTrees.Proofs.NodeFormation
import BindingTrees.Proofs.OpeningRoundTrip
import BindingTrees.Proofs.Picking
import BindingTrees.Proofs.Positions
import BindingTrees.Proofs.PrintedNames
import BindingTrees.Proofs.PrintedText
import BindingTrees.Proofs.RecordedRenamings
import BindingTrees.Proofs.ReferenceUnfolding
import BindingTrees.Proofs.Renaming
import BindingTrees.Proofs.ReportWrites
import BindingTrees.Proofs.ScopeSafety
import BindingTrees.Proofs.Substitution
import BindingTrees.Proofs.SubstitutionLaws
import BindingTrees.Proofs.ValidatedChecks
import BindingTrees.Proofs.WellFormedSessions
import BindingTrees.Scenario.Decode
import BindingTrees.Scenario.Derivation
import BindingTrees.Scenario.Document
import BindingTrees.Scenario.Dump
import BindingTrees.Scenario.Report
import BindingTrees.Scenario.Unfolding
import BindingTrees.Scenario.Validation
import BindingTrees.Scenario.Verdict
import BindingTrees.Term
import BindingTrees.Term.Formation
import BindingTrees.Term.FreeVars
import BindingTrees.Term.Nameless
import BindingTrees.Term.Rendering
import BindingTrees.Text.Blank
import BindingTrees.Text.Cluster
import BindingTrees.Text.Cluster.Classes
import BindingTrees.Text.Columns
import BindingTrees.Text.ControlSequence
import BindingTrees.Text.Infix
import BindingTrees.Text.LowerCase
import BindingTrees.Text.Printable
import BindingTrees.Text.Quoted
import BindingTrees.Text.Runs
import BindingTrees.Text.Styled
import BindingTrees.Toml.Assembly
import BindingTrees.Toml.Character
import BindingTrees.Toml.Literal
import BindingTrees.Toml.Quotation
import BindingTrees.Toml.Register
import BindingTrees.Toml.Statements
import BindingTrees.Toml.Value
