import BindingTrees.Scenario.Document
import BindingTrees.Text.Quoted

/-!
# Validation of documents

The checks of a document are examined in order, each for its name, its kind, the
operation of an error check, and the terms it names: the left one, the
replacements, and the right one where terms are compared.  The first problem of
the first faulty check is reported.

How a document is written down is left to a decoder, which a reader of documents is
given.  Its errors are kept as they are.
-/

set_option autoImplicit false

namespace BindingTrees.Scenario

/-- What makes a document unfit to run. -/
inductive Invalid where
  | missingName (position : Nat)
  | unknownKind (check : String) (kind : Kind)
  | unknownOp (check : String) (op : Kind)
  | unknownTerm (check : String) (term : String)
deriving DecidableEq

def Invalid.message : Invalid → String
  | .missingName position => "check " ++ toString position ++ ": missing name"
  | .unknownKind check kind => place check ++ "unknown kind " ++ Text.quote kind.word
  | .unknownOp check op => place check ++ "unknown op " ++ Text.quote op.word
  | .unknownTerm check term => place check ++ "unknown term " ++ Text.quote term
where
  place (check : String) : String := "check " ++ Text.quote check ++ ": "

/-- Whether a name is that of a term of the document. -/
def Document.hasTerm (doc : Document) (name : String) : Bool :=
  (doc.terms.lookup name).isSome

/-- The terms that a check names, unless its kind or operation is unknown. -/
def Check.termNames (check : Check) : Except Invalid (List String) :=
  let names := check.left :: check.replacements.getD []
  match check.kind with
  | .print | .freeVars | .subst => .ok names
  | .equal | .unequal => .ok (names ++ [check.right])
  | .error =>
      match check.op with
      | .print | .subst | .oper => .ok names
      | .equal => .ok (names ++ [check.right])
      | op => .error (.unknownOp check.name op)
  | kind => .error (.unknownKind check.name kind)

/-- Examines the check at a position. -/
def Document.validateCheck (doc : Document) (position : Nat) (check : Check) :
    Except Invalid Unit := do
  if check.name.isEmpty then throw (.missingName position)
  let names ← check.termNames
  match names.find? (!doc.hasTerm ·) with
  | some name => throw (.unknownTerm check.name name)
  | none => return ()

/-- Examines checks from a position on. -/
def Document.validateFrom (doc : Document) (position : Nat) : List Check → Except Invalid Unit
  | [] => return ()
  | check :: rest => do
      doc.validateCheck position check
      doc.validateFrom (position + 1) rest

/-- Examines all checks of a document. -/
def Document.validate (doc : Document) : Except Invalid Unit :=
  doc.validateFrom 0 doc.checks

/-! ## Reading a document -/

/-- Why a text is no document that can be run, where `δ` is the type of the errors of the
decoder. -/
inductive ReadError (δ : Type) where
  | undecoded (error : δ)
  | invalid (error : Invalid)
deriving DecidableEq

/-- The message of an error, given the messages of the decoder. -/
def ReadError.message {δ : Type} (explain : δ → String) : ReadError δ → String
  | .undecoded error => explain error
  | .invalid error => error.message

/-- The document that a decoder finds in a text, if there is one and it is valid. -/
def Document.read {δ : Type} (decode : String → Except δ Document) (text : String) :
    Except (ReadError δ) Document := do
  let doc ← (decode text).mapError .undecoded
  doc.validate.mapError .invalid
  return doc

section Read

variable {δ : Type} {decode : String → Except δ Document} {text : String}

theorem Document.read_of_undecoded {error : δ} (undecoded : decode text = .error error) :
    Document.read decode text = .error (.undecoded error) := by
  rw [Document.read, undecoded]
  rfl

theorem Document.read_of_decoded {doc : Document} (decoded : decode text = .ok doc) :
    Document.read decode text = doc.validate.mapError .invalid >>= fun _ => pure doc := by
  rw [Document.read, decoded]
  rfl

end Read

end BindingTrees.Scenario
