import BindingTrees.Scenario.Unfolding

/-!
# Derivations of unfoldings

`Document.Unfolds` says by rules what the term of a name is, without saying in which
order names are opened or when to give up.  A derivation is finite, so a name that
leads back to itself has none.
-/

set_option autoImplicit false

namespace BindingTrees.Scenario

mutual
/-- A name stands for a term. -/
inductive Document.Unfolds (doc : Document) : String → Term → Prop
  | name {name : String} {sketch : Sketch} {term : Term} :
      doc.terms.lookup name = some sketch → Sketch.Unfolds doc sketch term →
      Document.Unfolds doc name term

/-- A sketch stands for a term. -/
inductive Sketch.Unfolds (doc : Document) : Sketch → Term → Prop
  | var {name : String} {args : Option (List (Slot Sketch))} :
      name ≠ "" → args.getD [] = [] →
      Sketch.Unfolds doc (.mk name "" "" args) (.var name)
  | ref {name : String} {args : Option (List (Slot Sketch))} {term : Term} :
      name ≠ "" → args.getD [] = [] → Document.Unfolds doc name term →
      Sketch.Unfolds doc (.mk "" name "" args) term
  | tag {tag : String} {args : Option (List (Slot Sketch))} {parts : Args} :
      tag ≠ "" → SlotsUnfold doc (args.getD []) parts →
      Sketch.Unfolds doc (.mk "" "" tag args) (.node tag parts)

/-- The arguments of a sketch stand for the arguments of a node. -/
inductive SlotsUnfold (doc : Document) : List (Slot Sketch) → Args → Prop
  | nil : SlotsUnfold doc [] .nil
  | cons {bind : Option (List String)} {body : Sketch} {rest : List (Slot Sketch)}
      {term : Term} {parts : Args} :
      (∀ name ∈ bind.getD [], Atomic name) → Sketch.Unfolds doc body term →
      SlotsUnfold doc rest parts →
      SlotsUnfold doc (⟨bind, body⟩ :: rest) (.cons (bind.getD []) term parts)
end

end BindingTrees.Scenario
