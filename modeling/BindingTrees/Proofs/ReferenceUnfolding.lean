import BindingTrees.Scenario.Derivation
import BindingTrees.Proofs.NodeFormation
import Mathlib.Logic.Relation

/-!
# The term of a name is its finite unfolding

A document gives a name a term exactly when the rules of `Document.Unfolds` derive one, and
then it is that term.

One direction follows the run: whatever `Document.unfold` returns has a derivation
(`Document.unfolds_of_unfold`).  For the other, a derivation rules out every defect that the
name leads to: each name on the way has a sketch, no part of the sketch is at fault, and the
chains of references from a name with a derivation are finite (`Document.Unfolds.ends`), so
none of them returns to where it was (`Document.Unfolds.sound`).  Where no defect is in reach,
the run returns a term (`Document.exists_unfold`): its test for a name already open fails only
on a name that leads back to itself, because every open name leads to the one being unfolded
(`Document.Trail`).  So it does not matter along which path a name was reached, and a name that
is referred to several times stands for one term throughout.
-/

set_option autoImplicit false

namespace BindingTrees.Scenario

/-! ## Parts of a sketch -/

/-- What holds of a sketch as soon as it holds of the bodies of its arguments holds of
every sketch. -/
@[elab_as_elim]
theorem Sketch.induction {motive : Sketch → Prop}
    (mk : ∀ var ref tag args, (∀ slot ∈ args.getD [], motive slot.body) →
      motive (.mk var ref tag args)) : ∀ sketch, motive sketch
  | .mk var ref tag none => mk var ref tag none (by simp)
  | .mk var ref tag (some slots) => mk var ref tag (some slots) (bodies slots)
where
  bodies : ∀ (slots : List (Slot Sketch)), ∀ slot ∈ slots, motive slot.body
    | [] => by simp
    | ⟨_, body⟩ :: rest =>
        List.forall_mem_cons.mpr ⟨Sketch.induction mk body, bodies rest⟩

/-- `inner.Part sketch`: the sketch `inner` is `sketch` or stands somewhere in its arguments. -/
inductive Sketch.Part (inner : Sketch) : Sketch → Prop
  | self : Sketch.Part inner inner
  | inside {var ref tag : String} {args : Option (List (Slot Sketch))} {slot : Slot Sketch} :
      slot ∈ args.getD [] → Sketch.Part inner slot.body → Sketch.Part inner (.mk var ref tag args)

/-- Some part of a sketch is a reference to a name. -/
def Sketch.Refers (sketch : Sketch) (target : String) : Prop :=
  target ≠ "" ∧ ∃ var tag args, (Sketch.mk var target tag args).Part sketch

/-- What can be wrong with a sketch, the bodies of its arguments apart. -/
inductive Sketch.Fault : Sketch → Prop
  | notOne {var ref tag : String} {args : Option (List (Slot Sketch))} :
      ([var, ref, tag].filter (· ≠ "")).length ≠ 1 → Sketch.Fault (.mk var ref tag args)
  | withArgs {var ref tag : String} {args : Option (List (Slot Sketch))} :
      var ≠ "" ∨ ref ≠ "" → args.getD [] ≠ [] → Sketch.Fault (.mk var ref tag args)
  | notAtomic {var ref tag name : String} {args : Option (List (Slot Sketch))}
      {slot : Slot Sketch} :
      slot ∈ args.getD [] → name ∈ slot.bind.getD [] → ¬ Atomic name →
      Sketch.Fault (.mk var ref tag args)

theorem Sketch.refers_mk {var ref tag target : String} {args : Option (List (Slot Sketch))} :
    (Sketch.mk var ref tag args).Refers target ↔
      (target ≠ "" ∧ target = ref) ∨ ∃ slot ∈ args.getD [], slot.body.Refers target := by
  constructor
  · rintro ⟨given, _, _, _, part⟩
    cases part with
    | self => exact .inl ⟨given, rfl⟩
    | inside member within => exact .inr ⟨_, member, given, _, _, _, within⟩
  · rintro (⟨given, rfl⟩ | ⟨slot, member, given, _, _, _, within⟩)
    · exact ⟨given, _, _, _, .self⟩
    · exact ⟨given, _, _, _, .inside member within⟩

/-- A sketch without fault is a variable, a reference or a tag, and nothing else besides. -/
theorem Sketch.shape_of_not_fault {var ref tag : String} {args : Option (List (Slot Sketch))}
    (faultless : ¬ (Sketch.mk var ref tag args).Fault) :
    (var ≠ "" ∧ ref = "" ∧ tag = "" ∧ args.getD [] = []) ∨
      (var = "" ∧ ref ≠ "" ∧ tag = "" ∧ args.getD [] = []) ∨
        (var = "" ∧ ref = "" ∧ tag ≠ "") := by
  have one : ([var, ref, tag].filter (· ≠ "")).length = 1 :=
    Classical.byContradiction fun several => faultless (.notOne several)
  have bare : var ≠ "" ∨ ref ≠ "" → args.getD [] = [] :=
    fun given => Classical.byContradiction fun filled => faultless (.withArgs given filled)
  by_cases noVar : var = "" <;> by_cases noRef : ref = "" <;> by_cases noTag : tag = "" <;>
    simp_all

/-! ## References between names -/

/-- The sketch of one name refers to another name. -/
def Document.RefersTo (doc : Document) (source target : String) : Prop :=
  ∃ sketch, doc.terms.lookup source = some sketch ∧ sketch.Refers target

/-- Why a name cannot have a term: it has no sketch, its sketch has a part at fault, or it
leads back to itself. -/
inductive Document.Defect (doc : Document) (name : String) : Prop
  | dangling : doc.terms.lookup name = none → doc.Defect name
  | faulty {sketch inner : Sketch} :
      doc.terms.lookup name = some sketch → inner.Part sketch → inner.Fault → doc.Defect name
  | cyclic : Relation.TransGen doc.RefersTo name name → doc.Defect name

/-- A name leads to no defect. -/
def Document.Sound (doc : Document) (name : String) : Prop :=
  ∀ target, Relation.ReflTransGen doc.RefersTo name target → ¬ doc.Defect target

theorem Document.RefersTo.refers {doc : Document} {source target : String} {sketch : Sketch}
    (refersTo : doc.RefersTo source target) (found : doc.terms.lookup source = some sketch) :
    sketch.Refers target := by
  obtain ⟨_, foundAgain, refers⟩ := refersTo
  cases found.symm.trans foundAgain
  exact refers

theorem Document.Sound.refersTo {doc : Document} {name target : String} (sound : doc.Sound name)
    (refers : doc.RefersTo name target) : doc.Sound target :=
  fun final reached => sound final (.head refers reached)

/-! ## Derivations -/

mutual
/-- **A name stands for one term at most.** -/
theorem Document.Unfolds.functional {doc : Document} : ∀ {name : String} {first second : Term},
    doc.Unfolds name first → doc.Unfolds name second → first = second
  | _, _, _, .name found inner, .name foundAgain other => by
      cases found.symm.trans foundAgain
      exact Sketch.Unfolds.functional inner other

theorem Sketch.Unfolds.functional {doc : Document} : ∀ {sketch : Sketch} {first second : Term},
    Sketch.Unfolds doc sketch first → Sketch.Unfolds doc sketch second → first = second
  | _, _, _, .var _ _, .var _ _ => rfl
  | _, _, _, .var given _, .ref _ _ _ => absurd rfl given
  | _, _, _, .var given _, .tag _ _ => absurd rfl given
  | _, _, _, .ref given _ _, .var _ _ => absurd rfl given
  | _, _, _, .ref _ _ inner, .ref _ _ other => Document.Unfolds.functional inner other
  | _, _, _, .ref given _ _, .tag _ _ => absurd rfl given
  | _, _, _, .tag given _, .var _ _ => absurd rfl given
  | _, _, _, .tag given _, .ref _ _ _ => absurd rfl given
  | _, _, _, .tag _ slots, .tag _ others => by rw [SlotsUnfold.functional slots others]

theorem SlotsUnfold.functional {doc : Document} : ∀ {slots : List (Slot Sketch)}
    {first second : Args}, SlotsUnfold doc slots first → SlotsUnfold doc slots second →
      first = second
  | _, _, _, .nil, .nil => rfl
  | _, _, _, .cons _ body rest, .cons _ otherBody otherRest => by
      rw [Sketch.Unfolds.functional body otherBody, SlotsUnfold.functional rest otherRest]
end

mutual
/-- What a name stands for is well-formed. -/
theorem Document.Unfolds.wellFormed {doc : Document} : ∀ {name : String} {term : Term},
    doc.Unfolds name term → term.WellFormed
  | _, _, .name _ inner => Sketch.Unfolds.wellFormed inner

theorem Sketch.Unfolds.wellFormed {doc : Document} : ∀ {sketch : Sketch} {term : Term},
    Sketch.Unfolds doc sketch term → term.WellFormed
  | _, _, .var _ _ => trivial
  | _, _, .ref _ _ inner => Document.Unfolds.wellFormed inner
  | _, _, .tag _ slots => SlotsUnfold.wellFormed slots

theorem SlotsUnfold.wellFormed {doc : Document} : ∀ {slots : List (Slot Sketch)} {parts : Args},
    SlotsUnfold doc slots parts → parts.WellFormed
  | _, _, .nil => trivial
  | _, _, .cons atomic body rest =>
      ⟨atomic, Sketch.Unfolds.wellFormed body, SlotsUnfold.wellFormed rest⟩
end

theorem Sketch.Unfolds.ne_hole {doc : Document} {sketch : Sketch} {term : Term}
    (unfolds : Sketch.Unfolds doc sketch term) : term ≠ .hole := by
  rintro rfl
  exact unfolds.wellFormed

theorem SlotsUnfold.slot {doc : Document} : ∀ {slots : List (Slot Sketch)} {parts : Args},
    SlotsUnfold doc slots parts → ∀ slot ∈ slots,
      (∀ name ∈ slot.bind.getD [], Atomic name) ∧ ∃ term, Sketch.Unfolds doc slot.body term
  | _, _, .nil => by simp
  | _, _, .cons atomic body rest =>
      List.forall_mem_cons.mpr ⟨⟨atomic, _, body⟩, SlotsUnfold.slot rest⟩

/-- Every part of a sketch that stands for a term stands for one. -/
theorem Sketch.Unfolds.part {doc : Document} {inner sketch : Sketch} (part : inner.Part sketch) :
    ∀ {term : Term}, Sketch.Unfolds doc sketch term → ∃ term, Sketch.Unfolds doc inner term := by
  induction part with
  | self => exact fun unfolds => ⟨_, unfolds⟩
  | inside member _ further =>
      intro term unfolds
      cases unfolds with
      | var _ bare => simp [bare] at member
      | ref _ bare _ => simp [bare] at member
      | tag _ slots =>
          obtain ⟨_, body, unfolds⟩ := slots.slot _ member
          exact further unfolds

theorem Sketch.Unfolds.not_fault {doc : Document} {sketch : Sketch} {term : Term}
    (unfolds : Sketch.Unfolds doc sketch term) : ¬ sketch.Fault := by
  intro fault
  cases unfolds with
  | var given bare =>
      cases fault with
      | notOne several => simp [given] at several
      | withArgs _ filled => exact filled bare
      | notAtomic member _ _ => simp [bare] at member
  | ref given bare _ =>
      cases fault with
      | notOne several => simp [given] at several
      | withArgs _ filled => exact filled bare
      | notAtomic member _ _ => simp [bare] at member
  | tag given slots =>
      cases fault with
      | notOne several => simp [given] at several
      | withArgs other _ => simp at other
      | notAtomic member bound refused => exact refused ((slots.slot _ member).1 _ bound)

theorem Sketch.Unfolds.refers {doc : Document} {sketch : Sketch} {term : Term} {target : String}
    (unfolds : Sketch.Unfolds doc sketch term) (refers : sketch.Refers target) :
    ∃ part, doc.Unfolds target part := by
  obtain ⟨given, _, _, _, part⟩ := refers
  obtain ⟨_, inner⟩ := Sketch.Unfolds.part part unfolds
  cases inner with
  | var _ _ => exact absurd rfl given
  | ref _ _ named => exact ⟨_, named⟩
  | tag _ _ => exact absurd rfl given

mutual
/-- **Every chain of references from a name that stands for a term ends.** -/
theorem Document.Unfolds.ends {doc : Document} : ∀ {name : String} {term : Term},
    doc.Unfolds name term → Acc (fun target source => doc.RefersTo source target) name
  | name, _, .name found inner =>
      Acc.intro name fun target refersTo =>
        Sketch.Unfolds.ends inner target (refersTo.refers found)

theorem Sketch.Unfolds.ends {doc : Document} : ∀ {sketch : Sketch} {term : Term},
    Sketch.Unfolds doc sketch term → ∀ target, sketch.Refers target →
      Acc (fun target source => doc.RefersTo source target) target
  | _, _, .var _ bare, target, refers => by
      simp [Sketch.refers_mk, bare] at refers
  | .mk _ ref _ _, _, .ref _ bare inner, target, refers => by
      have named : target ≠ "" ∧ target = ref := by
        simpa [Sketch.refers_mk, bare] using refers
      exact named.2 ▸ Document.Unfolds.ends inner
  | _, _, .tag _ slots, target, refers => by
      obtain ⟨given, absent⟩ | ⟨slot, member, refers⟩ := Sketch.refers_mk.mp refers
      · exact absurd absent given
      · exact SlotsUnfold.ends slots slot member target refers

theorem SlotsUnfold.ends {doc : Document} : ∀ {slots : List (Slot Sketch)} {parts : Args},
    SlotsUnfold doc slots parts → ∀ slot ∈ slots, ∀ target, slot.body.Refers target →
      Acc (fun target source => doc.RefersTo source target) target
  | _, _, .nil => by simp
  | _, _, .cons _ body rest =>
      List.forall_mem_cons.mpr ⟨Sketch.Unfolds.ends body, SlotsUnfold.ends rest⟩
end

/-- A name from which every chain of references ends does not lead back to itself. -/
theorem Document.not_cyclic_of_ends {doc : Document} {name : String}
    (ends : Acc (fun target source => doc.RefersTo source target) name) :
    ¬ Relation.TransGen doc.RefersTo name name := by
  induction ends with
  | intro name _ next =>
      intro cycle
      obtain ⟨target, refers, back⟩ := Relation.TransGen.head'_iff.mp cycle
      exact next target refers (.tail' back refers)

theorem Document.Unfolds.reached {doc : Document} {name target : String} {term : Term}
    (unfolds : doc.Unfolds name term) (reached : Relation.ReflTransGen doc.RefersTo name target) :
    ∃ part, doc.Unfolds target part := by
  induction reached with
  | refl => exact ⟨term, unfolds⟩
  | tail _ refersTo former =>
      obtain ⟨_, ⟨found, inner⟩⟩ := former
      exact inner.refers (refersTo.refers found)

/-- **A name that stands for a term leads to no defect.** -/
theorem Document.Unfolds.sound {doc : Document} {name : String} {term : Term}
    (unfolds : doc.Unfolds name term) : doc.Sound name := by
  intro target reached defect
  obtain ⟨_, named⟩ := unfolds.reached reached
  obtain ⟨found, inner⟩ := id named
  cases defect with
  | dangling missing => simp [missing] at found
  | faulty foundAgain part fault =>
      cases found.symm.trans foundAgain
      obtain ⟨_, unfolds⟩ := Sketch.Unfolds.part part inner
      exact unfolds.not_fault fault
  | cyclic cycle => exact Document.not_cyclic_of_ends named.ends cycle

/-! ## Unfolding a sketch -/

theorem mapError_eq_ok_iff {ε ε' α : Type} {step : Except ε α} {wrap : ε → ε'} {value : α} :
    step.mapError wrap = .ok value ↔ step = .ok value := by
  cases step with
  | error fault => exact iff_of_false nofun nofun
  | ok result =>
      constructor <;>
        · intro same
          cases same
          rfl

section Lookup

variable {doc : Document} {lookup : String → Except UnfoldError Term}

/-- When a sketch unfolds, and to what. -/
theorem Sketch.unfold_eq_ok_iff {var ref tag : String} {args : Option (List (Slot Sketch))}
    {term : Term} : (Sketch.mk var ref tag args).unfold lookup = .ok term ↔
      (var ≠ "" ∧ ref = "" ∧ tag = "" ∧ args.getD [] = [] ∧ .var var = term) ∨
        (var = "" ∧ ref ≠ "" ∧ tag = "" ∧ args.getD [] = [] ∧ lookup ref = .ok term) ∨
          (var = "" ∧ ref = "" ∧ tag ≠ "" ∧ ∃ arguments,
            unfoldSlots lookup (args.getD []) = .ok arguments ∧
              Term.form tag arguments = .ok term) := by
  have noSlots : unfoldSlots lookup [] = .ok [] := by rw [unfoldSlots]
  simp only [ne_eq, ← String.isEmpty_iff]
  rcases args with _ | _ | ⟨slot, rest⟩ <;> rw [Sketch.unfold] <;>
    cases var.isEmpty <;> cases ref.isEmpty <;> cases tag.isEmpty <;>
    simp [mapError_eq_ok_iff, bind_eq_ok_iff, noSlots]

theorem unfoldSlots_cons_eq_ok_iff {bound : Option (List String)} {body : Sketch}
    {rest : List (Slot Sketch)} {arguments : List Argument} :
    unfoldSlots lookup (⟨bound, body⟩ :: rest) = .ok arguments ↔
      ∃ term, body.unfold lookup = .ok term ∧ ∃ others, unfoldSlots lookup rest = .ok others ∧
        arguments = .scoped ⟨bound.getD [], term⟩ :: others := by
  rw [unfoldSlots, bind_eq_ok_iff]
  simp only [bind_pure_eq_ok_iff]

theorem unfoldSlots_sound : ∀ {slots : List (Slot Sketch)} {arguments : List Argument},
    (∀ slot ∈ slots, ∀ term, slot.body.unfold lookup = .ok term →
      Sketch.Unfolds doc slot.body term) →
    unfoldSlots lookup slots = .ok arguments →
    (∀ argument ∈ arguments, argument.binder.Formable) →
      SlotsUnfold doc slots (Args.ofList (arguments.map Argument.binder))
  | [], arguments, _, ok, _ => by
      cases ok
      exact .nil
  | ⟨bind, body⟩ :: rest, arguments, bodies, ok, formable => by
      obtain ⟨first, others⟩ := List.forall_mem_cons.mp bodies
      obtain ⟨term, bodyOk, arguments, restOk, rfl⟩ := unfoldSlots_cons_eq_ok_iff.mp ok
      obtain ⟨⟨_, atomic⟩, formable⟩ := List.forall_mem_cons.mp formable
      exact .cons atomic (first term bodyOk) (unfoldSlots_sound others restOk formable)

/-- Slots that bind atomic names and whose bodies unfold give arguments to form a node from. -/
theorem exists_unfoldSlots : ∀ {slots : List (Slot Sketch)},
    (∀ slot ∈ slots, (∀ name ∈ slot.bind.getD [], Atomic name) ∧
      ∃ term, slot.body.unfold lookup = .ok term ∧ term ≠ .hole) →
    ∃ arguments, unfoldSlots lookup slots = .ok arguments ∧
      ∀ argument ∈ arguments, argument.binder.Formable
  | [], _ => ⟨[], rfl, by simp⟩
  | ⟨bind, body⟩ :: rest, slots => by
      obtain ⟨⟨atomic, term, bodyOk, present⟩, others⟩ := List.forall_mem_cons.mp slots
      obtain ⟨arguments, restOk, formable⟩ := exists_unfoldSlots others
      refine ⟨_, unfoldSlots_cons_eq_ok_iff.mpr ⟨term, bodyOk, arguments, restOk, rfl⟩, ?_⟩
      exact List.forall_mem_cons.mpr ⟨⟨present, atomic⟩, formable⟩

/-- **A sketch unfolds to what it stands for**, if names are looked up as what they stand for. -/
theorem Sketch.unfolds_of_unfold
    (named : ∀ name term, lookup name = .ok term → doc.Unfolds name term) (sketch : Sketch) :
    ∀ term, sketch.unfold lookup = .ok term → Sketch.Unfolds doc sketch term := by
  induction sketch using Sketch.induction with
  | mk var ref tag args bodies =>
      intro term ok
      obtain ⟨given, rfl, rfl, bare, rfl⟩ | ⟨rfl, given, rfl, bare, found⟩ |
        ⟨rfl, rfl, given, arguments, slotsOk, formed⟩ := Sketch.unfold_eq_ok_iff.mp ok
      · exact .var given bare
      · exact .ref given bare (named ref term found)
      · obtain ⟨formable, rfl⟩ := Term.form_eq_ok_iff.mp formed
        exact .tag given (unfoldSlots_sound bodies slotsOk formable)

/-- **A sketch unfolds** if no part of it is at fault and each name it refers to has a term. -/
theorem Sketch.exists_unfold
    (named : ∀ name term, lookup name = .ok term → doc.Unfolds name term) (sketch : Sketch) :
    (∀ inner : Sketch, inner.Part sketch → ¬ inner.Fault) →
      (∀ target, sketch.Refers target → ∃ term, lookup target = .ok term) →
        ∃ term, sketch.unfold lookup = .ok term := by
  induction sketch using Sketch.induction with
  | mk var ref tag args bodies =>
      intro faultless found
      obtain ⟨given, rfl, rfl, bare⟩ | ⟨rfl, given, rfl, bare⟩ | ⟨rfl, rfl, given⟩ :=
        Sketch.shape_of_not_fault (faultless _ .self)
      · exact ⟨_, Sketch.unfold_eq_ok_iff.mpr (.inl ⟨given, rfl, rfl, bare, rfl⟩)⟩
      · obtain ⟨term, ok⟩ := found ref (Sketch.refers_mk.mpr (.inl ⟨given, rfl⟩))
        exact ⟨term, Sketch.unfold_eq_ok_iff.mpr (.inr (.inl ⟨rfl, given, rfl, bare, ok⟩))⟩
      · have slots : ∀ slot ∈ args.getD [], (∀ name ∈ slot.bind.getD [], Atomic name) ∧
            ∃ term, slot.body.unfold lookup = .ok term ∧ term ≠ .hole := by
          intro slot member
          obtain ⟨term, ok⟩ := bodies slot member
            (fun inner part => faultless inner (.inside member part))
            (fun target refers => found target (Sketch.refers_mk.mpr (.inr ⟨slot, member, refers⟩)))
          refine ⟨fun name bound => ?_, term, ok,
            (Sketch.unfolds_of_unfold named slot.body term ok).ne_hole⟩
          exact Classical.byContradiction fun refused =>
            faultless _ .self (.notAtomic member bound refused)
        obtain ⟨arguments, slotsOk, formable⟩ := exists_unfoldSlots slots
        obtain ⟨term, formed⟩ : ∃ term, Term.form tag arguments = .ok term :=
          ⟨_, Term.form_eq_ok_iff.mpr ⟨formable, rfl⟩⟩
        exact ⟨term, Sketch.unfold_eq_ok_iff.mpr
          (.inr (.inr ⟨rfl, rfl, given, arguments, slotsOk, formed⟩))⟩

end Lookup

/-! ## Unfolding a name -/

theorem Document.unfold_eq_ok_iff {doc : Document} {closed : List String} {name : String}
    {term : Term} : doc.unfold closed name = .ok term ↔
      ∃ sketch, doc.terms.lookup name = some sketch ∧ name ∈ closed ∧
        sketch.unfold (doc.unfold (afterOpening closed name)) = .ok term := by
  rw [Document.unfold]
  cases doc.terms.lookup name with
  | none => simp
  | some sketch =>
      by_cases member : name ∈ closed
      · simp [member, mapError_eq_ok_iff]
      · simp [member]

/-- **What unfolding returns has a derivation**, whichever names may still be opened. -/
theorem Document.unfolds_of_unfold {doc : Document} (closed : List String) :
    ∀ name term, doc.unfold closed name = .ok term → doc.Unfolds name term := by
  intro name term ok
  obtain ⟨sketch, found, member, unfolded⟩ := Document.unfold_eq_ok_iff.mp ok
  have shorter := length_afterOpening_lt member
  exact .name found
    (Sketch.unfolds_of_unfold (Document.unfolds_of_unfold (afterOpening closed name)) sketch term
      unfolded)
termination_by closed.length

/-- Every name of the document that may not be opened any more leads to the name at hand. -/
def Document.Trail (doc : Document) (closed : List String) (name : String) : Prop :=
  ∀ opened sketch, doc.terms.lookup opened = some sketch → opened ∉ closed →
    Relation.TransGen doc.RefersTo opened name

/-- At the start nothing is open. -/
theorem Document.Trail.start (doc : Document) (name : String) :
    doc.Trail (doc.terms.map (·.1)) name := by
  intro opened sketch found remains
  obtain ⟨_, _, split, _⟩ := List.lookup_eq_some_iff.mp found
  simp [split] at remains

/-- Opening a name and following one of its references keeps the trail. -/
theorem Document.Trail.step {doc : Document} {closed : List String} {name target : String}
    (trail : doc.Trail closed name) (refers : doc.RefersTo name target) :
    doc.Trail (afterOpening closed name) target := by
  intro opened sketch found remains
  by_cases same : opened = name
  · exact .single (same ▸ refers)
  · have before : opened ∉ closed := by simpa [afterOpening, same] using remains
    exact (trail opened sketch found before).tail refers

/-- **A name that leads to no defect is unfolded.** -/
theorem Document.exists_unfold {doc : Document} (closed : List String) (name : String)
    (trail : doc.Trail closed name) (sound : doc.Sound name) :
    ∃ term, doc.unfold closed name = .ok term := by
  have defectless := sound name .refl
  obtain ⟨sketch, found⟩ : ∃ sketch, doc.terms.lookup name = some sketch :=
    Option.ne_none_iff_exists'.mp fun missing => defectless (.dangling missing)
  -- A name that is open already would close a cycle, since the trail leads from it to itself.
  have member : name ∈ closed :=
    Classical.byContradiction fun opened => defectless (.cyclic (trail name sketch found opened))
  have shorter := length_afterOpening_lt member
  obtain ⟨term, unfolded⟩ := Sketch.exists_unfold
    (Document.unfolds_of_unfold (afterOpening closed name)) sketch
    (fun inner part fault => defectless (.faulty found part fault))
    (fun target refers =>
      have refersTo : doc.RefersTo name target := ⟨sketch, found, refers⟩
      Document.exists_unfold (afterOpening closed name) target (trail.step refersTo)
        (sound.refersTo refersTo))
  exact ⟨term, Document.unfold_eq_ok_iff.mpr ⟨sketch, found, member, unfolded⟩⟩
termination_by closed.length

/-! ## The term of a name -/

theorem Document.unfolds_of_term {doc : Document} {name : String} {term : Term}
    (ok : doc.term name = .ok term) : doc.Unfolds name term :=
  Document.unfolds_of_unfold _ name term ok

theorem Document.exists_term {doc : Document} {name : String} (sound : doc.Sound name) :
    ∃ term, doc.term name = .ok term :=
  Document.exists_unfold _ name (.start doc name) sound

theorem Document.term_of_unfolds {doc : Document} {name : String} {term : Term}
    (unfolds : doc.Unfolds name term) : doc.term name = .ok term := by
  obtain ⟨found, ok⟩ := Document.exists_term unfolds.sound
  rw [ok, (Document.unfolds_of_term ok).functional unfolds]

theorem Document.exists_term_iff_sound {doc : Document} {name : String} :
    (∃ term, doc.term name = .ok term) ↔ doc.Sound name :=
  ⟨fun ⟨_, ok⟩ => (Document.unfolds_of_term ok).sound, Document.exists_term⟩

/-- The term of a name is its sketch with each reference replaced by the term of the name it
refers to, wherever the reference stands. -/
theorem Document.unfold_term_of_term {doc : Document} {name : String} {sketch : Sketch}
    {term : Term} (found : doc.terms.lookup name = some sketch) (ok : doc.term name = .ok term) :
    sketch.unfold doc.term = .ok term := by
  have unfolds := Document.unfolds_of_term ok
  have defectless := unfolds.sound name .refl
  have named : ∀ name term, doc.term name = .ok term → doc.Unfolds name term :=
    fun _ _ => Document.unfolds_of_term
  obtain ⟨again, unfolded⟩ := Sketch.exists_unfold named sketch
    (fun inner part fault => defectless (.faulty found part fault))
    (fun target refers => Document.exists_term (unfolds.sound.refersTo ⟨sketch, found, refers⟩))
  -- Both are terms of the name by derivation, although only one of them came from its run.
  have same : again = term :=
    (Document.Unfolds.name found (Sketch.unfolds_of_unfold named sketch again unfolded)).functional
      unfolds
  rw [unfolded, same]

/-- **The term of a name is exactly its finite unfolding.**  A name has a term if and only if
that term is derivable; it has none if and only if it leads to a name without a sketch, to a
sketch with a part at fault, or to a name that leads back to itself; and every name that a name
with a term leads to has one term, which is what each reference to it is replaced by. -/
theorem Document.term_eq_ok_iff_unfolds (doc : Document) (name : String) :
    (∀ term, doc.term name = .ok term ↔ doc.Unfolds name term) ∧
      ((∃ error, doc.term name = .error error) ↔
        ∃ target, Relation.ReflTransGen doc.RefersTo name target ∧ doc.Defect target) ∧
      ∀ sketch term, doc.terms.lookup name = some sketch → doc.term name = .ok term →
        sketch.unfold doc.term = .ok term ∧
          ∀ target, Relation.ReflTransGen doc.RefersTo name target →
            ∃ part, doc.term target = .ok part := by
  refine ⟨fun term => ⟨Document.unfolds_of_term, Document.term_of_unfolds⟩, ?_, ?_⟩
  · have refused : (∃ error, doc.term name = .error error) ↔
        ¬ ∃ term, doc.term name = .ok term := by
      cases doc.term name with
      | error fault => simp
      | ok term => simp
    rw [refused, Document.exists_term_iff_sound, Document.Sound]
    simp only [Classical.not_forall, Classical.not_not, exists_prop]
  · intro sketch term found ok
    refine ⟨Document.unfold_term_of_term found ok, fun target reached => ?_⟩
    obtain ⟨part, unfolds⟩ := (Document.unfolds_of_term ok).reached reached
    exact ⟨part, Document.term_of_unfolds unfolds⟩

/-- A name reached along two paths, one of them under a binder, beside a name that leads back
to itself. -/
def sharedAndLooping : Document where
  terms :=
    [("top", .mk "" "" "pair" (some [⟨none, .mk "" "left" "" none⟩,
        ⟨some ["x"], .mk "" "right" "" (some [])⟩])),
      ("left", .mk "" "base" "" none),
      ("right", .mk "" "" "wrap" (some [⟨none, .mk "" "base" "" none⟩])),
      ("base", .mk "x" "" "" none),
      ("loop", .mk "" "" "wrap" (some [⟨none, .mk "" "loop" "" none⟩]))]

theorem Document.term_eq_ok_iff_unfolds_shared :
    sharedAndLooping.term "top" = .ok (.node "pair" (.cons [] (.var "x")
      (.cons ["x"] (.node "wrap" (.cons [] (.var "x") .nil)) .nil))) ∧
      ∃ error, sharedAndLooping.term "loop" = .error error := by
  constructor
  · have base : sharedAndLooping.Unfolds "base" (.var "x") := .name rfl (.var (by decide) rfl)
    have left : sharedAndLooping.Unfolds "left" (.var "x") :=
      .name rfl (.ref (by decide) rfl base)
    have right : sharedAndLooping.Unfolds "right" (.node "wrap" (.cons [] (.var "x") .nil)) :=
      .name rfl (.tag (by decide) (.cons (by simp) (.ref (by decide) rfl base) .nil))
    exact ((Document.term_eq_ok_iff_unfolds sharedAndLooping "top").1 _).mpr (.name rfl
      (.tag (by decide) (.cons (by simp) (.ref (by decide) rfl left)
        (.cons (by decide) (.ref (by decide) rfl right) .nil))))
  · have loop : sharedAndLooping.RefersTo "loop" "loop" :=
      ⟨_, rfl, by decide, "", "", none, .inside (List.mem_singleton.mpr rfl) .self⟩
    exact (Document.term_eq_ok_iff_unfolds sharedAndLooping "loop").2.1.mpr
      ⟨"loop", .refl, .cyclic (.single loop)⟩

end BindingTrees.Scenario
