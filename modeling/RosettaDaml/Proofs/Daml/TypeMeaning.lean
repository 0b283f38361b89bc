/-
This file shows that the text of a type is read back in one way, as what the type means.
-/

import RosettaDaml.Proofs.Daml.TypeSyntax
import RosettaDaml.Proofs.Daml.TypeText

namespace RosettaDaml

/-- What a type stands for, however it is put in parentheses. -/
inductive TypeMeaning where
  | named (name : String)
  | repeated (item : TypeMeaning)
  | optional (item : TypeMeaning)
  | tuple (items : List TypeMeaning)

/-- Parentheses around one type stand for that type. -/
def TypeMeaning.ofGroup : List TypeMeaning → TypeMeaning
  | [item] => item
  | items => .tuple items

mutual

def TypeSyntax.meaning : TypeSyntax → TypeMeaning
  | .optional argument => .optional argument.meaning
  | .atom given => given.meaning

def AtomSyntax.meaning : AtomSyntax → TypeMeaning
  | .name given => .named given
  | .list item => .repeated item.meaning
  | .group items => .ofGroup (TypeSyntax.meanings items)

def TypeSyntax.meanings : List TypeSyntax → List TypeMeaning
  | [] => []
  | item :: rest => item.meaning :: TypeSyntax.meanings rest

end

/-- What a type stands for that occurs this often. -/
def Multiplicity.meaning : Multiplicity → TypeMeaning → TypeMeaning
  | ⟨_, .toMany⟩, item => .repeated item
  | ⟨.zero, .toOne⟩, item => .optional item
  | ⟨.one, .toOne⟩, item => item

namespace TypeExpr

mutual

/-- What a type stands for that occurs exactly once. Enumerations and sums stand for nothing. -/
def meaning? : TypeExpr → Option TypeMeaning
  | .primitive kind => some (.named kind.daml)
  | .nominal name => some (.named name)
  | .product members => (memberMeanings? members).map .ofGroup
  | _ => none

def memberMeanings? : List (Member TypeExpr) → Option (List TypeMeaning)
  | [] => some []
  | ⟨_, type, multiplicity, _, _⟩ :: rest => do
      let first ← meaning? type
      let others ← memberMeanings? rest
      return multiplicity.meaning first :: others

end

end TypeExpr

namespace Multiplicity

/-- The type that is written for an atom that occurs this often. -/
def shapeAtom (multiplicity : Multiplicity) (position : TypePosition) (atom : AtomSyntax) :
    TypeSyntax :=
  match multiplicity, position with
  | ⟨_, .toMany⟩, _ => .atom (.list (.atom atom))
  | ⟨.zero, .toOne⟩, .alone => .optional atom
  | ⟨.zero, .toOne⟩, .argument => .atom (.group [.optional (.group [.atom atom])])
  | ⟨.one, .toOne⟩, _ => .atom atom

/-- An atom in a shape is written as its text in the shape. -/
theorem text_shapeAtom (multiplicity : Multiplicity) (position : TypePosition)
    (atom : AtomSyntax) :
    (multiplicity.shapeAtom position atom).text = multiplicity.shape position atom.text := by
  rcases multiplicity with ⟨_ | _, _ | _⟩ <;> cases position <;> rfl

/-- A shape adds no names. -/
theorem isNamed_shapeAtom (multiplicity : Multiplicity) (position : TypePosition)
    (atom : AtomSyntax) : (multiplicity.shapeAtom position atom).isNamed = atom.isNamed := by
  rcases multiplicity with ⟨_ | _, _ | _⟩ <;> cases position <;>
    simp [shapeAtom, TypeSyntax.isNamed, AtomSyntax.isNamed, TypeSyntax.areNamed]

/-- A shape means what its multiplicity means. -/
theorem meaning_shapeAtom (multiplicity : Multiplicity) (position : TypePosition)
    (atom : AtomSyntax) :
    (multiplicity.shapeAtom position atom).meaning = multiplicity.meaning atom.meaning := by
  rcases multiplicity with ⟨_ | _, _ | _⟩ <;> cases position <;> rfl

/-- So a shaped text is read as the shaped atom. -/
theorem parses_shapeAtom {atom : AtomSyntax} (named : atom.isNamed = true)
    (multiplicity : Multiplicity) (position : TypePosition) :
    (multiplicity.shapeAtom position atom).Parses (multiplicity.shape position atom.text) := by
  constructor
  · rw [isNamed_shapeAtom, named]
  · exact multiplicity.text_shapeAtom position atom

/-- An argument is an atom in every shape. -/
theorem exists_shapeAtom_argument (multiplicity : Multiplicity) (atom : AtomSyntax) :
    ∃ argument, multiplicity.shapeAtom .argument atom = .atom argument := by
  rcases multiplicity with ⟨_ | _, _ | _⟩ <;> exact ⟨_, rfl⟩

end Multiplicity

/-- The names of the primitive types are names of types. -/
theorem Primitive.isTypeName_daml (kind : Primitive) : Text.isTypeName kind.daml = true := by
  cases kind <;> decide

namespace TypeExpr

mutual

/-- The text of a type is an atom. -/
theorem exists_atom {type : TypeExpr} (renderable : type.isRenderable = true)
    (named : ∀ name ∈ type.nominalNames, Text.isTypeName name = true) :
    ∃ atom : AtomSyntax, atom.isNamed = true ∧ type.text = .ok atom.text ∧
      type.meaning? = some atom.meaning := by
  cases type with
  | primitive kind => exact ⟨.name kind.daml, kind.isTypeName_daml, rfl, rfl⟩
  | nominal name => exact ⟨.name name, named name List.mem_cons_self, rfl, rfl⟩
  | product members =>
      rw [isRenderable] at renderable
      rw [nominalNames] at named
      obtain ⟨items, known, written, meant⟩ := exists_items renderable named
      refine ⟨.group items, known, ?_, ?_⟩
      · exact text_product_eq_ok_iff.2 ⟨_, written, rfl⟩
      · simp [meaning?, meant, AtomSyntax.meaning]
  | enumeration _ => simp [isRenderable] at renderable
  | sum _ => simp [isRenderable] at renderable
  | unknown _ => simp [isRenderable] at renderable

/-- Members are written as the items of a group with the same meanings. -/
theorem exists_items {members : List (Member TypeExpr)}
    (renderable : membersAreRenderable members = true)
    (named : ∀ name ∈ membersNominalNames members, Text.isTypeName name = true) :
    ∃ items, TypeSyntax.areNamed items = true ∧
      memberTexts members = .ok (TypeSyntax.texts items) ∧
      memberMeanings? members = some (TypeSyntax.meanings items) := by
  cases members with
  | nil => exact ⟨[], rfl, rfl, rfl⟩
  | cons member rest =>
      rw [membersAreRenderable, Bool.and_eq_true] at renderable
      rw [membersNominalNames, List.forall_mem_append] at named
      obtain ⟨atom, known, written, meant⟩ := exists_atom renderable.1 named.1
      obtain ⟨items, knownToo, writtenToo, meantToo⟩ := exists_items renderable.2 named.2
      refine ⟨member.multiplicity.shapeAtom .alone atom :: items, ?_, ?_, ?_⟩
      · rw [TypeSyntax.areNamed, Multiplicity.isNamed_shapeAtom, known, knownToo]
        rfl
      · apply memberTexts_cons_eq_ok_iff.2
        exact ⟨_, _, written, writtenToo, by rw [TypeSyntax.texts, Multiplicity.text_shapeAtom]⟩
      · rw [TypeSyntax.meanings, Multiplicity.meaning_shapeAtom, memberMeanings?, meant, meantToo]
        rfl

end

/-- The text of a type is read as one type. It is what the type means, as often as it occurs; and as
the argument of a constructor, it is read as one argument. -/
theorem shapedText_parses {type : TypeExpr} (renderable : type.isRenderable = true)
    (named : ∀ name ∈ type.nominalNames, Text.isTypeName name = true)
    (multiplicity : Multiplicity) (position : TypePosition) :
    ∃ text tree own, type.shapedText multiplicity position = .ok text ∧
      (∀ other : TypeSyntax, other.Parses text ↔ other = tree) ∧
      type.meaning? = some own ∧ tree.meaning = multiplicity.meaning own ∧
      (position = .argument → ∃ argument, tree = .atom argument ∧
        ∀ others, AtomSyntax.ParseInRow others text ↔ others = [argument]) := by
  obtain ⟨atom, known, written, meant⟩ := exists_atom renderable named
  have parses := Multiplicity.parses_shapeAtom known multiplicity position
  refine ⟨multiplicity.shape position atom.text, multiplicity.shapeAtom position atom,
    atom.meaning, ?_, ?_, meant, multiplicity.meaning_shapeAtom position atom, ?_⟩
  · rw [shapedText, written]
    rfl
  · intro other
    constructor
    · intro parsesToo
      exact parsesToo.unique parses
    · rintro rfl
      exact parses
  · rintro rfl
    obtain ⟨argument, single⟩ := multiplicity.exists_shapeAtom_argument atom
    rw [single] at parses
    exact ⟨argument, single, fun others => parses.parseInRow_iff⟩

/-- Any number of texts next to an optional pair of one party. -/
def pairedParty : TypeExpr :=
  .product [⟨"notes", .primitive .text, ⟨.zero, .toMany⟩, none, none⟩,
    ⟨"agent", .product [⟨"party", .nominal "Party_2", ⟨.zero, .toOne⟩, none, none⟩],
      ⟨.zero, .toOne⟩, none, none⟩]

theorem shapedText_pairedParty :
    pairedParty.isRenderable = true ∧
      (∀ name ∈ pairedParty.nominalNames, Text.isTypeName name = true) ∧
      pairedParty.shapedText ⟨.zero, .toOne⟩ .argument =
        .ok "(Optional (([Text], Optional (Optional Party_2))))" ∧
      ∃ text tree own, pairedParty.shapedText ⟨.zero, .toOne⟩ .argument = .ok text ∧
        (∀ other : TypeSyntax, other.Parses text ↔ other = tree) ∧
        pairedParty.meaning? = some own ∧
        tree.meaning = Multiplicity.meaning ⟨.zero, .toOne⟩ own ∧
        (TypePosition.argument = .argument → ∃ argument, tree = .atom argument ∧
          ∀ others, AtomSyntax.ParseInRow others text ↔ others = [argument]) :=
  ⟨by decide, by decide, rfl,
    shapedText_parses (by decide) (by decide) ⟨.zero, .toOne⟩ .argument⟩

end TypeExpr

end RosettaDaml
