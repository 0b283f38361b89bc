/-
This file says which types are written the same way.
-/

import RosettaDaml.Daml.TypeText

namespace RosettaDaml

/-- The names of the types that need no declaration. -/
def builtInTypeNames : List String := "Optional" :: Primitive.all.map Primitive.daml

/-- The names of the primitive types are built in. -/
theorem Primitive.daml_mem_builtInTypeNames (kind : Primitive) : kind.daml ∈ builtInTypeNames := by
  cases kind <;> decide

/-- No two primitive types have the same name. -/
theorem Primitive.daml_injective : Function.Injective Primitive.daml := by
  intro first second same
  cases first <;> cases second <;> first | rfl | exact absurd same (by decide)

namespace TypeExpr

mutual

/-- Whether a type has a text: neither an enumeration nor a sum stands in it. -/
def isRenderable : TypeExpr → Bool
  | .primitive _ => true
  | .nominal _ => true
  | .product members => membersAreRenderable members
  | _ => false

def membersAreRenderable : List (Member TypeExpr) → Bool
  | [] => true
  | ⟨_, type, _, _, _⟩ :: rest => isRenderable type && membersAreRenderable rest

end

/-- A product is written as its members in parentheses. -/
theorem text_product_eq_ok_iff {members : List (Member TypeExpr)} {written : String} :
    (product members).text = .ok written ↔
      ∃ texts, memberTexts members = .ok texts ∧
        "(" ++ ", ".intercalate texts ++ ")" = written := by
  rw [text]
  cases memberTexts members <;> simp [bind, Except.bind, pure, Except.pure]

/-- The first member is written in the shape of its multiplicity. -/
theorem memberTexts_cons_eq_ok_iff {member : Member TypeExpr} {rest : List (Member TypeExpr)}
    {texts : List String} :
    memberTexts (member :: rest) = .ok texts ↔
      ∃ first others, member.type.text = .ok first ∧ memberTexts rest = .ok others ∧
        member.multiplicity.shape .alone first :: others = texts := by
  rw [memberTexts]
  cases member.type.text <;> cases memberTexts rest <;>
    simp [bind, Except.bind, pure, Except.pure]

mutual

/-- A type that can be written is written, by induction on the type and its members at once. -/
theorem exists_text {type : TypeExpr} (renderable : type.isRenderable = true) :
    ∃ text, type.text = .ok text := by
  cases type with
  | primitive kind => exact ⟨kind.daml, rfl⟩
  | nominal name => exact ⟨name, rfl⟩
  | product members =>
      rw [isRenderable] at renderable
      obtain ⟨texts, given⟩ := exists_memberTexts renderable
      exact ⟨_, text_product_eq_ok_iff.2 ⟨texts, given, rfl⟩⟩
  | enumeration _ => simp [isRenderable] at renderable
  | sum _ => simp [isRenderable] at renderable
  | unknown _ => simp [isRenderable] at renderable

/-- The same for members. -/
theorem exists_memberTexts {members : List (Member TypeExpr)}
    (renderable : membersAreRenderable members = true) :
    ∃ texts, memberTexts members = .ok texts := by
  cases members with
  | nil => exact ⟨[], rfl⟩
  | cons member rest =>
      rw [membersAreRenderable, Bool.and_eq_true] at renderable
      obtain ⟨first, given⟩ := exists_text renderable.1
      obtain ⟨others, givenToo⟩ := exists_memberTexts renderable.2
      exact ⟨_, memberTexts_cons_eq_ok_iff.2 ⟨first, others, given, givenToo, rfl⟩⟩

end

/-- The text of a type that has one. -/
def written (type : TypeExpr) (multiplicity : Multiplicity) (position : TypePosition) : String :=
  match type.shapedText multiplicity position with
  | .ok text => text
  | .error _ => ""

/-- It is written in the shape of its multiplicity. -/
theorem shapedText_eq_written {type : TypeExpr} (renderable : type.isRenderable = true)
    (multiplicity : Multiplicity) (position : TypePosition) :
    type.shapedText multiplicity position = .ok (type.written multiplicity position) := by
  obtain ⟨text, given⟩ := exists_text renderable
  rw [written, shapedText, given]
  rfl

end TypeExpr

namespace TypePosition

/-- An argument stands in parentheses. -/
theorem wrap_argument (text : String) : wrap .argument text = "(" ++ text ++ ")" := rfl

/-- Parentheses do not hide what is in them. -/
theorem wrap_injective (position : TypePosition) : Function.Injective position.wrap := by
  intro first second same
  cases position with
  | alone => exact same
  | argument =>
      rw [wrap_argument, wrap_argument] at same
      have sameChars := congrArg String.toList same
      exact String.toList_injective (by simpa using sameChars)

end TypePosition

namespace Multiplicity

/-- A list needs no parentheses. -/
theorem shape_of_isMany {multiplicity : Multiplicity} (many : multiplicity.isMany = true)
    (position : TypePosition) (text : String) :
    multiplicity.shape position text = "[" ++ text ++ "]" :=
  if_pos many

/-- Types that occur equally often are told apart by their own texts. -/
theorem shape_injective (multiplicity : Multiplicity) (position : TypePosition) :
    Function.Injective (multiplicity.shape position) := by
  intro first second same
  by_cases many : multiplicity.isMany = true
  · rw [shape_of_isMany many, shape_of_isMany many] at same
    have sameChars := congrArg String.toList same
    exact String.toList_injective (by simpa using sameChars)
  · rw [shape, shape, if_neg many, if_neg many] at same
    split at same
    · have sameChars := congrArg String.toList (position.wrap_injective same)
      exact position.wrap_injective (String.toList_injective (by simpa using sameChars))
    · exact same

end Multiplicity

end RosettaDaml
