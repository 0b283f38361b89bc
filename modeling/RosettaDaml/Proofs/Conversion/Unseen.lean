/-
This file shows that what no module shows may change without changing any declaration.
-/

import RosettaDaml.Proofs.Flattening
import RosettaDaml.Proofs.Inheritance.Correspondence

namespace RosettaDaml

/-- A change of classes and enums that does not show in their declarations. -/
structure UnseenChange where
  classes : Change ClassDecl
  enums : Change EnumDecl
  classAnnotation : ∀ decl, ClassDecl.annotation (classes.onDecl decl) = decl.annotation
  synthetic : ∀ decl, (classes.onDecl decl).syntheticFields = decl.syntheticFields
  zero : ∀ field, (classes.onPart field).card.isZero = field.card.isZero
  member : ∀ field, (classes.onPart field).toMember = field.toMember
  enumAnnotation : ∀ decl, EnumDecl.annotation (enums.onDecl decl) = decl.annotation
  tagged : ∀ value, (enums.onPart value).toConstructor = value.toConstructor

namespace UnseenChange

/-- The change that leaves everything as it is. -/
def keep : UnseenChange :=
  ⟨.keep, .keep, fun _ => rfl, fun _ => rfl, fun _ => rfl, fun _ => rfl, fun _ => rfl,
    fun _ => rfl⟩

/-- Declarations of other kinds are not changed. -/
def onDecl (change : UnseenChange) : Decl → Decl
  | .classDecl decl => .classDecl (change.classes.onDecl decl)
  | .enumDecl decl => .enumDecl (change.enums.onDecl decl)
  | .otherDecl decl => .otherDecl decl

/-- Nothing is changed by no change. -/
theorem onDecl_keep (decl : Decl) : keep.onDecl decl = decl := by
  cases decl <;> rfl

/-- What is interpreted stays so. -/
theorem isInterpreted_onDecl (change : UnseenChange) (decl : Decl) :
    (change.onDecl decl).isInterpreted = decl.isInterpreted := by
  cases decl <;> rfl

/-- So does what takes the place of another. -/
theorem supersedes_onDecl (change : UnseenChange) (later earlier : Decl) :
    (change.onDecl later).supersedes (change.onDecl earlier) = later.supersedes earlier := by
  cases later with
  | classDecl later =>
      cases earlier with
      | classDecl earlier =>
          exact congrArg₂ (· == ·) (change.classes.name later) (change.classes.name earlier)
      | enumDecl _ => rfl
      | otherDecl _ => rfl
  | enumDecl later =>
      cases earlier with
      | enumDecl earlier =>
          exact congrArg₂ (· == ·) (change.enums.name later) (change.enums.name earlier)
      | classDecl _ => rfl
      | otherDecl _ => rfl
  | otherDecl _ => cases earlier <;> rfl

/-- The classes are changed one by one. -/
theorem classes_map (change : UnseenChange) (given : Option String) (decls : List Decl) :
    Schema.classes ⟨given, decls.map change.onDecl⟩ =
      (Schema.classes ⟨given, decls⟩).map change.classes.onDecl := by
  rw [Schema.classes, Schema.classes, List.filterMap_map, List.map_filterMap]
  congr 1
  funext decl
  cases decl <;> rfl

/-- So are the enums. -/
theorem enums_map (change : UnseenChange) (given : Option String) (decls : List Decl) :
    Schema.enums ⟨given, decls.map change.onDecl⟩ =
      (Schema.enums ⟨given, decls⟩).map change.enums.onDecl := by
  rw [Schema.enums, Schema.enums, List.filterMap_map, List.map_filterMap]
  congr 1
  funext decl
  cases decl <;> rfl

/-- Both schemas have the same last class and the same last enum of each name, up to a change. -/
structure Relates (change : UnseenChange) (schema other : Schema) : Prop where
  classes : Corresponds change.classes schema.classes other.classes
  enums : Corresponds change.enums schema.enums other.enums

namespace Relates

variable {change : UnseenChange} {schema other : Schema} (relates : change.Relates schema other)

include relates

/-- A change that is not seen makes no cycle. -/
theorem acyclic_iff : other.Acyclic ↔ schema.Acyclic := by
  rw [Schema.Acyclic, Schema.Acyclic, relates.classes.hasCycle_iff, relates.enums.hasCycle_iff]

/-- The fields of a record stay as they are emitted. -/
theorem recordFields_onDecl (acyclic : schema.Acyclic) (decl : ClassDecl) :
    ((Index.ofSchema other).recordFields (change.classes.onDecl decl)).map ClassField.toMember =
      ((Index.ofSchema schema).recordFields decl).map ClassField.toMember := by
  have inherited := relates.classes.inheritedParts_onDecl acyclic.1 decl
  have sameMember : ClassField.toMember ∘ change.classes.onPart = ClassField.toMember :=
    funext change.member
  have samePresence : (fun field => !field.card.isZero) ∘ change.classes.onPart =
      fun field : ClassField => !field.card.isZero := by
    funext field
    rw [Function.comp_apply, change.zero]
  rw [Index.recordFields_eq, Index.recordFields_eq, change.synthetic, List.map_append,
    List.map_append]
  refine congrArg (decl.syntheticFields.map ClassField.toMember ++ ·) ?_
  change (((Registry.ofDecls other.classes).inheritedParts (change.classes.onDecl decl)).filter
    _).map _ = _
  rw [inherited, List.filter_map, samePresence, List.map_map, sameMember]
  rfl

/-- So do the values of an enum. -/
theorem inheritedValues_onDecl (acyclic : schema.Acyclic) (decl : EnumDecl) :
    ((Index.ofSchema other).enums.inheritedParts (change.enums.onDecl decl)).map
        EnumValue.toConstructor =
      ((Index.ofSchema schema).enums.inheritedParts decl).map EnumValue.toConstructor := by
  have inherited := relates.enums.inheritedParts_onDecl acyclic.2 decl
  have sameConstructor : EnumValue.toConstructor ∘ change.enums.onPart = EnumValue.toConstructor :=
    funext change.tagged
  change ((Registry.ofDecls other.enums).inheritedParts (change.enums.onDecl decl)).map _ = _
  rw [inherited, List.map_map, sameConstructor]
  rfl

/-- A changed class or enum has the same declaration. -/
theorem declarationOf?_onDecl (acyclic : schema.Acyclic) (decl : Decl) :
    (Index.ofSchema other).declarationOf? (change.onDecl decl) =
      (Index.ofSchema schema).declarationOf? decl := by
  cases decl with
  | classDecl decl =>
      have sameName : (change.classes.onDecl decl).name = decl.name := change.classes.name decl
      rw [onDecl, Index.declarationOf?, Index.declarationOf?, Index.recordOf, Index.recordOf,
        sameName, change.classAnnotation, relates.recordFields_onDecl acyclic]
  | enumDecl decl =>
      have sameName : (change.enums.onDecl decl).name = decl.name := change.enums.name decl
      rw [onDecl, Index.declarationOf?, Index.declarationOf?, Index.enumerationOf,
        Index.enumerationOf, sameName, change.enumAnnotation,
        relates.inheritedValues_onDecl acyclic]
  | otherDecl _ => rfl

end Relates

end UnseenChange

end RosettaDaml
