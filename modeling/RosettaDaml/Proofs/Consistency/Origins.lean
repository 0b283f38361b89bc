/-
This file shows that the checks of a module never look at origins.
-/

import RosettaDaml.Consistency.Check

namespace RosettaDaml

/-- The type of a member loses its origins with the member. -/
@[simp] theorem Member.type_withoutOrigins (member : Member TypeExpr) :
    member.withoutOrigins.type = member.type.withoutOrigins := rfl

mutual

/-- The names in a type are none of its origins. -/
theorem TypeExpr.nominalNames_withoutOrigins (type : TypeExpr) :
    type.withoutOrigins.nominalNames = type.nominalNames := by
  cases type with
  | product members =>
      rw [withoutOrigins, nominalNames, nominalNames, membersNominalNames_withoutOrigins]
  | sum alternatives =>
      rw [withoutOrigins, nominalNames, nominalNames, membersNominalNames_withoutOrigins]
  | primitive _ | nominal _ | enumeration _ | unknown _ => rfl

/-- Neither are those in the types of members. -/
theorem TypeExpr.membersNominalNames_withoutOrigins (members : List (Member TypeExpr)) :
    membersNominalNames (membersWithoutOrigins members) = membersNominalNames members := by
  cases members with
  | nil => rfl
  | cons member rest =>
      rw [membersWithoutOrigins, membersNominalNames, membersNominalNames,
        nominalNames_withoutOrigins member.type, membersNominalNames_withoutOrigins rest]

end

namespace Declaration

variable (declaration : Declaration)

/-- A declaration keeps its name. -/
@[simp] theorem name_withoutOrigins : declaration.withoutOrigins.name = declaration.name := rfl

/-- Its members lose their origins one by one. -/
theorem members_withoutOrigins :
    declaration.withoutOrigins.members = declaration.members.map Member.withoutOrigins := by
  obtain ⟨name, comment, body⟩ := declaration
  cases body <;> rfl

/-- The path of a member is made of names. -/
theorem memberPath_withoutOrigins (member : Member TypeExpr) :
    declaration.withoutOrigins.memberPath member.withoutOrigins = declaration.memberPath member :=
  rfl

/-- An empty type stays one. -/
theorem isEmptyVariant_withoutOrigins :
    declaration.withoutOrigins.isEmptyVariant = declaration.isEmptyVariant := by
  obtain ⟨name, comment, body⟩ := declaration
  cases body with
  | enumeration constructors => exact List.isEmpty_map
  | variant alternatives => exact List.isEmpty_map
  | record _ | synonym _ | template _ _ => rfl

/-- The references of a declaration stay. -/
theorem references_withoutOrigins :
    declaration.withoutOrigins.references = declaration.references := by
  have inMembers : (declaration.withoutOrigins.members.flatMap fun member =>
      member.type.nominalNames.map fun name =>
        (name, declaration.withoutOrigins.memberPath member)) =
      declaration.members.flatMap fun member =>
        member.type.nominalNames.map fun name => (name, declaration.memberPath member) := by
    rw [members_withoutOrigins, List.flatMap_map]
    simp only [Member.type_withoutOrigins, TypeExpr.nominalNames_withoutOrigins,
      memberPath_withoutOrigins]
  rw [references, references, inMembers]
  obtain ⟨name, comment, body⟩ := declaration
  cases body with
  | synonym type =>
      change _ ++ type.withoutOrigins.nominalNames.map _ = _
      rw [TypeExpr.nominalNames_withoutOrigins]
      rfl
  | enumeration _ | record _ | variant _ | template _ _ => rfl

/-- So do the names of its parts. -/
theorem partNames_withoutOrigins :
    declaration.withoutOrigins.partNames = declaration.partNames := by
  have memberNames : declaration.withoutOrigins.members.map Member.name =
      declaration.members.map Member.name := by
    rw [members_withoutOrigins, List.map_map]
    rfl
  obtain ⟨name, comment, body⟩ := declaration
  cases body with
  | enumeration constructors =>
      change ("constructors", (constructors.map Constructor.withoutOrigin).map Constructor.name) = _
      rw [List.map_map]
      rfl
  | record _ | variant _ | synonym _ | template _ _ => exact congrArg (Prod.mk "fields") memberNames

/-- So does what is not resolved. -/
theorem unresolvedReferences_withoutOrigins (declared : List String) :
    declaration.withoutOrigins.unresolvedReferences declared =
      declaration.unresolvedReferences declared := by
  rw [unresolvedReferences, unresolvedReferences, references_withoutOrigins]

/-- And what is repeated. -/
theorem repeatedMembers_withoutOrigins :
    declaration.withoutOrigins.repeatedMembers = declaration.repeatedMembers := by
  rw [repeatedMembers, repeatedMembers, partNames_withoutOrigins, name_withoutOrigins]

/-- And what is a keyword. -/
theorem keywordNames_withoutOrigins :
    declaration.withoutOrigins.keywordNames = declaration.keywordNames := by
  rw [keywordNames, keywordNames, members_withoutOrigins, List.filter_map, List.map_map]
  rfl

end Declaration

namespace Module

variable (model : Module)

/-- A module declares the same names. -/
theorem declarationNames_withoutOrigins :
    model.withoutOrigins.declarationNames = model.declarationNames := by
  rw [declarationNames, declarationNames, withoutOrigins, List.map_map]
  rfl

/-- No check finds anything else once the origins are gone. -/
theorem findings_withoutOrigins (check : Check) :
    check.findings model.withoutOrigins = check.findings model := by
  cases check with
  | references =>
      rw [Check.findings, Check.findings, declarationNames_withoutOrigins, withoutOrigins,
        List.flatMap_map]
      simp only [Declaration.unresolvedReferences_withoutOrigins]
  | declarationNames => rw [Check.findings, Check.findings, declarationNames_withoutOrigins]
  | memberNames =>
      rw [Check.findings, Check.findings, withoutOrigins, List.flatMap_map]
      simp only [Declaration.repeatedMembers_withoutOrigins]
  | keywords =>
      rw [Check.findings, Check.findings, withoutOrigins, List.flatMap_map]
      simp only [Declaration.keywordNames_withoutOrigins]
  | emptyVariants =>
      have sameChoice : Declaration.isEmptyVariant ∘ Declaration.withoutOrigins =
          Declaration.isEmptyVariant :=
        funext Declaration.isEmptyVariant_withoutOrigins
      rw [Check.findings, Check.findings, withoutOrigins, List.filter_map, sameChoice, List.map_map]
      rfl

/-- So its report is the same. -/
theorem report_withoutOrigins (checks : List Check) :
    model.withoutOrigins.report checks = model.report checks := by
  rw [report, report, funext model.findings_withoutOrigins]

end Module

end RosettaDaml
