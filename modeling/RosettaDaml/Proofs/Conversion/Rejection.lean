/-
This file says which schemas fail the checks of their modules.
-/

import RosettaDaml.Conversion
import RosettaDaml.Proofs.Consistency.Acceptance
import RosettaDaml.Proofs.Daml.Outcome
import RosettaDaml.Proofs.Flattening

namespace RosettaDaml

/-- The name under which a module has a class or an enum. -/
def Decl.emittedName : Decl → Option String
  | .classDecl decl => some (renameType decl.name)
  | .enumDecl decl => some (renameType decl.name)
  | .otherDecl _ => none

/-- A field names a declaration when it holds no identifier and its type is not a primitive one. -/
def ClassField.Refers (field : ClassField) (name : String) : Prop :=
  field.isText = false ∧ ∃ type, field.type = some type ∧ primitiveNames.lookup type = none ∧
    name = renameType type

namespace Schema

/-- This is all that the checks hold against the kept declarations of a schema. -/
inductive Rejected (schema : Schema) (strict : Bool) : Prop where
  | sharedName {first second : Nat} {decl other : Decl} (before : first < second)
      (kept : KeptAt schema.decls first decl) (keptToo : KeptAt schema.decls second other)
      (same : decl.emittedName = other.emittedName)
  | repeatedField {position : Nat} {decl : ClassDecl} {fields : List ClassField}
      (kept : KeptAt schema.decls position (.classDecl decl))
      (has : schema.HasRecordFields decl fields)
      (repeats : ¬ (fields.map fun field => renameField field.name).Nodup)
  | repeatedValue {position : Nat} {decl : EnumDecl} {values : List EnumValue}
      (kept : KeptAt schema.decls position (.enumDecl decl))
      (has : schema.HasEnumValues decl values)
      (repeats : ¬ (values.map EnumValue.name).Nodup)
  | unresolvedType {position : Nat} {decl : ClassDecl} {fields : List ClassField}
      (kept : KeptAt schema.decls position (.classDecl decl))
      (has : schema.HasRecordFields decl fields) {field : ClassField} (member : field ∈ fields)
      {name : String} (refers : field.Refers name)
      (undeclared : ∀ (place : Nat) (other : Decl), KeptAt schema.decls place other →
        other.emittedName ≠ some name)
  | keywordName (isStrict : strict = true) {position : Nat} {decl : Decl}
      (kept : KeptAt schema.decls position decl) {name : String}
      (named : decl.emittedName = some name) (keyword : isKeyword name = true)
  | keywordField (isStrict : strict = true) {position : Nat} {decl : ClassDecl}
      {fields : List ClassField} (kept : KeptAt schema.decls position (.classDecl decl))
      (has : schema.HasRecordFields decl fields) {field : ClassField} (member : field ∈ fields)
      (keyword : isKeyword (renameField field.name) = true)
  | emptyEnum (isStrict : strict = true) {position : Nat} {decl : EnumDecl}
      (kept : KeptAt schema.decls position (.enumDecl decl)) (has : schema.HasEnumValues decl [])

/-- The module that a conversion checks and writes. -/
def moduleOf (schema : Schema) (config : Config) (name : String) : Module :=
  schema.moduleWith (Index.ofSchema schema) config.moduleImports name

namespace Declares

variable {schema : Schema} {decl : Decl} {declaration : Declaration}

/-- A declaration is declared in one way. -/
theorem unique {other : Declaration} (declares : schema.Declares decl declaration)
    (another : schema.Declares decl other) : declaration = other := by
  cases declares with
  | record complete =>
      cases another with
      | record completeToo => rw [complete.unique completeToo]
  | enumeration complete =>
      cases another with
      | enumeration completeToo => rw [complete.unique completeToo]

/-- Its name is the one that is emitted for it. -/
theorem emittedName (declares : schema.Declares decl declaration) :
    decl.emittedName = some declaration.name := by
  cases declares <;> rfl

end Declares

/-- A field refers to the type that it names. -/
theorem mem_nominalNames_toMember {field : ClassField} {name : String} :
    name ∈ field.toMember.type.nominalNames ↔ field.Refers name := by
  rw [ClassField.Refers, ClassField.toMember]
  cases field.isText with
  | true => simp [TypeExpr.nominalNames]
  | false =>
      cases field.type with
      | none => simp [TypeExpr.ofName, TypeExpr.nominalNames]
      | some type =>
          simp only [TypeExpr.ofName, Bool.false_eq_true, if_false, true_and, Option.some.injEq,
            exists_eq_left']
          cases primitiveNames.lookup type <;> simp [TypeExpr.nominalNames]

/-- The type of a field is simple. -/
theorem isSimple_toMember (field : ClassField) : field.toMember.type.isSimple = true := by
  rw [ClassField.toMember]
  cases field.isText with
  | true => rfl
  | false =>
      cases field.type with
      | none => rfl
      | some type =>
          simp only [TypeExpr.ofName, Bool.false_eq_true, if_false]
          cases primitiveNames.lookup type <;> rfl

/-- So every declaration of a schema is plain. -/
theorem Declares.isPlain {schema : Schema} {decl : Decl} {declaration : Declaration}
    (declares : schema.Declares decl declaration) : declaration.isPlain = true := by
  cases declares with
  | enumeration _ => rfl
  | record _ =>
      refine List.all_eq_true.2 fun member inside => ?_
      obtain ⟨field, -, rfl⟩ := List.mem_map.1 inside
      exact isSimple_toMember field

/-- The names to which a record refers are those to which its fields refer. -/
theorem exists_mem_references_iff {name : String} {comment : Option String}
    {fields : List ClassField} {given : String} :
    (∃ reference ∈ (Declaration.mk name comment
        (.record (fields.map ClassField.toMember))).references, reference.1 = given) ↔
      ∃ field ∈ fields, field.Refers given := by
  simp only [Declaration.references, Declaration.members, List.append_nil, List.mem_flatMap,
    List.mem_map]
  constructor
  · rintro ⟨reference, ⟨member, ⟨field, inside, rfl⟩, found, named, rfl⟩, rfl⟩
    exact ⟨field, inside, mem_nominalNames_toMember.1 named⟩
  · rintro ⟨field, inside, refers⟩
    exact ⟨_, ⟨_, ⟨field, inside, rfl⟩, given, mem_nominalNames_toMember.2 refers, rfl⟩, rfl⟩

section Emitted

variable {schema : Schema} (acyclic : schema.Acyclic) (config : Config) (name : String)

include acyclic

/-- A module holds exactly the declarations of what is kept. -/
theorem mem_declarations_iff {declaration : Declaration} :
    declaration ∈ (schema.moduleOf config name).declarations ↔
      ∃ position decl, KeptAt schema.decls position decl ∧ schema.Declares decl declaration := by
  obtain ⟨sameLength, along⟩ :=
    List.forall₂_iff_get.1 (schema.forall₂_declares acyclic config.moduleImports name)
  constructor
  · intro member
    obtain ⟨index, inside, rfl⟩ := List.mem_iff_getElem.1 member
    have declares := along index (sameLength ▸ inside) inside
    obtain ⟨position, kept⟩ := Decl.mem_kept_iff.1 (List.getElem_mem (sameLength ▸ inside))
    exact ⟨position, _, kept, declares⟩
  · rintro ⟨position, decl, kept, declares⟩
    obtain ⟨index, inside, rfl⟩ := List.mem_iff_getElem.1 (Decl.mem_kept_iff.2 ⟨position, kept⟩)
    rw [declares.unique (along index inside (sameLength ▸ inside))]
    exact List.getElem_mem _

/-- What is kept is declared in the module. -/
theorem mem_declarations {position : Nat} {decl : Decl} {declaration : Declaration}
    (kept : KeptAt schema.decls position decl) (declares : schema.Declares decl declaration) :
    declaration ∈ (schema.moduleOf config name).declarations :=
  (schema.mem_declarations_iff acyclic config name).2 ⟨position, decl, kept, declares⟩

/-- The names that are declared are those that are emitted, in the same order. -/
theorem emittedNames_eq :
    (Decl.kept schema.decls).map Decl.emittedName =
      (schema.moduleOf config name).declarationNames.map some := by
  have declares := schema.forall₂_declares acyclic config.moduleImports name
  rw [Module.declarationNames, List.map_map, ← List.forall₂_eq_eq_eq,
    List.forall₂_map_left_iff, List.forall₂_map_right_iff]
  exact declares.imp fun _ _ one => one.emittedName

/-- A name is declared when it is emitted for some declaration that is kept. -/
theorem mem_declarationNames_iff {given : String} :
    given ∈ (schema.moduleOf config name).declarationNames ↔
      ∃ position decl, KeptAt schema.decls position decl ∧ decl.emittedName = some given := by
  have names := schema.emittedNames_eq acyclic config name
  have mapped : some given ∈ (schema.moduleOf config name).declarationNames.map some ↔
      given ∈ (schema.moduleOf config name).declarationNames := by simp
  rw [← mapped, ← names, List.mem_map]
  constructor
  · rintro ⟨decl, member, named⟩
    obtain ⟨position, kept⟩ := Decl.mem_kept_iff.1 member
    exact ⟨position, decl, kept, named⟩
  · rintro ⟨position, decl, kept, named⟩
    exact ⟨decl, Decl.mem_kept_iff.2 ⟨position, kept⟩, named⟩

/-- The names are distinct when no two declarations that are kept emit the same. -/
theorem nodup_declarationNames_iff :
    (schema.moduleOf config name).declarationNames.Nodup ↔
      ∀ (first second : Nat) (decl other : Decl), first < second →
        KeptAt schema.decls first decl → KeptAt schema.decls second other →
        decl.emittedName ≠ other.emittedName := by
  rw [← List.nodup_map_iff fun _ _ => Option.some.inj,
    ← schema.emittedNames_eq acyclic config name, List.Nodup, List.pairwise_map,
    Decl.pairwise_kept_iff]

/-- A schema that is not rejected has a consistent module. -/
theorem isConsistent_of_not_rejected {strict : Bool} (accepted : ¬ schema.Rejected strict) :
    (schema.moduleOf config name).IsConsistent := by
  refine ⟨fun declaration member reference inside => ?_, ?_, fun declaration member => ?_⟩
  · obtain ⟨position, decl, kept, declares⟩ :=
      (schema.mem_declarations_iff acyclic config name).1 member
    cases declares with
    | enumeration _ => simp [Declaration.references, Declaration.members] at inside
    | record has =>
        obtain ⟨field, isField, refers⟩ :=
          exists_mem_references_iff.1 ⟨reference, inside, rfl⟩
        rw [schema.mem_declarationNames_iff acyclic config name]
        by_contra undeclared
        refine accepted
          (.unresolvedType kept has isField refers fun place other keptToo named => ?_)
        exact undeclared ⟨place, other, keptToo, named⟩
  · rw [schema.nodup_declarationNames_iff acyclic config name]
    intro first second decl other before kept keptToo same
    exact accepted (.sharedName before kept keptToo same)
  · obtain ⟨position, decl, kept, declares⟩ :=
      (schema.mem_declarations_iff acyclic config name).1 member
    by_contra repeats
    cases declares with
    | record has =>
        refine accepted (.repeatedField kept has ?_)
        simpa [Declaration.partNames, Declaration.members, ClassField.toMember,
          Function.comp_def] using repeats
    | enumeration has =>
        refine accepted (.repeatedValue kept has ?_)
        simpa [Declaration.partNames, EnumValue.toConstructor, Function.comp_def] using repeats

/-- A schema that is not strictly rejected has a quiet module. -/
theorem isQuiet_of_not_rejected (accepted : ¬ schema.Rejected true) :
    (schema.moduleOf config name).IsQuiet := by
  refine ⟨fun declaration member => ?_, fun declaration member part inside => ?_,
    fun declaration member => ?_⟩
  · obtain ⟨position, decl, kept, declares⟩ :=
      (schema.mem_declarations_iff acyclic config name).1 member
    by_contra keyword
    rw [Bool.not_eq_false] at keyword
    exact accepted (.keywordName rfl kept declares.emittedName keyword)
  · obtain ⟨position, decl, kept, declares⟩ :=
      (schema.mem_declarations_iff acyclic config name).1 member
    cases declares with
    | enumeration _ => simp [Declaration.members] at inside
    | record has =>
        obtain ⟨field, isField, rfl⟩ := List.mem_map.1 inside
        by_contra keyword
        rw [Bool.not_eq_false] at keyword
        exact accepted (.keywordField rfl kept has isField keyword)
  · obtain ⟨position, decl, kept, declares⟩ :=
      (schema.mem_declarations_iff acyclic config name).1 member
    cases declares with
    | record _ => rfl
    | @enumeration decl values has =>
        by_contra empty
        have noValues : values = [] := by simpa [Declaration.isEmptyVariant] using empty
        subst noValues
        exact accepted (.emptyEnum rfl kept has)

/-- What the checks hold against a schema spoils its module. -/
theorem not_rejected {strict : Bool} (consistent : (schema.moduleOf config name).IsConsistent)
    (quiet : strict = true → (schema.moduleOf config name).IsQuiet) : ¬ schema.Rejected strict := by
  have emitted {position decl declaration} :=
    @schema.mem_declarations acyclic config name position decl declaration
  intro rejected
  cases rejected with
  | sharedName before kept keptToo same =>
      have distinct := (schema.nodup_declarationNames_iff acyclic config name).1
        consistent.distinctNames
      exact distinct _ _ _ _ before kept keptToo same
  | repeatedField kept has repeats =>
      refine repeats ?_
      have distinct := consistent.distinctParts _ (emitted kept (.record has))
      simpa [Declaration.partNames, Declaration.members, ClassField.toMember,
        Function.comp_def] using distinct
  | repeatedValue kept has repeats =>
      refine repeats ?_
      have distinct := consistent.distinctParts _ (emitted kept (.enumeration has))
      simpa [Declaration.partNames, EnumValue.toConstructor, Function.comp_def] using distinct
  | unresolvedType kept has member refers undeclared =>
      obtain ⟨reference, inside, rfl⟩ := exists_mem_references_iff.2 ⟨_, member, refers⟩
      have declared := consistent.resolved _ (emitted kept (.record has)) reference inside
      obtain ⟨place, other, keptToo, named⟩ :=
        (schema.mem_declarationNames_iff acyclic config name).1 declared
      exact undeclared place other keptToo named
  | keywordName isStrict kept named keyword =>
      have declared := (schema.mem_declarationNames_iff acyclic config name).2 ⟨_, _, kept, named⟩
      obtain ⟨declaration, member, rfl⟩ := List.mem_map.1 declared
      simp [(quiet isStrict).names declaration member] at keyword
  | @keywordField isStrict position decl fields kept has field member keyword =>
      have free := (quiet isStrict).memberNames _ (emitted kept (.record has)) field.toMember
        (List.mem_map_of_mem member)
      exact absurd (keyword.symm.trans free) (by decide)
  | emptyEnum isStrict kept has =>
      have inhabited := (quiet isStrict).inhabited _ (emitted kept (.enumeration has))
      simp [Declaration.isEmptyVariant] at inhabited

/-- The checks accept the module of a schema exactly when nothing is held against the schema. -/
theorem isAccepted_validate_moduleOf_iff (strict : Bool) :
    (schema.moduleOf config name).validate.isAccepted strict = true ↔
      ¬ schema.Rejected strict := by
  rw [Module.isAccepted_validate_iff]
  constructor
  · rintro ⟨consistent, quiet⟩
    exact schema.not_rejected acyclic config name consistent quiet
  · intro accepted
    refine ⟨schema.isConsistent_of_not_rejected acyclic config name accepted, fun isStrict => ?_⟩
    subst isStrict
    exact schema.isQuiet_of_not_rejected acyclic config name accepted

end Emitted

end Schema

end RosettaDaml
