/-
This file says which schemas are converted and how the others fail.
-/

import RosettaDaml.Proofs.Conversion.Rejection

namespace RosettaDaml.Schema

variable {schema : Schema}

/-- Without a cycle a schema is transformed. -/
theorem result_transform_of_acyclic (acyclic : schema.Acyclic) (imports : List Import)
    (name : String) :
    (schema.transform imports name).result =
      .ok (schema.moduleWith (Index.ofSchema schema) imports name) := by
  rw [result_transform, Index.result_build_eq_ok_iff.2 ⟨acyclic, rfl⟩]
  rfl

/-- With a cycle it is not. -/
theorem exists_cyclic_of_not_acyclic (cyclic : ¬ schema.Acyclic) (imports : List Import)
    (name : String) :
    ∃ failure, (schema.transform imports name).result = .error failure := by
  rw [result_transform]
  cases built : (Index.build schema).result with
  | ok index => exact absurd (Index.result_build_eq_ok_iff.1 built).1 cyclic
  | error failure => exact ⟨failure, rfl⟩

/-- Building is transforming and then checking. -/
theorem result_build (schema : Schema) (config : Config) (name : String) :
    (schema.build config name).result =
      ((schema.transform config.moduleImports name).result.mapError .cyclic).bind fun model =>
        ((model.validateStrictly config.strict).mapError .inconsistent).map fun _ => model := by
  simp only [build, Traced.result_bind, Traced.result_mapFailure, Traced.result_ofExcept]
  rfl

/-- Converting is building and then rendering. -/
theorem result_convert (schema : Schema) (config : Config) (name : String) :
    (schema.convert config name).result =
      (schema.build config name).result.bind fun model =>
        (Daml.render config model).result.mapError .rendering := by
  simp only [convert, Traced.result_bind, Traced.result_mapFailure]

/-- A text is what a built module is written as. -/
theorem result_convert_eq_ok_iff {config : Config} {name text : String} :
    (schema.convert config name).result = .ok text ↔
      ∃ model, (schema.build config name).result = .ok model ∧
        (Daml.render config model).result = .ok text := by
  rw [result_convert]
  cases (schema.build config name).result with
  | error failure => simp [Except.bind]
  | ok model => cases rendered : (Daml.render config model).result <;> simp [Except.bind,
      Except.mapError, rendered]

/-- A cycle is the first thing that a conversion fails at. -/
theorem exists_convert_cyclic (cyclic : ¬ schema.Acyclic) (config : Config) (name : String) :
    ∃ failure, (schema.convert config name).result = .error (.cyclic failure) := by
  obtain ⟨failure, fails⟩ := exists_cyclic_of_not_acyclic cyclic config.moduleImports name
  refine ⟨failure, ?_⟩
  rw [result_convert, result_build, fails]
  rfl

/-- What is held against the module is the second. -/
theorem result_build_of_rejected (acyclic : schema.Acyclic) {config : Config}
    (rejected : schema.Rejected config.strict) (name : String) :
    (schema.build config name).result =
      .error (.inconsistent (schema.moduleOf config name).validate) := by
  have refused : ¬ (schema.moduleOf config name).validate.isAccepted config.strict = true := by
    rw [schema.isAccepted_validate_moduleOf_iff acyclic]
    exact not_not.2 rejected
  rw [result_build, result_transform_of_acyclic acyclic]
  change ((((schema.moduleOf config name).validateStrictly config.strict).mapError _).map _) = _
  rw [Module.validateStrictly, if_neg refused]
  rfl

/-- Nothing else fails before the module is rendered. -/
theorem result_build_of_not_rejected (acyclic : schema.Acyclic) {config : Config}
    (accepted : ¬ schema.Rejected config.strict) (name : String) :
    (schema.build config name).result = .ok (schema.moduleOf config name) := by
  rw [result_build, result_transform_of_acyclic acyclic]
  change ((((schema.moduleOf config name).validateStrictly config.strict).mapError _).map _) = _
  rw [Module.validateStrictly,
    if_pos ((schema.isAccepted_validate_moduleOf_iff acyclic config name config.strict).2 accepted)]
  rfl

/-- A module is built exactly when there is no cycle and nothing is held against the schema. -/
theorem result_build_eq_ok_iff {config : Config} {name : String} {model : Module} :
    (schema.build config name).result = .ok model ↔
      schema.Acyclic ∧ ¬ schema.Rejected config.strict ∧ model = schema.moduleOf config name := by
  by_cases acyclic : schema.Acyclic
  · by_cases rejected : schema.Rejected config.strict
    · rw [result_build_of_rejected acyclic rejected]
      simp [rejected]
    · rw [result_build_of_not_rejected acyclic rejected]
      simp [acyclic, rejected, eq_comm]
  · obtain ⟨failure, fails⟩ := exists_cyclic_of_not_acyclic acyclic config.moduleImports name
    rw [result_build, fails]
    simp [acyclic, Except.mapError, Except.bind]

/-- All declarations of a schema are plain. -/
theorem isPlain_of_mem (acyclic : schema.Acyclic) (config : Config) (name : String) :
    ∀ declaration ∈ (schema.moduleOf config name).declarations, declaration.isPlain = true := by
  intro declaration member
  obtain ⟨position, decl, kept, declares⟩ :=
    (schema.mem_declarations_iff acyclic config name).1 member
  exact declares.isPlain

/-- Some kept enum has neither values of its own nor inherited ones. -/
def HasEmptyEnum (schema : Schema) : Prop :=
  ∃ position decl, KeptAt schema.decls position (.enumDecl decl) ∧ schema.HasEnumValues decl []

/-- Only an enum without values is an empty type. -/
theorem isEmptyVariant_iff {decl : Decl} {declaration : Declaration}
    (declares : schema.Declares decl declaration) :
    declaration.isEmptyVariant = true ↔
      ∃ enum, decl = .enumDecl enum ∧ schema.HasEnumValues enum [] := by
  cases declares with
  | record _ => simp [Declaration.isEmptyVariant]
  | @enumeration enum values has =>
      simp only [Declaration.isEmptyVariant, List.isEmpty_map, List.isEmpty_iff,
        Decl.enumDecl.injEq]
      constructor
      · rintro rfl
        exact ⟨enum, rfl, has⟩
      · rintro ⟨_, rfl, empty⟩
        exact has.unique empty

/-- A schema has such an enum exactly when its module has an empty type. -/
theorem hasEmptyEnum_iff (acyclic : schema.Acyclic) (config : Config) (name : String) :
    schema.HasEmptyEnum ↔
      ∃ declaration ∈ (schema.moduleOf config name).declarations,
        declaration.isEmptyVariant = true := by
  constructor
  · rintro ⟨position, decl, kept, empty⟩
    exact ⟨_, schema.mem_declarations acyclic config name kept (.enumeration empty), rfl⟩
  · rintro ⟨declaration, member, empty⟩
    obtain ⟨position, decl, kept, declares⟩ :=
      (schema.mem_declarations_iff acyclic config name).1 member
    obtain ⟨enum, rfl, noValues⟩ := (isEmptyVariant_iff declares).1 empty
    exact ⟨position, enum, kept, noValues⟩

/-- The first kept enum without values, neither its own nor inherited ones. -/
def IsFirstEmpty (schema : Schema) (enum : EnumDecl) : Prop :=
  ∃ position, KeptAt schema.decls position (.enumDecl enum) ∧ schema.HasEnumValues enum [] ∧
    ∀ earlier other, earlier < position → KeptAt schema.decls earlier (.enumDecl other) →
      ¬ schema.HasEnumValues other []

/-- The first enum without values is the first declaration that is empty. -/
theorem exists_first_empty (acyclic : schema.Acyclic) (config : Config) (name : String)
    (empty : schema.HasEmptyEnum) :
    ∃ declaration enum, schema.IsFirstEmpty enum ∧ declaration.name = renameType enum.name ∧
      (schema.moduleOf config name).declarations.find? Declaration.isEmptyVariant =
        some declaration := by
  obtain ⟨positions, ordered, exact, listed⟩ :=
    (isFlattenedIn_moduleWith acyclic config.moduleImports name).inOrder
  obtain ⟨sameLength, along⟩ := List.forall₂_iff_get.1 listed
  obtain ⟨declaration, found⟩ := Option.isSome_iff_exists.1
    (List.find?_isSome.2 ((hasEmptyEnum_iff acyclic config name).1 empty))
  obtain ⟨isEmpty, index, inside, rfl, earlier⟩ := List.find?_eq_some_iff_getElem.1 found
  obtain ⟨decl, keptAt, declares⟩ := along index (sameLength ▸ inside) inside
  obtain ⟨enum, rfl, noValues⟩ := (isEmptyVariant_iff declares).1 isEmpty
  -- An earlier place has an earlier declaration, and that one is not empty.
  refine ⟨_, enum, ⟨_, keptAt, noValues, fun place other before keptToo noValuesToo => ?_⟩,
    (Option.some.inj declares.emittedName).symm, found⟩
  obtain ⟨left, leftInside, rfl⟩ := List.mem_iff_getElem.1 ((exact place).2 ⟨_, keptToo⟩)
  have inOrder : left < index := ordered.sortedLT.getElem_lt_getElem_iff.1 before
  obtain ⟨decl, keptHere, declaresHere⟩ := along left leftInside (sameLength ▸ leftInside)
  obtain rfl := keptHere.unique keptToo
  have emptyHere := (isEmptyVariant_iff declaresHere).2 ⟨other, rfl, noValuesToo⟩
  have notEmpty := earlier left inOrder
  rw [Bool.not_eq_true'] at notEmpty
  exact Bool.false_ne_true (notEmpty.symm.trans emptyHere)

/-- Rendering decides about an accepted module. -/
theorem result_convert_of_not_rejected (acyclic : schema.Acyclic) {config : Config}
    (accepted : ¬ schema.Rejected config.strict) (name : String) :
    (schema.convert config name).result =
      (Daml.render config (schema.moduleOf config name)).result.mapError .rendering := by
  rw [result_convert, result_build_of_not_rejected acyclic accepted]
  rfl

/-- A rejected module is not rendered. -/
theorem result_convert_of_rejected (acyclic : schema.Acyclic) {config : Config}
    (rejected : schema.Rejected config.strict) (name : String) :
    (schema.convert config name).result =
      .error (.inconsistent (schema.moduleOf config name).validate) := by
  rw [result_convert, result_build_of_rejected acyclic rejected]
  rfl

/-- Where comments have room, only an enum without values can stop an accepted schema. -/
theorem exists_convert_of_room (acyclic : schema.Acyclic) {config : Config}
    (room : config.HasRoom) (accepted : ¬ schema.Rejected config.strict)
    (allowed : ¬ (config.emptyVariant = .error ∧ schema.HasEmptyEnum)) (name : String) :
    ∃ text, (schema.convert config name).result = .ok text := by
  have inhabited : config.emptyVariant = .error →
      ∀ declaration ∈ (schema.moduleOf config name).declarations,
        declaration.isEmptyVariant = false := by
    intro refused declaration member
    by_contra empty
    rw [Bool.not_eq_false] at empty
    exact allowed ⟨refused, (hasEmptyEnum_iff acyclic config name).2 ⟨_, member, empty⟩⟩
  obtain ⟨text, written⟩ := Daml.exists_render room (isPlain_of_mem acyclic config name) inhabited
  rw [result_convert_of_not_rejected acyclic accepted, written]
  exact ⟨text, rfl⟩

/-- The standard settings convert what they accept. -/
theorem exists_convert_standard (acyclic : schema.Acyclic)
    (accepted : ¬ schema.Rejected false) (name : String) :
    ∃ text, (schema.convert .standard name).result = .ok text := by
  have allowed : ¬ (Config.standard.emptyVariant = .error ∧ schema.HasEmptyEnum) := by
    rintro ⟨refused, -⟩
    exact absurd refused (by decide)
  exact exists_convert_of_room acyclic Config.hasRoom_standard accepted allowed name

/-- This schema is converted. -/
theorem exists_convert_layered :
    ∃ text, (layered.convert .standard "Model").result = .ok text := by
  have acyclic : layered.Acyclic := (Index.result_build_eq_ok_iff.1 rfl).1
  have accepted : ¬ layered.Rejected false :=
    (isAccepted_validate_moduleOf_iff acyclic .standard "Model" false).1 rfl
  exact exists_convert_standard acyclic accepted "Model"

/-- An empty enum is refused where empty types are. -/
theorem exists_convert_emptyVariant (acyclic : schema.Acyclic) {config : Config}
    (room : config.HasRoom) (accepted : ¬ schema.Rejected config.strict)
    (refused : config.emptyVariant = .error) (empty : schema.HasEmptyEnum) (name : String) :
    ∃ enum, schema.IsFirstEmpty enum ∧ (schema.convert config name).result =
      .error (.rendering (.emptyVariant (renameType enum.name))) := by
  obtain ⟨declaration, enum, isFirst, named, found⟩ := exists_first_empty acyclic config name empty
  have fails := Daml.result_render_of_find? room (isPlain_of_mem acyclic config name) refused found
  refine ⟨enum, isFirst, ?_⟩
  rw [result_convert_of_not_rejected acyclic accepted, fails, named]
  rfl

/-- A conversion with room for comments ends in one of four ways. -/
theorem convert_cases {config : Config} (room : config.HasRoom) (schema : Schema) (name : String) :
    (¬ schema.Acyclic ∧
        ∃ failure, (schema.convert config name).result = .error (.cyclic failure)) ∨
      (schema.Acyclic ∧ schema.Rejected config.strict ∧
        ∃ report, (schema.convert config name).result = .error (.inconsistent report)) ∨
      (schema.Acyclic ∧ ¬ schema.Rejected config.strict ∧
        (config.emptyVariant = .error ∧ schema.HasEmptyEnum) ∧
        ∃ enum, schema.IsFirstEmpty enum ∧ (schema.convert config name).result =
          .error (.rendering (.emptyVariant (renameType enum.name)))) ∨
      (schema.Acyclic ∧ ¬ schema.Rejected config.strict ∧
        ¬ (config.emptyVariant = .error ∧ schema.HasEmptyEnum) ∧
        ∃ text, (schema.convert config name).result = .ok text) := by
  by_cases acyclic : schema.Acyclic
  · by_cases rejected : schema.Rejected config.strict
    · exact .inr (.inl ⟨acyclic, rejected, _, result_convert_of_rejected acyclic rejected name⟩)
    · by_cases refused : config.emptyVariant = .error ∧ schema.HasEmptyEnum
      · exact .inr (.inr (.inl ⟨acyclic, rejected, refused,
          exists_convert_emptyVariant acyclic room rejected refused.1 refused.2 name⟩))
      · exact .inr (.inr (.inr ⟨acyclic, rejected, refused,
          exists_convert_of_room acyclic room rejected refused name⟩))
  · exact .inl ⟨acyclic, exists_convert_cyclic acyclic config name⟩

/-- What a conversion may come to, in terms of the schema and the settings alone. -/
structure HasOutcome (schema : Schema) (config : Config)
    (result : Except ConversionFailure String) : Prop where
  cyclic : (∃ failure, result = .error (.cyclic failure)) ↔
    HasCycle schema.classes ∨ HasCycle schema.enums
  inconsistent : (∃ report, result = .error (.inconsistent report)) ↔
    schema.Acyclic ∧ schema.Rejected config.strict
  rendering : (∃ failure, result = .error (.rendering failure)) ↔
    schema.Acyclic ∧ ¬ schema.Rejected config.strict ∧ config.emptyVariant = .error ∧
      schema.HasEmptyEnum
  firstEmpty : ∀ failure, result = .error (.rendering failure) →
    ∃ enum, schema.IsFirstEmpty enum ∧ failure = .emptyVariant (renameType enum.name)
  text : (∃ text, result = .ok text) ↔
    schema.Acyclic ∧ ¬ schema.Rejected config.strict ∧
      ¬ (config.emptyVariant = .error ∧ schema.HasEmptyEnum)

/-- Neither the classes nor the enums have a cycle. -/
theorem acyclic_iff : schema.Acyclic ↔ ¬ (HasCycle schema.classes ∨ HasCycle schema.enums) :=
  not_or.symm

/-- Where comments have room, the schema and the settings decide how a conversion ends. -/
theorem hasOutcome_convert {config : Config} (room : config.HasRoom) (schema : Schema)
    (name : String) : schema.HasOutcome config (schema.convert config name).result := by
  have hasCycle : HasCycle schema.classes ∨ HasCycle schema.enums ↔ ¬ schema.Acyclic := by
    rw [acyclic_iff, not_not]
  rcases convert_cases room schema name with ⟨cyclic, _, fails⟩ | ⟨acyclic, rejected, _, fails⟩ |
    ⟨acyclic, accepted, refused, enum, isFirst, fails⟩ | ⟨acyclic, accepted, allowed, _, written⟩
  · constructor <;> simp [fails, hasCycle, cyclic]
  · constructor <;> simp [fails, hasCycle, acyclic, rejected]
  · constructor <;> simp [fails, hasCycle, acyclic, accepted, refused]
    exact ⟨enum, isFirst, rfl⟩
  · constructor <;> simp [written, hasCycle, acyclic, accepted, allowed]

/-- Comment lines of one character, where empty enums are forbidden. -/
def narrow : Config where
  lineLength := 24
  ribbonsPerLine := .finite false 5488762045857792 (-47)
  emptyVariant := .error
  strict := true
  imports := []
  lineLength_ge := by decide
  ribbonsPerLine_ge := by decide

theorem hasOutcome_convert_narrow :
    narrow.HasRoom ∧ layered.HasOutcome narrow (layered.convert narrow "Model").result :=
  have room : narrow.HasRoom := ⟨1, by decide, by decide⟩
  ⟨room, hasOutcome_convert room layered "Model"⟩

end RosettaDaml.Schema
