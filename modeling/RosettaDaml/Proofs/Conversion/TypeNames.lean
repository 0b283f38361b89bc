/-
This file says for which schemas a type name of the text has one meaning.
-/

import RosettaDaml.Proofs.Conversion.Constructors
import RosettaDaml.Proofs.Conversion.References
import RosettaDaml.Proofs.Daml.TypeText

namespace RosettaDaml

/-- Renaming leads to no name of a type that needs no declaration, and away from the one of
parties. -/
theorem renameType_mem_builtInTypeNames_iff (name : String) :
    renameType name ∈ builtInTypeNames ↔ name ∈ builtInTypeNames ∧ name ≠ "Party" := by
  rcases renameType_cases name with listed | stays
  · simp only [typeRenames, List.mem_cons, Prod.mk.injEq, List.not_mem_nil, or_false] at listed
    rcases listed with ⟨rfl, renamed⟩ | ⟨rfl, renamed⟩ | ⟨rfl, renamed⟩ <;> decide
  · rw [stays]
    refine ⟨fun inside => ⟨inside, ?_⟩, And.left⟩
    rintro rfl
    exact absurd stays (by decide)

namespace Schema

/-- A class or an enum is kept under the name of a type that needs no declaration. A class of the
name of parties is renamed. -/
def DeclaresBuiltIn (schema : Schema) : Prop :=
  ∃ position decl given, KeptAt schema.decls position decl ∧ decl.identifier = some given ∧
    given ∈ builtInTypeNames ∧ given ≠ "Party"

theorem exists_mem_builtInTypeNames_iff {schema : Schema} (acyclic : schema.Acyclic)
    (config : Config) (name : String) :
    (∃ given ∈ (schema.moduleOf config name).declarationNames, given ∈ builtInTypeNames) ↔
      schema.DeclaresBuiltIn := by
  simp only [schema.mem_declarationNames_iff acyclic config name, Decl.emittedName_eq_some_iff]
  constructor
  · rintro ⟨_, ⟨position, decl, kept, given, identified, rfl⟩, builtIn⟩
    exact ⟨position, decl, given, kept, identified,
      (renameType_mem_builtInTypeNames_iff given).1 builtIn⟩
  · rintro ⟨position, decl, given, kept, identified, builtIn⟩
    exact ⟨renameType given, ⟨position, decl, kept, given, identified, rfl⟩,
      (renameType_mem_builtInTypeNames_iff given).2 builtIn⟩

/-- A text gives no declaration the name of a type that needs none exactly when the schema keeps
nothing of such a name; a primitive member and a nominal one that occur equally often are written
alike only when the schema does. -/
theorem typeNames_of_convert {schema : Schema} {config : Config} {name text : String}
    (converted : (schema.convert config name).result = .ok text) :
    ∃ model, (schema.build config name).result = .ok model ∧
      (Daml.render config model).result = .ok text ∧
      ((∀ declaration ∈ model.declarations, declaration.name ∉ builtInTypeNames) ↔
        ¬ schema.DeclaresBuiltIn) ∧
      ∀ first ∈ model.declarations, ∀ second ∈ model.declarations, ∀ left ∈ first.members,
        ∀ right ∈ second.members, ∀ kind given, left.type = .primitive kind →
          right.type = .nominal given → left.multiplicity = right.multiplicity →
            (left.type.shapedText left.multiplicity .alone =
                right.type.shapedText right.multiplicity .alone ↔
              schema.DeclaresBuiltIn ∧ given = kind.daml) := by
  obtain ⟨model, built, rendered⟩ := result_convert_eq_ok_iff.1 converted
  obtain ⟨acyclic, accepted, rfl⟩ := result_build_eq_ok_iff.1 built
  have declares := exists_mem_builtInTypeNames_iff acyclic config name
  refine ⟨_, built, rendered, ?_, ?_⟩
  · rw [← declares]
    simp [Module.declarationNames]
  · intro first member second memberToo left inside right insideToo kind given primitive nominal
      same
    rw [primitive, nominal, same]
    constructor
    · intro sameText
      -- Shapes are injective, so the name of the type is that of a primitive, and a checked name is
      -- declared.
      have named : kind.daml = given :=
        right.multiplicity.shape_injective .alone (Except.ok.inj sameText)
      have resolved := (schema.isConsistent_of_not_rejected acyclic config name accepted).resolved
        second memberToo (given, second.memberPath right)
      refine ⟨declares.1 ⟨given, resolved ?_, named ▸ kind.daml_mem_builtInTypeNames⟩, named.symm⟩
      refine List.mem_append_left _ (List.mem_flatMap.2 ⟨right, insideToo, ?_⟩)
      simp [nominal, TypeExpr.nominalNames]
    · rintro ⟨-, rfl⟩
      rfl

theorem typeNames_of_convert_layered :
    ∃ text, (layered.convert .standard "Model").result = .ok text ∧
      ∃ model, (layered.build .standard "Model").result = .ok model ∧
        (Daml.render .standard model).result = .ok text ∧
        ((∀ declaration ∈ model.declarations, declaration.name ∉ builtInTypeNames) ↔
          ¬ layered.DeclaresBuiltIn) ∧
        ∀ first ∈ model.declarations, ∀ second ∈ model.declarations, ∀ left ∈ first.members,
          ∀ right ∈ second.members, ∀ kind given, left.type = .primitive kind →
            right.type = .nominal given → left.multiplicity = right.multiplicity →
              (left.type.shapedText left.multiplicity .alone =
                  right.type.shapedText right.multiplicity .alone ↔
                layered.DeclaresBuiltIn ∧ given = kind.daml) := by
  obtain ⟨text, converted⟩ := exists_convert_layered
  exact ⟨text, converted, typeNames_of_convert converted⟩

/-- A class of the name of a type that needs no declaration, beside a field of that type and a field
of the class. -/
def shadowing : Schema where
  namespaceName := none
  decls := [
    .classDecl ⟨"Text", none, [], .empty, none, by decide⟩,
    .classDecl ⟨"Note", none, [⟨"title", some "string", .one, .empty, none, by decide⟩,
      ⟨"body", some "Text", .one, .empty, none, by decide⟩], .empty, none, by decide⟩]

/-- Not every declaration keeps clear of the types that need none, not even under strict checks. -/
theorem not_forall_not_mem_builtInTypeNames :
    ¬ ∀ (schema : Schema) (config : Config) (name text : String) (model : Module),
      (schema.convert config name).result = .ok text →
        (schema.build config name).result = .ok model →
          ∀ declaration ∈ model.declarations, declaration.name ∉ builtInTypeNames := by
  intro always
  have built : (shadowing.build narrow "Model").result = .ok (shadowing.moduleOf narrow "Model") :=
    rfl
  obtain ⟨acyclic, accepted, -⟩ := result_build_eq_ok_iff.1 built
  have room : narrow.HasRoom := ⟨1, by decide, by decide⟩
  have inhabited : ¬ shadowing.HasEmptyEnum := by
    rw [hasEmptyEnum_iff acyclic narrow "Model"]
    decide
  obtain ⟨text, converted⟩ :=
    exists_convert_of_room acyclic room accepted (fun refused => inhabited refused.2) "Model"
  exact always _ _ _ _ _ converted built
    ((shadowing.moduleOf narrow "Model").declarations.get ⟨0, by decide⟩) (List.get_mem _ _)
    (by decide)

end Schema

end RosettaDaml
