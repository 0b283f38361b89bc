/-
This file shows that the module of a schema holds each kept class and enum once, with all that it
inherits.
-/

import RosettaDaml.Proofs.Inheritance.Chain
import RosettaDaml.Proofs.Log.Result
import RosettaDaml.Proofs.Schema.Kept

namespace RosettaDaml

/-- The first rule that applies to a class gives it a synthetic field. -/
inductive ClassDecl.HasSynthetic (decl : ClassDecl) : List ClassField → Prop where
  | none (inapplicable : ∀ rule ∈ SyntheticRule.all, rule.appliesTo decl = false) :
      decl.HasSynthetic []
  | first {before after : List SyntheticRule} {rule : SyntheticRule}
      (parts : SyntheticRule.all = before ++ rule :: after) (applies : rule.appliesTo decl = true)
      (earlier : ∀ other ∈ before, other.appliesTo decl = false) : decl.HasSynthetic [rule.field]

namespace Schema

/-- The fields of the record of a class: the synthetic one of the class itself, then those of its
chain without the ones that may never be there. -/
def HasRecordFields (schema : Schema) (decl : ClassDecl) (fields : List ClassField) : Prop :=
  ∃ synthetic chain, decl.HasSynthetic synthetic ∧ Lineage schema.classes decl chain ∧
    fields = synthetic ++ (chain.flatMap ClassDecl.fields).filter fun field => !field.card.isZero

/-- The values of an enum and its ancestors. -/
def HasEnumValues (schema : Schema) (decl : EnumDecl) (values : List EnumValue) : Prop :=
  ∃ chain, Lineage schema.enums decl chain ∧ values = chain.flatMap EnumDecl.values

/-- The declaration that a module has for a class or an enum. -/
inductive Declares (schema : Schema) : Decl → Declaration → Prop where
  | record {decl : ClassDecl} {fields : List ClassField}
      (complete : schema.HasRecordFields decl fields) :
      schema.Declares (.classDecl decl)
        ⟨renameType decl.name, decl.annotation, .record (fields.map ClassField.toMember)⟩
  | enumeration {decl : EnumDecl} {values : List EnumValue}
      (complete : schema.HasEnumValues decl values) :
      schema.Declares (.enumDecl decl)
        ⟨renameType decl.name, decl.annotation,
          .enumeration (values.map EnumValue.toConstructor)⟩

/-- No class and no enum comes back to itself along bases. -/
def Acyclic (schema : Schema) : Prop := ¬ HasCycle schema.classes ∧ ¬ HasCycle schema.enums

end Schema

/-- The synthetic fields of a class are those that its tags ask for. -/
theorem ClassDecl.hasSynthetic_iff {decl : ClassDecl} {fields : List ClassField} :
    decl.HasSynthetic fields ↔ fields = decl.syntheticFields := by
  rw [syntheticFields, SyntheticRule.for?]
  constructor
  · rintro (inapplicable | ⟨parts, applies, earlier⟩)
    · rw [List.find?_eq_none.2 fun rule known => by simp [inapplicable rule known]]
      rfl
    · have chosen := List.find?_eq_some_iff_append
        (p := fun rule : SyntheticRule => rule.appliesTo decl).2
        ⟨applies, _, _, parts, fun other inside => by simp [earlier other inside]⟩
      rw [chosen]
      rfl
  · rintro rfl
    cases chosen : SyntheticRule.all.find? fun rule => rule.appliesTo decl with
    | none => exact .none fun rule known => by simpa using List.find?_eq_none.1 chosen rule known
    | some rule =>
        obtain ⟨applies, before, after, parts, earlier⟩ := List.find?_eq_some_iff_append.1 chosen
        exact .first parts applies fun other inside => by simpa using earlier other inside

/-- A synthetic field is always there. -/
theorem SyntheticRule.isZero_field {rule : SyntheticRule} (known : rule ∈ all) :
    rule.field.card.isZero = false := by
  revert rule
  decide

/-- None of them is dropped. -/
theorem ClassDecl.filter_syntheticFields (decl : ClassDecl) :
    (decl.syntheticFields.filter fun field => !field.card.isZero) = decl.syntheticFields := by
  rw [List.filter_eq_self]
  intro field member
  obtain ⟨rule, chosen, rfl⟩ := List.mem_map.1 member
  rw [Option.mem_toList, SyntheticRule.for?] at chosen
  rw [SyntheticRule.isZero_field (List.mem_of_find?_eq_some chosen)]
  rfl

namespace Index

/-- The checks of an index pass exactly when neither kind has a cycle. -/
theorem check_ofSchema_eq_ok_iff (schema : Schema) :
    (ofSchema schema).check = .ok () ↔ schema.Acyclic := by
  have classes : (Registry.ofDecls schema.classes).bases.checkAcyclic "class" = .ok () ↔ _ :=
    Bases.checkAcyclic_eq_ok_iff "class"
  have enums : (Registry.ofDecls schema.enums).bases.checkAcyclic "enum" = .ok () ↔ _ :=
    Bases.checkAcyclic_eq_ok_iff "enum"
  rw [Registry.acyclic_bases_ofDecls] at classes enums
  rw [Schema.Acyclic, ← classes, ← enums, check, ofSchema]
  cases (Registry.ofDecls schema.classes).bases.checkAcyclic "class" with
  | ok _ => simp [bind, Except.bind]
  | error _ => simp [bind, Except.bind]

/-- An index is built when its check passes. -/
theorem result_build (schema : Schema) :
    (build schema).result = (ofSchema schema).check.map fun _ => ofSchema schema := by
  simp only [build, Traced.result_bind, Traced.result_ofExcept]
  cases (ofSchema schema).check <;> rfl

/-- Its check passes exactly when there is no cycle. -/
theorem result_build_eq_ok_iff {schema : Schema} {index : Index} :
    (build schema).result = .ok index ↔ schema.Acyclic ∧ index = ofSchema schema := by
  rw [← check_ofSchema_eq_ok_iff, result_build]
  cases (ofSchema schema).check <;> simp [Except.map, eq_comm]

/-- The synthetic field is found by the name and the tags of the class itself. -/
theorem recordFields_eq (index : Index) (decl : ClassDecl) :
    index.recordFields decl = decl.syntheticFields ++
      (index.classes.inheritedParts decl).filter fun field => !field.card.isZero := by
  change ((decl.syntheticFields ++ index.classes.inheritedParts decl).filter _) = _
  rw [List.filter_append, decl.filter_syntheticFields]

/-- The fields of a record are those of the index. -/
theorem hasRecordFields_ofSchema {schema : Schema} (acyclic : schema.Acyclic) (decl : ClassDecl) :
    schema.HasRecordFields decl ((ofSchema schema).recordFields decl) :=
  ⟨_, _, ClassDecl.hasSynthetic_iff.2 rfl, Registry.lineage_ofDecls acyclic.1 decl,
    recordFields_eq _ decl⟩

/-- So are the values of an enum. -/
theorem hasEnumValues_ofSchema {schema : Schema} (acyclic : schema.Acyclic) (decl : EnumDecl) :
    schema.HasEnumValues decl ((ofSchema schema).enums.inheritedParts decl) :=
  ⟨_, Registry.lineage_ofDecls acyclic.2 decl, rfl⟩

end Index

namespace Schema

/-- A class has one list of fields. -/
theorem HasRecordFields.unique {schema : Schema} {decl : ClassDecl}
    {fields others : List ClassField} (has : schema.HasRecordFields decl fields)
    (hasToo : schema.HasRecordFields decl others) : fields = others := by
  obtain ⟨synthetic, chain, added, lineage, rfl⟩ := has
  obtain ⟨other, another, addedToo, lineageToo, rfl⟩ := hasToo
  rw [lineage.unique lineageToo, ClassDecl.hasSynthetic_iff.1 added,
    ClassDecl.hasSynthetic_iff.1 addedToo]

/-- An enum has one list of values. -/
theorem HasEnumValues.unique {schema : Schema} {decl : EnumDecl} {values others : List EnumValue}
    (has : schema.HasEnumValues decl values) (hasToo : schema.HasEnumValues decl others) :
    values = others := by
  obtain ⟨chain, lineage, rfl⟩ := has
  obtain ⟨other, another, rfl⟩ := hasToo
  rw [lineage.unique another]

/-- The index gives each class and each enum its declaration, and nothing to anything else. -/
theorem declarationOf?_ofSchema {schema : Schema} (acyclic : schema.Acyclic) {decl : Decl}
    (interpreted : decl.isInterpreted = true) :
    ∃ declaration, (Index.ofSchema schema).declarationOf? decl = some declaration ∧
      schema.Declares decl declaration := by
  cases decl with
  | classDecl decl => exact ⟨_, rfl, .record (Index.hasRecordFields_ofSchema acyclic decl)⟩
  | enumDecl decl => exact ⟨_, rfl, .enumeration (Index.hasEnumValues_ofSchema acyclic decl)⟩
  | otherDecl _ => simp [Decl.isInterpreted] at interpreted

/-- The module of a schema has one declaration for each kept one, in the same order. -/
theorem forall₂_declares {schema : Schema} (acyclic : schema.Acyclic) (imports : List Import)
    (name : String) :
    List.Forall₂ schema.Declares (Decl.kept schema.decls)
      (schema.moduleWith (Index.ofSchema schema) imports name).declarations := by
  have interpreted : ∀ decl ∈ Decl.kept schema.decls, decl.isInterpreted = true := by
    intro decl member
    obtain ⟨position, keptAt⟩ := Decl.mem_kept_iff.1 member
    exact keptAt.interpreted
  rw [moduleWith]
  generalize Decl.kept schema.decls = kept at interpreted
  induction kept with
  | nil => exact .nil
  | cons decl rest inductionHypothesis =>
      obtain ⟨declaration, given, declares⟩ :=
        declarationOf?_ofSchema acyclic (interpreted decl List.mem_cons_self)
      rw [List.filterMap_cons_some given]
      exact .cons declares (inductionHypothesis fun other member =>
        interpreted other (List.mem_cons_of_mem decl member))

/-- Two relations between lists one after the other. -/
theorem forall₂_along {First Second Third : Type} {onFirst : First → Second → Prop}
    {onSecond : Second → Third → Prop} {firsts : List First} {seconds : List Second}
    {thirds : List Third} (related : List.Forall₂ onFirst firsts seconds)
    (relatedToo : List.Forall₂ onSecond seconds thirds) :
    List.Forall₂ (fun first third => ∃ second, onFirst first second ∧ onSecond second third)
      firsts thirds := by
  induction related generalizing thirds with
  | nil =>
      cases relatedToo
      exact .nil
  | cons here _ inductionHypothesis =>
      cases relatedToo with
      | cons hereToo rest => exact .cons ⟨_, here, hereToo⟩ (inductionHypothesis rest)

/-- A schema is transformed when its index can be built. -/
theorem result_transform (schema : Schema) (imports : List Import) (name : String) :
    (schema.transform imports name).result =
      (Index.build schema).result.map fun index => schema.moduleWith index imports name := by
  simp only [transform, Traced.result_bind, Traced.result_pure]
  cases (Index.build schema).result <;> rfl

/-- A module holds the declaration of each kept class and enum, in the order of the schema, and
nothing else; no ancestor comes twice in what a class or an enum inherits. -/
structure IsFlattenedIn (schema : Schema) (model : Module) : Prop where
  inOrder : ∃ positions : List Nat, positions.Pairwise (· < ·) ∧
    (∀ position, position ∈ positions ↔ ∃ decl, KeptAt schema.decls position decl) ∧
    List.Forall₂ (fun position declaration => ∃ decl, KeptAt schema.decls position decl ∧
      schema.Declares decl declaration) positions model.declarations
  classChains : ∀ (position : Nat) (decl : ClassDecl),
    KeptAt schema.decls position (.classDecl decl) →
      ∃ chain, Lineage schema.classes decl chain ∧ (chain.map ClassDecl.name).Nodup
  enumChains : ∀ (position : Nat) (decl : EnumDecl),
    KeptAt schema.decls position (.enumDecl decl) →
      ∃ chain, Lineage schema.enums decl chain ∧ (chain.map EnumDecl.name).Nodup

/-- What is made of a schema without cycles is its flattening. -/
theorem isFlattenedIn_moduleWith {schema : Schema} (acyclic : schema.Acyclic)
    (imports : List Import) (name : String) :
    schema.IsFlattenedIn (schema.moduleWith (Index.ofSchema schema) imports name) := by
  refine ⟨?_, fun position decl keptAt => ?_, fun position decl keptAt => ?_⟩
  · obtain ⟨positions, ordered, exact, listed⟩ := Decl.exists_positions_kept schema.decls
    exact ⟨positions, ordered, exact,
      forall₂_along listed (forall₂_declares acyclic imports name)⟩
  · have chain := Registry.lineage_ofDecls acyclic.1 decl
    exact ⟨_, chain, chain.nodup_names acyclic.1 keptAt.declared?_classes⟩
  · have chain := Registry.lineage_ofDecls acyclic.2 decl
    exact ⟨_, chain, chain.nodup_names acyclic.2 keptAt.declared?_enums⟩

/-- Once its index is built, the module of a schema holds all that is declared and inherited. -/
theorem exists_isFlattenedIn_transform {schema : Schema} {index : Index}
    (built : (Index.build schema).result = .ok index) (imports : List Import) (name : String) :
    ∃ model, (schema.transform imports name).result = .ok model ∧ model.name = name ∧
      model.imports = imports ∧ schema.IsFlattenedIn model := by
  obtain ⟨acyclic, rfl⟩ := Index.result_build_eq_ok_iff.1 built
  refine ⟨_, ?_, rfl, rfl, isFlattenedIn_moduleWith acyclic imports name⟩
  rw [result_transform, built]
  rfl

/-- A chain of three classes over an undeclared base, with a class that is declared twice, and a
chain of two enums. -/
def layered : Schema where
  namespaceName := none
  decls := [
    .classDecl ⟨"Root", some "Nowhere", [⟨"first", some "int", .one, .empty, none, by decide⟩],
      .empty, none, by decide⟩,
    .classDecl ⟨"Middle", some "Middle", [], .empty, none, by decide⟩,
    .enumDecl ⟨"Color", none, [⟨"plain", none, none, by decide⟩], none, by decide⟩,
    .classDecl ⟨"Middle", some "Root",
      [⟨"second", some "Shade", .many, .empty, none, by decide⟩,
        ⟨"never", none, ⟨0, some 0, by simp⟩, .empty, none, by decide⟩],
      .empty, none, by decide⟩,
    .enumDecl ⟨"Shade", some "Color", [⟨"dark", none, none, by decide⟩], none, by decide⟩,
    .classDecl ⟨"Leaf", some "Middle", [⟨"third", none, .many, .empty, none, by decide⟩],
      .ofList [keyTag], none, by decide⟩]

theorem exists_isFlattenedIn_transform_layered :
    (Index.build layered).result = .ok (Index.ofSchema layered) ∧
      ∃ model, (layered.transform [] "Model").result = .ok model ∧ model.name = "Model" ∧
        model.imports = [] ∧ layered.IsFlattenedIn model :=
  ⟨rfl, exists_isFlattenedIn_transform rfl [] "Model"⟩

end Schema

end RosettaDaml
