/-
This file shows that a schema whose names and annotations hold characters only is converted to a text
of characters.
-/

import RosettaDaml.Proofs.Conversion.Outcome
import RosettaDaml.Proofs.Daml.PlainText
import RosettaDaml.Proofs.Naming

namespace RosettaDaml

open Text (IsPlain)

/-- The texts of a declaration that a module shows: its name, those of its parts, and annotations. -/
def Decl.shownTexts : Decl → List String
  | .classDecl decl => decl.name :: (decl.annotation.toList ++
      decl.fields.flatMap fun field => field.name :: field.annotation.toList)
  | .enumDecl decl => decl.name :: (decl.annotation.toList ++
      decl.values.flatMap fun value => value.name :: value.annotation.toList)
  | .otherDecl _ => []

/-- A schema whose names and annotations hold characters only. -/
def Schema.HoldsCharacters (schema : Schema) : Prop :=
  ∀ decl ∈ schema.decls, ∀ text ∈ decl.shownTexts, IsPlain text

/-- A note that may be missing is plain when it is plain where it is there. -/
theorem isPlainNote_of_mem_toList {note : Option String}
    (plain : ∀ text ∈ note.toList, IsPlain text) : IsPlainNote note :=
  fun text given => plain text (by simp [given])

/-- A new name is one of the table. -/
theorem isPlain_renameWith {renames : List (String × String)} {name : String} (plain : IsPlain name)
    (free : ∀ entry ∈ renames, Text.halfMark ∉ entry.2.toList) : IsPlain (renameWith renames name) := by
  obtain listed | stays := renameWith_cases renames name
  · exact .of_free (free _ listed)
  · rwa [stays]

/-- The new names of types are characters. -/
theorem isPlain_renameType {name : String} (plain : IsPlain name) : IsPlain (renameType name) :=
  isPlain_renameWith plain (by decide)

/-- So are those of fields. -/
theorem isPlain_renameField {name : String} (plain : IsPlain name) : IsPlain (renameField name) :=
  isPlain_renameWith plain (by decide)

/-- Every declaration of a chain is in the list, but for the last one. -/
theorem Lineage.mem_of_mem {Declared Part : Type} [Inheriting Declared Part] {decls : List Declared}
    {decl : Declared} {chain : List Declared} (lineage : Lineage decls decl chain)
    (inside : decl ∈ decls) : ∀ member ∈ chain, member ∈ decls := by
  induction lineage with
  | root _ => exact List.forall_mem_singleton.2 inside
  | child step _ inductionHypothesis =>
      obtain ⟨base, -, found⟩ := parent?_eq_some_iff.1 step
      have above := inductionHypothesis (List.mem_reverse.1 (List.mem_of_find?_eq_some found))
      exact List.forall_mem_append.2 ⟨above, List.forall_mem_singleton.2 inside⟩

namespace Schema.HoldsCharacters

variable {schema : Schema} (plain : schema.HoldsCharacters)

include plain

/-- The texts of a declaration that is kept are texts of the schema. -/
theorem of_keptAt {position : Nat} {decl : Decl} (kept : KeptAt schema.decls position decl) :
    ∀ text ∈ decl.shownTexts, IsPlain text :=
  plain decl (List.mem_of_getElem? kept.stands)

/-- The name that is emitted for a declaration is characters. -/
theorem emittedName {position : Nat} {decl : Decl} {name : String}
    (kept : KeptAt schema.decls position decl) (named : decl.emittedName = some name) :
    IsPlain name := by
  have own := plain.of_keptAt kept
  cases decl with
  | classDecl decl =>
      obtain rfl := Option.some.inj named
      exact isPlain_renameType (own _ List.mem_cons_self)
  | enumDecl decl =>
      obtain rfl := Option.some.inj named
      exact isPlain_renameType (own _ List.mem_cons_self)
  | otherDecl decl => exact absurd named (by simp [Decl.emittedName])

/-- So are the name and the note of a field. -/
theorem field {decl : ClassDecl} (inside : decl ∈ schema.classes) {field : ClassField}
    (member : field ∈ decl.fields) : IsPlain field.name ∧ IsPlainNote field.annotation := by
  obtain ⟨given, known, picked⟩ := List.mem_filterMap.1 inside
  cases given with
  | classDecl given =>
      obtain rfl := Option.some.inj picked
      have texts : ∀ text ∈ field.name :: field.annotation.toList, IsPlain text :=
        fun text here => plain _ known text (List.mem_cons_of_mem _
          (List.mem_append_right _ (List.mem_flatMap_of_mem member here)))
      obtain ⟨named, noted⟩ := List.forall_mem_cons.1 texts
      exact ⟨named, isPlainNote_of_mem_toList noted⟩
  | enumDecl | otherDecl => exact absurd picked (by simp)

/-- And those of a value. -/
theorem value {decl : EnumDecl} (inside : decl ∈ schema.enums) {value : EnumValue}
    (member : value ∈ decl.values) : IsPlain value.name ∧ IsPlainNote value.annotation := by
  obtain ⟨given, known, picked⟩ := List.mem_filterMap.1 inside
  cases given with
  | enumDecl given =>
      obtain rfl := Option.some.inj picked
      have texts : ∀ text ∈ value.name :: value.annotation.toList, IsPlain text :=
        fun text here => plain _ known text (List.mem_cons_of_mem _
          (List.mem_append_right _ (List.mem_flatMap_of_mem member here)))
      obtain ⟨named, noted⟩ := List.forall_mem_cons.1 texts
      exact ⟨named, isPlainNote_of_mem_toList noted⟩
  | classDecl | otherDecl => exact absurd picked (by simp)

omit plain in
/-- The synthetic fields hold characters. -/
theorem syntheticField {rule : SyntheticRule} (known : rule ∈ SyntheticRule.all) :
    IsPlain rule.field.name ∧ IsPlainNote rule.field.annotation := by
  have free : Text.halfMark ∉ rule.field.name.toList ∧
      ∀ text ∈ rule.field.annotation.toList, Text.halfMark ∉ text.toList := by
    revert rule
    decide
  exact ⟨.of_free free.1, isPlainNote_of_mem_toList fun text here => .of_free (free.2 text here)⟩

/-- So do all fields of a record. -/
theorem recordField {position : Nat} {decl : ClassDecl} {fields : List ClassField}
    (kept : KeptAt schema.decls position (.classDecl decl)) (has : schema.HasRecordFields decl fields) :
    ∀ field ∈ fields, IsPlain field.name ∧ IsPlainNote field.annotation := by
  obtain ⟨synthetic, chain, hasSynthetic, lineage, rfl⟩ := has
  have inside : decl ∈ schema.classes :=
    List.mem_filterMap.2 ⟨_, List.mem_of_getElem? kept.stands, rfl⟩
  refine List.forall_mem_append.2 ⟨fun field member => ?_, fun field member => ?_⟩
  · cases hasSynthetic with
    | none => exact absurd member (by simp)
    | @first before after rule parts =>
        obtain rfl := List.mem_singleton.1 member
        refine syntheticField ?_
        rw [parts]
        exact List.mem_append_right before List.mem_cons_self
  · obtain ⟨owner, above, member⟩ := List.mem_flatMap.1 (List.mem_filter.1 member).1
    exact plain.field (lineage.mem_of_mem inside owner above) member

/-- And all values of an enum. -/
theorem enumValue {position : Nat} {decl : EnumDecl} {values : List EnumValue}
    (kept : KeptAt schema.decls position (.enumDecl decl)) (has : schema.HasEnumValues decl values) :
    ∀ value ∈ values, IsPlain value.name ∧ IsPlainNote value.annotation := by
  obtain ⟨chain, lineage, rfl⟩ := has
  have inside : decl ∈ schema.enums :=
    List.mem_filterMap.2 ⟨_, List.mem_of_getElem? kept.stands, rfl⟩
  intro value member
  obtain ⟨owner, above, member⟩ := List.mem_flatMap.1 member
  exact plain.value (lineage.mem_of_mem inside owner above) member

/-- What a declaration of the module is called and noted with. -/
theorem ofDeclares {position : Nat} {decl : Decl} {declaration : Declaration}
    (kept : KeptAt schema.decls position decl) (declares : schema.Declares decl declaration)
    (typed : ∀ member ∈ declaration.members, ∀ name ∈ member.type.nominalNames, IsPlain name) :
    (∀ name ∈ declaration.names, IsPlain name) ∧ ∀ note ∈ declaration.notes, IsPlainNote note := by
  have named := plain.emittedName kept declares.emittedName
  have noted {note : Option String} {rest : List String} {name : String}
      (texts : ∀ text ∈ name :: (note.toList ++ rest), IsPlain text) : IsPlainNote note :=
    isPlainNote_of_mem_toList fun text here =>
      texts text (List.mem_cons_of_mem _ (List.mem_append_left _ here))
  cases declares with
  | record has =>
      have fields := plain.recordField kept has
      refine ⟨List.forall_mem_cons.2 ⟨named, fun name member => ?_⟩,
        List.forall_mem_cons.2 ⟨noted (plain.of_keptAt kept), fun note member => ?_⟩⟩
      · obtain ⟨owner, inside, here⟩ := List.mem_flatMap.1 member
        obtain ⟨field, known, rfl⟩ := List.mem_map.1 inside
        obtain rfl | here := List.mem_cons.1 here
        · exact isPlain_renameField (fields field known).1
        · exact typed _ inside name here
      · obtain ⟨owner, inside, rfl⟩ := List.mem_map.1 member
        obtain ⟨field, known, rfl⟩ := List.mem_map.1 inside
        exact (fields field known).2
  | enumeration has =>
      have values := plain.enumValue kept has
      refine ⟨List.forall_mem_cons.2 ⟨named, fun name member => ?_⟩,
        List.forall_mem_cons.2 ⟨noted (plain.of_keptAt kept), fun note member => ?_⟩⟩
      · obtain ⟨owner, inside, rfl⟩ := List.mem_map.1 member
        obtain ⟨value, known, rfl⟩ := List.mem_map.1 inside
        exact (values value known).1
      · obtain ⟨owner, inside, rfl⟩ := List.mem_map.1 member
        obtain ⟨value, known, rfl⟩ := List.mem_map.1 inside
        exact (values value known).2

/-- An accepted module refers to names of declarations only, so that its types hold characters too. -/
theorem moduleOf (acyclic : schema.Acyclic) {config : Config} (accepted : ¬ schema.Rejected config.strict)
    (imported : ∀ given ∈ config.moduleImports, ∀ name ∈ given.names, IsPlain name) {name : String}
    (named : IsPlain name) : (schema.moduleOf config name).HoldsCharacters := by
  have consistent := schema.isConsistent_of_not_rejected acyclic config name accepted
  have each : ∀ declaration ∈ (schema.moduleOf config name).declarations,
      (∀ name ∈ declaration.names, IsPlain name) ∧
        ∀ note ∈ declaration.notes, IsPlainNote note := by
    intro declaration member
    obtain ⟨position, decl, kept, declares⟩ :=
      (schema.mem_declarations_iff acyclic config name).1 member
    refine plain.ofDeclares kept declares fun owner inside type here => ?_
    -- A name in a type is that of a declaration, as the references have been checked.
    have declared := consistent.resolved declaration member (type, declaration.memberPath owner)
      (List.mem_append_left _ (List.mem_flatMap_of_mem inside (List.mem_map_of_mem here)))
    obtain ⟨place, other, keptToo, emitted⟩ :=
      (schema.mem_declarationNames_iff acyclic config name).1 declared
    exact plain.emittedName keptToo emitted
  refine ⟨List.forall_mem_cons.2 ⟨named, List.forall_mem_append.2 ⟨?_, ?_⟩⟩, ?_, ?_⟩
  · intro name member
    obtain ⟨given, inside, here⟩ := List.mem_flatMap.1 member
    exact imported given inside name here
  · intro name member
    obtain ⟨declaration, inside, here⟩ := List.mem_flatMap.1 member
    exact (each declaration inside).1 name here
  · intro text given
    obtain rfl := Option.some.inj given
    exact .of_free (by decide)
  · intro note member
    obtain ⟨declaration, inside, here⟩ := List.mem_flatMap.1 member
    exact (each declaration inside).2 note here

end Schema.HoldsCharacters

/-- A schema of characters becomes a text of characters. -/
theorem Schema.HoldsCharacters.of_convert {schema : Schema} (plain : schema.HoldsCharacters)
    {config : Config} (room : config.HasRoom) (allowed : config.emptyVariant = .placeholder)
    (imported : ∀ given ∈ config.moduleImports, ∀ name ∈ given.names, IsPlain name) {name text : String}
    (named : IsPlain name) (converted : (schema.convert config name).result = .ok text) :
    IsPlain text := by
  obtain ⟨model, built, written⟩ := Schema.result_convert_eq_ok_iff.1 converted
  obtain ⟨acyclic, accepted, rfl⟩ := Schema.result_build_eq_ok_iff.1 built
  have renderable : (schema.moduleOf config name).isRenderable = true :=
    List.all_eq_true.2 fun declaration member =>
      Declaration.isRenderable_of_isPlain (Schema.isPlain_of_mem acyclic config name declaration member)
  exact (plain.moduleOf acyclic accepted imported named).of_render room allowed renderable written

end RosettaDaml
