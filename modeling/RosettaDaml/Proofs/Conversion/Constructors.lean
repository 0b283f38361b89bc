/-
This file says for which schemas the data constructors of the text are all different.
-/

import RosettaDaml.Proofs.Conversion.Outcome
import RosettaDaml.Proofs.Daml.Constructors

namespace RosettaDaml

/-- Two names with a tag behind an underscore are equal only when one name goes on into the tag of
the other. -/
theorem tagged_eq_iff {first second : String} (differ : first ≠ second) (tag other : String) :
    first ++ "_" ++ tag = second ++ "_" ++ other ↔
      (∃ middle, second = first ++ "_" ++ middle ∧ tag = middle ++ "_" ++ other) ∨
        ∃ middle, first = second ++ "_" ++ middle ∧ other = middle ++ "_" ++ tag := by
  have separator : "_".toList = ['_'] := rfl
  simp only [← String.toList_inj, String.toList_append, separator, List.append_assoc,
    List.singleton_append]
  rw [List.append_eq_append_iff]
  constructor
  · rintro (⟨apart, longer, rest⟩ | ⟨apart, longer, rest⟩)
    · cases apart with
      | nil => exact absurd (String.toList_injective (by simpa using longer.symm)) differ
      | cons mark middle =>
          obtain ⟨rfl, rest⟩ := List.cons.inj rest
          exact .inl ⟨String.ofList middle, by simpa using longer, by simpa using rest⟩
    · cases apart with
      | nil => exact absurd (String.toList_injective (by simpa using longer)) differ
      | cons mark middle =>
          obtain ⟨rfl, rest⟩ := List.cons.inj rest
          exact .inr ⟨String.ofList middle, by simpa using longer, by simpa using rest⟩
  · rintro (⟨middle, longer, shared⟩ | ⟨middle, longer, shared⟩)
    · exact .inl ⟨'_' :: middle.toList, longer, by rw [shared, List.cons_append]⟩
    · exact .inr ⟨'_' :: middle.toList, longer, by rw [shared, List.cons_append]⟩

theorem ne_tagged (name tag : String) : name ≠ name ++ "_" ++ tag := by
  intro same
  have sameLength := congrArg String.length same
  simp only [String.length_append] at sameLength
  have mark : "_".length = 1 := rfl
  omega

namespace Schema

/-- A class, or an enum without values, has one data constructor, of its own name. -/
inductive IsWhole (schema : Schema) : Decl → Prop where
  | record (decl : ClassDecl) : schema.IsWhole (.classDecl decl)
  | placeholder {decl : EnumDecl} (empty : schema.HasEnumValues decl []) :
      schema.IsWhole (.enumDecl decl)

/-- The data constructors of a class or an enum. -/
inductive Constructs (schema : Schema) : Decl → String → Prop where
  | whole {decl : Decl} {name : String} (isWhole : schema.IsWhole decl)
      (named : decl.emittedName = some name) : schema.Constructs decl name
  | tagged {decl : EnumDecl} {values : List EnumValue} {value : EnumValue}
      (has : schema.HasEnumValues decl values) (member : value ∈ values) :
      schema.Constructs (.enumDecl decl) (renameType decl.name ++ "_" ++ value.name)

/-- Two kept declarations whose data constructors meet: a tagged one is the whole name of the other
declaration, or the name of the other declaration goes on into the tag. -/
inductive ConstructorClash (schema : Schema) : Prop where
  | whole {first second : Nat} {enum : EnumDecl} {values : List EnumValue} {value : EnumValue}
      {decl : Decl} (kept : KeptAt schema.decls first (.enumDecl enum))
      (has : schema.HasEnumValues enum values) (member : value ∈ values)
      (keptToo : KeptAt schema.decls second decl) (isWhole : schema.IsWhole decl)
      (named : decl.emittedName = some (renameType enum.name ++ "_" ++ value.name))
  | overlap {first second : Nat} {enum other : EnumDecl} {values others : List EnumValue}
      {value one : EnumValue} {middle : String}
      (kept : KeptAt schema.decls first (.enumDecl enum))
      (has : schema.HasEnumValues enum values) (member : value ∈ values)
      (keptToo : KeptAt schema.decls second (.enumDecl other))
      (hasToo : schema.HasEnumValues other others) (memberToo : one ∈ others)
      (longer : renameType other.name = renameType enum.name ++ "_" ++ middle)
      (shared : value.name = middle ++ "_" ++ one.name)

theorem mem_constructorNames_iff {schema : Schema} {decl : Decl} {declaration : Declaration}
    (declares : schema.Declares decl declaration) {given : String} :
    given ∈ declaration.constructorNames ↔ schema.Constructs decl given := by
  cases declares with
  | @record decl fields has =>
      rw [Declaration.constructorNames, List.mem_singleton]
      constructor
      · rintro rfl
        exact .whole (.record decl) rfl
      · rintro ⟨_, named⟩
        exact (Option.some.inj named).symm
  | @enumeration decl values has =>
      by_cases inhabited : values = []
      · subst inhabited
        rw [List.map_nil, Declaration.constructorNames, List.mem_singleton]
        constructor
        · rintro rfl
          exact .whole (.placeholder has) rfl
        · rintro (⟨_, named⟩ | ⟨hasToo, member⟩)
          · exact (Option.some.inj named).symm
          · rw [hasToo.unique has] at member
            simp at member
      · rw [Declaration.constructorNames_of_ne_nil (by simpa using inhabited), List.map_map,
          List.mem_map]
        constructor
        · rintro ⟨value, member, rfl⟩
          exact .tagged has member
        · rintro (⟨⟨_⟩ | ⟨empty⟩, _⟩ | ⟨hasToo, member⟩)
          · exact absurd (has.unique empty) inhabited
          · rw [hasToo.unique has] at member
            exact ⟨_, member, rfl⟩

/-- Kept declarations of different names share a data constructor only when they clash. -/
theorem constructorClash_of_constructs {schema : Schema} {first second : Nat} {decl other : Decl}
    (kept : KeptAt schema.decls first decl) (keptToo : KeptAt schema.decls second other)
    (differ : decl.emittedName ≠ other.emittedName) {given : String}
    (constructs : schema.Constructs decl given) (constructsToo : schema.Constructs other given) :
    schema.ConstructorClash := by
  cases constructs with
  | whole isWhole named =>
      cases constructsToo with
      | whole _ namedToo => exact absurd (named.trans namedToo.symm) differ
      | tagged has member => exact .whole keptToo has member kept isWhole named
  | @tagged enum values value has member =>
      generalize meets : renameType enum.name ++ "_" ++ value.name = given at constructsToo
      cases constructsToo with
      | whole isWhole named => exact .whole kept has member keptToo isWhole (meets ▸ named)
      | tagged hasToo memberToo =>
          have names : renameType enum.name ≠ renameType _ := fun same =>
            differ (congrArg some same)
          rcases (tagged_eq_iff names _ _).1 meets with
            ⟨middle, longer, shared⟩ | ⟨middle, longer, shared⟩
          · exact .overlap kept has member keptToo hasToo memberToo longer shared
          · exact .overlap keptToo hasToo memberToo kept has member longer shared

/-- The data constructors of an accepted module are all different exactly when none clash. -/
theorem nodup_constructorNames_moduleOf_iff {schema : Schema} (acyclic : schema.Acyclic)
    (config : Config) (name : String) {strict : Bool} (accepted : ¬ schema.Rejected strict) :
    ((schema.moduleOf config name).declarations.flatMap Declaration.constructorNames).Nodup ↔
      ¬ schema.ConstructorClash := by
  have consistent := schema.isConsistent_of_not_rejected acyclic config name accepted
  have emitted {position decl declaration} :=
    @schema.mem_declarations acyclic config name position decl declaration
  -- The checks keep names apart and the tags of one enum; only two declarations can share more.
  rw [Declaration.nodup_flatMap_constructorNames_iff consistent.distinctNames
    fun declaration member =>
      Declaration.nodup_constructorNames (isPlain_of_mem acyclic config name declaration member)
        (consistent.distinctParts declaration member)]
  constructor
  · intro alone clash
    cases clash with
    | whole kept has member keptToo isWhole named =>
        obtain ⟨declaration, -, declares⟩ := declarationOf?_ofSchema acyclic keptToo.interpreted
        obtain rfl := alone _ (emitted kept (.enumeration has)) _ (emitted keptToo declares) _
          ((mem_constructorNames_iff (.enumeration has)).2 (.tagged has member))
          ((mem_constructorNames_iff declares).2 (.whole isWhole named))
        exact ne_tagged _ _ (Option.some.inj (declares.emittedName.symm.trans named))
    | @overlap _ _ enum other _ _ value one middle kept has member keptToo hasToo memberToo longer
        shared =>
        have meets : renameType enum.name ++ "_" ++ value.name =
            renameType other.name ++ "_" ++ one.name := by
          rw [longer, shared]
          simp only [String.append_assoc]
        have same := alone _ (emitted kept (.enumeration has)) _
          (emitted keptToo (.enumeration hasToo)) _
          ((mem_constructorNames_iff (.enumeration has)).2 (.tagged has member))
          ((mem_constructorNames_iff (.enumeration hasToo)).2 (meets ▸ .tagged hasToo memberToo))
        exact ne_tagged _ _ ((congrArg Declaration.name same).trans longer)
  · intro noClash first member second memberToo given inside insideToo
    obtain ⟨_, decl, kept, declares⟩ := (schema.mem_declarations_iff acyclic config name).1 member
    obtain ⟨_, other, keptToo, declaresToo⟩ :=
      (schema.mem_declarations_iff acyclic config name).1 memberToo
    by_contra differ
    have names : first.name ≠ second.name := fun same =>
      differ (List.inj_on_of_nodup_map consistent.distinctNames member memberToo same)
    rw [mem_constructorNames_iff declares] at inside
    rw [mem_constructorNames_iff declaresToo] at insideToo
    refine noClash (constructorClash_of_constructs kept keptToo ?_ inside insideToo)
    rwa [declares.emittedName, declaresToo.emittedName, Ne, Option.some.injEq]

/-- The text of a conversion introduces the data constructors of its module, which are all different
exactly when none clash. -/
theorem exists_constructors_of_convert {schema : Schema} {config : Config} {name text : String}
    (converted : (schema.convert config name).result = .ok text) :
    ∃ model lines, (schema.build config name).result = .ok model ∧ text = Daml.linesText lines ∧
      (model.declarations.flatMap Declaration.constructorLines).Sublist lines ∧
      ((model.declarations.flatMap Declaration.constructorNames).Nodup ↔
        ¬ schema.ConstructorClash) := by
  obtain ⟨model, built, rendered⟩ := result_convert_eq_ok_iff.1 converted
  obtain ⟨acyclic, accepted, rfl⟩ := result_build_eq_ok_iff.1 built
  obtain ⟨lines, joined, introduced⟩ := Daml.exists_lines_of_render rendered
  exact ⟨_, lines, built, joined, introduced,
    nodup_constructorNames_moduleOf_iff acyclic config name accepted⟩

theorem exists_constructors_of_convert_layered :
    ∃ text, (layered.convert .standard "Model").result = .ok text ∧
      ∃ model lines, (layered.build .standard "Model").result = .ok model ∧
        text = Daml.linesText lines ∧
        (model.declarations.flatMap Declaration.constructorLines).Sublist lines ∧
        ((model.declarations.flatMap Declaration.constructorNames).Nodup ↔
          ¬ layered.ConstructorClash) := by
  obtain ⟨text, converted⟩ := exists_convert_layered
  exact ⟨text, converted, exists_constructors_of_convert converted⟩

/-- An enum whose only value makes the name of a class of it. -/
def overlapping : Schema where
  namespaceName := none
  decls := [
    .enumDecl ⟨"A", none, [⟨"B", none, none, by decide⟩], none, by decide⟩,
    .classDecl ⟨"A_B", none, [], .empty, none, by decide⟩]

/-- Not every text has different data constructors: the value of an enum may make the name of a
class of it. -/
theorem not_forall_nodup_constructorNames :
    ¬ ∀ (schema : Schema) (config : Config) (name text : String) (model : Module),
      (schema.convert config name).result = .ok text →
        (schema.build config name).result = .ok model →
          (model.declarations.flatMap Declaration.constructorNames).Nodup := by
  intro always
  have acyclic : overlapping.Acyclic := (Index.result_build_eq_ok_iff.1 rfl).1
  have accepted : ¬ overlapping.Rejected false :=
    (isAccepted_validate_moduleOf_iff acyclic .standard "Model" false).1 rfl
  obtain ⟨text, converted⟩ := exists_convert_standard acyclic accepted "Model"
  have built : (overlapping.build .standard "Model").result =
      .ok (overlapping.moduleOf .standard "Model") :=
    result_build_of_not_rejected acyclic accepted _
  have distinct := always _ _ _ _ _ converted built
  have names : (overlapping.moduleOf .standard "Model").declarations.flatMap
      Declaration.constructorNames = ["A_B", "A_B"] := rfl
  rw [names] at distinct
  exact absurd distinct (by decide)

end Schema

end RosettaDaml
