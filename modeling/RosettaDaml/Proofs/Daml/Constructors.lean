/-
This file names the data constructors of declarations and finds them in the text.
-/

import Mathlib.Data.List.Nodup
import Mathlib.Data.List.Pairwise
import RosettaDaml.Consistency.Check
import RosettaDaml.Proofs.Daml.Outcome

namespace RosettaDaml

namespace Declaration

/-- The data constructors of records and enumerations. One without tags has a constructor of its
own name; a tag goes behind the name of its enumeration. -/
def constructorNames (declaration : Declaration) : List String :=
  match declaration.body with
  | .record _ => [declaration.name]
  | .enumeration [] => [declaration.name]
  | .enumeration constructors =>
      constructors.map fun given => s!"{declaration.name}_{given.name}"
  | _ => []

/-- The lines of the text that introduce these data constructors. -/
def constructorLines (declaration : Declaration) : Lines :=
  match declaration.body with
  | .record _ => declaration.constructorNames.map fun given =>
      s!"data {declaration.name} = {given} with"
  | .enumeration [] => declaration.constructorNames.map fun given =>
      s!"data {declaration.name} = {given} ()"
  | .enumeration _ =>
      nest 4 (Daml.blockItems (declaration.constructorNames.map fun given => [s!"{given} ()"]))
  | _ => []

/-- The constructors of an enumeration have its name in front. -/
theorem constructorNames_of_ne_nil {name : String} {comment : Option String}
    {constructors : List Constructor} (inhabited : constructors ≠ []) :
    (Declaration.mk name comment (.enumeration constructors)).constructorNames =
      constructors.map fun given => name ++ "_" ++ given.name := by
  cases constructors with
  | nil => exact absurd rfl inhabited
  | cons first rest => rfl

/-- Different tags give different data constructors. -/
theorem nodup_constructorNames {declaration : Declaration} (plain : declaration.isPlain = true)
    (distinct : declaration.partNames.2.Nodup) : declaration.constructorNames.Nodup := by
  obtain ⟨name, comment, body⟩ := declaration
  cases body with
  | record _ => exact List.nodup_singleton name
  | enumeration constructors =>
      by_cases inhabited : constructors = []
      · subst inhabited
        exact List.nodup_singleton name
      · rw [constructorNames_of_ne_nil inhabited]
        have tags : (constructors.map Constructor.name).Nodup := distinct
        have tagged := tags.map (f := fun tag => name ++ "_" ++ tag) fun first second same =>
          String.toList_injective (by simpa using congrArg String.toList same)
        rwa [List.map_map] at tagged
  | variant _ => simp [isPlain] at plain
  | synonym _ => simp [isPlain] at plain
  | template _ _ => simp [isPlain] at plain

/-- Data constructors are all different when no two declarations share one. -/
theorem nodup_flatMap_constructorNames_iff {declarations : List Declaration}
    (distinct : (declarations.map Declaration.name).Nodup)
    (each : ∀ declaration ∈ declarations, declaration.constructorNames.Nodup) :
    (declarations.flatMap constructorNames).Nodup ↔
      ∀ first ∈ declarations, ∀ second ∈ declarations, ∀ given ∈ first.constructorNames,
        given ∈ second.constructorNames → first = second := by
  rw [List.nodup_flatMap]
  constructor
  · rintro ⟨-, apart⟩ first member second memberToo given inside insideToo
    have symmetric : Std.Symm (Function.onFun List.Disjoint constructorNames) :=
      ⟨fun _ _ disjoint => List.disjoint_symm disjoint⟩
    by_contra differ
    exact apart.forall member memberToo differ inside insideToo
  · intro alone
    refine ⟨each, (List.pairwise_map.1 distinct).imp_of_mem fun member memberToo differ => ?_⟩
    intro given inside insideToo
    exact differ (congrArg name (alone _ member _ memberToo given inside insideToo))

end Declaration

namespace Daml

/-- The first lines of items hang where the items do. -/
theorem sublist_flatMap_hang {lead : String} {firsts : List String} {items : List Lines}
    (begin : List.Forall₂ (fun first item => ∃ rest, item = first :: rest) firsts items) :
    (firsts.flatMap fun first => hang lead [first]).Sublist (items.flatMap (hang lead)) := by
  induction begin with
  | nil => exact .slnil
  | cons here _ inductionHypothesis =>
      obtain ⟨rest, rfl⟩ := here
      rw [List.flatMap_cons, List.flatMap_cons]
      exact .append ((List.nil_sublist _).cons_cons _) inductionHypothesis

/-- The first lines of the items of a block stay in their order. -/
theorem sublist_blockItems {firsts : List String} {items : List Lines}
    (begin : List.Forall₂ (fun first item => ∃ rest, item = first :: rest) firsts items) :
    (blockItems (firsts.map fun first => [first])).Sublist (blockItems items) := by
  cases begin with
  | nil => exact .slnil
  | cons here others =>
      obtain ⟨rest, rfl⟩ := here
      rw [List.map_cons, blockItems, blockItems, List.flatMap_map]
      exact .append ((List.nil_sublist _).cons_cons _) (sublist_flatMap_hang others)

/-- Lines among others are so when all are moved to the right. -/
theorem sublist_nest (amount : Nat) {shorter longer : Lines} (within : shorter.Sublist longer) :
    (nest amount shorter).Sublist (nest amount longer) :=
  within.map _

/-- A constructor is written in the first line of its value. -/
theorem constructor_begins {config : Config} {owner : String} {given : Constructor} {lines : Lines}
    (written : (constructor config owner given).result = .ok lines) :
    ∃ rest, lines = s!"{owner}_{given.name} ()" :: rest := by
  obtain ⟨rest, _, whole⟩ := Traced.result_bind_eq_ok_iff.1 written
  exact ⟨rest, (Except.ok.inj whole).symm⟩

/-- A part of the lines behind a comment comes in the lines of the whole. -/
theorem sublist_behind {comment part lines : Lines} (within : part.Sublist lines) :
    part.Sublist (comment ++ lines) :=
  within.trans (List.sublist_append_right comment lines)

/-- A record has one constructor, in its first line. -/
theorem sublist_record {config : Config} {name : String} {note : Option String}
    {members : List (Member TypeExpr)} {lines : Lines}
    (written : (record config name note members).result = .ok lines) :
    [s!"data {name} = {name} with"].Sublist lines := by
  obtain ⟨comment, _, behind⟩ := Traced.result_bind_eq_ok_iff.1 written
  obtain ⟨fields, _, whole⟩ := Traced.result_bind_eq_ok_iff.1 behind
  obtain rfl := Except.ok.inj whole
  rw [List.append_assoc]
  exact sublist_behind ((List.nil_sublist _).cons_cons _)

/-- So has a placeholder. -/
theorem sublist_placeholder {config : Config} {name : String} {note : Option String} {lines : Lines}
    (written : (placeholder config name note).result = .ok lines) :
    [s!"data {name} = {name} ()"].Sublist lines := by
  rw [placeholder] at written
  cases policy : config.emptyVariant with
  | error => simp [policy] at written
  | placeholder =>
      rw [policy] at written
      obtain ⟨_, _, behind⟩ := Traced.result_bind_eq_ok_iff.1 written
      obtain ⟨comment, _, whole⟩ := Traced.result_bind_eq_ok_iff.1 behind
      obtain rfl := Except.ok.inj whole
      exact sublist_behind ((List.nil_sublist _).cons_cons _)

/-- An enumeration has one for each of its values, in their order. -/
theorem sublist_choices {config : Config} {name : String} {note : Option String}
    {constructors : List Constructor} {lines : Lines}
    (written : (choices config name note
      (Traced.forEach (constructor config name) constructors)).result = .ok lines) :
    (nest 4 (blockItems ((constructors.map fun given => s!"{name}_{given.name}").map
      fun given => [s!"{given} ()"]))).Sublist lines := by
  obtain ⟨items, each, behind⟩ := Traced.result_bind_eq_ok_iff.1 written
  obtain ⟨comment, _, whole⟩ := Traced.result_bind_eq_ok_iff.1 behind
  obtain rfl := Except.ok.inj whole
  have begin : List.Forall₂ (fun first item => ∃ rest, item = first :: rest)
      (constructors.map fun given => s!"{name}_{given.name} ()") items := by
    rw [List.forall₂_map_left_iff]
    exact ((Traced.result_forEach_eq_ok_iff _ _ _).1 each).imp fun _ _ => constructor_begins
  have kept := sublist_blockItems begin
  rw [List.map_map] at kept ⊢
  exact sublist_behind ((sublist_nest 4 (kept.trans (List.sublist_append_left _ _))).cons _)

/-- The text of a declaration has a line for each of its data constructors. -/
theorem sublist_declaration {config : Config} {declaration : Declaration} {lines : Lines}
    (written : (Daml.declaration config declaration).result = .ok lines) :
    declaration.constructorLines.Sublist lines := by
  obtain ⟨name, note, body⟩ := declaration
  cases body with
  | record members => exact sublist_record written
  | enumeration constructors =>
      cases constructors with
      | nil => exact sublist_placeholder written
      | cons first rest =>
          exact sublist_choices written
  | variant _ => exact List.nil_sublist _
  | synonym _ => exact List.nil_sublist _
  | template _ _ => exact List.nil_sublist _

/-- Joined blocks hold the lines of the blocks. -/
theorem sublist_joinBlocks (blocks : List Lines) : blocks.flatten.Sublist (joinBlocks blocks) := by
  fun_induction joinBlocks blocks with
  | case1 => exact .slnil
  | case2 block => simp
  | case3 block rest _ inductionHypothesis =>
      exact .append (.refl block) (inductionHypothesis.cons "")

/-- The constructors of all declarations stand in the blocks of the declarations. -/
theorem sublist_flatten {declarations : List Declaration} {blocks : List Lines}
    (within : List.Forall₂ (fun declaration block => declaration.constructorLines.Sublist block)
      declarations blocks) :
    (declarations.flatMap Declaration.constructorLines).Sublist blocks.flatten := by
  induction within with
  | nil => exact .slnil
  | cons here _ inductionHypothesis => exact .append here inductionHypothesis

/-- The text of a module introduces the data constructors of its declarations in their order. -/
theorem exists_lines_of_render {config : Config} {model : Module} {text : String}
    (written : (render config model).result = .ok text) :
    ∃ lines, text = linesText lines ∧
      (model.declarations.flatMap Declaration.constructorLines).Sublist lines := by
  obtain ⟨front, blocks, joined, each⟩ := exists_blocks_of_render written
  have within := each.imp fun _ _ => sublist_declaration
  refine ⟨_, joined, ((sublist_flatten within).trans ?_).trans (sublist_joinBlocks _)⟩
  rw [List.flatten_append]
  exact List.sublist_append_right _ _

end Daml

end RosettaDaml
