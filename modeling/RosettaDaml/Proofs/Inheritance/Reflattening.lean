/-
This file shows what becomes of a declaration that is flattened again. Its base stays, and so the
parts of its ancestors are put in front of it each time.
-/

import Mathlib.Logic.Function.Iterate
import RosettaDaml.Proofs.Inheritance.Termination

namespace RosettaDaml

/-- Declarations that keep all the rest when parts are put into them. -/
class KeepsRest (Declared : Type) {Part : outParam Type} [Inheriting Declared Part] : Prop
    extends LawfulInheriting Declared where
  base_withParts : ∀ (decl : Declared) (parts : List Part),
    Inheriting.base (Inheriting.withParts decl parts) = Inheriting.base decl
  withParts_withParts : ∀ (decl : Declared) (parts others : List Part),
    Inheriting.withParts (Inheriting.withParts decl parts) others = Inheriting.withParts decl others

instance : KeepsRest ClassDecl := ⟨fun _ _ => rfl, fun _ _ _ => rfl⟩

instance : KeepsRest EnumDecl := ⟨fun _ _ => rfl, fun _ _ _ => rfl⟩

namespace Registry

variable {Declared Part : Type} [Inheriting Declared Part] [KeepsRest Declared]

/-- The ancestors are found through the base alone. -/
theorem ancestors_withParts (registry : Registry Declared) (decl : Declared) (parts : List Part) :
    registry.ancestors (Inheriting.withParts decl parts) = registry.ancestors decl := by
  unfold ancestors
  cases registry.size with
  | zero => rfl
  | succ steps =>
      have sameBase : registry.baseOf? (Inheriting.withParts decl parts) =
          registry.baseOf? decl := by
        rw [baseOf?, KeepsRest.base_withParts, baseOf?]
      rw [ancestorsWithin, ancestorsWithin, sameBase]

theorem ancestors_flatten (registry : Registry Declared) (decl : Declared) :
    registry.ancestors (registry.flatten decl) = registry.ancestors decl :=
  registry.ancestors_withParts decl _

theorem parts_flatten (registry : Registry Declared) (decl : Declared) :
    Inheriting.parts (registry.flatten decl) =
      (registry.ancestors decl).flatMap Inheriting.parts ++ Inheriting.parts decl := by
  rw [flatten, LawfulInheriting.parts_withParts, inheritedParts, lineage, List.flatMap_append,
    List.flatMap_singleton]

/-- Flattening changes nothing exactly where there is nothing to inherit. -/
theorem flatten_eq_self_iff (registry : Registry Declared) (decl : Declared) :
    registry.flatten decl = decl ↔
      ∀ ancestor ∈ registry.ancestors decl, Inheriting.parts ancestor = [] := by
  rw [← List.flatMap_eq_nil_iff]
  constructor
  · intro same
    have parts := registry.parts_flatten decl
    rw [same] at parts
    exact List.self_eq_append_left.1 parts
  · intro nothing
    rw [flatten, inheritedParts, lineage, List.flatMap_append, nothing, List.nil_append,
      List.flatMap_singleton, LawfulInheriting.withParts_parts]

/-- What happens when a declaration is flattened again, with its ancestors from the root on: it
still has its base, each time it gets the parts of all ancestors once more, and it stays the same
only if no ancestor has any. -/
structure RepeatsAncestors (registry : Registry Declared) (decl : Declared)
    (ancestors : List Declared) : Prop where
  base_flatten : Inheriting.base (registry.flatten decl) = Inheriting.base decl
  parts_iterate : ∀ times : Nat, Inheriting.parts (registry.flatten^[times] decl) =
    (List.replicate times (ancestors.flatMap Inheriting.parts)).flatten ++ Inheriting.parts decl
  flatten_flatten_iff : registry.flatten (registry.flatten decl) = registry.flatten decl ↔
    ∀ ancestor ∈ ancestors, Inheriting.parts ancestor = []

theorem repeatsAncestors (registry : Registry Declared) (decl : Declared) :
    registry.RepeatsAncestors decl (registry.ancestors decl) := by
  constructor
  · exact KeepsRest.base_withParts decl _
  · intro times
    induction times generalizing decl with
    | zero => rfl
    | succ times inductionHypothesis =>
        rw [Function.iterate_succ_apply, inductionHypothesis, ancestors_flatten, parts_flatten,
          List.replicate_succ', List.flatten_append, List.flatten_singleton, List.append_assoc]
  · rw [flatten_eq_self_iff, ancestors_flatten]

end Registry

namespace Schema

/-- Once an index is built, flattening a class or an enum again puts the parts of its ancestors in
front of it again. It changes nothing more exactly for those whose ancestors have no parts. -/
theorem repeatsAncestors_of_build {schema : Schema} {index : Index}
    (built : (Index.build schema).result = .ok index) :
    (∀ decl ∈ schema.classes, ∃ ancestors, Lineage schema.classes decl (ancestors ++ [decl]) ∧
      index.classes.RepeatsAncestors decl ancestors) ∧
    ∀ decl ∈ schema.enums, ∃ ancestors, Lineage schema.enums decl (ancestors ++ [decl]) ∧
      index.enums.RepeatsAncestors decl ancestors := by
  obtain ⟨acyclic, rfl⟩ := Index.result_build_eq_ok_iff.1 built
  constructor
  · intro decl _
    exact ⟨_, Registry.lineage_ofDecls acyclic.1 decl, Registry.repeatsAncestors _ decl⟩
  · intro decl _
    exact ⟨_, Registry.lineage_ofDecls acyclic.2 decl, Registry.repeatsAncestors _ decl⟩

/-- The enum `Shade` of `layered` gets the value of `Color` once more. -/
theorem repeatsAncestors_of_build_layered :
    ∃ index decl ancestors, (Index.build layered).result = .ok index ∧ decl ∈ layered.enums ∧
      Lineage layered.enums decl (ancestors ++ [decl]) ∧
      index.enums.RepeatsAncestors decl ancestors ∧
      index.enums.flatten (index.enums.flatten decl) ≠ index.enums.flatten decl := by
  have built : (Index.build layered).result = .ok (Index.ofSchema layered) := rfl
  have stands : (⟨"Shade", some "Color", [⟨"dark", none, none, by decide⟩], none, by decide⟩ :
      EnumDecl) ∈ layered.enums := .tail _ (.head _)
  obtain ⟨ancestors, lineage, repeats⟩ := (repeatsAncestors_of_build built).2 _ stands
  exact ⟨_, _, ancestors, built, stands, lineage, repeats, by decide⟩

/-- A class with one field above a class with another. -/
def twoFields : Schema where
  namespaceName := none
  decls := [
    .classDecl ⟨"Asset", none, [⟨"id", some "string", .one, .empty, none, by decide⟩], .empty, none,
      by decide⟩,
    .classDecl ⟨"Loan", some "Asset", [⟨"amount", some "number", .one, .empty, none, by decide⟩],
      .empty, none, by decide⟩]

/-- The flattened `Loan` still has its base, and it gets the field `id` once more. -/
theorem not_forall_flatten_flatten :
    ¬ ∀ (schema : Schema) (index : Index), (Index.build schema).result = .ok index →
      (∀ decl ∈ schema.classes, index.classes.flatten (index.classes.flatten decl) =
        index.classes.flatten decl) ∧
      ∀ decl ∈ schema.enums, index.enums.flatten (index.enums.flatten decl) =
        index.enums.flatten decl := by
  intro always
  have repeated := (always twoFields (Index.ofSchema twoFields) rfl).1
  revert repeated
  decide

end Schema

end RosettaDaml
