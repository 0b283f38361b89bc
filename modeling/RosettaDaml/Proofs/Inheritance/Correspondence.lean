/-
This file shows that lineages depend on nothing but the last declaration of each name.
-/

import RosettaDaml.Proofs.Inheritance.Chain

namespace RosettaDaml

/-- A change of declarations and of their parts that keeps names and bases. -/
structure Change (Declared : Type) {Part : Type} [Inheriting Declared Part] where
  onDecl : Declared → Declared
  onPart : Part → Part
  name : ∀ decl, Inheriting.name (onDecl decl) = Inheriting.name decl
  base : ∀ decl, Inheriting.base (onDecl decl) = Inheriting.base decl
  parts : ∀ decl, Inheriting.parts (onDecl decl) = (Inheriting.parts decl).map onPart

variable {Declared Part : Type} [Inheriting Declared Part]

/-- The change that leaves everything as it is. -/
def Change.keep : Change Declared :=
  ⟨id, id, fun _ => rfl, fun _ => rfl, fun _ => (List.map_id _).symm⟩

/-- Both lists have the same last declaration of each name, up to a change. -/
def Corresponds (change : Change Declared) (decls others : List Declared) : Prop :=
  ∀ name, declared? others name = (declared? decls name).map change.onDecl

/-- Declarations correspond to what they are changed to. -/
theorem Change.corresponds_map (change : Change Declared) (decls : List Declared) :
    Corresponds change decls (decls.map change.onDecl) := by
  intro name
  have sameName : (fun decl => Inheriting.name decl == name) ∘ change.onDecl =
      fun decl => Inheriting.name decl == name := by
    funext decl
    rw [Function.comp_apply, change.name]
  rw [declared?, declared?, ← List.map_reverse, List.find?_map, sameName]

/-- Where no name comes twice, the last declaration of a name is the only one. -/
theorem declared?_eq_some_iff_of_nodup {decls : List Declared}
    (distinct : (decls.map Inheriting.name).Nodup) {name : String} {decl : Declared} :
    declared? decls name = some decl ↔ decl ∈ decls ∧ Inheriting.name decl = name := by
  constructor
  · intro found
    exact ⟨List.mem_reverse.1 (List.mem_of_find?_eq_some found), name_of_declared? found⟩
  · rintro ⟨member, rfl⟩
    obtain ⟨before, after, rfl⟩ := List.append_of_mem member
    refine declared?_eq_some_of_last fun later inside same => ?_
    rw [List.map_append, List.map_cons, List.nodup_append, List.nodup_cons] at distinct
    exact distinct.2.1.1 (same ▸ List.mem_map_of_mem inside)

/-- The order of declarations does not matter where no name comes twice. -/
theorem corresponds_of_perm {decls others : List Declared}
    (distinct : (decls.map Inheriting.name).Nodup) (reordered : others.Perm decls) :
    Corresponds .keep decls others := by
  have distinctToo : (others.map Inheriting.name).Nodup :=
    ((reordered.map Inheriting.name).nodup_iff).2 distinct
  intro name
  refine Option.ext fun decl => ?_
  rw [Change.keep, Option.map_id, id, declared?_eq_some_iff_of_nodup distinct,
    declared?_eq_some_iff_of_nodup distinctToo, reordered.mem_iff]

namespace Corresponds

variable {change : Change Declared} {decls others : List Declared}
  (corresponds : Corresponds change decls others)

include corresponds

/-- The parent of a changed declaration is the changed parent. -/
theorem parent?_onDecl (decl : Declared) :
    parent? others (change.onDecl decl) = (parent? decls decl).map change.onDecl := by
  rw [parent?, parent?, change.base, funext corresponds, Option.map_bind]
  rfl

/-- So the same names inherit from the same. -/
theorem inheritsFrom_eq : InheritsFrom others = InheritsFrom decls := by
  funext name base
  simp only [InheritsFrom, corresponds name, Option.map_eq_some_iff, eq_iff_iff]
  constructor
  · rintro ⟨_, ⟨decl, found, rfl⟩, hasBase⟩
    exact ⟨decl, found, (change.base decl).symm.trans hasBase⟩
  · rintro ⟨decl, found, hasBase⟩
    exact ⟨change.onDecl decl, ⟨decl, found, rfl⟩, (change.base decl).trans hasBase⟩

/-- And there is a cycle exactly when there was one. -/
theorem hasCycle_iff : HasCycle others ↔ HasCycle decls := by
  rw [HasCycle, HasCycle, corresponds.inheritsFrom_eq]

/-- The lineage of a changed declaration is changed one by one. -/
theorem lineage_map {decl : Declared} {chain : List Declared}
    (lineage : Lineage decls decl chain) :
    Lineage others (change.onDecl decl) (chain.map change.onDecl) := by
  induction lineage with
  | @root decl ends =>
      refine .root ?_
      rw [corresponds.parent?_onDecl, ends]
      rfl
  | @child decl base chain step _ inductionHypothesis =>
      rw [List.map_append, List.map_singleton]
      refine .child ?_ inductionHypothesis
      rw [corresponds.parent?_onDecl, step]
      rfl

/-- What is inherited changes with the declarations. -/
theorem inheritedParts_onDecl (acyclic : ¬ HasCycle decls) (decl : Declared) :
    (Registry.ofDecls others).inheritedParts (change.onDecl decl) =
      ((Registry.ofDecls decls).inheritedParts decl).map change.onPart := by
  have changed := corresponds.lineage_map (Registry.lineage_ofDecls acyclic decl)
  have acyclicToo : ¬ HasCycle others := mt corresponds.hasCycle_iff.1 acyclic
  have found := Registry.lineage_ofDecls acyclicToo (change.onDecl decl)
  rw [Registry.inheritedParts, found.unique changed, List.flatMap_map, funext change.parts,
    ← List.map_flatMap]
  rfl

end Corresponds

end RosettaDaml
