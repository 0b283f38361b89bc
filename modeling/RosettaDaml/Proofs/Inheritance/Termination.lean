/-
This file shows that flattening comes to an end on every declaration once an index is built.
-/

import RosettaDaml.Proofs.Flattening

namespace RosettaDaml

open Relation

/-- Declarations whose parts are what was last put into them. -/
class LawfulInheriting (Declared : Type) {Part : outParam Type} [Inheriting Declared Part] :
    Prop where
  parts_withParts : ∀ (decl : Declared) (parts : List Part),
    Inheriting.parts (Inheriting.withParts decl parts) = parts
  withParts_parts : ∀ decl : Declared, Inheriting.withParts decl (Inheriting.parts decl) = decl

instance : LawfulInheriting ClassDecl := ⟨fun _ _ => rfl, fun _ => rfl⟩

instance : LawfulInheriting EnumDecl := ⟨fun _ _ => rfl, fun _ => rfl⟩

namespace Registry

variable {Declared Part : Type} [Inheriting Declared Part]

/-- A chain of bases ends at a declaration without a base or with one that has no entry. -/
def IsRoot (registry : Registry Declared) (decl : Declared) : Prop :=
  ∀ base, Inheriting.base decl = some base → registry.get? base = none

/-- A finite run of flattening on a declaration, with the entries it looks up one after the other
and with its result. A root stays as it is; anything else gets the parts of its flattened base in
front of its own. -/
inductive Flattens (registry : Registry Declared) : Declared → List Declared → Declared → Prop where
  | root {decl : Declared} (isRoot : registry.IsRoot decl) : Flattens registry decl [] decl
  | child {decl entry inherited : Declared} {base : String} {visited : List Declared}
      (hasBase : Inheriting.base decl = some base) (found : registry.get? base = some entry)
      (above : Flattens registry entry visited inherited) :
      Flattens registry decl (entry :: visited)
        (Inheriting.withParts decl (Inheriting.parts inherited ++ Inheriting.parts decl))

/-- A walk over entries that ends at a root, that is no longer than there are entries and that
comes to none of them twice, nor back to the entry where it starts. -/
structure IsWalk (registry : Registry Declared) (decl : Declared) (visited : List Declared) :
    Prop where
  entries : ∀ entry ∈ visited, registry.get? (Inheriting.name entry) = some entry
  ends : registry.IsRoot (visited.getLastD decl)
  atMost : visited.length ≤ registry.size
  distinct : (visited.map Inheriting.name).Nodup
  noReturn : registry.get? (Inheriting.name decl) = some decl →
    Inheriting.name decl ∉ visited.map Inheriting.name

theorem isRoot_ofDecls_iff {decls : List Declared} {decl : Declared} :
    (ofDecls decls).IsRoot decl ↔ parent? decls decl = none := by
  rw [IsRoot, parent?, Option.bind_eq_none_iff]
  simp only [get?_ofDecls]

namespace Flattens

variable {decls : List Declared} {decl flat : Declared} {visited : List Declared}

theorem isRoot_getLastD {registry : Registry Declared} (run : registry.Flattens decl visited flat) :
    registry.IsRoot (visited.getLastD decl) := by
  induction run with
  | root isRoot => exact isRoot
  | child _ _ _ inductionHypothesis => rwa [List.getLastD_cons]

/-- What a run looks up are entries under their own names. -/
theorem get?_of_mem (run : (ofDecls decls).Flattens decl visited flat) :
    ∀ entry ∈ visited, (ofDecls decls).get? (Inheriting.name entry) = some entry := by
  induction run with
  | root _ => simp
  | child _ found _ inductionHypothesis =>
      refine List.forall_mem_cons.2 ⟨?_, inductionHypothesis⟩
      have named := name_of_declared? ((get?_ofDecls decls _).symm.trans found)
      rwa [named]

/-- A run on an entry leads along bases to the name of everything it looks up. -/
theorem reaches (run : (ofDecls decls).Flattens decl visited flat)
    (isEntry : (ofDecls decls).get? (Inheriting.name decl) = some decl) :
    ∀ entry ∈ visited,
      TransGen (InheritsFrom decls) (Inheriting.name decl) (Inheriting.name entry) := by
  induction run with
  | root _ => simp
  | @child decl entry _ base _ hasBase found _ inductionHypothesis =>
      rw [get?_ofDecls] at isEntry found
      have named := name_of_declared? found
      have step : InheritsFrom decls (Inheriting.name decl) (Inheriting.name entry) :=
        ⟨decl, isEntry, named ▸ hasBase⟩
      refine List.forall_mem_cons.2 ⟨.single step, fun later member => .head step ?_⟩
      exact inductionHypothesis (by rw [get?_ofDecls, named, found]) later member

/-- Without cycles a run comes back neither to an entry it has looked up nor to the one where it
starts, and so it is no longer than there are entries. -/
theorem isWalk (acyclic : ¬ HasCycle decls) (run : (ofDecls decls).Flattens decl visited flat) :
    (ofDecls decls).IsWalk decl visited := by
  -- What comes after an entry is reached from it, and so it does not have its name.
  have noReturn {start result : Declared} {entries : List Declared}
      (runToo : (ofDecls decls).Flattens start entries result)
      (isEntry : (ofDecls decls).get? (Inheriting.name start) = some start) :
      Inheriting.name start ∉ entries.map Inheriting.name := by
    intro again
    obtain ⟨entry, member, same⟩ := List.mem_map.1 again
    exact acyclic ⟨_, same ▸ runToo.reaches isEntry entry member⟩
  have distinct : (visited.map Inheriting.name).Nodup := by
    induction run with
    | root _ => exact .nil
    | child hasBase found above inductionHypothesis =>
        have isEntry := (Flattens.child hasBase found above).get?_of_mem _ List.mem_cons_self
        exact List.nodup_cons.2 ⟨noReturn above isEntry, inductionHypothesis⟩
  refine ⟨run.get?_of_mem, run.isRoot_getLastD, ?_, distinct, noReturn run⟩
  rw [← List.length_map Inheriting.name]
  refine (ofDecls decls).length_le_size distinct fun name member => ?_
  obtain ⟨entry, inside, rfl⟩ := List.mem_map.1 member
  rw [← OrderedMap.get?_isSome_iff, run.get?_of_mem entry inside]
  rfl

/-- A run on an entry shows that the bases come to an end from its name. -/
theorem ends (run : (ofDecls decls).Flattens decl visited flat)
    (isEntry : (ofDecls decls).get? (Inheriting.name decl) = some decl) :
    (ofDecls decls).bases.Ends (Inheriting.name decl) := by
  induction run with
  | root isRoot =>
      rw [get?_ofDecls] at isEntry
      refine .intro _ fun base step => .intro _ fun next onward => ?_
      rw [extends_bases_ofDecls] at step onward
      obtain ⟨_, found, hasBase⟩ := step
      obtain rfl := Option.some.inj (isEntry.symm.trans found)
      obtain ⟨entry, foundToo, -⟩ := onward
      rw [← get?_ofDecls, isRoot base hasBase] at foundToo
      simp at foundToo
  | child hasBase found _ inductionHypothesis =>
      rw [get?_ofDecls] at isEntry found
      have named := name_of_declared? found
      refine .intro _ fun next step => ?_
      rw [extends_bases_ofDecls] at step
      obtain ⟨_, foundToo, hasNext⟩ := step
      obtain rfl := Option.some.inj (isEntry.symm.trans foundToo)
      obtain rfl := Option.some.inj (hasBase.symm.trans hasNext)
      have entryEnds := inductionHypothesis (by rw [get?_ofDecls, named, found])
      rwa [named] at entryEnds

end Flattens

/-- The run of flattening goes up the chain of bases. -/
theorem exists_flattens_of_lineage [LawfulInheriting Declared] {decls : List Declared}
    {decl : Declared} {chain : List Declared} (lineage : Lineage decls decl chain) :
    ∃ visited, (ofDecls decls).Flattens decl visited
      (Inheriting.withParts decl (chain.flatMap Inheriting.parts)) := by
  induction lineage with
  | @root decl ends =>
      refine ⟨[], ?_⟩
      rw [List.flatMap_singleton, LawfulInheriting.withParts_parts]
      exact .root (isRoot_ofDecls_iff.2 ends)
  | @child decl parent chain step _ inductionHypothesis =>
      obtain ⟨visited, run⟩ := inductionHypothesis
      obtain ⟨base, hasBase, found⟩ := parent?_eq_some_iff.1 step
      rw [← get?_ofDecls] at found
      refine ⟨parent :: visited, ?_⟩
      have runToo := Flattens.child hasBase found run
      rwa [LawfulInheriting.parts_withParts, ← List.flatMap_singleton Inheriting.parts decl,
        ← List.flatMap_append] at runToo

/-- Without cycles flattening ends on every declaration, also on one that is no entry. -/
theorem exists_flattens [LawfulInheriting Declared] {decls : List Declared}
    (acyclic : ¬ HasCycle decls) (decl : Declared) :
    ∃ visited, (ofDecls decls).Flattens decl visited ((ofDecls decls).flatten decl) ∧
      (ofDecls decls).IsWalk decl visited := by
  obtain ⟨visited, run⟩ := exists_flattens_of_lineage (lineage_ofDecls acyclic decl)
  exact ⟨visited, run, run.isWalk acyclic⟩

/-- Flattening ends on all declarations exactly when there is no cycle, so that the check of an
index refuses nothing that could be flattened. -/
theorem not_hasCycle_iff [LawfulInheriting Declared] {decls : List Declared} :
    ¬ HasCycle decls ↔
      ∀ decl ∈ decls, ∃ visited flat, (ofDecls decls).Flattens decl visited flat := by
  constructor
  · intro acyclic decl _
    obtain ⟨visited, run, -⟩ := exists_flattens acyclic decl
    exact ⟨visited, _, run⟩
  · rintro runs ⟨name, returns⟩
    obtain ⟨base, ⟨decl, found, -⟩, -⟩ := TransGen.head'_iff.1 returns
    obtain rfl := name_of_declared? found
    have member : decl ∈ decls := List.mem_reverse.1 (List.mem_of_find?_eq_some found)
    obtain ⟨visited, flat, run⟩ := runs decl member
    refine (run.ends (by rw [get?_ofDecls, found])).not_returns ?_
    rwa [extends_bases_ofDecls]

end Registry

/-- Once an index is built, flattening ends on every class and every enum with a walk over different
entries. This holds of superseded declarations too, whose own bases are not looked at by the checks
of the index. -/
theorem Schema.exists_flattens_of_build {schema : Schema} {index : Index}
    (built : (Index.build schema).result = .ok index) :
    (∀ decl ∈ schema.classes, ∃ visited,
      index.classes.Flattens decl visited (index.classes.flatten decl) ∧
        index.classes.IsWalk decl visited) ∧
    ∀ decl ∈ schema.enums, ∃ visited,
      index.enums.Flattens decl visited (index.enums.flatten decl) ∧
        index.enums.IsWalk decl visited := by
  obtain ⟨acyclic, rfl⟩ := Index.result_build_eq_ok_iff.1 built
  exact ⟨fun decl _ => Registry.exists_flattens acyclic.1 decl,
    fun decl _ => Registry.exists_flattens acyclic.2 decl⟩

/-- The first `Middle` of `layered`, which names itself as its base, is superseded by a second one
above which there is only `Root`. -/
theorem Schema.exists_flattens_of_build_layered :
    ∃ index decl visited, (Index.build layered).result = .ok index ∧ decl ∈ layered.classes ∧
      decl.base = some decl.name ∧
      index.classes.Flattens decl visited (index.classes.flatten decl) ∧
      index.classes.IsWalk decl visited := by
  have built : (Index.build layered).result = .ok (Index.ofSchema layered) := rfl
  have stands : (⟨"Middle", some "Middle", [], .empty, none, by decide⟩ : ClassDecl) ∈
      layered.classes := .tail _ (.head _)
  obtain ⟨visited, run, isWalk⟩ := (exists_flattens_of_build built).1 _ stands
  exact ⟨_, _, visited, built, stands, rfl, run, isWalk⟩

end RosettaDaml
