/-
This file shows that, without cycles, the lineage of a declaration is its whole chain of bases.
-/

import RosettaDaml.Proofs.Inheritance.CycleSearch

namespace RosettaDaml

open Relation

variable {Declared Part : Type} [Inheriting Declared Part]

/-- The last declaration of the base, where a declaration has one that is declared. -/
def parent? (decls : List Declared) (decl : Declared) : Option Declared :=
  (Inheriting.base decl).bind (declared? decls)

/-- This relation leads from a name to the base that its last declaration gives it. -/
def InheritsFrom (decls : List Declared) (name base : String) : Prop :=
  ∃ decl, declared? decls name = some decl ∧ Inheriting.base decl = some base

/-- Some name comes back to itself along the bases of last declarations. -/
def HasCycle (decls : List Declared) : Prop := ∃ name, TransGen (InheritsFrom decls) name name

/-- The chain of a declaration holds its ancestors, the root first, and then itself. A base that
is not declared ends the chain. -/
inductive Lineage (decls : List Declared) : Declared → List Declared → Prop where
  | root {decl : Declared} (ends : parent? decls decl = none) : Lineage decls decl [decl]
  | child {decl base : Declared} {chain : List Declared} (step : parent? decls decl = some base)
      (above : Lineage decls base chain) : Lineage decls decl (chain ++ [decl])

theorem parent?_eq_some_iff {decls : List Declared} {decl parent : Declared} :
    parent? decls decl = some parent ↔
      ∃ base, Inheriting.base decl = some base ∧ declared? decls base = some parent :=
  Option.bind_eq_some_iff

namespace Lineage

variable {decls : List Declared} {decl : Declared} {chain : List Declared}

/-- A declaration has one chain. -/
theorem unique {other : List Declared} (lineage : Lineage decls decl chain)
    (another : Lineage decls decl other) : chain = other := by
  induction lineage generalizing other with
  | root ends =>
      cases another with
      | root _ => rfl
      | child step _ => simp [ends] at step
  | child step _ inductionHypothesis =>
      cases another with
      | root ends => simp [ends] at step
      | child stepToo above =>
          obtain rfl := Option.some.inj (step.symm.trans stepToo)
          rw [inductionHypothesis above]

/-- Every name of a chain is reached from the last one along bases. -/
theorem reaches (lineage : Lineage decls decl chain)
    (last : declared? decls (Inheriting.name decl) = some decl) :
    ∀ member ∈ chain,
      ReflTransGen (InheritsFrom decls) (Inheriting.name decl) (Inheriting.name member) := by
  induction lineage with
  | root _ =>
      intro member inside
      rw [List.mem_singleton.1 inside]
  | child step _ inductionHypothesis =>
      intro member inside
      obtain ⟨base, hasBase, found⟩ := parent?_eq_some_iff.1 step
      have baseName := name_of_declared? found
      rcases List.mem_append.1 inside with above | itself
      · refine .head ⟨_, last, hasBase⟩ ?_
        have onward := inductionHypothesis (by rw [baseName]; exact found) member above
        rwa [baseName] at onward
      · rw [List.mem_singleton.1 itself]

/-- Without cycles no name comes twice in the chain of a last declaration. -/
theorem nodup_names (acyclic : ¬ HasCycle decls) (lineage : Lineage decls decl chain)
    (last : declared? decls (Inheriting.name decl) = some decl) :
    (chain.map Inheriting.name).Nodup := by
  induction lineage with
  | root _ => simp
  | @child decl parent chain step above inductionHypothesis =>
      obtain ⟨base, hasBase, found⟩ := parent?_eq_some_iff.1 step
      have lastParent : declared? decls (Inheriting.name parent) = some parent := by
        rw [name_of_declared? found]
        exact found
      rw [List.map_append, List.map_singleton, List.nodup_append_comm, List.singleton_append,
        List.nodup_cons]
      refine ⟨?_, inductionHypothesis lastParent⟩
      intro again
      obtain ⟨member, inside, sameName⟩ := List.mem_map.1 again
      have onward := above.reaches lastParent member inside
      rw [sameName, name_of_declared? found] at onward
      exact acyclic ⟨_, .head' ⟨decl, last, hasBase⟩ onward⟩

end Lineage

namespace Registry

theorem baseOf?_ofDecls (decls : List Declared) (decl : Declared) :
    (ofDecls decls).baseOf? decl = parent? decls decl := by
  rw [baseOf?, parent?]
  congr 1
  funext name
  exact get?_ofDecls decls name

theorem extends_bases_ofDecls (decls : List Declared) :
    (ofDecls decls).bases.Extends = InheritsFrom decls := by
  funext name base
  rw [Bases.Extends, Bases.next?, get?_bases, get?_ofDecls, InheritsFrom]
  cases declared? decls name <;> simp

/-- The bases of a registry have a cycle exactly when its declarations have one. -/
theorem acyclic_bases_ofDecls (decls : List Declared) :
    (ofDecls decls).bases.Acyclic ↔ ¬ HasCycle decls := by
  rw [Bases.Acyclic, extends_bases_ofDecls, HasCycle, not_exists]

theorem mem_keys_ofDecls {decls : List Declared} {name : String} {decl : Declared}
    (found : declared? decls name = some decl) : name ∈ (ofDecls decls).keys := by
  rw [← OrderedMap.get?_isSome_iff, get?_ofDecls, found]
  rfl

/-- A step to a parent adds a new name to those that have been passed. -/
theorem passed_grows {decls : List Declared} (acyclic : ¬ HasCycle decls) {passed : List String}
    {parent : Declared} {base : String} (distinct : passed.Nodup)
    (known : passed ⊆ (ofDecls decls).keys)
    (behind : ∀ name ∈ passed, TransGen (InheritsFrom decls) name base)
    (found : declared? decls base = some parent) :
    (base :: passed).Nodup ∧ base :: passed ⊆ (ofDecls decls).keys := by
  constructor
  · refine List.nodup_cons.2 ⟨fun again => ?_, distinct⟩
    exact acyclic ⟨base, behind base again⟩
  · exact List.cons_subset.2 ⟨mem_keys_ofDecls found, known⟩

/-- Within a number of steps that covers all names not yet passed, the ancestors come to an end. -/
theorem lineage_ancestorsWithin {decls : List Declared} (acyclic : ¬ HasCycle decls) {steps : Nat}
    {decl : Declared} {passed : List String} (distinct : passed.Nodup)
    (known : passed ⊆ (ofDecls decls).keys)
    (behind : ∀ name ∈ passed, ∀ base, Inheriting.base decl = some base →
      TransGen (InheritsFrom decls) name base)
    (enough : (ofDecls decls).size ≤ passed.length + steps) :
    Lineage decls decl ((ofDecls decls).ancestorsWithin steps decl ++ [decl]) := by
  -- Names that have been passed are all different, so they are the measure of what is left.
  induction steps generalizing decl passed with
  | zero =>
      refine .root ?_
      by_contra hasParent
      obtain ⟨parent, hasParent⟩ := Option.ne_none_iff_exists'.1 hasParent
      obtain ⟨base, hasBase, found⟩ := parent?_eq_some_iff.1 hasParent
      obtain ⟨longer, knownToo⟩ := passed_grows acyclic distinct known
        (fun name inside => behind name inside base hasBase) found
      have fits := (ofDecls decls).length_le_size longer knownToo
      rw [List.length_cons] at fits
      omega
  | succ steps inductionHypothesis =>
      rw [ancestorsWithin, baseOf?_ofDecls]
      cases hasParent : parent? decls decl with
      | none => exact .root hasParent
      | some parent =>
          obtain ⟨base, hasBase, found⟩ := parent?_eq_some_iff.1 hasParent
          obtain ⟨longer, knownToo⟩ := passed_grows acyclic distinct known
            (fun name inside => behind name inside base hasBase) found
          refine .child hasParent (inductionHypothesis longer knownToo ?_ ?_)
          · intro name inside next hasNext
            have step : InheritsFrom decls base next := ⟨parent, found, hasNext⟩
            rcases List.mem_cons.1 inside with rfl | earlier
            · exact .single step
            · exact (behind name earlier base hasBase).tail step
          · rw [List.length_cons]
            omega

/-- Without cycles the lineage that a registry finds is the whole chain. -/
theorem lineage_ofDecls {decls : List Declared} (acyclic : ¬ HasCycle decls) (decl : Declared) :
    Lineage decls decl ((ofDecls decls).lineage decl) :=
  lineage_ancestorsWithin acyclic .nil (List.nil_subset _) (by simp) (by simp)

end Registry

end RosettaDaml
