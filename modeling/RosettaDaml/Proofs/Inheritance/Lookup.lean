/-
This file shows that a registry finds the last declaration of each name.
-/

import Mathlib.Data.List.Induction
import Mathlib.Data.List.Nodup
import Mathlib.Data.List.Perm.Subperm
import RosettaDaml.Inheritance.Lineage

namespace RosettaDaml

namespace OrderedMap

variable {Key Content : Type}

/-- There are as many keys as entries. -/
theorem length_keys (entries : OrderedMap Key Content) : entries.keys.length = entries.size :=
  List.length_map _

/-- Different keys of a map are no more than its entries. -/
theorem length_le_size (entries : OrderedMap Key Content) {chosen : List Key}
    (distinct : chosen.Nodup) (known : chosen ⊆ entries.keys) :
    chosen.length ≤ entries.size := by
  rw [← length_keys]
  exact (distinct.subperm known).length_le

variable [DecidableEq Key]

/-- A key stands in a map exactly when it has a content there. -/
theorem get?_isSome_iff (entries : OrderedMap Key Content) (key : Key) :
    (entries.get? key).isSome ↔ key ∈ entries.keys := by
  obtain ⟨list, distinct⟩ := entries
  simp only [get?, keys]
  clear distinct
  induction list with
  | nil => simp
  | cons entry rest inductionHypothesis =>
      rw [lookup_cons_eq_ite, List.map_cons, List.mem_cons]
      by_cases here : key = entry.1
      · simp [here]
      · simp only [here, false_or]
        exact inductionHypothesis

/-- A map contains its keys. -/
theorem contains_iff (entries : OrderedMap Key Content) (key : Key) :
    entries.contains key = true ↔ key ∈ entries.keys :=
  entries.get?_isSome_iff key

end OrderedMap

variable {Declared Part : Type} [Inheriting Declared Part]

/-- The last declaration of a name. -/
def declared? (decls : List Declared) (name : String) : Option Declared :=
  decls.reverse.find? fun decl => Inheriting.name decl == name

/-- The last declaration of a name is the one that it stands for. -/
theorem declared?_append_singleton (decls : List Declared) (last : Declared) (name : String) :
    declared? (decls ++ [last]) name =
      if name = Inheriting.name last then some last else declared? decls name := by
  rw [declared?, List.reverse_append, List.reverse_singleton, List.singleton_append,
    List.find?_cons]
  by_cases same : name = Inheriting.name last
  · simp [same]
  · have differs : (Inheriting.name last == name) = false :=
      beq_eq_false_iff_ne.2 (Ne.symm same)
    rw [differs, if_neg same]
    rfl

/-- So the first one counts only when there is no other. -/
theorem declared?_cons (first : Declared) (rest : List Declared) (name : String) :
    declared? (first :: rest) name =
      (declared? rest name).or (if Inheriting.name first = name then some first else none) := by
  rw [declared?, List.reverse_cons, List.find?_append, List.find?_singleton]
  simp only [beq_iff_eq]
  rfl

/-- The name of a declaration stands for one. -/
theorem exists_declared? {decls : List Declared} {decl : Declared} (member : decl ∈ decls) :
    ∃ last, declared? decls (Inheriting.name decl) = some last :=
  Option.isSome_iff_exists.1
    (List.find?_isSome.2 ⟨decl, List.mem_reverse.2 member, beq_iff_eq.2 rfl⟩)

/-- What a name stands for has this name. -/
theorem name_of_declared? {decls : List Declared} {name : String} {decl : Declared}
    (found : declared? decls name = some decl) : Inheriting.name decl = name := by
  have matched := List.find?_some found
  exact eq_of_beq matched

/-- A declaration is the last one of its name when no later one has that name. -/
theorem declared?_eq_some_of_last {before after : List Declared} {decl : Declared}
    (last : ∀ later ∈ after, Inheriting.name later ≠ Inheriting.name decl) :
    declared? (before ++ decl :: after) (Inheriting.name decl) = some decl := by
  have none : after.reverse.find? (fun later => Inheriting.name later == Inheriting.name decl) =
      none := by
    rw [List.find?_eq_none]
    intro later member
    simpa using last later (List.mem_reverse.1 member)
  simp [declared?, none]

namespace Registry

/-- A registry takes declarations in one by one. -/
theorem ofDecls_append_singleton (decls : List Declared) (last : Declared) :
    ofDecls (decls ++ [last]) = (ofDecls decls).insert (Inheriting.name last) last := by
  simp [ofDecls, List.foldl_append]

/-- The registry keeps the last declaration of each name. -/
theorem get?_ofDecls (decls : List Declared) (name : String) :
    (ofDecls decls).get? name = declared? decls name := by
  induction decls using List.reverseRecOn with
  | nil => rfl
  | append_singleton earlier last inductionHypothesis =>
      rw [ofDecls_append_singleton, OrderedMap.get?_insert, inductionHypothesis,
        declared?_append_singleton]

/-- A base is looked up with its declaration. -/
theorem get?_bases (registry : Registry Declared) (name : String) :
    registry.bases.get? name = (registry.get? name).map Inheriting.base := by
  obtain ⟨entries, distinct⟩ := registry
  simp only [bases, OrderedMap.get?]
  clear distinct
  induction entries with
  | nil => rfl
  | cons entry rest inductionHypothesis =>
      obtain ⟨key, decl⟩ := entry
      rw [List.map_cons, OrderedMap.lookup_cons_eq_ite, OrderedMap.lookup_cons_eq_ite,
        inductionHypothesis]
      split <;> rfl

end Registry

end RosettaDaml
