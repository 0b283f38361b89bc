/-
This file says which names of a schema are renamed to the same name.
-/

import RosettaDaml.Naming

namespace RosettaDaml

/-- The table of renamed types makes one of the two names into the other. -/
def ArePartners (first second : String) : Prop :=
  (first, second) ∈ typeRenames ∨ (second, first) ∈ typeRenames

theorem renameWith_cases (renames : List (String × String)) (name : String) :
    (name, renameWith renames name) ∈ renames ∨ renameWith renames name = name := by
  rw [renameWith]
  cases found : renames.lookup name with
  | none => exact .inr rfl
  | some target =>
      obtain ⟨before, after, parts, -⟩ := List.lookup_eq_some_iff.1 found
      exact .inl (parts ▸ List.mem_append_right before List.mem_cons_self)

theorem renameType_cases (name : String) :
    (name, renameType name) ∈ typeRenames ∨ renameType name = name :=
  renameWith_cases typeRenames name

/-- The table renames its own names and leaves what it renames them to. -/
theorem renameType_of_mem {first second : String} (listed : (first, second) ∈ typeRenames) :
    renameType first = second ∧ renameType second = second := by
  simp only [typeRenames, List.mem_cons, Prod.mk.injEq, List.not_mem_nil, or_false] at listed
  rcases listed with ⟨rfl, rfl⟩ | ⟨rfl, rfl⟩ | ⟨rfl, rfl⟩ <;> decide

theorem eq_of_mem_typeRenames {first second target : String}
    (listed : (first, target) ∈ typeRenames) (listedToo : (second, target) ∈ typeRenames) :
    first = second := by
  simp only [typeRenames, List.mem_cons, Prod.mk.injEq, List.not_mem_nil, or_false]
    at listed listedToo
  rcases listed with ⟨rfl, rfl⟩ | ⟨rfl, rfl⟩ | ⟨rfl, rfl⟩ <;> simpa [eq_comm] using listedToo

/-- Renaming leaves any two names apart but the two of an entry of the table. -/
theorem renameType_eq_renameType_iff {first second : String} :
    renameType first = renameType second ↔ first = second ∨ ArePartners first second := by
  constructor
  · intro same
    rcases renameType_cases first with listed | stays
    · rcases renameType_cases second with listedToo | staysToo
      · exact .inl (eq_of_mem_typeRenames listed (same ▸ listedToo))
      · exact .inr (.inl (staysToo ▸ same ▸ listed))
    · rcases renameType_cases second with listedToo | staysToo
      · exact .inr (.inr (stays ▸ same ▸ listedToo))
      · exact .inl (stays.symm.trans (same.trans staysToo))
  · rintro (rfl | listed | listed)
    · rfl
    · obtain ⟨renamed, stays⟩ := renameType_of_mem listed
      exact renamed.trans stays.symm
    · obtain ⟨renamed, stays⟩ := renameType_of_mem listed
      exact stays.trans renamed.symm

end RosettaDaml
