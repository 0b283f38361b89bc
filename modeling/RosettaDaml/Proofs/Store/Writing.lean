/-
This file says what a store holds after a file is written.
-/

import RosettaDaml.Store.Basic

namespace RosettaDaml

/-- A key keeps its place when it is given the value that it has. -/
theorem OrderedMap.insert_of_get? {Key Content : Type} [DecidableEq Key]
    {entries : OrderedMap Key Content} {key : Key} {content : Content}
    (known : entries.get? key = some content) : entries.insert key content = entries := by
  obtain ⟨entries, distinct⟩ := entries
  have same : upsert (· == ·) key content entries = entries := by
    change entries.lookup key = some content at known
    clear distinct
    induction entries with
    | nil => cases known
    | cons entry rest inductionHypothesis =>
        obtain ⟨first, old⟩ := entry
        rw [lookup_cons_eq_ite] at known
        rw [upsert]
        by_cases here : key = first
        · rw [if_pos here] at known
          rw [if_pos (beq_iff_eq.2 here), Option.some.inj known]
        · rw [if_neg here] at known
          rw [if_neg (by simpa using here), inductionHypothesis known]
  exact OrderedMap.mk.injEq .. ▸ same

namespace Store

variable {store left : Store} {place : List String} {content : ByteArray}

/-- A file is never written in the place of the root. -/
theorem inside_of_write (writes : store.write place content = .ok left) :
    place ≠ [] ∧ left = store.put place (.file content) := by
  rw [write] at writes
  split at writes
  · exact absurd writes (by simp)
  · split at writes
    · exact absurd writes (by simp)
    · rename_i notDirectory
      refine ⟨?_, (Except.ok.inj writes).symm⟩
      rintro rfl
      exact notDirectory rfl

/-- A file that is written is the only thing that changes. -/
theorem entryAt?_of_write (writes : store.write place content = .ok left) :
    left.file? place = some content ∧
      ∀ other, other ≠ place → left.entryAt? other = store.entryAt? other := by
  obtain ⟨inside, rfl⟩ := inside_of_write writes
  refine ⟨by rw [file?, entryAt?_put _ _ _ _ inside, if_pos rfl], fun other differs => ?_⟩
  by_cases root : other = []
  · rw [root, entryAt?, entryAt?]
    rfl
  · rw [entryAt?_put _ _ _ _ root, if_neg differs]

/-- A store stays as it is exactly when it holds already what is written. -/
theorem write_eq_self_iff (writes : store.write place content = .ok left) :
    left = store ↔ store.file? place = some content := by
  constructor
  · rintro rfl
    exact (entryAt?_of_write writes).1
  · intro there
    obtain ⟨inside, rfl⟩ := inside_of_write writes
    have known : store.entries.get? place = some (.file content) := by
      rw [file?] at there
      split at there
      case h_1 found same =>
        cases there
        rwa [entryAt?, if_neg (by simpa using inside)] at same
      case h_2 => cases there
    rw [put, OrderedMap.insert_of_get? known]

end Store

end RosettaDaml
