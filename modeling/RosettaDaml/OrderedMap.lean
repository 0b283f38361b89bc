/-
This file keeps entries in the order in which their keys first came.
-/

namespace RosettaDaml

/-- Gives a key its value: a key that is there keeps its place, a new one goes to the end. -/
def upsert {Key Content : Type} (same : Key → Key → Bool) (key : Key) (content : Content) :
    List (Key × Content) → List (Key × Content)
  | [] => [(key, content)]
  | (first, old) :: rest =>
      if same key first then (first, content) :: rest
      else (first, old) :: upsert same key content rest

structure OrderedMap (Key Content : Type) where
  entries : List (Key × Content)
  nodup : (entries.map Prod.fst).Nodup

namespace OrderedMap

variable {Key Content : Type} [DecidableEq Key]

def keys (entries : OrderedMap Key Content) : List Key :=
  entries.entries.map Prod.fst

def size (entries : OrderedMap Key Content) : Nat :=
  entries.entries.length

def empty : OrderedMap Key Content := ⟨[], List.nodup_nil⟩

def get? (entries : OrderedMap Key Content) (key : Key) : Option Content :=
  entries.entries.lookup key

def contains (entries : OrderedMap Key Content) (key : Key) : Bool :=
  (entries.get? key).isSome

theorem mem_keys_upsert (key wanted : Key) (content : Content) (entries : List (Key × Content)) :
    wanted ∈ (upsert (· == ·) key content entries).map Prod.fst ↔
      wanted = key ∨ wanted ∈ entries.map Prod.fst := by
  induction entries with
  | nil => simp [upsert]
  | cons entry rest inductionHypothesis =>
      simp only [upsert]
      split
      case isTrue same =>
        have equal : key = entry.1 := by simpa using same
        simp [equal]
      case isFalse =>
        rw [List.map_cons, List.map_cons, List.mem_cons, List.mem_cons, inductionHypothesis]
        exact or_left_comm

theorem nodup_upsert (key : Key) (content : Content) {entries : List (Key × Content)}
    (distinct : (entries.map Prod.fst).Nodup) :
    ((upsert (· == ·) key content entries).map Prod.fst).Nodup := by
  induction entries with
  | nil => simp [upsert]
  | cons entry rest inductionHypothesis =>
      rw [List.map_cons, List.nodup_cons] at distinct
      simp only [upsert]
      split
      case isTrue =>
        rw [List.map_cons, List.nodup_cons]
        exact distinct
      case isFalse different =>
        rw [List.map_cons, List.nodup_cons, mem_keys_upsert]
        refine ⟨?_, inductionHypothesis distinct.2⟩
        rintro (equal | inRest)
        · exact different (beq_iff_eq.2 equal.symm)
        · exact distinct.1 inRest

def insert (entries : OrderedMap Key Content) (key : Key) (content : Content) :
    OrderedMap Key Content :=
  ⟨upsert (· == ·) key content entries.entries, nodup_upsert key content entries.nodup⟩

def ofList (entries : List (Key × Content)) : OrderedMap Key Content :=
  entries.foldl (fun built entry => built.insert entry.1 entry.2) empty

theorem lookup_cons_eq_ite (wanted key : Key) (content : Content)
    (rest : List (Key × Content)) :
    ((key, content) :: rest).lookup wanted =
      if wanted = key then some content else rest.lookup wanted := by
  rw [List.lookup_cons]
  by_cases equal : wanted = key
  · simp [equal]
  · simp [beq_eq_false_iff_ne.2 equal, equal]

theorem lookup_upsert (key wanted : Key) (content : Content) (entries : List (Key × Content)) :
    (upsert (· == ·) key content entries).lookup wanted =
      if wanted = key then some content else entries.lookup wanted := by
  induction entries with
  | nil => simp [upsert, lookup_cons_eq_ite]
  | cons entry rest inductionHypothesis =>
      obtain ⟨first, old⟩ := entry
      simp only [upsert]
      by_cases same : key = first
      · simp only [same, beq_self_eq_true, if_true, lookup_cons_eq_ite]
        split <;> rfl
      · rw [if_neg (by simpa using same), lookup_cons_eq_ite, inductionHypothesis,
          lookup_cons_eq_ite]
        by_cases here : wanted = first
        · have different : wanted ≠ key := fun equal => same (equal.symm.trans here)
          simp [here, Ne.symm same]
        · simp [here]

theorem get?_insert (entries : OrderedMap Key Content) (key wanted : Key) (content : Content) :
    (entries.insert key content).get? wanted =
      if wanted = key then some content else entries.get? wanted :=
  lookup_upsert key wanted content entries.entries

theorem mem_keys_insert (entries : OrderedMap Key Content) (key wanted : Key)
    (content : Content) :
    wanted ∈ (entries.insert key content).keys ↔ wanted = key ∨ wanted ∈ entries.keys :=
  mem_keys_upsert key wanted content entries.entries

end OrderedMap

end RosettaDaml
