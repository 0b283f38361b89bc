/-
This file holds the declarations of a schema.
-/

import RosettaDaml.Schema.Cardinality

namespace RosettaDaml

open RosettaDaml.Data

/-- A set of tags, kept sorted so that equal sets are equal lists. -/
structure TagSet where
  tags : List String
  sorted : tags.Pairwise (· < ·)
  deriving DecidableEq

namespace TagSet

def empty : TagSet := ⟨[], .nil⟩

def insertSorted (tag : String) : List String → List String
  | [] => [tag]
  | first :: rest =>
      if tag < first then tag :: first :: rest
      else if tag = first then first :: rest
      else first :: insertSorted tag rest

theorem mem_insertSorted (tag wanted : String) (tags : List String) :
    wanted ∈ insertSorted tag tags ↔ wanted = tag ∨ wanted ∈ tags := by
  induction tags with
  | nil => simp [insertSorted]
  | cons first rest inductionHypothesis =>
      simp only [insertSorted]
      split
      · simp
      · split
        case isTrue equal => simp [equal]
        case isFalse =>
          rw [List.mem_cons, inductionHypothesis, List.mem_cons]
          exact or_left_comm

theorem sorted_insertSorted (tag : String) {tags : List String}
    (sorted : tags.Pairwise (· < ·)) : (insertSorted tag tags).Pairwise (· < ·) := by
  induction tags with
  | nil => simp [insertSorted]
  | cons first rest inductionHypothesis =>
      have ⟨below, tail⟩ := List.pairwise_cons.1 sorted
      simp only [insertSorted]
      split
      case isTrue before =>
        refine List.pairwise_cons.2 ⟨fun other member => ?_, sorted⟩
        rcases List.mem_cons.1 member with equal | inRest
        · exact equal ▸ before
        · exact String.lt_trans before (below other inRest)
      case isFalse notBefore =>
        split
        case isTrue => exact sorted
        case isFalse different =>
          refine List.pairwise_cons.2 ⟨fun other member => ?_, inductionHypothesis tail⟩
          rcases (mem_insertSorted tag other rest).1 member with equal | inRest
          · exact equal ▸ Std.lt_of_le_of_ne (Std.not_lt.1 notBefore) (Ne.symm different)
          · exact below other inRest

def insert (tag : String) (set : TagSet) : TagSet :=
  ⟨insertSorted tag set.tags, sorted_insertSorted tag set.sorted⟩

def ofList (tags : List String) : TagSet :=
  tags.foldr insert empty

def contains (set : TagSet) (tag : String) : Bool :=
  set.tags.contains tag

end TagSet

/-- A field without a declared type holds text. -/
structure ClassField where
  name : String
  type : Option String
  card : Cardinality
  tags : TagSet
  annotation : Option String
  name_ne_empty : name ≠ ""
  deriving DecidableEq

structure ClassDecl where
  name : String
  base : Option String
  fields : List ClassField
  tags : TagSet
  annotation : Option String
  name_ne_empty : name ≠ ""
  deriving DecidableEq

structure EnumValue where
  name : String
  displayName : Option String
  annotation : Option String
  name_ne_empty : name ≠ ""
  deriving DecidableEq

structure EnumDecl where
  name : String
  base : Option String
  values : List EnumValue
  annotation : Option String
  name_ne_empty : name ≠ ""
  deriving DecidableEq

/-- A declaration that is kept as it is and never interpreted. -/
structure OtherDecl where
  kind : String
  name : Option String
  extras : OrderedMap String Value

inductive Decl where
  | classDecl (decl : ClassDecl)
  | enumDecl (decl : EnumDecl)
  | otherDecl (decl : OtherDecl)

structure Schema where
  namespaceName : Option String
  decls : List Decl

namespace Schema

def classes (schema : Schema) : List ClassDecl :=
  schema.decls.filterMap fun
    | .classDecl decl => some decl
    | _ => none

def enums (schema : Schema) : List EnumDecl :=
  schema.decls.filterMap fun
    | .enumDecl decl => some decl
    | _ => none

def others (schema : Schema) : List OtherDecl :=
  schema.decls.filterMap fun
    | .otherDecl decl => some decl
    | _ => none

end Schema

end RosettaDaml
