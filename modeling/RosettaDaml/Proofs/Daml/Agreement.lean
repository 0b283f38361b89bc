/-
This file says when modules agree up to what is not written of them. Such modules have one text.
-/

import RosettaDaml.Proofs.Daml.ClearNames

namespace RosettaDaml

/-- The lower bound of a member that may repeat is not written. -/
def Multiplicity.Agrees (left right : Multiplicity) : Prop :=
  left = right ∨ left.isMany = true ∧ right.isMany = true

/-- Of a comment its words are written; the origin of a member is not. -/
structure Member.Agrees (left right : Member TypeExpr) : Prop where
  name : left.name = right.name
  type : left.type = right.type
  multiplicity : left.multiplicity.Agrees right.multiplicity
  comment : commentWords left.comment = commentWords right.comment

structure Constructor.Agrees (left right : Constructor) : Prop where
  name : left.name = right.name
  comment : commentWords left.comment = commentWords right.comment

/-- Agreement of records and enumerations. -/
inductive Body.Agrees : Body → Body → Prop where
  | enumeration {lefts rights : List Constructor}
      (constructors : List.Forall₂ Constructor.Agrees lefts rights) :
      Agrees (.enumeration lefts) (.enumeration rights)
  | record {lefts rights : List (Member TypeExpr)}
      (fields : List.Forall₂ Member.Agrees lefts rights) : Agrees (.record lefts) (.record rights)

structure Declaration.Agrees (left right : Declaration) : Prop where
  name : left.name = right.name
  body : left.body.Agrees right.body
  comment : commentWords left.comment = commentWords right.comment

structure Module.Agrees (left right : Module) : Prop where
  name : left.name = right.name
  imports : left.imports = right.imports
  declarations : List.Forall₂ Declaration.Agrees left.declarations right.declarations
  comment : commentWords left.comment = commentWords right.comment

section Lists

variable {Item Result : Type} {relation : Item → Item → Prop} {give : Item → Result}
  {lefts rights : List Item}

/-- What does not see a difference gives the same for related lists. -/
theorem map_eq_map_of_forall₂ (related : List.Forall₂ relation lefts rights)
    (respects : ∀ left right, relation left right → give left = give right) :
    lefts.map give = rights.map give := by
  have same := related.imp respects
  rwa [← List.forall₂_map_right_iff, ← List.forall₂_map_left_iff, List.forall₂_eq_eq_eq] at same

/-- Items with the same results are related when single ones are. -/
theorem forall₂_of_map_eq_map
    (reflects : ∀ left ∈ lefts, ∀ right ∈ rights, give left = give right → relation left right)
    (same : lefts.map give = rights.map give) : List.Forall₂ relation lefts rights := by
  induction lefts generalizing rights with
  | nil =>
      obtain rfl := List.map_eq_nil_iff.1 same.symm
      exact .nil
  | cons left lefts inductionHypothesis =>
      obtain ⟨right, others, rfl, here, behind⟩ := List.map_eq_cons_iff.1 same.symm
      refine .cons (reflects left List.mem_cons_self right List.mem_cons_self here.symm) ?_
      exact inductionHypothesis (fun left member right memberToo =>
        reflects left (List.mem_cons_of_mem _ member) right (List.mem_cons_of_mem _ memberToo))
        behind.symm

end Lists

/-- Multiplicities that agree have the same shape. -/
theorem Multiplicity.Agrees.shape_eq {left right : Multiplicity} (agrees : left.Agrees right)
    (position : TypePosition) (text : String) :
    left.shape position text = right.shape position text := by
  rcases agrees with rfl | ⟨many, manyToo⟩
  · rfl
  · rw [shape_of_isMany many, shape_of_isMany manyToo]

/-- Notes with the same words have the same lines. -/
theorem noteLines_congr {left right : Option String}
    (same : commentWords left = commentWords right) (width : Nat) (position : CommentPosition) :
    noteLines width position left = noteLines width position right := by
  rw [noteLines, noteLines, same]

/-- Fields that agree have the same lines. -/
theorem Member.Agrees.lines_ofField_eq {left right : Member TypeExpr} (agrees : left.Agrees right)
    (width : Nat) : (Entry.ofField left).lines width = (Entry.ofField right).lines width := by
  have shaped : left.type.written left.multiplicity .alone =
      right.type.written right.multiplicity .alone := by
    rw [TypeExpr.written, TypeExpr.written, TypeExpr.shapedText, TypeExpr.shapedText, agrees.type,
      funext (agrees.multiplicity.shape_eq .alone)]
  simp only [Entry.lines, Entry.ofField, agrees.name, shaped, noteLines_congr agrees.comment]

/-- So do values of an enumeration that agree. -/
theorem Constructor.Agrees.lines_ofChoice_eq {left right : Constructor} (agrees : left.Agrees right)
    (width : Nat) (lead owner : String) :
    (Entry.ofChoice lead (left.choice owner)).lines width =
      (Entry.ofChoice lead (right.choice owner)).lines width := by
  simp only [Entry.lines, Entry.ofChoice, Constructor.choice, agrees.name,
    noteLines_congr agrees.comment]

/-- Agreeing declarations have the same lines. -/
theorem Declaration.Agrees.lines_eq {left right : Declaration} (agrees : left.Agrees right)
    (width : Nat) : left.lines width = right.lines width := by
  obtain ⟨name, comment, body⟩ := left
  obtain ⟨nameToo, commentToo, bodyToo⟩ := right
  obtain ⟨named, bodies, noted⟩ := agrees
  obtain rfl : name = nameToo := named
  refine congrArg₂ (· ++ ·) (noteLines_congr noted width .before) ?_
  rw [List.flatMap_def, List.flatMap_def]
  refine congrArg List.flatten ?_
  cases bodies with
  | record fields =>
      have same := map_eq_map_of_forall₂ fields fun _ _ agrees => agrees.lines_ofField_eq width
      simp only [entries_record, List.map_cons, List.map_append, List.map_map]
      exact congrArg (fun lines => _ :: (lines ++ _)) same
  | enumeration constructors =>
      cases constructors with
      | nil => rfl
      | cons first rest =>
          have same := map_eq_map_of_forall₂ rest fun _ _ agrees =>
            agrees.lines_ofChoice_eq width "|" name
          simp only [entries_enumeration_cons, List.map_cons, List.map_append, List.map_map,
            first.lines_ofChoice_eq]
          exact congrArg (fun lines => _ :: (_ :: lines ++ _)) same

/-- Agreeing modules have the same blocks of lines. -/
theorem Module.Agrees.blocks_eq {left right : Module} (agrees : left.Agrees right) (width : Nat) :
    left.blocks width = right.blocks width := by
  have declarations := map_eq_map_of_forall₂ agrees.declarations fun _ _ agrees =>
    agrees.lines_eq width
  rw [blocks, blocks, headLines, headLines, agrees.name, agrees.imports, agrees.comment,
    declarations]

end RosettaDaml
