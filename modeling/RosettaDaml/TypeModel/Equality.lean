/-
This file compares types and members with their origins left out.
-/

import RosettaDaml.TypeModel.TypeExpr

namespace RosettaDaml

def Constructor.same (left right : Constructor) : Bool :=
  left.name == right.name && left.comment == right.comment

def sameConstructors : List Constructor → List Constructor → Bool
  | [], [] => true
  | left :: lefts, right :: rights => left.same right && sameConstructors lefts rights
  | _, _ => false

mutual

def TypeExpr.same : TypeExpr → TypeExpr → Bool
  | .primitive left, .primitive right => left == right
  | .nominal left, .nominal right => left == right
  | .product lefts, .product rights => TypeExpr.sameMembers lefts rights
  | .enumeration lefts, .enumeration rights => sameConstructors lefts rights
  | .sum lefts, .sum rights => TypeExpr.sameMembers lefts rights
  | .unknown left, .unknown right => left.same right
  | _, _ => false

def TypeExpr.sameMembers : List (Member TypeExpr) → List (Member TypeExpr) → Bool
  | [], [] => true
  | ⟨name, type, multiplicity, comment, _⟩ :: lefts, right :: rights =>
      name == right.name && type.same right.type && multiplicity == right.multiplicity &&
        comment == right.comment && TypeExpr.sameMembers lefts rights
  | _, _ => false

end

def Member.same (left right : Member TypeExpr) : Bool :=
  TypeExpr.sameMembers [left] [right]

theorem sameConstructors_iff (lefts rights : List Constructor) :
    sameConstructors lefts rights = true ↔
      lefts.map Constructor.withoutOrigin = rights.map Constructor.withoutOrigin := by
  induction lefts generalizing rights with
  | nil => cases rights <;> simp [sameConstructors]
  | cons left lefts inductionHypothesis =>
      cases rights with
      | nil => simp [sameConstructors]
      | cons right rights =>
          simp [sameConstructors, Constructor.same, Constructor.withoutOrigin,
            inductionHypothesis, and_assoc]

mutual

/-- Proper types are the same when they differ in their origins only. -/
theorem TypeExpr.same_iff (left right : TypeExpr) (proper : left.isProper) :
    left.same right = true ↔ left.withoutOrigins = right.withoutOrigins := by
  cases left with
  | primitive kind => cases right <;> simp [TypeExpr.same, TypeExpr.withoutOrigins]
  | nominal name => cases right <;> simp [TypeExpr.same, TypeExpr.withoutOrigins]
  | product members =>
      rw [TypeExpr.isProper] at proper
      cases right <;> simp [TypeExpr.same, TypeExpr.withoutOrigins,
        TypeExpr.sameMembers_iff members _ proper]
  | enumeration constructors =>
      cases right <;> simp [TypeExpr.same, TypeExpr.withoutOrigins, sameConstructors_iff]
  | sum alternatives =>
      rw [TypeExpr.isProper] at proper
      cases right <;> simp [TypeExpr.same, TypeExpr.withoutOrigins,
        TypeExpr.sameMembers_iff alternatives _ proper]
  | unknown given => simp [TypeExpr.isProper] at proper

theorem TypeExpr.sameMembers_iff (lefts rights : List (Member TypeExpr))
    (proper : TypeExpr.membersAreProper lefts) :
    TypeExpr.sameMembers lefts rights = true ↔
      TypeExpr.membersWithoutOrigins lefts = TypeExpr.membersWithoutOrigins rights := by
  cases lefts with
  | nil => cases rights <;> simp [TypeExpr.sameMembers, TypeExpr.membersWithoutOrigins]
  | cons left lefts =>
      obtain ⟨name, type, multiplicity, comment, origin⟩ := left
      rw [TypeExpr.membersAreProper, Bool.and_eq_true] at proper
      cases rights with
      | nil => simp [TypeExpr.sameMembers, TypeExpr.membersWithoutOrigins]
      | cons right rights =>
          simp [TypeExpr.sameMembers, TypeExpr.membersWithoutOrigins,
            TypeExpr.same_iff type _ proper.1, TypeExpr.sameMembers_iff lefts _ proper.2,
            and_assoc]

end

end RosettaDaml
