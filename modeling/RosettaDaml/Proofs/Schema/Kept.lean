/-
This file says at which places of a schema the declarations stand that are kept.
-/

import Mathlib.Data.List.Forall2
import Mathlib.Data.List.Sort
import RosettaDaml.Proofs.Inheritance.Lookup
import RosettaDaml.Transform

namespace RosettaDaml

/-- Whether a declaration is a class or an enum. -/
def Decl.isInterpreted : Decl → Bool
  | .otherDecl _ => false
  | _ => true

/-- Picks the declarations of one kind, where those of the same name supersede each other. -/
structure PicksKind {Declared Part : Type} [Inheriting Declared Part]
    (pick : Decl → Option Declared) : Prop where
  interpreted : ∀ {decl content}, pick decl = some content → decl.isInterpreted = true
  supersedes_iff : ∀ {decl content}, pick decl = some content → ∀ other,
    other.supersedes decl = true ↔
      ∃ later, pick other = some later ∧ Inheriting.name later = Inheriting.name content

namespace Decl

def class? : Decl → Option ClassDecl
  | .classDecl decl => some decl
  | _ => none

def enum? : Decl → Option EnumDecl
  | .enumDecl decl => some decl
  | _ => none

/-- Classes are one kind of declarations. -/
theorem picksKind_class? : PicksKind class? := by
  constructor
  · intro decl content picked
    cases decl <;> simp_all [class?, isInterpreted]
  · intro decl content picked other
    cases decl with
    | classDecl decl =>
        obtain rfl := Option.some.inj picked
        cases other <;> simp [class?, supersedes, Inheriting.name]
    | enumDecl _ => simp [class?] at picked
    | otherDecl _ => simp [class?] at picked

/-- Enums are another. -/
theorem picksKind_enum? : PicksKind enum? := by
  constructor
  · intro decl content picked
    cases decl <;> simp_all [enum?, isInterpreted]
  · intro decl content picked other
    cases decl with
    | enumDecl decl =>
        obtain rfl := Option.some.inj picked
        cases other <;> simp [enum?, supersedes, Inheriting.name]
    | classDecl _ => simp [enum?] at picked
    | otherDecl _ => simp [enum?] at picked

end Decl

/-- A class or an enum is kept when it is the last one of its name and kind. -/
structure KeptAt (decls : List Decl) (position : Nat) (decl : Decl) : Prop where
  stands : decls[position]? = some decl
  interpreted : decl.isInterpreted = true
  last : ∀ (later : Nat) (other : Decl), position < later → decls[later]? = some other →
    other.supersedes decl = false

/-- The first declaration is kept when none of the others takes its place. -/
theorem keptAt_cons_zero {first : Decl} {rest : List Decl} {decl : Decl} :
    KeptAt (first :: rest) 0 decl ↔
      decl = first ∧ first.isInterpreted = true ∧
        ∀ other ∈ rest, other.supersedes first = false := by
  constructor
  · rintro ⟨stands, interpreted, last⟩
    obtain rfl := Option.some.inj stands
    refine ⟨rfl, interpreted, fun other member => ?_⟩
    obtain ⟨position, stands⟩ := List.mem_iff_getElem?.1 member
    exact last (position + 1) other position.succ_pos stands
  · rintro ⟨rfl, interpreted, last⟩
    refine ⟨rfl, interpreted, fun later other after stands => ?_⟩
    obtain ⟨position, rfl⟩ := Nat.exists_eq_succ_of_ne_zero (Nat.ne_of_gt after)
    exact last other (List.mem_of_getElem? stands)

/-- A declaration in front does not decide about the others. -/
theorem keptAt_cons_succ {first : Decl} {rest : List Decl} {position : Nat} {decl : Decl} :
    KeptAt (first :: rest) (position + 1) decl ↔ KeptAt rest position decl := by
  constructor
  · rintro ⟨stands, interpreted, last⟩
    refine ⟨stands, interpreted, fun later other after found => ?_⟩
    exact last (later + 1) other (Nat.succ_lt_succ after) found
  · rintro ⟨stands, interpreted, last⟩
    refine ⟨stands, interpreted, fun later other after found => ?_⟩
    cases later with
    | zero => omega
    | succ later => exact last later other (Nat.lt_of_succ_lt_succ after) found

/-- What is kept at the first position is the first declaration. -/
theorem keptAt_zero_first {first : Decl} {rest : List Decl} {decl : Decl}
    (keptAt : KeptAt (first :: rest) 0 decl) : KeptAt (first :: rest) 0 first := by
  obtain rfl := (keptAt_cons_zero.1 keptAt).1
  exact keptAt

/-- Nothing is kept of nothing. -/
theorem not_keptAt_nil (position : Nat) (decl : Decl) : ¬ KeptAt [] position decl := by
  intro keptAt
  simpa using keptAt.stands

/-- One declaration is kept at a position. -/
theorem KeptAt.unique {decls : List Decl} {position : Nat} {decl other : Decl}
    (keptAt : KeptAt decls position decl) (another : KeptAt decls position other) :
    decl = other :=
  Option.some.inj (keptAt.stands.symm.trans another.stands)

namespace Decl

/-- A declaration is emitted unless a later one takes its place. -/
theorem kept_cons_of_isInterpreted {first : Decl} (interpreted : first.isInterpreted = true)
    (rest : List Decl) :
    kept (first :: rest) =
      if rest.any (supersedes · first) then kept rest else first :: kept rest := by
  cases first with
  | classDecl _ => rfl
  | enumDecl _ => rfl
  | otherDecl _ => simp [isInterpreted] at interpreted

/-- The first declaration is emitted when it is kept. -/
theorem kept_cons_of_keptAt {first : Decl} {rest : List Decl}
    (keptAt : KeptAt (first :: rest) 0 first) : kept (first :: rest) = first :: kept rest := by
  obtain ⟨-, interpreted, last⟩ := keptAt_cons_zero.1 keptAt
  rw [kept_cons_of_isInterpreted interpreted, if_neg]
  rw [List.any_eq_true]
  rintro ⟨other, member, supersedes⟩
  simp [last other member] at supersedes

/-- A class or an enum that is not kept is superseded by something behind it. -/
theorem exists_supersedes {first : Decl} {rest : List Decl}
    (interpreted : first.isInterpreted = true) (notKept : ¬ KeptAt (first :: rest) 0 first) :
    ∃ other ∈ rest, other.supersedes first = true := by
  by_contra last
  refine notKept (keptAt_cons_zero.2 ⟨rfl, interpreted, fun other member => ?_⟩)
  by_contra supersedes
  exact last ⟨other, member, Bool.eq_true_of_not_eq_false supersedes⟩

/-- And else it is not. -/
theorem kept_cons_of_not_keptAt {first : Decl} {rest : List Decl}
    (notKept : ¬ KeptAt (first :: rest) 0 first) : kept (first :: rest) = kept rest := by
  by_cases interpreted : first.isInterpreted = true
  · have superseded := List.any_eq_true.2 (exists_supersedes interpreted notKept)
    rw [kept_cons_of_isInterpreted interpreted, if_pos superseded]
  · cases first with
    | otherDecl _ => rfl
    | classDecl _ => exact absurd rfl interpreted
    | enumDecl _ => exact absurd rfl interpreted

/-- The kept declarations come in the order of their places. -/
theorem exists_positions_kept (decls : List Decl) :
    ∃ positions : List Nat, positions.Pairwise (· < ·) ∧
      (∀ position, position ∈ positions ↔ ∃ decl, KeptAt decls position decl) ∧
      List.Forall₂ (KeptAt decls) positions (kept decls) := by
  induction decls with
  | nil => exact ⟨[], .nil, fun position => by simp [not_keptAt_nil], .nil⟩
  | cons first rest inductionHypothesis =>
      obtain ⟨positions, ordered, exact, listed⟩ := inductionHypothesis
      have shifted : (positions.map Nat.succ).Pairwise (· < ·) :=
        List.pairwise_map.2 (ordered.imp Nat.succ_lt_succ)
      have listedToo : List.Forall₂ (KeptAt (first :: rest)) (positions.map Nat.succ)
          (kept rest) := by
        rw [List.forall₂_map_left_iff]
        exact listed.imp fun _ _ => keptAt_cons_succ.2
      have behind (position : Nat) : position + 1 ∈ positions.map Nat.succ ↔
          ∃ decl, KeptAt (first :: rest) (position + 1) decl := by
        simp only [keptAt_cons_succ, ← exact, List.mem_map, Nat.succ_eq_add_one,
          Nat.add_right_cancel_iff, exists_eq_right]
      -- Behind the first declaration all places are one further, and whether it stays depends on
      -- them.
      by_cases stays : KeptAt (first :: rest) 0 first
      · rw [kept_cons_of_keptAt stays]
        refine ⟨0 :: positions.map Nat.succ, ?_, fun position => ?_, .cons stays listedToo⟩
        · exact List.pairwise_cons.2 ⟨by simp, shifted⟩
        · cases position with
          | zero => exact ⟨fun _ => ⟨first, stays⟩, fun _ => List.mem_cons_self⟩
          | succ position => simp [← behind]
      · rw [kept_cons_of_not_keptAt stays]
        refine ⟨positions.map Nat.succ, shifted, fun position => ?_, listedToo⟩
        cases position with
        | zero =>
            refine ⟨fun member => by simp at member, ?_⟩
            rintro ⟨decl, keptAt⟩
            exact absurd (keptAt_zero_first keptAt) stays
        | succ position => exact behind position

/-- What is emitted is what is kept at some position. -/
theorem mem_kept_iff {decls : List Decl} {decl : Decl} :
    decl ∈ kept decls ↔ ∃ position, KeptAt decls position decl := by
  obtain ⟨positions, -, exact, listed⟩ := exists_positions_kept decls
  obtain ⟨sameLength, along⟩ := List.forall₂_iff_get.1 listed
  constructor
  · intro member
    obtain ⟨index, inside, rfl⟩ := List.mem_iff_getElem.1 member
    exact ⟨_, along index (sameLength ▸ inside) inside⟩
  · rintro ⟨position, keptAt⟩
    obtain ⟨index, inside, rfl⟩ := List.mem_iff_getElem.1 ((exact position).2 ⟨decl, keptAt⟩)
    rw [keptAt.unique (along index inside (sameLength ▸ inside))]
    exact List.getElem_mem _

/-- What holds of any two kept declarations in their order holds along the list. -/
theorem pairwise_kept_iff {decls : List Decl} {relation : Decl → Decl → Prop} :
    (kept decls).Pairwise relation ↔
      ∀ (first second : Nat) (decl other : Decl), first < second → KeptAt decls first decl →
        KeptAt decls second other → relation decl other := by
  obtain ⟨positions, ordered, exact, listed⟩ := exists_positions_kept decls
  obtain ⟨sameLength, along⟩ := List.forall₂_iff_get.1 listed
  have increasing := List.pairwise_iff_getElem.1 ordered
  rw [List.pairwise_iff_getElem]
  constructor
  · intro related first second decl other before keptAt keptToo
    obtain ⟨left, leftInside, rfl⟩ := List.mem_iff_getElem.1 ((exact first).2 ⟨decl, keptAt⟩)
    obtain ⟨right, rightInside, rfl⟩ :=
      List.mem_iff_getElem.1 ((exact second).2 ⟨other, keptToo⟩)
    have inOrder : left < right := ordered.sortedLT.getElem_lt_getElem_iff.1 before
    rw [keptAt.unique (along left leftInside (sameLength ▸ leftInside)),
      keptToo.unique (along right rightInside (sameLength ▸ rightInside))]
    exact related left right _ _ inOrder
  · intro related left right leftInside rightInside inOrder
    have leftToo := sameLength ▸ leftInside
    have rightToo := sameLength ▸ rightInside
    exact related _ _ _ _ (increasing left right leftToo rightToo inOrder)
      (along left leftToo leftInside) (along right rightToo rightInside)

/-- Where nothing supersedes anything, all classes and enums are kept. -/
theorem kept_eq_filter {decls : List Decl}
    (distinct : decls.Pairwise fun earlier later => later.supersedes earlier = false) :
    kept decls = decls.filter isInterpreted := by
  induction decls with
  | nil => rfl
  | cons first rest inductionHypothesis =>
      obtain ⟨last, distinct⟩ := List.pairwise_cons.1 distinct
      by_cases interpreted : first.isInterpreted = true
      · rw [kept_cons_of_keptAt (keptAt_cons_zero.2 ⟨rfl, interpreted, last⟩),
          inductionHypothesis distinct, List.filter_cons_of_pos interpreted]
      · rw [kept_cons_of_not_keptAt fun keptAt => interpreted keptAt.interpreted,
          inductionHypothesis distinct, List.filter_cons_of_neg interpreted]

/-- What is not kept is not the last declaration of its name. -/
theorem declared?_filterMap_kept {Declared Part : Type} [Inheriting Declared Part]
    {pick : Decl → Option Declared} (picks : PicksKind pick) (decls : List Decl)
    (name : String) :
    declared? ((kept decls).filterMap pick) name = declared? (decls.filterMap pick) name := by
  induction decls with
  | nil => rfl
  | cons first rest inductionHypothesis =>
      by_cases stays : KeptAt (first :: rest) 0 first
      · rw [kept_cons_of_keptAt stays]
        cases picked : pick first with
        | none =>
            rw [List.filterMap_cons_none picked, List.filterMap_cons_none picked,
              inductionHypothesis]
        | some content =>
            rw [List.filterMap_cons_some picked, List.filterMap_cons_some picked, declared?_cons,
              declared?_cons, inductionHypothesis]
      · rw [kept_cons_of_not_keptAt stays, inductionHypothesis]
        cases picked : pick first with
        | none => rw [List.filterMap_cons_none picked]
        | some content =>
            rw [List.filterMap_cons_some picked, declared?_cons]
            by_cases same : Inheriting.name content = name
            · -- Something behind has the name, and so the first one is not looked at.
              obtain ⟨other, member, supersedes⟩ :=
                exists_supersedes (picks.interpreted picked) stays
              obtain ⟨later, pickedToo, sameName⟩ :=
                (picks.supersedes_iff picked other).1 supersedes
              obtain ⟨last, found⟩ :=
                exists_declared? (List.mem_filterMap.2 ⟨other, member, pickedToo⟩)
              rw [sameName, same] at found
              rw [found, Option.some_or]
            · rw [if_neg same, Option.or_none]

end Decl

namespace KeptAt

/-- Nothing behind a kept declaration takes its place. -/
theorem split {decls : List Decl} {position : Nat} {decl : Decl}
    (keptAt : KeptAt decls position decl) :
    ∃ before after, decls = before ++ decl :: after ∧
      ∀ other ∈ after, other.supersedes decl = false := by
  obtain ⟨inside, rfl⟩ := List.getElem?_eq_some_iff.1 keptAt.stands
  refine ⟨decls.take position, decls.drop (position + 1), ?_, fun other member => ?_⟩
  · rw [← List.drop_eq_getElem_cons inside, List.take_append_drop]
  · obtain ⟨offset, found⟩ := List.mem_iff_getElem?.1 member
    rw [List.getElem?_drop] at found
    exact keptAt.last _ other (by omega) found

/-- Among the declarations of its kind, a kept one is the last of its name. -/
theorem declared?_filterMap {Declared Part : Type} [Inheriting Declared Part]
    {pick : Decl → Option Declared} (picks : PicksKind pick) {decls : List Decl} {position : Nat}
    {decl : Decl} {content : Declared} (keptAt : KeptAt decls position decl)
    (picked : pick decl = some content) :
    declared? (decls.filterMap pick) (Inheriting.name content) = some content := by
  obtain ⟨before, after, parts, last⟩ := keptAt.split
  rw [parts, List.filterMap_append, List.filterMap_cons_some picked]
  refine declared?_eq_some_of_last fun later member same => ?_
  obtain ⟨other, inside, pickedToo⟩ := List.mem_filterMap.1 member
  have supersedes := (picks.supersedes_iff picked other).2 ⟨later, pickedToo, same⟩
  rw [last other inside] at supersedes
  exact Bool.false_ne_true supersedes

/-- A class that is kept is the one that its name stands for. -/
theorem declared?_classes {schema : Schema} {position : Nat} {decl : ClassDecl}
    (keptAt : KeptAt schema.decls position (.classDecl decl)) :
    declared? schema.classes decl.name = some decl :=
  declared?_filterMap Decl.picksKind_class? keptAt rfl

/-- So is an enum. -/
theorem declared?_enums {schema : Schema} {position : Nat} {decl : EnumDecl}
    (keptAt : KeptAt schema.decls position (.enumDecl decl)) :
    declared? schema.enums decl.name = some decl :=
  declared?_filterMap Decl.picksKind_enum? keptAt rfl

end KeptAt

end RosettaDaml
