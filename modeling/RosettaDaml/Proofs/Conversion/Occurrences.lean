/-
This file shows that the shape of a field's type allows for every number of times that its bounds
allow for.
-/

import RosettaDaml.Proofs.Conversion.Documented
import RosettaDaml.Proofs.Daml.Entry
import RosettaDaml.Proofs.Schema.Bounds

namespace RosettaDaml

open RosettaDaml.Data Reader

namespace Cardinality

/-- Whether something may occur so many times. -/
def Allows (cardinality : Cardinality) (count : Nat) : Prop :=
  cardinality.lower ≤ count ∧ ∀ bound ∈ cardinality.upper, count ≤ bound

def AllowsOnlyZero (cardinality : Cardinality) : Prop :=
  ∀ count, cardinality.Allows count ↔ count = 0

/-- The least number is always allowed. -/
theorem allows_lower (cardinality : Cardinality) : cardinality.Allows cardinality.lower :=
  ⟨le_rfl, cardinality.lower_le_upper⟩

/-- A cardinality is zero when it allows nothing else. -/
theorem isZero_iff (cardinality : Cardinality) :
    cardinality.isZero = true ↔ cardinality.AllowsOnlyZero := by
  rw [isZero, Bool.and_eq_true, beq_iff_eq, beq_iff_eq]
  constructor
  · rintro ⟨least, most⟩ count
    simp [Allows, least, most]
  · intro onlyZero
    have least : cardinality.lower = 0 := (onlyZero _).1 cardinality.allows_lower
    refine ⟨least, ?_⟩
    cases most : cardinality.upper with
    | none =>
        have one : cardinality.Allows 1 := by simp [Allows, least, most]
        exact absurd ((onlyZero 1).1 one) one_ne_zero
    | some bound =>
        have greatest : cardinality.Allows bound := by simp [Allows, least, most]
        rw [(onlyZero bound).1 greatest]

instance (cardinality : Cardinality) : Decidable cardinality.AllowsOnlyZero :=
  decidable_of_iff _ cardinality.isZero_iff

end Cardinality

/-- What a type looks like where it stands for one thing, for one or none, or for any number. -/
inductive Shape where
  | bare
  | optional
  | list
  deriving DecidableEq, Repr

namespace Shape

def write : Shape → String → String
  | .bare, type => type
  | .optional, type => "Optional " ++ type
  | .list, type => "[" ++ type ++ "]"

/-- Whether a value of the type can stand for so many things. -/
def Admits : Shape → Nat → Prop
  | .bare, count => count = 1
  | .optional, count => count ≤ 1
  | .list, _ => True

end Shape

namespace Cardinality

def shape (cardinality : Cardinality) : Shape :=
  if cardinality.upper = some 1 then if cardinality.lower = 0 then .optional else .bare
  else .list

variable (cardinality : Cardinality)

/-- The shape of a cardinality is written as that of its multiplicity. -/
theorem shape_multiplicity (type : String) :
    cardinality.multiplicity.shape .alone type = cardinality.shape.write type := by
  rw [multiplicity, shape]
  by_cases single : cardinality.upper = some 1
  · by_cases free : cardinality.lower = 0
    · rw [if_pos single, if_pos single, if_pos free, if_pos free]
      rfl
    · rw [if_pos single, if_pos single, if_neg free, if_neg free]
      rfl
  · rw [if_neg single, if_neg single]
    exact Multiplicity.shape_of_isMany rfl .alone type

/-- Every number that is allowed is admitted. -/
theorem admits_of_allows {count : Nat} (allowed : cardinality.Allows count) :
    cardinality.shape.Admits count := by
  obtain ⟨least, most⟩ := allowed
  rw [shape]
  split_ifs with single free
  · exact most 1 single
  · have atMost := most 1 single
    change count = 1
    omega
  · trivial

/-- A shape that is no list admits no other number. -/
theorem allows_of_admits (noList : cardinality.shape ≠ .list) {count : Nat}
    (admitted : cardinality.shape.Admits count) : cardinality.Allows count := by
  have ordered := cardinality.lower_le_upper
  rw [shape] at noList admitted
  rw [Allows]
  split_ifs at noList admitted with single free
  · simp only [single, Option.mem_some_iff, forall_eq'] at ordered ⊢
    exact ⟨free ▸ Nat.zero_le count, admitted⟩
  · simp only [single, Option.mem_some_iff, forall_eq'] at ordered ⊢
    obtain rfl : count = 1 := admitted
    exact ⟨ordered, le_rfl⟩
  · exact absurd rfl noList

/-- A list stands only for what may occur more than once. -/
theorem exists_allows_of_list (occurs : ¬ cardinality.AllowsOnlyZero)
    (isList : cardinality.shape = .list) : ∃ count, 1 < count ∧ cardinality.Allows count := by
  have notZero := cardinality.isZero_iff.not.2 occurs
  have ordered := cardinality.lower_le_upper
  have notSingle : cardinality.upper ≠ some 1 := by
    intro single
    rw [shape, if_pos single] at isList
    split at isList <;> cases isList
  simp only [Allows]
  cases most : cardinality.upper with
  | none => exact ⟨cardinality.lower + 2, by omega, by omega, by simp⟩
  | some bound =>
      rw [most] at ordered notSingle
      have least := ordered bound rfl
      refine ⟨bound, ?_, least, by simp⟩
      by_contra atMost
      obtain rfl : bound = 0 := by
        have notOne : bound ≠ 1 := fun one => notSingle (one ▸ rfl)
        omega
      simp [isZero, most, Nat.le_zero.1 least] at notZero

end Cardinality

/-- The lines of a field: its name and its type in a shape that admits what the bounds allow, and
nothing else unless it is a list, which stands only for what may occur more than once; then the
lines of a comment. -/
inductive ClassField.IsWritten (field : ClassField) : Lines → Prop where
  | intro {shape : Shape} {type : String} {comment : Lines}
      (typed : field.toMember.type.text = .ok type)
      (complete : ∀ count, field.card.Allows count → shape.Admits count)
      (sound : shape ≠ .list → ∀ count, shape.Admits count → field.card.Allows count)
      (least : shape = .list → ∃ count, 1 < count ∧ field.card.Allows count)
      (commented : ∀ line ∈ comment, isCommentLine line = true) :
      field.IsWritten
        ((blanks 4 ++ (renameField field.name ++ " : " ++ shape.write type)) :: comment)

/-- The lines of a record with a comment in front, fields, and a clause at the end. -/
inductive IsRecordBlock (name : String) (fields : List ClassField) : Lines → Prop where
  | intro {comment : Lines} {parts : List Lines}
      (commented : ∀ line ∈ comment, isCommentLine line = true)
      (written : List.Forall₂ ClassField.IsWritten fields parts) :
      IsRecordBlock name fields (comment ++ ("data " ++ name ++ " = " ++ name ++ " with") ::
        (parts.flatten ++ [blanks 6 ++ Daml.derivingClause]))

/-- A field that may occur is written in its shape. -/
theorem ClassField.isWritten_lines {field : ClassField} (occurs : ¬ field.card.AllowsOnlyZero)
    (width : Nat) : field.IsWritten ((Entry.ofField field.toMember).lines width) := by
  obtain ⟨type, given⟩ :=
    TypeExpr.exists_text (TypeExpr.isRenderable_of_isSimple (Schema.isSimple_toMember field))
  have shaped : field.toMember.type.written field.toMember.multiplicity .alone =
      field.card.shape.write type := by
    rw [TypeExpr.written, TypeExpr.shapedText, given]
    exact field.card.shape_multiplicity type
  rw [Entry.lines, Entry.ofField, shaped]
  exact .intro given (fun _ => field.card.admits_of_allows)
    (fun noList _ => field.card.allows_of_admits noList) (field.card.exists_allows_of_list occurs)
    fun line member => (isCommentLine_of_mem member).1

/-- A class is written as a record of the fields that may occur. -/
theorem isRecordBlock_lines (decl : ClassDecl) {fields : List ClassField}
    (occur : ∀ field ∈ fields, ¬ field.card.AllowsOnlyZero) (width : Nat) :
    IsRecordBlock (renameType decl.name) fields
      (Declaration.lines width ⟨renameType decl.name, decl.annotation,
        .record (fields.map ClassField.toMember)⟩) := by
  have commented : ∀ line ∈ noteLines width .before decl.annotation, isCommentLine line = true :=
    fun line member => (isCommentLine_of_mem_noteLines member).1
  have written : List.Forall₂ ClassField.IsWritten fields
      (fields.map fun field => (Entry.ofField field.toMember).lines width) := by
    rw [List.forall₂_map_right_iff, List.forall₂_same]
    exact fun field member => field.isWritten_lines (occur field member) width
  rw [Declaration.lines, Declaration.entries_record, List.map_map, List.flatMap_cons,
    List.flatMap_append, List.flatMap_map, List.flatMap_def]
  exact .intro commented written

namespace Schema

/-- A schema that is converted leaves room for comments. -/
theorem hasRoom_of_convert {schema : Schema} {config : Config} {name text : String}
    (converted : (schema.convert config name).result = .ok text) : config.HasRoom := by
  obtain ⟨model, built, -⟩ := result_convert_eq_ok_iff.1 converted
  obtain ⟨acyclic, accepted, -⟩ := result_build_eq_ok_iff.1 built
  by_contra noRoom
  obtain ⟨failure, fails, -⟩ := exists_convert_undocumented acyclic accepted noRoom name
  rw [converted] at fails
  cases fails

/-- The fields that are dropped are those that may not occur. -/
theorem filter_allowsOnlyZero (fields : List ClassField) :
    (fields.filter fun field => ¬ field.card.AllowsOnlyZero) =
      fields.filter fun field => !field.card.isZero := by
  refine List.filter_congr fun field _ => ?_
  simp [← field.card.isZero_iff]

/-- A class has the fields of its chain and the synthetic one, without those that can only occur
zero times. -/
theorem exists_recordFields {schema : Schema} (acyclic : schema.Acyclic) (decl : ClassDecl) :
    ∃ synthetic chain, decl.HasSynthetic synthetic ∧ Lineage schema.classes decl chain ∧
      schema.HasRecordFields decl ((synthetic ++ chain.flatMap ClassDecl.fields).filter
        fun field => ¬ field.card.AllowsOnlyZero) := by
  have has := Index.hasRecordFields_ofSchema acyclic decl
  obtain ⟨synthetic, chain, added, lineage, fieldsAre⟩ := has
  refine ⟨synthetic, chain, added, lineage, synthetic, chain, added, lineage, ?_⟩
  rw [filter_allowsOnlyZero, List.filter_append, ClassDecl.hasSynthetic_iff.1 added,
    decl.filter_syntheticFields]

/-- The block of a class that is kept holds each of its fields in a shape of its own. -/
theorem exists_recordBlock {schema : Schema} {config : Config} {name text : String}
    (converted : (schema.convert config name).result = .ok text) :
    ∃ blocks, text = Daml.linesText (joinBlocks blocks) ∧
      ∀ position decl fields, KeptAt schema.decls position (.classDecl decl) →
        schema.HasRecordFields decl fields → (∀ field ∈ fields, ¬ field.card.AllowsOnlyZero) →
          ∃ block ∈ blocks, IsRecordBlock (renameType decl.name) fields block := by
  obtain ⟨model, built, rendered⟩ := result_convert_eq_ok_iff.1 converted
  obtain ⟨acyclic, accepted, rfl⟩ := result_build_eq_ok_iff.1 built
  obtain ⟨width, fits, positive⟩ := hasRoom_of_convert converted
  obtain ⟨front, blocks, joined, written⟩ := Daml.exists_blocks_of_render rendered
  obtain ⟨sameLength, along⟩ := List.forall₂_iff_get.1 written
  refine ⟨_, joined, fun position decl fields kept has occur => ?_⟩
  have member := schema.mem_declarations acyclic config name kept (.record has)
  obtain ⟨index, inside, here⟩ := List.mem_iff_getElem.1 member
  have plain := isPlain_of_mem acyclic config name _ member
  have block := along index inside (sameLength ▸ inside)
  rw [List.get_eq_getElem, here, Daml.result_declaration fits positive (.inr rfl)
    (Declaration.isRenderable_of_isPlain plain)] at block
  refine ⟨_, List.mem_append_right _ (List.get_mem blocks ⟨index, sameLength ▸ inside⟩), ?_⟩
  rw [← Except.ok.inj block]
  exact isRecordBlock_lines decl occur width.toNat

/-- Bounds that are read are in order, fields are left out exactly when they can only occur zero
times, and every other one stands in a shape that admits what its bounds allow. -/
theorem occurrences_of_convert {schema : Schema} {config : Config} {name text : String}
    (converted : (schema.convert config name).result = .ok text) (entries : Entries)
    (cardinality : Cardinality) :
    (defaulted "card" .one Cardinality.read entries = .valid cardinality ↔
      ∃ lower upper, Cardinality.Denotes (Value.find? "card" entries) lower upper ∧
        cardinality.HasBounds lower upper) ∧
    ∃ blocks, text = Daml.linesText (joinBlocks blocks) ∧
      ∀ position decl, KeptAt schema.decls position (.classDecl decl) →
        ∃ synthetic chain, decl.HasSynthetic synthetic ∧ Lineage schema.classes decl chain ∧
          ∃ block ∈ blocks, IsRecordBlock (renameType decl.name)
            ((synthetic ++ chain.flatMap ClassDecl.fields).filter
              fun field => ¬ field.card.AllowsOnlyZero) block := by
  obtain ⟨model, built, -⟩ := result_convert_eq_ok_iff.1 converted
  obtain ⟨acyclic, -, -⟩ := result_build_eq_ok_iff.1 built
  obtain ⟨blocks, joined, recorded⟩ := exists_recordBlock converted
  refine ⟨Cardinality.defaulted_eq_valid_iff, blocks, joined, fun position decl kept => ?_⟩
  obtain ⟨synthetic, chain, added, lineage, has⟩ := exists_recordFields acyclic decl
  refine ⟨synthetic, chain, added, lineage, recorded position decl _ kept has ?_⟩
  exact fun field member => of_decide_eq_true (List.mem_filter.1 member).2

theorem occurrences_of_convert_layered :
    ∃ text, (layered.convert .standard "Model").result = .ok text ∧
      (defaulted "card" .one Cardinality.read [(.text "card", .text "2..3")] =
          .valid ⟨2, some 3, by simp⟩ ↔
        ∃ lower upper, Cardinality.Denotes (some (.text "2..3")) lower upper ∧
          Cardinality.HasBounds ⟨2, some 3, by simp⟩ lower upper) ∧
      ∃ blocks, text = Daml.linesText (joinBlocks blocks) ∧
        ∀ position decl, KeptAt layered.decls position (.classDecl decl) →
          ∃ synthetic chain, decl.HasSynthetic synthetic ∧ Lineage layered.classes decl chain ∧
            ∃ block ∈ blocks, IsRecordBlock (renameType decl.name)
              ((synthetic ++ chain.flatMap ClassDecl.fields).filter
                fun field => ¬ field.card.AllowsOnlyZero) block := by
  obtain ⟨text, converted⟩ := exists_convert_layered
  exact ⟨text, converted, occurrences_of_convert converted _ _⟩

end Schema

end RosettaDaml
