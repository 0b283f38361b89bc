/-
This file shows that declarations are written as lines of code, each with a comment behind it.
-/

import RosettaDaml.Proofs.Daml.Outcome
import RosettaDaml.Proofs.Daml.TypeText
import RosettaDaml.Proofs.Layout.Comment

namespace RosettaDaml

/-- A line of code with the comment behind it and the column at which the comment stands. -/
structure Entry where
  code : String
  column : Nat
  note : Option String

namespace Entry

/-- A line of code without a comment. -/
def plain (code : String) : Entry := ⟨code, 0, none⟩

def lines (width : Nat) (entry : Entry) : Lines :=
  entry.code :: nest entry.column (noteLines width .after entry.note)

def ofField (member : Member TypeExpr) : Entry where
  code := blanks 4 ++ (member.name ++ " : " ++ member.type.written member.multiplicity .alone)
  column := 8
  note := member.comment

/-- Something to choose behind its lead, with its comment. -/
def ofChoice (lead : String) (choice : String × Option String) : Entry where
  code := blanks 4 ++ (lead ++ " " ++ choice.1)
  column := 6
  note := choice.2

def ofChoices : List (String × Option String) → List Entry
  | [] => []
  | first :: rest => ofChoice "=" first :: rest.map (ofChoice "|")

end Entry

def Constructor.choice (owner : String) (constructor : Constructor) : String × Option String :=
  (owner ++ "_" ++ constructor.name ++ " ()", constructor.comment)

def Member.choice (owner : String) (member : Member TypeExpr) : String × Option String :=
  (owner ++ "_" ++ member.name ++ " " ++ member.type.written member.multiplicity .argument,
    member.comment)

namespace Declaration

def choiceEntries (name : String) (choices : List (String × Option String)) : List Entry :=
  .plain ("data " ++ name) ::
    (Entry.ofChoices choices ++ [.plain (blanks 4 ++ Daml.derivingClause)])

def placeholderEntries (name : String) : List Entry :=
  [.plain ("data " ++ name ++ " = " ++ name ++ " ()"), .plain (blanks 4 ++ Daml.derivingClause)]

/-- The lines of code of a declaration. -/
def entries (declaration : Declaration) : List Entry :=
  let name := declaration.name
  match declaration.body with
  | .enumeration [] => placeholderEntries name
  | .enumeration constructors => choiceEntries name (constructors.map (Constructor.choice name))
  | .record members =>
      .plain ("data " ++ name ++ " = " ++ name ++ " with") ::
        (members.map Entry.ofField ++ [.plain (blanks 6 ++ Daml.derivingClause)])
  | .variant [] => placeholderEntries name
  | .variant members => choiceEntries name (members.map (Member.choice name))
  | .synonym type => [.plain ("type " ++ name ++ " = " ++ type.written .exactlyOne .alone)]
  | .template members signatory =>
      .plain ("template " ++ name ++ " with") :: (members.map Entry.ofField ++
        [.plain "  where", .plain ("    signatory " ++ signatory)])

/-- The entries of a record: its head, its fields and the clause at the end. -/
theorem entries_record (name : String) (note : Option String) (fields : List (Member TypeExpr)) :
    entries ⟨name, note, .record fields⟩ =
      .plain ("data " ++ name ++ " = " ++ name ++ " with") ::
        (fields.map Entry.ofField ++ [.plain (blanks 6 ++ Daml.derivingClause)]) := rfl

/-- The entries of an enumeration: its head, its values and the clause at the end. -/
theorem entries_enumeration_cons (name : String) (note : Option String) (first : Constructor)
    (rest : List Constructor) :
    entries ⟨name, note, .enumeration (first :: rest)⟩ =
      .plain ("data " ++ name) :: (Entry.ofChoice "=" (first.choice name) ::
        (rest.map (Constructor.choice name)).map (Entry.ofChoice "|") ++
          [.plain (blanks 4 ++ Daml.derivingClause)]) := rfl

/-- Whether every type of a declaration has a text. -/
def isRenderable (declaration : Declaration) : Bool :=
  declaration.members.all (fun member => member.type.isRenderable) &&
    match declaration.body with
    | .synonym type => type.isRenderable
    | _ => true

def lines (width : Nat) (declaration : Declaration) : Lines :=
  noteLines width .before declaration.comment ++ declaration.entries.flatMap (Entry.lines width)

end Declaration

namespace Module

/-- The blocks of lines of a module. -/
def blocks (width : Nat) (model : Module) : List Lines :=
  (headLines width model.comment ++ Daml.header model.name) :: Daml.importBlocks model.imports ++
    model.declarations.map (Declaration.lines width)

/-- Whether every type in a module has a text. -/
def isRenderable (model : Module) : Bool := model.declarations.all Declaration.isRenderable

end Module

namespace Traced

variable {Failure Content Result : Type}

/-- A step that succeeds hands its content on. -/
theorem result_bind_of_ok {first : Traced Failure Content} {content : Content}
    (given : first.result = .ok content) (next : Content → Traced Failure Result) :
    (first >>= next).result = (next content).result := by
  rw [result_bind, given]
  rfl

/-- A step that fails is the last one. -/
theorem result_bind_of_error {first : Traced Failure Content} {failure : Failure}
    (fails : first.result = .error failure) (next : Content → Traced Failure Result) :
    (first >>= next).result = .error failure := by
  rw [result_bind, fails]
  rfl

/-- A step that succeeds for each item gives all contents, by induction on the items. -/
theorem result_forEach_of_ok {act : Content → Traced Failure Result} {give : Content → Result}
    {items : List Content} (each : ∀ item ∈ items, (act item).result = .ok (give item)) :
    (forEach act items).result = .ok (items.map give) := by
  rw [result_forEach_eq_ok_iff, List.forall₂_map_right_iff, List.forall₂_same]
  exact each

end Traced

namespace Entry

/-- A field is written as its entry. -/
theorem nest_field (width : Nat) (member : Member TypeExpr) :
    nest 4 ((member.name ++ " : " ++ member.type.written member.multiplicity .alone) ::
      nest 4 (noteLines width .after member.comment)) = (ofField member).lines width := by
  rw [nest_cons 4 (by simp), nest_nest]
  rfl

/-- A choice is written as its entry. -/
theorem nest_hang {lead : String} (single : Text.size lead.toList = 1) (width : Nat)
    (choice : String × Option String) :
    nest 4 (hang lead (choice.1 :: noteLines width .after choice.2)) =
      (ofChoice lead choice).lines width := by
  rw [hang, single, nest_cons 4 (by simp), nest_nest]
  rfl

/-- The items of a block are what one can choose, each behind its lead. -/
theorem nest_blockItems (width : Nat) (choices : List (String × Option String)) :
    nest 4 (Daml.blockItems (choices.map fun choice =>
        choice.1 :: noteLines width .after choice.2)) =
      (ofChoices choices).flatMap (lines width) := by
  cases choices with
  | nil => rfl
  | cons first rest =>
      rw [List.map_cons, Daml.blockItems, nest_append, nest_hang rfl, List.flatMap_map,
        nest_flatMap, ofChoices, List.flatMap_cons, List.flatMap_map]
      refine congrArg _ (List.flatMap_congr fun choice _ => ?_)
      exact nest_hang rfl width choice

end Entry

/-- A simple type can be written. -/
theorem TypeExpr.isRenderable_of_isSimple {type : TypeExpr} (simple : type.isSimple = true) :
    type.isRenderable = true := by
  cases type <;> first | rfl | exact absurd simple (by simp [isSimple])

/-- A plain declaration can be written. -/
theorem Declaration.isRenderable_of_isPlain {declaration : Declaration}
    (plain : declaration.isPlain = true) : declaration.isRenderable = true := by
  obtain ⟨name, note, body⟩ := declaration
  cases body with
  | enumeration _ => rfl
  | record fields =>
      rw [isRenderable, Bool.and_true, List.all_eq_true]
      exact fun member inside =>
        TypeExpr.isRenderable_of_isSimple (List.all_eq_true.1 plain member inside)
  | variant _ | synonym _ | template _ _ => exact absurd plain (by simp [isPlain])

namespace Daml

/-- A type that can be written is written. -/
theorem result_typeText {type : TypeExpr} (renderable : type.isRenderable = true)
    (multiplicity : Multiplicity) (position : TypePosition) :
    (typeText type multiplicity position).result = .ok (type.written multiplicity position) := by
  rw [typeText, Traced.result_ofExcept, TypeExpr.shapedText_eq_written renderable]
  rfl

section Room

variable {config : Config} {width : Int} (fits : config.textWidth? = some width) (room : 1 ≤ width)

include fits room

/-- A comment that has room is written as its lines. -/
theorem result_comment_of_room (position : CommentPosition) (note : Option String) :
    (comment config position note).result = .ok (noteLines width.toNat position note) := by
  rw [result_comment fits]
  cases note with
  | none => rfl
  | some text =>
      change ((fill width text).map (markLines position)).mapError RenderFailure.invalidWidth = _
      rw [fill_of_pos room]
      rfl

/-- A field is written with its comment behind it. -/
theorem result_field {member : Member TypeExpr} (renderable : member.type.isRenderable = true) :
    (field config member).result =
      .ok ((member.name ++ " : " ++ member.type.written member.multiplicity .alone) ::
        nest 4 (noteLines width.toNat .after member.comment)) := by
  rw [field, Traced.result_bind_of_ok (result_typeText renderable _ _),
    Traced.result_bind_of_ok (result_comment_of_room fits room _ _)]
  rfl

/-- So is a value of an enumeration. -/
theorem result_constructor (owner : String) (given : Constructor) :
    (constructor config owner given).result =
      .ok ((given.choice owner).1 :: noteLines width.toNat .after (given.choice owner).2) := by
  rw [constructor, Traced.result_bind_of_ok (result_comment_of_room fits room _ _)]
  rfl

/-- And so is a choice of a variant. -/
theorem result_alternative (owner : String) {member : Member TypeExpr}
    (renderable : member.type.isRenderable = true) :
    (alternative config owner member).result =
      .ok ((member.choice owner).1 :: noteLines width.toNat .after (member.choice owner).2) := by
  rw [alternative, Traced.result_bind_of_ok (result_typeText renderable _ _),
    Traced.result_bind_of_ok (result_comment_of_room fits room _ _)]
  rfl

/-- The fields of a record are written as their entries, by induction on the fields. -/
theorem exists_fields_of_room (members : List (Member TypeExpr))
    (renderable : ∀ member ∈ members, member.type.isRenderable = true) :
    ∃ lines, (fields config members).result = .ok lines ∧
      nest 4 lines = (members.map Entry.ofField).flatMap (Entry.lines width.toNat) := by
  have each := Traced.result_forEach_of_ok fun member inside =>
    result_field fits room (renderable member inside)
  refine ⟨_, Traced.result_bind_of_ok each _, ?_⟩
  rw [← List.flatMap_def, nest_flatMap, List.flatMap_map]
  exact List.flatMap_congr fun member _ => Entry.nest_field _ member

/-- A type with choices is written as its entries. -/
theorem result_choices {name : String} (note : Option String)
    {items : Rendering (List Lines)} {choices : List (String × Option String)}
    (given : items.result = .ok (choices.map fun choice =>
      choice.1 :: noteLines width.toNat .after choice.2)) :
    (Daml.choices config name note items).result =
      .ok (noteLines width.toNat .before note ++
        (Declaration.choiceEntries name choices).flatMap (Entry.lines width.toNat)) := by
  rw [Daml.choices, Traced.result_bind_of_ok given,
    Traced.result_bind_of_ok (result_comment_of_room fits room _ _), block, nest_append,
    Entry.nest_blockItems, nest_cons 4 (by decide), Declaration.choiceEntries, List.flatMap_cons,
    List.flatMap_append]
  rfl

/-- A type without choices is written as its placeholder where this is allowed. -/
theorem result_placeholder (allowed : config.emptyVariant = .placeholder) (name : String)
    (note : Option String) :
    (placeholder config name note).result =
      .ok (noteLines width.toNat .before note ++
        (Declaration.placeholderEntries name).flatMap (Entry.lines width.toNat)) := by
  rw [placeholder, allowed]
  simp only
  rw [Traced.result_bind_of_ok (Traced.result_leave _),
    Traced.result_bind_of_ok (result_comment_of_room fits room _ _), nest_cons 4 (by decide)]
  rfl

/-- A declaration whose types have texts is written as its lines, unless it is empty and the
settings forbid that. -/
theorem result_declaration {declaration : Declaration}
    (allowed : config.emptyVariant = .placeholder ∨ declaration.isEmptyVariant = false)
    (renderable : declaration.isRenderable = true) :
    (Daml.declaration config declaration).result = .ok (declaration.lines width.toNat) := by
  obtain ⟨name, note, body⟩ := declaration
  rw [Declaration.isRenderable, Bool.and_eq_true] at renderable
  obtain ⟨members, aliased⟩ := renderable
  rw [List.all_eq_true] at members
  have commented := result_comment_of_room fits room .before note
  cases body with
  | enumeration constructors =>
      cases constructors with
      | nil => exact result_placeholder fits room (allowed.resolve_right Bool.noConfusion) name note
      | cons first rest =>
          refine result_choices fits room note ?_
          rw [List.map_map]
          exact Traced.result_forEach_of_ok fun given _ => result_constructor fits room name given
  | record fields =>
      obtain ⟨lines, given, nested⟩ := exists_fields_of_room fits room fields members
      change (record config name note fields).result = _
      rw [record, Traced.result_bind_of_ok commented, Traced.result_bind_of_ok given, nested,
        Traced.result_pure, nest_cons 6 (by decide), Declaration.lines, Declaration.entries,
        List.flatMap_cons, List.flatMap_append, List.append_assoc]
      rfl
  | variant alternatives =>
      cases alternatives with
      | nil => exact result_placeholder fits room (allowed.resolve_right Bool.noConfusion) name note
      | cons first rest =>
          refine result_choices fits room note ?_
          rw [List.map_map]
          exact Traced.result_forEach_of_ok fun given inside =>
            result_alternative fits room name (members given inside)
  | synonym type =>
      change (synonym config name note type).result = _
      rw [synonym, Traced.result_bind_of_ok commented,
        Traced.result_bind_of_ok (result_typeText aliased _ _)]
      rfl
  | template fields signatory =>
      obtain ⟨lines, given, nested⟩ := exists_fields_of_room fits room fields members
      change (template config name note fields signatory).result = _
      rw [template, Traced.result_bind_of_ok commented, Traced.result_bind_of_ok given, nested,
        Traced.result_pure, Declaration.lines, Declaration.entries, List.flatMap_cons,
        List.flatMap_append, List.append_assoc]
      rfl

/-- The comment of a header that has room is written as its lines. -/
theorem result_headComment_of_room (note : Option String) :
    (headComment config note).result = .ok (headLines width.toNat note) := by
  rw [headComment, headLines]
  cases note with
  | none => rfl
  | some text =>
      by_cases empty : text = ""
      · subst empty
        rfl
      · rw [Text.nonEmpty?, if_neg (by simpa using empty)]
        simp only
        rw [Traced.result_bind_of_ok (result_textWidth fits), Traced.result_bind, fill_of_pos room]
        rfl

/-- A module whose types have texts is written as its blocks. -/
theorem result_render_of_room (allowed : config.emptyVariant = .placeholder) {model : Module}
    (renderable : model.isRenderable = true) :
    (render config model).result = .ok (linesText (joinBlocks (model.blocks width.toNat))) := by
  rw [Module.isRenderable, List.all_eq_true] at renderable
  have declarations := Traced.result_forEach_of_ok fun declaration member =>
    result_declaration fits room (.inl allowed) (renderable declaration member)
  rw [result_render (result_headComment_of_room fits room model.comment), declarations]
  rfl

end Room

end Daml

end RosettaDaml
