/-
This file says when records and enumerations of simple types can be written.
-/

import RosettaDaml.Daml.Render
import RosettaDaml.Proofs.Log.Result

namespace RosettaDaml

/-- What can go wrong in a conversion, without its details. -/
inductive FailureKind where
  | cyclic
  | inconsistent
  | unsupportedType
  | unrenderable
  | emptyVariant
  | invalidWidth
  | widthOverflow
  deriving DecidableEq, Repr

def RenderFailure.kind : RenderFailure → FailureKind
  | .type (.anonymous _) => .unsupportedType
  | .type (.unknown _) => .unrenderable
  | .unknownImport _ => .unrenderable
  | .emptyVariant _ => .emptyVariant
  | .invalidWidth _ => .invalidWidth
  | .widthOverflow => .widthOverflow

/-- There is room for text on comment lines. -/
def Config.HasRoom (config : Config) : Prop :=
  ∃ width, config.textWidth? = some width ∧ 1 ≤ width

/-- The standard settings leave room for comments. -/
theorem Config.hasRoom_standard : Config.standard.HasRoom := ⟨53, by decide, by decide⟩

/-- Whether a type is a primitive one or names a declaration. -/
def TypeExpr.isSimple : TypeExpr → Bool
  | .primitive _ => true
  | .nominal _ => true
  | _ => false

/-- Whether a declaration is an enumeration or a record of simple types. -/
def Declaration.isPlain (declaration : Declaration) : Bool :=
  match declaration.body with
  | .enumeration _ => true
  | .record fields => fields.all fun member => member.type.isSimple
  | _ => false

/-- A text is wrapped when there is room. -/
theorem fill_of_pos {width : Int} (room : 1 ≤ width) (text : String) :
    fill width text = .ok (wrapText width.toNat text) :=
  if_pos (by omega)

namespace Daml

/-- The width of a text is that of the settings. -/
theorem result_textWidth {config : Config} {width : Int} (fits : config.textWidth? = some width) :
    (textWidth config).result = .ok width := by
  rw [textWidth, fits]
  rfl

/-- A comment is laid out in that width. -/
theorem result_comment {config : Config} {width : Int} (fits : config.textWidth? = some width)
    (position : CommentPosition) (text : Option String) :
    (comment config position text).result =
      (commentLines width position text).mapError .invalidWidth := by
  rw [comment, Traced.result_andThen, result_textWidth fits]
  rfl

/-- Where there is room every comment is laid out. -/
theorem exists_comment {config : Config} (room : config.HasRoom) (position : CommentPosition)
    (text : Option String) : ∃ lines, (comment config position text).result = .ok lines := by
  obtain ⟨width, fits, positive⟩ := room
  rw [result_comment fits]
  cases text with
  | none => exact ⟨[], rfl⟩
  | some text =>
      refine ⟨markLines position (wrapText width.toNat text), ?_⟩
      change ((fill width text).map (markLines position)).mapError RenderFailure.invalidWidth = _
      rw [fill_of_pos positive]
      rfl

/-- So is the comment of a header. -/
theorem exists_headComment {config : Config} (room : config.HasRoom) (note : Option String) :
    ∃ lines, (headComment config note).result = .ok lines := by
  obtain ⟨width, fits, positive⟩ := room
  rw [headComment]
  cases Text.nonEmpty? note with
  | none => exact ⟨[], rfl⟩
  | some text =>
      refine ⟨(wrapText width.toNat text).map fun line => s!"-- {line}", ?_⟩
      simp only [Traced.result_bind, result_textWidth fits, Except.bind, Traced.result_ofExcept,
        fill_of_pos positive]
      rfl

/-- A width that is no number is met by the first comment. -/
theorem result_headComment_of_none {config : Config} (overflow : config.textWidth? = none)
    {note : Option String} {text : String} (given : Text.nonEmpty? note = some text) :
    (headComment config note).result = .error .widthOverflow := by
  simp only [headComment, given, Traced.result_bind, textWidth, overflow, Traced.result_fail,
    Except.bind]

/-- The width is looked at before anything else is written. -/
theorem result_headComment_of_not_pos {config : Config} {width : Int}
    (fits : config.textWidth? = some width) (noRoom : ¬ 0 < width) {note : Option String}
    {text : String} (given : Text.nonEmpty? note = some text) :
    (headComment config note).result = .error (.invalidWidth ⟨width⟩) := by
  simp only [headComment, given, Traced.result_bind, result_textWidth fits, Except.bind,
    Traced.result_ofExcept, fill, if_neg noRoom, Except.mapError]

/-- A simple type is written. -/
theorem exists_typeText {type : TypeExpr} (simple : type.isSimple = true)
    (multiplicity : Multiplicity) (position : TypePosition) :
    ∃ text, (typeText type multiplicity position).result = .ok text := by
  cases type with
  | primitive kind => exact ⟨multiplicity.shape position kind.daml, rfl⟩
  | nominal name => exact ⟨multiplicity.shape position name, rfl⟩
  | product _ => simp [TypeExpr.isSimple] at simple
  | enumeration _ => simp [TypeExpr.isSimple] at simple
  | sum _ => simp [TypeExpr.isSimple] at simple
  | unknown _ => simp [TypeExpr.isSimple] at simple

/-- A field of a simple type is written. -/
theorem exists_field {config : Config} (room : config.HasRoom) {member : Member TypeExpr}
    (simple : member.type.isSimple = true) : ∃ lines, (field config member).result = .ok lines := by
  obtain ⟨type, typeGiven⟩ := exists_typeText simple member.multiplicity .alone
  obtain ⟨comment, commentGiven⟩ := exists_comment room .after member.comment
  refine ⟨s!"{member.name} : {type}" :: nest 4 comment, ?_⟩
  simp only [field, Traced.result_bind, typeGiven, commentGiven, Except.bind, Traced.result_pure]

/-- A value of an enumeration is always written. -/
theorem exists_constructor {config : Config} (room : config.HasRoom) (owner : String)
    (given : Constructor) : ∃ lines, (constructor config owner given).result = .ok lines := by
  obtain ⟨comment, commentGiven⟩ := exists_comment room .after given.comment
  refine ⟨s!"{owner}_{given.name} ()" :: comment, ?_⟩
  simp only [constructor, Traced.result_bind, commentGiven, Except.bind, Traced.result_pure]

/-- A record of simple types is written. -/
theorem exists_fields {config : Config} (room : config.HasRoom) {members : List (Member TypeExpr)}
    (simple : ∀ member ∈ members, member.type.isSimple = true) :
    ∃ lines, (fields config members).result = .ok lines := by
  obtain ⟨blocks, given⟩ := Traced.exists_forEach fun member inside =>
    exists_field room (simple member inside)
  refine ⟨blocks.flatten, ?_⟩
  simp only [fields, Traced.result_bind, given, Except.bind, Traced.result_pure]

/-- An empty enumeration is refused where the settings forbid it. -/
theorem result_declaration_of_isEmptyVariant {config : Config} {declaration : Declaration}
    (empty : declaration.isEmptyVariant = true) (refused : config.emptyVariant = .error) :
    (Daml.declaration config declaration).result = .error (.emptyVariant declaration.name) := by
  obtain ⟨name, note, body⟩ := declaration
  cases body with
  | enumeration constructors =>
      obtain rfl := List.isEmpty_iff.1 empty
      simp only [Daml.declaration, placeholder, refused, Traced.result_fail]
  | variant alternatives =>
      obtain rfl := List.isEmpty_iff.1 empty
      simp only [Daml.declaration, placeholder, refused, Traced.result_fail]
  | record _ => simp [Declaration.isEmptyVariant] at empty
  | synonym _ => simp [Declaration.isEmptyVariant] at empty
  | template _ _ => simp [Declaration.isEmptyVariant] at empty

/-- A placeholder is written where it is allowed. -/
theorem exists_placeholder {config : Config} (room : config.HasRoom)
    (allowed : config.emptyVariant = .placeholder) (name : String) (note : Option String) :
    ∃ lines, (placeholder config name note).result = .ok lines := by
  obtain ⟨comment, given⟩ := exists_comment room .before note
  refine ⟨comment ++ s!"data {name} = {name} ()" :: nest 4 [derivingClause], ?_⟩
  simp only [placeholder, allowed, Traced.result_bind, Traced.result_leave, given, Except.bind,
    Traced.result_pure]

/-- A plain declaration can be written unless it is empty and the settings forbid that. -/
theorem exists_declaration {config : Config} (room : config.HasRoom) {declaration : Declaration}
    (plain : declaration.isPlain = true)
    (allowed : config.emptyVariant = .placeholder ∨ declaration.isEmptyVariant = false) :
    ∃ lines, (Daml.declaration config declaration).result = .ok lines := by
  obtain ⟨name, note, body⟩ := declaration
  obtain ⟨comment, commentGiven⟩ := exists_comment room .before note
  cases body with
  | enumeration constructors =>
      cases constructors with
      | nil =>
          refine exists_placeholder room (allowed.resolve_right ?_) name note
          simp [Declaration.isEmptyVariant]
      | cons first rest =>
          have each : ∀ one ∈ first :: rest,
              ∃ lines, (constructor config name one).result = .ok lines :=
            fun one _ => exists_constructor room name one
          obtain ⟨items, given⟩ := Traced.exists_forEach each
          refine ⟨comment ++ s!"data {name}" :: nest 4 (block items), ?_⟩
          simp only [Daml.declaration, choices, Traced.result_bind, given, commentGiven,
            Except.bind, Traced.result_pure]
  | record members =>
      obtain ⟨lines, given⟩ := exists_fields room (List.all_eq_true.1 plain)
      refine ⟨comment ++ s!"data {name} = {name} with" :: nest 4 lines ++
        nest 6 [derivingClause], ?_⟩
      simp only [Daml.declaration, record, Traced.result_bind, given, commentGiven, Except.bind,
        Traced.result_pure]
  | variant _ => simp [Declaration.isPlain] at plain
  | synonym _ => simp [Declaration.isPlain] at plain
  | template _ _ => simp [Declaration.isPlain] at plain

/-- A module is rendered declaration by declaration below its header. -/
theorem result_render {config : Config} {model : Module} {comment : Lines}
    (given : (headComment config model.comment).result = .ok comment) :
    (render config model).result =
      (Traced.forEach (declaration config) model.declarations).result.map fun declarations =>
        linesText (joinBlocks
          ((comment ++ header model.name) :: importBlocks model.imports ++ declarations)) := by
  simp only [render, moduleLines, finish, Traced.result_bind, given, Except.bind]
  cases (Traced.forEach (declaration config) model.declarations).result <;> rfl

/-- A comment that cannot be laid out is the first failure. -/
theorem result_render_of_error {config : Config} {model : Module} {failure : RenderFailure}
    (fails : (headComment config model.comment).result = .error failure) :
    (render config model).result = .error failure := by
  simp only [render, moduleLines, Traced.result_bind, fails, Except.bind]

/-- A text that is written consists of blocks, among them one for each declaration. -/
theorem exists_blocks_of_render {config : Config} {model : Module} {text : String}
    (rendered : (render config model).result = .ok text) :
    ∃ front blocks, text = linesText (joinBlocks (front ++ blocks)) ∧
      List.Forall₂ (fun given block => (declaration config given).result = .ok block)
        model.declarations blocks := by
  obtain ⟨lines, built, finished⟩ := Traced.result_bind_eq_ok_iff.1 rendered
  obtain ⟨head, _, behind⟩ := Traced.result_bind_eq_ok_iff.1 built
  obtain ⟨blocks, each, whole⟩ := Traced.result_bind_eq_ok_iff.1 behind
  obtain ⟨_, _, joined⟩ := Traced.result_bind_eq_ok_iff.1 finished
  obtain rfl := Except.ok.inj whole
  exact ⟨_, blocks, (Except.ok.inj joined).symm, (Traced.result_forEach_eq_ok_iff _ _ _).1 each⟩

/-- A plain module is written unless something in it is both empty and forbidden. -/
theorem exists_render {config : Config} (room : config.HasRoom) {model : Module}
    (plain : ∀ declaration ∈ model.declarations, declaration.isPlain = true)
    (allowed : config.emptyVariant = .error →
      ∀ declaration ∈ model.declarations, declaration.isEmptyVariant = false) :
    ∃ text, (render config model).result = .ok text := by
  obtain ⟨comment, given⟩ := exists_headComment room model.comment
  have each : ∀ declaration ∈ model.declarations,
      ∃ lines, (Daml.declaration config declaration).result = .ok lines := by
    intro declaration member
    refine exists_declaration room (plain declaration member) ?_
    cases policy : config.emptyVariant with
    | placeholder => exact .inl rfl
    | error => exact .inr (allowed policy declaration member)
  obtain ⟨blocks, written⟩ := Traced.exists_forEach each
  rw [result_render given, written]
  exact ⟨_, rfl⟩

/-- Where empty enumerations are forbidden, a plain module fails at the first of them. -/
theorem result_render_of_find? {config : Config} (room : config.HasRoom) {model : Module}
    (plain : ∀ declaration ∈ model.declarations, declaration.isPlain = true)
    (refused : config.emptyVariant = .error) {declaration : Declaration}
    (first : model.declarations.find? Declaration.isEmptyVariant = some declaration) :
    (render config model).result = .error (.emptyVariant declaration.name) := by
  obtain ⟨comment, given⟩ := exists_headComment room model.comment
  obtain ⟨empty, before, after, parts, earlier⟩ := List.find?_eq_some_iff_append.1 first
  have fails : (Traced.forEach (Daml.declaration config) model.declarations).result =
      .error (.emptyVariant declaration.name) := by
    rw [Traced.result_forEach_eq_error_iff]
    refine ⟨before, declaration, after, parts, fun other member => ?_, ?_⟩
    · refine exists_declaration room (plain other ?_) (.inr ?_)
      · rw [parts]
        exact List.mem_append_left _ member
      · simpa using earlier other member
    · exact result_declaration_of_isEmptyVariant empty refused
  rw [result_render given, fails]
  rfl

end Daml

end RosettaDaml
