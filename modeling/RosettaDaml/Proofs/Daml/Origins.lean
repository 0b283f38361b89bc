/-
This file shows that the origins in a module can be told neither from its report nor from its text
or the failure that it ends with.
-/

import RosettaDaml.Proofs.Consistency.Origins
import RosettaDaml.Proofs.Daml.Outcome

namespace RosettaDaml

namespace Traced

variable {Failure Other Content Result : Type} (change : Failure → Other)

/-- A change of failures goes through two steps. -/
theorem mapFailure_bind (first : Traced Failure Content) (next : Content → Traced Failure Result) :
    (first >>= next).mapFailure change =
      first.mapFailure change >>= fun content => (next content).mapFailure change := by
  obtain ⟨log, result⟩ := first
  cases result <;> rfl

/-- The same for two steps that leave their records. -/
theorem mapFailure_andThen (first : Traced Failure Content)
    (next : Content → Traced Failure Result) :
    (first.andThen next).mapFailure change =
      (first.mapFailure change).andThen fun content => (next content).mapFailure change :=
  mapFailure_bind change first next

@[simp] theorem mapFailure_pure (content : Content) :
    (pure content : Traced Failure Content).mapFailure change = pure content := rfl

@[simp] theorem mapFailure_leave (records : List LogRecord) :
    (leave records : Traced Failure Unit).mapFailure change = leave records := rfl

/-- And for a step that is made for each item, by induction on the items. -/
theorem mapFailure_forEach (act : Content → Traced Failure Result) (items : List Content) :
    (forEach act items).mapFailure change =
      forEach (fun item => (act item).mapFailure change) items := by
  induction items with
  | nil => rfl
  | cons item rest inductionHypothesis =>
      rw [forEach, forEach, mapFailure_andThen, ← inductionHypothesis]
      congr 1
      funext result
      rw [mapFailure_andThen]
      rfl

end Traced

/-! Failures without the origins in the types that they are about. -/

def TypeFault.withoutOrigins : TypeFault → TypeFault
  | .anonymous type => .anonymous type.withoutOrigins
  | .unknown given => .unknown given

namespace RenderFailure

def withoutOrigins : RenderFailure → RenderFailure
  | .type fault => .type fault.withoutOrigins
  | other => other

/-- The kind of a failure does not depend on origins. -/
theorem kind_withoutOrigins (failure : RenderFailure) :
    failure.withoutOrigins.kind = failure.kind := by
  cases failure with
  | type fault => cases fault <;> rfl
  | unknownImport _ | emptyVariant _ | invalidWidth _ | widthOverflow => rfl

/-- Neither does its message. -/
theorem message_withoutOrigins (failure : RenderFailure) :
    failure.withoutOrigins.message = failure.message := by
  cases failure with
  | type fault =>
      cases fault with
      | anonymous type => cases type <;> rfl
      | unknown _ => rfl
  | unknownImport _ | emptyVariant _ | invalidWidth _ | widthOverflow => rfl

end RenderFailure

namespace TypeExpr

mutual

/-- Without its origins a type has the same text, or none for the same reason. -/
theorem text_withoutOrigins (type : TypeExpr) :
    type.withoutOrigins.text = type.text.mapError TypeFault.withoutOrigins := by
  cases type with
  | product members =>
      rw [withoutOrigins, text, text, memberTexts_withoutOrigins]
      cases memberTexts members <;> rfl
  | enumeration _ => rfl
  | sum _ => rfl
  | primitive _ | nominal _ | unknown _ => rfl

/-- Members have the same texts without their origins. -/
theorem memberTexts_withoutOrigins (members : List (Member TypeExpr)) :
    memberTexts (membersWithoutOrigins members) =
      (memberTexts members).mapError TypeFault.withoutOrigins := by
  cases members with
  | nil => rfl
  | cons member rest =>
      rw [membersWithoutOrigins, memberTexts, memberTexts, text_withoutOrigins member.type,
        memberTexts_withoutOrigins rest]
      cases member.type.text with
      | error _ => rfl
      | ok _ => cases memberTexts rest <;> rfl

end

end TypeExpr

namespace Daml

variable (config : Config)

/-- A type is written the same. -/
theorem typeText_withoutOrigins (type : TypeExpr) (multiplicity : Multiplicity)
    (position : TypePosition) :
    typeText type.withoutOrigins multiplicity position =
      (typeText type multiplicity position).mapFailure RenderFailure.withoutOrigins := by
  rw [typeText, typeText, TypeExpr.shapedText, TypeExpr.shapedText, TypeExpr.text_withoutOrigins]
  cases type.text <;> rfl

/-- The width of a text is none of the origins. -/
theorem mapFailure_textWidth :
    (textWidth config).mapFailure RenderFailure.withoutOrigins = textWidth config := by
  unfold textWidth
  cases config.textWidth? <;> rfl

/-- A comment fails for its width alone. -/
theorem mapFailure_comment (position : CommentPosition) (note : Option String) :
    (comment config position note).mapFailure RenderFailure.withoutOrigins =
      comment config position note := by
  rw [comment, Traced.mapFailure_andThen, mapFailure_textWidth]
  congr 1
  funext width
  cases commentLines width position note <;> rfl

/-- Neither is a comment. -/
theorem mapFailure_headComment (note : Option String) :
    (headComment config note).mapFailure RenderFailure.withoutOrigins =
      headComment config note := by
  unfold headComment
  cases Text.nonEmpty? note with
  | none => rfl
  | some text =>
      dsimp only
      rw [Traced.mapFailure_bind, mapFailure_textWidth]
      congr 1
      funext width
      cases fill width text <;> rfl

/-! Each part of a module is written the same without its origins. -/

/-- A field is written by its name, its type and its comment. -/
theorem field_withoutOrigins (member : Member TypeExpr) :
    field config member.withoutOrigins =
      (field config member).mapFailure RenderFailure.withoutOrigins := by
  unfold field
  simp only [Traced.mapFailure_bind, Traced.mapFailure_pure, mapFailure_comment,
    ← typeText_withoutOrigins]
  rfl

/-- The fields of a record are written one by one. -/
theorem fields_withoutOrigins (members : List (Member TypeExpr)) :
    fields config (members.map Member.withoutOrigins) =
      (fields config members).mapFailure RenderFailure.withoutOrigins := by
  unfold fields
  simp only [Traced.mapFailure_bind, Traced.mapFailure_pure, Traced.mapFailure_forEach,
    Traced.forEach_map, field_withoutOrigins]

/-- A choice of a variant is written by its name and its type. -/
theorem alternative_withoutOrigins (owner : String) (member : Member TypeExpr) :
    alternative config owner member.withoutOrigins =
      (alternative config owner member).mapFailure RenderFailure.withoutOrigins := by
  unfold alternative
  simp only [Traced.mapFailure_bind, Traced.mapFailure_pure, mapFailure_comment,
    ← typeText_withoutOrigins]
  rfl

/-- A value of an enumeration is written by its name. -/
theorem constructor_withoutOrigin (owner : String) (given : Constructor) :
    constructor config owner given.withoutOrigin =
      (constructor config owner given).mapFailure RenderFailure.withoutOrigins := by
  unfold constructor
  simp only [Traced.mapFailure_bind, Traced.mapFailure_pure, mapFailure_comment]
  rfl

/-- What there is to choose from is written the same when each choice is. -/
theorem choices_withoutOrigins {Choice : Type} (name : String) (note : Option String)
    (bare : Choice → Choice) {act : Choice → Rendering Lines}
    (each : ∀ choice, act (bare choice) = (act choice).mapFailure RenderFailure.withoutOrigins)
    (items : List Choice) :
    choices config name note (Traced.forEach act (items.map bare)) =
      (choices config name note (Traced.forEach act items)).mapFailure
        RenderFailure.withoutOrigins := by
  unfold choices
  simp only [Traced.mapFailure_bind, Traced.mapFailure_pure, Traced.mapFailure_forEach,
    Traced.forEach_map, mapFailure_comment, each]

/-- A placeholder is written by its name. -/
theorem mapFailure_placeholder (name : String) (note : Option String) :
    (placeholder config name note).mapFailure RenderFailure.withoutOrigins =
      placeholder config name note := by
  unfold placeholder
  cases config.emptyVariant with
  | error => rfl
  | placeholder =>
      simp only [Traced.mapFailure_bind, Traced.mapFailure_pure, Traced.mapFailure_leave,
        mapFailure_comment]

/-- A record is written by its name and its fields. -/
theorem record_withoutOrigins (name : String) (note : Option String)
    (members : List (Member TypeExpr)) :
    record config name note (members.map Member.withoutOrigins) =
      (record config name note members).mapFailure RenderFailure.withoutOrigins := by
  unfold record
  simp only [Traced.mapFailure_bind, Traced.mapFailure_pure, mapFailure_comment,
    fields_withoutOrigins]

/-- A template is written by its fields and its signatory. -/
theorem template_withoutOrigins (name : String) (note : Option String)
    (members : List (Member TypeExpr)) (signatory : String) :
    template config name note (members.map Member.withoutOrigins) signatory =
      (template config name note members signatory).mapFailure RenderFailure.withoutOrigins := by
  unfold template
  simp only [Traced.mapFailure_bind, Traced.mapFailure_pure, mapFailure_comment,
    fields_withoutOrigins]

/-- A synonym is written by its type. -/
theorem synonym_withoutOrigins (name : String) (note : Option String) (type : TypeExpr) :
    synonym config name note type.withoutOrigins =
      (synonym config name note type).mapFailure RenderFailure.withoutOrigins := by
  unfold synonym
  simp only [Traced.mapFailure_bind, Traced.mapFailure_pure, mapFailure_comment,
    typeText_withoutOrigins]

/-- So every declaration is written the same. -/
theorem declaration_withoutOrigins (given : Declaration) :
    declaration config given.withoutOrigins =
      (declaration config given).mapFailure RenderFailure.withoutOrigins := by
  obtain ⟨name, note, body⟩ := given
  cases body with
  | enumeration constructors =>
      cases constructors with
      | nil => exact (mapFailure_placeholder config name note).symm
      | cons first rest =>
          apply choices_withoutOrigins config name note Constructor.withoutOrigin
          exact constructor_withoutOrigin config name
  | record members => exact record_withoutOrigins config name note members
  | variant alternatives =>
      cases alternatives with
      | nil => exact (mapFailure_placeholder config name note).symm
      | cons first rest =>
          apply choices_withoutOrigins config name note Member.withoutOrigins
          exact alternative_withoutOrigins config name
  | synonym type => exact synonym_withoutOrigins config name note type
  | template members signatory => exact template_withoutOrigins config name note members signatory

/-- Without its origins a module is written the same, up to the origins in a failure. -/
theorem render_withoutOrigins (model : Module) :
    render config model.withoutOrigins =
      (render config model).mapFailure RenderFailure.withoutOrigins := by
  unfold render moduleLines finish
  simp only [Traced.mapFailure_bind, Traced.mapFailure_pure, Traced.mapFailure_leave,
    Traced.mapFailure_forEach, mapFailure_headComment, ← declaration_withoutOrigins]
  rw [Module.withoutOrigins]
  simp only [Traced.forEach_map]

/-- Two ways in which writing ends that nobody can tell apart: the same text, or failures of one
kind with one message. -/
inductive EndsAlike : Except RenderFailure String → Except RenderFailure String → Prop where
  | text (text : String) : EndsAlike (.ok text) (.ok text)
  | failure {left right : RenderFailure} (kind : left.kind = right.kind)
      (message : left.message = right.message) : EndsAlike (.error left) (.error right)

/-- Results that differ in origins only are alike. -/
theorem endsAlike_of_mapError_eq {left right : Except RenderFailure String}
    (same : left.mapError RenderFailure.withoutOrigins =
      right.mapError RenderFailure.withoutOrigins) : EndsAlike left right := by
  cases left with
  | ok text =>
      cases right with
      | ok other =>
          obtain rfl : text = other := Except.ok.inj same
          exact .text text
      | error _ => exact nomatch same
  | error failure =>
      cases right with
      | ok _ => exact nomatch same
      | error other =>
          have alike : failure.withoutOrigins = other.withoutOrigins := Except.error.inj same
          apply EndsAlike.failure
          · rw [← failure.kind_withoutOrigins, alike, other.kind_withoutOrigins]
          · rw [← failure.message_withoutOrigins, alike, other.message_withoutOrigins]

end Daml

namespace Module

/-- Nothing that is done with two modules tells them apart. -/
structure LooksLike (left right : Module) : Prop where
  issues : left.validate.issues = right.validate.issues
  log : ∀ config, (Daml.render config left).log = (Daml.render config right).log
  rendering : ∀ config,
    Daml.EndsAlike (Daml.render config left).result (Daml.render config right).result

/-- Modules of types that are the same up to origins look alike. -/
theorem looksLike_of_same {left right : Module} (proper : left.isProper = true)
    (same : left.same right = true) : left.LooksLike right := by
  have bare : left.withoutOrigins = right.withoutOrigins := (same_iff left right proper).1 same
  have written (config : Config) :
      (Daml.render config left).mapFailure RenderFailure.withoutOrigins =
        (Daml.render config right).mapFailure RenderFailure.withoutOrigins := by
    rw [← Daml.render_withoutOrigins, bare, Daml.render_withoutOrigins]
  constructor
  · have reports : left.validate = right.validate := by
      rw [validate, ← report_withoutOrigins, bare, report_withoutOrigins]
      rfl
    rw [reports]
  · intro config
    have logs := congrArg Traced.log (written config)
    exact logs
  · intro config
    exact Daml.endsAlike_of_mapError_eq (congrArg Traced.result (written config))

/-- A module with origins at every depth: at a constructor, at an alternative, in the pair that it
holds, and in the sum inside that pair, which names something undeclared. -/
def nested (tag : Option String) (origin : Option FieldOrigin) : Module where
  name := "Nested"
  imports := []
  declarations := [⟨"Side", some "Who pays", .enumeration [⟨"Buyer", none, tag⟩]⟩,
    ⟨"Leg", none, .variant [⟨"fixed", .product
      [⟨"rate", .primitive .decimal, ⟨.one, .toOne⟩, some "per year", origin⟩,
        ⟨"unit", .sum [⟨"money", .nominal "Currency", ⟨.one, .toOne⟩, none, origin⟩],
          ⟨.zero, .toOne⟩, none, origin⟩],
      ⟨.one, .toMany⟩, none, origin⟩]⟩]
  comment := none

theorem looksLike_of_same_nested :
    (nested none none).isProper = true ∧
      (nested none none).same (nested (some "BUYER") (some ⟨"rateValue", some "number"⟩)) = true ∧
      (nested none none).LooksLike (nested (some "BUYER") (some ⟨"rateValue", some "number"⟩)) :=
  have proper : (nested none none).isProper = true := by decide
  have same : (nested none none).same
      (nested (some "BUYER") (some ⟨"rateValue", some "number"⟩)) = true := by decide
  ⟨proper, same, looksLike_of_same proper same⟩

end Module

end RosettaDaml
