/-
This file says which modules cannot be written and which failure they end with.
-/

import RosettaDaml.Consistency.Check
import RosettaDaml.Proofs.Daml.Entry

namespace RosettaDaml

namespace TypeExpr

/-- An enumeration or a sum stands in a type, at any depth of its products. -/
inductive HoldsAnonymous : TypeExpr → Prop where
  | enumeration (constructors : List Constructor) : HoldsAnonymous (.enumeration constructors)
  | sum (alternatives : List (Member TypeExpr)) : HoldsAnonymous (.sum alternatives)
  | product {members : List (Member TypeExpr)} {member : Member TypeExpr}
      (inside : member ∈ members) (holds : HoldsAnonymous member.type) :
      HoldsAnonymous (.product members)

mutual

/-- The enumerations and sums that stand in a type, from left to right. -/
def anonymousParts : TypeExpr → List TypeExpr
  | .enumeration constructors => [.enumeration constructors]
  | .sum alternatives => [.sum alternatives]
  | .product members => membersAnonymousParts members
  | _ => []

def membersAnonymousParts : List (Member TypeExpr) → List TypeExpr
  | [] => []
  | ⟨_, type, _, _, _⟩ :: rest => anonymousParts type ++ membersAnonymousParts rest

end

/-- The anonymous parts of members are those of their types in order. -/
theorem membersAnonymousParts_eq_flatMap (members : List (Member TypeExpr)) :
    membersAnonymousParts members = members.flatMap fun member => member.type.anonymousParts := by
  induction members with
  | nil => rfl
  | cons member rest inductionHypothesis =>
      simp [membersAnonymousParts, inductionHypothesis]

/-- A type that holds an anonymous one has anonymous parts. -/
theorem HoldsAnonymous.anonymousParts_ne_nil {type : TypeExpr} (holds : type.HoldsAnonymous) :
    type.anonymousParts ≠ [] := by
  induction holds with
  | enumeration constructors => simp [anonymousParts]
  | sum alternatives => simp [anonymousParts]
  | product inside _ inductionHypothesis =>
      rw [anonymousParts, membersAnonymousParts_eq_flatMap]
      intro empty
      exact inductionHypothesis (List.flatMap_eq_nil_iff.1 empty _ inside)

mutual

/-- A type has a text unless something without a name stands in it. -/
theorem isRenderable_or_holdsAnonymous {type : TypeExpr} (proper : type.isProper = true) :
    type.isRenderable = true ∨ type.HoldsAnonymous := by
  cases type with
  | primitive kind => exact .inl rfl
  | nominal name => exact .inl rfl
  | product members =>
      rw [isProper] at proper
      rcases membersAreRenderable_or_exists proper with renderable | ⟨member, inside, holds⟩
      · exact .inl renderable
      · exact .inr (.product inside holds)
  | enumeration constructors => exact .inr (.enumeration constructors)
  | sum alternatives => exact .inr (.sum alternatives)
  | unknown given => cases proper

/-- Members that are not renderable have an anonymous type among them. -/
theorem membersAreRenderable_or_exists {members : List (Member TypeExpr)}
    (proper : membersAreProper members = true) :
    membersAreRenderable members = true ∨ ∃ member ∈ members, member.type.HoldsAnonymous := by
  cases members with
  | nil => exact .inl rfl
  | cons member rest =>
      rw [membersAreProper, Bool.and_eq_true] at proper
      rcases isRenderable_or_holdsAnonymous proper.1 with first | holds
      · rcases membersAreRenderable_or_exists proper.2 with others | ⟨other, later, holds⟩
        · left
          rw [membersAreRenderable, first, others]
          rfl
        · exact .inr ⟨other, List.mem_cons_of_mem member later, holds⟩
      · exact .inr ⟨member, List.mem_cons_self, holds⟩

end

/-- A type without anonymous parts is renderable. -/
theorem isRenderable_of_anonymousParts_eq_nil {type : TypeExpr} (proper : type.isProper = true)
    (named : type.anonymousParts = []) : type.isRenderable = true :=
  (isRenderable_or_holdsAnonymous proper).resolve_right fun holds =>
    holds.anonymousParts_ne_nil named

/-- The first type that fails decides. -/
theorem memberTexts_cons_of_error {member : Member TypeExpr} {rest : List (Member TypeExpr)}
    {fault : TypeFault} (fails : member.type.text = .error fault) :
    memberTexts (member :: rest) = .error fault := by
  rw [memberTexts, fails]
  rfl

/-- A type that has a text leaves the decision to the others. -/
theorem memberTexts_cons_of_ok {member : Member TypeExpr} {rest : List (Member TypeExpr)}
    {first : String} {fault : TypeFault} (given : member.type.text = .ok first)
    (fails : memberTexts rest = .error fault) : memberTexts (member :: rest) = .error fault := by
  rw [memberTexts, given, fails]
  rfl

mutual

/-- The first enumeration or sum in a type is the one that has no text. -/
theorem text_of_head? {type part : TypeExpr} (proper : type.isProper = true)
    (first : type.anonymousParts.head? = some part) : type.text = .error (.anonymous part) := by
  cases type with
  | primitive kind => simp [anonymousParts] at first
  | nominal name => simp [anonymousParts] at first
  | product members =>
      rw [isProper] at proper
      rw [anonymousParts] at first
      rw [text, memberTexts_of_head? proper first]
      rfl
  | enumeration constructors =>
      obtain rfl : enumeration constructors = part := by simpa [anonymousParts] using first
      rfl
  | sum alternatives =>
      obtain rfl : sum alternatives = part := by simpa [anonymousParts] using first
      rfl
  | unknown given => cases proper

/-- Members fail at the first anonymous part among them. -/
theorem memberTexts_of_head? {members : List (Member TypeExpr)} {part : TypeExpr}
    (proper : membersAreProper members = true)
    (first : (membersAnonymousParts members).head? = some part) :
    memberTexts members = .error (.anonymous part) := by
  cases members with
  | nil => simp [membersAnonymousParts] at first
  | cons member rest =>
      rw [membersAreProper, Bool.and_eq_true] at proper
      rw [membersAnonymousParts, List.head?_append, Option.or_eq_some_iff] at first
      rcases first with here | ⟨named, later⟩
      · exact memberTexts_cons_of_error (text_of_head? proper.1 here)
      · rw [List.head?_eq_none_iff] at named
        obtain ⟨text, given⟩ := exists_text (isRenderable_of_anonymousParts_eq_nil proper.1 named)
        exact memberTexts_cons_of_ok given (memberTexts_of_head? proper.2 later)

end

/-- The types of proper members are proper. -/
theorem isProper_of_mem {members : List (Member TypeExpr)}
    (proper : membersAreProper members = true) :
    ∀ member ∈ members, member.type.isProper = true := by
  induction members with
  | nil => simp
  | cons member rest inductionHypothesis =>
      rw [membersAreProper, Bool.and_eq_true] at proper
      exact List.forall_mem_cons.2 ⟨proper.1, inductionHypothesis proper.2⟩

end TypeExpr

namespace Declaration

/-- The types of the members of a declaration, or the one that it is another name for. -/
def types (declaration : Declaration) : List TypeExpr :=
  match declaration.body with
  | .synonym type => [type]
  | _ => declaration.members.map Member.type

/-- The enumerations and sums in the types of a declaration, in order. -/
def anonymousParts (declaration : Declaration) : List TypeExpr :=
  declaration.types.flatMap TypeExpr.anonymousParts

/-- A declaration that cannot be written. -/
def IsBad (policy : EmptyVariantPolicy) (declaration : Declaration) : Prop :=
  (∃ type ∈ declaration.types, type.HoldsAnonymous) ∨
    (policy = .error ∧ declaration.isEmptyVariant = true)

/-- The failure of a declaration that cannot be written. -/
inductive Refuses (declaration : Declaration) : RenderFailure → Prop where
  | empty (empty : declaration.isEmptyVariant = true) :
      Refuses declaration (.emptyVariant declaration.name)
  | anonymous {part : TypeExpr} (inhabited : declaration.isEmptyVariant = false)
      (first : declaration.anonymousParts.head? = some part) :
      Refuses declaration (.type (.anonymous part))

/-- The line of a type with one constructor of the same name. -/
def placeholderLine (name : String) : String := "data " ++ name ++ " = " ++ name ++ " ()"

/-- A declaration is written as a type with one constructor of its own name. -/
def IsPlaceholder (config : Config) (declaration : Declaration) : Prop :=
  ∃ lines, (Daml.declaration config declaration).result = .ok lines ∧
    placeholderLine declaration.name ∈ lines

/-- So are those of a proper declaration. -/
theorem isProper_of_mem_types {declaration : Declaration}
    (proper : declaration.body.isProper = true) :
    ∀ type ∈ declaration.types, type.isProper = true := by
  obtain ⟨name, note, body⟩ := declaration
  cases body with
  | enumeration constructors => simp [types, members]
  | synonym type => exact List.forall_mem_singleton.2 proper
  | record fields => exact List.forall_mem_map.2 (TypeExpr.isProper_of_mem proper)
  | variant alternatives => exact List.forall_mem_map.2 (TypeExpr.isProper_of_mem proper)
  | template fields signatory => exact List.forall_mem_map.2 (TypeExpr.isProper_of_mem proper)

/-- A declaration of renderable types is renderable. -/
theorem isRenderable_of_forall {declaration : Declaration}
    (each : ∀ type ∈ declaration.types, type.isRenderable = true) :
    declaration.isRenderable = true := by
  obtain ⟨name, note, body⟩ := declaration
  rw [isRenderable, Bool.and_eq_true, List.all_eq_true]
  cases body with
  | enumeration constructors => simp [members]
  | synonym type => exact ⟨by simp [members], each type List.mem_cons_self⟩
  | record fields => exact ⟨List.forall_mem_map.1 each, rfl⟩
  | variant alternatives => exact ⟨List.forall_mem_map.1 each, rfl⟩
  | template fields signatory => exact ⟨List.forall_mem_map.1 each, rfl⟩

/-- A declaration without choices has no types. -/
theorem types_eq_nil {declaration : Declaration} (empty : declaration.isEmptyVariant = true) :
    declaration.types = [] := by
  obtain ⟨name, note, body⟩ := declaration
  cases body with
  | enumeration constructors => rfl
  | variant alternatives =>
      obtain rfl := List.isEmpty_iff.1 empty
      rfl
  | record _ | synonym _ | template _ _ => simp [isEmptyVariant] at empty

end Declaration

namespace Daml

/-- A type fails at its first anonymous part. -/
theorem result_typeText_of_head? {type part : TypeExpr} (proper : type.isProper = true)
    (first : type.anonymousParts.head? = some part) (multiplicity : Multiplicity)
    (position : TypePosition) :
    (typeText type multiplicity position).result = .error (.type (.anonymous part)) := by
  rw [typeText, Traced.result_ofExcept, TypeExpr.shapedText, TypeExpr.text_of_head? proper first]
  rfl

/-- Members are written one after the other up to the first one whose type has no text. -/
theorem result_forEach_of_head? {act : Member TypeExpr → Rendering Lines}
    (succeeds : ∀ member : Member TypeExpr, member.type.isRenderable = true →
      ∃ lines, (act member).result = .ok lines)
    (fails : ∀ member : Member TypeExpr, ∀ part, member.type.isProper = true →
      member.type.anonymousParts.head? = some part →
      (act member).result = .error (.type (.anonymous part)))
    {members : List (Member TypeExpr)} {part : TypeExpr}
    (proper : TypeExpr.membersAreProper members = true)
    (first : ((members.map Member.type).flatMap TypeExpr.anonymousParts).head? = some part) :
    (Traced.forEach act members).result = .error (.type (.anonymous part)) := by
  have each := TypeExpr.isProper_of_mem proper
  rw [List.flatMap_map, List.head?_flatMap] at first
  obtain ⟨before, member, after, rfl, here, earlier⟩ := List.findSome?_eq_some_iff.1 first
  rw [Traced.result_forEach_eq_error_iff]
  refine ⟨before, member, after, rfl, ?_, ?_⟩
  · intro other inside
    apply succeeds
    apply TypeExpr.isRenderable_of_anonymousParts_eq_nil
    · exact each other (List.mem_append_left _ inside)
    · exact List.head?_eq_none_iff.1 (earlier other inside)
  · exact fails member part (each member (by simp)) here

section Room

variable {config : Config} {width : Int} (fits : config.textWidth? = some width) (room : 1 ≤ width)

include fits room

/-- The fields of a record fail at the first anonymous part among them. -/
theorem result_fields_of_head? {members : List (Member TypeExpr)} {part : TypeExpr}
    (proper : TypeExpr.membersAreProper members = true)
    (first : ((members.map Member.type).flatMap TypeExpr.anonymousParts).head? = some part) :
    (fields config members).result = .error (.type (.anonymous part)) := by
  apply Traced.result_bind_of_error
  apply result_forEach_of_head? _ _ proper first
  · intro member renderable
    exact ⟨_, result_field fits room renderable⟩
  · intro member part proper first
    exact Traced.result_bind_of_error (result_typeText_of_head? proper first _ _) _

/-- A declaration fails with the first enumeration or sum in its types. -/
theorem result_declaration_of_head? {declaration : Declaration} {part : TypeExpr}
    (proper : declaration.body.isProper = true)
    (first : declaration.anonymousParts.head? = some part) :
    (Daml.declaration config declaration).result = .error (.type (.anonymous part)) := by
  obtain ⟨name, note, body⟩ := declaration
  have commented := result_comment_of_room fits room .before note
  rw [Declaration.anonymousParts] at first
  -- Whatever is written before the types succeeds, since there is room for it.
  cases body with
  | enumeration constructors => simp [Declaration.types, Declaration.members] at first
  | record members =>
      change (record config name note members).result = _
      rw [record, Traced.result_bind_of_ok commented]
      exact Traced.result_bind_of_error (result_fields_of_head? fits room proper first) _
  | variant alternatives =>
      cases alternatives with
      | nil => simp [Declaration.types, Declaration.members] at first
      | cons one others =>
          change (choices config name note _).result = _
          apply Traced.result_bind_of_error
          apply result_forEach_of_head? _ _ proper first
          · intro member renderable
            exact ⟨_, result_alternative fits room name renderable⟩
          · intro member part proper first
            exact Traced.result_bind_of_error (result_typeText_of_head? proper first _ _) _
  | synonym type =>
      change (synonym config name note type).result = _
      rw [synonym, Traced.result_bind_of_ok commented]
      apply Traced.result_bind_of_error
      apply result_typeText_of_head? proper
      simpa [Declaration.types] using first
  | template members signatory =>
      change (template config name note members signatory).result = _
      rw [template, Traced.result_bind_of_ok commented]
      exact Traced.result_bind_of_error (result_fields_of_head? fits room proper first) _

/-- A declaration is written unless it is bad. -/
theorem result_declaration_of_not_isBad {declaration : Declaration}
    (proper : declaration.body.isProper = true) (good : ¬ declaration.IsBad config.emptyVariant) :
    (Daml.declaration config declaration).result = .ok (declaration.lines width.toNat) := by
  rw [Declaration.IsBad, not_or] at good
  apply result_declaration fits room
  · cases policy : config.emptyVariant with
    | placeholder => exact .inl rfl
    | error => exact .inr (by simpa [policy] using good.2)
  · apply Declaration.isRenderable_of_forall
    intro type inside
    apply (TypeExpr.isRenderable_or_holdsAnonymous
      (Declaration.isProper_of_mem_types proper type inside)).resolve_right
    intro holds
    exact good.1 ⟨type, inside, holds⟩

/-- A bad declaration is refused for the reason that it is bad for. -/
theorem exists_refusal {declaration : Declaration} (proper : declaration.body.isProper = true)
    (bad : declaration.IsBad config.emptyVariant) :
    ∃ failure, declaration.Refuses failure ∧
      (Daml.declaration config declaration).result = .error failure := by
  rcases bad with ⟨type, inside, holds⟩ | ⟨forbidden, empty⟩
  · have present : declaration.anonymousParts ≠ [] := by
      intro absent
      exact holds.anonymousParts_ne_nil (List.flatMap_eq_nil_iff.1 absent type inside)
    have inhabited : declaration.isEmptyVariant = false := by
      rw [← Bool.not_eq_true]
      intro empty
      simp [Declaration.types_eq_nil empty] at inside
    have first := List.head?_eq_some_head present
    exact ⟨_, .anonymous inhabited first, result_declaration_of_head? fits room proper first⟩
  · exact ⟨_, .empty empty, result_declaration_of_isEmptyVariant empty forbidden⟩

end Room

end Daml

namespace Declaration

/-- A line that begins otherwise is no placeholder. -/
theorem ne_placeholderLine {line : String} (apart : line.toList.head? ≠ some 'd') (name : String) :
    line ≠ placeholderLine name := by
  rintro rfl
  exact apart (by simp [placeholderLine])

/-- A choice is no placeholder: it begins with a blank or a bar. -/
theorem code_ne_of_mem_ofChoices {choices : List (String × Option String)} {entry : Entry}
    (member : entry ∈ Entry.ofChoices choices) (name : String) :
    entry.code ≠ placeholderLine name := by
  cases choices with
  | nil => simp [Entry.ofChoices] at member
  | cons first rest =>
      rcases List.mem_cons.1 member with rfl | later
      · exact ne_placeholderLine (by simp [Entry.ofChoice, blanks]) name
      · obtain ⟨choice, -, rfl⟩ := List.mem_map.1 later
        exact ne_placeholderLine (by simp [Entry.ofChoice, blanks]) name

/-- A type with choices has no placeholder. -/
theorem code_ne_of_mem_choiceEntries {name : String} {choices : List (String × Option String)}
    {entry : Entry} (member : entry ∈ choiceEntries name choices) :
    entry.code ≠ placeholderLine name := by
  rcases List.mem_cons.1 member with rfl | member
  · intro same
    have chars := congrArg String.toList same
    simp [Entry.plain, placeholderLine] at chars
  · rcases List.mem_append.1 member with chosen | ended
    · exact code_ne_of_mem_ofChoices chosen name
    · obtain rfl := List.mem_singleton.1 ended
      exact ne_placeholderLine (by simp [Entry.plain, blanks]) name

/-- A record has no placeholder. -/
theorem code_ne_of_mem_fields {fields : List (Member TypeExpr)} {entry : Entry}
    (member : entry ∈ fields.map Entry.ofField) (name : String) :
    entry.code ≠ placeholderLine name := by
  obtain ⟨field, -, rfl⟩ := List.mem_map.1 member
  exact ne_placeholderLine (by simp [Entry.ofField, blanks]) name

/-- Only a declaration with nothing to choose from has such a line of code. -/
theorem code_ne_of_mem_entries {declaration : Declaration}
    (inhabited : declaration.isEmptyVariant = false) {entry : Entry}
    (member : entry ∈ declaration.entries) : entry.code ≠ placeholderLine declaration.name := by
  obtain ⟨name, note, body⟩ := declaration
  cases body with
  | enumeration constructors =>
      cases constructors with
      | nil => cases inhabited
      | cons first rest => exact code_ne_of_mem_choiceEntries member
  | record fields =>
      rcases List.mem_cons.1 member with rfl | member
      · intro same
        have chars := congrArg String.toList same
        simp [Entry.plain, placeholderLine] at chars
      · rcases List.mem_append.1 member with inside | ended
        · exact code_ne_of_mem_fields inside name
        · obtain rfl := List.mem_singleton.1 ended
          exact ne_placeholderLine (by simp [Entry.plain, blanks]) name
  | variant alternatives =>
      cases alternatives with
      | nil => cases inhabited
      | cons first rest => exact code_ne_of_mem_choiceEntries member
  | synonym type =>
      obtain rfl := List.mem_singleton.1 member
      exact ne_placeholderLine (by simp [Entry.plain]) name
  | template fields signatory =>
      rcases List.mem_cons.1 member with rfl | member
      · exact ne_placeholderLine (by simp [Entry.plain]) name
      · rcases List.mem_append.1 member with inside | ended
        · exact code_ne_of_mem_fields inside name
        · rcases List.mem_pair.1 ended with rfl | rfl <;>
            exact ne_placeholderLine (by simp [Entry.plain]) name

/-- An empty type has its placeholder among its lines. -/
theorem mem_lines_of_isEmptyVariant {declaration : Declaration}
    (empty : declaration.isEmptyVariant = true) (width : Nat) :
    placeholderLine declaration.name ∈ declaration.lines width := by
  apply List.mem_append_right
  obtain ⟨name, note, body⟩ := declaration
  cases body with
  | enumeration constructors =>
      obtain rfl := List.isEmpty_iff.1 empty
      exact List.mem_cons_self
  | variant alternatives =>
      obtain rfl := List.isEmpty_iff.1 empty
      exact List.mem_cons_self
  | record _ | synonym _ | template _ _ => simp [isEmptyVariant] at empty

/-- A placeholder is no comment. -/
theorem isCommentLine_placeholderLine (name : String) :
    isCommentLine (placeholderLine name) = false := by
  simp [isCommentLine, unindented, placeholderLine, List.isPrefixOf]

/-- A placeholder stands among the lines of empty types only. -/
theorem placeholderLine_mem_lines_iff {declaration : Declaration} {width : Nat} :
    placeholderLine declaration.name ∈ declaration.lines width ↔
      declaration.isEmptyVariant = true := by
  constructor
  · intro member
    have code := isCommentLine_placeholderLine declaration.name
    by_contra inhabited
    rw [Bool.not_eq_true] at inhabited
    rcases List.mem_append.1 member with comment | member
    · simp [isCommentLine_of_mem_noteLines comment] at code
    · obtain ⟨entry, known, inside⟩ := List.mem_flatMap.1 member
      rcases List.mem_cons.1 inside with here | comment
      · exact code_ne_of_mem_entries inhabited known here.symm
      · simp [isCommentLine_of_mem comment] at code
  · intro empty
    exact mem_lines_of_isEmptyVariant empty width

end Declaration

namespace Daml

section Outcome

variable {config : Config} (room : config.HasRoom)

include room

/-- A declaration is rendered exactly when it is not bad. -/
theorem exists_declaration_iff {declaration : Declaration}
    (proper : declaration.body.isProper = true) :
    (∃ lines, (Daml.declaration config declaration).result = .ok lines) ↔
      ¬ declaration.IsBad config.emptyVariant := by
  obtain ⟨width, fits, positive⟩ := room
  constructor
  · rintro ⟨lines, given⟩ bad
    obtain ⟨failure, -, fails⟩ := exists_refusal fits positive proper bad
    simp [given] at fails
  · intro good
    exact ⟨_, result_declaration_of_not_isBad fits positive proper good⟩

/-- It becomes a placeholder exactly when it is empty and this is allowed. -/
theorem isPlaceholder_iff {declaration : Declaration} (proper : declaration.body.isProper = true)
    (allowed : config.emptyVariant = .placeholder) :
    declaration.IsPlaceholder config ↔ declaration.isEmptyVariant = true := by
  have written := exists_declaration_iff room proper
  obtain ⟨width, fits, positive⟩ := room
  constructor
  · rintro ⟨lines, given, member⟩
    have good := written.1 ⟨lines, given⟩
    rw [result_declaration_of_not_isBad fits positive proper good] at given
    obtain rfl := Except.ok.inj given
    exact Declaration.placeholderLine_mem_lines_iff.1 member
  · intro empty
    have good : ¬ declaration.IsBad config.emptyVariant := by
      rintro (⟨type, inside, -⟩ | ⟨forbidden, -⟩)
      · simp [Declaration.types_eq_nil empty] at inside
      · simp [allowed] at forbidden
    exact ⟨_, result_declaration_of_not_isBad fits positive proper good,
      Declaration.placeholderLine_mem_lines_iff.2 empty⟩

variable {model : Module} (proper : model.isProper = true)

include proper

/-- A module is rendered exactly when none of its declarations is bad. -/
theorem exists_render_iff :
    (∃ text, (render config model).result = .ok text) ↔
      ∀ declaration ∈ model.declarations, ¬ declaration.IsBad config.emptyVariant := by
  rw [Module.isProper, List.all_eq_true] at proper
  obtain ⟨comment, given⟩ := exists_headComment room model.comment
  rw [result_render given]
  constructor
  · rintro ⟨text, written⟩ declaration member
    cases each : (Traced.forEach (Daml.declaration config) model.declarations).result with
    | error failure => simp [each, Except.map] at written
    | ok blocks =>
        exact (exists_declaration_iff room (proper declaration member)).1
          (Traced.exists_of_mem_forEach each member)
  · intro good
    have each : ∀ declaration ∈ model.declarations,
        ∃ lines, (Daml.declaration config declaration).result = .ok lines := by
      intro declaration member
      exact (exists_declaration_iff room (proper declaration member)).2 (good declaration member)
    obtain ⟨blocks, written⟩ := Traced.exists_forEach each
    rw [written]
    exact ⟨_, rfl⟩

/-- A module fails with the first declaration that is bad. -/
theorem exists_refusal_of_append {before after : List Declaration} {declaration : Declaration}
    (parts : model.declarations = before ++ declaration :: after)
    (good : ∀ earlier ∈ before, ¬ earlier.IsBad config.emptyVariant)
    (bad : declaration.IsBad config.emptyVariant) :
    ∃ failure, declaration.Refuses failure ∧ (render config model).result = .error failure := by
  rw [Module.isProper, List.all_eq_true, parts] at proper
  have properHere := proper declaration (by simp)
  obtain ⟨comment, given⟩ := exists_headComment room model.comment
  have earlierWritten : ∀ earlier ∈ before,
      ∃ lines, (Daml.declaration config earlier).result = .ok lines := by
    intro earlier member
    have properEarlier := proper earlier (List.mem_append_left _ member)
    exact (exists_declaration_iff room properEarlier).2 (good earlier member)
  obtain ⟨width, fits, positive⟩ := room
  obtain ⟨failure, refuses, fails⟩ := exists_refusal fits positive properHere bad
  refine ⟨failure, refuses, ?_⟩
  have stops : (Traced.forEach (Daml.declaration config) model.declarations).result =
      .error failure :=
    (Traced.result_forEach_eq_error_iff _ _ _).2
      ⟨before, declaration, after, parts, earlierWritten, fails⟩
  rw [result_render given, stops]
  rfl

/-- A module is written unless a declaration in it is bad, and otherwise fails with the first one
that is. Where empty declarations are allowed, the ones that are written with one constructor of
their own name are those which the check for them warns about. -/
theorem render_refuses :
    ((∃ text, (render config model).result = .ok text) ↔
      ∀ declaration ∈ model.declarations, ¬ declaration.IsBad config.emptyVariant) ∧
    (∀ before declaration after, model.declarations = before ++ declaration :: after →
      (∀ earlier ∈ before, ¬ earlier.IsBad config.emptyVariant) →
      declaration.IsBad config.emptyVariant →
      ∃ failure, declaration.Refuses failure ∧ (render config model).result = .error failure) ∧
    (model.report [.emptyVariants]).issues =
      (model.declarations.filter Declaration.isEmptyVariant).map
        (fun declaration => (Finding.emptyVariant declaration.name).issue) ∧
    (config.emptyVariant = .placeholder → ∀ declaration ∈ model.declarations,
      (declaration.IsPlaceholder config ↔ declaration.isEmptyVariant = true)) := by
  refine ⟨exists_render_iff room proper, ?_, ?_, ?_⟩
  · intro before declaration after parts good bad
    exact exists_refusal_of_append room proper parts good bad
  · simp [Module.report, Check.findings]
  · intro allowed declaration member
    rw [Module.isProper, List.all_eq_true] at proper
    exact isPlaceholder_iff room (proper declaration member) allowed

end Outcome

/-- An enumeration, a record with a pair of a number and of something without a name, and an empty
variant. -/
def quoteModule : Module where
  name := "Quotes"
  imports := []
  declarations := [⟨"Side", none, .enumeration [⟨"Buy", none, none⟩]⟩,
    ⟨"Quote", none, .record [⟨"level", .product
      [⟨"price", .primitive .decimal, ⟨.one, .toOne⟩, none, none⟩,
        ⟨"unit", .sum [], ⟨.zero, .toOne⟩, none, none⟩], ⟨.zero, .toMany⟩, none, none⟩]⟩,
    ⟨"Venue", none, .variant []⟩]
  comment := none

/-- The settings that refuse empty declarations. -/
def refusingConfig : Config := { Config.standard with emptyVariant := .error }

theorem render_refuses_quoteModule :
    refusingConfig.HasRoom ∧ quoteModule.isProper = true ∧
      (render refusingConfig quoteModule).result = .error (.type (.anonymous (.sum []))) := by
  have room : refusingConfig.HasRoom := ⟨53, by decide, by decide⟩
  have proper : quoteModule.isProper = true := by decide
  obtain ⟨-, first, -⟩ := render_refuses room proper
  obtain ⟨failure, refuses, fails⟩ := first [⟨"Side", none, .enumeration [⟨"Buy", none, none⟩]⟩]
    _ _ rfl (by simp [Declaration.IsBad, Declaration.types, Declaration.members,
      Declaration.isEmptyVariant])
    (.inl ⟨_, List.mem_cons_self, .product (List.mem_cons_of_mem _ List.mem_cons_self) (.sum [])⟩)
  refine ⟨room, proper, fails.trans ?_⟩
  cases refuses with
  | empty empty => cases empty
  | anonymous _ part =>
      obtain rfl := Option.some.inj part
      rfl

end Daml

end RosettaDaml
