/-
This file shows that empty lines stand between the blocks of a module and nowhere else, and how the
lines of a declaration are laid out.
-/

import RosettaDaml.Proofs.Daml.Entry

namespace RosettaDaml

/-- A multiplicity puts no line break around a type. -/
theorem Multiplicity.newline_not_mem_shape (multiplicity : Multiplicity) (position : TypePosition)
    {text : String} (free : '\n' ∉ text.toList) :
    '\n' ∉ (multiplicity.shape position text).toList := by
  rw [shape]
  cases position <;> split_ifs <;> simp [toString, TypePosition.wrap, free]

namespace TypeExpr

mutual

/-- A line does not end within the text of a type unless it does so within a name. -/
theorem newline_not_mem_text {type : TypeExpr} {written : String}
    (free : ∀ name ∈ type.nominalNames, '\n' ∉ name.toList)
    (given : type.text = .ok written) : '\n' ∉ written.toList := by
  cases type with
  | primitive kind =>
      obtain rfl := Except.ok.inj given
      cases kind <;> decide
  | nominal name =>
      obtain rfl := Except.ok.inj given
      exact free name List.mem_cons_self
  | product members =>
      obtain ⟨texts, parts, rfl⟩ := text_product_eq_ok_iff.1 given
      have joined : '\n' ∉ (", ".intercalate texts).toList :=
        Text.not_mem_intercalate (by decide) (newline_not_mem_memberTexts free parts)
      simpa using joined
  | enumeration _ => cases given
  | sum _ => cases given
  | unknown _ => cases given

/-- The types of members are on one line each if their names are. -/
theorem newline_not_mem_memberTexts {members : List (Member TypeExpr)} {texts : List String}
    (free : ∀ name ∈ membersNominalNames members, '\n' ∉ name.toList)
    (given : memberTexts members = .ok texts) : ∀ text ∈ texts, '\n' ∉ text.toList := by
  cases members with
  | nil =>
      obtain rfl := Except.ok.inj given
      simp
  | cons member rest =>
      obtain ⟨first, others, here, behind, rfl⟩ := memberTexts_cons_eq_ok_iff.1 given
      obtain ⟨freeHere, freeBehind⟩ := List.forall_mem_append.1 free
      have first := newline_not_mem_text freeHere here
      exact List.forall_mem_cons.2 ⟨member.multiplicity.newline_not_mem_shape .alone first,
        newline_not_mem_memberTexts freeBehind behind⟩

end

/-- A type is on one line if the names in it are. -/
theorem newline_not_mem_written {type : TypeExpr}
    (free : ∀ name ∈ type.nominalNames, '\n' ∉ name.toList) (multiplicity : Multiplicity)
    (position : TypePosition) : '\n' ∉ (type.written multiplicity position).toList := by
  rw [written, shapedText]
  cases given : type.text with
  | error fault => simp [Except.map]
  | ok text => exact multiplicity.newline_not_mem_shape position (newline_not_mem_text free given)

end TypeExpr

/-! The names that are written in a module. -/

def Import.names : Import → List String
  | .plain moduleName => [moduleName]
  | .qualified moduleName shortName => [moduleName, shortName]

def Member.names (member : Member TypeExpr) : List String :=
  member.name :: member.type.nominalNames

def Body.names : Body → List String
  | .enumeration constructors => constructors.map Constructor.name
  | .record fields => fields.flatMap Member.names
  | .variant alternatives => alternatives.flatMap Member.names
  | .synonym type => type.nominalNames
  | .template fields signatory => signatory :: fields.flatMap Member.names

def Declaration.names (declaration : Declaration) : List String :=
  declaration.name :: declaration.body.names

def Module.names (model : Module) : List String :=
  model.name ::
    (model.imports.flatMap Import.names ++ model.declarations.flatMap Declaration.names)

/-! Lines that are not blank, and where they begin. -/

/-- Whether a line begins with a blank. -/
def isIndented (line : String) : Bool := line.toList.head?.any Text.isBlank

def isBlankLine (line : String) : Bool := line.toList.all Text.isBlank

/-- A line that is not blank and does not end within itself. -/
structure IsFull (line : String) : Prop where
  solid : ∃ char ∈ line.toList, Text.isBlank char = false
  whole : '\n' ∉ line.toList

/-- A line that begins with what is neither a blank nor a dash. -/
structure IsOuterLine (line : String) : Prop where
  starts : ∃ char ∈ line.toList.head?, Text.isBlank char = false ∧ char ≠ '-'
  whole : '\n' ∉ line.toList

structure IsInnerLine (line : String) : Prop extends IsFull line where
  indented : isIndented line = true

/-- The lines of a comment, one line of code at the left edge, and lines further to the right. -/
inductive IsLaidOut : Lines → Prop where
  | intro {comment : Lines} {code : String} {body : Lines}
      (commented : ∀ line ∈ comment, isCommentLine line = true ∧ isIndented line = false)
      (apart : isCommentLine code = false) (flush : isIndented code = false)
      (indented : ∀ line ∈ body, isIndented line = true) : IsLaidOut (comment ++ code :: body)

/-- A declaration has a first line. -/
theorem IsLaidOut.ne_nil {lines : Lines} (laidOut : IsLaidOut lines) : lines ≠ [] := by
  cases laidOut
  exact List.append_ne_nil_of_right_ne_nil _ (List.cons_ne_nil _ _)

/-- A line that is not blank shows a character. -/
theorem isBlankLine_eq_false_iff {line : String} :
    isBlankLine line = false ↔ ∃ char ∈ line.toList, Text.isBlank char = false := by
  simp [isBlankLine]

instance (line : String) : Decidable (IsFull line) :=
  decidable_of_iff (isBlankLine line = false ∧ '\n' ∉ line.toList)
    ⟨fun full => ⟨isBlankLine_eq_false_iff.1 full.1, full.2⟩,
      fun full => ⟨isBlankLine_eq_false_iff.2 full.1, full.2⟩⟩

instance (line : String) : Decidable (IsInnerLine line) :=
  decidable_of_iff (IsFull line ∧ isIndented line = true)
    ⟨fun inner => ⟨inner.1, inner.2⟩, fun inner => ⟨inner.1, inner.2⟩⟩

instance (line : String) : Decidable (IsOuterLine line) :=
  decidable_of_iff ((line.toList.head?.any fun char => !Text.isBlank char && char != '-') = true ∧
    '\n' ∉ line.toList)
    ⟨fun outer => ⟨by simpa [Option.any_eq_true] using outer.1, outer.2⟩,
      fun outer => ⟨by simpa [Option.any_eq_true] using outer.1, outer.2⟩⟩

/-- A full line is not empty. -/
theorem IsFull.ne_empty {line : String} (full : IsFull line) : line ≠ "" := by
  rintro rfl
  simpa using full.solid

/-- It is not even blank. -/
theorem IsFull.isBlankLine_eq_false {line : String} (full : IsFull line) :
    isBlankLine line = false :=
  isBlankLine_eq_false_iff.2 full.solid

/-- A line stays full when more stands behind it. -/
theorem IsFull.append {line : String} (full : IsFull line) {rest : String}
    (free : '\n' ∉ rest.toList) : IsFull (line ++ rest) := by
  obtain ⟨char, member, solid⟩ := full.solid
  exact ⟨⟨char, by simp [member], solid⟩, by simp [full.whole, free]⟩

/-- And when more stands in front of it. -/
theorem IsFull.prepend {line : String} (full : IsFull line) {front : String}
    (free : '\n' ∉ front.toList) : IsFull (front ++ line) := by
  obtain ⟨char, member, solid⟩ := full.solid
  exact ⟨⟨char, by simp [member], solid⟩, by simp [full.whole, free]⟩

/-- A comment line is not blank for its dashes. -/
theorem isFull_of_isCommentLine {line : String}
    (comment : isCommentLine line = true ∧ '\n' ∉ line.toList) : IsFull line := by
  refine ⟨⟨'-', ?_, by decide⟩, comment.2⟩
  obtain ⟨rest, begins⟩ := List.isPrefixOf_iff_prefix.1 comment.1
  have member : '-' ∈ unindented line := by simp [← begins]
  exact (List.dropWhile_sublist _).mem member

/-- A full line that is moved to the right is an inner one. -/
theorem isInner_blanks_append {amount : Nat} (shifted : 0 < amount) {line : String}
    (full : IsFull line) : IsInnerLine (blanks amount ++ line) where
  toIsFull := full.prepend (by simp [blanks])
  indented := by
    obtain ⟨less, rfl⟩ := Nat.exists_eq_add_of_lt shifted
    have first : (blanks (0 + less + 1) ++ line).toList.head? = some ' ' := by
      simp [blanks, List.replicate_succ]
    rw [isIndented, first]
    decide

/-- An inner line stays one when more stands behind it. -/
theorem IsInnerLine.append {line : String} (inner : IsInnerLine line) {rest : String}
    (free : '\n' ∉ rest.toList) : IsInnerLine (line ++ rest) where
  toIsFull := inner.toIsFull.append free
  indented := by
    have indented := inner.indented
    rw [isIndented] at indented ⊢
    cases chars : line.toList with
    | nil => simp [chars] at indented
    | cons first others => simpa [chars] using indented

namespace IsOuterLine

variable {line : String} (outer : IsOuterLine line)

include outer

/-- An outer line stays one when more stands behind it. -/
theorem append {rest : String} (free : '\n' ∉ rest.toList) : IsOuterLine (line ++ rest) := by
  obtain ⟨char, first, starts⟩ := outer.starts
  refine ⟨⟨char, ?_, starts⟩, by simp [outer.whole, free]⟩
  rw [Option.mem_def] at first ⊢
  simp [List.head?_append, first]

/-- An outer line shows its first character. -/
theorem isFull : IsFull line := by
  obtain ⟨char, first, solid, -⟩ := outer.starts
  exact ⟨⟨char, List.mem_of_mem_head? first, solid⟩, outer.whole⟩

/-- It begins in the first column. -/
theorem isIndented_eq_false : isIndented line = false := by
  obtain ⟨char, first, solid, -⟩ := outer.starts
  rw [isIndented, Option.mem_def.1 first]
  exact solid

/-- It is no comment. -/
theorem isCommentLine_eq_false : isCommentLine line = false := by
  obtain ⟨char, first, solid, notDash⟩ := outer.starts
  obtain ⟨rest, chars⟩ := List.head?_eq_some_iff.1 (Option.mem_def.1 first)
  have notSpace : char ≠ ' ' := by
    rintro rfl
    exact absurd solid (by decide)
  rw [isCommentLine, unindented, chars, List.dropWhile_cons_of_neg (by simpa using notSpace)]
  simp [List.isPrefixOf, notDash.symm]

end IsOuterLine

/-- A comment in front begins at the left edge. -/
theorem isIndented_of_mem_noteLines {width : Nat} {position : CommentPosition}
    {note : Option String} {line : String} (member : line ∈ noteLines width position note) :
    isIndented line = false := by
  have dash (rest : String) : isIndented ("-" ++ rest) = false := by
    have first : ("-" ++ rest).toList.head? = some '-' := by simp
    rw [isIndented, first]
    decide
  rw [noteLines] at member
  cases written : wordLines width (commentWords note) with
  | nil => simp [written, markLines] at member
  | cons first lines =>
      rw [written, markLines, List.mem_cons, List.mem_map] at member
      rcases member with rfl | ⟨content, -, rfl⟩
      · exact dash s!"- {position.mark} {first}"
      · exact dash s!"-   {content}"

/-- A line inside a declaration, whose comment stands further to the right. -/
structure Entry.IsInner (entry : Entry) : Prop where
  code : IsInnerLine entry.code
  further : 0 < entry.column ∨ entry.note = none

namespace Entry

/-- The comment of an entry stands where its code does, or behind it. -/
theorem isInner_of_mem_lines {entry : Entry} (inner : entry.IsInner) {width : Nat} {line : String}
    (member : line ∈ entry.lines width) : IsInnerLine line := by
  rcases List.mem_cons.1 member with rfl | comment
  · exact inner.code
  · rcases inner.further with further | none
    · obtain ⟨content, known, rfl⟩ := List.mem_map.1 comment
      have full := isFull_of_isCommentLine (isCommentLine_of_mem_noteLines known)
      rw [if_neg (by simpa using full.ne_empty)]
      exact isInner_blanks_append further full
    · rw [none] at comment
      cases comment

/-- An entry without a comment is its code. -/
theorem isInner_plain {code : String} (inner : IsInnerLine code) : (plain code).IsInner :=
  ⟨inner, .inr rfl⟩

/-- A field stands below the head of its record. -/
theorem isInner_ofField {member : Member TypeExpr}
    (free : ∀ name ∈ member.names, '\n' ∉ name.toList) : (ofField member).IsInner := by
  obtain ⟨own, types⟩ := List.forall_mem_cons.1 free
  have typed := TypeExpr.newline_not_mem_written types member.multiplicity .alone
  have colon : IsFull " : " := by decide
  have full := (colon.append typed).prepend own
  rw [← String.append_assoc] at full
  exact ⟨isInner_blanks_append (by decide) full, .inl (by decide : 0 < 8)⟩

/-- A choice stands behind the mark that leads it. -/
theorem isInner_ofChoice {lead : String} (leads : IsFull lead) {choice : String × Option String}
    (free : '\n' ∉ choice.1.toList) : (ofChoice lead choice).IsInner := by
  have full := @IsFull.append lead leads (" " ++ choice.1) (by simpa using free)
  rw [← String.append_assoc] at full
  exact ⟨isInner_blanks_append (by decide) full, .inl (by decide : 0 < 6)⟩

/-- The choices of a type stand below its head. -/
theorem isInner_of_mem_ofChoices {choices : List (String × Option String)}
    (free : ∀ choice ∈ choices, '\n' ∉ choice.1.toList) {entry : Entry}
    (member : entry ∈ ofChoices choices) : entry.IsInner := by
  cases choices with
  | nil => simp [ofChoices] at member
  | cons first rest =>
      obtain ⟨here, behind⟩ := List.forall_mem_cons.1 free
      rcases List.mem_cons.1 member with rfl | others
      · exact isInner_ofChoice (by decide) here
      · obtain ⟨choice, known, rfl⟩ := List.mem_map.1 others
        exact isInner_ofChoice (by decide) (behind choice known)

end Entry

namespace Declaration

/-- A line of code at the left edge, and lines of code further to the right. -/
inductive HasHead : List Entry → Prop where
  | intro {code : String} {rest : List Entry} (outer : IsOuterLine code)
      (inner : ∀ entry ∈ rest, entry.IsInner) : HasHead (.plain code :: rest)

/-- The clause at the end stands below the head, too. -/
theorem isInner_derivingClause {amount : Nat} (shifted : 0 < amount) :
    (Entry.plain (blanks amount ++ Daml.derivingClause)).IsInner :=
  Entry.isInner_plain (isInner_blanks_append shifted (by decide))

/-- A type with choices has its name in the first line. -/
theorem hasHead_choiceEntries {name : String} (own : '\n' ∉ name.toList)
    {choices : List (String × Option String)} (free : ∀ choice ∈ choices, '\n' ∉ choice.1.toList) :
    HasHead (choiceEntries name choices) := by
  have begins : IsOuterLine "data " := by decide
  refine .intro (begins.append own) fun entry member => ?_
  rcases List.mem_append.1 member with inside | last
  · exact Entry.isInner_of_mem_ofChoices free inside
  · obtain rfl := List.mem_singleton.1 last
    exact isInner_derivingClause (by decide)

/-- So has a type with nothing but a placeholder. -/
theorem hasHead_placeholderEntries {name : String} (own : '\n' ∉ name.toList) :
    HasHead (placeholderEntries name) := by
  have begins : IsOuterLine "data " := by decide
  have outer := (((begins.append own).append (by decide : '\n' ∉ " = ".toList)).append own).append
    (by decide : '\n' ∉ " ()".toList)
  refine .intro outer fun entry member => ?_
  obtain rfl := List.mem_singleton.1 member
  exact isInner_derivingClause (by decide)

/-- The fields of a record stand below its head. -/
theorem isInner_of_mem_map_ofField {fields : List (Member TypeExpr)}
    (free : ∀ name ∈ fields.flatMap Member.names, '\n' ∉ name.toList) {entry : Entry}
    (member : entry ∈ fields.map Entry.ofField) : entry.IsInner := by
  obtain ⟨field, inside, rfl⟩ := List.mem_map.1 member
  exact Entry.isInner_ofField fun name known => free name (List.mem_flatMap_of_mem inside known)

/-- The lines of code of a declaration stand further to the right than the first of them. -/
theorem hasHead_entries {declaration : Declaration}
    (free : ∀ name ∈ declaration.names, '\n' ∉ name.toList) : HasHead declaration.entries := by
  obtain ⟨name, note, body⟩ := declaration
  obtain ⟨own, inner⟩ := List.forall_mem_cons.1 free
  have data : IsOuterLine "data " := by decide
  cases body with
  | enumeration constructors =>
      cases constructors with
      | nil => exact hasHead_placeholderEntries own
      | cons first rest =>
          refine hasHead_choiceEntries own fun choice inside => ?_
          obtain ⟨constructor, known, rfl⟩ := List.mem_map.1 inside
          have named := inner _ (List.mem_map_of_mem known)
          simpa [Constructor.choice, own] using named
  | record fields =>
      have outer := (((data.append own).append (by decide : '\n' ∉ " = ".toList)).append own).append
        (by decide : '\n' ∉ " with".toList)
      refine .intro outer fun entry member => ?_
      rcases List.mem_append.1 member with inside | last
      · exact isInner_of_mem_map_ofField inner inside
      · obtain rfl := List.mem_singleton.1 last
        exact isInner_derivingClause (by decide)
  | variant alternatives =>
      cases alternatives with
      | nil => exact hasHead_placeholderEntries own
      | cons first rest =>
          refine hasHead_choiceEntries own fun choice inside => ?_
          obtain ⟨alternative, known, rfl⟩ := List.mem_map.1 inside
          have names := List.forall_mem_cons.1 fun name here =>
            inner name (List.mem_flatMap_of_mem known here)
          have typed := TypeExpr.newline_not_mem_written names.2 alternative.multiplicity .argument
          simpa [Member.choice, own, typed] using names.1
  | synonym type =>
      have typed := TypeExpr.newline_not_mem_written inner .exactlyOne .alone
      have begins : IsOuterLine "type " := by decide
      have outer := ((begins.append own).append (by decide : '\n' ∉ " = ".toList)).append typed
      exact .intro outer fun _ member => absurd member List.not_mem_nil
  | template fields signatory =>
      obtain ⟨signed, members⟩ := List.forall_mem_cons.1 inner
      have begins : IsOuterLine "template " := by decide
      have signatoryLine : IsInnerLine "    signatory " := by decide
      refine .intro ((begins.append own).append (by decide : '\n' ∉ " with".toList))
        fun entry member => ?_
      rcases List.mem_append.1 member with inside | last
      · exact isInner_of_mem_map_ofField members inside
      · rcases List.mem_cons.1 last with rfl | last
        · exact Entry.isInner_plain (by decide)
        · obtain rfl := List.mem_singleton.1 last
          exact Entry.isInner_plain (signatoryLine.append signed)

/-- The lines of a declaration are laid out around the first of its lines of code. -/
theorem isLaidOut_lines {declaration : Declaration}
    (free : ∀ name ∈ declaration.names, '\n' ∉ name.toList) (width : Nat) :
    IsLaidOut (declaration.lines width) ∧ ∀ line ∈ declaration.lines width, IsFull line := by
  have headed := hasHead_entries free
  rw [lines]
  generalize declaration.entries = entries at headed
  obtain ⟨outer, inner⟩ := headed
  have body : ∀ line ∈ List.flatMap (Entry.lines width) _, IsInnerLine line := fun line member => by
    obtain ⟨entry, known, inside⟩ := List.mem_flatMap.1 member
    exact Entry.isInner_of_mem_lines (inner entry known) inside
  constructor
  · exact .intro (fun line member =>
        ⟨(isCommentLine_of_mem_noteLines member).1, isIndented_of_mem_noteLines member⟩)
      outer.isCommentLine_eq_false outer.isIndented_eq_false fun line member =>
        (body line member).indented
  · refine List.forall_mem_append.2 ⟨fun line member => ?_, List.forall_mem_cons.2
      ⟨outer.isFull, fun line member => (body line member).toIsFull⟩⟩
    exact isFull_of_isCommentLine (isCommentLine_of_mem_noteLines member)

end Declaration

/-- Joined blocks begin with the lines of the first one. -/
theorem joinBlocks_cons_ne_nil {first : Lines} (inhabited : first ≠ []) (rest : List Lines) :
    joinBlocks (first :: rest) ≠ [] := by
  cases rest with
  | nil => exact inhabited
  | cons second rest => exact List.append_ne_nil_of_left_ne_nil inhabited _

/-- The last line of joined blocks is a line of a block. -/
theorem exists_mem_of_getLast?_joinBlocks {blocks : List Lines}
    (full : ∀ block ∈ blocks, block ≠ []) {line : String}
    (last : (joinBlocks blocks).getLast? = some line) :
    ∃ block ∈ blocks, line ∈ block := by
  induction blocks with
  | nil => cases last
  | cons first rest inductionHypothesis =>
      obtain ⟨here, behind⟩ := List.forall_mem_cons.1 full
      cases rest with
      | nil => exact ⟨first, List.mem_cons_self, List.mem_of_getLast? last⟩
      | cons second rest =>
          have inhabited := joinBlocks_cons_ne_nil (behind second List.mem_cons_self) rest
          have final := List.getLast?_eq_some_getLast inhabited
          rw [joinBlocks_cons_cons, List.getLast?_append, List.getLast?_cons, final] at last
          obtain ⟨block, known, inside⟩ := inductionHypothesis behind (final.trans last)
          exact ⟨block, List.mem_cons_of_mem first known, inside⟩

namespace Module

/-- A block is the header, an import or a declaration. -/
theorem mem_blocks_iff {model : Module} {width : Nat} {block : Lines} :
    block ∈ model.blocks width ↔
      block = headLines width model.comment ++ Daml.header model.name ∨
        (∃ given ∈ model.imports, block = [Daml.importLine given]) ∨
          ∃ declaration ∈ model.declarations, block = declaration.lines width := by
  simp [blocks, Daml.importBlocks, eq_comm]

section Free

variable {model : Module} (free : ∀ name ∈ model.names, '\n' ∉ name.toList)

include free

/-- The names of a declaration are names of the module. -/
theorem newline_not_mem_of_mem_declarations {declaration : Declaration}
    (member : declaration ∈ model.declarations) :
    ∀ name ∈ declaration.names, '\n' ∉ name.toList := fun name inside =>
  free name (List.mem_cons_of_mem _
    (List.mem_append_right _ (List.mem_flatMap_of_mem member inside)))

/-- All lines of a header are full. -/
theorem isFull_of_mem_header {line : String} (member : line ∈ Daml.header model.name) :
    IsFull line := by
  have own := free model.name List.mem_cons_self
  rw [Daml.header, List.mem_cons, List.mem_singleton] at member
  have begins : IsFull "module " := by decide
  have exports : IsFull "  ( module " := by decide
  rcases member with rfl | rfl
  · exact begins.append own
  · exact (exports.append own).append (by decide : '\n' ∉ " ) where".toList)

/-- So is the line of an import. -/
theorem isFull_importLine {given : Import} (member : given ∈ model.imports) :
    IsFull (Daml.importLine given) := by
  have names : ∀ name ∈ given.names, '\n' ∉ name.toList := fun name inside =>
    free name (List.mem_cons_of_mem _
      (List.mem_append_left _ (List.mem_flatMap_of_mem member inside)))
  have begins : IsFull "import " := by decide
  have beginsToo : IsFull "import qualified " := by decide
  cases given with
  | plain moduleName => exact begins.append (names moduleName List.mem_cons_self)
  | qualified moduleName shortName =>
      obtain ⟨whole, others⟩ := List.forall_mem_cons.1 names
      exact ((beginsToo.append whole).append (by decide : '\n' ∉ " as ".toList)).append
        (others shortName List.mem_cons_self)

/-- No line inside a block is blank. -/
theorem isFull_of_mem_blocks {width : Nat} {block : Lines} (known : block ∈ model.blocks width)
    {line : String} (inside : line ∈ block) : IsFull line := by
  rcases mem_blocks_iff.1 known with rfl | ⟨given, imported, rfl⟩ | ⟨declaration, declared, rfl⟩
  · rcases List.mem_append.1 inside with head | header
    · exact isFull_of_isCommentLine (isCommentLine_of_mem_headLines head)
    · exact isFull_of_mem_header free header
  · obtain rfl := List.mem_singleton.1 inside
    exact isFull_importLine free imported
  · have names := newline_not_mem_of_mem_declarations free declared
    exact (Declaration.isLaidOut_lines names width).2 line inside

/-- No block is empty. -/
theorem ne_nil_of_mem_blocks {width : Nat} {block : Lines} (known : block ∈ model.blocks width) :
    block ≠ [] := by
  rcases mem_blocks_iff.1 known with rfl | ⟨given, -, rfl⟩ | ⟨declaration, declared, rfl⟩
  · exact List.append_ne_nil_of_right_ne_nil _ (List.cons_ne_nil _ _)
  · exact List.cons_ne_nil _ _
  · have names := newline_not_mem_of_mem_declarations free declared
    exact (Declaration.isLaidOut_lines names width).1.ne_nil

/-- The lines of a text are lines. -/
theorem newline_not_mem_of_mem_joinBlocks {width : Nat} :
    ∀ line ∈ joinBlocks (model.blocks width), '\n' ∉ line.toList := by
  intro line member
  rcases mem_joinBlocks member with rfl | ⟨block, known, inside⟩
  · simp
  · exact (isFull_of_mem_blocks free known inside).whole

end Free

/-- Empty lines stand between the blocks of a module, which are its header, its imports and its
declarations, and no other line is blank. Each declaration has one line of code at the left edge, in
front of all lines further to the right. -/
theorem blocks_of_render {config : Config} (room : config.HasRoom)
    (allowed : config.emptyVariant = .placeholder) {model : Module}
    (renderable : model.isRenderable = true) (free : ∀ name ∈ model.names, '\n' ∉ name.toList) :
    ∃ body comment declarations, (Daml.render config model).result = .ok (body ++ "\n") ∧
      body.toList.getLast? ≠ some '\n' ∧
      (Daml.headComment config model.comment).result = .ok comment ∧
      (Text.splitAtChar '\n' body).splitOn "" =
        (comment ++ Daml.header model.name) :: Daml.importBlocks model.imports ++ declarations ∧
      (∀ line ∈ Text.splitAtChar '\n' body, isBlankLine line = true → line = "") ∧
      List.Forall₂ (fun declaration block =>
        (Daml.declaration config declaration).result = .ok block ∧ IsLaidOut block)
        model.declarations declarations := by
  obtain ⟨width, fits, positive⟩ := room
  have full : ∀ block ∈ model.blocks width.toNat, ∀ line ∈ block, IsFull line :=
    fun block known line => isFull_of_mem_blocks free known
  have inhabited : ∀ block ∈ model.blocks width.toNat, block ≠ [] :=
    fun block => ne_nil_of_mem_blocks free
  -- No line is empty and none holds a line feed, so lines and blocks are found again.
  have split : Text.splitAtChar '\n' ("\n".intercalate (joinBlocks (model.blocks width.toNat))) =
      joinBlocks (model.blocks width.toNat) :=
    Text.splitAtChar_intercalate rfl
      (joinBlocks_cons_ne_nil (inhabited _ List.mem_cons_self) _)
      (newline_not_mem_of_mem_joinBlocks free)
  refine ⟨_, _, model.declarations.map (Declaration.lines width.toNat),
    Daml.result_render_of_room fits positive allowed renderable, ?_,
    Daml.result_headComment_of_room fits positive model.comment, ?_, ?_, ?_⟩
  · intro ends
    have last := Text.getLast?_splitAtChar ends
    rw [split] at last
    obtain ⟨block, known, inside⟩ := exists_mem_of_getLast?_joinBlocks inhabited last
    exact (full block known "" inside).ne_empty rfl
  · rw [split, joinBlocks_eq_intercalate]
    exact List.splitOn_intercalate ""
      (fun block known inside => (full block known "" inside).ne_empty rfl) (List.cons_ne_nil _ _)
  · intro line member blank
    rw [split] at member
    rcases mem_joinBlocks member with rfl | ⟨block, known, inside⟩
    · rfl
    · simp [(full block known line inside).isBlankLine_eq_false] at blank
  · rw [List.forall₂_map_right_iff, List.forall₂_same]
    intro declaration member
    rw [isRenderable, List.all_eq_true] at renderable
    exact ⟨Daml.result_declaration fits positive (.inl allowed) (renderable declaration member),
      (Declaration.isLaidOut_lines (newline_not_mem_of_mem_declarations free member) _).1⟩

/-- A module with blank comments, an empty record, an empty enumeration and names of blanks and
dashes. -/
def sparse : Module where
  name := "Desk  Trades"
  imports := [.plain " "]
  declarations := [
    ⟨"Nothing", some " \n ", .record []⟩,
    ⟨"--", some "\n\n", .enumeration []⟩,
    ⟨"Kept", none, .record [⟨"-- left", .primitive .text, ⟨.zero, .toOne⟩, some "", none⟩]⟩]
  comment := some " "

theorem blocks_of_render_sparse :
    ∃ body, (Daml.render .standard sparse).result = .ok (body ++ "\n") ∧
      body.toList.getLast? ≠ some '\n' ∧ ((Text.splitAtChar '\n' body).splitOn "").length = 5 := by
  obtain ⟨body, comment, declarations, rendered, ends, -, split, -, laidOut⟩ :=
    @blocks_of_render .standard Config.hasRoom_standard rfl sparse (by decide) (by decide)
  have counted : declarations.length = 3 := laidOut.length_eq.symm
  refine ⟨body, rendered, ends, ?_⟩
  rw [split, List.length_append, counted]
  rfl

end Module

end RosettaDaml
