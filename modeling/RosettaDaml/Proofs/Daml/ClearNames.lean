/-
This file shows that lines of code with clear names in them are told apart from comments.
-/

import RosettaDaml.Proofs.Daml.Blocks

namespace RosettaDaml

namespace Text

/-- Whether a name has no blank characters and no dash in front. -/
def isClear (name : String) : Bool :=
  name.toList.all (!isBlank ·) && name.toList.head? != some '-'

/-- A clear name holds no blank. -/
theorem not_mem_of_isClear {name : String} (clear : isClear name = true) {char : Char}
    (blank : isBlank char = true) : char ∉ name.toList := by
  rw [isClear, Bool.and_eq_true, List.all_eq_true] at clear
  intro member
  have solid := clear.1 char member
  simp [blank] at solid

/-- So it is on one line. -/
theorem newline_not_mem_of_isClear {name : String} (clear : isClear name = true) :
    '\n' ∉ name.toList :=
  not_mem_of_isClear clear (by decide)

/-- And it is one word. -/
theorem space_not_mem_of_isClear {name : String} (clear : isClear name = true) :
    ' ' ∉ name.toList :=
  not_mem_of_isClear clear (by decide)

/-- Whether a text is the beginning of a line of code: what comes first in it, but for spaces, is no
dash. -/
def beginsCode (text : String) : Bool :=
  (unindented text).head?.any (· != '-') && !text.toList.contains '\n'

/-- A clear name begins a line of code, also an empty one as far as more of the line follows. -/
theorem beginsCode_append {name mark : String} (clear : isClear name = true)
    (begins : beginsCode mark = true) : beginsCode (name ++ mark) = true := by
  have free := newline_not_mem_of_isClear clear
  have solid := space_not_mem_of_isClear clear
  rw [isClear, Bool.and_eq_true] at clear
  rw [beginsCode, Bool.and_eq_true] at begins ⊢
  refine ⟨?_, by simpa [free] using begins.2⟩
  rw [unindented, String.toList_append]
  cases chars : name.toList with
  | nil => exact begins.1
  | cons char rest =>
      rw [chars] at solid clear
      have notSpace : char ≠ ' ' := fun same => solid (same ▸ List.mem_cons_self)
      simpa [notSpace] using clear.2

end Text

/-- A line that is not empty and does not end within itself. -/
structure IsLine (line : String) : Prop where
  inhabited : line ≠ ""
  whole : '\n' ∉ line.toList

/-- A line that is no comment line. -/
structure IsCode (line : String) : Prop extends IsLine line where
  apart : isCommentLine line = false

/-- Code that is moved to the right is code. -/
theorem IsCode.blanks_append {line : String} (code : IsCode line) (amount : Nat) :
    IsCode (blanks amount ++ line) where
  inhabited := blanks_append_ne_empty amount code.inhabited
  apart := (isCommentLine_blanks_append amount line).trans code.apart
  whole := by simpa [blanks] using code.whole

/-- A line whose start is code is code. -/
theorem isCode_append {front rest : String} (begins : Text.beginsCode front = true)
    (free : '\n' ∉ rest.toList) : IsCode (front ++ rest) := by
  rw [Text.beginsCode, Bool.and_eq_true, unindented] at begins
  obtain ⟨starts, whole⟩ := begins
  cases chars : front.toList.dropWhile (· == ' ') with
  | nil => simp [chars] at starts
  | cons char others =>
      have shown : unindented (front ++ rest) = char :: (others ++ rest.toList) := by
        rw [unindented, String.toList_append, List.dropWhile_append, chars]
        rfl
      refine ⟨⟨?_, by simpa [free] using whole⟩, ?_⟩
      · rintro empty
        simp [empty, unindented] at shown
      · rw [chars] at starts
        have notDash : char ≠ '-' := by simpa using starts
        simp [isCommentLine, shown, List.isPrefixOf, notDash.symm]

/-- A word that is code is a line of code. -/
theorem isCode_of_beginsCode {line : String} (begins : Text.beginsCode line = true) :
    IsCode line := by
  have code := @isCode_append line "" begins (by simp)
  rwa [String.append_empty] at code

def Module.namesAreClear (model : Module) : Bool := model.names.all Text.isClear

namespace Entry

/-- A field begins with its name. -/
theorem isCode_ofField {member : Member TypeExpr}
    (clear : ∀ name ∈ member.names, Text.isClear name = true) : IsCode (ofField member).code := by
  obtain ⟨own, types⟩ := List.forall_mem_cons.1 clear
  refine (isCode_append (Text.beginsCode_append own ?_) ?_).blanks_append 4
  · decide
  · exact TypeExpr.newline_not_mem_written
      (fun name inside => Text.newline_not_mem_of_isClear (types name inside)) _ _

/-- A choice begins with the mark that leads it. -/
theorem isCode_ofChoice {lead : String} (begins : Text.beginsCode lead = true)
    {choice : String × Option String} (whole : '\n' ∉ choice.1.toList) :
    IsCode (ofChoice lead choice).code := by
  refine IsCode.blanks_append ?_ 4
  rw [String.append_assoc]
  exact isCode_append begins (by simpa using whole)

/-- All choices of a type are code. -/
theorem isCode_of_mem_ofChoices {choices : List (String × Option String)}
    (whole : ∀ choice ∈ choices, '\n' ∉ choice.1.toList) {entry : Entry}
    (member : entry ∈ ofChoices choices) : IsCode entry.code := by
  cases choices with
  | nil => simp [ofChoices] at member
  | cons first rest =>
      obtain ⟨here, behind⟩ := List.forall_mem_cons.1 whole
      rcases List.mem_cons.1 member with rfl | others
      · exact isCode_ofChoice (by decide) here
      · obtain ⟨choice, known, rfl⟩ := List.mem_map.1 others
        exact isCode_ofChoice (by decide) (behind choice known)

end Entry

namespace Declaration

/-- The clause at the end is code. -/
theorem isCode_derivingClause (amount : Nat) : IsCode (blanks amount ++ Daml.derivingClause) :=
  (isCode_of_beginsCode (by decide)).blanks_append amount

/-- The lines of a type with choices are code. -/
theorem isCode_of_mem_choiceEntries {name : String} (clear : Text.isClear name = true)
    {choices : List (String × Option String)} (whole : ∀ choice ∈ choices, '\n' ∉ choice.1.toList)
    {entry : Entry} (member : entry ∈ choiceEntries name choices) : IsCode entry.code := by
  rw [choiceEntries, List.mem_cons, List.mem_append, List.mem_singleton] at member
  rcases member with rfl | inside | rfl
  · exact isCode_append (by decide) (Text.newline_not_mem_of_isClear clear)
  · exact Entry.isCode_of_mem_ofChoices whole inside
  · exact isCode_derivingClause 4

/-- So is a placeholder. -/
theorem isCode_of_mem_placeholderEntries {name : String} (clear : Text.isClear name = true)
    {entry : Entry} (member : entry ∈ placeholderEntries name) : IsCode entry.code := by
  have free := Text.newline_not_mem_of_isClear clear
  rw [placeholderEntries, List.mem_cons, List.mem_singleton] at member
  rcases member with rfl | rfl
  · simp only [Entry.plain, String.append_assoc]
    exact isCode_append (by decide) (by simpa using free)
  · exact isCode_derivingClause 4

/-- And so are the fields of a record. -/
theorem isCode_of_mem_map_ofField {fields : List (Member TypeExpr)}
    (clear : ∀ name ∈ fields.flatMap Member.names, Text.isClear name = true) {entry : Entry}
    (member : entry ∈ fields.map Entry.ofField) : IsCode entry.code := by
  obtain ⟨field, inside, rfl⟩ := List.mem_map.1 member
  exact Entry.isCode_ofField fun name known => clear name (List.mem_flatMap_of_mem inside known)

/-- Every line of code of a declaration with clear names is told apart from comments. -/
theorem isCode_of_mem_entries {declaration : Declaration}
    (clear : ∀ name ∈ declaration.names, Text.isClear name = true) {entry : Entry}
    (member : entry ∈ declaration.entries) : IsCode entry.code := by
  obtain ⟨name, note, body⟩ := declaration
  obtain ⟨own, inner⟩ := List.forall_mem_cons.1 clear
  have free := Text.newline_not_mem_of_isClear own
  cases body with
  | enumeration constructors =>
      cases constructors with
      | nil => exact isCode_of_mem_placeholderEntries own member
      | cons first rest =>
          refine isCode_of_mem_choiceEntries own ?_ member
          rintro _ inside
          obtain ⟨constructor, known, rfl⟩ := List.mem_map.1 inside
          have freeToo := Text.newline_not_mem_of_isClear (inner _ (List.mem_map_of_mem known))
          simpa [Constructor.choice, free] using freeToo
  | record fields =>
      simp only [entries, List.mem_cons, List.mem_append, List.not_mem_nil, or_false] at member
      rcases member with rfl | inside | rfl
      · simp only [Entry.plain, String.append_assoc]
        exact isCode_append (by decide) (by simpa using free)
      · exact isCode_of_mem_map_ofField inner inside
      · exact isCode_derivingClause 6
  | variant alternatives =>
      cases alternatives with
      | nil => exact isCode_of_mem_placeholderEntries own member
      | cons first rest =>
          refine isCode_of_mem_choiceEntries own ?_ member
          rintro _ inside
          obtain ⟨alternative, known, rfl⟩ := List.mem_map.1 inside
          have names := List.forall_mem_cons.1 fun name here =>
            Text.newline_not_mem_of_isClear (inner name (List.mem_flatMap_of_mem known here))
          have freeToo := names.1
          have typed := TypeExpr.newline_not_mem_written names.2 alternative.multiplicity .argument
          simpa [Member.choice, free, typed] using freeToo
  | synonym type =>
      obtain rfl := List.mem_singleton.1 member
      have typed := TypeExpr.newline_not_mem_written
        (fun name inside => Text.newline_not_mem_of_isClear (inner name inside)) .exactlyOne .alone
      simp only [Entry.plain, String.append_assoc]
      exact isCode_append (by decide) (by simpa [free] using typed)
  | template fields signatory =>
      obtain ⟨signed, members⟩ := List.forall_mem_cons.1 inner
      simp only [entries, List.mem_cons, List.mem_append, List.not_mem_nil, or_false] at member
      rcases member with rfl | inside | rfl | rfl
      · simp only [Entry.plain, String.append_assoc]
        exact isCode_append (by decide) (by simpa using free)
      · exact isCode_of_mem_map_ofField members inside
      · exact isCode_of_beginsCode (by decide)
      · exact isCode_append (by decide) (Text.newline_not_mem_of_isClear signed)

end Declaration

namespace Module

/-- The lines of the comment of a module come first and its name behind them. -/
theorem joinBlocks_blocks (width : Nat) (model : Module) :
    joinBlocks (model.blocks width) = headLines width model.comment ++ ("module " ++ model.name) ::
      joinBlocks ([s!"  ( module {model.name} ) where"] :: Daml.importBlocks model.imports ++
        model.declarations.map (Declaration.lines width)) := by
  rw [blocks, List.cons_append, joinBlocks_append_cons]
  exact congrArg _ (joinBlocks_append_cons [_] [_] _)

section Clear

variable {model : Module} (clear : model.namesAreClear = true)

include clear

/-- A clear module has clear names. -/
theorem isClear_of_mem_names {name : String} (member : name ∈ model.names) :
    Text.isClear name = true :=
  List.all_eq_true.1 clear name member

/-- So none of its names is broken. -/
theorem newline_not_mem_of_mem_names : ∀ name ∈ model.names, '\n' ∉ name.toList :=
  fun _ member => Text.newline_not_mem_of_isClear (isClear_of_mem_names clear member)

/-- The names in its declarations are clear. -/
theorem isClear_of_mem_declarations {declaration : Declaration}
    (member : declaration ∈ model.declarations) :
    ∀ name ∈ declaration.names, Text.isClear name = true := fun _ inside =>
  isClear_of_mem_names clear (List.mem_cons_of_mem _
    (List.mem_append_right _ (List.mem_flatMap_of_mem member inside)))

/-- So are those in its imports. -/
theorem isClear_of_mem_imports {given : Import} (member : given ∈ model.imports) :
    ∀ name ∈ given.names, Text.isClear name = true := fun _ inside =>
  isClear_of_mem_names clear (List.mem_cons_of_mem _
    (List.mem_append_left _ (List.mem_flatMap_of_mem member inside)))

/-- The lines below the comment of a header are code. -/
theorem isCode_of_mem_header {line : String} (member : line ∈ Daml.header model.name) :
    IsCode line := by
  have free := Text.newline_not_mem_of_isClear (isClear_of_mem_names clear List.mem_cons_self)
  rw [Daml.header, List.mem_cons, List.mem_singleton] at member
  rcases member with rfl | rfl
  · exact isCode_append (by decide) free
  · rw [String.append_assoc]
    exact isCode_append (by decide) (by simpa [toString] using free)

/-- The line of an import is code. -/
theorem isCode_importLine {given : Import} (member : given ∈ model.imports) :
    IsCode (Daml.importLine given) := by
  have names : ∀ name ∈ given.names, '\n' ∉ name.toList := fun name inside =>
    Text.newline_not_mem_of_isClear (isClear_of_mem_imports clear member name inside)
  cases given with
  | plain moduleName =>
      change IsCode ("import " ++ moduleName)
      exact isCode_append (by decide) (names _ List.mem_cons_self)
  | qualified moduleName shortName =>
      obtain ⟨whole, others⟩ := List.forall_mem_cons.1 names
      have wholeToo := others shortName List.mem_cons_self
      change IsCode ("import qualified " ++ moduleName ++ " as " ++ shortName)
      rw [String.append_assoc, String.append_assoc]
      exact isCode_append (by decide) (by simpa [whole] using wholeToo)

/-- The lines of a module are read back from its text. -/
theorem splitAtChar_linesText_blocks (width : Nat) :
    Text.splitAtChar '\n' (Daml.linesText (joinBlocks (model.blocks width))) =
      joinBlocks (model.blocks width) ++ [""] := by
  refine splitAtChar_linesText ?_
    (newline_not_mem_of_mem_joinBlocks (newline_not_mem_of_mem_names clear))
  simp [joinBlocks_blocks]

end Clear

end Module

end RosettaDaml
