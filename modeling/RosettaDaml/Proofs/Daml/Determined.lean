/-
This file shows that the text of a module of records and enumerations determines the module up to
what is not written of it.
-/

import RosettaDaml.Proofs.Daml.Agreement

namespace RosettaDaml

/-- Whether a type is a primitive one or names a declaration in a way that is not taken for another
type. -/
def TypeExpr.isLegible : TypeExpr → Bool
  | .primitive _ => true
  | .nominal name => !builtInTypeNames.contains name && name.toList.head? != some '['
  | _ => false

/-- Whether a declaration is an enumeration or a record of legible types. -/
def Declaration.isLegible (declaration : Declaration) : Bool :=
  match declaration.body with
  | .enumeration _ => true
  | .record fields => fields.all fun field => field.type.isLegible
  | _ => false

/-- Whether a module consists of legible declarations and has clear names, such as names of letters,
digits, underscores and dots. -/
def Module.isLegible (model : Module) : Bool :=
  model.namesAreClear && model.declarations.all Declaration.isLegible

namespace Multiplicity

/-- A type on its own is a list, an option, or itself. -/
theorem shape_cases (multiplicity : Multiplicity) (text : String) :
    (multiplicity.isMany = true ∧ multiplicity.shape .alone text = "[" ++ text ++ "]") ∨
      (multiplicity = ⟨.zero, .toOne⟩ ∧ multiplicity.shape .alone text = "Optional " ++ text) ∨
      (multiplicity = ⟨.one, .toOne⟩ ∧ multiplicity.shape .alone text = text) := by
  obtain ⟨lower, upper⟩ := multiplicity
  cases upper with
  | toMany => exact .inl ⟨rfl, rfl⟩
  | toOne =>
      cases lower with
      | zero => exact .inr (.inl ⟨rfl, rfl⟩)
      | one => exact .inr (.inr ⟨rfl, rfl⟩)

/-- Texts without spaces and without brackets in front are read back from what multiplicities make
of them. -/
theorem agrees_of_shape_eq {left right : Multiplicity} {text other : String}
    (solid : ' ' ∉ text.toList) (solidToo : ' ' ∉ other.toList)
    (bare : text.toList.head? ≠ some '[') (bareToo : other.toList.head? ≠ some '[')
    (same : left.shape .alone text = right.shape .alone other) :
    left.Agrees right ∧ text = other := by
  -- A list begins with a bracket, an optional type holds a space, and a bare one does neither.
  rcases left.shape_cases text with ⟨many, shaped⟩ | ⟨rfl, shaped⟩ | ⟨rfl, shaped⟩
  · rw [shaped] at same
    rcases right.shape_cases other with ⟨manyToo, shapedToo⟩ | ⟨rfl, shapedToo⟩ | ⟨rfl, shapedToo⟩
    · rw [shapedToo] at same
      have chars : text.toList = other.toList := by simpa using congrArg String.toList same
      exact ⟨.inr ⟨many, manyToo⟩, String.toList_injective chars⟩
    · rw [shapedToo] at same
      simpa using congrArg String.toList same
    · rw [shapedToo] at same
      exact absurd (by simp [← same]) bareToo
  · rw [shaped] at same
    rcases right.shape_cases other with ⟨manyToo, shapedToo⟩ | ⟨rfl, shapedToo⟩ | ⟨rfl, shapedToo⟩
    · rw [shapedToo] at same
      simpa using congrArg String.toList same
    · rw [shapedToo] at same
      have chars : text.toList = other.toList := by simpa using congrArg String.toList same
      exact ⟨.inl rfl, String.toList_injective chars⟩
    · rw [shapedToo] at same
      exact absurd (by simp [← same]) solidToo
  · rw [shaped] at same
    rcases right.shape_cases other with ⟨manyToo, shapedToo⟩ | ⟨rfl, shapedToo⟩ | ⟨rfl, shapedToo⟩
    · rw [shapedToo] at same
      exact absurd (by simp [same]) bare
    · rw [shapedToo] at same
      exact absurd (by simp [same]) solid
    · exact ⟨.inl rfl, same⟩

end Multiplicity

namespace TypeExpr

/-- The text of a legible type that occurs exactly once. -/
def label : TypeExpr → String
  | .primitive kind => kind.daml
  | .nominal name => name
  | _ => ""

section Legible

variable {type : TypeExpr} (legible : type.isLegible = true)

include legible

/-- A legible type can be written. -/
theorem isRenderable_of_isLegible : type.isRenderable = true := by
  cases type with
  | primitive _ | nominal _ => rfl
  | product _ | enumeration _ | sum _ | unknown _ => cases legible

/-- It is written as its label in the shape of its multiplicity. -/
theorem written_of_isLegible (multiplicity : Multiplicity) (position : TypePosition) :
    type.written multiplicity position = multiplicity.shape position type.label := by
  cases type with
  | primitive _ | nominal _ => rfl
  | product _ | enumeration _ | sum _ | unknown _ => cases legible

/-- The label of a type is one word. -/
theorem space_not_mem_label (clear : ∀ name ∈ type.nominalNames, Text.isClear name = true) :
    ' ' ∉ type.label.toList := by
  cases type with
  | primitive kind => cases kind <;> decide
  | nominal name => exact Text.space_not_mem_of_isClear (clear name List.mem_cons_self)
  | product _ | enumeration _ | sum _ | unknown _ => cases legible

/-- No label begins like a list. -/
theorem head?_label_ne : type.label.toList.head? ≠ some '[' := by
  cases type with
  | primitive kind => cases kind <;> decide
  | nominal name =>
      rw [isLegible, Bool.and_eq_true, bne_iff_ne] at legible
      exact legible.2
  | product _ | enumeration _ | sum _ | unknown _ => cases legible

end Legible

/-- Legible types are read back from their texts. -/
theorem eq_of_label_eq {left right : TypeExpr} (legible : left.isLegible = true)
    (legibleToo : right.isLegible = true) (same : left.label = right.label) : left = right := by
  have apart {kind : Primitive} {name : String} (given : (nominal name).isLegible = true) :
      kind.daml ≠ name := by
    rintro rfl
    simp [isLegible, kind.daml_mem_builtInTypeNames] at given
  cases left with
  | primitive kind =>
      cases right with
      | primitive other => rw [Primitive.daml_injective same]
      | nominal name => exact absurd same (apart legibleToo)
      | product _ | enumeration _ | sum _ | unknown _ => cases legibleToo
  | nominal name =>
      cases right with
      | primitive other => exact absurd same.symm (apart legible)
      | nominal other => exact congrArg nominal same
      | product _ | enumeration _ | sum _ | unknown _ => cases legibleToo
  | product _ | enumeration _ | sum _ | unknown _ => cases legible

end TypeExpr

namespace Entry

/-- What is read back from a line of code and the comment behind it. -/
def reading (entry : Entry) : String × List String := (entry.code, commentWords entry.note)

/-- Entries begin with a line of code. -/
theorem isCommentLine_of_mem_head?_flatMap {entries : List Entry}
    (codes : ∀ entry ∈ entries, IsCode entry.code) {width : Nat} :
    ∀ line ∈ (entries.flatMap (lines width)).head?, isCommentLine line = false := by
  cases entries with
  | nil => simp
  | cons first rest => simpa [lines] using (codes first List.mem_cons_self).apart

/-- Lines of code and the words of the comments behind them are read back from all lines. -/
theorem map_reading_eq {width : Nat} {lefts rights : List Entry}
    (codes : ∀ entry ∈ lefts, IsCode entry.code) (codesToo : ∀ entry ∈ rights, IsCode entry.code)
    (same : lefts.flatMap (lines width) = rights.flatMap (lines width)) :
    lefts.map reading = rights.map reading := by
  induction lefts generalizing rights with
  | nil =>
      cases rights with
      | nil => rfl
      | cons right rights => simp [lines] at same
  | cons left lefts inductionHypothesis =>
      cases rights with
      | nil => simp [lines] at same
      | cons right rights =>
          obtain ⟨-, behind⟩ := List.forall_mem_cons.1 codes
          obtain ⟨-, behindToo⟩ := List.forall_mem_cons.1 codesToo
          rw [List.flatMap_cons, List.flatMap_cons, lines, lines, List.cons_append,
            List.cons_append, List.cons.injEq] at same
          obtain ⟨code, others⟩ := same
          -- The comment behind a line of code ends where the next line of code begins.
          obtain ⟨noted, onward⟩ := Text.append_inj_of_forall
            (fun _ member => (isCommentLine_of_mem member).1)
            (fun _ member => (isCommentLine_of_mem member).1)
            (isCommentLine_of_mem_head?_flatMap behind)
            (isCommentLine_of_mem_head?_flatMap behindToo) others
          rw [List.map_cons, List.map_cons, inductionHypothesis behind behindToo onward, reading,
            reading, code, commentWords_eq_of_nest_eq noted]

/-- Fields that read the same have the same name, type and comment. -/
theorem agrees_of_reading_ofField_eq {left right : Member TypeExpr}
    (legible : left.type.isLegible = true) (legibleToo : right.type.isLegible = true)
    (clear : ∀ name ∈ left.names, Text.isClear name = true)
    (clearToo : ∀ name ∈ right.names, Text.isClear name = true)
    (same : (ofField left).reading = (ofField right).reading) : left.Agrees right := by
  obtain ⟨named, typed⟩ := List.forall_mem_cons.1 clear
  obtain ⟨namedToo, typedToo⟩ := List.forall_mem_cons.1 clearToo
  obtain ⟨code, noted⟩ := Prod.mk.inj same
  -- The name ends in front of the first space, whatever type stands behind it.
  obtain ⟨names, shapes⟩ := Text.append_inj_of_not_mem (by decide)
    (Text.space_not_mem_of_isClear named) (Text.space_not_mem_of_isClear namedToo)
    ((String.append_right_inj _).1 code)
  rw [TypeExpr.written_of_isLegible legible, TypeExpr.written_of_isLegible legibleToo] at shapes
  obtain ⟨multiplicities, labels⟩ := Multiplicity.agrees_of_shape_eq
    (TypeExpr.space_not_mem_label legible typed) (TypeExpr.space_not_mem_label legibleToo typedToo)
    (TypeExpr.head?_label_ne legible) (TypeExpr.head?_label_ne legibleToo) shapes
  exact ⟨names, TypeExpr.eq_of_label_eq legible legibleToo labels, multiplicities, noted⟩

/-- So do values of an enumeration. -/
theorem agrees_of_reading_ofChoice_eq {lead owner : String} {left right : Constructor}
    (same : (ofChoice lead (left.choice owner)).reading =
      (ofChoice lead (right.choice owner)).reading) : left.Agrees right := by
  obtain ⟨code, noted⟩ := Prod.mk.inj same
  refine ⟨String.toList_injective ?_, noted⟩
  simpa [ofChoice, Constructor.choice] using congrArg String.toList code

end Entry

namespace Declaration

/-- The words with which a declaration begins. -/
def opening (declaration : Declaration) : List String :=
  let name := declaration.name
  match declaration.body with
  | .enumeration [] => ["data", name, "=", name, "()"]
  | .enumeration _ => ["data", name]
  | _ => ["data", name, "=", name, "with"]

/-- A declaration has a line of these words and more lines of code. -/
theorem exists_entries_eq_cons {declaration : Declaration}
    (legible : declaration.isLegible = true) :
    ∃ second rest, declaration.entries =
      .plain (" ".intercalate declaration.opening) :: second :: rest := by
  obtain ⟨name, note, body⟩ := declaration
  cases body with
  | enumeration constructors =>
      cases constructors with
      | nil =>
          have code : " ".intercalate ["data", name, "=", name, "()"] =
              "data " ++ name ++ " = " ++ name ++ " ()" := String.toList_injective (by simp)
          rw [opening, code]
          exact ⟨_, _, rfl⟩
      | cons first rest =>
          have code : " ".intercalate ["data", name] = "data " ++ name :=
            String.toList_injective (by simp)
          rw [opening, code]
          exact ⟨_, _, rfl⟩
  | record fields =>
      have code : " ".intercalate ["data", name, "=", name, "with"] =
          "data " ++ name ++ " = " ++ name ++ " with" := String.toList_injective (by simp)
      rw [opening, code, entries_record]
      cases fields <;> exact ⟨_, _, rfl⟩
  | variant _ | synonym _ | template _ _ => cases legible

/-- The words of an opening are read back. -/
theorem splitAtChar_opening {declaration : Declaration}
    (clear : Text.isClear declaration.name = true) :
    Text.splitAtChar ' ' (" ".intercalate declaration.opening) = declaration.opening := by
  have free := Text.space_not_mem_of_isClear clear
  refine Text.splitAtChar_intercalate rfl ?_ ?_ <;> rw [opening] <;> split <;> simp [free]

/-- A legible declaration can be written. -/
theorem isRenderable_of_isLegible {declaration : Declaration}
    (legible : declaration.isLegible = true) : declaration.isRenderable = true := by
  obtain ⟨name, note, body⟩ := declaration
  cases body with
  | enumeration constructors => rfl
  | record fields =>
      rw [isLegible, List.all_eq_true] at legible
      rw [isRenderable, Bool.and_eq_true, List.all_eq_true]
      exact ⟨fun field member => TypeExpr.isRenderable_of_isLegible (legible field member), rfl⟩
  | variant _ | synonym _ | template _ _ => cases legible

/-- The second word of an opening is the name. -/
theorem getElem?_opening (declaration : Declaration) :
    declaration.opening[1]? = some declaration.name := by
  rw [opening]
  split <;> rfl

/-- The words of the comment and the lines of code with theirs are read back from all lines. -/
theorem map_reading_entries_eq {left right : Declaration}
    (clear : ∀ name ∈ left.names, Text.isClear name = true)
    (clearToo : ∀ name ∈ right.names, Text.isClear name = true) {width : Nat}
    (same : left.lines width = right.lines width) :
    commentWords left.comment = commentWords right.comment ∧
      left.entries.map Entry.reading = right.entries.map Entry.reading := by
  have codes : ∀ entry ∈ left.entries, IsCode entry.code :=
    fun _ member => isCode_of_mem_entries clear member
  have codesToo : ∀ entry ∈ right.entries, IsCode entry.code :=
    fun _ member => isCode_of_mem_entries clearToo member
  obtain ⟨noted, onward⟩ := Text.append_inj_of_forall
    (fun _ member => (isCommentLine_of_mem_noteLines member).1)
    (fun _ member => (isCommentLine_of_mem_noteLines member).1)
    (Entry.isCommentLine_of_mem_head?_flatMap codes)
    (Entry.isCommentLine_of_mem_head?_flatMap codesToo) same
  rw [← nest_zero (noteLines _ _ left.comment), ← nest_zero (noteLines _ _ right.comment)] at noted
  exact ⟨commentWords_eq_of_nest_eq noted, Entry.map_reading_eq codes codesToo onward⟩

/-- Enumerations that read the same have the same values in order. -/
theorem agrees_of_reading_constructors_eq {name : String} {note other : Option String}
    {first firstToo : Constructor} {rest restToo : List Constructor}
    (same : (entries ⟨name, note, .enumeration (first :: rest)⟩).map Entry.reading =
      (entries ⟨name, other, .enumeration (firstToo :: restToo)⟩).map Entry.reading) :
    List.Forall₂ Constructor.Agrees (first :: rest) (firstToo :: restToo) := by
  simp only [entries_enumeration_cons, List.map_cons, List.map_append, List.map_map] at same
  obtain ⟨here, behind⟩ := List.cons.inj (List.append_cancel_right (List.cons.inj same).2)
  exact .cons (Entry.agrees_of_reading_ofChoice_eq here) (forall₂_of_map_eq_map
    (fun _ _ _ _ same => Entry.agrees_of_reading_ofChoice_eq same) behind)

/-- Records that read the same have the same fields in order. -/
theorem agrees_of_reading_fields_eq {name : String} {note other : Option String}
    {fields others : List (Member TypeExpr)}
    (legible : ∀ field ∈ fields, field.type.isLegible = true)
    (legibleToo : ∀ field ∈ others, field.type.isLegible = true)
    (clear : ∀ name ∈ fields.flatMap Member.names, Text.isClear name = true)
    (clearToo : ∀ name ∈ others.flatMap Member.names, Text.isClear name = true)
    (same : (entries ⟨name, note, .record fields⟩).map Entry.reading =
      (entries ⟨name, other, .record others⟩).map Entry.reading) :
    List.Forall₂ Member.Agrees fields others := by
  simp only [entries_record, List.map_cons, List.map_append, List.map_map] at same
  have members := List.append_cancel_right (List.cons.inj same).2
  refine forall₂_of_map_eq_map (fun field member other memberToo same => ?_) members
  exact Entry.agrees_of_reading_ofField_eq (legible field member) (legibleToo other memberToo)
    (fun name inside => clear name (List.mem_flatMap_of_mem member inside))
    (fun name inside => clearToo name (List.mem_flatMap_of_mem memberToo inside)) same

section Pair

variable {left right : Declaration} (legible : left.isLegible = true)
  (legibleToo : right.isLegible = true) (clear : ∀ name ∈ left.names, Text.isClear name = true)
  (clearToo : ∀ name ∈ right.names, Text.isClear name = true)

include legible legibleToo clear clearToo

/-- Declarations that read the same have the same opening. -/
theorem opening_eq (same : left.entries.map Entry.reading = right.entries.map Entry.reading) :
    left.opening = right.opening := by
  obtain ⟨_, _, parts⟩ := exists_entries_eq_cons legible
  obtain ⟨_, _, partsToo⟩ := exists_entries_eq_cons legibleToo
  rw [parts, partsToo, List.map_cons, List.map_cons] at same
  have code := congrArg Prod.fst (List.cons.inj same).1
  rw [← splitAtChar_opening (clear _ List.mem_cons_self),
    ← splitAtChar_opening (clearToo _ List.mem_cons_self)]
  exact congrArg (Text.splitAtChar ' ') code

/-- Declarations with the same lines agree. -/
theorem agrees_of_lines_eq {width : Nat} (same : left.lines width = right.lines width) :
    left.Agrees right := by
  obtain ⟨noted, readings⟩ := map_reading_entries_eq clear clearToo same
  -- The first line of code says which of the three forms of a declaration it is.
  have opened := opening_eq legible legibleToo clear clearToo readings
  have named : left.name = right.name := by
    rw [← Option.some_inj, ← getElem?_opening, ← getElem?_opening, opened]
  refine ⟨named, ?_, noted⟩
  obtain ⟨name, comment, body⟩ := left
  obtain ⟨nameToo, commentToo, bodyToo⟩ := right
  obtain rfl : name = nameToo := named
  cases body with
  | enumeration constructors =>
      cases bodyToo with
      | enumeration others =>
          refine .enumeration ?_
          cases constructors with
          | nil =>
              cases others with
              | nil => exact .nil
              | cons _ _ => simp [opening] at opened
          | cons _ _ =>
              cases others with
              | nil => simp [opening] at opened
              | cons _ _ => exact agrees_of_reading_constructors_eq readings
      | record fields => cases constructors <;> simp [opening] at opened
      | variant _ | synonym _ | template _ _ => cases legibleToo
  | record fields =>
      cases bodyToo with
      | enumeration constructors => cases constructors <;> simp [opening] at opened
      | record others =>
          rw [isLegible, List.all_eq_true] at legible legibleToo
          exact .record (agrees_of_reading_fields_eq legible legibleToo
            (List.forall_mem_cons.1 clear).2 (List.forall_mem_cons.1 clearToo).2 readings)
      | variant _ | synonym _ | template _ _ => cases legibleToo
  | variant _ | synonym _ | template _ _ => cases legible

end Pair

end Declaration

namespace Import

/-- The words of the line of an import. -/
def tokens : Import → List String
  | .plain moduleName => ["import", moduleName]
  | .qualified moduleName shortName => ["import", "qualified", moduleName, "as", shortName]

/-- An import is written as its words. -/
theorem importLine_eq_intercalate (given : Import) :
    Daml.importLine given = " ".intercalate given.tokens := by
  cases given with
  | plain moduleName =>
      change "import " ++ moduleName = " ".intercalate ["import", moduleName]
      exact String.toList_injective (by simp)
  | qualified moduleName shortName =>
      change "import qualified " ++ moduleName ++ " as " ++ shortName =
        " ".intercalate ["import", "qualified", moduleName, "as", shortName]
      exact String.toList_injective (by simp)

/-- The words of an import are read back. -/
theorem splitAtChar_importLine {given : Import}
    (clear : ∀ name ∈ given.names, Text.isClear name = true) :
    Text.splitAtChar ' ' (Daml.importLine given) = given.tokens := by
  have free : ∀ name ∈ given.names, ' ' ∉ name.toList := fun name member =>
    Text.space_not_mem_of_isClear (clear name member)
  have solid : ∀ token ∈ given.tokens, ' ' ∉ token.toList := by
    cases given with
    | plain moduleName => simpa [tokens, names] using free
    | qualified moduleName shortName => simpa [tokens, names] using free
  have inhabited : given.tokens ≠ [] := by cases given <;> simp [tokens]
  rw [importLine_eq_intercalate, Text.splitAtChar_intercalate rfl inhabited solid]

/-- An import is known by its words. -/
theorem tokens_injective : Function.Injective tokens := by
  intro left right same
  cases left <;> cases right <;> simp_all [tokens]

end Import

namespace Module

section Legible

variable {model : Module} (legible : model.isLegible = true)

include legible

/-- The names in a legible module are clear. -/
theorem isClear_of_isLegible : model.namesAreClear = true := by
  rw [isLegible, Bool.and_eq_true] at legible
  exact legible.1

/-- So are its declarations. -/
theorem isLegible_of_mem_declarations {declaration : Declaration}
    (member : declaration ∈ model.declarations) : declaration.isLegible = true := by
  rw [isLegible, Bool.and_eq_true, List.all_eq_true] at legible
  exact legible.2 declaration member

/-- A legible module can be written. -/
theorem isRenderable_of_isLegible : model.isRenderable = true := by
  rw [isRenderable, List.all_eq_true]
  exact fun declaration member =>
    Declaration.isRenderable_of_isLegible (isLegible_of_mem_declarations legible member)

/-- An import has one line and a declaration more. -/
theorem length_ne_one_of_mem_head? {width : Nat} :
    ∀ block ∈ (model.declarations.map (Declaration.lines width)).head?,
      (block.length == 1) = false := by
  intro block first
  obtain ⟨declaration, member, rfl⟩ := List.mem_map.1 (List.mem_of_mem_head? first)
  obtain ⟨second, rest, parts⟩ :=
    Declaration.exists_entries_eq_cons (isLegible_of_mem_declarations legible member)
  simp [Declaration.lines, parts, Entry.lines]
  omega

end Legible

/-- The name of a module and the words of its comment are read back from its first lines. -/
theorem name_eq_of_headLines_append_eq {left right : Module} (clear : left.namesAreClear = true)
    (clearToo : right.namesAreClear = true) {width : Nat}
    (same : headLines width left.comment ++ Daml.header left.name =
      headLines width right.comment ++ Daml.header right.name) :
    left.name = right.name ∧ commentWords left.comment = commentWords right.comment := by
  have ends {model : Module} (clear : model.namesAreClear = true) :
      ∀ line ∈ (Daml.header model.name).head?, isCommentLine line = false :=
    fun line first => (isCode_of_mem_header clear (List.mem_of_mem_head? first)).apart
  obtain ⟨noted, headers⟩ := Text.append_inj_of_forall
    (fun _ member => (isCommentLine_of_mem_headLines member).1)
    (fun _ member => (isCommentLine_of_mem_headLines member).1) (ends clear) (ends clearToo) same
  constructor
  · exact (String.append_right_inj "module ").1 (List.cons.inj headers).1
  · have words := congrArg readHead noted
    rwa [readHead_headLines, readHead_headLines, Option.some_inj] at words

/-- Modules with the same blocks of lines agree. -/
theorem agrees_of_blocks_eq {left right : Module} (legible : left.isLegible = true)
    (legibleToo : right.isLegible = true) {width : Nat}
    (same : left.blocks width = right.blocks width) : left.Agrees right := by
  have clear := isClear_of_isLegible legible
  have clearToo := isClear_of_isLegible legibleToo
  obtain ⟨heads, behind⟩ := List.cons.inj same
  obtain ⟨names, noted⟩ := name_eq_of_headLines_append_eq clear clearToo heads
  have single (imports : List Import) :
      ∀ block ∈ Daml.importBlocks imports, (block.length == 1) = true := by
    simp [Daml.importBlocks]
  -- The imports end with the blocks of one line.
  obtain ⟨imported, declared⟩ := Text.append_inj_of_forall (single left.imports)
    (single right.imports) (length_ne_one_of_mem_head? legible)
    (length_ne_one_of_mem_head? legibleToo) behind
  refine ⟨names, ?_, ?_, noted⟩
  · rw [← List.forall₂_eq_eq_eq]
    refine forall₂_of_map_eq_map (fun given member other memberToo same => ?_) imported
    refine Import.tokens_injective ?_
    rw [← Import.splitAtChar_importLine (isClear_of_mem_imports clear member),
      ← Import.splitAtChar_importLine (isClear_of_mem_imports clearToo memberToo),
      List.singleton_inj.1 same]
  · refine forall₂_of_map_eq_map (fun declaration member other memberToo same => ?_) declared
    exact Declaration.agrees_of_lines_eq (isLegible_of_mem_declarations legible member)
      (isLegible_of_mem_declarations legibleToo memberToo)
      (isClear_of_mem_declarations clear member) (isClear_of_mem_declarations clearToo memberToo)
      same

end Module

/-- Two legible modules have the same text exactly when they agree. -/
theorem Module.text_eq_iff_agrees {config : Config} (room : config.HasRoom)
    (allowed : config.emptyVariant = .placeholder) {left right : Module}
    (legible : left.isLegible = true) (legibleToo : right.isLegible = true) :
    ∃ text other, (Daml.render config left).result = .ok text ∧
      (Daml.render config right).result = .ok other ∧ (text = other ↔ left.Agrees right) := by
  obtain ⟨width, fits, positive⟩ := room
  refine ⟨_, _,
    Daml.result_render_of_room fits positive allowed (isRenderable_of_isLegible legible),
    Daml.result_render_of_room fits positive allowed (isRenderable_of_isLegible legibleToo), ?_, ?_⟩
  · intro same
    have clear := isClear_of_isLegible legible
    have clearToo := isClear_of_isLegible legibleToo
    have lines := congrArg (Text.splitAtChar '\n') same
    rw [splitAtChar_linesText_blocks clear, splitAtChar_linesText_blocks clearToo,
      List.append_cancel_right_eq] at lines
    refine agrees_of_blocks_eq legible legibleToo (joinBlocks_injective ?_ ?_ ?_ ?_ lines)
    · simp [blocks]
    · simp [blocks]
    · exact fun block known empty => (isFull_of_mem_blocks (newline_not_mem_of_mem_names clear)
        known empty).ne_empty rfl
    · exact fun block known empty => (isFull_of_mem_blocks (newline_not_mem_of_mem_names clearToo)
        known empty).ne_empty rfl
  · intro agrees
    rw [agrees.blocks_eq]

/-- A module of an enumeration and a record. -/
def Module.noted : Module where
  name := "Desk.Trades"
  imports := [.plain "DA.Time"]
  declarations := [
    ⟨"Side", some "Who pays.", .enumeration [⟨"Buy", some "we pay", none⟩, ⟨"Sell", none, none⟩]⟩,
    ⟨"Trade", none, .record [⟨"sides", .nominal "Side", ⟨.zero, .toMany⟩, none, none⟩,
      ⟨"price", .primitive .decimal, ⟨.zero, .toOne⟩, none, none⟩]⟩]
  comment := none

/-- The same module up to blanks in its comments, empty comments, a lower bound and origins. -/
def Module.renoted : Module where
  name := "Desk.Trades"
  imports := [.plain "DA.Time"]
  declarations := [
    ⟨"Side", some " Who\npays. ", .enumeration [⟨"Buy", some "we\tpay", some "buy"⟩,
      ⟨"Sell", some "", none⟩]⟩,
    ⟨"Trade", none, .record [⟨"sides", .nominal "Side", ⟨.one, .toMany⟩, none, none⟩,
      ⟨"price", .primitive .decimal, ⟨.zero, .toOne⟩, none, some ⟨"cost", none⟩⟩]⟩]
  comment := some ""

theorem Module.text_eq_iff_agrees_noted :
    ∃ text, (Daml.render .standard noted).result = .ok text ∧
      (Daml.render .standard renoted).result = .ok text := by
  obtain ⟨text, other, given, givenToo, same⟩ :=
    text_eq_iff_agrees Config.hasRoom_standard rfl (by decide : noted.isLegible = true)
      (by decide : renoted.isLegible = true)
  have side : Declaration.Agrees (noted.declarations[0]) (renoted.declarations[0]) :=
    ⟨rfl, .enumeration (.cons ⟨rfl, by decide⟩ (.cons ⟨rfl, by decide⟩ .nil)), by decide⟩
  have trade : Declaration.Agrees (noted.declarations[1]) (renoted.declarations[1]) :=
    ⟨rfl, .record (.cons ⟨rfl, rfl, .inr ⟨rfl, rfl⟩, rfl⟩ (.cons ⟨rfl, rfl, .inl rfl, rfl⟩ .nil)),
      rfl⟩
  obtain rfl := same.2 ⟨rfl, rfl, .cons side (.cons trade .nil), by decide⟩
  exact ⟨text, given, givenToo⟩

end RosettaDaml
