/-
This file shows that comments stand on lines of their own and that all of their words are written.
-/

import RosettaDaml.Proofs.Daml.ClearNames

namespace RosettaDaml

/-! Modules without their comments. -/

def Constructor.withoutComment (constructor : Constructor) : Constructor :=
  { constructor with comment := none }

mutual

def TypeExpr.withoutComments : TypeExpr → TypeExpr
  | .primitive kind => .primitive kind
  | .nominal name => .nominal name
  | .product members => .product (TypeExpr.membersWithoutComments members)
  | .enumeration constructors => .enumeration (constructors.map Constructor.withoutComment)
  | .sum alternatives => .sum (TypeExpr.membersWithoutComments alternatives)
  | .unknown given => .unknown given

def TypeExpr.membersWithoutComments : List (Member TypeExpr) → List (Member TypeExpr)
  | [] => []
  | ⟨name, type, multiplicity, _, origin⟩ :: rest =>
      ⟨name, type.withoutComments, multiplicity, none, origin⟩ ::
        TypeExpr.membersWithoutComments rest

end

def Member.withoutComments (member : Member TypeExpr) : Member TypeExpr :=
  { member with type := member.type.withoutComments, comment := none }

def Body.withoutComments : Body → Body
  | .enumeration constructors => .enumeration (constructors.map Constructor.withoutComment)
  | .record fields => .record (fields.map Member.withoutComments)
  | .variant alternatives => .variant (alternatives.map Member.withoutComments)
  | .synonym type => .synonym type.withoutComments
  | .template fields signatory => .template (fields.map Member.withoutComments) signatory

def Declaration.withoutComments (declaration : Declaration) : Declaration :=
  { declaration with body := declaration.body.withoutComments, comment := none }

def Module.withoutComments (model : Module) : Module :=
  { model with declarations := model.declarations.map Declaration.withoutComments, comment := none }

/-! The comments of declarations and of what they directly consist of. -/

def Body.notes : Body → List (Option String)
  | .enumeration constructors => constructors.map Constructor.comment
  | .record fields => fields.map Member.comment
  | .variant alternatives => alternatives.map Member.comment
  | .synonym _ => []
  | .template fields _ => fields.map Member.comment

def Declaration.notes (declaration : Declaration) : List (Option String) :=
  declaration.comment :: declaration.body.notes

def Module.notes (model : Module) : List (Option String) :=
  model.declarations.flatMap Declaration.notes

namespace Daml

/-- A text without its comment lines. -/
def deleteComments (text : String) : String :=
  "\n".intercalate ((Text.splitAtChar '\n' text).filter (!isCommentLine ·))

/-- The words of the comment at the head of a text and those of each comment further on. -/
def readComments? (text : String) : Option (List (List String)) := do
  let lines := Text.splitAtChar '\n' text
  let head ← readHead (lines.takeWhile isCommentLine)
  let (stray, comments) ← readMarked ((lines.dropWhile isCommentLine).filter isCommentLine)
  if stray.isEmpty then return head :: comments
  else none

end Daml

namespace TypeExpr

mutual

/-- Whether a type can be written does not depend on comments. -/
theorem isRenderable_withoutComments (type : TypeExpr) :
    type.withoutComments.isRenderable = type.isRenderable := by
  cases type with
  | product members => exact membersAreRenderable_membersWithoutComments members
  | primitive _ | nominal _ | enumeration _ | sum _ | unknown _ => rfl

/-- The same for the types of members. -/
theorem membersAreRenderable_membersWithoutComments (members : List (Member TypeExpr)) :
    membersAreRenderable (membersWithoutComments members) = membersAreRenderable members := by
  cases members with
  | nil => rfl
  | cons member rest =>
      exact congrArg₂ (· && ·) (isRenderable_withoutComments member.type)
        (membersAreRenderable_membersWithoutComments rest)

end

mutual

/-- Comments within a type are not written. -/
theorem text_withoutComments {type : TypeExpr} {written : String}
    (given : type.text = .ok written) : type.withoutComments.text = .ok written := by
  cases type with
  | primitive kind => exact given
  | nominal name => exact given
  | product members =>
      obtain ⟨texts, parts, rfl⟩ := text_product_eq_ok_iff.1 given
      exact text_product_eq_ok_iff.2 ⟨texts, memberTexts_membersWithoutComments parts, rfl⟩
  | enumeration _ => cases given
  | sum _ => cases given
  | unknown _ => cases given

/-- Members have the same texts without their comments. -/
theorem memberTexts_membersWithoutComments {members : List (Member TypeExpr)} {texts : List String}
    (given : memberTexts members = .ok texts) :
    memberTexts (membersWithoutComments members) = .ok texts := by
  cases members with
  | nil => exact given
  | cons member rest =>
      obtain ⟨first, others, here, behind, rfl⟩ := memberTexts_cons_eq_ok_iff.1 given
      exact memberTexts_cons_eq_ok_iff.2 ⟨first, others, text_withoutComments here,
        memberTexts_membersWithoutComments behind, rfl⟩

end

/-- A type is written the same without comments. -/
theorem written_withoutComments {type : TypeExpr} (renderable : type.isRenderable = true)
    (multiplicity : Multiplicity) (position : TypePosition) :
    type.withoutComments.written multiplicity position = type.written multiplicity position := by
  obtain ⟨text, given⟩ := exists_text renderable
  rw [written, written, shapedText, shapedText, given, text_withoutComments given]

end TypeExpr

namespace Entry

def withoutNote (entry : Entry) : Entry := { entry with note := none }

/-- The entry of a field loses its note only. -/
theorem ofField_withoutComments {member : Member TypeExpr}
    (renderable : member.type.isRenderable = true) :
    ofField member.withoutComments = (ofField member).withoutNote := by
  simp [ofField, withoutNote, Member.withoutComments, TypeExpr.written_withoutComments renderable]

/-- So do those of choices. -/
theorem ofChoices_map (choices : List (String × Option String)) :
    ofChoices (choices.map fun choice => (choice.1, none)) =
      (ofChoices choices).map withoutNote := by
  cases choices with
  | nil => rfl
  | cons first rest => simp [ofChoices, ofChoice, withoutNote]

/-- The notes of choices are those of their entries. -/
theorem map_note_ofChoices (choices : List (String × Option String)) :
    (ofChoices choices).map note = choices.map Prod.snd := by
  cases choices with
  | nil => rfl
  | cons first rest => simp [ofChoices, ofChoice]

/-- The comment lines of an entry are those of its note, and the others those of its code. -/
theorem filter_lines {entry : Entry} (code : IsCode entry.code) (width : Nat) :
    (entry.lines width).filter isCommentLine =
        nest entry.column (noteLines width .after entry.note) ∧
      (entry.lines width).filter (!isCommentLine ·) = entry.withoutNote.lines width := by
  have comments : ∀ line ∈ nest entry.column (noteLines width .after entry.note),
      isCommentLine line = true := fun line member => (isCommentLine_of_mem member).1
  rw [lines, List.filter_cons_of_neg (by simp [code.apart]), List.filter_eq_self.2 comments,
    List.filter_cons_of_pos (by simp [code.apart]),
    List.filter_eq_nil_iff.2 (by simpa using comments)]
  exact ⟨rfl, rfl⟩

/-- The comment lines among lines of code are read as the comments of the code. -/
theorem readMarked_flatMap {entries : List Entry} (codes : ∀ entry ∈ entries, IsCode entry.code)
    (width : Nat) {rest : Lines} {comments : List (List String)}
    (read : readMarked rest = some ([], comments)) :
    readMarked ((entries.flatMap (lines width)).filter isCommentLine ++ rest) =
      some ([], noteWords (entries.map note) ++ comments) := by
  induction entries with
  | nil => exact read
  | cons entry others inductionHypothesis =>
      obtain ⟨here, behind⟩ := List.forall_mem_cons.1 codes
      rw [List.flatMap_cons, List.filter_append, (filter_lines here width).1, List.append_assoc,
        readMarked_append _ _ _ _ (inductionHypothesis behind), List.map_cons,
        noteWords_cons entry.note (others.map note), List.append_assoc]

end Entry

namespace Declaration

/-- The entries of a type with choices lose their notes only. -/
theorem choiceEntries_map (name : String) (choices : List (String × Option String)) :
    choiceEntries name (choices.map fun choice => (choice.1, none)) =
      (choiceEntries name choices).map Entry.withoutNote := by
  rw [choiceEntries, Entry.ofChoices_map, choiceEntries, List.map_cons, List.map_append]
  rfl

/-- So do those of the fields of a record. -/
theorem map_ofField_withoutComments (fields : List (Member TypeExpr))
    (renderable : ∀ field ∈ fields, field.type.isRenderable = true) :
    (fields.map Member.withoutComments).map Entry.ofField =
      (fields.map Entry.ofField).map Entry.withoutNote := by
  rw [List.map_map, List.map_map]
  exact List.map_congr_left fun field inside =>
    Entry.ofField_withoutComments (renderable field inside)

/-- Without comments, a declaration has the same lines of code. -/
theorem entries_withoutComments {declaration : Declaration}
    (renderable : declaration.isRenderable = true) :
    declaration.withoutComments.entries = declaration.entries.map Entry.withoutNote := by
  obtain ⟨name, note, body⟩ := declaration
  rw [isRenderable, Bool.and_eq_true, List.all_eq_true] at renderable
  obtain ⟨members, aliased⟩ := renderable
  cases body with
  | enumeration constructors =>
      cases constructors with
      | nil => rfl
      | cons first rest =>
          refine Eq.trans ?_
            (choiceEntries_map name ((first :: rest).map (Constructor.choice name)))
          rw [List.map_map]
          change choiceEntries name (((first :: rest).map Constructor.withoutComment).map _) = _
          rw [List.map_map]
          rfl
  | record fields =>
      change _ :: ((fields.map Member.withoutComments).map Entry.ofField ++ _) = _
      rw [map_ofField_withoutComments fields members, entries, List.map_cons, List.map_append]
      rfl
  | variant alternatives =>
      cases alternatives with
      | nil => rfl
      | cons first rest =>
          refine Eq.trans ?_ (choiceEntries_map name ((first :: rest).map (Member.choice name)))
          change choiceEntries name (((first :: rest).map Member.withoutComments).map _) = _
          rw [List.map_map, List.map_map]
          refine congrArg _ (List.map_congr_left fun member inside => ?_)
          have typed := TypeExpr.written_withoutComments (members member inside) member.multiplicity
            .argument
          simp [Declaration.withoutComments, Member.choice, Member.withoutComments, typed]
  | synonym type =>
      have typed := TypeExpr.written_withoutComments aliased .exactlyOne .alone
      change [Entry.plain ("type " ++ name ++ " = " ++ _)] = _
      rw [typed]
      rfl
  | template fields signatory =>
      change _ :: ((fields.map Member.withoutComments).map Entry.ofField ++ _) = _
      rw [map_ofField_withoutComments fields members, entries, List.map_cons, List.map_append]
      rfl

/-- The comments behind the lines of code are those of what the declaration consists of. -/
theorem noteWords_entries (declaration : Declaration) :
    noteWords (declaration.entries.map Entry.note) = noteWords declaration.body.notes := by
  obtain ⟨name, note, body⟩ := declaration
  have between (notes : List (Option String)) {last : List (Option String)}
      (silent : noteWords last = []) : noteWords (none :: (notes ++ last)) = noteWords notes := by
    rw [noteWords_cons, noteWords_append, silent, List.append_nil]
    rfl
  have chosen (choices : List (String × Option String)) :
      noteWords ((choiceEntries name choices).map Entry.note) =
        noteWords (choices.map Prod.snd) := by
    rw [choiceEntries, List.map_cons, List.map_append, Entry.map_note_ofChoices]
    exact between _ rfl
  have fielded (fields : List (Member TypeExpr)) :
      (fields.map Entry.ofField).map Entry.note = fields.map Member.comment := List.map_map
  cases body with
  | enumeration constructors =>
      cases constructors with
      | nil => rfl
      | cons first rest => exact (chosen _).trans (by rw [List.map_map]; rfl)
  | record fields =>
      rw [entries, List.map_cons, List.map_append, fielded]
      exact between _ rfl
  | variant alternatives =>
      cases alternatives with
      | nil => rfl
      | cons first rest => exact (chosen _).trans (by rw [List.map_map]; rfl)
  | synonym type => rfl
  | template fields signatory =>
      rw [entries, List.map_cons, List.map_append, fielded]
      exact between _ rfl

/-- Whether a declaration can be written does not depend on comments. -/
theorem isRenderable_withoutComments (declaration : Declaration) :
    declaration.withoutComments.isRenderable = declaration.isRenderable := by
  obtain ⟨name, note, body⟩ := declaration
  have each (members : List (Member TypeExpr)) :
      (members.map Member.withoutComments).all (fun member => member.type.isRenderable) =
        members.all fun member => member.type.isRenderable := by
    rw [List.all_map]
    exact congrArg members.all (funext fun member => member.type.isRenderable_withoutComments)
  rw [isRenderable, isRenderable]
  cases body with
  | enumeration constructors => rfl
  | record fields => exact congrArg (· && true) (each fields)
  | variant alternatives => exact congrArg (· && true) (each alternatives)
  | synonym type => exact type.isRenderable_withoutComments
  | template fields signatory => exact congrArg (· && true) (each fields)

/-- A declaration without its comment lines is the declaration without its comments. -/
theorem filter_lines {declaration : Declaration} (renderable : declaration.isRenderable = true)
    (clear : ∀ name ∈ declaration.names, Text.isClear name = true) (width : Nat) :
    (declaration.lines width).filter (!isCommentLine ·) =
      declaration.withoutComments.lines width := by
  have comments : ∀ line ∈ noteLines width .before declaration.comment, isCommentLine line = true :=
    fun line member => (isCommentLine_of_mem_noteLines member).1
  rw [lines, List.filter_append, List.filter_eq_nil_iff.2 (by simpa using comments),
    List.filter_flatMap, lines, entries_withoutComments renderable, List.flatMap_map]
  exact List.flatMap_congr fun entry member =>
    (Entry.filter_lines (isCode_of_mem_entries clear member) width).2

/-- The comment lines of a declaration are read as its comments. -/
theorem readMarked_filter_lines {declaration : Declaration}
    (clear : ∀ name ∈ declaration.names, Text.isClear name = true) (width : Nat) {rest : Lines}
    {comments : List (List String)} (read : readMarked rest = some ([], comments)) :
    readMarked ((declaration.lines width).filter isCommentLine ++ rest) =
      some ([], noteWords declaration.notes ++ comments) := by
  have noted : ∀ line ∈ noteLines width .before declaration.comment, isCommentLine line = true :=
    fun line member => (isCommentLine_of_mem_noteLines member).1
  have codes := Entry.readMarked_flatMap (fun entry => isCode_of_mem_entries clear) width read
  rw [lines, List.filter_append, List.filter_eq_self.2 noted, List.append_assoc,
    ← nest_zero (noteLines _ _ _), readMarked_append _ _ _ _ codes, noteWords_entries, notes,
    noteWords_cons declaration.comment declaration.body.notes, List.append_assoc]

/-- The words of the notes are read back one declaration after the other. -/
theorem readMarked_flatMap {declarations : List Declaration}
    (clear : ∀ declaration ∈ declarations, ∀ name ∈ declaration.names, Text.isClear name = true)
    (width : Nat) :
    readMarked ((declarations.map (lines width)).flatMap (List.filter isCommentLine)) =
      some ([], noteWords (declarations.flatMap notes)) := by
  induction declarations with
  | nil => rfl
  | cons first rest inductionHypothesis =>
      obtain ⟨here, behind⟩ := List.forall_mem_cons.1 clear
      rw [List.map_cons, List.flatMap_cons, List.flatMap_cons, noteWords_append]
      exact readMarked_filter_lines here width (inductionHypothesis behind)

end Declaration

namespace Module

/-- Nor does whether a module can be. -/
theorem isRenderable_withoutComments (model : Module) :
    model.withoutComments.isRenderable = model.isRenderable := by
  rw [isRenderable, isRenderable, withoutComments, List.all_map]
  exact congrArg model.declarations.all (funext Declaration.isRenderable_withoutComments)

section Clear

variable {model : Module} (clear : model.namesAreClear = true)

include clear

/-- Without its comment lines, each block is the block of the module without its comments. -/
theorem filter_blocks (renderable : model.isRenderable = true) (width : Nat) :
    (model.blocks width).map (List.filter (!isCommentLine ·)) =
      model.withoutComments.blocks width := by
  have comments : ∀ line ∈ headLines width model.comment, isCommentLine line = true :=
    fun line member => (isCommentLine_of_mem_headLines member).1
  have header : ∀ line ∈ Daml.header model.name, isCommentLine line = false :=
    fun line member => (isCode_of_mem_header clear member).apart
  rw [isRenderable, List.all_eq_true] at renderable
  rw [blocks, List.map_append, List.map_cons, List.filter_append,
    List.filter_eq_nil_iff.2 (by simpa using comments),
    List.filter_eq_self.2 (by simpa using header), Daml.importBlocks, List.map_map, List.map_map]
  refine congrArg₂ (· ++ ·) (congrArg _ (List.map_congr_left fun given member => ?_)) ?_
  · simp [(isCode_importLine clear member).apart]
  · change _ = (model.declarations.map Declaration.withoutComments).map _
    rw [List.map_map]
    exact List.map_congr_left fun declaration member => Declaration.filter_lines
      (renderable declaration member) (isClear_of_mem_declarations clear member) width

/-- No comment line stands in the header of a module or in its imports. -/
theorem flatMap_filter_blocks (width : Nat) :
    (([s!"  ( module {model.name} ) where"] :: Daml.importBlocks model.imports) ++
        model.declarations.map (Declaration.lines width)).flatMap (List.filter isCommentLine) =
      (model.declarations.map (Declaration.lines width)).flatMap (List.filter isCommentLine) := by
  rw [List.flatMap_append, List.flatMap_eq_nil_iff.2, List.nil_append]
  intro block member
  rw [List.filter_eq_nil_iff]
  intro line inside
  rw [Bool.not_eq_true]
  rcases List.mem_cons.1 member with rfl | imported
  · exact (isCode_of_mem_header clear (List.mem_cons_of_mem _ inside)).apart
  · obtain ⟨given, known, rfl⟩ := List.mem_map.1 imported
    obtain rfl := List.mem_singleton.1 inside
    exact (isCode_importLine clear known).apart

/-- All comments are read back from the text of a module. -/
theorem readComments?_linesText_blocks (width : Nat) :
    Daml.readComments? (Daml.linesText (joinBlocks (model.blocks width))) =
      some (commentWords model.comment :: noteWords model.notes) := by
  have comments : ∀ line ∈ headLines width model.comment, isCommentLine line = true :=
    fun line member => (isCommentLine_of_mem_headLines member).1
  -- The line with the name of the module ends the comment at the head.
  have named : isCommentLine ("module " ++ model.name) = false :=
    (isCode_of_mem_header clear List.mem_cons_self).apart
  have declared := Declaration.readMarked_flatMap
    (fun _ member => isClear_of_mem_declarations clear member) width
  rw [Daml.readComments?, splitAtChar_linesText_blocks clear, joinBlocks_blocks, List.append_assoc,
    List.takeWhile_append_of_pos comments, List.dropWhile_append_of_pos comments, List.cons_append,
    List.takeWhile_cons_of_neg (by simp [named]), List.dropWhile_cons_of_neg (by simp [named]),
    List.filter_cons_of_neg (by simp [named]), List.filter_append,
    filter_joinBlocks_of_empty (by decide), flatMap_filter_blocks clear, List.append_nil,
    readHead_headLines]
  have empty : [""].filter isCommentLine = [] := by decide
  simp only [empty, List.append_nil, declared]
  rfl

end Clear

end Module

/-- Comments stand on lines of their own: without these lines, the text of a module is the text of
the module without its comments, and these lines hold the words of all of its comments in order. -/
theorem Module.comments_of_render {config : Config} (room : config.HasRoom)
    (allowed : config.emptyVariant = .placeholder) {model : Module}
    (renderable : model.isRenderable = true) (clear : model.namesAreClear = true) :
    ∃ text, (Daml.render config model).result = .ok text ∧
      (Daml.render config model.withoutComments).result = .ok (Daml.deleteComments text) ∧
      Daml.readComments? text = some (commentWords model.comment :: noteWords model.notes) := by
  obtain ⟨width, fits, positive⟩ := room
  refine ⟨_, Daml.result_render_of_room fits positive allowed renderable, ?_, ?_⟩
  · have bare := (isRenderable_withoutComments model).trans renderable
    rw [Daml.result_render_of_room fits positive allowed bare, Daml.deleteComments,
      splitAtChar_linesText_blocks clear, List.filter_append, filter_joinBlocks (by decide),
      filter_blocks clear renderable]
    refine congrArg _ (intercalate_append_empty ?_).symm
    simp [joinBlocks_blocks]
  · exact readComments?_linesText_blocks clear _

/-- A module with a declaration of each kind, some of them with comments. -/
def Module.annotated : Module where
  name := "Desk.Trades"
  imports := [.qualified "DA.Time" "Time"]
  declarations := [
    ⟨"Side", some "Who pays.\n-- data Side",
      .enumeration [⟨"Buy", some "\u2028we pay", none⟩, ⟨"Sell", none, none⟩]⟩,
    ⟨"Trade", none,
      .record [⟨"side", .nominal "Side", .exactlyOne, some " first\n\nsecond ", none⟩]⟩,
    ⟨"Price", none, .variant [⟨"Flat", .primitive .decimal, .exactlyOne, some "per unit", none⟩]⟩,
    ⟨"Book", none,
      .synonym (.product [⟨"left", .nominal "Trade", .exactlyOne, some "lost", none⟩])⟩,
    ⟨"Offer", some "", .template [⟨"owner", .primitive .party, .exactlyOne, none, none⟩] "owner"⟩]
  comment := some "Trades\n  module"

theorem Module.comments_of_render_annotated :
    ∃ text, (Daml.render .standard annotated).result = .ok text ∧
      (Daml.render .standard annotated.withoutComments).result = .ok (Daml.deleteComments text) ∧
      Daml.readComments? text = some [["Trades", "module"], ["Who", "pays.", "--", "data", "Side"],
        ["we", "pay"], ["first", "second"], ["per", "unit"]] := by
  have words : commentWords annotated.comment :: noteWords annotated.notes =
      [["Trades", "module"], ["Who", "pays.", "--", "data", "Side"], ["we", "pay"],
        ["first", "second"], ["per", "unit"]] := by decide
  rw [← words]
  exact comments_of_render Config.hasRoom_standard rfl (by decide) (by decide)

end RosettaDaml
