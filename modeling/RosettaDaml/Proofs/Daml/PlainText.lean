/-
This file shows that a module whose names and comments hold characters only is written in characters.
-/

import RosettaDaml.Proofs.Daml.ClearNames
import RosettaDaml.Proofs.Daml.Comments
import RosettaDaml.Proofs.Text.Plain

namespace RosettaDaml

open Text (IsPlain)

/-- A comment of characters, or none. -/
def IsPlainNote (note : Option String) : Prop := ∀ text, note = some text → IsPlain text

/-! Comments. -/

/-- Blanks are characters. -/
theorem isPlain_blanks (amount : Nat) : IsPlain (blanks amount) := by
  refine .of_free ?_
  rw [blanks, String.toList_ofList, List.mem_replicate]
  exact fun same => absurd same.2 (by decide)

/-- Lines that are moved to the right keep their characters. -/
theorem isPlain_of_mem_nest {lines : Lines} (plain : ∀ line ∈ lines, IsPlain line) (amount : Nat) :
    ∀ line ∈ nest amount lines, IsPlain line := by
  refine List.forall_mem_map.2 fun line member => ?_
  split
  · exact plain line member
  · exact (isPlain_blanks amount).append (plain line member)

/-- The lines of a note are made of its words. -/
theorem isPlain_of_mem_wordLines {note : Option String} (plain : IsPlainNote note) (width : Nat) :
    ∀ line ∈ wordLines width (commentWords note), IsPlain line := by
  refine List.forall_mem_map.2 fun piece member => ?_
  refine .intercalate (.of_free (by decide)) fun word inside => ?_
  have known := mem_commentWords_of_mem_wrapWords member inside
  cases note with
  | none => simp [commentWords] at known
  | some text => exact (plain text rfl).words word known

/-- The marks of a comment are characters, wherever it stands. -/
theorem isPlain_of_mem_noteLines {note : Option String} (plain : IsPlainNote note) (width : Nat)
    (position : CommentPosition) : ∀ line ∈ noteLines width position note, IsPlain line := by
  have lines := isPlain_of_mem_wordLines plain width
  have marked : IsPlain ("-- " ++ position.mark ++ " ") := by
    cases position <;> exact .of_free (by decide)
  rw [noteLines]
  cases words : wordLines width (commentWords note) with
  | nil => simp [markLines]
  | cons first rest =>
      rw [words] at lines
      obtain ⟨here, behind⟩ := List.forall_mem_cons.1 lines
      refine List.forall_mem_cons.2 ⟨marked.append here, List.forall_mem_map.2 fun line member => ?_⟩
      exact .append (.of_free (by decide)) (behind line member)

/-- So are those of a comment above a declaration. -/
theorem isPlain_of_mem_headLines {note : Option String} (plain : IsPlainNote note) (width : Nat) :
    ∀ line ∈ headLines width note, IsPlain line :=
  List.forall_mem_map.2 fun line member =>
    .append (.of_free (by decide)) (isPlain_of_mem_wordLines plain width line member)

/-! Types. -/

/-- What a multiplicity puts around a type is made of characters. -/
theorem Multiplicity.isPlain_shape (multiplicity : Multiplicity) (position : TypePosition)
    {text : String} (plain : IsPlain text) : IsPlain (multiplicity.shape position text) := by
  have between {front back text : String} (plain : IsPlain text)
      (free : Text.halfMark ∉ front.toList) (freeToo : Text.halfMark ∉ back.toList) :
      IsPlain (front ++ text ++ back) :=
    ((IsPlain.of_free free).append plain).append (.of_free freeToo)
  have wrapped {text : String} (plain : IsPlain text) : IsPlain (position.wrap text) := by
    cases position with
    | alone => exact plain
    | argument => exact between plain (by decide) (by decide)
  rw [shape]
  split
  · exact between plain (by decide) (by decide)
  · split
    · exact wrapped (.append (.of_free (by decide)) (wrapped plain))
    · exact plain

namespace TypeExpr

mutual

/-- A type is written with the names in it, by induction on the type and on its members at once. -/
theorem isPlain_text {type : TypeExpr} {written : String}
    (plain : ∀ name ∈ type.nominalNames, IsPlain name) (given : type.text = .ok written) :
    IsPlain written := by
  cases type with
  | primitive kind =>
      obtain rfl := Except.ok.inj given
      cases kind <;> exact .of_free (by decide)
  | nominal name =>
      obtain rfl := Except.ok.inj given
      exact plain name List.mem_cons_self
  | product members =>
      obtain ⟨texts, parts, rfl⟩ := text_product_eq_ok_iff.1 given
      have joined : IsPlain (", ".intercalate texts) :=
        .intercalate (.of_free (by decide)) (isPlain_of_mem_memberTexts plain parts)
      exact ((IsPlain.of_free (by decide)).append joined).append (.of_free (by decide))
  | enumeration _ => cases given
  | sum _ => cases given
  | unknown _ => cases given

/-- The same for the types of some members. -/
theorem isPlain_of_mem_memberTexts {members : List (Member TypeExpr)} {texts : List String}
    (plain : ∀ name ∈ membersNominalNames members, IsPlain name)
    (given : memberTexts members = .ok texts) : ∀ text ∈ texts, IsPlain text := by
  cases members with
  | nil =>
      obtain rfl := Except.ok.inj given
      simp
  | cons member rest =>
      obtain ⟨first, others, here, behind, rfl⟩ := memberTexts_cons_eq_ok_iff.1 given
      obtain ⟨plainHere, plainBehind⟩ := List.forall_mem_append.1 plain
      have written := isPlain_text plainHere here
      exact List.forall_mem_cons.2 ⟨member.multiplicity.isPlain_shape .alone written,
        isPlain_of_mem_memberTexts plainBehind behind⟩

end

/-- A type that has no text is written as nothing. -/
theorem isPlain_written {type : TypeExpr} (plain : ∀ name ∈ type.nominalNames, IsPlain name)
    (multiplicity : Multiplicity) (position : TypePosition) :
    IsPlain (type.written multiplicity position) := by
  rw [written, shapedText]
  cases given : type.text with
  | error fault => exact .of_free (by simp [Except.map])
  | ok text => exact multiplicity.isPlain_shape position (isPlain_text plain given)

end TypeExpr

/-! Declarations. -/

/-- An entry of characters. -/
structure Entry.HoldsCharacters (entry : Entry) : Prop where
  code : IsPlain entry.code
  note : IsPlainNote entry.note

namespace Entry

/-- The lines of an entry hold its code and its comment. -/
theorem HoldsCharacters.lines {entry : Entry} (plain : entry.HoldsCharacters) (width : Nat) :
    ∀ line ∈ entry.lines width, IsPlain line :=
  List.forall_mem_cons.2 ⟨plain.code,
    isPlain_of_mem_nest (isPlain_of_mem_noteLines plain.note width .after) entry.column⟩

/-- An entry without a comment holds its code only. -/
theorem holdsCharacters_plain {code : String} (plain : IsPlain code) :
    (Entry.plain code).HoldsCharacters :=
  ⟨plain, fun _ given => absurd given (by simp [Entry.plain])⟩

/-- The entry of a field holds its name and its type. -/
theorem holdsCharacters_ofField {member : Member TypeExpr}
    (names : ∀ name ∈ member.names, IsPlain name) (note : IsPlainNote member.comment) :
    (ofField member).HoldsCharacters := by
  obtain ⟨own, type⟩ := List.forall_mem_cons.1 names
  refine ⟨(isPlain_blanks 4).append ((own.append (.of_free (by decide))).append ?_), note⟩
  exact TypeExpr.isPlain_written type member.multiplicity .alone

/-- The entry of a choice holds its name, behind a bar from the second one on. -/
theorem holdsCharacters_of_mem_ofChoices {choices : List (String × Option String)}
    (plain : ∀ choice ∈ choices, IsPlain choice.1 ∧ IsPlainNote choice.2) :
    ∀ entry ∈ ofChoices choices, entry.HoldsCharacters := by
  have each {lead : String} (free : IsPlain lead) {choice : String × Option String}
      (known : IsPlain choice.1 ∧ IsPlainNote choice.2) : (ofChoice lead choice).HoldsCharacters :=
    ⟨(isPlain_blanks 4).append ((free.append (.of_free (by decide))).append known.1), known.2⟩
  cases choices with
  | nil => simp [ofChoices]
  | cons first rest =>
      obtain ⟨here, behind⟩ := List.forall_mem_cons.1 plain
      refine List.forall_mem_cons.2 ⟨each (.of_free (by decide)) here, ?_⟩
      exact List.forall_mem_map.2 fun choice member =>
        each (.of_free (by decide)) (behind choice member)

end Entry

namespace Declaration

/-- The entries of a type with choices hold its name besides. -/
theorem holdsCharacters_of_mem_choiceEntries {name : String} (plain : IsPlain name)
    {choices : List (String × Option String)}
    (each : ∀ choice ∈ choices, IsPlain choice.1 ∧ IsPlainNote choice.2) :
    ∀ entry ∈ choiceEntries name choices, entry.HoldsCharacters := by
  refine List.forall_mem_cons.2 ⟨?_, List.forall_mem_append.2 ⟨?_, ?_⟩⟩
  · exact Entry.holdsCharacters_plain (.append (.of_free (by decide)) plain)
  · exact Entry.holdsCharacters_of_mem_ofChoices each
  · exact List.forall_mem_singleton.2 (Entry.holdsCharacters_plain (.of_free (by decide)))

/-- The placeholder of an empty type is made of its name. -/
theorem holdsCharacters_of_mem_placeholderEntries {name : String} (plain : IsPlain name) :
    ∀ entry ∈ placeholderEntries name, entry.HoldsCharacters := by
  refine List.forall_mem_cons.2 ⟨Entry.holdsCharacters_plain ?_,
    List.forall_mem_singleton.2 (Entry.holdsCharacters_plain (.of_free (by decide)))⟩
  exact ((((IsPlain.of_free (by decide)).append plain).append (.of_free (by decide))).append
    plain).append (.of_free (by decide))

/-- The entries of a declaration hold its names and its notes, whatever its shape is. -/
theorem holdsCharacters_of_mem_entries {declaration : Declaration}
    (names : ∀ name ∈ declaration.names, IsPlain name)
    (notes : ∀ note ∈ declaration.body.notes, IsPlainNote note) :
    ∀ entry ∈ declaration.entries, entry.HoldsCharacters := by
  obtain ⟨name, note, body⟩ := declaration
  obtain ⟨own, inner⟩ := List.forall_mem_cons.1 names
  have fields {members : List (Member TypeExpr)}
      (inner : ∀ name ∈ members.flatMap Member.names, IsPlain name)
      (notes : ∀ note ∈ members.map Member.comment, IsPlainNote note) :
      ∀ entry ∈ members.map Entry.ofField, entry.HoldsCharacters :=
    List.forall_mem_map.2 fun member known => Entry.holdsCharacters_ofField
      (fun name here => inner name (List.mem_flatMap_of_mem known here))
      (notes _ (List.mem_map_of_mem known))
  cases body with
  | enumeration constructors =>
      cases constructors with
      | nil => exact holdsCharacters_of_mem_placeholderEntries own
      | cons first rest =>
          refine holdsCharacters_of_mem_choiceEntries own (List.forall_mem_map.2 fun given known => ?_)
          have named := inner _ (List.mem_map_of_mem known)
          refine ⟨?_, notes _ (List.mem_map_of_mem known)⟩
          exact ((own.append (.of_free (by decide))).append named).append (.of_free (by decide))
  | record members =>
      refine List.forall_mem_cons.2 ⟨Entry.holdsCharacters_plain ?_, List.forall_mem_append.2
        ⟨fields inner notes, List.forall_mem_singleton.2 (Entry.holdsCharacters_plain ?_)⟩⟩
      · exact ((((IsPlain.of_free (by decide)).append own).append (.of_free (by decide))).append
          own).append (.of_free (by decide))
      · exact .of_free (by decide)
  | variant alternatives =>
      cases alternatives with
      | nil => exact holdsCharacters_of_mem_placeholderEntries own
      | cons first rest =>
          refine holdsCharacters_of_mem_choiceEntries own (List.forall_mem_map.2 fun given known => ?_)
          obtain ⟨named, typed⟩ := List.forall_mem_cons.1 fun name here =>
            inner name (List.mem_flatMap_of_mem known here)
          refine ⟨?_, notes _ (List.mem_map_of_mem known)⟩
          exact (((own.append (.of_free (by decide))).append named).append
            (.of_free (by decide))).append (TypeExpr.isPlain_written typed _ _)
  | synonym type =>
      refine List.forall_mem_singleton.2 (Entry.holdsCharacters_plain ?_)
      exact (((IsPlain.of_free (by decide)).append own).append (.of_free (by decide))).append
        (TypeExpr.isPlain_written inner _ _)
  | template members signatory =>
      obtain ⟨signed, members⟩ := List.forall_mem_cons.1 inner
      refine List.forall_mem_cons.2 ⟨Entry.holdsCharacters_plain ?_,
        List.forall_mem_append.2 ⟨fields members notes, ?_⟩⟩
      · exact ((IsPlain.of_free (by decide)).append own).append (.of_free (by decide))
      · refine List.forall_mem_cons.2 ⟨Entry.holdsCharacters_plain (.of_free (by decide)), ?_⟩
        exact List.forall_mem_singleton.2 (Entry.holdsCharacters_plain
          (.append (.of_free (by decide)) signed))

/-- All lines of a declaration hold characters if its names and its notes do. -/
theorem isPlain_of_mem_lines {declaration : Declaration}
    (names : ∀ name ∈ declaration.names, IsPlain name)
    (notes : ∀ note ∈ declaration.notes, IsPlainNote note) (width : Nat) :
    ∀ line ∈ declaration.lines width, IsPlain line := by
  obtain ⟨own, inner⟩ := List.forall_mem_cons.1 notes
  refine List.forall_mem_append.2 ⟨isPlain_of_mem_noteLines own width .before, ?_⟩
  intro line member
  obtain ⟨entry, known, inside⟩ := List.mem_flatMap.1 member
  exact (holdsCharacters_of_mem_entries names inner entry known).lines width line inside

end Declaration

/-- A module whose names and comments hold characters only. -/
structure Module.HoldsCharacters (model : Module) : Prop where
  names : ∀ name ∈ model.names, IsPlain name
  comment : IsPlainNote model.comment
  notes : ∀ note ∈ model.notes, IsPlainNote note

namespace Module.HoldsCharacters

variable {model : Module} (plain : model.HoldsCharacters)

include plain

/-- An import holds the name of a module, and that of an alias. -/
theorem importLine {given : Import} (member : given ∈ model.imports) :
    IsPlain (Daml.importLine given) := by
  have names : ∀ name ∈ given.names, IsPlain name := fun name inside =>
    plain.names name (List.mem_cons_of_mem _
      (List.mem_append_left _ (List.mem_flatMap_of_mem member inside)))
  cases given with
  | plain moduleName => exact .append (.of_free (by decide)) (names _ List.mem_cons_self)
  | qualified moduleName shortName =>
      obtain ⟨whole, others⟩ := List.forall_mem_cons.1 names
      exact (((IsPlain.of_free (by decide)).append whole).append (.of_free (by decide))).append
        (others shortName List.mem_cons_self)

/-- Every block of a module is its head, its imports, or one of its declarations. -/
theorem of_mem_blocks {width : Nat} {block : Lines} (known : block ∈ model.blocks width) :
    ∀ line ∈ block, IsPlain line := by
  have named : IsPlain model.name := plain.names _ List.mem_cons_self
  rw [blocks, List.cons_append, List.mem_cons, List.mem_append, Daml.importBlocks] at known
  rcases known with rfl | imported | declared
  · refine List.forall_mem_append.2 ⟨isPlain_of_mem_headLines plain.comment width, ?_⟩
    refine List.forall_mem_cons.2 ⟨.append (.of_free (by decide)) named, ?_⟩
    exact List.forall_mem_singleton.2
      (((IsPlain.of_free (by decide)).append named).append (.of_free (by decide)))
  · obtain ⟨given, member, rfl⟩ := List.mem_map.1 imported
    exact List.forall_mem_singleton.2 (plain.importLine member)
  · obtain ⟨declaration, member, rfl⟩ := List.mem_map.1 declared
    refine Declaration.isPlain_of_mem_lines (fun name inside => ?_) (fun note inside => ?_) width
    · exact plain.names name (List.mem_cons_of_mem _
        (List.mem_append_right _ (List.mem_flatMap_of_mem member inside)))
    · exact plain.notes note (List.mem_flatMap_of_mem member inside)

/-- The text of a module holds characters if its names and its notes do. -/
theorem linesText (width : Nat) : IsPlain (Daml.linesText (joinBlocks (model.blocks width))) := by
  refine .append (.intercalate (.of_free (by decide)) fun line member => ?_) (.of_free (by decide))
  obtain rfl | ⟨block, known, inside⟩ := mem_joinBlocks member
  · exact .of_free (by decide)
  · exact plain.of_mem_blocks known line inside

/-- What is written of such a module is a text of characters. -/
theorem of_render {config : Config} (room : config.HasRoom)
    (allowed : config.emptyVariant = .placeholder) (renderable : model.isRenderable = true)
    {text : String} (given : (Daml.render config model).result = .ok text) : IsPlain text := by
  obtain ⟨width, fits, positive⟩ := room
  rw [Daml.result_render_of_room fits positive allowed renderable] at given
  obtain rfl := Except.ok.inj given
  exact plain.linesText width.toNat

end Module.HoldsCharacters

end RosettaDaml
