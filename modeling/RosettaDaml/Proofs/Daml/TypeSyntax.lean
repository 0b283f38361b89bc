/-
This file holds the syntax of types and shows that it is unambiguous.
-/

import RosettaDaml.Proofs.Text.Split
import RosettaDaml.Text.Name

namespace RosettaDaml

mutual

/-- A type is an atom, or the word for optional types in front of an atom. -/
inductive TypeSyntax where
  | optional (argument : AtomSyntax)
  | atom (given : AtomSyntax)

/-- An atom is a name, a type in brackets, or any number of types in parentheses. -/
inductive AtomSyntax where
  | name (given : String)
  | list (item : TypeSyntax)
  | group (items : List TypeSyntax)

end

namespace Text

/-- The characters that structure a type. -/
def isTypeMark (char : Char) : Bool := [' ', ',', '[', ']', '(', ')'].contains char

/-- Whether a text can stand as the name of a type: an identifier, but not the word for optional
types. -/
def isTypeName (name : String) : Bool :=
  name != "" && name != "Optional" && (strangeChar? name.toList).isNone

end Text

mutual

def TypeSyntax.text : TypeSyntax → String
  | .optional argument => "Optional " ++ argument.text
  | .atom given => given.text

def AtomSyntax.text : AtomSyntax → String
  | .name given => given
  | .list item => "[" ++ item.text ++ "]"
  | .group items => "(" ++ ", ".intercalate (TypeSyntax.texts items) ++ ")"

def TypeSyntax.texts : List TypeSyntax → List String
  | [] => []
  | item :: rest => item.text :: TypeSyntax.texts rest

end

mutual

/-- Whether the names in a type can stand as such. -/
def TypeSyntax.isNamed : TypeSyntax → Bool
  | .optional argument => argument.isNamed
  | .atom given => given.isNamed

def AtomSyntax.isNamed : AtomSyntax → Bool
  | .name given => Text.isTypeName given
  | .list item => item.isNamed
  | .group items => TypeSyntax.areNamed items

def TypeSyntax.areNamed : List TypeSyntax → Bool
  | [] => true
  | item :: rest => item.isNamed && TypeSyntax.areNamed rest

end

/-- A text is read as a type of this syntax. -/
def TypeSyntax.Parses (type : TypeSyntax) (text : String) : Prop :=
  type.isNamed = true ∧ type.text = text

/-- A text is read as these atoms, with one space between any two of them. -/
def AtomSyntax.ParseInRow (arguments : List AtomSyntax) (text : String) : Prop :=
  (∀ argument ∈ arguments, argument.isNamed = true) ∧
    " ".intercalate (arguments.map AtomSyntax.text) = text

namespace Text

/-- What starts a name may stand in it. -/
theorem isNameChar_of_isNameStart {char : Char} (starts : isNameStart char = true) :
    isNameChar char = true := by
  unfold isNameStart at starts
  unfold isNameChar isPlainNameChar
  rw [Char.isAlphanum]
  simp only [Bool.or_eq_true] at starts ⊢
  tauto

/-- A name without strange characters is made of those of names. -/
theorem isNameChar_of_mem {chars : List Char} (clear : strangeChar? chars = none) :
    ∀ char ∈ chars, isNameChar char = true := by
  cases chars with
  | nil => simp
  | cons first rest =>
      rw [strangeChar?] at clear
      split at clear
      next starts =>
        intro char member
        rcases List.mem_cons.1 member with rfl | later
        · exact isNameChar_of_isNameStart starts
        · simpa using List.find?_eq_none.1 clear char later
      next => cases clear

/-- No character of a name is a mark. -/
theorem isTypeMark_of_isNameChar {char : Char} (known : isNameChar char = true) :
    (!isTypeMark char) = true := by
  have marks : [' ', ',', '[', ']', '(', ')'].all (!isNameChar ·) = true := by decide +kernel
  rw [Bool.not_eq_true', ← Bool.not_eq_true]
  intro mark
  have clear := List.all_eq_true.1 marks char (List.contains_iff_mem.1 mark)
  simp [known] at clear

/-- So the name of a type holds no mark. -/
theorem isTypeMark_of_mem {name : String} (named : isTypeName name = true) :
    ∀ char ∈ name.toList, (!isTypeMark char) = true := by
  unfold isTypeName at named
  simp only [Bool.and_eq_true, Option.isNone_iff_eq_none] at named
  intro char member
  exact isTypeMark_of_isNameChar (isNameChar_of_mem named.2 char member)

/-- A name does not begin like a mark. -/
theorem typeName_append_ne {name : String} (named : isTypeName name = true) {mark : Char}
    (marks : isTypeMark mark = true) (rest others : List Char) :
    name.toList ++ rest ≠ mark :: others := by
  intro same
  have solid := isTypeMark_of_mem named
  cases chars : name.toList with
  | nil =>
      obtain rfl : name = "" := by simpa using chars
      exact absurd named (by decide)
  | cons first more =>
      obtain rfl : first = mark := by simpa [chars] using congrArg List.head? same
      have clear := solid first (by simp [chars])
      simp [marks] at clear

/-- Names in front of marks are read back. -/
theorem typeName_append_inj {left right : String}
    (solid : ∀ char ∈ left.toList, (!isTypeMark char) = true)
    (solidToo : ∀ char ∈ right.toList, (!isTypeMark char) = true) {rest others : List Char}
    (ends : ∀ char ∈ rest.head?, isTypeMark char = true)
    (endsToo : ∀ char ∈ others.head?, isTypeMark char = true)
    (same : left.toList ++ rest = right.toList ++ others) : left = right ∧ rest = others := by
  obtain ⟨front, behind⟩ := append_inj_of_forall solid solidToo
    (fun char first => by simp [ends char first]) (fun char first => by simp [endsToo char first])
    same
  exact ⟨String.toList_injective front, behind⟩

end Text

/-- What follows the first one of some types in parentheses. -/
def TypeSyntax.closing (rest : List Char) : List TypeSyntax → List Char
  | [] => ')' :: rest
  | item :: items =>
      ',' :: ' ' :: ((", ".intercalate (texts (item :: items))).toList ++ ')' :: rest)

/-- The items of a group are the first one and what closes it. -/
theorem TypeSyntax.toList_intercalate_texts (item : TypeSyntax) (items : List TypeSyntax)
    (rest : List Char) :
    (", ".intercalate (texts (item :: items))).toList ++ ')' :: rest =
      item.text.toList ++ closing rest items := by
  cases items with
  | nil => simp [texts, closing]
  | cons next items =>
      rw [texts, texts, String.intercalate_cons_cons]
      simp [closing, texts]

/-- What closes a group begins with a mark. -/
theorem TypeSyntax.isTypeMark_of_mem_closing (rest : List Char) (items : List TypeSyntax) :
    ∀ char ∈ (closing rest items).head?, Text.isTypeMark char = true := by
  intro char first
  cases items with
  | nil =>
      obtain rfl : ')' = char := by simpa [closing] using first
      decide
  | cons item items =>
      obtain rfl : ',' = char := by simpa [closing] using first
      decide

/-- A list is written in square brackets. -/
theorem AtomSyntax.toList_text_list (item : TypeSyntax) (rest : List Char) :
    (list item).text.toList ++ rest = '[' :: (item.text.toList ++ ']' :: rest) := by
  simp [text]

/-- A group is written in parentheses. -/
theorem AtomSyntax.toList_text_group (items : List TypeSyntax) (rest : List Char) :
    (group items).text.toList ++ rest =
      '(' :: ((", ".intercalate (TypeSyntax.texts items)).toList ++ ')' :: rest) := by
  simp [text]

/-- No atom begins with a closing parenthesis. -/
theorem AtomSyntax.text_append_ne {atom : AtomSyntax} (named : atom.isNamed = true)
    (rest others : List Char) : atom.text.toList ++ rest ≠ ')' :: others := by
  intro same
  cases atom with
  | name given => exact Text.typeName_append_ne named (by decide) rest others same
  | list item => simp [toList_text_list] at same
  | group items => simp [toList_text_group] at same

/-- So no type does. -/
theorem TypeSyntax.text_append_ne {type : TypeSyntax} (named : type.isNamed = true)
    (rest others : List Char) : type.text.toList ++ rest ≠ ')' :: others := by
  cases type with
  | optional argument =>
      intro same
      simp [text] at same
  | atom given => exact AtomSyntax.text_append_ne named rest others

/-- The word for optional types is no atom. -/
theorem AtomSyntax.optional_append_ne {atom : AtomSyntax} (named : atom.isNamed = true)
    (chars : List Char) {others : List Char}
    (ends : ∀ char ∈ others.head?, Text.isTypeMark char = true) :
    "Optional".toList ++ ' ' :: chars ≠ atom.text.toList ++ others := by
  intro same
  cases atom with
  | name given =>
      have space : ∀ char ∈ (' ' :: chars).head?, Text.isTypeMark char = true := by
        intro char first
        obtain rfl : ' ' = char := by simpa using first
        decide
      have solid : "Optional".toList.all (!Text.isTypeMark ·) = true := by decide
      obtain ⟨rfl, -⟩ := Text.typeName_append_inj (List.all_eq_true.1 solid)
        (Text.isTypeMark_of_mem named) space ends same
      exact absurd named (by decide)
  | list item => simp [toList_text_list] at same
  | group items => simp [toList_text_group] at same

/-- An option is written behind its word. -/
theorem TypeSyntax.toList_text_optional (argument : AtomSyntax) (rest : List Char) :
    (optional argument).text.toList ++ rest =
      "Optional".toList ++ ' ' :: (argument.text.toList ++ rest) := by
  simp [text]

/-- A closing bracket is a mark. -/
theorem TypeSyntax.isTypeMark_of_mem_bracket (rest : List Char) :
    ∀ char ∈ (']' :: rest).head?, Text.isTypeMark char = true := by
  intro char first
  obtain rfl : ']' = char := by simpa using first
  decide

/-! A type ends where a mark stands behind it, whatever follows. The induction goes along the type
on the left. -/

namespace TypeSyntax

mutual

/-- Types in front of marks are the same if their texts begin the same. -/
theorem append_inj {left right : TypeSyntax} (named : left.isNamed = true)
    (namedToo : right.isNamed = true) {rest others : List Char}
    (ends : ∀ char ∈ rest.head?, Text.isTypeMark char = true)
    (endsToo : ∀ char ∈ others.head?, Text.isTypeMark char = true)
    (same : left.text.toList ++ rest = right.text.toList ++ others) :
    left = right ∧ rest = others := by
  cases left with
  | optional argument =>
      rw [toList_text_optional] at same
      cases right with
      | optional other =>
          rw [toList_text_optional] at same
          have onward := (List.cons.inj (List.append_cancel_left same)).2
          obtain ⟨rfl, behind⟩ := atom_append_inj named namedToo ends endsToo onward
          exact ⟨rfl, behind⟩
      | atom given => exact absurd same (AtomSyntax.optional_append_ne namedToo _ endsToo)
  | atom given =>
      cases right with
      | optional other =>
          rw [toList_text_optional] at same
          exact absurd same.symm (AtomSyntax.optional_append_ne named _ ends)
      | atom other =>
          obtain ⟨rfl, behind⟩ := atom_append_inj named namedToo ends endsToo same
          exact ⟨rfl, behind⟩

/-- So are atoms. -/
theorem atom_append_inj {left right : AtomSyntax} (named : left.isNamed = true)
    (namedToo : right.isNamed = true) {rest others : List Char}
    (ends : ∀ char ∈ rest.head?, Text.isTypeMark char = true)
    (endsToo : ∀ char ∈ others.head?, Text.isTypeMark char = true)
    (same : left.text.toList ++ rest = right.text.toList ++ others) :
    left = right ∧ rest = others := by
  -- The first character tells the kinds of atoms apart.
  cases left with
  | name given =>
      cases right with
      | name other =>
          obtain ⟨rfl, behind⟩ := Text.typeName_append_inj (Text.isTypeMark_of_mem named)
            (Text.isTypeMark_of_mem namedToo) ends endsToo same
          exact ⟨rfl, behind⟩
      | list item =>
          rw [AtomSyntax.toList_text_list] at same
          exact absurd same (Text.typeName_append_ne named (by decide) _ _)
      | group items =>
          rw [AtomSyntax.toList_text_group] at same
          exact absurd same (Text.typeName_append_ne named (by decide) _ _)
  | list item =>
      rw [AtomSyntax.toList_text_list] at same
      cases right with
      | name other => exact absurd same.symm (Text.typeName_append_ne namedToo (by decide) _ _)
      | list other =>
          rw [AtomSyntax.toList_text_list] at same
          obtain ⟨rfl, behind⟩ := append_inj named namedToo (isTypeMark_of_mem_bracket rest)
            (isTypeMark_of_mem_bracket others) (List.cons.inj same).2
          exact ⟨rfl, (List.cons.inj behind).2⟩
      | group items => simp [AtomSyntax.toList_text_group] at same
  | group items =>
      rw [AtomSyntax.toList_text_group] at same
      cases right with
      | name other => exact absurd same.symm (Text.typeName_append_ne namedToo (by decide) _ _)
      | list other => simp [AtomSyntax.toList_text_list] at same
      | group others =>
          rw [AtomSyntax.toList_text_group] at same
          obtain ⟨rfl, behind⟩ := items_append_inj named namedToo (List.cons.inj same).2
          exact ⟨rfl, behind⟩

/-- And so are the items of a group. -/
theorem items_append_inj {lefts rights : List TypeSyntax} (named : areNamed lefts = true)
    (namedToo : areNamed rights = true) {rest others : List Char}
    (same : (", ".intercalate (texts lefts)).toList ++ ')' :: rest =
      (", ".intercalate (texts rights)).toList ++ ')' :: others) :
    lefts = rights ∧ rest = others := by
  cases lefts with
  | nil =>
      cases rights with
      | nil => simpa [texts] using same
      | cons other rights =>
          rw [areNamed, Bool.and_eq_true] at namedToo
          rw [toList_intercalate_texts] at same
          exact absurd same.symm (text_append_ne namedToo.1 _ _)
  | cons item lefts =>
      rw [areNamed, Bool.and_eq_true] at named
      rw [toList_intercalate_texts] at same
      cases rights with
      | nil => exact absurd same (text_append_ne named.1 _ _)
      | cons other rights =>
          rw [areNamed, Bool.and_eq_true] at namedToo
          rw [toList_intercalate_texts] at same
          obtain ⟨rfl, behind⟩ := append_inj named.1 namedToo.1
            (isTypeMark_of_mem_closing rest lefts) (isTypeMark_of_mem_closing others rights) same
          -- A comma goes on with the group and a bracket closes it.
          cases lefts with
          | nil =>
              cases rights with
              | nil => simpa [closing] using behind
              | cons next rights => simp [closing] at behind
          | cons first lefts =>
              cases rights with
              | nil => simp [closing] at behind
              | cons next rights =>
                  have onward := (List.cons.inj (List.cons.inj behind).2).2
                  obtain ⟨equal, behind⟩ := items_append_inj named.2 namedToo.2 onward
                  exact ⟨congrArg (List.cons item) equal, behind⟩

end

/-- A text is read as one type at most. -/
theorem Parses.unique {first second : TypeSyntax} {text : String} (parses : first.Parses text)
    (parsesToo : second.Parses text) : first = second := by
  obtain ⟨named, written⟩ := parses
  obtain ⟨namedToo, writtenToo⟩ := parsesToo
  have same : first.text.toList ++ [] = second.text.toList ++ [] := by rw [written, writtenToo]
  exact (append_inj named namedToo (by simp) (by simp) same).1

/-- The text of an atom is no sequence of other atoms with spaces between them. -/
theorem eq_singleton_of_intercalate {atom : AtomSyntax} (named : atom.isNamed = true)
    {arguments : List AtomSyntax} (namedToo : ∀ argument ∈ arguments, argument.isNamed = true)
    (same : " ".intercalate (arguments.map AtomSyntax.text) = atom.text) : arguments = [atom] := by
  cases arguments with
  | nil =>
      have bare := AtomSyntax.text_append_ne named [')'] []
      simp [← same] at bare
  | cons first arguments =>
      have firstNamed := namedToo first List.mem_cons_self
      cases arguments with
      | nil =>
          have chars : first.text.toList ++ [] = atom.text.toList ++ [] := by simp [← same]
          rw [(atom_append_inj firstNamed named (by simp) (by simp) chars).1]
      | cons second arguments =>
          rw [List.map_cons, List.map_cons, String.intercalate_cons_cons] at same
          have chars : first.text.toList ++ ' ' :: (" ".intercalate
              (second.text :: arguments.map AtomSyntax.text)).toList = atom.text.toList ++ [] := by
            simp [← same]
          have space : Text.isTypeMark ' ' = true := by decide
          have apart := (atom_append_inj firstNamed named (by simp [space]) (by simp) chars).2
          exact absurd apart (List.cons_ne_nil _ _)

/-- The text of an atom is read as one argument. -/
theorem Parses.parseInRow_iff {atom : AtomSyntax} {text : String}
    (parses : (TypeSyntax.atom atom).Parses text) {arguments : List AtomSyntax} :
    AtomSyntax.ParseInRow arguments text ↔ arguments = [atom] := by
  obtain ⟨named, rfl⟩ := parses
  constructor
  · rintro ⟨namedToo, same⟩
    exact eq_singleton_of_intercalate named namedToo same
  · rintro rfl
    constructor
    · intro argument member
      obtain rfl := List.mem_singleton.1 member
      exact named
    · simp [text]

end TypeSyntax

end RosettaDaml
