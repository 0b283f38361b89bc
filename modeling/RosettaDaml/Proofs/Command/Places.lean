/-
This file follows the characters of a command line into the places and the names that it gives.
-/

import Mathlib.Data.List.Infix
import Mathlib.Data.List.TakeDrop
import Mathlib.Data.List.TakeWhile
import RosettaDaml.Command.Request
import RosettaDaml.Proofs.Text.Plain

namespace RosettaDaml

open Text (IsPlain)

/-! Paths. -/

/-- A text of characters without the bracket that begins a tag. -/
def Text.IsClear (text : String) : Prop := IsPlain text ∧ '[' ∉ text.toList

namespace Text.IsClear

/-- A text without a mark and without a bracket is clear. -/
theorem of_free {text : String} (free : Text.halfMark ∉ text.toList) (freeToo : '[' ∉ text.toList) :
    Text.IsClear text :=
  ⟨.of_free free, freeToo⟩

/-- Clear texts one behind the other are clear. -/
theorem append {text other : String} (clear : Text.IsClear text) (clearToo : Text.IsClear other) :
    Text.IsClear (text ++ other) := by
  refine ⟨clear.1.append clearToo.1, ?_⟩
  rw [String.toList_append, List.mem_append, not_or]
  exact ⟨clear.2, clearToo.2⟩

end Text.IsClear

namespace Path

/-- A name is its stem, or its stem with a dot behind it and a suffix. -/
theorem splitName_fst (name : String) :
    (splitName name).1 = name ∨
      ∃ suffix, name.toList = (splitName name).1.toList ++ '.' :: suffix := by
  have whole := List.takeWhile_append_dropWhile (l := name.toList.reverse) (p := (· != '.'))
  rw [splitName, List.span_eq_takeWhile_dropWhile]
  dsimp only
  split
  case h_1 dot stem behind =>
    split
    · exact .inl rfl
    · refine .inr ⟨(name.toList.reverse.takeWhile (· != '.')).reverse, ?_⟩
      have isDot : dot = '.' := by
        have stops := List.head?_dropWhile_not (· != '.') name.toList.reverse
        rw [behind] at stops
        simpa using stops
      rw [behind, isDot] at whole
      have reversed := congrArg List.reverse whole
      rw [List.reverse_reverse, List.reverse_append, List.reverse_cons, List.append_assoc] at reversed
      rw [String.toList_ofList]
      exact reversed.symm
  case h_2 => exact .inl rfl

/-- A name without its suffix is clear if the name is. -/
theorem isClear_stem {name : String} (clear : Text.IsClear name) :
    Text.IsClear (splitName name).1 := by
  obtain same | ⟨suffix, whole⟩ := splitName_fst name
  · rwa [same]
  · obtain ⟨plain, free⟩ := clear
    rw [Text.IsPlain.iff_arePlain, whole] at plain
    rw [whole, List.mem_append, not_or] at free
    exact ⟨Text.IsPlain.iff_arePlain.2 (plain.of_append_cons (by decide)).1, free.1⟩

/-- The last part of a clear place is clear. -/
theorem isClear_name (path : Path) (clear : ∀ part ∈ path.parts, Text.IsClear part) :
    Text.IsClear path.name := by
  rw [name]
  cases last : path.parts.getLast? with
  | none => exact .of_free (by decide) (by decide)
  | some part => exact clear part (List.mem_of_getLast? last)

/-- Another suffix leaves a place clear. -/
theorem isClear_withSuffix (path : Path) {suffix : String}
    (clear : ∀ part ∈ path.parts, Text.IsClear part) (clearToo : Text.IsClear suffix) :
    ∀ part ∈ (path.withSuffix suffix).parts, Text.IsClear part := by
  have stemmed : Text.IsClear path.stem := isClear_stem (path.isClear_name clear)
  refine List.forall_mem_append.2 ⟨fun part member => clear part (List.mem_of_mem_dropLast member), ?_⟩
  exact List.forall_mem_singleton.2 (stemmed.append clearToo)

/-- A clear place is written as a clear text. -/
theorem isClear_text (path : Path) (clear : ∀ part ∈ path.parts, Text.IsClear part) :
    Text.IsClear path.text := by
  have joined : Text.IsClear ("/".intercalate path.parts) :=
    ⟨.intercalate (.of_free (by decide)) fun part member => (clear part member).1,
      Text.not_mem_intercalate (by decide) fun part member => (clear part member).2⟩
  rw [text]
  split
  · exact .append (.of_free (by decide) (by decide)) joined
  · split
    · exact .of_free (by decide) (by decide)
    · exact joined

/-- The parts of a path that is characters are characters. -/
theorem isPlain_ofText {text : String} (plain : IsPlain text) :
    ∀ part ∈ (ofText text).parts, IsPlain part := by
  intro part member
  obtain ⟨piece, inside, rfl⟩ := List.mem_map.1 (List.mem_filter.1 member).1
  exact .ofList ((Text.IsPlain.iff_arePlain.1 plain).splitChars (by decide) (by decide) piece inside)

/-- The parts of a place come from where one stands and from the path. -/
theorem mem_resolve {here : List String} {path : Path} {part : String}
    (member : part ∈ path.resolve here) : part ∈ here ∨ part ∈ path.parts := by
  have onward (parts place : List String) (member : part ∈ parts.foldl walk place) :
      part ∈ place ∨ part ∈ parts := by
    induction parts generalizing place with
    | nil => exact .inl member
    | cons next rest inductionHypothesis =>
        obtain before | behind := inductionHypothesis _ member
        · rw [walk] at before
          split at before
          · exact .inl (List.mem_of_mem_dropLast before)
          · obtain before | single := List.mem_append.1 before
            · exact .inl before
            · exact .inr (List.mem_cons.2 (.inl (List.mem_singleton.1 single)))
        · exact .inr (List.mem_cons_of_mem _ behind)
  obtain before | inside := onward _ _ member
  · split at before
    · simp at before
    · exact .inl before
  · exact .inr inside

end Path

namespace Command

/-! Words. -/

/-- Forms that are spelled without the mark of a half. -/
def AreSpelledPlainly (forms : List OptionForm) : Prop :=
  ∀ form ∈ forms, ∀ spelling ∈ form.spellings, Text.halfMark ∉ spelling.toList

/-- Options whose values are texts of characters. -/
def HavePlainValues (options : List (String × Option String)) : Prop :=
  ∀ option ∈ options, ∀ value, option.2 = some value → IsPlain value

structure Arguments.ArePlain (arguments : Arguments) : Prop where
  options : HavePlainValues arguments.options
  words : ∀ word ∈ arguments.words, IsPlain word

section Forms

variable {forms : List OptionForm}

/-- A spelling that is known is one of those that the forms have. -/
theorem halfMark_not_mem_of_formOf? (spelled : AreSpelledPlainly forms) {spelling : String}
    {form : OptionForm} (found : formOf? forms spelling = some form) :
    Text.halfMark ∉ spelling.toList := by
  have has : form.spellings.contains spelling = true := by simpa using List.find?_some found
  exact spelled form (List.mem_of_find?_eq_some found) spelling (List.contains_iff_mem.1 has)

/-- A flag has no value. -/
theorem havePlainValues_flag (key : String) {options : List (String × Option String)}
    (plain : HavePlainValues options) : HavePlainValues ((key, none) :: options) :=
  List.forall_mem_cons.2 ⟨fun value same => absurd same (by simp), plain⟩

/-- An option has the value that is given with it. -/
theorem havePlainValues_single (key : String) {value : String} (plain : IsPlain value) :
    HavePlainValues [(key, some value)] := by
  intro option member other same
  obtain rfl := List.mem_singleton.1 member
  obtain rfl := Option.some.inj same
  exact plain

/-- The value of a letter is the rest of its word. -/
theorem havePlainValues_letters? (spelled : AreSpelledPlainly forms) {letters : List Char}
    (plain : Text.ArePlain letters) {given : OptionWord} (read : letters? forms letters = some given) :
    HavePlainValues given.given := by
  induction letters generalizing given with
  | nil =>
      obtain rfl := Option.some.inj read
      exact List.forall_mem_nil _
  | cons letter rest inductionHypothesis =>
      obtain ⟨form, found, read⟩ := Option.bind_eq_some_iff.1 read
      have other : letter ≠ Text.halfMark := by
        have free := halfMark_not_mem_of_formOf? spelled found
        rw [String.toList_ofList] at free
        exact fun same => free (by simp [same])
      split at read
      · split at read
        · obtain rfl := Option.some.inj read
          exact List.forall_mem_nil _
        · obtain rfl := Option.some.inj read
          exact havePlainValues_single form.key (.ofList (plain.tail other))
      · obtain ⟨more, readMore, read⟩ := Option.bind_eq_some_iff.1 read
        obtain rfl := Option.some.inj read
        exact havePlainValues_flag form.key (inductionHypothesis (plain.tail other) readMore)

/-- The value of a long option stands behind its equals sign. -/
theorem havePlainValues_longOption? {word : List Char} (plain : Text.ArePlain word)
    {given : OptionWord} (read : longOption? forms word = some given) :
    HavePlainValues given.given := by
  have whole := List.takeWhile_append_dropWhile (l := word) (p := (· != '='))
  rw [longOption?, List.span_eq_takeWhile_dropWhile] at read
  obtain ⟨form, -, read⟩ := Option.bind_eq_some_iff.1 read
  split at read
  case h_1 sign value takes behind =>
    obtain rfl := Option.some.inj read
    have isSign : sign = '=' := by
      have stops := List.head?_dropWhile_not (· != '=') word
      rw [behind] at stops
      simpa using stops
    rw [behind, isSign] at whole
    rw [← whole] at plain
    exact havePlainValues_single form.key
      (.ofList ((plain.of_append_cons (by decide)).2.tail (by decide)))
  case h_2 | h_3 =>
    obtain rfl := Option.some.inj read
    simp [HavePlainValues]
  case h_4 => exact absurd read (by simp)

/-- The value in a word of options is a part of that word. -/
theorem havePlainValues_optionWord? (spelled : AreSpelledPlainly forms) {word : List Char}
    (plain : Text.ArePlain word) (dashed : word.head? = some '-') {given : OptionWord}
    (read : optionWord? forms word = some given) : HavePlainValues given.given := by
  match word with
  | [] => exact absurd dashed (by simp)
  | [dash] =>
      obtain rfl := Option.some.inj dashed
      exact havePlainValues_letters? spelled (plain.tail (by decide)) read
  | dash :: second :: rest =>
      obtain rfl := Option.some.inj dashed
      by_cases long : second = '-'
      · subst long
        exact havePlainValues_longOption? plain read
      · rw [optionWord?] at read
        · exact havePlainValues_letters? spelled (plain.tail (by decide)) read
        · simpa using long

/-- A word of options begins with a dash. -/
theorem head?_of_isOptionWord {word : String} (isOption : isOptionWord word = true) :
    word.toList.head? = some '-' := by
  obtain ⟨rest, whole⟩ := String.startsWith_string_iff.1 (Bool.and_eq_true_iff.1 isOption).1
  rw [← whole]
  rfl

/-- More options with plain values leave the arguments plain. -/
theorem Arguments.ArePlain.withOptions {given : List (String × Option String)}
    {arguments : Arguments} (plain : arguments.ArePlain) (plainToo : HavePlainValues given) :
    (arguments.withOptions given).ArePlain :=
  ⟨List.forall_mem_append.2 ⟨plainToo, plain.options⟩, plain.words⟩

/-- Words of characters are taken apart into options and words of characters. -/
theorem arePlain_arguments? (spelled : AreSpelledPlainly forms) {among : Bool} {words : List String}
    (plain : ∀ word ∈ words, IsPlain word) {arguments : Arguments}
    (read : arguments? forms among words = some arguments) : arguments.ArePlain := by
  have options {word : String} {given : OptionWord} (plain : IsPlain word)
      (isOption : isOptionWord word = true) (read : optionWord? forms word.toList = some given) :
      HavePlainValues given.given :=
    havePlainValues_optionWord? spelled (Text.IsPlain.iff_arePlain.1 plain)
      (head?_of_isOptionWord isOption) read
  -- One case for each way in which a word is read: as an option, as the end of options, or as
  -- itself.
  fun_induction arguments? forms among words generalizing arguments with
  | case1 =>
      obtain rfl := Option.some.inj read
      exact ⟨List.forall_mem_nil _, plain⟩
  | case2 rest =>
      obtain rfl := Option.some.inj read
      exact ⟨List.forall_mem_nil _, (List.forall_mem_cons.1 plain).2⟩
  | case3 => exact absurd read (by simp)
  | case4 word rest _ isOption given readWord inductionHypothesis =>
      obtain ⟨here, behind⟩ := List.forall_mem_cons.1 plain
      obtain ⟨others, readRest, rfl⟩ := Option.map_eq_some_iff.1 read
      exact (inductionHypothesis behind readRest).withOptions (options here isOption readWord)
  | case5 => exact absurd read (by simp)
  | case6 word _ isOption given key readWord value more inductionHypothesis =>
      obtain ⟨here, behind⟩ := List.forall_mem_cons.1 plain
      obtain ⟨valued, behind⟩ := List.forall_mem_cons.1 behind
      obtain ⟨others, readRest, rfl⟩ := Option.map_eq_some_iff.1 read
      refine (inductionHypothesis behind readRest).withOptions (List.forall_mem_append.2 ⟨?_, ?_⟩)
      · exact options here isOption readWord
      · exact havePlainValues_single key valued
  | case7 word rest _ _ _ inductionHypothesis =>
      obtain ⟨here, behind⟩ := List.forall_mem_cons.1 plain
      obtain ⟨others, readRest, rfl⟩ := Option.map_eq_some_iff.1 read
      have plainOthers := inductionHypothesis behind readRest
      exact ⟨plainOthers.options, List.forall_mem_cons.2 ⟨here, plainOthers.words⟩⟩
  | case8 =>
      obtain rfl := Option.some.inj read
      exact ⟨List.forall_mem_nil _, plain⟩

end Forms

namespace Arguments.ArePlain

variable {store : Store} {arguments : Arguments}

/-- The value of an option is the last that was given. -/
theorem value? (plain : arguments.ArePlain) {key value : String}
    (given : arguments.value? key = some value) : IsPlain value := by
  obtain ⟨option, last, same⟩ := Option.bind_eq_some_iff.1 given
  exact plain.options option (List.mem_filter.1 (List.mem_of_getLast? last)).1 value same

end Arguments.ArePlain

variable {store : Store}

/-- A place is named by the way to the current directory and by the given name. -/
theorem isPlain_resolve (here : ∀ part ∈ store.here, IsPlain part) {name : String}
    (plain : IsPlain name) : ∀ part ∈ (Path.ofText name).resolve store.here, IsPlain part := by
  intro part member
  obtain before | inside := Path.mem_resolve member
  · exact here part before
  · exact Path.isPlain_ofText plain part inside

/-- A file that exists is found at such a place. -/
theorem isPlain_existingFile? (here : ∀ part ∈ store.here, IsPlain part) {name : String}
    (plain : IsPlain name) {place : List String} (found : existingFile? store name = some place) :
    ∀ part ∈ place, IsPlain part := by
  rw [existingFile?] at found
  split at found
  · obtain rfl := Option.some.inj found
    exact isPlain_resolve here plain
  · exact absurd found (by simp)

/-- So is one that may be written. -/
theorem isPlain_filePlace? (here : ∀ part ∈ store.here, IsPlain part) {name : String}
    (plain : IsPlain name) {place : List String} (found : filePlace? store name = some place) :
    ∀ part ∈ place, IsPlain part := by
  rw [filePlace?] at found
  split at found
  · exact absurd found (by simp)
  · obtain rfl := Option.some.inj found
    exact isPlain_resolve here plain

/-- The first word that is no option names the file that is read. -/
theorem isPlain_inputFile? (here : ∀ part ∈ store.here, IsPlain part) {arguments : Arguments}
    (plain : arguments.ArePlain) {place : List String}
    (found : inputFile? store arguments = some place) : ∀ part ∈ place, IsPlain part := by
  rw [inputFile?] at found
  split at found
  case h_1 name words =>
    exact isPlain_existingFile? here (plain.words name (by simp [words])) found
  case h_2 => exact absurd found (by simp)

/-- What a conversion names in characters: its input and its output. -/
structure ConvertOptions.NamesPlain (options : ConvertOptions) : Prop where
  input : ∀ part ∈ options.input, IsPlain part
  output : ∀ place, options.output = some place → ∀ part ∈ place, IsPlain part

/-- The places and the name of a conversion are those that the words give. -/
theorem namesPlain_convertRequest? (here : ∀ part ∈ store.here, IsPlain part) {arguments : Arguments}
    (plain : arguments.ArePlain) {options : ConvertOptions}
    (read : convertRequest? store arguments = some (.convert options)) : options.NamesPlain := by
  obtain ⟨input, inputRead, read⟩ := Option.bind_eq_some_iff.1 read
  obtain ⟨moduleName, -, read⟩ := Option.bind_eq_some_iff.1 read
  obtain ⟨output, outputRead, read⟩ := Option.bind_eq_some_iff.1 read
  obtain ⟨config, -, read⟩ := Option.bind_eq_some_iff.1 read
  obtain rfl := Request.convert.inj (Option.some.inj read)
  refine ⟨isPlain_inputFile? here plain inputRead, fun place same => ?_⟩
  obtain rfl : output = some place := same
  cases given : arguments.value? "output" with
  | none =>
      rw [given] at outputRead
      exact absurd (Option.some.inj outputRead) (by simp)
  | some name =>
      rw [given] at outputRead
      obtain ⟨found, foundRead, same⟩ := Option.map_eq_some_iff.1 outputRead
      obtain rfl := Option.some.inj same
      exact isPlain_filePlace? here (plain.value? given) foundRead

/-- The options of the program are spelled with characters. -/
theorem areSpelledPlainly_programForms : AreSpelledPlainly programForms := by
  unfold AreSpelledPlainly
  decide +kernel

/-- So are those of a conversion. -/
theorem areSpelledPlainly_convertForms : AreSpelledPlainly convertForms := by
  unfold AreSpelledPlainly
  decide +kernel

/-- A command line of characters asks for a conversion between places of characters. -/
theorem namesPlain_of_ofWords? (here : ∀ part ∈ store.here, IsPlain part) {words : List String}
    (plain : ∀ word ∈ words, IsPlain word) {options : ConvertOptions}
    (asks : Request.ofWords? store words = some (.convert options)) : options.NamesPlain := by
  obtain ⟨arguments, read, asks⟩ := Option.bind_eq_some_iff.1 asks
  have plainArguments := arePlain_arguments? areSpelledPlainly_programForms plain read
  have other {read : Arguments → Option Request} {forms : List OptionForm} {rest : List String}
      (never : ∀ arguments, read arguments ≠ some (.convert options))
      (asks : commandRequest? forms read rest = some (.convert options)) : options.NamesPlain := by
    obtain ⟨inner, -, asks⟩ := Option.bind_eq_some_iff.1 asks
    split at asks
    · exact absurd (Option.some.inj asks) (by simp)
    · exact absurd asks (never inner)
  split at asks
  case h_1 | h_2 => exact absurd (Option.some.inj asks) (by simp)
  case h_3 =>
    split at asks
    case h_1 =>
      refine other (fun inner => ?_) asks
      simp [validateRequest?, Option.bind_eq_some_iff]
    case h_2 rest same =>
      obtain ⟨inner, innerRead, asks⟩ := Option.bind_eq_some_iff.1 asks
      have plainRest : ∀ word ∈ rest, IsPlain word := fun word member =>
        plainArguments.words word (by rw [same]; exact List.mem_cons_of_mem _ member)
      split at asks
      · exact absurd (Option.some.inj asks) (by simp)
      · exact namesPlain_convertRequest? here
          (arePlain_arguments? areSpelledPlainly_convertForms plainRest innerRead) asks
    case h_3 =>
      refine other (fun inner => ?_) asks
      simp [infoRequest?]
    case h_4 => exact absurd asks (by simp)

end Command

end RosettaDaml
