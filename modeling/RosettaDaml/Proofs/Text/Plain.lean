/-
This file follows texts that hold characters only, which can be cut, joined and encoded freely.
-/

import RosettaDaml.Proofs.Text.Split
import RosettaDaml.Text.Encoding

namespace RosettaDaml.Text

/-- The private character behind a mark that stands for itself. -/
def markPartner : Char := Char.ofNat 0xE800

/-- What a text of characters is kept as: every mark in it has its partner behind it. -/
inductive ArePlain : List Char → Prop where
  | nil : ArePlain []
  | cons {char : Char} {rest : List Char} (other : char ≠ halfMark) (plain : ArePlain rest) :
      ArePlain (char :: rest)
  | mark {rest : List Char} (plain : ArePlain rest) : ArePlain (halfMark :: markPartner :: rest)

/-- A text of characters alone. -/
def IsPlain (text : String) : Prop := ∃ string, ofString string = text

namespace ArePlain

variable {chars front rest : List Char}

/-- Characters behind characters are characters. -/
theorem append (plain : ArePlain front) (plainToo : ArePlain rest) : ArePlain (front ++ rest) := by
  induction plain with
  | nil => exact plainToo
  | cons other _ inductionHypothesis => exact .cons other inductionHypothesis
  | mark _ inductionHypothesis => exact .mark inductionHypothesis

/-- Without a mark there are characters only. -/
theorem of_free (free : halfMark ∉ chars) : ArePlain chars := by
  induction chars with
  | nil => exact .nil
  | cons char rest inductionHypothesis =>
      rw [List.mem_cons, not_or] at free
      exact .cons (Ne.symm free.1) (inductionHypothesis free.2)

/-- Behind a character that is no mark there are characters. -/
theorem tail {char : Char} (plain : ArePlain (char :: rest)) (other : char ≠ halfMark) :
    ArePlain rest := by
  cases plain with
  | cons _ plain => exact plain
  | mark _ => exact absurd rfl other

/-- A text can be cut anywhere but between a mark and its partner. -/
theorem of_append (plain : ArePlain (front ++ rest))
    (apart : front.getLast? = some halfMark → rest.head? ≠ some markPartner) :
    ArePlain front ∧ ArePlain rest := by
  generalize same : front ++ rest = chars at plain
  induction plain generalizing front with
  | nil =>
      obtain ⟨rfl, rfl⟩ := List.append_eq_nil_iff.1 same
      exact ⟨.nil, .nil⟩
  | @cons char others other plain inductionHypothesis =>
      cases front with
      | nil =>
          subst same
          exact ⟨.nil, .cons other plain⟩
      | cons first front =>
          obtain ⟨rfl, rfl⟩ := List.cons.inj same
          have apartToo : front.getLast? = some halfMark → rest.head? ≠ some markPartner := by
            cases front with
            | nil => simp
            | cons second front => simpa [List.getLast?_cons_cons] using apart
          obtain ⟨before, behind⟩ := inductionHypothesis apartToo rfl
          exact ⟨.cons other before, behind⟩
  | @mark others plain inductionHypothesis =>
      -- The mark and its partner are passed together, so a front of one character would part them.
      match front with
      | [] =>
          subst same
          exact ⟨.nil, .mark plain⟩
      | [first] =>
          obtain ⟨rfl, rfl⟩ := List.cons.inj same
          exact absurd rfl (apart rfl)
      | first :: second :: front =>
          obtain ⟨rfl, tail⟩ := List.cons.inj same
          obtain ⟨rfl, rfl⟩ := List.cons.inj tail
          have apartToo : front.getLast? = some halfMark → rest.head? ≠ some markPartner := by
            cases front with
            | nil => simp
            | cons third front => simpa [List.getLast?_cons_cons] using apart
          obtain ⟨before, behind⟩ := inductionHypothesis apartToo rfl
          exact ⟨.mark before, behind⟩

/-- A text can be cut in front of any character that is no partner. -/
theorem of_append_cons {char : Char} (plain : ArePlain (front ++ char :: rest))
    (other : char ≠ markPartner) : ArePlain front ∧ ArePlain (char :: rest) :=
  plain.of_append fun _ => by simpa using other

/-- Characters may be left out as long as marks and their partners stay. -/
theorem filter (plain : ArePlain chars) {keep : Char → Bool} (mark : keep halfMark = true)
    (partner : keep markPartner = true) : ArePlain (chars.filter keep) := by
  induction plain with
  | nil => exact .nil
  | @cons char rest other _ inductionHypothesis =>
      rw [List.filter_cons]
      split
      · exact .cons other inductionHypothesis
      · exact inductionHypothesis
  | mark _ inductionHypothesis =>
      rw [List.filter_cons_of_pos mark, List.filter_cons_of_pos partner]
      exact .mark inductionHypothesis

/-- What is made of characters is one. -/
theorem ofChars (given : List Char) : ArePlain (ofChars given) := by
  induction given with
  | nil => exact .nil
  | cons char rest inductionHypothesis =>
      have first : ArePlain (Place.chars (.plain char)) := by
        rw [Place.chars]
        split
        case isTrue => exact .mark .nil
        case isFalse other => exact .cons other .nil
      exact first.append inductionHypothesis

/-- And there is nothing else, by induction on the characters. -/
theorem exists_ofChars (plain : ArePlain chars) : ∃ given, Text.ofChars given = chars := by
  induction plain with
  | nil => exact ⟨[], rfl⟩
  | @cons char _ other _ inductionHypothesis =>
      obtain ⟨given, rfl⟩ := inductionHypothesis
      exact ⟨char :: given, by simp [Text.ofChars, ofPlaces, Place.chars, other]⟩
  | mark _ inductionHypothesis =>
      obtain ⟨given, rfl⟩ := inductionHypothesis
      exact ⟨halfMark :: given, by simp [Text.ofChars, ofPlaces, Place.chars, markPartner]⟩

/-- No place among characters is a half. -/
theorem isHalf_of_mem_places (plain : ArePlain chars) {place : Place} (member : place ∈ places chars) :
    place.isHalf = false := by
  obtain ⟨given, rfl⟩ := plain.exists_ofChars
  rw [Text.ofChars, places_ofPlaces] at member
  obtain ⟨char, -, rfl⟩ := List.mem_map.1 member
  rfl

/-- The pieces between separators are characters unless a mark or its partner separates. -/
theorem splitChars (plain : ArePlain chars) {isSeparator : Char → Bool}
    (mark : isSeparator halfMark = false) (partner : isSeparator markPartner = false) :
    ∀ piece ∈ splitChars isSeparator chars, ArePlain piece := by
  induction plain with
  | nil => simp [Text.splitChars, nil]
  | @cons char rest other _ inductionHypothesis =>
      rw [Text.splitChars]
      split
      · exact List.forall_mem_cons.2 ⟨.nil, inductionHypothesis⟩
      · cases split : Text.splitChars isSeparator rest with
        | nil => exact absurd split (splitChars_ne_nil isSeparator rest)
        | cons piece pieces =>
            rw [split] at inductionHypothesis
            obtain ⟨first, others⟩ := List.forall_mem_cons.1 inductionHypothesis
            exact List.forall_mem_cons.2 ⟨.cons other first, others⟩
  | @mark rest _ inductionHypothesis =>
      rw [Text.splitChars, Text.splitChars]
      cases split : Text.splitChars isSeparator rest with
      | nil => exact absurd split (splitChars_ne_nil isSeparator rest)
      | cons piece pieces =>
          rw [split] at inductionHypothesis
          obtain ⟨first, others⟩ := List.forall_mem_cons.1 inductionHypothesis
          simp only [mark, partner, Bool.false_eq_true, if_false]
          exact List.forall_mem_cons.2 ⟨.mark first, others⟩

end ArePlain

/-- A text of characters holds nothing else but the partners of the marks in it. -/
theorem mem_ofChars {char : Char} {given : List Char} (member : char ∈ ofChars given) :
    char ∈ given ∨ char = markPartner := by
  obtain ⟨place, inside, member⟩ := List.mem_flatMap.1 member
  obtain ⟨other, known, rfl⟩ := List.mem_map.1 inside
  rw [Place.chars] at member
  split at member
  case isTrue mark =>
    obtain rfl | same := List.mem_pair.1 member
    · exact .inl (mark ▸ known)
    · exact .inr same
  case isFalse =>
    obtain rfl := List.mem_singleton.1 member
    exact .inl known

/-- The words of a text are its pieces between blanks that are not empty. -/
theorem wordsOf_eq_filter (chars : List Char) :
    wordsOf chars = (splitChars isBlank chars).filter fun piece => !piece.isEmpty := by
  induction chars with
  | nil => rfl
  | cons char rest inductionHypothesis =>
      by_cases blank : isBlank char = true
      · rw [wordsOf_blank rest blank, splitChars, if_pos blank, inductionHypothesis]
        rfl
      · rw [wordsOf.eq_def, splitChars]
        simp only [blank, Bool.false_eq_true, if_false]
        cases rest with
        | nil => rfl
        | cons next rest =>
            by_cases blankToo : isBlank next = true
            · rw [inductionHypothesis, splitChars]
              simp [blankToo]
            · obtain ⟨piece, pieces, pieced⟩ : ∃ piece pieces,
                  splitChars isBlank (next :: rest) = (next :: piece) :: pieces := by
                rw [splitChars, if_neg blankToo]
                cases splitChars isBlank rest with
                | nil => exact ⟨[], [], rfl⟩
                | cons piece pieces => exact ⟨piece, pieces, rfl⟩
              rw [inductionHypothesis, pieced]
              simp [blankToo]

namespace IsPlain

variable {text other : String}

/-- A text of characters is kept as such. -/
theorem iff_arePlain : IsPlain text ↔ ArePlain text.toList := by
  constructor
  · rintro ⟨string, rfl⟩
    rw [ofString, String.toList_ofList]
    exact ArePlain.ofChars string.toList
  · intro plain
    obtain ⟨given, same⟩ := plain.exists_ofChars
    refine ⟨String.ofList given, ?_⟩
    rw [ofString, String.toList_ofList, same, String.ofList_toList]

/-- The same from its list of characters. -/
theorem ofList {chars : List Char} (plain : ArePlain chars) : IsPlain (String.ofList chars) :=
  iff_arePlain.2 (by rwa [String.toList_ofList])

/-- Texts one behind the other are characters if both are. -/
theorem append (plain : IsPlain text) (plainToo : IsPlain other) : IsPlain (text ++ other) := by
  rw [iff_arePlain, String.toList_append]
  exact (iff_arePlain.1 plain).append (iff_arePlain.1 plainToo)

/-- A text without a mark is characters. -/
theorem of_free (free : halfMark ∉ text.toList) : IsPlain text :=
  iff_arePlain.2 (.of_free free)

/-- Joined texts are characters if all are. -/
theorem intercalate {mark : String} (plain : IsPlain mark) {pieces : List String}
    (each : ∀ piece ∈ pieces, IsPlain piece) : IsPlain (mark.intercalate pieces) := by
  rw [iff_arePlain, String.toList_intercalate]
  induction pieces with
  | nil => exact .nil
  | cons first rest inductionHypothesis =>
      obtain ⟨here, behind⟩ := List.forall_mem_cons.1 each
      cases rest with
      | nil => simpa using iff_arePlain.1 here
      | cons second rest =>
          rw [List.map_cons, List.map_cons, List.intercalate_cons_cons]
          exact ((iff_arePlain.1 here).append (iff_arePlain.1 plain)).append
            (inductionHypothesis behind)

/-- The words of a text are characters if the text is. -/
theorem words (plain : IsPlain text) : ∀ word ∈ words text, IsPlain word := by
  intro word member
  obtain ⟨chars, inside, rfl⟩ := List.mem_map.1 member
  rw [wordsOf_eq_filter] at inside
  exact ofList ((iff_arePlain.1 plain).splitChars (by decide) (by decide) chars
    (List.mem_filter.1 inside).1)

/-- Characters are no halves. -/
theorem hasHalf (plain : IsPlain text) : hasHalf text = false := by
  rw [Text.hasHalf, List.any_eq_false]
  intro place member
  simp [(iff_arePlain.1 plain).isHalf_of_mem_places member]

end IsPlain

/-- A text cannot be encoded exactly when it has a half. -/
theorem encodingFaultFrom?_eq_none_iff (position : Nat) (places : List Place) :
    encodingFaultFrom? position places = none ↔ places.any Place.isHalf = false := by
  induction places generalizing position with
  | nil => simp [encodingFaultFrom?]
  | cons place rest inductionHypothesis =>
      cases place with
      | plain char => simpa [encodingFaultFrom?, Place.isHalf] using inductionHypothesis (position + 1)
      | half number => simp [encodingFaultFrom?, Place.isHalf]

/-- A text has bytes exactly when it has no halves. -/
theorem exists_encode_iff (text : String) :
    (∃ bytes, encode text = .ok bytes) ↔ hasHalf text = false := by
  rw [encode, encodingFault?, hasHalf, ← encodingFaultFrom?_eq_none_iff 0]
  cases encodingFaultFrom? 0 (places text.toList) <;> simp

end RosettaDaml.Text
