/-
This file says from which data the occurrence bounds of a field are read.
-/

import RosettaDaml.Proofs.Schema.RangeText
import RosettaDaml.Proofs.Schema.RoundTrip

namespace RosettaDaml

open RosettaDaml.Data Checked Reader

namespace Reader

variable {entries : Entries}

/-- A key that is there is found. -/
theorem isSome_find?_of_mem {entry : Value × Value} (member : entry ∈ entries) {name : String}
    (key : entry.1 = .text name) : (Value.find? name entries).isSome = true := by
  rw [Value.find?, Option.isSome_map, List.find?_isSome]
  exact ⟨entry, member, by simp [key, Value.sameKey]⟩

/-- Nothing is held against entries whose keys are known ones. -/
theorem closedFaults_eq_nil_iff {known : List String} :
    closedFaults known entries = [] ↔ ∀ entry ∈ entries, ∃ name ∈ known, entry.1 = .text name := by
  rw [closedFaults, List.map_eq_nil_iff, restOf, List.filterMap_eq_nil_iff]
  refine forall₂_congr fun entry member => ?_
  obtain ⟨key, content⟩ := entry
  dsimp only
  split
  case h_1 other =>
    refine iff_of_false (by simp) ?_
    rintro ⟨name, -, rfl⟩
    cases other
  case h_2 name isText =>
    obtain rfl := keyText?_eq_some_iff.1 isText
    have found := isSome_find?_of_mem member rfl
    simp [takenKeys, found]

/-- Keys that are all known are whole. -/
theorem brokenKey?_eq_none {known : List String} (whole : ∀ name ∈ known, Text.hasHalf name = false)
    (keys : ∀ entry ∈ entries, ∃ name ∈ known, entry.1 = .text name) :
    brokenKey? entries = none := by
  rw [brokenKey?, Option.map_eq_none_iff, List.find?_eq_none]
  intro entry member
  obtain ⟨name, isKnown, key⟩ := keys entry member
  simp [key, keyText?, whole name isKnown]

/-- An integer from its bound on is read as one. -/
theorem integerFrom_eq_valid_iff {bound : Nat} {given : Value}
    {number : { number : Nat // bound ≤ number }} :
    integerFrom bound given = .valid number ↔ integer given = .valid (number.val : Int) := by
  rw [integerFrom, andThen_eq_valid_iff]
  constructor
  · rintro ⟨read, known, accepted⟩
    split at accepted
    case isFalse => exact absurd accepted fail_ne_valid
    case isTrue enough =>
      cases accepted
      rw [known, Int.toNat_of_nonneg (le_trans (Int.natCast_nonneg bound) enough)]
  · intro known
    refine ⟨_, known, ?_⟩
    rw [dif_pos (Int.ofNat_le.2 number.property)]
    rfl

end Reader

namespace Cardinality

/-- The bounds that data stands for, in whatever order they are. -/
inductive Denotes : Option Value → Int → Option Int → Prop where
  | absent : Denotes none 1 (some 1)
  | range {text : String} {lower : Int} {upper : Option Int}
      (parsed : parseRange text = .ok (lower, upper)) : Denotes (some (.text text)) lower upper
  | map {given : Value} {entries : Entries} {lower : Int} {upper : Option Int}
      (isMap : given.unrolled = .map entries)
      (keys : ∀ entry ∈ entries, ∃ name ∈ ["lower", "upper"], entry.1 = .text name)
      (lowerGiven : Value.find? "lower" entries = none ∧ 1 = lower ∨
        ∃ value, Value.find? "lower" entries = some value ∧ integer value = .valid lower)
      (upperGiven : Value.find? "upper" entries = none ∧ some 1 = upper ∨
        ∃ value, Value.find? "upper" entries = some value ∧ parseUpper value = .ok upper) :
      Denotes (some given) lower upper

/-- Bounds that are in order and not negative. -/
structure HasBounds (cardinality : Cardinality) (lower : Int) (upper : Option Int) : Prop where
  nonneg : 0 ≤ lower
  ordered : ∀ bound ∈ upper, lower ≤ bound
  lower_eq : (cardinality.lower : Int) = lower
  upper_eq : cardinality.upper.map Nat.cast = upper

variable {cardinality : Cardinality}

/-- Bounds are accepted exactly when they are in order. -/
theorem checkBounds_eq_valid_iff {given : Value} {lower : Nat} {upper : Option Int} :
    checkBounds given lower upper = .valid cardinality ↔ cardinality.HasBounds lower upper := by
  constructor
  · intro accepted
    cases upper with
    | none =>
        cases accepted
        exact ⟨Int.natCast_nonneg lower, by simp, rfl, rfl⟩
    | some upper =>
        by_cases order : (lower : Int) ≤ upper
        · rw [checkBounds, ofBounds, dif_pos order] at accepted
          cases accepted
          have exact := Int.toNat_of_nonneg (le_trans (Int.natCast_nonneg lower) order)
          exact ⟨Int.natCast_nonneg lower, by simpa using order, rfl, congrArg some exact⟩
        · rw [checkBounds, ofBounds, dif_neg order] at accepted
          exact absurd accepted fail_ne_valid
  · rintro ⟨-, ordered, lowerIs, rfl⟩
    obtain rfl := Int.ofNat_inj.1 lowerIs
    exact checkBounds_bounds cardinality given

/-- An upper bound is read when it can be parsed. -/
theorem readUpper_eq_valid_iff {given : Value} {upper : Option Int} :
    readUpper given = .valid upper ↔ parseUpper given = .ok upper := by
  rw [readUpper]
  cases parseUpper given <;> simp [fail]

/-- The bounds in a map of known keys are read where the lower one is not negative. -/
theorem readEntries_eq_valid_iff {given : Value} {lower : Nat} {upper : Option Int} :
    readEntries given = .valid (lower, upper) ↔
      ∃ entries, given.unrolled = .map entries ∧
        (∀ entry ∈ entries, ∃ name ∈ ["lower", "upper"], entry.1 = .text name) ∧
        (Value.find? "lower" entries = none ∧ 1 = (lower : Int) ∨
          ∃ value, Value.find? "lower" entries = some value ∧
            integer value = .valid (lower : Int)) ∧
        (Value.find? "upper" entries = none ∧ some 1 = upper ∨
          ∃ value, Value.find? "upper" entries = some value ∧ parseUpper value = .ok upper) := by
  have whole : ∀ name ∈ ["lower", "upper"], Text.hasHalf name = false := by decide +kernel
  rw [readEntries, closed, model_eq_valid_iff]
  refine exists_congr fun entries => and_congr_right fun _ => ?_
  simp only [seq_eq_valid_iff, functorMap_eq_valid_iff, defaulted_eq_valid_iff,
    readUpper_eq_valid_iff, integerFrom_eq_valid_iff, closedFaults_eq_nil_iff]
  constructor
  · rintro ⟨-, ⟨_, _, ⟨number, lowerGiven, rfl⟩, upperGiven, same⟩, keys⟩
    cases same
    refine ⟨keys, lowerGiven.imp_left (And.imp_right ?_), upperGiven⟩
    rintro rfl
    rfl
  · rintro ⟨keys, lowerGiven, upperGiven⟩
    refine ⟨brokenKey?_eq_none whole keys, ⟨_, upper, ⟨⟨lower, Nat.zero_le lower⟩,
      lowerGiven.imp_left (And.imp_right fun same => ?_), rfl⟩, upperGiven, rfl⟩, keys⟩
    exact Subtype.ext (Int.ofNat_inj.1 same)

/-- A text is read when it is a range in order. -/
theorem readText_eq_valid_iff {given : Value} {content : String} :
    readText given content = .valid cardinality ↔
      ∃ lower upper, parseRange content = .ok (lower, upper) ∧
        cardinality.HasBounds lower upper := by
  rw [readText]
  split
  case h_1 lower upper parsed =>
    -- The digits of a range make no negative number.
    obtain ⟨_, number, _, _, same⟩ := parseRange_eq_ok_iff.1 parsed
    obtain ⟨rfl, rfl⟩ := Prod.mk.inj same
    simp [parsed, checkBounds_eq_valid_iff]
  case h_2 fails => simp [fails, fail]

/-- What is no text is read by its bounds. -/
theorem read_of_not_text {given : Value} (notText : ∀ content, given ≠ .text content) :
    Cardinality.read given =
      (readEntries given).andThen fun bounds => checkBounds given bounds.1 bounds.2 := by
  rw [Cardinality.read.eq_def]
  split
  case h_1 content => exact absurd rfl (notText content)
  case h_2 => rfl

/-- A text denotes the bounds that are parsed from it. -/
theorem denotes_text_iff {content : String} {lower : Int} {upper : Option Int} :
    Denotes (some (.text content)) lower upper ↔ parseRange content = .ok (lower, upper) := by
  constructor
  · rintro (_ | parsed | ⟨isMap, -, -, -⟩)
    · exact parsed
    · cases isMap
  · exact .range

/-- Bounds are read exactly from the data that stands for bounds in order. -/
theorem read_eq_valid_iff {given : Value} :
    Cardinality.read given = .valid cardinality ↔
      ∃ lower upper, Denotes (some given) lower upper ∧ cardinality.HasBounds lower upper := by
  by_cases isText : ∃ content, given = .text content
  · obtain ⟨content, rfl⟩ := isText
    simp only [denotes_text_iff]
    exact readText_eq_valid_iff
  · rw [read_of_not_text fun content same => isText ⟨content, same⟩, andThen_eq_valid_iff]
    constructor
    · rintro ⟨⟨lower, upper⟩, known, accepted⟩
      obtain ⟨entries, isMap, keys, lowerGiven, upperGiven⟩ := readEntries_eq_valid_iff.1 known
      exact ⟨lower, upper, .map isMap keys lowerGiven upperGiven,
        checkBounds_eq_valid_iff.1 accepted⟩
    · rintro ⟨lower, upper, denotes, bounded⟩
      obtain ⟨number, rfl⟩ := Int.eq_ofNat_of_zero_le bounded.nonneg
      cases denotes with
      | range parsed => exact absurd ⟨_, rfl⟩ isText
      | map isMap keys lowerGiven upperGiven =>
          exact ⟨(number, upper),
            readEntries_eq_valid_iff.2 ⟨_, isMap, keys, lowerGiven, upperGiven⟩,
            checkBounds_eq_valid_iff.2 bounded⟩

/-- The bounds of a field are read exactly from data that stands for bounds in order; without any
the field occurs once. -/
theorem defaulted_eq_valid_iff {entries : Entries} :
    defaulted "card" .one Cardinality.read entries = .valid cardinality ↔
      ∃ lower upper, Denotes (Value.find? "card" entries) lower upper ∧
        cardinality.HasBounds lower upper := by
  rw [Reader.defaulted_eq_valid_iff]
  cases Value.find? "card" entries with
  | some given => simp [read_eq_valid_iff]
  | none =>
      constructor
      · rintro (⟨-, rfl⟩ | ⟨_, missing, -⟩)
        · exact ⟨1, some 1, .absent, by decide, by simp, rfl, rfl⟩
        · cases missing
      · rintro ⟨_, _, ⟨⟩, bounded⟩
        have accepted : checkBounds .null 1 (some 1) = .valid cardinality :=
          checkBounds_eq_valid_iff.2 bounded
        exact .inl ⟨rfl, Checked.valid.inj accepted⟩

end Cardinality

end RosettaDaml
