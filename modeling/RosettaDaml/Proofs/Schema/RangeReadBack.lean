/-
This file shows that written bounds are read back, with or without parentheses and with any blanks.
-/

import RosettaDaml.Proofs.Schema.RangeText
import RosettaDaml.Proofs.Schema.RoundTrip

namespace RosettaDaml

open RosettaDaml.Data Text

namespace RangeLayout

/-- The layout without blanks, with both parentheses. -/
def plain : RangeLayout where
  before := ⟨[], by simp⟩
  opening := some ⟨[], by simp⟩
  beforeDots := ⟨[], by simp⟩
  afterDots := ⟨[], by simp⟩
  closing := some ⟨[], by simp⟩
  after := ⟨[], by simp⟩

/-- The text of bounds that is set in some way. -/
def write (layout : RangeLayout) (cardinality : Cardinality) : String :=
  String.ofList (layout.chars (toString cardinality.lower).toList
    (Cardinality.limitText cardinality.upper).toList)

/-- The plain layout writes a cardinality as it is written on its own. -/
theorem write_plain (cardinality : Cardinality) : plain.write cardinality = cardinality.write := by
  have written : cardinality.write =
      "(" ++ toString cardinality.lower ++ ".." ++ Cardinality.limitText cardinality.upper ++ ")" :=
    rfl
  apply String.toList_injective
  rw [written]
  simp [write, plain, chars, core, openingChars, closingChars]

end RangeLayout

namespace Cardinality

/-- Bounds that are short enough to be written and read. -/
structure IsShort (cardinality : Cardinality) : Prop where
  lower : isWritable cardinality.lower = true
  upper : ∀ bound ∈ cardinality.upper, isWritable bound = true

/-- A limit that is written is a limit. -/
theorem isLimit_limitText {upper : Option Nat} (short : ∀ bound ∈ upper, isWritable bound = true) :
    IsLimit (limitText upper).toList upper := by
  cases upper with
  | none => exact .star
  | some bound => exact .numeral (isNumeral_toString (short bound rfl))

/-- A layout spells what it writes. -/
theorem spells_write {cardinality : Cardinality} (short : cardinality.IsShort)
    (layout : RangeLayout) :
    layout.Spells (layout.write cardinality) cardinality.lower cardinality.upper :=
  ⟨_, _, String.toList_ofList, isNumeral_toString short.lower, isLimit_limitText short.upper⟩

/-- Bounds are read from their text, however it is set. -/
theorem parseRange_write {cardinality : Cardinality} (short : cardinality.IsShort)
    (layout : RangeLayout) :
    parseRange (layout.write cardinality) =
      .ok (cardinality.lower, cardinality.upper.map Nat.cast) :=
  parseRange_eq_ok_iff.2 ⟨layout, _, _, spells_write short layout, rfl⟩

/-- A cardinality is read from a text of its bounds. -/
theorem read_text_of_parseRange {cardinality : Cardinality} {content : String}
    (parsed : parseRange content = .ok (cardinality.lower, cardinality.upper.map Nat.cast)) :
    Cardinality.read (.text content) = .valid cardinality := by
  rw [Cardinality.read, readText, parsed]
  exact checkBounds_bounds cardinality (.text content)

/-- Written bounds are read back as a range and as a cardinality, however they are set, and no other
bounds are ever written alike. -/
theorem write_comesBack {cardinality : Cardinality} (short : cardinality.IsShort)
    (layout : RangeLayout) :
    RangeLayout.plain.write cardinality = cardinality.write ∧
    parseRange (layout.write cardinality) =
      .ok (cardinality.lower, cardinality.upper.map Nat.cast) ∧
    Cardinality.read (.text (layout.write cardinality)) = .valid cardinality ∧
    ∀ (other : Cardinality) (otherLayout : RangeLayout), other.IsShort →
      otherLayout.write other = layout.write cardinality → other = cardinality := by
  have parsed := parseRange_write short layout
  have isRead := read_text_of_parseRange parsed
  refine ⟨RangeLayout.write_plain cardinality, parsed, isRead, ?_⟩
  intro other otherLayout otherShort alike
  have otherRead := read_text_of_parseRange (parseRange_write otherShort otherLayout)
  rw [alike, isRead] at otherRead
  exact (Checked.valid.inj otherRead).symm

theorem write_comesBack_spaced :
    let cardinality : Cardinality := ⟨2, some 10, by simp⟩
    let layout : RangeLayout :=
      ⟨⟨['\n'], by simp [isBlank]⟩, some ⟨[' '], by simp [isBlank]⟩, ⟨['\t'], by simp [isBlank]⟩,
        ⟨[], by simp⟩, some ⟨[' ', ' '], by simp [isBlank]⟩, ⟨[' '], by simp [isBlank]⟩⟩
    cardinality.IsShort ∧ layout.write cardinality = "\n( 2\t..10  ) " ∧
      parseRange "\n( 2\t..10  ) " = .ok (2, some 10) ∧
      Cardinality.read (.text "\n( 2\t..10  ) ") = .valid cardinality := by
  intro cardinality layout
  have short : cardinality.IsShort := ⟨by decide +kernel, by decide +kernel⟩
  have written : layout.write cardinality = "\n( 2\t..10  ) " := by decide +kernel
  obtain ⟨-, parsed, isRead, -⟩ := write_comesBack short layout
  rw [written] at parsed isRead
  exact ⟨short, written, parsed, isRead⟩

end Cardinality

end RosettaDaml
