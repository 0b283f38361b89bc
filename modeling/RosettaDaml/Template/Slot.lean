/-
This file reads a template: characters that stay, and slots that say how an argument is written.
-/

import RosettaDaml.Text.Place

namespace RosettaDaml.Template

/-- Which argument a slot takes. -/
inductive SlotKey where
  | next
  | named (key : String)
  /-- A key without its closing parenthesis. -/
  | unclosed
  deriving DecidableEq, Repr

/-- A count that is written in the slot, or that an argument gives. -/
inductive Extent where
  | given (count : Nat)
  | taken
  deriving DecidableEq, Repr

/-- Zeros fill the front of a number only. -/
structure SlotStyle where
  leftAligned : Bool
  plusSign : Bool
  blankSign : Bool
  zeroFilled : Bool
  alternate : Bool
  deriving DecidableEq, Repr

structure Slot where
  key : SlotKey
  style : SlotStyle
  width : Option Extent
  precision : Option Extent
  /-- The letter for the kind of the text; there is none where the template ends too early. -/
  mark : Option Text.Place
  deriving DecidableEq, Repr

/-- A slot comes with the number of places in front of its mark. -/
inductive Piece where
  | char (char : Char)
  | slot (slot : Slot) (index : Nat)
  deriving DecidableEq, Repr

/-- The characters up to the parenthesis that closes those already open. -/
def takeKey? (depth : Nat) : List Char → Option (List Char × List Char)
  | [] => none
  | char :: rest =>
      if char == ')' then
        match depth with
        | 0 => some ([], rest)
        | outer + 1 => (takeKey? outer rest).map fun (key, rest) => (char :: key, rest)
      else
        let depth := if char == '(' then depth + 1 else depth
        (takeKey? depth rest).map fun (key, rest) => (char :: key, rest)

def takeSlotKey : List Char → SlotKey × List Char
  | '(' :: rest =>
      match takeKey? 0 rest with
      | some (key, rest) => (.named (String.ofList key), rest)
      | none => (.unclosed, [])
  | rest => (.next, rest)

def styleMarks : List Char := ['-', '+', ' ', '#', '0']

def takeStyle (chars : List Char) : SlotStyle × List Char :=
  let marks := chars.takeWhile styleMarks.contains
  (⟨marks.contains '-', marks.contains '+', marks.contains ' ', marks.contains '0',
    marks.contains '#'⟩, chars.dropWhile styleMarks.contains)

def isExtentDigit (char : Char) : Bool := '0' ≤ char && char ≤ '9'

def countOf (digits : List Char) : Nat :=
  digits.foldl (fun total digit => 10 * total + (digit.toNat - '0'.toNat)) 0

def takeExtent (chars : List Char) : Option Extent × List Char :=
  match chars with
  | '*' :: rest => (some .taken, rest)
  | _ =>
      let digits := chars.takeWhile isExtentDigit
      (if digits.isEmpty then none else some (.given (countOf digits)),
        chars.dropWhile isExtentDigit)

/-- A point alone stands for the precision zero. -/
def takePrecision : List Char → Option Extent × List Char
  | '.' :: rest =>
      let (extent, rest) := takeExtent rest
      (some (extent.getD (.given 0)), rest)
  | rest => (none, rest)

/-- A letter for the size of a number has no meaning. -/
def dropSize : List Char → List Char
  | [] => []
  | char :: rest => if ['h', 'l', 'L'].contains char then rest else char :: rest

def takeSlot (chars : List Char) : Slot × List Char :=
  let (key, chars) := takeSlotKey chars
  let (style, chars) := takeStyle chars
  let (width, chars) := takeExtent chars
  let (precision, chars) := takePrecision chars
  let (mark, rest) := Text.takePlace (dropSize chars)
  (⟨key, style, width, precision, mark⟩, rest)

theorem takeKey?_length {depth : Nat} {chars key rest : List Char}
    (found : takeKey? depth chars = some (key, rest)) : rest.length ≤ chars.length := by
  induction chars generalizing depth key with
  | nil => simp [takeKey?] at found
  | cons char more ih =>
      simp only [takeKey?] at found
      split at found
      · cases depth with
        | zero => simp_all
        | succ outer =>
            simp only [Option.map_eq_some_iff, Prod.mk.injEq] at found
            obtain ⟨⟨inner, behind⟩, taken, _, rfl⟩ := found
            exact Nat.le_succ_of_le (ih taken)
      · simp only [Option.map_eq_some_iff, Prod.mk.injEq] at found
        obtain ⟨⟨inner, behind⟩, taken, _, rfl⟩ := found
        exact Nat.le_succ_of_le (ih taken)

theorem takeSlotKey_length (chars : List Char) :
    (takeSlotKey chars).2.length ≤ chars.length := by
  unfold takeSlotKey
  split
  · split
    · next found => exact Nat.le_succ_of_le (takeKey?_length found)
    · simp
  · exact Nat.le_refl _

theorem length_dropWhile_le (keep : Char → Bool) (chars : List Char) :
    (chars.dropWhile keep).length ≤ chars.length :=
  (List.dropWhile_suffix keep).length_le

theorem takeExtent_length (chars : List Char) : (takeExtent chars).2.length ≤ chars.length := by
  unfold takeExtent
  split
  · simp
  · exact length_dropWhile_le _ _

theorem takePrecision_length (chars : List Char) :
    (takePrecision chars).2.length ≤ chars.length := by
  unfold takePrecision
  split
  · exact Nat.le_succ_of_le (takeExtent_length _)
  · exact Nat.le_refl _

theorem dropSize_length (chars : List Char) : (dropSize chars).length ≤ chars.length := by
  unfold dropSize
  split
  · exact Nat.le_refl _
  · split <;> simp

/-- What follows a slot is not longer than what the slot was read from. -/
theorem takeSlot_length (chars : List Char) : (takeSlot chars).2.length ≤ chars.length := by
  simp only [takeSlot]
  refine Nat.le_trans (Text.takePlace_length _) (Nat.le_trans (dropSize_length _) ?_)
  refine Nat.le_trans (takePrecision_length _) (Nat.le_trans (takeExtent_length _) ?_)
  exact Nat.le_trans (length_dropWhile_le _ _) (takeSlotKey_length _)

/-- The pieces of a template whose size is given. Two percent signs stand for one. -/
def pieces (size : Nat) : List Char → List Piece
  | [] => []
  | char :: rest =>
      if char != '%' then .char char :: pieces size rest
      else if rest.head? == some '%' then .char '%' :: pieces size rest.tail
      else
        let taken := takeSlot rest
        .slot taken.1 (size - Text.size taken.2 - 1) :: pieces size taken.2
  termination_by chars => chars.length
  decreasing_by
    · exact Nat.lt_succ_self rest.length
    · refine Nat.lt_succ_of_le ?_
      rw [List.length_tail]
      exact Nat.sub_le rest.length 1
    · exact Nat.lt_succ_of_le (takeSlot_length rest)

def read (template : String) : List Piece :=
  pieces (Text.size template.toList) template.toList

end RosettaDaml.Template
