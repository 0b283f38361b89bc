/-
This file shows that a text is refused for bytes that are not UTF-8 only if it holds such bytes.
-/

import RosettaDaml.Proofs.Yaml.Composing

namespace RosettaDaml.Yaml

open RosettaDaml.Data

/-- What is built from characters that have been read is not refused for broken bytes. -/
def decodedLaw : Law (Except Failure) where
  Holds result := result ≠ .error .notUtf8
  holds_pure _ := by simp [pure, Except.pure]
  holds_bind := by
    intro First Second first next holds holdsNext
    cases first with
    | error failure =>
        intro broken
        exact holds (congrArg Except.error (Except.error.inj broken))
    | ok result => exact holdsNext result

section

variable {Given Result : Type}

/-- What is there is no failure. -/
theorem decoded_ok (result : Result) : decodedLaw.Holds (.ok result) := decodedLaw.holds_pure result

/-- A failure of another kind is allowed everywhere. -/
theorem decoded_error {failure : Failure} (decoded : failure ≠ .notUtf8) :
    decodedLaw.Holds (.error failure : Except Failure Result) :=
  fun broken => decoded (Except.error.inj broken)

/-- The same for a failure that is thrown. -/
theorem decoded_throw {failure : Failure} (decoded : failure ≠ .notUtf8) :
    decodedLaw.Holds (throw failure : Except Failure Result) := decoded_error decoded

/-- What is made of a result does not matter for its failures. -/
theorem decoded_map {result : Except Failure Given} (change : Given → Result)
    (holds : decodedLaw.Holds result) : decodedLaw.Holds (result.map change) := by
  cases result with
  | ok given => exact decoded_ok (change given)
  | error failure => exact decoded_error fun broken => holds (congrArg Except.error broken)

end

/-! Scalars. -/

/-- Digits that are none in a base are a failure of the value. -/
theorem decoded_integerInBase (base : Nat) (letter : Char) (chars : List Char) :
    decodedLaw.Holds (integerInBase base letter chars) := by
  unfold integerInBase
  dsimp only
  split
  · exact decoded_ok _
  · exact decoded_error (by simp)

/-- So are too many decimal digits. -/
theorem decoded_decimalInteger (chars : List Char) : decodedLaw.Holds (decimalInteger chars) := by
  unfold decimalInteger
  split
  · exact decoded_ok _
  · exact decoded_error (by simp)
  · exact decoded_error (by simp)

/-- A number in sixties fails as one of its digits does. -/
theorem decoded_inSixties {Digit : Type} {read : List Char → Except Failure Digit}
    (holds : ∀ digits, decodedLaw.Holds (read digits)) (chars : List Char) :
    decodedLaw.Holds (inSixties read chars) :=
  decodedLaw.holds_mapM _ holds

/-- The digits in sixties are decimal integers. -/
theorem decoded_sexagesimalInteger (chars : List Char) :
    decodedLaw.Holds (sexagesimalInteger chars) :=
  decodedLaw.holds_bind_pure (decoded_inSixties decoded_decimalInteger chars) _

/-- An integer has a base, or sixties, or decimal digits. -/
theorem decoded_magnitude (chars : List Char) : decodedLaw.Holds (magnitude chars) := by
  unfold magnitude
  split
  · exact decoded_error (by simp)
  · exact decoded_ok 0
  · exact decoded_integerInBase _ _ _
  · exact decoded_integerInBase _ _ _
  · exact decoded_integerInBase _ _ _
  · split
    · exact decoded_sexagesimalInteger _
    · exact decoded_decimalInteger _

/-- A sign changes nothing about the failures of an integer. -/
theorem decoded_readInt (text : String) : decodedLaw.Holds (readInt text) := by
  unfold readInt
  apply decodedLaw.holds_guarded (decoded_throw (by simp))
  exact decodedLaw.holds_bind_pure (decoded_magnitude _) _

/-- A text that is no real number is a failure of the value. -/
theorem decoded_real (chars : List Char) : decodedLaw.Holds (real chars) := by
  unfold real
  split
  · exact decoded_ok _
  · exact decoded_error (by simp)

/-- The digits of a real number in sixties are real numbers. -/
theorem decoded_sexagesimalReal (chars : List Char) :
    decodedLaw.Holds (sexagesimalReal chars) := by
  unfold sexagesimalReal
  apply decodedLaw.holds_bind (decoded_inSixties decoded_real chars)
  intro digits
  apply decodedLaw.holds_bind
  · apply decodedLaw.holds_foldlM
    rintro ⟨total, unit⟩ digit
    dsimp only
    split
    · exact decoded_ok _
    · exact decoded_error (by simp)
  · intro sum
    exact decoded_ok sum.1

/-- A real number is special, in sixties, or decimal. -/
theorem decoded_readReal (text : String) : decodedLaw.Holds (readReal text) := by
  unfold readReal
  apply decodedLaw.holds_guarded (decoded_throw (by simp))
  dsimp only
  split
  · exact decoded_ok _
  · exact decoded_ok _
  · split
    · exact decodedLaw.holds_bind_pure (decoded_sexagesimalReal _) _
    · exact decodedLaw.holds_bind_pure (decoded_real _) _

/-- A word that is no truth value is a failure of the value. -/
theorem decoded_readBoolean (text : String) : decodedLaw.Holds (readBoolean text) := by
  unfold readBoolean
  extract_lets word
  split
  · exact decoded_ok _
  · split
    · exact decoded_ok _
    · exact decoded_error (by simp)

/-- Bytes that are written wrongly are a failure of the value. -/
theorem decoded_readBytes (text : String) : decodedLaw.Holds (readBytes text) := by
  unfold readBytes
  split
  · split
    · exact decoded_ok _
    · exact decoded_error (by simp)
  · exact decoded_error (by simp)

/-- So is a date that there is not. -/
theorem decoded_readTimestamp (text : String) : decodedLaw.Holds (readTimestamp text) := by
  unfold readTimestamp
  split
  · exact decoded_error (by simp)
  · rename_i parts _
    cases parts.value with
    | ok value => exact decoded_ok value
    | error fault => exact decoded_error (by simp)

/-- The tag of a scalar decides which of these it is read by. -/
theorem decoded_scalarValue (tag : Tag) (text : String) :
    decodedLaw.Holds (tag.scalarValue text) := by
  unfold Tag.scalarValue
  split
  · exact decoded_ok _
  · exact decoded_readBoolean text
  · exact decoded_map _ (decoded_readInt text)
  · exact decoded_map _ (decoded_readReal text)
  · exact decoded_ok _
  · exact decoded_readBytes text
  · exact decoded_readTimestamp text
  · exact decoded_error (by simp)

/-! Merged mappings. -/

/-- Mappings are merged into others level by level, by induction on the fuel that both functions
share. -/
theorem Graph.decoded_flatten_and_takeMerges (fuel : Nat) :
    (∀ number graph, decodedLaw.Holds (flatten fuel number graph)) ∧
      ∀ number merged graph, decodedLaw.Holds (takeMerges fuel number merged graph) := by
  -- Both call each other with less fuel, so they are dealt with together.
  induction fuel with
  | zero =>
      exact ⟨fun _ graph => decoded_ok graph, fun _ merged graph => decoded_ok (merged, graph)⟩
  | succ fuel inductionHypothesis =>
      obtain ⟨flattens, takes⟩ := inductionHypothesis
      constructor
      · intro number graph
        unfold flatten
        apply decodedLaw.holds_bind (takes number [] _)
        rintro ⟨merged, graph⟩
        dsimp only
        split
        · exact decoded_ok _
        · exact decoded_ok _
      · intro number merged graph
        unfold takeMerges
        split
        · exact decoded_ok _
        · dsimp only
          split
          · exact decodedLaw.holds_bind (flattens _ _) fun _ => takes _ _ _
          · apply decodedLaw.holds_bind
            · apply decodedLaw.holds_foldlM
              rintro ⟨lists, graph⟩ item
              apply decodedLaw.holds_guarded (decoded_throw (by simp))
              exact decodedLaw.holds_bind_pure (flattens item graph) _
            · intro taken
              exact takes _ _ _
          · exact decoded_error (by simp)

/-- The merged mapping alone. -/
theorem Graph.decoded_flatten (fuel number : Nat) (graph : Graph) :
    decodedLaw.Holds (flatten fuel number graph) :=
  (decoded_flatten_and_takeMerges fuel).1 number graph

namespace Build

abbrev decodedLaw : Law Build := Yaml.decodedLaw.withState Builder

/-- A failure of another kind may be met while values are built. -/
theorem decoded_throw {Result : Type} {failure : Failure} (decoded : failure ≠ .notUtf8) :
    decodedLaw.Holds (throw failure : Build Result) :=
  Yaml.decodedLaw.holds_throw (decoded_error decoded)

/-- A node of the wrong kind is one of these. -/
theorem decoded_fail {Result : Type} : decodedLaw.Holds (fail : Build Result) :=
  decoded_throw (by simp)

/-- A node is looked up in the graph. -/
theorem decoded_node (number : Nat) : decodedLaw.Holds (node number) :=
  decodedLaw.holds_bind_pure Yaml.decodedLaw.holds_get _

/-- A mapping without a default key has no text; the default keys are followed by induction on the
fuel. -/
theorem decoded_scalarText (graph : Graph) (fuel number : Nat) :
    Yaml.decodedLaw.Holds (scalarText graph fuel number) := by
  induction fuel generalizing number with
  | zero => exact decoded_error (by simp)
  | succ fuel inductionHypothesis =>
      unfold scalarText
      split
      · exact decoded_ok _
      · exact decoded_error (by simp)
      · split
        · exact inductionHypothesis _
        · exact decoded_error (by simp)

/-- A node on its own is built from its text. -/
theorem decoded_single (number : Nat) (node : Node) : decodedLaw.Holds (single number node) := by
  unfold single
  apply decodedLaw.holds_guarded (decoded_throw (by simp))
  apply decodedLaw.holds_bind Yaml.decodedLaw.holds_get
  intro builder
  apply decodedLaw.holds_bind (Yaml.decodedLaw.holds_liftM (decoded_scalarText _ _ number))
  intro text
  apply decodedLaw.holds_guarded (decoded_throw (by simp))
  exact decodedLaw.holds_bind_pure (Yaml.decodedLaw.holds_liftM (decoded_scalarValue _ text)) _

/-- A node is built once, and is then found in the store. -/
theorem decoded_piece (number : Nat) : decodedLaw.Holds (piece number) := by
  unfold piece
  apply decodedLaw.holds_bind Yaml.decodedLaw.holds_get
  intro builder
  split
  · exact decodedLaw.holds_pure _
  · apply decodedLaw.holds_bind (decoded_node number)
    intro node
    extract_lets rest
    have keeps (built : Piece) : decodedLaw.Holds (rest built) :=
      decodedLaw.holds_then (Yaml.decodedLaw.holds_modify _) (decodedLaw.holds_pure built)
    split
    · exact decodedLaw.holds_bind (decodedLaw.holds_pure _) keeps
    · exact decodedLaw.holds_bind (decoded_single number node) keeps

/-- The entries of a mapping are built one by one. -/
theorem decoded_entries (number : Nat) : decodedLaw.Holds (entries number) := by
  unfold entries
  apply decodedLaw.holds_bind Yaml.decodedLaw.holds_get
  intro builder
  apply decodedLaw.holds_guarded decoded_fail
  apply decodedLaw.holds_bind (Yaml.decodedLaw.holds_liftM (Graph.decoded_flatten _ number _))
  intro nodes
  apply decodedLaw.holds_then (Yaml.decodedLaw.holds_set _)
  apply decodedLaw.holds_bind_pure
  apply decodedLaw.holds_foldlM
  intro gathered entry
  apply decodedLaw.holds_bind (decoded_piece _)
  intro key
  split
  · exact decoded_fail
  · exact decodedLaw.holds_bind_pure (decoded_piece _) _

/-- So are the items of a sequence. -/
theorem decoded_items (number : Nat) : decodedLaw.Holds (items number) := by
  unfold items
  apply decodedLaw.holds_bind (decoded_node number)
  intro node
  split
  · exact decodedLaw.holds_pure _
  · exact decoded_fail

/-- A pair is an item with a single entry. -/
theorem decoded_pair (number : Nat) : decodedLaw.Holds (pair number) := by
  unfold pair
  apply decodedLaw.holds_bind (decoded_node number)
  intro node
  split
  · apply decodedLaw.holds_bind (decoded_piece _)
    intro key
    exact decodedLaw.holds_bind_pure (decoded_piece _) _
  · exact decoded_fail

/-- The tag of a collection decides what is built of it. -/
theorem decoded_content (number : Nat) : decodedLaw.Holds (content number) := by
  unfold content
  apply decodedLaw.holds_bind (decoded_node number)
  intro node
  split
  · exact decodedLaw.holds_bind_pure (decoded_entries number) _
  · exact decodedLaw.holds_bind_pure (decoded_entries number) _
  · apply decodedLaw.holds_bind (decoded_items number)
    intro items
    exact decodedLaw.holds_bind_pure (decodedLaw.holds_mapM items decoded_piece) _
  · apply decodedLaw.holds_bind (decoded_items number)
    intro items
    exact decodedLaw.holds_bind_pure (decodedLaw.holds_mapM items decoded_pair) _

/-- The content of a node is put where the node was announced. -/
theorem decoded_fill (number : Nat) : decodedLaw.Holds (fill number) :=
  decodedLaw.holds_bind (decoded_content number) fun _ => Yaml.decodedLaw.holds_modify _

/-- Contents are filled in level by level, by induction on the fuel. -/
theorem decoded_fillLevels (fuel : Nat) : decodedLaw.Holds (fillLevels fuel) := by
  induction fuel with
  | zero => exact decodedLaw.holds_pure ()
  | succ fuel inductionHypothesis =>
      unfold fillLevels
      apply decodedLaw.holds_bind Yaml.decodedLaw.holds_get
      intro builder
      apply decodedLaw.holds_then (Yaml.decodedLaw.holds_modify _)
      split
      · exact decodedLaw.holds_then (decodedLaw.holds_forM _ decoded_fill) inductionHypothesis
      · exact decodedLaw.holds_pure ()

end Build

/-- The value of a document is built from its root, or is nothing. -/
theorem Document.decoded_value (document : Document) : decodedLaw.Holds document.value := by
  unfold value
  split
  · exact decoded_ok _
  · rename_i root _
    have builds : Build.decodedLaw.Holds (do
        let piece ← Build.piece root
        Build.fillLevels (document.nodes.size + 1)
        return piece) := by
      apply Build.decodedLaw.holds_bind (Build.decoded_piece root)
      intro piece
      exact Build.decodedLaw.holds_then (Build.decoded_fillLevels _)
        (Build.decodedLaw.holds_pure piece)
    exact decodedLaw.holds_bind_pure (builds _) _

/-- A text is refused for broken bytes only if its characters end with them. -/
theorem ending_of_valueOf {source : Source} (broken : valueOf source = .error .notUtf8) :
    source.ending = some .notUtf8 := by
  rw [valueOf] at broken
  cases read : Document.ofSource source with
  | error failure =>
      rw [read] at broken
      obtain rfl := Except.error.inj broken
      exact Document.ending_of_ofSource read
  | ok document =>
      rw [read] at broken
      exact absurd broken document.decoded_value

/-- Characters that are not allowed end a source earlier, for a reason of their own. -/
theorem Source.ending_ofChars {chars : List Char} {ending : Option Failure}
    (broken : (ofChars chars ending).ending = some .notUtf8) : ending = some .notUtf8 := by
  rw [ofChars] at broken
  split at broken
  · exact absurd broken (by simp)
  · exact broken

/-- A file is refused for its bytes only if they are not the UTF-8 form of a text. -/
theorem toUTF8_ne_of_valueOf {content : ByteArray}
    (broken : valueOf (.ofBytes content) = .error .notUtf8) (text : String) :
    text.toUTF8 ≠ content := by
  rintro rfl
  have read : String.fromUTF8? text.toUTF8 = some text := by
    exact dif_pos text.isValidUTF8
  have ends := ending_of_valueOf broken
  rw [Source.ofBytes, read] at ends
  exact absurd (Source.ending_ofChars ends) (by simp)

end RosettaDaml.Yaml
