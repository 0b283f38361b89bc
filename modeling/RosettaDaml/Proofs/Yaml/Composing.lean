/-
This file shows that building the nodes of a text meets bytes that are not UTF-8 only where the
source says so.
-/

import RosettaDaml.Proofs.Yaml.Lexing

namespace RosettaDaml.Yaml

namespace Compose

abbrev endLaw : Law Compose := Lexing.endLaw.withState Composer

variable {Parts : Type}

/-- A failure of another kind is allowed everywhere. -/
theorem holds_throw {failure : Failure} (decoded : failure ≠ .notUtf8) :
    endLaw.Holds (throw failure : Compose Parts) :=
  Lexing.endLaw.holds_throw (Scan.endLaw.holds_throw (Scan.holds_throw decoded))

/-- A text with the wrong tokens is an error of the syntax. -/
theorem holds_fail : endLaw.Holds (fail : Compose Parts) := holds_throw (by simp)

/-- The next token is looked at as the lexer does. -/
theorem holds_next : endLaw.Holds next := Lexing.endLaw.holds_liftM Lexing.holds_next

/-- And it is taken as the lexer does. -/
theorem holds_drop : endLaw.Holds drop := Lexing.endLaw.holds_liftM Lexing.holds_drop

/-- Another token than the one that is expected is an error of the syntax. -/
theorem holds_expect (token : Token) : endLaw.Holds (expect token) := by
  unfold expect
  apply endLaw.holds_bind holds_next
  intro given
  split
  · exact holds_drop
  · exact holds_fail

/-- A token is taken only when it is the one that is looked for. -/
theorem holds_skip? (token : Token) : endLaw.Holds (skip? token) := by
  unfold skip?
  apply endLaw.holds_bind holds_next
  intro given
  split
  · exact endLaw.holds_then holds_drop (endLaw.holds_pure true)
  · exact endLaw.holds_pure false

/-- To look whether the next token is one of some is to look at it. -/
theorem holds_nextIsAmong (tokens : List Token) : endLaw.Holds (nextIsAmong tokens) :=
  endLaw.holds_bind_pure holds_next _

/-- A new node is known to the composer. -/
theorem holds_add (node : Node) : endLaw.Holds (add node) := Lexing.endLaw.holds_modifyGet _

/-- An empty node is a new node. -/
theorem holds_emptyNode : endLaw.Holds emptyNode := holds_add _

/-! One node. -/

/-- An anchor is one token. -/
theorem holds_anchor? : endLaw.Holds anchor? := by
  unfold anchor?
  apply endLaw.holds_bind holds_next
  intro token
  split
  · exact endLaw.holds_then holds_drop (endLaw.holds_pure _)
  · exact endLaw.holds_pure none

/-- A tag is one token. -/
theorem holds_tag? : endLaw.Holds tag? := by
  unfold tag?
  apply endLaw.holds_bind holds_next
  intro token
  split
  · exact endLaw.holds_then holds_drop (endLaw.holds_pure _)
  · exact endLaw.holds_pure none

/-- An anchor and a tag are read in the order in which they stand. -/
theorem holds_properties : endLaw.Holds properties := by
  unfold properties
  apply endLaw.holds_bind holds_anchor?
  intro anchor
  split
  · exact endLaw.holds_bind_pure holds_tag? _
  · apply endLaw.holds_bind holds_tag?
    intro tag
    split
    · exact endLaw.holds_bind_pure holds_anchor? _
    · exact endLaw.holds_pure _

/-- A handle that no directive defines is an error of the syntax. -/
theorem holds_tagName? (tag : Option TagText) : endLaw.Holds (tagName? tag) := by
  unfold tagName?
  split
  · exact endLaw.holds_pure none
  · exact endLaw.holds_pure _
  · apply endLaw.holds_bind Lexing.endLaw.holds_get
    intro composer
    split
    · exact endLaw.holds_pure _
    · exact holds_fail

/-- A name that is given twice is an error of the syntax. -/
theorem holds_nameNode (anchor : Option String) (number : Nat) :
    endLaw.Holds (nameNode anchor number) := by
  unfold nameNode
  split
  · apply endLaw.holds_bind Lexing.endLaw.holds_get
    intro composer
    exact endLaw.holds_guarded holds_fail (Lexing.endLaw.holds_modify _)
  · exact endLaw.holds_pure ()

/-- A scalar is a new node with a name. -/
theorem holds_scalar (anchor : Option String) (tag : Tag) (text : String) :
    endLaw.Holds (scalar anchor tag text) := by
  unfold scalar
  apply endLaw.holds_bind (holds_add _)
  intro number
  exact endLaw.holds_then (holds_nameNode anchor number) (endLaw.holds_pure number)

/-- The parts of a collection are read one level deeper; too deep a level is another failure. -/
theorem holds_inside {parts : Compose Parts} (holds : endLaw.Holds parts) :
    endLaw.Holds (inside parts) := by
  unfold inside
  apply endLaw.holds_bind Lexing.endLaw.holds_get
  intro composer
  apply endLaw.holds_guarded (holds_throw (by simp))
  apply endLaw.holds_then (Lexing.endLaw.holds_modify _)
  apply endLaw.holds_bind holds
  intro given
  exact endLaw.holds_then (Lexing.endLaw.holds_modify _) (endLaw.holds_pure given)

/-- A collection is a new node with a name, whose parts come later. -/
theorem holds_collection (anchor : Option String) (make : Parts → Node) {parts : Compose Parts}
    (holds : endLaw.Holds parts) : endLaw.Holds (collection anchor make parts) := by
  unfold collection
  apply endLaw.holds_bind holds_emptyNode
  intro number
  apply endLaw.holds_then (holds_nameNode anchor number)
  apply endLaw.holds_bind (holds_inside holds)
  intro given
  exact endLaw.holds_then (Lexing.endLaw.holds_modify _) (endLaw.holds_pure number)

/-- A reference to no node is an error of the syntax. -/
theorem holds_reference (name : String) : endLaw.Holds (reference name) := by
  unfold reference
  apply endLaw.holds_bind Lexing.endLaw.holds_get
  intro composer
  split
  · exact endLaw.holds_pure _
  · exact holds_fail

/-- A node that is missing is one when it has a name or a tag. -/
theorem holds_missing (anchor tag : Option String) : endLaw.Holds (missing anchor tag) := by
  unfold missing
  exact endLaw.holds_guarded holds_fail (holds_scalar anchor _ _)

/-- All readers of nodes and of their parts, up to a bound. -/
structure Hold (fuel : Nat) : Prop where
  node : ∀ place, endLaw.Holds (node place fuel)
  nodeUnless : ∀ tokens place, endLaw.Holds (nodeUnless tokens place fuel)
  blockItems : endLaw.Holds (blockItems fuel)
  keyEntries : endLaw.Holds (keyEntries fuel)
  valueUnless : ∀ tokens place, endLaw.Holds (valueUnless tokens place fuel)
  blockEntries : endLaw.Holds (blockEntries fuel)
  flowItems : ∀ first, endLaw.Holds (flowItems first fuel)
  flowEntries : ∀ first, endLaw.Holds (flowEntries first fuel)

/-- The parts of a flow collection that stand behind its start, or behind a comma. -/
theorem flow_succ {Item : Type} (first : Bool) (ending : Token) {rest : Compose (List Item)}
    (keeps : endLaw.Holds rest) :
    endLaw.Holds (do
      if ← skip? ending then return []
      if !first then expect .flowEntry
      rest) := by
  apply endLaw.holds_bind (holds_skip? ending)
  intro ended
  split
  · exact endLaw.holds_pure []
  · exact endLaw.holds_guarded (holds_expect .flowEntry) keeps

namespace Hold

variable {fuel : Nat} (below : Hold fuel)

include below

/-- A node is a reference, a scalar or a collection. -/
theorem node_succ (place : Place) : endLaw.Holds (Compose.node place (fuel + 1)) := by
  unfold Compose.node
  apply endLaw.holds_bind holds_next
  intro first
  split
  · apply endLaw.holds_then holds_drop
    exact holds_reference _
  · apply endLaw.holds_bind holds_properties
    intro properties
    apply endLaw.holds_bind (holds_tagName? properties.tag)
    intro tag
    apply endLaw.holds_bind holds_next
    intro token
    split
    · split
      · exact holds_collection _ _ below.keyEntries
      · exact holds_missing _ tag
    · exact endLaw.holds_then holds_drop (holds_scalar _ _ _)
    · exact endLaw.holds_then holds_drop (holds_collection _ _ (below.flowItems true))
    · exact endLaw.holds_then holds_drop (holds_collection _ _ (below.flowEntries true))
    · split
      · exact endLaw.holds_then holds_drop (holds_collection _ _ below.blockItems)
      · exact holds_missing _ tag
    · split
      · exact endLaw.holds_then holds_drop (holds_collection _ _ below.blockEntries)
      · exact holds_missing _ tag
    · exact holds_missing _ tag

/-- A node that is missing in front of some tokens is an empty one. -/
theorem nodeUnless_succ (tokens : List Token) (place : Place) :
    endLaw.Holds (Compose.nodeUnless tokens place (fuel + 1)) := by
  unfold Compose.nodeUnless
  apply endLaw.holds_bind (holds_nextIsAmong tokens)
  intro absent
  split
  · exact holds_emptyNode
  · exact below.node place

/-- The items of a block are nodes behind dashes. -/
theorem blockItems_succ : endLaw.Holds (Compose.blockItems (fuel + 1)) := by
  unfold Compose.blockItems
  apply endLaw.holds_bind (holds_skip? .blockEntry)
  intro begins
  split
  · apply endLaw.holds_bind (below.nodeUnless _ blockPlace)
    intro item
    exact endLaw.holds_bind_pure below.blockItems _
  · exact endLaw.holds_then (holds_expect .blockEnd) (endLaw.holds_pure [])

/-- The items below a key end with the last dash. -/
theorem keyEntries_succ : endLaw.Holds (Compose.keyEntries (fuel + 1)) := by
  unfold Compose.keyEntries
  apply endLaw.holds_bind (holds_skip? .blockEntry)
  intro begins
  split
  · apply endLaw.holds_bind (below.nodeUnless _ blockPlace)
    intro item
    exact endLaw.holds_bind_pure below.keyEntries _
  · exact endLaw.holds_pure []

/-- A value stands behind a colon, or is missing. -/
theorem valueUnless_succ (tokens : List Token) (place : Place) :
    endLaw.Holds (Compose.valueUnless tokens place (fuel + 1)) := by
  unfold Compose.valueUnless
  apply endLaw.holds_bind (holds_skip? .value)
  intro begins
  split
  · exact below.nodeUnless tokens place
  · exact holds_emptyNode

/-- The entries of a block are keys and values. -/
theorem blockEntries_succ : endLaw.Holds (Compose.blockEntries (fuel + 1)) := by
  unfold Compose.blockEntries
  apply endLaw.holds_bind (holds_skip? .key)
  intro begins
  split
  · apply endLaw.holds_bind (below.nodeUnless _ keyPlace)
    intro key
    apply endLaw.holds_bind (below.valueUnless _ keyPlace)
    intro content
    exact endLaw.holds_bind_pure below.blockEntries _
  · exact endLaw.holds_then (holds_expect .blockEnd) (endLaw.holds_pure [])

/-- The items between brackets are nodes or single entries, with commas between them. -/
theorem flowItems_succ (first : Bool) : endLaw.Holds (Compose.flowItems first (fuel + 1)) := by
  unfold Compose.flowItems
  apply flow_succ first .flowSequenceEnd
  apply endLaw.holds_bind (holds_skip? .key)
  intro paired
  split
  · apply endLaw.holds_bind
    · apply holds_inside
      apply endLaw.holds_bind (below.nodeUnless _ flowPlace)
      intro key
      apply endLaw.holds_bind (below.valueUnless _ flowPlace)
      intro content
      exact endLaw.holds_pure (key, content)
    · intro entry
      apply endLaw.holds_bind (holds_add _)
      intro item
      exact endLaw.holds_bind_pure (below.flowItems false) _
  · apply endLaw.holds_bind (holds_skip? .flowSequenceEnd)
    intro ended
    split
    · exact endLaw.holds_pure []
    · apply endLaw.holds_bind (below.node flowPlace)
      intro item
      exact endLaw.holds_bind_pure (below.flowItems false) _

/-- The entries between braces have commas between them. -/
theorem flowEntries_succ (first : Bool) : endLaw.Holds (Compose.flowEntries first (fuel + 1)) := by
  unfold Compose.flowEntries
  apply flow_succ first .flowMappingEnd
  apply endLaw.holds_bind (holds_skip? .key)
  intro paired
  split
  · apply endLaw.holds_bind (below.nodeUnless _ flowPlace)
    intro key
    apply endLaw.holds_bind (below.valueUnless _ flowPlace)
    intro content
    exact endLaw.holds_bind_pure (below.flowEntries false) _
  · apply endLaw.holds_bind (holds_skip? .flowMappingEnd)
    intro ended
    split
    · exact endLaw.holds_pure []
    · apply endLaw.holds_bind (below.node flowPlace)
      intro key
      apply endLaw.holds_bind holds_emptyNode
      intro content
      exact endLaw.holds_bind_pure (below.flowEntries false) _

end Hold

/-- All of these keep the law, by induction on the fuel that they share. -/
theorem hold (fuel : Nat) : Hold fuel := by
  induction fuel with
  | zero => constructor <;> intros <;> exact holds_fail
  | succ fuel below =>
      exact ⟨below.node_succ, below.nodeUnless_succ, below.blockItems_succ, below.keyEntries_succ,
        below.valueUnless_succ, below.blockEntries_succ, below.flowItems_succ,
        below.flowEntries_succ⟩

/-! Documents. -/

/-- Directives are read one by one, by induction on the fuel. -/
theorem holds_directives (fuel : Nat) (versioned : Bool) (handles : List (String × String)) :
    endLaw.Holds (directives fuel versioned handles) := by
  induction fuel generalizing versioned handles with
  | zero => exact holds_fail
  | succ fuel inductionHypothesis =>
      unfold directives
      apply endLaw.holds_bind holds_next
      intro token
      split
      · apply endLaw.holds_then holds_drop
        exact endLaw.holds_guarded holds_fail (inductionHypothesis _ _)
      · apply endLaw.holds_then holds_drop
        exact endLaw.holds_guarded holds_fail (inductionHypothesis _ _)
      · exact endLaw.holds_then holds_drop (inductionHypothesis _ _)
      · exact endLaw.holds_pure handles

/-- So are the markers at the end of a document. -/
theorem holds_skipEnds (fuel : Nat) : endLaw.Holds (skipEnds fuel) := by
  induction fuel with
  | zero => exact endLaw.holds_pure ()
  | succ fuel inductionHypothesis =>
      unfold skipEnds
      apply endLaw.holds_bind (holds_skip? .documentEnd)
      intro more
      split
      · exact inductionHypothesis
      · exact endLaw.holds_pure ()

/-- A document behind a marker is a node or empty. -/
theorem holds_markedDocument (fuel : Nat) : endLaw.Holds (markedDocument fuel) := by
  unfold markedDocument
  apply endLaw.holds_bind holds_next
  intro first
  split
  · exact endLaw.holds_pure none
  · apply endLaw.holds_bind (holds_directives fuel false [])
    intro handles
    apply endLaw.holds_then (Lexing.endLaw.holds_modify _)
    apply endLaw.holds_then (holds_expect .documentStart)
    apply endLaw.holds_bind holds_next
    intro token
    split
    · exact endLaw.holds_bind_pure holds_emptyNode _
    · exact endLaw.holds_bind_pure ((hold fuel).node blockPlace) _

/-- The first document may have no marker. -/
theorem holds_firstDocument (fuel : Nat) : endLaw.Holds (firstDocument fuel) := by
  unfold firstDocument
  apply endLaw.holds_bind holds_next
  intro token
  split
  · exact holds_markedDocument fuel
  · exact holds_markedDocument fuel
  · exact holds_markedDocument fuel
  · exact endLaw.holds_bind_pure ((hold fuel).node blockPlace) _

/-- A second document is an error of the syntax. -/
theorem holds_document (fuel : Nat) : endLaw.Holds (document fuel) := by
  unfold document
  apply endLaw.holds_bind (holds_firstDocument fuel)
  intro found
  apply endLaw.holds_then (holds_skipEnds fuel)
  apply endLaw.holds_bind holds_next
  intro token
  dsimp only
  split
  · apply endLaw.holds_then (holds_directives fuel false [])
    exact endLaw.holds_then holds_fail (endLaw.holds_pure found)
  · exact endLaw.holds_pure found

end Compose

/-- A text is refused for broken bytes only if its characters end with them. -/
theorem Document.ending_of_ofSource {source : Source}
    (broken : ofSource source = .error .notUtf8) : source.ending = some .notUtf8 := by
  let fuel := 20 * source.chars.length + 50
  let composer : Composer := ⟨#[], Compose.standardHandles, [], 0⟩
  have keeps : Scan.KeepsEnding (Cursor.ofSource source).ending
      ((((Compose.document fuel).run composer).run .start).run (Cursor.ofSource source)) :=
    Compose.holds_document fuel composer .start (Cursor.ofSource source)
  rw [Cursor.ending_ofSource] at keeps
  change (((((Compose.document fuel).run composer).run .start).run (Cursor.ofSource source)) >>=
    fun found => .ok (Document.mk found.1.1.2.nodes found.1.1.1)) = .error .notUtf8 at broken
  cases ran : (((Compose.document fuel).run composer).run .start).run (Cursor.ofSource source) with
  | ok found =>
      rw [ran] at broken
      exact absurd broken (by simp [bind, Except.bind])
  | error failure =>
      rw [ran] at broken keeps
      exact keeps (Except.error.inj broken)

end RosettaDaml.Yaml
