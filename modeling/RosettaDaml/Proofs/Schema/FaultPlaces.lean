/-
This file says where the faults of a schema stand: the way there goes by the names of the models
and by indices, and only a fault about a key ends at anything else.
-/

import RosettaDaml.Schema.Read

namespace RosettaDaml

open RosettaDaml.Data

/-- The names that the models of a schema have for their parts, and the kinds of declarations. -/
def modelNames : List String :=
  ["namespace", "decls", "class", "enum", "other", "kind", "name", "base", "fields", "values",
   "tags", "annotation", "type", "card", "lower", "upper", "displayName", "display_name"]

/-- A step to a part of a model or to an item of a list. -/
inductive Step.IsModelled : Step → Prop
  | name {name : String} (known : name ∈ modelNames) : Step.IsModelled (.key name)
  | index (position : Int) : Step.IsModelled (.index position)

/-- Whether a fault is about a key itself, and not about what stands behind it. -/
def FaultCause.isAboutKey : FaultCause → Bool
  | .unknownKey => true
  | .keyNotText => true
  | _ => false

/-- The way to a fault is that to a part of a schema. Behind it stands at most the key that the
fault is about. -/
structure Fault.IsPlaced (fault : Fault) : Prop where
  way : ∀ step ∈ fault.location.dropLast, step.IsModelled
  ending : fault.cause.isAboutKey = false → ∀ step ∈ fault.location, step.IsModelled

/-- A fault in a part of a model stands behind the step to that part. -/
theorem Fault.IsPlaced.deepen {fault : Fault} (placed : fault.IsPlaced) {step : Step}
    (modelled : step.IsModelled) :
    Fault.IsPlaced { fault with location := step :: fault.location } := by
  refine ⟨fun other member => ?_, fun part => List.forall_mem_cons.2 ⟨modelled, placed.ending part⟩⟩
  cases location : fault.location with
  | nil => simp [location] at member
  | cons next rest =>
      simp only [location, List.dropLast_cons_cons] at member
      obtain rfl | behind := List.mem_cons.1 member
      · exact modelled
      · exact placed.way other (by simpa [location] using behind)

namespace Checked

/-- All faults stand where a part of a schema does. -/
def ArePlaced {Content : Type} (checked : Checked Content) : Prop :=
  ∀ fault ∈ checked.faults, fault.IsPlaced

variable {Content Result : Type}

/-- What is valid has no faults. -/
theorem arePlaced_valid (content : Content) : (valid content).ArePlaced := by
  simp [ArePlaced, faults]

/-- A value that fails on its own stands where it is. -/
theorem arePlaced_fail (given : Value) (cause : FaultCause) :
    (fail given cause : Checked Content).ArePlaced :=
  List.forall_mem_singleton.2 ⟨by simp, fun _ => by simp⟩

/-- What is made of a valid content does not matter for the faults. -/
theorem ArePlaced.map {checked : Checked Content} (placed : checked.ArePlaced)
    (change : Content → Result) : (checked.map change).ArePlaced := by
  cases checked with
  | valid content => exact arePlaced_valid _
  | invalid first more => exact placed

/-- The same for the notation of functors. -/
theorem ArePlaced.functorMap {checked : Checked Content} (placed : checked.ArePlaced)
    (change : Content → Result) : (change <$> checked).ArePlaced :=
  placed.map change

/-- Two checks side by side have the faults of both. -/
theorem ArePlaced.seq {change : Checked (Content → Result)} {checked : Checked Content}
    (placed : change.ArePlaced) (placedToo : checked.ArePlaced) :
    (change <*> checked).ArePlaced := by
  change (apply change fun _ => checked).ArePlaced
  cases change with
  | valid change =>
      cases checked with
      | valid content => exact arePlaced_valid _
      | invalid first more => exact placedToo
  | invalid first more => exact List.forall_mem_append.2 ⟨placed, placedToo⟩

/-- Two checks one after the other have the faults of the first that has any. -/
theorem ArePlaced.andThen {checked : Checked Content} (placed : checked.ArePlaced)
    {next : Content → Checked Result} (placedToo : ∀ content, (next content).ArePlaced) :
    (checked.andThen next).ArePlaced := by
  cases checked with
  | valid content => exact placedToo content
  | invalid first more => exact placed

/-- More faults may be added. -/
theorem ArePlaced.alsoFaults {checked : Checked Content} (placed : checked.ArePlaced)
    {further : List Fault} (placedToo : ∀ fault ∈ further, fault.IsPlaced) :
    (checked.alsoFaults further).ArePlaced := by
  cases checked with
  | valid content =>
      cases further with
      | nil => exact arePlaced_valid content
      | cons first more => exact placedToo
  | invalid first more => exact List.forall_mem_append.2 ⟨placed, placedToo⟩

/-- The faults of a part are deepened by the step to it. -/
theorem ArePlaced.within {checked : Checked Content} (placed : checked.ArePlaced) {step : Step}
    (modelled : step.IsModelled) : (checked.within step).ArePlaced := by
  cases checked with
  | valid content => exact arePlaced_valid content
  | invalid first more =>
      obtain ⟨here, behind⟩ := List.forall_mem_cons.1 placed
      exact List.forall_mem_cons.2 ⟨here.deepen modelled,
        List.forall_mem_map.2 fun fault member => (behind fault member).deepen modelled⟩

end Checked

namespace Reader

open Checked

/-- A reader whose faults all stand where a part of a schema does. -/
def IsPlaced {Content : Type} (read : Reader Content) : Prop := ∀ given, (read given).ArePlaced

variable {Content : Type} {read : Reader Content}

/-! Plain values. -/

/-- A text, or bytes that are one, or a fault where the value stands. -/
theorem isPlaced_text : IsPlaced text := by
  intro given
  unfold text
  split
  · exact arePlaced_valid _
  · split
    · exact arePlaced_valid _
    · exact arePlaced_fail _ _
  · exact arePlaced_fail _ _

/-- A text with halves of characters is a fault where it stands. -/
theorem arePlaced_wholeText (given : Value) (content : String) :
    (wholeText given content).ArePlaced := by
  unfold wholeText
  split
  · exact arePlaced_fail _ _
  · exact arePlaced_valid _

/-- So is an empty text. -/
theorem isPlaced_nonEmptyText : IsPlaced nonEmptyText := by
  intro given
  refine (isPlaced_text given).andThen fun content => ?_
  refine (arePlaced_wholeText given content).andThen fun content => ?_
  split
  · exact arePlaced_fail _ _
  · exact arePlaced_valid _

/-- A value that may be missing has the faults that it has when it is there. -/
theorem IsPlaced.nullable (placed : IsPlaced read) : IsPlaced (nullable read) := by
  intro given
  unfold Reader.nullable
  split
  · exact arePlaced_valid _
  · exact (placed given).map some

/-- A text that is no integer is a fault where it stands. -/
theorem arePlaced_integerOfText (given : Value) (content : String) :
    (integerOfText given content).ArePlaced := by
  refine (arePlaced_wholeText given content).andThen fun content => ?_
  split
  · exact arePlaced_valid _
  · exact arePlaced_fail _ _
  · exact arePlaced_fail _ _

/-- A number that is no integer is a fault where it stands. -/
theorem arePlaced_integerOfFloat (given : Value) (number : Numeric.Binary64) :
    (integerOfFloat given number).ArePlaced := by
  unfold integerOfFloat
  split
  · split
    · exact arePlaced_fail _ _
    · split
      · exact arePlaced_valid _
      · exact arePlaced_fail _ _
  · exact arePlaced_fail _ _

/-- An integer is read from one of the kinds of values that can hold one. -/
theorem isPlaced_integer : IsPlaced integer := by
  intro given
  unfold integer
  split
  · exact arePlaced_valid _
  · exact arePlaced_valid _
  · exact arePlaced_integerOfFloat _ _
  · exact arePlaced_integerOfText _ _
  · split
    · exact arePlaced_integerOfText _ _
    · exact arePlaced_fail _ _
  · exact arePlaced_fail _ _

/-- An integer below its bound is a fault where it stands. -/
theorem isPlaced_integerFrom (bound : Nat) : IsPlaced (integerFrom bound) := by
  intro given
  refine (isPlaced_integer given).andThen fun number => ?_
  split
  · exact arePlaced_valid _
  · exact arePlaced_fail _ _

/-- Another value than the one that is expected is a fault where it stands. -/
theorem isPlaced_word (expected : String) : IsPlaced (word expected) := by
  intro given
  unfold word
  split
  · split
    · exact arePlaced_valid _
    · exact arePlaced_fail _ _
  · exact arePlaced_fail _ _

/-! Lists. -/

/-- The faults of the items of a list stand behind their indices, by induction on the items. -/
theorem IsPlaced.eachFrom (placed : IsPlaced read) (position : Nat) (items : List Value) :
    (eachFrom read position items).ArePlaced := by
  induction items generalizing position with
  | nil => exact arePlaced_valid _
  | cons item rest inductionHypothesis =>
      have first := ((placed item).within (.index position)).map List.cons
      exact first.seq (inductionHypothesis (position + 1))

/-- The items of a list are numbered from zero; another value is a fault where it stands. -/
theorem IsPlaced.listOf (placed : IsPlaced read) : IsPlaced (listOf read) := by
  intro given
  unfold Reader.listOf
  split
  · exact placed.eachFrom 0 _
  · exact arePlaced_fail _ _

/-- Tags are the items of a list. -/
theorem isPlaced_tagSet : IsPlaced tagSet := by
  intro given
  unfold tagSet
  split
  · exact (isPlaced_text.eachFrom 0 _).map _
  · exact arePlaced_fail _ _

/-! Models. -/

section Models

variable (name : String) (known : name ∈ modelNames) (placed : IsPlaced read)

include known placed

/-- A part that must be there is missed under its name. -/
theorem IsPlaced.required (entries : Entries) : (required name read entries).ArePlaced := by
  unfold Reader.required
  split
  · refine List.forall_mem_singleton.2 ⟨by simp, fun _ => ?_⟩
    exact List.forall_mem_singleton.2 (.name known)
  · exact (placed _).within (.name known)

/-- A part that may be missing has faults under its name only when it is there. -/
theorem IsPlaced.defaulted (absent : Content) (entries : Entries) :
    (defaulted name absent read entries).ArePlaced := by
  unfold Reader.defaulted
  split
  · exact arePlaced_valid _
  · exact (placed _).within (.name known)

end Models

/-- A fault about a key of its own stands at this key. -/
theorem isPlaced_at_key {cause : FaultCause} (aboutKey : cause.isAboutKey = true) (step : Step)
    (given : Value) : Fault.IsPlaced ⟨[step], cause, given⟩ :=
  ⟨by simp, fun other => absurd aboutKey (by simp [other])⟩

/-- A key that a model does not know is what its fault is about. -/
theorem isPlaced_of_mem_closedFaults {known : List String} {entries : Entries} :
    ∀ fault ∈ closedFaults known entries, fault.IsPlaced := by
  refine List.forall_mem_map.2 fun ⟨key, name, content⟩ _ => ?_
  dsimp only
  split
  · exact isPlaced_at_key rfl _ _
  · exact isPlaced_at_key rfl _ _

/-- So is a key that is no text, where any text may be one. -/
theorem isPlaced_of_mem_openFaults {known : List String} {entries : Entries} :
    ∀ fault ∈ openFaults known entries, fault.IsPlaced := by
  intro fault member
  obtain ⟨⟨key, name, content⟩, -, same⟩ := List.mem_filterMap.1 member
  dsimp only at same
  split at same
  · exact absurd same (by simp)
  · exact Option.some.inj same ▸ isPlaced_at_key rfl _ _

/-- A model has the faults of its parts and of its keys; another value is a fault where it stands.
-/
theorem isPlaced_model (name : String) {body : Entries → Checked Content}
    {further : Entries → List Fault} (placed : ∀ entries, (body entries).ArePlaced)
    (placedToo : ∀ entries, ∀ fault ∈ further entries, fault.IsPlaced) :
    IsPlaced (model name body further) := by
  intro given
  unfold model
  split
  · split
    · exact arePlaced_fail _ _
    · exact (placed _).alsoFaults (placedToo _)
  · exact arePlaced_fail _ _

/-- A model that knows all its keys is one of these. -/
theorem isPlaced_closed (name : String) (known : List String) {body : Entries → Checked Content}
    (placed : ∀ entries, (body entries).ArePlaced) : IsPlaced (closed name known body) :=
  isPlaced_model name placed fun _ => isPlaced_of_mem_closedFaults

end Reader

open Checked Reader

/-! The parts of a schema. -/

namespace Cardinality

/-- Bounds in the wrong order are a fault of the whole cardinality. -/
theorem arePlaced_checkBounds (given : Value) (lower : Nat) (upper : Option Int) :
    (checkBounds given lower upper).ArePlaced := by
  unfold checkBounds
  split
  · exact arePlaced_valid _
  · exact arePlaced_fail _ _

/-- An upper bound is an integer, a star, or nothing. -/
theorem isPlaced_readUpper : IsPlaced readUpper := by
  intro given
  unfold readUpper
  split
  · exact arePlaced_valid _
  · exact arePlaced_fail _ _

/-- A cardinality given by its bounds has its faults under their names. -/
theorem isPlaced_readEntries : IsPlaced readEntries := by
  refine isPlaced_closed _ _ fun entries => ?_
  refine (ArePlaced.functorMap ?_ _).seq (isPlaced_readUpper.defaulted "upper" (by decide) _ _)
  exact (isPlaced_integerFrom 0).defaulted "lower" (by decide) _ _

/-- A cardinality is read from a text or from its bounds. -/
theorem isPlaced_read : IsPlaced read := by
  intro given
  unfold read
  split
  · unfold readText
    split
    · exact arePlaced_checkBounds _ _ _
    · exact arePlaced_fail _ _
  · exact (isPlaced_readEntries _).andThen fun _ => arePlaced_checkBounds _ _ _

end Cardinality

/-- The faults of a field stand under the names of its parts. -/
theorem ClassField.isPlaced_read : IsPlaced ClassField.read := by
  refine isPlaced_closed _ _ fun entries => ?_
  have name := isPlaced_nonEmptyText.required "name" (by decide) entries
  have type := isPlaced_text.nullable.defaulted "type" (by decide) none entries
  have card := Cardinality.isPlaced_read.defaulted "card" (by decide) .one entries
  have tags := isPlaced_tagSet.defaulted "tags" (by decide) .empty entries
  have annotation := isPlaced_text.nullable.defaulted "annotation" (by decide) none entries
  exact ((((name.functorMap _).seq type).seq card).seq tags).seq annotation

/-- The faults of a class stand under the names of its parts, and those of its fields behind their
indices. -/
theorem ClassDecl.isPlaced_read : IsPlaced ClassDecl.read := by
  refine isPlaced_closed _ _ fun entries => ?_
  have kind := (isPlaced_word "class").defaulted "kind" (by decide) () entries
  have name := isPlaced_nonEmptyText.required "name" (by decide) entries
  have base := isPlaced_text.nullable.defaulted "base" (by decide) none entries
  have fields := ClassField.isPlaced_read.listOf.defaulted "fields" (by decide) [] entries
  have tags := isPlaced_tagSet.defaulted "tags" (by decide) .empty entries
  have annotation := isPlaced_text.nullable.defaulted "annotation" (by decide) none entries
  exact (((((kind.functorMap _).seq name).seq base).seq fields).seq tags).seq annotation

/-- The name to be displayed is found under one of the two names that it has. -/
theorem EnumValue.displayKey_mem_modelNames (entries : Entries) :
    displayKey entries ∈ modelNames := by
  unfold displayKey
  split <;> decide

/-- The faults of a value stand under the names of its parts. -/
theorem EnumValue.isPlaced_read : IsPlaced EnumValue.read := by
  refine isPlaced_model _ (fun entries => ?_) fun entries => isPlaced_of_mem_closedFaults
  have name := isPlaced_nonEmptyText.required "name" (by decide) entries
  have display := isPlaced_text.nullable.defaulted _ (displayKey_mem_modelNames entries) none entries
  have annotation := isPlaced_text.nullable.defaulted "annotation" (by decide) none entries
  exact ((name.functorMap _).seq display).seq annotation

/-- The faults of an enum stand under the names of its parts, and those of its values behind their
indices. -/
theorem EnumDecl.isPlaced_read : IsPlaced EnumDecl.read := by
  refine isPlaced_closed _ _ fun entries => ?_
  have kind := (isPlaced_word "enum").defaulted "kind" (by decide) () entries
  have name := isPlaced_nonEmptyText.required "name" (by decide) entries
  have base := isPlaced_text.nullable.defaulted "base" (by decide) none entries
  have values := EnumValue.isPlaced_read.listOf.defaulted "values" (by decide) [] entries
  have annotation := isPlaced_text.nullable.defaulted "annotation" (by decide) none entries
  exact ((((kind.functorMap _).seq name).seq base).seq values).seq annotation

/-- Any other declaration has faults in its kind, in its name and in its keys only. -/
theorem OtherDecl.isPlaced_read : IsPlaced OtherDecl.read := by
  refine isPlaced_model _ (fun entries => ?_) fun entries => isPlaced_of_mem_openFaults
  have kind := isPlaced_text.required "kind" (by decide) entries
  have name := isPlaced_text.nullable.defaulted "name" (by decide) none entries
  exact (kind.functorMap _).seq name

/-- The faults of a declaration stand behind its kind. -/
theorem Decl.isPlaced_read : IsPlaced Decl.read := by
  intro given
  unfold Decl.read
  split
  · exact ((ClassDecl.isPlaced_read given).map _).within (.name (by decide))
  · exact ((EnumDecl.isPlaced_read given).map _).within (.name (by decide))
  · exact ((OtherDecl.isPlaced_read given).map _).within (.name (by decide))

/-- The faults of a schema stand at its parts and at the keys in them. -/
theorem Schema.isPlaced_read : IsPlaced Schema.read := by
  refine isPlaced_closed _ _ fun entries => ?_
  have nameSpace := isPlaced_text.nullable.defaulted "namespace" (by decide) none entries
  have decls := Decl.isPlaced_read.listOf.defaulted "decls" (by decide) [] entries
  exact (nameSpace.functorMap _).seq decls

end RosettaDaml
