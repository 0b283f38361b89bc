/-
This file shows which problems of a schema file keep their place and their message apart in the
table that tells of them.
-/

import RosettaDaml.Command.Validate
import RosettaDaml.Proofs.Schema.FaultPlaces
import RosettaDaml.Proofs.Store.Problems
import RosettaDaml.Proofs.Text.Number

namespace RosettaDaml

open RosettaDaml.Screen

namespace Text

/-- What is written between a place and a message. -/
def joint : List Char := [':', ' ']

/-- A text in which a place would seem to end. -/
def HoldsJoint (text : String) : Prop := joint <:+: text.toList

instance (text : String) : Decidable (HoldsJoint text) :=
  inferInstanceAs (Decidable (joint <:+: text.toList))

/-- A text with a joint holds a colon. -/
theorem holdsJoint_of_mem {text : String} (holds : HoldsJoint text) : ':' ∈ text.toList :=
  holds.subset (by decide)

/-- A part that lacks a character does not reach beyond it. -/
theorem infix_append_cons_iff {Item : Type} {part front rest : List Item} {item : Item}
    (free : item ∉ part) :
    part <:+: front ++ item :: rest ↔ part <:+: front ∨ part <:+: rest := by
  induction front with
  | nil =>
      rw [List.nil_append, List.infix_cons_iff]
      cases part with
      | nil => simp
      | cons first more =>
          have other : first ≠ item := fun same => free (same ▸ List.mem_cons_self)
          simp [List.cons_prefix_cons, other]
  | cons first front inductionHypothesis =>
      have begins : part <+: first :: (front ++ item :: rest) ↔ part <+: first :: front := by
        constructor
        · intro begins
          obtain long | short := Nat.lt_or_ge (first :: front).length part.length
          · -- A longer part would hold the character.
            have whole : first :: front ++ [item] <+: part := by
              refine List.prefix_of_prefix_length_le ⟨rest, by simp⟩ begins ?_
              simpa [Nat.succ_le_iff] using long
            exact absurd (whole.subset (by simp)) free
          · exact List.prefix_of_prefix_length_le begins (List.prefix_append _ (item :: rest)) short
        · exact fun begins => begins.trans (List.prefix_append _ (item :: rest))
      rw [List.cons_append, List.infix_cons_iff, List.infix_cons_iff, begins, inductionHypothesis,
        or_assoc]

/-- A part without the separator stands in one of the joined pieces. -/
theorem infix_intercalate_iff {Item : Type} {part : List Item} {separator : Item}
    (inhabited : part ≠ []) (free : separator ∉ part) (pieces : List (List Item)) :
    part <:+: [separator].intercalate pieces ↔ ∃ piece ∈ pieces, part <:+: piece := by
  induction pieces with
  | nil => simp [inhabited]
  | cons first rest inductionHypothesis =>
      cases rest with
      | nil => simp
      | cons second rest =>
          rw [List.intercalate_cons_cons, List.append_assoc, List.singleton_append,
            infix_append_cons_iff free, inductionHypothesis]
          simp only [List.mem_cons, exists_eq_or_imp]

end Text

open RosettaDaml.Text (joint HoldsJoint)

/-! Places and messages. -/

namespace Command

/-- A text is cut at its first joint. -/
theorem cutAtColon?_append {before : List Char} (free : ¬ joint <:+: before) (after : List Char) :
    cutAtColon? (before ++ ':' :: ' ' :: after) = some (before, after) := by
  induction before with
  | nil => rfl
  | cons char before inductionHypothesis =>
      rw [List.infix_cons_iff, not_or] at free
      rw [List.cons_append, cutAtColon?, inductionHypothesis free.2]
      · rfl
      · rintro rest rfl begins
        refine free.1 (List.cons_prefix_cons.2 ⟨rfl, ?_⟩)
        cases before with
        | nil => simp at begins
        | cons next before =>
            obtain ⟨rfl, -⟩ := List.cons.inj begins
            simp

/-- What stands in front of the cut holds no joint. -/
theorem of_cutAtColon? {chars before after : List Char}
    (cut : cutAtColon? chars = some (before, after)) :
    chars = before ++ ':' :: ' ' :: after ∧ ¬ joint <:+: before := by
  fun_induction cutAtColon? chars generalizing before after with
  | case1 => cases cut
  | case2 rest =>
      cases cut
      exact ⟨rfl, by decide⟩
  | case3 char rest other inductionHypothesis =>
      obtain ⟨⟨front, behind⟩, found, same⟩ := Option.map_eq_some_iff.1 cut
      cases same
      obtain ⟨rfl, free⟩ := inductionHypothesis found
      refine ⟨rfl, ?_⟩
      rw [List.infix_cons_iff, not_or]
      refine ⟨fun begins => ?_, free⟩
      obtain ⟨rfl, next⟩ := List.cons_prefix_cons.1 begins
      cases front with
      | nil => simp at next
      | cons second front =>
          obtain ⟨rfl, -⟩ := List.cons_prefix_cons.1 next
          exact other _ rfl rfl

/-- A text with a joint is cut. -/
theorem exists_cut {chars : List Char} (holds : joint <:+: chars) :
    ∃ before after, cutAtColon? chars = some (before, after) := by
  fun_induction cutAtColon? chars with
  | case1 => exact absurd holds (by decide)
  | case2 rest => exact ⟨[], rest, rfl⟩
  | case3 char rest other inductionHypothesis =>
      obtain begins | behind := List.infix_cons_iff.1 holds
      · obtain ⟨rfl, more, rfl⟩ := List.cons_prefix_cons.1 begins
        exact absurd rfl (other more rfl)
      · obtain ⟨before, after, found⟩ := inductionHypothesis behind
        exact ⟨char :: before, after, by rw [found]; rfl⟩

/-- A problem is cut at the first colon with a space behind it. -/
theorem exists_splitProblem (place message : String) :
    ∃ before after, splitProblem (place ++ ": " ++ message) = (before, after) ∧
      before ++ ": " ++ after = place ++ ": " ++ message ∧ ¬ HoldsJoint before := by
  have holds : joint <:+: (place ++ ": " ++ message).toList :=
    ⟨place.toList, message.toList, by simp [joint]⟩
  obtain ⟨before, after, cut⟩ := exists_cut holds
  obtain ⟨same, free⟩ := of_cutAtColon? cut
  refine ⟨.ofList before, .ofList after, by rw [splitProblem, cut], ?_, ?_⟩
  · rw [← String.toList_inj, same]
    simp
  · rwa [HoldsJoint, String.toList_ofList]

/-- A problem is split into its place and its message exactly when the place holds no joint. -/
theorem splitProblem_eq_iff (place message : String) :
    splitProblem (place ++ ": " ++ message) = (place, message) ↔ ¬ HoldsJoint place := by
  constructor
  · intro kept
    obtain ⟨before, after, cut, -, free⟩ := exists_splitProblem place message
    obtain ⟨rfl, -⟩ := Prod.mk.inj (cut.symm.trans kept)
    exact free
  · intro free
    have cut := cutAtColon?_append free message.toList
    have spelled : (place ++ ": " ++ message).toList =
        place.toList ++ ':' :: ' ' :: message.toList := by simp
    rw [splitProblem, spelled, cut]
    simp

end Command

/-! Places of faults. -/

/-- The names of the models hold no colon, and no number does. -/
theorem Step.IsModelled.not_mem_text {step : Step} (modelled : step.IsModelled) :
    ':' ∉ step.text.toList := by
  cases modelled with
  | @name name known =>
      have names : ∀ name ∈ modelNames, ':' ∉ name.toList := by decide
      exact names name known
  | index position => exact Text.not_mem_toString_int (by decide) (by decide) position

/-- So they hold no joint. -/
theorem Step.IsModelled.not_holdsJoint {step : Step} (modelled : step.IsModelled) :
    ¬ HoldsJoint step.text :=
  fun holds => modelled.not_mem_text (Text.holdsJoint_of_mem holds)

/-- A place holds a joint exactly when one of its steps does. -/
theorem Location.holdsJoint_dotted_iff (location : Location) :
    HoldsJoint location.dotted ↔ ∃ step ∈ location, HoldsJoint step.text := by
  have parts := @Text.infix_intercalate_iff Char joint '.' (by decide) (by decide)
    (location.map fun step => step.text.toList)
  simpa [HoldsJoint, Location.dotted, String.toList_intercalate, Function.comp_def] using parts

/-- A fault about a key in which a place would seem to end. -/
def Fault.HasSplitKey (fault : Fault) : Prop :=
  fault.cause.isAboutKey = true ∧ ∃ step ∈ fault.location.getLast?, HoldsJoint step.text

instance (fault : Fault) : Decidable fault.HasSplitKey :=
  inferInstanceAs (Decidable (fault.cause.isAboutKey = true ∧
    ∃ step ∈ fault.location.getLast?, HoldsJoint step.text))

/-- Only the key that a fault is about can hold what seems to end its place. -/
theorem Fault.IsPlaced.holdsJoint_dotted_iff {fault : Fault} (placed : fault.IsPlaced) :
    HoldsJoint fault.location.dotted ↔ fault.HasSplitKey := by
  rw [Location.holdsJoint_dotted_iff]
  constructor
  · rintro ⟨step, member, holds⟩
    have strange : ¬ step.IsModelled := fun modelled => modelled.not_holdsJoint holds
    constructor
    · exact Bool.of_not_eq_false fun part => strange (placed.ending part step member)
    · have inhabited : fault.location ≠ [] := List.ne_nil_of_mem member
      rw [← List.dropLast_append_getLast inhabited, List.mem_append, List.mem_singleton] at member
      obtain before | rfl := member
      · exact absurd (placed.way step before) strange
      · exact ⟨_, List.getLast?_eq_some_getLast inhabited, holds⟩
  · rintro ⟨-, step, last, holds⟩
    exact ⟨step, List.mem_of_mem_getLast? last, holds⟩

/-! The table. -/

/-- The faults of a file that does not fit its model. -/
def LoadFailure.faults : LoadFailure → List Fault
  | .unread _ => []
  | .invalid _ first more => first :: more

namespace Store

def schemaFaults (store : Store) (path : Path) : List Fault :=
  match store.loadSchema path with
  | .ok _ => []
  | .error failure => failure.faults

/-- A schema with faults is not loaded because of them. -/
theorem exists_invalid_of_schemaFaults {store : Store} {path : Path} {first : Fault}
    {more : List Fault} (known : store.schemaFaults path = first :: more) :
    ∃ model, store.loadSchema path = .error (.invalid model first more) := by
  unfold schemaFaults at known
  cases loaded : store.loadSchema path with
  | ok schema =>
      rw [loaded] at known
      cases known
  | error failure =>
      rw [loaded] at known
      cases failure with
      | unread failure => cases known
      | invalid model head rest =>
          cases known
          exact ⟨model, rfl⟩

/-- The faults of a schema that is not loaded are its problems, and stand where a part of it does.
-/
theorem faults_of_loadSchema {store : Store} {path : Path} {model : String} {first : Fault}
    {more : List Fault} (invalid : store.loadSchema path = .error (.invalid model first more)) :
    store.schemaProblems path = .ok ((first :: more).map Fault.line) ∧
      ∀ fault ∈ first :: more, fault.IsPlaced := by
  unfold loadSchema at invalid
  unfold schemaProblems
  cases known : store.readData path with
  | error failure =>
      rw [known] at invalid
      have unread : LoadFailure.unread failure = .invalid model first more := Except.error.inj invalid
      exact absurd unread (by simp)
  | ok entries =>
      rw [known] at invalid
      change checkedAs "Schema" (Schema.read (.map entries)) = _ at invalid
      have placed := Schema.isPlaced_read (.map entries)
      cases checked : Schema.read (.map entries) with
      | valid schema =>
          rw [checked] at invalid
          cases invalid
      | invalid head rest =>
          rw [checked] at placed invalid
          cases invalid
          exact ⟨congrArg (fun checked => Except.ok (checked.faults.map Fault.line)) checked, placed⟩

end Store

namespace Command

/-- The row of a fault, with its place and its message apart. -/
def faultRow (number : Nat) (fault : Fault) : List Label :=
  [.raw (toString number), .marked fault.location.dotted, .marked fault.notice.message]

/-- The row of a problem has its number, its place and its message. -/
theorem problemRow_of_split {problem place message : String}
    (cut : splitProblem problem = (place, message)) (number : Nat) :
    problemRow number problem = [.raw (toString number), .marked place, .marked message] := by
  rw [problemRow, cut]

/-- Every problem is cut somewhere in front of the first joint. -/
theorem exists_problemRow (number : Nat) (fault : Fault) :
    ∃ place message,
      problemRow number fault.line = [.raw (toString number), .marked place, .marked message] ∧
      place ++ ": " ++ message = fault.line ∧ ¬ HoldsJoint place := by
  obtain ⟨place, message, cut, whole, free⟩ :=
    exists_splitProblem fault.location.dotted fault.notice.message
  exact ⟨place, message, problemRow_of_split cut number, whole, free⟩

/-- The row of a fault is cut at the right place exactly when no key in its place is split. -/
theorem problemRow_eq_faultRow_iff {fault : Fault} (placed : fault.IsPlaced) (number : Nat) :
    problemRow number fault.line = faultRow number fault ↔ ¬ fault.HasSplitKey := by
  have kept := splitProblem_eq_iff fault.location.dotted fault.notice.message
  rw [placed.holdsJoint_dotted_iff] at kept
  obtain ⟨place, message, cut, -⟩ :=
    exists_splitProblem fault.location.dotted fault.notice.message
  have row : problemRow number fault.line =
      [.raw (toString number), .marked place, .marked message] := problemRow_of_split cut number
  rw [row, ← kept, cut]
  simp [faultRow]

section Invalid

variable {store : Store} {options : ValidateOptions} {model : String} {first : Fault}
  {more : List Fault}

/-- What the command leaves behind when it shows a table with the given rows. -/
def tabled (store : Store) (options : ValidateOptions) (rows : List (List Label)) : Outcome :=
  let name := (Path.ofPlace options.input).name
  .failed store
    (onErrors [.marked s!"[bold red]✗ Validation failed for {name}[/bold red]"] ++
      onOutput [.table "Validation Errors" problemColumns rows])

/-- A table is known by its rows. -/
theorem tabled_injective (store : Store) (options : ValidateOptions) :
    Function.Injective (tabled store options) := by
  intro rows others same
  simpa [tabled, Outcome.failed, onOutput] using same

/-- A check of a schema with faults shows a table of them. -/
theorem validate_of_invalid
    (invalid : store.loadSchema (Path.ofPlace options.input) = .error (.invalid model first more)) :
    validate store options = tabled store options
      (((first :: more).map Fault.line).mapIdx fun index line => problemRow (index + 1) line) := by
  rw [validate, (Store.faults_of_loadSchema invalid).1, invalid]
  rfl

/-- A file that does not fit the models of a schema is told of in a table with a row for each of its
faults, in order. The row is cut at the first colon with a space behind it, and this gives back the
place and the message of the fault unless it is about a key that holds such a colon itself. -/
theorem exists_rows_of_invalid
    (invalid : store.loadSchema (Path.ofPlace options.input) = .error (.invalid model first more)) :
    ∃ rows, validate store options = tabled store options rows ∧
      rows.length = (first :: more).length ∧
      ∀ position fault, (first :: more)[position]? = some fault →
        (∃ place message,
          rows[position]? =
            some [.raw (toString (position + 1)), .marked place, .marked message] ∧
          place ++ ": " ++ message = fault.line ∧ ¬ HoldsJoint place) ∧
        (rows[position]? = some (faultRow (position + 1) fault) ↔ ¬ fault.HasSplitKey) := by
  refine ⟨_, validate_of_invalid invalid, by simp, fun position fault known => ?_⟩
  have placed := (Store.faults_of_loadSchema invalid).2 fault (List.mem_of_getElem? known)
  rw [List.getElem?_mapIdx, List.getElem?_map, known, Option.map_some, Option.map_some]
  constructor
  · obtain ⟨place, message, row, whole, free⟩ := exists_problemRow (position + 1) fault
    exact ⟨place, message, congrArg some row, whole, free⟩
  · rw [Option.some_inj, problemRow_eq_faultRow_iff placed]

end Invalid

/-- A file with a key that is unknown, and that holds a colon with a space behind it. -/
def strangeKey : Store :=
  (Store.empty []).put ["a.yaml"]
    (.file "decls:\n- kind: class\n  base: A\n'a: b': 1\n".toUTF8)

def plainOptions : ValidateOptions := ⟨["a.yaml"], false, .text, false⟩

/-- The second fault of this file has a key that is split. -/
theorem exists_faults_strangeKey :
    ∃ model first second,
      strangeKey.loadSchema (Path.ofPlace plainOptions.input) =
        .error (.invalid model first [second]) ∧ second.HasSplitKey := by
  have computed : (strangeKey.schemaFaults (Path.ofPlace plainOptions.input)).map
      (fun fault => (fault.line, decide fault.HasSplitKey)) =
        [("decls.0.class.name: Field required", false),
          ("a: b: Extra inputs are not permitted", true)] := by
    decide +kernel
  obtain ⟨first, rest, faults, -, others⟩ := List.map_eq_cons_iff.1 computed
  obtain ⟨second, none, rfl, told, nothing⟩ := List.map_eq_cons_iff.1 others
  obtain rfl := List.map_eq_nil_iff.1 nothing
  obtain ⟨model, invalid⟩ := Store.exists_invalid_of_schemaFaults faults
  exact ⟨model, first, second, invalid, of_decide_eq_true (congrArg Prod.snd told)⟩

/-- The table of a file with two faults. -/
theorem exists_rows_strangeKey :
    ∃ model first second,
      strangeKey.loadSchema (Path.ofPlace plainOptions.input) =
        .error (.invalid model first [second]) ∧
      ∃ rows, validate strangeKey plainOptions = tabled strangeKey plainOptions rows ∧
        rows.length = 2 ∧
        ∀ position fault, [first, second][position]? = some fault →
          (∃ place message,
            rows[position]? =
              some [.raw (toString (position + 1)), .marked place, .marked message] ∧
            place ++ ": " ++ message = fault.line ∧ ¬ HoldsJoint place) ∧
          (rows[position]? = some (faultRow (position + 1) fault) ↔ ¬ fault.HasSplitKey) := by
  obtain ⟨model, first, second, invalid, -⟩ := exists_faults_strangeKey
  exact ⟨model, first, second, invalid, exists_rows_of_invalid invalid⟩

/-- The place of the second fault is shown as less than the key, and the rest of the key as a part
of the message. -/
theorem not_forall_faultRow :
    ¬ ∀ (store : Store) (options : ValidateOptions) (model : String) (first : Fault)
      (more : List Fault),
      store.loadSchema (Path.ofPlace options.input) = .error (.invalid model first more) →
      validate store options = tabled store options
        ((first :: more).mapIdx fun index fault => faultRow (index + 1) fault) := by
  intro always
  obtain ⟨model, first, second, invalid, split⟩ := exists_faults_strangeKey
  have same := always strangeKey plainOptions model first [second] invalid
  rw [validate_of_invalid invalid] at same
  have placed := (Store.faults_of_loadSchema invalid).2 second (by simp)
  have row := congrArg (fun rows => rows[1]?) (tabled_injective _ _ same)
  exact (problemRow_eq_faultRow_iff placed 2).1 (Option.some.inj row) split

end Command

end RosettaDaml
