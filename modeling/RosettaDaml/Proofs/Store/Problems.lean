/-
This file compares the list of what is wrong with a schema file with loading the file.
-/

import RosettaDaml.Proofs.Yaml.Building
import RosettaDaml.Store.Load

namespace RosettaDaml

open RosettaDaml.Data

/-- The ways in which loading is said to fail: the file is no data file, or its data are no
schema. -/
inductive LoadFailure.IsDocumented : LoadFailure → Prop
  | refused (path : Path) (fault : FileFault) :
      LoadFailure.IsDocumented (.unread (.refused path fault))
  | invalid (model : String) (first : Fault) (more : List Fault) :
      LoadFailure.IsDocumented (.invalid model first more)

/-- The failures of reading that are no fault of the file as a data file. -/
def ReadFailure.IsForeign (failure : ReadFailure) : Prop :=
  ∀ path fault, failure ≠ .refused path fault

namespace Store

variable {store : Store} {path : Path}

/-! Files that are read as data. -/

/-- A path leads to a file that its name makes a data file. -/
def HasData (store : Store) (path : Path) (content : ByteArray) : Prop :=
  ∃ place, store.locate? path = some place ∧ store.file? place = some content ∧
    Text.lower path.suffix ∈ dataSuffixes

/-- What stops the reading of a data file without being told as a fault of the file: bytes that are
not the UTF-8 form of any text, and a value that cannot be built. -/
inductive Escapes (store : Store) (path : Path) : ReadFailure → Prop
  | notUtf8 {content : ByteArray} (file : store.HasData path content)
      (noText : ∀ text : String, text.toUTF8 ≠ content)
      (stops : Yaml.valueOf (.ofBytes content) = .error .notUtf8) : Escapes store path .notUtf8
  | value {content : ByteArray} {fault : Yaml.ValueFault} (file : store.HasData path content)
      (stops : Yaml.valueOf (.ofBytes content) = .error (.value fault)) :
      Escapes store path (.value fault)

/-- What passes through is a failure of the reader. -/
theorem Escapes.isForeign {failure : ReadFailure} (escapes : store.Escapes path failure) :
    failure.IsForeign := by
  cases escapes <;> simp [ReadFailure.IsForeign]

/-- What the data of a file with the right name are, for each end of reading its value. -/
theorem dataOf_of_suffix {content : ByteArray} (suffix : Text.lower path.suffix ∈ dataSuffixes) :
    dataOf path content = match (Yaml.valueOf (.ofBytes content)).map Value.unrolled with
      | .error .malformed => .error (.refused path (.malformed none))
      | .error (.undefinedTag tag) => .error (.refused path (.malformed (some tag)))
      | .error .notUtf8 => .error .notUtf8
      | .error (.value fault) => .error (.value fault)
      | .ok .null => .error (.refused path .empty)
      | .ok (.map entries) => .ok entries
      | .ok other => .error (.refused path (.rootKind other.kindName)) := by
  rw [dataOf, List.contains_iff_mem.2 suffix]
  rfl

/-- Only broken bytes and values stop the reading of a file without being its fault. -/
theorem dataOf_eq_error_iff {content : ByteArray} {failure : ReadFailure}
    (foreign : failure.IsForeign) :
    dataOf path content = .error failure ↔ Text.lower path.suffix ∈ dataSuffixes ∧
      ((failure = .notUtf8 ∧ Yaml.valueOf (.ofBytes content) = .error .notUtf8) ∨
        ∃ fault, failure = .value fault ∧
          Yaml.valueOf (.ofBytes content) = .error (.value fault)) := by
  have never (fault : FileFault) :
      (Except.error (.refused path fault) : Except ReadFailure Reader.Entries) ≠ .error failure :=
    fun same => foreign path fault (Except.error.inj same).symm
  by_cases suffix : Text.lower path.suffix ∈ dataSuffixes
  · rw [dataOf_of_suffix suffix]
    -- Errors of the syntax are told as faults of the file; the other two pass through.
    cases Yaml.valueOf (.ofBytes content) with
    | error stop =>
        cases stop with
        | malformed => simpa [Except.map] using never _
        | undefinedTag tag => simpa [Except.map] using never _
        | notUtf8 => simp [Except.map, suffix, eq_comm]
        | value fault => simp [Except.map, suffix, eq_comm]
    | ok value =>
        simp only [Except.map, reduceCtorEq, and_false, exists_false, or_self, iff_false]
        split <;> first | exact never _ | simp_all
  · have refused : dataOf path content =
        .error (.refused path (.suffix (Text.lower path.suffix))) := by
      rw [dataOf]
      simp [suffix]
      rfl
    rw [refused]
    simpa [suffix] using never _

/-- A file is read as the data in it. -/
theorem readData_of_file {place : List String} {content : ByteArray}
    (located : store.locate? path = some place) (stands : store.file? place = some content) :
    store.readData path = dataOf path content := by
  rw [readData, located]
  simp only [stands]

/-- A failure of the reader comes from the content of a file. -/
theorem exists_file_of_readData {failure : ReadFailure} (foreign : failure.IsForeign)
    (stops : store.readData path = .error failure) :
    ∃ place content, store.locate? path = some place ∧ store.file? place = some content ∧
      dataOf path content = .error failure := by
  unfold readData at stops
  split at stops
  · exact absurd (Except.error.inj stops).symm (foreign path .missing)
  · rename_i place located
    split at stops
    · exact absurd (Except.error.inj stops).symm (foreign path .notFile)
    · rename_i content stands
      exact ⟨place, content, located, stands, stops⟩

/-- What passes through is every such failure. -/
theorem escapes_iff {failure : ReadFailure} :
    store.Escapes path failure ↔ failure.IsForeign ∧ store.readData path = .error failure := by
  constructor
  · intro escapes
    have foreign := escapes.isForeign
    apply And.intro foreign
    cases escapes with
    | notUtf8 file _ broken =>
        obtain ⟨place, located, stands, suffix⟩ := file
        rw [readData_of_file located stands, dataOf_eq_error_iff foreign]
        exact ⟨suffix, .inl ⟨rfl, broken⟩⟩
    | value file faulty =>
        obtain ⟨place, located, stands, suffix⟩ := file
        rw [readData_of_file located stands, dataOf_eq_error_iff foreign]
        exact ⟨suffix, .inr ⟨_, rfl, faulty⟩⟩
  · rintro ⟨foreign, stops⟩
    obtain ⟨place, content, located, stands, stops⟩ := exists_file_of_readData foreign stops
    obtain ⟨suffix, ⟨rfl, broken⟩ | ⟨fault, rfl, faulty⟩⟩ := (dataOf_eq_error_iff foreign).1 stops
    · exact .notUtf8 ⟨place, located, stands, suffix⟩ (Yaml.toUTF8_ne_of_valueOf broken) broken
    · exact .value ⟨place, located, stands, suffix⟩ faulty

/-! Problems. -/

/-- What the list of problems is, given how loading ends. -/
inductive Tells : Except LoadFailure Schema → Except ReadFailure (List String) → Prop
  | loaded (schema : Schema) : Tells (.ok schema) (.ok [])
  | refused (path : Path) (fault : FileFault) :
      Tells (.error (.unread (.refused path fault)))
        (.ok [(ReadFailure.refused path fault).message])
  | invalid (first : Fault) (more : List Fault) :
      Tells (.error (.invalid "Schema" first more)) (.ok ((first :: more).map Fault.line))
  | escaped {failure : ReadFailure} (foreign : failure.IsForeign) :
      Tells (.error (.unread failure)) (.error failure)

/-- What keeps a schema from loading is told as problems, or passes through. -/
theorem tells (store : Store) (path : Path) :
    Tells (store.loadSchema path) (store.schemaProblems path) := by
  unfold loadSchema schemaProblems
  cases store.readData path with
  | ok entries =>
      change Tells (checkedAs "Schema" (Schema.read (.map entries)))
        (.ok ((Schema.read (.map entries)).faults.map Fault.line))
      cases Schema.read (.map entries) with
      | valid schema => exact .loaded schema
      | invalid first more => exact .invalid first more
  | error failure =>
      cases failure with
      | refused path fault => exact .refused path fault
      | notUtf8 => exact .escaped (by simp [ReadFailure.IsForeign])
      | value fault => exact .escaped (by simp [ReadFailure.IsForeign])

/-- A schema file has no problems exactly if it loads. -/
theorem schemaProblems_eq_nil_iff :
    store.schemaProblems path = .ok [] ↔ ∃ schema, store.loadSchema path = .ok schema := by
  have ended := store.tells path
  generalize store.loadSchema path = loaded at ended ⊢
  generalize store.schemaProblems path = problems at ended ⊢
  cases ended <;> simp

/-- What passes through the one passes through the other. -/
theorem schemaProblems_eq_error_iff {failure : ReadFailure} :
    store.schemaProblems path = .error failure ↔ store.Escapes path failure := by
  rw [escapes_iff, schemaProblems]
  cases store.readData path with
  | ok entries => simp
  | error stop =>
      cases stop <;> cases failure <;> simp [ReadFailure.IsForeign]

/-- The list of problems goes together with loading: it is always there, it is empty exactly for a
file that loads, and loading fails only as it is said to. -/
structure IsTwin (store : Store) (path : Path) : Prop where
  returns : ∃ problems, store.schemaProblems path = .ok problems
  clean_iff : store.schemaProblems path = .ok [] ↔ ∃ schema, store.loadSchema path = .ok schema
  documented : ∀ failure, store.loadSchema path = .error failure → failure.IsDocumented

/-- The list of problems and loading go together for every file whose reading does not escape, and
for no other. -/
theorem isTwin_exact (store : Store) (path : Path) :
    Tells (store.loadSchema path) (store.schemaProblems path) ∧
      (∀ failure, store.schemaProblems path = .error failure ↔ store.Escapes path failure) ∧
      (store.IsTwin path ↔ ∀ failure, ¬ store.Escapes path failure) := by
  have ended := store.tells path
  apply And.intro ended
  apply And.intro fun _ => schemaProblems_eq_error_iff
  constructor
  · intro twin failure escapes
    obtain ⟨problems, given⟩ := twin.returns
    rw [schemaProblems_eq_error_iff.2 escapes] at given
    exact absurd given (by simp)
  · intro never
    have returns : ∃ problems, store.schemaProblems path = .ok problems := by
      cases listed : store.schemaProblems path with
      | ok problems => exact ⟨problems, rfl⟩
      | error failure => exact absurd (schemaProblems_eq_error_iff.1 listed) (never failure)
    apply IsTwin.mk returns schemaProblems_eq_nil_iff
    intro failure stops
    obtain ⟨problems, listed⟩ := returns
    rw [stops, listed] at ended
    cases ended with
    | refused path fault => exact .refused path fault
    | invalid first more => exact .invalid "Schema" first more

/-- A file whose only entry is a day that is in no calendar. -/
def wrongDay : Store :=
  (Store.empty []).put ["a.yaml"] (.file "decls: 2020-13-45\n".toUTF8)

/-- Its value cannot be built, and so there is no list of its problems. -/
theorem not_forall_isTwin : ¬ ∀ (store : Store) (path : Path), store.IsTwin path := by
  intro always
  obtain ⟨problems, given⟩ := (always wrongDay (.ofText "a.yaml")).returns
  have computed : (wrongDay.schemaProblems (.ofText "a.yaml")).toOption = none := by
    decide +kernel
  rw [given] at computed
  exact absurd computed (by simp [Except.toOption])

end Store

end RosettaDaml
