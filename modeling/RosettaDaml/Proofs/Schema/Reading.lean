/-
This file says what is known of the values that are read from data.
-/

import Mathlib.Data.List.Forall2
import RosettaDaml.Config

namespace RosettaDaml

open RosettaDaml.Data

namespace OrderedMap

variable {Key Content : Type} [DecidableEq Key]

/-- Inserted entries add their keys, by induction on the entries. -/
theorem mem_keys_foldl_insert (wanted : Key) (entries : List (Key × Content))
    (built : OrderedMap Key Content) :
    wanted ∈ (entries.foldl (fun built entry => built.insert entry.1 entry.2) built).keys ↔
      wanted ∈ built.keys ∨ wanted ∈ entries.map Prod.fst := by
  induction entries generalizing built with
  | nil => simp
  | cons entry rest inductionHypothesis =>
      rw [List.foldl_cons, inductionHypothesis, mem_keys_insert, List.map_cons, List.mem_cons]
      tauto

/-- The keys of a map from a list are those in the list. -/
theorem mem_keys_ofList (wanted : Key) (entries : List (Key × Content)) :
    wanted ∈ (ofList entries).keys ↔ wanted ∈ entries.map Prod.fst := by
  rw [ofList, mem_keys_foldl_insert]
  simp [keys, empty]

end OrderedMap

namespace Checked

variable {Content Result : Type}

/-- What is made of a content is valid exactly when the content is. -/
theorem map_eq_valid_iff {change : Content → Result} {checked : Checked Content}
    {result : Result} :
    checked.map change = .valid result ↔
      ∃ content, checked = .valid content ∧ change content = result := by
  cases checked <;> simp [map]

/-- The same for the notation of functors. -/
theorem functorMap_eq_valid_iff {change : Content → Result} {checked : Checked Content}
    {result : Result} :
    change <$> checked = .valid result ↔
      ∃ content, checked = .valid content ∧ change content = result :=
  map_eq_valid_iff

/-- Two checks side by side are valid exactly when both are. -/
theorem seq_eq_valid_iff {change : Checked (Content → Result)} {checked : Checked Content}
    {result : Result} :
    change <*> checked = .valid result ↔
      ∃ step content, change = .valid step ∧ checked = .valid content ∧ step content = result := by
  change apply change (fun _ => checked) = .valid result ↔ _
  cases change <;> cases checked <;> simp [apply]

/-- So are two checks one after the other. -/
theorem andThen_eq_valid_iff {checked : Checked Content} {next : Content → Checked Result}
    {result : Result} :
    checked.andThen next = .valid result ↔
      ∃ content, checked = .valid content ∧ next content = .valid result := by
  cases checked <;> simp [andThen]

/-- With more faults a content is valid exactly when there are none. -/
theorem alsoFaults_eq_valid_iff {checked : Checked Content} {further : List Fault}
    {content : Content} :
    checked.alsoFaults further = .valid content ↔ checked = .valid content ∧ further = [] := by
  cases checked <;> cases further <;> simp [alsoFaults]

/-- Where a part stands does not decide whether it is valid. -/
theorem within_eq_valid_iff {step : Step} {checked : Checked Content} {content : Content} :
    checked.within step = .valid content ↔ checked = .valid content := by
  cases checked <;> simp [within]

/-- What fails is not valid. -/
theorem fail_ne_valid {given : Value} {cause : FaultCause} {content : Content} :
    (fail given cause : Checked Content) ≠ .valid content := by
  simp [fail]

end Checked

namespace Reader

open Checked

variable {Content : Type} {read : Reader Content} {given : Value} {entries : Entries}

/-- A part that must be there is found and valid. -/
theorem required_eq_valid_iff {name : String} {content : Content} :
    required name read entries = .valid content ↔
      ∃ value, Value.find? name entries = some value ∧ read value = .valid content := by
  rw [required]
  split
  case h_1 absent => simp [absent]
  case h_2 value found => simp [found, within_eq_valid_iff]

/-- A part that may be missing is its default then, and else is found and valid. -/
theorem defaulted_eq_valid_iff {name : String} {absent content : Content} :
    defaulted name absent read entries = .valid content ↔
      (Value.find? name entries = none ∧ absent = content) ∨
        ∃ value, Value.find? name entries = some value ∧ read value = .valid content := by
  rw [defaulted]
  split
  case h_1 missing => simp [missing]
  case h_2 value found => simp [found, within_eq_valid_iff]

/-- A model is a map without broken keys whose parts are valid, with nothing wrong about its keys.
-/
theorem model_eq_valid_iff {name : String} {body : Entries → Checked Content}
    {further : Entries → List Fault} {content : Content} :
    model name body further given = .valid content ↔
      ∃ entries, given.unrolled = .map entries ∧ brokenKey? entries = none ∧
        body entries = .valid content ∧ further entries = [] := by
  rw [model]
  split
  case h_1 entries isMap =>
    split
    case h_1 key broken => simp [isMap, broken, fail_ne_valid]
    case h_2 unbroken => simp [isMap, unbroken, alsoFaults_eq_valid_iff]
  case h_2 other =>
    refine iff_of_false fail_ne_valid ?_
    rintro ⟨entries, isMap, -⟩
    exact other entries isMap

/-- The items of a list are read one by one. -/
theorem eachFrom_eq_valid_iff {position : Nat} {items : List Value} {contents : List Content} :
    eachFrom read position items = .valid contents ↔
      List.Forall₂ (fun item content => read item = .valid content) items contents := by
  induction items generalizing position contents with
  | nil => cases contents <;> simp [eachFrom]
  | cons item rest inductionHypothesis =>
      simp only [eachFrom, seq_eq_valid_iff, map_eq_valid_iff, within_eq_valid_iff,
        inductionHypothesis]
      constructor
      · rintro ⟨_, others, ⟨content, first, rfl⟩, related, rfl⟩
        exact .cons first related
      · rintro (_ | ⟨first, related⟩)
        exact ⟨_, _, ⟨_, first, rfl⟩, related, rfl⟩

/-- Everything in a list was read from some value. -/
theorem exists_read_of_listOf {contents : List Content} (listed : listOf read given = .valid contents)
    {content : Content} (member : content ∈ contents) : ∃ item, read item = .valid content := by
  rw [listOf] at listed
  split at listed
  case h_1 items itemized =>
    have related := eachFrom_eq_valid_iff.1 listed
    obtain ⟨index, inside, rfl⟩ := List.getElem_of_mem member
    have matching := (List.forall₂_iff_get.1 related).2 index
      (related.length_eq ▸ inside) inside
    exact ⟨_, matching⟩
  case h_2 => exact absurd listed fail_ne_valid

/-- A list that may be missing holds only what was read from some value. -/
theorem exists_read_of_defaulted_listOf {name : String} {contents : List Content}
    (listed : defaulted name [] (listOf read) entries = .valid contents)
    {content : Content} (member : content ∈ contents) : ∃ item, read item = .valid content := by
  obtain ⟨-, rfl⟩ | ⟨value, -, listed⟩ := defaulted_eq_valid_iff.1 listed
  · exact absurd member List.not_mem_nil
  · exact exists_read_of_listOf listed member

/-- A whole text is one without halves. -/
theorem wholeText_eq_valid_iff {text content : String} :
    wholeText given text = .valid content ↔ Text.hasHalf text = false ∧ text = content := by
  rw [wholeText]
  split
  case isTrue half => simp [half, fail_ne_valid]
  case isFalse whole => simp [Bool.not_eq_true _ ▸ whole]

/-- A text that is read as not empty is whole. -/
theorem hasHalf_of_nonEmptyText {content : { content : String // content ≠ "" }}
    (known : nonEmptyText given = .valid content) : Text.hasHalf content.val = false := by
  simp only [nonEmptyText, andThen_eq_valid_iff, wholeText_eq_valid_iff] at known
  obtain ⟨text, -, _, ⟨whole, rfl⟩, accepted⟩ := known
  split at accepted
  · exact absurd accepted fail_ne_valid
  · cases accepted
    exact whole

/-- So is one that must be there. -/
theorem hasHalf_of_required {name : String} {content : { content : String // content ≠ "" }}
    (known : required name nonEmptyText entries = .valid content) :
    Text.hasHalf content.val = false := by
  obtain ⟨value, -, known⟩ := required_eq_valid_iff.1 known
  exact hasHalf_of_nonEmptyText known

/-- A key has a text exactly when it is one. -/
theorem keyText?_eq_some_iff {key : Value} {name : String} :
    keyText? key = some name ↔ key = .text name := by
  cases key <;> simp [keyText?]

/-- Keys that are not broken are whole. -/
theorem hasHalf_of_brokenKey?_eq_none (unbroken : brokenKey? entries = none) {name : String}
    {content : Value} (member : (.text name, content) ∈ entries) : Text.hasHalf name = false := by
  rw [brokenKey?, Option.map_eq_none_iff, List.find?_eq_none] at unbroken
  simpa [keyText?] using unbroken _ member

/-- A key that is kept is a text of the entries and none of the known ones. -/
theorem mem_keys_openExtras {known : List String} {name : String}
    (member : name ∈ (openExtras known entries).keys) :
    name ∉ known ∧ ∃ content, (.text name, content) ∈ entries := by
  rw [openExtras, OrderedMap.mem_keys_ofList] at member
  obtain ⟨⟨name, content⟩, inside, rfl⟩ := List.mem_map.1 member
  obtain ⟨⟨key, kept, _⟩, rest, same⟩ := List.mem_filterMap.1 inside
  obtain ⟨_, rfl, same⟩ := Option.map_eq_some_iff.1 same
  cases same
  obtain ⟨⟨key, _⟩, given, same⟩ := List.mem_filterMap.1 rest
  dsimp only at same
  split at same
  case h_1 => simp at same
  case h_2 text isText =>
    split at same
    case isTrue => simp at same
    case isFalse free =>
      cases same
      obtain rfl := keyText?_eq_some_iff.1 isText
      refine ⟨fun isKnown => free ?_, _, given⟩
      rw [List.contains_iff_mem, takenKeys, List.mem_filter]
      refine ⟨isKnown, ?_⟩
      rw [Value.find?, Option.isSome_map, List.find?_isSome]
      exact ⟨_, given, by simp [Value.sameKey]⟩

end Reader

open Checked Reader

/-- The names that are looked into have no halves, and no extra key is one of the known keys. -/
def Decl.HasWholeNames : Decl → Prop
  | .classDecl decl =>
      Text.hasHalf decl.name = false ∧ ∀ field ∈ decl.fields, Text.hasHalf field.name = false
  | .enumDecl decl =>
      Text.hasHalf decl.name = false ∧ ∀ value ∈ decl.values, Text.hasHalf value.name = false
  | .otherDecl decl =>
      ∀ key ∈ decl.extras.keys, key ∉ ["kind", "name"] ∧ Text.hasHalf key = false

instance (decl : Decl) : Decidable decl.HasWholeNames :=
  match decl with
  | .classDecl decl => inferInstanceAs (Decidable (Text.hasHalf decl.name = false ∧
      ∀ field ∈ decl.fields, Text.hasHalf field.name = false))
  | .enumDecl decl => inferInstanceAs (Decidable (Text.hasHalf decl.name = false ∧
      ∀ value ∈ decl.values, Text.hasHalf value.name = false))
  | .otherDecl decl => inferInstanceAs (Decidable (∀ key ∈ decl.extras.keys,
      key ∉ ["kind", "name"] ∧ Text.hasHalf key = false))

def Schema.HasWholeNames (schema : Schema) : Prop := ∀ decl ∈ schema.decls, decl.HasWholeNames

instance (schema : Schema) : Decidable schema.HasWholeNames :=
  inferInstanceAs (Decidable (∀ decl ∈ schema.decls, decl.HasWholeNames))

/-- The name of a field that is read is whole. -/
theorem ClassField.hasHalf_name_of_read {given : Value} {field : ClassField}
    (known : ClassField.read given = .valid field) : Text.hasHalf field.name = false := by
  obtain ⟨entries, -, -, known, -⟩ := model_eq_valid_iff.1 known
  simp only [seq_eq_valid_iff, functorMap_eq_valid_iff] at known
  obtain ⟨_, _, ⟨_, _, ⟨_, _, ⟨_, _, ⟨_, named, rfl⟩, -, rfl⟩, -, rfl⟩, -, rfl⟩, -, rfl⟩ := known
  exact hasHalf_of_required named

/-- So is that of a value. -/
theorem EnumValue.hasHalf_name_of_read {given : Value} {value : EnumValue}
    (known : EnumValue.read given = .valid value) : Text.hasHalf value.name = false := by
  obtain ⟨entries, -, -, known, -⟩ := model_eq_valid_iff.1 known
  simp only [seq_eq_valid_iff, functorMap_eq_valid_iff] at known
  obtain ⟨_, _, ⟨_, _, ⟨_, named, rfl⟩, -, rfl⟩, -, rfl⟩ := known
  exact hasHalf_of_required named

/-- The names of a class that is read, and of its fields, are whole. -/
theorem ClassDecl.hasWholeNames_of_read {given : Value} {decl : ClassDecl}
    (known : ClassDecl.read given = .valid decl) : (Decl.classDecl decl).HasWholeNames := by
  obtain ⟨entries, -, -, known, -⟩ := model_eq_valid_iff.1 known
  simp only [seq_eq_valid_iff, functorMap_eq_valid_iff] at known
  obtain ⟨_, _, ⟨_, _, ⟨_, fields, ⟨_, _, ⟨_, name, ⟨_, -, rfl⟩, named, rfl⟩, -, rfl⟩, listed, rfl⟩,
    -, rfl⟩, -, rfl⟩ := known
  refine ⟨hasHalf_of_required named, fun field member => ?_⟩
  obtain ⟨item, known⟩ := exists_read_of_defaulted_listOf listed member
  exact ClassField.hasHalf_name_of_read known

/-- The names of an enum that is read, and of its values, are whole. -/
theorem EnumDecl.hasWholeNames_of_read {given : Value} {decl : EnumDecl}
    (known : EnumDecl.read given = .valid decl) : (Decl.enumDecl decl).HasWholeNames := by
  obtain ⟨entries, -, -, known, -⟩ := model_eq_valid_iff.1 known
  simp only [seq_eq_valid_iff, functorMap_eq_valid_iff] at known
  obtain ⟨_, _, ⟨_, values, ⟨_, _, ⟨_, name, ⟨_, -, rfl⟩, named, rfl⟩, -, rfl⟩, listed, rfl⟩,
    -, rfl⟩ := known
  refine ⟨hasHalf_of_required named, fun value member => ?_⟩
  obtain ⟨item, known⟩ := exists_read_of_defaulted_listOf listed member
  exact EnumValue.hasHalf_name_of_read known

/-- The keys of any other declaration that is read are whole. -/
theorem OtherDecl.hasWholeNames_of_read {given : Value} {decl : OtherDecl}
    (known : OtherDecl.read given = .valid decl) : (Decl.otherDecl decl).HasWholeNames := by
  obtain ⟨entries, -, unbroken, known, -⟩ := model_eq_valid_iff.1 known
  simp only [seq_eq_valid_iff, functorMap_eq_valid_iff] at known
  obtain ⟨_, _, ⟨_, -, rfl⟩, -, rfl⟩ := known
  intro key member
  obtain ⟨free, content, given⟩ := mem_keys_openExtras member
  exact ⟨free, hasHalf_of_brokenKey?_eq_none unbroken given⟩

/-- A declaration that is read has whole names, whatever its kind. -/
theorem Decl.hasWholeNames_of_read {given : Value} {decl : Decl}
    (known : Decl.read given = .valid decl) : decl.HasWholeNames := by
  rw [Decl.read] at known
  split at known
  all_goals
    rw [within_eq_valid_iff, map_eq_valid_iff] at known
    obtain ⟨decl, known, rfl⟩ := known
  · exact ClassDecl.hasWholeNames_of_read known
  · exact EnumDecl.hasWholeNames_of_read known
  · exact OtherDecl.hasWholeNames_of_read known

/-- A schema that was read has whole names. -/
theorem Schema.hasWholeNames_of_read {given : Value} {schema : Schema}
    (known : Schema.read given = .valid schema) : schema.HasWholeNames := by
  obtain ⟨entries, -, -, known, -⟩ := model_eq_valid_iff.1 known
  simp only [seq_eq_valid_iff, functorMap_eq_valid_iff] at known
  obtain ⟨_, decls, ⟨_, -, rfl⟩, listed, rfl⟩ := known
  intro decl member
  obtain ⟨item, known⟩ := exists_read_of_defaulted_listOf listed member
  exact Decl.hasWholeNames_of_read known

/-- The modules of imports that were read have whole names. -/
theorem Config.hasHalf_moduleName_of_read {given : Value} {config : Config}
    (known : Config.read given = .valid config) :
    ∀ spec ∈ config.imports, Text.hasHalf spec.moduleName = false := by
  obtain ⟨entries, -, -, known, -⟩ := model_eq_valid_iff.1 known
  simp only [seq_eq_valid_iff, functorMap_eq_valid_iff] at known
  obtain ⟨_, imports, ⟨_, _, ⟨_, _, ⟨_, _, ⟨_, -, rfl⟩, -, rfl⟩, -, rfl⟩, -, rfl⟩, listed, rfl⟩ :=
    known
  intro spec member
  obtain ⟨item, known⟩ := exists_read_of_defaulted_listOf listed member
  obtain ⟨entries, -, -, known, -⟩ := model_eq_valid_iff.1 known
  simp only [seq_eq_valid_iff, functorMap_eq_valid_iff] at known
  obtain ⟨_, _, ⟨_, named, rfl⟩, -, rfl⟩ := known
  exact hasHalf_of_required named

end RosettaDaml
