/-
This file compares the check of a schema file with a dry run of its conversion.
-/

import RosettaDaml.Proofs.Command.Convert
import RosettaDaml.Proofs.Conversion.PlainText
import RosettaDaml.Proofs.Conversion.References
import RosettaDaml.Proofs.Screen.Report
import RosettaDaml.Proofs.Store.Problems

namespace RosettaDaml

/-- The standard settings with a choice of strictness. -/
def Config.standardWith (strict : Bool) : Config := { Config.standard with strict }

/-- Strictness does not change the room for comments. -/
theorem Config.hasRoom_standardWith (strict : Bool) : (standardWith strict).HasRoom :=
  hasRoom_standard

/-- The classes and enums of a schema have names without the bracket that begins a tag. -/
def Schema.NamesHaveNoBrackets (schema : Schema) : Prop :=
  ∀ decl ∈ schema.decls, ∀ name ∈ decl.identifier.toList, '[' ∉ name.toList

/-! Warnings. -/

/-- No keyword holds a bracket. -/
theorem not_mem_of_isKeyword {name : String} (keyword : isKeyword name = true) :
    '[' ∉ name.toList := by
  have free : ∀ keyword ∈ keywords, '[' ∉ keyword.toList := by decide +kernel
  exact free name (List.contains_iff_mem.1 keyword)

/-- A warning about a keyword holds the name and the path of its owner. -/
theorem hasNoBrackets_keyword {name path : String} (free : '[' ∉ name.toList)
    (freePath : '[' ∉ path.toList) : (Finding.keyword name path).issue.HasNoBrackets where
  code := show '[' ∉ "W005".toList by decide
  bracketed := show Screen.isTagless ("\\[" ++ "W005" ++ "]").toList = true by decide +kernel
  message := by simpa [Finding.issue, toString] using free
  path _ same := Option.some.inj same ▸ freePath
  suggestion _ same := Option.some.inj same ▸ by decide

/-- A warning about an empty type holds its name. -/
theorem hasNoBrackets_emptyVariant {name : String} (free : '[' ∉ name.toList) :
    (Finding.emptyVariant name).issue.HasNoBrackets where
  code := show '[' ∉ "W006".toList by decide
  bracketed := show Screen.isTagless ("\\[" ++ "W006" ++ "]").toList = true by decide +kernel
  message := by simpa [Finding.issue, toString] using free
  path _ same := Option.some.inj same ▸ free
  suggestion _ same := absurd same (by simp [Finding.issue])

/-- The warnings of a module without errors hold no brackets but those in its names. -/
theorem Module.hasNoBrackets_of_mem_issues {model : Module} (valid : model.validate.errors = [])
    (free : ∀ name ∈ model.declarationNames, '[' ∉ name.toList) :
    ∀ issue ∈ model.validate.issues, issue.HasNoBrackets := by
  intro issue member
  have noError : issue.severity ≠ .error := by
    intro isError
    have listed : issue ∈ model.validate.errors := List.mem_filter.2 ⟨member, by simp [isError]⟩
    rw [valid] at listed
    exact absurd listed List.not_mem_nil
  obtain ⟨finding, found, rfl⟩ := List.mem_map.1 member
  obtain ⟨check, -, found⟩ := List.mem_flatMap.1 found
  rw [Check.severity_of_mem_findings found] at noError
  cases check with
  | references | declarationNames | memberNames => exact absurd rfl noError
  | keywords =>
      obtain ⟨declaration, inside, found⟩ := List.mem_flatMap.1 found
      have owner := free _ (List.mem_map_of_mem inside)
      rcases List.mem_append.1 found with own | members
      · split at own
        · obtain rfl := List.mem_singleton.1 own
          exact hasNoBrackets_keyword owner owner
        · exact absurd own List.not_mem_nil
      · obtain ⟨part, known, rfl⟩ := List.mem_map.1 members
        have freePart := not_mem_of_isKeyword (List.mem_filter.1 known).2
        refine hasNoBrackets_keyword freePart ?_
        simpa [Declaration.memberPath, toString, owner] using freePart
  | emptyVariants =>
      obtain ⟨declaration, inside, rfl⟩ := List.mem_map.1 found
      exact hasNoBrackets_emptyVariant (free _ (List.mem_map_of_mem (List.mem_filter.1 inside).1))

/-- The names in a module are those of the schema, or are put in their place. -/
theorem Schema.NamesHaveNoBrackets.declarationNames {schema : Schema}
    (free : schema.NamesHaveNoBrackets) (acyclic : schema.Acyclic) (config : Config) (name : String) :
    ∀ given ∈ (schema.moduleOf config name).declarationNames, '[' ∉ given.toList := by
  intro given member
  obtain ⟨position, decl, kept, emitted⟩ :=
    (schema.mem_declarationNames_iff acyclic config name).1 member
  obtain ⟨own, identified, rfl⟩ := Decl.emittedName_eq_some_iff.1 emitted
  obtain listed | stays := renameType_cases own
  · have targets : ∀ entry ∈ typeRenames, '[' ∉ entry.2.toList := by decide
    exact targets (own, renameType own) listed
  · rw [stays]
    exact free decl (List.mem_of_getElem? kept.stands) own (by simp [identified])

namespace Command

open RosettaDaml.Screen
open RosettaDaml.Text (IsPlain)

variable {store : Store} {width : Nat}

/-! The check, on a screen of any width. -/

/-- The last line of a check that passes is shown. -/
theorem showsOn_passed {name : String} (clear : Text.IsClear name) :
    (Block.marked s!"[bold green]✓ {name} is valid[/bold green]").ShowsOn .output ∧
      (Block.marked s!"[bold yellow]⚠ {name} is valid with warnings[/bold yellow]").ShowsOn
        .output := by
  have around {front back : String} (clearFront : Text.IsClear front)
      (clearBack : Text.IsClear back) : Text.IsClear (front ++ name ++ back) :=
    (clearFront.append clear).append clearBack
  constructor
  · refine @showsOn_styled "bold green" ("✓ " ++ name ++ " is valid") _ (by decide +kernel)
      (.of_free (by decide)) (around ?_ ?_) ?_ .output
    · exact .of_free (by decide) (by decide)
    · exact .of_free (by decide) (by decide)
    · simp [← String.toList_inj, toString]
  · refine @showsOn_styled "bold yellow" ("⚠ " ++ name ++ " is valid with warnings") _
      (by decide +kernel) (.of_free (by decide)) (around ?_ ?_) ?_ .output
    · exact .of_free (by decide) (by decide)
    · exact .of_free (by decide +kernel) (by decide +kernel)
    · simp [← String.toList_inj, toString]

/-- A module is accepted exactly when its check ends well. -/
theorem exitCode_judge_eq_zero_iff {options : ValidateOptions} {model : Module}
    (clear : Text.IsClear (Path.ofPlace options.input).name)
    (free : ∀ name ∈ model.declarationNames, '[' ∉ name.toList) :
    (judge store options model).exitCode width = 0 ↔ model.validate.isAccepted options.strict = true := by
  rw [judge]
  split
  case isFalse refused =>
    rw [exitCode_failed]
    exact iff_of_false (by decide) refused
  case isTrue accepted =>
    refine iff_of_true (exitCode_done ?_ store width) accepted
    have valid : model.validate.errors = [] := by
      rw [Report.isAccepted, Bool.and_eq_true] at accepted
      exact List.isEmpty_iff.1 accepted.1
    have shown := canShow_of_mem_reportView (Module.hasNoBrackets_of_mem_issues valid free)
      options.style (some model.name)
    obtain ⟨quiet, loud⟩ := showsOn_passed clear
    refine List.forall_mem_append.2 ⟨List.forall_mem_map.2 fun block member => ?_,
      List.forall_mem_map.2 fun block member => ?_⟩
    · split at member
      · exact absurd member List.not_mem_nil
      · exact Block.showsOn_errors (shown block member)
    · split at member
      · exact absurd member List.not_mem_nil
      · obtain rfl := List.mem_singleton.1 member
        split
        · exact quiet
        · exact loud

/-- A failure that is not handled ends with one. -/
theorem exitCode_escape (store : Store) (failure : ReadFailure) (width : Nat) :
    (Outcome.escape store failure).exitCode width = 1 := rfl

/-- A check ends well exactly when the schema loads, its bases end, and nothing is held against it. -/
theorem exitCode_validate_eq_zero_iff {options : ValidateOptions}
    (clear : Text.IsClear (Path.ofPlace options.input).name)
    (free : ∀ schema, store.loadSchema (Path.ofPlace options.input) = .ok schema →
      schema.NamesHaveNoBrackets) :
    (validate store options).exitCode width = 0 ↔
      ∃ schema, store.loadSchema (Path.ofPlace options.input) = .ok schema ∧ schema.Acyclic ∧
        ¬ schema.Rejected options.strict := by
  rw [validate]
  cases loaded : store.loadSchema (Path.ofPlace options.input) with
  | ok schema =>
      simp only [Store.schemaProblems_eq_nil_iff.2 ⟨schema, loaded⟩, Except.ok.injEq,
        exists_eq_left']
      -- What loads is judged unless its bases form a cycle.
      by_cases acyclic : schema.Acyclic
      · rw [Schema.result_transform_of_acyclic acyclic]
        have freeNames := (free schema loaded).declarationNames acyclic .standard
          (Path.ofPlace options.input).stem
        refine (exitCode_judge_eq_zero_iff clear freeNames).trans ?_
        rw [and_iff_right acyclic]
        exact schema.isAccepted_validate_moduleOf_iff acyclic .standard _ options.strict
      · obtain ⟨failure, fails⟩ := Schema.exists_cyclic_of_not_acyclic acyclic []
          (Path.ofPlace options.input).stem
        rw [fails]
        exact iff_of_false (by rw [exitCode_failed]; decide) fun given => acyclic given.1
  | error failure =>
      refine iff_of_false ?_ (by simp)
      split
      case h_1 given => exact absurd given (by simp)
      case h_2 => rw [exitCode_failed]; decide
      case h_3 => rw [exitCode_escape]; decide

/-! The dry run. -/

section DryRun

variable {options : ConvertOptions} {text : String}

/-- Without a file of settings only strictness can differ from the standard ones. -/
theorem loadConfig_none :
    store.loadConfig none options.overrides = .ok (.standardWith options.strict) := by
  rw [ConvertOptions.overrides]
  cases options.strict <;> rfl

/-- Without a file of settings a conversion has the standard ones. -/
theorem converts_iff (standard : options.config = none) :
    options.Converts store text ↔
      ∃ schema, store.loadSchema (Path.ofPlace options.input) = .ok schema ∧
        (schema.convert (.standardWith options.strict) options.moduleName).result = .ok text := by
  rw [ConvertOptions.Converts, standard]
  simp only [Option.map_none, loadConfig_none, Except.ok.injEq, exists_and_left, exists_eq_left']

/-- A schema file is converted exactly when nothing is held against it. -/
theorem exists_converts_iff (standard : options.config = none) :
    (∃ text, options.Converts store text) ↔
      ∃ schema, store.loadSchema (Path.ofPlace options.input) = .ok schema ∧ schema.Acyclic ∧
        ¬ schema.Rejected options.strict := by
  simp only [converts_iff standard]
  constructor
  · rintro ⟨text, schema, loaded, gives⟩
    obtain ⟨model, built, -⟩ := Schema.result_convert_eq_ok_iff.1 gives
    obtain ⟨acyclic, accepted, -⟩ := Schema.result_build_eq_ok_iff.1 built
    exact ⟨schema, loaded, acyclic, accepted⟩
  · rintro ⟨schema, loaded, acyclic, accepted⟩
    have room := Config.hasRoom_standardWith options.strict
    have allowed : ¬ (Config.standard.emptyVariant = .error ∧ schema.HasEmptyEnum) :=
      fun refused => absurd refused.1 (by decide)
    obtain ⟨text, gives⟩ :=
      Schema.exists_convert_of_room acyclic room accepted allowed options.moduleName
    exact ⟨text, schema, loaded, gives⟩

/-- A dry run ends well exactly when its text has bytes. -/
theorem exitCode_convert_eq_zero_iff_hasHalf (clear : options.NamesClear)
    (dry : options.dryRun = true) :
    (convert store options).exitCode width = 0 ↔
      ∃ text, options.Converts store text ∧ Text.hasHalf text = false := by
  rw [exitCode_convert_eq_zero_iff_of_dry clear dry]
  constructor
  · rintro ⟨text, content, delivers⟩
    exact ⟨text, delivers.converts, (Text.exists_encode_iff text).1 ⟨content, delivers.encodes⟩⟩
  · rintro ⟨text, converts, whole⟩
    obtain ⟨content, encodes⟩ := (Text.exists_encode_iff text).2 whole
    exact ⟨text, content, by simp [ConvertOptions.isBlocked, dry], converts, encodes⟩

/-- The text of a schema of characters has no halves. -/
theorem ConvertOptions.Converts.hasHalf (converts : options.Converts store text)
    (standard : options.config = none) (named : IsPlain options.moduleName)
    (plain : ∀ schema, store.loadSchema (Path.ofPlace options.input) = .ok schema →
      schema.HoldsCharacters) : Text.hasHalf text = false := by
  obtain ⟨schema, loaded, gives⟩ := (converts_iff standard).1 converts
  have room := Config.hasRoom_standardWith options.strict
  exact ((plain schema loaded).of_convert room rfl (fun _ given => absurd given List.not_mem_nil)
    named gives).hasHalf

end DryRun

/-! Both. -/

/-- The same choices for the check of a file and for a dry run of its conversion. -/
structure Trial where
  place : List String
  style : ReportStyle
  quiet : Bool
  strict : Bool
  force : Bool
  verbose : Bool
  moduleName : String

namespace Trial

def checks (trial : Trial) : ValidateOptions where
  input := trial.place
  quiet := trial.quiet
  style := trial.style
  strict := trial.strict

def options (trial : Trial) : ConvertOptions where
  input := trial.place
  moduleName := trial.moduleName
  output := none
  config := none
  force := trial.force
  dryRun := true
  strict := trial.strict
  verbose := trial.verbose

/-- Whether the check ends well exactly when the dry run does, on a screen of some width. -/
def Agrees (trial : Trial) (store : Store) (width : Nat) : Prop :=
  (validate store trial.checks).exitCode width = 0 ↔
    (convert store trial.options).exitCode width = 0

/-- A trial of an existing file, with no brackets in names that are shown. -/
structure IsFair (trial : Trial) (store : Store) : Prop where
  here : ∀ part ∈ store.here, IsPlain part
  there : ∃ file, existingFile? store (Text.ofString file) = some trial.place
  named : ∃ name, Text.ofString name = trial.moduleName
  free : ∀ part ∈ trial.place, '[' ∉ part.toList
  names : ∀ schema, store.loadSchema (Path.ofPlace trial.place) = .ok schema →
    schema.NamesHaveNoBrackets

end Trial

variable {trial : Trial} (fair : trial.IsFair store)

namespace Trial.IsFair

include fair

/-- The place of a fair trial is clear. -/
theorem isClear : ∀ part ∈ trial.place, Text.IsClear part := by
  obtain ⟨file, there⟩ := fair.there
  have plain := isPlain_existingFile? fair.here ⟨file, rfl⟩ there
  exact fun part member => ⟨plain part member, fair.free part member⟩

/-- So are the places of its conversion. -/
theorem namesClear : trial.options.NamesClear :=
  ⟨fair.isClear, fun _ given => absurd given (by simp [options])⟩

/-- The check ends well exactly when there is a text to convert to. -/
theorem exitCode_validate : (validate store trial.checks).exitCode width = 0 ↔
    ∃ text, trial.options.Converts store text := by
  rw [exists_converts_iff rfl]
  exact exitCode_validate_eq_zero_iff (Path.isClear_name (Path.ofPlace trial.place) fair.isClear)
    fair.names

/-- The check and the dry run agree exactly when the text has bytes to count. -/
theorem agrees_iff : trial.Agrees store width ↔
    ∀ text, trial.options.Converts store text → Text.hasHalf text = false := by
  rw [Agrees, fair.exitCode_validate, exitCode_convert_eq_zero_iff_hasHalf fair.namesClear rfl]
  constructor
  · intro same text converts
    obtain ⟨other, convertsToo, whole⟩ := same.1 ⟨text, converts⟩
    rwa [converts.unique convertsToo]
  · intro whole
    exact ⟨fun ⟨text, converts⟩ => ⟨text, converts, whole text converts⟩,
      fun ⟨text, converts, _⟩ => ⟨text, converts⟩⟩

end Trial.IsFair

include fair

/-- The check and the dry run agree unless the text has halves, which schemas of characters never
have in their texts. -/
theorem trial_agrees_iff (width : Nat) :
    (trial.Agrees store width ↔
      ∀ text, trial.options.Converts store text → Text.hasHalf text = false) ∧
    ((∀ schema, store.loadSchema (Path.ofPlace trial.place) = .ok schema →
      schema.HoldsCharacters) → trial.Agrees store width) := by
  refine ⟨fair.agrees_iff, fun plain => fair.agrees_iff.2 fun text converts => ?_⟩
  exact converts.hasHalf rfl fair.named plain

omit fair

instance (schema : Schema) : Decidable schema.NamesHaveNoBrackets :=
  inferInstanceAs (Decidable
    (∀ decl ∈ schema.decls, ∀ name ∈ decl.identifier.toList, '[' ∉ name.toList))

def deskTrial : Trial := ⟨["desk", "trade.json"], .text, false, false, false, false, "Model"⟩

/-- A trial of a schema on the desk is fair when its names hold no brackets. -/
theorem isFair_deskWith {content : String}
    (there : existingFile? (deskWith content) (Text.ofString "trade.json") = some deskTrial.place)
    (names : ((deskWith content).loadSchema (Path.ofPlace deskTrial.place)).toOption.all
      (fun schema => decide schema.NamesHaveNoBrackets) = true) :
    deskTrial.IsFair (deskWith content) where
  here := List.forall_mem_singleton.2 (.of_free (by decide))
  there := ⟨"trade.json", there⟩
  named := ⟨"Model", by decide +kernel⟩
  free := by decide
  names schema loaded := by
    rw [loaded] at names
    exact of_decide_eq_true names

/-- The text of the class has no halves. -/
theorem text?_desk : (deskOptions.text? desk).map Text.hasHalf = some false := by
  decide +kernel

theorem trial_agrees_iff_desk :
    deskTrial.IsFair desk ∧ ∀ width, deskTrial.Agrees desk width := by
  have fair : deskTrial.IsFair desk := isFair_deskWith (by decide +kernel) (by decide +kernel)
  refine ⟨fair, fun width => (trial_agrees_iff fair width).1.2 fun text converts => ?_⟩
  have same : deskTrial.options.text? desk = deskOptions.text? desk :=
    @ConvertOptions.text?_dryRun desk deskOptions true
  have computed := text?_desk
  rwa [← same, ConvertOptions.text?_eq_some_iff.2 converts, Option.map_some, Option.some_inj]
    at computed

/-- Half a character in an annotation passes the check and has no bytes. -/
theorem not_forall_agrees :
    ¬ ∃ width, ∀ (trial : Trial) (store : Store), trial.IsFair store → trial.Agrees store width := by
  rintro ⟨width, always⟩
  have fair : deskTrial.IsFair halfDesk := isFair_deskWith (by decide +kernel) (by decide +kernel)
  obtain ⟨text, converts, half⟩ := breaksOff_halfDesk.broken
  have whole := fair.agrees_iff.1 (always _ _ fair) text converts
  exact absurd (half.symm.trans whole) (by decide)

end Command

end RosettaDaml
