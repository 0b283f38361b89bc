/-
This file says which modules the checks accept.
-/

import Mathlib.Data.List.Count
import Mathlib.Data.List.Nodup
import RosettaDaml.Consistency.Check

namespace RosettaDaml

/-- No name is listed as repeated exactly when all names are different. -/
theorem repeated_eq_nil_iff (names : List String) : repeated names = [] ↔ names.Nodup := by
  rw [repeated, List.filter_eq_nil_iff, List.nodup_iff_count_le_one]
  constructor
  · intro noneRepeated name
    by_cases member : name ∈ names
    · have once := noneRepeated (name, names.count name)
        (List.mem_map.2 ⟨name, List.mem_eraseDups.2 member, rfl⟩)
      simpa using once
    · rw [List.count_eq_zero_of_not_mem member]
      omega
  · intro once entry member
    obtain ⟨name, -, rfl⟩ := List.mem_map.1 member
    simpa using once name

/-- Whether what a check finds are errors; otherwise they are warnings. -/
def Check.findsErrors : Check → Bool
  | .keywords => false
  | .emptyVariants => false
  | _ => true

def Check.severity (check : Check) : Severity :=
  if check.findsErrors then .error else .warning

/-- There are no other checks. -/
theorem Check.mem_all (check : Check) : check ∈ Check.all := by
  cases check <;> decide

/-- All findings of one check have the same severity. -/
theorem Check.severity_of_mem_findings {model : Module} {check : Check} {finding : Finding}
    (found : finding ∈ check.findings model) : finding.issue.severity = check.severity := by
  cases check with
  | references =>
      obtain ⟨declaration, -, inside⟩ := List.mem_flatMap.1 found
      obtain ⟨reference, -, rfl⟩ := List.mem_map.1 inside
      rfl
  | declarationNames =>
      obtain ⟨entry, -, rfl⟩ := List.mem_map.1 found
      rfl
  | memberNames =>
      obtain ⟨declaration, -, inside⟩ := List.mem_flatMap.1 found
      obtain ⟨entry, -, rfl⟩ := List.mem_map.1 inside
      rfl
  | keywords =>
      obtain ⟨declaration, -, inside⟩ := List.mem_flatMap.1 found
      rcases List.mem_append.1 inside with own | members
      · split at own
        · rw [List.mem_singleton.1 own]
          rfl
        · simp at own
      · obtain ⟨member, -, rfl⟩ := List.mem_map.1 members
        rfl
  | emptyVariants =>
      obtain ⟨declaration, -, rfl⟩ := List.mem_map.1 found
      rfl

namespace Module

/-- Every reference is declared, and no name is given twice in one scope. -/
structure IsConsistent (model : Module) : Prop where
  resolved : ∀ declaration ∈ model.declarations, ∀ reference ∈ declaration.references,
    reference.1 ∈ model.declarationNames
  distinctNames : model.declarationNames.Nodup
  distinctParts : ∀ declaration ∈ model.declarations, declaration.partNames.2.Nodup

/-- No name is a keyword, and there is always something to choose from. -/
structure IsQuiet (model : Module) : Prop where
  names : ∀ declaration ∈ model.declarations, isKeyword declaration.name = false
  memberNames : ∀ declaration ∈ model.declarations, ∀ member ∈ declaration.members,
    isKeyword member.name = false
  inhabited : ∀ declaration ∈ model.declarations, declaration.isEmptyVariant = false

/-- A report has no issues of a severity when the checks of that severity find nothing. -/
theorem filter_issues_validate_eq_nil_iff (model : Module) (severity : Severity) :
    (model.validate.issues.filter fun issue => issue.severity == severity) = [] ↔
      ∀ check : Check, check.severity = severity → check.findings model = [] := by
  simp only [validate, report, List.filter_eq_nil_iff, beq_iff_eq]
  constructor
  · intro noneOfThem check sameSeverity
    refine List.eq_nil_iff_forall_not_mem.2 fun finding found => ?_
    refine noneOfThem finding.issue (List.mem_map_of_mem ?_) ?_
    · exact List.mem_flatMap.2 ⟨check, check.mem_all, found⟩
    · rw [Check.severity_of_mem_findings found, sameSeverity]
  · intro nothing issue member sameSeverity
    obtain ⟨finding, found, rfl⟩ := List.mem_map.1 member
    obtain ⟨check, -, found⟩ := List.mem_flatMap.1 found
    rw [Check.severity_of_mem_findings found] at sameSeverity
    rw [nothing check sameSeverity] at found
    exact absurd found List.not_mem_nil

/-- No reference is reported when all are declared. -/
theorem findings_references_eq_nil_iff (model : Module) :
    Check.references.findings model = [] ↔
      ∀ declaration ∈ model.declarations, ∀ reference ∈ declaration.references,
        reference.1 ∈ model.declarationNames := by
  simp [Check.findings, Declaration.unresolvedReferences]

/-- No member is reported when none is repeated. -/
theorem findings_memberNames_eq_nil_iff (model : Module) :
    Check.memberNames.findings model = [] ↔
      ∀ declaration ∈ model.declarations, declaration.partNames.2.Nodup := by
  simp [Check.findings, Declaration.repeatedMembers, repeated_eq_nil_iff]

/-- No declaration is reported when none is repeated. -/
theorem findings_declarationNames_eq_nil_iff (model : Module) :
    Check.declarationNames.findings model = [] ↔ model.declarationNames.Nodup := by
  simp [Check.findings, repeated_eq_nil_iff]

/-- No keyword is reported when none is a name. -/
theorem findings_keywords_eq_nil_iff (model : Module) :
    Check.keywords.findings model = [] ↔
      ∀ declaration ∈ model.declarations, isKeyword declaration.name = false ∧
        ∀ member ∈ declaration.members, isKeyword member.name = false := by
  simp [Check.findings, Declaration.keywordNames]

/-- No empty type is reported when there is none. -/
theorem findings_emptyVariants_eq_nil_iff (model : Module) :
    Check.emptyVariants.findings model = [] ↔
      ∀ declaration ∈ model.declarations, declaration.isEmptyVariant = false := by
  simp [Check.findings]

/-- A module without errors is consistent. -/
theorem errors_validate_eq_nil_iff (model : Module) :
    model.validate.errors = [] ↔ model.IsConsistent := by
  rw [Report.errors, filter_issues_validate_eq_nil_iff]
  constructor
  · intro nothing
    exact ⟨model.findings_references_eq_nil_iff.1 (nothing .references rfl),
      model.findings_declarationNames_eq_nil_iff.1 (nothing .declarationNames rfl),
      model.findings_memberNames_eq_nil_iff.1 (nothing .memberNames rfl)⟩
  · rintro ⟨resolved, distinctNames, distinctParts⟩ check isError
    cases check with
    | references => exact model.findings_references_eq_nil_iff.2 resolved
    | declarationNames => exact model.findings_declarationNames_eq_nil_iff.2 distinctNames
    | memberNames => exact model.findings_memberNames_eq_nil_iff.2 distinctParts
    | keywords => simp [Check.severity, Check.findsErrors] at isError
    | emptyVariants => simp [Check.severity, Check.findsErrors] at isError

/-- A module without warnings is quiet. -/
theorem warnings_validate_eq_nil_iff (model : Module) :
    model.validate.warnings = [] ↔ model.IsQuiet := by
  rw [Report.warnings, filter_issues_validate_eq_nil_iff]
  constructor
  · intro nothing
    have free := model.findings_keywords_eq_nil_iff.1 (nothing .keywords rfl)
    exact ⟨fun declaration member => (free declaration member).1,
      fun declaration member => (free declaration member).2,
      model.findings_emptyVariants_eq_nil_iff.1 (nothing .emptyVariants rfl)⟩
  · rintro ⟨names, memberNames, inhabited⟩ check isWarning
    cases check with
    | keywords =>
        exact model.findings_keywords_eq_nil_iff.2 fun declaration member =>
          ⟨names declaration member, memberNames declaration member⟩
    | emptyVariants => exact model.findings_emptyVariants_eq_nil_iff.2 inhabited
    | references => simp [Check.severity, Check.findsErrors] at isWarning
    | declarationNames => simp [Check.severity, Check.findsErrors] at isWarning
    | memberNames => simp [Check.severity, Check.findsErrors] at isWarning

/-- The checks accept the consistent modules and, where they are strict, only the quiet ones of
these. -/
theorem isAccepted_validate_iff (model : Module) (strict : Bool) :
    model.validate.isAccepted strict = true ↔
      model.IsConsistent ∧ (strict = true → model.IsQuiet) := by
  rw [← errors_validate_eq_nil_iff, ← warnings_validate_eq_nil_iff, Report.isAccepted,
    Report.isValid, Bool.and_eq_true, List.isEmpty_iff]
  cases strict <;> simp

end Module

end RosettaDaml
