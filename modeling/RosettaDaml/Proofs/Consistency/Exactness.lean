/-
This file says what the checks find in a module, place by place, and shows that a report holds
exactly that, in order.
-/

import RosettaDaml.Proofs.Consistency.Acceptance
import RosettaDaml.Proofs.Listing

namespace RosettaDaml

namespace TypeExpr

/-- The members of a product and the alternatives of a sum. -/
def members : TypeExpr → List (Member TypeExpr)
  | .product members => members
  | .sum alternatives => alternatives
  | _ => []

/-- The type at the end of a way down through the members of products and sums. -/
def at? : TypeExpr → List Nat → Option TypeExpr
  | type, [] => some type
  | type, index :: way => type.members[index]?.bind fun member => member.type.at? way

end TypeExpr

/-- A nominal type in a declaration: the way to it, its name, and the path that is told of it. -/
inductive Declaration.RefersAt (declaration : Declaration) : List Nat → String → String → Prop where
  | member {index : Nat} {member : Member TypeExpr} {way : List Nat} {name : String}
      (known : declaration.members[index]? = some member)
      (named : member.type.at? way = some (.nominal name)) :
      declaration.RefersAt (index :: way) name (declaration.memberPath member)
  | synonym {type : TypeExpr} {way : List Nat} {name : String}
      (aliased : declaration.body = .synonym type)
      (named : type.at? way = some (.nominal name)) :
      declaration.RefersAt way name s!"{declaration.name}.base_type"

/-- What there is to find in a module. The numbers of a place stand for the check, the declaration,
the part of the declaration, and the way down into its type. A repeated name counts where it stands
for the first time. -/
inductive Module.Finds (model : Module) : List Nat → Finding → Prop where
  | unresolved {index : Nat} {declaration : Declaration} {way : List Nat} {name path : String}
      (known : model.declarations[index]? = some declaration)
      (refers : declaration.RefersAt way name path)
      (undeclared : ∀ other ∈ model.declarations, other.name ≠ name) :
      model.Finds (0 :: index :: way) (.unresolved name path)
  | repeatedDeclaration {name : String} (again : 1 < model.declarationNames.count name) :
      model.Finds [1, model.declarationNames.idxOf name]
        (.repeatedDeclaration name (model.declarationNames.count name))
  | repeatedMember {index : Nat} {declaration : Declaration} {name : String}
      (known : model.declarations[index]? = some declaration)
      (again : 1 < declaration.partNames.2.count name) :
      model.Finds [2, index, declaration.partNames.2.idxOf name]
        (.repeatedMember declaration.name declaration.partNames.1 name
          (declaration.partNames.2.count name))
  | keyword {index : Nat} {declaration : Declaration}
      (known : model.declarations[index]? = some declaration)
      (reserved : declaration.name ∈ keywords) :
      model.Finds [3, index] (.keyword declaration.name declaration.name)
  | memberKeyword {index : Nat} {declaration : Declaration} {position : Nat}
      {member : Member TypeExpr} (known : model.declarations[index]? = some declaration)
      (has : declaration.members[position]? = some member) (reserved : member.name ∈ keywords) :
      model.Finds [3, index, position] (.keyword member.name (declaration.memberPath member))
  | emptyVariant {index : Nat} {declaration : Declaration}
      (known : model.declarations[index]? = some declaration)
      (empty : declaration.isEmptyVariant = true) :
      model.Finds [4, index] (.emptyVariant declaration.name)

/-- The code and the severity of an issue. -/
def Finding.label : Finding → String × Severity
  | .unresolved _ _ => ("E001", .error)
  | .repeatedDeclaration _ _ => ("E101", .error)
  | .repeatedMember _ _ _ _ => ("E102", .error)
  | .keyword _ _ => ("W005", .warning)
  | .emptyVariant _ => ("W006", .warning)

def Module.HasIssue (model : Module) (place : List Nat) (issue : Issue) : Prop :=
  ∃ finding, model.Finds place finding ∧ finding.issue = issue ∧
    (issue.code, issue.severity) = finding.label

/-- The code and the severity of an issue are the label of its finding. -/
theorem Finding.label_issue (finding : Finding) :
    (finding.issue.code, finding.issue.severity) = finding.label := by
  cases finding <;> rfl

namespace TypeExpr

/-- What stands inside a type that is no name itself stands inside one of its members. -/
theorem standsIn_members_iff (type : TypeExpr) (unnamed : ∀ name, type ≠ .nominal name)
    (way : List Nat) (name : String) :
    StandsIn type.members (fun member way name => member.type.at? way = some (.nominal name)) way
      name ↔ type.at? way = some (.nominal name) := by
  cases way with
  | nil => simp [StandsIn, at?, unnamed name]
  | cons index way => simp [StandsIn, at?, Option.bind_eq_some_iff]

mutual

/-- The nominal names of a type are listed depth first. -/
theorem listsInOrder_nominalNames (type : TypeExpr) :
    ListsInOrder (fun way name => type.at? way = some (.nominal name)) type.nominalNames := by
  cases type with
  | nominal name =>
      refine (ListsInOrder.single name).congr fun way other => ?_
      cases way <;> simp [at?, members]
  | product members =>
      rw [nominalNames, membersNominalNames_eq_flatMap]
      exact (ListsInOrder.flatMap members (listsInOrder_memberNames members)).congr
        (standsIn_members_iff (.product members) (by simp))
  | sum alternatives =>
      rw [nominalNames, membersNominalNames_eq_flatMap]
      exact (ListsInOrder.flatMap alternatives (listsInOrder_memberNames alternatives)).congr
        (standsIn_members_iff (.sum alternatives) (by simp))
  | primitive _ | enumeration _ | unknown _ =>
      refine ListsInOrder.nil fun way name => ?_
      cases way <;> simp [at?, members]

/-- The names in the types of members are listed member by member. -/
theorem listsInOrder_memberNames (members : List (Member TypeExpr)) :
    ∀ member ∈ members,
      ListsInOrder (fun way name => member.type.at? way = some (.nominal name))
        member.type.nominalNames := by
  cases members with
  | nil => simp
  | cons member rest =>
      exact List.forall_mem_cons.2
        ⟨listsInOrder_nominalNames member.type, listsInOrder_memberNames rest⟩

end

end TypeExpr

namespace Declaration

/-- A declaration refers to a type from one of its members, or as a synonym. -/
theorem refersAt_iff {declaration : Declaration} {way : List Nat} {name path : String} :
    declaration.RefersAt way name path ↔
      (∃ index member below, way = index :: below ∧ declaration.members[index]? = some member ∧
        member.type.at? below = some (.nominal name) ∧ declaration.memberPath member = path) ∨
      ∃ type, declaration.body = .synonym type ∧ type.at? way = some (.nominal name) ∧
        s!"{declaration.name}.base_type" = path := by
  constructor
  · intro refers
    cases refers with
    | member known named => exact .inl ⟨_, _, _, rfl, known, named, rfl⟩
    | synonym aliased named => exact .inr ⟨_, aliased, named, rfl⟩
  · rintro (⟨index, member, below, rfl, known, named, rfl⟩ | ⟨type, aliased, named, rfl⟩)
    · exact .member known named
    · exact .synonym aliased named

/-- The references of a declaration are listed member by member, each depth first. -/
theorem listsInOrder_references (declaration : Declaration) :
    ListsInOrder (fun way reference => declaration.RefersAt way reference.1 reference.2)
      declaration.references := by
  have inMembers := ListsInOrder.flatMap declaration.members fun member _ =>
    (TypeExpr.listsInOrder_nominalNames member.type).map fun name =>
      (name, declaration.memberPath member)
  obtain ⟨name, comment, body⟩ := declaration
  cases body with
  | synonym type =>
      refine ((TypeExpr.listsInOrder_nominalNames type).map fun target =>
        (target, s!"{name}.base_type")).congr fun way reference => ?_
      simp [refersAt_iff, members, Prod.ext_iff]
  | enumeration _ | record _ | variant _ | template _ _ =>
      rw [references, List.append_nil]
      refine inMembers.congr fun way reference => ?_
      simp [refersAt_iff, StandsIn, Prod.ext_iff]

end Declaration

/-- Leaving out others keeps the order in which two items occur first. -/
theorem idxOf_lt_of_idxOf_filter_lt {names : List String} {keep : String → Bool}
    {name other : String} (kept : keep name = true) (keptToo : keep other = true)
    (less : (names.filter keep).idxOf name < (names.filter keep).idxOf other) :
    names.idxOf name < names.idxOf other := by
  induction names with
  | nil => simp at less
  | cons first names inductionHypothesis =>
      by_cases keepsFirst : keep first = true
      · rw [List.filter_cons_of_pos keepsFirst] at less
        simp only [List.idxOf_cons] at less ⊢
        grind
      · rw [List.filter_cons_of_neg keepsFirst] at less
        have known := inductionHypothesis less
        simp only [List.idxOf_cons]
        grind

/-- The names without repeats stand in the order of their first occurrences. -/
theorem pairwise_idxOf_eraseDups (names : List String) :
    names.eraseDups.Pairwise fun name other => names.idxOf name < names.idxOf other := by
  match names with
  | [] => simp
  | first :: rest =>
      have others := pairwise_idxOf_eraseDups (rest.filter fun name => !name == first)
      have apart {name : String}
          (member : name ∈ (rest.filter fun name => !name == first).eraseDups) :
          (!name == first) = true :=
        (List.mem_filter.1 (List.mem_eraseDups.1 member)).2
      rw [List.eraseDups_cons, List.pairwise_cons]
      refine ⟨fun name member => ?_, others.imp_of_mem fun member memberToo less => ?_⟩
      · have different := apart member
        simp only [List.idxOf_cons]
        grind
      · have kept := apart member
        have keptToo := apart memberToo
        have behind := idxOf_lt_of_idxOf_filter_lt kept keptToo less
        simp only [List.idxOf_cons]
        grind
  termination_by names.length
  decreasing_by exact Nat.lt_succ_of_le (List.length_filter_le _ _)

/-- Repeated names are listed where they stand for the first time. -/
theorem listsInOrder_repeated (names : List String) :
    ListsInOrder (fun place entry => 1 < names.count entry.1 ∧ place = [names.idxOf entry.1] ∧
      entry.2 = names.count entry.1) (repeated names) := by
  have ordered : (repeated names).Pairwise fun first second =>
      ComesFirst [names.idxOf first.1] [names.idxOf second.1] := by
    refine List.Pairwise.filter _ (List.pairwise_map.2 ?_)
    exact (pairwise_idxOf_eraseDups names).imp fun less => .of_lt less _ _
  refine (ListsInOrder.of_pairwise _ ordered).congr ?_
  rintro place ⟨name, count⟩
  simp only [repeated, List.mem_filter, List.mem_map, List.mem_eraseDups, Prod.mk.injEq,
    decide_eq_true_eq]
  constructor
  · rintro ⟨⟨⟨_, -, rfl, rfl⟩, again⟩, rfl⟩
    exact ⟨again, rfl, rfl⟩
  · rintro ⟨again, rfl, rfl⟩
    exact ⟨⟨⟨name, List.count_pos_iff.1 (Nat.zero_lt_of_lt again), rfl, rfl⟩, again⟩, rfl⟩

/-- The own name of a declaration is told before the names of its members. -/
theorem Declaration.listsInOrder_keywordNames (declaration : Declaration) :
    ListsInOrder (fun way finding =>
      (way = [] ∧ declaration.name ∈ keywords ∧
        .keyword declaration.name declaration.name = finding) ∨
      ∃ position member, way = [position] ∧ declaration.members[position]? = some member ∧
        member.name ∈ keywords ∧ .keyword member.name (declaration.memberPath member) = finding)
      declaration.keywordNames := by
  have inMembers := ((ListsInOrder.of_positions declaration.members).filter fun member =>
    isKeyword member.name).map fun member =>
      Finding.keyword member.name (declaration.memberPath member)
  have own : ListsInOrder (fun way finding => way = [] ∧ declaration.name ∈ keywords ∧
      .keyword declaration.name declaration.name = finding)
      (if isKeyword declaration.name then
        [Finding.keyword declaration.name declaration.name] else []) := by
    split
    case isTrue reserved =>
      refine (ListsInOrder.single _).congr fun way finding => ?_
      rw [isKeyword, List.contains_iff_mem] at reserved
      simp [reserved, eq_comm]
    case isFalse free =>
      rw [isKeyword, List.contains_iff_mem] at free
      exact ListsInOrder.nil fun way finding => by simp [free]
  -- The empty way of the own name comes before every other way.
  refine (own.append inMembers ?_).congr fun way finding => or_congr_right ?_
  · rintro _ _ _ _ ⟨rfl, -⟩ ⟨_, ⟨⟨position, rfl, -⟩, -⟩, -⟩
    exact .nil_cons position []
  · constructor
    · rintro ⟨member, ⟨⟨position, rfl, has⟩, reserved⟩, rfl⟩
      exact ⟨position, member, rfl, has, List.contains_iff_mem.1 reserved, rfl⟩
    · rintro ⟨position, member, rfl, has, reserved, rfl⟩
      exact ⟨member, ⟨⟨position, rfl, has⟩, List.contains_iff_mem.2 reserved⟩, rfl⟩

/-- The number that the places of a check begin with. -/
def Check.number : Check → Nat
  | .references => 0
  | .declarationNames => 1
  | .memberNames => 2
  | .keywords => 3
  | .emptyVariants => 4

/-- Every check stands at its number. -/
theorem Check.getElem?_all_iff (index : Nat) (check : Check) :
    Check.all[index]? = some check ↔ index = check.number := by
  constructor
  · intro known
    match index with
    | 0 | 1 | 2 | 3 | 4 =>
        obtain rfl := Option.some.inj known
        rfl
    | index + 5 => cases known
  · rintro rfl
    cases check <;> rfl

namespace Module

variable (model : Module)

/-- The references that are not resolved are listed in the order of their places. -/
theorem listsInOrder_findings_references :
    ListsInOrder (fun way finding => model.Finds (0 :: way) finding)
      (Check.references.findings model) := by
  have each := ListsInOrder.flatMap model.declarations fun declaration _ =>
    (declaration.listsInOrder_references.filter fun entry =>
      !model.declarationNames.contains entry.1).map fun entry => Finding.unresolved entry.1 entry.2
  refine each.congr fun way finding => ?_
  constructor
  · rintro ⟨index, declaration, below, rfl, known, ⟨name, path⟩, ⟨refers, absent⟩, rfl⟩
    refine .unresolved known refers fun other member same => ?_
    simp only [Bool.not_eq_true', List.contains_eq_mem, decide_eq_false_iff_not] at absent
    obtain rfl : other.name = name := same
    exact absent (List.mem_map_of_mem member)
  · intro found
    cases found with
    | unresolved known refers undeclared =>
        refine ⟨_, _, _, rfl, known, (_, _), ⟨refers, ?_⟩, rfl⟩
        simpa [declarationNames] using undeclared

/-- So are the names that are declared again. -/
theorem listsInOrder_findings_declarationNames :
    ListsInOrder (fun way finding => model.Finds (1 :: way) finding)
      (Check.declarationNames.findings model) := by
  refine ((listsInOrder_repeated model.declarationNames).map fun entry =>
    Finding.repeatedDeclaration entry.1 entry.2).congr fun way finding => ?_
  constructor
  · rintro ⟨⟨name, count⟩, ⟨again, rfl, counted⟩, rfl⟩
    obtain rfl : count = model.declarationNames.count name := counted
    exact .repeatedDeclaration again
  · intro found
    cases found with
    | repeatedDeclaration again => exact ⟨(_, _), ⟨again, rfl, rfl⟩, rfl⟩

/-- And the members that are repeated. -/
theorem listsInOrder_findings_memberNames :
    ListsInOrder (fun way finding => model.Finds (2 :: way) finding)
      (Check.memberNames.findings model) := by
  have each := ListsInOrder.flatMap model.declarations fun declaration _ =>
    (listsInOrder_repeated declaration.partNames.2).map fun entry =>
      Finding.repeatedMember declaration.name declaration.partNames.1 entry.1 entry.2
  refine each.congr fun way finding => ?_
  constructor
  · rintro ⟨index, declaration, _, rfl, known, ⟨name, count⟩, ⟨again, rfl, counted⟩, rfl⟩
    obtain rfl : count = declaration.partNames.2.count name := counted
    exact .repeatedMember known again
  · intro found
    cases found with
    | repeatedMember known again =>
        exact ⟨_, _, _, rfl, known, (_, _), ⟨again, rfl, rfl⟩, rfl⟩

/-- And the keywords among the names. -/
theorem listsInOrder_findings_keywords :
    ListsInOrder (fun way finding => model.Finds (3 :: way) finding)
      (Check.keywords.findings model) := by
  have each := ListsInOrder.flatMap model.declarations fun declaration _ =>
    declaration.listsInOrder_keywordNames
  refine each.congr fun way finding => ?_
  constructor
  · rintro ⟨index, declaration, _, rfl, known, ⟨rfl, reserved, rfl⟩ |
      ⟨position, member, rfl, has, reserved, rfl⟩⟩
    · exact .keyword known reserved
    · exact .memberKeyword known has reserved
  · intro found
    cases found with
    | keyword known reserved => exact ⟨_, _, _, rfl, known, .inl ⟨rfl, reserved, rfl⟩⟩
    | memberKeyword known has reserved =>
        exact ⟨_, _, _, rfl, known, .inr ⟨_, _, rfl, has, reserved, rfl⟩⟩

/-- And the types without choices. -/
theorem listsInOrder_findings_emptyVariants :
    ListsInOrder (fun way finding => model.Finds (4 :: way) finding)
      (Check.emptyVariants.findings model) := by
  refine (((ListsInOrder.of_positions model.declarations).filter Declaration.isEmptyVariant).map
    fun declaration => Finding.emptyVariant declaration.name).congr fun way finding => ?_
  constructor
  · rintro ⟨declaration, ⟨⟨index, rfl, known⟩, empty⟩, rfl⟩
    exact .emptyVariant known empty
  · intro found
    cases found with
    | emptyVariant known empty => exact ⟨_, ⟨⟨_, rfl, known⟩, empty⟩, rfl⟩

/-- So the findings of every check are listed in order. -/
theorem listsInOrder_findings (check : Check) :
    ListsInOrder (fun way finding => model.Finds (check.number :: way) finding)
      (check.findings model) := by
  cases check with
  | references => exact model.listsInOrder_findings_references
  | declarationNames => exact model.listsInOrder_findings_declarationNames
  | memberNames => exact model.listsInOrder_findings_memberNames
  | keywords => exact model.listsInOrder_findings_keywords
  | emptyVariants => exact model.listsInOrder_findings_emptyVariants

/-- The checks find what there is to find, in its order. -/
theorem listsInOrder_allFindings :
    ListsInOrder model.Finds (Check.all.flatMap (Check.findings model)) := by
  have each := ListsInOrder.flatMap Check.all fun check _ =>
    model.listsInOrder_findings check
  refine each.congr fun place finding => ?_
  constructor
  · rintro ⟨index, check, way, rfl, known, found⟩
    obtain rfl := (Check.getElem?_all_iff index check).1 known
    exact found
  · intro found
    have numbered (check : Check) (way : List Nat) (begins : place = check.number :: way) :
        StandsIn Check.all (fun check way finding => model.Finds (check.number :: way) finding)
          place finding :=
      ⟨_, check, way, begins, (Check.getElem?_all_iff _ check).2 rfl, by simpa [begins] using found⟩
    cases found with
    | unresolved _ _ _ => exact numbered .references _ rfl
    | repeatedDeclaration _ => exact numbered .declarationNames _ rfl
    | repeatedMember _ _ => exact numbered .memberNames _ rfl
    | keyword _ _ | memberKeyword _ _ _ => exact numbered .keywords _ rfl
    | emptyVariant _ _ => exact numbered .emptyVariants _ rfl

/-- And so are those of all checks, one check after the other. -/
theorem listsInOrder_issues_validate : ListsInOrder model.HasIssue model.validate.issues :=
  (model.listsInOrder_allFindings.map Finding.issue).congr fun _ _ =>
    exists_congr fun finding => and_congr_right fun _ =>
      ⟨fun same => ⟨same, same ▸ finding.label_issue⟩, And.left⟩

/-- Every nominal reference names exactly one declaration. -/
def ResolvesUniquely (model : Module) : Prop :=
  ∀ declaration ∈ model.declarations, ∀ way name path, declaration.RefersAt way name path →
    ∃! index : Nat, model.declarationNames[index]? = some name

/-- A module is consistent when its references are resolved and its names are distinct. -/
theorem isConsistent_iff_resolvesUniquely :
    model.IsConsistent ↔ model.ResolvesUniquely ∧ model.declarationNames.Nodup ∧
      ∀ declaration ∈ model.declarations, declaration.partNames.2.Nodup := by
  constructor
  · rintro ⟨resolved, distinctNames, distinctParts⟩
    refine ⟨fun declaration member way name path refers => ?_, distinctNames, distinctParts⟩
    have declared := resolved declaration member (name, path)
      ((declaration.listsInOrder_references.mem_iff _).2 ⟨way, refers⟩)
    obtain ⟨index, known⟩ := List.mem_iff_getElem?.1 declared
    refine ⟨index, known, fun other knownToo => ?_⟩
    have inside := (List.getElem?_eq_some_iff.1 knownToo).1
    exact (List.getElem?_inj inside distinctNames).1 (knownToo.trans known.symm)
  · rintro ⟨resolves, distinctNames, distinctParts⟩
    refine ⟨fun declaration member reference inside => ?_, distinctNames, distinctParts⟩
    obtain ⟨way, refers⟩ := (declaration.listsInOrder_references.mem_iff reference).1 inside
    obtain ⟨index, known, -⟩ := resolves declaration member way _ _ refers
    exact List.mem_of_getElem? known

/-- Whether there is an issue of a severity. -/
def HasIssueOf (model : Module) (severity : Severity) : Prop :=
  ∃ place issue, model.HasIssue place issue ∧ issue.severity = severity

/-- Some issue has a severity exactly when some place does. -/
theorem filter_issues_validate_ne_nil_iff (severity : Severity) :
    (model.validate.issues.filter fun issue => issue.severity == severity) ≠ [] ↔
      model.HasIssueOf severity := by
  rw [Ne, List.filter_eq_nil_iff]
  simp only [model.listsInOrder_issues_validate.mem_iff, HasIssueOf, beq_iff_eq]
  grind

/-- A module is refused for an error, or under strictness for a warning. -/
theorem isAccepted_validate_eq_false_iff (strict : Bool) :
    model.validate.isAccepted strict = false ↔
      model.HasIssueOf .error ∨ strict = true ∧ model.HasIssueOf .warning := by
  rw [← filter_issues_validate_ne_nil_iff, ← filter_issues_validate_ne_nil_iff,
    Report.isAccepted, Report.isValid, Report.errors, Report.warnings]
  grind

/-- A report holds one issue for each unresolved reference, repeated name, keyword and empty
declaration there is, in order. Without an error among them all names are clear, and the module is
refused for an error, or for a warning where warnings count. -/
theorem validate_exact (strict : Bool) :
    (∀ issues, ListsInOrder model.HasIssue issues ↔ issues = model.validate.issues) ∧
    (model.validate.isValid = true ↔
      model.ResolvesUniquely ∧ model.declarationNames.Nodup ∧
        ∀ declaration ∈ model.declarations, declaration.partNames.2.Nodup) ∧
    (∀ report, model.validateStrictly strict = .error report ↔ report = model.validate ∧
      (model.HasIssueOf .error ∨ strict = true ∧ model.HasIssueOf .warning)) ∧
    ∀ report, model.validateStrictly strict = .ok report ↔ report = model.validate ∧
      ¬ (model.HasIssueOf .error ∨ strict = true ∧ model.HasIssueOf .warning) := by
  have listed := model.listsInOrder_issues_validate
  refine ⟨fun issues => ⟨fun listedToo => listedToo.unique listed, fun same => same ▸ listed⟩,
    ?_, fun report => ?_, fun report => ?_⟩
  · rw [Report.isValid, List.isEmpty_iff, errors_validate_eq_nil_iff,
      isConsistent_iff_resolvesUniquely]
  · rw [← isAccepted_validate_eq_false_iff, validateStrictly]
    grind
  · rw [← isAccepted_validate_eq_false_iff, validateStrictly]
    grind

end Module

end RosettaDaml
