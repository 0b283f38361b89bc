/-
This file shows that the order of declarations only decides the order of what is written.
-/

import RosettaDaml.Proofs.Conversion.Outcome
import RosettaDaml.Proofs.Conversion.Unseen

namespace RosettaDaml

def ConversionFailure.kind : ConversionFailure → FailureKind
  | .cyclic _ => .cyclic
  | .inconsistent _ => .inconsistent
  | .rendering failure => failure.kind

/-! Modules with the same declarations in two orders. -/

namespace Module

variable {model other : Module}

/-- The order of declarations does not decide whether a module is consistent. -/
theorem isConsistent_of_perm (reordered : other.declarations.Perm model.declarations)
    (consistent : model.IsConsistent) : other.IsConsistent := by
  have names : other.declarationNames.Perm model.declarationNames := reordered.map _
  refine ⟨fun declaration member reference inside => ?_, names.nodup_iff.2 consistent.distinctNames,
    fun declaration member => ?_⟩
  · exact names.mem_iff.2
      (consistent.resolved declaration (reordered.mem_iff.1 member) reference inside)
  · exact consistent.distinctParts declaration (reordered.mem_iff.1 member)

/-- Nor whether it is quiet. -/
theorem isQuiet_of_perm (reordered : other.declarations.Perm model.declarations)
    (quiet : model.IsQuiet) : other.IsQuiet :=
  ⟨fun declaration member => quiet.names declaration (reordered.mem_iff.1 member),
    fun declaration member => quiet.memberNames declaration (reordered.mem_iff.1 member),
    fun declaration member => quiet.inhabited declaration (reordered.mem_iff.1 member)⟩

/-- The checks do not look at the order of declarations. -/
theorem isAccepted_validate_of_perm (reordered : other.declarations.Perm model.declarations)
    {strict : Bool} (accepted : model.validate.isAccepted strict = true) :
    other.validate.isAccepted strict = true := by
  rw [isAccepted_validate_iff] at accepted ⊢
  exact ⟨isConsistent_of_perm reordered accepted.1,
    fun isStrict => isQuiet_of_perm reordered (accepted.2 isStrict)⟩

end Module

namespace Schema

/-- No two classes and no two enums share a name. -/
structure HasDistinctNames (schema : Schema) : Prop where
  classes : (schema.classes.map ClassDecl.name).Nodup
  enums : (schema.enums.map EnumDecl.name).Nodup

/-- A conversion gives a text of a header, the imports and one block for each class and each enum,
in the order of the schema. -/
def WritesBlocks (schema : Schema) (config : Config) (name : String) (blockOf : Decl → Lines) :
    Prop :=
  ∃ comment, (Daml.headComment config (some moduleComment)).result = .ok comment ∧
    (schema.convert config name).result =
      .ok (Daml.linesText (joinBlocks ((comment ++ Daml.header name) ::
        Daml.importBlocks config.moduleImports ++
          (schema.decls.filter Decl.isInterpreted).map blockOf)))

section Reordered

variable {schema other : Schema} (distinct : schema.HasDistinctNames)
  (reordered : other.decls.Perm schema.decls)

include distinct

/-- Where names are distinct, no declaration takes the place of another one. -/
theorem kept_eq_filter : Decl.kept schema.decls = schema.decls.filter Decl.isInterpreted := by
  refine Decl.kept_eq_filter ?_
  have classes := List.pairwise_filterMap.1 (List.pairwise_map.1 distinct.classes)
  have enums := List.pairwise_filterMap.1 (List.pairwise_map.1 distinct.enums)
  refine (classes.and enums).imp fun {earlier later} differ => ?_
  obtain ⟨classesDiffer, enumsDiffer⟩ := differ
  rw [← Bool.not_eq_true]
  intro supersedes
  cases earlier with
  | classDecl earlier =>
      obtain ⟨decl, picked, same⟩ := (Decl.picksKind_class?.supersedes_iff rfl later).1 supersedes
      exact classesDiffer earlier rfl decl picked same.symm
  | enumDecl earlier =>
      obtain ⟨decl, picked, same⟩ := (Decl.picksKind_enum?.supersedes_iff rfl later).1 supersedes
      exact enumsDiffer earlier rfl decl picked same.symm
  | otherDecl _ => cases later <;> simp [Decl.supersedes] at supersedes

include reordered

/-- Names that are distinct stay so in another order. -/
theorem hasDistinctNames_of_perm : other.HasDistinctNames :=
  ⟨((reordered.filterMap _).map _).nodup_iff.2 distinct.classes,
    ((reordered.filterMap _).map _).nodup_iff.2 distinct.enums⟩

/-- A schema in another order is the same as far as it is interpreted. -/
theorem relates_of_perm : UnseenChange.keep.Relates schema other :=
  ⟨corresponds_of_perm distinct.classes (reordered.filterMap _),
    corresponds_of_perm distinct.enums (reordered.filterMap _)⟩

/-- So it has a cycle exactly when the schema has one. -/
theorem acyclic_iff_of_perm : other.Acyclic ↔ schema.Acyclic :=
  (relates_of_perm distinct reordered).acyclic_iff

/-- Each class and each enum has the same declaration in both orders. -/
theorem declarationOf?_eq_of_perm (acyclic : schema.Acyclic) (decl : Decl) :
    (Index.ofSchema other).declarationOf? decl = (Index.ofSchema schema).declarationOf? decl := by
  have same := (relates_of_perm distinct reordered).declarationOf?_onDecl acyclic decl
  rwa [UnseenChange.onDecl_keep] at same

/-- Its module has the same declarations in another order. -/
theorem perm_declarations (acyclic : schema.Acyclic) (config : Config) (name : String) :
    (other.moduleOf config name).declarations.Perm (schema.moduleOf config name).declarations := by
  have distinctToo := hasDistinctNames_of_perm distinct reordered
  rw [moduleOf, moduleOf, moduleWith, moduleWith, kept_eq_filter distinct,
    kept_eq_filter distinctToo, funext (declarationOf?_eq_of_perm distinct reordered acyclic)]
  exact (reordered.filter _).filterMap _

/-- What is held against it is held against the schema. -/
theorem rejected_of_perm (acyclic : schema.Acyclic) {strict : Bool}
    (rejected : other.Rejected strict) : schema.Rejected strict := by
  have acyclicToo := (acyclic_iff_of_perm distinct reordered).2 acyclic
  have declarations := perm_declarations distinct reordered acyclic .standard ""
  by_contra accepted
  rw [← schema.isAccepted_validate_moduleOf_iff acyclic .standard ""] at accepted
  have acceptedToo := Module.isAccepted_validate_of_perm declarations accepted
  rw [other.isAccepted_validate_moduleOf_iff acyclicToo .standard ""] at acceptedToo
  exact acceptedToo rejected

/-- An empty enum is empty in every order. -/
theorem hasEmptyEnum_of_perm (acyclic : schema.Acyclic) (empty : other.HasEmptyEnum) :
    schema.HasEmptyEnum := by
  have acyclicToo := (acyclic_iff_of_perm distinct reordered).2 acyclic
  have declarations := perm_declarations distinct reordered acyclic .standard ""
  rw [hasEmptyEnum_iff acyclicToo .standard ""] at empty
  rw [hasEmptyEnum_iff acyclic .standard ""]
  obtain ⟨declaration, member, isEmpty⟩ := empty
  exact ⟨declaration, declarations.mem_iff.1 member, isEmpty⟩

end Reordered

/-- The lines that a class or an enum has in the text; there are none when it cannot be written. -/
def blockOf (schema : Schema) (config : Config) (decl : Decl) : Lines :=
  (((Index.ofSchema schema).declarationOf? decl).bind fun declaration =>
    (Daml.declaration config declaration).result.toOption).getD []

/-- A declaration that is emitted has its own block. -/
theorem exists_declaration_blockOf {schema : Schema} (acyclic : schema.Acyclic) {config : Config}
    (room : config.HasRoom) (allowed : ¬ (config.emptyVariant = .error ∧ schema.HasEmptyEnum))
    {decl : Decl} (kept : decl ∈ Decl.kept schema.decls) (interpreted : decl.isInterpreted = true) :
    ∃ declaration, (Index.ofSchema schema).declarationOf? decl = some declaration ∧
      schema.Declares decl declaration ∧
        (Daml.declaration config declaration).result = .ok (schema.blockOf config decl) := by
  obtain ⟨declaration, given, declares⟩ := declarationOf?_ofSchema acyclic interpreted
  have member : declaration ∈ (schema.moduleOf config "").declarations :=
    List.mem_filterMap.2 ⟨decl, kept, given⟩
  have choice : config.emptyVariant = .placeholder ∨ declaration.isEmptyVariant = false := by
    cases policy : config.emptyVariant with
    | placeholder => exact .inl rfl
    | error =>
        refine .inr (Bool.eq_false_iff.2 fun empty => allowed ⟨policy, ?_⟩)
        exact (hasEmptyEnum_iff acyclic config "").2 ⟨declaration, member, empty⟩
  obtain ⟨lines, written⟩ := Daml.exists_declaration room declares.isPlain choice
  refine ⟨declaration, given, declares, ?_⟩
  rw [blockOf, given, Option.bind_some, written]
  rfl

/-- Items that are all picked are related one by one. -/
theorem forall₂_filterMap_map {Source Item Result : Type} {relation : Item → Result → Prop}
    {pick : Source → Option Item} {give : Source → Result} {sources : List Source}
    (each : ∀ source ∈ sources, ∃ item, pick source = some item ∧ relation item (give source)) :
    List.Forall₂ relation (sources.filterMap pick) (sources.map give) := by
  induction sources with
  | nil => exact .nil
  | cons source rest inductionHypothesis =>
      obtain ⟨⟨item, picked, related⟩, others⟩ := List.forall_mem_cons.1 each
      rw [List.filterMap_cons_some picked]
      exact .cons related (inductionHypothesis others)

/-- An accepted schema of distinct names is written block by block. -/
theorem writesBlocks_blockOf {schema : Schema} (distinct : schema.HasDistinctNames)
    (acyclic : schema.Acyclic) {config : Config} (room : config.HasRoom)
    (accepted : ¬ schema.Rejected config.strict)
    (allowed : ¬ (config.emptyVariant = .error ∧ schema.HasEmptyEnum)) (name : String) :
    schema.WritesBlocks config name (schema.blockOf config) := by
  obtain ⟨comment, given⟩ := Daml.exists_headComment room (some moduleComment)
  have kept := kept_eq_filter distinct
  have written : (Traced.forEach (Daml.declaration config)
      (schema.moduleOf config name).declarations).result =
        .ok ((schema.decls.filter Decl.isInterpreted).map (schema.blockOf config)) := by
    rw [moduleOf, moduleWith, kept, Traced.result_forEach_eq_ok_iff]
    refine forall₂_filterMap_map fun decl member => ?_
    obtain ⟨declaration, declared, -, lines⟩ := exists_declaration_blockOf acyclic room allowed
      (kept ▸ member) (List.of_mem_filter member)
    exact ⟨declaration, declared, lines⟩
  refine ⟨comment, given, ?_⟩
  rw [result_convert_of_not_rejected acyclic accepted, Daml.result_render given, written]
  rfl

/-- Where no two classes and no two enums share a name, the order of the declarations decides
nothing but the order of their blocks: in any other order a conversion fails in the same kind of
way, or has the same header and imports and for each class and each enum the same lines. -/
theorem convert_of_perm {schema other : Schema} (distinct : schema.HasDistinctNames)
    (reordered : other.decls.Perm schema.decls) {config : Config} (room : config.HasRoom)
    (name : String) :
    (∃ failure failureToo, (schema.convert config name).result = .error failure ∧
      (other.convert config name).result = .error failureToo ∧ failure.kind = failureToo.kind) ∨
    ∃ blockOf : Decl → Lines, schema.WritesBlocks config name blockOf ∧
      other.WritesBlocks config name blockOf ∧
      ∀ decl ∈ schema.decls, decl.isInterpreted = true → ∃ declaration,
        schema.Declares decl declaration ∧
          (Daml.declaration config declaration).result = .ok (blockOf decl) := by
  have distinctToo := hasDistinctNames_of_perm distinct reordered
  have cyclicToo := acyclic_iff_of_perm distinct reordered
  -- The four ends of a conversion are told apart by facts that do not depend on the order.
  rcases convert_cases room schema name with ⟨cyclic, _, fails⟩ | ⟨acyclic, rejected, _, fails⟩ |
    ⟨acyclic, accepted, refused, enum, _, fails⟩ | ⟨acyclic, accepted, allowed, -⟩
  · obtain ⟨_, failsToo⟩ := exists_convert_cyclic (mt cyclicToo.1 cyclic) config name
    exact .inl ⟨_, _, fails, failsToo, rfl⟩
  · have rejectedToo := rejected_of_perm distinctToo reordered.symm (cyclicToo.2 acyclic) rejected
    have failsToo := result_convert_of_rejected (cyclicToo.2 acyclic) rejectedToo name
    exact .inl ⟨_, _, fails, failsToo, rfl⟩
  · have acceptedToo := mt (rejected_of_perm distinct reordered acyclic) accepted
    have emptyToo := hasEmptyEnum_of_perm distinctToo reordered.symm (cyclicToo.2 acyclic) refused.2
    obtain ⟨_, _, failsToo⟩ := exists_convert_emptyVariant (cyclicToo.2 acyclic) room acceptedToo
      refused.1 emptyToo name
    exact .inl ⟨_, _, fails, failsToo, rfl⟩
  · have acceptedToo := mt (rejected_of_perm distinct reordered acyclic) accepted
    have allowedToo : ¬ (config.emptyVariant = .error ∧ other.HasEmptyEnum) := fun refused =>
      allowed ⟨refused.1, hasEmptyEnum_of_perm distinct reordered acyclic refused.2⟩
    have sameBlocks : other.blockOf config = schema.blockOf config := by
      funext decl
      rw [blockOf, blockOf, declarationOf?_eq_of_perm distinct reordered acyclic]
    refine .inr ⟨schema.blockOf config, writesBlocks_blockOf distinct acyclic room accepted allowed
      name, ?_, fun decl member interpreted => ?_⟩
    · rw [← sameBlocks]
      exact writesBlocks_blockOf distinctToo (cyclicToo.2 acyclic) room acceptedToo allowedToo name
    · have kept : decl ∈ Decl.kept schema.decls := by
        rw [kept_eq_filter distinct]
        exact List.mem_filter.2 ⟨member, interpreted⟩
      obtain ⟨declaration, -, declares, lines⟩ :=
        exists_declaration_blockOf acyclic room allowed kept interpreted
      exact ⟨declaration, declares, lines⟩

/-- A class before its base and before the enum it refers to, and an enum before its base. -/
def mixed : Schema where
  namespaceName := none
  decls := [
    .classDecl ⟨"Payment", some "Transfer",
      [⟨"status", some "Status", .one, .empty, none, by decide⟩],
      .ofList [keyTag], none, by decide⟩,
    .otherDecl ⟨"func", some "Settle", .empty⟩,
    .enumDecl ⟨"Status", some "Stage", [⟨"paid", none, none, by decide⟩], none, by decide⟩,
    .classDecl ⟨"Transfer", none, [⟨"day", some "date", .one, .empty, none, by decide⟩],
      .empty, none, by decide⟩,
    .enumDecl ⟨"Stage", none, [⟨"due", none, none, by decide⟩], none, by decide⟩]

/-- Read backwards, `mixed` is written with the same blocks in reverse. -/
theorem convert_of_perm_mixed :
    mixed.HasDistinctNames ∧ Config.standard.HasRoom ∧ ∃ blockOf : Decl → Lines,
      mixed.WritesBlocks .standard "Model" blockOf ∧
      Schema.WritesBlocks ⟨none, mixed.decls.reverse⟩ .standard "Model" blockOf ∧
      ∀ decl ∈ mixed.decls, decl.isInterpreted = true → ∃ declaration,
        mixed.Declares decl declaration ∧
          (Daml.declaration .standard declaration).result = .ok (blockOf decl) := by
  have distinct : mixed.HasDistinctNames := ⟨by decide, by decide⟩
  have acyclic : mixed.Acyclic := (Index.result_build_eq_ok_iff.1 rfl).1
  have accepted : ¬ mixed.Rejected false :=
    (isAccepted_validate_moduleOf_iff acyclic .standard "Model" false).1 rfl
  obtain ⟨text, converted⟩ := exists_convert_standard acyclic accepted "Model"
  have reordered : (⟨none, mixed.decls.reverse⟩ : Schema).decls.Perm mixed.decls :=
    List.reverse_perm mixed.decls
  refine ⟨distinct, Config.hasRoom_standard, ?_⟩
  rcases convert_of_perm distinct reordered Config.hasRoom_standard "Model" with
    ⟨_, _, fails, -, -⟩ | written
  · exact nomatch converted.symm.trans fails
  · exact written

end Schema

end RosettaDaml
