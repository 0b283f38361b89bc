/-
This file shows that stricter settings reject more schemas and change nothing else.
-/

import RosettaDaml.Proofs.Conversion.Outcome

namespace RosettaDaml

/-- The same settings with a choice of strictness and of what becomes of empty declarations. -/
def Config.treating (config : Config) (strict : Bool) (policy : EmptyVariantPolicy) : Config :=
  { config with strict, emptyVariant := policy }

/-- Both settings agree but for strictness and empty declarations, and in these the first ones
forbid nothing that the second ones allow. -/
structure Config.IsNoStricterThan (lenient severe : Config) : Prop where
  alike : lenient = severe.treating lenient.strict lenient.emptyVariant
  strict : lenient.strict = true → severe.strict = true
  emptyVariant : lenient.emptyVariant = .error → severe.emptyVariant = .error

namespace Traced

variable {Failure Content Result : Type}

/-- Steps that are the same for each item are the same together. -/
theorem forEach_congr {act other : Content → Traced Failure Result} {items : List Content}
    (same : ∀ item ∈ items, act item = other item) : forEach act items = forEach other items := by
  induction items with
  | nil => rfl
  | cons item rest inductionHypothesis =>
      obtain ⟨here, behind⟩ := List.forall_mem_cons.1 same
      rw [forEach, forEach, here, inductionHypothesis behind]

/-- What comes behind a step matters for the content of that step only. -/
theorem bind_congr {first : Traced Failure Content} {content : Content}
    (given : first.result = .ok content) {next other : Content → Traced Failure Result}
    (same : next content = other content) : first >>= next = first >>= other := by
  obtain ⟨log, result⟩ := first
  obtain rfl : result = .ok content := given
  change Traced.mk (log ++ (next content).log) _ = Traced.mk (log ++ (other content).log) _
  rw [same]

end Traced

/-- What is accepted strictly is accepted. -/
theorem Report.isAccepted_of_implies {report : Report} {lenient severe : Bool}
    (implies : lenient = true → severe = true) (accepted : report.isAccepted severe = true) :
    report.isAccepted lenient = true := by
  rw [isAccepted, Bool.and_eq_true] at accepted ⊢
  obtain ⟨valid, quiet⟩ := accepted
  refine ⟨valid, ?_⟩
  cases lenient with
  | false => rfl
  | true => rwa [implies rfl] at quiet

namespace Module

variable {model : Module} {report : Report} {lenient severe : Bool}

/-- What passes the checks where they are severe also passes them where they are lenient. -/
theorem validateStrictly_of_implies (implies : lenient = true → severe = true)
    (passes : model.validateStrictly severe = .ok report) :
    model.validateStrictly lenient = .ok report := by
  unfold validateStrictly at passes ⊢
  split at passes
  case isTrue accepted => rwa [if_pos (Report.isAccepted_of_implies implies accepted)]
  case isFalse => exact nomatch passes

/-- What is refused is refused strictly, with the same report. -/
theorem validateStrictly_error_of_implies (implies : lenient = true → severe = true)
    (fails : model.validateStrictly lenient = .error report) :
    model.validateStrictly severe = .error report := by
  unfold validateStrictly at fails ⊢
  split at fails
  case isTrue => exact nomatch fails
  case isFalse refused => rwa [if_neg (mt (Report.isAccepted_of_implies implies) refused)]

end Module

namespace Daml

variable {config : Config} (strict : Bool) (policy : EmptyVariantPolicy)

/-- Where there is something to choose from, neither setting matters. -/
theorem declaration_treating_of_not_isEmptyVariant {given : Declaration}
    (inhabited : given.isEmptyVariant = false) :
    declaration (config.treating strict policy) given = declaration config given := by
  obtain ⟨name, note, body⟩ := given
  cases body with
  | enumeration constructors =>
      cases constructors with
      | nil => exact nomatch inhabited
      | cons first rest => rfl
  | variant alternatives =>
      cases alternatives with
      | nil => exact nomatch inhabited
      | cons first rest => rfl
  | record _ | synonym _ | template _ _ => rfl

/-- Strictness does not change what is rendered. -/
theorem declaration_treating_emptyVariant (given : Declaration) :
    declaration (config.treating strict config.emptyVariant) given = declaration config given := by
  obtain ⟨name, note, body⟩ := given
  cases body with
  | enumeration constructors => cases constructors <;> rfl
  | variant alternatives => cases alternatives <;> rfl
  | record _ | synonym _ | template _ _ => rfl

variable {policy}

/-- A declaration that is written under some settings is written the same under more lenient ones:
it has something to choose from, or empty ones are allowed by both. -/
theorem declaration_treating (forbids : policy = .error → config.emptyVariant = .error)
    {given : Declaration} {lines : Lines} (written : (declaration config given).result = .ok lines) :
    declaration (config.treating strict policy) given = declaration config given := by
  by_cases empty : given.isEmptyVariant = true
  · have allowed : config.emptyVariant = .placeholder := by
      cases settings : config.emptyVariant with
      | placeholder => rfl
      | error =>
          have refused := result_declaration_of_isEmptyVariant empty settings
          exact nomatch refused.symm.trans written
    have allowedToo : policy = config.emptyVariant := by
      cases policy with
      | placeholder => exact allowed.symm
      | error => exact (forbids rfl).symm
    rw [allowedToo, declaration_treating_emptyVariant]
  · exact declaration_treating_of_not_isEmptyVariant strict policy (Bool.eq_false_of_not_eq_true empty)

/-- Nor does a more permissive treatment of empty types change what could be rendered. -/
theorem render_treating (forbids : policy = .error → config.emptyVariant = .error) {model : Module}
    {text : String} (written : (render config model).result = .ok text) :
    render (config.treating strict policy) model = render config model := by
  obtain ⟨_, blocks, -, each⟩ := exists_blocks_of_render written
  have declarations : Traced.forEach (declaration (config.treating strict policy))
      model.declarations = Traced.forEach (declaration config) model.declarations := by
    apply Traced.forEach_congr
    intro given member
    obtain ⟨lines, here⟩ :=
      Traced.exists_of_mem_forEach ((Traced.result_forEach_eq_ok_iff _ _ _).2 each) member
    exact declaration_treating strict forbids here
  unfold render moduleLines
  rw [declarations]
  rfl

end Daml

namespace Schema

variable {schema : Schema} {config : Config} {name : String}

/-- A conversion goes on from the module. -/
theorem result_convert_of_transform {model : Module}
    (transformed : (schema.transform config.moduleImports name).result = .ok model) :
    (schema.convert config name).result =
      ((model.validateStrictly config.strict).mapError .inconsistent).bind fun _ =>
        (Daml.render config model).result.mapError .rendering := by
  rw [result_convert, result_build, transformed]
  change (((model.validateStrictly config.strict).mapError _).map fun _ => model).bind _ = _
  cases model.validateStrictly config.strict <;> rfl

/-- Or it ends with the cycle. -/
theorem result_convert_of_cyclic {failure : CyclicInheritance}
    (cyclic : (schema.transform config.moduleImports name).result = .error failure) :
    (schema.convert config name).result = .error (.cyclic failure) := by
  rw [result_convert, result_build, cyclic]
  rfl

/-- A conversion ends with a cycle exactly when the schema cannot be transformed for it. -/
theorem result_convert_eq_cyclic_iff {failure : CyclicInheritance} :
    (schema.convert config name).result = .error (.cyclic failure) ↔
      (schema.transform config.moduleImports name).result = .error failure := by
  cases transformed : (schema.transform config.moduleImports name).result with
  | error other =>
      rw [result_convert_of_cyclic transformed]
      simp
  | ok model =>
      rw [result_convert_of_transform transformed]
      cases model.validateStrictly config.strict with
      | error report => simp [Except.mapError, Except.bind]
      | ok report =>
          cases (Daml.render config model).result <;> simp [Except.mapError, Except.bind]

/-- A conversion ends with a report exactly when the module does not pass the checks. -/
theorem result_convert_eq_inconsistent_iff {report : Report} :
    (schema.convert config name).result = .error (.inconsistent report) ↔
      ∃ model, (schema.transform config.moduleImports name).result = .ok model ∧
        model.validateStrictly config.strict = .error report := by
  cases transformed : (schema.transform config.moduleImports name).result with
  | error other =>
      rw [result_convert_of_cyclic transformed]
      simp
  | ok model =>
      rw [result_convert_of_transform transformed]
      simp only [Except.ok.injEq, exists_eq_left']
      cases model.validateStrictly config.strict with
      | error report => simp [Except.mapError, Except.bind]
      | ok report =>
          cases (Daml.render config model).result <;> simp [Except.mapError, Except.bind]

variable {strict : Bool} (implies : strict = true → config.strict = true)

include implies

/-- A module that is built under some settings is built the same under more lenient ones. -/
theorem build_treating (policy : EmptyVariantPolicy) {model : Module}
    (built : (schema.build config name).result = .ok model) :
    schema.build (config.treating strict policy) name = schema.build config name := by
  unfold build at built ⊢
  obtain ⟨transformed, given, checked⟩ := Traced.result_bind_eq_ok_iff.1 built
  obtain ⟨report, passes, -⟩ := Traced.result_bind_eq_ok_iff.1 checked
  apply Traced.bind_congr given
  have accepted : transformed.validateStrictly config.strict = .ok report := by
    cases checks : transformed.validateStrictly config.strict with
    | ok other =>
        rw [checks] at passes
        obtain rfl : other = report := Except.ok.inj passes
        rfl
    | error other =>
        rw [checks] at passes
        exact nomatch passes
  have acceptedToo := Module.validateStrictly_of_implies implies accepted
  change Traced.ofExcept ((transformed.validateStrictly strict).mapError _) >>= _ = _
  rw [accepted, acceptedToo]

/-- A schema that is converted under some settings is converted the same under more lenient ones. -/
theorem convert_treating {policy : EmptyVariantPolicy}
    (forbids : policy = .error → config.emptyVariant = .error) {text : String}
    (converted : (schema.convert config name).result = .ok text) :
    schema.convert (config.treating strict policy) name = schema.convert config name := by
  obtain ⟨model, built, written⟩ := result_convert_eq_ok_iff.1 converted
  unfold convert
  rw [build_treating implies policy built]
  apply Traced.bind_congr built
  rw [Daml.render_treating strict forbids written]

omit implies

/-- Stricter settings only reject. What they convert, more lenient ones convert to the same text
with the same records; cycles are found by both; and a report that more lenient settings fail with
stricter ones fail with, too. -/
theorem convert_of_isNoStricterThan {lenient severe : Config}
    (relaxed : lenient.IsNoStricterThan severe) (schema : Schema) (name : String) :
    (∀ text, (schema.convert severe name).result = .ok text →
      schema.convert lenient name = schema.convert severe name) ∧
    (∀ failure, (schema.convert lenient name).result = .error (.cyclic failure) ↔
      (schema.convert severe name).result = .error (.cyclic failure)) ∧
    ∀ report, (schema.convert lenient name).result = .error (.inconsistent report) →
      (schema.convert severe name).result = .error (.inconsistent report) := by
  obtain ⟨alike, implies, forbids⟩ := relaxed
  have sameImports : lenient.moduleImports = severe.moduleImports := by
    rw [alike]
    rfl
  refine ⟨fun text converted => ?_, fun failure => ?_, fun report fails => ?_⟩
  · rw [alike]
    exact convert_treating implies forbids converted
  · rw [result_convert_eq_cyclic_iff, result_convert_eq_cyclic_iff, sameImports]
  · rw [result_convert_eq_inconsistent_iff, sameImports] at fails
    obtain ⟨model, transformed, refused⟩ := fails
    exact result_convert_eq_inconsistent_iff.2
      ⟨model, transformed, Module.validateStrictly_error_of_implies implies refused⟩

/-- The standard settings, but with warnings refused and empty declarations forbidden. -/
def exacting : Config := Config.standard.treating true .error

theorem convert_of_isNoStricterThan_layered :
    Config.standard.IsNoStricterThan exacting ∧
      ∃ text, (layered.convert exacting "Model").result = .ok text ∧
        layered.convert .standard "Model" = layered.convert exacting "Model" := by
  have relaxed : Config.standard.IsNoStricterThan exacting :=
    ⟨rfl, fun _ => rfl, fun _ => rfl⟩
  have acyclic : layered.Acyclic := (Index.result_build_eq_ok_iff.1 rfl).1
  have accepted : ¬ layered.Rejected exacting.strict :=
    (isAccepted_validate_moduleOf_iff acyclic exacting "Model" true).1 rfl
  have inhabited : ¬ (exacting.emptyVariant = .error ∧ layered.HasEmptyEnum) := by
    rintro ⟨-, empty⟩
    have full : ∀ declaration ∈ (layered.moduleOf exacting "Model").declarations,
        declaration.isEmptyVariant = false := by decide
    obtain ⟨declaration, member, isEmpty⟩ := (hasEmptyEnum_iff acyclic exacting "Model").1 empty
    exact Bool.false_ne_true ((full declaration member).symm.trans isEmpty)
  have room : exacting.HasRoom := ⟨53, by decide, by decide⟩
  obtain ⟨text, converted⟩ := exists_convert_of_room acyclic room accepted inhabited "Model"
  have same := (convert_of_isNoStricterThan relaxed layered "Model").1 text converted
  exact ⟨relaxed, text, converted, same⟩

end Schema

end RosettaDaml
