/-
This file says for which settings conversions end with failures that are not documented.
-/

import RosettaDaml.Proofs.Conversion.Outcome
import RosettaDaml.Proofs.TextWidth

namespace RosettaDaml

/-- Comments have room exactly when the line is neither too long for a number nor crowded. -/
theorem Config.hasRoom_iff (config : Config) :
    config.HasRoom ↔ ¬ config.IsOverlong ∧ ¬ config.IsCrowded := by
  rcases config.textWidth?_spec with ⟨overlong, none⟩ | ⟨notOverlong, width, fits, least, -, zero⟩
  · simp [HasRoom, none, overlong]
  · simp only [HasRoom, fits, Option.some.injEq, exists_eq_left', ← zero, notOverlong,
      not_false_eq_true, true_and]
    omega

/-- The failures that a conversion is documented to end with. -/
def ConversionFailure.IsDocumented : ConversionFailure → Prop
  | .rendering (.invalidWidth _) => False
  | .rendering .widthOverflow => False
  | _ => True

namespace Schema

variable {schema : Schema}

/-- Without room for comments, the comment at the head of the module fails. -/
theorem exists_convert_undocumented (acyclic : schema.Acyclic) {config : Config}
    (accepted : ¬ schema.Rejected config.strict) (noRoom : ¬ config.HasRoom) (name : String) :
    ∃ failure, (schema.convert config name).result = .error failure ∧ ¬ failure.IsDocumented := by
  have head : Text.nonEmpty? (schema.moduleOf config name).comment = some moduleComment := rfl
  rw [result_convert_of_not_rejected acyclic accepted]
  cases fits : config.textWidth? with
  | none =>
      rw [Daml.result_render_of_error (Daml.result_headComment_of_none fits head)]
      exact ⟨_, rfl, id⟩
  | some width =>
      have narrow : ¬ 0 < width := fun positive => noRoom ⟨width, fits, positive⟩
      rw [Daml.result_render_of_error (Daml.result_headComment_of_not_pos fits narrow head)]
      exact ⟨_, rfl, id⟩

/-- With room for comments, a conversion only fails as documented. -/
theorem isDocumented_of_hasRoom {config : Config} (room : config.HasRoom) {name : String}
    {failure : ConversionFailure} (fails : (schema.convert config name).result = .error failure) :
    failure.IsDocumented := by
  rcases convert_cases room schema name with ⟨_, _, result⟩ | ⟨_, _, _, result⟩ |
    ⟨_, _, _, _, _, result⟩ | ⟨_, _, _, _, result⟩
  · obtain rfl := Except.error.inj (result.symm.trans fails)
    trivial
  · obtain rfl := Except.error.inj (result.symm.trans fails)
    trivial
  · obtain rfl := Except.error.inj (result.symm.trans fails)
    trivial
  · simp [result] at fails

/-- An undocumented failure of an accepted schema is due to the settings alone. -/
theorem exists_undocumented_iff (schema : Schema) (config : Config) (name : String) :
    ((∃ failure, (schema.convert config name).result = .error failure ∧
        ¬ failure.IsDocumented) ↔
      schema.Acyclic ∧ ¬ schema.Rejected config.strict ∧
        (config.IsOverlong ∨ config.IsCrowded)) ∧
    ((∃ width, config.textWidth? = some width ∧ 1 ≤ width ∧ width ≤ config.lineLength) ↔
      ¬ config.IsOverlong ∧ ¬ config.IsCrowded) := by
  have noRoom : config.IsOverlong ∨ config.IsCrowded ↔ ¬ config.HasRoom := by
    rw [config.hasRoom_iff, not_and_or, not_not, not_not]
  rw [noRoom, ← config.hasRoom_iff]
  constructor
  · constructor
    · rintro ⟨failure, fails, undocumented⟩
      -- Cycles and rejections are documented, and they come before any width is looked at.
      have acyclic : schema.Acyclic := by
        by_contra cyclic
        obtain ⟨_, result⟩ := exists_convert_cyclic cyclic config name
        obtain rfl := Except.error.inj (result.symm.trans fails)
        exact undocumented trivial
      refine ⟨acyclic, fun rejected => ?_,
        fun room => undocumented (isDocumented_of_hasRoom room fails)⟩
      have result := result_convert_of_rejected acyclic rejected name
      obtain rfl := Except.error.inj (result.symm.trans fails)
      exact undocumented trivial
    · rintro ⟨acyclic, accepted, narrow⟩
      exact exists_convert_undocumented acyclic accepted narrow name
  · constructor
    · rintro ⟨width, fits, positive, -⟩
      exact ⟨width, fits, positive⟩
    · rintro ⟨width, fits, positive⟩
      exact ⟨width, fits, positive, config.textWidth?_le fits⟩

/-- A line of twenty characters with a hundred ribbons. -/
def crowded : Config where
  lineLength := 20
  ribbonsPerLine := .finite false 7036874417766400 (-46)
  emptyVariant := .placeholder
  strict := false
  imports := []
  lineLength_ge := by decide
  ribbonsPerLine_ge := by decide

/-- Not every failure is documented: on a crowded line even a schema without declarations fails for
want of width. -/
theorem not_forall_isDocumented :
    ¬ ∀ (schema : Schema) (config : Config) (name : String) (failure : ConversionFailure),
      (schema.convert config name).result = .error failure → failure.IsDocumented := by
  intro always
  have acyclic : Acyclic ⟨none, []⟩ := (Index.result_build_eq_ok_iff.1 rfl).1
  have accepted : ¬ Rejected ⟨none, []⟩ crowded.strict :=
    (isAccepted_validate_moduleOf_iff acyclic crowded "Model" false).1 rfl
  have noRoom : ¬ crowded.HasRoom := by
    rintro ⟨width, fits, positive⟩
    obtain rfl : width = 0 := Option.some.inj (fits.symm.trans (by decide))
    omega
  obtain ⟨failure, fails, undocumented⟩ :=
    exists_convert_undocumented acyclic accepted noRoom "Model"
  exact undocumented (always _ _ _ _ fails)

end Schema

end RosettaDaml
