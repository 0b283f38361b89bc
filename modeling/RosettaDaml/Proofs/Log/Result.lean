/-
This file says what a traced computation gives when its records are left out.
-/

import Mathlib.Data.List.Forall2
import RosettaDaml.Log.Trace

namespace RosettaDaml.Traced

variable {Failure Other Content Result : Type}

/-- A result is what it is. -/
@[simp] theorem result_ok (content : Content) :
    (ok content : Traced Failure Content).result = .ok content := rfl

/-- So is a failure. -/
@[simp] theorem result_fail (failure : Failure) :
    (fail failure : Traced Failure Content).result = .error failure := rfl

/-- So is a content. -/
@[simp] theorem result_pure (content : Content) :
    (pure content : Traced Failure Content).result = .ok content := rfl

/-- A record that is left is no result. -/
@[simp] theorem result_leave (records : List LogRecord) :
    (leave records : Traced Failure Unit).result = .ok () := rfl

/-- A result without records is itself. -/
@[simp] theorem result_ofExcept (result : Except Failure Content) :
    (ofExcept result).result = result := rfl

/-- A failure may be changed. -/
@[simp] theorem result_mapFailure (change : Failure → Other) (traced : Traced Failure Content) :
    (traced.mapFailure change).result = traced.result.mapError change := rfl

/-- Two steps give what the second one gives for the content of the first one. -/
@[simp] theorem result_bind (first : Traced Failure Content)
    (next : Content → Traced Failure Result) :
    (first >>= next).result = first.result.bind fun content => (next content).result := by
  obtain ⟨log, result⟩ := first
  cases result <;> rfl

/-- The second step follows the result of the first. -/
@[simp] theorem result_andThen (first : Traced Failure Content)
    (next : Content → Traced Failure Result) :
    (first.andThen next).result = first.result.bind fun content => (next content).result :=
  result_bind first next

/-- Two steps succeed exactly when the first one does and the second one does on its content. -/
theorem result_bind_eq_ok_iff {first : Traced Failure Content}
    {next : Content → Traced Failure Result} {result : Result} :
    (first >>= next).result = .ok result ↔
      ∃ content, first.result = .ok content ∧ (next content).result = .ok result := by
  rw [result_bind]
  cases first.result <;> simp [Except.bind]

/-- Acts on all items succeed together exactly when each one of them does. -/
theorem result_forEach_eq_ok_iff (act : Content → Traced Failure Result) (items : List Content)
    (results : List Result) :
    (forEach act items).result = .ok results ↔
      List.Forall₂ (fun item result => (act item).result = .ok result) items results := by
  induction items generalizing results with
  | nil => cases results <;> simp [forEach]
  | cons item rest inductionHypothesis =>
      rw [forEach, result_andThen]
      cases first : (act item).result with
      | error failure => cases results <;> simp [Except.bind, first]
      | ok result =>
          simp only [Except.bind, result_andThen]
          cases others : (forEach act rest).result with
          | error failure =>
              cases results <;> simp [← inductionHypothesis, others]
          | ok found =>
              cases results <;> simp [← inductionHypothesis, others, first]

/-- Acts on all items fail with the first failure. -/
theorem result_forEach_eq_error_iff (act : Content → Traced Failure Result) (items : List Content)
    (failure : Failure) :
    (forEach act items).result = .error failure ↔
      ∃ before item after, items = before ++ item :: after ∧
        (∀ earlier ∈ before, ∃ result, (act earlier).result = .ok result) ∧
        (act item).result = .error failure := by
  induction items with
  | nil => simp [forEach]
  | cons item rest inductionHypothesis =>
      rw [forEach, result_andThen]
      -- The first item fails, or the failure is one of the rest and the item stands before it.
      cases first : (act item).result with
      | error own =>
          simp only [Except.bind, Except.error.injEq]
          constructor
          · rintro rfl
            exact ⟨[], item, rest, rfl, by simp, first⟩
          · rintro ⟨before, other, after, split, earlier, fails⟩
            cases before with
            | nil =>
                obtain ⟨rfl, rfl⟩ := List.cons.inj split
                simpa [first] using fails
            | cons _ _ =>
                obtain ⟨rfl, rfl⟩ := List.cons.inj split
                simp [first] at earlier
      | ok result =>
          have onward : (ok result : Traced Failure Result).result.bind (fun result =>
              ((forEach act rest).andThen fun results => ok (result :: results)).result) =
                .error failure ↔ (forEach act rest).result = .error failure := by
            cases others : (forEach act rest).result <;> simp [Except.bind, others]
          refine onward.trans (inductionHypothesis.trans ?_)
          constructor
          · rintro ⟨before, other, after, rfl, earlier, fails⟩
            refine ⟨item :: before, other, after, rfl, ?_, fails⟩
            exact List.forall_mem_cons.2 ⟨⟨result, first⟩, earlier⟩
          · rintro ⟨before, other, after, split, earlier, fails⟩
            cases before with
            | nil =>
                obtain ⟨rfl, rfl⟩ := List.cons.inj split
                simp [first] at fails
            | cons _ before =>
                obtain ⟨rfl, rfl⟩ := List.cons.inj split
                exact ⟨before, other, after, rfl, (List.forall_mem_cons.1 earlier).2, fails⟩

/-- A step that succeeds for all items succeeds for each. -/
theorem exists_of_mem_forEach {act : Content → Traced Failure Result} {items : List Content}
    {results : List Result} (given : (forEach act items).result = .ok results) {item : Content}
    (member : item ∈ items) : ∃ result, (act item).result = .ok result := by
  rw [result_forEach_eq_ok_iff] at given
  induction given with
  | nil => simp at member
  | cons first _ inductionHypothesis =>
      rcases List.mem_cons.1 member with rfl | later
      · exact ⟨_, first⟩
      · exact inductionHypothesis later

/-- Acts of which none fails succeed together. -/
theorem exists_forEach {act : Content → Traced Failure Result} {items : List Content}
    (each : ∀ item ∈ items, ∃ result, (act item).result = .ok result) :
    ∃ results, (forEach act items).result = .ok results := by
  induction items with
  | nil => exact ⟨[], rfl⟩
  | cons item rest inductionHypothesis =>
      obtain ⟨⟨result, first⟩, others⟩ := List.forall_mem_cons.1 each
      obtain ⟨results, given⟩ := inductionHypothesis others
      refine ⟨result :: results, (result_forEach_eq_ok_iff act _ _).2 (.cons first ?_)⟩
      exact (result_forEach_eq_ok_iff act _ _).1 given

end RosettaDaml.Traced
