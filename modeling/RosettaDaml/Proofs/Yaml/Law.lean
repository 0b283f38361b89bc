/-
This file carries what every step of a reader keeps through the operations that steps are made of.
-/

import RosettaDaml.Yaml.Document

namespace RosettaDaml.Yaml

/-- What holds of a step that does nothing, and of two steps one after the other if it holds of
both. -/
structure Law (Step : Type → Type) [Monad Step] where
  Holds : {Result : Type} → Step Result → Prop
  holds_pure : ∀ {Result : Type} (result : Result), Holds (pure result)
  holds_bind : ∀ {First Second : Type} {first : Step First} {next : First → Step Second},
    Holds first → (∀ result, Holds (next result)) → Holds (first >>= next)

namespace Law

variable {Step : Type → Type} [Monad Step] (law : Law Step) {Item Given Result : Type}

/-- A law that holds of two steps holds of one after the other. -/
theorem holds_then {first : Step Given} {rest : Step Result} (holds : law.Holds first)
    (holdsRest : law.Holds rest) : law.Holds (first >>= fun _ => rest) :=
  law.holds_bind holds fun _ => holdsRest

/-- What is made of a result does not matter. -/
theorem holds_bind_pure {first : Step Given} (holds : law.Holds first) (change : Given → Result) :
    law.Holds (first >>= fun given => pure (change given)) :=
  law.holds_bind holds fun given => law.holds_pure (change given)

/-- A step that is made only under a condition, and the rest that follows in both cases. -/
theorem holds_guarded {condition : Prop} [Decidable condition] {first : Step Given}
    {rest : Step Result} (holds : law.Holds first) (holdsRest : law.Holds rest) :
    law.Holds (if condition then first >>= fun _ => rest else rest) := by
  split
  · exact law.holds_then holds holdsRest
  · exact holdsRest

/-- A step may be made for each item, by induction on the items. -/
theorem holds_forM {step : Item → Step PUnit} (items : List Item)
    (holds : ∀ item, law.Holds (step item)) : law.Holds (items.forM step) := by
  induction items with
  | nil => exact law.holds_pure _
  | cons item rest inductionHypothesis =>
      change law.Holds (step item >>= fun _ => rest.forM step)
      exact law.holds_then (holds item) inductionHypothesis

/-- The same with a result that goes from item to item. -/
theorem holds_foldlM {step : Result → Item → Step Result} (items : List Item)
    (holds : ∀ result item, law.Holds (step result item)) (start : Result) :
    law.Holds (items.foldlM step start) := by
  induction items generalizing start with
  | nil => exact law.holds_pure start
  | cons item rest inductionHypothesis =>
      rw [List.foldlM_cons]
      exact law.holds_bind (holds start item) inductionHypothesis

/-- The same with a result for each item. -/
theorem holds_mapM [LawfulMonad Step] {step : Item → Step Result} (items : List Item)
    (holds : ∀ item, law.Holds (step item)) : law.Holds (items.mapM step) := by
  induction items with
  | nil =>
      rw [List.mapM_nil]
      exact law.holds_pure []
  | cons item rest inductionHypothesis =>
      rw [List.mapM_cons]
      refine law.holds_bind (holds item) fun result => law.holds_bind inductionHypothesis ?_
      exact fun results => law.holds_pure (result :: results)

/-! Steps with a state of their own. -/

/-- What holds of the steps from each state. -/
def withState (State : Type) : Law (StateT State Step) where
  Holds step := ∀ state, law.Holds (step state)
  holds_pure result state := law.holds_pure (result, state)
  holds_bind first next state :=
    law.holds_bind (first state) fun (result, later) => next result later

variable {State : Type}

/-- Looking at the state is no step of the others. -/
theorem holds_get : (law.withState State).Holds get := fun state => law.holds_pure (state, state)

/-- Neither is replacing it. -/
theorem holds_set (state : State) : (law.withState State).Holds (set state) :=
  fun _ => law.holds_pure ((), state)

/-- Nor is changing it with a result. -/
theorem holds_modifyGet (change : State → Result × State) :
    (law.withState State).Holds (modifyGet change) := fun state => law.holds_pure (change state)

/-- Nor is changing it without one. -/
theorem holds_modify (change : State → State) : (law.withState State).Holds (modify change) :=
  law.holds_modifyGet fun state => ((), change state)

/-- A step that leaves the state alone keeps its law. -/
theorem holds_liftM {step : Step Result} (holds : law.Holds step) :
    (law.withState State).Holds (liftM step) :=
  fun state => law.holds_bind holds fun result => law.holds_pure (result, state)

/-- So does a failure. -/
theorem holds_throw [MonadExceptOf Failure Step] {failure : Failure}
    (holds : law.Holds (throw failure : Step Result)) :
    (law.withState State).Holds (throw failure : StateT State Step Result) :=
  law.holds_liftM holds

end Law

end RosettaDaml.Yaml
