/-
This file shows that the path of a location can be read back step by step.
-/

import RosettaDaml.Proofs.Text.Number
import RosettaDaml.Schema.Fault

namespace RosettaDaml

namespace Step

/-- A key that cannot be taken for a part of the path around it. -/
def IsClear : Step → Prop
  | .key name => name ≠ "" ∧ '.' ∉ name.toList ∧ '[' ∉ name.toList ∧ ']' ∉ name.toList
  | _ => True

instance (step : Step) : Decidable step.IsClear :=
  match step with
  | .key name => inferInstanceAs
      (Decidable (name ≠ "" ∧ '.' ∉ name.toList ∧ '[' ∉ name.toList ∧ ']' ∉ name.toList))
  | .index _ => .isTrue trivial
  | .flag _ => .isTrue trivial

def isKey : Step → Bool
  | .key _ => true
  | _ => false

/-- A step is a key or none. -/
theorem isKey_cases (step : Step) : step.isKey = false ∨ ∃ name, step = .key name := by
  cases step with
  | key name => exact .inr ⟨name, rfl⟩
  | index position => exact .inl rfl
  | flag truth => exact .inl rfl

/-- What is no key holds no closing bracket. -/
theorem not_mem_text {step : Step} (noKey : step.isKey = false) : ']' ∉ step.text.toList := by
  cases step with
  | key name => exact absurd noKey (by simp [isKey])
  | index position => exact Text.not_mem_toString_int (by decide) (by decide) position
  | flag truth => cases truth <;> decide

/-- Both truth values are spelled with a letter that is in no number. -/
theorem toString_ne_literal (position : Int) (truth : Bool) :
    toString position ≠ (Data.Value.bool truth).literal := by
  intro same
  have letter : 'e' ∈ (Data.Value.bool truth).literal.toList := by cases truth <;> decide
  rw [← same] at letter
  exact Text.not_mem_toString_int (by decide) (by decide) position letter

/-- Steps that are no keys are known by their texts. -/
theorem text_inj {step other : Step} (noKey : step.isKey = false) (noKeyToo : other.isKey = false)
    (same : step.text = other.text) : step = other := by
  cases step with
  | key name => exact absurd noKey (by simp [isKey])
  | index position =>
      cases other with
      | key name => exact absurd noKeyToo (by simp [isKey])
      | index other => exact congrArg index (Text.toString_int_injective same)
      | flag truth => exact absurd same (toString_ne_literal position truth)
  | flag truth =>
      cases other with
      | key name => exact absurd noKeyToo (by simp [isKey])
      | index position => exact absurd same.symm (toString_ne_literal position truth)
      | flag other =>
          have spelled : (Data.Value.bool truth).literal = (Data.Value.bool other).literal := same
          revert spelled
          cases truth <;> cases other <;> decide

end Step

namespace Location

/-- The dot in front of a key that is not the first step. -/
def dotIf (started : Bool) : List Char := if started then ['.'] else []

/-- A key stands behind a dot. -/
theorem toList_pathFrom_key (started : Bool) (name : String) (rest : Location) :
    (pathFrom started (.key name :: rest)).toList =
      dotIf started ++ (name.toList ++ (pathFrom true rest).toList) := by
  cases started <;> simp [pathFrom, dotIf]

/-- What is no key stands in brackets. -/
theorem toList_pathFrom_of_isKey {step : Step} (noKey : step.isKey = false) (started : Bool)
    (rest : Location) :
    (pathFrom started (step :: rest)).toList =
      '[' :: (step.text.toList ++ ']' :: (pathFrom true rest).toList) := by
  cases step with
  | key name => exact absurd noKey (by simp [Step.isKey])
  | index position => simp [pathFrom, toString]
  | flag truth => simp [pathFrom, toString]

/-- Behind a key the path ends, or a mark follows that is in no clear key. -/
theorem head?_pathFrom (location : Location) :
    ∀ char ∈ (pathFrom true location).toList.head?, (char != '.' && char != '[') = false := by
  cases location with
  | nil => simp [pathFrom]
  | cons step rest =>
      obtain noKey | ⟨name, rfl⟩ := step.isKey_cases
      · simp [toList_pathFrom_of_isKey noKey]
      · simp [toList_pathFrom_key, dotIf]

/-- The path of a step that is no key begins with a bracket, that of a clear key does not. -/
theorem head?_pathFrom_eq_iff {step : Step} (clear : step.IsClear) (started : Bool)
    (rest : Location) :
    (pathFrom started (step :: rest)).toList.head? = some '[' ↔ step.isKey = false := by
  obtain noKey | ⟨name, rfl⟩ := step.isKey_cases
  · simp [toList_pathFrom_of_isKey noKey, noKey]
  · obtain ⟨inhabited, -, noBracket, -⟩ := clear
    obtain ⟨first, chars, spelled⟩ : ∃ first chars, name.toList = first :: chars :=
      List.exists_cons_of_ne_nil (by simpa using inhabited)
    rw [spelled, List.mem_cons, not_or] at noBracket
    rw [toList_pathFrom_key, spelled]
    cases started <;> simp [dotIf, Step.isKey, Ne.symm noBracket.1]

/-- A clear step is written as something. -/
theorem pathFrom_ne_nil {step : Step} (clear : step.IsClear) (started : Bool) (rest : Location) :
    (pathFrom started (step :: rest)).toList ≠ [] := by
  obtain noKey | ⟨name, rfl⟩ := step.isKey_cases
  · rw [toList_pathFrom_of_isKey noKey]
    exact List.cons_ne_nil _ _
  · have inhabited : name ≠ "" := clear.1
    simp [toList_pathFrom_key, inhabited]

/-- A clear key ends in front of the first mark behind it. -/
theorem pathFrom_key_inj {name other : String} (clear : (Step.key name).IsClear)
    (clearToo : (Step.key other).IsClear) {started : Bool} {rest others : Location}
    (same : (pathFrom started (.key name :: rest)).toList =
      (pathFrom started (.key other :: others)).toList) :
    name = other ∧ (pathFrom true rest).toList = (pathFrom true others).toList := by
  have passes {name : String} (clear : (Step.key name).IsClear) :
      ∀ char ∈ name.toList, (char != '.' && char != '[') = true := by
    intro char member
    obtain ⟨-, noDot, noBracket, -⟩ := clear
    have notDot : char ≠ '.' := fun same => noDot (same ▸ member)
    have notBracket : char ≠ '[' := fun same => noBracket (same ▸ member)
    simp [notDot, notBracket]
  rw [toList_pathFrom_key, toList_pathFrom_key] at same
  have names := Text.append_inj_of_forall (passes clear) (passes clearToo) (head?_pathFrom rest)
    (head?_pathFrom others) (List.append_cancel_left same)
  exact ⟨String.toList_injective names.1, names.2⟩

/-- What stands in brackets ends in front of the bracket that closes. -/
theorem pathFrom_inj_of_isKey {step other : Step} (noKey : step.isKey = false)
    (noKeyToo : other.isKey = false) {started : Bool} {rest others : Location}
    (same : (pathFrom started (step :: rest)).toList =
      (pathFrom started (other :: others)).toList) :
    step = other ∧ (pathFrom true rest).toList = (pathFrom true others).toList := by
  have passes {step : Step} (noKey : step.isKey = false) :
      ∀ char ∈ step.text.toList, (char != ']') = true := by
    intro char member
    exact bne_iff_ne.2 fun closes => Step.not_mem_text noKey (closes ▸ member)
  rw [toList_pathFrom_of_isKey noKey, toList_pathFrom_of_isKey noKeyToo] at same
  have texts := Text.append_inj_of_forall (passes noKey) (passes noKeyToo) (by simp) (by simp)
    (List.cons.inj same).2
  exact ⟨Step.text_inj noKey noKeyToo (String.toList_injective texts.1), (List.cons.inj texts.2).2⟩

/-- Places of clear steps are known by their paths, by induction on the steps. -/
theorem pathFrom_inj {location other : Location} (clear : ∀ step ∈ location, step.IsClear)
    (clearToo : ∀ step ∈ other, step.IsClear) {started : Bool}
    (same : (pathFrom started location).toList = (pathFrom started other).toList) :
    location = other := by
  induction location generalizing other started with
  | nil =>
      cases other with
      | nil => rfl
      | cons step rest =>
          exact absurd same.symm (pathFrom_ne_nil (clearToo step List.mem_cons_self) started rest)
  | cons step rest inductionHypothesis =>
      cases other with
      | nil => exact absurd same (pathFrom_ne_nil (clear step List.mem_cons_self) started rest)
      | cons next others =>
          obtain ⟨here, behind⟩ := List.forall_mem_cons.1 clear
          obtain ⟨hereToo, behindToo⟩ := List.forall_mem_cons.1 clearToo
          -- The first character decides whether both steps are keys.
          have kind : step.isKey = false ↔ next.isKey = false := by
            rw [← head?_pathFrom_eq_iff here started rest, same,
              head?_pathFrom_eq_iff hereToo started others]
          have first : step = next ∧
              (pathFrom true rest).toList = (pathFrom true others).toList := by
            obtain noKey | ⟨name, rfl⟩ := step.isKey_cases
            · exact pathFrom_inj_of_isKey noKey (kind.1 noKey) same
            · obtain noKey | ⟨nextName, rfl⟩ := next.isKey_cases
              · exact absurd (kind.2 noKey) (by simp [Step.isKey])
              · obtain ⟨names, rests⟩ := pathFrom_key_inj here hereToo same
                exact ⟨congrArg Step.key names, rests⟩
          obtain ⟨rfl, rests⟩ := first
          rw [inductionHypothesis behind behindToo rests]

/-- Locations with clear keys have the same path exactly if they are the same. -/
theorem path_eq_path_iff {location other : Location} (clear : ∀ step ∈ location, step.IsClear)
    (clearToo : ∀ step ∈ other, step.IsClear) : location.path = other.path ↔ location = other := by
  constructor
  · intro same
    exact pathFrom_inj clear clearToo (congrArg String.toList same)
  · exact congrArg path

/-- A key of digits is told from an index. -/
theorem path_eq_path_iff_digits :
    (∀ step ∈ [.key "decls", .key "3", .key "fields", .index 0], Step.IsClear step) ∧
      (∀ step ∈ [.key "decls", .index 3, .key "fields", .index 0], Step.IsClear step) ∧
      (path [.key "decls", .key "3", .key "fields", .index 0] =
          path [.key "decls", .index 3, .key "fields", .index 0] ↔
        ([.key "decls", .key "3", .key "fields", .index 0] : Location) =
          [.key "decls", .index 3, .key "fields", .index 0]) :=
  ⟨by decide, by decide, path_eq_path_iff (by decide) (by decide)⟩

example : path [.key "decls", .index 3, .key "class", .key "fields", .index 0, .key "card"] =
    "decls[3].class.fields[0].card" := by
  decide +kernel

end Location

end RosettaDaml
