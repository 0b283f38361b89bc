/-
This file holds computations that leave records of what they did, also when they fail.
-/

namespace RosettaDaml

inductive Level where
  | debug
  | info
  | warning
  | error
  | critical
  deriving DecidableEq, Repr

/-- The weight by which a threshold lets a level through. -/
def Level.weight : Level → Nat
  | .debug => 10
  | .info => 20
  | .warning => 30
  | .error => 40
  | .critical => 50

def Level.name : Level → String
  | .debug => "DEBUG"
  | .info => "INFO"
  | .warning => "WARNING"
  | .error => "ERROR"
  | .critical => "CRITICAL"

structure LogRecord where
  level : Level
  logger : String
  message : String
  deriving DecidableEq, Repr

def LogRecord.line (record : LogRecord) : String :=
  s!"{record.level.name} {record.logger}: {record.message}"

def LogRecord.passes (threshold : Nat) (record : LogRecord) : Bool :=
  threshold ≤ record.level.weight

/-- The records come in the order in which they were left, before any failure. -/
structure Traced (Failure Content : Type) where
  log : List LogRecord
  result : Except Failure Content

namespace Traced

variable {Failure Other Content Result : Type}

def ok (content : Content) : Traced Failure Content := ⟨[], .ok content⟩

def fail (failure : Failure) : Traced Failure Content := ⟨[], .error failure⟩

def leave (records : List LogRecord) : Traced Failure Unit := ⟨records, .ok ()⟩

def andThen (first : Traced Failure Content) (next : Content → Traced Failure Result) :
    Traced Failure Result :=
  match first.result with
  | .ok content => ⟨first.log ++ (next content).log, (next content).result⟩
  | .error failure => ⟨first.log, .error failure⟩

instance : Monad (Traced Failure) where
  pure := ok
  bind := andThen

def ofExcept (result : Except Failure Content) : Traced Failure Content := ⟨[], result⟩

def mapFailure (change : Failure → Other) (traced : Traced Failure Content) :
    Traced Other Content :=
  ⟨traced.log, traced.result.mapError change⟩

/-- What is done for each item in turn, up to the first failure. -/
def forEach (act : Content → Traced Failure Result) : List Content → Traced Failure (List Result)
  | [] => ok []
  | item :: rest => (act item).andThen fun result =>
      (forEach act rest).andThen fun results => ok (result :: results)

theorem forEach_map {Source : Type} (act : Content → Traced Failure Result) (give : Source → Content)
    (items : List Source) :
    forEach act (items.map give) = forEach (fun item => act (give item)) items := by
  induction items with
  | nil => rfl
  | cons item rest inductionHypothesis => simp only [List.map_cons, forEach, inductionHypothesis]

/-- Acts that never fail and leave no records only change the items. -/
theorem forEach_ok (change : Content → Result) (items : List Content) :
    (forEach (fun item => ok (change item)) items : Traced Failure (List Result)) =
      ok (items.map change) := by
  induction items with
  | nil => rfl
  | cons item rest inductionHypothesis => simp only [forEach, inductionHypothesis]; rfl

theorem andThen_ok (content : Content) (next : Content → Traced Failure Result) :
    (ok content).andThen next = next content := rfl

theorem andThen_pure (first : Traced Failure Content) : first.andThen ok = first := by
  obtain ⟨log, result⟩ := first
  cases result <;> simp [andThen, ok]

theorem andThen_assoc {Last : Type} (first : Traced Failure Content)
    (next : Content → Traced Failure Result) (last : Result → Traced Failure Last) :
    (first.andThen next).andThen last = first.andThen fun content => (next content).andThen last := by
  obtain ⟨log, result⟩ := first
  cases result with
  | error failure => rfl
  | ok content =>
      obtain ⟨innerLog, innerResult⟩ : Traced Failure Result := next content
      simp only [andThen]
      cases (next content).result <;> simp

instance : LawfulMonad (Traced Failure) :=
  LawfulMonad.mk' _ andThen_pure (fun _ _ => rfl) andThen_assoc

end Traced

end RosettaDaml
