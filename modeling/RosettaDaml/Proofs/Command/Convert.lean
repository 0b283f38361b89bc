/-
This file says what a command does to the files: a conversion writes its whole text or leaves all
files as they are, unless the text has no bytes, and a dry run counts what would be written.
-/

import RosettaDaml.Command.Run
import RosettaDaml.Proofs.Command.Places
import RosettaDaml.Proofs.Conversion.Outcome
import RosettaDaml.Proofs.Screen.Lines
import RosettaDaml.Proofs.Store.Writing
import RosettaDaml.Proofs.Text.Number

namespace RosettaDaml

namespace Command

open RosettaDaml.Screen
open RosettaDaml.Text (IsPlain)

variable {store : Store} {options : ConvertOptions} {text : String}

/-! The text. -/

/-- A conversion in stages gives what the whole conversion of the schema gives. -/
theorem Conversion.result_run_eq_ok_iff {path : Path} {config : Config} {name : String} :
    (Conversion.run store path config name).result = .ok text ↔
      ∃ schema, store.loadSchema path = .ok schema ∧
        (schema.convert config name).result = .ok text := by
  rw [Conversion.run]
  cases store.loadSchema path with
  | error failure => simp
  | ok schema =>
      simp only [Except.ok.injEq, exists_eq_left', Schema.result_convert_eq_ok_iff]
      cases (schema.build config name).result with
      | error failure => simp
      | ok model =>
          simp only [Except.ok.injEq, exists_eq_left']
          cases (Daml.render config model).result <;> simp

/-- The text that the files of a store are converted to. -/
def ConvertOptions.Converts (options : ConvertOptions) (store : Store) (text : String) : Prop :=
  ∃ config schema,
    store.loadConfig (options.config.map Path.ofPlace) options.overrides = .ok config ∧
    store.loadSchema (Path.ofPlace options.input) = .ok schema ∧
    (schema.convert config options.moduleName).result = .ok text

/-- That text, computed. -/
def ConvertOptions.text? (options : ConvertOptions) (store : Store) : Option String := do
  let config ← (store.loadConfig (options.config.map Path.ofPlace) options.overrides).toOption
  let schema ← (store.loadSchema (Path.ofPlace options.input)).toOption
  (schema.convert config options.moduleName).result.toOption

/-- A dry run has the same text. -/
theorem ConvertOptions.text?_dryRun (dryRun : Bool) :
    ({ options with dryRun } : ConvertOptions).text? store = options.text? store := rfl

/-- What is there is no failure. -/
theorem toOption_eq_some_iff {Fault Content : Type} {given : Except Fault Content}
    {content : Content} : given.toOption = some content ↔ given = .ok content := by
  cases given <;> simp [Except.toOption]

/-- The text is computed as it is defined. -/
theorem ConvertOptions.text?_eq_some_iff :
    options.text? store = some text ↔ options.Converts store text := by
  simp only [text?, Converts, bind, Option.bind_eq_some_iff, toOption_eq_some_iff,
    exists_and_left]

/-- There is one text at most. -/
theorem ConvertOptions.Converts.unique {other : String} (converts : options.Converts store text)
    (convertsToo : options.Converts store other) : text = other := by
  obtain ⟨config, schema, configured, loaded, gives⟩ := converts
  obtain ⟨configToo, schemaToo, configuredToo, loadedToo, givesToo⟩ := convertsToo
  obtain rfl := Except.ok.inj (configured.symm.trans configuredToo)
  obtain rfl := Except.ok.inj (loaded.symm.trans loadedToo)
  exact Except.ok.inj (gives.symm.trans givesToo)

/-! The screen. -/

/-- The lines about the stages hold words and counts. -/
theorem isPlain_of_mem_view {stage : Stage} :
    ∀ block ∈ stage.view, ∃ line, block = .text (.raw line) ∧ IsPlain line := by
  intro block member
  obtain ⟨line, inside, rfl⟩ := List.mem_map.1 member
  refine ⟨line, rfl, ?_⟩
  have numbered {label : String} (free : Text.halfMark ∉ label.toList) (count : Nat) :
      IsPlain (label ++ toString count) := (IsPlain.of_free free).append (Text.isPlain_toString count)
  obtain counted | task := List.mem_append.1 inside
  · obtain counted | counted := List.mem_append.1 counted
    · obtain ⟨schema, -, counted⟩ := List.mem_flatMap.1 counted
      obtain rfl | rfl := List.mem_pair.1 counted
      · exact numbered (by decide +kernel) _
      · exact numbered (by decide +kernel) _
    · obtain ⟨model, -, rfl⟩ := List.mem_map.1 counted
      exact numbered (by decide +kernel) _
  · have tasks : ∀ task ∈ stage.tasks, Text.halfMark ∉ task.toList := by
      cases stage <;> rw [Stage.tasks] <;> decide +kernel
    exact .of_free (tasks line task)

/-- The blocks above the last one are always shown. -/
theorem showsOn_of_mem_before (options : ConvertOptions) (log : List LogRecord) (stage : Stage) :
    ∀ entry ∈ onErrors (logBlocks options log) ++ onOutput (if options.verbose then stage.view else []),
      entry.2.ShowsOn entry.1 := by
  refine List.forall_mem_append.2 ⟨fun entry member => ?_, fun entry member => ?_⟩
  · obtain ⟨block, inside, rfl⟩ := List.mem_map.1 member
    obtain ⟨record, -, rfl⟩ := List.mem_map.1 inside
    exact Block.showsOn_errors_raw record.line
  · obtain ⟨block, inside, rfl⟩ := List.mem_map.1 member
    split at inside
    · obtain ⟨line, rfl, plain⟩ := isPlain_of_mem_view block inside
      exact Block.showsOn_raw plain .output
    · exact absurd inside (by simp)

/-- The places of a conversion hold characters only, and no bracket that begins a tag. -/
structure ConvertOptions.NamesClear (options : ConvertOptions) : Prop where
  input : ∀ part ∈ options.input, Text.IsClear part
  output : ∀ place, options.output = some place → ∀ part ∈ place, Text.IsClear part

/-- The name of the output is clear, also when it is made of that of the input. -/
theorem ConvertOptions.NamesClear.outputName (clear : options.NamesClear) :
    Text.IsClear options.outputName := by
  refine Path.isClear_text (Path.ofPlace options.outputPlace) ?_
  change ∀ part ∈ options.outputPlace, Text.IsClear part
  rw [outputPlace]
  cases given : options.output with
  | some place => exact clear.output place given
  | none =>
      exact Path.isClear_withSuffix (Path.ofPlace options.input) clear.input
        ⟨.of_free (by decide), by decide⟩

/-- A clear text in one style is shown. -/
theorem showsOn_styled {style inner text : String} (good : isStyle style.toList = true)
    (plain : IsPlain style) (clear : Text.IsClear inner)
    (same : text = "[" ++ style ++ "]" ++ inner ++ "[/" ++ style ++ "]" ++ "") (channel : Channel) :
    (Block.marked text).ShowsOn channel := by
  rw [same]
  exact Block.showsOn_marked (.pair good (isTagless_of_free clear.2) (.bare rfl))
    (isPlain_pair plain clear.1 (.of_free (by decide))) channel

/-- The line at the end is shown. -/
theorem showsOn_writtenText (clear : options.NamesClear) {verb : String} (clearVerb : Text.IsClear verb)
    (content : ByteArray) (channel : Channel) :
    (writtenText options verb content).ShowsOn channel := by
  let inner := "✓ " ++ (verb ++ (" " ++ (Text.groupThousands content.size ++ (" bytes to " ++
    options.outputName))))
  have clearCount : Text.IsClear (Text.groupThousands content.size) :=
    .of_free (Text.not_mem_groupThousands (by decide) (by decide) _)
      (Text.not_mem_groupThousands (by decide) (by decide) _)
  have clearInner : Text.IsClear inner := by
    refine .append (.of_free (by decide) (by decide)) (clearVerb.append ?_)
    refine .append (.of_free (by decide) (by decide)) (clearCount.append ?_)
    exact .append (.of_free (by decide +kernel) (by decide +kernel)) clear.outputName
  refine @showsOn_styled "bold green" inner _ (by decide +kernel) (.of_free (by decide)) clearInner
    ?_ channel
  simp [← String.toList_inj, inner, toString]

/-! The ends of a conversion. -/

/-- A text that can be written, or counted, goes to its place. -/
structure ConvertOptions.Delivers (options : ConvertOptions) (store : Store) (text : String)
    (content : ByteArray) : Prop where
  allowed : options.isBlocked store = false
  converts : options.Converts store text
  encodes : Text.encode text = .ok content

/-- What is delivered is the only thing that can be. -/
theorem ConvertOptions.Delivers.unique {other : String} {content contentToo : ByteArray}
    (delivers : options.Delivers store text content)
    (deliversToo : options.Delivers store other contentToo) : content = contentToo := by
  obtain rfl := delivers.converts.unique deliversToo.converts
  exact Except.ok.inj (delivers.encodes.symm.trans deliversToo.encodes)

/-- Nothing is delivered when the text has no bytes. -/
theorem ConvertOptions.Converts.not_delivers {fault : Text.EncodingFault}
    (converts : options.Converts store text) (breaks : Text.encode text = .error fault)
    {other : String} {content : ByteArray} : ¬ options.Delivers store other content := by
  intro delivers
  rw [converts.unique delivers.converts, delivers.encodes] at breaks
  exact absurd breaks (by simp)

/-- The text of a conversion has no bytes, and its place takes the empty file that is left of it.
What is written is opened before it is encoded, while a dry run only encodes. -/
structure ConvertOptions.BreaksOff (options : ConvertOptions) (store : Store) : Prop where
  wet : options.dryRun = false
  allowed : options.isBlocked store = false
  broken : ∃ text, options.Converts store text ∧ Text.hasHalf text = true
  taken : ∃ left, store.write options.outputPlace .empty = .ok left
  filled : store.file? options.outputPlace ≠ some .empty

/-- How a conversion ends, and what it leaves. -/
inductive ConvertOptions.EndsIn (options : ConvertOptions) (store : Store) : Outcome → Prop
  | stopped (screen : List (Channel × Block))
      (stops : ∀ text content, options.Delivers store text content →
        options.dryRun = false ∧ ∀ left, store.write options.outputPlace content ≠ .ok left)
      (whole : ¬ options.BreaksOff store) :
      options.EndsIn store (.failed store screen)
  | counted {text : String} {content : ByteArray} {before : List (Channel × Block)}
      (dry : options.dryRun = true) (delivers : options.Delivers store text content)
      (shows : ∀ entry ∈ before, entry.2.ShowsOn entry.1) :
      options.EndsIn store
        (.done store (before ++ onOutput [writtenText options "Would write" content]))
  | written {text : String} {content : ByteArray} {before : List (Channel × Block)} {left : Store}
      (wet : options.dryRun = false) (delivers : options.Delivers store text content)
      (writes : store.write options.outputPlace content = .ok left)
      (shows : ∀ entry ∈ before, entry.2.ShowsOn entry.1) :
      options.EndsIn store (.done left (before ++ onOutput [writtenText options "Wrote" content]))
  /-- A text without bytes leaves an empty file. -/
  | emptied {text : String} {fault : Text.EncodingFault} {left : Store}
      {screen : List (Channel × Block)} (wet : options.dryRun = false)
      (allowed : options.isBlocked store = false)
      (converts : options.Converts store text) (breaks : Text.encode text = .error fault)
      (writes : store.write options.outputPlace .empty = .ok left) :
      options.EndsIn store (.failed left screen)

/-- A text that has no bytes has halves. -/
theorem hasHalf_of_encode {fault : Text.EncodingFault} (breaks : Text.encode text = .error fault) :
    Text.hasHalf text = true := by
  by_contra whole
  obtain ⟨content, encodes⟩ :=
    (Text.exists_encode_iff text).2 (Bool.eq_false_of_not_eq_true whole)
  exact absurd (breaks.symm.trans encodes) (by simp)

/-- What is delivered does not break off. -/
theorem ConvertOptions.Delivers.not_breaksOff {content : ByteArray}
    (delivers : options.Delivers store text content) : ¬ options.BreaksOff store := by
  rintro ⟨-, -, ⟨other, converts, half⟩, -, -⟩
  obtain rfl := delivers.converts.unique converts
  have whole := (Text.exists_encode_iff text).1 ⟨content, delivers.encodes⟩
  exact absurd (half.symm.trans whole) (by decide)

/-- Where nothing is converted, there is nothing to write and nothing that breaks off. -/
theorem ConvertOptions.EndsIn.of_nothing (nothing : ∀ text, ¬ options.Converts store text)
    (screen : List (Channel × Block)) : options.EndsIn store (.failed store screen) := by
  refine .stopped screen (fun text _ delivers => absurd delivers.converts (nothing text)) ?_
  rintro ⟨-, -, ⟨text, converts, -⟩, -, -⟩
  exact nothing text converts

/-- The last stage of a conversion, whose result is the text that the files are converted to. -/
theorem endsIn_finish (allowed : options.isBlocked store = false) {conversion : Conversion}
    (gives : ∀ text, conversion.result = .ok text ↔ options.Converts store text) :
    options.EndsIn store (finish store options conversion) := by
  have shows := showsOn_of_mem_before options conversion.log conversion.stage
  rw [finish]
  generalize onErrors (logBlocks options conversion.log) ++ onOutput _ = before at shows ⊢
  cases result : conversion.result with
  | error failure =>
      refine .of_nothing (fun text converts => ?_) _
      rw [(gives text).2 converts] at result
      exact absurd result (by simp)
  | ok text =>
      have converts := (gives text).1 result
      simp only [writeText]
      cases encodes : Text.encode text with
      | error fault =>
          have nothing (screen : List (Channel × Block)) (whole : ¬ options.BreaksOff store) :
              options.EndsIn store (.failed store screen) :=
            .stopped screen (fun _ _ delivers => absurd delivers (converts.not_delivers encodes)) whole
          -- The file is opened before the text is encoded, but only where something is written.
          cases dry : options.dryRun with
          | true =>
              exact nothing _ fun breaks => absurd (dry.symm.trans breaks.wet) (by decide)
          | false =>
              simp only [Except.toOption, Option.getD_none, Bool.false_eq_true, if_false]
              cases writes : store.write options.outputPlace .empty with
              | error refused =>
                  refine nothing _ fun breaks => ?_
                  obtain ⟨left, writesToo⟩ := breaks.taken
                  exact absurd (writes.symm.trans writesToo) (by simp)
              | ok left => exact .emptied dry allowed converts encodes writes
      | ok content =>
          have delivers : options.Delivers store text content := ⟨allowed, converts, encodes⟩
          cases dry : options.dryRun with
          | true => exact .counted dry delivers shows
          | false =>
              simp only [Except.toOption, Option.getD_some, Bool.false_eq_true, if_false]
              cases writes : store.write options.outputPlace content with
              | error refused =>
                  refine .stopped _ (fun _ _ deliversToo => ⟨dry, fun left writesToo => ?_⟩)
                    delivers.not_breaksOff
                  obtain rfl := delivers.unique deliversToo
                  exact absurd (writes.symm.trans writesToo) (by simp)
              | ok left => exact .written dry delivers writes shows

/-- Every conversion ends in one of these ways. -/
theorem endsIn_convert (store : Store) (options : ConvertOptions) :
    options.EndsIn store (convert store options) := by
  rw [convert]
  cases blocked : options.isBlocked store with
  | true =>
      refine .stopped _ (fun _ _ delivers => ?_) fun breaks => ?_
      · exact absurd (blocked.symm.trans delivers.allowed) (by decide)
      · exact absurd (blocked.symm.trans breaks.allowed) (by decide)
  | false =>
      simp only [Bool.false_eq_true, if_false]
      cases configured : store.loadConfig (options.config.map Path.ofPlace) options.overrides with
      | error failure =>
          refine .of_nothing ?_ _
          rintro text ⟨config, -, configuredToo, -⟩
          exact absurd (configured.symm.trans configuredToo) (by simp)
      | ok config =>
          refine endsIn_finish blocked fun text => ?_
          simp only [Conversion.result_run_eq_ok_iff, ConvertOptions.Converts, configured,
            Except.ok.injEq, exists_and_left, exists_eq_left']

/-! Exit codes, on a screen of any width. -/

/-- A failure ends with one. -/
theorem exitCode_failed (store : Store) (screen : List (Channel × Block)) (width : Nat) :
    (Outcome.failed store screen).exitCode width = 1 := by
  rw [Outcome.exitCode]
  split <;> rfl

/-- What is shown to its end, and is no failure, ends with zero. -/
theorem exitCode_done {screen : List (Channel × Block)}
    (shows : ∀ entry ∈ screen, entry.2.ShowsOn entry.1) (store : Store) (width : Nat) :
    (Outcome.done store screen).exitCode width = 0 := by
  have clear : ((Outcome.done store screen).shown width).fault = none :=
    Shown.fault_ofBlocks shows width
  rw [Outcome.exitCode, clear]
  rfl

/-- What a conversion that ends well shows. -/
theorem showsOn_of_mem_last (clear : options.NamesClear) {before : List (Channel × Block)}
    (shows : ∀ entry ∈ before, entry.2.ShowsOn entry.1) {verb : String}
    (clearVerb : Text.IsClear verb) (content : ByteArray) :
    ∀ entry ∈ before ++ onOutput [writtenText options verb content], entry.2.ShowsOn entry.1 :=
  List.forall_mem_append.2
    ⟨shows, List.forall_mem_singleton.2 (showsOn_writtenText clear clearVerb content .output)⟩

/-! Files. -/

section Files

variable {width : Nat}

/-- A dry run leaves all files as they are. -/
theorem store_convert_of_dryRun (dry : options.dryRun = true) :
    (convert store options).store = store := by
  have ends := endsIn_convert store options
  generalize convert store options = outcome at ends ⊢
  cases ends with
  | stopped | counted => rfl
  | written wet | emptied wet => exact absurd (dry.symm.trans wet) (by decide)

/-- A conversion that fails leaves all files as they are exactly when it does not break off. -/
theorem store_convert_eq_iff_of_exitCode (clear : options.NamesClear)
    (fails : (convert store options).exitCode width ≠ 0) :
    (convert store options).store = store ↔ ¬ options.BreaksOff store := by
  have ends := endsIn_convert store options
  generalize convert store options = outcome at ends fails ⊢
  cases ends with
  | stopped screen stops whole => exact iff_of_true rfl whole
  | counted _ delivers => exact iff_of_true rfl delivers.not_breaksOff
  | @written _ content _ left _ _ _ shows =>
      have clearVerb : Text.IsClear "Wrote" := .of_free (by decide) (by decide)
      have good := showsOn_of_mem_last clear shows clearVerb content
      exact absurd (exitCode_done good left width) fails
  | emptied wet allowed converts breaks writes =>
      refine (Store.write_eq_self_iff writes).trans
        ⟨fun there broken => broken.filled there, fun whole => ?_⟩
      by_contra filled
      exact whole ⟨wet, allowed, ⟨_, converts, hasHalf_of_encode breaks⟩, ⟨_, writes⟩, filled⟩

/-- A conversion that breaks off fails and leaves an empty file. -/
theorem convert_of_breaksOff (broken : options.BreaksOff store) (width : Nat) :
    (convert store options).store.file? options.outputPlace = some .empty ∧
      (convert store options).exitCode width = 1 := by
  have ends := endsIn_convert store options
  generalize convert store options = outcome at ends ⊢
  cases ends with
  | stopped screen stops whole => exact absurd broken whole
  | counted _ delivers | written _ delivers => exact absurd broken delivers.not_breaksOff
  | emptied _ _ _ _ writes =>
      exact ⟨(Store.entryAt?_of_write writes).1, exitCode_failed _ _ width⟩

/-- What is written is what the store is left with. -/
theorem store_convert_of_write (wet : options.dryRun = false) {content : ByteArray} {left : Store}
    (delivers : options.Delivers store text content)
    (writes : store.write options.outputPlace content = .ok left) :
    (convert store options).store = left := by
  have ends := endsIn_convert store options
  generalize convert store options = outcome at ends ⊢
  cases ends with
  | stopped screen stops => exact absurd writes ((stops text content delivers).2 left)
  | counted dry => exact absurd (dry.symm.trans wet) (by decide)
  | written _ deliversToo writesToo =>
      obtain rfl := delivers.unique deliversToo
      exact Except.ok.inj (writesToo.symm.trans writes)
  | emptied _ _ converts breaks => exact absurd delivers (converts.not_delivers breaks)

/-- A conversion that is no dry run ends well exactly when it writes a text to its place. -/
theorem exitCode_convert_eq_zero_iff_of_wet (clear : options.NamesClear)
    (wet : options.dryRun = false) :
    (convert store options).exitCode width = 0 ↔
      ∃ text content, options.Delivers store text content ∧
        store.write options.outputPlace content = .ok (convert store options).store := by
  have ends := endsIn_convert store options
  generalize convert store options = outcome at ends ⊢
  cases ends with
  | stopped screen stops =>
      rw [exitCode_failed]
      refine ⟨fun same => absurd same (by decide), fun ⟨text, content, delivers, writes⟩ => ?_⟩
      exact absurd writes ((stops text content delivers).2 _)
  | counted dry => exact absurd (dry.symm.trans wet) (by decide)
  | @written text content _ left _ delivers writes shows =>
      have clearVerb : Text.IsClear "Wrote" := .of_free (by decide) (by decide)
      have good := showsOn_of_mem_last clear shows clearVerb content
      exact iff_of_true (exitCode_done good left width) ⟨text, content, delivers, writes⟩
  | emptied _ _ converts breaks =>
      rw [exitCode_failed]
      refine ⟨fun same => absurd same (by decide), fun ⟨text, content, delivers, writes⟩ => ?_⟩
      exact absurd delivers (converts.not_delivers breaks)

/-- A dry run ends well exactly when there is a text to count. -/
theorem exitCode_convert_eq_zero_iff_of_dry (clear : options.NamesClear)
    (dry : options.dryRun = true) :
    (convert store options).exitCode width = 0 ↔
      ∃ text content, options.Delivers store text content := by
  have ends := endsIn_convert store options
  generalize convert store options = outcome at ends ⊢
  cases ends with
  | stopped screen stops =>
      rw [exitCode_failed]
      refine ⟨fun same => absurd same (by decide), fun ⟨text, content, delivers⟩ => ?_⟩
      exact absurd (dry.symm.trans (stops text content delivers).1) (by decide)
  | @counted text content _ _ delivers shows =>
      have clearVerb : Text.IsClear "Would write" := .of_free (by decide) (by decide)
      have good := showsOn_of_mem_last clear shows clearVerb content
      exact iff_of_true (exitCode_done good store width) ⟨text, content, delivers⟩
  | written wet | emptied wet => exact absurd (dry.symm.trans wet) (by decide)

end Files

/-- The last thing that a dry run shows is the number of bytes. -/
theorem getLast?_screen_of_delivers (dry : options.dryRun = true) {content : ByteArray}
    (delivers : options.Delivers store text content) :
    (convert store options).screen.getLast? =
      some (.output, writtenText options "Would write" content) := by
  have ends := endsIn_convert store options
  generalize convert store options = outcome at ends ⊢
  cases ends with
  | stopped screen stops =>
      exact absurd (dry.symm.trans (stops text content delivers).1) (by decide)
  | counted _ deliversToo =>
      rw [delivers.unique deliversToo]
      simp [Outcome.done, onOutput]
  | written wet | emptied wet => exact absurd (dry.symm.trans wet) (by decide)

/-- The number of bytes can be read off the line that reports it. -/
theorem writtenText_injective {verb : String} {content other : ByteArray}
    (same : writtenText options verb content = writtenText options verb other) :
    content.size = other.size := by
  have chars := congrArg String.toList (Label.marked.inj (Block.text.inj same))
  simp only [String.toList_append, List.append_cancel_left_eq, List.append_cancel_right_eq] at chars
  exact Text.groupThousands_injective (String.toList_inj.1 chars)

/-- A dry run that ends with the number of bytes it would write. -/
def Outcome.Reports (outcome : Outcome) (options : ConvertOptions) (size : Nat) : Prop :=
  ∃ content, content.size = size ∧
    outcome.screen.getLast? = some (.output, writtenText options "Would write" content)

/-- No other number is reported. -/
theorem Outcome.reports_iff {outcome : Outcome} {content : ByteArray}
    (last : outcome.screen.getLast? = some (.output, writtenText options "Would write" content))
    (size : Nat) : outcome.Reports options size ↔ size = content.size := by
  constructor
  · rintro ⟨other, rfl, lastToo⟩
    exact writtenText_injective (Prod.mk.inj (Option.some.inj (lastToo.symm.trans last))).2
  · rintro rfl
    exact ⟨content, rfl, last⟩

/-! Command lines. -/

/-- A check leaves all files as they are. -/
theorem store_validate (store : Store) (options : ValidateOptions) :
    (validate store options).store = store := by
  rw [validate]
  split
  · split
    · rw [judge]
      split <;> rfl
    · rfl
  · rfl
  · rfl

/-- So does a summary. -/
theorem store_info (store : Store) (input : List String) : (info store input).store = store := by
  rw [info]
  split <;> rfl

/-- The places of a conversion hold no bracket that begins a tag. -/
structure ConvertOptions.HasNoBrackets (options : ConvertOptions) : Prop where
  input : ∀ part ∈ options.input, '[' ∉ part.toList
  output : ∀ place, options.output = some place → ∀ part ∈ place, '[' ∉ part.toList

/-- Plain places without brackets are clear. -/
theorem ConvertOptions.NamesPlain.namesClear (plain : options.NamesPlain)
    (free : options.HasNoBrackets) : options.NamesClear where
  input part member := ⟨plain.input part member, free.input part member⟩
  output place given part member :=
    ⟨plain.output place given part member, free.output place given part member⟩

/-- What is written is the whole text of the schema and goes where nothing is lost unasked; what is
counted is what would be written; and a failure leaves nothing, except for a text that breaks off. -/
structure ConvertOptions.IsWhole (options : ConvertOptions) (store : Store) (outcome : Outcome)
    (width : Nat) : Prop where
  dry : options.dryRun = true → outcome.store = store
  others : ∀ place, place ≠ options.outputPlace →
    outcome.store.entryAt? place = store.entryAt? place
  failed : outcome.exitCode width ≠ 0 → (outcome.store = store ↔ ¬ options.BreaksOff store)
  broken : options.BreaksOff store →
    outcome.store.file? options.outputPlace = some .empty ∧ outcome.exitCode width = 1
  allowed : outcome.exitCode width = 0 → options.dryRun = false →
    store.entryAt? options.outputPlace = none ∨ options.force = true
  written : outcome.exitCode width = 0 → options.dryRun = false → ∃ config schema text content,
    store.loadConfig (options.config.map Path.ofPlace) options.overrides = .ok config ∧
    store.loadSchema (Path.ofPlace options.input) = .ok schema ∧
    (schema.convert config options.moduleName).result = .ok text ∧
    Text.encode text = .ok content ∧ outcome.store.file? options.outputPlace = some content
  counted : outcome.exitCode width = 0 → options.dryRun = true →
    let real := convert store { options with dryRun := false, force := true }
    ∃ content, (∀ size, outcome.Reports options size ↔ size = content.size) ∧
      (real.exitCode width = 0 ↔ ∃ left, store.write options.outputPlace content = .ok left) ∧
      (real.exitCode width = 0 → real.store.file? options.outputPlace = some content)

/-- A conversion whose places hold no brackets is whole. -/
theorem isWhole_convert (clear : options.NamesClear) (width : Nat) :
    options.IsWhole store (convert store options) width where
  dry := store_convert_of_dryRun
  others place differs := by
    have ends := endsIn_convert store options
    generalize convert store options = outcome at ends ⊢
    cases ends with
    | stopped | counted => rfl
    | written _ _ writes | emptied _ _ _ _ writes =>
        exact (Store.entryAt?_of_write writes).2 place differs
  failed := store_convert_eq_iff_of_exitCode clear
  broken taken := convert_of_breaksOff taken width
  allowed good wet := by
    obtain ⟨text, content, delivers, -⟩ := (exitCode_convert_eq_zero_iff_of_wet clear wet).1 good
    have free := delivers.allowed
    rw [ConvertOptions.isBlocked, wet] at free
    cases there : store.entryAt? options.outputPlace with
    | none => exact .inl rfl
    | some entry => exact .inr (by simpa [there] using free)
  written good wet := by
    obtain ⟨text, content, delivers, writes⟩ :=
      (exitCode_convert_eq_zero_iff_of_wet clear wet).1 good
    obtain ⟨config, schema, configured, loaded, gives⟩ := delivers.converts
    exact ⟨config, schema, text, content, configured, loaded, gives, delivers.encodes,
      (Store.entryAt?_of_write writes).1⟩
  counted good dry := by
    obtain ⟨text, content, delivers⟩ := (exitCode_convert_eq_zero_iff_of_dry clear dry).1 good
    have last := getLast?_screen_of_delivers dry delivers
    -- With force nothing blocks the other run, and both read the same files.
    let real := { options with dryRun := false, force := true }
    have realDelivers : real.Delivers store text content :=
      ⟨by simp [real, ConvertOptions.isBlocked], delivers.converts, delivers.encodes⟩
    have realClear : real.NamesClear := ⟨clear.input, clear.output⟩
    have ends := @exitCode_convert_eq_zero_iff_of_wet store real width realClear rfl
    have writes (good : (convert store real).exitCode width = 0) :
        store.write options.outputPlace content = .ok (convert store real).store := by
      obtain ⟨other, contentToo, deliversToo, writes⟩ := ends.1 good
      rwa [deliversToo.unique realDelivers] at writes
    refine ⟨content, Outcome.reports_iff last, ⟨fun good => ⟨_, writes good⟩, ?_⟩, fun good => ?_⟩
    · rintro ⟨left, written⟩
      refine ends.2 ⟨text, content, realDelivers, ?_⟩
      rw [store_convert_of_write rfl realDelivers written]
      exact written
    · exact (Store.entryAt?_of_write (writes good)).1

/-- No other command changes a file. -/
theorem store_run_of_ne (words : List String)
    (other : ∀ options, Request.ofWords? store words ≠ some (.convert options)) :
    (run store words).store = store := by
  rw [run]
  cases asks : Request.ofWords? store words with
  | none => rfl
  | some request =>
      cases request with
      | version | help => rfl
      | validate options => exact store_validate store options
      | info input => exact store_info store input
      | convert options => exact absurd asks (other options)

/-- Only a conversion changes a file, and it writes its text whole or not at all unless the text has
no bytes. -/
theorem run_isWhole (here : ∀ part ∈ store.here, IsPlain part) (words : List String)
    (free : ∀ options, Request.ofWords? store (words.map Text.ofString) = some (.convert options) →
      options.HasNoBrackets) (width : Nat) :
    let outcome := run store (words.map Text.ofString)
    ((∀ options, Request.ofWords? store (words.map Text.ofString) ≠ some (.convert options)) →
      outcome.store = store) ∧
    ∀ options, Request.ofWords? store (words.map Text.ofString) = some (.convert options) →
      options.IsWhole store outcome width := by
  intro outcome
  refine ⟨store_run_of_ne _, fun options asks => ?_⟩
  have plain : ∀ word ∈ words.map Text.ofString, IsPlain word :=
    List.forall_mem_map.2 fun word _ => ⟨word, rfl⟩
  have same : outcome = convert store options := by
    simp only [outcome, run, asks]
    rfl
  rw [same]
  exact isWhole_convert ((namesPlain_of_ofWords? here plain asks).namesClear (free options asks)) width

/-- A directory with one schema. -/
def deskWith (schema : String) : Store :=
  ((Store.empty ["desk"]).put ["desk"] .directory).put ["desk", "trade.json"]
    (.file schema.toUTF8)

/-- A directory with the schema of one class. -/
def desk : Store :=
  deskWith "\x7b\"decls\": [\x7b\"kind\": \"class\", \"name\": \"Trade\"\x7d]\x7d"

def deskWords : List String := ["convert", "trade.json", "-m", "Model"]

def deskOptions : ConvertOptions :=
  ⟨["desk", "trade.json"], "Model", none, none, false, false, false, false⟩

/-- The desk has a plain name. -/
theorem isPlain_here_deskWith (schema : String) : ∀ part ∈ (deskWith schema).here, IsPlain part :=
  List.forall_mem_singleton.2 (.of_free (by decide))

/-- These words ask for nothing else on the desk. -/
theorem hasNoBrackets_of_asks {schema : String}
    (asks : Request.ofWords? (deskWith schema) (deskWords.map Text.ofString) =
      some (.convert deskOptions)) (options : ConvertOptions)
    (given : Request.ofWords? (deskWith schema) (deskWords.map Text.ofString) =
      some (.convert options)) : options.HasNoBrackets := by
  obtain rfl := Request.convert.inj (Option.some.inj (asks.symm.trans given))
  exact ⟨by decide, by simp [deskOptions]⟩

theorem run_isWhole_desk :
    (∀ part ∈ desk.here, IsPlain part) ∧ deskOptions.HasNoBrackets ∧
      Request.ofWords? desk (deskWords.map Text.ofString) = some (.convert deskOptions) ∧
      ∀ width, deskOptions.IsWhole desk (run desk (deskWords.map Text.ofString)) width := by
  have asks : Request.ofWords? desk (deskWords.map Text.ofString) = some (.convert deskOptions) := by
    decide +kernel
  have here : ∀ part ∈ desk.here, IsPlain part := isPlain_here_deskWith _
  have free := hasNoBrackets_of_asks asks
  exact ⟨here, free deskOptions asks, asks,
    fun width => (run_isWhole here deskWords free width).2 deskOptions asks⟩

/-- A directory with the schema of a class whose annotation is half a character. -/
def halfDesk : Store :=
  deskWith ("\x7b\"decls\": [\x7b\"kind\": \"class\", \"name\": \"Trade\", " ++
    "\"annotation\": \"\\ud800\"\x7d]\x7d")

/-- A conversion of this schema breaks off. -/
theorem breaksOff_halfDesk : deskOptions.BreaksOff halfDesk where
  wet := rfl
  allowed := by decide +kernel
  broken := by
    have computed : (deskOptions.text? halfDesk).map Text.hasHalf = some true := by decide +kernel
    obtain ⟨text, converts, half⟩ := Option.map_eq_some_iff.1 computed
    exact ⟨text, ConvertOptions.text?_eq_some_iff.1 converts, half⟩
  taken := by
    have written : (halfDesk.write deskOptions.outputPlace .empty).toOption.isSome = true := by
      decide +kernel
    obtain ⟨left, writes⟩ := Option.isSome_iff_exists.1 written
    exact ⟨left, toOption_eq_some_iff.1 writes⟩
  filled := by
    have missing : (halfDesk.file? deskOptions.outputPlace).isNone = true := by decide +kernel
    rw [Option.isNone_iff_eq_none.1 missing]
    simp

/-- Half a character in an annotation leaves an empty file behind a conversion that fails. -/
theorem not_forall_keepsStore :
    ¬ ∃ width, ∀ (store : Store) (words : List String),
      (∀ part ∈ store.here, IsPlain part) →
      (∀ options, Request.ofWords? store (words.map Text.ofString) = some (.convert options) →
        options.HasNoBrackets) →
      (run store (words.map Text.ofString)).exitCode width ≠ 0 →
        (run store (words.map Text.ofString)).store = store := by
  rintro ⟨width, always⟩
  have asks : Request.ofWords? halfDesk (deskWords.map Text.ofString) =
      some (.convert deskOptions) := by
    decide +kernel
  have same : run halfDesk (deskWords.map Text.ofString) = convert halfDesk deskOptions := by
    rw [run, asks]
    rfl
  have kept := always halfDesk deskWords (isPlain_here_deskWith _) (hasNoBrackets_of_asks asks)
  rw [same] at kept
  obtain ⟨emptied, fails⟩ := convert_of_breaksOff breaksOff_halfDesk width
  rw [fails] at kept
  rw [kept (by decide)] at emptied
  exact breaksOff_halfDesk.filled emptied

end Command

end RosettaDaml
