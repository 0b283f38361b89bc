/-
This file says which schemas and settings come back from their dumps.
-/

import RosettaDaml.Proofs.Schema.Reading

namespace RosettaDaml

open RosettaDaml.Data

namespace TagSet

/-- A tag before all others stays in front. -/
theorem insertSorted_of_first {tag : String} {tags : List String}
    (sorted : (tag :: tags).Pairwise (· < ·)) : insertSorted tag tags = tag :: tags := by
  cases tags with
  | nil => rfl
  | cons first rest => rw [insertSorted, if_pos (List.rel_of_pairwise_cons sorted List.mem_cons_self)]

/-- A set is the set of its own tags. -/
theorem ofList_tags (set : TagSet) : ofList set.tags = set := by
  obtain ⟨tags, sorted⟩ := set
  induction tags with
  | nil => rfl
  | cons tag rest inductionHypothesis =>
      change insert tag (ofList rest) = _
      rw [inductionHypothesis sorted.of_cons]
      exact TagSet.mk.injEq .. ▸ insertSorted_of_first sorted

end TagSet

namespace OrderedMap

variable {Key Content : Type} [DecidableEq Key]

/-- A new key goes to the end. -/
theorem upsert_of_not_mem {key : Key} {content : Content} {entries : List (Key × Content)}
    (absent : key ∉ entries.map Prod.fst) :
    upsert (· == ·) key content entries = entries ++ [(key, content)] := by
  induction entries with
  | nil => rfl
  | cons entry rest inductionHypothesis =>
      rw [List.map_cons, List.mem_cons, not_or] at absent
      rw [upsert, if_neg (by simpa using absent.1), inductionHypothesis absent.2, List.cons_append]

/-- Entries with new keys stay in their order, by induction on the entries. -/
theorem entries_foldl_insert {entries : List (Key × Content)} {built : OrderedMap Key Content}
    (distinct : ((built.entries ++ entries).map Prod.fst).Nodup) :
    (entries.foldl (fun built entry => built.insert entry.1 entry.2) built).entries =
      built.entries ++ entries := by
  induction entries generalizing built with
  | nil => simp
  | cons entry rest inductionHypothesis =>
      have absent : entry.1 ∉ built.entries.map Prod.fst := by
        rw [List.map_append, List.nodup_append] at distinct
        exact fun member => distinct.2.2 _ member _ List.mem_cons_self rfl
      have extended : (built.insert entry.1 entry.2).entries = built.entries ++ [entry] :=
        upsert_of_not_mem absent
      rw [List.foldl_cons, inductionHypothesis (by simpa [extended] using distinct), extended,
        List.append_assoc, List.singleton_append]

/-- A map is built from its own entries. -/
theorem ofList_entries (built : OrderedMap Key Content) : ofList built.entries = built := by
  have distinct : ((empty.entries ++ built.entries).map Prod.fst).Nodup := built.nodup
  have same := entries_foldl_insert distinct
  cases built
  exact OrderedMap.mk.injEq .. ▸ same

end OrderedMap

namespace Reader

variable {Content : Type} {known : List String} {entries : List (String × Value)}

/-- Entries whose keys are texts. -/
def textEntries (entries : List (String × Value)) : Entries :=
  entries.map fun (name, content) => (.text name, content)

/-- A name is found among texts as in the list. -/
theorem find?_textEntries (name : String) (entries : List (String × Value)) :
    Value.find? name (textEntries entries) = entries.lookup name := by
  induction entries with
  | nil => rfl
  | cons entry rest inductionHypothesis =>
      rw [Value.find?] at inductionHypothesis
      rw [List.lookup_cons, ← inductionHypothesis, Value.find?, textEntries, List.map_cons,
        List.find?_cons, Value.sameKey]
      cases name == entry.1 <;> rfl

/-- No key is broken when the names are whole. -/
theorem brokenKey?_textEntries
    (whole : ∀ name ∈ entries.map Prod.fst, Text.hasHalf name = false) :
    brokenKey? (textEntries entries) = none := by
  rw [brokenKey?, Option.map_eq_none_iff, List.find?_eq_none]
  intro entry member
  obtain ⟨entry, given, rfl⟩ := List.mem_map.1 member
  simp [keyText?, whole _ (List.mem_map_of_mem given)]

/-- What is left of the entries are those that are not taken. -/
theorem restOf_textEntries (taken : List String) (entries : List (String × Value)) :
    restOf taken (textEntries entries) =
      (entries.filter fun entry => !taken.contains entry.1).map
        fun entry => (.text entry.1, some entry.1, entry.2) := by
  induction entries with
  | nil => rfl
  | cons entry rest inductionHypothesis =>
      rw [restOf] at inductionHypothesis
      rw [restOf, textEntries, List.map_cons, List.filterMap_cons, ← textEntries,
        inductionHypothesis, List.filter_cons]
      by_cases found : entry.1 ∈ taken <;> simp [keyText?, found]

/-- The keys that are taken are those that are there. -/
theorem takenKeys_textEntries (known : List String) (entries : List (String × Value)) :
    takenKeys known (textEntries entries) = known.filter fun name => (entries.lookup name).isSome := by
  simp [takenKeys, find?_textEntries]

/-- A text is never wrong as a key. -/
theorem openFaults_textEntries : openFaults known (textEntries entries) = [] := by
  simp [openFaults, restOf_textEntries]

/-- Nothing is wrong with keys that are all known. -/
theorem closedFaults_textEntries (allKnown : ∀ name ∈ entries.map Prod.fst, name ∈ known) :
    closedFaults known (textEntries entries) = [] := by
  rw [closedFaults, restOf_textEntries, List.map_eq_nil_iff, List.map_eq_nil_iff,
    List.filter_eq_nil_iff]
  intro entry member
  have isKey := List.mem_map_of_mem (f := Prod.fst) member
  have found : (entries.lookup entry.1).isSome := by
    rw [List.lookup_isSome_iff]
    exact ⟨entry, member, by simp⟩
  simp [takenKeys_textEntries, allKnown _ isKey, found]

/-- A map from texts is read as its entries. -/
theorem unrolled_mapOf (entries : List (String × Value)) :
    (mapOf entries).unrolled = .map (textEntries entries) := rfl

/-- A model with whole keys is read from its entries. -/
theorem model_mapOf {name : String} {body : Entries → Checked Content}
    {further : Entries → List Fault} (keys : List String) (keysAre : entries.map Prod.fst = keys)
    (whole : ∀ name ∈ keys, Text.hasHalf name = false)
    (faultless : further (textEntries entries) = []) :
    model name body further (mapOf entries) = body (textEntries entries) := by
  rw [model, unrolled_mapOf]
  simp only [brokenKey?_textEntries (keysAre ▸ whole), faultless]
  cases body (textEntries entries) <;> simp [Checked.alsoFaults]

/-- A model is read from its entries when its keys are just the known ones. -/
theorem closed_mapOf {name : String} {body : Entries → Checked Content}
    (keysAre : entries.map Prod.fst = known) (whole : ∀ name ∈ known, Text.hasHalf name = false) :
    closed name known body (mapOf entries) = body (textEntries entries) :=
  model_mapOf known keysAre whole (closedFaults_textEntries fun _ member => keysAre ▸ member)

/-- A value that is there is the one that is read. -/
theorem required_textEntries {name : String} {read : Reader Content} {value : Value}
    {content : Content} (found : entries.lookup name = some value)
    (known : read value = .valid content) :
    required name read (textEntries entries) = .valid content := by
  rw [required, find?_textEntries, found]
  exact Checked.within_eq_valid_iff.2 known

/-- A part that is there is read as its value. -/
theorem defaulted_textEntries_iff {name : String} {absent : Content} {read : Reader Content}
    {value : Value} {content : Content} (found : entries.lookup name = some value) :
    defaulted name absent read (textEntries entries) = .valid content ↔
      read value = .valid content := by
  rw [defaulted, find?_textEntries, found]
  exact Checked.within_eq_valid_iff

/-- The same as an equation. -/
theorem defaulted_textEntries {name : String} {absent : Content} {read : Reader Content}
    {value : Value} {content : Content} (found : entries.lookup name = some value)
    (known : read value = .valid content) :
    defaulted name absent read (textEntries entries) = .valid content :=
  (defaulted_textEntries_iff found).2 known

/-- A text is read as itself. -/
theorem text_text (content : String) : text (.text content) = .valid content := rfl

/-- So is a text that may be missing. -/
theorem nullable_text_ofText? (content : Option String) :
    nullable text (.ofText? content) = .valid content := by
  cases content <;> rfl

/-- A whole text that is not empty is read as itself. -/
theorem nonEmptyText_text {content : String} (whole : Text.hasHalf content = false)
    (filled : content ≠ "") : nonEmptyText (.text content) = .valid ⟨content, filled⟩ := by
  simp [nonEmptyText, text, wholeText, whole, Checked.andThen, filled]

/-- An integer from its bound on is read as itself. -/
theorem integerFrom_int {bound number : Nat} (enough : bound ≤ number) :
    integerFrom bound (.int number) = .valid ⟨number, enough⟩ := by
  have inOrder : (bound : Int) ≤ number := Int.ofNat_le.2 enough
  simp [integerFrom, integer, Checked.andThen, inOrder]

/-- The items of a list come back exactly when each of them does, by induction on the items. -/
theorem eachFrom_map_iff {Item : Type} {read : Reader Item} {dump : Item → Value}
    {items : List Item} (position : Nat) :
    eachFrom read position (items.map dump) = .valid items ↔
      ∀ item ∈ items, read (dump item) = .valid item := by
  rw [eachFrom_eq_valid_iff, List.forall₂_map_left_iff, List.forall₂_same]

/-- A list comes back when all its items do. -/
theorem listOf_dumps_iff {Item : Type} {read : Reader Item} {dump : Item → Value}
    {items : List Item} :
    listOf read (.list (items.map dump)) = .valid items ↔
      ∀ item ∈ items, read (dump item) = .valid item :=
  eachFrom_map_iff 0

/-- Tags come back sorted as they were. -/
theorem tagSet_dump (set : TagSet) : tagSet set.dump = .valid set := by
  have opened : tagSet set.dump = (eachFrom text 0 (set.tags.map .text)).map TagSet.ofList := rfl
  have read : eachFrom text 0 (set.tags.map .text) = .valid set.tags :=
    (eachFrom_map_iff 0).2 fun _ _ => rfl
  rw [opened, read, Checked.map, set.ofList_tags]

end Reader

open Checked Reader

/-- Known bounds are in order. -/
theorem Cardinality.checkBounds_bounds (cardinality : Cardinality) (given : Value) :
    checkBounds given cardinality.lower (cardinality.upper.map Int.ofNat) = .valid cardinality := by
  obtain ⟨lower, upper, ordered⟩ := cardinality
  cases upper with
  | none => rfl
  | some upper =>
      have inOrder : (lower : Int) ≤ upper := Int.ofNat_le.2 (ordered upper rfl)
      simp [checkBounds, ofBounds, inOrder]

/-- A cardinality comes back from its bounds. -/
theorem Cardinality.read_dump (cardinality : Cardinality) :
    Cardinality.read cardinality.dump = .valid cardinality := by
  have upperRead : readUpper (dumpUpper (cardinality.upper.map Int.ofNat)) =
      .valid (cardinality.upper.map Int.ofNat) := by
    cases cardinality.upper <;> rfl
  have boundsRead : readEntries cardinality.dump =
      .valid (cardinality.lower, cardinality.upper.map Int.ofNat) := by
    rw [readEntries, dump, closed_mapOf,
      defaulted_textEntries rfl (integerFrom_int (Nat.zero_le cardinality.lower)),
      defaulted_textEntries rfl upperRead]
    · rfl
    · rfl
    · decide +kernel
  have opened : Cardinality.read cardinality.dump =
      (readEntries cardinality.dump).andThen fun bounds =>
        checkBounds cardinality.dump bounds.1 bounds.2 := rfl
  rw [opened, boundsRead]
  exact cardinality.checkBounds_bounds _

/-- A field comes back from the values of its parts. -/
theorem ClassField.read_dump (field : ClassField) (whole : Text.hasHalf field.name = false) :
    ClassField.read field.dump = .valid field := by
  rw [ClassField.read, dump, closed_mapOf,
    required_textEntries rfl (nonEmptyText_text whole field.name_ne_empty),
    defaulted_textEntries rfl (nullable_text_ofText? field.type),
    defaulted_textEntries rfl field.card.read_dump, defaulted_textEntries rfl (tagSet_dump field.tags),
    defaulted_textEntries rfl (nullable_text_ofText? field.annotation)]
  · rfl
  · rfl
  · decide +kernel

/-- A word is read as itself. -/
theorem word_text (expected : String) : word expected (.text expected) = .valid () :=
  if_pos rfl

/-- A class comes back with its fields. -/
theorem ClassDecl.read_dump (decl : ClassDecl) (whole : (Decl.classDecl decl).HasWholeNames) :
    ClassDecl.read decl.dump = .valid decl := by
  have fields : listOf ClassField.read (.list (decl.fields.map ClassField.dump)) =
      .valid decl.fields :=
    listOf_dumps_iff.2 fun field member => field.read_dump (whole.2 field member)
  rw [ClassDecl.read, dump, closed_mapOf, defaulted_textEntries rfl (word_text "class"),
    required_textEntries rfl (nonEmptyText_text whole.1 decl.name_ne_empty),
    defaulted_textEntries rfl (nullable_text_ofText? decl.base),
    defaulted_textEntries rfl fields, defaulted_textEntries rfl (tagSet_dump decl.tags),
    defaulted_textEntries rfl (nullable_text_ofText? decl.annotation)]
  · rfl
  · rfl
  · decide +kernel

/-- A display name is found under the key that it was dumped with. -/
theorem EnumValue.displayKey_textEntries (byAlias : Bool) (name displayName annotation : Value) :
    displayKey (textEntries [("name", name), (displayKeyFor byAlias, displayName),
      ("annotation", annotation)]) = displayKeyFor byAlias := by
  rw [displayKey, find?_textEntries]
  cases byAlias <;> rfl

/-- A value comes back under either name of the name to be displayed. -/
theorem EnumValue.read_dump (byAlias : Bool) (value : EnumValue)
    (whole : Text.hasHalf value.name = false) :
    EnumValue.read (value.dump byAlias) = .valid value := by
  have displayName : (List.lookup (displayKeyFor byAlias)
      [("name", .text value.name), (displayKeyFor byAlias, Value.ofText? value.displayName),
        ("annotation", .ofText? value.annotation)]) = some (.ofText? value.displayName) := by
    cases byAlias <;> rfl
  have annotation : (List.lookup "annotation"
      [("name", .text value.name), (displayKeyFor byAlias, Value.ofText? value.displayName),
        ("annotation", .ofText? value.annotation)]) = some (.ofText? value.annotation) := by
    cases byAlias <;> rfl
  have wholeKeys : ∀ name ∈ ["name", displayKeyFor byAlias, "annotation"],
      Text.hasHalf name = false := by
    cases byAlias <;> decide +kernel
  rw [EnumValue.read, dump, model_mapOf ["name", displayKeyFor byAlias, "annotation"]]
  · rw [displayKey_textEntries,
      required_textEntries rfl (nonEmptyText_text whole value.name_ne_empty),
      defaulted_textEntries displayName (nullable_text_ofText? value.displayName),
      defaulted_textEntries annotation (nullable_text_ofText? value.annotation)]
    rfl
  · rfl
  · exact wholeKeys
  · rw [displayKey_textEntries]
    exact closedFaults_textEntries fun _ member => member

/-- An enum comes back with its values. -/
theorem EnumDecl.read_dump (byAlias : Bool) (decl : EnumDecl)
    (whole : (Decl.enumDecl decl).HasWholeNames) :
    EnumDecl.read (decl.dump byAlias) = .valid decl := by
  have values : listOf EnumValue.read (.list (decl.values.map (EnumValue.dump byAlias))) =
      .valid decl.values :=
    listOf_dumps_iff.2 fun value member => value.read_dump byAlias (whole.2 value member)
  rw [EnumDecl.read, dump, closed_mapOf, defaulted_textEntries rfl (word_text "enum"),
    required_textEntries rfl (nonEmptyText_text whole.1 decl.name_ne_empty),
    defaulted_textEntries rfl (nullable_text_ofText? decl.base),
    defaulted_textEntries rfl values,
    defaulted_textEntries rfl (nullable_text_ofText? decl.annotation)]
  · rfl
  · rfl
  · decide +kernel

/-- The extra keys of a declaration are all that is left beside its kind and its name. -/
theorem openExtras_textEntries (kind name : Value) (extras : OrderedMap String Value)
    (apart : ∀ key ∈ extras.keys, key ∉ ["kind", "name"]) :
    openExtras ["kind", "name"] (textEntries ([("kind", kind), ("name", name)] ++ extras.entries)) =
      extras := by
  have taken : takenKeys ["kind", "name"]
      (textEntries ([("kind", kind), ("name", name)] ++ extras.entries)) = ["kind", "name"] := by
    rw [takenKeys_textEntries]
    rfl
  have kept : extras.entries.filter (fun entry => !(["kind", "name"].contains entry.1)) =
      extras.entries := by
    rw [List.filter_eq_self]
    intro entry member
    simpa using apart entry.1 (List.mem_map_of_mem member)
  rw [openExtras, taken, restOf_textEntries, List.filter_append, kept]
  have listed : (extras.entries.map fun entry =>
      (Value.text entry.1, some entry.1, entry.2)).filterMap
        (fun entry => entry.2.1.map fun name => (name, entry.2.2)) = extras.entries := by
    simp [List.filterMap_map]
  exact (congrArg OrderedMap.ofList listed).trans extras.ofList_entries

/-- Any other declaration comes back with its keys in their order. -/
theorem OtherDecl.read_dump (decl : OtherDecl) (whole : (Decl.otherDecl decl).HasWholeNames) :
    OtherDecl.read decl.dump = .valid decl := by
  have wholeKnown : ∀ name ∈ ["kind", "name"], Text.hasHalf name = false := by decide +kernel
  have wholeKeys : ∀ name ∈ ["kind", "name"] ++ decl.extras.keys, Text.hasHalf name = false :=
    List.forall_mem_append.2 ⟨wholeKnown, fun name member => (whole name member).2⟩
  rw [OtherDecl.read, dump, model_mapOf (["kind", "name"] ++ decl.extras.keys)]
  · rw [required_textEntries rfl (text_text decl.kind),
      defaulted_textEntries rfl (nullable_text_ofText? decl.name),
      openExtras_textEntries _ _ _ fun key member => (whole key member).1]
    rfl
  · exact List.map_append
  · exact wholeKeys
  · exact openFaults_textEntries

namespace Decl

/-- The kind of a map from texts is what it says. -/
theorem kindOf_mapOf {entries : List (String × Value)} (kind : String)
    (found : entries.lookup "kind" = some (.text kind)) :
    kindOf (mapOf entries) =
      if kind = "class" then "class" else if kind = "enum" then "enum" else "other" := by
  rw [kindOf, unrolled_mapOf]
  simp only [find?_textEntries, found]
  split <;> simp_all

/-- A declaration that is kept as it is comes back as one only when its kind is no other. -/
def KeepsKind : Decl → Prop
  | .otherDecl decl => decl.kind ≠ "class" ∧ decl.kind ≠ "enum"
  | _ => True

instance (decl : Decl) : Decidable decl.KeepsKind :=
  match decl with
  | .classDecl _ | .enumDecl _ => inferInstanceAs (Decidable True)
  | .otherDecl decl => inferInstanceAs (Decidable (decl.kind ≠ "class" ∧ decl.kind ≠ "enum"))

/-- A declaration comes back exactly when its dump is read as its kind. -/
theorem read_dump_iff (byAlias : Bool) (decl : Decl) (whole : decl.HasWholeNames) :
    read (decl.dump byAlias) = .valid decl ↔ decl.KeepsKind := by
  cases decl with
  | classDecl decl =>
      have kind : kindOf decl.dump = "class" := kindOf_mapOf "class" rfl
      rw [dump, read, kind]
      simp [KeepsKind, decl.read_dump whole, Checked.map, Checked.within]
  | enumDecl decl =>
      have kind : kindOf (decl.dump byAlias) = "enum" := kindOf_mapOf "enum" rfl
      rw [dump, read, kind]
      simp [KeepsKind, decl.read_dump byAlias whole, Checked.map, Checked.within]
  | otherDecl decl =>
      have kind : kindOf decl.dump = if decl.kind = "class" then "class"
          else if decl.kind = "enum" then "enum" else "other" := kindOf_mapOf decl.kind rfl
      rw [dump, read, kind]
      by_cases isClass : decl.kind = "class"
      · simp [KeepsKind, isClass, within_eq_valid_iff, map_eq_valid_iff]
      · by_cases isEnum : decl.kind = "enum"
        · simp [KeepsKind, isEnum, within_eq_valid_iff, map_eq_valid_iff]
        · simp [KeepsKind, isClass, isEnum, decl.read_dump whole, Checked.map, Checked.within]

end Decl

/-- A schema comes back from its dump exactly when all its declarations keep their kinds. -/
theorem Schema.read_dump_iff (byAlias : Bool) (schema : Schema) (whole : schema.HasWholeNames) :
    Schema.read (schema.dump byAlias) = .valid schema ↔ ∀ decl ∈ schema.decls, decl.KeepsKind := by
  have declsRead : defaulted "decls" [] (listOf Decl.read)
      (textEntries [("namespace", .ofText? schema.namespaceName),
        ("decls", .list (schema.decls.map (Decl.dump byAlias)))]) = .valid schema.decls ↔
      ∀ decl ∈ schema.decls, decl.KeepsKind := by
    rw [defaulted_textEntries_iff rfl, listOf_dumps_iff]
    exact forall₂_congr fun decl member => decl.read_dump_iff byAlias (whole decl member)
  rw [← declsRead, Schema.read, dump, closed_mapOf]
  · rw [defaulted_textEntries rfl (nullable_text_ofText? schema.namespaceName),
      seq_eq_valid_iff]
    constructor
    · rintro ⟨_, decls, ⟨⟩, known, same⟩
      obtain rfl : decls = schema.decls := congrArg Schema.decls same
      exact known
    · intro known
      exact ⟨_, _, rfl, known, rfl⟩
  · rfl
  · decide +kernel

/-- An import comes back from the values of its parts. -/
theorem ImportSpec.read_dump (spec : ImportSpec) (whole : Text.hasHalf spec.moduleName = false) :
    ImportSpec.read spec.dump = .valid spec := by
  rw [ImportSpec.read, dump, closed_mapOf,
    required_textEntries rfl (nonEmptyText_text whole spec.moduleName_ne_empty),
    defaulted_textEntries rfl (nullable_text_ofText? spec.qualifiedAs)]
  · rfl
  · rfl
  · decide +kernel

/-- Settings come back from their dump. -/
theorem Config.read_dump (config : Config)
    (whole : ∀ spec ∈ config.imports, Text.hasHalf spec.moduleName = false) :
    Config.read config.dump = .valid config := by
  have ribbonsRead : realFrom 1 (.float config.ribbonsPerLine) =
      .valid ⟨config.ribbonsPerLine, config.ribbonsPerLine_ge⟩ := by
    simp [realFrom, real, Checked.andThen, config.ribbonsPerLine_ge]
  have policyRead : EmptyVariantPolicy.read (.text config.emptyVariant.name) =
      .valid config.emptyVariant := by
    cases config.emptyVariant <;> rfl
  have strictRead : boolean (.bool config.strict) = .valid config.strict := rfl
  have importsRead : listOf ImportSpec.read (.list (config.imports.map ImportSpec.dump)) =
      .valid config.imports :=
    listOf_dumps_iff.2 fun spec member => spec.read_dump (whole spec member)
  rw [Config.read, dump, closed_mapOf,
    defaulted_textEntries rfl (integerFrom_int config.lineLength_ge),
    defaulted_textEntries rfl ribbonsRead, defaulted_textEntries rfl policyRead,
    defaulted_textEntries rfl strictRead, defaulted_textEntries rfl importsRead]
  · rfl
  · rfl
  · decide +kernel

/-! What comes back. -/

/-- A schema comes back when it is what is read from its dump. A value that contains itself is dumped
as what it is. -/
def Schema.ComesBack (schema : Schema) (byAlias : Bool) : Prop :=
  read (schema.dump byAlias) = .valid schema

def Config.ComesBack (config : Config) : Prop := read config.dump = .valid config

/-- Settings that were read always come back, and a schema that was read does unless one of the
declarations it keeps as they are has the kind of another sort. -/
theorem Schema.comesBack_of_read {given settings : Value} {schema : Schema} {config : Config}
    (known : Schema.read given = .valid schema) (set : Config.read settings = .valid config)
    (byAlias : Bool) :
    (schema.ComesBack byAlias ↔ ∀ decl ∈ schema.decls, decl.KeepsKind) ∧ config.ComesBack :=
  ⟨schema.read_dump_iff byAlias (Schema.hasWholeNames_of_read known),
    config.read_dump (Config.hasHalf_moduleName_of_read set)⟩

/-- A schema with a declaration of each sort, and with a value that contains itself. -/
def Schema.varied : Schema :=
  ⟨some "org.example",
    [.classDecl ⟨"Deal", none, [⟨"parties", none, ⟨1, none, by simp⟩, .ofList ["id", "key"], none,
        by decide⟩], .empty, none, by decide⟩,
      .enumDecl ⟨"Side", none, [⟨"BUY", some "Buy", none, by decide⟩], none, by decide⟩,
      .otherDecl ⟨"rule", none,
        ⟨[("when", .text "always"), ("after", .loop 0 (.list [.int 1, .again 0]))], by decide⟩⟩]⟩

/-- Settings that differ from the standard ones. -/
def Config.importing : Config :=
  { Config.standard with strict := true, imports := [⟨"Base", some "B", by decide⟩] }

theorem Schema.comesBack_of_read_mixed :
    (Schema.read (Schema.varied.dump true) = .valid .varied ∧
      Config.read Config.importing.dump = .valid .importing) ∧
      (Schema.varied.ComesBack true ∧ Schema.varied.ComesBack false) ∧ Config.importing.ComesBack := by
  have whole : Schema.varied.HasWholeNames := by decide +kernel
  have kept : ∀ decl ∈ Schema.varied.decls, decl.KeepsKind := by decide +kernel
  have known : Schema.read (Schema.varied.dump true) = .valid .varied :=
    (Schema.read_dump_iff true .varied whole).2 kept
  have set : Config.read Config.importing.dump = .valid .importing :=
    Config.importing.read_dump (by decide +kernel)
  have first := Schema.comesBack_of_read known set true
  have second := Schema.comesBack_of_read known set false
  exact ⟨⟨known, set⟩, ⟨first.1.2 kept, second.1.2 kept⟩, first.2⟩

/-- Data with a kind that is given in bytes, which counts as text but as none of the fixed words. -/
def Schema.bytesKindData : Value :=
  mapOf [("decls", .list
    [mapOf [("kind", .bytes [0x63, 0x6C, 0x61, 0x73, 0x73]), ("name", .text "A")]])]

theorem Schema.not_forall_comesBack :
    ¬ ∀ (given : Value) (schema : Schema) (byAlias : Bool),
      Schema.read given = .valid schema → schema.ComesBack byAlias := by
  intro always
  have known : Schema.read Schema.bytesKindData =
      .valid ⟨none, [.otherDecl ⟨"class", some "A", .empty⟩]⟩ := rfl
  have kept := (Schema.read_dump_iff false _ (Schema.hasWholeNames_of_read known)).1
    (always _ _ false known) _ List.mem_cons_self
  exact kept.1 rfl

end RosettaDaml
