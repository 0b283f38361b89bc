/-
This file shows that a conversion depends on nothing but the essential part of a schema.
-/

import Mathlib.Data.List.Find
import RosettaDaml.Proofs.Conversion.Outcome
import RosettaDaml.Proofs.Conversion.Unseen

namespace RosettaDaml

namespace TagSet

/-- The tags of a set that are among the chosen ones. -/
def only (set : TagSet) (chosen : List String) : TagSet :=
  ⟨set.tags.filter fun tag => chosen.contains tag, set.sorted.filter _⟩

/-- A chosen tag is there when it was. -/
theorem contains_only {chosen : List String} {tag : String} (known : tag ∈ chosen) (set : TagSet) :
    (set.only chosen).contains tag = set.contains tag := by
  rw [Bool.eq_iff_iff, contains, contains, List.contains_iff_mem, List.contains_iff_mem, only,
    List.mem_filter, List.contains_iff_mem]
  exact and_iff_left known

end TagSet

/-! What is left of a schema without all that is never interpreted. -/

/-- A field with those of its tags that make it hold text. -/
def ClassField.essential (field : ClassField) : ClassField :=
  { field with tags := field.tags.only textTags }

/-- What is left of a field is emitted as the field. -/
theorem ClassField.toMember_essential (field : ClassField) :
    field.essential.toMember = field.toMember := by
  have sameText : field.essential.isText = field.isText := by
    rw [Bool.eq_iff_iff, isText, isText, List.any_eq_true, List.any_eq_true]
    refine exists_congr fun tag => and_congr_right fun known => ?_
    rw [essential, TagSet.contains_only known]
  rw [toMember, toMember, sameText]
  rfl

/-- A class with those of its tags that give it a synthetic field. -/
def ClassDecl.essential (decl : ClassDecl) : ClassDecl :=
  { decl with
    fields := decl.fields.map ClassField.essential
    tags := decl.tags.only [keyTag, keyValueTag] }

/-- The tags that are left decide about the synthetic fields. -/
theorem ClassDecl.appliesTo_essential (decl : ClassDecl) :
    ∀ rule ∈ SyntheticRule.all, rule.appliesTo decl.essential = rule.appliesTo decl := by
  intro rule known
  simp only [SyntheticRule.all, List.mem_cons, List.not_mem_nil, or_false] at known
  rcases known with rfl | rfl | rfl | rfl
  · rfl
  · rfl
  · exact TagSet.contains_only (.head _) decl.tags
  · exact TagSet.contains_only (.tail _ (.head _)) decl.tags

/-- So these stay. -/
theorem ClassDecl.syntheticFields_essential (decl : ClassDecl) :
    decl.essential.syntheticFields = decl.syntheticFields := by
  rw [syntheticFields, syntheticFields, SyntheticRule.for?, SyntheticRule.for?,
    List.find?_congr decl.appliesTo_essential]

/-- A value without the name under which it is shown. -/
def EnumValue.essential (value : EnumValue) : EnumValue :=
  { value with displayName := none }

def EnumDecl.essential (decl : EnumDecl) : EnumDecl :=
  { decl with values := decl.values.map EnumValue.essential }

namespace UnseenChange

/-- Tags that no rule asks for and names for display do not show. -/
def essential : UnseenChange where
  classes := ⟨ClassDecl.essential, ClassField.essential, fun _ => rfl, fun _ => rfl, fun _ => rfl⟩
  enums := ⟨EnumDecl.essential, EnumValue.essential, fun _ => rfl, fun _ => rfl, fun _ => rfl⟩
  classAnnotation _ := rfl
  synthetic := ClassDecl.syntheticFields_essential
  zero _ := rfl
  member := ClassField.toMember_essential
  enumAnnotation _ := rfl
  tagged _ := rfl

end UnseenChange

namespace Schema

/-- The last class and the last enum of each name, without namespace, names for display and the
tags that no rule asks for. -/
def essential (schema : Schema) : Schema where
  namespaceName := none
  decls := (Decl.kept schema.decls).map UnseenChange.essential.onDecl

/-- What is left of a schema is the same as far as it is interpreted. -/
theorem relates_essential (schema : Schema) :
    UnseenChange.essential.Relates schema schema.essential := by
  constructor
  · intro name
    have last := Decl.declared?_filterMap_kept Decl.picksKind_class? schema.decls name
    rw [essential, UnseenChange.classes_map, UnseenChange.essential.classes.corresponds_map]
    exact congrArg (Option.map ClassDecl.essential) last
  · intro name
    have last := Decl.declared?_filterMap_kept Decl.picksKind_enum? schema.decls name
    rw [essential, UnseenChange.enums_map, UnseenChange.essential.enums.corresponds_map]
    exact congrArg (Option.map EnumDecl.essential) last

/-- In an essential part everything is kept. -/
theorem kept_essential (schema : Schema) :
    Decl.kept schema.essential.decls = schema.essential.decls := by
  have distinct : schema.essential.decls.Pairwise fun earlier later =>
      later.supersedes earlier = false := by
    refine List.pairwise_map.2 (Decl.pairwise_kept_iff.2 ?_)
    intro first second decl other before keptAt keptToo
    rw [UnseenChange.supersedes_onDecl]
    exact keptAt.last second other before keptToo.stands
  rw [Decl.kept_eq_filter distinct, List.filter_eq_self]
  intro decl member
  obtain ⟨given, inside, rfl⟩ := List.mem_map.1 member
  obtain ⟨position, keptAt⟩ := Decl.mem_kept_iff.1 inside
  rw [UnseenChange.isInterpreted_onDecl, keptAt.interpreted]

/-- The module of a schema is made of its essential part. -/
theorem moduleOf_essential {schema : Schema} (acyclic : schema.Acyclic) (config : Config)
    (name : String) : schema.essential.moduleOf config name = schema.moduleOf config name := by
  have sameDeclaration : (Index.ofSchema schema.essential).declarationOf? ∘
      UnseenChange.essential.onDecl = (Index.ofSchema schema).declarationOf? :=
    funext (schema.relates_essential.declarationOf?_onDecl acyclic)
  rw [moduleOf, moduleOf, moduleWith, moduleWith, kept_essential]
  change Module.mk _ _ (((Decl.kept schema.decls).map _).filterMap _) _ = _
  rw [List.filterMap_map, sameDeclaration]

/-- Without cycles the module decides how a conversion ends. -/
theorem result_convert_of_acyclic {schema : Schema} (acyclic : schema.Acyclic) (config : Config)
    (name : String) :
    (schema.convert config name).result =
      if (schema.moduleOf config name).validate.isAccepted config.strict then
        (Daml.render config (schema.moduleOf config name)).result.mapError .rendering
      else .error (.inconsistent (schema.moduleOf config name).validate) := by
  have accepted_iff := schema.isAccepted_validate_moduleOf_iff acyclic config name config.strict
  by_cases rejected : schema.Rejected config.strict
  · rw [result_convert_of_rejected acyclic rejected,
      if_neg (mt accepted_iff.1 (not_not.2 rejected))]
  · rw [result_convert_of_not_rejected acyclic rejected, if_pos (accepted_iff.2 rejected)]

/-- What is not essential has no influence. Schemas with the same essential part are converted to
the same text or fail with the same report or when they are written, or both have a cycle. -/
theorem convert_of_essential_eq {schema other : Schema} (same : schema.essential = other.essential)
    (config : Config) (name : String) :
    (schema.convert config name).result = (other.convert config name).result ∨
      ∃ failure failureToo, (schema.convert config name).result = .error (.cyclic failure) ∧
        (other.convert config name).result = .error (.cyclic failureToo) := by
  have cyclicToo : other.Acyclic ↔ schema.Acyclic := by
    rw [← other.relates_essential.acyclic_iff, ← same, schema.relates_essential.acyclic_iff]
  by_cases acyclic : schema.Acyclic
  · have sameModule : schema.moduleOf config name = other.moduleOf config name := by
      rw [← moduleOf_essential acyclic, same, moduleOf_essential (cyclicToo.2 acyclic)]
    rw [result_convert_of_acyclic acyclic, result_convert_of_acyclic (cyclicToo.2 acyclic),
      sameModule]
    exact .inl rfl
  · -- Superseded declarations give names their places, so that other cycles may be met first.
    obtain ⟨failure, fails⟩ := exists_convert_cyclic acyclic config name
    obtain ⟨failureToo, failsToo⟩ := exists_convert_cyclic (mt cyclicToo.1 acyclic) config name
    exact .inr ⟨failure, failureToo, fails, failsToo⟩

/-- A class over an undeclared base with a field of an enum, and nothing else. -/
def plain : Schema where
  namespaceName := none
  decls := [
    .classDecl ⟨"Swap", some "Contract",
      [⟨"direction", some "Direction", .one, .empty, none, by decide⟩],
      ⟨[keyTag], by decide⟩, none, by decide⟩,
    .enumDecl ⟨"Direction", none, [⟨"give", none, none, by decide⟩], none, by decide⟩]

/-- The same class and the same enum with a namespace, a declaration of another kind, more tags, a
name for display and an earlier class of the same name that is its own base. -/
def ornate : Schema where
  namespaceName := some "cdm"
  decls := [
    .classDecl ⟨"Swap", some "Swap", [], .empty, some "superseded", by decide⟩,
    .otherDecl ⟨"func", some "Settle", .empty⟩,
    .classDecl ⟨"Swap", some "Contract",
      [⟨"direction", some "Direction", .one, ⟨["scheme"], by decide⟩, none, by decide⟩],
      ⟨["external", keyTag, "template"], by decide⟩, none, by decide⟩,
    .enumDecl ⟨"Direction", none, [⟨"give", some "Given away", none, by decide⟩], none, by decide⟩]

theorem convert_of_essential_eq_ornate :
    ornate.essential = plain.essential ∧ ∃ text,
      (ornate.convert .standard "Model").result = .ok text ∧
      (plain.convert .standard "Model").result = .ok text := by
  have same : ornate.essential = plain.essential := rfl
  have acyclic : plain.Acyclic := (Index.result_build_eq_ok_iff.1 rfl).1
  have accepted : ¬ plain.Rejected false :=
    (isAccepted_validate_moduleOf_iff acyclic .standard "Model" false).1 rfl
  obtain ⟨text, converted⟩ := exists_convert_standard acyclic accepted "Model"
  refine ⟨same, text, ?_, converted⟩
  rcases convert_of_essential_eq same .standard "Model" with alike | ⟨_, _, -, fails⟩
  · exact alike.trans converted
  · exact nomatch converted.symm.trans fails

end Schema

end RosettaDaml
