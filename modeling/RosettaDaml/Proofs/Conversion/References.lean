/-
This file says which references of a module lead to what the schema declares under their type.
-/

import RosettaDaml.Proofs.Conversion.Outcome
import RosettaDaml.Proofs.Naming

namespace RosettaDaml

/-- The name that a schema gives to a class or an enum. -/
def Decl.identifier : Decl → Option String
  | .classDecl decl => some decl.name
  | .enumDecl decl => some decl.name
  | .otherDecl _ => none

theorem Decl.emittedName_eq_some_iff {decl : Decl} {name : String} :
    decl.emittedName = some name ↔
      ∃ given, decl.identifier = some given ∧ renameType given = name := by
  cases decl <;> simp [emittedName, identifier]

/-- A simple type names a declaration only by being that name. -/
theorem TypeExpr.mem_nominalNames_iff {type : TypeExpr} (simple : type.isSimple = true)
    {name : String} : name ∈ type.nominalNames ↔ type = .nominal name := by
  cases type with
  | nominal given => simp [nominalNames, eq_comm]
  | primitive _ => simp [nominalNames]
  | product _ => simp [isSimple] at simple
  | enumeration _ => simp [isSimple] at simple
  | sum _ => simp [isSimple] at simple
  | unknown _ => simp [isSimple] at simple

/-- Among declarations of different names, each one is the only one of its name. -/
theorem filter_name_eq_singleton {declarations : List Declaration} {declaration : Declaration}
    (distinct : (declarations.map Declaration.name).Nodup) (member : declaration ∈ declarations) :
    (declarations.filter fun other => other.name == declaration.name) = [declaration] := by
  obtain ⟨before, after, rfl⟩ := List.append_of_mem member
  rw [List.map_append, List.map_cons, List.nodup_append] at distinct
  obtain ⟨-, behind, apart⟩ := distinct
  have none (others : List Declaration)
      (differ : ∀ other ∈ others, other.name ≠ declaration.name) :
      (others.filter fun other => other.name == declaration.name) = [] := by
    rw [List.filter_eq_nil_iff]
    intro other inside
    simpa using differ other inside
  rw [List.filter_append, List.filter_cons_of_pos (by simp), none before, none after,
    List.nil_append]
  · intro other inside same
    exact (List.nodup_cons.1 behind).1 (same ▸ List.mem_map_of_mem inside)
  · intro other inside same
    exact apart other.name (List.mem_map_of_mem inside) declaration.name List.mem_cons_self same

namespace Schema

/-- A reference keeps its target when a class or an enum of exactly the declared type is kept and
no other declaration has the name of the one that is emitted for it. -/
def KeepsTarget (schema : Schema) (model : Module) (member : Member TypeExpr) (name : String) :
    Prop :=
  ∃ position decl declaration, KeptAt schema.decls position decl ∧
    decl.identifier = member.origin.bind FieldOrigin.typeName ∧
    schema.Declares decl declaration ∧
    (model.declarations.filter fun other => other.name == name) = [declaration]

/-- A class or an enum takes in a reference to a type that is not declared, because renaming gives
both names the same form. -/
inductive CapturesReference (schema : Schema) : Prop where
  | intro {position place : Nat} {decl : ClassDecl} {other : Decl} {fields : List ClassField}
      {field : ClassField} {type given : String}
      (kept : KeptAt schema.decls position (.classDecl decl))
      (has : schema.HasRecordFields decl fields) (member : field ∈ fields)
      (typed : field.type = some type) (refers : field.Refers (renameType type))
      (undeclared : ∀ (place : Nat) (other : Decl), KeptAt schema.decls place other →
        other.identifier ≠ some type)
      (keptToo : KeptAt schema.decls place other) (named : other.identifier = some given)
      (partners : ArePartners type given)

theorem type_toMember_eq_nominal_iff {field : ClassField} {name : String} :
    field.toMember.type = .nominal name ↔ field.Refers name := by
  rw [← mem_nominalNames_toMember, TypeExpr.mem_nominalNames_iff (isSimple_toMember field)]

section Emitted

variable {schema : Schema} (acyclic : schema.Acyclic) (config : Config) (name : String)

include acyclic

/-- A nominal member of a declaration comes from a field of a kept class. -/
theorem exists_field_of_nominal {declaration : Declaration}
    (member : declaration ∈ (schema.moduleOf config name).declarations) {part : Member TypeExpr}
    (inside : part ∈ declaration.members) {given : String} (nominal : part.type = .nominal given) :
    ∃ position decl fields field, KeptAt schema.decls position (.classDecl decl) ∧
      schema.HasRecordFields decl fields ∧ field ∈ fields ∧ part = field.toMember ∧
      field.Refers given := by
  obtain ⟨position, decl, kept, declares⟩ :=
    (schema.mem_declarations_iff acyclic config name).1 member
  cases declares with
  | enumeration _ => simp [Declaration.members] at inside
  | @record decl fields has =>
      obtain ⟨field, isField, rfl⟩ := List.mem_map.1 inside
      exact ⟨position, decl, fields, field, kept, has, isField, rfl,
        type_toMember_eq_nominal_iff.1 nominal⟩

/-- What is kept under a name is the only declaration of the name it is emitted under. -/
theorem exists_filter_eq_singleton (distinct : (schema.moduleOf config name).declarationNames.Nodup)
    {position : Nat} {decl : Decl} (kept : KeptAt schema.decls position decl) {given : String}
    (named : decl.emittedName = some given) :
    ∃ declaration, schema.Declares decl declaration ∧
      ((schema.moduleOf config name).declarations.filter fun other => other.name == given) =
        [declaration] := by
  obtain ⟨declaration, -, declares⟩ := declarationOf?_ofSchema acyclic kept.interpreted
  obtain rfl := Option.some.inj (declares.emittedName.symm.trans named)
  exact ⟨declaration, declares,
    filter_name_eq_singleton distinct (schema.mem_declarations acyclic config name kept declares)⟩

section Accepted

variable (accepted : ¬ schema.Rejected config.strict)

include accepted

/-- The checks ask for something that is kept and emitted under the name of a reference. -/
theorem exists_emittedName_of_nominal {declaration : Declaration}
    (member : declaration ∈ (schema.moduleOf config name).declarations) {part : Member TypeExpr}
    (inside : part ∈ declaration.members) {given : String} (nominal : part.type = .nominal given) :
    ∃ place other, KeptAt schema.decls place other ∧ other.emittedName = some given := by
  obtain ⟨_, _, _, _, kept, has, isField, rfl, refers⟩ :=
    exists_field_of_nominal acyclic config name member inside nominal
  by_contra undeclared
  exact accepted (.unresolvedType kept has isField refers fun place other keptToo named =>
    undeclared ⟨place, other, keptToo, named⟩)

theorem keepsTarget_of_not_capturesReference (free : ¬ schema.CapturesReference)
    {declaration : Declaration}
    (member : declaration ∈ (schema.moduleOf config name).declarations) {part : Member TypeExpr}
    (inside : part ∈ declaration.members) {given : String} (nominal : part.type = .nominal given) :
    schema.KeepsTarget (schema.moduleOf config name) part given := by
  have distinct := (schema.isConsistent_of_not_rejected acyclic config name accepted).distinctNames
  obtain ⟨_, _, _, field, kept, has, isField, rfl, refers⟩ :=
    exists_field_of_nominal acyclic config name member inside nominal
  obtain ⟨-, type, typed, -, rfl⟩ := id refers
  by_cases declared : ∃ place other, KeptAt schema.decls place other ∧
      other.identifier = some type
  · obtain ⟨place, target, keptHere, identified⟩ := declared
    obtain ⟨emitted, declares, only⟩ := exists_filter_eq_singleton acyclic config name distinct
      keptHere (Decl.emittedName_eq_some_iff.2 ⟨type, identified, rfl⟩)
    exact ⟨place, target, emitted, keptHere, identified.trans typed.symm, declares, only⟩
  · -- What the checks found has another identifier, so that renaming alone made the two one.
    obtain ⟨place, other, keptToo, named⟩ :=
      exists_emittedName_of_nominal acyclic config name accepted member inside nominal
    obtain ⟨identifier, identified, renamed⟩ := Decl.emittedName_eq_some_iff.1 named
    refine absurd (.intro kept has isField typed refers (fun place other keptHere same =>
      declared ⟨place, other, keptHere, same⟩) keptToo identified ?_) free
    refine (renameType_eq_renameType_iff.1 renamed.symm).resolve_left fun same => ?_
    exact declared ⟨place, other, keptToo, same ▸ identified⟩

end Accepted

/-- A reference that is captured has lost its target. -/
theorem not_capturesReference_of_keepsTarget
    (keeps : ∀ declaration ∈ (schema.moduleOf config name).declarations,
      ∀ member ∈ declaration.members, ∀ given, member.type = .nominal given →
        schema.KeepsTarget (schema.moduleOf config name) member given) :
    ¬ schema.CapturesReference := by
  rintro ⟨kept, has, isField, typed, refers, undeclared, -, -, -⟩
  obtain ⟨place, other, _, keptToo, same, -, -⟩ := keeps _
    (schema.mem_declarations acyclic config name kept (.record has)) _
    (List.mem_map_of_mem isField) _ (type_toMember_eq_nominal_iff.2 refers)
  exact undeclared place other keptToo (same.trans typed)

end Emitted

/-- In a module that is built, each reference leads to exactly one declaration. All of them lead to
what is declared under their type exactly when no reference is captured. -/
theorem references_of_build {schema : Schema} {config : Config} {name : String} {model : Module}
    (built : (schema.build config name).result = .ok model) :
    (∀ declaration ∈ model.declarations, ∀ member ∈ declaration.members, ∀ given,
      member.type = .nominal given →
        ∃ target, (model.declarations.filter fun other => other.name == given) = [target]) ∧
    ((∀ declaration ∈ model.declarations, ∀ member ∈ declaration.members, ∀ given,
      member.type = .nominal given → schema.KeepsTarget model member given) ↔
        ¬ schema.CapturesReference) := by
  obtain ⟨acyclic, accepted, rfl⟩ := result_build_eq_ok_iff.1 built
  have distinct := (schema.isConsistent_of_not_rejected acyclic config name accepted).distinctNames
  refine ⟨fun declaration member part inside given nominal => ?_, ?_, ?_⟩
  · obtain ⟨_, _, keptToo, named⟩ :=
      exists_emittedName_of_nominal acyclic config name accepted member inside nominal
    obtain ⟨target, -, only⟩ :=
      exists_filter_eq_singleton acyclic config name distinct keptToo named
    exact ⟨target, only⟩
  · exact not_capturesReference_of_keepsTarget acyclic config name
  · intro free declaration member part inside given nominal
    exact keepsTarget_of_not_capturesReference acyclic config name accepted free member inside
      nominal

theorem references_of_build_layered :
    ∃ model, (layered.build .standard "Model").result = .ok model ∧
      (∀ declaration ∈ model.declarations, ∀ member ∈ declaration.members, ∀ given,
        member.type = .nominal given →
          ∃ target, (model.declarations.filter fun other => other.name == given) = [target]) ∧
      ((∀ declaration ∈ model.declarations, ∀ member ∈ declaration.members, ∀ given,
        member.type = .nominal given → layered.KeepsTarget model member given) ↔
          ¬ layered.CapturesReference) := by
  have built : (layered.build .standard "Model").result =
      .ok (layered.moduleOf .standard "Model") := rfl
  exact ⟨_, built, references_of_build built⟩

/-- A field whose type is the renamed form of a class of another name. -/
def captured : Schema where
  namespaceName := none
  decls := [
    .classDecl ⟨"Party", none, [], .empty, none, by decide⟩,
    .classDecl ⟨"Trade", none, [⟨"owner", some "PartyData", .one, .empty, none, by decide⟩],
      .empty, none, by decide⟩]

/-- Not every reference keeps its target: a type that is not declared may be what a class is renamed
to. -/
theorem not_forall_keepsTarget :
    ¬ ∀ (schema : Schema) (config : Config) (name : String) (model : Module),
      (schema.build config name).result = .ok model →
        ∀ declaration ∈ model.declarations, ∀ member ∈ declaration.members, ∀ given,
          member.type = .nominal given → schema.KeepsTarget model member given := by
  intro always
  have built : (captured.build .standard "Model").result =
      .ok (captured.moduleOf .standard "Model") := rfl
  obtain ⟨position, decl, _, kept, identified, -, -⟩ := always _ _ _ _ built
    ((captured.moduleOf .standard "Model").declarations.get ⟨1, by decide⟩) (List.get_mem _ _)
    ⟨"owner", .nominal "PartyData", .exactlyOne, none, some ⟨"owner", some "PartyData"⟩⟩
    List.mem_cons_self "PartyData" rfl
  have stands := List.mem_of_getElem? kept.stands
  simp only [captured, List.mem_cons, List.not_mem_nil, or_false] at stands
  rcases stands with rfl | rfl
  · exact absurd identified (by decide)
  · exact absurd identified (by decide)

end Schema

end RosettaDaml
