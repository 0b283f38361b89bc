/-
This file says that a list holds what stands at certain places, in the order of the places.
-/

import Mathlib.Data.List.Pairwise
import Mathlib.Data.List.Perm.Basic

namespace RosettaDaml

/-- A place is a way down through numbered parts. It comes behind the places around it, and of two
parts the one with the smaller number comes first. -/
def ComesFirst (place other : List Nat) : Prop := List.Lex (· < ·) place other

namespace ComesFirst

/-- Of two places at most one comes first. -/
theorem asymm {place other : List Nat} (first : ComesFirst place other) :
    ¬ ComesFirst other place :=
  List.lex_asymm (fun less => Nat.lt_asymm less) first

/-- No place comes before itself. -/
theorem irrefl (place : List Nat) : ¬ ComesFirst place place := fun first => first.asymm first

/-- A place comes before those inside it. -/
theorem nil_cons (index : Nat) (place : List Nat) : ComesFirst [] (index :: place) := .nil

/-- The first difference decides. -/
theorem of_lt {index later : Nat} (less : index < later) (place other : List Nat) :
    ComesFirst (index :: place) (later :: other) :=
  .rel less

/-- What two places share does not. -/
theorem cons {place other : List Nat} (first : ComesFirst place other) (index : Nat) :
    ComesFirst (index :: place) (index :: other) :=
  List.Lex.cons first

end ComesFirst

/-- A list holds exactly what stands at some places, each place once and in order. -/
def ListsInOrder {Item : Type} (stands : List Nat → Item → Prop) (items : List Item) : Prop :=
  ∃ placed : List (List Nat × Item), placed.map Prod.snd = items ∧
    placed.Pairwise (fun first second => ComesFirst first.1 second.1) ∧
    ∀ place item, (place, item) ∈ placed ↔ stands place item

/-- What stands in one of some parts, below the number of that part. -/
def StandsIn {Part Item : Type} (parts : List Part) (stands : Part → List Nat → Item → Prop)
    (place : List Nat) (item : Item) : Prop :=
  ∃ index part way, place = index :: way ∧ parts[index]? = some part ∧ stands part way item

namespace ListsInOrder

variable {Part Item Result : Type} {stands other : List Nat → Item → Prop} {items others : List Item}

/-- What is listed is what stands somewhere. -/
theorem mem_iff (listed : ListsInOrder stands items) (item : Item) :
    item ∈ items ↔ ∃ place, stands place item := by
  obtain ⟨placed, rfl, -, exact⟩ := listed
  constructor
  · intro member
    obtain ⟨⟨place, _⟩, inside, rfl⟩ := List.mem_map.1 member
    exact ⟨place, (exact _ _).1 inside⟩
  · rintro ⟨place, here⟩
    exact List.mem_map.2 ⟨(place, item), (exact _ _).2 here, rfl⟩

/-- There is no other list of the same items in order. -/
theorem unique (listed : ListsInOrder stands items) (listedToo : ListsInOrder stands others) :
    items = others := by
  obtain ⟨placed, rfl, ordered, exact⟩ := listed
  obtain ⟨placedToo, rfl, orderedToo, exactToo⟩ := listedToo
  have distinct {pairs : List (List Nat × Item)}
      (sorted : pairs.Pairwise fun first second => ComesFirst first.1 second.1) : pairs.Nodup := by
    refine List.Pairwise.imp ?_ sorted
    rintro pair _ first rfl
    exact ComesFirst.irrefl pair.1 first
  have same : placed.Perm placedToo :=
    (List.perm_ext_iff_of_nodup (distinct ordered) (distinct orderedToo)).2 fun pair =>
      (exact pair.1 pair.2).trans (exactToo pair.1 pair.2).symm
  rw [same.eq_of_pairwise (fun _ _ _ _ first second => absurd second first.asymm) ordered
    orderedToo]

/-- The same list serves for a relation that is the same. -/
theorem congr (listed : ListsInOrder stands items)
    (same : ∀ place item, stands place item ↔ other place item) : ListsInOrder other items := by
  obtain ⟨placed, rfl, ordered, exact⟩ := listed
  exact ⟨placed, rfl, ordered, fun place item => (exact place item).trans (same place item)⟩

/-- Nothing is listed when nothing stands anywhere. -/
theorem nil (nothing : ∀ place item, ¬ stands place item) : ListsInOrder stands [] :=
  ⟨[], rfl, .nil, fun place item => by simp [nothing place item]⟩

/-- One item stands at one place. -/
theorem single (item : Item) : ListsInOrder (fun place here => place = [] ∧ item = here) [item] :=
  ⟨[([], item)], rfl, List.pairwise_singleton _ _, fun place here => by simp [eq_comm]⟩

/-- A changed list lists the changed items. -/
theorem map (listed : ListsInOrder stands items) (change : Item → Result) :
    ListsInOrder (fun place result => ∃ item, stands place item ∧ change item = result)
      (items.map change) := by
  obtain ⟨placed, rfl, ordered, exact⟩ := listed
  refine ⟨placed.map (Prod.map id change), by simp, ?_, fun place result => ?_⟩
  · rw [List.pairwise_map]
    exact ordered
  · simp only [List.mem_map, Prod.exists, Prod.map_apply, id_eq, Prod.mk.injEq, exact]
    constructor
    · rintro ⟨way, item, here, rfl, same⟩
      exact ⟨item, here, same⟩
    · rintro ⟨item, here, same⟩
      exact ⟨place, item, here, rfl, same⟩

/-- What is left of a list lists what is left of the items. -/
theorem filter (listed : ListsInOrder stands items) (keep : Item → Bool) :
    ListsInOrder (fun place item => stands place item ∧ keep item = true) (items.filter keep) := by
  obtain ⟨placed, rfl, ordered, exact⟩ := listed
  refine ⟨placed.filter (keep ∘ Prod.snd), List.filter_map.symm, ordered.filter _,
    fun place item => ?_⟩
  rw [List.mem_filter, exact]
  rfl

/-- Two lists together hold what stands in either when all places of the first come first. -/
theorem append (listed : ListsInOrder stands items) (listedToo : ListsInOrder other others)
    (apart : ∀ place item way more, stands place item → other way more → ComesFirst place way) :
    ListsInOrder (fun place item => stands place item ∨ other place item) (items ++ others) := by
  obtain ⟨placed, rfl, ordered, exact⟩ := listed
  obtain ⟨placedToo, rfl, orderedToo, exactToo⟩ := listedToo
  refine ⟨placed ++ placedToo, List.map_append, ?_, fun place item => ?_⟩
  · refine List.pairwise_append.2 ⟨ordered, orderedToo, ?_⟩
    rintro ⟨place, item⟩ member ⟨way, more⟩ memberToo
    exact apart _ _ _ _ ((exact _ _).1 member) ((exactToo _ _).1 memberToo)
  · rw [List.mem_append, exact, exactToo]

/-- Items with places of their own are listed when their places are in order. -/
theorem of_pairwise (placeOf : Item → List Nat)
    (ordered : items.Pairwise fun first second => ComesFirst (placeOf first) (placeOf second)) :
    ListsInOrder (fun place item => item ∈ items ∧ place = placeOf item) items := by
  refine ⟨items.map fun item => (placeOf item, item), ?_, ?_, fun place item => ?_⟩
  · simp [Function.comp_def]
  · rw [List.pairwise_map]
    exact ordered
  · simp only [List.mem_map, Prod.mk.injEq]
    constructor
    · rintro ⟨_, member, rfl, rfl⟩
      exact ⟨member, rfl⟩
    · rintro ⟨member, rfl⟩
      exact ⟨item, member, rfl, rfl⟩

/-- What stands further down, at the places where it stands as seen from above. -/
theorem below (listed : ListsInOrder stands items) (lift : List Nat → List Nat)
    (keeps : ∀ place way, ComesFirst place way → ComesFirst (lift place) (lift way)) :
    ListsInOrder (fun place item => ∃ way, place = lift way ∧ stands way item) items := by
  obtain ⟨placed, rfl, ordered, exact⟩ := listed
  refine ⟨placed.map (Prod.map lift id), by simp [Function.comp_def], ?_, fun place item => ?_⟩
  · rw [List.pairwise_map]
    exact ordered.imp fun first => keeps _ _ first
  · simp only [List.mem_map, Prod.exists, Prod.map_apply, id_eq, Prod.mk.injEq, exact]
    constructor
    · rintro ⟨way, _, here, rfl, rfl⟩
      exact ⟨way, rfl, here⟩
    · rintro ⟨way, rfl, here⟩
      exact ⟨way, item, here, rfl, rfl⟩

/-- The place behind one more part. -/
def behindPart : List Nat → List Nat
  | [] => []
  | index :: way => (index + 1) :: way

/-- The order of places does not change behind one more part. -/
theorem comesFirst_behindPart {place other : List Nat} (first : ComesFirst place other) :
    ComesFirst (behindPart place) (behindPart other) := by
  cases first with
  | nil => exact .nil_cons _ _
  | cons within => exact ComesFirst.cons within _
  | rel less => exact .of_lt (Nat.succ_lt_succ less) _ _

/-- A place in some parts is one in the first or one behind it. -/
theorem standsIn_cons_iff {part : Part} {parts : List Part}
    {stands : Part → List Nat → Item → Prop} {place : List Nat} {item : Item} :
    StandsIn (part :: parts) stands place item ↔
      (∃ way, place = 0 :: way ∧ stands part way item) ∨
        ∃ way, place = behindPart way ∧ StandsIn parts stands way item := by
  constructor
  · rintro ⟨index, found, way, rfl, known, here⟩
    cases index with
    | zero =>
        obtain rfl := Option.some.inj known
        exact .inl ⟨way, rfl, here⟩
    | succ index => exact .inr ⟨index :: way, rfl, index, found, way, rfl, known, here⟩
  · rintro (⟨way, rfl, here⟩ | ⟨_, rfl, index, found, way, rfl, known, here⟩)
    · exact ⟨0, part, way, rfl, rfl, here⟩
    · exact ⟨index + 1, found, way, rfl, known, here⟩

/-- What each of some parts holds is listed together, part by part. -/
theorem flatMap {stands : Part → List Nat → Item → Prop} {itemsOf : Part → List Item}
    (parts : List Part) (listed : ∀ part ∈ parts, ListsInOrder (stands part) (itemsOf part)) :
    ListsInOrder (StandsIn parts stands) (parts.flatMap itemsOf) := by
  induction parts with
  | nil =>
      refine nil fun place item => ?_
      rintro ⟨index, part, way, -, known, -⟩
      simp at known
  | cons part parts inductionHypothesis =>
      obtain ⟨here, others⟩ := List.forall_mem_cons.1 listed
      have first := here.below (0 :: ·) fun _ _ first => first.cons 0
      have rest := (inductionHypothesis others).below behindPart fun _ _ =>
        comesFirst_behindPart
      refine (first.append rest ?_).congr fun place item => standsIn_cons_iff.symm
      rintro _ _ _ _ ⟨way, rfl, -⟩ ⟨_, rfl, index, found, behind, rfl, -⟩
      exact .of_lt (Nat.succ_pos index) _ _

/-- A list holds its items at their positions. -/
theorem of_positions (items : List Item) :
    ListsInOrder (fun place item => ∃ index, place = [index] ∧ items[index]? = some item) items := by
  have each : ListsInOrder (StandsIn items fun part place item => place = [] ∧ part = item)
      (items.flatMap fun item => [item]) := flatMap items fun item _ => single item
  rw [List.flatMap_singleton'] at each
  refine each.congr fun place item => ?_
  constructor
  · rintro ⟨index, _, _, rfl, known, rfl, rfl⟩
    exact ⟨index, rfl, known⟩
  · rintro ⟨index, rfl, known⟩
    exact ⟨index, item, [], rfl, known, rfl, rfl⟩

end ListsInOrder

end RosettaDaml
