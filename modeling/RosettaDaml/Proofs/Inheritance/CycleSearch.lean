/-
This file shows that the search for cycles finds one exactly when a name comes back to itself.
-/

import Mathlib.Data.List.Chain
import RosettaDaml.Proofs.Inheritance.Lookup

namespace RosettaDaml.Bases

open Relation

/-- This relation leads from a name to its base. -/
def Extends (bases : Bases) (name base : String) : Prop := bases.next? name = some base

/-- No name comes back to itself along bases. -/
def Acyclic (bases : Bases) : Prop := ∀ name, ¬ TransGen bases.Extends name name

/-- From a name the bases come to an end. -/
def Ends (bases : Bases) (name : String) : Prop :=
  Acc (fun base name => bases.Extends name base) name

/-- A cycle leads from name to base and ends where it starts; no other name comes twice. -/
structure IsCycle (bases : Bases) (cycle : List String) : Prop where
  closed : ∃ name passed, cycle = name :: passed ++ [name]
  distinct : cycle.dropLast.Nodup
  known : ∀ name ∈ cycle.dropLast, name ∈ bases.keys
  linked : cycle.IsChain bases.Extends

/-- The state of a search: a chain of different names, each but the last one with the next one as
its base, that goes on to the current name. -/
structure LeadsTo (bases : Bases) (chain : List String) (current : Option String) : Prop where
  distinct : chain.Nodup
  known : chain ⊆ bases.keys
  linked : (chain ++ current.toList).IsChain bases.Extends

variable {bases : Bases}

/-- What is not declared has no base. -/
theorem next?_eq_none_of_not_contains {name : String} (outside : ¬ bases.contains name = true) :
    bases.next? name = none := by
  have absent : bases.get? name = none := by
    simpa [OrderedMap.contains] using outside
  rw [next?, absent]
  rfl

/-- A chain ends when it ends one step further on. -/
theorem ends_of_next? {name : String}
    (onward : ∀ base, bases.next? name = some base → bases.Ends base) : bases.Ends name :=
  .intro name onward

/-- A name from which the bases come to an end does not come back to itself. -/
theorem Ends.not_returns {name : String} (ends : bases.Ends name) :
    ¬ TransGen bases.Extends name name := by
  intro returns
  induction ends with
  | intro name _ inductionHypothesis =>
      obtain ⟨base, first, rest⟩ := TransGen.head'_iff.1 returns
      exact inductionHypothesis base first (.tail' rest first)

/-- From every name of a cycle the bases lead to every name of it. -/
theorem IsCycle.leads {cycle : List String} (isCycle : bases.IsCycle cycle) {name other : String}
    (member : name ∈ cycle) (memberToo : other ∈ cycle) : TransGen bases.Extends name other := by
  obtain ⟨first, passed, rfl⟩ := isCycle.closed
  have ordered : (first :: passed ++ [first]).Pairwise (TransGen bases.Extends) :=
    List.isChain_iff_pairwise.1 (isCycle.linked.imp fun _ _ => .single)
  have back : ∀ name ∈ first :: passed, TransGen bases.Extends name first := fun name inside =>
    (List.pairwise_append.1 ordered).2.2 name inside first (List.mem_singleton_self first)
  have onward : ∀ name ∈ passed ++ [first], TransGen bases.Extends first name :=
    (List.pairwise_cons.1 ordered).1
  have toFirst : TransGen bases.Extends name first := by
    rcases List.mem_append.1 member with inside | last
    · exact back name inside
    · exact List.mem_singleton.1 last ▸ back first List.mem_cons_self
  rcases List.mem_cons.1 memberToo with rfl | behind
  · exact toFirst
  · exact toFirst.trans (onward other behind)

namespace LeadsTo

/-- A search begins with a chain of nothing. -/
theorem initial (bases : Bases) (start : String) : bases.LeadsTo [] (some start) :=
  ⟨.nil, List.nil_subset _, List.isChain_singleton start⟩

/-- A step passes a name that is new. -/
theorem push {chain : List String} {current : String} (leads : bases.LeadsTo chain (some current))
    (inside : bases.contains current = true) (fresh : current ∉ chain) :
    bases.LeadsTo (chain ++ [current]) (bases.next? current) := by
  refine ⟨?_, ?_, ?_⟩
  · exact List.nodup_append_comm.1 (List.nodup_cons.2 ⟨fresh, leads.distinct⟩)
  · rw [List.append_subset]
    refine ⟨leads.known, ?_⟩
    simpa using (bases.contains_iff current).1 inside
  · cases base : bases.next? current with
    | none => simpa using leads.linked
    | some next =>
        rw [Option.toList_some, List.append_assoc, List.singleton_append, List.isChain_split]
        exact ⟨leads.linked, List.isChain_pair.2 base⟩

/-- A cycle closes at the place where the current name already stands in the chain. -/
theorem isCycle_dropWhile {chain : List String} {current : String}
    (leads : bases.LeadsTo chain (some current)) (met : current ∈ chain) :
    bases.IsCycle (chain.dropWhile (· != current) ++ [current]) := by
  obtain ⟨distinct, known, linked⟩ := leads
  obtain ⟨before, after, rfl, fresh⟩ := List.eq_append_cons_of_mem met
  have dropped : (before ++ current :: after).dropWhile (· != current) = current :: after := by
    rw [List.dropWhile_append_of_pos]
    · simp
    · intro name member
      exact bne_iff_ne.2 fun equal => fresh (equal ▸ member)
  rw [dropped]
  refine ⟨⟨current, after, rfl⟩, ?_, ?_, ?_⟩
  · rw [List.dropLast_concat]
    exact (List.nodup_append.1 distinct).2.1
  · rw [List.dropLast_concat]
    intro name member
    exact known (List.mem_append_right before member)
  · rw [List.append_assoc] at linked
    exact linked.right_of_append

end LeadsTo

/-- What stops a search along bases is a cycle. -/
theorem isCycle_of_follow {safe : List String} {fuel : Nat} {chain : List String}
    {current : Option String} {cycle : List String} (leads : bases.LeadsTo chain current)
    (found : bases.follow safe fuel chain current = .error cycle) : bases.IsCycle cycle := by
  induction fuel generalizing chain current with
  | zero => simp [follow] at found
  | succ fuel inductionHypothesis =>
      cases current with
      | none => simp [follow] at found
      | some current =>
          rw [follow] at found
          split at found
          case isTrue => simp at found
          case isFalse goesOn =>
            have inside : bases.contains current = true := by simp_all
            split at found
            case isTrue met =>
              obtain rfl := Except.error.inj found
              exact leads.isCycle_dropWhile (List.contains_iff_mem.1 met)
            case isFalse fresh =>
              exact inductionHypothesis (leads.push inside (by simpa using fresh)) found

/-- A search that meets no cycle has passed only names from which the bases come to an end: each
step adds a new name to the chain, and there are no more names than the fuel allows for. -/
theorem ends_of_follow {safe : List String} (safeEnds : ∀ name ∈ safe, bases.Ends name) {fuel : Nat}
    {chain : List String} {current : Option String} {passed : List String}
    (leads : bases.LeadsTo chain current) (enough : bases.size < chain.length + fuel)
    (followed : bases.follow safe fuel chain current = .ok passed) :
    (∀ name, current = some name → bases.Ends name) ∧
      ∃ further, passed = chain ++ further ∧ ∀ name ∈ further, bases.Ends name := by
  induction fuel generalizing chain current with
  | zero =>
      -- All names of the chain are known and different, so the fuel cannot run out.
      have fits := bases.length_le_size leads.distinct leads.known
      omega
  | succ fuel inductionHypothesis =>
      cases current with
      | none =>
          obtain rfl := Except.ok.inj followed
          exact ⟨by simp, [], by simp, by simp⟩
      | some current =>
          rw [follow] at followed
          split at followed
          case isTrue stops =>
            obtain rfl := Except.ok.inj followed
            refine ⟨?_, [], by simp, by simp⟩
            rintro _ ⟨⟩
            rw [Bool.or_eq_true, Bool.not_eq_true'] at stops
            rcases stops with outside | isSafe
            · refine ends_of_next? fun base step => ?_
              rw [next?_eq_none_of_not_contains (by simp [outside])] at step
              simp at step
            · exact safeEnds current (List.contains_iff_mem.1 isSafe)
          case isFalse goesOn =>
            have inside : bases.contains current = true := by simp_all
            split at followed
            case isTrue => simp at followed
            case isFalse fresh =>
              have pushed := leads.push inside (by simpa using fresh)
              have enoughToo : bases.size < (chain ++ [current]).length + fuel := by
                rw [List.length_append, List.length_singleton]
                omega
              obtain ⟨onward, further, rfl, furtherEnds⟩ :=
                inductionHypothesis pushed enoughToo followed
              -- A name ends because its base does.
              have ends := ends_of_next? onward
              refine ⟨by rintro _ ⟨⟩; exact ends, current :: further, by simp, ?_⟩
              exact List.forall_mem_cons.2 ⟨ends, furtherEnds⟩

/-- Without a cycle the start of a search and all names that it passed come to an end. -/
theorem ends_of_followFrom {safe : List String} (safeEnds : ∀ name ∈ safe, bases.Ends name)
    {start : String} {chain : List String} (followed : bases.followFrom safe start = .ok chain) :
    bases.Ends start ∧ ∀ name ∈ chain, bases.Ends name := by
  obtain ⟨onward, further, rfl, furtherEnds⟩ :=
    ends_of_follow safeEnds (.initial bases start) (by simp) followed
  exact ⟨onward start rfl, furtherEnds⟩

/-- What is found from some name on is a cycle. -/
theorem isCycle_of_cycleAmong {safe names : List String} {cycle : List String}
    (found : bases.cycleAmong safe names = some cycle) : bases.IsCycle cycle := by
  induction names generalizing safe with
  | nil => simp [cycleAmong] at found
  | cons start rest inductionHypothesis =>
      rw [cycleAmong] at found
      split at found
      case isTrue => exact inductionHypothesis found
      case isFalse =>
        cases followed : bases.followFrom safe start with
        | error met =>
            rw [followed] at found
            obtain rfl := Option.some.inj found
            exact isCycle_of_follow (.initial bases start) followed
        | ok chain =>
            rw [followed] at found
            exact inductionHypothesis found

/-- Where no cycle is met, the bases come to an end from all names that were tried: safe names stay
such names. -/
theorem ends_of_cycleAmong {safe names : List String} (safeEnds : ∀ name ∈ safe, bases.Ends name)
    (nothing : bases.cycleAmong safe names = none) : ∀ name ∈ names, bases.Ends name := by
  induction names generalizing safe with
  | nil => simp
  | cons start rest inductionHypothesis =>
      rw [cycleAmong] at nothing
      split at nothing
      case isTrue isSafe =>
        refine List.forall_mem_cons.2 ⟨?_, inductionHypothesis safeEnds nothing⟩
        exact safeEnds start (List.contains_iff_mem.1 isSafe)
      case isFalse =>
        cases followed : bases.followFrom safe start with
        | error met => simp [followed] at nothing
        | ok chain =>
            rw [followed] at nothing
            obtain ⟨startEnds, chainEnds⟩ := ends_of_followFrom safeEnds followed
            have safeToo : ∀ name ∈ safe ++ chain, bases.Ends name :=
              List.forall_mem_append.2 ⟨safeEnds, chainEnds⟩
            exact List.forall_mem_cons.2 ⟨startEnds, inductionHypothesis safeToo nothing⟩

/-- So is what is found at all. -/
theorem isCycle_of_cycle? {cycle : List String} (found : bases.cycle? = some cycle) :
    bases.IsCycle cycle :=
  isCycle_of_cycleAmong found

/-- The search finds no cycle exactly when there is none. -/
theorem cycle?_eq_none_iff : bases.cycle? = none ↔ bases.Acyclic := by
  constructor
  · intro nothing name returns
    obtain ⟨base, first, _⟩ := TransGen.head'_iff.1 returns
    have member : name ∈ bases.keys := by
      by_contra outside
      have absent := next?_eq_none_of_not_contains (mt (bases.contains_iff name).1 outside)
      rw [Extends, absent] at first
      simp at first
    exact (ends_of_cycleAmong (by simp) nothing name member).not_returns returns
  · intro acyclic
    by_contra found
    obtain ⟨cycle, found⟩ := Option.ne_none_iff_exists'.1 found
    have isCycle := isCycle_of_cycle? found
    obtain ⟨name, passed, rfl⟩ := isCycle.closed
    exact acyclic name (isCycle.leads (by simp) (by simp))

/-- The check passes exactly when no chain comes back. -/
theorem checkAcyclic_eq_ok_iff (kind : String) :
    bases.checkAcyclic kind = .ok () ↔ bases.Acyclic := by
  rw [← cycle?_eq_none_iff, checkAcyclic]
  cases bases.cycle? <;> simp

/-- A cycle that is reported is one. -/
theorem isCycle_of_checkAcyclic {kind : String} {failure : CyclicInheritance}
    (fails : bases.checkAcyclic kind = .error failure) :
    failure.kind = kind ∧ bases.IsCycle failure.cycle := by
  rw [checkAcyclic] at fails
  cases found : bases.cycle? with
  | none => simp [found] at fails
  | some cycle =>
      rw [found] at fails
      obtain rfl := Except.error.inj fails
      exact ⟨rfl, isCycle_of_cycle? found⟩

/-- The check of bases passes exactly when no name comes back to itself. What it reports otherwise
is a cycle, and no name that merely leads into a cycle is part of it. -/
theorem checkAcyclic_exact (kind : String) (bases : Bases) :
    (bases.checkAcyclic kind = .ok () ↔ bases.Acyclic) ∧
      ∀ failure, bases.checkAcyclic kind = .error failure →
        failure.kind = kind ∧ bases.IsCycle failure.cycle ∧
          ∀ name ∈ failure.cycle, TransGen bases.Extends name name := by
  refine ⟨checkAcyclic_eq_ok_iff kind, fun failure fails => ?_⟩
  obtain ⟨sameKind, isCycle⟩ := isCycle_of_checkAcyclic fails
  exact ⟨sameKind, isCycle, fun name member => isCycle.leads member member⟩

/-- Two chains that end, one of them at an unknown base, and a third one that leads into a cycle. -/
def tailed : Bases :=
  .ofList [("Leaf", some "Root"), ("Root", some "Nowhere"), ("Other", some "Leaf"),
    ("Tail", some "First"), ("First", some "Second"), ("Second", some "First")]

theorem checkAcyclic_exact_tailed :
    tailed.checkAcyclic "class" = .error ⟨"class", ["First", "Second", "First"]⟩ ∧
      tailed.IsCycle ["First", "Second", "First"] ∧
        ∀ name ∈ ["First", "Second", "First"], TransGen tailed.Extends name name :=
  have reported :
      tailed.checkAcyclic "class" = .error ⟨"class", ["First", "Second", "First"]⟩ := rfl
  ⟨reported, ((checkAcyclic_exact "class" tailed).2 _ reported).2⟩

end RosettaDaml.Bases
