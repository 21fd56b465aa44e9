import Mathlib.Data.List.Nodup
import Mathlib.Logic.Function.Iterate
import SharedBindings.Proofs.Guest.Lineage

/-!
# The search for an inherited class variable

A class variable is looked for in a scope, then in its superclass, and so on, until one of them
answers. The search keeps no list of where it has been and has no bound on its turns. What brings it to
an end is that it goes along a lineage, one scope a turn, and that a scope which is its own superclass
ends the lineage. On a longer circle it may never end.
-/

namespace SharedBindings.Guest

/-- A search under way. There is no current scope once it has ended. -/
structure Search where
  probed : List Scope
  current : Option Scope
  answer : Option Value

def Search.start (scope : Scope) : Search where
  probed := []
  current := some scope
  answer := none

/-- Probes the current scope, and goes on to the scope above it if there is nothing to read. -/
def Search.turn (guest : Guest) (name : String) (search : Search) : Search :=
  match search.current with
  | none => search
  | some scope =>
      match guest.read (Kind.classVariable.cell scope name) with
      | some value =>
          { probed := search.probed ++ [scope], current := none, answer := some value }
      | none =>
          { search with probed := search.probed ++ [scope], current := guest.ancestor? scope }

/-- Which scopes of a chain are probed for a name, and what they answer. No scope above the one that
answers is probed. -/
inductive Probing (guest : Guest) (name : String) : List Scope → List Scope → Option Value → Prop where
  | missed {chain : List Scope}
      (silent : ∀ scope ∈ chain, guest.read (Kind.classVariable.cell scope name) = none) :
      guest.Probing name chain chain none
  | found {early late : List Scope} {scope : Scope} {value : Value}
      (silent : ∀ other ∈ early, guest.read (Kind.classVariable.cell other name) = none)
      (answers : guest.read (Kind.classVariable.cell scope name) = some value) :
      guest.Probing name (early ++ scope :: late) (early ++ [scope]) (some value)

variable {guest : Guest} {name : String} {scope start : Scope} {chain probed earlier : List Scope}
  {search : Search} {answer : Option Value} {value : Value}

theorem Search.turn_of_ended (ended : search.current = none) : search.turn guest name = search := by
  rw [turn, ended]

theorem Search.turn_of_answer
    (answers : guest.read (Kind.classVariable.cell scope name) = some value) :
    Search.turn guest name ⟨earlier, some scope, answer⟩ = ⟨earlier ++ [scope], none, some value⟩ := by
  simp only [turn, answers]

theorem Search.turn_of_silence
    (silent : guest.read (Kind.classVariable.cell scope name) = none) :
    Search.turn guest name ⟨earlier, some scope, answer⟩ =
      ⟨earlier ++ [scope], guest.ancestor? scope, answer⟩ := by
  simp only [turn, silent]

theorem Probing.first {above : List Scope}
    (answers : guest.read (Kind.classVariable.cell scope name) = some value) :
    guest.Probing name (scope :: above) [scope] (some value) :=
  @Probing.found guest name [] above scope value nofun answers

theorem Probing.below (silent : guest.read (Kind.classVariable.cell scope name) = none)
    (probing : guest.Probing name chain probed answer) :
    guest.Probing name (scope :: chain) (scope :: probed) answer := by
  cases probing with
  | missed further => exact .missed (List.forall_mem_cons.mpr ⟨silent, further⟩)
  | found further answers => exact .found (List.forall_mem_cons.mpr ⟨silent, further⟩) answers

theorem Probing.probed_prefix (probing : guest.Probing name chain probed answer) :
    probed <+: chain := by
  cases probing with
  | missed _ => exact List.prefix_refl _
  | @found early late scope _ _ _ => exact ⟨late, by rw [List.append_assoc, List.singleton_append]⟩

theorem Probing.readFirst (probing : guest.Probing name chain probed answer) :
    guest.readFirst (chain.map (Kind.classVariable.cell · name)) = answer := by
  rw [Guest.readFirst, List.findSome?_map]
  cases probing with
  | missed silent => exact List.findSome?_eq_none_iff.mpr silent
  | found silent answers =>
      exact List.findSome?_eq_some_iff.mpr ⟨_, _, _, rfl, answers, silent⟩

theorem Probing.eq_none_iff (probing : guest.Probing name chain probed answer) :
    answer = none ↔
      ∀ scope ∈ chain, guest.read (Kind.classVariable.cell scope name) = none := by
  rw [← probing.readFirst, Guest.readFirst, List.findSome?_map]
  exact List.findSome?_eq_none_iff

/-- The search goes along the lineage of its scope, one scope a turn, and ends with it at the latest. -/
theorem Lineage.search_ends (lineage : guest.Lineage scope chain) (name : String)
    (earlier : List Scope) :
    ∃ probed answer, guest.Probing name chain probed answer ∧
      (Search.turn guest name)^[probed.length] ⟨earlier, some scope, none⟩ =
        ⟨earlier ++ probed, none, answer⟩ := by
  induction lineage generalizing earlier with
  | @last scope ends =>
      cases read : guest.read (Kind.classVariable.cell scope name) with
      | some value => exact ⟨[scope], some value, .first read, Search.turn_of_answer read⟩
      | none =>
          have noParent : guest.ancestor? scope = none :=
            Option.eq_none_iff_forall_ne_some.mpr fun parent found =>
              ends parent (ancestor?_eq_some_iff.mp found)
          refine ⟨[scope], none, .missed fun other isScope => ?_, ?_⟩
          · rw [List.mem_singleton.mp isScope, read]
          · exact (Search.turn_of_silence read).trans (by rw [noParent])
  | @step scope parent above isParent further ih =>
      cases read : guest.read (Kind.classVariable.cell scope name) with
      | some value => exact ⟨[scope], some value, .first read, Search.turn_of_answer read⟩
      | none =>
          obtain ⟨probed, answer, probing, ran⟩ := ih (earlier ++ [scope])
          refine ⟨scope :: probed, answer, probing.below read, ?_⟩
          rw [List.length_cons, Function.iterate_succ_apply, Search.turn_of_silence read,
            ancestor?_eq_some_iff.mpr isParent, ran, List.append_assoc, List.singleton_append]

theorem Lineage.reflTransGen (lineage : guest.Lineage start chain) (member : scope ∈ chain) :
    Relation.ReflTransGen guest.HasParent start scope := by
  induction lineage with
  | last _ => rw [List.mem_singleton.mp member]
  | step isParent _ ih =>
      rcases List.mem_cons.mp member with rfl | further
      · exact .refl
      · exact .head isParent (ih further)

theorem Lineage.nodup (lineage : guest.Lineage start chain) (acyclic : guest.Acyclic) :
    chain.Nodup := by
  induction lineage with
  | last _ => exact List.nodup_singleton _
  | step isParent further ih =>
      refine List.nodup_cons.mpr ⟨fun again => ?_, ih⟩
      exact acyclic _ (.head' isParent (further.reflTransGen again))

theorem ends_iff :
    (∀ parent, ¬ guest.HasParent scope parent) ↔
      guest.superclass? scope = none ∨ guest.superclass? scope = some scope := by
  cases linked : guest.superclass? scope with
  | none => simp [HasParent, linked]
  | some parent => simp [HasParent, linked]

theorem Lineage.exists_last (lineage : guest.Lineage start chain) :
    ∃ last, chain.getLast? = some last ∧
      (guest.superclass? last = none ∨ guest.superclass? last = some last) := by
  induction lineage with
  | @last scope ends => exact ⟨scope, rfl, ends_iff.mp ends⟩
  | step _ further ih =>
      obtain ⟨last, isLast, ends⟩ := ih
      refine ⟨last, ?_, ends⟩
      rw [List.getLast?_cons, isLast, Option.getD_some]

/-- What a search for a name comes to from a scope whose lineage is the chain. -/
structure SearchOutcome (guest : Guest) (start : Scope) (name : String) (chain : List Scope)
    (search : Search) : Prop where
  ended : search.current = none
  reached : ∀ turns, search.probed.length ≤ turns →
    (Search.turn guest name)^[turns] (Search.start start) = search
  probing : guest.Probing name chain search.probed search.answer
  missed : search.answer = none ↔
    ∀ scope ∈ chain, guest.read (Kind.classVariable.cell scope name) = none
  once : ∀ scope ∈ search.probed, search.probed.count scope = 1
  computed :
    guest.readFirst ((guest.ancestors start).map (Kind.classVariable.cell · name)) = search.answer

/-- Where no scope is above itself, the search for a class variable ends, and the nearest scope that
can read the name has answered. The way up stops at a scope without a superclass, or at one that is its
own, which is not probed again. -/
theorem inherited_found_nearest (acyclic : guest.Acyclic) (start : Scope) (name : String) :
    ∃ chain search,
      (∀ other, guest.Lineage start other ↔ other = chain) ∧
      (∃ last, chain.getLast? = some last ∧
        (guest.superclass? last = none ∨ guest.superclass? last = some last)) ∧
      guest.SearchOutcome start name chain search := by
  have lineage := acyclic.lineage_ancestors start
  obtain ⟨probed, answer, probing, ran⟩ := lineage.search_ends name []
  rw [List.nil_append] at ran
  refine ⟨guest.ancestors start, ⟨probed, none, answer⟩, fun other => ?_, lineage.exists_last, ?_⟩
  · exact ⟨lineage.unique, fun same => same ▸ lineage⟩
  · refine ⟨rfl, fun turns enough => ?reached, probing, probing.eq_none_iff, fun scope member => ?once,
      probing.readFirst⟩
    case reached =>
      obtain ⟨idle, rfl⟩ := Nat.exists_eq_add_of_le' enough
      rw [Function.iterate_add_apply, Search.start, ran]
      exact Function.iterate_fixed (Search.turn_of_ended rfl) idle
    case once =>
      have distinct := probing.probed_prefix.sublist.nodup (lineage.nodup acyclic)
      exact List.count_eq_one_of_mem distinct member

/-- A scope without a module may be below a class, and a class may be its own superclass. -/
theorem inherited_found_above_adopted :
    let steps : List Step := [.command (.defineModule "Foo"),
      .command (.write (Kind.classVariable.cell ⟨0⟩ "@@shared") (.int 1))]
    let guest := (fresh.performAll steps).2.withOverlay
      { top := none, adoptions := [(⟨7⟩, some ⟨2⟩), (⟨0⟩, some ⟨0⟩)], hidden := [] }
    guest.Acyclic ∧ guest.Lineage ⟨7⟩ [⟨7⟩, ⟨2⟩, ⟨0⟩] ∧
      ∃ search, guest.SearchOutcome ⟨7⟩ "@@shared" [⟨7⟩, ⟨2⟩, ⟨0⟩] search ∧
        search.probed = [⟨7⟩, ⟨2⟩, ⟨0⟩] ∧ search.answer = some (.int 1) := by
  intro steps guest
  have acyclic : guest.Acyclic := by
    have earlier : ∀ child ∈ guest.linkedScopes, ∀ parent ∈ guest.superclass? child,
        parent ≠ child → parent.index < child.index := by decide
    exact acyclic_of_earlier fun isParent =>
      earlier _ isParent.mem_linkedScopes _ isParent.1 isParent.2
  have lineage : guest.Lineage ⟨7⟩ [⟨7⟩, ⟨2⟩, ⟨0⟩] := acyclic.lineage_ancestors ⟨7⟩
  obtain ⟨chain, search, onlyChain, _, outcome⟩ := inherited_found_nearest acyclic ⟨7⟩ "@@shared"
  obtain rfl := (onlyChain _).mp lineage
  refine ⟨acyclic, lineage, search, outcome, ?_, ?_⟩
  · rw [← outcome.reached 3 outcome.probing.probed_prefix.length_le]
    decide
  · rw [← outcome.computed]
    decide

/-- Where a scope is above itself and nothing around there can be read, the search goes on for ever. -/
theorem Search.current_isSome_of_circle (circle : Relation.TransGen guest.HasParent start start)
    (silent : ∀ scope, Relation.ReflTransGen guest.HasParent start scope →
      guest.read (Kind.classVariable.cell scope name) = none) (turns : Nat) :
    ((Search.turn guest name)^[turns] (Search.start start)).current.isSome = true := by
  -- Every scope that the search comes to is on the circle, and so it has one above it.
  have around : ∃ earlier scope,
      (Search.turn guest name)^[turns] (Search.start start) = ⟨earlier, some scope, none⟩ ∧
        Relation.ReflTransGen guest.HasParent start scope ∧
        Relation.TransGen guest.HasParent scope scope := by
    induction turns with
    | zero => exact ⟨[], start, rfl, .refl, circle⟩
    | succ turns ih =>
        obtain ⟨earlier, scope, ran, reached, returns⟩ := ih
        obtain ⟨parent, isParent, back⟩ := Relation.TransGen.head'_iff.mp returns
        refine ⟨earlier ++ [scope], parent, ?_, reached.tail isParent, .tail' back isParent⟩
        rw [Function.iterate_succ_apply', ran, Search.turn_of_silence (silent scope reached),
          ancestor?_eq_some_iff.mpr isParent]
  obtain ⟨_, _, ran, _⟩ := around
  rw [ran]
  rfl

end SharedBindings.Guest
