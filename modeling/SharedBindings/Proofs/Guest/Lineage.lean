import Mathlib.Data.List.Perm.Subperm
import Mathlib.Logic.Relation
import SharedBindings.Guest.Step

/-!
# Lineages

The scopes above a scope are found by following superclasses until there is none, or until a scope
is its own. Where no scope is above itself the way ends: it meets no scope twice, and only scopes that
the guest knows, by its modules or by its adoptions, have a superclass. So counting those is enough to
climb all the way. A guest that starts with its two modules and is changed by steps alone never gets a
scope above itself.
-/

namespace SharedBindings.Guest

/-- Links a scope to another one that is its superclass. -/
def HasParent (guest : Guest) (child parent : Scope) : Prop :=
  guest.superclass? child = some parent ∧ parent ≠ child

/-- No scope is above itself. A scope that is its own superclass is not above itself by that. -/
def Acyclic (guest : Guest) : Prop :=
  ∀ scope, ¬ Relation.TransGen guest.HasParent scope scope

/-- A scope and the scopes above it, up to the end of the hierarchy. -/
inductive Lineage (guest : Guest) : Scope → List Scope → Prop where
  | last {scope : Scope} (ends : ∀ parent, ¬ guest.HasParent scope parent) :
      guest.Lineage scope [scope]
  | step {scope parent : Scope} {above : List Scope} (isParent : guest.HasParent scope parent)
      (further : guest.Lineage parent above) : guest.Lineage scope (scope :: above)

variable {guest : Guest} {scope child parent : Scope} {lower scopes others : List Scope}

theorem HasParent.unique {another : Scope} (one : guest.HasParent child parent)
    (other : guest.HasParent child another) : another = parent :=
  Option.some.inj (other.1.symm.trans one.1)

theorem Lineage.unique (lineage : guest.Lineage scope scopes) (other : guest.Lineage scope others) :
    others = scopes := by
  induction lineage generalizing others with
  | last ends =>
      cases other with
      | last _ => rfl
      | step isParent _ => exact absurd isParent (ends _)
  | step isParent _ ih =>
      cases other with
      | last ends => exact absurd isParent (ends _)
      | step alsoParent further =>
          obtain rfl := isParent.unique alsoParent
          rw [ih further]

theorem ancestor?_eq_some_iff :
    guest.ancestor? child = some parent ↔ guest.HasParent child parent := by
  simp [ancestor?, HasParent, Option.filter_eq_some_iff]

/-- The scopes that may have a superclass. -/
def linkedScopes (guest : Guest) : List Scope :=
  (List.range guest.modules.length).map Scope.atIndex ++ guest.adoptions.keys

theorem length_linkedScopes (guest : Guest) : guest.linkedScopes.length = guest.linkCount := by
  simp [linkedScopes, linkCount, OrderedMap.size, OrderedMap.keys]

theorem HasParent.mem_linkedScopes (isParent : guest.HasParent child parent) :
    child ∈ guest.linkedScopes := by
  rw [linkedScopes, List.mem_append]
  have linked := isParent.1
  unfold superclass? at linked
  split at linked
  · rename_i adopted
    exact .inr (OrderedMap.mem_keys_of_lookup adopted)
  · obtain ⟨_, known, _⟩ := Option.map_eq_some_iff.mp (Option.join_eq_some_iff.mp linked)
    obtain ⟨inside, _⟩ := List.getElem?_eq_some_iff.mp known
    exact .inl (List.mem_map.mpr ⟨child.index, List.mem_range.mpr inside, child.atIndex_index⟩)

/-- What a climb has met below the scope where it is. -/
structure Climbed (guest : Guest) (lower : List Scope) (scope : Scope) : Prop where
  distinct : lower.Nodup
  linked : lower ⊆ guest.linkedScopes
  isLower : ∀ other ∈ lower, Relation.TransGen guest.HasParent other scope

theorem climbed_start (scope : Scope) : guest.Climbed [] scope :=
  ⟨List.nodup_nil, List.nil_subset _, fun _ => nofun⟩

theorem Climbed.step (climbed : guest.Climbed lower scope) (acyclic : guest.Acyclic)
    (isParent : guest.HasParent scope parent) : guest.Climbed (scope :: lower) parent where
  distinct := by
    refine List.nodup_cons.mpr ⟨fun met => ?_, climbed.distinct⟩
    exact acyclic scope (climbed.isLower scope met)
  linked := List.cons_subset.mpr ⟨isParent.mem_linkedScopes, climbed.linked⟩
  isLower other member := by
    rcases List.mem_cons.mp member with rfl | further
    · exact .single isParent
    · exact (climbed.isLower other further).tail isParent

theorem Climbed.length_le (climbed : guest.Climbed lower scope) :
    lower.length ≤ guest.linkCount := by
  have few := (List.subperm_of_subset climbed.distinct climbed.linked).length_le
  rwa [length_linkedScopes] at few

/-- A climb gets to the end if it may take as many steps as there are linked scopes that it has not
met. -/
theorem Acyclic.lineage_climb (acyclic : guest.Acyclic) {steps : Nat}
    (climbed : guest.Climbed lower scope) (enough : guest.linkCount ≤ steps + lower.length) :
    guest.Lineage scope (guest.climb steps scope) := by
  induction steps generalizing scope lower with
  | zero =>
      refine .last fun parent isParent => ?_
      have tooMany := (climbed.step acyclic isParent).length_le
      rw [List.length_cons] at tooMany
      omega
  | succ steps ih =>
      rw [climb]
      cases found : guest.ancestor? scope with
      | none =>
          refine .last fun parent isParent => ?_
          rw [ancestor?_eq_some_iff.mpr isParent] at found
          contradiction
      | some parent =>
          have isParent := ancestor?_eq_some_iff.mp found
          refine .step isParent (ih (climbed.step acyclic isParent) ?_)
          rw [List.length_cons]
          omega

theorem Acyclic.lineage_ancestors (acyclic : guest.Acyclic) (scope : Scope) :
    guest.Lineage scope (guest.ancestors scope) :=
  acyclic.lineage_climb (climbed_start scope) (Nat.le_add_right _ _)

theorem acyclic_of_earlier
    (earlier : ∀ {child parent}, guest.HasParent child parent → parent.index < child.index) :
    guest.Acyclic := by
  intro scope circle
  have higher {child above : Scope} (isAbove : Relation.TransGen guest.HasParent child above) :
      above.index < child.index := by
    induction isAbove with
    | single isParent => exact earlier isParent
    | tail _ isParent ih => exact Nat.lt_trans (earlier isParent) ih
  exact Nat.lt_irrefl _ (higher circle)

/-- Every superclass comes before the modules that have it. -/
structure Stacked (guest : Guest) : Prop where
  unadopted : guest.adoptions = ∅
  object : guest.object.index < guest.modules.length
  earlier : ∀ {child parent}, guest.superclass? child = some parent → parent.index < child.index

theorem Stacked.acyclic (stacked : guest.Stacked) : guest.Acyclic :=
  acyclic_of_earlier fun isParent => stacked.earlier isParent.1

theorem superclass?_of_unadopted (unadopted : guest.adoptions = ∅) (scope : Scope) :
    guest.superclass? scope = (guest.module? scope).bind Module.superclass := by
  rw [superclass?, unadopted, OrderedMap.lookup_empty]
  cases guest.module? scope <;> rfl

theorem stacked_fresh : fresh.Stacked where
  unadopted := rfl
  object := by decide
  earlier {child parent} isParent := by
    rw [superclass?_of_unadopted rfl, module?] at isParent
    cases position : child.index with
    | zero => simp [position, fresh] at isParent
    | succ above =>
        cases above with
        | zero =>
            have isObject : Scope.atIndex 0 = parent := by simpa [position, fresh] using isParent
            rw [← isObject]
            decide
        | succ _ => simp [position, fresh] at isParent

theorem Stacked.addModule (stacked : guest.Stacked) (name : String) (defined : Bool) :
    (guest.addModule name defined).2.Stacked where
  unadopted := stacked.unadopted
  object := by
    have object := stacked.object
    simp only [Guest.addModule, List.length_append, List.length_singleton]
    omega
  earlier {child parent} isParent := by
    have unadopted : (guest.addModule name defined).2.adoptions = ∅ := stacked.unadopted
    rw [superclass?_of_unadopted unadopted, module?] at isParent
    simp only [Guest.addModule] at isParent
    rcases Nat.lt_or_ge child.index guest.modules.length with old | new
    · rw [List.getElem?_append_left old, ← module?,
        ← superclass?_of_unadopted stacked.unadopted] at isParent
      exact stacked.earlier isParent
    · rw [List.getElem?_append_right new] at isParent
      obtain ⟨held, known, itsParent⟩ := Option.bind_eq_some_iff.mp isParent
      have isNew := List.mem_singleton.mp (List.mem_of_getElem? known)
      rw [isNew, Option.some.injEq] at itsParent
      rw [← itsParent]
      exact Nat.lt_of_lt_of_le stacked.object new

theorem Stacked.of_superclass? {after : Guest} (stacked : guest.Stacked)
    (frame : SameFrame guest after) (size : after.modules.length = guest.modules.length)
    (same : ∀ scope, after.superclass? scope = guest.superclass? scope) : after.Stacked where
  unadopted := frame.adoptions.trans stacked.unadopted
  object := by
    rw [frame.object, size]
    exact stacked.object
  earlier {child parent} isParent := stacked.earlier ((same child).symm.trans isParent)

theorem length_changeTable (guest : Guest) (place : Place) (change : Table → Table) :
    (guest.changeTable place change).modules.length = guest.modules.length := by
  cases place with
  | within scope slot => exact List.length_modify _ _ _
  | globals | locals => rfl

theorem Stacked.changeTable (stacked : guest.Stacked) (place : Place) (change : Table → Table) :
    (guest.changeTable place change).Stacked :=
  stacked.of_superclass? (sameFrame_changeTable guest place change)
    (guest.length_changeTable place change) (guest.superclass?_changeTable place change)

theorem Stacked.define (stacked : guest.Stacked) (scope : Scope) : (guest.define scope).2.Stacked := by
  refine stacked.of_superclass? ⟨rfl, rfl, rfl, rfl, rfl⟩ (List.length_modify _ _ _) fun other => ?_
  have sameParent : ((guest.define scope).2.module? other).map Module.superclass =
      (guest.module? other).map Module.superclass := by
    rw [Guest.define, module?_changeModule]
    split
    · rw [Option.map_map]
      rfl
    · rfl
  simp only [superclass?, sameParent]
  rfl

theorem Stacked.perform (stacked : guest.Stacked) (step : Step) : (guest.perform step).2.Stacked := by
  cases step with
  | query query => exact stacked
  | command command =>
      cases command with
      | defineModule name => exact stacked.addModule name true
      | reserveModule name => exact stacked.addModule name false
      | define scope => exact stacked.define scope
      | execute scope => exact stacked.of_superclass? ⟨rfl, rfl, rfl, rfl, rfl⟩ rfl fun _ => rfl
      | clearLocals => exact stacked.of_superclass? ⟨rfl, rfl, rfl, rfl, rfl⟩ rfl fun _ => rfl
      | setArguments arguments => exact stacked.changeTable (.within guest.object .constants) _
      | write cell value => exact stacked.changeTable _ _
      | erase cell => exact stacked.changeTable _ _

theorem Stacked.performAll (stacked : guest.Stacked) (steps : List Step) :
    (guest.performAll steps).2.Stacked := by
  induction steps generalizing guest with
  | nil => exact stacked
  | cons step rest ih => exact ih (stacked.perform step)

/-- Whatever guest code does, no scope comes to be above itself. -/
theorem acyclic_performAll (steps : List Step) : (fresh.performAll steps).2.Acyclic :=
  (stacked_fresh.performAll steps).acyclic

end SharedBindings.Guest
