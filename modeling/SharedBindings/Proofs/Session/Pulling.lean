import SharedBindings.Proofs.Guest.Lineage
import SharedBindings.Proofs.Session.Retraction

/-!
# What a pull finds

Asked for a name, the guest looks in the cells of a path, and the first one that can be read answers.
The value is registered under the receiver, or under the top level if its kind is process-wide, from
whichever cell it came. A binding that is there already takes the value over, unless a host value of
its own is pending; and nothing but that one binding changes.
-/

namespace SharedBindings

namespace Guest

/-- The cells in which a name is looked for under a receiver, the nearest first. Constants are looked
for at the top level even if the receiver is not defined. -/
def LookupPath (guest : Guest) (receiver : Scope) (name : String) (path : List Cell) : Kind → Prop
  | .instanceVariable =>
      path = (guest.receiver? receiver).toList.map fun scope =>
        ⟨.within scope .instanceVariables, name⟩
  | .classVariable =>
      if guest.isDefined receiver then
        ∃ scopes, guest.Lineage receiver scopes ∧
          path = scopes.map fun scope => ⟨.within scope .classVariables, name⟩
      else path = []
  | .constant =>
      path =
        ((guest.receiver? receiver).toList ++
          guest.top :: (guest.superclass? guest.top).toList).map fun scope =>
            ⟨.within scope .constants, name⟩
  | .globalVariable => path = [⟨.globals, name⟩]
  | .localGlobal => path = [⟨.globals, "$" ++ name⟩]
  | .localVariable => path = [⟨.locals, name⟩]

/-- A cell of the path can be read, and none before it. -/
def Answers (guest : Guest) (path : List Cell) (value : Value) : Prop :=
  ∃ early cell late, path = early ++ cell :: late ∧ guest.read cell = some value ∧
    ∀ other ∈ early, guest.read other = none

variable {guest : Guest} {receiver : Scope} {kind : Kind} {name : String} {path other : List Cell}
  {value : Value}

theorem answers_iff_readFirst : guest.Answers path value ↔ guest.readFirst path = some value :=
  List.findSome?_eq_some_iff.symm

theorem readFirst_eq_none_iff :
    guest.readFirst path = none ↔ ∀ cell ∈ path, guest.read cell = none :=
  List.findSome?_eq_none_iff

theorem LookupPath.unique (isPath : guest.LookupPath receiver name path kind)
    (alsoPath : guest.LookupPath receiver name other kind) : other = path := by
  cases kind with
  | classVariable =>
      simp only [LookupPath] at isPath alsoPath
      split at isPath
      · rename_i defined
        rw [if_pos defined] at alsoPath
        obtain ⟨scopes, lineage, rfl⟩ := isPath
        obtain ⟨others, alsoLineage, rfl⟩ := alsoPath
        rw [lineage.unique alsoLineage]
      · rename_i undefined
        rw [if_neg undefined] at alsoPath
        exact alsoPath.trans isPath.symm
  | constant | instanceVariable | globalVariable | localGlobal | localVariable =>
      exact Eq.trans alsoPath (Eq.symm isPath)

/-- Where no scope is above itself, a search goes along a path and reads what the path answers. -/
theorem Acyclic.exists_lookupPath (acyclic : guest.Acyclic) (receiver : Scope) (kind : Kind)
    (name : String) :
    ∃ path, guest.LookupPath receiver name path kind ∧
      guest.readFirst (guest.searchPath kind receiver name) = guest.readFirst path := by
  cases kind with
  | instanceVariable => exact ⟨_, rfl, rfl⟩
  | classVariable =>
      rw [searchPath, searchScopes, receiver?]
      by_cases defined : guest.isDefined receiver = true
      · refine ⟨_, ?_, rfl⟩
        rw [LookupPath, if_pos defined, if_pos defined, Option.toList_some, List.flatMap_singleton]
        exact ⟨_, acyclic.lineage_ancestors receiver, rfl⟩
      · refine ⟨[], ?_, ?_⟩
        · rw [LookupPath, if_neg defined]
        · rw [if_neg defined]
          rfl
  | constant =>
      refine ⟨_, rfl, ?_⟩
      -- A scope that comes twice answers the first time or not at all.
      rw [readFirst, searchPath, List.findSome?_map, searchScopes, lookupScopes, findSome?_eraseDups,
        ← List.findSome?_map]
      rfl
  | globalVariable | localGlobal | localVariable => exact ⟨_, rfl, rfl⟩

end Guest

namespace Registry

/-- What becomes of a registry that takes up a value of the guest. -/
structure TakesUp (kind : Kind) (key : Key) (value : Value) (before after : Registry) : Prop where
  appended : before.entryAt? key = none →
    after.entries.entries =
      before.entries.entries ++ [(key, ⟨⟨before.issued⟩, .firstSeen kind key value⟩)]
  updated : ∀ {entry : Entry}, before.entryAt? key = some entry →
    entry.binding.isPending = false →
      after = { before with entries := after.entries } ∧ after.entries.keys = before.entries.keys ∧
        after.entryAt? key = some (entry.change fun binding =>
          { binding with guestValue? := some value, authority := .guest, materialized := true })
  kept : ∀ {entry : Entry}, before.entryAt? key = some entry → entry.binding.isPending = true →
    after = before
  others : ∀ other, other ≠ key → after.entryAt? other = before.entryAt? other
  settings : after.settings = before.settings
  released : after.released = before.released

variable {registry : Registry} {kind : Kind} {key : Key} {value : Value}

theorem changeAt_of_fixed {update : Binding → Binding}
    (fixed : ∀ {entry : Entry}, registry.entryAt? key = some entry →
      update entry.binding = entry.binding) : registry.changeAt key update = registry := by
  have same : registry.entries.modify key (·.change update) = registry.entries := by
    refine OrderedMap.ext_lookup (OrderedMap.keys_modify _) fun other => ?_
    rw [OrderedMap.lookup_modify]
    split
    · rename_i here
      subst here
      cases stored : registry.entries.lookup other with
      | none => rfl
      | some entry => rw [Option.map_some, Entry.change, fixed stored]
    · rfl
  rw [changeAt, same]

theorem released_observe (registry : Registry) (kind : Kind) (key : Key) (value : Value) :
    (registry.observe kind key value).released = registry.released := by
  unfold observe upsert
  repeat' split
  all_goals rfl

theorem takesUp_observe (accepted : kind.accepts key.name = true) :
    TakesUp kind key value registry (registry.observe kind key value) where
  appended absent := by
    have unbound : registry.entryAt? (Binding.firstSeen kind key value).key = none := absent
    rw [observe_of_absent accepted absent]
    simp only [upsert, unbound]
    exact OrderedMap.entries_insert_of_absent _ absent
  updated {entry} stored settled := by
    have changed : registry.observe kind key value = registry.changeAt key (·.observe value) := by
      rw [observe, stored]
    rw [changed, keys_changeAt, entryAt?_changeAt, if_pos rfl, stored]
    refine ⟨rfl, rfl, congrArg some ?_⟩
    exact congrArg (Entry.mk entry.handle) (entry.binding.observe_of_settled value settled)
  kept {entry} stored pending := by
    rw [observe, stored]
    refine changeAt_of_fixed fun {held} here => ?_
    obtain rfl : entry = held := Option.some.inj (stored.symm.trans here)
    exact entry.binding.observe_of_pending value pending
  others other different := entryAt?_observe_other registry different
  settings := registry.settings_observe key kind value
  released := registry.released_observe kind key value

theorem exists_handle?_observe (registry : Registry) (key : Key) (value : Value)
    (accepted : kind.accepts key.name = true) :
    ∃ handle, (registry.observe kind key value).handle? key = some handle := by
  have present : key ∈ (registry.observe kind key value).entries.keys := by
    rw [keys_observe, if_pos accepted]
    split
    · assumption
    · exact List.mem_concat_self
  obtain ⟨entry, stored⟩ := Option.isSome_iff_exists.mp (OrderedMap.lookup_isSome_iff.mpr present)
  exact ⟨entry.handle, congrArg (Option.map Entry.handle) stored⟩

end Registry

namespace Session

/-- What comes of a pull that looks in the cells of a path. -/
structure PullOutcome (kind : Kind) (key : Key) (path : List Cell) (before : Session)
    (result : Option Handle) (after : Session) : Prop where
  missed : result = none ↔
    kind.accepts key.name = false ∨ ∀ cell ∈ path, before.guest.read cell = none
  nothing : result = none → after = before
  found : ∀ {handle : Handle}, result = some handle →
    ∃ value, before.guest.Answers path value ∧ after.registry.handle? key = some handle ∧
      Registry.TakesUp kind key value before.registry after.registry
  guest : after.guest = before.guest
  generation : after.generation = before.generation

theorem pullOutcome_of_nothing {kind : Kind} {key : Key} {path : List Cell} {session : Session}
    (missed : kind.accepts key.name = false ∨ ∀ cell ∈ path, session.guest.read cell = none) :
    PullOutcome kind key path session none session where
  missed := iff_of_true rfl missed
  nothing _ := rfl
  found := nofun
  guest := rfl
  generation := rfl

/-- Where no scope is above itself, there is one path along which a name other than the argument list's
is looked for, and what it answers is all that a pull goes by. -/
theorem pull_follows_path (session : Session) (receiver : Scope) (kind : Kind) {name : String}
    (acyclic : session.guest.Acyclic) (plain : name ≠ argumentsName) :
    ∃ path result after,
      (∀ other, session.guest.LookupPath receiver name other kind ↔ other = path) ∧
      session.performEdit (.pull receiver kind name) = (.handle result, after) ∧
      PullOutcome kind ⟨if kind.isProcessWide then session.guest.top else receiver, name⟩ path session
        result after := by
  obtain ⟨path, isPath, reads⟩ := acyclic.exists_lookupPath receiver kind name
  have onlyPath (other : List Cell) :
      session.guest.LookupPath receiver name other kind ↔ other = path :=
    ⟨fun alsoPath => isPath.unique alsoPath, fun same => same ▸ isPath⟩
  have anchor : session.guest.anchorFor kind receiver name =
      if kind.isProcessWide then session.guest.top else receiver := by
    cases kind <;> simp [Guest.anchorFor, Kind.isProcessWide, plain]
  cases accepted : kind.accepts name with
  | false =>
      refine ⟨path, none, session, onlyPath, ?_, pullOutcome_of_nothing (.inl accepted)⟩
      simp [performEdit, pull, Registry.pull, accepted]
  | true =>
      cases answer : session.guest.readFirst path with
      | none =>
          have silent := Guest.readFirst_eq_none_iff.mp answer
          refine ⟨path, none, session, onlyPath, ?_, pullOutcome_of_nothing (.inr silent)⟩
          simp [performEdit, pull, Registry.pull, accepted, plain, reads, answer]
      | some value =>
          rw [← anchor]
          let key : Key := ⟨session.guest.anchorFor kind receiver name, name⟩
          obtain ⟨handle, registered⟩ :=
            session.registry.exists_handle?_observe key value accepted
          refine ⟨path, some handle,
            { session with registry := session.registry.observe kind key value }, onlyPath, ?_, ?_⟩
          · simp only [performEdit, pull, Registry.pull, accepted, plain, reads, answer, if_true,
              if_false, Option.bind_some]
            rw [registered]
          · have answers := Guest.answers_iff_readFirst.mpr answer
            constructor
            case missed =>
              refine iff_of_false (Option.some_ne_none handle) ?_
              rintro (refused | silent)
              · rw [accepted] at refused
                contradiction
              · rw [Guest.readFirst_eq_none_iff.mpr silent] at answer
                contradiction
            case nothing => exact fun contra => absurd contra (Option.some_ne_none handle)
            case found =>
              intro other isHandle
              rw [← Option.some.inj isHandle]
              exact ⟨value, answers, registered, Registry.takesUp_observe accepted⟩
            case guest => rfl
            case generation => rfl

/-- A class without a class variable of its own shows the one of its superclass. -/
theorem inherited_class_variable_pulled :
    let steps : List Guest.Step := [.command (.defineModule "Foo"),
      .command (.write (Kind.classVariable.cell ⟨0⟩ "@@shared") (.int 1))]
    let session : Session := start (Guest.fresh.performAll steps).2 {}
    let path : List Cell := [⟨.within ⟨2⟩ .classVariables, "@@shared"⟩,
      ⟨.within ⟨0⟩ .classVariables, "@@shared"⟩]
    session.guest.Acyclic ∧ "@@shared" ≠ argumentsName ∧
      session.guest.LookupPath ⟨2⟩ "@@shared" path .classVariable ∧
      ∃ after,
        session.performEdit (.pull ⟨2⟩ .classVariable "@@shared") = (.handle (some ⟨0⟩), after) ∧
        PullOutcome .classVariable ⟨⟨2⟩, "@@shared"⟩ path session (some ⟨0⟩) after := by
  intro steps session path
  have acyclic : session.guest.Acyclic := Guest.acyclic_performAll steps
  have plain : "@@shared" ≠ argumentsName := by decide
  have isPath : session.guest.LookupPath ⟨2⟩ "@@shared" path .classVariable := by
    have ancestors : session.guest.ancestors ⟨2⟩ = [⟨2⟩, ⟨0⟩] := by decide
    have lineage := acyclic.lineage_ancestors ⟨2⟩
    rw [ancestors] at lineage
    rw [Guest.LookupPath, if_pos (by decide)]
    exact ⟨_, lineage, rfl⟩
  obtain ⟨found, result, after, onlyPath, pulled, outcome⟩ :=
    pull_follows_path session ⟨2⟩ .classVariable acyclic plain
  obtain rfl : path = found := (onlyPath path).mp isPath
  have told : (session.performEdit (.pull ⟨2⟩ .classVariable "@@shared")).1 = .handle (some ⟨0⟩) := by
    decide
  rw [pulled] at told
  obtain rfl : result = some ⟨0⟩ := Outcome.handle.inj told
  exact ⟨acyclic, plain, isPath, after, pulled, outcome⟩

end Session

end SharedBindings
