import SharedBindings.Proofs.Session.Confinement
import SharedBindings.Proofs.Session.Laziness

/-!
# Removing what was just pulled

A pull remembers the value that a cell of the guest answered, and the anchor of the name, but not which
cell it was. A removal right after it looks for the cell again. For every kind but one it looks in the
same cells in the same order, and finds it. A class variable is looked for at its anchor alone, so one
that an ancestor answered stays in the guest.
-/

namespace SharedBindings

/-- A cell that answers for a receiver is an ancestor's. -/
def Kind.Inherits (kind : Kind) (receiver : Scope) (name : String) (cell : Cell) : Prop :=
  kind = .classVariable ∧ cell ≠ Kind.classVariable.cell receiver name

instance (kind : Kind) (receiver : Scope) (name : String) (cell : Cell) :
    Decidable (kind.Inherits receiver name cell) :=
  inferInstanceAs (Decidable (_ ∧ _))

namespace Guest

variable {guest : Guest} {receiver : Scope} {kind : Kind} {name : String} {cell : Cell} {value : Value}
  {path : List Cell}

/-- The cells that a pull of a name asks, in their order. -/
def askedPath (guest : Guest) (kind : Kind) (receiver : Scope) (name : String) : List Cell :=
  if name = argumentsName then
    (guest.top :: (guest.superclass? guest.top).toList).map (Kind.constant.cell · argumentsName)
  else guest.searchPath kind receiver name

/-- The cell that answers a pull of a name. -/
def answering? (guest : Guest) (kind : Kind) (receiver : Scope) (name : String) : Option Cell :=
  (guest.askedPath kind receiver name).find? fun cell => (guest.read cell).isSome

theorem readFirst_eq_some_iff :
    guest.readFirst path = some value ↔
      ∃ cell, (path.find? fun cell => (guest.read cell).isSome) = some cell ∧
        guest.read cell = some value := by
  induction path with
  | nil => simp [readFirst]
  | cons first rest ih =>
      rw [readFirst, List.findSome?_cons, List.find?_cons]
      cases answer : guest.read first with
      | some held => simp [answer]
      | none =>
          rw [readFirst] at ih
          simp [ih]

theorem name_of_mem_askedPath (accepted : kind.accepts name = true)
    (member : cell ∈ guest.askedPath kind receiver name) : cell.name = kind.guestName name := by
  unfold askedPath at member
  split at member
  · rename_i isArguments
    have constant : kind = .constant :=
      Kind.eq_constant_of_accepts (isArguments ▸ accepted) Kind.accepts_argumentsName
    obtain ⟨_, _, rfl⟩ := List.mem_map.mp member
    rw [constant, isArguments]
    rfl
  · obtain ⟨_, _, rfl⟩ := List.mem_map.mp member
    rfl

/-- A name that one cell answers is not hidden, so cells of that name hold what they answer. -/
theorem find?_content_eq (shown : guest.hidden.contains name = false)
    (named : ∀ cell ∈ path, cell.name = name) :
    (path.find? fun cell => (guest.content cell).isSome) =
      path.find? fun cell => (guest.read cell).isSome := by
  induction path with
  | nil => rfl
  | cons first rest ih =>
      have open' : guest.read first = guest.content first := by
        rw [read, named first List.mem_cons_self, shown]
        rfl
      rw [List.find?_cons, List.find?_cons, open',
        ih fun cell member => named cell (List.mem_cons_of_mem _ member)]

theorem find?_lookupScopes (sees : Scope → Bool) :
    (guest.lookupScopes guest.top).find? sees =
      (guest.top :: (guest.superclass? guest.top).toList).find? sees := by
  rw [List.find?_eq_findSome?_guard, findSome?_lookupScopes, List.find?_cons, receiver?]
  cases answer : sees guest.top <;> cases guest.superclass? guest.top <;> split <;>
    simp [Option.guard, answer, List.find?_singleton]

/-- The cells in which a removal looks for a name that was pulled. -/
def retractionPath (guest : Guest) (kind : Kind) (receiver : Scope) (name : String) : List Cell :=
  guest.removalPath kind (guest.anchorFor kind receiver name) name none

/-- Asked for a class variable, the receiver comes before its ancestors. -/
theorem answering?_classVariable (plain : name ≠ argumentsName)
    (answers : guest.answering? .classVariable receiver name = some cell)
    (inherits : Kind.classVariable.Inherits receiver name cell) :
    guest.read (Kind.classVariable.cell receiver name) = none := by
  rw [answering?, askedPath, if_neg plain, searchPath, searchScopes, receiver?] at answers
  split at answers
  · obtain ⟨above, ancestors⟩ := guest.exists_ancestors_eq receiver
    rw [Option.toList_some, List.flatMap_singleton, ancestors, List.map_cons, List.find?_cons]
      at answers
    cases answer : guest.read (Kind.classVariable.cell receiver name) with
    | none => rfl
    | some held =>
        rw [answer] at answers
        exact absurd (Option.some.inj answers).symm inherits.2
  · contradiction

/-- Every kind but one is looked for where it was asked for. -/
theorem find?_retractionPath_of_plain (plain : kind ≠ .classVariable)
    (accepted : kind.accepts name = true)
    (answers : guest.answering? kind receiver name = some cell) :
    ((guest.retractionPath kind receiver name).find? fun cell => (guest.read cell).isSome) =
      some cell := by
  by_cases isArguments : name = argumentsName
  · have constant : kind = .constant :=
      Kind.eq_constant_of_accepts (isArguments ▸ accepted) Kind.accepts_argumentsName
    subst constant isArguments
    -- The argument list is anchored at the top level, whose tiers are the two scopes that were asked.
    rw [answering?, askedPath, if_pos rfl, List.find?_map, ← find?_lookupScopes] at answers
    rw [retractionPath, anchorFor, if_pos rfl, removalPath, List.find?_map]
    exact answers
  · rw [answering?, askedPath, if_neg isArguments] at answers
    cases kind with
    | constant =>
        rw [retractionPath, anchorFor, if_neg isArguments]
        exact answers
    | instanceVariable =>
        rw [searchPath, searchScopes, receiver?] at answers
        split at answers
        · exact answers
        · contradiction
    | classVariable => contradiction
    | globalVariable | localGlobal | localVariable => exact answers

/-- A class variable is looked for in the cell of the receiver, which its ancestors' are not. -/
theorem find?_retractionPath_classVariable (plain : name ≠ argumentsName)
    (answers : guest.answering? .classVariable receiver name = some cell) :
    ((guest.retractionPath .classVariable receiver name).find? fun cell =>
        (guest.read cell).isSome) =
      if Kind.classVariable.Inherits receiver name cell then none else some cell := by
  have path : guest.retractionPath .classVariable receiver name =
      [Kind.classVariable.cell receiver name] := rfl
  rw [path, List.find?_singleton]
  by_cases inherits : Kind.classVariable.Inherits receiver name cell
  · rw [answering?_classVariable plain answers inherits, if_pos inherits]
    rfl
  · have own : cell = Kind.classVariable.cell receiver name := by
      by_contra other
      exact inherits ⟨rfl, other⟩
    have itself := List.find?_some answers
    rw [if_neg inherits, ← own, itself]
    rfl

/-- The removal of a pulled name finds the cell that answered, unless that was an ancestor's. -/
theorem find?_retractionPath (accepted : kind.accepts name = true)
    (answers : guest.answering? kind receiver name = some cell) :
    ((guest.retractionPath kind receiver name).find? fun cell => (guest.content cell).isSome) =
      if kind.Inherits receiver name cell then none else some cell := by
  have itself := List.find?_some answers
  have itsName := name_of_mem_askedPath accepted (List.mem_of_find?_eq_some answers)
  obtain ⟨held, answer⟩ := Option.isSome_iff_exists.mp itself
  have shown : guest.hidden.contains (kind.guestName name) = false :=
    itsName ▸ (read_eq_some_iff.mp answer).1
  have named : ∀ other ∈ guest.retractionPath kind receiver name,
      other.name = kind.guestName name := by
    intro other member
    obtain ⟨_, _, rfl⟩ := List.mem_map.mp member
    rfl
  rw [find?_content_eq shown named]
  by_cases shared : kind = .classVariable
  · subst shared
    have plain : name ≠ argumentsName := by
      rintro rfl
      contradiction
    exact find?_retractionPath_classVariable plain answers
  · have own : ¬ kind.Inherits receiver name cell := fun inherits => shared inherits.1
    rw [if_neg own, find?_retractionPath_of_plain shared accepted answers]

end Guest

namespace Registry

variable {registry : Registry} {guest : Guest} {receiver : Scope} {kind : Kind} {key : Key}
  {name : String}

theorem observe_of_absent (accepted : kind.accepts key.name = true)
    (absent : registry.entryAt? key = none) (value : Value) :
    registry.observe kind key value = (registry.upsert (.firstSeen kind key value)).2 := by
  simp only [observe, absent, Binding.ofGuest?, accepted, if_true]

/-- The index has a name only as long as it has an anchor. -/
theorem Booked.index_restored (booked : registry.Booked) (name : String) (anchors : List Scope) :
    (if (registry.anchorsOf name).isEmpty then (registry.index.insert name anchors).erase name
      else (registry.index.insert name anchors).insert name (registry.anchorsOf name)) =
        registry.index := by
  cases known : registry.index.lookup name with
  | none =>
      have none : registry.anchorsOf name = [] := by rw [anchorsOf, known]; rfl
      rw [none, if_pos List.isEmpty_nil, OrderedMap.erase_insert_of_absent _ known]
  | some stored =>
      have these : registry.anchorsOf name = stored := by rw [anchorsOf, known]; rfl
      have someAnchor : stored ≠ [] := by
        rintro rfl
        rw [booked.index] at known
        split at known
        · contradiction
        · exact List.cons_ne_nil _ _ (Option.some.inj known)
      rw [these, if_neg (by simpa using someAnchor), OrderedMap.insert_insert,
        OrderedMap.insert_of_lookup known]

/-- Removing a new binding restores the registry, but for the handle that it has used up. -/
theorem Booked.remove_upsert (booked : registry.Booked) {binding : Binding}
    (absent : registry.entryAt? binding.key = none) :
    (registry.upsert binding).2.remove binding.key =
      (some ⟨⟨registry.issued⟩, binding⟩,
        { registry with
          issued := registry.issued + 1
          released := registry.released ++ [⟨⟨registry.issued⟩, binding⟩] }) := by
  let entry : Entry := ⟨⟨registry.issued⟩, binding⟩
  have extended : (registry.upsert binding).2 =
      { registry with
        entries := registry.entries.insert binding.key entry
        index := registry.index.insert binding.name
          (registry.anchorsOf binding.name ++ [binding.anchor])
        issued := registry.issued + 1 } := by
    simp only [Registry.upsert, absent, entry]
  have stored : (registry.upsert binding).2.entryAt? binding.key = some entry := by
    rw [extended]
    exact OrderedMap.lookup_insert_self
  have anchors : (registry.upsert binding).2.anchorsOf binding.key.name =
      registry.anchorsOf binding.name ++ [binding.anchor] := by
    rw [extended]
    exact congrArg (Option.getD · []) OrderedMap.lookup_insert_self
  have others : (registry.anchorsOf binding.name ++ [binding.anchor]).filter (· ≠ binding.anchor) =
      registry.anchorsOf binding.name := by
    have apart : ∀ anchor ∈ registry.anchorsOf binding.name, anchor ≠ binding.anchor := by
      rintro anchor member rfl
      rw [booked.anchorsOf_eq, mem_anchorsAmong_iff] at member
      exact OrderedMap.lookup_eq_none_iff.mp absent member
    rw [List.filter_append, List.filter_eq_self.mpr fun anchor member =>
      decide_eq_true (apart anchor member)]
    simp
  simp only [Registry.remove, stored, anchors]
  rw [extended, show binding.key.anchor = binding.anchor from rfl, others,
    show binding.key.name = binding.name from rfl, booked.index_restored,
    OrderedMap.erase_insert_of_absent _ absent]

/-- A pull that registers a name takes its value from the cell that answers. -/
theorem Booked.pull_of_made (booked : registry.Booked) (accepted : kind.accepts name = true)
    (itsKey : key = ⟨guest.anchorFor kind receiver name, name⟩)
    (absent : registry.entryAt? key = none)
    (made : (registry.pull guest receiver kind name).2.entryAt? key ≠ none) :
    ∃ cell value, guest.answering? kind receiver name = some cell ∧ guest.read cell = some value ∧
      (registry.pull guest receiver kind name).2 =
        (registry.upsert (.firstSeen kind key value)).2 := by
  subst itsKey
  by_cases isArguments : name = argumentsName
  · have constant : kind = .constant :=
      Kind.eq_constant_of_accepts (isArguments ▸ accepted) Kind.accepts_argumentsName
    subst constant isArguments
    rw [Guest.anchorFor, if_pos rfl] at absent made ⊢
    rw [Registry.pull, if_pos accepted, if_pos rfl] at made ⊢
    unfold Registry.observeArguments at made ⊢
    cases told : guest.arguments? with
    | none =>
        rw [told] at made
        exact absurd absent made
    | some value =>
        simp only [told] at made
        rcases booked.argumentKey_cases with ⟨other, named, present⟩ | ⟨unnamed, _⟩
        · -- The argument list is registered elsewhere, and is not made a second time.
          rw [named, Option.getD_some] at made
          have kept : (registry.observe .constant other value).entries.keys =
              registry.entries.keys := by
            rw [keys_observe, if_pos present]
          refine absurd ?_ made
          rw [entryAt?, OrderedMap.lookup_eq_none_iff, kept]
          exact OrderedMap.lookup_eq_none_iff.mp absent
        · rw [unnamed]
          have answer := (Option.filter_eq_some_iff.mp told).1
          obtain ⟨cell, answers, read⟩ := Guest.readFirst_eq_some_iff.mp answer
          refine ⟨cell, value, ?_, read, ?_⟩
          · rw [Guest.answering?, Guest.askedPath, if_pos rfl, answers]
          · exact observe_of_absent accepted absent value
  · rw [Registry.pull, if_pos accepted, if_neg isArguments] at made ⊢
    cases told : guest.readFirst (guest.searchPath kind receiver name) with
    | none =>
        rw [told] at made
        exact absurd absent made
    | some value =>
        obtain ⟨cell, answers, read⟩ := Guest.readFirst_eq_some_iff.mp told
        refine ⟨cell, value, ?_, read, ?_⟩
        · rw [Guest.answering?, Guest.askedPath, if_neg isArguments, answers]
        · exact observe_of_absent accepted absent value

end Registry

namespace Session

variable {session opened pulled : Session} {receiver : Scope} {kind : Kind} {name : String}
  {cell : Cell}

/-- What a removal leaves of the pull right before it, which a cell has answered. -/
structure Retracted (kind : Kind) (receiver : Scope) (name : String) (cell : Cell)
    (before after : Session) : Prop where
  /-- Only the next handle and the released bindings tell that there was a pull. -/
  registry : ∃ entry, after.registry =
    { before.registry with
      issued := before.registry.issued + 1
      released := before.registry.released ++ [entry] }
  generation : after.generation.count =
    if kind = .constant then before.generation.count + 1 else before.generation.count
  undefined : ¬ kind.Inherits receiver name cell → after.guest.content cell = none
  inherited : kind.Inherits receiver name cell → after.guest = before.guest
  untouched : ∀ other, other ≠ cell → after.guest.content other = before.guest.content other

theorem retracted_drop {key : Key} {value : Value} (booked : session.registry.Booked)
    (accepted : kind.accepts name = true)
    (itsKey : key = ⟨session.guest.anchorFor kind receiver name, name⟩)
    (absent : session.registry.entryAt? key = none)
    (answers : session.guest.answering? kind receiver name = some cell)
    (isPulled : pulled =
      { session with registry := (session.registry.upsert (.firstSeen kind key value)).2 })
    (given : Kind) :
    (pulled.drop given key).1 = some ⟨session.registry.issued⟩ ∧
      Retracted kind receiver name cell session (pulled.drop given key).2 := by
  have removed : pulled.registry.remove key =
      (some ⟨⟨session.registry.issued⟩, .firstSeen kind key value⟩,
        { session.registry with
          issued := session.registry.issued + 1
          released := session.registry.released ++
            [⟨⟨session.registry.issued⟩, .firstSeen kind key value⟩] }) := by
    rw [isPulled]
    exact booked.remove_upsert absent
  have path : (Binding.firstSeen kind key value).removalPath pulled.guest key.name =
      session.guest.retractionPath kind receiver name := by
    rw [isPulled, itsKey]
    rfl
  have dropped : pulled.drop given key =
      (some ⟨session.registry.issued⟩,
        { pulled with registry := (pulled.registry.remove key).2 }.undefine kind
          (session.guest.retractionPath kind receiver name)) := by
    rw [← path, drop, removed]
    rfl
  have found := Guest.find?_retractionPath accepted answers
  rw [dropped, removed, isPulled]
  refine ⟨rfl, ?_⟩
  simp only [undefine, Guest.eraseFirst_eq, found]
  by_cases inherits : kind.Inherits receiver name cell
  · have plain : kind ≠ .constant := by
      rw [inherits.1]
      decide
    rw [if_pos inherits]
    constructor
    case registry => exact ⟨_, rfl⟩
    case generation => rw [if_neg plain]; rfl
    case undefined => exact fun own => absurd inherits own
    case inherited => exact fun _ => rfl
    case untouched => exact fun _ _ => rfl
  · rw [if_neg inherits]
    constructor
    case registry => exact ⟨_, rfl⟩
    case generation =>
      rw [Option.isSome_some, Bool.true_and, Generation.count_bumpIf, Kind.isCached_eq_decide]
      simp only [decide_eq_true_eq]
    case undefined =>
      intro _
      rw [Option.elim_some, Guest.content_erase, if_pos rfl]
    case inherited => exact fun inherited => absurd inherited inherits
    case untouched =>
      intro other different
      rw [Option.elim_some, Guest.content_erase, if_neg different]

/-- In whatever guest the registry of a reachable session is used: a refresh that registers a name has
taken the value of a cell, and a removal right after it restores the registry and undefines that cell.
One that belongs to an ancestor of the receiver stays as it is. -/
theorem remove_retracts_pull {result : Option Handle} (reached : Reachable session)
    (held : opened.registry = session.registry) (classified : opened.classify name = .ok kind)
    (absent : opened.registry.entryAt? (opened.keyFor kind receiver name) = none)
    (refreshed : opened.refresh receiver name = .ok (result, pulled))
    (made : pulled.registry.entryAt? (opened.keyFor kind receiver name) ≠ none) :
    ∃ cell value handle after,
      opened.guest.answering? kind receiver name = some cell ∧
      opened.guest.read cell = some value ∧
      pulled.registry.binding? (opened.keyFor kind receiver name) =
        some (.firstSeen kind (opened.keyFor kind receiver name) value) ∧
      pulled.remove receiver name = .ok (some handle, after) ∧
      Retracted kind receiver name cell opened after := by
  have booked : opened.registry.Booked := held ▸ reached.sound.booked
  have accepted := opened.accepts_of_classify classified
  have itsKey : opened.keyFor kind receiver name =
      ⟨opened.guest.anchorFor kind receiver name, name⟩ := rfl
  have isPull : pulled = (opened.pull receiver kind name).2 := by
    simp only [refresh, classified, Except.ok.injEq, Prod.mk.injEq] at refreshed
    exact refreshed.2.symm
  rw [isPull] at made
  obtain ⟨cell, value, answers, read, registered⟩ :=
    booked.pull_of_made accepted itsKey absent made
  have isPulled : pulled = { opened with
      registry := (opened.registry.upsert
        (.firstSeen kind (opened.keyFor kind receiver name) value)).2 } := by
    rw [isPull, ← registered]
    rfl
  obtain ⟨handle, retracted⟩ :=
    retracted_drop booked accepted itsKey absent answers isPulled kind
  refine ⟨cell, value, ⟨opened.registry.issued⟩, _, answers, read, ?_, ?_, retracted⟩
  · have stored := opened.registry.entryAt?_upsert
      (.firstSeen kind (opened.keyFor kind receiver name) value)
    rw [isPulled]
    exact congrArg (Option.map Entry.binding) stored
  · have sameKey : pulled.keyFor kind receiver name = opened.keyFor kind receiver name := by
      rw [isPulled]
      rfl
    have sameSettings : pulled.settings = opened.settings := by
      rw [isPulled]
      exact opened.registry.settings_upsert _
    have alsoClassified : pulled.classify name = .ok kind := by
      rw [classify, sameSettings]
      exact classified
    simp only [remove, alsoClassified, sameKey]
    rw [← handle]

/-- A constant that the scope above the top level has answered goes from there. -/
theorem borrowed_constant_retracted :
    let session : Session := start default {}
    let cell := Kind.constant.cell ⟨0⟩ "MAX"
    let opened : Session := { session with guest := Guest.fresh.write cell (.int 7) }
    let pulled := (opened.pull ⟨1⟩ .constant "MAX").2
    Reachable session ∧ opened.registry = session.registry ∧
      opened.classify "MAX" = .ok .constant ∧
      opened.registry.entryAt? (opened.keyFor .constant ⟨1⟩ "MAX") = none ∧
      opened.refresh ⟨1⟩ "MAX" = .ok (some ⟨0⟩, pulled) ∧
      pulled.registry.entryAt? (opened.keyFor .constant ⟨1⟩ "MAX") ≠ none ∧
      ∃ handle after, pulled.remove ⟨1⟩ "MAX" = .ok (some handle, after) ∧
        Retracted .constant ⟨1⟩ "MAX" cell opened after := by
  intro session cell opened pulled
  have reached : Reachable session := .start default {} .start
  have held : opened.registry = session.registry := rfl
  have classified : opened.classify "MAX" = .ok .constant := by decide
  have absent : opened.registry.entryAt? (opened.keyFor .constant ⟨1⟩ "MAX") = none := by decide
  have refreshed : opened.refresh ⟨1⟩ "MAX" = .ok (some ⟨0⟩, pulled) := by decide
  have made : pulled.registry.entryAt? (opened.keyFor .constant ⟨1⟩ "MAX") ≠ none := by decide
  obtain ⟨found, _, handle, after, answers, _, _, removed, retracted⟩ :=
    remove_retracts_pull reached held classified absent refreshed made
  have itsCell : opened.guest.answering? .constant ⟨1⟩ "MAX" = some cell := by decide
  obtain rfl : cell = found := Option.some.inj (itsCell.symm.trans answers)
  exact ⟨reached, held, classified, absent, refreshed, made, handle, after, removed, retracted⟩

/-- The receiver has no class variable of its own and shows its superclass's, which outlives the
removal. -/
theorem inherited_class_variable_stays :
    let cell := Kind.classVariable.cell ⟨0⟩ "@@shared"
    let opened : Session := start ((Guest.fresh.addModule "Foo" true).2.write cell (.int 1)) {}
    let pulled := (opened.perform (.refresh ⟨2⟩ "@@shared")).2
    let after := (pulled.perform (.remove ⟨2⟩ "@@shared")).2
    Reachable opened ∧ opened.classify "@@shared" = .ok .classVariable ∧
      opened.registry.entryAt? (opened.keyFor .classVariable ⟨2⟩ "@@shared") = none ∧
      opened.guest.answering? .classVariable ⟨2⟩ "@@shared" = some cell ∧
      (pulled.registry.value? (opened.keyFor .classVariable ⟨2⟩ "@@shared")) = some (.int 1) ∧
      after.registry.entryAt? (opened.keyFor .classVariable ⟨2⟩ "@@shared") = none ∧
      after.guest.content cell ≠ none := by
  intro cell opened pulled after
  exact ⟨.start _ {} .start, by decide, by decide, by decide, by decide, by decide, by decide⟩

end Session

end SharedBindings
