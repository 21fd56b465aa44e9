import SharedBindings.Proofs.Session.WellFormed

/-!
# Resync mirrors what it tracks

No two passes of a resync share a name, so in a guest whose tables have fitting names every name is
left to the pass of its own kind. What that pass sees is what the registry has afterwards, pending
bindings apart, and what it does not see stays as it was.
-/

namespace SharedBindings

/-- The kind that the names in a place are for. -/
def Place.kind : Place → Kind
  | .within _ .constants => .constant
  | .within _ .instanceVariables => .instanceVariable
  | .within _ .classVariables => .classVariable
  | .globals => .globalVariable
  | .locals => .localVariable

namespace Guest

/-- No table has a name that only other tables could have. -/
def NamesFit (guest : Guest) : Prop :=
  ∀ place, ∀ name ∈ guest.names place, ∀ kind : Kind,
    kind.accepts name = true → place.kind.accepts name = true

/-- A value that a resync under a policy finds outside of the constants. -/
def Shows (guest : Guest) (policy : LocalPolicy) (receiver : Scope) (key : Key) (value : Value) :
    Prop :=
  ∃ kind ∈ policy.resyncOrder, kind ≠ .constant ∧ kind.accepts key.name = true ∧
    guest.Sees receiver kind key value

variable {guest : Guest} {receiver : Scope} {kind : Kind} {key : Key} {value : Value}

theorem mem_names_iff {place : Place} {name : String} :
    name ∈ guest.names place ↔ (guest.content ⟨place, name⟩).isSome :=
  OrderedMap.lookup_isSome_iff.symm

theorem namesFit_fresh : fresh.NamesFit := by
  intro place name member kind accepted
  match place with
  | .globals =>
      -- The name of the first predefined global is no name of any kind, the second one is a global's.
      have named : name ∈ ["$0", "$stdout"] := member
      simp only [List.mem_cons, List.not_mem_nil, or_false] at named
      rcases named with rfl | rfl
      · cases kind <;> contradiction
      · decide
  | .locals => contradiction
  | .within scope slot =>
      rw [names, table] at member
      cases found : fresh.module? scope with
      | none =>
          rw [found] at member
          contradiction
      | some held =>
          have first : held ∈ fresh.modules := List.mem_of_getElem? found
          have empty : held.table slot = ∅ := by
            simp only [fresh, List.mem_cons, List.not_mem_nil, or_false] at first
            rcases first with rfl | rfl <;> cases slot <;> rfl
          rw [found, Option.map_some, Option.getD_some, empty] at member
          contradiction

theorem NamesFit.write (fits : guest.NamesFit) {cell : Cell} (value : Value)
    (fitting : ∀ kind : Kind, kind.accepts cell.name = true →
      cell.place.kind.accepts cell.name = true) :
    (guest.write cell value).NamesFit := by
  intro place name member kind accepted
  rw [mem_names_iff, content_write] at member
  split at member
  · rename_i here
    obtain ⟨rfl, _⟩ := here
    exact fitting kind accepted
  · exact fits place name (mem_names_iff.mpr member) kind accepted

theorem NamesFit.erase (fits : guest.NamesFit) (cell : Cell) : (guest.erase cell).NamesFit := by
  intro place name member kind accepted
  rw [mem_names_iff, content_erase] at member
  split at member
  · contradiction
  · exact fits place name (mem_names_iff.mpr member) kind accepted

theorem NamesFit.eraseFirst (fits : guest.NamesFit) (path : List Cell) :
    (guest.eraseFirst path).2.NamesFit := by
  unfold Guest.eraseFirst
  split
  · exact fits.erase _
  · exact fits

/-- A kind keeps its names in tables that they fit. -/
theorem fits_cell {name : String} (accepted : kind.accepts name = true) (scope : Scope) :
    (kind.cell scope name).place.kind.accepts (kind.cell scope name).name = true := by
  cases kind with
  | localGlobal => exact Kind.accepts_guestName_localGlobal accepted
  | constant | instanceVariable | classVariable | globalVariable | localVariable => exact accepted

theorem NamesFit.receiveAll (fits : guest.NamesFit) {deliveries : List Delivery}
    (fitting : ∀ delivery ∈ deliveries, delivery.binding.kind.accepts delivery.binding.name = true ∧
      ∃ scope, delivery.cell = delivery.binding.kind.cell scope delivery.binding.name) :
    (guest.receiveAll deliveries).NamesFit := by
  induction deliveries generalizing guest with
  | nil => exact fits
  | cons delivery rest ih =>
      obtain ⟨accepted, scope, itsCell⟩ := fitting delivery List.mem_cons_self
      have received : (guest.receive delivery).NamesFit := fits.write _ fun _ _ =>
        itsCell ▸ fits_cell accepted scope
      exact ih received fun other member => fitting other (List.mem_cons_of_mem _ member)

theorem NamesFit.accepts_of_sees (fits : guest.NamesFit)
    (sees : guest.Sees receiver kind key value) {other : Kind}
    (accepted : other.accepts key.name = true) : kind.accepts key.name = true := by
  have member := mem_names_of_read sees.2
  cases kind with
  | localGlobal => exact sees.1.2.1
  | constant | instanceVariable | classVariable | globalVariable | localVariable =>
      exact fits _ _ member other accepted

end Guest

namespace Registry

/-- Every binding has a name of its kind. -/
def WellNamed (registry : Registry) : Prop :=
  ∀ key entry, registry.entryAt? key = some entry → entry.binding.kind.accepts key.name = true

variable {registry before after : Registry} {guest : Guest} {receiver top : Scope} {kind : Kind}
  {kinds : List Kind} {key : Key}

theorem Sound.wellNamed (sound : registry.Sound top) : registry.WellNamed := by
  intro key entry stored
  obtain ⟨rfl, formed⟩ := sound.held stored
  exact formed.named

theorem WellNamed.of_observes (named : before.WellNamed) (observes : before.Observes after) :
    after.WellNamed := by
  intro key entry stored
  cases held : before.entryAt? key with
  | none => exact (observes.found held stored).2.1
  | some earlier =>
      obtain ⟨_, seen⟩ := observes.seenAs held stored
      exact seen.kind ▸ named _ _ held

theorem resync_of_eager (eager : registry.settings.lazy = false) :
    registry.resync guest receiver =
      registry.resyncKinds guest receiver registry.settings.localPolicy.resyncOrder := by
  rw [resync, eager]
  rfl

theorem WellNamed.resyncKinds (named : registry.WellNamed) :
    (registry.resyncKinds guest receiver kinds).WellNamed :=
  named.of_observes (registry.observes_resyncKinds guest receiver kinds)

theorem entryAt?_observeSightings_of_refused (named : registry.WellNamed) (fits : guest.NamesFit)
    (refused : kind.accepts key.name = false) :
    (registry.observeAll kind (guest.sightings receiver kind)).entryAt? key =
      registry.entryAt? key := by
  cases stored : registry.entryAt? key with
  | none => exact registry.entryAt?_observeAll_of_refused refused stored
  | some entry =>
      rw [← stored]
      apply entryAt?_observeSightings_of_unseen
      intro value sees
      have accepted := fits.accepts_of_sees sees (named _ _ stored)
      rw [refused] at accepted
      contradiction

/-- A pass leaves names of other kinds alone. -/
theorem entryAt?_resyncKind_of_refused (named : registry.WellNamed) (fits : guest.NamesFit)
    (refused : kind.accepts key.name = false) :
    (registry.resyncKind guest receiver kind).entryAt? key = registry.entryAt? key := by
  cases kind with
  | constant =>
      have plain : key.name ≠ argumentsName := by
        intro isArguments
        rw [isArguments] at refused
        contradiction
      have above : ((registry.observeArguments guest).2.observeAbove guest).entryAt? key =
          registry.entryAt? key := by
        rw [entryAt?_beforeSightings registry plain]
        cases stored : registry.entryAt? key with
        | none => rfl
        | some entry =>
            have other : entry.binding.kind ≠ .constant := by
              intro constant
              have accepted := named _ _ stored
              rw [constant, refused] at accepted
              contradiction
            simp [Entry.change, Binding.seenAbove, other]
      have observes := (registry.observes_observeArguments guest).trans
        ((registry.observeArguments guest).2.observes_observeAbove guest)
      exact (entryAt?_observeSightings_of_refused (named.of_observes observes) fits refused).trans above
  | localVariable | localGlobal | instanceVariable | classVariable | globalVariable =>
      exact entryAt?_observeSightings_of_refused named fits refused

theorem entryAt?_resyncKinds_of_refused (named : registry.WellNamed) (fits : guest.NamesFit)
    (refused : ∀ kind ∈ kinds, kind.accepts key.name = false) :
    (registry.resyncKinds guest receiver kinds).entryAt? key = registry.entryAt? key := by
  induction kinds generalizing registry with
  | nil => rfl
  | cons kind rest ih =>
      have first : (registry.resyncKind guest receiver kind).entryAt? key = registry.entryAt? key :=
        entryAt?_resyncKind_of_refused named fits (refused kind List.mem_cons_self)
      have observes := registry.observes_resyncKind guest receiver kind
      have later := ih (named.of_observes observes) fun other member =>
        refused other (List.mem_cons_of_mem _ member)
      exact later.trans first

/-- The pass of a kind has its names for itself: no earlier pass and no later one touches them. -/
theorem exists_ownPass (receiver : Scope) (eager : registry.settings.lazy = false)
    (named : registry.WellNamed) (fits : guest.NamesFit)
    (member : kind ∈ registry.settings.localPolicy.resyncOrder) :
    ∃ earlier : List Kind, ∀ key, kind.accepts key.name = true →
      (registry.resyncKinds guest receiver earlier).entryAt? key = registry.entryAt? key ∧
        (registry.resync guest receiver).entryAt? key =
          ((registry.resyncKinds guest receiver earlier).resyncKind guest receiver kind).entryAt?
            key := by
  obtain ⟨earlier, later, order⟩ := List.append_of_mem member
  refine ⟨earlier, fun key accepted => ?_⟩
  have once := LocalPolicy.nodup_resyncOrder registry.settings.localPolicy
  rw [order, List.nodup_append, List.nodup_cons] at once
  obtain ⟨_, ⟨notLater, _⟩, notEarlier⟩ := once
  have refused (other : Kind) (alsoMember : other ∈ earlier ++ kind :: later)
      (different : other ≠ kind) : other.accepts key.name = false := by
    by_contra alsoAccepted
    have alike := Kind.spelling_eq_of_accepts (by simpa using alsoAccepted) accepted
    have tracked : other ∈ registry.settings.localPolicy.resyncOrder := order ▸ alsoMember
    exact different (LocalPolicy.eq_of_mem_candidateKinds
      (LocalPolicy.mem_candidateKinds_of_mem_resyncOrder tracked)
      (LocalPolicy.mem_candidateKinds_of_mem_resyncOrder member) alike)
  have before : ∀ other ∈ earlier, other.accepts key.name = false := fun other inEarlier =>
    refused other (List.mem_append_left _ inEarlier)
      (notEarlier other inEarlier kind List.mem_cons_self)
  have after : ∀ other ∈ later, other.accepts key.name = false := fun other inLater =>
    refused other (List.mem_append_right _ (List.mem_cons_of_mem _ inLater))
      fun same => notLater (same ▸ inLater)
  constructor
  · exact entryAt?_resyncKinds_of_refused named fits before
  · have namedThen : ((registry.resyncKinds guest receiver earlier).resyncKind guest receiver
        kind).WellNamed := named.resyncKinds.of_observes (observes_resyncKind _ guest receiver kind)
    rw [resync_of_eager eager, order, resyncKinds, List.foldl_append, List.foldl_cons]
    exact entryAt?_resyncKinds_of_refused namedThen fits after

theorem entryAt?_resync_of_untracked (eager : registry.settings.lazy = false)
    (named : registry.WellNamed) (fits : guest.NamesFit)
    (refused : ∀ kind ∈ registry.settings.localPolicy.resyncOrder, kind.accepts key.name = false) :
    (registry.resync guest receiver).entryAt? key = registry.entryAt? key := by
  rw [resync_of_eager eager]
  exact entryAt?_resyncKinds_of_refused named fits refused

/-- What a resync makes of a name that is no constant's depends on its own cell alone. -/
theorem binding?_resync_of_sees {value : Value} (eager : registry.settings.lazy = false)
    (named : registry.WellNamed) (fits : guest.NamesFit)
    (shown : guest.Shows registry.settings.localPolicy receiver key value) :
    ∃ kind : Kind, kind.accepts key.name = true ∧
      (registry.resync guest receiver).binding? key =
        Binding.seen? kind key value (registry.binding? key) := by
  obtain ⟨kind, member, plain, accepted, sees⟩ := shown
  obtain ⟨earlier, own⟩ := exists_ownPass receiver eager named fits member
  obtain ⟨untouched, passed⟩ := own key accepted
  refine ⟨kind, accepted, ?_⟩
  have seen := (registry.resyncKinds guest receiver earlier).binding?_observeSightings_of_sees sees
  rw [binding?, passed, resyncKind_of_ne_constant _ _ _ plain, ← binding?, seen, binding?, untouched,
    ← binding?]

theorem entryAt?_resync_of_unseen (eager : registry.settings.lazy = false)
    (named : registry.WellNamed) (fits : guest.NamesFit)
    (plain : Kind.constant.accepts key.name = false)
    (unseen : ∀ value, ¬ guest.Shows registry.settings.localPolicy receiver key value) :
    (registry.resync guest receiver).entryAt? key = registry.entryAt? key := by
  by_cases tracked : ∃ kind ∈ registry.settings.localPolicy.resyncOrder,
      kind.accepts key.name = true
  · obtain ⟨kind, member, accepted⟩ := tracked
    have different : kind ≠ .constant := by
      rintro rfl
      rw [plain] at accepted
      contradiction
    obtain ⟨earlier, own⟩ := exists_ownPass receiver eager named fits member
    obtain ⟨untouched, passed⟩ := own key accepted
    rw [passed, resyncKind_of_ne_constant _ _ _ different, entryAt?_observeSightings_of_unseen,
      untouched]
    exact fun value sees => unseen value ⟨kind, member, different, accepted, sees⟩
  · apply entryAt?_resync_of_untracked eager named fits
    intro kind member
    by_contra accepted
    exact tracked ⟨kind, member, by simpa using accepted⟩

/-- One registry follows from another by taking over what a guest shows. -/
structure Mirrors (guest : Guest) (receiver : Scope) (before after : Registry) : Prop where
  shown : ∀ key value, guest.Shows before.settings.localPolicy receiver key value →
    (∃ pending, before.entryAt? key = some pending ∧ pending.binding.isPending = true ∧
        after.entryAt? key = some pending) ∨
      (∀ pending, before.entryAt? key = some pending → pending.binding.isPending = false) ∧
        ∃ entry, after.entryAt? key = some entry ∧ entry.binding.value? = some value
  /-- Constants apart, nothing else is changed or new. -/
  unshown : ∀ key entry,
    (∀ value, ¬ guest.Shows before.settings.localPolicy receiver key value) →
      (before.entryAt? key = some entry ∨ after.entryAt? key = some entry) →
        entry.binding.kind ≠ .constant → after.entryAt? key = before.entryAt? key

theorem mirrors_resync (eager : registry.settings.lazy = false) (named : registry.WellNamed)
    (fits : guest.NamesFit) (receiver : Scope) :
    registry.Mirrors guest receiver (registry.resync guest receiver) where
  shown key value shown := by
    obtain ⟨kind, accepted, seen⟩ := binding?_resync_of_sees eager named fits shown
    cases stored : registry.entryAt? key with
    | none =>
        refine .inr ⟨nofun, ?_⟩
        have absent : registry.binding? key = none := binding?_of_absent stored
        rw [absent, Binding.seen?, Binding.ofGuest?, if_pos accepted] at seen
        obtain ⟨entry, kept, made⟩ := Option.map_eq_some_iff.mp seen
        exact ⟨entry, kept, by rw [made]; rfl⟩
    | some earlier =>
        obtain ⟨later, kept, _⟩ := (registry.observes_resync guest receiver).held stored
        have observed : later = earlier.binding.observe value := by
          rw [binding?_of_entryAt? kept, binding?_of_entryAt? stored] at seen
          exact Option.some.inj seen
        by_cases pending : earlier.binding.isPending = true
        · rw [earlier.binding.observe_of_pending value pending] at observed
          exact .inl ⟨earlier, rfl, pending, by rw [kept, observed]⟩
        · have settled : earlier.binding.isPending = false := by simpa using pending
          refine .inr ⟨fun held same => Option.some.inj same ▸ settled, _, kept, ?_⟩
          rw [observed]
          exact Binding.value?_observe_of_settled settled value
  unshown key entry unseen stored different := by
    have itsKind : entry.binding.kind.accepts key.name = true :=
      stored.elim (named key entry)
        (named.of_observes (registry.observes_resync guest receiver) key entry)
    have plain : Kind.constant.accepts key.name = false := Kind.constant_refuses itsKind different
    exact entryAt?_resync_of_unseen eager named fits plain unseen

end Registry

namespace Session

/-- The registry of an eager session mirrors any guest with fitting names. -/
theorem reachable_resync_mirrors {session : Session} (reached : Reachable session)
    (eager : session.settings.lazy = false) {guest : Guest} (fits : guest.NamesFit)
    (receiver : Scope) :
    session.registry.Mirrors guest receiver (session.registry.resync guest receiver) :=
  Registry.mirrors_resync eager reached.sound.wellNamed fits receiver

theorem instance_variable_mirrored :
    let session := ((start Guest.fresh { lazy := false, localPolicy := .persistent }).perform
      (.put ⟨1⟩ "total" (.int 3))).2
    let guest := (Guest.fresh.write (Kind.instanceVariable.cell ⟨1⟩ "@count") (.int 7)).write
      (Kind.localVariable.cell ⟨1⟩ "total") (.int 5)
    Reachable session ∧ session.settings.lazy = false ∧ guest.NamesFit ∧
      session.registry.Mirrors guest ⟨1⟩ (session.registry.resync guest ⟨1⟩) := by
  intro session guest
  have reached : Reachable session := .perform (.start Guest.fresh _ .start) _
  have fits : guest.NamesFit :=
    (Guest.namesFit_fresh.write (.int 7) fun _ _ => by decide).write (.int 5) fun _ _ => by decide
  exact ⟨reached, by decide, fits, reachable_resync_mirrors reached (by decide) fits ⟨1⟩⟩

end Session

end SharedBindings
