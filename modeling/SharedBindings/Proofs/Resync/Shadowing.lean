import SharedBindings.Proofs.Resync.Mirroring

/-!
# Nearer constants shadow farther ones

Guest code takes a constant from the first scope that has it: the receiver, then the top level, then
the scope above the top level. After a resync of an eager session a host reads the same value, but
in one case: a constant that was registered under a receiver without being defined there gets its
value from the scope above, even if the top level defines it too.
-/

namespace SharedBindings

namespace Guest

variable {guest : Guest} {receiver scope : Scope} {name : String} {α : Type}

theorem findSome?_eraseDups (scopes : List Scope) (answer : Scope → Option α) :
    scopes.eraseDups.findSome? answer = scopes.findSome? answer := by
  match scopes with
  | [] => rfl
  | first :: rest =>
      rw [List.eraseDups_cons, List.findSome?_cons, List.findSome?_cons]
      cases silent : answer first with
      | some _ => rfl
      | none =>
          have others : (rest.filter fun scope => !scope == first).findSome? answer =
              rest.findSome? answer := by
            induction rest with
            | nil => rfl
            | cons second later ih =>
                by_cases same : second = first
                · simp [same, silent, ih]
                · simp [same, List.findSome?_cons, ih]
          exact (findSome?_eraseDups _ answer).trans others
termination_by scopes.length
decreasing_by
  exact Nat.lt_succ_of_le (List.length_filter_le _ rest)

theorem findSome?_lookupScopes (answer : Scope → Option α) :
    (guest.lookupScopes receiver).findSome? answer =
      ((guest.receiver? receiver).bind answer).or
        ((answer guest.top).or ((guest.superclass? guest.top).bind answer)) := by
  rw [lookupScopes, findSome?_eraseDups, List.findSome?_append, List.findSome?_cons]
  cases guest.receiver? receiver <;> cases guest.superclass? guest.top <;>
    cases answer guest.top <;> simp

def constant? (guest : Guest) (name : String) (scope : Scope) : Option Value :=
  guest.read (Kind.constant.cell scope name)

theorem above?_of_superclass {parent : Scope} (up : guest.superclass? guest.top = some parent) :
    guest.above? name = guest.constant? name parent := by
  rw [above?, up]
  rfl

theorem readFirst_constant :
    guest.readFirst (guest.searchPath .constant receiver name) =
      ((guest.receiver? receiver).bind (guest.constant? name)).or
        ((guest.constant? name guest.top).or (guest.above? name)) := by
  rw [readFirst, searchPath, List.findSome?_map]
  exact findSome?_lookupScopes (guest.constant? name)

theorem mem_constantScopes_iff (topTracked : receiver = guest.top → guest.isDefined receiver = true) :
    scope ∈ guest.constantScopes receiver ↔
      guest.receiver? receiver = some scope ∨ scope = guest.top := by
  rw [constantScopes, List.mem_append, Option.mem_toList]
  by_cases here : receiver = guest.top
  · have defined : guest.receiver? guest.top = some guest.top :=
      guest.receiver?_eq_some_iff.mpr ⟨here ▸ topTracked here, rfl⟩
    simp [here, defined, eq_comm]
  · simp [here]

/-- What the pass of the constants sees of a name in a scope. -/
def seenIn? (guest : Guest) (receiver : Scope) (name : String) (scope : Scope) : Option Value :=
  if scope ∈ guest.constantScopes receiver then guest.constant? name scope else none

theorem seenIn?_eq_some_iff {value : Value} (plain : name ≠ argumentsName) :
    guest.seenIn? receiver name scope = some value ↔
      guest.Sees receiver .constant ⟨scope, name⟩ value := by
  rw [seenIn?, Option.ite_none_right_eq_some]
  constructor
  · rintro ⟨tracked, answer⟩
    exact ⟨⟨tracked, plain⟩, answer⟩
  · rintro ⟨⟨tracked, _⟩, answer⟩
    exact ⟨tracked, answer⟩

theorem not_sees_of_seenIn? (plain : name ≠ argumentsName)
    (silent : guest.seenIn? receiver name scope = none) (value : Value) :
    ¬ guest.Sees receiver .constant ⟨scope, name⟩ value := by
  intro sees
  exact nomatch silent.symm.trans ((seenIn?_eq_some_iff plain).mpr sees)

theorem seenIn?_of_tracked (tracked : guest.receiver? receiver = some scope ∨ scope = guest.top)
    (topTracked : receiver = guest.top → guest.isDefined receiver = true) :
    guest.seenIn? receiver name scope = guest.constant? name scope :=
  if_pos ((mem_constantScopes_iff topTracked).mpr tracked)

end Guest

namespace Registry

def keyIn? (registry : Registry) (name : String) (scope : Scope) : Option Key :=
  Option.guard (fun key => (registry.entryAt? key).isSome) ⟨scope, name⟩

/-- Where a host finds a constant that it asks for under a receiver. -/
def nearest? (registry : Registry) (guest : Guest) (receiver : Scope) (name : String) :
    Option Key :=
  (registry.keyIn? name receiver).or
    ((registry.keyIn? name guest.top).or
      ((guest.superclass? guest.top).bind (registry.keyIn? name)))

variable {registry known : Registry} {guest : Guest} {receiver scope : Scope} {name : String}
  {key : Key} {entry : Entry} {value : Value}

theorem keyIn?_eq_none_iff : registry.keyIn? name scope = none ↔
    registry.entryAt? ⟨scope, name⟩ = none := by
  simp [keyIn?]

theorem eq_of_keyIn? (found : registry.keyIn? name scope = some key) : key = ⟨scope, name⟩ :=
  (Option.guard_eq_some_iff.mp found).1.symm

theorem nearest?_eq_some (nearest : registry.nearest? guest receiver name = some key) :
    key = ⟨receiver, name⟩ ∨
      registry.entryAt? ⟨receiver, name⟩ = none ∧
        (key = ⟨guest.top, name⟩ ∨
          registry.entryAt? ⟨guest.top, name⟩ = none ∧
            ∃ parent, guest.superclass? guest.top = some parent ∧ key = ⟨parent, name⟩) := by
  simp only [nearest?, Option.or_eq_some_iff, keyIn?_eq_none_iff, Option.bind_eq_some_iff] at nearest
  rcases nearest with own | ⟨noOwn, top | ⟨noTop, parent, above, found⟩⟩
  · exact .inl (eq_of_keyIn? own)
  · exact .inr ⟨noOwn, .inl (eq_of_keyIn? top)⟩
  · exact .inr ⟨noOwn, .inr ⟨noTop, parent, above, eq_of_keyIn? found⟩⟩

theorem value_resyncConstants_of_sees (sees : guest.Sees receiver .constant key value)
    (stored : (known.resyncKind guest receiver .constant).entryAt? key = some entry)
    (settled : entry.binding.isPending = false) : entry.binding.value? = some value := by
  have seen := known.binding?_resyncConstants_of_sees sees
  rw [binding?_of_entryAt? stored] at seen
  cases before : known.binding? key with
  | none =>
      rw [before, Binding.seen?, Binding.ofGuest?] at seen
      split at seen
      · rw [Option.some.inj seen]
        rfl
      · contradiction
  | some earlier =>
      have observed : entry.binding = earlier.observe value :=
        Option.some.inj (by rw [seen, before]; rfl)
      rw [observed, Binding.isPending_observe] at settled
      rw [observed]
      exact Binding.value?_observe_of_settled settled value

theorem value_resyncConstants_of_unseen (sound : known.Sound guest.top)
    (plain : key.name ≠ argumentsName) (unseen : ∀ value, ¬ guest.Sees receiver .constant key value)
    (stored : (known.resyncKind guest receiver .constant).entryAt? key = some entry)
    (constant : entry.binding.kind = .constant) (settled : entry.binding.isPending = false)
    (above : guest.above? key.name = some value) : entry.binding.value? = some value := by
  rw [entryAt?_resyncConstants_of_unseen known plain unseen] at stored
  obtain ⟨earlier, before, rfl⟩ := Option.map_eq_some_iff.mp stored
  obtain ⟨rfl, _⟩ := sound.held before
  have seenAs := earlier.binding.seenAs_seenAbove guest
  rw [Entry.binding_change] at constant settled ⊢
  rw [seenAs.kind] at constant
  rw [seenAs.isPending] at settled
  have observed : earlier.binding.seenAbove guest = earlier.binding.observe value := by
    have answer : guest.above? earlier.binding.name = some value := above
    rw [Binding.seenAbove, if_pos ⟨constant, plain⟩, answer]
  rw [observed]
  exact Binding.value?_observe_of_settled settled value

theorem entryAt?_resyncKinds_of_absent {kinds : List Kind} (plain : .constant ∉ kinds)
    (accepted : Kind.constant.accepts key.name = true) (absent : registry.entryAt? key = none) :
    (registry.resyncKinds guest receiver kinds).entryAt? key = none := by
  induction kinds generalizing registry with
  | nil => exact absent
  | cons kind rest ih =>
      rw [List.mem_cons, not_or] at plain
      have refused : kind.accepts key.name = false := by
        by_contra alsoAccepted
        exact plain.1 (Kind.eq_constant_of_accepts (by simpa using alsoAccepted) accepted).symm
      have stillAbsent : (registry.resyncKind guest receiver kind).entryAt? key = none := by
        rw [resyncKind_of_ne_constant _ _ _ (Ne.symm plain.1)]
        exact registry.entryAt?_observeAll_of_refused refused absent
      exact ih plain.2 stillAbsent

/-- The constants come last, after passes that register none. -/
theorem exists_constantPass (receiver : Scope) (eager : registry.settings.lazy = false)
    (ownLocals : registry.settings.localPolicy ≠ .globalBacked) (guest : Guest) :
    ∃ earlier : List Kind,
      registry.resync guest receiver =
          (registry.resyncKinds guest receiver earlier).resyncKind guest receiver .constant ∧
        ∀ key, Kind.constant.accepts key.name = true → registry.entryAt? key = none →
          (registry.resyncKinds guest receiver earlier).entryAt? key = none := by
  obtain ⟨earlier, order, plain⟩ := LocalPolicy.exists_resyncOrder_eq_append ownLocals
  refine ⟨earlier, ?_, fun key accepted absent =>
    entryAt?_resyncKinds_of_absent plain accepted absent⟩
  rw [resync_of_eager eager, order, resyncKinds, List.foldl_append]
  rfl

section Resync

variable (eager : registry.settings.lazy = false)
  (ownLocals : registry.settings.localPolicy ≠ .globalBacked)
  (accepted : Kind.constant.accepts name = true) (plain : name ≠ argumentsName)

include eager ownLocals accepted plain

theorem constant_absent_resync_iff :
    (registry.resync guest receiver).entryAt? ⟨scope, name⟩ = none ↔
      registry.entryAt? ⟨scope, name⟩ = none ∧ guest.seenIn? receiver name scope = none := by
  obtain ⟨earlier, last, missing⟩ := exists_constantPass receiver eager ownLocals guest
  constructor
  · intro absent
    constructor
    · by_contra registered
      obtain ⟨entry, before⟩ := Option.ne_none_iff_exists'.mp registered
      obtain ⟨later, kept, _⟩ := (registry.observes_resync guest receiver).held before
      exact nomatch absent.symm.trans kept
    · by_contra answered
      obtain ⟨value, answer⟩ := Option.ne_none_iff_exists'.mp answered
      have seen := (registry.resyncKinds guest receiver earlier).binding?_resyncConstants_of_sees
        (Guest.seenIn?_eq_some_iff plain |>.mp answer)
      rw [← last, binding?, absent] at seen
      cases before : (registry.resyncKinds guest receiver earlier).binding? ⟨scope, name⟩ with
      | none => simp [before, Binding.seen?, Binding.ofGuest?, accepted] at seen
      | some binding => simp [before, Binding.seen?] at seen
  · rintro ⟨absent, silent⟩
    rw [last, entryAt?_resyncConstants_of_unseen _ plain (Guest.not_sees_of_seenIn? plain silent),
      missing ⟨scope, name⟩ accepted absent]
    rfl

/-- A settled constant has the value that its own scope shows, or else that of the scope above. -/
theorem value_resync_constant (sound : registry.Sound guest.top)
    (stored : (registry.resync guest receiver).entryAt? ⟨scope, name⟩ = some entry)
    (settled : entry.binding.isPending = false)
    (told : (guest.seenIn? receiver name scope).or (guest.above? name) = some value) :
    entry.binding.value? = some value := by
  have constant : entry.binding.kind = .constant :=
    Kind.eq_constant_of_accepts (sound.resync.wellNamed _ _ stored) accepted
  obtain ⟨earlier, last, _⟩ := exists_constantPass receiver eager ownLocals guest
  rw [last] at stored
  rcases Option.or_eq_some_iff.mp told with answer | ⟨silent, above⟩
  · exact value_resyncConstants_of_sees (Guest.seenIn?_eq_some_iff plain |>.mp answer) stored settled
  · exact value_resyncConstants_of_unseen (sound.resyncKinds _) plain
      (Guest.not_sees_of_seenIn? plain silent) stored constant settled above

end Resync

end Registry

namespace Session

variable {session after : Session} {receiver : Scope} {name : String} {handle : Handle}
  {binding : Binding} {value : Value}

theorem settings_resync (session : Session) (receiver : Scope) :
    (session.resync receiver).settings = session.settings :=
  session.registry.settings_resync session.guest receiver

theorem classify_of_accepts_constant (accepted : Kind.constant.accepts name = true) :
    session.classify name = .ok .constant := by
  have candidate : Kind.constant ∈ session.settings.localPolicy.candidateKinds := by
    simp [LocalPolicy.candidateKinds]
  rw [classify, LocalPolicy.classify_eq_some_iff.mpr ⟨candidate, accepted⟩]

theorem locate_constant_of_eager (eager : session.settings.lazy = false)
    (plain : name ≠ argumentsName) :
    session.locate .constant receiver name =
      (session.registry.nearest? session.guest receiver name, session) := by
  have key : session.keyFor .constant receiver name = ⟨receiver, name⟩ := by
    rw [keyFor, Guest.anchorFor, if_neg plain]
  simp only [locate, key, eager]
  by_cases registered : (session.registry.entryAt? ⟨receiver, name⟩).isSome = true
  · simp [Registry.nearest?, Registry.keyIn?, registered]
  · have here : session.registry.keyIn? name receiver = none := by
      simp [Registry.keyIn?, registered]
    have own : (session.guest.receiver? receiver).bind (session.registry.keyIn? name) = none := by
      rw [Guest.receiver?]
      split
      · exact here
      · rfl
    rw [if_neg registered, if_neg Bool.false_ne_true, if_pos trivial, List.find?_eq_findSome?_guard,
      List.findSome?_map, Guest.findSome?_lookupScopes, Registry.nearest?, here]
    exact congrArg (fun first : Option Key => (first.or _, session)) own

/-- What a held handle says about a constant is what stands under the nearest registered key. -/
theorem exists_entry_of_handleAt (sound : session.Sound) (eager : session.settings.lazy = false)
    (accepted : Kind.constant.accepts name = true) (plain : name ≠ argumentsName)
    (located : session.handleAt receiver name = .ok (some handle, after))
    (held : after.registry.behind? handle = some binding) :
    ∃ key entry, session.registry.nearest? session.guest receiver name = some key ∧
      session.registry.entryAt? key = some entry ∧ entry.binding = binding := by
  simp only [handleAt, classify_of_accepts_constant accepted, locate_constant_of_eager eager plain,
    Except.ok.injEq, Prod.mk.injEq, Option.bind_eq_some_iff] at located
  obtain ⟨⟨key, nearest, found⟩, rfl⟩ := located
  obtain ⟨entry, stored, rfl⟩ := Option.map_eq_some_iff.mp found
  rw [sound.booked.behind?_of_entryAt? stored] at held
  exact ⟨key, entry, nearest, stored, Option.some.inj held⟩

/-- A constant is registered under a scope that does not define it. -/
def Borrows (session : Session) (scope : Scope) (name : String) : Prop :=
  session.registry.entryAt? ⟨scope, name⟩ ≠ none ∧ session.guest.constant? name scope = none

/-- What a host reads as a constant after a resync. For a borrowed constant the scope above counts
before the top level. -/
theorem handleAt_resync_constant (reached : Reachable session) (eager : session.settings.lazy = false)
    (ownLocals : session.settings.localPolicy ≠ .globalBacked)
    (defined : session.guest.isDefined receiver = true)
    (accepted : Kind.constant.accepts name = true) (plain : name ≠ argumentsName)
    (first : session.guest.readFirst (session.guest.searchPath .constant receiver name) = some value)
    (located : (session.resync receiver).handleAt receiver name = .ok (some handle, after))
    (held : after.registry.behind? handle = some binding) (settled : binding.isPending = false) :
    (¬ (session.Borrows receiver name ∧ session.guest.constant? name session.guest.top ≠ none) →
        binding.value? = some value) ∧
      (session.Borrows receiver name →
        ∀ above, session.guest.above? name = some above → binding.value? = some above) := by
  have sound : (session.resync receiver).Sound := sound_resync reached.sound receiver
  have stillEager : (session.resync receiver).settings.lazy = false := by
    rw [settings_resync, eager]
  obtain ⟨key, entry, nearest, stored, rfl⟩ :=
    exists_entry_of_handleAt sound stillEager accepted plain located held
  have own : session.guest.seenIn? receiver name receiver = session.guest.constant? name receiver :=
    Guest.seenIn?_of_tracked (.inl (session.guest.receiver?_eq_some_iff.mpr ⟨defined, rfl⟩))
      fun _ => defined
  have atTop : session.guest.seenIn? receiver name session.guest.top =
      session.guest.constant? name session.guest.top :=
    Guest.seenIn?_of_tracked (.inr rfl) fun _ => defined
  have absentIff (scope : Scope) :
      (session.resync receiver).registry.entryAt? ⟨scope, name⟩ = none ↔
        session.registry.entryAt? ⟨scope, name⟩ = none ∧
          session.guest.seenIn? receiver name scope = none :=
    Registry.constant_absent_resync_iff eager ownLocals accepted plain
  have told {scope : Scope} {value : Value} (isKey : key = ⟨scope, name⟩) :
      (session.guest.seenIn? receiver name scope).or (session.guest.above? name) = some value →
        entry.binding.value? = some value :=
    Registry.value_resync_constant eager ownLocals accepted plain reached.sound (isKey ▸ stored)
      settled
  rw [Guest.readFirst_constant, Guest.receiver?, if_pos defined, Option.bind_some] at first
  rcases Registry.nearest?_eq_some nearest with isKey | ⟨noOwn, isKey | ⟨noTop, parent, up, isKey⟩⟩
  · constructor
    · intro counts
      apply told isKey
      rw [own]
      cases answer : session.guest.constant? name receiver with
      | some _ => rwa [answer] at first
      | none =>
          have borrowed : session.Borrows receiver name := by
            refine ⟨fun absent => ?_, answer⟩
            have missing := (absentIff receiver).mpr ⟨absent, own.trans answer⟩
            rw [← isKey, stored] at missing
            contradiction
          have silentTop : session.guest.constant? name session.guest.top = none := by
            by_contra answered
            exact counts ⟨borrowed, answered⟩
          rwa [answer, silentTop, Option.none_or] at first
    · rintro ⟨_, silent⟩ above found
      apply told isKey
      rw [own, silent, Option.none_or, found]
  · obtain ⟨absent, silent⟩ := (absentIff receiver).mp noOwn
    refine ⟨fun _ => told isKey ?_, fun borrowed => absurd absent borrowed.1⟩
    rwa [← own, silent, Option.none_or, ← atTop] at first
  · obtain ⟨absent, silent⟩ := (absentIff receiver).mp noOwn
    have silentTop := ((absentIff session.guest.top).mp noTop).2
    refine ⟨fun _ => told isKey ?_, fun borrowed => absurd absent borrowed.1⟩
    rw [← own, silent, Option.none_or, ← atTop, silentTop, Option.none_or] at first
    -- The scope above may be tracked as well, but it has only one value.
    have onlyValue : session.guest.constant? name parent = some value :=
      (Guest.above?_of_superclass up).symm.trans first
    rw [Guest.seenIn?, onlyValue, first]
    split <;> rfl

theorem top_constant_shadows_above :
    let session := (start Guest.fresh { lazy := false }).performAll
      [.touch (.command (.defineModule "Shop")),
        .touch (.command (.write (Kind.constant.cell ⟨1⟩ "LIMIT") (.int 1))),
        .touch (.command (.write (Kind.constant.cell ⟨0⟩ "LIMIT") (.int 2)))]
    let binding : Binding := .firstSeen .constant ⟨⟨1⟩, "LIMIT"⟩ (.int 1)
    Reachable session ∧ session.settings.lazy = false ∧
      session.settings.localPolicy ≠ .globalBacked ∧ session.guest.isDefined ⟨2⟩ = true ∧
      Kind.constant.accepts "LIMIT" = true ∧ "LIMIT" ≠ argumentsName ∧
      session.guest.readFirst (session.guest.searchPath .constant ⟨2⟩ "LIMIT") = some (.int 1) ∧
      (session.resync ⟨2⟩).handleAt ⟨2⟩ "LIMIT" = .ok (some ⟨0⟩, session.resync ⟨2⟩) ∧
      (session.resync ⟨2⟩).registry.behind? ⟨0⟩ = some binding ∧ binding.isPending = false ∧
      binding.value? = some (.int 1) := by
  intro session binding
  have reached : Reachable session := (Reachable.start Guest.fresh _ .start).performAll _
  have defined : session.guest.isDefined ⟨2⟩ = true := by decide
  have first : session.guest.readFirst (session.guest.searchPath .constant ⟨2⟩ "LIMIT") =
      some (.int 1) := by decide
  have located : (session.resync ⟨2⟩).handleAt ⟨2⟩ "LIMIT" =
      .ok (some ⟨0⟩, session.resync ⟨2⟩) := by decide +kernel
  have held : (session.resync ⟨2⟩).registry.behind? ⟨0⟩ = some binding := by decide +kernel
  have counts : ¬ (session.Borrows ⟨2⟩ "LIMIT" ∧
      session.guest.constant? "LIMIT" session.guest.top ≠ none) := by
    rintro ⟨⟨registered, _⟩, _⟩
    exact registered (by decide)
  exact ⟨reached, rfl, by decide, defined, by decide, by decide, first, located, held, rfl,
    (handleAt_resync_constant reached rfl (by decide) defined (by decide) (by decide) first located
      held rfl).1 counts⟩

/-- Guest code reads the top level's value here, a host the one of the scope above. -/
theorem borrowed_constant_skips_top :
    let session := (start Guest.fresh { lazy := false }).performAll
      [.touch (.command (.defineModule "Shop")),
        .touch (.command (.write (Kind.constant.cell ⟨1⟩ "LIMIT") (.int 1))),
        .touch (.command (.write (Kind.constant.cell ⟨0⟩ "LIMIT") (.int 2))),
        .refresh ⟨2⟩ "LIMIT"]
    let binding : Binding := .firstSeen .constant ⟨⟨2⟩, "LIMIT"⟩ (.int 2)
    Reachable session ∧ session.settings.lazy = false ∧
      session.settings.localPolicy ≠ .globalBacked ∧ session.guest.isDefined ⟨2⟩ = true ∧
      Kind.constant.accepts "LIMIT" = true ∧ "LIMIT" ≠ argumentsName ∧
      session.guest.readFirst (session.guest.searchPath .constant ⟨2⟩ "LIMIT") = some (.int 1) ∧
      (session.resync ⟨2⟩).handleAt ⟨2⟩ "LIMIT" = .ok (some ⟨0⟩, session.resync ⟨2⟩) ∧
      (session.resync ⟨2⟩).registry.behind? ⟨0⟩ = some binding ∧ binding.isPending = false ∧
      binding.value? ≠ some (.int 1) := by
  intro session binding
  have reached : Reachable session := (Reachable.start Guest.fresh _ .start).performAll _
  have defined : session.guest.isDefined ⟨2⟩ = true := by decide
  have first : session.guest.readFirst (session.guest.searchPath .constant ⟨2⟩ "LIMIT") =
      some (.int 1) := by decide
  have located : (session.resync ⟨2⟩).handleAt ⟨2⟩ "LIMIT" =
      .ok (some ⟨0⟩, session.resync ⟨2⟩) := by decide +kernel
  have held : (session.resync ⟨2⟩).registry.behind? ⟨0⟩ = some binding := by decide +kernel
  exact ⟨reached, rfl, by decide, defined, by decide, by decide, first, located, held, rfl, by decide⟩

end Session

end SharedBindings
