import Mathlib.Tactic.MkIffOfInductiveProp
import SharedBindings.Proofs.Resync.Arguments
import SharedBindings.Proofs.Resync.Shadowing

/-!
# Eager and lazy reads

An eager session reads what its last resync has seen, a lazy one asks the guest for the name. Starting
without bindings from the same guest, the two never read different values. What only the lazy one reads
is what no resync tracks: constants of the scope above, inherited class variables, predefined globals,
and the names that a policy does not share.
-/

namespace SharedBindings

namespace Guest

/-- What the guest answers when it is asked for one name. -/
def answer? (guest : Guest) (kind : Kind) (receiver : Scope) (name : String) : Option Value :=
  if name = argumentsName then guest.arguments?
  else guest.readFirst (guest.searchPath kind receiver name)

/-- The guest may answer to a name, but no resync sees it. -/
@[mk_iff]
inductive LazyOnly (guest : Guest) (policy : LocalPolicy) (receiver : Scope) (name : String) :
    Kind → Prop
  | farConstant (ownLocals : policy ≠ .globalBacked) (plain : name ≠ argumentsName)
      (own : guest.isDefined receiver = true → guest.constant? name receiver = none)
      (top : guest.constant? name guest.top = none) :
      guest.LazyOnly policy receiver name .constant
  | inherited (ownLocals : policy ≠ .globalBacked)
      (own : guest.read (Kind.classVariable.cell receiver name) = none) :
      guest.LazyOnly policy receiver name .classVariable
  | predefined {kind : Kind} (isGlobal : kind = .globalVariable ∨ kind = .localGlobal)
      (isPredefined : guest.isPredefined (kind.guestName name) = true) :
      guest.LazyOnly policy receiver name kind
  | transientLocal (transient : policy = .transient) :
      guest.LazyOnly policy receiver name .localVariable
  | unshared {kind : Kind} (globalBacked : policy = .globalBacked)
      (refused : Kind.localGlobal.accepts name = false) :
      guest.LazyOnly policy receiver name kind

variable {guest : Guest} {policy : LocalPolicy} {receiver : Scope} {kind : Kind} {name : String}
  {value : Value}

theorem shows_iff_sees {anchor : Scope} (classified : policy.classify name = some kind)
    (different : kind ≠ .constant) :
    guest.Shows policy receiver ⟨anchor, name⟩ value ↔
      kind ∈ policy.resyncOrder ∧ guest.Sees receiver kind ⟨anchor, name⟩ value := by
  obtain ⟨candidate, accepted⟩ := LocalPolicy.classify_eq_some_iff.mp classified
  constructor
  · rintro ⟨other, member, _, alsoAccepted, sees⟩
    have same : other = kind := LocalPolicy.eq_of_mem_candidateKinds
      (LocalPolicy.mem_candidateKinds_of_mem_resyncOrder member) candidate
      (Kind.spelling_eq_of_accepts alsoAccepted accepted)
    subst same
    exact ⟨member, sees⟩
  · rintro ⟨member, sees⟩
    exact ⟨kind, member, different, accepted, sees⟩

theorem readFirst_singleton (cell : Cell) : guest.readFirst [cell] = guest.read cell := by
  rw [readFirst, List.findSome?_singleton]

theorem sees_instanceVariable_iff :
    guest.Sees receiver .instanceVariable ⟨receiver, name⟩ value ↔
      guest.readFirst (guest.searchPath .instanceVariable receiver name) = some value := by
  rw [searchPath, searchScopes, receiver?]
  by_cases defined : guest.isDefined receiver = true
  · simp [Sees, Tracks, defined, readFirst_singleton]
  · simp [Sees, Tracks, defined, readFirst]

theorem exists_ancestors_eq (scope : Scope) : ∃ above, guest.ancestors scope = scope :: above := by
  rw [ancestors]
  cases guest.linkCount with
  | zero => exact ⟨[], rfl⟩
  | succ steps =>
      rw [climb]
      split
      · exact ⟨_, rfl⟩
      · exact ⟨[], rfl⟩

theorem sees_classVariable_iff :
    guest.Sees receiver .classVariable ⟨receiver, name⟩ value ↔
      guest.readFirst (guest.searchPath .classVariable receiver name) = some value ∧
        guest.read (Kind.classVariable.cell receiver name) ≠ none := by
  rw [searchPath, searchScopes, receiver?]
  by_cases defined : guest.isDefined receiver = true
  · obtain ⟨above, ancestors⟩ := guest.exists_ancestors_eq receiver
    simp only [Sees, Tracks, defined, readFirst, if_true, Option.toList_some, List.flatMap_singleton,
      ancestors, List.map_cons, List.findSome?_cons]
    cases guest.read (Kind.classVariable.cell receiver name) <;> simp
  · simp [Sees, Tracks, defined, readFirst]

/-- Constants apart, a resync shows what the guest answers, unless only lazy reads get it. -/
theorem shows_iff_answer? (classified : policy.classify name = some kind)
    (different : kind ≠ .constant) :
    guest.Shows policy receiver ⟨guest.anchorFor kind receiver name, name⟩ value ↔
      guest.answer? kind receiver name = some value ∧
        ¬ guest.LazyOnly policy receiver name kind := by
  have accepted := LocalPolicy.accepts_of_classify classified
  have plain : name ≠ argumentsName := by
    rintro rfl
    exact different (Kind.eq_constant_of_accepts accepted Kind.accepts_argumentsName)
  rw [shows_iff_sees classified different, LocalPolicy.mem_resyncOrder_iff classified, lazyOnly_iff,
    answer?, if_neg plain]
  cases kind with
  | constant => exact absurd rfl different
  | instanceVariable => simp [anchorFor, sees_instanceVariable_iff, and_comm]
  | classVariable =>
      simp only [anchorFor, sees_classVariable_iff]
      by_cases globalBacked : policy = .globalBacked
      · have refused : Kind.localGlobal.accepts name = false :=
          Kind.refuses_of_unlike accepted (by decide)
        simp [globalBacked, refused]
      · simp [globalBacked]
  | globalVariable =>
      simp [anchorFor, searchPath, searchScopes, readFirst_singleton, Sees, Tracks, Kind.guestName,
        and_assoc, and_left_comm, and_comm]
  | localGlobal =>
      simp [anchorFor, searchPath, searchScopes, readFirst_singleton, Sees, Tracks, accepted, and_comm]
  | localVariable =>
      simp [anchorFor, searchPath, searchScopes, readFirst_singleton, Sees, Tracks, and_comm]

theorem lazyOnly_constant_iff (ownLocals : policy ≠ .globalBacked) (plain : name ≠ argumentsName) :
    guest.LazyOnly policy receiver name .constant ↔
      ((guest.receiver? receiver).bind (guest.constant? name)).or (guest.constant? name guest.top) =
        none := by
  rw [lazyOnly_iff, receiver?]
  by_cases defined : guest.isDefined receiver = true <;> simp [ownLocals, plain, defined]

theorem not_lazyOnly_arguments (ownLocals : policy ≠ .globalBacked) :
    ¬ guest.LazyOnly policy receiver argumentsName .constant := by
  simp [lazyOnly_iff, ownLocals]

theorem seenIn?_receiver (topTracked : receiver = guest.top → guest.isDefined receiver = true) :
    guest.seenIn? receiver name receiver =
      (guest.receiver? receiver).bind (guest.constant? name) := by
  cases defined : guest.receiver? receiver with
  | some scope =>
      obtain ⟨_, rfl⟩ := guest.receiver?_eq_some_iff.mp defined
      exact seenIn?_of_tracked (.inl defined) topTracked
  | none =>
      have untracked : receiver ∉ guest.constantScopes receiver := by
        rw [mem_constantScopes_iff topTracked, defined]
        rintro (contra | isTop)
        · contradiction
        · have found := guest.receiver?_eq_some_iff.mpr ⟨topTracked isTop, rfl⟩
          rw [defined] at found
          contradiction
      exact if_neg untracked

/-- Of the scopes in which a host looks for a constant after a resync, only the receiver and the top
level can have shown one. -/
theorem findSome?_seenIn? (topTracked : receiver = guest.top → guest.isDefined receiver = true) :
    (guest.seenIn? receiver name receiver).or
        ((guest.lookupScopes receiver).findSome? (guest.seenIn? receiver name)) =
      ((guest.receiver? receiver).bind (guest.constant? name)).or (guest.constant? name guest.top) := by
  have atTop : guest.seenIn? receiver name guest.top = guest.constant? name guest.top :=
    seenIn?_of_tracked (.inr rfl) topTracked
  have again : (guest.receiver? receiver).bind (guest.seenIn? receiver name) =
      (guest.receiver? receiver).bind (guest.constant? name) := by
    cases defined : guest.receiver? receiver with
    | none => rfl
    | some scope => exact seenIn?_of_tracked (.inl defined) topTracked
  rw [findSome?_lookupScopes, seenIn?_receiver topTracked, again, atTop]
  cases own : (guest.receiver? receiver).bind (guest.constant? name) with
  | some value => rfl
  | none =>
      cases top : guest.constant? name guest.top with
      | some value => rfl
      | none =>
          -- A scope above that is tracked is one of the two scopes that have nothing.
          have nothing (parent : Scope) : guest.seenIn? receiver name parent = none := by
            rw [seenIn?]
            split
            · rename_i tracked
              rcases (mem_constantScopes_iff topTracked).mp tracked with defined | rfl
              · rwa [defined] at own
              · exact top
            · rfl
          cases guest.superclass? guest.top with
          | none => rfl
          | some parent => exact nothing parent

/-- What an eager session without earlier bindings reads after a resync. -/
structure ShowsEagerly (guest : Guest) (policy : LocalPolicy) (receiver : Scope) (kind : Kind)
    (name : String) (seen : Option Value) : Prop where
  missed : guest.LazyOnly policy receiver name kind → seen = none
  met : ¬ guest.LazyOnly policy receiver name kind → seen = guest.answer? kind receiver name

theorem showsEagerly_constant (ownLocals : policy ≠ .globalBacked) (plain : name ≠ argumentsName) :
    guest.ShowsEagerly policy receiver .constant name
      (((guest.receiver? receiver).bind (guest.constant? name)).or
        (guest.constant? name guest.top)) where
  missed far := (lazyOnly_constant_iff ownLocals plain).mp far
  met near := by
    have found := mt (lazyOnly_constant_iff ownLocals plain).mpr near
    rw [answer?, if_neg plain, readFirst_constant, ← Option.or_assoc]
    obtain ⟨value, here⟩ := Option.ne_none_iff_exists'.mp found
    rw [here, Option.some_or]

end Guest

namespace Registry

variable {registry : Registry} {guest : Guest} {receiver scope : Scope} {kind : Kind} {key : Key}
  {name : String} {value : Value}

def value? (registry : Registry) (key : Key) : Option Value :=
  (registry.binding? key).bind Binding.value?

theorem value?_of_absent (absent : registry.entryAt? key = none) : registry.value? key = none := by
  rw [value?, binding?_of_absent absent, Option.bind_none]

theorem value?_of_stored {entry : Entry} (stored : registry.entryAt? key = some entry) :
    registry.value? key = entry.binding.value? := by
  rw [value?, binding?_of_entryAt? stored, Option.bind_some]

theorem Valued.absent_of_value? (valued : registry.Valued) (nothing : registry.value? key = none) :
    registry.entryAt? key = none := by
  rw [Option.eq_none_iff_forall_ne_some]
  intro entry stored
  obtain ⟨value, counts⟩ := valued (binding?_of_entryAt? stored)
  rw [value?_of_stored stored, counts] at nothing
  contradiction

theorem entryAt?_of_isEmpty (empty : registry.isEmpty = true) (key : Key) :
    registry.entryAt? key = none := by
  have noEntries : registry.entries.entries = [] := by simpa [isEmpty] using empty
  rw [entryAt?, OrderedMap.lookup, noEntries]
  rfl

theorem value?_observe_of_absent (accepted : kind.accepts key.name = true)
    (absent : registry.entryAt? key = none) :
    (registry.observe kind key value).value? key = some value := by
  have unbound : registry.binding? key = none := binding?_of_absent absent
  rw [value?, binding?_observe, unbound, Binding.seen?, Binding.ofGuest?, if_pos accepted]
  rfl

theorem firstNamed?_of_absent (booked : registry.Booked)
    (absent : ∀ scope, registry.entryAt? ⟨scope, name⟩ = none) : registry.firstNamed? name = none := by
  rw [firstNamed?, booked.anchorsOf_eq, Option.map_eq_none_iff, List.head?_eq_none_iff,
    List.eq_nil_iff_forall_not_mem]
  intro scope member
  exact OrderedMap.lookup_eq_none_iff.mp (absent scope) (mem_anchorsAmong_iff.mp member)

theorem value?_observeArguments (booked : registry.Booked)
    (absent : ∀ scope, registry.entryAt? ⟨scope, argumentsName⟩ = none) :
    (registry.observeArguments guest).2.value? ⟨scope, argumentsName⟩ =
      if scope = guest.top then guest.arguments? else none := by
  rw [observeArguments, firstNamed?_of_absent booked absent]
  cases guest.arguments? with
  | none => simp [value?, binding?, absent]
  | some value =>
      by_cases here : scope = guest.top
      · subst here
        rw [if_pos rfl]
        exact value?_observe_of_absent Kind.accepts_argumentsName (absent _)
      · have other : (⟨scope, argumentsName⟩ : Key) ≠ ⟨guest.top, argumentsName⟩ := by simp [here]
        rw [if_neg here, Option.getD_none, value?, binding?, entryAt?_observe_other _ other, absent]
        rfl

section Empty

variable (empty : registry.isEmpty = true) (eager : registry.settings.lazy = false)

include empty eager

theorem value?_resync_of_refused (named : registry.WellNamed) (fits : guest.NamesFit)
    (refused : ∀ kind ∈ registry.settings.localPolicy.resyncOrder, kind.accepts key.name = false) :
    (registry.resync guest receiver).value? key = none := by
  rw [value?, binding?, entryAt?_resync_of_untracked eager named fits refused,
    entryAt?_of_isEmpty empty]
  rfl

theorem value?_resync_of_shows (named : registry.WellNamed) (fits : guest.NamesFit)
    (shown : guest.Shows registry.settings.localPolicy receiver key value) :
    (registry.resync guest receiver).value? key = some value := by
  obtain ⟨kind, accepted, seen⟩ := binding?_resync_of_sees eager named fits shown
  have absent : registry.binding? key = none := binding?_of_absent (entryAt?_of_isEmpty empty key)
  rw [value?, seen, absent, Binding.seen?, Binding.ofGuest?, if_pos accepted]
  rfl

theorem value?_resync_of_unshown (named : registry.WellNamed) (fits : guest.NamesFit)
    (plain : Kind.constant.accepts key.name = false)
    (unshown : ∀ value, ¬ guest.Shows registry.settings.localPolicy receiver key value) :
    (registry.resync guest receiver).value? key = none := by
  rw [value?, binding?, entryAt?_resync_of_unseen eager named fits plain unshown,
    entryAt?_of_isEmpty empty]
  rfl

theorem value?_resync_constant (ownLocals : registry.settings.localPolicy ≠ .globalBacked)
    (accepted : Kind.constant.accepts name = true) (plain : name ≠ argumentsName) :
    (registry.resync guest receiver).value? ⟨scope, name⟩ = guest.seenIn? receiver name scope := by
  have absent := entryAt?_of_isEmpty empty ⟨scope, name⟩
  cases answer : guest.seenIn? receiver name scope with
  | none =>
      rw [value?, binding?, (constant_absent_resync_iff eager ownLocals accepted plain).mpr
        ⟨absent, answer⟩]
      rfl
  | some value =>
      obtain ⟨earlier, last, missing⟩ := exists_constantPass receiver eager ownLocals guest
      have unbound : (registry.resyncKinds guest receiver earlier).binding? ⟨scope, name⟩ = none := by
        rw [binding?, missing ⟨scope, name⟩ accepted absent, Option.map_none]
      have sees : guest.Sees receiver .constant ⟨scope, name⟩ value :=
        (Guest.seenIn?_eq_some_iff plain).mp answer
      rw [value?, last, binding?_resyncConstants_of_sees _ sees, unbound, Binding.seen?,
        Binding.ofGuest?, if_pos accepted]
      rfl

theorem value?_resync_arguments (sound : registry.Sound guest.top)
    (ownLocals : registry.settings.localPolicy ≠ .globalBacked) :
    (registry.resync guest receiver).value? ⟨scope, argumentsName⟩ =
      if scope = guest.top then guest.arguments? else none := by
  obtain ⟨earlier, last, missing⟩ := exists_constantPass receiver eager ownLocals guest
  have soundThen : (registry.resyncKinds guest receiver earlier).Sound guest.top :=
    sound.resyncKinds _
  rw [value?, last, binding?, entryAt?_resyncConstants_arguments soundThen.keyed, ← binding?, ← value?]
  exact value?_observeArguments soundThen.booked fun _ =>
    missing _ Kind.accepts_argumentsName (entryAt?_of_isEmpty empty _)

end Empty

theorem findSome?_value? (valued : registry.Valued) (keys : List Key) :
    keys.findSome? registry.value? =
      (keys.find? fun key => (registry.entryAt? key).isSome).bind registry.value? := by
  induction keys with
  | nil => rfl
  | cons key rest ih =>
      rw [List.findSome?_cons, List.find?_cons]
      cases stored : registry.entryAt? key with
      | none => simp [value?_of_absent stored, ih]
      | some entry =>
          obtain ⟨value, counts⟩ := valued (binding?_of_entryAt? stored)
          simp [value?_of_stored stored, counts]

end Registry

namespace Session

variable {session : Session} {receiver : Scope} {name : String} {kind : Kind}

theorem get_of_ok (classified : session.classify name = .ok kind) :
    (session.get receiver name).map Prod.fst =
      .ok ((session.locate kind receiver name).1.bind
        (session.locate kind receiver name).2.registry.value?) := by
  simp only [get, classified, Except.map, Except.ok.injEq, Option.bind_assoc]
  rfl

theorem classify_of_policy (classified : session.settings.localPolicy.classify name = some kind) :
    session.classify name = .ok kind := by
  rw [classify, classified]

/-- Without bindings, a lazy session reads what the guest answers. -/
theorem get_of_lazy (sound : session.Sound) (empty : session.registry.isEmpty = true)
    (isLazy : session.settings.lazy = true)
    (classified : session.settings.localPolicy.classify name = some kind) :
    (session.get receiver name).map Prod.fst = .ok (session.guest.answer? kind receiver name) := by
  have absent := Registry.entryAt?_of_isEmpty empty
  have accepted := LocalPolicy.accepts_of_classify classified
  have pulled : session.locate kind receiver name = session.pull receiver kind name := by
    simp [locate, absent, isLazy]
  rw [get_of_ok (classify_of_policy classified), pulled, Except.ok.injEq, Guest.answer?, pull,
    Registry.pull, if_pos accepted]
  by_cases isArguments : name = argumentsName
  · rw [if_pos isArguments, if_pos isArguments, Registry.observeArguments,
      Registry.firstNamed?_of_absent sound.booked fun _ => absent _]
    cases session.guest.arguments? with
    | none => rfl
    | some value => exact Registry.value?_observe_of_absent Kind.accepts_argumentsName (absent _)
  · rw [if_neg isArguments, if_neg isArguments]
    cases session.guest.readFirst (session.guest.searchPath kind receiver name) with
    | none => rfl
    | some value => exact Registry.value?_observe_of_absent accepted (absent _)

theorem get_of_eager (eager : session.settings.lazy = false)
    (classified : session.settings.localPolicy.classify name = some kind)
    (different : kind ≠ .constant) :
    (session.get receiver name).map Prod.fst =
      .ok (session.registry.value? (session.keyFor kind receiver name)) := by
  rw [get_of_ok (classify_of_policy classified)]
  simp only [locate, eager, different]
  cases stored : session.registry.entryAt? (session.keyFor kind receiver name) with
  | none => simp [Registry.value?_of_absent stored]
  | some entry => simp

/-- An eager session reads a constant under its own key or else in the first scope that has one. -/
theorem get_constant_of_eager (valued : session.registry.Valued) (eager : session.settings.lazy = false)
    (classified : session.settings.localPolicy.classify name = some .constant) :
    (session.get receiver name).map Prod.fst =
      .ok ((session.registry.value? (session.keyFor .constant receiver name)).or
        ((session.guest.lookupScopes receiver).findSome? fun scope =>
          session.registry.value? ⟨scope, name⟩)) := by
  rw [get_of_ok (classify_of_policy classified)]
  simp only [locate, eager]
  cases stored : session.registry.entryAt? (session.keyFor .constant receiver name) with
  | none =>
      have nothing : session.registry.value? (session.keyFor .constant receiver name) = none :=
        Registry.value?_of_absent stored
      have scanned : ((session.guest.lookupScopes receiver).findSome? fun scope =>
          session.registry.value? ⟨scope, name⟩) =
            ((session.guest.lookupScopes receiver).map (Key.mk · name)).findSome?
              session.registry.value? := by
        rw [List.findSome?_map]
        rfl
      rw [nothing, Option.none_or, scanned, Registry.findSome?_value? valued]
      rfl
  | some entry =>
      obtain ⟨value, counts⟩ := valued (Registry.binding?_of_entryAt? stored)
      simp [Registry.value?_of_stored stored, counts]

section Resync

variable (reached : Reachable session) (empty : session.registry.isEmpty = true)
  (eager : session.settings.lazy = false) (fits : session.guest.NamesFit)

include reached empty eager

theorem get_resync_constant (topDefined : session.guest.isDefined session.guest.top = true)
    (ownLocals : session.settings.localPolicy ≠ .globalBacked)
    (classified : session.settings.localPolicy.classify name = some .constant) :
    ∃ seen, ((session.resync receiver).get receiver name).map Prod.fst = .ok seen ∧
      session.guest.ShowsEagerly session.settings.localPolicy receiver .constant name seen := by
  have read : ((session.resync receiver).get receiver name).map Prod.fst =
      .ok (((session.registry.resync session.guest receiver).value?
          (session.keyFor .constant receiver name)).or
        ((session.guest.lookupScopes receiver).findSome? fun scope =>
          (session.registry.resync session.guest receiver).value? ⟨scope, name⟩)) :=
    get_constant_of_eager (sound_resync reached.sound receiver).valued
      (by rw [settings_resync, eager]) (by rw [settings_resync, classified])
  refine ⟨_, read, ?_⟩
  by_cases isArguments : name = argumentsName
  · subst isArguments
    have key : session.keyFor .constant receiver argumentsName =
        ⟨session.guest.top, argumentsName⟩ := rfl
    have shown (scope : Scope) :
        (session.registry.resync session.guest receiver).value? ⟨scope, argumentsName⟩ =
          if scope = session.guest.top then session.guest.arguments? else none :=
      Registry.value?_resync_arguments empty eager reached.sound ownLocals
    simp only [key, shown, if_true]
    constructor
    case missed => exact fun contra => absurd contra (Guest.not_lazyOnly_arguments ownLocals)
    case met =>
      intro _
      rw [Guest.answer?, if_pos rfl]
      cases session.guest.arguments? with
      | some value => rfl
      | none => simp
  · have key : session.keyFor .constant receiver name = ⟨receiver, name⟩ := by
      rw [keyFor, Guest.anchorFor, if_neg isArguments]
    have accepted := LocalPolicy.accepts_of_classify classified
    have shown (scope : Scope) :
        (session.registry.resync session.guest receiver).value? ⟨scope, name⟩ =
          session.guest.seenIn? receiver name scope :=
      Registry.value?_resync_constant empty eager ownLocals accepted isArguments
    simp only [key, shown]
    rw [Guest.findSome?_seenIn? fun here => here ▸ topDefined]
    exact Guest.showsEagerly_constant ownLocals isArguments

theorem get_resync_of_ne_constant (fits : session.guest.NamesFit)
    (classified : session.settings.localPolicy.classify name = some kind)
    (different : kind ≠ .constant) :
    ∃ seen, ((session.resync receiver).get receiver name).map Prod.fst = .ok seen ∧
      session.guest.ShowsEagerly session.settings.localPolicy receiver kind name seen := by
  have named := reached.sound.wellNamed
  have plain : Kind.constant.accepts name = false :=
    Kind.constant_refuses (LocalPolicy.accepts_of_classify classified) different
  let key : Key := ⟨session.guest.anchorFor kind receiver name, name⟩
  have shownIff (value : Value) :
      session.guest.Shows session.registry.settings.localPolicy receiver key value ↔ _ :=
    Guest.shows_iff_answer? classified different
  have unshown (silent : ∀ value,
      ¬ session.guest.Shows session.registry.settings.localPolicy receiver key value) :
      (session.registry.resync session.guest receiver).value? key = none :=
    Registry.value?_resync_of_unshown empty eager named fits plain silent
  have read : ((session.resync receiver).get receiver name).map Prod.fst =
      .ok ((session.registry.resync session.guest receiver).value? key) :=
    get_of_eager (by rw [settings_resync, eager]) (by rw [settings_resync, classified]) different
  refine ⟨_, read, ?_⟩
  constructor
  case missed =>
    intro lazyOnly
    exact unshown fun value shown => ((shownIff value).mp shown).2 lazyOnly
  case met =>
    intro told
    cases answer : session.guest.answer? kind receiver name with
    | some value =>
        have shown := (shownIff value).mpr ⟨answer, told⟩
        exact Registry.value?_resync_of_shows empty eager named fits shown
    | none =>
        refine unshown fun value shown => ?_
        exact nomatch answer.symm.trans ((shownIff value).mp shown).1

theorem get_resync_constant_of_globalBacked (fits : session.guest.NamesFit)
    (globalBacked : session.settings.localPolicy = .globalBacked)
    (classified : session.settings.localPolicy.classify name = some .constant) :
    ∃ seen, ((session.resync receiver).get receiver name).map Prod.fst = .ok seen ∧
      session.guest.ShowsEagerly session.settings.localPolicy receiver .constant name seen := by
  have refused : Kind.localGlobal.accepts name = false :=
    Kind.refuses_of_unlike (LocalPolicy.accepts_of_classify classified) (by decide)
  have nothing (scope : Scope) : (session.resync receiver).registry.value? ⟨scope, name⟩ = none := by
    apply Registry.value?_resync_of_refused empty eager reached.sound.wellNamed fits
    rw [show session.registry.settings.localPolicy = .globalBacked from globalBacked]
    intro kind member
    rw [List.mem_singleton.mp member]
    exact refused
  have silent : ((session.resync receiver).guest.lookupScopes receiver).findSome? (fun scope =>
      (session.resync receiver).registry.value? ⟨scope, name⟩) = none :=
    List.findSome?_eq_none_iff.mpr fun scope _ => nothing scope
  refine ⟨none, ?_, fun _ => rfl, fun told => absurd (.unshared globalBacked refused) told⟩
  rw [get_constant_of_eager (sound_resync reached.sound receiver).valued
      (by rw [settings_resync, eager]) (by rw [settings_resync, classified]),
    keyFor, nothing, Option.none_or, silent]

end Resync

theorem get_resync (reached : Reachable session) (empty : session.registry.isEmpty = true)
    (eager : session.settings.lazy = false) (fits : session.guest.NamesFit)
    (topDefined : session.guest.isDefined session.guest.top = true)
    (classified : session.settings.localPolicy.classify name = some kind) :
    ∃ seen, ((session.resync receiver).get receiver name).map Prod.fst = .ok seen ∧
      session.guest.ShowsEagerly session.settings.localPolicy receiver kind name seen := by
  by_cases different : kind ≠ .constant
  · exact get_resync_of_ne_constant reached empty eager fits classified different
  · have constant : kind = .constant := not_ne_iff.mp different
    subst constant
    by_cases globalBacked : session.settings.localPolicy = .globalBacked
    · exact get_resync_constant_of_globalBacked reached empty eager fits globalBacked classified
    · exact get_resync_constant reached empty eager topDefined globalBacked classified

/-- An eager and a lazy session over one guest read the same, or only the lazy one reads something,
and then the name is one that no resync sees. -/
theorem eager_get_agrees_lazy {eager lazy : Session} (eagerReached : Reachable eager)
    (lazyReached : Reachable lazy) (eagerEmpty : eager.registry.isEmpty = true)
    (lazyEmpty : lazy.registry.isEmpty = true) (isEager : eager.settings.lazy = false)
    (isLazy : lazy.settings.lazy = true)
    (samePolicy : lazy.settings.localPolicy = eager.settings.localPolicy)
    (sameGuest : lazy.guest = eager.guest) (fits : eager.guest.NamesFit)
    (topDefined : eager.guest.isDefined eager.guest.top = true)
    (classified : eager.settings.localPolicy.classify name = some kind) :
    ∃ seen pulled, ((eager.resync receiver).get receiver name).map Prod.fst = .ok seen ∧
      (lazy.get receiver name).map Prod.fst = .ok pulled ∧
        (seen = pulled ∨ seen = none ∧ pulled.isSome = true) ∧
          (seen = none ∧ pulled.isSome = true ↔ pulled.isSome = true ∧
            eager.guest.LazyOnly eager.settings.localPolicy receiver name kind) ∧
          ∀ value, seen = some value → pulled = some value := by
  obtain ⟨seen, read, shows⟩ :=
    get_resync eagerReached eagerEmpty isEager fits topDefined classified
  have pulls : (lazy.get receiver name).map Prod.fst =
      .ok (eager.guest.answer? kind receiver name) := by
    rw [get_of_lazy lazyReached.sound lazyEmpty isLazy (samePolicy ▸ classified), sameGuest]
  refine ⟨seen, _, read, pulls, ?_⟩
  by_cases lazyOnly : eager.guest.LazyOnly eager.settings.localPolicy receiver name kind
  · rw [shows.missed lazyOnly]
    cases eager.guest.answer? kind receiver name <;> simp [lazyOnly]
  · rw [shows.met lazyOnly]
    cases eager.guest.answer? kind receiver name <;> simp [lazyOnly]

theorem inherited_class_variable_read_lazily :
    let guest := Guest.fresh.write (Kind.classVariable.cell ⟨0⟩ "@@count") (.int 7)
    let eager := start guest { lazy := false }
    let lazy := start guest {}
    Reachable eager ∧ Reachable lazy ∧ eager.registry.isEmpty = true ∧
      lazy.registry.isEmpty = true ∧ eager.settings.lazy = false ∧ lazy.settings.lazy = true ∧
      lazy.settings.localPolicy = eager.settings.localPolicy ∧ lazy.guest = eager.guest ∧
      eager.guest.NamesFit ∧ eager.guest.isDefined eager.guest.top = true ∧
      eager.settings.localPolicy.classify "@@count" = some .classVariable ∧
      ∃ seen pulled, ((eager.resync ⟨1⟩).get ⟨1⟩ "@@count").map Prod.fst = .ok seen ∧
        (lazy.get ⟨1⟩ "@@count").map Prod.fst = .ok pulled ∧
          (seen = pulled ∨ seen = none ∧ pulled.isSome = true) ∧
            (seen = none ∧ pulled.isSome = true ↔ pulled.isSome = true ∧
              eager.guest.LazyOnly eager.settings.localPolicy ⟨1⟩ "@@count" .classVariable) ∧
            ∀ value, seen = some value → pulled = some value := by
  intro guest eager lazy
  have eagerReached : Reachable eager := .start guest _ .start
  have lazyReached : Reachable lazy := .start guest _ .start
  have fits : eager.guest.NamesFit := Guest.namesFit_fresh.write (.int 7) fun _ _ => by decide
  have defined : eager.guest.isDefined eager.guest.top = true := by decide
  have classified : eager.settings.localPolicy.classify "@@count" = some .classVariable := by decide
  exact ⟨eagerReached, lazyReached, rfl, rfl, rfl, rfl, rfl, rfl, fits, defined, classified,
    eager_get_agrees_lazy eagerReached lazyReached rfl rfl rfl rfl rfl rfl fits defined classified⟩

end Session

end SharedBindings
