import SharedBindings.Proofs.Resync.Origins
import SharedBindings.Proofs.Session.Retention
import SharedBindings.Proofs.Session.WellFormed

/-!
# Globals that the guest predefines

No resync takes a global of the guest's own making into the registry. A host gets one there all the
same, even if it never writes one: a read that asks the guest, and a refresh, register whatever global
they are asked for. These are the only ways, and what has come in by them stays until it is removed.
-/

namespace SharedBindings

namespace Guest

/-- A name of a kind stands for a global that the guest defines itself. -/
def Predefines (guest : Guest) (kind : Kind) (name : String) : Prop :=
  (kind = .globalVariable ∨ kind = .localGlobal) ∧ guest.isPredefined (kind.guestName name) = true

variable {guest before after : Guest} {kind : Kind} {name : String}

theorem predefines_of_sameFrame (frame : SameFrame before after) :
    after.Predefines kind name ↔ before.Predefines kind name := by
  rw [Predefines, Predefines, isPredefined, isPredefined, frame.predefined]

theorem Predefines.anchorFor (predefined : guest.Predefines kind name) (receiver : Scope) :
    guest.anchorFor kind receiver name = guest.top := by
  rcases predefined.1 with rfl | rfl <;> rfl

theorem Predefines.readFirst (predefined : guest.Predefines kind name) (receiver : Scope) :
    guest.readFirst (guest.searchPath kind receiver name) = guest.read (kind.cell guest.top name) := by
  rcases predefined.1 with rfl | rfl <;>
    rw [searchPath, searchScopes, List.map_singleton, Guest.readFirst, List.findSome?_singleton]

theorem Predefines.ne_constant (predefined : guest.Predefines kind name) : kind ≠ .constant := by
  rcases predefined.1 with rfl | rfl <;> exact Kind.noConfusion

/-- A pass looks at the shared globals only. -/
theorem Predefines.not_sees {receiver : Scope} {key : Key} {value : Value}
    (predefined : guest.Predefines kind key.name) : ¬ guest.Sees receiver kind key value := by
  intro sees
  have shared : guest.isPredefined (kind.guestName key.name) = false := by
    rcases predefined.1 with rfl | rfl
    · exact sees.1.2
    · exact sees.1.2.2
  exact nomatch shared.symm.trans predefined.2

end Guest

namespace Session

/-- The operation puts a value under a key, for a name of a kind. -/
def Puts (session : Session) (kind : Kind) (key : Key) : Operation → Prop
  | .put receiver name _ =>
      session.classify name = .ok kind ∧ session.keyFor kind receiver name = key
  | .putKind given receiver name _ =>
      given = kind ∧ kind.accepts name = true ∧ session.keyFor kind receiver name = key
  | _ => False

/-- An operation asks the guest for a name, and the guest answers it. -/
structure PullsAnswer (session : Session) (kind : Kind) (key : Key) (operation : Operation)
    (receiver : Scope) : Prop where
  pulls : session.Pulls kind receiver key.name operation
  anchored : key.anchor = session.guest.anchorFor kind receiver key.name
  answered :
    (session.guest.readFirst (session.guest.searchPath kind receiver key.name)).isSome = true

variable {session : Session} {kind : Kind} {key : Key} {entry : Entry} {operation : Operation}
  {receiver : Scope} {name : String}

theorem puts_of_made_putKind {value : Value} (absent : session.registry.entryAt? key = none)
    (stored : (session.perform (.putKind kind receiver name value)).2.registry.entryAt? key =
      some entry) :
    entry.binding.kind = kind ∧ kind.accepts name = true ∧ session.keyFor kind receiver name = key := by
  by_cases accepted : kind.accepts name = true
  · obtain ⟨registry, put, entries⟩ := session.putKind_of_accepts receiver value accepted
    simp only [perform, put, orRefuse, entries] at stored
    split at stored
    · rename_i here
      rw [← here, putEntry, absent, Option.some.injEq] at stored
      subst stored
      exact ⟨rfl, accepted, here.symm⟩
    · rw [absent] at stored
      contradiction
  · rw [perform_putKind_of_not_accepts session receiver accepted, absent] at stored
    contradiction

theorem pullsAnswer_of_made (mayPull : session.MayPull receiver name operation)
    (absent : session.registry.entryAt? key = none)
    (stored : (session.perform operation).2.registry.entryAt? key = some entry)
    (plain : entry.binding.kind ≠ .constant) :
    session.PullsAnswer entry.binding.kind key operation receiver := by
  rcases mayPull with same | ⟨kind, pulls, pulled⟩
  · rw [same] at stored
    exact nomatch absent.symm.trans stored
  · rw [pulled] at stored
    have itsKind := (session.registry.makesOnly_pull _ _ _ _).made absent stored
    rw [itsKind] at plain ⊢
    have accepted := session.accepts_of_classify (pulls_cases pulls).1
    have notArguments : name ≠ argumentsName := by
      rintro rfl
      exact plain (Kind.eq_constant_of_accepts accepted Kind.accepts_argumentsName)
    obtain ⟨rfl, answered⟩ := Registry.answered_of_made_pull notArguments absent stored
    exact ⟨pulls, rfl, answered⟩

/-- Where a binding that is no constant has come from: a put, a pull, or a pass that saw it. -/
theorem origin_of_made (absent : session.registry.entryAt? key = none)
    (stored : (session.perform operation).2.registry.entryAt? key = some entry)
    (plain : entry.binding.kind ≠ .constant) :
    session.Puts entry.binding.kind key operation ∨
      (∃ receiver, session.PullsAnswer entry.binding.kind key operation receiver) ∨
      ∃ guest receiver value, Guest.SameFrame session.guest guest ∧
        guest.Sees receiver entry.binding.kind key value := by
  cases operation with
  | put receiver name value =>
      cases classified : session.classify name with
      | error problem =>
          rw [perform_put_of_error session classified] at stored
          exact nomatch absent.symm.trans stored
      | ok kind =>
          rw [perform_put_of_ok session classified] at stored
          obtain ⟨itsKind, _, itsKey⟩ := puts_of_made_putKind absent stored
          exact .inl ⟨itsKind ▸ classified, itsKind ▸ itsKey⟩
  | putKind kind receiver name value =>
      obtain ⟨rfl, accepted, itsKey⟩ := puts_of_made_putKind absent stored
      exact .inl ⟨rfl, accepted, itsKey⟩
  | get receiver name =>
      exact .inr (.inl
        ⟨receiver, pullsAnswer_of_made (session.mayPull_get receiver name) absent stored plain⟩)
  | handleAt receiver name =>
      exact .inr (.inl
        ⟨receiver, pullsAnswer_of_made (session.mayPull_handleAt receiver name) absent stored plain⟩)
  | refresh receiver name =>
      exact .inr (.inl
        ⟨receiver, pullsAnswer_of_made (session.mayPull_refresh receiver name) absent stored plain⟩)
  | remove receiver name =>
      cases classified : session.classify name with
      | error problem =>
          rw [perform_remove_of_error session classified] at stored
          exact nomatch absent.symm.trans stored
      | ok kind =>
          rw [perform_remove_of_ok session classified, registry_drop, Registry.entryAt?_remove,
            absent, ite_self] at stored
          contradiction
  | injectPending =>
      rw [perform_injectPending, entryAt?_injectPending, absent] at stored
      contradiction
  | resync receiver =>
      obtain ⟨value, sees⟩ := Registry.sees_of_made_resync absent stored plain
      exact .inr (.inr ⟨session.guest, receiver, value, .refl _, sees⟩)
  | runUnit receiver steps =>
      -- Injection makes no bindings, so the pass after the unit has made it, of what that pass saw.
      have missing : session.injectPending.2.registry.entryAt? key = none := by
        rw [entryAt?_injectPending, absent, Option.map_none]
      have injected := (sameShape_injectPending session).frame
      rw [perform_runUnit] at stored
      generalize session.injectPending.2 = ready at missing injected stored
      have frame := injected.trans (Guest.sameFrame_performAll ready.guest steps)
      generalize (ready.guest.performAll steps).2 = ended at frame stored
      have resynced : (ready.registry.resync ended receiver).entryAt? key = some entry := stored
      obtain ⟨value, sees⟩ := Registry.sees_of_made_resync missing resynced plain
      exact .inr (.inr ⟨ended, receiver, value, frame, sees⟩)
  | touch step => exact nomatch absent.symm.trans stored
  | writeHeld handle value =>
      change (session.registry.changeHeld handle _).entryAt? key = _ at stored
      rw [Registry.entryAt?_changeHeld, absent] at stored
      contradiction

/-- A binding of a global that the guest predefines stands under a key. -/
def RegistersPredefined (session : Session) (key : Key) : Prop :=
  ∃ binding, session.registry.binding? key = some binding ∧
    session.guest.Predefines binding.kind binding.name

/-- The host writes a name that stands for a predefined global. -/
def WritesPredefined (session : Session) (operation : Operation) : Prop :=
  ∃ kind key, session.Puts kind key operation ∧ session.guest.Predefines kind key.name

/-- A lazy read that finds nothing registered, or a refresh, asks the guest for a predefined global that
is not registered, and the guest has it. -/
def PullsPredefined (session : Session) (key : Key) (operation : Operation) : Prop :=
  ∃ kind receiver, session.Pulls kind receiver key.name operation ∧
    session.guest.Predefines kind key.name ∧ key.anchor = session.guest.top ∧
    session.registry.entryAt? key = none ∧
    (session.guest.read (kind.cell session.guest.top key.name)).isSome = true

theorem pullsPredefined_of_pullsAnswer (absent : session.registry.entryAt? key = none)
    (predefined : session.guest.Predefines kind key.name)
    (pulls : session.PullsAnswer kind key operation receiver) :
    session.PullsPredefined key operation := by
  obtain ⟨pulls, anchored, answered⟩ := pulls
  rw [predefined.anchorFor] at anchored
  rw [predefined.readFirst] at answered
  exact ⟨kind, receiver, pulls, predefined, anchored, absent, answered⟩

theorem registersPredefined_of_pulls (pulls : session.PullsPredefined key operation) :
    (session.perform operation).2.RegistersPredefined key := by
  obtain ⟨kind, receiver, pulls, predefined, atTop, absent, answered⟩ := pulls
  obtain ⟨value, answer⟩ := Option.isSome_iff_exists.mp answered
  have accepted := session.accepts_of_classify (pulls_cases pulls).1
  have plain : key.name ≠ argumentsName := fun isArguments => predefined.ne_constant
    (Kind.eq_constant_of_accepts (isArguments ▸ accepted) Kind.accepts_argumentsName)
  have itsKey : ⟨session.guest.top, key.name⟩ = key := by rw [← atTop]
  have unbound : session.registry.binding? key = none := Registry.binding?_of_absent absent
  have made : (session.perform operation).2.registry.binding? key =
      Binding.ofGuest? kind key value := by
    rw [session.registry_of_pulls pulls, Registry.pull, if_pos accepted, if_neg plain,
      predefined.readFirst, answer, predefined.anchorFor, itsKey]
    simp only [Registry.binding?_observe, unbound, Binding.seen?]
  rw [Binding.ofGuest?, if_pos accepted] at made
  have frame := session.sameFrame_perform operation
  exact ⟨_, made, (Guest.predefines_of_sameFrame frame).mpr predefined⟩

/-- What one operation does: a pull brings a predefined global in, a removal takes it out. -/
theorem registersPredefined_perform (sound : session.Sound)
    (unwritten : ¬ session.WritesPredefined operation) :
    (session.perform operation).2.RegistersPredefined key ↔
      session.PullsPredefined key operation ∨
        session.RegistersPredefined key ∧ ¬ session.Drops key operation := by
  have frame := session.sameFrame_perform operation
  constructor
  · rintro ⟨binding, held, predefined⟩
    obtain ⟨entry, stored, rfl⟩ := Option.map_eq_some_iff.mp held
    rw [Guest.predefines_of_sameFrame frame] at predefined
    cases before : session.registry.entryAt? key with
    | some earlier =>
        have undropped : ¬ session.Drops key operation := fun dropped =>
          nomatch (absent_of_drops dropped).symm.trans stored
        obtain ⟨later, kept, sameKey, sameKind⟩ := exists_sameKind_perform before undropped
        obtain rfl : entry = ⟨earlier.handle, later⟩ := Option.some.inj (stored.symm.trans kept)
        have sameName : later.name = earlier.binding.name := congrArg Key.name sameKey
        rw [sameKind, sameName] at predefined
        exact .inr ⟨⟨earlier.binding, by rw [Registry.binding?, before]; rfl, predefined⟩, undropped⟩
    | none =>
        have itsKey := ((sound_perform sound operation).held stored).1
        have itsName : entry.binding.name = key.name := congrArg Key.name itsKey
        rw [itsName] at predefined
        rcases origin_of_made before stored predefined.ne_constant with
          puts | ⟨receiver, pulls⟩ | ⟨guest, receiver, value, shown, sees⟩
        · exact absurd ⟨_, key, puts, predefined⟩ unwritten
        · exact .inl (pullsPredefined_of_pullsAnswer before predefined pulls)
        · exact absurd sees ((Guest.predefines_of_sameFrame shown).mpr predefined).not_sees
  · rintro (pulls | ⟨⟨binding, held, predefined⟩, undropped⟩)
    · exact registersPredefined_of_pulls pulls
    · obtain ⟨entry, stored, rfl⟩ := Option.map_eq_some_iff.mp held
      obtain ⟨later, kept, sameKey, sameKind⟩ := exists_sameKind_perform stored undropped
      have sameName : later.name = entry.binding.name := congrArg Key.name sameKey
      refine ⟨later, Registry.binding?_of_entryAt? kept, ?_⟩
      rw [sameKind, sameName]
      exact (Guest.predefines_of_sameFrame frame).mpr predefined

theorem writesPredefined_perform (first operation : Operation) :
    (session.perform first).2.WritesPredefined operation ↔ session.WritesPredefined operation := by
  have frame := session.sameFrame_perform first
  have settings := session.settings_perform first
  have classified (name : String) : (session.perform first).2.classify name = session.classify name := by
    rw [classify, classify, settings]
  have keyed (kind : Kind) (receiver : Scope) (name : String) :
      (session.perform first).2.keyFor kind receiver name = session.keyFor kind receiver name := by
    cases kind <;> simp only [keyFor, Guest.anchorFor, frame.top]
  unfold WritesPredefined
  simp only [Guest.predefines_of_sameFrame frame]
  cases operation <;> simp only [Puts, classified, keyed]

theorem writesPredefined_performAll (earlier : List Operation) (operation : Operation) :
    (session.performAll earlier).WritesPredefined operation ↔ session.WritesPredefined operation := by
  induction earlier generalizing session with
  | nil => rfl
  | cons first rest ih => exact ih.trans (writesPredefined_perform first operation)

/-- On the way, the session has pulled a predefined global, and since then nothing has removed it. -/
def HasPulledPredefined (begun : Session) (key : Key) (operations : List Operation) : Prop :=
  ∃ earlier operation later, operations = earlier ++ operation :: later ∧
    (begun.performAll earlier).PullsPredefined key operation ∧
    ((begun.performAll earlier).perform operation).2.Undropped key later

theorem hasPulledPredefined_append {begun : Session} {operations : List Operation}
    {last : Operation} :
    begun.HasPulledPredefined key (operations ++ [last]) ↔
      (begun.performAll operations).PullsPredefined key last ∨
        begun.HasPulledPredefined key operations ∧
          ¬ (begun.performAll operations).Drops key last := by
  constructor
  · rintro ⟨earlier, operation, later, split, pulls, undropped⟩
    rcases later.eq_nil_or_concat' with rfl | ⟨before, final, rfl⟩
    · obtain ⟨rfl, rfl⟩ : operations = earlier ∧ last = operation := by simpa using split
      exact .inl pulls
    · rw [← List.cons_append, ← List.append_assoc] at split
      obtain ⟨rfl, rfl⟩ : operations = earlier ++ operation :: before ∧ last = final := by
        simpa using List.append_inj' split rfl
      rw [undropped_append] at undropped
      refine .inr ⟨⟨earlier, operation, before, rfl, pulls, undropped.1⟩, ?_⟩
      rw [performAll_split]
      exact undropped.2
  · rintro (pulls | ⟨⟨earlier, operation, later, rfl, pulls, undropped⟩, kept⟩)
    · exact ⟨operations, last, [], rfl, pulls, trivial⟩
    · refine ⟨earlier, operation, later ++ [last], by simp, pulls, ?_⟩
      rw [performAll_split] at kept
      exact (undropped_append _ key later last).mpr ⟨undropped, kept⟩

/-- Without a word of the host, a predefined global is registered exactly if it was pulled and has not
been removed since. Resyncs never take one in. -/
theorem predefined_registered_iff_pulled {begun : Session} {operations : List Operation}
    (fresh : begun.registry = .empty begun.settings)
    (unwritten : ∀ operation ∈ operations, ¬ begun.WritesPredefined operation) (key : Key) :
    (begun.performAll operations).RegistersPredefined key ↔
      begun.HasPulledPredefined key operations := by
  induction operations using List.reverseRecOn with
  | nil =>
      constructor
      · rintro ⟨binding, held, _⟩
        rw [performAll, List.foldl_nil, fresh] at held
        contradiction
      · rintro ⟨earlier, operation, later, split, _⟩
        simp at split
  | append_singleton rest last ih =>
      -- From the end: the last operation brings the binding in, takes it out, or leaves it as it was.
      have sound : begun.Sound := by
        rw [Sound, fresh]
        exact Registry.sound_empty begun.settings
      have lastUnwritten : ¬ (begun.performAll rest).WritesPredefined last := by
        rw [writesPredefined_performAll]
        exact unwritten last (List.mem_append_right _ List.mem_cons_self)
      rw [performAll_append, registersPredefined_perform (sound_performAll sound rest) lastUnwritten,
        hasPulledPredefined_append,
        ih fun operation member => unwritten operation (List.mem_append_left _ member)]

theorem refreshed_predefined_stays :
    let begun := start Guest.fresh { lazy := false }
    let key : Key := ⟨⟨1⟩, "$stdout"⟩
    let operations : List Operation := [.resync ⟨1⟩, .refresh ⟨1⟩ "$stdout", .resync ⟨1⟩]
    begun.registry = .empty begun.settings ∧
      (∀ operation ∈ operations, ¬ begun.WritesPredefined operation) ∧
      begun.HasPulledPredefined key operations ∧
      (begun.performAll operations).RegistersPredefined key := by
  intro begun key operations
  have unwritten : ∀ operation ∈ operations, ¬ begun.WritesPredefined operation := by
    simp [operations, WritesPredefined, Puts]
  have pulled : begun.HasPulledPredefined key operations :=
    ⟨[.resync ⟨1⟩], .refresh ⟨1⟩ "$stdout", [.resync ⟨1⟩], rfl,
      ⟨.globalVariable, ⟨1⟩, ⟨rfl, rfl, by decide⟩, ⟨.inl rfl, by decide⟩, rfl, by decide, by decide⟩,
      fun dropped => dropped, trivial⟩
  exact ⟨rfl, unwritten, pulled, (predefined_registered_iff_pulled rfl unwritten key).mpr pulled⟩

/-- The host has written nothing, yet reading a predefined global registers it. -/
theorem read_registers_predefined :
    let begun := start Guest.fresh {}
    let operations : List Operation := [.get ⟨1⟩ "$stdout"]
    begun.registry = .empty begun.settings ∧
      (∀ operation ∈ operations, ¬ begun.WritesPredefined operation) ∧
      (begun.performAll operations).RegistersPredefined ⟨⟨1⟩, "$stdout"⟩ := by
  intro begun operations
  have held : (begun.performAll operations).registry.binding? ⟨⟨1⟩, "$stdout"⟩ =
      some (.firstSeen .globalVariable ⟨⟨1⟩, "$stdout"⟩ (.text "<stdout>")) := by
    decide
  exact ⟨rfl, by simp [operations, WritesPredefined, Puts], _, held, .inl rfl, by decide⟩

end Session

end SharedBindings
