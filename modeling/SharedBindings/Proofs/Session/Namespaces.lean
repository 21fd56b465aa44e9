import SharedBindings.Proofs.Resync.Mirroring
import SharedBindings.Proofs.Resync.Origins
import SharedBindings.Proofs.Session.HostWrites

/-!
# Kinds keep to their own names

A registry tells bindings apart by anchor and name, not by kind. That is enough for all kinds but the
two of local-style names, which share their spelling and their anchor: whichever of the two comes first
under a key has it, and what is put or seen for the other one is put or seen for it. Every other kind
has its names to itself, for puts and for passes alike.
-/

namespace SharedBindings

namespace Kind

/-- The other kind of local-style names. -/
def twin? : Kind → Option Kind
  | .localVariable => some .localGlobal
  | .localGlobal => some .localVariable
  | .instanceVariable | .classVariable | .globalVariable | .constant => none

/-- The kinds that can stand under the keys of a kind. -/
def Meets (kind other : Kind) : Prop :=
  other = kind ∨ kind.twin? = some other

theorem meets_of_accepts {kind other : Kind} {name : String} (accepted : kind.accepts name = true)
    (alsoAccepted : other.accepts name = true) : kind.Meets other := by
  have alike := spelling_eq_of_accepts accepted alsoAccepted
  cases kind <;> cases other <;> first | exact .inl rfl | exact .inr rfl | contradiction

end Kind

namespace Registry

/-- What a pass of a kind may do: change bindings of kinds that it can meet, and make bindings of its
own. -/
structure KeepsToKind (kind : Kind) (before after : Registry) : Prop where
  observes : before.Observes after
  changed : ∀ key entry, before.entryAt? key = some entry → after.entryAt? key ≠ some entry →
    kind.Meets entry.binding.kind
  made : ∀ key entry, before.entryAt? key = none → after.entryAt? key = some entry →
    entry.binding.kind = kind

variable {registry before after : Registry} {guest : Guest} {receiver : Scope} {kind : Kind}

theorem keepsToKind_of_untouched (named : before.WellNamed) (observes : before.Observes after)
    (makes : MakesOnly kind before after)
    (untouched : ∀ key, kind.accepts key.name = false → after.entryAt? key = before.entryAt? key) :
    KeepsToKind kind before after where
  observes := observes
  changed key entry stored differs := by
    by_cases accepted : kind.accepts key.name = true
    · exact Kind.meets_of_accepts accepted (named key entry stored)
    · have same := untouched key (by simpa using accepted)
      exact absurd (same.trans stored) differs
  made _ _ absent stored := makes.made absent stored

theorem keepsToKind_resyncKind (named : registry.WellNamed) (fits : guest.NamesFit)
    (receiver : Scope) (kind : Kind) :
    KeepsToKind kind registry (registry.resyncKind guest receiver kind) :=
  keepsToKind_of_untouched named (registry.observes_resyncKind guest receiver kind)
    (registry.makesOnly_resyncKind guest receiver kind) fun _ refused =>
      entryAt?_resyncKind_of_refused named fits refused

theorem keepsToKind_pull (named : registry.WellNamed) (guest : Guest) (receiver : Scope) (kind : Kind)
    (name : String) : KeepsToKind kind registry (registry.pull guest receiver kind name).2 := by
  refine keepsToKind_of_untouched named (registry.observes_pull guest receiver kind name)
    (registry.makesOnly_pull guest receiver kind name) fun key refused => ?_
  by_cases accepted : kind.accepts name = true
  · refine registry.entryAt?_pull_other fun same => ?_
    rw [same, accepted] at refused
    contradiction
  · rw [pull, if_neg accepted]

end Registry

namespace Session

/-- What a put under a kind returns and what becomes of it. -/
structure PutsUnderKind (session : Session) (kind : Kind) (receiver : Scope) (name : String)
    (value : Value) (entry : Entry) (after : Session) : Prop where
  put : session.putKind kind receiver name value = .ok (entry.handle, after)
  held : after.registry.behind? entry.handle = some entry.binding
  /-- A binding that the put has made is of the kind that was asked for. -/
  made : session.registry.entryAt? (session.keyFor kind receiver name) = none →
    entry.binding.kind = kind
  /-- A binding that was there keeps its kind, and that can only be another one for a local-style
  name. -/
  kept : ∀ earlier, session.registry.entryAt? (session.keyFor kind receiver name) = some earlier →
    entry.handle = earlier.handle ∧ entry.binding.kind = earlier.binding.kind ∧
      kind.Meets earlier.binding.kind
  /-- Whatever happens until a pass finds a target, the pass delivers the value, to where the kind of
  the binding is kept. -/
  delivered : ∀ waiting, after.SparesAll (session.keyFor kind receiver name) waiting →
    after.Awaits (session.keyFor kind receiver name) waiting →
    ∀ cell, (after.moveAll waiting).guest.target? entry.binding = some cell →
      (∃ scope, cell = entry.binding.kind.cell scope name) ∧
        DeliversOnce (after.moveAll waiting) (session.keyFor kind receiver name) entry value cell
  /-- The very next pass leaves the value in that cell, unless another binding's delivery to the cell
  comes after it. -/
  stands : ∀ cell, after.guest.target? entry.binding = some cell →
    after.guest.has cell.place = true →
    (∀ last, Delivery.lastTo? after.owed cell = some last →
      last.key = session.keyFor kind receiver name) →
    after.injectPending.2.guest.content cell = some value

theorem exists_putsUnderKind {session : Session} {kind : Kind} {name : String}
    (sound : session.Sound) (accepted : kind.accepts name = true) (receiver : Scope)
    (value : Value) :
    ∃ entry after, session.PutsUnderKind kind receiver name value entry after := by
  obtain ⟨registry, put, entries⟩ := session.putKind_of_accepts receiver value accepted
  obtain ⟨pending, written⟩ := session.putEntry_waits kind (session.keyFor kind receiver name) value
  have performed : (session.perform (.putKind kind receiver name value)).2 =
      { session with registry } := by
    simp only [perform, put, orRefuse]
  have soundAfter : { session with registry }.Sound :=
    performed ▸ sound_perform sound (.putKind kind receiver name value)
  have stored := (entries (session.keyFor kind receiver name)).trans (if_pos rfl)
  refine ⟨session.putEntry kind (session.keyFor kind receiver name) value, { session with registry },
    ?_⟩
  constructor
  case put => exact put
  case held => exact soundAfter.booked.behind?_of_entryAt? stored
  case made =>
    intro absent
    rw [putEntry, absent]
    rfl
  case kept =>
    intro earlier found
    rw [putEntry, found]
    exact ⟨rfl, rfl, Kind.meets_of_accepts accepted (sound.wellNamed _ _ found)⟩
  case delivered =>
    intro waiting spared awaits cell target
    have itsName : (session.putEntry kind (session.keyFor kind receiver name) value).binding.name =
        name := congrArg Key.name (soundAfter.held stored).1
    constructor
    · rw [← Guest.deliveryCell?_eq_target?] at target
      obtain ⟨scope, _, itsCell⟩ := Option.map_eq_some_iff.mp target
      exact ⟨scope, by rw [← itsCell, itsName]⟩
    · have waits := entryAt?_moveAll_of_awaits stored pending spared awaits
      exact deliversOnce_of_target waits pending written target
  case stands =>
    intro cell target present own
    obtain ⟨last, isLast, itsValue, content⟩ :=
      (deliversOnce_of_target stored pending written target).holds
    rw [content present, itsValue (own last isLast)]

/-- Puts and passes of a kind reach bindings of that kind only, but for local-style names: a binding of
one of their two kinds stands for the other one as well where it came first. -/
theorem kinds_keep_to_their_names {session : Session} (reached : Reachable session) (kind : Kind) :
    (∀ receiver name value, kind.accepts name = true →
      ∃ entry after, session.PutsUnderKind kind receiver name value entry after) ∧
      (∀ guest : Guest, guest.NamesFit → ∀ receiver, Registry.KeepsToKind kind session.registry
        (session.registry.resyncKind guest receiver kind)) ∧
      ∀ guest receiver name, Registry.KeepsToKind kind session.registry
        (session.registry.pull guest receiver kind name).2 := by
  refine ⟨fun receiver name value accepted => exists_putsUnderKind reached.sound accepted receiver value,
    fun guest fits receiver => ?_, fun guest receiver name => ?_⟩
  · exact Registry.keepsToKind_resyncKind reached.sound.wellNamed fits receiver kind
  · exact Registry.keepsToKind_pull reached.sound.wellNamed guest receiver kind name

theorem global_beside_local :
    let session := ((start Guest.fresh {}).perform (.put ⟨1⟩ "count" (.int 1))).2
    Reachable session ∧ Kind.globalVariable.accepts "$count" = true ∧ Guest.fresh.NamesFit ∧
      (∃ entry after, session.PutsUnderKind .globalVariable ⟨1⟩ "$count" (.int 2) entry after ∧
        entry.binding.kind = .globalVariable ∧
        after.injectPending.2.guest.content (Kind.globalVariable.cell ⟨1⟩ "$count") =
          some (.int 2)) ∧
      Registry.KeepsToKind .globalVariable session.registry
        (session.registry.resyncKind Guest.fresh ⟨1⟩ .globalVariable) := by
  intro session
  have reached : Reachable session := .perform (.start Guest.fresh {} .start) _
  obtain ⟨puts, passes, _⟩ := kinds_keep_to_their_names reached .globalVariable
  obtain ⟨entry, after, put⟩ := puts ⟨1⟩ "$count" (.int 2) (by decide)
  let written : Session := (session.perform (.putKind .globalVariable ⟨1⟩ "$count" (.int 2))).2
  have made : session.putKind .globalVariable ⟨1⟩ "$count" (.int 2) = .ok (⟨1⟩, written) := by decide
  obtain ⟨itsHandle, rfl⟩ := Prod.mk.inj (Except.ok.inj (made.symm.trans put.put))
  have itsBinding : written.registry.behind? ⟨1⟩ =
      some (.firstWritten .globalVariable ⟨⟨1⟩, "$count"⟩ (.int 2)) := by decide
  rw [itsHandle, put.held, Option.some.injEq] at itsBinding
  have target : written.guest.target? entry.binding =
      some (Kind.globalVariable.cell ⟨1⟩ "$count") := by
    rw [itsBinding]
    decide
  have stands := put.stands _ target (by decide) (by decide)
  exact ⟨reached, by decide, Guest.namesFit_fresh, ⟨entry, written, put, put.made (by decide), stands⟩,
    passes Guest.fresh Guest.namesFit_fresh ⟨1⟩⟩

/-- A local has the key of the local-style name, so the put for the global writes the local. -/
theorem local_stands_for_global :
    let session := ((start Guest.fresh {}).perform (.putKind .localVariable ⟨1⟩ "count" (.int 1))).2
    Reachable session ∧ Kind.localGlobal.accepts "count" = true ∧
      ∃ handle after binding,
        session.putKind .localGlobal ⟨1⟩ "count" (.int 2) = .ok (handle, after) ∧
        after.registry.behind? handle = some binding ∧ binding.kind = .localVariable ∧
        after.injectPending.2.guest.content (Kind.localVariable.cell ⟨1⟩ "count") = some (.int 2) ∧
        after.injectPending.2.guest.content (Kind.localGlobal.cell ⟨1⟩ "count") = none := by
  intro session
  have reached : Reachable session := .perform (.start Guest.fresh {} .start) _
  let after := (session.perform (.putKind .localGlobal ⟨1⟩ "count" (.int 2))).2
  let binding : Binding := .firstWritten .localVariable ⟨⟨1⟩, "count"⟩ (.int 2)
  have put : session.putKind .localGlobal ⟨1⟩ "count" (.int 2) = .ok (⟨0⟩, after) := by
    decide +kernel
  exact ⟨reached, by decide, ⟨0⟩, after, binding, put, by decide +kernel, rfl, by decide +kernel,
    by decide +kernel⟩

end Session

end SharedBindings
