import Mathlib.Data.Sym.Sym2
import SharedBindings.Proofs.Injection.Idempotence
import SharedBindings.Proofs.Resync.Idempotence
import SharedBindings.Proofs.Session.Namespaces

/-!
# Passes of independent kinds commute

The passes of all kinds work on one registry, one guest and one counter. But kinds that share no names
leave each other's keys alone when they take values from the guest, and kinds that share no place leave
each other's cells alone when they bring values to it. Then it makes no difference which pass comes
first, except that each of them registers what is new to it at the end.
-/

namespace SharedBindings

namespace Kind

variable {kind other : Kind} {name : String}

/-- Only the two kinds of local-style names have names in common. -/
theorem refuses_of_apart (different : kind ≠ other)
    (apart : s(kind, other) ≠ s(.localVariable, .localGlobal)) (accepted : other.accepts name = true) :
    kind.accepts name = false := by
  by_contra alsoAccepted
  rcases meets_of_accepts (by simpa using alsoAccepted) accepted with same | twins
  · exact different same.symm
  · cases kind with
    | localVariable =>
        obtain rfl : Kind.localGlobal = other := Option.some.inj twins
        exact apart rfl
    | localGlobal =>
        obtain rfl : Kind.localVariable = other := Option.some.inj twins
        exact apart Sym2.eq_swap
    | instanceVariable | classVariable | globalVariable | constant => contradiction

/-- Only globals and the local-style names that stand for globals have a place in common. -/
theorem place_ne_of_apart (different : kind ≠ other)
    (apart : s(kind, other) ≠ s(.globalVariable, .localGlobal)) (scope above : Scope) :
    kind.place scope ≠ other.place above := by
  cases kind <;> cases other <;> simp_all [place]

end Kind

namespace Registry

/-- Two registries that follow from one and differ at most in the order of what is new. -/
structure SameButOrder (before left right : Registry) : Prop where
  keys : ∃ early late : List Key, early.Perm late ∧
    left.entries.keys = before.entries.keys ++ early ∧
    right.entries.keys = before.entries.keys ++ late
  bindings : ∀ key, left.binding? key = right.binding? key
  held : ∀ key ∈ before.entries.keys, left.entryAt? key = right.entryAt? key
  settings : left.settings = right.settings
  released : left.released = right.released

variable {registry before left right : Registry} {guest : Guest} {receiver : Scope}
  {kind other : Kind} {key : Key}

theorem mem_keys_iff_binding? :
    key ∈ registry.entries.keys ↔ (registry.binding? key).isSome = true := by
  rw [binding?, Option.isSome_map]
  exact OrderedMap.lookup_isSome_iff.symm

theorem Observes.sameButOrder (toLeft : before.Observes left) (toRight : before.Observes right)
    (same : ∀ key, left.binding? key = right.binding? key) : SameButOrder before left right where
  keys := by
    obtain ⟨early, leftKeys⟩ := toLeft.keys
    obtain ⟨late, rightKeys⟩ := toRight.keys
    have perm : left.entries.keys.Perm right.entries.keys :=
      (List.perm_ext_iff_of_nodup left.entries.keys_nodup right.entries.keys_nodup).mpr fun key => by
        rw [mem_keys_iff_binding?, mem_keys_iff_binding?, same]
    rw [← leftKeys, ← rightKeys] at perm
    exact ⟨early, late, (List.perm_append_left_iff _).mp perm, leftKeys.symm, rightKeys.symm⟩
  bindings := same
  held key member := by
    obtain ⟨entry, stored⟩ := Option.isSome_iff_exists.mp (OrderedMap.lookup_isSome_iff.mpr member)
    obtain ⟨first, inLeft, _⟩ := toLeft.held stored
    obtain ⟨second, inRight, _⟩ := toRight.held stored
    have sameBinding := same key
    rw [Registry.binding?, Registry.binding?, inLeft, inRight, Option.map_some,
      Option.map_some] at sameBinding
    have itsBinding : first = second := Option.some.inj sameBinding
    rw [inLeft, inRight, itsBinding]
  settings := toLeft.settings.trans toRight.settings.symm
  released := toLeft.released.trans toRight.released.symm

/-- A pass makes of a key what it makes of the binding there, whatever passes of other kinds there have
been. -/
theorem binding?_resyncKind_resyncKind (named : registry.WellNamed) (fits : guest.NamesFit)
    (refused : kind.accepts key.name = false) :
    ((registry.resyncKind guest receiver kind).resyncKind guest receiver other).binding? key =
      ((registry.resyncKind guest receiver other).resyncKind guest receiver kind).binding? key := by
  obtain ⟨change, _, changes⟩ := (sweeps_resyncKind guest receiver other).keywise
  have home : (registry.resyncKind guest receiver kind).argumentKey guest.top =
      registry.argumentKey guest.top := (sweeps_resyncKind guest receiver kind).staysHome rfl
  have namedThen : (registry.resyncKind guest receiver other).WellNamed :=
    named.of_observes (registry.observes_resyncKind guest receiver other)
  calc ((registry.resyncKind guest receiver kind).resyncKind guest receiver other).binding? key
      = change key ((registry.resyncKind guest receiver kind).binding? key) := changes home key
    _ = change key (registry.binding? key) := by
        rw [binding?, entryAt?_resyncKind_of_refused named fits refused, binding?]
    _ = (registry.resyncKind guest receiver other).binding? key := (changes rfl key).symm
    _ = _ := by
        rw [binding?, binding?, entryAt?_resyncKind_of_refused namedThen fits refused]

theorem sameButOrder_resyncKind (named : registry.WellNamed) (fits : guest.NamesFit)
    (different : kind ≠ other) (apart : s(kind, other) ≠ s(.localVariable, .localGlobal))
    (receiver : Scope) :
    SameButOrder registry
      ((registry.resyncKind guest receiver kind).resyncKind guest receiver other)
      ((registry.resyncKind guest receiver other).resyncKind guest receiver kind) := by
  have observes (first second : Kind) :
      registry.Observes
        ((registry.resyncKind guest receiver first).resyncKind guest receiver second) :=
    (registry.observes_resyncKind guest receiver first).trans (observes_resyncKind _ guest receiver _)
  refine (observes kind other).sameButOrder (observes other kind) fun key => ?_
  cases accepted : other.accepts key.name with
  | true =>
      exact binding?_resyncKind_resyncKind named fits (Kind.refuses_of_apart different apart accepted)
  | false => exact (binding?_resyncKind_resyncKind named fits accepted).symm

end Registry

/-- Two deliveries that have neither their binding nor their place in common. -/
structure Delivery.Apart (delivery other : Delivery) : Prop where
  keys : delivery.key ≠ other.key
  places : delivery.cell.place ≠ other.cell.place

namespace Session

variable {session : Session} {delivery other : Delivery} {early late : List Delivery}
  {kind another : Kind}

theorem settle_comm (apart : delivery.Apart other) (session : Session) :
    (session.settle delivery).settle other = (session.settle other).settle delivery := by
  simp only [settle, deliver, Session.mk.injEq]
  refine ⟨?guest, ?registry, ?generation⟩
  case guest => exact session.guest.write_comm _ _ apart.places _ _
  case registry => exact session.registry.changeAt_comm apart.keys _ _
  case generation => exact session.generation.bumpIf_comm _ _

theorem replay_settle (apart : ∀ earlier ∈ early, earlier.Apart delivery) (session : Session) :
    (session.settle delivery).replay early = (session.replay early).settle delivery := by
  induction early generalizing session with
  | nil => rfl
  | cons first rest ih =>
      have later := ih (fun earlier member => apart earlier (List.mem_cons_of_mem _ member))
        (session.settle first)
      rw [settle_comm (apart first List.mem_cons_self)] at later
      exact later

/-- What one pass delivers may come before or after what another one delivers. -/
theorem replay_comm (apart : ∀ earlier ∈ early, ∀ later ∈ late, earlier.Apart later)
    (session : Session) :
    (session.replay early).replay late = (session.replay late).replay early := by
  induction late generalizing session with
  | nil => rfl
  | cons first rest ih =>
      have front := replay_settle (fun earlier member => apart earlier member first List.mem_cons_self)
        session
      have tail := ih (fun earlier member later further =>
        apart earlier member later (List.mem_cons_of_mem _ further)) (session.settle first)
      rw [front] at tail
      exact tail

theorem apart_of_mem_owedToKind (different : kind ≠ another)
    (apart : s(kind, another) ≠ s(.globalVariable, .localGlobal))
    (member : delivery ∈ session.owedToKind kind) (also : other ∈ session.owedToKind another) :
    delivery.Apart other where
  keys same := by
    obtain ⟨owes, itsKind⟩ := owedAt?_of_mem_owedToKind member
    obtain ⟨owesOther, otherKind⟩ := owedAt?_of_mem_owedToKind also
    rw [same, owesOther] at owes
    obtain rfl : other = delivery := Option.some.inj owes
    exact different (itsKind.symm.trans otherKind)
  places := by
    obtain ⟨scope, place⟩ := exists_place_of_mem_owedToKind member
    obtain ⟨above, otherPlace⟩ := exists_place_of_mem_owedToKind also
    rw [place, otherPlace]
    exact Kind.place_ne_of_apart different apart scope above

theorem injectEach_pair (different : kind ≠ another) (session : Session) :
    session.injectEach [kind, another] =
      ((session.owedToKind kind).length + (session.owedToKind another).length,
        (session.replay (session.owedToKind kind)).replay (session.owedToKind another)) := by
  have distinct : ([kind, another].flatMap session.registry.keysOf).Nodup :=
    session.registry.nodup_flatMap_keysOf (by simpa using different)
  rw [injectEach_eq_deliverAll, deliverAll_eq_replay session distinct, List.flatMap_cons,
    List.flatMap_singleton, List.filterMap_append, List.length_append, replay, List.foldl_append]
  rfl

theorem injectEach_comm (different : kind ≠ another)
    (apart : s(kind, another) ≠ s(.globalVariable, .localGlobal)) (session : Session) :
    session.injectEach [kind, another] = session.injectEach [another, kind] := by
  have apartEach : ∀ earlier ∈ session.owedToKind kind, ∀ later ∈ session.owedToKind another,
      earlier.Apart later := fun _ member _ also =>
    apart_of_mem_owedToKind different apart member also
  have commutes := replay_comm apartEach session
  rw [injectEach_pair different, injectEach_pair different.symm, commutes, Nat.add_comm]

/-- Passes of two kinds may change places. When they take values from the guest, only the two kinds of
local-style names may not, which share their names; when they bring values to it, only the two kinds of
globals may not, which share their table. -/
theorem independent_passes_commute {kind another : Kind} (different : kind ≠ another) :
    (∀ session, Reachable session → ∀ guest : Guest, guest.NamesFit → ∀ receiver,
      s(kind, another) ≠ s(.localVariable, .localGlobal) →
        Registry.SameButOrder session.registry
          ((session.registry.resyncKind guest receiver kind).resyncKind guest receiver another)
          ((session.registry.resyncKind guest receiver another).resyncKind guest receiver kind)) ∧
      ∀ session : Session, s(kind, another) ≠ s(.globalVariable, .localGlobal) →
        session.injectEach [kind, another] = session.injectEach [another, kind] := by
  constructor
  · intro session reached guest fits receiver apart
    exact Registry.sameButOrder_resyncKind reached.sound.wellNamed fits different apart receiver
  · intro session apart
    exact injectEach_comm different apart session

/-- A constant and a global wait for the guest, which has another constant and another global. -/
theorem constants_commute_with_globals :
    let session := (start Guest.fresh {}).performAll
      [.put ⟨1⟩ "LIMIT" (.int 1), .put ⟨1⟩ "$count" (.int 2)]
    let guest := (Guest.fresh.write (Kind.constant.cell ⟨1⟩ "Total") (.int 3)).write
      (Kind.globalVariable.cell ⟨1⟩ "$seen") (.int 4)
    let constantsFirst := (session.registry.resyncKind guest ⟨1⟩ .constant).resyncKind guest ⟨1⟩
      .globalVariable
    let globalsFirst := (session.registry.resyncKind guest ⟨1⟩ .globalVariable).resyncKind guest ⟨1⟩
      .constant
    Kind.constant ≠ .globalVariable ∧ Reachable session ∧ guest.NamesFit ∧
      Registry.SameButOrder session.registry constantsFirst globalsFirst ∧
      constantsFirst ≠ globalsFirst ∧
      session.injectEach [.constant, .globalVariable] =
        session.injectEach [.globalVariable, .constant] ∧
      (session.injectEach [.constant, .globalVariable]).1 = 2 := by
  intro session guest constantsFirst globalsFirst
  have reached : Reachable session := .perform (.perform (.start Guest.fresh {} .start) _) _
  have fits : guest.NamesFit :=
    (Guest.namesFit_fresh.write (.int 3) fun _ _ => by decide).write (.int 4) fun _ _ => by decide
  have different : Kind.constant ≠ .globalVariable := by decide
  obtain ⟨resyncs, injections⟩ := independent_passes_commute different
  have pulled := resyncs session reached guest fits ⟨1⟩ (by decide)
  exact ⟨different, reached, fits, pulled, by decide +kernel, injections session (by decide),
    by decide +kernel⟩

end Session

end SharedBindings
