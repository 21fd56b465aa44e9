import SharedBindings.Guest.Cell

/-!
# Bindings

One shared name: what it stands for, where it is anchored in the guest, and which side spoke
last. A value written by the host is pending until it is delivered; from then on the guest has
the word, until the host writes again. Nothing in the type ties the values to the side that counts
and to the mark of delivery: each of the four has its own field, and whoever changes one has to
change the others with it.
-/

namespace SharedBindings

/-- The side whose value counts. -/
inductive Authority where
  | host
  | guest
deriving DecidableEq

/-- What identifies a binding: the same name under two anchors is two bindings. -/
structure Key where
  anchor : Scope
  name : String
deriving DecidableEq

structure Binding where
  name : String
  kind : Kind
  anchor : Scope
  /-- The last word of the host. -/
  hostValue? : Option Value
  /-- The last value that the guest is known to have held. -/
  guestValue? : Option Value
  authority : Authority
  /-- Whether the guest has the value that counts. -/
  materialized : Bool
  /-- The scope that received the last delivery, for the kinds that are kept per scope. -/
  storedIn : Option Scope
deriving DecidableEq

namespace Binding

/-- A binding as the host makes it. -/
def firstWritten (kind : Kind) (key : Key) (value : Value) : Binding where
  name := key.name
  kind := kind
  anchor := key.anchor
  hostValue? := some value
  guestValue? := none
  authority := .host
  materialized := false
  storedIn := none

/-- A binding as the first sighting of a value makes it. The guest has the value already. -/
def firstSeen (kind : Kind) (key : Key) (value : Value) : Binding where
  name := key.name
  kind := kind
  anchor := key.anchor
  hostValue? := none
  guestValue? := some value
  authority := .guest
  materialized := true
  storedIn := none

def ofHost? (kind : Kind) (key : Key) (value : Value) : Option Binding :=
  if kind.accepts key.name then some (firstWritten kind key value) else none

def ofGuest? (kind : Kind) (key : Key) (value : Value) : Option Binding :=
  if kind.accepts key.name then some (firstSeen kind key value) else none

def key (binding : Binding) : Key :=
  ⟨binding.anchor, binding.name⟩

def isPending (binding : Binding) : Bool :=
  binding.authority = .host && !binding.materialized

/-- The value of the side that counts, if that side has left one. -/
def value? (binding : Binding) : Option Value :=
  match binding.authority with
  | .host => binding.hostValue?
  | .guest => binding.guestValue?

/-- The value that counts, for readers that take nil for a missing one. -/
def value (binding : Binding) : Value :=
  binding.value?.getD .nil

def hostWrite (binding : Binding) (value : Value) : Binding :=
  { binding with hostValue? := some value, authority := .host, materialized := false }

def see (binding : Binding) (value : Value) : Binding :=
  { binding with guestValue? := some value, authority := .guest, materialized := true }

/-- Takes over what the guest holds, unless a host value is still pending. -/
def observe (binding : Binding) (value : Value) : Binding :=
  if binding.isPending then binding else binding.see value

/-- Records a delivery: the guest now holds the value that counted. -/
def delivered (binding : Binding) (scope : Option Scope) : Binding :=
  { binding with
    guestValue? := binding.value?.or binding.guestValue?
    authority := .guest
    materialized := true
    storedIn := scope }

def isDue (binding : Binding) : Bool :=
  binding.isPending || binding.kind.isFramed

theorem accepts_of_ofGuest? {kind : Kind} {key : Key} {value : Value} {binding : Binding}
    (made : ofGuest? kind key value = some binding) : kind.accepts key.name = true := by
  unfold ofGuest? at made
  split at made
  · assumption
  · contradiction

theorem key_of_ofGuest? {kind : Kind} {key : Key} {value : Value} {binding : Binding}
    (made : ofGuest? kind key value = some binding) : binding.key = key := by
  unfold ofGuest? at made
  split at made
  · cases made; rfl
  · contradiction

variable (binding : Binding) (value other : Value)

@[simp] theorem kind_hostWrite : (binding.hostWrite value).kind = binding.kind := rfl

@[simp] theorem value?_hostWrite : (binding.hostWrite value).value? = some value := rfl

theorem observe_of_pending (pending : binding.isPending = true) :
    binding.observe value = binding := by
  rw [observe, if_pos pending]

theorem observe_of_settled (settled : binding.isPending = false) :
    binding.observe value = binding.see value := by
  rw [observe, if_neg (by simp [settled])]

@[simp] theorem key_observe : (binding.observe value).key = binding.key := by
  unfold observe
  split <;> rfl

@[simp] theorem kind_observe : (binding.observe value).kind = binding.kind := by
  unfold observe
  split <;> rfl

@[simp] theorem isPending_see : (binding.see value).isPending = false := rfl

@[simp] theorem see_see : (binding.see other).see value = binding.see value := rfl

@[simp] theorem isPending_observe : (binding.observe value).isPending = binding.isPending := by
  cases pending : binding.isPending with
  | true => rw [observe_of_pending binding value pending, pending]
  | false => rw [observe_of_settled binding value pending, isPending_see]

@[simp] theorem observe_observe :
    (binding.observe other).observe value = binding.observe value := by
  cases pending : binding.isPending with
  | true => rw [observe_of_pending binding other pending]
  | false =>
      have settled : (binding.observe other).isPending = false := by rw [isPending_observe, pending]
      rw [observe_of_settled _ value settled, observe_of_settled binding other pending,
        observe_of_settled binding value pending, see_see]

@[simp] theorem kind_delivered (scope : Option Scope) :
    (binding.delivered scope).kind = binding.kind := rfl

@[simp] theorem isPending_delivered (scope : Option Scope) :
    (binding.delivered scope).isPending = false := rfl

theorem delivered_of_valued {binding : Binding} {value : Value}
    (valued : binding.value? = some value) (scope : Option Scope) :
    binding.delivered scope = { binding.see value with storedIn := scope } := by
  rw [delivered, valued, Option.some_or]
  rfl

/-- A delivery keeps the value that counts. -/
theorem value?_delivered {binding : Binding} {value : Value} (valued : binding.value? = some value)
    (scope : Option Scope) : (binding.delivered scope).value? = some value := by
  rw [delivered_of_valued valued]
  rfl

theorem delivered_delivered (scope : Option Scope) :
    (binding.delivered scope).delivered scope = binding.delivered scope := by
  simp [delivered, value?]

end Binding

end SharedBindings
