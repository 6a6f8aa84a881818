import SipAgent.Identity

/-!
# The registry

Which session owns which Call-ID, and the receiver that takes what nobody owns. A key has at most
one owner; the last one to claim it keeps it, and only the owner can give it up.
-/

namespace SipAgent

/-- Owners by Call-ID, in the order in which the keys were claimed, and a receiver. -/
structure Registry (α : Type) where
  bindings : List (CallId × α)
  receiver : Option α
  deriving DecidableEq, Repr

namespace Registry

variable {α : Type}

/-- The registry without keys and without a receiver. -/
def empty : Registry α :=
  ⟨[], none⟩

/-- The owner of a key. -/
def get? (r : Registry α) (key : CallId) : Option α :=
  (r.bindings.find? fun b => b.1 = key).map (·.2)

/-- Whether a key has an owner. -/
def contains (r : Registry α) (key : CallId) : Bool :=
  (r.get? key).isSome

/-- The owner of a key, else the receiver. -/
def resolve (r : Registry α) (key : CallId) : Option α :=
  match r.get? key with
  | some owner => some owner
  | none => r.receiver

/-- The registry without a key. -/
def erase (r : Registry α) (key : CallId) : Registry α :=
  { r with bindings := r.bindings.filter fun b => b.1 ≠ key }

/-- Give a key to an owner, whoever had it before. -/
def insert (r : Registry α) (key : CallId) (owner : α) : Registry α :=
  { r with bindings := (r.erase key).bindings ++ [(key, owner)] }

variable [DecidableEq α]

/-- Whether the owner of a key is this one. -/
def isOwner (r : Registry α) (key : CallId) (owner : α) : Bool :=
  r.get? key = some owner

/-- Take a key from an owner; nothing happens if someone else owns it. -/
def remove (r : Registry α) (key : CallId) (owner : α) : Registry α :=
  if r.isOwner key owner then r.erase key else r

/-- The owners of keys, each once. -/
def owners (r : Registry α) : List α :=
  (r.bindings.map (·.2)).eraseDups

omit [DecidableEq α]

/-- The number of keys that have an owner. -/
def size (r : Registry α) : Nat :=
  r.bindings.length

/-- The registry with a receiver. -/
def setReceiver (r : Registry α) (owner : α) : Registry α :=
  { r with receiver := some owner }

/-- The registry without its receiver. -/
def clearReceiver (r : Registry α) : Registry α :=
  { r with receiver := none }

/-! ### The keys after each operation -/

theorem get?_erase (r : Registry α) (key other : CallId) :
    (r.erase key).get? other = if other = key then none else r.get? other := by
  unfold erase get?
  simp only [List.find?_filter]
  split
  · next h =>
    subst h
    simp
  · next h =>
    congr 2
    funext b
    by_cases hb : b.1 = other
    · simp [hb, h]
    · simp [hb]

@[simp] theorem get?_insert (r : Registry α) (key other : CallId) (owner : α) :
    (r.insert key owner).get? other = if other = key then some owner else r.get? other := by
  have h := get?_erase r key other
  unfold insert get? at *
  simp only [List.find?_append, Option.map_or] at *
  rw [h]
  split
  · next heq => simp [heq]
  · next hne => simp [Ne.symm hne]

/-- Only the owner gives a key up. -/
theorem get?_remove [DecidableEq α] (r : Registry α) (key other : CallId) (owner : α) :
    (r.remove key owner).get? other =
      if other = key ∧ r.get? key = some owner then none else r.get? other := by
  unfold remove isOwner
  by_cases h : r.get? key = some owner <;> simp [h, get?_erase]

end Registry

end SipAgent
