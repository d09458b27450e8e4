import BulkOnly.Urb

set_option autoImplicit false

namespace BulkOnly

@[ext] structure Urb.Queue where
  toList : List Urb := []
  deriving DecidableEq, Repr

namespace Urb.Queue

def empty : Queue := {}

def size (queue : Queue) : Nat := queue.toList.length

def isEmpty (queue : Queue) : Bool := queue.toList.isEmpty

def append (queue : Queue) (urb : Urb) : Queue := ⟨queue.toList ++ [urb]⟩

@[simp] theorem toList_append (queue : Queue) (urb : Urb) :
    (queue.append urb).toList = queue.toList ++ [urb] := rfl

def removeHead? (queue : Queue) : Option (Urb × Queue) :=
  match queue.toList with
  | [] => none
  | urb :: rest => some (urb, ⟨rest⟩)

theorem removeHead?_eq_some_iff {queue rest : Queue} {urb : Urb} :
    queue.removeHead? = some (urb, rest) ↔ queue.toList = urb :: rest.toList := by
  cases queue with
  | mk urbs => cases urbs <;> simp [removeHead?, Queue.ext_iff]

def contains (queue : Queue) (id : Nat) : Bool := queue.toList.any (fun urb => urb.id == id)

def remove? (queue : Queue) (id : Nat) : Option (Urb × Queue) :=
  (queue.toList.find? (fun urb => urb.id == id)).map fun urb =>
    (urb, ⟨queue.toList.eraseP (fun other => other.id == id)⟩)

theorem remove?_eq_none_iff {queue : Queue} {id : Nat} :
    queue.remove? id = none ↔ queue.contains id = false := by
  simp [remove?, contains]

theorem remove?_split {queue rest : Queue} {id : Nat} {urb : Urb}
    (removed : queue.remove? id = some (urb, rest)) :
    ∃ before after, queue.toList = before ++ urb :: after ∧ rest.toList = before ++ after ∧
      urb.id = id ∧ ∀ other ∈ before, other.id ≠ id := by
  obtain ⟨found, hit, pair⟩ := Option.map_eq_some_iff.mp removed
  obtain ⟨rfl, rfl⟩ := Prod.mk.inj pair
  obtain ⟨same, before, after, split, earlier⟩ := List.find?_eq_some_iff_append.mp hit
  refine ⟨before, after, split, ?_, by simpa using same, by simpa using earlier⟩
  have none_before : ∀ other ∈ before, ¬ (other.id == id) = true := by simpa using earlier
  simp [split, List.eraseP_append_right _ none_before, same]

end Urb.Queue

end BulkOnly
