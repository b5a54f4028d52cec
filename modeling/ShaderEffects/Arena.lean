/-!
# Arenas

An arena hands out a fresh handle for every item it takes in. Removing an item
leaves an empty slot behind, and the slot is never used again, so a stale handle
reads nothing rather than someone else's item.
-/

namespace ShaderEffects

/-- A reference to an item of type `α` in an arena. The type keeps a texture's
handle from being given where an effect's is meant. -/
structure Handle (α : Type) where
  /-- The number of the slot. -/
  index : Nat
deriving Repr

namespace Handle

variable {α : Type}

theorem eq_of_index_eq {h k : Handle α} (e : h.index = k.index) : h = k := by
  cases h; cases k; simp_all

instance : DecidableEq (Handle α) := fun h k =>
  if e : h.index = k.index then isTrue (eq_of_index_eq e)
  else isFalse fun hk => e (congrArg index hk)

/-- The text `Handle(n)`. -/
def text (h : Handle α) : String := s!"Handle({h.index})"

end Handle

/-- A growing sequence of slots, some of them emptied. -/
structure Arena (α : Type) where
  slots : List (Option α) := []

namespace Arena

variable {α : Type}

instance : EmptyCollection (Arena α) := ⟨⟨[]⟩⟩

instance : Inhabited (Arena α) := ⟨⟨[]⟩⟩

/-- Takes an item in and returns its handle. -/
def insert (a : Arena α) (item : α) : Arena α × Handle α :=
  (⟨a.slots ++ [some item]⟩, ⟨a.slots.length⟩)

/-- The item under a handle, unless it was removed or the handle was never issued. -/
def get? (a : Arena α) (h : Handle α) : Option α :=
  a.slots[h.index]?.join

/-- Applies `f` to the item under a handle, if there is one. -/
def modify (a : Arena α) (h : Handle α) (f : α → α) : Arena α :=
  ⟨a.slots.modify h.index (Option.map f)⟩

/-- Empties the slot of a handle. -/
def erase (a : Arena α) (h : Handle α) : Arena α :=
  ⟨a.slots.set h.index none⟩

/-- The items in the arena with their handles, oldest first. -/
def toList (a : Arena α) : List (Handle α × α) :=
  a.slots.zipIdx.filterMap fun (slot, index) => slot.map fun item => (⟨index⟩, item)

/-- The number of items in the arena. -/
def size (a : Arena α) : Nat := a.slots.countP Option.isSome

/-- Whether the arena holds no item. -/
def isEmpty (a : Arena α) : Bool := a.size == 0

@[simp] theorem get?_empty (h : Handle α) : (∅ : Arena α).get? h = none := rfl

@[simp] theorem get?_insert (a : Arena α) (item : α) (h : Handle α) :
    (a.insert item).1.get? h = if h = (a.insert item).2 then some item else a.get? h := by
  rcases h with ⟨i⟩
  have e : ((⟨i⟩ : Handle α) = ⟨a.slots.length⟩) ↔ i = a.slots.length :=
    ⟨fun h => congrArg Handle.index h, fun h => by simp [h]⟩
  simp only [insert, get?, e]
  rcases Nat.lt_trichotomy i a.slots.length with hi | hi | hi
  · simp [List.getElem?_append_left hi, Nat.ne_of_lt hi]
  · simp [hi]
  · have h₁ : ¬ i = a.slots.length := by omega
    have h₂ : (a.slots ++ [some item])[i]? = none :=
      List.getElem?_eq_none (by simp; omega)
    simp [h₁, h₂, List.getElem?_eq_none (Nat.le_of_lt hi)]

@[simp] theorem get?_modify (a : Arena α) (f : α → α) (h k : Handle α) :
    (a.modify h f).get? k = if k = h then (a.get? h).map f else a.get? k := by
  rcases h with ⟨i⟩; rcases k with ⟨j⟩
  have e : ((⟨j⟩ : Handle α) = ⟨i⟩) ↔ j = i :=
    ⟨fun h => congrArg Handle.index h, fun h => by simp [h]⟩
  simp only [modify, get?, e, List.getElem?_modify]
  by_cases hij : j = i
  · subst hij; cases a.slots[j]? <;> simp
  · have : ¬ i = j := fun h => hij h.symm
    simp [hij, this]

@[simp] theorem get?_erase (a : Arena α) (h k : Handle α) :
    (a.erase h).get? k = if k = h then none else a.get? k := by
  rcases h with ⟨i⟩; rcases k with ⟨j⟩
  have e : ((⟨j⟩ : Handle α) = ⟨i⟩) ↔ j = i :=
    ⟨fun h => congrArg Handle.index h, fun h => by simp [h]⟩
  simp only [erase, get?, e, List.getElem?_set]
  by_cases hij : j = i
  · subst hij
    by_cases hlt : j < a.slots.length <;> simp [hlt]
  · have : ¬ i = j := fun h => hij h.symm
    simp [hij, this]

end Arena

end ShaderEffects
