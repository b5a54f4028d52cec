/-!
# Tables

A finite map kept as a list of pairs, in the order in which the keys first
arrived. Looking a key up is the only view the rest of the library takes of a
table, and each operation is described by what it does to that view.
-/

namespace ShaderEffects

/-- A finite map from keys to values. -/
structure Table (κ α : Type) where
  /-- The bindings; of two bindings of one key only the first counts. -/
  entries : List (κ × α) := []
deriving Repr, DecidableEq

namespace Table

variable {κ α : Type} [DecidableEq κ]

instance : EmptyCollection (Table κ α) := ⟨⟨[]⟩⟩

instance : Inhabited (Table κ α) := ⟨⟨[]⟩⟩

/-- The value bound to `k`. -/
def get? (t : Table κ α) (k : κ) : Option α :=
  (t.entries.find? fun e => e.1 = k).map (·.2)

/-- Whether `k` is bound. -/
def contains (t : Table κ α) (k : κ) : Bool :=
  (t.get? k).isSome

/-- Replaces the first binding of `k`, or adds one at the end. -/
def insertEntry (k : κ) (v : α) : List (κ × α) → List (κ × α)
  | [] => [(k, v)]
  | e :: rest => if e.1 = k then (k, v) :: rest else e :: insertEntry k v rest

/-- Binds `k` to `v`. -/
def insert (t : Table κ α) (k : κ) (v : α) : Table κ α :=
  ⟨insertEntry k v t.entries⟩

/-- Removes every binding of `k`. -/
def erase (t : Table κ α) (k : κ) : Table κ α :=
  ⟨t.entries.filter fun e => e.1 ≠ k⟩

/-- Applies `f` to the value bound to `k`, if there is one. -/
def modify (t : Table κ α) (k : κ) (f : α → α) : Table κ α :=
  match t.get? k with
  | some v => t.insert k (f v)
  | none => t

/-- The number of bindings. -/
def size (t : Table κ α) : Nat := t.entries.length

/-- The first key, in order of arrival, whose value satisfies `p`. -/
def findKey? (t : Table κ α) (p : α → Bool) : Option κ :=
  (t.entries.find? fun e => p e.2).map (·.1)

@[simp] theorem get?_empty (k : κ) : (∅ : Table κ α).get? k = none := rfl

theorem find?_insertEntry (k j : κ) (v : α) (l : List (κ × α)) :
    ((insertEntry k v l).find? fun e => e.1 = j).map (·.2) =
      if j = k then some v else (l.find? fun e => e.1 = j).map (·.2) := by
  induction l with
  | nil => by_cases h : j = k <;> simp [insertEntry, h, eq_comm]
  | cons e rest ih =>
    by_cases he : e.1 = k
    · by_cases h : j = k
      · simp [insertEntry, he, h]
      · have hk : ¬ k = j := fun hkj => h hkj.symm
        simp [insertEntry, he, h, hk]
    · by_cases hej : e.1 = j
      · have h : ¬ j = k := fun hjk => he (hej.trans hjk)
        simp [insertEntry, hej, h]
      · simpa [insertEntry, he, hej] using ih

@[simp] theorem get?_insert (t : Table κ α) (k j : κ) (v : α) :
    (t.insert k v).get? j = if j = k then some v else t.get? j :=
  find?_insertEntry k j v t.entries

@[simp] theorem get?_erase (t : Table κ α) (k j : κ) :
    (t.erase k).get? j = if j = k then none else t.get? j := by
  rcases t with ⟨l⟩
  simp only [get?, erase]
  induction l with
  | nil => simp
  | cons e rest ih =>
    by_cases he : e.1 = k
    · by_cases h : j = k
      · simp_all
      · have hk : ¬ k = j := fun hkj => h hkj.symm
        simpa [he, h, hk] using ih
    · by_cases hej : e.1 = j
      · have h : ¬ j = k := fun hjk => he (hej.trans hjk)
        simp [hej, h]
      · simpa [he, hej] using ih

@[simp] theorem get?_modify (t : Table κ α) (k j : κ) (f : α → α) :
    (t.modify k f).get? j = if j = k then (t.get? k).map f else t.get? j := by
  unfold modify
  split
  · next v hv => simp [hv]
  · next hv => by_cases h : j = k <;> simp [h, hv]

end Table

end ShaderEffects
