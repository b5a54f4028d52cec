import Mathlib.Data.List.Nodup
import ShaderEffects.Table

/-!
# Tables seen through their keys

A table is determined by the order of its keys and by what looking a key up
gives, provided no key stands in it twice. Binding a key that is there already
and changing the values of a table leave the keys as they are.
-/
namespace ShaderEffects.Table

variable {κ α : Type} [DecidableEq κ]

/-- The keys in order of arrival. -/
def keys (t : Table κ α) : List κ := t.entries.map (·.1)

/-- The table with every value changed in a way that may depend on its key. -/
def mapValues (t : Table κ α) (f : κ → α → α) : Table κ α :=
  ⟨t.entries.map fun e => (e.1, f e.1 e.2)⟩

theorem contains_eq_true_iff (t : Table κ α) (k : κ) :
    t.contains k = true ↔ ∃ v, t.get? k = some v := by
  simp [contains, Option.isSome_iff_exists]

theorem mem_keys_iff (t : Table κ α) (k : κ) : k ∈ t.keys ↔ t.contains k = true := by
  rcases t with ⟨l⟩
  simp [keys, contains, get?]

omit [DecidableEq κ] in
@[simp] theorem keys_mapValues (t : Table κ α) (f : κ → α → α) : (t.mapValues f).keys = t.keys := by
  simp [keys, mapValues, Function.comp_def]

@[simp] theorem get?_mapValues (t : Table κ α) (f : κ → α → α) (k : κ) :
    (t.mapValues f).get? k = (t.get? k).map (f k) := by
  rcases t with ⟨l⟩
  simp only [get?, mapValues]
  induction l with
  | nil => rfl
  | cons e rest ih =>
    by_cases he : e.1 = k
    · simp [he]
    · simpa [he] using ih

theorem map_insertEntry (k : κ) (v : α) (l : List (κ × α)) :
    (insertEntry k v l).map (·.1) =
      if k ∈ l.map (·.1) then l.map (·.1) else l.map (·.1) ++ [k] := by
  induction l with
  | nil => simp [insertEntry]
  | cons e rest ih =>
    by_cases he : e.1 = k
    · simp [insertEntry, he]
    · have hne : ¬ k = e.1 := fun h => he h.symm
      rw [insertEntry, if_neg he, List.map_cons, ih]
      by_cases hk : k ∈ rest.map (·.1)
      · simp [hk]
      · simp [hk, hne]

/-- A key that is new is put at the end. -/
theorem entries_insert_of_new {t : Table κ α} {k : κ} (h : t.contains k = false) (v : α) :
    (t.insert k v).entries = t.entries ++ [(k, v)] := by
  have hkeys : k ∉ t.keys := by rw [mem_keys_iff, h]; exact Bool.false_ne_true
  obtain ⟨l⟩ := t
  simp only [insert]
  induction l with
  | nil => rfl
  | cons e rest ih =>
    obtain ⟨hfirst, hrest⟩ := not_or.mp (List.mem_cons.not.mp hkeys)
    rw [insertEntry, if_neg (Ne.symm hfirst), List.cons_append]
    exact congrArg (e :: ·) (ih (by simpa using (mem_keys_iff ⟨rest⟩ k).not.mp hrest) hrest)

theorem keys_insert (t : Table κ α) (k : κ) (v : α) :
    (t.insert k v).keys = if k ∈ t.keys then t.keys else t.keys ++ [k] :=
  map_insertEntry k v t.entries

theorem keys_insert_of_contains {t : Table κ α} {k : κ} (h : t.contains k = true) (v : α) :
    (t.insert k v).keys = t.keys := by
  rw [keys_insert, if_pos ((t.mem_keys_iff k).mpr h)]

theorem nodup_keys_insert {t : Table κ α} (h : t.keys.Nodup) (k : κ) (v : α) :
    (t.insert k v).keys.Nodup := by
  rw [keys_insert]
  split_ifs with hk
  · exact h
  · exact List.Nodup.append h (List.nodup_singleton k) (by simpa using hk)

theorem nodup_keys_erase {t : Table κ α} (h : t.keys.Nodup) (k : κ) : (t.erase k).keys.Nodup :=
  h.sublist (List.Sublist.map _ List.filter_sublist)

theorem entries_eq_of_get?_eq {l m : List (κ × α)} (hk : l.map (·.1) = m.map (·.1))
    (hn : (l.map (·.1)).Nodup) (hg : ∀ k, (Table.mk l).get? k = (Table.mk m).get? k) : l = m := by
  induction l generalizing m with
  | nil =>
    cases m with
    | nil => rfl
    | cons e rest => simp at hk
  | cons e rest ih =>
    cases m with
    | nil => simp at hk
    | cons e' rest' =>
      obtain ⟨k, v⟩ := e
      obtain ⟨k', v'⟩ := e'
      simp only [List.map_cons, List.cons.injEq] at hk
      obtain ⟨rfl, hrest⟩ := hk
      have hv : v = v' := by simpa [get?] using hg k
      subst hv
      have hnk := List.nodup_cons.mp hn
      have htail : rest = rest' := by
        refine ih hrest hnk.2 fun j => ?_
        by_cases hj : k = j
        · subst hj
          have hnone : ∀ l' : List (κ × α), k ∉ l'.map (·.1) → (Table.mk l').get? k = none := by
            intro l' hl'
            have hc := ((Table.mk l').mem_keys_iff k).not.mp hl'
            simpa [contains] using hc
          rw [hnone rest hnk.1, hnone rest' (hrest ▸ hnk.1)]
        · simpa [get?, hj] using hg j
      rw [htail]

/-- Two tables with the same keys in the same order and the same values are equal. -/
theorem eq_of_get?_eq {t u : Table κ α} (hk : t.keys = u.keys) (hn : t.keys.Nodup)
    (hg : ∀ k, t.get? k = u.get? k) : t = u := by
  rcases t with ⟨l⟩
  rcases u with ⟨m⟩
  exact congrArg Table.mk (entries_eq_of_get?_eq hk hn hg)

end ShaderEffects.Table
