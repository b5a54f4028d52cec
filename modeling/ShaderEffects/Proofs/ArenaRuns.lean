import Mathlib.Algebra.Ring.Nat
import ShaderEffects.Proofs.IssuedHandles

/-!
# Arenas as maps with fresh keys

Whatever is asked of an arena, its answers are those of a map from handles to items that is
kept in the order in which the items came, and that gives every new item a handle it never
gave before. The slots and the empty places among them cannot be told from outside.
-/
namespace ShaderEffects

/-- What can be asked of an arena. -/
inductive ArenaCall (α : Type) where
  | insert (item : α)
  | remove (h : Handle α)
  | get (h : Handle α)
  /-- Shows an item and lets it be changed where it is. -/
  | update (h : Handle α) (change : α → α)
  | list
  | size
  | isEmpty

/-- What an arena answers. -/
inductive ArenaAnswer (α : Type) where
  | handle (h : Handle α)
  | item (item : Option α)
  | items (items : List (Handle α × α))
  | count (n : Nat)
  | truth (b : Bool)
deriving DecidableEq

/-- Whether a call takes an item in. -/
def ArenaCall.isInsert {α : Type} : ArenaCall α → Bool
  | .insert _ => true
  | _ => false

/-- The handles that answers issue, in order. Only taking an item in is answered so. -/
def ArenaAnswer.issued {α : Type} (answers : List (ArenaAnswer α)) : List (Handle α) :=
  answers.filterMap fun
    | .handle h => some h
    | _ => none

theorem Handle.ne_of_index_lt {α : Type} {h k : Handle α} (hlt : h.index < k.index) : h ≠ k := by
  rintro rfl
  exact Nat.lt_irrefl _ hlt

namespace Arena

variable {α : Type}

/-- The answer to a call, and the arena after it. -/
def perform (a : Arena α) : ArenaCall α → ArenaAnswer α × Arena α
  | .insert item => (.handle (a.insert item).2, (a.insert item).1)
  | .remove h => (.item (a.get? h), a.erase h)
  | .get h => (.item (a.get? h), a)
  | .update h change => (.item (a.get? h), a.modify h change)
  | .list => (.items a.toList, a)
  | .size => (.count a.size, a)
  | .isEmpty => (.truth a.isEmpty, a)

/-- The answers to calls that are made one after the other, and the arena after them. -/
def run (a : Arena α) : List (ArenaCall α) → List (ArenaAnswer α) × Arena α
  | [] => ([], a)
  | call :: calls =>
    let (answer, a) := a.perform call
    let (answers, a) := a.run calls
    (answer :: answers, a)

/-! ## The list of an arena -/

/-- The entries of slots that are numbered from `k` on. -/
def entriesFrom (k : Nat) (slots : List (Option α)) : List (Handle α × α) :=
  (slots.zipIdx k).filterMap fun (slot, index) => slot.map fun item => (⟨index⟩, item)

theorem toList_eq (a : Arena α) : a.toList = entriesFrom 0 a.slots := rfl

theorem entriesFrom_cons (k : Nat) (slot : Option α) (slots : List (Option α)) :
    entriesFrom k (slot :: slots) =
      (slot.map fun item => (⟨k⟩, item)).toList ++ entriesFrom (k + 1) slots := by
  cases slot <;> simp [entriesFrom]

/-- The items stand in the order of their handles. -/
theorem sublist_entriesFrom (k : Nat) (slots : List (Option α)) :
    ((entriesFrom k slots).map (·.1)).Sublist ((List.range' k slots.length).map Handle.mk) := by
  induction slots generalizing k with
  | nil => simp [entriesFrom]
  | cons slot slots ih =>
    rw [entriesFrom_cons, List.map_append, List.length_cons, List.range'_succ, List.map_cons]
    cases slot with
    | none => exact (ih (k + 1)).cons _
    | some item => exact (ih (k + 1)).cons_cons _

theorem le_of_mem_entriesFrom {k : Nat} {slots : List (Option α)} {entry : Handle α × α}
    (h : entry ∈ entriesFrom k slots) : k ≤ entry.1.index := by
  obtain ⟨i, hi, heq⟩ :=
    List.mem_map.mp ((sublist_entriesFrom k slots).subset (List.mem_map_of_mem h))
  rw [← heq]
  exact (List.mem_range'_1.mp hi).1

theorem lookup_entriesFrom (k i : Nat) (slots : List (Option α)) :
    (entriesFrom k slots).lookup ⟨k + i⟩ = slots[i]?.join := by
  induction slots generalizing k i with
  | nil => simp [entriesFrom]
  | cons slot slots ih =>
    rw [entriesFrom_cons, List.lookup_append]
    cases i with
    | zero =>
      have hrest : (entriesFrom (k + 1) slots).lookup ⟨k⟩ = none := by
        refine List.lookup_eq_none_iff.mpr fun entry hentry => ?_
        have hne : (⟨k⟩ : Handle α) ≠ entry.1 :=
          Handle.ne_of_index_lt (le_of_mem_entriesFrom hentry)
        simpa using hne
      cases slot <;> simp [hrest]
    | succ i =>
      have hindex : k + (i + 1) = k + 1 + i := by omega
      have hne : ((⟨k + 1 + i⟩ : Handle α) == ⟨k⟩) = false :=
        beq_eq_false_iff_ne.mpr (Handle.ne_of_index_lt (show k < k + 1 + i by omega)).symm
      rw [hindex, ih]
      cases slot <;> simp [List.lookup_cons, hne]

/-- What can be looked up in the arena is what its list says. -/
theorem lookup_toList (a : Arena α) (h : Handle α) : a.toList.lookup h = a.get? h := by
  have hlookup := lookup_entriesFrom 0 h.index a.slots
  rwa [Nat.zero_add] at hlookup

/-- A change to one slot, which leaves it empty if it is, shows at its entry alone. -/
theorem entriesFrom_modify (k i : Nat) (slots : List (Option α)) (change : Option α → Option α)
    (hnone : change none = none) :
    entriesFrom k (slots.modify i change) =
      (entriesFrom k slots).filterMap fun e =>
        if e.1 = ⟨k + i⟩ then (change (some e.2)).map fun item => (e.1, item) else some e := by
  induction slots generalizing k i with
  | nil => simp [entriesFrom]
  | cons slot slots ih =>
    cases i with
    | zero =>
      have hrest : (entriesFrom (k + 1) slots).filterMap (fun e =>
          if e.1 = ⟨k⟩ then (change (some e.2)).map fun item => (e.1, item) else some e) =
          entriesFrom (k + 1) slots := by
        refine (List.filterMap_congr fun e he => ?_).trans List.filterMap_some
        have hne : (⟨k⟩ : Handle α) ≠ e.1 :=
          Handle.ne_of_index_lt (le_of_mem_entriesFrom he)
        exact if_neg hne.symm
      simp only [Nat.add_zero]
      rw [List.modify_zero_cons, entriesFrom_cons, entriesFrom_cons, List.filterMap_append, hrest]
      cases slot with
      | none => simp [hnone]
      | some item => cases hchange : change (some item) <;> simp [hchange]
    | succ i =>
      have hindex : k + (i + 1) = k + 1 + i := by omega
      have hne : (⟨k⟩ : Handle α) ≠ ⟨k + 1 + i⟩ :=
        Handle.ne_of_index_lt (show k < k + 1 + i by omega)
      rw [List.modify_succ_cons, entriesFrom_cons, entriesFrom_cons, List.filterMap_append, ih,
        hindex]
      cases slot <;> simp [hne]

theorem toList_modify (a : Arena α) (h : Handle α) (change : α → α) :
    (a.modify h change).toList =
      a.toList.map fun e => if e.1 = h then (e.1, change e.2) else e := by
  have hmodify := entriesFrom_modify 0 h.index a.slots (Option.map change) rfl
  rw [Nat.zero_add] at hmodify
  rw [toList_eq, modify, hmodify, ← List.filterMap_eq_map, ← toList_eq]
  refine List.filterMap_congr fun e _ => ?_
  by_cases heq : e.1 = h <;> simp [heq]

theorem toList_erase (a : Arena α) (h : Handle α) :
    (a.erase h).toList = a.toList.filter fun e => e.1 ≠ h := by
  have hmodify := entriesFrom_modify 0 h.index a.slots (fun _ => none) rfl
  rw [Nat.zero_add] at hmodify
  rw [toList_eq, erase, List.set_eq_modify, hmodify, ← List.filterMap_eq_filter, ← toList_eq]
  refine List.filterMap_congr fun e _ => ?_
  by_cases heq : e.1 = h <;> simp [heq, Option.guard]

theorem length_toList (a : Arena α) : a.toList.length = a.size := by
  rw [toList_eq, size]
  generalize a.slots = slots, (0 : Nat) = k
  induction slots generalizing k with
  | nil => rfl
  | cons slot slots ih =>
    rw [entriesFrom_cons, List.length_append, ih]
    cases slot <;> simp [Nat.add_comm]

theorem isEmpty_toList (a : Arena α) : a.toList.isEmpty = a.isEmpty := by
  rw [isEmpty, ← length_toList]
  cases a.toList <;> rfl

end Arena

/-! ## Maps with fresh keys -/

/-- A map from handles to items in the order in which they came, and every handle that it ever
gave. -/
structure HandleMap (α : Type) where
  entries : List (Handle α × α) := []
  issued : List (Handle α) := []

namespace HandleMap

variable {α : Type}

/-- What a call makes of the map, and the answer to it. Any handle that was not given before
may be given to a new item. -/
inductive Step (m : HandleMap α) : ArenaCall α → ArenaAnswer α → HandleMap α → Prop where
  | insert (item : α) (h : Handle α) (fresh : h ∉ m.issued) :
      Step m (.insert item) (.handle h) ⟨m.entries ++ [(h, item)], m.issued ++ [h]⟩
  | remove (h : Handle α) :
      Step m (.remove h) (.item (m.entries.lookup h))
        { m with entries := m.entries.filter fun e => e.1 ≠ h }
  | get (h : Handle α) : Step m (.get h) (.item (m.entries.lookup h)) m
  | update (h : Handle α) (change : α → α) :
      Step m (.update h change) (.item (m.entries.lookup h))
        { m with entries := m.entries.map fun e => if e.1 = h then (e.1, change e.2) else e }
  | list : Step m .list (.items m.entries) m
  | size : Step m .size (.count m.entries.length) m
  | isEmpty : Step m .isEmpty (.truth m.entries.isEmpty) m

/-- Calls one after the other with their answers. -/
inductive Run : HandleMap α → List (ArenaCall α) → List (ArenaAnswer α) → HandleMap α → Prop where
  | nil (m : HandleMap α) : Run m [] [] m
  | cons {m m' m'' : HandleMap α} {call : ArenaCall α} {answer : ArenaAnswer α}
      {calls : List (ArenaCall α)} {answers : List (ArenaAnswer α)}
      (first : m.Step call answer m') (rest : Run m' calls answers m'') :
      Run m (call :: calls) (answer :: answers) m''

variable {m m' : HandleMap α} {calls : List (ArenaCall α)} {answers : List (ArenaAnswer α)}

/-- A run gives the handles that its answers issue, one for each item that is taken in. -/
theorem Run.issued (h : m.Run calls answers m') :
    m'.issued = m.issued ++ ArenaAnswer.issued answers ∧
      (ArenaAnswer.issued answers).length = calls.countP ArenaCall.isInsert := by
  induction h with
  | nil m => simp [ArenaAnswer.issued]
  | cons first rest ih =>
    cases first <;>
      simpa [ArenaAnswer.issued, ArenaCall.isInsert, List.countP_cons] using ih

theorem Run.nodup_issued (h : m.Run calls answers m') (hnodup : m.issued.Nodup) :
    m'.issued.Nodup := by
  induction h with
  | nil m => exact hnodup
  | cons first rest ih =>
    refine ih ?_
    cases first with
    | insert item h fresh => simpa using hnodup.concat fresh
    | _ => exact hnodup

end HandleMap

namespace Arena

variable {α : Type}

/-- The map that an arena stands for. Each of its slots is for a handle that was given. -/
def toMap (a : Arena α) : HandleMap α := ⟨a.toList, (List.range a.slots.length).map Handle.mk⟩

theorem mem_issued_toMap {a : Arena α} {h : Handle α} :
    h ∈ a.toMap.issued ↔ h.index < a.slots.length := by
  rw [toMap, List.mem_map]
  exact ⟨fun ⟨i, hi, heq⟩ => heq ▸ List.mem_range.mp hi,
    fun hlt => ⟨h.index, List.mem_range.mpr hlt, rfl⟩⟩

/-- Every call does to the arena what it may do to the map. -/
theorem step_perform (a : Arena α) (call : ArenaCall α) :
    a.toMap.Step call (a.perform call).1 (a.perform call).2.toMap := by
  cases call with
  | insert item =>
    have hfresh : (a.insert item).2 ∉ a.toMap.issued := fun h =>
      Nat.lt_irrefl _ (mem_issued_toMap.mp h)
    have hmap : (a.insert item).1.toMap =
        ⟨a.toMap.entries ++ [((a.insert item).2, item)],
          a.toMap.issued ++ [(a.insert item).2]⟩ := by
      simp only [toMap, toList_insert]
      simp [insert, List.range_succ]
    rw [perform, hmap]
    exact .insert item _ hfresh
  | remove h =>
    have hmap : (a.erase h).toMap =
        { a.toMap with entries := a.toMap.entries.filter fun e => e.1 ≠ h } := by
      simp only [toMap, toList_erase]
      simp [erase]
    rw [perform, hmap, ← a.lookup_toList h]
    exact .remove h
  | get h =>
    rw [perform, ← a.lookup_toList h]
    exact .get h
  | update h change =>
    have hmap : (a.modify h change).toMap =
        { a.toMap with
          entries := a.toMap.entries.map fun e => if e.1 = h then (e.1, change e.2) else e } := by
      simp only [toMap, toList_modify]
      simp [modify]
    rw [perform, hmap, ← a.lookup_toList h]
    exact .update h change
  | list => exact .list
  | size =>
    rw [perform, ← length_toList]
    exact .size
  | isEmpty =>
    rw [perform, ← isEmpty_toList]
    exact .isEmpty

theorem run_run (a : Arena α) (calls : List (ArenaCall α)) :
    a.toMap.Run calls (a.run calls).1 (a.run calls).2.toMap := by
  induction calls generalizing a with
  | nil => exact .nil a.toMap
  | cons call calls ih => exact .cons (a.step_perform call) (ih (a.perform call).2)

/-! ## Handles that were removed -/

theorem run_append (a : Arena α) (before after : List (ArenaCall α)) :
    (a.run (before ++ after)).2 = ((a.run before).2.run after).2 := by
  induction before generalizing a with
  | nil => rfl
  | cons call before ih => exact ih (a.perform call).2

theorem ages_modify (a : Arena α) (k : Handle α) (change : α → α) :
    a.Ages (a.modify k change) where
  slots_le := by simp [modify]
  spent := fun h _ hnone => by
    rw [get?_modify]
    split_ifs with heq
    · rw [← heq, hnone, Option.map_none]
    · exact hnone

theorem perform_ages (a : Arena α) (call : ArenaCall α) : a.Ages (a.perform call).2 := by
  cases call with
  | insert item => exact a.ages_insert item
  | remove h => exact a.ages_erase h
  | update h change => exact a.ages_modify h change
  | _ => exact .refl a

theorem run_ages (a : Arena α) (calls : List (ArenaCall α)) : a.Ages (a.run calls).2 := by
  induction calls generalizing a with
  | nil => exact .refl a
  | cons call calls ih => exact (a.perform_ages call).trans (ih (a.perform call).2)

/-- The handles that were issued since the arena was empty are those of its slots. -/
theorem issued_run (calls : List (ArenaCall α)) :
    ArenaAnswer.issued ((∅ : Arena α).run calls).1 = ((∅ : Arena α).run calls).2.toMap.issued :=
  (run_run ∅ calls).issued.1.symm

/-- What is removed once it was issued stays away. -/
theorem get?_run_remove {before : List (ArenaCall α)} (after : List (ArenaCall α)) {h : Handle α}
    (hissued : h ∈ ArenaAnswer.issued ((∅ : Arena α).run before).1) :
    ((∅ : Arena α).run (before ++ .remove h :: after)).2.get? h = none := by
  rw [run_append]
  refine (run_ages (((∅ : Arena α).run before).2.erase h) after).spent h ?_ (by simp)
  rw [issued_run, mem_issued_toMap] at hissued
  simpa [erase] using hissued

/-- The answers of an arena that was empty are those of a map with fresh keys, whatever handles
it is asked for. As long as fewer than `2 ^ 32` items were taken in, every handle is a 32-bit
word. What was removed stays away, and nothing else goes with it; the list has what is there
with its own handles in the order in which they were issued, and the size is its length. -/
theorem refines_map (calls : List (ArenaCall α))
    (hcount : calls.countP ArenaCall.isInsert < 2 ^ 32) :
    let (answers, a) := (∅ : Arena α).run calls
    HandleMap.Run {} calls answers a.toMap ∧
      (ArenaAnswer.issued answers).Nodup ∧ (∀ h ∈ ArenaAnswer.issued answers, h.index < 2 ^ 32) ∧
      (∀ before h after, calls = before ++ .remove h :: after →
        h ∈ ArenaAnswer.issued ((∅ : Arena α).run before).1 →
          (a.perform (.get h)).1 = .item none) ∧
      (∀ h k, k ≠ h →
        ((a.perform (.remove h)).2.perform (.get k)).1 = (a.perform (.get k)).1) ∧
      (a.toList.map (·.1)).Sublist (ArenaAnswer.issued answers) ∧
      (∀ h item, (h, item) ∈ a.toList ↔ (a.perform (.get h)).1 = .item (some item)) ∧
      a.size = a.toList.length := by
  have hrun := run_run (∅ : Arena α) calls
  have hissued := issued_run calls
  rcases heq : (∅ : Arena α).run calls with ⟨answers, a⟩
  simp only [heq] at hrun hissued ⊢
  refine ⟨hrun, ?_, fun h hmem => ?_, ?_, fun h k hne => ?_, ?_, fun h item => ?_, ?_⟩
  · rw [hissued]
    exact hrun.nodup_issued List.nodup_nil
  · have hlength : a.slots.length = calls.countP ArenaCall.isInsert := by
      rw [← hrun.issued.2, hissued]
      simp [toMap]
    rw [hissued, mem_issued_toMap, hlength] at hmem
    exact Nat.lt_trans hmem hcount
  · rintro before h after rfl hmem
    have hnone := get?_run_remove after hmem
    rw [heq] at hnone
    simp [perform, hnone]
  · simp [perform, hne]
  · rw [hissued, toMap, List.range_eq_range']
    exact sublist_entriesFrom 0 a.slots
  · simp [perform, mem_toList_iff]
  · exact a.length_toList.symm

/-- Three items, the first of which is removed before the third comes. A handle that was never
issued is asked for, and the removed one again. -/
def thinned : List (ArenaCall String) :=
  [.insert "a", .insert "b", .get ⟨7⟩, .remove ⟨0⟩, .insert "c", .update ⟨1⟩ (· ++ "!"), .get ⟨0⟩,
    .list, .size]

theorem refines_map_thinned :
    thinned.countP ArenaCall.isInsert < 2 ^ 32 ∧
      ((∅ : Arena String).run thinned).1 =
        [.handle ⟨0⟩, .handle ⟨1⟩, .item none, .item (some "a"), .handle ⟨2⟩, .item (some "b"),
          .item none, .items [(⟨1⟩, "b!"), (⟨2⟩, "c")], .count 2] ∧
      HandleMap.Run {} thinned ((∅ : Arena String).run thinned).1
        ((∅ : Arena String).run thinned).2.toMap ∧
      (((∅ : Arena String).run thinned).2.perform (.get ⟨0⟩)).1 = .item none := by
  have hcount : thinned.countP ArenaCall.isInsert < 2 ^ 32 := by decide
  obtain ⟨hrun, -, -, hremoved, -⟩ := refines_map thinned hcount
  exact ⟨hcount, by decide +kernel, hrun,
    hremoved [.insert "a", .insert "b", .get ⟨7⟩] ⟨0⟩ _ rfl (by decide +kernel)⟩

end Arena

end ShaderEffects
