import Mathlib.Data.List.Nodup
import Mathlib.Data.List.Pairwise
import ShaderEffects.Device.Basic

/-!
# Where the numbers of a program live

The slots of a constant table stand one behind the other, so no register belongs to
two parameters, and the numbers of a parameter fill the registers of its slot in rows
of four.
-/
namespace ShaderEffects

/-- Where no two members have one name, a member is found by its name. -/
theorem find?_of_nodup_map {α : Type} {name : α → String} {xs : List α}
    (h : (xs.map name).Nodup) {x : α} (hx : x ∈ xs) :
    xs.find? (fun y => name y = name x) = some x := by
  induction xs with
  | nil => exact absurd hx List.not_mem_nil
  | cons first rest ih =>
    obtain ⟨hnew, hrest⟩ := List.nodup_cons.mp h
    rcases List.mem_cons.mp hx with rfl | hmem
    · simp
    · have hne : name first ≠ name x := by
        intro heq
        exact hnew (List.mem_map.mpr ⟨x, hmem, heq.symm⟩)
      rw [List.find?_cons_of_neg (by simpa using hne)]
      exact ih hrest hmem

/-- The register is one of the slot. -/
def ConstantSlot.Covers (slot : ConstantSlot) (n : Nat) : Prop :=
  slot.register ≤ n ∧ n < slot.register + slot.registers

namespace ConstantTable

/-- A slot that was laid out is that of a declaration, behind where it all began. -/
theorem mem_layConstants {register : Nat} {ds : List Declaration} {slot : ConstantSlot}
    (h : slot ∈ layConstants register ds) :
    register ≤ slot.register ∧ slot.registers = slot.type.registers ∧
      (⟨slot.parameter, slot.type⟩ : Declaration) ∈ ds := by
  induction ds generalizing register with
  | nil => exact absurd h List.not_mem_nil
  | cons d rest ih =>
    rcases List.mem_cons.mp h with rfl | hrest
    · exact ⟨Nat.le_refl _, rfl, List.mem_cons_self⟩
    · obtain ⟨hle, hregisters, hmem⟩ := ih hrest
      refine ⟨?_, hregisters, List.mem_cons_of_mem d hmem⟩
      omega

/-- Each slot ends before the next begins. -/
theorem pairwise_layConstants (register : Nat) (ds : List Declaration) :
    (layConstants register ds).Pairwise fun a b => a.register + a.registers ≤ b.register := by
  induction ds generalizing register with
  | nil => exact List.Pairwise.nil
  | cons d rest ih =>
    refine List.pairwise_cons.mpr ⟨fun slot hslot => ?_, ih _⟩
    exact (mem_layConstants hslot).1

/-- The last slot ends last. -/
theorem le_last_layConstants {register : Nat} {ds : List Declaration} {slot : ConstantSlot}
    (h : slot ∈ layConstants register ds) :
    ∃ last, (layConstants register ds).getLast? = some last ∧
      slot.register + slot.registers ≤ last.register + last.registers := by
  induction ds generalizing register slot with
  | nil => exact absurd h List.not_mem_nil
  | cons d rest ih =>
    have hcons : layConstants register (d :: rest) =
        ⟨d.name, d.type, register, d.type.registers⟩ ::
          layConstants (register + d.type.registers) rest := rfl
    cases hrest : layConstants (register + d.type.registers) rest with
    | nil =>
      rw [hcons, hrest] at h
      rw [hcons, hrest]
      rw [List.mem_singleton] at h
      subst h
      exact ⟨_, rfl, Nat.le_refl _⟩
    | cons next others =>
      have hnext : next ∈ layConstants (register + d.type.registers) rest := by simp [hrest]
      obtain ⟨last, hlast, hle⟩ := ih hnext
      have hstart := (mem_layConstants hnext).1
      have hlast' : (layConstants register (d :: rest)).getLast? = some last := by
        rw [hcons, hrest, List.getLast?_cons_cons, ← hrest, hlast]
      rw [hcons] at h
      rcases List.mem_cons.mp h with rfl | hmem
      · refine ⟨last, hlast', ?_⟩
        simp only
        omega
      · obtain ⟨last', hlast₂, hle'⟩ := ih hmem
        rw [hlast] at hlast₂
        cases hlast₂
        exact ⟨last, hlast', hle'⟩

theorem of_constant? {table : ConstantTable} {parameter : String} {slot : ConstantSlot}
    (h : table.constant? parameter = some slot) :
    slot ∈ table.constants ∧ slot.parameter = parameter :=
  ⟨List.mem_of_find?_eq_some h, by simpa using List.find?_some h⟩

/-- A table whose slots stand one behind the other, each with a name of its own. -/
structure Laid (table : ConstantTable) : Prop where
  apart : table.constants.Pairwise fun a b => a.register + a.registers ≤ b.register
  names : (table.constants.map (·.parameter)).Nodup
  registers_le : ∀ slot ∈ table.constants, slot.registers ≤ 4
  end_le : ∀ slot ∈ table.constants, slot.register + slot.registers ≤ table.registerCount

section build

variable {source : String} {ds : List Declaration}

/-- A slot of a program is that of a declared parameter that holds numbers. -/
theorem mem_constants_build {slot : ConstantSlot} (h : slot ∈ (build source ds).constants) :
    (⟨slot.parameter, slot.type⟩ : Declaration) ∈ ds ∧ slot.type.category = .scalar ∧
      slot.registers = slot.type.registers := by
  rw [build_eq] at h
  obtain ⟨_, hregisters, hmem⟩ := mem_layConstants h
  obtain ⟨hdeclared, hkept⟩ := List.mem_filter.mp hmem
  exact ⟨hdeclared, (of_decide_eq_true hkept).2, hregisters⟩

theorem laid_build (source : String) (hnames : (ds.map (·.name)).Nodup) :
    (build source ds).Laid where
  apart := by
    rw [build_eq]
    exact pairwise_layConstants _ _
  names := by
    rw [build_eq, layConstants_map_parameter]
    exact hnames.sublist (List.filter_sublist.map _)
  registers_le := by
    intro slot hslot
    rw [(mem_constants_build hslot).2.2]
    cases slot.type <;> decide
  end_le := by
    intro slot hslot
    rw [build_eq] at hslot ⊢
    obtain ⟨last, hlast, hle⟩ := le_last_layConstants hslot
    simpa only [registerCount, hlast] using hle

end build

namespace Laid

variable {table : ConstantTable} {a b : ConstantSlot}

/-- A slot is found by its name. -/
theorem constant? (h : table.Laid) (ha : a ∈ table.constants) :
    table.constant? a.parameter = some a := find?_of_nodup_map h.names ha

/-- Of two slots one ends before the other begins. -/
theorem before_or_after (h : table.Laid) (ha : a ∈ table.constants) (hb : b ∈ table.constants)
    (hne : a ≠ b) :
    a.register + a.registers ≤ b.register ∨ b.register + b.registers ≤ a.register := by
  have hpair := h.apart.imp (S := fun x y : ConstantSlot =>
    x.register + x.registers ≤ y.register ∨ y.register + y.registers ≤ x.register)
    (fun hle => Or.inl hle)
  have : Std.Symm fun x y : ConstantSlot =>
      x.register + x.registers ≤ y.register ∨ y.register + y.registers ≤ x.register :=
    ⟨fun _ _ => Or.symm⟩
  exact hpair.forall ha hb hne

/-- No register belongs to two slots. -/
theorem eq_of_covers (h : table.Laid) (ha : a ∈ table.constants) (hb : b ∈ table.constants)
    {n : Nat} (hna : a.Covers n) (hnb : b.Covers n) : a = b := by
  by_contra hne
  obtain ⟨ha₁, ha₂⟩ := hna
  obtain ⟨hb₁, hb₂⟩ := hnb
  rcases h.before_or_after ha hb hne with hle | hle <;> omega

end Laid

end ConstantTable

namespace Register

/-- Only the first four of a list of numbers count. -/
theorem ofList_take (values : List Float32) {count : Nat} (h : 4 ≤ count) :
    ofList (values.take count) = ofList values := by
  ext i hi
  have hlt : i < count := by omega
  simp [ofList, List.getElem?_take, hlt]

/-- Numbers are cut into rows of four, the last of which is filled up with zeros. -/
theorem getElem?_fill (values : List Float32) (k : Nat) :
    (fill values)[k]? =
      if 4 * k < values.length then some (ofList (values.drop (4 * k))) else none := by
  induction k generalizing values with
  | zero =>
    match values with
    | a :: b :: c :: d :: rest =>
      have htake := ofList_take (a :: b :: c :: d :: rest) (Nat.le_refl 4)
      simpa [fill] using htake
    | [] | [_] | [_, _] | [_, _, _] => simp [fill]
  | succ k ih =>
    have hdrop : 4 * (k + 1) = 4 * k + 4 := by omega
    match values with
    | a :: b :: c :: d :: rest =>
      simp only [fill, List.getElem?_cons_succ, ih rest, hdrop, List.drop_succ_cons,
        List.length_cons, Nat.add_lt_add_iff_right]
    | [] | [_] | [_, _] | [_, _, _] =>
      simp [fill, hdrop]

/-- The registers that numbers fill at most. -/
theorem length_fill_le {values : List Float32} {count : Nat} (h : values.length ≤ 4 * count) :
    (fill values).length ≤ count := by
  rw [← List.getElem?_eq_none_iff, getElem?_fill, if_neg (Nat.not_lt.mpr h)]

/-- Numbers that fill some registers are cut into rows of four. -/
theorem fill_spec {values : List Float32} {count : Nat} (h : values.length = 4 * count) :
    (fill values).length = count ∧
      ∀ k < count, (fill values)[k]? = some (ofList (values.drop (4 * k))) := by
  have hrows : ∀ k < count, (fill values)[k]? = some (ofList (values.drop (4 * k))) := by
    intro k hk
    rw [getElem?_fill, if_pos (by omega)]
  refine ⟨Nat.le_antisymm (length_fill_le (Nat.le_of_eq h)) ?_, hrows⟩
  by_contra hlt
  have hrow := hrows (fill values).length (Nat.lt_of_not_le hlt)
  rw [List.getElem?_eq_none (Nat.le_refl _)] at hrow
  cases hrow

end Register

end ShaderEffects
