import ShaderEffects.Proofs.Tables
import ShaderEffects.Texture.Registry

/-!
# Arenas and registries seen through their lists

The list of an arena has exactly what can be looked up in it. A registry of textures
only grows: a name keeps its handle, and a handle its texture.
-/
namespace ShaderEffects

namespace Arena

variable {α : Type}

theorem mem_toList_iff (a : Arena α) (h : Handle α) (item : α) :
    (h, item) ∈ a.toList ↔ a.get? h = some item := by
  rcases h with ⟨i⟩
  simp only [toList, get?, List.mem_filterMap, Prod.exists, Option.map_eq_some_iff, Prod.mk.injEq,
    Handle.mk.injEq]
  constructor
  · rintro ⟨slot, index, hmem, item', rfl, rfl, rfl⟩
    rw [List.mem_zipIdx_iff_getElem?] at hmem
    simp only at hmem
    simp [hmem]
  · intro hget
    have hslot : a.slots[i]? = some (some item) := Option.join_eq_some_iff.mp hget
    refine ⟨some item, i, ?_, item, rfl, rfl, rfl⟩
    rw [List.mem_zipIdx_iff_getElem?]
    exact hslot

theorem mem_items_iff (a : Arena α) (item : α) :
    item ∈ a.toList.map (·.2) ↔ ∃ h, a.get? h = some item := by
  simp only [List.mem_map, Prod.exists, exists_eq_right, mem_toList_iff]

theorem toList_insert (a : Arena α) (item : α) :
    (a.insert item).1.toList = a.toList ++ [((a.insert item).2, item)] := by
  simp [toList, insert, List.zipIdx_append]

end Arena

namespace TextureRegistry

/-- Registering puts a texture behind those that are registered, under its name. -/
theorem register_eq_ok_iff (registry registry' : TextureRegistry) (name : String)
    (backing : TextureId) (desc : TextureDesc) (handle : Handle Texture) :
    registry.register name backing desc = .ok (handle, registry') ↔
      registry.contains name = false ∧
        handle = (registry.textures.insert ⟨name, backing, desc⟩).2 ∧
        registry' = ⟨(registry.textures.insert ⟨name, backing, desc⟩).1,
          registry.names.insert name (registry.textures.insert ⟨name, backing, desc⟩).2⟩ := by
  unfold register
  cases registry.contains name with
  | true => simp
  | false =>
    simp only [Bool.false_eq_true, if_false, Except.ok.injEq, Prod.mk.injEq, true_and]
    exact ⟨fun h => ⟨h.1.symm, h.2.symm⟩, fun h => ⟨h.1.symm, h.2.symm⟩⟩

/-- A name that is free can be registered. -/
theorem exists_register {registry : TextureRegistry} {name : String}
    (h : registry.contains name = false) (backing : TextureId) (desc : TextureDesc) :
    ∃ handle registry', registry.register name backing desc = .ok (handle, registry') :=
  ⟨_, _, (register_eq_ok_iff _ _ _ _ _ _).mpr ⟨h, rfl, rfl⟩⟩

theorem contains_eq_false_iff (registry : TextureRegistry) (name : String) :
    registry.contains name = false ↔ registry.find? name = none := by
  simp [contains, Table.contains, find?]

/-- The names of a registry and its textures are those of each other. -/
structure Coherent (registry : TextureRegistry) : Prop where
  find?_eq_some_iff : ∀ name handle, registry.find? name = some handle ↔
    ∃ texture, registry.get? handle = some texture ∧ texture.name = name
  size_eq : registry.size = registry.toList.length

theorem coherent_empty : ({} : TextureRegistry).Coherent where
  find?_eq_some_iff := fun _ _ => by simp [find?, get?]
  size_eq := rfl

section register

variable {registry registry' : TextureRegistry} {name : String} {backing : TextureId}
  {desc : TextureDesc} {handle : Handle Texture}

theorem get?_register (h : registry.register name backing desc = .ok (handle, registry'))
    (k : Handle Texture) :
    registry'.get? k = if k = handle then some ⟨name, backing, desc⟩ else registry.get? k := by
  obtain ⟨_, rfl, rfl⟩ := (register_eq_ok_iff _ _ _ _ _ _).mp h
  exact Arena.get?_insert registry.textures _ k

theorem find?_register_iff (h : registry.register name backing desc = .ok (handle, registry'))
    (other : String) :
    registry'.find? other = if other = name then some handle else registry.find? other := by
  obtain ⟨_, rfl, rfl⟩ := (register_eq_ok_iff _ _ _ _ _ _).mp h
  exact Table.get?_insert registry.names _ other _

/-- The handle of a new texture stood for none before. -/
theorem get?_fresh (h : registry.register name backing desc = .ok (handle, registry')) :
    registry.get? handle = none := by
  obtain ⟨_, rfl, _⟩ := (register_eq_ok_iff _ _ _ _ _ _).mp h
  simp [get?, Arena.get?, Arena.insert]

/-- A handle that stands for a texture keeps standing for it. -/
theorem get?_register_of_some (h : registry.register name backing desc = .ok (handle, registry'))
    {k : Handle Texture} {texture : Texture} (hk : registry.get? k = some texture) :
    registry'.get? k = some texture := by
  rw [get?_register h, if_neg]
  · exact hk
  · rintro rfl
    rw [get?_fresh h] at hk
    cases hk

/-- A name that stands for a texture keeps standing for it. -/
theorem find?_register (h : registry.register name backing desc = .ok (handle, registry'))
    {other : String} {k : Handle Texture} (hk : registry.find? other = some k) :
    registry'.find? other = some k := by
  rw [find?_register_iff h, if_neg]
  · exact hk
  · rintro rfl
    have hfree := ((register_eq_ok_iff _ _ _ _ _ _).mp h).1
    rw [contains_eq_false_iff, hk] at hfree
    cases hfree

/-- Every name keeps its handle, and every handle its texture. -/
structure Grows (before after : TextureRegistry) : Prop where
  find? : ∀ {name : String} {handle : Handle Texture},
    before.find? name = some handle → after.find? name = some handle
  get? : ∀ {handle : Handle Texture} {texture : Texture},
    before.get? handle = some texture → after.get? handle = some texture

theorem Grows.refl (registry : TextureRegistry) : registry.Grows registry := ⟨id, id⟩

theorem Grows.trans {r₁ r₂ r₃ : TextureRegistry} (h₁ : r₁.Grows r₂) (h₂ : r₂.Grows r₃) :
    r₁.Grows r₃ := ⟨fun h => h₂.find? (h₁.find? h), fun h => h₂.get? (h₁.get? h)⟩

theorem grows_register (h : registry.register name backing desc = .ok (handle, registry')) :
    registry.Grows registry' := ⟨find?_register h, get?_register_of_some h⟩

theorem find?_register_self (h : registry.register name backing desc = .ok (handle, registry')) :
    registry'.find? name = some handle := by
  rw [find?_register_iff h, if_pos rfl]

/-- A name that is free stays free unless it is registered itself. -/
theorem contains_register (h : registry.register name backing desc = .ok (handle, registry'))
    {other : String} (hne : other ≠ name) (hfree : registry.contains other = false) :
    registry'.contains other = false := by
  rw [contains_eq_false_iff] at hfree ⊢
  rw [find?_register_iff h, if_neg hne, hfree]

theorem Coherent.register (hc : registry.Coherent)
    (h : registry.register name backing desc = .ok (handle, registry')) : registry'.Coherent := by
  refine ⟨fun other k => ?_, ?_⟩
  · have hfresh := get?_fresh h
    have hfree := ((register_eq_ok_iff _ _ _ _ _ _).mp h).1
    rw [contains_eq_false_iff] at hfree
    rw [find?_register_iff h, get?_register h]
    by_cases hk : k = handle
    · subst hk
      have hother : registry.find? other ≠ some k := by
        intro hfind
        obtain ⟨texture, hget, _⟩ := (hc.find?_eq_some_iff other k).mp hfind
        rw [hfresh] at hget
        cases hget
      by_cases hname : other = name
      · simp [hname]
      · simp [hname, hother, Ne.symm hname]
    · rw [if_neg hk]
      by_cases hname : other = name
      · subst hname
        have hnone := hc.find?_eq_some_iff other k
        rw [hfree] at hnone
        rw [if_pos rfl, ← hnone]
        simp [Ne.symm hk]
      · rw [if_neg hname]
        exact hc.find?_eq_some_iff other k
  · obtain ⟨hfree, _, rfl⟩ := (register_eq_ok_iff _ _ _ _ _ _).mp h
    have hkeys : name ∉ registry.names.keys := by
      rw [Table.mem_keys_iff]
      exact Bool.eq_false_iff.mp hfree
    have hsize := hc.size_eq
    simp only [size, Table.size, toList, Arena.toList_insert, List.length_append,
      List.length_singleton] at hsize ⊢
    have hinsert := congrArg List.length
      (registry.names.keys_insert name (registry.textures.insert ⟨name, backing, desc⟩).2)
    rw [if_neg hkeys] at hinsert
    simp only [Table.keys, List.length_map, List.length_append, List.length_singleton] at hinsert
    rw [hinsert, hsize]

end register

end TextureRegistry

end ShaderEffects
