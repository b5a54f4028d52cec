import ShaderEffects.Proofs.CompiledEffects
import ShaderEffects.Proofs.GpuRegisters

/-!
# Devices whose programs sample textures

The samplers of a program have slots of their own, one for each name. A device keeps a
texture for each slot: it is empty in a program that was just loaded, and stays as it is
until a texture is put there. Nothing empties a slot again.
-/
namespace ShaderEffects

/-! ## Slots -/

namespace ConstantTable

theorem laySamplers_map_slot (slot : Nat) (ds : List Declaration) :
    (laySamplers slot ds).map (·.slot) = List.range' slot ds.length := by
  induction ds generalizing slot with
  | nil => rfl
  | cons d rest ih => rw [laySamplers, List.map_cons, ih, List.length_cons, List.range'_succ]

/-- A slot that was laid out is that of a declaration. -/
theorem mem_laySamplers {slot : Nat} {ds : List Declaration} {s : SamplerSlot}
    (h : s ∈ laySamplers slot ds) : (⟨s.parameter, s.type⟩ : Declaration) ∈ ds := by
  induction ds generalizing slot with
  | nil => exact absurd h List.not_mem_nil
  | cons d rest ih =>
    rcases List.mem_cons.mp h with rfl | hrest
    · exact List.mem_cons_self
    · exact List.mem_cons_of_mem d (ih hrest)

/-- A table whose samplers have slots and names of their own. -/
structure Sampled (table : ConstantTable) : Prop where
  slots : table.samplers.map (·.slot) = List.range table.samplers.length
  names : (table.samplers.map (·.parameter)).Nodup

section sampled

variable {table : ConstantTable} (h : table.Sampled) {slot : SamplerSlot}
  (hslot : slot ∈ table.samplers)

include h hslot

theorem Sampled.slot_lt : slot.slot < table.samplers.length := by
  have hmem := List.mem_map_of_mem (f := fun s : SamplerSlot => s.slot) hslot
  rw [h.slots] at hmem
  exact List.mem_range.mp hmem

theorem Sampled.eq_of_slot {other : SamplerSlot} (hother : other ∈ table.samplers)
    (hsame : other.slot = slot.slot) : other = slot := by
  have hnodup : (table.samplers.map (·.slot)).Nodup := h.slots ▸ List.nodup_range
  exact List.inj_on_of_nodup_map hnodup hother hslot hsame

theorem Sampled.sampler? : table.sampler? slot.parameter = some slot :=
  find?_of_nodup_map h.names hslot

end sampled

theorem of_sampler? {table : ConstantTable} {parameter : String} {slot : SamplerSlot}
    (h : table.sampler? parameter = some slot) :
    slot ∈ table.samplers ∧ slot.parameter = parameter :=
  ⟨List.mem_of_find?_eq_some h, by simpa using List.find?_some h⟩

section build

variable {source : String} {ds : List Declaration}

/-- A slot of a program is that of a declared sampler. -/
theorem mem_samplers_build {slot : SamplerSlot} (h : slot ∈ (build source ds).samplers) :
    (⟨slot.parameter, slot.type⟩ : Declaration) ∈ ds ∧ slot.type.category = .sampler := by
  rw [build_eq] at h
  obtain ⟨hdeclared, hkept⟩ := List.mem_filter.mp (mem_laySamplers h)
  exact ⟨hdeclared, (of_decide_eq_true hkept).2⟩

theorem sampled_build (source : String) (hnames : (ds.map (·.name)).Nodup) :
    (build source ds).Sampled where
  slots := by
    rw [build_eq, laySamplers_map_slot, length_laySamplers, List.range_eq_range']
  names := by
    rw [build_eq, laySamplers_map_parameter]
    exact hnames.sublist (List.filter_sublist.map _)

end build

end ConstantTable

namespace WellCompiled

variable {D : Type} [Device D] {effect : Effect} {t : Technique} {pass : Pass}
  {program : Program} (h : WellCompiled D effect) (ht : t ∈ effect.techniques)
  (hpass : pass ∈ t.passes) (hprogram : program ∈ pass.programs)

include h ht hpass hprogram

/-- The samplers of a program have slots of their own. -/
theorem sampled_constants : program.constants.Sampled := by
  rw [h.laid t ht pass hpass program hprogram]
  refine ConstantTable.sampled_build _ ?_
  simpa [Function.comp_def] using h.names

/-- A slot of a program stands for the parameter of its name, which is a sampler. -/
theorem parameter?_samplerSlot {slot : SamplerSlot} (hslot : slot ∈ program.constants.samplers) :
    ∃ ep ∈ effect.parameters, effect.parameter? slot.parameter = some ep ∧
      ep.name = slot.parameter ∧ ep.type.category = .sampler := by
  rw [h.laid t ht pass hpass program hprogram] at hslot
  obtain ⟨hmem, hsampler⟩ := ConstantTable.mem_samplers_build hslot
  obtain ⟨ep, hep, heq⟩ := List.mem_map.mp hmem
  obtain ⟨hname, htype⟩ := Declaration.mk.inj heq
  refine ⟨ep, hep, ?_, hname, htype ▸ hsampler⟩
  rw [← hname]
  exact h.parameter? hep

end WellCompiled

/-! ## What a device keeps -/

/-- A device that keeps a texture for each slot of a program. -/
class SamplerFile (D : Type) [Device D] [RegisterFile D] where
  /-- The texture in a slot of a program. -/
  sampler? : D → ProgramId → Nat → Option TextureId
  /-- Whether a program has a slot of this number. -/
  HasSlot : D → ProgramId → Nat → Prop
  HasTexture : D → TextureId → Prop
  load : ∀ {d d' : D} {p : Program} {id : ProgramId}, Device.loadProgram d p = (.ok id, d') →
    (∀ slot < p.constants.samplers.length, HasSlot d' id slot) ∧
      ∀ slot, sampler? d' id slot = none
  keep : ∀ (d : D) {c : DeviceCall D}, c.leavesSamplers = true → ∀ q, RegisterFile.Has d q →
    ∀ slot, (HasSlot d q slot → HasSlot (c.perform d) q slot) ∧
      sampler? (c.perform d) q slot = sampler? d q slot
  hasSlot_set : ∀ (d : D) (id : ProgramId) (slot : Nat) (texture : TextureId) {q : ProgramId}
    {other : Nat}, HasSlot d q other → HasSlot (Device.setSampler d id slot texture) q other
  set : ∀ (d : D) {id : ProgramId} {slot : Nat} (texture : TextureId), HasSlot d id slot →
    sampler? (Device.setSampler d id slot texture) id slot = some texture
  set_other : ∀ (d : D) {id q : ProgramId} {slot other : Nat} (texture : TextureId),
    (q = id → other ≠ slot) →
      sampler? (Device.setSampler d id slot texture) q other = sampler? d q other
  hasTexture : ∀ (d : D) (c : DeviceCall D) {id : TextureId},
    HasTexture d id → HasTexture (c.perform d) id
  createTexture : ∀ {d d' : D} {name : String} {desc : TextureDesc} {id : TextureId},
    Device.createTexture d name desc = (.ok id, d') → HasTexture d' id
  loadTexture : ∀ {d d' : D} {files : FileTree} {name path : String} {id : TextureId}
    {desc : TextureDesc} {notices : List Notice},
    Device.loadTexture d files name path = (.ok (id, desc), d', notices) → HasTexture d' id

namespace HeadlessDevice

/-- The texture in a slot of a program. -/
def slotTexture? (d : HeadlessDevice) (id : ProgramId) (slot : Nat) : Option TextureId :=
  ((d.programs.get? id).map (·.samplers)).bind fun samplers => samplers.get? slot

/-- A call that puts no texture into a slot leaves those of the loaded programs. -/
theorem samplers_perform (d : HeadlessDevice) {c : DeviceCall HeadlessDevice}
    (hc : c.leavesSamplers = true) {q : ProgramId} (hq : d.Loaded q) :
    ((c.perform d).programs.get? q).map (·.samplers) = (d.programs.get? q).map (·.samplers) := by
  cases hspares : c.sparesPrograms with
  | true => rw [(spares_perform d hspares).programs]
  | false =>
    cases c with
    | setSampler => cases hc
    | validate | createTexture | loadTexture | setTarget | restore | enterEffectState | draw
    | copy => cases hspares
    | unbind stage => rfl
    | bind stage id =>
      rcases bind_cases d stage id with ⟨e, heq⟩ | ⟨label, heq⟩ <;>
        simp only [DeviceCall.perform, device_bind, heq]
    | loadProgram p =>
      have hne : q ≠ ⟨d.nextId⟩ := by
        rintro rfl
        exact Nat.lt_irrefl _ hq.1
      rcases loadProgram_cases d p with ⟨e, heq⟩ | heq <;>
        simp only [DeviceCall.perform, device_loadProgram, heq, Table.get?_insert, if_neg hne]
    | setConstants id register values =>
      simp only [DeviceCall.perform, device_setConstants, setConstants, Table.get?_modify]
      split_ifs with hid
      · rw [Option.map_map, hid]
        rfl
      · rfl

theorem slotTexture?_loadProgram {d d' : HeadlessDevice} {p : Program} {id : ProgramId}
    (h : d.loadProgram p = (.ok id, d')) :
    (d'.programs.get? id).isSome = true ∧ ∀ slot, d'.slotTexture? id slot = none := by
  rcases loadProgram_cases d p with ⟨e, heq⟩ | heq <;> rw [heq] at h
  · cases (Prod.mk.inj h).1
  · obtain ⟨hid, rfl⟩ := Prod.mk.inj h
    cases hid
    exact ⟨by simp, fun slot => by simp [slotTexture?]⟩

theorem isSome_setSampler (d : HeadlessDevice) (id : ProgramId) (slot : Nat)
    (texture : TextureId) {q : ProgramId} (hq : (d.programs.get? q).isSome = true) :
    ((d.setSampler id slot texture).programs.get? q).isSome = true := by
  simp only [setSampler, Table.get?_modify]
  split_ifs with hid
  · rw [Option.isSome_map, ← hid]
    exact hq
  · exact hq

theorem slotTexture?_setSampler (d : HeadlessDevice) {id : ProgramId} {slot : Nat}
    (texture : TextureId) (hid : (d.programs.get? id).isSome = true) :
    (d.setSampler id slot texture).slotTexture? id slot = some texture := by
  obtain ⟨p, hp⟩ := Option.isSome_iff_exists.mp hid
  simp [slotTexture?, setSampler, hp]

theorem slotTexture?_setSampler_other (d : HeadlessDevice) {id q : ProgramId} {slot other : Nat}
    (texture : TextureId) (h : q = id → other ≠ slot) :
    (d.setSampler id slot texture).slotTexture? q other = d.slotTexture? q other := by
  simp only [slotTexture?, setSampler, Table.get?_modify]
  split_ifs with hid
  · subst hid
    cases d.programs.get? q with
    | none => rfl
    | some p => simp [h rfl]
  · rfl

instance : SamplerFile HeadlessDevice where
  sampler? := slotTexture?
  HasSlot d id _ := (d.programs.get? id).isSome = true
  HasTexture d id := d.textures.contains id = true
  load := fun h => ⟨fun _ _ => (slotTexture?_loadProgram h).1, (slotTexture?_loadProgram h).2⟩
  keep := fun d c hc q hq slot => by
    refine ⟨fun _ => ?_, ?_⟩
    · rw [← Option.isSome_map (f := (·.samplers)), samplers_perform d hc hq, Option.isSome_map]
      exact hq.2
    · rw [slotTexture?, samplers_perform d hc hq, slotTexture?]
  hasSlot_set := fun d id slot texture _ _ hq => isSome_setSampler d id slot texture hq
  set := fun d _ _ texture hid => slotTexture?_setSampler d texture hid
  set_other := fun d _ _ _ _ texture h => slotTexture?_setSampler_other d texture h
  hasTexture := fun d c id hid => (outlives_perform d c).textures id hid
  createTexture := contains_createTexture
  loadTexture := fun {d d' files name path id desc notices} h => by
    have hload : d.loadTexture files name path = (.ok (id, desc), d') := by
      simp only [device_loadTexture, Prod.mk.injEq] at h
      exact Prod.ext h.1 h.2.1
    exact contains_loadTexture hload

end HeadlessDevice

namespace GpuDevice

open Gpu

/-- The texture in a slot of a program. -/
def slotTexture? (d : GpuDevice) (id : ProgramId) (slot : Nat) : Option TextureId :=
  ((d.programs.get? id).map (·.samplers)).bind fun samplers => (samplers[slot]?).join

/-- A program has a slot of this number. -/
def HasSlot (d : GpuDevice) (id : ProgramId) (slot : Nat) : Prop :=
  ∃ samplers, (d.programs.get? id).map (·.samplers) = some samplers ∧ slot < samplers.length

theorem samplers_writeRegisters (rs : List Register) (p : LoadedProgram) (register : Nat) :
    (writeRegisters p register rs).samplers = p.samplers := by
  induction rs generalizing p register with
  | nil => rfl
  | cons r rest ih =>
    rw [writeRegisters, ih]
    split_ifs <;> rfl

/-- A move that puts no texture into a slot leaves those of the loaded programs. -/
theorem Move.samplers {d d' : GpuDevice} {kind : MoveKind} (h : d.Move kind d')
    (hkind : kind ≠ .sample) {q : ProgramId} (hq : d.Loaded q) :
    (d'.programs.get? q).map (·.samplers) = (d.programs.get? q).map (·.samplers) := by
  cases hspares : kind.sparesPrograms with
  | true => exact (h.retains hspares).samplers q
  | false =>
    cases h with
    | makeModule | makeLayout | makePipeline | makeBlit | upload | keep | aim | draw | copy
    | resize | configure | present | lose => cases hspares
    | sample => exact absurd rfl hkind
    | ask | bind | unbind => rfl
    | load p hmodule =>
      have hne : q ≠ ⟨d.nextId⟩ := by
        rintro rfl
        exact Nat.lt_irrefl _ hq.1
      simp only [Table.get?_insert, if_neg hne]
    | write id register values =>
      simp only [setConstants, Table.get?_modify]
      split_ifs with hid
      · subst hid
        cases d.programs.get? q with
        | none => rfl
        | some p => exact congrArg some (samplers_writeRegisters (Register.fill values) p register)
      · rfl

/-- Nothing takes a texture away. -/
theorem Move.textures {d d' : GpuDevice} {kind : MoveKind} (h : d.Move kind d') {id : TextureId}
    (hid : d.textures.contains id = true) : d'.textures.contains id = true := by
  cases hspares : kind.sparesPrograms with
  | true => exact (h.retains hspares).textures id hid
  | false =>
    cases h with
    | makeModule | makeLayout | makePipeline | makeBlit | upload | keep | aim | draw | copy
    | resize | configure | present | lose => cases hspares
    | ask | load | bind | unbind | write | sample => exact hid

theorem MovesBy.samplers {d d' : GpuDevice} {kinds : MoveKind → Prop} (h : d.MovesBy kinds d')
    (hkinds : ¬ kinds .sample) {q : ProgramId} (hq : d.Loaded q) :
    (d'.programs.get? q).map (·.samplers) = (d.programs.get? q).map (·.samplers) := by
  have hkept : d'.Loaded q ∧
      (d'.programs.get? q).map (·.samplers) = (d.programs.get? q).map (·.samplers) :=
    h.preserve (P := fun d' => d'.Loaded q ∧
        (d'.programs.get? q).map (·.samplers) = (d.programs.get? q).map (·.samplers))
      (fun k _ _ hk hmove ⟨hloaded, hsame⟩ => ⟨hmove.loaded hloaded,
        (hmove.samplers (fun hsample => hkinds (hsample ▸ hk)) hloaded).trans hsame⟩) ⟨hq, rfl⟩
  exact hkept.2

theorem MovesBy.textures {d d' : GpuDevice} {kinds : MoveKind → Prop} (h : d.MovesBy kinds d')
    {id : TextureId} (hid : d.textures.contains id = true) : d'.textures.contains id = true :=
  h.preserve (P := fun d => d.textures.contains id = true)
    (fun _ _ _ _ hmove => hmove.textures) hid

/-- Only the slot that a texture is put into changes. -/
theorem samplers_setSampler (d : GpuDevice) (id : ProgramId) (slot : Nat) (texture : TextureId)
    (q : ProgramId) :
    ((d.setSampler id slot texture).programs.get? q).map (·.samplers) =
      if q = id then
        ((d.programs.get? q).map (·.samplers)).map fun samplers => samplers.set slot (some texture)
      else (d.programs.get? q).map (·.samplers) := by
  simp only [setSampler, Table.get?_modify]
  split_ifs with hid
  · rw [hid, Option.map_map, Option.map_map]
    rfl
  · rfl

theorem hasSlot_setSampler (d : GpuDevice) (id : ProgramId) (slot : Nat) (texture : TextureId)
    {q : ProgramId} {other : Nat} (h : d.HasSlot q other) :
    (d.setSampler id slot texture).HasSlot q other := by
  obtain ⟨samplers, hq, hlt⟩ := h
  rw [HasSlot, samplers_setSampler, hq]
  split_ifs
  · exact ⟨_, rfl, by simpa using hlt⟩
  · exact ⟨samplers, rfl, hlt⟩

theorem slotTexture?_setSampler (d : GpuDevice) {id : ProgramId} {slot : Nat}
    (texture : TextureId) (h : d.HasSlot id slot) :
    (d.setSampler id slot texture).slotTexture? id slot = some texture := by
  obtain ⟨samplers, hid, hlt⟩ := h
  simp [slotTexture?, samplers_setSampler, hid, hlt]

theorem slotTexture?_setSampler_other (d : GpuDevice) {id q : ProgramId} {slot other : Nat}
    (texture : TextureId) (h : q = id → other ≠ slot) :
    (d.setSampler id slot texture).slotTexture? q other = d.slotTexture? q other := by
  rw [slotTexture?, samplers_setSampler, slotTexture?]
  split_ifs with hid
  · cases (d.programs.get? q).map (·.samplers) with
    | none => rfl
    | some samplers => simp [List.getElem?_set_ne (Ne.symm (h hid))]
  · rfl

/-- What a slot of a loaded program samples: the texture in it, if the device has that
texture. -/
theorem sampledBy_slot {d : GpuDevice} {id : ProgramId} {slot : Nat} (h : d.HasSlot id slot) :
    ((d.programs.get? id).map d.sampledBy).bind (·[slot]?) =
      some (d.sampled (d.slotTexture? id slot)) := by
  obtain ⟨samplers, hget, hlt⟩ := h
  obtain ⟨p, hp, rfl⟩ := Option.map_eq_some_iff.mp hget
  simp [hp, sampledBy, slotTexture?, hlt]

end GpuDevice

/-- A call that puts no texture into a slot takes no move that does. -/
theorem DeviceCall.not_takes_sample {D : Type} [Device D] {c : DeviceCall D}
    (h : c.leavesSamplers = true) : ¬ c.Takes .sample := by
  rintro (hkind | hkind)
  · cases hkind
  · cases c with
    | setSampler => cases h
    | validate | createTexture | loadTexture | loadProgram | bind | unbind | setConstants
    | setTarget | restore | enterEffectState | draw | copy => cases hkind

namespace Graphics

open Gpu

variable {D : Type} [Device D] [Graphics D] {d d' : D}

/-- The slots of a program that was just loaded are empty. -/
theorem slotTexture?_loadProgram {p : Program} {id : ProgramId}
    (h : Device.loadProgram d p = (.ok id, d')) :
    (∀ slot < p.constants.samplers.length, (gpu d').HasSlot id slot) ∧
      ∀ slot, (gpu d').slotTexture? id slot = none := by
  obtain ⟨g, module, -, -, rfl, heq⟩ := loads h
  have hget : ((gpu d').programs.get? ⟨g.nextId⟩).map (·.samplers) =
      some (.replicate p.constants.samplers.length none) := by simp [heq, LoadedProgram.fresh]
  refine ⟨fun slot hslot => ⟨_, hget, by simpa using hslot⟩, fun slot => ?_⟩
  simp only [GpuDevice.slotTexture?, hget, Option.bind_some, List.getElem?_replicate]
  split_ifs <;> rfl

instance : SamplerFile D where
  sampler? d := (gpu d).slotTexture?
  HasSlot d := (gpu d).HasSlot
  HasTexture d id := (gpu d).textures.contains id = true
  load := slotTexture?_loadProgram
  keep := fun d c hc q hq slot => by
    have hsame := (moves d c).samplers (DeviceCall.not_takes_sample hc) hq
    refine ⟨fun hslot => ?_, ?_⟩
    · rw [GpuDevice.HasSlot, hsame]
      exact hslot
    · rw [GpuDevice.slotTexture?, hsame, GpuDevice.slotTexture?]
  hasSlot_set := fun d id slot texture _ _ h => by
    rw [samples]
    exact (gpu d).hasSlot_setSampler id slot texture h
  set := fun d _ _ texture h => by
    rw [samples]
    exact (gpu d).slotTexture?_setSampler texture h
  set_other := fun d _ _ _ _ texture h => by
    rw [samples]
    exact (gpu d).slotTexture?_setSampler_other texture h
  hasTexture := fun d c _ hid => (moves d c).textures hid
  createTexture := creates
  loadTexture := loadsTexture

end Graphics

end ShaderEffects
