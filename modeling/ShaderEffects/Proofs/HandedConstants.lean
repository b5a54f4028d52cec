import ShaderEffects.Proofs.CompiledEffects
import ShaderEffects.Proofs.RegisterFiles

/-!
# The numbers that are handed to the programs of a pass

A renderer writes to no register but those of the slots of the program it writes to,
also when a program is shared by effects. Binding a pass hands every parameter of the
effect to the programs of the pass, so afterwards each slot holds the numbers of its
parameter.
-/
namespace ShaderEffects

namespace ConstantTable

/-- The numbers of the table are written to registers that the device has. -/
def Fits (table : ConstantTable) (capacity : Nat) : Prop :=
  ∀ slot ∈ table.constants, slot.register + slot.registers ≤ capacity

theorem Laid.fits {table : ConstantTable} (h : table.Laid) {capacity : Nat}
    (hcount : table.registerCount ≤ capacity) : table.Fits capacity :=
  fun slot hslot => Nat.le_trans (h.end_le slot hslot) hcount

end ConstantTable

/-- A value is the numbers of a parameter for a slot of the program, or its texture. -/
theorem Upload.of?_eq_some_iff {scene : Scene} {p : Parameter} {b : BoundProgram} {u : Upload} :
    Upload.of? scene p b = some u ↔
      (p.category = .scalar ∧ ∃ slot, b.constants.constant? p.name = some slot ∧
        u = .constants b.id slot.register (p.scalars.toList.take (slot.registers * 4))) ∨
      (p.category = .sampler ∧ ∃ slot texture, b.constants.sampler? p.name = some slot ∧
        p.texture.bind scene.textures.get? = some texture ∧
        u = .sampler b.id slot.slot texture.backing) := by
  unfold Upload.of?
  cases p.category with
  | scalar => simp [eq_comm]
  | sampler =>
    cases b.constants.sampler? p.name <;> cases p.texture.bind scene.textures.get? <;>
      simp [eq_comm]

/-- A parameter that holds numbers has a value for each program with a slot of its name. -/
theorem Upload.of?_of_scalar (scene : Scene) {p : Parameter} {b : BoundProgram}
    {slot : ConstantSlot} (hp : p.category = .scalar)
    (hslot : b.constants.constant? p.name = some slot) :
    Upload.of? scene p b =
      some (.constants b.id slot.register (p.scalars.toList.take (slot.registers * 4))) := by
  simp [Upload.of?, hp, hslot]

/-- The registers of a slot hold the first numbers of a value, four in each. -/
def SlotHolds {D : Type} [Device D] [RegisterFile D] (d : D) (id : ProgramId)
    (slot : ConstantSlot) (scalars : Scalars) : Prop :=
  ∀ k < slot.registers,
    RegisterFile.read d id (slot.register + k) = some (.ofList (scalars.toList.drop (4 * k)))

section write

variable {D : Type} [Device D] [RegisterFile D] {d : D} {id : ProgramId} {slot : ConstantSlot}

/-- Writing the numbers of a slot misses the registers of all others. -/
theorem read_setConstants_of_not_covers (hid : RegisterFile.Has d id)
    (hfits : slot.register + slot.registers ≤ RegisterFile.capacity D) (scalars : Scalars)
    {n : Nat} (hn : ¬ slot.Covers n) :
    RegisterFile.read (Device.setConstants d id slot.register
      (scalars.toList.take (slot.registers * 4))) id n = RegisterFile.read d id n := by
  have hlength : (Register.fill (scalars.toList.take (slot.registers * 4))).length ≤
      slot.registers := by
    refine Register.length_fill_le ?_
    rw [List.length_take]
    omega
  rw [RegisterFile.read_write d hid (by omega), if_neg ?_]
  rintro ⟨hle, hlt⟩
  exact hn ⟨hle, by omega⟩

/-- Writing the numbers of a slot fills its registers. -/
theorem slotHolds_setConstants (hid : RegisterFile.Has d id)
    (hfits : slot.register + slot.registers ≤ RegisterFile.capacity D)
    (hregisters : slot.registers ≤ 4) (scalars : Scalars) :
    SlotHolds (Device.setConstants d id slot.register
      (scalars.toList.take (slot.registers * 4))) id slot scalars := by
  intro k hk
  have hlength : (scalars.toList.take (slot.registers * 4)).length = 4 * slot.registers := by
    rw [List.length_take, Vector.length_toList]
    omega
  obtain ⟨hcount, hrows⟩ := Register.fill_spec hlength
  rw [RegisterFile.read_write d hid (by omega), if_pos (by omega)]
  have hindex : slot.register + k - slot.register = k := by omega
  rw [hindex, hrows k hk, List.drop_take]
  exact congrArg some (Register.ofList_take _ (by omega))

/-- Handing a value over takes no program away. -/
theorem has_apply (u : Upload) {q : ProgramId} (hq : RegisterFile.Has d q) :
    RegisterFile.Has (u.apply d) q := by
  cases u with
  | constants program register values => exact RegisterFile.has_write d _ _ _ q hq
  | sampler program slot texture =>
    exact (RegisterFile.keep d (c := .setSampler program slot texture) rfl q hq).1

/-- Handing a value over binds no program. -/
theorem boundAt_apply (u : Upload) :
    RegisterFile.boundAt (u.apply d) = RegisterFile.boundAt d := by
  cases u with
  | constants => exact RegisterFile.boundAt_write d _ _ _
  | sampler => exact RegisterFile.boundAt_setSampler d _ _ _

end write

namespace Renderer

variable {D : Type} [Device D] [RegisterFile D] {r r' : Renderer D}

/-- What is known of loaded programs at any time: each is that of one key, its registers
outside the slots of the key are blank, and what is bound is loaded. -/
structure Kept (r : Renderer D) : Prop where
  has : ∀ key id, r.loaded.get? key = some id → RegisterFile.Has r.device id
  injective : ∀ key other id, r.loaded.get? key = some id → r.loaded.get? other = some id →
    key = other
  untouched : ∀ key id, r.loaded.get? key = some id →
    key.constants.Fits (RegisterFile.capacity D) → ∀ n,
      (∀ slot ∈ key.constants.constants, ¬ slot.Covers n) →
      RegisterFile.read r.device id n = RegisterFile.blank D n
  knows : ∀ bound, r.bound = some bound → ∀ b ∈ bound.programs, r.Knows b

/-- A renderer that has loaded nothing. -/
theorem kept_of_empty (hloaded : r.loaded = ∅) (hbound : r.bound = none) : r.Kept where
  has := by simp [hloaded]
  injective := by simp [hloaded]
  untouched := by simp [hloaded]
  knows := by simp [hbound]

/-- A device whose programs and registers are kept can take the place of another. -/
theorem Kept.withDevice (h : r.Kept) {d : D}
    (hd : ∀ q, RegisterFile.Has r.device q →
      RegisterFile.Has d q ∧ ∀ n, RegisterFile.read d q n = RegisterFile.read r.device q n) :
    ({ r with device := d } : Renderer D).Kept where
  has := fun key id hid => (hd id (h.has key id hid)).1
  injective := h.injective
  untouched := fun key id hid hfits n hn =>
    ((hd id (h.has key id hid)).2 n).trans (h.untouched key id hid hfits n hn)
  knows := h.knows

/-- The slots of a known program are those of its key. -/
theorem Kept.constants_eq (h : r.Kept) {b : BoundProgram} (hb : r.Knows b) {key : ProgramKey}
    (hid : r.loaded.get? key = some b.id) : b.constants = key.constants := by
  obtain ⟨known, hknown, hconstants⟩ := hb
  rw [hconstants, h.injective known key b.id hknown hid]

/-- A value handed to a known program is missed by the registers of other programs, and
by those of the program that no slot covers. -/
theorem Kept.read_apply (h : r.Kept) {scene : Scene} {p : Parameter} {b : BoundProgram}
    {u : Upload} (hb : r.Knows b) (hu : Upload.of? scene p b = some u) {key : ProgramKey}
    {id : ProgramId} (hid : r.loaded.get? key = some id)
    (hfits : key.constants.Fits (RegisterFile.capacity D)) {n : Nat}
    (hn : ∀ slot, key.constants.constant? p.name = some slot → ¬ slot.Covers n) :
    RegisterFile.read (u.apply r.device) id n = RegisterFile.read r.device id n := by
  have hhas := h.has key id hid
  rcases Upload.of?_eq_some_iff.mp hu with ⟨_, slot, hslot, rfl⟩ | ⟨_, slot, texture, _, _, rfl⟩
  · by_cases hsame : id = b.id
    · subst hsame
      rw [h.constants_eq hb hid] at hslot
      have hmem := (ConstantTable.of_constant? hslot).1
      exact read_setConstants_of_not_covers hhas (hfits slot hmem) p.scalars (hn slot hslot)
    · exact RegisterFile.read_write_other _ _ _ hsame n
  · exact (RegisterFile.keep r.device (c := .setSampler b.id slot.slot texture.backing) rfl id
      hhas).2 n

/-- A value that is handed to a known program fills a slot if it is meant for it, and leaves
it otherwise. -/
theorem Kept.slotHolds_of? (h : r.Kept) {scene : Scene} {p : Parameter} {b : BoundProgram}
    {u : Upload} (hb : r.Knows b) (hu : Upload.of? scene p b = some u) {key : ProgramKey}
    {id : ProgramId} (hid : r.loaded.get? key = some id) (hlaid : key.constants.Laid)
    (hfits : key.constants.Fits (RegisterFile.capacity D)) {slot : ConstantSlot}
    (hslot : slot ∈ key.constants.constants) {scalars : Scalars}
    (hholds : SlotHolds r.device id slot scalars) :
    SlotHolds (u.apply r.device) id slot
      (if (p.category = .scalar ∧ p.name = slot.parameter) ∧ b.id = id then p.scalars
        else scalars) := by
  split_ifs with hmeant
  · obtain ⟨⟨hscalar, hname⟩, rfl⟩ := hmeant
    have hfound : b.constants.constant? p.name = some slot := by
      rw [h.constants_eq hb hid, hname]
      exact hlaid.constant? hslot
    rw [Upload.of?_of_scalar scene hscalar hfound] at hu
    cases hu
    exact slotHolds_setConstants (h.has key _ hid) (hfits slot hslot)
      (hlaid.registers_le slot hslot) p.scalars
  · intro k hk
    refine Eq.trans ?_ (hholds k hk)
    rcases Upload.of?_eq_some_iff.mp hu with
      ⟨hscalar, written, hwritten, rfl⟩ | ⟨_, other, texture, _, _, rfl⟩
    · by_cases hsame : id = b.id
      · -- the slot of another name does not reach into this one
        refine h.read_apply hb hu hid hfits fun found hfound hcovers => ?_
        obtain ⟨hmem, hparameter⟩ := ConstantTable.of_constant? hfound
        have heq := hlaid.eq_of_covers hmem hslot hcovers ⟨by omega, by omega⟩
        exact hmeant ⟨⟨hscalar, hparameter.symm.trans (by rw [heq])⟩, hsame.symm⟩
      · exact RegisterFile.read_write_other _ _ _ hsame _
    · exact (RegisterFile.keep r.device (c := .setSampler b.id other.slot texture.backing) rfl id
        (h.has key id hid)).2 _

/-- A program that is loaded is a new one, whose registers are all blank. -/
theorem Kept.load (h : r.Kept) {p : Program} {id : ProgramId} {device : D}
    (hnew : r.loaded.get? p.key = none) (hload : Device.loadProgram r.device p = (.ok id, device)) :
    ({ r with device, loaded := r.loaded.insert p.key id } : Renderer D).Kept := by
  obtain ⟨hfresh, hhas, hblank⟩ := RegisterFile.load hload
  have hkeep : ∀ q, RegisterFile.Has r.device q → RegisterFile.Has device q ∧
      ∀ n, RegisterFile.read device q n = RegisterFile.read r.device q n := by
    intro q hq
    have hperform := RegisterFile.keep r.device (c := .loadProgram p) rfl q hq
    simpa only [DeviceCall.perform, hload] using hperform
  have hold := h.withDevice hkeep
  have hother : ∀ key, r.loaded.get? key ≠ some id :=
    fun key hid => hfresh (h.has key id hid)
  refine ⟨?_, ?_, ?_, ?_⟩
  · intro key q hq
    rw [Table.get?_insert] at hq
    split_ifs at hq
    · cases hq
      exact hhas
    · exact hold.has key q hq
  · intro key other q hkey hq
    rw [Table.get?_insert] at hkey hq
    split_ifs at hkey hq with h₁ h₂ h₂
    · exact h₁.trans h₂.symm
    · cases hkey
      exact absurd hq (hother other)
    · cases hq
      exact absurd hkey (hother key)
    · exact h.injective key other q hkey hq
  · intro key q hq hfits n hn
    rw [Table.get?_insert] at hq
    split_ifs at hq
    · cases hq
      exact hblank n
    · exact hold.untouched key q hq hfits n hn
  · intro bound hbound b hb
    obtain ⟨key, hkey, hconstants⟩ := h.knows bound hbound b hb
    refine ⟨key, ?_, hconstants⟩
    rw [Table.get?_insert, if_neg ?_]
    · exact hkey
    · rintro rfl
      rw [hnew] at hkey
      cases hkey

/-- What is handed to a bound program misses what no slot covers. -/
theorem Kept.upload (h : r.Kept) {bound : BoundPass} (hbound : r.bound = some bound)
    {b : BoundProgram} (hb : b ∈ bound.programs) {scene : Scene} {p : Parameter} {u : Upload}
    (hu : Upload.of? scene p b = some u) :
    ({ r with device := u.apply r.device } : Renderer D).Kept := by
  have hknows := h.knows bound hbound b hb
  refine ⟨fun key id hid => has_apply u (h.has key id hid), h.injective, ?_, h.knows⟩
  intro key id hid hfits n hn
  have hread := h.read_apply hknows hu hid hfits
    fun slot hslot => hn slot (ConstantTable.of_constant? hslot).1
  exact hread.trans (h.untouched key id hid hfits n hn)

theorem StepBy.kept {hands : Prop} (h : r.StepBy DeviceCall.leavesConstants hands r')
    (hr : r.Kept) : r'.Kept := by
  cases h with
  | note => exact ⟨hr.has, hr.injective, hr.untouched, hr.knows⟩
  | quad => exact ⟨hr.has, hr.injective, hr.untouched, hr.knows⟩
  | call hc => exact hr.withDevice fun q hq => RegisterFile.keep r.device hc q hq
  | load hnew hload => exact hr.load hnew hload
  | hold hknows =>
    refine ⟨hr.has, hr.injective, hr.untouched, ?_⟩
    rintro _ ⟨⟩
    exact hknows
  | free => exact ⟨hr.has, hr.injective, hr.untouched, fun bound hbound => by cases hbound⟩
  | upload _ hbound hb hu => exact hr.upload hbound hb hu

/-- What is known of loaded programs holds as long as only the renderer writes numbers. -/
theorem StepsBy.kept {hands : Prop} (h : r.StepsBy DeviceCall.leavesConstants hands r')
    (hr : r.Kept) : r'.Kept :=
  h.keep (fun _ _ hstep => hstep.kept) hr

theorem Steps.kept (h : r.Steps r') (hr : r.Kept) : r'.Kept :=
  StepsBy.kept (h.mono (fun _ => DeviceCall.leavesConstants_of_draws) id) hr

/-! ## Binding a pass -/

section hand

variable {scene : Scene} {effect : Effect} {bound : BoundPass} {key : ProgramKey}
  {id : ProgramId} {slot : ConstantSlot} {p : Parameter}

/-- The values that an effect's parameters have for the programs of the bound pass. -/
def Handed (scene : Scene) (effect : Effect) (bound : BoundPass) (u : Upload) : Prop :=
  ∃ pid ∈ effect.parameterIds, ∃ p, scene.parameters.get? pid = some p ∧
    ∃ b ∈ bound.programs, Upload.of? scene p b = some u

/-- If the numbers that are meant for a slot are all the same, the slot holds them once they
were handed over. -/
theorem Kept.slotHolds_foldl (h : r.Kept) (hbound : r.bound = some bound)
    (hid : r.loaded.get? key = some id) (hlaid : key.constants.Laid)
    (hfits : key.constants.Fits (RegisterFile.capacity D)) (hslot : slot ∈ key.constants.constants)
    {scalars : Scalars} {us : List Upload}
    (hus : ∀ u ∈ us, ∃ scene p, ∃ b ∈ bound.programs, Upload.of? scene p b = some u ∧
      (p.category = .scalar → p.name = slot.parameter → p.scalars = scalars))
    (hholds : SlotHolds r.device id slot scalars ∨
      Upload.constants id slot.register (scalars.toList.take (slot.registers * 4)) ∈ us) :
    SlotHolds (us.foldl Upload.apply r.device) id slot scalars := by
  induction us generalizing r with
  | nil =>
    rcases hholds with hholds | hmem
    · exact hholds
    · exact absurd hmem List.not_mem_nil
  | cons u rest ih =>
    obtain ⟨scene, p, b, hb, hof, hsame⟩ := hus u List.mem_cons_self
    refine ih (r := { r with device := u.apply r.device }) (h.upload hbound hb hof) hbound hid
      (fun v hv => hus v (List.mem_cons_of_mem u hv)) ?_
    rcases hholds with hholds | hmem
    · have hfilled := h.slotHolds_of? (h.knows bound hbound b hb) hof hid hlaid hfits hslot hholds
      split_ifs at hfilled with hmeant
      · rw [hsame hmeant.1.1 hmeant.1.2] at hfilled
        exact Or.inl hfilled
      · exact Or.inl hfilled
    · rcases List.mem_cons.mp hmem with rfl | hrest
      · exact Or.inl (slotHolds_setConstants (h.has key id hid) (hfits slot hslot)
          (hlaid.registers_le slot hslot) scalars)
      · exact Or.inr hrest

omit [RegisterFile D] in
/-- Handing parameters over one by one is handing over all their values. -/
theorem foldl_applyParameter_device (r : Renderer D) (scene : Scene) (ids : List ParameterId) :
    ids.foldl (fun r id => r.applyParameter scene id) r =
      { r with device := (ids.flatMap (r.uploads scene)).foldl Upload.apply r.device } := by
  induction ids generalizing r with
  | nil => rfl
  | cons id rest ih =>
    rw [List.foldl_cons, ih, List.flatMap_cons, List.foldl_append]
    rfl

theorem boundAt_foldl (d : D) (us : List Upload) :
    RegisterFile.boundAt (us.foldl Upload.apply d) = RegisterFile.boundAt d := by
  induction us generalizing d with
  | nil => rfl
  | cons u rest ih => rw [List.foldl_cons, ih, boundAt_apply]

omit [Device D] [RegisterFile D] in
theorem mem_uploads {id : ParameterId} {u : Upload} (hbound : r.bound = some bound)
    (hid : id ∈ effect.parameterIds) (hu : u ∈ r.uploads scene id) :
    Handed scene effect bound u := by
  unfold uploads at hu
  rw [hbound] at hu
  cases hp : scene.parameters.get? id with
  | none => simp [hp] at hu
  | some p =>
    simp only [hp, List.mem_filterMap] at hu
    obtain ⟨b, hb, hof⟩ := hu
    exact ⟨id, hid, p, hp, b, hb, hof⟩

theorem bindProgram_boundAt {p : Program} {id : ProgramId} (h : r.bindProgram p = (.ok id, r')) :
    RegisterFile.boundAt r'.device p.stage = some id ∧ ∀ other, other ≠ p.stage →
      RegisterFile.boundAt r'.device other = RegisterFile.boundAt r.device other := by
  have hid := bindProgram_knows h
  unfold bindProgram at h
  simp only [hid] at h
  rcases hbind : Device.bind r.device p.stage id with ⟨_ | _, device⟩
  · simp [hbind] at h
  · simp only [hbind, Prod.mk.injEq, true_and] at h
    subst h
    exact RegisterFile.bind hbind

/-- Programs that were bound are bound to their stages, and nothing else is bound. -/
theorem bindPrograms_boundAt {done bound : List BoundProgram} {programs : List Program}
    (h : r.bindPrograms done programs = (.ok bound, r'))
    (hstages : (programs.map (·.stage)).Nodup) :
    (∀ b ∈ done, b ∈ bound) ∧
      (∀ stage, stage ∉ programs.map (·.stage) →
        RegisterFile.boundAt r'.device stage = RegisterFile.boundAt r.device stage) ∧
      ∀ p ∈ programs, ∃ id, r.loaded.get? p.key = some id ∧
        RegisterFile.boundAt r'.device p.stage = some id ∧
        (⟨p.stage, id, p.constants⟩ : BoundProgram) ∈ bound := by
  induction programs generalizing r done with
  | nil =>
    simp only [bindPrograms, Prod.mk.injEq, Except.ok.injEq] at h
    obtain ⟨rfl, rfl⟩ := h
    exact ⟨fun _ hb => hb, fun _ _ => rfl, fun _ hp => absurd hp List.not_mem_nil⟩
  | cons p rest ih =>
    rw [bindPrograms] at h
    obtain ⟨hfirst, hrest⟩ := List.nodup_cons.mp hstages
    rcases hbind : r.bindProgram p with ⟨_ | id, r₁⟩
    · simp [hbind] at h
    · simp only [hbind] at h
      have hid := bindProgram_knows hbind
      have hloaded : r₁.loaded = r.loaded := by simpa [hbind] using bindProgram_loaded r p
      obtain ⟨hat, hothers⟩ := bindProgram_boundAt hbind
      obtain ⟨hdone, hkeep, hall⟩ := ih h hrest
      refine ⟨fun b hb => hdone b (List.mem_append_left _ hb), fun stage hstage => ?_, ?_⟩
      · simp only [List.map_cons, List.mem_cons, not_or] at hstage
        rw [hkeep stage hstage.2, hothers stage hstage.1]
      · intro q hq
        rcases List.mem_cons.mp hq with rfl | hmem
        · refine ⟨id, hid, ?_, hdone _ (List.mem_append_right _ (List.mem_singleton.mpr rfl))⟩
          rw [hkeep q.stage hfirst, hat]
        · rw [hloaded] at hall
          exact hall q hmem

/-- Before the values of the effect's parameters are handed over, the programs of the pass
are loaded and bound, and no others are. -/
theorem bindPass_ready {pass : Pass} (hstages : (pass.programs.map (·.stage)).Nodup)
    (h : r.bindPass scene effect pass = (.ok (), r')) :
    ∃ r₁ bound, r.StepsBy DeviceCall.binds False r₁ ∧ r₁.bound = some bound ∧
      (∀ program ∈ pass.programs, ∃ id, r₁.loaded.get? program.key = some id ∧
        RegisterFile.boundAt r₁.device program.stage = some id ∧
        (⟨program.stage, id, program.constants⟩ : BoundProgram) ∈ bound.programs) ∧
      (∀ b ∈ bound.programs, ∃ program ∈ pass.programs,
        r₁.loaded.get? program.key = some b.id ∧ b.constants = program.constants) ∧
      r' = effect.parameterIds.foldl (fun r id => r.applyParameter scene id) r₁ := by
  rcases Renderer.bindPass_cases r scene effect pass with ⟨e, r₁, heq, _⟩ |
    ⟨r₁, r₂, bound, _, hprograms, hsteps, heq⟩
  · rw [heq] at h
    cases (Prod.mk.inj h).1
  rw [heq, Prod.mk.injEq] at h
  obtain ⟨hloaded, hmem⟩ := mem_bindPrograms hprograms
  obtain ⟨_, _, hall⟩ := bindPrograms_boundAt hprograms hstages
  rw [← hloaded] at hmem hall
  exact ⟨_, bound, hsteps, rfl, hall,
    fun b hb => (hmem b hb).resolve_left List.not_mem_nil, h.2.symm⟩

/-- A pass that was bound has each of its programs in its stage; each slot of a program
holds the numbers of the effect's parameter, and no other register was written to. -/
theorem Kept.bindPass (h : r.Kept) {pass : Pass} (hstages : (pass.programs.map (·.stage)).Nodup)
    (hlaid : ∀ program ∈ pass.programs, program.constants.Laid)
    (hbind : r.bindPass scene effect pass = (.ok (), r')) :
    r'.Kept ∧ ∀ program ∈ pass.programs, ∃ id, r'.loaded.get? program.key = some id ∧
      RegisterFile.boundAt r'.device program.stage = some id ∧
      (program.constants.Fits (RegisterFile.capacity D) →
        (∀ slot ∈ program.constants.constants, ∀ pid ∈ effect.parameterIds, ∀ p,
          scene.parameters.get? pid = some p → p.name = slot.parameter → p.category = .scalar →
          scene.parameters.Feeds effect slot.parameter p →
            SlotHolds r'.device id slot p.scalars) ∧
        ∀ n, (∀ slot ∈ program.constants.constants, ¬ slot.Covers n) →
          RegisterFile.read r'.device id n = RegisterFile.blank D n) := by
  obtain ⟨r₁, bound, hsteps, hbound, hall, _, rfl⟩ := bindPass_ready hstages hbind
  have hkept₁ := hsteps.draw.kept h
  have hkept := StepsBy.kept (foldl_applyParameter_steps r₁ scene effect.parameterIds) hkept₁
  refine ⟨hkept, ?_⟩
  rw [foldl_applyParameter_device] at hkept ⊢
  intro program hprogram
  obtain ⟨id, hid, hat, hmem⟩ := hall program hprogram
  refine ⟨id, hid, (congrFun (boundAt_foldl _ _) _).trans hat, fun hfits => ⟨?_, ?_⟩⟩
  · intro slot hslot pid hpid p hp hname hscalar hfeeds
    refine hkept₁.slotHolds_foldl hbound hid (hlaid program hprogram) hfits hslot ?_ (Or.inr ?_)
    · intro u hu
      obtain ⟨uid, huid, hmemu⟩ := List.mem_flatMap.mp hu
      obtain ⟨other, hother, q, hq, b, hb, hof⟩ := mem_uploads hbound huid hmemu
      exact ⟨scene, q, b, hb, hof, fun _ hname => by rw [hfeeds other hother q hq hname]⟩
    · refine List.mem_flatMap.mpr ⟨pid, hpid, ?_⟩
      simp only [uploads, hbound, hp]
      refine List.mem_filterMap.mpr ⟨_, hmem, Upload.of?_of_scalar scene hscalar ?_⟩
      rw [hname]
      exact (hlaid program hprogram).constant? hslot
  · exact hkept.untouched program.key id hid hfits

end hand

end Renderer

end ShaderEffects
