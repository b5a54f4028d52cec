import ShaderEffects.Proofs.HandedParameters

/-!
# What the programs of a bound pass hold

Binding a pass fills the slots of its programs with what its effect holds. From then on a
slot has what was handed over last under its name, whichever parameters were handed over in
between and to whichever effects they belong.
-/
namespace ShaderEffects

variable {D : Type} [Device D] [RegisterFile D] [SamplerFile D]

/-- Each slot of a program has the numbers or the texture that is said for it, and the
registers of no slot are blank, unless there are more than the device has. -/
structure BoundProgram.Holds (b : BoundProgram) (d : D) (numbers : String → Option Scalars)
    (texture : SamplerSlot → Option TextureId) : Prop where
  slots : b.constants.registerCount ≤ RegisterFile.capacity D → ∀ slot ∈ b.constants.constants,
    ∃ scalars, numbers slot.parameter = some scalars ∧ SlotHolds d b.id slot scalars
  others : b.constants.registerCount ≤ RegisterFile.capacity D → ∀ n,
    (∀ slot ∈ b.constants.constants, ¬ slot.Covers n) →
      RegisterFile.read d b.id n = RegisterFile.blank D n
  samplers : ∀ slot ∈ b.constants.samplers,
    SamplerFile.sampler? d b.id slot.slot = texture slot

/-- A device that has the same in the slots of a program can take the place of another. -/
theorem BoundProgram.Holds.withDevice {b : BoundProgram} {d d' : D}
    {numbers : String → Option Scalars} {texture : SamplerSlot → Option TextureId}
    (h : b.Holds d numbers texture)
    (hread : ∀ n, RegisterFile.read d' b.id n = RegisterFile.read d b.id n)
    (hsampler : ∀ slot, SamplerFile.sampler? d' b.id slot = SamplerFile.sampler? d b.id slot) :
    b.Holds d' numbers texture where
  slots := fun hcount slot hslot => by
    obtain ⟨scalars, hnumbers, hholds⟩ := h.slots hcount slot hslot
    exact ⟨scalars, hnumbers, fun k hk => (hread _).trans (hholds k hk)⟩
  others := fun hcount n hn => (hread n).trans (h.others hcount n hn)
  samplers := fun slot hslot => (hsampler slot.slot).trans (h.samplers slot hslot)

namespace Renderer

variable {r r' : Renderer D} {bound : BoundPass}

/-! ## The slots of loaded programs -/

/-- Each loaded program has the slots of its samplers. -/
def Slotted (r : Renderer D) : Prop :=
  ∀ key id, r.loaded.get? key = some id → key.constants.Sampled →
    ∀ slot ∈ key.constants.samplers, SamplerFile.HasSlot r.device id slot.slot

theorem slotted_of_empty (hloaded : r.loaded = ∅) : r.Slotted := by
  intro key id hid
  simp [hloaded] at hid

/-- A device that keeps slots can take the place of another. -/
theorem Slotted.withDevice (h : r.Slotted) (hkept : r.Kept) {d : D}
    (hd : ∀ q, RegisterFile.Has r.device q → ∀ slot,
      SamplerFile.HasSlot r.device q slot → SamplerFile.HasSlot d q slot) :
    ({ r with device := d } : Renderer D).Slotted :=
  fun key id hid hsampled slot hslot =>
    hd id (hkept.has key id hid) slot.slot (h key id hid hsampled slot hslot)

theorem StepBy.slotted {hands : Prop} (h : r.StepBy DeviceCall.leavesPrograms hands r')
    (hkept : r.Kept) (hr : r.Slotted) : r'.Slotted := by
  cases h with
  | note | quad | hold | free => exact hr
  | call hc =>
    exact hr.withDevice hkept fun q hq slot =>
      (SamplerFile.keep r.device (DeviceCall.leavesSamplers_of_leavesPrograms hc) q hq slot).1
  | @load p id device hnew hload =>
    have hdevice : (DeviceCall.loadProgram p).perform r.device = device := congrArg Prod.snd hload
    intro key q hq hsampled slot hslot
    rw [Table.get?_insert] at hq
    split_ifs at hq with hkey
    · cases hq
      subst hkey
      exact (SamplerFile.load hload).1 _ (hsampled.slot_lt hslot)
    · have hkeep := SamplerFile.keep r.device (c := .loadProgram p) rfl q (hkept.has key q hq)
        slot.slot
      rw [hdevice] at hkeep
      exact hkeep.1 (hr key q hq hsampled slot hslot)
  | upload => exact hr.withDevice hkept fun q hq slot => hasSlot_apply _ hq

theorem StepsBy.slotted {hands : Prop} (h : r.StepsBy DeviceCall.leavesPrograms hands r')
    (hkept : r.Kept) (hr : r.Slotted) : r'.Kept ∧ r'.Slotted :=
  h.keep (P := fun r => r.Kept ∧ r.Slotted)
    (fun _ _ hstep hr => ⟨StepBy.kept
      (hstep.mono (fun _ => DeviceCall.leavesConstants_of_leavesPrograms) fun hhands => hhands) hr.1,
        hstep.slotted hr.1 hr.2⟩) ⟨hkept, hr⟩

/-- What hands nothing over leaves what is in the slots of the programs of the device. -/
theorem StepBy.spares (h : r.StepBy DeviceCall.leavesPrograms False r') {q : ProgramId}
    (hq : RegisterFile.Has r.device q) :
    RegisterFile.Has r'.device q ∧
      (∀ n, RegisterFile.read r'.device q n = RegisterFile.read r.device q n) ∧
      ∀ slot, SamplerFile.sampler? r'.device q slot = SamplerFile.sampler? r.device q slot := by
  have hcall : ∀ {c : DeviceCall D}, c.leavesPrograms = true →
      RegisterFile.Has (c.perform r.device) q ∧
        (∀ n, RegisterFile.read (c.perform r.device) q n = RegisterFile.read r.device q n) ∧
        ∀ slot, SamplerFile.sampler? (c.perform r.device) q slot =
          SamplerFile.sampler? r.device q slot := by
    intro c hc
    obtain ⟨hhas, hread⟩ :=
      RegisterFile.keep r.device (DeviceCall.leavesConstants_of_leavesPrograms hc) q hq
    exact ⟨hhas, hread, fun slot => (SamplerFile.keep r.device
      (DeviceCall.leavesSamplers_of_leavesPrograms hc) q hq slot).2⟩
  cases h with
  | note | quad | hold | free => exact ⟨hq, fun _ => rfl, fun _ => rfl⟩
  | call hc => exact hcall hc
  | @load p _ _ _ hload =>
    have hperform := hcall (c := .loadProgram p) rfl
    simpa only [DeviceCall.perform, hload] using hperform
  | upload hhands => exact hhands.elim

theorem StepsBy.spares (h : r.StepsBy DeviceCall.leavesPrograms False r') {q : ProgramId}
    (hq : RegisterFile.Has r.device q) :
    RegisterFile.Has r'.device q ∧
      (∀ n, RegisterFile.read r'.device q n = RegisterFile.read r.device q n) ∧
      ∀ slot, SamplerFile.sampler? r'.device q slot = SamplerFile.sampler? r.device q slot := by
  refine h.keep (P := fun r' => RegisterFile.Has r'.device q ∧
    (∀ n, RegisterFile.read r'.device q n = RegisterFile.read r.device q n) ∧
    ∀ slot, SamplerFile.sampler? r'.device q slot = SamplerFile.sampler? r.device q slot) ?_
    ⟨hq, fun _ => rfl, fun _ => rfl⟩
  rintro r₁ r₂ hstep ⟨hhas, hread, hsampler⟩
  obtain ⟨hhas₂, hread₂, hsampler₂⟩ := hstep.spares hhas
  exact ⟨hhas₂, fun n => (hread₂ n).trans (hread n),
    fun slot => (hsampler₂ slot).trans (hsampler slot)⟩

/-- The texture in a slot of a program, if the program is loaded. -/
def slotTexture? (r : Renderer D) (key : ProgramKey) (slot : Nat) : Option TextureId :=
  (r.loaded.get? key).bind fun id => SamplerFile.sampler? r.device id slot

/-- What hands nothing over puts no texture into a slot: a program that is loaded then has none. -/
theorem StepBy.slotTexture? (h : r.StepBy DeviceCall.leavesPrograms False r') (hkept : r.Kept)
    (key : ProgramKey) (slot : Nat) : r'.slotTexture? key slot = r.slotTexture? key slot := by
  have hloaded : ∀ id, r.loaded.get? key = some id →
      SamplerFile.sampler? r'.device id slot = SamplerFile.sampler? r.device id slot :=
    fun id hid => (h.spares (hkept.has key id hid)).2.2 slot
  unfold Renderer.slotTexture?
  cases h with
  | note | quad | hold | free => rfl
  | call => exact Option.bind_congr hloaded
  | @load p id device hnew hload =>
    rw [Table.get?_insert]
    split_ifs with hkey
    · rw [hkey, hnew]
      exact (SamplerFile.load hload).2 slot
    · exact Option.bind_congr hloaded
  | upload hhands => exact hhands.elim

theorem StepsBy.slotTexture? (h : r.StepsBy DeviceCall.leavesPrograms False r') (hkept : r.Kept)
    (key : ProgramKey) (slot : Nat) : r'.slotTexture? key slot = r.slotTexture? key slot :=
  (h.keep (P := fun r' => r'.Kept ∧ r'.slotTexture? key slot = r.slotTexture? key slot)
    (fun _ _ hstep hr => ⟨StepBy.kept
      (hstep.mono (fun _ => DeviceCall.leavesConstants_of_leavesPrograms) fun hhands => hhands) hr.1,
        (hstep.slotTexture? hr.1 key slot).trans hr.2⟩) ⟨hkept, rfl⟩).2

/-- The renderer went on, but nothing was handed over, and what is bound stayed bound. -/
structure Idles {D : Type} [Device D] (r r' : Renderer D) : Prop where
  steps : r.StepsBy DeviceCall.leavesPrograms False r'
  bound : r'.bound = r.bound

theorem Idles.refl {D : Type} [Device D] (r : Renderer D) : r.Idles r := ⟨.refl r, rfl⟩

theorem Idles.trans {D : Type} [Device D] {r₁ r₂ r₃ : Renderer D} (h₁ : r₁.Idles r₂)
    (h₂ : r₂.Idles r₃) : r₁.Idles r₃ :=
  ⟨h₁.steps.trans h₂.steps, h₂.bound.trans h₁.bound⟩

theorem idles_note {D : Type} [Device D] (r : Renderer D) (notices : List Notice) :
    r.Idles (r.note notices) := ⟨note_stepsBy r notices, rfl⟩

/-! ## The programs of the bound pass -/

/-- A pass is bound, and the slots of its programs have what is said for them. -/
structure Fills (bound : BoundPass) (numbers : String → Option Scalars)
    (texture : BoundProgram → SamplerSlot → Option TextureId) (r : Renderer D) : Prop where
  kept : r.Kept
  slotted : r.Slotted
  isBound : r.bound = some bound
  laid : ∀ b ∈ bound.programs, b.constants.Laid ∧ b.constants.Sampled
  holds : ∀ b ∈ bound.programs, b.Holds r.device numbers (texture b)

variable {numbers : String → Option Scalars}
  {texture : BoundProgram → SamplerSlot → Option TextureId}

omit [SamplerFile D] in
/-- A bound program is one that the device has. -/
theorem Kept.has_bound (h : r.Kept) (hbound : r.bound = some bound) {b : BoundProgram}
    (hb : b ∈ bound.programs) : RegisterFile.Has r.device b.id := by
  obtain ⟨key, hid, _⟩ := h.knows bound hbound b hb
  exact h.has key b.id hid

/-- As long as the pass stays bound and nothing is handed over, its programs keep what
they hold. -/
theorem Fills.idle (h : r.Fills bound numbers texture) (hidle : r.Idles r') :
    r'.Fills bound numbers texture := by
  obtain ⟨hkept, hslotted⟩ := hidle.steps.slotted h.kept h.slotted
  refine ⟨hkept, hslotted, hidle.bound.trans h.isBound, h.laid, fun b hb => ?_⟩
  obtain ⟨_, hread, hsampler⟩ := hidle.steps.spares (h.kept.has_bound h.isBound hb)
  exact (h.holds b hb).withDevice hread hsampler

/-- A device that keeps registers and slots can take the place of another. -/
theorem Fills.withDevice (h : r.Fills bound numbers texture) {d : D}
    (hregisters : ∀ q, RegisterFile.Has r.device q → RegisterFile.Has d q ∧
      ∀ n, RegisterFile.read d q n = RegisterFile.read r.device q n)
    (hslots : ∀ q, RegisterFile.Has r.device q → ∀ slot,
      (SamplerFile.HasSlot r.device q slot → SamplerFile.HasSlot d q slot) ∧
        SamplerFile.sampler? d q slot = SamplerFile.sampler? r.device q slot) :
    ({ r with device := d } : Renderer D).Fills bound numbers texture := by
  refine ⟨h.kept.withDevice hregisters,
    h.slotted.withDevice h.kept fun q hq slot => (hslots q hq slot).1, h.isBound, h.laid,
    fun b hb => ?_⟩
  have hhas := h.kept.has_bound h.isBound hb
  exact (h.holds b hb).withDevice (hregisters b.id hhas).2 fun slot => (hslots b.id hhas slot).2

/-- Handing a parameter over fills the slots of its name that are for its kind of value,
and leaves all others. -/
theorem Fills.hand (h : r.Fills bound numbers texture) (given : Handing) :
    (r.hand given).Fills bound (fun name => (given.numbers? name).or (numbers name))
      fun b slot => (given.texture? slot.parameter).or (texture b slot) := by
  have hdevice : r.hand given = { r with device := (r.hand given).device } := rfl
  have hkept := h.kept.hand given
  refine ⟨hkept, ?_, ?_, h.laid, fun b hb => ?_⟩
  · rw [hand_of_bound h.isBound]
    exact h.slotted.withDevice h.kept fun q hq slot hslot => hasSlot_foldl hq hslot _
  · rw [hdevice]
    exact h.isBound
  obtain ⟨hlaid, hsampled⟩ := h.laid b hb
  obtain ⟨key, hid, hconstants⟩ := h.kept.knows bound h.isBound b hb
  obtain ⟨hslots, hothers, hsamplers⟩ := h.holds b hb
  rw [hconstants] at hlaid hsampled hslots hothers hsamplers
  refine ⟨fun hcount slot hslot => ?_, fun hcount n hn => ?_, fun slot hslot => ?_⟩
  · rw [hconstants] at hcount hslot
    obtain ⟨scalars, hnumbers, hholds⟩ := hslots hcount slot hslot
    refine ⟨_, ?_, h.kept.slotHolds_hand hid hlaid (hlaid.fits hcount) hslot h.isBound ⟨b, hb, rfl⟩
      given hholds⟩
    rw [hnumbers]
    cases given.numbers? slot.parameter <;> rfl
  · rw [hconstants] at hcount hn
    exact hkept.untouched key b.id hid (hlaid.fits hcount) n hn
  · rw [hconstants] at hslot
    rw [← hsamplers slot hslot]
    exact (h.kept.sampler?_hand h.isBound hid hsampled hslot ⟨b, hb, rfl⟩ given
      (h.slotted key b.id hid hsampled slot hslot)).2

/-- When a pass was bound, the slots of its programs have what its effect holds. A slot
whose sampler holds no texture has the one that was there before, and none if the program was
loaded only now. -/
theorem Kept.fills_bindPass (hkept : r.Kept) (hslotted : r.Slotted) {scene : Scene}
    {effect : Effect} {technique : Technique} {pass : Pass}
    (hcompiled : WellCompiled D effect) (hsupplies : scene.parameters.Supplies effect)
    (ht : technique ∈ effect.techniques) (hpass : pass ∈ technique.passes)
    (hstages : (pass.programs.map (·.stage)).Nodup)
    (hbind : r.bindPass scene effect pass = (.ok (), r')) :
    ∃ (bound : BoundPass) (former : ProgramId → Nat → Option TextureId),
      (∀ program ∈ pass.programs, ∃ b ∈ bound.programs,
        b.stage = program.stage ∧ b.constants = program.constants) ∧
      (∀ b ∈ bound.programs, ∃ program ∈ pass.programs, b.constants = program.constants ∧
        ∀ slot, former b.id slot = r.slotTexture? program.key slot) ∧
      r'.Fills bound (scene.numbersOf? effect) fun b slot =>
        (scene.textureOf? effect slot.parameter).or (former b.id slot.slot) := by
  have hprograms : ∀ program ∈ pass.programs, program.constants.Laid :=
    fun _ hprogram => hcompiled.laid_constants ht hpass hprogram
  obtain ⟨hkept', hall⟩ := hkept.bindPass hstages hprograms hbind
  obtain ⟨r₁, bound, hsteps, hbound, hpresent, hmem, rfl⟩ := bindPass_ready hstages hbind
  have hquiet : r.StepsBy DeviceCall.leavesPrograms False r₁ :=
    hsteps.mono (fun _ hc => DeviceCall.leavesPrograms_of_draws (DeviceCall.draws_of_binds hc)) id
  obtain ⟨hkept₁, hslotted₁⟩ := hquiet.slotted hkept hslotted
  rw [foldl_applyParameter_device] at hkept' hall ⊢
  refine ⟨bound, SamplerFile.sampler? r₁.device, fun program hprogram => ?_, fun b hb => ?_,
    hkept', ?_, hbound, fun b hb => ?_, fun b hb => ?_⟩
  · obtain ⟨id, _, _, hb⟩ := hpresent program hprogram
    exact ⟨_, hb, rfl, rfl⟩
  · obtain ⟨program, hprogram, hid, hconstants⟩ := hmem b hb
    refine ⟨program, hprogram, hconstants, fun slot => ?_⟩
    rw [← hquiet.slotTexture? hkept, slotTexture?, hid, Option.bind_some]
  · exact hslotted₁.withDevice hkept₁ fun q hq slot hslot => hasSlot_foldl hq hslot _
  · obtain ⟨program, hprogram, _, hconstants⟩ := hmem b hb
    rw [hconstants]
    exact ⟨hprograms program hprogram, hcompiled.sampled_constants ht hpass hprogram⟩
  · obtain ⟨program, hprogram, hid, hconstants⟩ := hmem b hb
    have hlaid := hprograms program hprogram
    have hsampled := hcompiled.sampled_constants ht hpass hprogram
    obtain ⟨id, hid', _, hheld⟩ := hall program hprogram
    obtain rfl : id = b.id := Option.some.inj (hid'.symm.trans hid)
    refine ⟨fun hcount slot hslot => ?_, fun hcount => ?_, fun slot hslot => ?_⟩
    · rw [hconstants] at hcount hslot
      obtain ⟨ep, hep, hfind, hname, hscalar⟩ :=
        hcompiled.parameter?_slot ht hpass hprogram hslot
      obtain ⟨p, hp, hpname, hptype, hfeeds⟩ := hcompiled.feeds hsupplies hep
      rw [hname] at hpname hfeeds
      have hcategory : p.category = .scalar := by
        rw [Parameter.category, hptype]
        exact hscalar
      refine ⟨p.scalars, by simp [Scene.numbersOf?, hfind, hp], ?_⟩
      exact (hheld (hlaid.fits hcount)).1 slot hslot ep.id (List.mem_map_of_mem hep) p hp hpname
        hcategory hfeeds
    · rw [hconstants] at hcount ⊢
      exact (hheld (hlaid.fits hcount)).2
    · rw [hconstants] at hslot
      have hfilled := hkept₁.sampler?_handed hcompiled hsupplies ht hpass hid hslot hsampled hbound
        (fun program hprogram => (hpresent program hprogram).imp fun _ hp => ⟨hp.1, hp.2.2⟩) hmem
        (hslotted₁ program.key b.id hid hsampled slot hslot) r.device
      rwa [Draw.supplied?_within scene effect r.device hprogram] at hfilled

end Renderer

end ShaderEffects
