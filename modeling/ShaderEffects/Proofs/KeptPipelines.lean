import ShaderEffects.Proofs.DeviceMoves

/-!
# What a device keeps for its programs

Shaders, layouts and pipelines are made once and found again by what they were made for. A
device that was only ever used through its calls keeps them in order: a shader is found with
the text of the program that it is looked up for, a layout with as many slots as it is looked
up for, and a pipeline joins the shaders and layouts of its two programs.
-/
namespace ShaderEffects

open Gpu

namespace Gpu

/-- What is fixed about a program once it is loaded. -/
structure ProgramShape where
  label : String
  stage : Stage
  entry : String
  module : ShaderModule
  /-- The number of its slots. -/
  samplers : Nat

def LoadedProgram.shape (p : LoadedProgram) : ProgramShape :=
  ⟨p.label, p.stage, p.entry, p.module, p.samplers.length⟩

/-- The shape is that of a compiled program. -/
structure ProgramShape.IsOf (s : ProgramShape) (p : Program) : Prop where
  stage : s.stage = p.stage
  entry : s.entry = p.entry
  module : s.module.source = moduleSource p
  samplers : s.samplers = p.constants.samplers.length

/-- The pipeline is one for two programs that draw into a format. -/
structure Pipeline.Joins (pipeline : Pipeline) (vs fs : ProgramShape) (format : PixelFormat) :
    Prop where
  layout : pipeline.layout =
    [constantsLayout, samplersLayout .vertex vs.samplers, samplersLayout .fragment fs.samplers]
  vertex : pipeline.vertex = vs.module ∧ pipeline.vertexEntry = vs.entry
  fragment : pipeline.fragment = fs.module ∧ pipeline.fragmentEntry = fs.entry
  buffers : pipeline.buffers = 1
  target : pipeline.target = format

/-- The text that a device is given says all that counts of a program. -/
theorem moduleSource_congr {p q : Program} (h : p.key = q.key) :
    moduleSource p = moduleSource q := by
  simp only [moduleSource, prelude, preludeItems, Program.stage, Program.constants, Program.source,
    h]

end Gpu

namespace GpuDevice

variable {g g' : GpuDevice} {kind : MoveKind} {kinds : MoveKind → Prop}

/-! ## What a device keeps in order -/

/-- What is fixed about a program that was loaded. -/
def shape? (g : GpuDevice) (id : ProgramId) : Option ProgramShape :=
  (g.programs.get? id).map LoadedProgram.shape

theorem shape?_modify (g : GpuDevice) (id : ProgramId) (f : LoadedProgram → LoadedProgram)
    (hf : ∀ p, (f p).shape = p.shape) (q : ProgramId) :
    shape? { g with programs := g.programs.modify id f } q = g.shape? q := by
  simp only [shape?, Table.get?_modify]
  split_ifs with hq
  · subst hq
    rw [Option.map_map]
    congr 1
    funext p
    exact hf p
  · rfl

theorem shape_writeRegisters (p : LoadedProgram) (register : Nat) (rs : List Register) :
    (writeRegisters p register rs).shape = p.shape := by
  induction rs generalizing p register with
  | nil => rfl
  | cons r rest ih =>
    rw [writeRegisters, ih]
    split_ifs <;> rfl

@[simp] theorem shape?_setConstants (g : GpuDevice) (id : ProgramId) (register : Nat)
    (values : List Float32) (q : ProgramId) :
    (g.setConstants id register values).shape? q = g.shape? q :=
  shape?_modify g id _ (fun p => shape_writeRegisters p register _) q

@[simp] theorem shape?_setSampler (g : GpuDevice) (id : ProgramId) (slot : Nat)
    (texture : TextureId) (q : ProgramId) :
    (g.setSampler id slot texture).shape? q = g.shape? q := by
  unfold setSampler
  exact shape?_modify g id _ (by intro p; simp [LoadedProgram.shape]) q

@[simp] theorem shape?_upload (g : GpuDevice) (id q : ProgramId) :
    (g.upload id).shape? q = g.shape? q := by
  unfold upload
  cases hp : g.programs.get? id with
  | none => rfl
  | some p =>
    simp only
    split_ifs
    · simp only [shape?, ask, Table.get?_insert]
      split_ifs with hq
      · rw [hq, hp]
        rfl
      · rfl
    · rfl

/-- A move changes nothing that is fixed about the programs with numbers. -/
theorem Move.shapes (h : g.Move kind g') :
    g.nextId ≤ g'.nextId ∧ ∀ id, id.number < g.nextId → g'.shape? id = g.shape? id := by
  cases h with
  | ask | makeModule | makeLayout | makePipeline | makeBlit | bind | unbind | aim | draw | copy
  | resize | configure | present | lose => exact ⟨Nat.le_refl _, fun _ _ => rfl⟩
  | keep => exact ⟨Nat.le_succ _, fun _ _ => rfl⟩
  | upload id =>
    exact ⟨Nat.le_of_eq (upload_same g id).1.symm, fun q _ => shape?_upload g id q⟩
  | load p _ =>
    refine ⟨Nat.le_succ _, fun id hid => ?_⟩
    have hne : id ≠ ⟨g.nextId⟩ := by
      rintro rfl
      exact Nat.lt_irrefl _ hid
    simp [shape?, hne]
  | write id register values =>
    exact ⟨Nat.le_refl _, fun q _ => shape?_setConstants g id register values q⟩
  | sample id slot texture =>
    exact ⟨Nat.le_refl _, fun q _ => shape?_setSampler g id slot texture q⟩

theorem MovesBy.shapes (h : g.MovesBy kinds g') :
    g.nextId ≤ g'.nextId ∧ ∀ id, id.number < g.nextId → g'.shape? id = g.shape? id :=
  h.preserve (P := fun g' =>
      g.nextId ≤ g'.nextId ∧ ∀ id, id.number < g.nextId → g'.shape? id = g.shape? id)
    (fun _ _ _ _ hmove hsame => ⟨Nat.le_trans hsame.1 hmove.shapes.1, fun id hid =>
      (hmove.shapes.2 id (Nat.lt_of_lt_of_le hid hsame.1)).trans (hsame.2 id hid)⟩)
    ⟨Nat.le_refl _, fun _ _ => rfl⟩

/-- A device whose numbers are new, and whose layouts, shaders and pipelines fit its
programs. -/
structure Consistent (g : GpuDevice) : Prop where
  numbered : ∀ id s, g.shape? id = some s → id.number < g.nextId
  layouts : ∀ group count layout, g.layouts.get? (group, count) = some layout →
    layout = samplersLayout (groupVisibility group) count
  modules : ∀ (p : Program) module, g.modules.get? p.key = some module →
    module.source = moduleSource p
  pipelines : ∀ vertex fragment format pipeline,
    g.pipelines.get? (vertex, fragment, format) = some pipeline →
      ∃ vs fs, g.shape? vertex = some vs ∧ g.shape? fragment = some fs ∧
        pipeline.Joins vs fs format
  blits : ∀ format pipeline, g.blitPipelines.get? format = some pipeline →
    pipeline = blitPipeline format
  bound : ∀ stage id, g.bound.get? stage = some id → ∃ s, g.shape? id = some s ∧ s.stage = stage

theorem consistent_ofSize (context : GpuContext) (width height : Nat) :
    (ofSize context width height).Consistent where
  numbered _ _ h := by simp [shape?, ofSize] at h
  layouts _ _ _ h := by simp [ofSize] at h
  modules _ _ h := by simp [ofSize] at h
  pipelines _ _ _ _ h := by simp [ofSize] at h
  blits _ _ h := by simp [ofSize] at h
  bound _ _ h := by simp [ofSize] at h

/-- What leaves shaders, layouts, pipelines and stages alone, and what is fixed about the
programs, leaves the device in order. -/
theorem Consistent.of_same (h : g.Consistent) (hnext : g.nextId ≤ g'.nextId)
    (hshapes : ∀ id, g'.shape? id = g.shape? id) (hlayouts : g'.layouts = g.layouts)
    (hmodules : g'.modules = g.modules) (hpipelines : g'.pipelines = g.pipelines)
    (hblits : g'.blitPipelines = g.blitPipelines) (hbound : g'.bound = g.bound) :
    g'.Consistent where
  numbered id s hs := Nat.lt_of_lt_of_le (h.numbered id s (hshapes id ▸ hs)) hnext
  layouts group count layout hlayout := h.layouts group count layout (hlayouts ▸ hlayout)
  modules p module hmodule := h.modules p module (hmodules ▸ hmodule)
  pipelines vertex fragment format pipeline hpipeline := by
    rw [hshapes, hshapes]
    exact h.pipelines vertex fragment format pipeline (hpipelines ▸ hpipeline)
  blits format pipeline hpipeline := h.blits format pipeline (hblits ▸ hpipeline)
  bound stage id hid := by
    rw [hshapes]
    exact h.bound stage id (hbound ▸ hid)

/-- A program is loaded under a number that no other has, so what is fixed about those stays
as it is. -/
theorem Consistent.load (h : g.Consistent) (p : Program) (module : ShaderModule) :
    Consistent { g with
      nextId := g.nextId + 1
      programs := g.programs.insert ⟨g.nextId⟩ (.fresh p module) } := by
  have hkept : ∀ id s, g.shape? id = some s →
      shape? { g with
        nextId := g.nextId + 1
        programs := g.programs.insert ⟨g.nextId⟩ (.fresh p module) } id = some s := by
    intro id s hs
    have hne : id ≠ ⟨g.nextId⟩ := by
      rintro rfl
      exact Nat.lt_irrefl _ (h.numbered _ s hs)
    rw [← hs]
    simp [shape?, hne]
  refine ⟨fun id s hs => ?_, h.layouts, h.modules, ?_, h.blits, ?_⟩
  · by_cases hid : id = ⟨g.nextId⟩
    · subst hid
      exact Nat.lt_succ_self _
    · refine Nat.lt_succ_of_lt (h.numbered id s ?_)
      rw [← hs]
      simp [shape?, hid]
  · intro vertex fragment format pipeline hpipeline
    obtain ⟨vs, fs, hvs, hfs, hjoins⟩ := h.pipelines vertex fragment format pipeline hpipeline
    exact ⟨vs, fs, hkept _ _ hvs, hkept _ _ hfs, hjoins⟩
  · intro stage id hid
    obtain ⟨s, hs, hstage⟩ := h.bound stage id hid
    exact ⟨s, hkept _ _ hs, hstage⟩

/-- Every move leaves a device in order. -/
theorem Move.consistent (hmove : g.Move kind g') (h : g.Consistent) : g'.Consistent := by
  cases hmove with
  | ask | aim | draw | copy | resize | configure | present | lose =>
    exact h.of_same (Nat.le_refl _) (fun _ => rfl) rfl rfl rfl rfl rfl
  | keep => exact h.of_same (Nat.le_succ _) (fun _ => rfl) rfl rfl rfl rfl rfl
  | upload id =>
    obtain ⟨hnext, -, hlayouts, hmodules, hpipelines, hblits, hbound⟩ := upload_same g id
    exact h.of_same (Nat.le_of_eq hnext.symm) (shape?_upload g id) hlayouts hmodules hpipelines
      hblits hbound
  | write id register values =>
    exact h.of_same (Nat.le_refl _) (shape?_setConstants g id register values) rfl rfl rfl rfl rfl
  | sample id slot texture =>
    exact h.of_same (Nat.le_refl _) (shape?_setSampler g id slot texture) rfl rfl rfl rfl rfl
  | makeBlit format =>
    refine ⟨h.numbered, h.layouts, h.modules, h.pipelines, fun other made hmade => ?_, h.bound⟩
    rw [Table.get?_insert] at hmade
    split_ifs at hmade with hkey
    · cases hmade
      rw [hkey]
    · exact h.blits other made hmade
  | makeModule p =>
    refine ⟨h.numbered, h.layouts, fun q module hmodule => ?_, h.pipelines, h.blits, h.bound⟩
    rw [Table.get?_insert] at hmodule
    split_ifs at hmodule with hkey
    · cases hmodule
      exact moduleSource_congr hkey.symm
    · exact h.modules q module hmodule
  | makeLayout group count =>
    refine ⟨h.numbered, fun other number layout hlayout => ?_, h.modules, h.pipelines, h.blits,
      h.bound⟩
    rw [Table.get?_insert] at hlayout
    split_ifs at hlayout with hkey
    · obtain ⟨rfl, rfl⟩ := Prod.mk.inj hkey
      exact (Option.some.inj hlayout).symm
    · exact h.layouts other number layout hlayout
  | @makePipeline vertex fragment vs fs vertexLayout fragmentLayout label format hvs hfs hvertex
      hfragment =>
    refine ⟨h.numbered, h.layouts, h.modules, fun v f other made hmade => ?_, h.blits, h.bound⟩
    rw [Table.get?_insert] at hmade
    split_ifs at hmade with hkey
    · obtain ⟨rfl, rfl, rfl⟩ := Prod.mk.inj hkey |>.imp id Prod.mk.inj
      cases hmade
      refine ⟨vs.shape, fs.shape, congrArg _ hvs, congrArg _ hfs, ?_, ⟨rfl, rfl⟩, ⟨rfl, rfl⟩, rfl,
        rfl⟩
      rw [h.layouts _ _ _ hvertex, h.layouts _ _ _ hfragment]
      rfl
    · exact h.pipelines v f other made hmade
  | load p => exact h.load p _
  | @bind stage id p hp hstage =>
    refine ⟨h.numbered, h.layouts, h.modules, h.pipelines, h.blits, fun other q hq => ?_⟩
    rw [Table.get?_insert] at hq
    split_ifs at hq with hother
    · cases hq
      exact ⟨p.shape, congrArg _ hp, hstage.trans hother.symm⟩
    · exact h.bound other q hq
  | unbind stage =>
    refine ⟨h.numbered, h.layouts, h.modules, h.pipelines, h.blits, fun other q hq => ?_⟩
    refine h.bound other q ?_
    simp only [GpuDevice.unbind, Table.get?_erase] at hq
    split_ifs at hq
    exact hq

/-! ## Formats -/

/-- What no move changes: how images are decoded, and the formats of the window and of the
surfaces that passes draw into. -/
structure SameFormats (g g' : GpuDevice) : Prop where
  decode : g'.context.decode = g.context.decode
  window : g'.context.window.map Window.format = g.context.window.map Window.format
  backbuffer : g'.backbuffer.format = g.backbuffer.format
  scratch : g.scratch.format = g.backbuffer.format → g'.scratch.format = g.backbuffer.format

theorem SameFormats.refl (g : GpuDevice) : g.SameFormats g := ⟨rfl, rfl, rfl, id⟩

theorem SameFormats.trans {g₁ g₂ g₃ : GpuDevice} (h₁ : g₁.SameFormats g₂)
    (h₂ : g₂.SameFormats g₃) : g₁.SameFormats g₃ where
  decode := h₂.decode.trans h₁.decode
  window := h₂.window.trans h₁.window
  backbuffer := h₂.backbuffer.trans h₁.backbuffer
  scratch h := by
    rw [← h₁.backbuffer]
    exact h₂.scratch ((h₁.scratch h).trans h₁.backbuffer.symm)

theorem Backstage.sameFormats (h : g.Backstage g') : g.SameFormats g' where
  decode := by rw [h.context]
  window := by rw [h.context]
  backbuffer := by rw [h.backbuffer]
  scratch hsame := by rw [h.scratch, hsame]

theorem Move.sameFormats (h : g.Move kind g') : g.SameFormats g' := by
  cases h with
  | upload id => exact (backstage_upload g id).sameFormats
  | resize hbackbuffer hscratch => exact ⟨rfl, rfl, hbackbuffer, fun _ => hscratch⟩
  | configure hwindow => exact ⟨rfl, by rw [hwindow]; rfl, rfl, id⟩
  | ask | makeModule | makeLayout | makePipeline | makeBlit | keep | load | bind | unbind | write
  | sample | aim | draw | copy | present | lose => exact ⟨rfl, rfl, rfl, id⟩

theorem MovesBy.sameFormats (h : g.MovesBy kinds g') : g.SameFormats g' :=
  h.preserve (P := fun g' => g.SameFormats g')
    (fun _ _ _ _ hmove hsame => hsame.trans hmove.sameFormats) (.refl g)

/-! ## Devices that were used through their calls -/

/-- A device that calls lead to, and the programs loaded on the way with their numbers. -/
inductive Reached : GpuDevice → List (ProgramId × Program) → Prop
  | opened (context : GpuContext) (width height : Nat) :
    Reached (ofSize context width height) []
  | call {g : GpuDevice} {loads : List (ProgramId × Program)} (c : DeviceCall GpuDevice) :
    Reached g loads → Reached (c.perform g) loads
  | act {g : GpuDevice} {loads : List (ProgramId × Program)} (a : GpuAct) :
    Reached g loads → Reached (a.perform g) loads
  | load {g g' : GpuDevice} {loads : List (ProgramId × Program)} {p : Program} {id : ProgramId} :
    Reached g loads → g.loadProgram p = (.ok id, g') → Reached g' ((id, p) :: loads)

/-- The program with a number is the one that was loaded under it. -/
def Stands (g : GpuDevice) (id : ProgramId) (p : Program) : Prop :=
  ∃ s, g.shape? id = some s ∧ s.IsOf p

theorem MovesBy.consistent (hmoves : g.MovesBy kinds g') (h : g.Consistent) :
    g'.Consistent ∧ ∀ id p, g.Stands id p → g'.Stands id p := by
  refine hmoves.preserve (P := fun g' => g'.Consistent ∧ ∀ id p, g.Stands id p → g'.Stands id p)
    (fun _ g₁ g₂ _ hmove h₁ => ⟨hmove.consistent h₁.1, fun id p hid => ?_⟩) ⟨h, fun _ _ => id⟩
  obtain ⟨s, hs, hshape⟩ := h₁.2 id p hid
  exact ⟨s, (hmove.shapes.2 id (h₁.1.numbered id s hs)).trans hs, hshape⟩

/-- A device that was used through its calls is in order, and its programs are those that
were loaded. -/
theorem Reached.consistent {loads : List (ProgramId × Program)} (h : g.Reached loads) :
    g.Consistent ∧ ∀ x ∈ loads, g.Stands x.1 x.2 := by
  induction h with
  | opened context width height =>
    exact ⟨consistent_ofSize context width height, fun _ hx => absurd hx List.not_mem_nil⟩
  | @call g _ c _ ih =>
    obtain ⟨hconsistent, hstands⟩ := (perform_moves g c).consistent ih.1
    exact ⟨hconsistent, fun x hx => hstands _ _ (ih.2 x hx)⟩
  | @act g _ a _ ih =>
    obtain ⟨hconsistent, hstands⟩ := (a.moves g).consistent ih.1
    exact ⟨hconsistent, fun x hx => hstands _ _ (ih.2 x hx)⟩
  | @load g g' loads p id _ hload ih =>
    have hmoves := loadProgram_moves g p
    rw [hload] at hmoves
    obtain ⟨hconsistent, hstands⟩ := hmoves.consistent ih.1
    refine ⟨hconsistent, List.forall_mem_cons.mpr ⟨?_, fun x hx => hstands _ _ (ih.2 x hx)⟩⟩
    rcases loadProgram_spec g p with ⟨-, heq⟩ | ⟨g₁, module, hmoves₁, hmodule, heq⟩ <;>
      rw [hload] at heq
    · cases (Prod.mk.inj heq).1
    · obtain ⟨hid, rfl⟩ := Prod.mk.inj heq
      cases hid
      refine ⟨(LoadedProgram.fresh p module).shape, by simp [shape?], rfl, rfl, ?_, ?_⟩
      · exact (hmoves₁.consistent ih.1).1.modules p module hmodule
      · simp [LoadedProgram.shape, LoadedProgram.fresh]

/-- The pipeline for two programs joins them. -/
theorem pipelineFor_joins (h : g.Consistent) {vertex fragment : ProgramId} {format : PixelFormat}
    {pipeline : Pipeline} (hfor : g.pipelineFor vertex fragment format = (.ok pipeline, g')) :
    ∃ vs fs, g'.shape? vertex = some vs ∧ g'.shape? fragment = some fs ∧
      pipeline.Joins vs fs format := by
  have hmoves := pipelineFor_moves g vertex fragment format
  rw [hfor] at hmoves
  exact (hmoves.consistent h).1.pipelines vertex fragment format pipeline
    (pipelines_pipelineFor hfor)

/-- The layout that is found or made has as many slots as it is looked up for. -/
theorem layOut_layout (h : g.Consistent) (group count : Nat) :
    (g.layOut group count).1 = samplersLayout (groupVisibility group) count :=
  ((layOut_moves g group count).consistent h).1.layouts group count _
    (layouts_layOut g group count).1

end GpuDevice

end ShaderEffects
