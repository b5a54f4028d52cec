import ShaderEffects.Proofs.KeptPipelines
import ShaderEffects.Proofs.RegisterBytes
import ShaderEffects.Proofs.ShaderLayouts

/-!
# What a draw binds

The text of a program says at which bindings it expects its numbers and textures, and in
which bytes. The layouts of a pipeline, the bind groups of a draw and the uploads of numbers
are made without a look at the text; they follow from how many slots a program has and where
its registers are. Still each draw gives a program what its text declares.
-/
namespace ShaderEffects

open Gpu

/-! ## Kinds of bindings -/

namespace Gpu

def BindingType.kind : BindingType → ResourceKind
  | .uniform _ => .buffer
  | .texture _ => .texture
  | .sampler _ => .sampler

def BindingResource.kind : BindingResource → ResourceKind
  | .buffer _ => .buffer
  | .texture _ => .texture
  | .sampler => .sampler

/-- A binding of a layout, and what it takes. -/
def LayoutEntry.port (entry : LayoutEntry) : Nat × ResourceKind := (entry.binding, entry.type.kind)

/-- A binding of a bind group, and what is put there. -/
def BindGroupEntry.port (entry : BindGroupEntry) : Nat × ResourceKind :=
  (entry.binding, entry.resource.kind)

theorem ports_samplersLayout (visibility : Stage) (count : Nat) :
    (samplersLayout visibility count).map LayoutEntry.port = alternating count := by
  rw [samplersLayout, List.map_flatMap]
  rfl

theorem visibility_samplersLayout {visibility : Stage} {count : Nat} {entry : LayoutEntry}
    (h : entry ∈ samplersLayout visibility count) : entry.visibility = visibility := by
  obtain ⟨slot, -, hentry⟩ := List.mem_flatMap.mp h
  simp only [List.mem_cons, List.not_mem_nil, or_false] at hentry
  rcases hentry with rfl | rfl <;> rfl

theorem ports_samplerEntries (textures : List Sampled) :
    (GpuDevice.samplerEntries textures).map BindGroupEntry.port = alternating textures.length := by
  have hslots : (textures.zipIdx.map Prod.snd) = List.range textures.length := by
    rw [List.zipIdx_map_snd, List.range_eq_range']
  rw [GpuDevice.samplerEntries, List.map_flatMap, alternating, ← hslots, List.flatMap_map]
  rfl

/-- The shader of a stage. -/
def Pipeline.module (pipeline : Pipeline) : Stage → ShaderModule
  | .vertex => pipeline.vertex
  | _ => pipeline.fragment

end Gpu

namespace GpuDevice

variable {g g' : GpuDevice}

/-! ## The requests of a draw -/

/-- The last bytes that were written to the buffer of a program. -/
def contents? (g : GpuDevice) (id : ProgramId) : Option (List UInt8) :=
  (g.requests.filterMap fun
    | .writeBuffer q registers => if q = id then some (registerBytes registers) else none
    | _ => none).getLast?

theorem contents?_ask (g : GpuDevice) {request : Request} (h : request.isUpload = false)
    (id : ProgramId) : (g.ask request).contents? id = g.contents? id := by
  cases request with
  | writeBuffer => cases h
  | texture | shader | layout | pipeline | writeTexture | clear | draw | blit | configure
  | present =>
    simp [contents?, ask]

/-- An upload writes all registers of a program that is dirty, and no other program. -/
theorem contents?_upload {id : ProgramId} {p : LoadedProgram}
    (hp : g.programs.get? id = some p) (hdirty : p.dirty = true) :
    (g.upload id).contents? id = some (registerBytes p.registers.toList) := by
  simp [upload, hp, hdirty, contents?, ask]

theorem upload_other {id q : ProgramId} (hq : q ≠ id) :
    (g.upload id).programs.get? q = g.programs.get? q ∧
      (g.upload id).contents? q = g.contents? q := by
  unfold upload
  cases g.programs.get? id with
  | none => exact ⟨rfl, rfl⟩
  | some p =>
    simp only
    split_ifs
    · simp [ask, contents?, hq, Ne.symm hq]
    · exact ⟨rfl, rfl⟩

/-- The textures of a program are bound where its text declares them. -/
theorem bindSamplers_spec (h : g.Consistent) {p : Program} (hports : samplerPorts p =
      alternating p.constants.samplers.length) {loaded : LoadedProgram}
    (hloaded : loaded.shape.IsOf p) (group : Nat) :
    (g.bindSamplers group loaded).1.layout =
        samplersLayout (groupVisibility group) p.constants.samplers.length ∧
      (g.bindSamplers group loaded).1.entries.map BindGroupEntry.port = samplerPorts p ∧
      (g.bindSamplers group loaded).1.layout.map LayoutEntry.port = samplerPorts p ∧
      ∀ entry ∈ (g.bindSamplers group loaded).1.layout,
        entry.visibility = groupVisibility group := by
  have hcount : loaded.samplers.length = p.constants.samplers.length := hloaded.samplers
  have hlayout : (g.bindSamplers group loaded).1.layout =
      samplersLayout (groupVisibility group) p.constants.samplers.length := by
    rw [← hcount]
    exact layOut_layout h group loaded.samplers.length
  have hlength : ((g.layOut group loaded.samplers.length).2.sampledBy loaded).length =
      p.constants.samplers.length := (List.length_map _).trans hcount
  refine ⟨hlayout, ?_, ?_, fun entry hentry => ?_⟩
  · rw [hports, ← hlength]
    exact ports_samplerEntries _
  · rw [hlayout, ports_samplersLayout, hports]
  · rw [hlayout] at hentry
    exact visibility_samplersLayout hentry

/-- A render pass gives a program what its text declares: its own buffer at the binding of
its uniform, and a texture or a sampler at each binding where one is declared. The pipeline
has the shader of this text, and layouts that agree. -/
structure Serves (drawn : DrawPass) (id : ProgramId) (p : Program) : Prop where
  text : (drawn.pipeline.module p.stage).source = moduleSource p
  uniform : ∃ group, drawn.groups[0]? = some group ∧
    drawn.pipeline.layout[0]? = some group.layout ∧
    group.entries.filter (fun entry => entry.binding = constantsBinding p.stage) =
      [⟨constantsBinding p.stage, .buffer id⟩] ∧
    group.layout.filter (fun entry => entry.binding = constantsBinding p.stage) =
      [⟨constantsBinding p.stage, p.stage, .uniform registerFileSize⟩]
  samplers : ∃ group, drawn.groups[samplersGroup p.stage]? = some group ∧
    drawn.pipeline.layout[samplersGroup p.stage]? = some group.layout ∧
    group.entries.map BindGroupEntry.port = samplerPorts p ∧
    group.layout.map LayoutEntry.port = samplerPorts p ∧
    ∀ entry ∈ group.layout, entry.visibility = p.stage

theorem sampler2D_of_checkTable {p : Program} (h : checkTable p = .ok ()) {slot : SamplerSlot}
    (hslot : slot ∈ p.constants.samplers) : slot.type = .sampler2D := by
  have hlimit : ¬ registerLimit < p.constants.registerCount :=
    Nat.not_lt.mpr (registerCount_le_of_checkTable h)
  simp only [checkTable, if_neg hlimit] at h
  cases hfind : p.constants.samplers.find? fun slot => slot.type ≠ .sampler2D with
  | some other =>
    rw [hfind] at h
    cases h
  | none => simpa using List.find?_eq_none.mp hfind slot hslot

/-- An effect of one pass that refers to a number, a matrix and a texture. -/
def shaded : EffectDescription where
  name := "a"
  parameters :=
    [⟨"tint", "float4", [], ∅⟩, ⟨"view", "float4x4", [], ∅⟩, ⟨"scene", "sampler", [], ∅⟩]
  techniques := [⟨"t", ∅, [{
    name := "p"
    vertex := some { profile := "wgsl", source := some "view" }
    fragment := some { profile := "wgsl", source := some "view tint scene" } }]⟩]

/-- A program of this effect. -/
def shadedProgram (stage : Stage) (source : String) : Program :=
  ⟨"a/t/p:" ++ stage.name, .inline, stage, ⟨"wgsl", .wgsl, .full⟩, "main", source,
    .build source [⟨"tint", .float4⟩, ⟨"view", .matrix⟩, ⟨"scene", .sampler2D⟩]⟩

/-- A device on which the programs of this effect are loaded and bound. -/
def shadedDevice : GpuDevice :=
  let g := (ofSize .plain 4 4).loadProgram (shadedProgram .vertex "view") |>.2
  let g := g.loadProgram (shadedProgram .fragment "view tint scene") |>.2
  ((g.bind .vertex ⟨1⟩).2.bind .fragment ⟨2⟩).2

end GpuDevice

end ShaderEffects
