import Mathlib.Data.List.Induction
import ShaderEffects.Device.Gpu.Judged
import ShaderEffects.Proofs.DeviceMoves

/-!
# What a device does whose interface may refuse

Whatever the verdicts of its interface are, a device does what a graphics device does at a
time; and if nothing is refused, it is that device.
-/
namespace ShaderEffects

open Gpu

namespace JudgedDevice

/-! ## An interface that refuses nothing -/

/-- Verdicts that accept everything. -/
def Kind (verdicts : List (Option String)) : Prop := ∀ verdict ∈ verdicts, verdict = none

section Kind

variable {verdicts : List (Option String)} (h : Kind verdicts)

include h

theorem judge_kind {α : Type} (g : GpuDevice) (made : α) :
    ∃ rest, Kind rest ∧ (⟨g, verdicts⟩ : JudgedDevice).judge made = (.ok made, ⟨g, rest⟩) := by
  cases verdicts with
  | nil => exact ⟨[], h, rfl⟩
  | cons verdict rest =>
    obtain rfl := h verdict List.mem_cons_self
    exact ⟨rest, fun other hother => h other (List.mem_cons_of_mem _ hother), rfl⟩

theorem moduleFor_kind (g : GpuDevice) (p : Program) :
    ∃ rest, Kind rest ∧ (⟨g, verdicts⟩ : JudgedDevice).moduleFor p =
      (.ok (g.moduleFor p).1, ⟨(g.moduleFor p).2, rest⟩) := by
  unfold moduleFor GpuDevice.moduleFor
  cases g.modules.get? p.key with
  | some module => exact ⟨verdicts, h, rfl⟩
  | none =>
    obtain ⟨rest, hrest, hjudge⟩ := judge_kind h
      (g.ask (.shader ⟨p.label, moduleSource p⟩)) (⟨p.label, moduleSource p⟩ : ShaderModule)
    exact ⟨rest, hrest, by simp only [hjudge]; rfl⟩

theorem buildPipeline_kind (g : GpuDevice) (label : String)
    (vertex fragment : GpuDevice.PipelineStage) (format : PixelFormat) :
    ∃ rest, Kind rest ∧ (⟨g, verdicts⟩ : JudgedDevice).buildPipeline label vertex fragment format =
      (.ok (g.buildPipeline label vertex fragment format).1,
        ⟨(g.buildPipeline label vertex fragment format).2, rest⟩) :=
  judge_kind h _ _

theorem validate_kind (g : GpuDevice) (programs : List Program) :
    ∃ rest, Kind rest ∧ (⟨g, verdicts⟩ : JudgedDevice).validate programs =
      ((g.validate programs).1, ⟨(g.validate programs).2, rest⟩) := by
  unfold validate GpuDevice.validate
  cases g.alive with
  | error e => exact ⟨verdicts, h, rfl⟩
  | ok _ =>
    cases GpuDevice.checkPair programs with
    | error fault => exact ⟨verdicts, h, rfl⟩
    | ok pair =>
      obtain ⟨vertex, fragment⟩ := pair
      obtain ⟨rest₁, h₁, hvertex⟩ := moduleFor_kind h g vertex
      obtain ⟨rest₂, h₂, hfragment⟩ := moduleFor_kind h₁ (g.moduleFor vertex).2 fragment
      obtain ⟨rest, hrest, hpipeline⟩ :=
        buildPipeline_kind h₂ ((g.moduleFor vertex).2.moduleFor fragment).2
          (fragment.label ++ " (validation)") (.ofProgram vertex (g.moduleFor vertex).1)
          (.ofProgram fragment ((g.moduleFor vertex).2.moduleFor fragment).1)
          .standard
      exact ⟨rest, hrest, by simp only [hvertex, hfragment, hpipeline]⟩

theorem createTexture_kind (g : GpuDevice) (name : String) (desc : TextureDesc) :
    ∃ rest, Kind rest ∧ (⟨g, verdicts⟩ : JudgedDevice).createTexture name desc =
      ((g.createTexture name desc).1, ⟨(g.createTexture name desc).2, rest⟩) := by
  unfold createTexture GpuDevice.createTexture
  cases g.alive with
  | error e => exact ⟨verdicts, h, rfl⟩
  | ok _ =>
    cases GpuDevice.creationFault? desc with
    | some fault => exact ⟨verdicts, h, rfl⟩
    | none =>
      let image := Image.ofSize desc.width desc.height desc.format
      obtain ⟨rest, hrest, hjudge⟩ := judge_kind h (g.ask (image.request name)) image
      exact ⟨rest, hrest, by simp only [image, hjudge]⟩

theorem loadProgram_kind (g : GpuDevice) (p : Program) :
    ∃ rest, Kind rest ∧ (⟨g, verdicts⟩ : JudgedDevice).loadProgram p =
      ((g.loadProgram p).1, ⟨(g.loadProgram p).2, rest⟩) := by
  unfold loadProgram GpuDevice.loadProgram
  cases g.alive with
  | error e => exact ⟨verdicts, h, rfl⟩
  | ok _ =>
    obtain ⟨rest, hrest, hmodule⟩ := moduleFor_kind h g p
    exact ⟨rest, hrest, by simp only [hmodule]⟩

theorem pipelineFor_kind (g : GpuDevice) (vertex fragment : ProgramId)
    (format : PixelFormat) :
    ∃ rest, Kind rest ∧ (⟨g, verdicts⟩ : JudgedDevice).pipelineFor vertex fragment format =
      ((g.pipelineFor vertex fragment format).1,
        ⟨(g.pipelineFor vertex fragment format).2, rest⟩) := by
  unfold pipelineFor GpuDevice.pipelineFor
  cases g.pipelines.get? (vertex, fragment, format) with
  | some pipeline => exact ⟨verdicts, h, rfl⟩
  | none =>
    cases g.programs.get? vertex with
    | none => exact ⟨verdicts, h, by cases g.programs.get? fragment <;> rfl⟩
    | some vs =>
      cases g.programs.get? fragment with
      | none => exact ⟨verdicts, h, rfl⟩
      | some fs =>
        obtain ⟨rest, hrest, hpipeline⟩ := buildPipeline_kind h g (fs.label ++ " pipeline")
          (.ofLoaded vs) (.ofLoaded fs) format
        exact ⟨rest, hrest, by simp only [hpipeline]⟩

theorem bindSamplers_kind (g : GpuDevice) (group : Nat) (p : LoadedProgram) :
    ∃ rest, Kind rest ∧ (⟨g, verdicts⟩ : JudgedDevice).bindSamplers group p =
      (.ok (g.bindSamplers group p).1, ⟨(g.bindSamplers group p).2, rest⟩) :=
  judge_kind h _ _

theorem drawWith_kind (g : GpuDevice) (vertex fragment : ProgramId) (geometry : Geometry) :
    ∃ rest, Kind rest ∧ (⟨g, verdicts⟩ : JudgedDevice).drawWith vertex fragment geometry =
      ((g.drawWith vertex fragment geometry).1,
        ⟨(g.drawWith vertex fragment geometry).2, rest⟩) := by
  unfold drawWith GpuDevice.drawWith
  cases g.image g.renderTarget with
  | error e => exact ⟨verdicts, h, rfl⟩
  | ok target =>
    obtain ⟨rest₁, h₁, hpipeline⟩ := pipelineFor_kind h g vertex fragment target.format
    simp only [hpipeline]
    rcases g.pipelineFor vertex fragment target.format with ⟨_ | pipeline, g₁⟩
    · exact ⟨rest₁, h₁, rfl⟩
    simp only
    cases ((g₁.upload vertex).upload fragment).programs.get? vertex with
    | none => exact ⟨rest₁, h₁, rfl⟩
    | some vs =>
      cases ((g₁.upload vertex).upload fragment).programs.get? fragment with
      | none => exact ⟨rest₁, h₁, rfl⟩
      | some fs =>
        obtain ⟨rest₂, h₂, hvertex⟩ :=
          bindSamplers_kind h₁ ((g₁.upload vertex).upload fragment) (samplersGroup .vertex) vs
        obtain ⟨rest, hrest, hfragment⟩ := bindSamplers_kind h₂
          (((g₁.upload vertex).upload fragment).bindSamplers (samplersGroup .vertex) vs).2
          (samplersGroup .fragment) fs
        exact ⟨rest, hrest, by simp only [hvertex, hfragment]⟩

theorem draw_kind (g : GpuDevice) (geometry : Geometry) :
    ∃ rest, Kind rest ∧ (⟨g, verdicts⟩ : JudgedDevice).draw geometry =
      ((g.draw geometry).1, ⟨(g.draw geometry).2, rest⟩) := by
  unfold draw GpuDevice.draw
  cases g.alive with
  | error e => exact ⟨verdicts, h, rfl⟩
  | ok _ =>
    cases g.bound.get? .vertex with
    | none => exact ⟨verdicts, h, rfl⟩
    | some vertex =>
      cases g.bound.get? .fragment with
      | none => exact ⟨verdicts, h, rfl⟩
      | some fragment =>
        simp only
        split_ifs
        · exact ⟨verdicts, h, rfl⟩
        · exact drawWith_kind h g vertex fragment geometry

end Kind

end JudgedDevice

/-- The same call of a device whose interface may refuse. -/
def DeviceCall.judged : DeviceCall GpuDevice → DeviceCall JudgedDevice
  | .validate programs => .validate programs
  | .createTexture name desc => .createTexture name desc
  | .loadTexture files name path => .loadTexture files name path
  | .loadProgram p => .loadProgram p
  | .bind stage id => .bind stage id
  | .unbind stage => .unbind stage
  | .setConstants id register values => .setConstants id register values
  | .setSampler id slot texture => .setSampler id slot texture
  | .setTarget surface => .setTarget surface
  | .restore state => .restore state
  | .enterEffectState => .enterEffectState
  | .draw geometry => .draw geometry
  | .copy source destination => .copy source destination

namespace JudgedDevice

/-- If nothing is refused, the device is the one that hears no verdicts. -/
theorem perform_kind {verdicts : List (Option String)} (h : Kind verdicts) (g : GpuDevice)
    (c : DeviceCall GpuDevice) :
    ∃ rest, Kind rest ∧ c.judged.perform ⟨g, verdicts⟩ = ⟨c.perform g, rest⟩ := by
  cases c with
  | validate programs =>
    obtain ⟨rest, hrest, heq⟩ := validate_kind h g programs
    exact ⟨rest, hrest, congrArg Prod.snd heq⟩
  | createTexture name desc =>
    obtain ⟨rest, hrest, heq⟩ := createTexture_kind h g name desc
    exact ⟨rest, hrest, congrArg Prod.snd heq⟩
  | loadProgram p =>
    obtain ⟨rest, hrest, heq⟩ := loadProgram_kind h g p
    exact ⟨rest, hrest, congrArg Prod.snd heq⟩
  | draw geometry =>
    obtain ⟨rest, hrest, heq⟩ := draw_kind h g geometry
    exact ⟨rest, hrest, congrArg Prod.snd heq⟩
  | loadTexture | bind | unbind | setConstants | setSampler | setTarget | restore
  | enterEffectState | copy => exact ⟨verdicts, h, rfl⟩

/-! ## What is done at a time -/

variable {w w' : JudgedDevice}

/-- A verdict changes nothing: what was made is accepted, or is refused in the words of the
interface. -/
theorem judge_cases {α : Type} (w : JudgedDevice) (made : α) :
    ∃ rest, (∃ message, some message ∈ w.verdicts ∧ w.judge made =
        (.error (.invalidCall (.refused message)), { w with verdicts := rest })) ∨
      w.judge made = (.ok made, { w with verdicts := rest }) := by
  rcases w with ⟨g, _ | ⟨_ | message, rest⟩⟩
  · exact ⟨[], Or.inr rfl⟩
  · exact ⟨rest, Or.inr rfl⟩
  · exact ⟨rest, Or.inl ⟨_, List.mem_cons_self, rfl⟩⟩

theorem moduleFor_moves (w : JudgedDevice) (p : Program) :
    w.device.Prepares (w.moduleFor p).2.device ∧
      ∀ module w', w.moduleFor p = (.ok module, w') →
        w'.device.modules.get? p.key = some module := by
  unfold moduleFor
  cases hmodule : w.device.modules.get? p.key with
  | some module =>
    refine ⟨.refl _, fun module' w' h => ?_⟩
    simp only [Prod.mk.injEq, Except.ok.injEq] at h
    obtain ⟨rfl, rfl⟩ := h
    exact hmodule
  | none =>
    have hasked : w.device.Prepares (w.device.ask (.shader ⟨p.label, moduleSource p⟩)) :=
      (GpuDevice.Move.ask rfl).prepares
    obtain ⟨rest, ⟨message, -, heq⟩ | heq⟩ := judge_cases ({ w with
      device := w.device.ask (.shader ⟨p.label, moduleSource p⟩) } : JudgedDevice)
      (⟨p.label, moduleSource p⟩ : ShaderModule)
    · simp only [heq]
      exact ⟨hasked, fun module' w' h => by simp at h⟩
    · simp only [heq]
      refine ⟨hasked.trans (GpuDevice.Move.makeModule p).prepares, fun module' w' h => ?_⟩
      simp only [Prod.mk.injEq, Except.ok.injEq] at h
      obtain ⟨rfl, rfl⟩ := h
      simp

theorem moduleFor_refused {p : Program} {e : DeviceError} (h : w.moduleFor p = (.error e, w')) :
    ∃ message, some message ∈ w.verdicts ∧ e = .invalidCall (.refused message) := by
  unfold moduleFor at h
  cases hmodule : w.device.modules.get? p.key with
  | some module => simp [hmodule] at h
  | none =>
    obtain ⟨rest, ⟨message, hsaid, heq⟩ | heq⟩ := judge_cases ({ w with
      device := w.device.ask (.shader ⟨p.label, moduleSource p⟩) } : JudgedDevice)
      (⟨p.label, moduleSource p⟩ : ShaderModule) <;>
      simp only [hmodule, heq, Prod.mk.injEq, Except.error.injEq, reduceCtorEq, false_and] at h
    exact ⟨message, hsaid, h.1.symm⟩

/-- A pipeline is built as if nothing was refused. -/
theorem buildPipeline_spec (w : JudgedDevice) (label : String)
    (vertex fragment : GpuDevice.PipelineStage) (format : PixelFormat) :
    (w.buildPipeline label vertex fragment format).2.device =
        (w.device.buildPipeline label vertex fragment format).2 ∧
      ∀ pipeline w', w.buildPipeline label vertex fragment format = (.ok pipeline, w') →
        (w.device.buildPipeline label vertex fragment format).1 = pipeline := by
  unfold buildPipeline
  obtain ⟨rest, ⟨message, -, heq⟩ | heq⟩ := judge_cases ({ w with
    device := (w.device.buildPipeline label vertex fragment format).2 } : JudgedDevice)
    (w.device.buildPipeline label vertex fragment format).1
  · simp only [heq]
    exact ⟨trivial, fun pipeline w' h => by simp at h⟩
  · simp only [heq]
    refine ⟨trivial, fun pipeline w' h => ?_⟩
    simp only [Prod.mk.injEq, Except.ok.injEq] at h
    exact h.1

theorem validate_moves (w : JudgedDevice) (programs : List Program) :
    w.device.Prepares (w.validate programs).2.device := by
  unfold validate
  cases w.device.alive with
  | error e => exact .refl _
  | ok _ =>
    cases GpuDevice.checkPair programs with
    | error fault => exact .refl _
    | ok pair =>
      obtain ⟨vertex, fragment⟩ := pair
      have hvertex := (moduleFor_moves w vertex).1
      simp only
      rcases hv : w.moduleFor vertex with ⟨_ | vertexModule, w₁⟩ <;> rw [hv] at hvertex
      · exact hvertex
      have hfragment := hvertex.trans (moduleFor_moves w₁ fragment).1
      simp only
      rcases hf : w₁.moduleFor fragment with ⟨_ | fragmentModule, w₂⟩ <;> rw [hf] at hfragment
      · exact hfragment
      have hbuild := hfragment.trans (GpuDevice.buildPipeline_moves w₂.device
        (fragment.label ++ " (validation)") (.ofProgram vertex vertexModule)
        (.ofProgram fragment fragmentModule) .standard)
      rw [← (buildPipeline_spec w₂ _ _ _ _).1] at hbuild
      simp only
      rcases hb : w₂.buildPipeline (fragment.label ++ " (validation)")
        (.ofProgram vertex vertexModule) (.ofProgram fragment fragmentModule)
        .standard with ⟨_ | pipeline, w₃⟩ <;> rw [hb] at hbuild <;> exact hbuild

/-- Only a device that is not lost accepts programs, and only two that fit each other. -/
theorem paired_of_validate {programs : List Program} (h : (w.validate programs).1 = .ok ()) :
    w.device.lost = false ∧ ∃ pair, GpuDevice.checkPair programs = .ok pair := by
  unfold validate GpuDevice.alive at h
  cases hlost : w.device.lost with
  | true => simp [hlost] at h
  | false =>
    cases hpair : GpuDevice.checkPair programs with
    | error fault => simp [hlost, hpair] at h
    | ok pair => exact ⟨rfl, pair, rfl⟩

/-- A texture that can be made is asked for, and is numbered unless it is refused then. -/
theorem createTexture_cases (w : JudgedDevice) (name : String) (desc : TextureDesc) :
    ((w.device.lost = true ∨ GpuDevice.creationFault? desc ≠ none) ∧
      ∃ e, w.createTexture name desc = (.error e, w)) ∨
    (w.device.lost = false ∧ GpuDevice.creationFault? desc = none) ∧
      let image := Image.ofSize desc.width desc.height desc.format
      ∃ rest, (∃ e, w.createTexture name desc =
          (.error e, ⟨w.device.ask (image.request name), rest⟩)) ∨
        w.createTexture name desc = (.ok ⟨w.device.nextId⟩,
          ⟨((w.device.ask (image.request name)).keep image).2, rest⟩) := by
  unfold createTexture GpuDevice.alive
  cases w.device.lost with
  | true => exact Or.inl ⟨Or.inl rfl, _, rfl⟩
  | false =>
    cases GpuDevice.creationFault? desc with
    | some fault => exact Or.inl ⟨Or.inr (Option.some_ne_none fault), _, rfl⟩
    | none =>
      obtain ⟨rest, hjudged⟩ := judge_cases ({ w with
        device := w.device.ask ((Image.ofSize desc.width desc.height desc.format).request name) } :
        JudgedDevice) (Image.ofSize desc.width desc.height desc.format)
      refine Or.inr ⟨⟨rfl, rfl⟩, rest, ?_⟩
      obtain ⟨message, -, heq⟩ | heq := hjudged <;> simp only [Bool.false_eq_true, if_false, heq]
      · exact Or.inl ⟨_, rfl⟩
      · exact Or.inr rfl

theorem createTexture_moves (w : JudgedDevice) (name : String) (desc : TextureDesc) :
    w.device.MovesBy (fun k => k = .backstage ∨ k = .keep)
      (w.createTexture name desc).2.device := by
  obtain ⟨-, e, heq⟩ | ⟨-, rest, ⟨e, heq⟩ | heq⟩ := w.createTexture_cases name desc <;> rw [heq]
  · exact .refl _
  · exact (GpuDevice.Move.ask rfl).moves (Or.inr rfl)
  · exact ((GpuDevice.Move.ask rfl).moves (Or.inr rfl)).trans
      ((GpuDevice.Move.keep _).moves (Or.inr rfl))

/-- A program is loaded with the shader that is kept for it, unless the device is lost or the
shader is refused. -/
theorem loadProgram_spec (w : JudgedDevice) (p : Program) :
    (∃ e w', w.loadProgram p = (.error e, w') ∧ w.device.Prepares w'.device ∧
      (e = .lost ∧ w.device.lost = true ∨
        ∃ message, some message ∈ w.verdicts ∧ e = .invalidCall (.refused message))) ∨
      ∃ (w₁ : JudgedDevice) (module : ShaderModule), w.device.Prepares w₁.device ∧
        w₁.device.modules.get? p.key = some module ∧
        w.loadProgram p = (.ok ⟨w₁.device.nextId⟩, { w₁ with
          device := { w₁.device with
            nextId := w₁.device.nextId + 1
            programs := w₁.device.programs.insert ⟨w₁.device.nextId⟩ (.fresh p module) } }) := by
  unfold loadProgram
  cases halive : w.device.alive with
  | error e => exact Or.inl ⟨e, w, rfl, .refl _, Or.inl (GpuDevice.lost_of_alive halive)⟩
  | ok _ =>
    obtain ⟨hmoves, hkept⟩ := moduleFor_moves w p
    simp only
    rcases hmodule : w.moduleFor p with ⟨e | module, w₁⟩ <;> rw [hmodule] at hmoves
    · exact Or.inl ⟨e, w₁, rfl, hmoves, Or.inr (moduleFor_refused hmodule)⟩
    · exact Or.inr ⟨w₁, module, hmoves, hkept module w₁ hmodule, rfl⟩

theorem loadProgram_moves (w : JudgedDevice) (p : Program) :
    w.device.MovesBy (fun k => k = .backstage ∨ k = .load) (w.loadProgram p).2.device := by
  rcases loadProgram_spec w p with
    ⟨e, w', heq, hmoves, -⟩ | ⟨w₁, module, hmoves, hmodule, heq⟩ <;>
    rw [heq]
  · exact hmoves.within (Or.inl rfl)
  · exact (hmoves.within (Or.inl rfl)).trans ((GpuDevice.Move.load p hmodule).moves (Or.inr rfl))

/-- A pipeline that is not refused is found or made as if nothing was. -/
theorem pipelineFor_spec (w : JudgedDevice) (vertex fragment : ProgramId)
    (format : PixelFormat) :
    w.device.Prepares (w.pipelineFor vertex fragment format).2.device ∧
      ∀ pipeline w', w.pipelineFor vertex fragment format = (.ok pipeline, w') →
        w.device.pipelineFor vertex fragment format = (.ok pipeline, w'.device) := by
  unfold pipelineFor GpuDevice.pipelineFor
  cases w.device.pipelines.get? (vertex, fragment, format) with
  | some pipeline =>
    refine ⟨.refl _, fun pipeline' w' h => ?_⟩
    simp only [Prod.mk.injEq, Except.ok.injEq] at h
    obtain ⟨rfl, rfl⟩ := h
    rfl
  | none =>
    cases hvs : w.device.programs.get? vertex with
    | none => exact ⟨.refl _, fun pipeline w' h => by simp at h⟩
    | some vs =>
      cases hfs : w.device.programs.get? fragment with
      | none => exact ⟨.refl _, fun pipeline w' h => by simp at h⟩
      | some fs =>
        obtain ⟨hdevice, hbuilt⟩ := buildPipeline_spec w (fs.label ++ " pipeline") (.ofLoaded vs)
          (.ofLoaded fs) format
        have hmoves := GpuDevice.buildPipeline_moves w.device (fs.label ++ " pipeline")
          (.ofLoaded vs) (.ofLoaded fs) format
        simp only
        rcases hb : w.buildPipeline (fs.label ++ " pipeline") (.ofLoaded vs) (.ofLoaded fs) format
          with ⟨e | pipeline, w₁⟩ <;> rw [hb] at hdevice
        · rw [← hdevice] at hmoves
          exact ⟨hmoves, fun pipeline w' h => by simp at h⟩
        · have hpair : w.device.buildPipeline (fs.label ++ " pipeline") (.ofLoaded vs)
              (.ofLoaded fs) format = (pipeline, w₁.device) :=
            Prod.ext (hbuilt pipeline w₁ hb) hdevice.symm
          refine ⟨GpuDevice.keepPipeline_moves hvs hfs _ format hpair, fun pipeline' w' h => ?_⟩
          simp only [Prod.mk.injEq, Except.ok.injEq] at h
          obtain ⟨rfl, rfl⟩ := h
          simp only [hpair]

theorem bindSamplers_spec (w : JudgedDevice) (group : Nat) (p : LoadedProgram) :
    (w.bindSamplers group p).2.device = (w.device.bindSamplers group p).2 ∧
      ∀ samplers w', w.bindSamplers group p = (.ok samplers, w') →
        w.device.bindSamplers group p = (samplers, w'.device) := by
  unfold bindSamplers
  obtain ⟨rest, ⟨message, -, heq⟩ | heq⟩ := judge_cases ({ w with
    device := (w.device.bindSamplers group p).2 } : JudgedDevice)
    (w.device.bindSamplers group p).1
  · simp only [heq]
    exact ⟨trivial, fun samplers w' h => by simp at h⟩
  · simp only [heq]
    refine ⟨trivial, fun samplers w' h => ?_⟩
    simp only [Prod.mk.injEq, Except.ok.injEq] at h
    obtain ⟨rfl, rfl⟩ := h
    rfl

/-- A draw is recorded at the end of all that goes on behind the scenes, or is refused. -/
theorem drawWith_spec {vertex fragment : ProgramId}
    (hvertex : w.device.bound.get? .vertex = some vertex)
    (hfragment : w.device.bound.get? .fragment = some fragment) (geometry : Geometry) :
    (∃ e w', w.drawWith vertex fragment geometry = (.error e, w') ∧
      w.device.Prepares w'.device) ∨
    ∃ (w₁ : JudgedDevice) (vs fs : LoadedProgram) (target : Image) (pass : DrawPass),
      w.device.Prepares w₁.device ∧
        w₁.device.Records vertex fragment vs fs target pass ∧
        pass.vertexBytes = geometry.vertexBytes ∧ pass.indexBytes = geometry.indexBytes? ∧
        pass.call = GpuDevice.drawCall geometry ∧
        w.drawWith vertex fragment geometry =
          (.ok (), { w₁ with device := w₁.device.ask (.draw pass) }) := by
  unfold drawWith
  cases himage : w.device.image w.device.renderTarget with
  | error e => exact Or.inl ⟨e, w, rfl, .refl _⟩
  | ok target =>
    obtain ⟨hpipeline, hfound⟩ := pipelineFor_spec w vertex fragment target.format
    simp only
    rcases hfor : w.pipelineFor vertex fragment target.format with ⟨e | pipeline, w₁⟩ <;>
      rw [hfor] at hpipeline
    · exact Or.inl ⟨e, w₁, rfl, hpipeline⟩
    have huploaded : w.device.Prepares ((w₁.device.upload vertex).upload fragment) :=
      hpipeline.trans ((GpuDevice.Move.upload vertex).prepares.trans
        (GpuDevice.Move.upload fragment).prepares)
    simp only
    cases hvs : ((w₁.device.upload vertex).upload fragment).programs.get? vertex with
    | none => exact Or.inl ⟨_, _, rfl, huploaded⟩
    | some vs =>
      cases hfs : ((w₁.device.upload vertex).upload fragment).programs.get? fragment with
      | none => exact Or.inl ⟨_, _, rfl, huploaded⟩
      | some fs =>
        obtain ⟨hdevice₂, hbound₂⟩ := bindSamplers_spec ({ w₁ with
          device := (w₁.device.upload vertex).upload fragment } : JudgedDevice)
          (samplersGroup .vertex) vs
        have hmoves₂ := huploaded.trans (GpuDevice.bindSamplers_moves _ (samplersGroup .vertex) vs)
        simp only
        rcases hvertexSamplers : ({ w₁ with
          device := (w₁.device.upload vertex).upload fragment } : JudgedDevice).bindSamplers
          (samplersGroup .vertex) vs with ⟨e | vertexSamplers, w₂⟩ <;>
          rw [hvertexSamplers] at hdevice₂ <;> simp only at hdevice₂ <;> rw [← hdevice₂] at hmoves₂
        · exact Or.inl ⟨e, w₂, rfl, hmoves₂⟩
        obtain ⟨hdevice₃, hbound₃⟩ := bindSamplers_spec w₂ (samplersGroup .fragment) fs
        have hmoves₃ := hmoves₂.trans (GpuDevice.bindSamplers_moves _ (samplersGroup .fragment) fs)
        simp only
        rcases hfragmentSamplers : w₂.bindSamplers (samplersGroup .fragment) fs with
          ⟨e | fragmentSamplers, w₃⟩ <;> rw [hfragmentSamplers] at hdevice₃ <;>
          simp only at hdevice₃ <;> rw [← hdevice₃] at hmoves₃
        · exact Or.inl ⟨e, w₃, rfl, hmoves₃⟩
        obtain ⟨hmoves, hrecords⟩ := GpuDevice.records_of_pipelineFor hvertex hfragment himage
          (hfound _ _ hfor) hvs hfs (hbound₂ _ _ hvertexSamplers) (hbound₃ _ _ hfragmentSamplers)
          geometry.vertexBytes geometry.indexBytes? (GpuDevice.drawCall geometry)
        exact Or.inr ⟨w₃, vs, fs, target, _, hmoves, hrecords, rfl, rfl, rfl, rfl⟩

theorem drawWith_moves {vertex fragment : ProgramId}
    (hvertex : w.device.bound.get? .vertex = some vertex)
    (hfragment : w.device.bound.get? .fragment = some fragment) (geometry : Geometry) :
    w.device.MovesBy (fun k => k = .backstage ∨ k = .draw)
      (w.drawWith vertex fragment geometry).2.device := by
  rcases drawWith_spec hvertex hfragment geometry with
    ⟨e, w', heq, hmoves⟩ | ⟨w₁, vs, fs, target, pass, hmoves, hrecords, -, -, -, heq⟩ <;> rw [heq]
  · exact hmoves.within (Or.inl rfl)
  · exact (hmoves.within (Or.inl rfl)).trans ((GpuDevice.Move.draw hrecords).moves (Or.inr rfl))

/-- A draw fails, is left out for want of vertices, or is made with the programs that are
bound. -/
theorem draw_cases (w : JudgedDevice) (geometry : Geometry) :
    (∃ e, w.draw geometry = (.error e, w)) ∨
    (geometry.vertices = [] ∧ w.draw geometry = (.ok (), w)) ∨
    ∃ vertex fragment, w.device.bound.get? .vertex = some vertex ∧
      w.device.bound.get? .fragment = some fragment ∧ geometry.vertices ≠ [] ∧
      w.draw geometry = w.drawWith vertex fragment geometry := by
  unfold draw
  cases w.device.alive with
  | error e => exact Or.inl ⟨e, rfl⟩
  | ok _ =>
    cases hvertex : w.device.bound.get? .vertex with
    | none => exact Or.inl ⟨_, rfl⟩
    | some vertex =>
      cases hfragment : w.device.bound.get? .fragment with
      | none => exact Or.inl ⟨_, rfl⟩
      | some fragment =>
        cases hvertices : geometry.vertices with
        | nil => exact Or.inr (Or.inl ⟨rfl, rfl⟩)
        | cons => exact Or.inr (Or.inr ⟨vertex, fragment, rfl, rfl, nofun, rfl⟩)

theorem draw_moves (w : JudgedDevice) (geometry : Geometry) :
    w.device.MovesBy (fun k => k = .backstage ∨ k = .draw) (w.draw geometry).2.device := by
  rcases draw_cases w geometry with ⟨e, heq⟩ | ⟨-, heq⟩ |
    ⟨vertex, fragment, hvertex, hfragment, -, heq⟩ <;> rw [heq]
  · exact .refl _
  · exact .refl _
  · exact drawWith_moves hvertex hfragment geometry

/-- Every call is a run of moves, whatever the verdicts are. -/
theorem perform_moves (w : JudgedDevice) (c : DeviceCall JudgedDevice) :
    w.device.MovesBy c.Takes (c.perform w).device := by
  cases c with
  | validate programs => exact (validate_moves w programs).within (Or.inl rfl)
  | createTexture name desc => exact createTexture_moves w name desc
  | loadTexture files name path => exact GpuDevice.loadTexture_moves w.device files name path
  | loadProgram p => exact loadProgram_moves w p
  | bind stage id => exact GpuDevice.bind_moves w.device stage id
  | unbind stage => exact (GpuDevice.Move.unbind stage).moves (Or.inr rfl)
  | setConstants id register values =>
    exact (GpuDevice.Move.write id register values).moves (Or.inr rfl)
  | setSampler id slot texture => exact (GpuDevice.Move.sample id slot texture).moves (Or.inr rfl)
  | setTarget surface => exact GpuDevice.setTarget_moves w.device surface
  | restore | enterEffectState => exact .refl _
  | draw geometry => exact draw_moves w geometry
  | copy source destination => exact GpuDevice.copy_moves w.device source destination

end JudgedDevice

/-! ## Runs -/

/-- Something that is done to a device whose interface may refuse. -/
inductive GpuOp where
  | call (c : DeviceCall JudgedDevice)
  | act (a : GpuAct)

namespace GpuOp

/-- The device afterwards. -/
def perform (w : JudgedDevice) : GpuOp → JudgedDevice
  | .call c => c.perform w
  | .act a => { w with device := a.perform w.device }

/-- What it is there for. -/
def kind : GpuOp → MoveKind
  | .call c => c.moveKind
  | .act _ => .host

theorem moves (op : GpuOp) (w : JudgedDevice) :
    w.device.MovesBy (fun k => k = .backstage ∨ k = op.kind) (op.perform w).device := by
  cases op with
  | call c => exact w.perform_moves c
  | act a => exact a.moves w.device

end GpuOp

namespace JudgedDevice

/-- One thing after the other is done to a device. -/
def run (w : JudgedDevice) (ops : List GpuOp) : JudgedDevice := ops.foldl GpuOp.perform w

theorem run_append (w : JudgedDevice) (ops later : List GpuOp) :
    w.run (ops ++ later) = (w.run ops).run later := by
  simp [run]

@[simp] theorem run_concat (w : JudgedDevice) (ops : List GpuOp) (op : GpuOp) :
    w.run (ops ++ [op]) = op.perform (w.run ops) := by
  simp [run]

theorem run_moves (w : JudgedDevice) (ops : List GpuOp) : w.device.Moves (w.run ops).device := by
  induction ops using List.reverseRecOn with
  | nil => exact .refl _
  | append_singleton ops op ih =>
    rw [run_concat]
    exact ih.trans (op.moves _).any

/-- When a draw is recorded the device can make it, and nothing but draws went on since the call
began. -/
theorem draw_asked {w : JudgedDevice} {op : GpuOp} {asked later : List Request} {pass : DrawPass}
    (hrequests : (op.perform w).device.requests =
      w.device.requests ++ (asked ++ .draw pass :: later)) :
    ∃ g vertex fragment vs fs target,
      w.device.MovesBy (fun k => k = .backstage ∨ k = .draw) g ∧
      g.requests = w.device.requests ++ asked ∧
      g.Records vertex fragment vs fs target pass := by
  obtain ⟨k, g, hk, hg, hasked, rfl, vertex, fragment, vs, fs, target, hrecords⟩ :=
    (op.moves w).asked hrequests
  have hkind : op.kind = .draw := (hk.resolve_left nofun).symm
  rw [hkind] at hg
  exact ⟨g, vertex, fragment, vs, fs, target, hg, hasked, hrecords⟩

/-- When a copy is recorded the device can make it, and nothing but copies went on since the call
began. -/
theorem blit_asked {w : JudgedDevice} {op : GpuOp} {asked later : List Request} {pass : BlitPass}
    (hrequests : (op.perform w).device.requests =
      w.device.requests ++ (asked ++ .blit pass :: later)) :
    ∃ g, w.device.MovesBy (fun k => k = .backstage ∨ k = .copy) g ∧ g.Copies pass := by
  obtain ⟨k, g, hk, hg, -, rfl, hcopies⟩ := (op.moves w).asked hrequests
  have hkind : op.kind = .copy := (hk.resolve_left nofun).symm
  rw [hkind] at hg
  exact ⟨g, hg, hcopies⟩

/-- When a frame of the window is recorded the device can make it. -/
theorem present_asked {w : JudgedDevice} {op : GpuOp} {asked later : List Request}
    {pipeline : Pipeline} (hrequests : (op.perform w).device.requests =
      w.device.requests ++ (asked ++ .present pipeline :: later)) :
    ∃ g, w.device.Moves g ∧ g.Presents pipeline := by
  obtain ⟨k, g, -, hg, -, -, hpresents⟩ := (op.moves w).asked hrequests
  exact ⟨g, hg.any, hpresents⟩

/-- A program was loaded under a number in the course of a run, and what was done since. -/
def LoadedAs (w : JudgedDevice) (ops : List GpuOp) (id : ProgramId) (p : Program)
    (since : List GpuOp) : Prop :=
  ∃ before, ops = before ++ .call (.loadProgram p) :: since ∧
    ((w.run before).loadProgram p).1 = .ok id

/-- What was loaded is loaded also if something is done afterwards. -/
theorem LoadedAs.concat {w : JudgedDevice} {ops : List GpuOp} {id : ProgramId} {p : Program}
    {since : List GpuOp} (h : w.LoadedAs ops id p since) (op : GpuOp) :
    w.LoadedAs (ops ++ [op]) id p (since ++ [op]) := by
  obtain ⟨before, rfl, hid⟩ := h
  exact ⟨before, by simp, hid⟩

end JudgedDevice

end ShaderEffects
