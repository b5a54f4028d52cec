import ShaderEffects.Proofs.UniformBuffers

/-!
# Caches that cannot be told

A graphics device keeps shaders by what a program was compiled to, programs by their numbers,
pipelines by two numbers and a format, layouts by bind group and size, and the pipelines of
copies by their format. Each of these keys says all that counts: what is found is, but for its
labels, what a device that has kept nothing would make.
-/
namespace ShaderEffects

open Gpu

namespace Gpu

/-- A shader without its label. -/
def ShaderModule.unlabelled (module : ShaderModule) : ShaderModule := { module with label := "" }

/-- A pipeline without its label and those of its shaders. -/
def Pipeline.unlabelled (pipeline : Pipeline) : Pipeline :=
  { pipeline with
    label := "", vertex := pipeline.vertex.unlabelled, fragment := pipeline.fragment.unlabelled }

end Gpu

namespace GpuDevice

/-- A device that has kept nothing yet. -/
def blank : GpuDevice := ofSize .plain 1 1

/-- The pipeline that such a device makes for two programs. -/
def builtAfresh (vertex fragment : Program) (format : PixelFormat) : Pipeline :=
  (blank.buildPipeline (fragment.label ++ " pipeline")
    (.ofProgram vertex (blank.moduleFor vertex).1)
    (.ofProgram fragment (blank.moduleFor fragment).1) format).1

/-- A draw that is recorded has a pipeline that joins its two programs. -/
theorem Records.joins {g : GpuDevice} (hg : g.Consistent) {vertex fragment : ProgramId}
    {vs fs : LoadedProgram} {target : Image} {pass : DrawPass}
    (h : g.Records vertex fragment vs fs target pass) :
    pass.pipeline.Joins vs.shape fs.shape target.format ∧ vs.stage = .vertex ∧
      fs.stage = .fragment := by
  have hvertex : g.shape? vertex = some vs.shape := congrArg _ h.vertexLoaded
  have hfragment : g.shape? fragment = some fs.shape := congrArg _ h.fragmentLoaded
  obtain ⟨vs', fs', hvs, hfs, hjoins⟩ := hg.pipelines _ _ _ _ h.pipeline
  obtain rfl := Option.some.inj (hvertex.symm.trans hvs)
  obtain rfl := Option.some.inj (hfragment.symm.trans hfs)
  obtain ⟨s, hs, hstage⟩ := hg.bound _ _ h.vertexBound
  obtain rfl := Option.some.inj (hvertex.symm.trans hs)
  obtain ⟨s', hs', hstage'⟩ := hg.bound _ _ h.fragmentBound
  obtain rfl := Option.some.inj (hfragment.symm.trans hs')
  exact ⟨hjoins, hstage, hstage'⟩

end GpuDevice

namespace Gpu

/-- The pipeline is the one for two programs and a format. -/
structure Pipeline.MadeFor (pipeline : Pipeline) (vertex fragment : Program)
    (format : PixelFormat) : Prop where
  /-- The text of each shader is what is put in front of its program, a line feed, and the
  source of the program. -/
  texts : pipeline.vertex.source = prelude vertex ++ "\n" ++ vertex.source ∧
    pipeline.fragment.source = prelude fragment ++ "\n" ++ fragment.source
  entries : pipeline.vertexEntry = vertex.entry ∧ pipeline.fragmentEntry = fragment.entry
  /-- There are as many textures as each program samples, seen by its stage. -/
  layout : pipeline.layout = [constantsLayout,
    samplersLayout .vertex vertex.constants.samplers.length,
    samplersLayout .fragment fragment.constants.samplers.length]
  target : pipeline.target = format
  afresh : pipeline.unlabelled = (GpuDevice.builtAfresh vertex fragment format).unlabelled

/-- A pipeline that joins two programs is the one for them. -/
theorem Pipeline.Joins.madeFor {pipeline : Pipeline} {vs fs : ProgramShape}
    {format : PixelFormat} {vertex fragment : Program} (h : pipeline.Joins vs fs format)
    (hvertex : vs.IsOf vertex) (hfragment : fs.IsOf fragment) :
    pipeline.MadeFor vertex fragment format := by
  have hlayout := h.layout
  rw [hvertex.samplers, hfragment.samplers] at hlayout
  have htexts : pipeline.vertex.source = moduleSource vertex ∧
      pipeline.fragment.source = moduleSource fragment :=
    ⟨(congrArg _ h.vertex.1).trans hvertex.module, (congrArg _ h.fragment.1).trans hfragment.module⟩
  have hentries : pipeline.vertexEntry = vertex.entry ∧ pipeline.fragmentEntry = fragment.entry :=
    ⟨h.vertex.2.trans hvertex.entry, h.fragment.2.trans hfragment.entry⟩
  refine ⟨htexts, hentries, hlayout, h.target, ?_⟩
  obtain ⟨label, layout, ⟨_, _⟩, _, ⟨_, _⟩, _, buffers, target⟩ := pipeline
  obtain ⟨rfl, rfl⟩ := htexts
  obtain ⟨rfl, rfl⟩ := hentries
  obtain rfl : layout = _ := hlayout
  obtain rfl : buffers = 1 := h.buffers
  obtain rfl : target = format := h.target
  rfl

end Gpu

namespace JudgedDevice

/-- What a device has kept in a run is what would be made afresh. -/
structure Transparent (w₀ : JudgedDevice) (ops : List GpuOp) (w : JudgedDevice) : Prop where
  /-- A number stands for one load. -/
  once : ∀ {id q q' since since'}, w₀.LoadedAs ops id q since → w₀.LoadedAs ops id q' since' →
    q = q' ∧ since = since'
  modules : ∀ p, (w.device.moduleFor p).1.unlabelled = (GpuDevice.blank.moduleFor p).1.unlabelled
  programs : ∀ id loaded, w.device.programs.get? id = some loaded →
    ∃ p since, w₀.LoadedAs ops id p since ∧ loaded.shape.IsOf p
  layouts : ∀ group count,
    (w.device.layOut group count).1 = (GpuDevice.blank.layOut group count).1
  pipelines : ∀ {vertex fragment format pipeline g},
    w.device.pipelineFor vertex fragment format = (.ok pipeline, g) →
    ∃ p q since since', w₀.LoadedAs ops vertex p since ∧ w₀.LoadedAs ops fragment q since' ∧
      pipeline.MadeFor p q format
  blits : ∀ format,
    (w.device.blitPipelineFor format).1 = (GpuDevice.blank.blitPipelineFor format).1
  /-- Whatever is done next, a draw that is recorded has the pipeline for the two programs that
  are bound and the format of the target. -/
  drawn : ∀ (op : GpuOp) (asked : List Request) (pass : DrawPass) (later : List Request),
    (op.perform w).device.requests = w.device.requests ++ (asked ++ .draw pass :: later) →
    ∃ vertex fragment p q since since' target, w.device.bound.get? .vertex = some vertex ∧
      w.device.bound.get? .fragment = some fragment ∧ w₀.LoadedAs ops vertex p since ∧
      w₀.LoadedAs ops fragment q since' ∧ p.stage = .vertex ∧ q.stage = .fragment ∧
      pass.target = w.device.renderTarget ∧
      w.device.image w.device.renderTarget = .ok target ∧
      pass.pipeline.MadeFor p q target.format
  /-- A copy has the pipeline for the format of its destination. -/
  copied : ∀ (op : GpuOp) (asked : List Request) (pass : BlitPass) (later : List Request),
    (op.perform w).device.requests = w.device.requests ++ (asked ++ .blit pass :: later) →
    ∃ image, w.device.image pass.destination = .ok image ∧
      pass.pipeline = blitPipeline image.format
  /-- A frame of the window has the pipeline for the format of the window. -/
  presented : ∀ (op : GpuOp) (asked : List Request) (pipeline : Pipeline) (later : List Request),
    (op.perform w).device.requests = w.device.requests ++ (asked ++ .present pipeline :: later) →
    ∃ window, w₀.device.context.window = some window ∧ pipeline = blitPipeline window.format
  /-- The surfaces are in the format of the window, if there is one. -/
  surfaces : w.device.backbuffer.format = w₀.device.context.surfaceFormat ∧
    w.device.scratch.format = w₀.device.context.surfaceFormat

section runs

variable {context : GpuContext} {width height : Nat} {verdicts : List (Option String)}
  {ops : List GpuOp} {w : JudgedDevice}

/-- What is fixed about a program is that of the program that was loaded under its number. -/
theorem run_shapes (hrun : (ofSize context width height verdicts).run ops = w) {id : ProgramId}
    {s : ProgramShape} (hs : w.device.shape? id = some s) :
    ∃ p since, (ofSize context width height verdicts).LoadedAs ops id p since ∧ s.IsOf p := by
  subst hrun
  obtain ⟨loaded, hloaded, rfl⟩ := Option.map_eq_some_iff.mp hs
  obtain ⟨p, since, hp, hshape, -⟩ := run_programs context width height verdicts ops hloaded
  exact ⟨p, since, hp, hshape⟩

/-- A pipeline that is found or made is the one for the two programs. -/
theorem pipelineFor_madeFor (hrun : (ofSize context width height verdicts).run ops = w)
    {vertex fragment : ProgramId} {format : PixelFormat} {pipeline : Pipeline} {g : GpuDevice}
    (hfor : w.device.pipelineFor vertex fragment format = (.ok pipeline, g)) :
    ∃ p q since since', (ofSize context width height verdicts).LoadedAs ops vertex p since ∧
      (ofSize context width height verdicts).LoadedAs ops fragment q since' ∧
      pipeline.MadeFor p q format := by
  have hconsistent := run_consistent hrun
  have hmoves := GpuDevice.pipelineFor_moves w.device vertex fragment format
  rw [hfor] at hmoves
  obtain ⟨vs, fs, hvs, hfs, hjoins⟩ := GpuDevice.pipelineFor_joins hconsistent hfor
  obtain ⟨p, since, hp, hvertex⟩ :=
    run_shapes hrun (hmoves.shape?_known hconsistent nofun nofun hvs)
  obtain ⟨q, since', hq, hfragment⟩ :=
    run_shapes hrun (hmoves.shape?_known hconsistent nofun nofun hfs)
  exact ⟨p, q, since, since', hp, hq, hjoins.madeFor hvertex hfragment⟩

/-- A draw that is recorded has the pipeline for the programs that are bound. -/
theorem draw_madeFor (hrun : (ofSize context width height verdicts).run ops = w) {op : GpuOp}
    {asked later : List Request} {pass : DrawPass} (hrequests : (op.perform w).device.requests =
      w.device.requests ++ (asked ++ .draw pass :: later)) :
    ∃ vertex fragment p q since since' target, w.device.bound.get? .vertex = some vertex ∧
      w.device.bound.get? .fragment = some fragment ∧
      (ofSize context width height verdicts).LoadedAs ops vertex p since ∧
      (ofSize context width height verdicts).LoadedAs ops fragment q since' ∧
      p.stage = .vertex ∧ q.stage = .fragment ∧ pass.target = w.device.renderTarget ∧
      w.device.image w.device.renderTarget = .ok target ∧
      pass.pipeline.MadeFor p q target.format := by
  have hconsistent := run_consistent hrun
  obtain ⟨g, vertex, fragment, vs, fs, target, hg, -, hrecords⟩ := draw_asked hrequests
  obtain ⟨hbound, htarget, himage⟩ := hg.surfaces_same fun k hk => hk.imp_right Or.inl
  obtain ⟨hjoins, hvertexStage, hfragmentStage⟩ := hrecords.joins (hg.consistent hconsistent).1
  obtain ⟨p, since, hp, hvertex⟩ := run_shapes hrun
    (hg.shape?_known hconsistent (by simp) (by simp) (congrArg _ hrecords.vertexLoaded))
  obtain ⟨q, since', hq, hfragment⟩ := run_shapes hrun
    (hg.shape?_known hconsistent (by simp) (by simp) (congrArg _ hrecords.fragmentLoaded))
  refine ⟨vertex, fragment, p, q, since, since', target, hbound ▸ hrecords.vertexBound,
    hbound ▸ hrecords.fragmentBound, hp, hq, hvertex.stage.symm.trans hvertexStage,
    hfragment.stage.symm.trans hfragmentStage, hrecords.aimed.trans htarget, ?_,
    hjoins.madeFor hvertex hfragment⟩
  rw [← himage, ← htarget]
  exact hrecords.image

/-- A copy that is recorded has the pipeline for the format of its destination. -/
theorem blit_pipeline (hrun : (ofSize context width height verdicts).run ops = w) {op : GpuOp}
    {asked later : List Request} {pass : BlitPass} (hrequests : (op.perform w).device.requests =
      w.device.requests ++ (asked ++ .blit pass :: later)) :
    ∃ image, w.device.image pass.destination = .ok image ∧
      pass.pipeline = blitPipeline image.format := by
  obtain ⟨g, hg, hcopies⟩ := blit_asked hrequests
  obtain ⟨-, -, himage⟩ := hg.surfaces_same fun k hk => hk.imp_right Or.inr
  obtain ⟨image, hdestination, hpipeline⟩ := hcopies.pipeline
  exact ⟨image, himage _ ▸ hdestination,
    (hg.consistent (run_consistent hrun)).1.blits image.format _ hpipeline⟩

/-- A frame that is recorded has the pipeline for the format of the window. -/
theorem present_pipeline (hrun : (ofSize context width height verdicts).run ops = w) {op : GpuOp}
    {asked later : List Request} {pipeline : Pipeline}
    (hrequests : (op.perform w).device.requests =
      w.device.requests ++ (asked ++ .present pipeline :: later)) :
    ∃ window, context.window = some window ∧ pipeline = blitPipeline window.format := by
  obtain ⟨g, hg, window, hwindow, hkept⟩ := present_asked hrequests
  have hopened : (ofSize context width height verdicts).device.Moves g :=
    (hrun ▸ run_moves _ ops).trans hg
  have hformat := hopened.sameFormats.window
  rw [hwindow, Option.map_some] at hformat
  obtain ⟨opened, hsome, hsame⟩ := Option.map_eq_some_iff.mp hformat.symm
  refine ⟨opened, hsome, ?_⟩
  rw [hsame]
  exact (hg.consistent (run_consistent hrun)).1.blits window.format _ hkept

theorem surfaces_format (hrun : (ofSize context width height verdicts).run ops = w) :
    w.device.backbuffer.format = context.surfaceFormat ∧
      w.device.scratch.format = context.surfaceFormat := by
  have hformats : (ofSize context width height verdicts).device.SameFormats w.device :=
    (hrun ▸ run_moves _ ops).sameFormats
  exact ⟨hformats.backbuffer, hformats.scratch rfl⟩

/-- In any run of calls, whichever of them are refused, caches cannot be told from devices that
keep nothing. -/
theorem caches_transparent (hrun : (ofSize context width height verdicts).run ops = w) :
    Transparent (ofSize context width height verdicts) ops w := by
  have hconsistent := run_consistent hrun
  refine ⟨LoadedAs.unique, fun p => ?_, fun id loaded hloaded => ?_, fun group count => ?_,
    pipelineFor_madeFor hrun, fun format => ?_, fun _ _ _ _ => draw_madeFor hrun,
    fun _ _ _ _ => blit_pipeline hrun, fun _ _ _ _ => present_pipeline hrun,
    surfaces_format hrun⟩
  · obtain ⟨hmoves, hkept⟩ := GpuDevice.moduleFor_moves w.device p
    exact congrArg (ShaderModule.mk "") ((hmoves.consistent hconsistent).1.modules p _ hkept)
  · exact run_shapes hrun (congrArg _ hloaded)
  · rw [GpuDevice.layOut_layout hconsistent]
    rfl
  · obtain ⟨hmoves, hkept⟩ := GpuDevice.blitPipelineFor_moves w.device format
    rw [(hmoves.consistent hconsistent).1.blits format _ hkept]
    rfl

end runs

/-- A program that another effect compiles to the same. -/
def otherFragment : Program :=
  { GpuDevice.shadedProgram .fragment "view tint scene" with label := "b/t/p:Fragment" }

/-- A run in which a program is loaded for two effects, and bound as that of the second one. -/
def sharedShader : List GpuOp :=
  [.call (.createTexture "half" (.target 4 4 .rgba16F)),
    .call (.loadProgram (GpuDevice.shadedProgram .vertex "view")),
    .call (.loadProgram (GpuDevice.shadedProgram .fragment "view tint scene")),
    .call (.loadProgram otherFragment),
    .call (.bind .vertex ⟨2⟩), .call (.bind .fragment ⟨4⟩), .call (.setTarget (.texture ⟨1⟩))]

/-- A window in a format that no texture of an effect has. -/
def windowed : GpuContext := { GpuContext.plain with window := some ⟨⟨"Bgra8Unorm"⟩, 4, 4⟩ }

/-- The second effect draws with the shader of the first one, under the label it had there. Its
pipeline is the one for its own program all the same, a copy to the texture has the pipeline
for the format of the texture, and the frame that is presented has the one for the window. -/
theorem caches_transparent_shared :
    ∃ (w : JudgedDevice) (drawn : DrawPass) (copied : BlitPass) (asked : List Request)
      (shown : Pipeline),
      (ofSize windowed 4 4 []).run sharedShader = w ∧
      (w.draw { vertices := [⟨0, 0, 0, 0, 0, 0⟩] }).2.device.requests =
        w.device.requests ++ (asked ++ [.draw drawn]) ∧
      drawn.pipeline.fragment.label = "a/t/p:Fragment" ∧
      drawn.pipeline.MadeFor (GpuDevice.shadedProgram .vertex "view") otherFragment TextureFormat.rgba16F ∧
      (w.device.copy .scratch (.texture ⟨1⟩)).2.requests =
        w.device.requests ++ ([.pipeline copied.pipeline] ++ [.blit copied]) ∧
      copied.pipeline = blitPipeline TextureFormat.rgba16F ∧
      (w.device.present .frame).2.1.requests =
        w.device.requests ++ ([.pipeline shown] ++ [.present shown]) ∧
      shown = blitPipeline ⟨"Bgra8Unorm"⟩ ∧ w.device.scratch.format = ⟨"Bgra8Unorm"⟩ := by
  have hrun : (ofSize windowed 4 4 []).run sharedShader = (ofSize windowed 4 4 []).run sharedShader :=
    rfl
  have htransparent := caches_transparent hrun
  have hdraw : ((GpuOp.call (.draw { vertices := [⟨0, 0, 0, 0, 0, 0⟩] })).perform
      ((ofSize windowed 4 4 []).run sharedShader)).device.requests =
        ((ofSize windowed 4 4 []).run sharedShader).device.requests ++
          ([.layout _ _, .layout _ _, .pipeline _, .writeBuffer _ _, .writeBuffer _ _] ++
            .draw _ :: []) := rfl
  have hcopy : ((GpuOp.call (.copy .scratch (.texture ⟨1⟩))).perform
      ((ofSize windowed 4 4 []).run sharedShader)).device.requests =
        ((ofSize windowed 4 4 []).run sharedShader).device.requests ++
          ([.pipeline _] ++ .blit _ :: []) := rfl
  have hpresent : ((GpuOp.act (.present .frame)).perform
      ((ofSize windowed 4 4 []).run sharedShader)).device.requests =
        ((ofSize windowed 4 4 []).run sharedShader).device.requests ++
          ([.pipeline _] ++ .present _ :: []) := rfl
  obtain ⟨vertex, fragment, p, q, since, since', target, hvertex, hfragment, hp, hq, -, -, -,
    htarget, hmade⟩ := htransparent.drawn _ _ _ _ hdraw
  obtain ⟨image, himage, hblit⟩ := htransparent.copied _ _ _ _ hcopy
  obtain ⟨window, hwindow, hshown⟩ := htransparent.presented _ _ _ _ hpresent
  obtain rfl := Option.some.inj hwindow
  have hfour : (⟨4⟩ : ProgramId) = fragment := Option.some.inj hfragment
  have htwo : (⟨2⟩ : ProgramId) = vertex := Option.some.inj hvertex
  subst hfour htwo
  have hsecond : (ofSize windowed 4 4 []).LoadedAs sharedShader ⟨2⟩
      (GpuDevice.shadedProgram .vertex "view") (sharedShader.drop 2) :=
    ⟨sharedShader.take 1, rfl, rfl⟩
  have hfourth : (ofSize windowed 4 4 []).LoadedAs sharedShader ⟨4⟩ otherFragment
      (sharedShader.drop 4) := ⟨sharedShader.take 3, rfl, rfl⟩
  obtain ⟨rfl, -⟩ := htransparent.once hp hsecond
  obtain ⟨rfl, -⟩ := htransparent.once hq hfourth
  have hformat : Except.ok (Image.ofSize 4 4 TextureFormat.rgba16F) = Except.ok target := htarget
  obtain rfl := Except.ok.inj hformat
  have hdestination : Except.ok (Image.ofSize 4 4 TextureFormat.rgba16F) = Except.ok image := himage
  obtain rfl := Except.ok.inj hdestination
  refine ⟨_, _, ⟨.scratch, .texture ⟨1⟩, blitPipeline TextureFormat.rgba16F⟩, _, _, rfl, hdraw, ?_,
    hmade, hcopy, hblit, hpresent, hshown, htransparent.surfaces.2⟩
  decide +kernel

end JudgedDevice

end ShaderEffects
