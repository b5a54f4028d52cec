import Mathlib.Logic.Relation
import ShaderEffects.Proofs.SurfaceStrokes

/-!
# What a graphics device does at a time

Every call of a graphics device is a run of a few moves. Most go on behind the scenes: the
device asks for something, makes a shader, a layout or a pipeline and keeps it, or uploads the
numbers of a program. The others are what the call is there for, such as to load a program or
to record a draw. What every move of some kinds keeps, every call that takes no other kinds
keeps.
-/
namespace ShaderEffects

open Gpu Relation

namespace Gpu

/-- Whether a request writes to the buffer of a program. -/
def Request.isUpload : Request → Bool
  | .writeBuffer .. => true
  | _ => false

/-- Whether a request uploads no numbers, and records neither a draw nor a copy. -/
def Request.makes : Request → Bool
  | .writeBuffer .. => false
  | .draw _ => false
  | .blit _ | .present _ => false
  | _ => true

theorem Request.isUpload_of_makes {request : Request} (h : request.makes = true) :
    request.isUpload = false := by
  cases request <;> first | rfl | cases h

theorem Request.stroke?_of_makes {request : Request} (h : request.makes = true) :
    request.stroke? = none := by
  cases request <;> first | rfl | cases h

end Gpu

/-- What a move of a graphics device is about. -/
inductive MoveKind where
  /-- Something is asked for, made or uploaded. -/
  | backstage
  /-- A texture gets a number. -/
  | keep
  | load
  | bind
  | write
  | sample
  | aim
  | draw
  | copy
  /-- The surfaces change their size, the backbuffer is presented, or the device is lost. -/
  | host
deriving DecidableEq

/-- Whether a move of this kind loads, binds and writes nothing. -/
def MoveKind.sparesPrograms : MoveKind → Bool
  | .load | .bind | .write | .sample => false
  | .backstage | .keep | .aim | .draw | .copy | .host => true

namespace Gpu

/-- Whether a move of a kind asks for it, other than an upload, a draw or a copy. A texture is
asked for when it is given a number, or when the surfaces change their size. -/
def Request.askedBy (kind : MoveKind) : Request → Bool
  | .texture .. => kind = .keep ∨ kind = .host
  | .configure _ => kind = .host
  | .writeBuffer .. | .draw _ | .blit _ | .present _ => false
  | .shader _ | .layout .. | .pipeline _ | .writeTexture .. | .clear => kind = .backstage

theorem Request.makes_of_askedBy {request : Request} {kind : MoveKind}
    (h : request.askedBy kind = true) : request.makes = true := by
  cases request <;> first | rfl | cases h

end Gpu

/-- What a call is there for. -/
def DeviceCall.moveKind {D : Type} [Device D] : DeviceCall D → MoveKind
  | .validate _ | .restore _ | .enterEffectState => .backstage
  | .createTexture .. | .loadTexture .. => .keep
  | .loadProgram _ => .load
  | .bind .. | .unbind _ => .bind
  | .setConstants .. => .write
  | .setSampler .. => .sample
  | .setTarget _ => .aim
  | .draw _ => .draw
  | .copy .. => .copy

/-- The kinds of moves that a call takes. -/
def DeviceCall.Takes {D : Type} [Device D] (c : DeviceCall D) (kind : MoveKind) : Prop :=
  kind = .backstage ∨ kind = c.moveKind

theorem DeviceCall.moveKind_ne_host {D : Type} [Device D] (c : DeviceCall D) :
    ¬ c.Takes .host := by
  cases c <;> simp [DeviceCall.Takes, DeviceCall.moveKind]

namespace GpuDevice

/-- The pass is what the device draws: its two programs are bound and their numbers are
uploaded, the target is there, and the pipeline and the layouts are kept. -/
structure Records (g : GpuDevice) (vertex fragment : ProgramId) (vs fs : LoadedProgram)
    (target : Image) (pass : DrawPass) : Prop where
  vertexBound : g.bound.get? .vertex = some vertex
  fragmentBound : g.bound.get? .fragment = some fragment
  vertexLoaded : g.programs.get? vertex = some vs
  fragmentLoaded : g.programs.get? fragment = some fs
  clean : vs.dirty = false ∧ fs.dirty = false
  aimed : pass.target = g.renderTarget
  image : g.image g.renderTarget = .ok target
  pipeline : g.pipelines.get? (vertex, fragment, target.format) = some pass.pipeline
  groups : ∃ vertexLayout fragmentLayout,
    g.layouts.get? (samplersGroup .vertex, vs.samplers.length) = some vertexLayout ∧
      g.layouts.get? (samplersGroup .fragment, fs.samplers.length) = some fragmentLayout ∧
      pass.groups = [bindConstants vertex fragment,
        ⟨vertexLayout, samplerEntries (g.sampledBy vs)⟩,
        ⟨fragmentLayout, samplerEntries (g.sampledBy fs)⟩]

/-- The pass is a copy from one surface to another, with a pipeline that is kept. -/
structure Copies (g : GpuDevice) (pass : BlitPass) : Prop where
  apart : pass.source ≠ pass.destination
  source : ∃ image, g.image pass.source = .ok image
  pipeline : ∃ image, g.image pass.destination = .ok image ∧
    g.blitPipelines.get? image.format = some pass.pipeline

/-- The pipeline copies to the window, and is kept. -/
def Presents (g : GpuDevice) (pipeline : Pipeline) : Prop :=
  ∃ window, g.context.window = some window ∧
    g.blitPipelines.get? window.format = some pipeline

/-- What a device does at a time. -/
inductive Move (g : GpuDevice) : MoveKind → GpuDevice → Prop
  | ask {kind : MoveKind} {request : Request} (h : request.askedBy kind = true) :
    Move g kind (g.ask request)
  | makeModule (p : Program) :
    Move g .backstage { g with
      modules := g.modules.insert p.key ⟨p.label, moduleSource p⟩ }
  | makeLayout (group count : Nat) :
    Move g .backstage { g with
      layouts := g.layouts.insert (group, count) (samplersLayout (groupVisibility group) count) }
  /-- A pipeline is made of two loaded programs, and of layouts that are kept. -/
  | makePipeline {vertex fragment : ProgramId} {vs fs : LoadedProgram}
    {vertexLayout fragmentLayout : BindGroupLayout} (label : String) (format : PixelFormat)
    (hvs : g.programs.get? vertex = some vs) (hfs : g.programs.get? fragment = some fs)
    (hvertex : g.layouts.get? (samplersGroup .vertex, vs.samplers.length) = some vertexLayout)
    (hfragment : g.layouts.get? (samplersGroup .fragment, fs.samplers.length) =
      some fragmentLayout) :
    Move g .backstage { g with
      pipelines := g.pipelines.insert (vertex, fragment, format)
        { label, layout := [constantsLayout, vertexLayout, fragmentLayout]
          vertex := vs.module, vertexEntry := vs.entry
          fragment := fs.module, fragmentEntry := fs.entry
          buffers := 1, target := format } }
  | makeBlit (format : PixelFormat) :
    Move g .backstage { g with
      blitPipelines := g.blitPipelines.insert format (blitPipeline format) }
  | upload (id : ProgramId) : Move g .backstage (g.upload id)
  | keep (image : Image) : Move g .keep (g.keep image).2
  /-- A program is loaded under a new number, with the shader that is kept for it. -/
  | load (p : Program) {module : ShaderModule}
    (h : g.modules.get? p.key = some module) :
    Move g .load { g with
      nextId := g.nextId + 1
      programs := g.programs.insert ⟨g.nextId⟩ (.fresh p module) }
  | bind {stage : Stage} {id : ProgramId} {p : LoadedProgram}
    (h : g.programs.get? id = some p) (hstage : p.stage = stage) :
    Move g .bind { g with bound := g.bound.insert stage id }
  | unbind (stage : Stage) : Move g .bind (g.unbind stage)
  | write (id : ProgramId) (register : Nat) (values : List Float32) :
    Move g .write (g.setConstants id register values)
  | sample (id : ProgramId) (slot : Nat) (texture : TextureId) :
    Move g .sample (g.setSampler id slot texture)
  | aim {surface : Surface} {image : Image} (h : g.image surface = .ok image) :
    Move g .aim { g with renderTarget := surface }
  | draw {vertex fragment : ProgramId} {vs fs : LoadedProgram} {target : Image}
    {pass : DrawPass} (h : g.Records vertex fragment vs fs target pass) :
    Move g .draw (g.ask (.draw pass))
  | copy {pass : BlitPass} (h : g.Copies pass) :
    Move g .copy (g.ask (.blit pass))
  | resize {backbuffer scratch : Image} (hbackbuffer : backbuffer.format = g.backbuffer.format)
    (hscratch : scratch.format = g.backbuffer.format) :
    Move g .host { g with backbuffer, scratch }
  | configure {window : Window} (h : g.context.window = some window) (width height : Nat) :
    Move g .host { g with
      context := { g.context with window := some { window with width, height } } }
  | present {pipeline : Pipeline} (h : g.Presents pipeline) :
    Move g .host (g.ask (.present pipeline))
  | lose : Move g .host { g with lost := true }

/-- Moves of some kinds, one after the other. -/
def MovesBy (kinds : MoveKind → Prop) : GpuDevice → GpuDevice → Prop :=
  ReflTransGen fun g g' => ∃ k, kinds k ∧ g.Move k g'

/-- Moves of any kind. -/
abbrev Moves : GpuDevice → GpuDevice → Prop := MovesBy fun _ => True

/-- What goes on behind the scenes. -/
abbrev Prepares : GpuDevice → GpuDevice → Prop := MovesBy (· = .backstage)

variable {g g' : GpuDevice} {kind : MoveKind} {kinds wider : MoveKind → Prop}

theorem MovesBy.refl (g : GpuDevice) : g.MovesBy kinds g := ReflTransGen.refl

theorem Move.moves (h : g.Move kind g') (hkind : kinds kind) : g.MovesBy kinds g' :=
  ReflTransGen.single ⟨kind, hkind, h⟩

theorem Move.prepares (h : g.Move .backstage g') : g.Prepares g' := h.moves rfl

theorem MovesBy.trans {g₁ g₂ g₃ : GpuDevice} (h₁ : g₁.MovesBy kinds g₂)
    (h₂ : g₂.MovesBy kinds g₃) : g₁.MovesBy kinds g₃ :=
  ReflTransGen.trans h₁ h₂

/-- What every move keeps, every run of moves keeps. -/
theorem MovesBy.preserve {P : GpuDevice → Prop}
    (hP : ∀ k g g', kinds k → g.Move k g' → P g → P g') (h : g.MovesBy kinds g') (hg : P g) :
    P g' := by
  induction h with
  | refl => exact hg
  | tail _ hmove ih =>
    obtain ⟨k, hk, hmove⟩ := hmove
    exact hP k _ _ hk hmove ih

theorem MovesBy.mono (hkinds : ∀ k, kinds k → wider k) (h : g.MovesBy kinds g') :
    g.MovesBy wider g' :=
  h.preserve (P := fun g' => g.MovesBy wider g')
    (fun k _ _ hk hmove hmoves => hmoves.trans (hmove.moves (hkinds k hk))) (.refl g)

theorem MovesBy.any (h : g.MovesBy kinds g') : g.Moves g' := h.mono fun _ _ => trivial

theorem MovesBy.within (h : g.Prepares g') (hkinds : kinds .backstage) : g.MovesBy kinds g' :=
  h.mono fun k hk => by rwa [hk]

/-! ## What is left behind the scenes -/

/-- An upload changes no shader, layout, pipeline or stage. -/
theorem upload_same (g : GpuDevice) (id : ProgramId) :
    (g.upload id).nextId = g.nextId ∧ (g.upload id).lost = g.lost ∧
      (g.upload id).layouts = g.layouts ∧ (g.upload id).modules = g.modules ∧
      (g.upload id).pipelines = g.pipelines ∧ (g.upload id).blitPipelines = g.blitPipelines ∧
      (g.upload id).bound = g.bound := by
  unfold upload
  cases g.programs.get? id with
  | none => exact ⟨rfl, rfl, rfl, rfl, rfl, rfl, rfl⟩
  | some p => simp only; split_ifs <;> exact ⟨rfl, rfl, rfl, rfl, rfl, rfl, rfl⟩

theorem Move.backstage (h : g.Move .backstage g') : g.Backstage g' := by
  have hkept : ∀ modules layouts pipelines blitPipelines, g.Backstage
      { g with modules, layouts, pipelines, blitPipelines } := fun _ _ _ _ =>
    ⟨rfl, rfl, rfl, rfl, rfl, rfl, rfl, rfl, fun _ => rfl, rfl⟩
  cases h with
  | ask hasked => exact backstage_ask g (Request.stroke?_of_makes (Request.makes_of_askedBy hasked))
  | makeModule | makeLayout | makePipeline | makeBlit => exact hkept _ _ _ _
  | upload q => exact backstage_upload g q

theorem MovesBy.backstage (h : g.Prepares g') : g.Backstage g' :=
  h.preserve (P := fun g' => g.Backstage g')
    (fun _ _ _ hk hmove hback => hback.trans (hk ▸ hmove).backstage) (.refl g)

/-- Only the host loses the device. -/
theorem Move.lost (h : g.Move kind g') (hkind : kind ≠ .host) : g'.lost = g.lost := by
  cases h with
  | upload id => exact (backstage_upload g id).lost
  | resize | configure | present | lose => exact absurd rfl hkind
  | ask | makeModule | makeLayout | makePipeline | makeBlit | keep | load | bind | unbind | write
  | sample | aim | draw | copy => rfl

theorem MovesBy.lost (h : g.MovesBy kinds g') (hkinds : ¬ kinds .host) : g'.lost = g.lost :=
  h.preserve (P := fun g' => g'.lost = g.lost)
    (fun _ _ _ hk hmove hlost => (hmove.lost fun hkind => hkinds (hkind ▸ hk)).trans hlost) rfl

/-- The surfaces are what they were. -/
theorem Backstage.image (h : g.Backstage g') (surface : Surface) :
    g'.image surface = g.image surface := by
  cases surface with
  | backbuffer => simp [GpuDevice.image, h.backbuffer]
  | scratch => simp [GpuDevice.image, h.scratch]
  | texture id => simp [GpuDevice.image, h.textures]

/-! ## Requests -/

theorem requests_upload (g : GpuDevice) (id : ProgramId) :
    (g.upload id).requests = g.requests ∨
      ∃ registers, (g.upload id).requests = g.requests ++ [.writeBuffer id registers] := by
  unfold upload
  cases g.programs.get? id with
  | none => exact Or.inl rfl
  | some p =>
    simp only
    split_ifs
    · exact Or.inr ⟨_, rfl⟩
    · exact Or.inl rfl

/-- What a move of a kind may ask for: a draw, a copy and a frame only if they can be made. -/
def MayAsk (g : GpuDevice) (kind : MoveKind) : Request → Prop
  | .draw pass =>
    kind = .draw ∧ ∃ vertex fragment vs fs target, g.Records vertex fragment vs fs target pass
  | .blit pass => kind = .copy ∧ g.Copies pass
  | .present pipeline => kind = .host ∧ g.Presents pipeline
  | .texture .. => kind = .keep ∨ kind = .host
  | _ => True

theorem mayAsk_of_askedBy {request : Request} (h : request.askedBy kind = true) :
    g.MayAsk kind request := by
  cases request with
  | texture => simpa [MayAsk, Request.askedBy] using h
  | draw | blit | present => cases h
  | shader | layout | pipeline | writeBuffer | writeTexture | clear | configure => trivial

/-- A move asks for one thing at most. -/
theorem Move.requests (h : g.Move kind g') :
    g'.requests = g.requests ∨
      ∃ request, g'.requests = g.requests ++ [request] ∧ g.MayAsk kind request := by
  cases h with
  | makeModule | makeLayout | makePipeline | makeBlit | keep | load | bind | unbind | write
  | sample | aim | resize | configure | lose => exact Or.inl rfl
  | ask hasked => exact Or.inr ⟨_, rfl, mayAsk_of_askedBy hasked⟩
  | draw hrecords => exact Or.inr ⟨_, rfl, rfl, _, _, _, _, _, hrecords⟩
  | copy hcopies => exact Or.inr ⟨_, rfl, rfl, hcopies⟩
  | present hpresents => exact Or.inr ⟨_, rfl, rfl, hpresents⟩
  | upload id =>
    rcases requests_upload g id with hsame | ⟨registers, heq⟩
    · exact Or.inl hsame
    · exact Or.inr ⟨_, heq, trivial⟩

/-- What moves ask for comes behind what was asked for before. -/
theorem MovesBy.appends {P : Request → Prop}
    (hP : ∀ g₁ k request, kinds k → MayAsk g₁ k request → P request) (h : g.MovesBy kinds g') :
    Appends P g.requests g'.requests := by
  refine h.preserve (P := fun g' => Appends P g.requests g'.requests) ?_ (.refl _)
  intro k g₁ g₂ hk hmove hg
  rcases hmove.requests with hsame | ⟨request, hlast, hmay⟩
  · exact hsame ▸ hg
  · exact hlast ▸ hg.trans (appends_concat _ (hP g₁ k request hk hmay))

/-- What was asked for was asked for by one of the moves, when that could be done. -/
theorem MovesBy.asked (h : g.MovesBy kinds g') {asked later : List Request} {request : Request}
    (hrequests : g'.requests = g.requests ++ (asked ++ request :: later)) :
    ∃ k g₁, kinds k ∧ g.MovesBy kinds g₁ ∧ g₁.requests = g.requests ++ asked ∧
      g₁.MayAsk k request := by
  induction h generalizing later with
  | refl => simp at hrequests
  | @tail g₂ g₃ hmoves hmove ih =>
    obtain ⟨k, hk, hmove⟩ := hmove
    rcases hmove.requests with hsame | ⟨last, hlast, hmay⟩
    · exact ih (hsame ▸ hrequests)
    rw [hlast] at hrequests
    rcases List.eq_nil_or_concat later with rfl | ⟨later', last', rfl⟩
    · have hsplit : g₂.requests ++ [last] = (g.requests ++ asked) ++ [request] := by
        rw [hrequests, List.append_assoc]
      obtain ⟨hfront, hend⟩ := List.append_inj' hsplit rfl
      obtain rfl := List.singleton_inj.mp hend
      exact ⟨k, g₂, hk, hmoves, hfront, hmay⟩
    · have hsplit : g₂.requests ++ [last] =
          (g.requests ++ (asked ++ request :: later')) ++ [last'] := by
        rw [hrequests]
        simp
      exact ih (List.append_inj' hsplit rfl).1

/-! ## Shaders, layouts and pipelines -/

theorem moduleFor_moves (g : GpuDevice) (p : Program) :
    g.Prepares (g.moduleFor p).2 ∧
      (g.moduleFor p).2.modules.get? p.key = some (g.moduleFor p).1 := by
  unfold moduleFor
  cases hmodule : g.modules.get? p.key with
  | some module => exact ⟨.refl g, hmodule⟩
  | none =>
    exact ⟨(Move.makeModule p).prepares.trans (Move.ask rfl).prepares, by
      simp [GpuDevice.ask]⟩

theorem layOut_moves (g : GpuDevice) (group count : Nat) :
    g.Prepares (g.layOut group count).2 := by
  unfold layOut
  cases g.layouts.get? (group, count) with
  | some layout => exact .refl g
  | none => exact (Move.makeLayout group count).prepares.trans (Move.ask rfl).prepares

/-- A layout is kept once it is made, and those that are there stay. -/
theorem layouts_layOut (g : GpuDevice) (group count : Nat) :
    (g.layOut group count).2.layouts.get? (group, count) = some (g.layOut group count).1 ∧
      ∀ key layout, g.layouts.get? key = some layout →
        (g.layOut group count).2.layouts.get? key = some layout := by
  unfold layOut
  cases hlayout : g.layouts.get? (group, count) with
  | some layout => exact ⟨hlayout, fun _ _ => id⟩
  | none =>
    refine ⟨by simp [GpuDevice.ask], fun key layout hkey => ?_⟩
    have hne : key ≠ (group, count) := by
      rintro rfl
      rw [hlayout] at hkey
      cases hkey
    simp [GpuDevice.ask, hne, hkey]

theorem programs_layOut (g : GpuDevice) (group count : Nat) :
    (g.layOut group count).2.programs = g.programs := by
  unfold layOut
  cases g.layouts.get? (group, count) <;> rfl

theorem pipelines_layOut (g : GpuDevice) (group count : Nat) :
    (g.layOut group count).2.pipelines = g.pipelines := by
  unfold layOut
  cases g.layouts.get? (group, count) <;> rfl

theorem bindSamplers_moves (g : GpuDevice) (group : Nat) (p : LoadedProgram) :
    g.Prepares (g.bindSamplers group p).2 := layOut_moves g group p.samplers.length

theorem buildPipeline_moves (g : GpuDevice) (label : String) (vertex fragment : PipelineStage)
    (format : PixelFormat) : g.Prepares (g.buildPipeline label vertex fragment format).2 :=
  ((layOut_moves g _ _).trans (layOut_moves _ _ _)).trans (Move.ask rfl).prepares

/-- A pipeline is made with layouts that are kept. -/
theorem buildPipeline_spec (g : GpuDevice) (label : String) (vertex fragment : PipelineStage)
    (format : PixelFormat) :
    ∃ vertexLayout fragmentLayout,
      (g.buildPipeline label vertex fragment format).1 =
          { label, layout := [constantsLayout, vertexLayout, fragmentLayout]
            vertex := vertex.module, vertexEntry := vertex.entry
            fragment := fragment.module, fragmentEntry := fragment.entry
            buffers := 1, target := format } ∧
        (g.buildPipeline label vertex fragment format).2.layouts.get?
            (samplersGroup .vertex, vertex.samplers) = some vertexLayout ∧
        (g.buildPipeline label vertex fragment format).2.layouts.get?
            (samplersGroup .fragment, fragment.samplers) = some fragmentLayout ∧
        (g.buildPipeline label vertex fragment format).2.programs = g.programs := by
  obtain ⟨hvertex, -⟩ := layouts_layOut g (samplersGroup .vertex) vertex.samplers
  obtain ⟨hfragment, hstays⟩ := layouts_layOut
    (g.layOut (samplersGroup .vertex) vertex.samplers).2 (samplersGroup .fragment)
    fragment.samplers
  exact ⟨_, _, rfl, hstays _ _ hvertex, hfragment,
    (programs_layOut _ _ _).trans (programs_layOut _ _ _)⟩

/-- A pipeline that was made for two loaded programs is kept. -/
theorem keepPipeline_moves {vertex fragment : ProgramId} {vs fs : LoadedProgram}
    (hvs : g.programs.get? vertex = some vs) (hfs : g.programs.get? fragment = some fs)
    (label : String) (format : PixelFormat) {pipeline : Pipeline}
    (hbuild : g.buildPipeline label (.ofLoaded vs) (.ofLoaded fs) format = (pipeline, g')) :
    g.Prepares { g' with
      pipelines := g'.pipelines.insert (vertex, fragment, format) pipeline } := by
  have hmoves := buildPipeline_moves g label (.ofLoaded vs) (.ofLoaded fs) format
  obtain ⟨_, _, hpipeline, hvertex, hfragment, hprograms⟩ :=
    buildPipeline_spec g label (.ofLoaded vs) (.ofLoaded fs) format
  rw [hbuild] at hmoves hpipeline hvertex hfragment hprograms
  simp only at hpipeline
  subst hpipeline
  exact hmoves.trans (Move.makePipeline label format (hprograms ▸ hvs) (hprograms ▸ hfs)
    hvertex hfragment).prepares

theorem pipelineFor_moves (g : GpuDevice) (vertex fragment : ProgramId) (format : PixelFormat) :
    g.Prepares (g.pipelineFor vertex fragment format).2 := by
  unfold pipelineFor
  cases g.pipelines.get? (vertex, fragment, format) with
  | some pipeline => exact .refl g
  | none =>
    cases hvs : g.programs.get? vertex with
    | none => exact .refl g
    | some vs =>
      cases hfs : g.programs.get? fragment with
      | none => exact .refl g
      | some fs => exact keepPipeline_moves hvs hfs (fs.label ++ " pipeline") format rfl

/-- A pipeline for two loaded programs is there, or is made. -/
theorem pipelineFor_ok (g : GpuDevice) {vertex fragment : ProgramId} {vs fs : LoadedProgram}
    (hvertex : g.programs.get? vertex = some vs) (hfragment : g.programs.get? fragment = some fs)
    (format : PixelFormat) :
    ∃ pipeline, (g.pipelineFor vertex fragment format).1 = .ok pipeline := by
  unfold pipelineFor
  cases g.pipelines.get? (vertex, fragment, format) with
  | some pipeline => exact ⟨pipeline, rfl⟩
  | none =>
    simp only [hvertex, hfragment]
    exact ⟨_, rfl⟩

/-- The pipeline for two programs is kept. -/
theorem pipelines_pipelineFor {vertex fragment : ProgramId} {format : PixelFormat}
    {pipeline : Pipeline} (h : g.pipelineFor vertex fragment format = (.ok pipeline, g')) :
    g'.pipelines.get? (vertex, fragment, format) = some pipeline := by
  unfold pipelineFor at h
  cases hkept : g.pipelines.get? (vertex, fragment, format) with
  | some kept =>
    simp only [hkept, Prod.mk.injEq, Except.ok.injEq] at h
    obtain ⟨rfl, rfl⟩ := h
    exact hkept
  | none =>
    cases hvs : g.programs.get? vertex with
    | none => simp [hkept, hvs] at h
    | some vs =>
      cases hfs : g.programs.get? fragment with
      | none => simp [hkept, hvs, hfs] at h
      | some fs =>
        simp only [hkept, hvs, hfs, Prod.mk.injEq, Except.ok.injEq] at h
        obtain ⟨rfl, rfl⟩ := h
        simp

theorem blitPipelineFor_moves (g : GpuDevice) (format : PixelFormat) :
    g.Prepares (g.blitPipelineFor format).2 ∧
      (g.blitPipelineFor format).2.blitPipelines.get? format =
        some (g.blitPipelineFor format).1 := by
  unfold blitPipelineFor
  cases hkept : g.blitPipelines.get? format with
  | some pipeline => exact ⟨.refl g, hkept⟩
  | none =>
    exact ⟨(Move.makeBlit format).prepares.trans (Move.ask rfl).prepares, by
      simp [GpuDevice.ask]⟩

/-! ## Draws -/

/-- An uploaded program is clean, and one that was clean stays so. -/
theorem clean_upload {id q : ProgramId} {p : LoadedProgram}
    (h : (g.upload id).programs.get? q = some p)
    (hq : q = id ∨ ∀ p', g.programs.get? q = some p' → p'.dirty = false) : p.dirty = false := by
  unfold upload at h
  cases hp : g.programs.get? id with
  | none =>
    rw [hp] at h
    rcases hq with rfl | hclean
    · rw [hp] at h
      cases h
    · exact hclean p h
  | some p' =>
    simp only [hp] at h
    split_ifs at h with hdirty
    · simp only [ask, Table.get?_insert] at h
      split_ifs at h with hsame
      · cases h
        rfl
      · exact hq.resolve_left hsame p h
    · rcases hq with rfl | hclean
      · rw [hp] at h
        cases h
        simpa using hdirty
      · exact hclean p h

theorem sampledBy_congr (h : g'.textures = g.textures) (p : LoadedProgram) :
    g'.sampledBy p = g.sampledBy p := by
  simp only [sampledBy]
  congr 1
  funext texture
  cases texture <;> simp [sampled, h]

/-- What has a pipeline and has uploaded the numbers of both programs can draw. -/
theorem records_of_pipelineFor {vertex fragment : ProgramId} {target : Image}
    {pipeline : Pipeline} {g₁ g₂ g₃ : GpuDevice} {vs fs : LoadedProgram}
    {vertexSamplers fragmentSamplers : BindGroup}
    (hvertex : g.bound.get? .vertex = some vertex)
    (hfragment : g.bound.get? .fragment = some fragment)
    (himage : g.image g.renderTarget = .ok target)
    (hfor : g.pipelineFor vertex fragment target.format = (.ok pipeline, g₁))
    (hvs : ((g₁.upload vertex).upload fragment).programs.get? vertex = some vs)
    (hfs : ((g₁.upload vertex).upload fragment).programs.get? fragment = some fs)
    (hvertexSamplers : ((g₁.upload vertex).upload fragment).bindSamplers (samplersGroup .vertex)
      vs = (vertexSamplers, g₂))
    (hfragmentSamplers : g₂.bindSamplers (samplersGroup .fragment) fs = (fragmentSamplers, g₃))
    (vertexBytes : Nat) (indexBytes : Option Nat) (call : DrawCall) :
    g.Prepares g₃ ∧ g₃.Records vertex fragment vs fs target
      { label := fs.label, target := g₃.renderTarget, pipeline
        groups := [bindConstants vertex fragment, vertexSamplers, fragmentSamplers]
        vertexBytes, indexBytes, call } := by
  have hfirst : g.Prepares ((g₁.upload vertex).upload fragment) := by
    have hpipeline := pipelineFor_moves g vertex fragment target.format
    rw [hfor] at hpipeline
    exact hpipeline.trans
      ((Move.upload vertex).prepares.trans (Move.upload fragment).prepares)
  have hmoves₂ := bindSamplers_moves ((g₁.upload vertex).upload fragment) (samplersGroup .vertex) vs
  have hmoves₃ := bindSamplers_moves g₂ (samplersGroup .fragment) fs
  have hlaid₂ := layouts_layOut ((g₁.upload vertex).upload fragment) (samplersGroup .vertex)
    vs.samplers.length
  have hlaid₃ := layouts_layOut g₂ (samplersGroup .fragment) fs.samplers.length
  have hprograms₂ := programs_layOut ((g₁.upload vertex).upload fragment) (samplersGroup .vertex)
    vs.samplers.length
  have hprograms₃ := programs_layOut g₂ (samplersGroup .fragment) fs.samplers.length
  have hpipelines₂ := pipelines_layOut ((g₁.upload vertex).upload fragment)
    (samplersGroup .vertex) vs.samplers.length
  have hpipelines₃ := pipelines_layOut g₂ (samplersGroup .fragment) fs.samplers.length
  rw [hvertexSamplers] at hmoves₂
  rw [hfragmentSamplers] at hmoves₃
  simp only [bindSamplers, Prod.mk.injEq] at hvertexSamplers hfragmentSamplers
  obtain ⟨hgroup₂, rfl⟩ := hvertexSamplers
  obtain ⟨hgroup₃, rfl⟩ := hfragmentSamplers
  have hmoves : g.Prepares _ := hfirst.trans (hmoves₂.trans hmoves₃)
  have hback := hmoves.backstage
  refine ⟨hmoves, ?_, ?_, ?_, ?_, ⟨?_, ?_⟩, rfl, ?_, ?_, ?_⟩
  · rw [hback.bound, hvertex]
  · rw [hback.bound, hfragment]
  · rw [hprograms₃, hprograms₂, hvs]
  · rw [hprograms₃, hprograms₂, hfs]
  · exact clean_upload hvs (Or.inr fun p' hp' => clean_upload hp' (Or.inl rfl))
  · exact clean_upload hfs (Or.inl rfl)
  · rw [hback.target, hback.image, himage]
  · rw [hpipelines₃, hpipelines₂, (upload_same _ _).2.2.2.2.1, (upload_same _ _).2.2.2.2.1]
    exact pipelines_pipelineFor hfor
  · refine ⟨_, _, hlaid₃.2 _ _ hlaid₂.1, hlaid₃.1, ?_⟩
    rw [← hgroup₂, ← hgroup₃]
    rw [sampledBy_congr hmoves₃.backstage.textures vs]

theorem drawWith_moves {vertex fragment : ProgramId} (hvertex : g.bound.get? .vertex = some vertex)
    (hfragment : g.bound.get? .fragment = some fragment) (geometry : Geometry) :
    g.MovesBy (fun k => k = .backstage ∨ k = .draw) (g.drawWith vertex fragment geometry).2 := by
  unfold drawWith
  cases himage : g.image g.renderTarget with
  | error e => exact .refl g
  | ok target =>
    have hpipeline := pipelineFor_moves g vertex fragment target.format
    rcases hfor : g.pipelineFor vertex fragment target.format with ⟨_ | pipeline, g₁⟩ <;>
      rw [hfor] at hpipeline
    · simpa only [hfor] using hpipeline.within (Or.inl rfl)
    have huploaded := hpipeline.trans
      ((Move.upload vertex).prepares.trans (Move.upload fragment).prepares)
    simp only [hfor]
    cases hvs : ((g₁.upload vertex).upload fragment).programs.get? vertex with
    | none => exact huploaded.within (Or.inl rfl)
    | some vs =>
      cases hfs : ((g₁.upload vertex).upload fragment).programs.get? fragment with
      | none => exact huploaded.within (Or.inl rfl)
      | some fs =>
        obtain ⟨hmoves, hrecords⟩ := records_of_pipelineFor hvertex hfragment himage hfor hvs hfs
          rfl rfl geometry.vertexBytes geometry.indexBytes? (drawCall geometry)
        exact (hmoves.within (Or.inl rfl)).trans ((Move.draw hrecords).moves (Or.inr rfl))

theorem draw_moves (g : GpuDevice) (geometry : Geometry) :
    g.MovesBy (fun k => k = .backstage ∨ k = .draw) (g.draw geometry).2 := by
  unfold draw
  cases g.alive with
  | error e => exact .refl g
  | ok _ =>
    cases hvertex : g.bound.get? .vertex with
    | none => exact .refl g
    | some vertex =>
      cases hfragment : g.bound.get? .fragment with
      | none => exact .refl g
      | some fragment =>
        simp only
        split_ifs
        · exact .refl g
        · exact drawWith_moves hvertex hfragment geometry

/-- The device asks for a draw into its target, with two programs that are loaded. -/
theorem drawWith_stroke (g : GpuDevice) {vertex fragment : ProgramId} {label : String}
    {stage : Stage} {image : Image} (himage : g.image g.renderTarget = .ok image)
    (hvertex : (g.plate? vertex).isSome = true)
    (hfragment : g.plate? fragment = some (label, stage))
    (geometry : Geometry) :
    ∃ g₁ request, g.drawWith vertex fragment geometry = (.ok (), g₁.ask request) ∧
      g.Backstage g₁ ∧
      request.stroke? = some (.draw g.renderTarget label geometry.indexCount) := by
  obtain ⟨vs, hvs⟩ := Option.isSome_iff_exists.mp ((Option.isSome_map ..).symm.trans hvertex)
  obtain ⟨fs, hfs, _⟩ := Option.map_eq_some_iff.mp hfragment
  have hback₁ := (pipelineFor_moves g vertex fragment image.format).backstage
  obtain ⟨pipeline, hpipeline⟩ := pipelineFor_ok g hvs hfs image.format
  obtain ⟨g₁, hpipelined⟩ : ∃ g₁, g.pipelineFor vertex fragment image.format = (.ok pipeline, g₁) :=
    ⟨_, Prod.ext hpipeline rfl⟩
  rw [hpipelined] at hback₁
  have hback₂ := (hback₁.trans (backstage_upload g₁ vertex)).trans (backstage_upload _ fragment)
  have hplate : ∀ id, ((g₁.upload vertex).upload fragment).plate? id = g.plate? id :=
    hback₂.plates
  have hvertex₂ := hplate vertex
  have hfragment₂ := hplate fragment
  rw [hfragment] at hfragment₂
  obtain ⟨fs₂, hfs₂, hlabel⟩ := Option.map_eq_some_iff.mp hfragment₂
  rw [← hvertex₂] at hvertex
  obtain ⟨vs₂, hvs₂⟩ := Option.isSome_iff_exists.mp ((Option.isSome_map ..).symm.trans hvertex)
  unfold drawWith
  simp only [himage, hpipelined, hvs₂, hfs₂]
  refine ⟨_, _, rfl, (hback₂.trans (bindSamplers_moves _ _ _).backstage).trans
    (bindSamplers_moves _ _ _).backstage, ?_⟩
  have htarget := ((hback₂.trans (bindSamplers_moves _ (samplersGroup .vertex) vs₂).backstage).trans
    (bindSamplers_moves _ (samplersGroup .fragment) fs₂).backstage).target
  simp only [Request.stroke?, htarget, (Prod.mk.inj hlabel).1, drawCall, Geometry.indexCount]
  cases geometry.indices <;> rfl

/-! ## Other calls -/

theorem validate_moves (g : GpuDevice) (programs : List Program) :
    g.Prepares (g.validate programs).2 := by
  unfold validate
  cases g.alive with
  | error e => exact .refl g
  | ok _ =>
    cases checkPair programs with
    | error fault => exact .refl g
    | ok pair =>
      exact ((moduleFor_moves g pair.1).1.trans (moduleFor_moves _ pair.2).1).trans
        (buildPipeline_moves _ _ _ _ _)

/-- A texture is asked for and numbered, or nothing changes. -/
theorem createTexture_cases (g : GpuDevice) (name : String) (desc : TextureDesc) :
    (∃ e, g.createTexture name desc = (.error e, g)) ∨
      let image := Image.ofSize desc.width desc.height desc.format
      g.createTexture name desc =
        (.ok ⟨g.nextId⟩, ((g.ask (image.request name)).keep image).2) := by
  unfold createTexture
  cases g.alive with
  | error e => exact Or.inl ⟨e, rfl⟩
  | ok _ =>
    cases creationFault? desc with
    | some fault => exact Or.inl ⟨_, rfl⟩
    | none => exact Or.inr rfl

/-- A texture of the size of a file is asked for, its texels are written and it is numbered, or
nothing changes. -/
theorem loadTexture_cases (g : GpuDevice) (files : FileTree) (name path : String) :
    ((g.lost = true ∨ ∃ fault, g.imageSize files path = .error fault) ∧
      ∃ e notices, g.loadTexture files name path = (.error e, g, notices)) ∨
    ∃ size notices, (g.lost = false ∧ g.imageSize files path = .ok size) ∧
      let image := Image.ofSize size.width size.height TextureFormat.rgba8
      let texels : Request := .writeTexture size.width size.height
        (size.width * size.height * TextureFormat.rgba8.bytesPerTexel)
      g.loadTexture files name path = (.ok (⟨g.nextId⟩, .target size.width size.height .rgba8),
        (((g.ask (image.request name)).ask texels).keep image).2, notices) := by
  unfold loadTexture alive
  cases g.lost with
  | true => exact Or.inl ⟨Or.inl rfl, _, _, rfl⟩
  | false =>
    cases g.imageSize files path with
    | error fault => exact Or.inl ⟨Or.inr ⟨fault, rfl⟩, _, _, rfl⟩
    | ok size => exact Or.inr ⟨size, _, ⟨rfl, rfl⟩, rfl⟩

theorem createTexture_moves (g : GpuDevice) (name : String) (desc : TextureDesc) :
    g.MovesBy (fun k => k = .backstage ∨ k = .keep) (g.createTexture name desc).2 := by
  obtain ⟨e, heq⟩ | heq := g.createTexture_cases name desc <;> rw [heq]
  · exact .refl g
  · exact ((Move.ask rfl).moves (Or.inr rfl)).trans ((Move.keep _).moves (Or.inr rfl))

theorem loadTexture_moves (g : GpuDevice) (files : FileTree) (name path : String) :
    g.MovesBy (fun k => k = .backstage ∨ k = .keep) (g.loadTexture files name path).2.1 := by
  obtain ⟨-, e, notices, heq⟩ | ⟨size, notices, -, heq⟩ := g.loadTexture_cases files name path <;>
    rw [heq]
  · exact .refl g
  · exact (((Move.ask rfl).moves (Or.inr rfl)).trans ((Move.ask rfl).moves
      (Or.inl rfl))).trans ((Move.keep _).moves (Or.inr rfl))

/-- A program is loaded with the shader that is kept for it, unless the device is lost. -/
theorem loadProgram_spec (g : GpuDevice) (p : Program) :
    (g.lost = true ∧ g.loadProgram p = (.error .lost, g)) ∨
      ∃ g₁ module, g.Prepares g₁ ∧ g₁.modules.get? p.key = some module ∧
        g.loadProgram p = (.ok ⟨g₁.nextId⟩, { g₁ with
          nextId := g₁.nextId + 1
          programs := g₁.programs.insert ⟨g₁.nextId⟩ (.fresh p module) }) := by
  unfold loadProgram
  cases halive : g.alive with
  | error e =>
    obtain ⟨rfl, hlost⟩ := lost_of_alive halive
    exact Or.inl ⟨hlost, rfl⟩
  | ok _ =>
    obtain ⟨hmoves, hmodule⟩ := moduleFor_moves g p
    exact Or.inr ⟨(g.moduleFor p).2, (g.moduleFor p).1, hmoves, hmodule, rfl⟩

theorem loadProgram_moves (g : GpuDevice) (p : Program) :
    g.MovesBy (fun k => k = .backstage ∨ k = .load) (g.loadProgram p).2 := by
  rcases loadProgram_spec g p with ⟨-, heq⟩ | ⟨g₁, module, hmoves, hmodule, heq⟩ <;> rw [heq]
  · exact .refl g
  · exact (hmoves.within (Or.inl rfl)).trans ((Move.load p hmodule).moves (Or.inr rfl))

theorem bind_moves (g : GpuDevice) (stage : Stage) (id : ProgramId) :
    g.MovesBy (fun k => k = .backstage ∨ k = .bind) (g.bind stage id).2 := by
  unfold bind
  cases g.alive with
  | error e => exact .refl g
  | ok _ =>
    cases hp : g.programs.get? id with
    | none => exact .refl g
    | some p =>
      simp only
      split_ifs with hstage
      · exact .refl g
      · exact (Move.bind hp (not_not.mp hstage)).moves (Or.inr rfl)

theorem setTarget_moves (g : GpuDevice) (surface : Surface) :
    g.MovesBy (fun k => k = .backstage ∨ k = .aim) (g.setTarget surface).2 := by
  unfold setTarget
  cases g.alive with
  | error e => exact .refl g
  | ok _ =>
    cases himage : g.image surface with
    | error e => exact .refl g
    | ok _ => exact (Move.aim himage).moves (Or.inr rfl)

theorem copy_moves (g : GpuDevice) (source destination : Surface) :
    g.MovesBy (fun k => k = .backstage ∨ k = .copy) (g.copy source destination).2 := by
  unfold copy
  cases g.alive with
  | error e => exact .refl g
  | ok _ =>
    simp only
    split_ifs with hsame
    · exact .refl g
    · cases hsource : g.image source with
      | error e => exact .refl g
      | ok from_ =>
        cases hdestination : g.image destination with
        | error e => exact .refl g
        | ok image =>
          obtain ⟨hmoves, hkept⟩ := blitPipelineFor_moves g image.format
          have hback := hmoves.backstage
          refine (hmoves.within (Or.inl rfl)).trans ((Move.copy ⟨hsame, ⟨from_, ?_⟩,
            image, ?_, hkept⟩).moves (Or.inr rfl))
          · rw [hback.image, hsource]
          · rw [hback.image, hdestination]

theorem configure_moves (g : GpuDevice) (width height : Nat) :
    g.MovesBy (fun k => k = .backstage ∨ k = .host) (g.configure width height) := by
  unfold configure
  split_ifs
  · exact .refl g
  · cases hwindow : g.context.window with
    | none => exact .refl g
    | some window =>
      have hasked : Request.askedBy .host (.configure { window with width, height }) = true := rfl
      exact ((Move.configure hwindow width height).moves (Or.inr rfl)).trans
        ((Move.ask hasked).moves (Or.inr rfl))

theorem present_moves (g : GpuDevice) (answer : FrameAnswer) :
    g.MovesBy (fun k => k = .backstage ∨ k = .host) (g.present answer).2.1 := by
  unfold present
  cases hwindow : g.context.window with
  | none => exact .refl g
  | some window =>
    cases answer with
    | lost | outdated => exact configure_moves g _ _
    | timeout | failed => exact .refl g
    | frame =>
      obtain ⟨hmoves, hkept⟩ := blitPipelineFor_moves g window.format
      have hpresents : (g.blitPipelineFor window.format).2.Presents
          (g.blitPipelineFor window.format).1 :=
        ⟨window, (congrArg _ hmoves.backstage.context).trans hwindow, hkept⟩
      exact (hmoves.within (Or.inl rfl)).trans ((Move.present hpresents).moves (Or.inr rfl))

/-- Every call is a run of moves. -/
theorem perform_moves (g : GpuDevice) (c : DeviceCall GpuDevice) :
    g.MovesBy c.Takes (c.perform g) := by
  cases c with
  | validate programs => exact (validate_moves g programs).within (Or.inl rfl)
  | createTexture name desc => exact createTexture_moves g name desc
  | loadTexture files name path => exact loadTexture_moves g files name path
  | loadProgram p => exact loadProgram_moves g p
  | bind stage id => exact bind_moves g stage id
  | unbind stage => exact (Move.unbind stage).moves (Or.inr rfl)
  | setConstants id register values => exact (Move.write id register values).moves (Or.inr rfl)
  | setSampler id slot texture => exact (Move.sample id slot texture).moves (Or.inr rfl)
  | setTarget surface => exact setTarget_moves g surface
  | restore | enterEffectState => exact .refl g
  | draw geometry => exact draw_moves g geometry
  | copy source destination => exact copy_moves g source destination

end GpuDevice

/-- What only a graphics device takes. It can be lost at any time. -/
inductive GpuAct where
  | resize (width height : Nat)
  | clearBackbuffer
  | present (answer : FrameAnswer)
  | lose

/-- The device after such a call. -/
def GpuAct.perform : GpuAct → GpuDevice → GpuDevice
  | .resize width height, d => d.resize width height
  | .clearBackbuffer, d => d.clearBackbuffer
  | .present answer, d => (d.present answer).2.1
  | .lose, d => { d with lost := true }

/-- What only a graphics device takes is a run of moves, too. -/
theorem GpuAct.moves (a : GpuAct) (g : GpuDevice) :
    g.MovesBy (fun k => k = .backstage ∨ k = .host) (a.perform g) := by
  cases a with
  | resize width height =>
    simp only [perform, GpuDevice.resize]
    split_ifs
    · exact .refl g
    · let image := Image.ofSize width height (g.configure width height).backbuffer.format
      have hresized : (g.configure width height).Move .host
          { g.configure width height with backbuffer := image, scratch := image } :=
        .resize rfl rfl
      refine (g.configure_moves width height).trans ((hresized.moves (Or.inr rfl)).trans ?_)
      exact ((GpuDevice.Move.ask rfl).moves (Or.inr rfl)).trans
        ((GpuDevice.Move.ask rfl).moves (Or.inr rfl))
  | clearBackbuffer => exact (GpuDevice.Move.ask rfl).moves (Or.inl rfl)
  | present answer => exact g.present_moves answer
  | lose => exact GpuDevice.Move.lose.moves (Or.inr rfl)

end ShaderEffects
