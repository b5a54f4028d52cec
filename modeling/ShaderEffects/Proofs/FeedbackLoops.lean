import ShaderEffects.Proofs.GraphicsDevices
import ShaderEffects.Proofs.HookRuns

/-!
# Feedback loops

A render pass must not sample the texture into which it draws. Effects may well sample the
textures in which their own passes and techniques end. But what is drawn goes to the scratch
surface, which has no number and so is never sampled; it is copied from there, and no surface
is copied to itself. So a session asks for no such render pass, whatever its effects are and
whatever the graphics interface refuses.
-/
namespace ShaderEffects

open Gpu

/-! ## Textures of a render pass -/

namespace Gpu

/-- A texture that a graphics device holds. Each is a texture of its own. -/
inductive HeldTexture where
  | backbuffer
  | scratch
  /-- What stands in for a missing texture. -/
  | fallback
  | numbered (id : TextureId)
  /-- The frame of the window. -/
  | frame
deriving DecidableEq

namespace HeldTexture

/-- The texture behind a surface. -/
def ofSurface : Surface → HeldTexture
  | .backbuffer => .backbuffer
  | .scratch => .scratch
  | .texture id => .numbered id

/-- The texture in a bind group. -/
def ofSampled : Sampled → HeldTexture
  | .texture id => .numbered id
  | .fallback => .fallback

theorem ofSurface_injective : Function.Injective ofSurface := by
  intro surface other h
  cases surface <;> cases other <;> simp_all [ofSurface]

theorem ofSampled_ne_scratch (texture : Sampled) : ofSampled texture ≠ .scratch := by
  cases texture <;> simp [ofSampled]

end HeldTexture

/-- The texture at a binding. -/
def BindGroupEntry.texture? (entry : BindGroupEntry) : Option HeldTexture :=
  match entry.resource with
  | .texture texture => some (.ofSampled texture)
  | _ => none

/-- The texture into which a render pass draws. -/
def Request.attachment? : Request → Option HeldTexture
  | .clear => some .backbuffer
  | .draw pass => some (.ofSurface pass.target)
  | .blit pass => some (.ofSurface pass.destination)
  | .present _ => some .frame
  | _ => none

/-- The textures in the bind groups of a render pass. -/
def Request.samples : Request → List HeldTexture
  | .draw pass => pass.groups.flatMap fun group => group.entries.filterMap (·.texture?)
  | .blit pass => [.ofSurface pass.source]
  | .present _ => [.backbuffer]
  | _ => []

/-- The request is no render pass that samples the texture into which it draws. -/
def Request.LoopFree (request : Request) : Prop :=
  ∀ texture, request.attachment? = some texture → texture ∉ request.samples

theorem Request.loopFree_of_samples {request : Request} (h : request.samples = []) :
    request.LoopFree := by
  intro texture _
  simp [h]

/-- What draws into the scratch surface does not sample it. -/
theorem DrawPass.loopFree {pass : DrawPass} (h : pass.target = .scratch) :
    Request.LoopFree (.draw pass) := by
  intro texture htexture hsampled
  simp only [Request.attachment?, h, HeldTexture.ofSurface, Option.some.injEq] at htexture
  subst htexture
  obtain ⟨group, -, hgroup⟩ := List.mem_flatMap.mp hsampled
  obtain ⟨entry, -, hentry⟩ := List.mem_filterMap.mp hgroup
  unfold BindGroupEntry.texture? at hentry
  split at hentry
  · exact HeldTexture.ofSampled_ne_scratch _ (Option.some.inj hentry)
  · cases hentry

/-- A copy between two surfaces does not sample its destination. -/
theorem BlitPass.loopFree {pass : BlitPass} (h : pass.source ≠ pass.destination) :
    Request.LoopFree (.blit pass) := by
  intro texture htexture hsampled
  obtain rfl := Option.some.inj htexture
  exact h (HeldTexture.ofSurface_injective (List.mem_singleton.mp hsampled)).symm

end Gpu

/-! ## Calls of a device -/

namespace GpuDevice

variable {g g' : GpuDevice} {kind : MoveKind} {kinds : MoveKind → Prop}

/-- What a device has asked for since, and that no render pass of it is a feedback loop. -/
def LoopFreeSince (g g' : GpuDevice) : Prop :=
  Appends Request.LoopFree g.requests g'.requests

theorem LoopFreeSince.refl (g : GpuDevice) : g.LoopFreeSince g := Appends.refl g.requests

theorem LoopFreeSince.trans {g₁ g₂ g₃ : GpuDevice} (h₁ : g₁.LoopFreeSince g₂)
    (h₂ : g₂.LoopFreeSince g₃) : g₁.LoopFreeSince g₃ := Appends.trans h₁ h₂

/-- What may be asked for is no feedback loop, if draws go to the scratch surface. -/
theorem MayAsk.loopFree {request : Request} (h : g.MayAsk kind request)
    (hdraw : kind = .draw → g.renderTarget = .scratch) : request.LoopFree := by
  cases request with
  | draw pass =>
    obtain ⟨hkind, vertex, fragment, vs, fs, target, hrecords⟩ := h
    exact DrawPass.loopFree (hrecords.aimed.trans (hdraw hkind))
  | blit pass => exact BlitPass.loopFree h.2.apart
  | present pipeline =>
    rintro texture ⟨⟩
    simp [Request.samples]
  | texture | shader | layout | pipeline | writeBuffer | writeTexture | clear | configure =>
    exact Request.loopFree_of_samples rfl

theorem Move.loopFree (h : g.Move kind g') (hdraw : kind = .draw → g.renderTarget = .scratch) :
    g.LoopFreeSince g' := by
  unfold LoopFreeSince
  rcases h.requests with hsame | ⟨request, hlast, hmay⟩
  · rw [hsame]
    exact .refl g.requests
  · rw [hlast]
    exact appends_concat g.requests (hmay.loopFree hdraw)

theorem Move.target (h : g.Move kind g') (hkind : kind ≠ .aim) :
    g'.renderTarget = g.renderTarget := by
  cases h with
  | aim => exact absurd rfl hkind
  | upload id => exact (backstage_upload g id).target
  | ask | makeModule | makeLayout | makePipeline | makeBlit | keep | load | bind | unbind | write
  | sample | draw | copy | resize | configure | present | lose => rfl

/-- Moves that draw only into the scratch surface make no feedback loop. -/
theorem MovesBy.loopFree (h : g.MovesBy kinds g')
    (hdraw : kinds .draw → g.renderTarget = .scratch ∧ ¬ kinds .aim) :
    g.LoopFreeSince g' ∧ (¬ kinds .aim → g'.renderTarget = g.renderTarget) := by
  refine h.preserve (P := fun g' => g.LoopFreeSince g' ∧
    (¬ kinds .aim → g'.renderTarget = g.renderTarget)) (fun k g₁ g₂ hk hmove h₁ => ?_)
    ⟨.refl g, fun _ => rfl⟩
  refine ⟨h₁.1.trans (hmove.loopFree ?_), fun haim => ?_⟩
  · rintro rfl
    obtain ⟨htarget, haim⟩ := hdraw hk
    exact (h₁.2 haim).trans htarget
  · exact (hmove.target fun hkind => haim (hkind ▸ hk)).trans (h₁.2 haim)

end GpuDevice

namespace DeviceCall

variable {D : Type} [Device D] {c : DeviceCall D}

theorem moveKind_of_binds (h : c.binds = true ∨ c.sparesPrograms = false) :
    c.moveKind ≠ .aim ∧ c.moveKind ≠ .draw := by
  cases c with
  | loadProgram | bind | unbind | setConstants | setSampler => exact ⟨nofun, nofun⟩
  | validate | createTexture | loadTexture | setTarget | restore | enterEffectState | draw | copy =>
    rcases h with h | h <;> cases h

theorem moveKind_of_prepares (h : c.prepares = true) : c.moveKind ≠ .draw := by
  cases c with
  | validate | createTexture | loadTexture => exact nofun
  | loadProgram | bind | unbind | setConstants | setSampler | setTarget | restore
  | enterEffectState | draw | copy => cases h

end DeviceCall

/-! ## Graphics devices -/

theorem GpuDevice.target_setTarget {g g' : GpuDevice} {surface : Surface}
    (h : g.setTarget surface = (.ok (), g')) : g'.renderTarget = surface := by
  unfold setTarget at h
  cases halive : g.alive with
  | error e => simp [halive] at h
  | ok _ =>
    cases himage : g.image surface with
    | error e => simp [halive, himage] at h
    | ok image =>
      simp only [halive, himage, Prod.mk.injEq, true_and] at h
      rw [← h]

namespace Graphics

variable {D : Type} [Device D] [Graphics D] {g : GpuDevice} {d : D}

theorem aimed {d' : D} {surface : Surface} (h : Device.setTarget d surface = (.ok (), d')) :
    (gpu d').renderTarget = surface := by
  have haims := aims d surface
  rw [h] at haims
  exact GpuDevice.target_setTarget haims.symm

/-- A call makes no feedback loop, if draws go to the scratch surface. -/
theorem perform_loopFree (d : D) {c : DeviceCall D}
    (hdraw : c.moveKind = .draw → (gpu d).renderTarget = .scratch) :
    (gpu d).LoopFreeSince (gpu (c.perform d)) ∧
      (c.moveKind ≠ .aim → (gpu (c.perform d)).renderTarget = (gpu d).renderTarget) := by
  obtain ⟨hfree, htarget⟩ := (moves d c).loopFree fun hk => by
    have hkind : c.moveKind = .draw := (hk.resolve_left nofun).symm
    refine ⟨hdraw hkind, fun haim => ?_⟩
    cases hkind.symm.trans (haim.resolve_left nofun).symm
  refine ⟨hfree, fun hkind => htarget fun haim => ?_⟩
  exact hkind (haim.resolve_left nofun).symm

/-- No feedback loop was asked for since, and draws go to the scratch surface. -/
def DrawsAside (g : GpuDevice) (d : D) : Prop :=
  g.LoopFreeSince (gpu d) ∧ (gpu d).renderTarget = .scratch

theorem DrawsAside.perform (h : DrawsAside g d) {c : DeviceCall D} (hc : c.moveKind ≠ .aim) :
    DrawsAside g (c.perform d) := by
  obtain ⟨hfree, htarget⟩ := perform_loopFree d (c := c) fun _ => h.2
  exact ⟨h.1.trans hfree, (htarget hc).trans h.2⟩

end Graphics

/-! ## What a renderer asks for -/

namespace Renderer

open Graphics

variable {D : Type} [Device D] [Graphics D] {r r' : Renderer D} {g : GpuDevice}

/-- No feedback loop was asked for between two states of a renderer. -/
def LoopFreeTo (r r' : Renderer D) : Prop := (gpu r.device).LoopFreeSince (gpu r'.device)

theorem LoopFreeTo.refl (r : Renderer D) : r.LoopFreeTo r := GpuDevice.LoopFreeSince.refl _

theorem LoopFreeTo.trans {r₁ r₂ r₃ : Renderer D} (h₁ : r₁.LoopFreeTo r₂)
    (h₂ : r₂.LoopFreeTo r₃) : r₁.LoopFreeTo r₃ := GpuDevice.LoopFreeSince.trans h₁ h₂

/-- Loading, binding and handing values over makes no feedback loop. -/
theorem StepsBy.loopFree {hands : Prop} (h : r.StepsBy DeviceCall.binds hands r') :
    r.LoopFreeTo r' :=
  h.device_keep (P := fun d => (gpu r.device).LoopFreeSince (gpu d))
    (fun d _ hc hd => hd.trans
      (perform_loopFree d fun hdraw => absurd hdraw (DeviceCall.moveKind_of_binds hc).2).1)
    (.refl _)

theorem StepsBy.drawsAside {hands : Prop} (h : r.StepsBy DeviceCall.binds hands r')
    (hr : DrawsAside g r.device) : DrawsAside g r'.device :=
  h.device_keep (P := DrawsAside g)
    (fun _ _ hc hd => hd.perform (DeviceCall.moveKind_of_binds hc).1) hr

/-- As long as it does not aim elsewhere, a renderer draws into the scratch surface. -/
theorem Turn.drawsAside {ok : Pass → Prop} (h : r.Turn ok False r')
    (hr : DrawsAside g r.device) : DrawsAside g r'.device := by
  cases h with
  | note | quad => exact hr
  | load pass => exact (loadPrograms_steps r pass.programs).drawsAside hr
  | bind scene effect => exact (bindPass_steps r scene effect _).drawsAside hr
  | free => exact (unbindPass_steps r).drawsAside hr
  | apply scene id => exact (applyParameter_steps r scene id).drawsAside hr
  | draw geometry =>
    have hentered := hr.perform (c := .enterEffectState) nofun
    have hdrawn := hentered.perform (c := .draw (geometry.getD r.quad.geometry)) nofun
    exact hdrawn.perform (c := .restore (Device.capture r.device)) nofun
  | copy source destination => exact hr.perform (c := .copy source destination) nofun
  | aim _ haims => exact haims.elim

theorem restoreTarget_loopFree (r : Renderer D) (target : Surface) :
    r.LoopFreeTo (r.restoreTarget target) := by
  have haim := (perform_loopFree r.device (c := .setTarget target) nofun).1
  unfold restoreTarget
  rcases ht : Device.setTarget r.device target with ⟨_ | _, device⟩ <;>
    simp only [DeviceCall.perform, ht] at haim <;> exact haim

/-- The passes of a technique are drawn into the scratch surface, if it can be chosen. -/
theorem runTechnique_loopFree (r : Renderer D) (scene : Scene) (effect : Effect)
    (technique : Technique) (geometry : Option Geometry) :
    r.LoopFreeTo (r.runTechnique scene effect technique geometry).2 := by
  have haim := (perform_loopFree r.device (c := .setTarget .scratch) nofun).1
  rcases ht : Device.setTarget r.device .scratch with ⟨e | _, device⟩ <;>
    simp only [DeviceCall.perform, ht] at haim
  · unfold runTechnique
    simp only [ht]
    exact haim
  · have hturns : ({ r with device := (Device.setTarget r.device .scratch).2 } :
        Renderer D).Turns (fun _ => True) False
          (r.runTechnique scene effect technique geometry).2 :=
      runTechnique_turns r scene effect geometry fun _ _ _ => trivial
    rw [ht] at hturns
    exact (hturns.keep (P := fun r' => DrawsAside (gpu r.device) r'.device)
      (fun _ _ hturn => hturn.drawsAside) ⟨haim, aimed ht⟩).1

theorem drawTechnique_loopFree (r : Renderer D) (scene : Scene) (effect : Effect)
    (technique : Technique) (geometry : Option Geometry) :
    r.LoopFreeTo (r.drawTechnique scene effect technique geometry).2 := by
  unfold drawTechnique
  split_ifs
  · exact .refl r
  · exact .refl r
  · have hrun := runTechnique_loopFree r.fitQuad scene effect technique geometry
    simp only
    rcases hr : r.fitQuad.runTechnique scene effect technique geometry with ⟨result, r₁⟩
    rw [hr, LoopFreeTo, fitQuad_device] at hrun
    have hrestored : r.LoopFreeTo (r₁.restoreTarget (Device.target r.fitQuad.device)) :=
      LoopFreeTo.trans hrun (restoreTarget_loopFree r₁ _)
    cases result <;> exact hrestored

theorem drawEffect_loopFree (r : Renderer D) (scene : Scene) (effect : Effect)
    (geometry : Option Geometry) : r.LoopFreeTo (r.drawEffect scene effect geometry).2 := by
  unfold drawEffect
  cases effect.default? with
  | none => exact .refl r
  | some technique => exact drawTechnique_loopFree r scene effect technique geometry

end Renderer

/-- A hook makes no feedback loop, whatever it binds and draws. -/
theorem Engine.hook_loopFree {D : Type} [Device D] [Graphics D] (e : Engine D) (hook : Hook) :
    e.renderer.LoopFreeTo (e.hook hook).renderer := by
  cases hook with
  | loadPass pass => exact (Renderer.loadPrograms_steps e.renderer pass.programs).loopFree
  | bindPass scene effect pass =>
    exact (Renderer.bindPass_steps e.renderer scene effect pass).loopFree
  | unbindPass => exact (Renderer.unbindPass_steps e.renderer).loopFree
  | applyParameter scene id => exact (Renderer.applyParameter_steps e.renderer scene id).loopFree
  | connectTexture textures id texture => exact (Renderer.connected_steps e.renderer _ id).loopFree
  | drawEffect scene effect geometry =>
    exact Renderer.drawEffect_loopFree e.renderer scene effect geometry
  | drawTechnique scene effect technique geometry =>
    exact Renderer.drawTechnique_loopFree e.renderer scene effect technique geometry

/-! ## Runs -/

namespace Host

open Graphics

variable {D : Type} [Device D] [Graphics D] {host : Host D}

/-- An operation asks for no feedback loop, unless it is a draw past the session. -/
theorem stepHook_loopFree {op : HookOp D GpuAct}
    (hop : ∀ geometry, op ≠ .session (.call (.draw geometry))) :
    host.engine.renderer.LoopFreeTo (host.stepHook act op).engine.renderer := by
  cases op with
  | hook hook => exact host.engine.hook_loopFree hook
  | session op =>
    refine host.step_renderer_keep (P := host.engine.renderer.LoopFreeTo) act op ?_ ?_ ?_ ?_ ?_ ?_
      (.refl _)
    · intro r r' hact hr
      cases hact with
      | note => exact hr
      | copy source destination =>
        exact hr.trans (perform_loopFree r.device (c := .copy source destination) nofun).1
      | effect scene geometry _ => exact hr.trans (Renderer.drawEffect_loopFree r scene _ geometry)
    · intro r c hc hr
      exact hr.trans (perform_loopFree r.device fun hdraw =>
        absurd hdraw (DeviceCall.moveKind_of_prepares hc)).1
    · exact fun r hr => hr.trans (Renderer.unbindPass_steps r).loopFree
    · exact fun r scene id hr => hr.trans (Renderer.applyParameter_steps r scene id).loopFree
    · intro r c hcall hr
      refine hr.trans (perform_loopFree r.device fun hkind => ?_).1
      cases c with
      | draw geometry => exact absurd (congrArg HookOp.session hcall) (hop geometry)
      | _ => cases hkind
    · intro r a _ hr
      refine hr.trans ?_
      rw [Renderer.LoopFreeTo, acts]
      exact ((a.moves (gpu r.device)).loopFree fun hk => by rcases hk with hk | hk <;> cases hk).1

/-- No render pass that a session asks for samples the texture into which it draws: whatever
the graphics interface refuses, whatever effects are loaded, whatever textures they sample and
end in, and whatever else the host does, as long as it leaves drawing to the session. -/
theorem no_feedback {device : D} {settings : Settings} {compiler : Compiler} {now : Int}
    {session : Session D} {engine : Engine D}
    (hcreate : Session.create device settings compiler now = (.ok session, engine))
    {ops : List (HookOp D GpuAct)}
    (hops : ∀ op ∈ ops, ∀ geometry, op ≠ .session (.call (.draw geometry))) {host : Host D}
    (hrun : ({ session } : Host D).runHooks act ops = host) :
    ∃ asked, (gpu host.engine.device).requests = (gpu device).requests ++ asked ∧
      ∀ request ∈ asked, ∀ texture, request.attachment? = some texture →
        texture ∉ request.samples := by
  have hset : (gpu device).LoopFreeSince (gpu session.engine.renderer.device) := by
    refine Session.create_keep (P := fun e => (gpu device).LoopFreeSince (gpu e.renderer.device))
      ?_ ?_ hcreate (.refl _)
    · intro e e' hstep he
      rcases hstep.renderer_cases with heq | ⟨notices, heq⟩ | ⟨c, hc, heq⟩ <;> rw [heq]
      · exact he
      · exact he
      · exact he.trans (perform_loopFree e.renderer.device fun hdraw =>
          absurd hdraw (DeviceCall.moveKind_of_prepares hc)).1
    · intro e name type he
      obtain ⟨parameters, notices, heq⟩ := e.tunes_createVirtual name type
      rw [heq]
      exact he
  rw [← hrun]
  exact runHooks_keep
    (P := fun host => (gpu device).LoopFreeSince (gpu host.engine.renderer.device))
    (fun host op hop h => h.trans (stepHook_loopFree (hops op hop))) hset

/-- An effect that samples the texture in which its pass ends. -/
def looping : String :=
  "[\"fx\", [[\"s\", \"sampler2D\", [], \x7b\"texture\": \":lastpass\"\x7d]], " ++
  "[[\"t\", \x7b\x7d, [[\"p\", \x7b\"target\": \":lastpass\"\x7d, " ++
  "[\"wgsl\", \"main\", \"\"], [\"wgsl\", \"main\", \"s\"]]]]]]"

/-- The effect is drawn, and each render pass of the frame draws into one texture and samples
another one. -/
theorem no_feedback_looping :
    ∃ (session : Session GpuDevice) (engine : Engine GpuDevice) (host : Host GpuDevice)
      (asked : List Request),
      Session.create (GpuDevice.ofSize .plain 4 4) { builtinParameters := false }
          (Session.searching {} {}) 0 = (.ok session, engine) ∧
        ({ session } : Host GpuDevice).runHooks act
          [.session (.load "fx.json" looping), .session (.frame 0 none)] = host ∧
        host.engine.device.requests = (GpuDevice.ofSize .plain 4 4).requests ++ asked ∧
        asked.filterMap (fun request => request.attachment?.map (·, request.samples)) =
          [(.numbered ⟨3⟩, [.backbuffer]), (.scratch, [.numbered ⟨1⟩]),
            (.numbered ⟨1⟩, [.scratch]), (.numbered ⟨2⟩, [.numbered ⟨1⟩]),
            (.backbuffer, [.numbered ⟨2⟩]), (.numbered ⟨4⟩, [.backbuffer])] ∧
        ∀ request ∈ asked, ∀ texture, request.attachment? = some texture →
          texture ∉ request.samples := by
  have hdrawn : (Session.create (GpuDevice.ofSize .plain 4 4) { builtinParameters := false }
        (Session.searching {} {}) 0).1.toOption.map (fun session =>
      (({ session } : Host GpuDevice).runHooks act
          [.session (.load "fx.json" looping),
            .session (.frame 0 none)]).engine.device.requests.filterMap
        fun request => request.attachment?.map (·, request.samples)) =
      some [(.numbered ⟨3⟩, [.backbuffer]), (.scratch, [.numbered ⟨1⟩]),
        (.numbered ⟨1⟩, [.scratch]), (.numbered ⟨2⟩, [.numbered ⟨1⟩]),
        (.backbuffer, [.numbered ⟨2⟩]), (.numbered ⟨4⟩, [.backbuffer])] := by decide +kernel
  obtain ⟨session, hsession, hpasses⟩ := Option.map_eq_some_iff.mp hdrawn
  have hcreate := eq_ok_of_toOption hsession
  have hops : ∀ op ∈ [(.session (.load "fx.json" looping) : HookOp GpuDevice GpuAct),
      .session (.frame 0 none)], ∀ geometry, op ≠ .session (.call (.draw geometry)) := by simp
  obtain ⟨asked, hasked, hfree⟩ := no_feedback hcreate hops rfl
  refine ⟨session, _, _, asked, hcreate, rfl, hasked, ?_, hfree⟩
  have hall := congrArg (List.filterMap
    fun request : Request => request.attachment?.map (·, request.samples)) hasked
  rw [List.filterMap_append] at hall
  exact hall.symm.trans hpasses

end Host

end ShaderEffects
