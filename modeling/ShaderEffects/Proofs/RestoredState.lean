import ShaderEffects.Proofs.FrameRuns
import ShaderEffects.Proofs.HookRuns

/-!
# What drawing puts back

However drawing ends, the device without a screen is left in the render state of the
host and, unless it is lost, with the target of the host. In between it draws into the
scratch surface only, with depth test, blending and culling off.
-/
namespace ShaderEffects

/-- A call that, if it is a draw, goes to a surface without depth test, blending and
culling. -/
def HeadlessCall.DrawsPlainly (surface : Surface) : HeadlessCall → Prop
  | .draw aimed _ state => aimed = surface ∧ state.depthTest = false ∧
      state.alphaBlend = false ∧ state.culling = false
  | _ => True

namespace HeadlessDevice

/-! ## Devices that can be reached -/

/-- A device after any calls, also of those that set it up. -/
inductive Reachable : HeadlessDevice → Prop
  | ofSize (width height : Nat) : Reachable (ofSize width height)
  | withoutProfile {d : HeadlessDevice} (profile : String) :
      Reachable d → Reachable (d.withoutProfile profile)
  | failingBind {d : HeadlessDevice} (label : String) : Reachable d → Reachable (d.failingBind label)
  | failingLoad {d : HeadlessDevice} (label : String) : Reachable d → Reachable (d.failingLoad label)
  | losingAfter {d : HeadlessDevice} (draws : Nat) : Reachable d → Reachable (d.losingAfter draws)
  | call {d : HeadlessDevice} (c : DeviceCall HeadlessDevice) : Reachable d → Reachable (c.perform d)
  | act {d : HeadlessDevice} (a : HeadlessAct) : Reachable d → Reachable (a.perform d)

variable {d d' : HeadlessDevice}

theorem checkSurface_outlives (h : d.Outlives d') {surface : Surface}
    (hsurface : d.checkSurface surface = .ok ()) : d'.checkSurface surface = .ok () := by
  cases surface with
  | backbuffer | scratch => rfl
  | texture id =>
    simp only [checkSurface] at hsurface ⊢
    split_ifs at hsurface with hid
    rw [if_pos (h.textures id hid)]

/-- The device has the surface that it draws into. -/
def Aimed (d : HeadlessDevice) : Prop := d.checkSurface d.renderTarget = .ok ()

theorem Aimed.outlives (h : d.Aimed) (ho : d.Outlives d')
    (htarget : d'.renderTarget = d.renderTarget) : d'.Aimed := by
  unfold Aimed
  rw [htarget]
  exact checkSurface_outlives ho h

theorem Aimed.perform (h : d.Aimed) (c : DeviceCall HeadlessDevice) : (c.perform d).Aimed := by
  have ho := outlives_perform d c
  cases c with
  | setTarget surface =>
    rcases setTarget_cases d surface with ⟨e, heq, _⟩ | ⟨_, hsurface, heq⟩
    · simp only [DeviceCall.perform, device_setTarget, heq]
      exact h
    · simp only [DeviceCall.perform, device_setTarget, heq]
      exact hsurface
  | validate | unbind | setConstants | setSampler | restore | enterEffectState => exact h
  | createTexture name desc =>
    refine h.outlives ho ?_
    rcases d.createTexture_cases name desc with ⟨e, heq⟩ | heq <;>
      simp only [DeviceCall.perform, device_createTexture, heq]
  | loadTexture files name path =>
    refine h.outlives ho ?_
    rcases d.loadTexture_cases files name path with ⟨e, heq⟩ | ⟨desc, contents, heq⟩ <;>
      simp only [DeviceCall.perform, device_loadTexture, heq]
  | loadProgram p =>
    refine h.outlives ho ?_
    rcases loadProgram_cases d p with ⟨e, heq⟩ | heq <;>
      simp only [DeviceCall.perform, device_loadProgram, heq]
  | bind stage id =>
    refine h.outlives ho ?_
    rcases bind_cases d stage id with ⟨e, heq⟩ | ⟨label, heq⟩ <;>
      simp only [DeviceCall.perform, device_bind, heq]
  | draw geometry =>
    refine h.outlives ho ?_
    rcases d.draw_cases geometry with ⟨e, heq⟩ | heq | ⟨contents, left, heq⟩ <;>
      simp only [DeviceCall.perform, device_draw, heq]
    rfl
  | copy source destination =>
    refine h.outlives ho ?_
    rcases d.copy_cases source destination with ⟨e, heq⟩ | heq <;>
      simp only [DeviceCall.perform, device_copy, heq]

theorem Reachable.aimed (h : d.Reachable) : d.Aimed := by
  induction h with
  | ofSize => rfl
  | withoutProfile | failingBind | failingLoad | losingAfter => assumption
  | call c _ ih => exact ih.perform c
  | act a _ ih => cases a <;> exact ih

/-! ## What a draw leaves -/

/-- The device aims where it aimed, in the state it was in, and what was drawn since was
drawn plainly into a surface. -/
structure Leaves (surface : Surface) (d d' : HeadlessDevice) : Prop where
  state : d'.state = d.state
  target : d'.renderTarget = d.renderTarget
  calls : ∃ calls, d'.calls = d.calls ++ calls ∧ ∀ c ∈ calls, c.DrawsPlainly surface

variable {surface : Surface}

theorem Leaves.refl (d : HeadlessDevice) : d.Leaves surface d :=
  ⟨rfl, rfl, Appends.refl d.calls⟩

theorem Leaves.trans {d₁ d₂ d₃ : HeadlessDevice} (h₁ : d₁.Leaves surface d₂)
    (h₂ : d₂.Leaves surface d₃) : d₁.Leaves surface d₃ :=
  ⟨h₂.state.trans h₁.state, h₂.target.trans h₁.target, Appends.trans h₁.calls h₂.calls⟩

theorem Leaves.recorded (hstate : d'.state = d.state) (htarget : d'.renderTarget = d.renderTarget)
    {c : HeadlessCall} (hcalls : d'.calls = d.calls ++ [c]) (hplain : c.DrawsPlainly surface) :
    d.Leaves surface d' := ⟨hstate, htarget, hcalls ▸ appends_concat d.calls hplain⟩

/-- Calls about programs draw nothing. -/
theorem leaves_perform (d : HeadlessDevice) {c : DeviceCall HeadlessDevice}
    (hc : c.sparesPrograms = false) : d.Leaves surface (c.perform d) := by
  cases c with
  | validate | createTexture | loadTexture | setTarget | restore | enterEffectState | draw
  | copy => cases hc
  | unbind stage => exact .recorded rfl rfl rfl trivial
  | setConstants | setSampler => exact ⟨rfl, rfl, Appends.refl d.calls⟩
  | loadProgram p =>
    rcases loadProgram_cases d p with ⟨e, heq⟩ | heq <;>
      simp only [DeviceCall.perform, device_loadProgram, heq]
    · exact .refl d
    · exact .recorded rfl rfl rfl trivial
  | bind stage id =>
    rcases bind_cases d stage id with ⟨e, heq⟩ | ⟨label, heq⟩ <;>
      simp only [DeviceCall.perform, device_bind, heq]
    · exact .refl d
    · exact .recorded rfl rfl rfl trivial

theorem leaves_copy (d : HeadlessDevice) (source destination : Surface) :
    d.Leaves surface (d.copy source destination).2 := by
  rcases d.copy_cases source destination with ⟨e, heq⟩ | heq <;> rw [heq]
  · exact .refl d
  · exact .recorded rfl rfl rfl trivial

/-- A draw in the state of effects, after which the state of before is put back. -/
theorem leaves_drawBound (d : HeadlessDevice) (geometry : Geometry) :
    d.Leaves d.renderTarget
      { ({ d with state := .effect } : HeadlessDevice).draw geometry |>.2 with
        state := d.state } := by
  rcases draw_cases { d with state := .effect } geometry with
    ⟨e, heq⟩ | heq | ⟨contents, left, heq⟩ <;> rw [heq]
  · exact .refl d
  · exact ⟨rfl, rfl, Appends.refl d.calls⟩
  · exact .recorded rfl rfl rfl ⟨rfl, rfl, rfl, rfl⟩

end HeadlessDevice

namespace Renderer

open HeadlessDevice

variable {r r' : Renderer HeadlessDevice}

theorem StepsBy.aimed {kind : DeviceCall HeadlessDevice → Bool} {hands : Prop}
    (h : r.StepsBy kind hands r') (hr : r.device.Aimed) : r'.device.Aimed :=
  h.device_keep (P := Aimed) (fun _ c _ hd => hd.perform c) hr

theorem StepsBy.leaves {surface : Surface} {hands : Prop}
    (h : r.StepsBy DeviceCall.binds hands r') : r.device.Leaves surface r'.device := by
  refine h.device_keep (P := r.device.Leaves surface) (fun d c hc hd => ?_) (.refl r.device)
  have hspares : c.sparesPrograms = false := by
    rcases hc with hc | hc
    · cases c <;> first | rfl | cases hc
    · exact hc
  exact hd.trans (leaves_perform d hspares)

/-- A turn that does not aim elsewhere draws into the surface that the device aims at. -/
theorem Turn.leaves {ok : Pass → Prop} {surface : Surface} (h : r.Turn ok False r')
    (htarget : r.device.renderTarget = surface) : r.device.Leaves surface r'.device := by
  cases h with
  | note | quad => exact .refl r.device
  | load pass => exact (loadPrograms_steps r pass.programs).leaves
  | bind scene effect => exact (bindPass_steps r scene effect _).leaves
  | free => exact (unbindPass_steps r).leaves
  | apply scene id => exact (applyParameter_steps r scene id).leaves
  | draw geometry => exact htarget ▸ leaves_drawBound r.device (geometry.getD r.quad.geometry)
  | copy source destination => exact leaves_copy r.device source destination
  | aim surface haims => exact haims.elim

theorem Turns.leaves {ok : Pass → Prop} {surface : Surface} (h : r.Turns ok False r')
    (htarget : r.device.renderTarget = surface) : r.device.Leaves surface r'.device :=
  h.keep (P := fun s => r.device.Leaves surface s.device)
    (fun _ _ hturn hr => hr.trans (hturn.leaves (hr.target.trans htarget))) (.refl r.device)

/-! ## What drawing restores -/

/-- What a host finds as it was after drawing, and how was drawn meanwhile. -/
structure Restores (r r' : Renderer HeadlessDevice) : Prop where
  state : r'.device.state = r.device.state
  target : r'.device.lost = false → r'.device.renderTarget = r.device.renderTarget
  unbound : r.bound = none → r'.bound = none
  calls : ∃ calls, r'.device.calls = r.device.calls ++ calls ∧
    ∀ c ∈ calls, c.DrawsPlainly .scratch

theorem Restores.refl (r : Renderer HeadlessDevice) : r.Restores r :=
  ⟨rfl, fun _ => rfl, fun h => h, Appends.refl r.device.calls⟩

theorem Restores.trans {r₁ r₂ r₃ : Renderer HeadlessDevice} (h₁ : r₁.Restores r₂)
    (h₂ : r₂.Restores r₃) (ho : r₂.device.Outlives r₃.device) : r₁.Restores r₃ := by
  refine ⟨h₂.state.trans h₁.state, fun halive => ?_, fun h => h₂.unbound (h₁.unbound h),
    Appends.trans h₁.calls h₂.calls⟩
  have hbefore : r₂.device.lost = false := by
    by_contra hlost
    rw [ho.lost (Bool.not_eq_false _ ▸ hlost)] at halive
    cases halive
  rw [h₂.target halive, h₁.target hbefore]

/-- A device that aimed at the scratch surface meanwhile is aimed where it was before,
unless it is lost. -/
theorem restoreTarget_restores (r r' : Renderer HeadlessDevice) (haimed : r.device.Aimed)
    (ho : r.device.Outlives r'.device) (hunbound : r.bound = none → r'.bound = none)
    (hleaves : Leaves .scratch { r.device with
      renderTarget := .scratch
      calls := r.device.calls ++ [.target .scratch] } r'.device) :
    r.Restores (r'.restoreTarget r.device.renderTarget) := by
  obtain ⟨calls, hcalls, hplain⟩ := hleaves.calls
  have hsurface := checkSurface_outlives ho haimed
  unfold restoreTarget
  rcases setTarget_cases r'.device r.device.renderTarget with ⟨e, heq, hfailed⟩ | ⟨_, _, heq⟩
  · simp only [device_setTarget, heq]
    refine ⟨hleaves.state, fun halive => ?_, hunbound, .target .scratch :: calls, ?_, ?_⟩
    · rcases hfailed with hlost | hunknown
      · exact absurd (halive.symm.trans hlost) Bool.false_ne_true
      · rw [hsurface] at hunknown
        cases hunknown
    · simpa [note] using hcalls
    · intro c hc
      rcases List.mem_cons.mp hc with rfl | hc
      · trivial
      · exact hplain c hc
  · simp only [device_setTarget, heq]
    refine ⟨hleaves.state, fun _ => rfl, hunbound,
      .target .scratch :: calls ++ [.target r.device.renderTarget], ?_, ?_⟩
    · rw [hcalls]
      simp
    · intro c hc
      simp only [List.cons_append, List.mem_cons, List.mem_append, List.not_mem_nil,
        or_false] at hc
      rcases hc with rfl | hc | rfl
      · trivial
      · exact hplain c hc
      · trivial

theorem drawTechnique_restores (r : Renderer HeadlessDevice) (haimed : r.device.Aimed)
    (scene : Scene) (effect : Effect) (technique : Technique) (geometry : Option Geometry) :
    r.Restores (r.drawTechnique scene effect technique geometry).2 := by
  unfold drawTechnique
  split_ifs with _ hlost
  · exact ⟨rfl, fun _ => rfl, id, [], (List.append_nil _).symm, by simp⟩
  · exact .refl r
  · obtain ⟨_, _, hset⟩ := (setTarget_cases r.device .scratch).resolve_left (by
      rintro ⟨e, _, hgone | hunknown⟩
      · exact hlost hgone
      · cases hunknown)
    have hrun : ({ r.fitQuad with device := (Device.setTarget r.fitQuad.device .scratch).2 } :
        Renderer HeadlessDevice).Turns (fun _ => True) False
        (r.fitQuad.runTechnique scene effect technique geometry).2 :=
      runTechnique_turns r.fitQuad scene effect geometry fun _ _ _ => trivial
    have hunbound := fun h : r.bound = none => runTechnique_bound
      ((fitQuad_bound r).trans h) scene effect technique geometry
    have haims : (Device.setTarget r.fitQuad.device .scratch).2.renderTarget = .scratch := by
      simp [fitQuad_device, hset]
    have hleaves := hrun.leaves haims
    have houtlives := hrun.steps.outlives
    simp only [fitQuad_device, device_setTarget, hset] at hleaves houtlives
    have ho := (outlives_perform r.device (.setTarget .scratch))
    simp only [DeviceCall.perform, device_setTarget, hset] at ho
    simp only [fitQuad_device, device_target]
    rcases hr : r.fitQuad.runTechnique scene effect technique geometry with ⟨result, r₁⟩
    rw [hr] at hleaves houtlives hunbound
    have hrestores := restoreTarget_restores r r₁ haimed (ho.trans houtlives) hunbound hleaves
    cases result with
    | ok report => exact hrestores
    | error e => exact ⟨hrestores.state, hrestores.target, hrestores.unbound, hrestores.calls⟩

theorem drawEffect_restores (r : Renderer HeadlessDevice) (haimed : r.device.Aimed)
    (scene : Scene) (effect : Effect) (geometry : Option Geometry) :
    r.Restores (r.drawEffect scene effect geometry).2 := by
  unfold drawEffect
  cases effect.default? with
  | some technique => exact drawTechnique_restores r haimed scene effect technique geometry
  | none => exact ⟨rfl, fun _ => rfl, id, [], (List.append_nil _).symm, by simp⟩

theorem Act.restores {drawn : Effect → Prop} (h : r.Act drawn r') (haimed : r.device.Aimed) :
    r.Restores r' := by
  cases h with
  | note notices => exact ⟨rfl, fun _ => rfl, id, [], (List.append_nil _).symm, by simp⟩
  | copy source destination =>
    obtain ⟨hstate, htarget, hcalls⟩ := leaves_copy r.device source destination
    exact ⟨hstate, fun _ => htarget, id, hcalls⟩
  | effect scene geometry => exact drawEffect_restores r haimed scene _ geometry

theorem Acts.restores {drawn : Effect → Prop} (h : r.Acts drawn r') (haimed : r.device.Aimed) :
    r.Restores r' := by
  have hkept : r.Restores r' ∧ r'.device.Aimed := by
    refine h.keep (P := fun s => r.Restores s ∧ s.device.Aimed) ?_ ⟨.refl r, haimed⟩
    intro r₁ r₂ hact ⟨hrestores, haimed₁⟩
    have hsteps := hact.acts.steps
    exact ⟨hrestores.trans (hact.restores haimed₁) hsteps.outlives, hsteps.aimed haimed₁⟩
  exact hkept.1

theorem StepsBy.reachable {kind : DeviceCall HeadlessDevice → Bool} {hands : Prop}
    (h : r.StepsBy kind hands r') (hr : r.device.Reachable) : r'.device.Reachable :=
  h.device_keep (P := Reachable) (fun _ c _ hd => hd.call c) hr

end Renderer

theorem Session.renderFrame_restores (session : Session HeadlessDevice)
    (haimed : session.engine.device.Aimed) (now : Int) (geometry : Option Geometry) :
    session.engine.renderer.Restores (session.renderFrame now geometry).2.engine.renderer := by
  rw [renderFrame_eq]
  split_ifs
  · exact .refl _
  · obtain ⟨writes, hprepared⟩ := session.prepared_eq now
    rw [hprepared]
    obtain ⟨renderer, heq, hacts⟩ := drawFrame_acts
      { session.engine with parameters := written session.engine.parameters writes } geometry
    rw [heq]
    exact hacts.restores haimed

namespace Host

theorem stepHook_reachable {host : Host HeadlessDevice} (h : host.engine.device.Reachable)
    (op : HookOp HeadlessDevice HeadlessAct) :
    (host.stepHook HeadlessAct.perform op).engine.device.Reachable := by
  cases op with
  | session op =>
    have hcalls : op.calls (fun _ => true) = true := by cases op <;> rfl
    rcases host.step_renderer (fun _ _ => rfl) HeadlessAct.perform hcalls (Or.inl trivial)
      with hsteps | ⟨a, -, heq⟩
    · exact hsteps.reachable h
    · have hact : (a.perform host.engine.device).Reachable := h.act a
      simp only [stepHook, Engine.device, heq]
      exact hact
  | hook hook =>
    have hpasses : ∀ pass ∈ hook.passes, True := fun _ _ => trivial
    exact (host.engine.hook_turns hpasses).2.steps.reachable h

/-- Whatever a host does, the device of its session is one that can be reached. -/
theorem runHooks_reachable {device : HeadlessDevice} (hdevice : device.Reachable)
    {settings : Settings} {compiler : Compiler} {now : Int} {session : Session HeadlessDevice}
    {engine : Engine HeadlessDevice}
    (hcreate : Session.create device settings compiler now = (.ok session, engine))
    (ops : List (HookOp HeadlessDevice HeadlessAct)) :
    (({ session } : Host HeadlessDevice).runHooks HeadlessAct.perform
      ops).engine.device.Reachable := by
  refine runHooks_keep (P := fun host => host.engine.device.Reachable)
    (fun _ op _ h => stepHook_reachable h op) ?_
  refine Session.create_keep (P := fun e => e.device.Reachable) (fun _ _ hstep h => ?_)
    (fun e name type h => ?_) hcreate hdevice
  · exact (hstep.renderer_steps DeviceCall.leavesConstants_covers).reachable h
  · have hsteps : e.renderer.StepsBy DeviceCall.leavesConstants False
        (e.createVirtual name type).2.renderer := (e.tunes_createVirtual name type).renderer_steps
    exact hsteps.reachable h

end Host

namespace Renderer

/-- From any state that can be reached, and however it ends, drawing an effect, a technique
or a frame leaves the render state, the target of a device that is not lost and the stages
that were free as they were, and draws into the scratch surface without depth test,
blending and culling. -/
theorem drawing_restores {r : Renderer HeadlessDevice} (hr : r.device.Reachable)
    (geometry : Option Geometry) :
    (∀ scene effect, r.Restores (r.drawEffect scene effect geometry).2) ∧
      (∀ scene effect technique,
        r.Restores (r.drawTechnique scene effect technique geometry).2) ∧
      ∀ (session : Session HeadlessDevice) (now : Int), session.engine.renderer = r →
        r.Restores (session.renderFrame now geometry).2.engine.renderer := by
  refine ⟨fun scene effect => drawEffect_restores r hr.aimed scene effect geometry,
    fun scene effect technique =>
      drawTechnique_restores r hr.aimed scene effect technique geometry, ?_⟩
  rintro session now rfl
  exact session.renderFrame_restores hr.aimed now geometry

/-- The number of draws among calls. -/
def drawsIn (calls : List HeadlessCall) : Nat :=
  calls.countP fun
    | .draw .. => true
    | _ => false

/-- A host that draws into a texture itself finds it as its target again, after a frame in
which the device draws one pass and refuses another. -/
theorem drawing_restores_refused :
    ∃ (session session' : Session HeadlessDevice) (engine : Engine HeadlessDevice)
      (host : Host HeadlessDevice),
      Session.create Host.refusing { builtinParameters := false } (Session.searching {} {}) 0 =
          (.ok session, engine) ∧
        ({ session } : Host HeadlessDevice).runHooks HeadlessAct.perform
            [.session (.load "fx.json" Host.twoPasses),
              .session (.call (.setTarget (.texture ⟨1⟩)))] = host ∧
        (host.session.renderFrame 0 none).2 = session' ∧
        host.engine.renderer.Restores session'.engine.renderer ∧
        session'.engine.device.renderTarget = .texture ⟨1⟩ ∧
        drawsIn session'.engine.device.calls = 1 := by
  have hdrawn : ((Session.create Host.refusing { builtinParameters := false }
        (Session.searching {} {}) 0).1.toOption.map fun session =>
      let d := ((({ session } : Host HeadlessDevice).runHooks HeadlessAct.perform
        [.session (.load "fx.json" Host.twoPasses),
          .session (.call (.setTarget (.texture ⟨1⟩)))]).session.renderFrame 0
            none).2.engine.device
      (d.renderTarget, drawsIn d.calls)) = some (.texture ⟨1⟩, 1) := by decide +kernel
  obtain ⟨session, hsession, hseen⟩ := Option.map_eq_some_iff.mp hdrawn
  obtain ⟨htarget, hdraws⟩ := Prod.mk.inj hseen
  have hcreate := eq_ok_of_toOption hsession
  have hreachable := Host.runHooks_reachable
    ((HeadlessDevice.Reachable.ofSize 4 4).failingBind "fx/t/q:Fragment") hcreate
    [.session (.load "fx.json" Host.twoPasses), .session (.call (.setTarget (.texture ⟨1⟩)))]
  have hrestores := (drawing_restores hreachable none).2.2 _ 0 rfl
  exact ⟨session, _, _, _, hcreate, rfl, rfl, hrestores, htarget, hdraws⟩

end Renderer

end ShaderEffects
