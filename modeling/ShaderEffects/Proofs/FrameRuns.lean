import Mathlib.Data.List.Nodup
import ShaderEffects.Proofs.FrameContents
import ShaderEffects.Proofs.HostRuns

/-!
# Frames of a host

Between the operations of a host that binds no program itself, an engine on a
headless device is ready to draw, or the device is lost: nothing is bound, every
registered texture is one of the device, the staging textures are there, and what is
loaded can be drawn. So each frame that ends well is the reference frame.
-/
namespace ShaderEffects

open HeadlessDevice

namespace HeadlessDevice

theorem nodup_of_repeatedStage? {seen : List Stage} {programs : List Program}
    (h : repeatedStage? seen programs = none) :
    (programs.map (·.stage)).Nodup ∧ ∀ p ∈ programs, p.stage ∉ seen := by
  induction programs generalizing seen with
  | nil => exact ⟨List.nodup_nil, fun _ hp => absurd hp List.not_mem_nil⟩
  | cons p rest ih =>
    rw [repeatedStage?] at h
    split_ifs at h with hseen
    obtain ⟨hnodup, hnew⟩ := ih h
    refine ⟨List.nodup_cons.mpr ⟨?_, hnodup⟩, ?_⟩
    · intro hmem
      obtain ⟨q, hq, hstage⟩ := List.mem_map.mp hmem
      exact hnew q hq (hstage ▸ List.mem_cons_self)
    · intro q hq
      rcases List.mem_cons.mp hq with rfl | hrest
      · exact hseen
      · exact fun hmem => hnew q hrest (List.mem_cons_of_mem _ hmem)

/-- Programs that the device accepted together have stages of their own. -/
theorem nodup_of_accepted {programs : List Program} (h : Accepted HeadlessDevice programs) :
    (programs.map (·.stage)).Nodup := by
  obtain ⟨d, d', hvalidate⟩ := h
  simp only [device_validate, validate, Prod.mk.injEq] at hvalidate
  obtain ⟨hresult, _⟩ := hvalidate
  cases halive : d.alive with
  | error e => simp [halive] at hresult
  | ok _ =>
    cases hrepeated : repeatedStage? [] programs with
    | some stage => simp [halive, hrepeated] at hresult
    | none => exact (nodup_of_repeatedStage? hrepeated).1

end HeadlessDevice

/-! ## Ready engines -/

/-- An effect whose targets were found among the registered textures. -/
def Targeted (textures : TextureRegistry) (effect : Effect) : Prop :=
  ∃ lastPass lastShader, textures.find? Staging.lastPass = some lastPass ∧
    textures.find? Staging.lastShader = some lastShader ∧
    ∀ technique ∈ effect.techniques, DefaultsTo lastShader technique.target ∧
      ∀ pass ∈ technique.passes, DefaultsTo lastPass pass.target

namespace Engine

/-- The staging textures are there. -/
def Staged (e : Engine HeadlessDevice) : Prop :=
  ∀ name ∈ Staging.all, ∃ handle, e.textures.find? name = some handle

/-- An engine that can draw a frame, unless its device is lost. -/
structure Ready (e : Engine HeadlessDevice) : Prop where
  idle : e.device.lost = true ∨ e.renderer.Idle
  coherent : e.textures.Coherent
  backed : e.textures.BackedBy e.device
  effects : ∀ handle effect, e.effects.get? handle = some effect →
    Drawable effect ∧ Targeted e.textures effect

variable {e e' : Engine HeadlessDevice}

theorem Ready.drawable (h : e.Ready) {effect : Effect}
    (hmem : effect ∈ e.effects.toList.map (·.2)) : Drawable effect := by
  obtain ⟨handle, hget⟩ := (e.effects.mem_items_iff effect).mp hmem
  exact (h.effects handle effect hget).1

theorem Ready.targeted (h : e.Ready) {effect : Effect}
    (hmem : effect ∈ e.effects.toList.map (·.2)) : Targeted e.textures effect := by
  obtain ⟨handle, hget⟩ := (e.effects.mem_items_iff effect).mp hmem
  exact (h.effects handle effect hget).2

theorem Ready.withParameters (h : e.Ready) (parameters : Parameters) :
    ({ e with parameters } : Engine HeadlessDevice).Ready := ⟨h.idle, h.coherent, h.backed, h.effects⟩

theorem Ready.withDevice (h : e.Ready) {d : HeadlessDevice} (ho : e.device.Outlives d)
    (hfree : Free e.device → Free d) : (e.withDevice d).Ready := by
  refine ⟨?_, h.coherent, h.backed.outlives ho, h.effects⟩
  cases hlost : d.lost with
  | true => exact Or.inl hlost
  | false =>
    rcases h.idle with hlost' | hidle
    · exact absurd (ho.lost hlost') (by simp [hlost])
    · refine Or.inr ⟨hlost, hidle.bound, hfree hidle.free, ?_⟩
      intro key id hid
      obtain ⟨hlt, label, hlabel⟩ := hidle.stocked key id hid
      exact ⟨Nat.lt_of_lt_of_le hlt ho.nextId_le, label, (ho.plates id hlt).trans hlabel⟩

theorem Ready.note (h : e.Ready) (notices : List Notice) : (e.note notices).Ready := by
  refine ⟨h.idle.imp (fun hlost => hlost) fun hidle => ?_, h.coherent, h.backed, h.effects⟩
  exact ⟨hidle.lost, hidle.bound, hidle.free, hidle.stocked⟩

/-- A texture of the device can be registered. -/
theorem Ready.register (h : e.Ready) {name : String} {backing : TextureId} {desc : TextureDesc}
    {handle : Handle Texture} {textures : TextureRegistry}
    (hregister : e.textures.register name backing desc = .ok (handle, textures))
    (hbacking : e.device.textures.contains backing = true) :
    ({ e with textures } : Engine HeadlessDevice).Ready := by
  refine ⟨h.idle, h.coherent.register hregister, ?_, fun k effect hk => ?_⟩
  · intro k texture hk
    rw [TextureRegistry.get?_register hregister] at hk
    split_ifs at hk with hsame
    · cases hk
      exact hbacking
    · exact h.backed k texture hk
  · obtain ⟨hdrawable, lastPass, lastShader, hpass, hshader, htargets⟩ := h.effects k effect hk
    exact ⟨hdrawable, lastPass, lastShader, TextureRegistry.find?_register hregister hpass,
      TextureRegistry.find?_register hregister hshader, htargets⟩

theorem Step.ready (h : e.Step e') (he : e.Ready) : e'.Ready := by
  cases h with
  | note notices => exact he.note notices
  | @call c hc _ =>
    refine he.withDevice (outlives_perform _ c) fun hfree => hfree.perform ?_
    cases c <;> first | rfl | exact absurd hc Bool.false_ne_true
  | attach => exact he.withParameters _
  | give => exact he.withParameters _
  | @create name desc backing device handle textures hcreate hregister =>
    have ho := outlives_perform e.device (.createTexture name desc)
    have hfree : Free e.device → Free _ :=
      fun hfree => hfree.perform (c := .createTexture name desc) rfl
    simp only [DeviceCall.perform, hcreate] at ho hfree
    exact (he.withDevice ho hfree).register hregister (contains_createTexture hcreate)
  | @load files name path backing desc device notices handle textures hload hregister =>
    have ho := outlives_perform e.device (.loadTexture files name path)
    have hfree : Free e.device → Free _ :=
      fun hfree => hfree.perform (c := .loadTexture files name path) rfl
    simp only [DeviceCall.perform, hload] at ho hfree
    refine (he.withDevice ho hfree).register hregister ?_
    simp only [device_loadTexture, Prod.mk.injEq] at hload
    exact contains_loadTexture (Prod.ext hload.1 hload.2.1)

theorem Steps.ready (h : e.Steps e') (he : e.Ready) : e'.Ready :=
  h.keep (fun _ _ hstep => hstep.ready) he

theorem Steps.staged (h : e.Steps e') (he : e.Staged) : e'.Staged := by
  intro name hname
  obtain ⟨handle, hhandle⟩ := he name hname
  exact ⟨handle, h.grows.find? hhandle⟩

/-- A linked effect can be drawn. -/
theorem link_drawable (e : Engine HeadlessDevice) (effect : Effect) :
    Drawable (e.link effect).1 := by
  refine ⟨fun technique h => link_default_valid e effect h, ?_⟩
  intro technique h pass hpass hvalid
  obtain ⟨index, _, hget⟩ := Option.bind_eq_some_iff.mp h
  obtain ⟨_, _, _, _, hlinked⟩ := link_passes e effect (List.mem_of_getElem? hget) hpass
  exact nodup_of_accepted (hlinked.accepted hvalid)

/-- Linking finds the targets. -/
theorem link_targeted (he : e.Staged) (effect : Effect) :
    Targeted (e.link effect).2.2.textures (e.link effect).1 := by
  obtain ⟨lastPass, hpass⟩ := he Staging.lastPass (by simp [Staging.all])
  obtain ⟨lastShader, hshader⟩ := he Staging.lastShader (by simp [Staging.all])
  have hsteps := link_steps e effect
  exact ⟨lastPass, lastShader, hsteps.grows.find? hpass, hsteps.grows.find? hshader,
    fun technique ht => link_targets e effect hpass hshader ht⟩

/-- Loading leaves an engine ready. -/
theorem load_ready (he : e.Ready) (hstaged : e.Staged) (name text : String) :
    (e.load name text).2.Ready ∧ (e.load name text).2.Staged := by
  rcases e.load_cases name text with hsteps | ⟨_, draft, e₁, _, hsteps₁, _, heq⟩
  · exact ⟨hsteps.ready he, hsteps.staged hstaged⟩
  · rw [heq]
    have hready₁ := (hsteps₁.ready he).withParameters (draft.install e.parameters).2
    have hstaged₁ : ({ e₁ with parameters := (draft.install e.parameters).2 } :
        Engine HeadlessDevice).Staged := hsteps₁.staged hstaged
    have hsteps := link_steps { e₁ with parameters := (draft.install e.parameters).2 }
      (draft.install e.parameters).1
    have hlinked := hsteps.ready hready₁
    refine ⟨⟨hlinked.idle, hlinked.coherent, hlinked.backed, ?_⟩, hsteps.staged hstaged₁⟩
    intro handle effect hget
    simp only [insert, Arena.get?_insert] at hget
    split_ifs at hget
    · cases hget
      exact ⟨link_drawable _ _, link_targeted hstaged₁ _⟩
    · exact hlinked.effects handle effect hget

/-- What only changes parameters and the journal leaves an engine ready. -/
theorem Tunes.ready (h : e.Tunes e') (he : e.Ready) : e'.Ready := by
  obtain ⟨parameters, notices, rfl⟩ := h
  exact (he.withParameters parameters).note notices

theorem Tunes.staged (h : e.Tunes e') (he : e.Staged) : e'.Staged := by
  obtain ⟨parameters, notices, rfl⟩ := h
  exact he

/-- An engine that has loaded nothing is ready. -/
theorem bareEngine_ready {device : HeadlessDevice} (hfree : Free device) (settings : Settings)
    (compiler : Compiler) : (Session.bareEngine device settings compiler).Ready := by
  have hnothing : ∀ (handle : Handle Texture) (texture : Texture),
      ({} : TextureRegistry).get? handle = some texture → device.textures.contains
        texture.backing = true := by
    intro handle texture h
    cases h
  refine ⟨?_, TextureRegistry.coherent_empty, hnothing, fun handle effect h => by cases h⟩
  cases hlost : device.lost with
  | true => exact Or.inl hlost
  | false => exact Or.inr ⟨hlost, rfl, hfree, fun key id h => by cases h⟩

/-- Without its passes an engine has nothing bound, so nothing is freed. -/
theorem Ready.unload (h : e.Ready) (handle : Handle Effect) :
    (({ e with renderer := e.renderer.unbindPass } : Engine HeadlessDevice).unload handle).2.Ready
      := by
  have hbacked : e.textures.BackedBy e.renderer.unbindPass.device :=
    h.backed.outlives (Renderer.unbindPass_steps e.renderer).outlives
  have hidle : e.renderer.unbindPass.device.lost = true ∨ e.renderer.unbindPass.Idle := by
    rcases h.idle with hlost | hidle
    · exact Or.inl ((Renderer.unbindPass_steps e.renderer).outlives.lost hlost)
    · have hsame : e.renderer.unbindPass = e.renderer := by
        unfold Renderer.unbindPass
        rw [hidle.bound]
      rw [hsame]
      exact Or.inr hidle
  unfold Engine.unload
  cases e.effects.get? handle with
  | none => exact ⟨hidle, h.coherent, hbacked, h.effects⟩
  | some effect =>
    refine ⟨hidle, h.coherent, hbacked, fun k other hk => ?_⟩
    simp only [Arena.get?_erase] at hk
    split_ifs at hk
    exact h.effects k other hk

theorem Staged.unload (h : e.Staged) (handle : Handle Effect) :
    (({ e with renderer := e.renderer.unbindPass } : Engine HeadlessDevice).unload handle).2.Staged
      := by
  unfold Engine.unload
  cases e.effects.get? handle <;> exact h

/-- While nothing is bound, connecting a texture only writes to a parameter. -/
theorem Ready.connect (h : e.Ready) (id : ParameterId) (texture : Handle Texture) :
    (e.connect id texture).2.Ready := by
  have hwritten := h.withParameters (e.parameters.write id (.texture (some texture)))
  have hsteps : e.renderer.Steps (e.connect id texture).2.renderer :=
    Renderer.connected_steps e.renderer _ id
  refine ⟨?_, h.coherent, h.backed.outlives hsteps.outlives, h.effects⟩
  rcases h.idle with hlost | hidle
  · exact Or.inl (hsteps.outlives.lost hlost)
  · right
    simp only [Engine.connect, Engine.write, Renderer.connected, Renderer.applyParameter,
      Renderer.uploads, hidle.bound]
    split
    · exact hidle
    · split
      · exact ⟨hidle.lost, rfl, hidle.free, hidle.stocked⟩
      · exact ⟨hidle.lost, hidle.bound, hidle.free, hidle.stocked⟩

/-- A frame leaves an engine ready. -/
theorem Ready.drawFrame (h : e.Ready) (hstaged : e.Staged) (geometry : Option Geometry) :
    (Session.drawFrame e geometry).2.Ready ∧ (Session.drawFrame e geometry).2.Staged := by
  obtain ⟨renderer, heq, hsteps⟩ := Session.drawFrame_steps e geometry
  rw [heq]
  refine ⟨⟨?_, h.coherent, h.backed.outlives hsteps.outlives, h.effects⟩, hstaged⟩
  rcases h.idle with hlost | hidle
  · exact Or.inl (hsteps.outlives.lost hlost)
  · obtain ⟨thisHandle, hthis⟩ := hstaged Staging.thisFrame (by simp [Staging.all])
    obtain ⟨lastHandle, hlast⟩ := hstaged Staging.lastFrame (by simp [Staging.all])
    obtain ⟨thisFrame, hthis, _⟩ := h.coherent.byName?_of_find? hthis
    obtain ⟨lastFrame, hlast, _⟩ := h.coherent.byName?_of_find? hlast
    have hyields := Session.drawFrame_spec hidle h.backed geometry hthis hlast
      fun _ hmem => h.drawable hmem
    rcases hyields with ⟨_, hlost⟩ | ⟨r, hr, hidle', _⟩
    · rw [heq] at hlost
      exact Or.inl hlost
    · have hrenderer : renderer = r := by
        rw [hr] at heq
        exact (Engine.mk.inj heq).2.2.2.2.symm
      exact Or.inr (hrenderer ▸ hidle')

end Engine

/-- A session that was set up has its staging textures. -/
theorem Session.create_staged {D : Type} [Device D] {device : D} {settings : Settings}
    {compiler : Compiler} {now : Int} {session : Session D} {engine : Engine D}
    (hcreate : Session.create device settings compiler now = (.ok session, engine)) :
    ∀ name ∈ Staging.all, ∃ handle, session.engine.textures.find? name = some handle := by
  obtain ⟨e, _, hstaged, e', notices, he', heq⟩ := Session.create_cases hcreate
  rw [heq]
  rcases he' with rfl | rfl
  · exact hstaged
  · refine Session.registerBuiltins_keep
      (P := fun e => ∀ name ∈ Staging.all, ∃ handle, e.textures.find? name = some handle)
      (fun e name type h => ?_) hstaged
    obtain ⟨parameters, notices, heq⟩ := e.tunes_createVirtual name type
    rw [heq]
    exact h

namespace Host

variable {host : Host HeadlessDevice}

/-- An operation that binds nothing leaves the engine ready. -/
theorem step_ready (h : host.engine.Ready) (hstaged : host.engine.Staged)
    {op : HostOp HeadlessDevice HeadlessAct} (hop : op.bindsNothing = true) :
    (host.step HeadlessAct.perform op).engine.Ready ∧
      (host.step HeadlessAct.perform op).engine.Staged := by
  have hchange := host.step_change HeadlessAct.perform op
  generalize (host.step HeadlessAct.perform op).engine = e',
    (host.step HeadlessAct.perform op).held = held' at hchange ⊢
  cases hchange with
  | steps hsteps => exact ⟨hsteps.ready h, hsteps.staged hstaged⟩
  | load notices name text => exact Engine.load_ready (h.note notices) hstaged name text
  | unload handle notices =>
    exact ⟨(h.unload handle).note notices, Engine.Staged.unload hstaged handle⟩
  | connect id => exact ⟨h.connect id _, hstaged⟩
  | createVirtual name type =>
    have htunes := host.engine.tunes_createVirtual name type
    exact ⟨htunes.ready h, htunes.staged hstaged⟩
  | stays | retain | release => exact ⟨h.withParameters _, hstaged⟩
  | draw _ writes geometry =>
    have hwritten := h.withParameters (Session.written host.engine.parameters writes)
    exact hwritten.drawFrame hstaged geometry
  | @call c hcall =>
    subst hcall
    exact ⟨h.withDevice (outlives_perform _ c) fun hfree => hfree.perform hop, hstaged⟩
  | @act a =>
    refine ⟨h.withDevice (a.outlives _) fun hfree => ?_, hstaged⟩
    intro stage
    rw [a.bound]
    exact hfree stage

/-- A host that binds nothing leaves the engine of a new session ready. -/
theorem run_ready {device : HeadlessDevice} (hfree : Free device) {settings : Settings}
    {compiler : Compiler} {now : Int} {session : Session HeadlessDevice}
    {engine : Engine HeadlessDevice}
    (hcreate : Session.create device settings compiler now = (.ok session, engine))
    {ops : List (HostOp HeadlessDevice HeadlessAct)} (hops : ∀ op ∈ ops, op.bindsNothing = true) :
    (({ session } : Host HeadlessDevice).run HeadlessAct.perform ops).engine.Ready ∧
      (({ session } : Host HeadlessDevice).run HeadlessAct.perform ops).engine.Staged := by
  have hready : session.engine.Ready := Session.create_keep (fun _ _ hstep h => hstep.ready h)
    (fun e name type h => (e.tunes_createVirtual name type).ready h) hcreate
    (Engine.bareEngine_ready hfree settings compiler)
  exact run_keep (P := fun host => host.engine.Ready ∧ host.engine.Staged)
    (fun _ op hop h => step_ready h.1 h.2 (hops op hop)) ⟨hready, Session.create_staged hcreate⟩

/-! ## Frames -/

/-- Each frame of a host that ends well reports what the reference frame reports, every
surface shows what it shows in the reference frame, the reports account for the loaded
effects, and what has no target of its own ends in a staging texture. -/
theorem frame_reference {device : HeadlessDevice} (hfree : Free device) {settings : Settings}
    {compiler : Compiler} {start : Int} {session : Session HeadlessDevice}
    {engine : Engine HeadlessDevice}
    (hcreate : Session.create device settings compiler start = (.ok session, engine))
    {ops : List (HostOp HeadlessDevice HeadlessAct)} (hops : ∀ op ∈ ops, op.bindsNothing = true)
    {host : Host HeadlessDevice}
    (hrun : ({ session } : Host HeadlessDevice).run HeadlessAct.perform ops = host)
    {now : Int} {geometry : Option Geometry} {reports : List FrameReport}
    {session' : Session HeadlessDevice}
    (hframe : host.session.renderFrame now geometry = (.ok reports, session')) :
    ∃ thisFrame lastFrame,
      host.engine.textures.byName? Staging.thisFrame = some thisFrame ∧
      host.engine.textures.byName? Staging.lastFrame = some lastFrame ∧
      host.engine.renderer.canvas.frame host.engine.device.refusals host.engine.textures
          (.texture thisFrame.backing) (.texture lastFrame.backing) host.effects =
        (reports, session'.engine.renderer.canvas) ∧
      List.Forall₂ Canvas.Accounts host.effects reports ∧
      ∀ effect ∈ host.effects, Targeted host.engine.textures effect := by
  obtain ⟨hready, hstaged⟩ := run_ready hfree hcreate hops
  rw [hrun] at hready hstaged
  obtain ⟨thisHandle, hthis⟩ := hstaged Staging.thisFrame (by simp [Staging.all])
  obtain ⟨lastHandle, hlast⟩ := hstaged Staging.lastFrame (by simp [Staging.all])
  obtain ⟨thisFrame, hthis, _⟩ := hready.coherent.byName?_of_find? hthis
  obtain ⟨lastFrame, hlast, _⟩ := hready.coherent.byName?_of_find? hlast
  refine ⟨thisFrame, lastFrame, hthis, hlast, ?_⟩
  have htargeted : ∀ effect ∈ host.effects, Targeted host.engine.textures effect :=
    fun effect hmem => hready.targeted hmem
  rw [Session.renderFrame_eq] at hframe
  split_ifs at hframe with hlost
  · cases (Prod.mk.inj hframe).1
  have hidle : host.engine.renderer.Idle := hready.idle.resolve_left hlost
  -- writing to the parameters that follow the frames changes nothing that is shown
  obtain ⟨writes, hprepared⟩ := host.session.prepared_eq now
  have hyields := Session.drawFrame_spec
    (e := { host.engine with parameters := Session.written host.engine.parameters writes })
    hidle hready.backed geometry hthis hlast fun _ hmem => hready.drawable hmem
  rw [hprepared] at hframe
  obtain ⟨hresult, rfl⟩ := Prod.mk.inj hframe
  rcases hyields with ⟨hlost, _⟩ | ⟨renderer, hdraw, _, _, hcanvas⟩
  · cases hlost.symm.trans hresult
  · have hreports : (host.engine.renderer.canvas.frame host.engine.device.refusals
        host.engine.textures (.texture thisFrame.backing) (.texture lastFrame.backing)
        host.effects).1 = reports :=
      Except.ok.inj ((congrArg Prod.fst hdraw).symm.trans hresult)
    have haccounts := Canvas.frame_accounts host.engine.device.refusals host.engine.textures
      (.texture thisFrame.backing) (.texture lastFrame.backing) host.engine.renderer.canvas
      host.effects
    rw [hreports] at haccounts
    have hshown := congrArg (fun result => result.2.renderer.canvas) hdraw
    exact ⟨Prod.ext hreports (hshown.trans hcanvas).symm, haccounts, htargeted⟩

/-- A device that does not bind the program of the second of two passes. -/
def refusing : HeadlessDevice := (HeadlessDevice.ofSize 4 4).failingBind "fx/t/q:Fragment"

/-- An effect of two passes with a fragment program each. -/
def twoPasses : String :=
  "[\"fx\", [], [[\"t\", \x7b\x7d, [[\"p\", \x7b\x7d, null, [\"ps_3_0\", \"main\", \"0\"]], " ++
  "[\"q\", \x7b\x7d, null, [\"ps_3_0\", \"main\", \"1\"]]]]]]"

/-- A frame in which one pass is drawn and one is refused. -/
theorem frame_reference_refused :
    ∃ (session session' : Session HeadlessDevice) (engine : Engine HeadlessDevice)
      (host : Host HeadlessDevice) (reports : List FrameReport),
      Session.create refusing { builtinParameters := false } (Session.searching {} {}) 0 =
          (.ok session, engine) ∧
        ({ session } : Host HeadlessDevice).run HeadlessAct.perform [.load "fx.json" twoPasses] =
          host ∧
        host.session.renderFrame 0 none = (.ok reports, session') ∧
        reports.map (fun r => (r.passesDrawn, r.bindErrors.length)) = [(1, 1)] ∧
        List.Forall₂ Canvas.Accounts host.effects reports := by
  have hdrawn : ((Session.create refusing { builtinParameters := false }
        (Session.searching {} {}) 0).1.toOption.bind fun session =>
      ((({ session } : Host HeadlessDevice).run HeadlessAct.perform
          [.load "fx.json" twoPasses]).session.renderFrame 0 none).1.toOption.map fun reports =>
        reports.map fun r => (r.passesDrawn, r.bindErrors.length)) =
      some [(1, 1)] := by decide +kernel
  obtain ⟨session, hsession, hreported⟩ := Option.bind_eq_some_iff.mp hdrawn
  obtain ⟨reports, hreports, hcounts⟩ := Option.map_eq_some_iff.mp hreported
  have hcreate := eq_ok_of_toOption hsession
  have hframe := eq_ok_of_toOption hreports
  have hfree : Free refusing := fun stage => rfl
  have hops : ∀ op ∈ [(.load "fx.json" twoPasses : HostOp HeadlessDevice HeadlessAct)],
      op.bindsNothing = true := by simp [HostOp.bindsNothing]
  obtain ⟨_, _, _, _, _, haccounts, _⟩ := frame_reference hfree hcreate hops rfl hframe
  exact ⟨session, _, _, _, reports, hcreate, rfl, hframe, hcounts, haccounts⟩

end Host

end ShaderEffects
