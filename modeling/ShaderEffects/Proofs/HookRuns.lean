import ShaderEffects.Proofs.BoundStages
import ShaderEffects.Proofs.KeptPrograms

/-!
# Hosts that use the renderer themselves

A host may also bind and draw passes past its session, through the hooks of the
renderer. As long as it leaves the stages of the device alone, the bound pass and the
stages agree between any two of its operations, whatever fails on the way.
-/
namespace ShaderEffects

open HeadlessDevice

/-- What a host asks of the renderer of its session itself. -/
inductive Hook where
  | loadPass (pass : Pass)
  | bindPass (scene : Scene) (effect : Effect) (pass : Pass)
  | unbindPass
  | applyParameter (scene : Scene) (id : ParameterId)
  | connectTexture (textures : TextureRegistry) (id : ParameterId) (texture : Handle Texture)
  | drawEffect (scene : Scene) (effect : Effect) (geometry : Option Geometry)
  | drawTechnique (scene : Scene) (effect : Effect) (technique : Technique)
    (geometry : Option Geometry)

/-- The passes that a hook may bind. -/
def Hook.passes : Hook → List Pass
  | .bindPass _ _ pass => [pass]
  | .drawEffect _ effect _ => effect.techniques.flatMap (·.passes)
  | .drawTechnique _ _ technique _ => technique.passes
  | _ => []

/-- What a host does with a session, its device and its renderer. -/
inductive HookOp (D A : Type) [Device D] where
  | session (op : HostOp D A)
  | hook (h : Hook)

/-- An operation that leaves the stages of the device to the renderer, and gives it no
pass with two programs for a stage. -/
def HookOp.Fair {D A : Type} [Device D] : HookOp D A → Prop
  | .session op => op.calls DeviceCall.leavesStages = true
  | .hook h => ∀ pass ∈ h.passes, pass.Staged

/-- The engine after a hook of its renderer. -/
def Engine.hook {D : Type} [Device D] (e : Engine D) : Hook → Engine D
  | .loadPass pass => { e with renderer := (e.renderer.loadPass pass).2 }
  | .bindPass scene effect pass => { e with renderer := (e.renderer.bindPass scene effect pass).2 }
  | .unbindPass => { e with renderer := e.renderer.unbindPass }
  | .applyParameter scene id => { e with renderer := e.renderer.applyParameter scene id }
  | .connectTexture textures id texture =>
    let e := e.write id (.texture (some texture))
    { e with renderer := (e.renderer.connected ⟨e.parameters, textures⟩ id).2 }
  | .drawEffect scene effect geometry =>
    { e with renderer := (e.renderer.drawEffect scene effect geometry).2 }
  | .drawTechnique scene effect technique geometry =>
    { e with renderer := (e.renderer.drawTechnique scene effect technique geometry).2 }

namespace Host

variable {D A : Type} [Device D]

/-- What a host does, its renderer included. -/
def stepHook (act : A → D → D) (host : Host D) : HookOp D A → Host D
  | .session op => host.step act op
  | .hook h => host.withEngine (host.engine.hook h)

/-- What a host does one after the other, its renderer included. -/
def runHooks (act : A → D → D) (host : Host D) (ops : List (HookOp D A)) : Host D :=
  ops.foldl (stepHook act) host

theorem runHooks_append (act : A → D → D) (host : Host D) (ops later : List (HookOp D A)) :
    host.runHooks act (ops ++ later) = (host.runHooks act ops).runHooks act later :=
  List.foldl_append

/-- What every operation of a run keeps, the run keeps. -/
theorem runHooks_keep {P : Host D → Prop} {act : A → D → D} {ops : List (HookOp D A)}
    (hP : ∀ host, ∀ op ∈ ops, P host → P (host.stepHook act op)) {host : Host D} (h : P host) :
    P (host.runHooks act ops) := by
  induction ops generalizing host with
  | nil => exact h
  | cons op ops ih =>
    refine ih (fun host op' hop' => hP host op' (List.mem_cons_of_mem op hop')) ?_
    exact hP host op List.mem_cons_self h

end Host

/-! ## Loaded effects and hooks in turns -/

namespace Engine

variable {D : Type} [Device D] {e e' : Engine D}

/-- A hook takes turns of the renderer. -/
theorem hook_turns (e : Engine D) {hook : Hook} {ok : Pass → Prop}
    (hok : ∀ pass ∈ hook.passes, ok pass) :
    (e.hook hook).effects = e.effects ∧ e.renderer.Turns ok True (e.hook hook).renderer := by
  cases hook with
  | loadPass pass => exact ⟨rfl, (Renderer.Turn.load pass).turns⟩
  | bindPass scene effect pass =>
    exact ⟨rfl, (Renderer.Turn.bind scene effect (hok pass List.mem_cons_self)).turns⟩
  | unbindPass => exact ⟨rfl, Renderer.Turn.free.turns⟩
  | applyParameter scene id => exact ⟨rfl, (Renderer.Turn.apply scene id).turns⟩
  | connectTexture textures id texture => exact ⟨rfl, Renderer.connected_turns e.renderer _ id⟩
  | drawEffect scene effect geometry =>
    refine ⟨rfl, Renderer.drawEffect_turns e.renderer scene geometry fun t ht pass hpass _ => ?_⟩
    obtain ⟨index, _, hget⟩ := Option.bind_eq_some_iff.mp ht
    exact hok pass (List.mem_flatMap.mpr ⟨t, List.mem_of_getElem? hget, hpass⟩)
  | drawTechnique scene effect technique geometry =>
    exact ⟨rfl, Renderer.drawTechnique_turns e.renderer scene effect geometry
      fun pass hpass _ => hok pass hpass⟩

/-- To the renderer a hook is a run of steps. -/
theorem hook_steps (e : Engine D) (hook : Hook) : e.renderer.Steps (e.hook hook).renderer := by
  have hturns : e.renderer.Turns (fun _ => True) True (e.hook hook).renderer :=
    (e.hook_turns fun _ _ => trivial).2
  exact hturns.steps

/-- No pass of a loaded effect has two programs for a stage. -/
def PassesStaged (e : Engine D) : Prop :=
  ∀ handle effect, e.effects.get? handle = some effect →
    ∀ t ∈ effect.techniques, ∀ pass ∈ t.passes, pass.Staged

theorem link_staged {compiler : Compiler} {d : EffectDescription} {draft : EffectDraft}
    (hcompile : EffectDraft.compile compiler d = .ok draft) (ps : Parameters) (e : Engine D) :
    ∀ t ∈ (e.link (draft.install ps).1).1.techniques, ∀ pass ∈ t.passes, pass.Staged := by
  intro t ht pass hpass
  obtain ⟨c, hc, p, hp, hlinked⟩ := link_passes e _ ht hpass
  unfold Pass.Staged
  rw [hlinked.programs]
  exact EffectDraft.compile_staged hcompile c hc p hp

end Engine

/-! ## Stages between operations -/

namespace Engine

variable {e e' : Engine HeadlessDevice}

theorem Step.inStep (h : e.Step e') (he : e.renderer.InStep) : e'.renderer.InStep := by
  rcases h.renderer_cases with heq | ⟨notices, heq⟩ | ⟨c, hc, heq⟩ <;> rw [heq]
  · exact he
  · exact he.congr rfl rfl
  · refine he.congr rfl (bound_perform e.renderer.device ?_)
    cases c <;> first | rfl | cases hc

theorem Tunes.inStep (h : e.Tunes e') (he : e.renderer.InStep) : e'.renderer.InStep := by
  obtain ⟨parameters, notices, rfl⟩ := h
  exact he.congr rfl rfl

end Engine

namespace Host

variable {host : Host HeadlessDevice}

theorem step_inStep (h : host.engine.renderer.InStep) (hstaged : host.engine.PassesStaged)
    {op : HostOp HeadlessDevice HeadlessAct} (hop : op.calls DeviceCall.leavesStages = true) :
    (host.step HeadlessAct.perform op).engine.renderer.InStep ∧
      (host.step HeadlessAct.perform op).engine.PassesStaged := by
  have hchange := host.step_change HeadlessAct.perform op
  refine ⟨host.step_renderer_keep HeadlessAct.perform op ?_ ?_ ?_ ?_ ?_ ?_ h, hchange.effects
    (fun _ _ _ hcompile ps e => Engine.link_staged hcompile ps e) hstaged⟩
  · intro r r' hact hr
    refine (hact.turns fun effect heffect t ht pass hpass _ => ?_).inStep hr
    obtain ⟨handle, hget⟩ := (Arena.mem_items_iff _ effect).mp heffect
    obtain ⟨index, _, hindex⟩ := Option.bind_eq_some_iff.mp ht
    exact hstaged handle effect hget t (List.mem_of_getElem? hindex) pass hpass
  · intro r c hc hr
    refine hr.congr rfl (bound_perform r.device ?_)
    cases c <;> first | rfl | cases hc
  · exact fun r hr => Renderer.inStep_of_free (Renderer.unbindPass_bound r) hr.free_unbindPass
  · intro r scene id hr
    have hturns : r.Turns Pass.Staged True (r.applyParameter scene id) :=
      (Renderer.Turn.apply scene id).turns
    exact hturns.inStep hr
  · intro r c hcall hr
    subst hcall
    exact hr.congr rfl (bound_perform _ hop)
  · exact fun r a _ hr => hr.congr rfl (a.bound _)

theorem stepHook_inStep (h : host.engine.renderer.InStep) (hstaged : host.engine.PassesStaged)
    {op : HookOp HeadlessDevice HeadlessAct} (hop : op.Fair) :
    (host.stepHook HeadlessAct.perform op).engine.renderer.InStep ∧
      (host.stepHook HeadlessAct.perform op).engine.PassesStaged := by
  cases op with
  | session op => exact step_inStep h hstaged hop
  | hook hook =>
    obtain ⟨heffects, hturns⟩ := host.engine.hook_turns hop
    refine ⟨hturns.inStep h, ?_⟩
    unfold Engine.PassesStaged
    simp only [stepHook, withEngine, engine] at heffects ⊢
    rw [heffects]
    exact hstaged

/-- Between any two operations of a host that leaves the stages alone, each stage of the
device has the program that the bound pass has for it and no other; and a pass that is
bound next is bound as a whole, or nothing is bound at all. -/
theorem stages_in_step {device : HeadlessDevice} (hfree : Free device) {settings : Settings}
    {compiler : Compiler} {now : Int} {session : Session HeadlessDevice}
    {engine : Engine HeadlessDevice}
    (hcreate : Session.create device settings compiler now = (.ok session, engine))
    {ops : List (HookOp HeadlessDevice HeadlessAct)} (hops : ∀ op ∈ ops, op.Fair)
    {host : Host HeadlessDevice}
    (hrun : ({ session } : Host HeadlessDevice).runHooks HeadlessAct.perform ops = host) :
    (∀ stage id, host.engine.device.bound.get? stage = some id ↔
      ∃ pass, host.engine.renderer.bound = some pass ∧
        ∃ b ∈ pass.programs, b.stage = stage ∧ b.id = id) ∧
    ∀ (scene : Scene) (effect : Effect) (pass : Pass), pass.Staged →
      Renderer.Binds pass (host.engine.renderer.bindPass scene effect pass) := by
  have hset : session.engine.renderer.InStep ∧ session.engine.PassesStaged := by
    refine Session.create_keep (P := fun e => e.renderer.InStep ∧ e.PassesStaged) ?_ ?_ hcreate ?_
    · intro e e' hstep he
      refine ⟨hstep.inStep he.1, ?_⟩
      unfold Engine.PassesStaged
      rw [hstep.effects]
      exact he.2
    · intro e name type he
      refine ⟨(e.tunes_createVirtual name type).inStep he.1, ?_⟩
      obtain ⟨parameters, notices, heq⟩ := e.tunes_createVirtual name type
      rw [heq]
      exact he.2
    · exact ⟨Renderer.inStep_of_free rfl hfree, fun handle effect hget => by cases hget⟩
  have hkept : host.engine.renderer.InStep ∧ host.engine.PassesStaged := by
    rw [← hrun]
    exact runHooks_keep
      (P := fun host => host.engine.renderer.InStep ∧ host.engine.PassesStaged)
      (fun _ op hop h => stepHook_inStep h.1 h.2 (hops op hop)) hset
  refine ⟨fun stage id => ?_, fun scene effect pass hstaged =>
    (hkept.1.bindPass scene effect hstaged).2⟩
  have hstage := hkept.1 stage id
  unfold Renderer.boundPrograms at hstage
  cases hbound : host.engine.renderer.bound with
  | none => simpa [hbound, Engine.device] using hstage
  | some pass => simpa [hbound, Engine.device] using hstage

/-- A pass with a vertex program that is always the same and a fragment program. -/
def overBase (label : String) : Pass where
  name := label
  technique := "t"
  programs := [⟨"base", .inline, ⟨.vertex, .wgsl, "main", "", {}⟩⟩,
    ⟨label, .inline, ⟨.fragment, .wgsl, label, "", {}⟩⟩]
  directives := []

theorem overBase_staged (label : String) : (overBase label).Staged := by
  simp [Pass.Staged, overBase, Program.stage]

/-- A pass of which the device refuses the second program leaves nothing bound of itself,
and nothing of the pass that was bound before. -/
theorem stages_in_step_refused :
    ∃ (session : Session HeadlessDevice) (engine : Engine HeadlessDevice)
      (host : Host HeadlessDevice),
      Session.create ((HeadlessDevice.ofSize 4 4).failingBind "second") {}
          (Session.searching {} {}) 0 = (.ok session, engine) ∧
        ({ session } : Host HeadlessDevice).runHooks HeadlessAct.perform
          [.hook (.bindPass ⟨{}, {}⟩ ⟨"fx", [], [], none⟩ (overBase "first"))] = host ∧
        Stage.all.map host.engine.device.bound.get? =
          [some ⟨5⟩, some ⟨6⟩, none, none, none] ∧
        ∃ e r, host.engine.renderer.bindPass ⟨{}, {}⟩ ⟨"fx", [], [], none⟩ (overBase "second") =
            (.error e, r) ∧
          e.program = "second" ∧ r.bound = none ∧ Free r.device := by
  have hbound : ((Session.create ((HeadlessDevice.ofSize 4 4).failingBind "second") {}
        (Session.searching {} {}) 0).1.toOption.map fun session =>
      let host := ({ session } : Host HeadlessDevice).runHooks HeadlessAct.perform
        [.hook (.bindPass ⟨{}, {}⟩ ⟨"fx", [], [], none⟩ (overBase "first"))]
      (Stage.all.map host.engine.device.bound.get?,
        match (host.engine.renderer.bindPass ⟨{}, {}⟩ ⟨"fx", [], [], none⟩
          (overBase "second")).1 with
        | .error e => some e.program
        | .ok _ => none)) =
      some ([some ⟨5⟩, some ⟨6⟩, none, none, none], some "second") := by decide +kernel
  obtain ⟨session, hsession, hseen⟩ := Option.map_eq_some_iff.mp hbound
  obtain ⟨hstages, hrefused⟩ := Prod.mk.inj hseen
  have hcreate := eq_ok_of_toOption hsession
  have hops : ∀ op ∈ [(.hook (.bindPass ⟨{}, {}⟩ ⟨"fx", [], [], none⟩ (overBase "first")) :
      HookOp HeadlessDevice HeadlessAct)], op.Fair := by
    simp [HookOp.Fair, Hook.passes, overBase_staged]
  have hfree : Free ((HeadlessDevice.ofSize 4 4).failingBind "second") := fun stage => rfl
  have hbinds := (stages_in_step hfree hcreate hops rfl).2 ⟨{}, {}⟩ ⟨"fx", [], [], none⟩
    (overBase "second") (overBase_staged "second")
  refine ⟨session, _, _, hcreate, rfl, hstages, ?_⟩
  rcases hresult : (({ session } : Host HeadlessDevice).runHooks HeadlessAct.perform
    [.hook (.bindPass ⟨{}, {}⟩ ⟨"fx", [], [], none⟩ (overBase "first"))]).engine.renderer.bindPass
    ⟨{}, {}⟩ ⟨"fx", [], [], none⟩ (overBase "second") with ⟨e | _, r⟩
  · rw [hresult] at hbinds hrefused
    obtain ⟨hnone, hfreed⟩ := hbinds.failed e rfl
    exact ⟨e, r, rfl, Option.some.inj hrefused, hnone, hfreed⟩
  · rw [hresult] at hrefused
    cases hrefused

end Host

end ShaderEffects
