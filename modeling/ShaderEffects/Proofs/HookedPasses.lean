import ShaderEffects.Proofs.FilledPrograms
import ShaderEffects.Proofs.HookRuns
import ShaderEffects.Proofs.OwnedEffects
import ShaderEffects.Proofs.SampledRuns

/-!
# Bound passes and the parameters of other effects

While a pass is bound, a host may hand any parameter to it. Slots are found by name and not
by effect, so a parameter of another effect goes into the slots of its name as well. It
goes nowhere else, and where no program has such a slot, nothing on the device changes.
-/
namespace ShaderEffects

/-- Whether a program has a slot of a parameter's name that is for its kind of value. -/
def BoundProgram.takes (b : BoundProgram) (p : Parameter) : Bool :=
  match p.category with
  | .scalar => (b.constants.constant? p.name).isSome
  | .sampler => (b.constants.sampler? p.name).isSome

theorem Upload.of?_eq_none {scene : Scene} {p : Parameter} {b : BoundProgram}
    (h : b.takes p = false) : Upload.of? scene p b = none := by
  unfold BoundProgram.takes at h
  cases hcategory : p.category <;>
    simp only [hcategory, Option.isSome_eq_false_iff, Option.isNone_iff_eq_none] at h <;>
    simp [Upload.of?, hcategory, h]

namespace Engine

variable {D : Type} [Device D] {e e' : Engine D}

theorem Steps.idles (h : e.Steps e') : e.renderer.Idles e'.renderer := by
  refine ⟨h.renderer_steps DeviceCall.leavesPrograms_covers, ?_⟩
  refine h.keep (P := fun e' => e'.renderer.bound = e.renderer.bound)
    (fun e₁ e₂ hstep h₁ => ?_) rfl
  rcases hstep.renderer_cases with heq | ⟨_, heq⟩ | ⟨_, _, heq⟩ <;> rw [heq] <;> exact h₁

theorem Tunes.idles (h : e.Tunes e') : e.renderer.Idles e'.renderer := by
  obtain ⟨parameters, notices, rfl⟩ := h
  exact Renderer.idles_note e.renderer notices

/-- Loading an effect hands nothing over. -/
theorem idles_load (e : Engine D) (name text : String) :
    e.renderer.Idles (e.load name text).2.renderer := by
  rcases e.load_cases name text with hsteps | ⟨_, draft, e₁, _, hsteps₁, _, heq⟩
  · exact hsteps.idles
  · rw [heq]
    have hlink := link_steps { e₁ with parameters := (draft.install e.parameters).2 }
      (draft.install e.parameters).1
    have hlinked := hlink.idles
    exact hsteps₁.idles.trans hlinked

end Engine

/-! ## What operations hand over -/

/-- Whether an operation hands a parameter to the pass that is bound, if it does anything. -/
def HookOp.hands {D A : Type} [Device D] : HookOp D A → Bool
  | .session (.connect ..) => true
  | .hook (.applyParameter ..) => true
  | .hook (.connectTexture ..) => true
  | _ => false

/-- Whether an operation leaves the programs of the device to the renderer. -/
def HookOp.leavesPrograms {D A : Type} [Device D] : HookOp D A → Bool
  | .session op => op.calls DeviceCall.leavesPrograms
  | .hook _ => true

/-- Whether an operation leaves the pass that is bound. -/
def HookOp.keepsPass {D A : Type} [Device D] : HookOp D A → Bool
  | .session (.unload _) => false
  | .session (.frame ..) => false
  | .session op => op.calls DeviceCall.leavesPrograms
  | .hook (.loadPass _) => true
  | .hook (.applyParameter ..) => true
  | .hook (.connectTexture ..) => true
  | .hook _ => false

namespace Host

variable {D A : Type} [Device D]

/-- What an operation hands to the pass that is bound. -/
def handing? (host : Host D) : HookOp D A → Option Handing
  | .session (.connect handle parameter texture) =>
    (host.engine.textures.find? texture).bind fun k =>
      ((host.engine.effects.get? handle).bind (·.parameter? parameter)).bind fun p =>
        (host.engine.write p.id (.texture (some k))).scene.connecting? p.id
  | .hook (.applyParameter scene id) => scene.handing? id
  | .hook (.connectTexture textures id texture) =>
    Scene.connecting? ⟨(host.engine.write id (.texture (some texture))).parameters, textures⟩ id
  | _ => none

/-- What a run hands to the pass that is bound, from the oldest on. -/
def handings (act : A → D → D) (host : Host D) : List (HookOp D A) → List Handing
  | [] => []
  | op :: rest => (host.handing? op).toList ++ (host.stepHook act op).handings act rest

/-- An operation that hands a parameter over does nothing else to the renderer. -/
theorem stepHook_hands (act : A → D → D) (host : Host D) {op : HookOp D A}
    (hop : op.hands = true) :
    ∃ notices, (host.stepHook act op).engine.renderer =
      ((host.handing? op).elim host.engine.renderer host.engine.renderer.hand).note notices := by
  cases op with
  | session op =>
    cases op with
    | connect handle parameter texture =>
      simp only [stepHook, step, engine, handing?, Session.connect]
      cases host.session.engine.textures.find? texture with
      | none => exact ⟨_, rfl⟩
      | some k =>
        cases (host.session.engine.effects.get? handle).bind (·.parameter? parameter) with
        | none => exact ⟨[], (congrArg Engine.renderer host.session.engine.note_nil).symm⟩
        | some p => exact Renderer.connected_eq host.session.engine.renderer _ p.id
    | _ => cases hop
  | hook hook =>
    cases hook with
    | applyParameter scene id =>
      refine ⟨[], ?_⟩
      simp [stepHook, withEngine, engine, Engine.hook, handing?, Renderer.applyParameter_eq,
        Renderer.note]
    | connectTexture textures id texture =>
      exact Renderer.connected_eq host.engine.renderer
        ⟨(host.engine.write id (.texture (some texture))).parameters, textures⟩ id
    | _ => cases hop

/-- An operation that hands nothing over and leaves the bound pass leaves its programs. -/
theorem stepHook_idles (act : A → D → D) (host : Host D) {op : HookOp D A}
    (hop : op.keepsPass = true) (hhands : op.hands = false) :
    host.engine.renderer.Idles (host.stepHook act op).engine.renderer ∨
      ∃ a, (host.stepHook act op).engine.renderer =
        { host.engine.renderer with device := act a host.engine.renderer.device } := by
  cases op with
  | session op =>
    cases op with
    | load name text => exact Or.inl (host.engine.idles_load name text)
    | loadFile path =>
      left
      simp only [stepHook, step, engine]
      rcases host.session.loadFile_cases path with heq | ⟨name, text, notices, heq⟩ <;> rw [heq]
      · exact .refl _
      · exact (Renderer.idles_note host.session.engine.renderer notices).trans
          ((host.session.engine.note notices).idles_load name text)
    | createTexture name desc => exact Or.inl (host.engine.createTexture_steps name desc).idles
    | createVirtual name type =>
      exact Or.inl (host.engine.tunes_createVirtual name type).idles
    | attach | detach | write => exact Or.inl (.refl _)
    | hold id | drop id =>
      left
      simp only [stepHook, step]
      split_ifs <;> exact .refl _
    | call c => exact Or.inl ⟨(Renderer.StepBy.call host.engine.renderer hop).steps, rfl⟩
    | act a => exact Or.inr ⟨a, rfl⟩
    | unload | frame => cases hop
    | connect => cases hhands
  | hook hook =>
    cases hook with
    | loadPass pass =>
      exact Or.inl ⟨(Renderer.loadPrograms_steps host.engine.renderer pass.programs).mono
        (fun _ hc => DeviceCall.leavesPrograms_of_draws (DeviceCall.draws_of_binds hc)) id,
        Renderer.loadPrograms_bound host.engine.renderer pass.programs⟩
    | applyParameter | connectTexture => cases hhands
    | bindPass | unbindPass | drawEffect | drawTechnique => cases hop

/-! ## Runs with a bound pass -/

variable [RegisterFile D] [SamplerFile D] {act : A → D → D} {host : Host D} {bound : BoundPass}
  {numbers : String → Option Scalars} {texture : BoundProgram → SamplerSlot → Option TextureId}

/-- After an operation the slots of the bound pass have what it handed over, or else what
they had. -/
theorem stepHook_fills (hact : KeepsSlots act)
    (h : host.engine.renderer.Fills bound numbers texture) {op : HookOp D A}
    (hop : op.keepsPass = true) :
    (host.stepHook act op).engine.renderer.Fills bound
      (fun name => ((host.handing? op).bind (·.numbers? name)).or (numbers name))
      fun b slot => ((host.handing? op).bind (·.texture? slot.parameter)).or (texture b slot) := by
  cases hhands : op.hands with
  | true =>
    obtain ⟨notices, heq⟩ := host.stepHook_hands act hhands
    rw [heq]
    refine Renderer.Fills.idle ?_ (Renderer.idles_note _ notices)
    cases host.handing? op with
    | none => exact h
    | some given => exact h.hand given
  | false =>
    have hnone : host.handing? op = none := by
      cases op with
      | session op => cases op <;> first | rfl | cases hhands
      | hook hook => cases hook <;> first | rfl | cases hhands
    rw [hnone]
    rcases host.stepHook_idles act hop hhands with hidle | ⟨a, heq⟩
    · exact h.idle hidle
    · rw [heq]
      exact h.withDevice (hact.registers a _) (hact.slots a _)

/-- After a run the slots of the bound pass have what was handed over last under their name,
or else what they had. -/
theorem runHooks_fills (hact : KeepsSlots act)
    (h : host.engine.renderer.Fills bound numbers texture) {ops : List (HookOp D A)}
    (hops : ∀ op ∈ ops, op.keepsPass = true) :
    (host.runHooks act ops).engine.renderer.Fills bound
      (fun name => (lastGiven? (·.numbers? name) (host.handings act ops)).or (numbers name))
      fun b slot =>
        (lastGiven? (·.texture? slot.parameter) (host.handings act ops)).or (texture b slot) := by
  induction ops generalizing host numbers texture with
  | nil => exact h
  | cons op rest ih =>
    have hfirst := stepHook_fills hact h (hops op List.mem_cons_self)
    have hrest := ih hfirst fun other hother => hops other (List.mem_cons_of_mem op hother)
    simp only [handings, lastGiven?_append, lastGiven?_toList, Option.or_assoc]
    exact hrest

/-! ## Runs of a session -/

/-- What holds between any two operations of a host that leaves programs to the renderer. -/
structure Ready (host : Host D) : Prop where
  kept : host.engine.renderer.Kept
  slotted : host.engine.renderer.Slotted
  staged : host.engine.PassesStaged
  owned : host.engine.Owned host.held

theorem stepHook_ready (hact : KeepsSlots act) (h : host.Ready) {op : HookOp D A}
    (hop : op.leavesPrograms = true) : (host.stepHook act op).Ready := by
  have hrenderer : (host.stepHook act op).engine.renderer.Kept ∧
      (host.stepHook act op).engine.renderer.Slotted := by
    have hsteps : ∀ {r : Renderer D},
        host.engine.renderer.StepsBy DeviceCall.leavesPrograms True r → r.Kept ∧ r.Slotted :=
      fun hsteps => hsteps.slotted h.kept h.slotted
    cases op with
    | session op =>
      rcases host.step_renderer DeviceCall.leavesPrograms_covers act hop (Or.inl trivial)
        with hstep | ⟨a, -, heq⟩
      · exact hsteps hstep
      · change (host.step act op).engine.renderer.Kept ∧ (host.step act op).engine.renderer.Slotted
        rw [heq]
        exact ⟨h.kept.withDevice (hact.registers a _),
          h.slotted.withDevice h.kept fun q hq slot => (hact.slots a _ q hq slot).1⟩
    | hook hook =>
      exact hsteps ((host.engine.hook_steps hook).mono
        (fun _ => DeviceCall.leavesPrograms_of_draws) fun hhands => hhands)
  refine ⟨hrenderer.1, hrenderer.2, ?_, stepHook_owned h.owned act op⟩
  cases op with
  | session op =>
    exact (host.step_change act op).effects
      (fun _ _ _ hcompile ps e => Engine.link_staged hcompile ps e) h.staged
  | hook hook =>
    have hturns : (host.engine.hook hook).effects = host.engine.effects ∧
        host.engine.renderer.Turns (fun _ => True) True (host.engine.hook hook).renderer :=
      host.engine.hook_turns fun _ _ => trivial
    unfold Engine.PassesStaged
    change ∀ handle effect, (host.engine.hook hook).effects.get? handle = some effect → _
    rw [hturns.1]
    exact h.staged

theorem runHooks_ready (hact : KeepsSlots act) {device : D} {settings : Settings}
    {compiler : Compiler} {now : Int} {session : Session D} {engine : Engine D}
    (hcreate : Session.create device settings compiler now = (.ok session, engine))
    {ops : List (HookOp D A)} (hops : ∀ op ∈ ops, op.leavesPrograms = true) :
    (({ session } : Host D).runHooks act ops).Ready := by
  refine runHooks_keep (P := Ready) (fun _ op hop h => stepHook_ready hact h (hops op hop)) ?_
  obtain ⟨hkept, hslotted⟩ := Session.create_keep
    (P := fun e => e.renderer.Kept ∧ e.renderer.Slotted)
    (fun _ _ hstep h => hstep.steps.idles.steps.slotted h.1 h.2)
    (fun e name type h => (e.tunes_createVirtual name type).idles.steps.slotted h.1 h.2) hcreate
    ⟨Renderer.kept_of_empty rfl rfl, Renderer.slotted_of_empty rfl⟩
  have hstaged : session.engine.PassesStaged := by
    refine Session.create_keep (P := Engine.PassesStaged) ?_ ?_ hcreate
      fun _ _ hget => by cases hget
    · intro e e' hstep h
      unfold Engine.PassesStaged
      rw [hstep.effects]
      exact h
    · intro e name type h
      obtain ⟨parameters, notices, heq⟩ := e.tunes_createVirtual name type
      rw [heq]
      exact h
  exact ⟨hkept, hslotted, hstaged, run_owned hcreate act []⟩

/-- A pass of a loaded effect is bound, and then any parameters are handed over, whosever
they are. A slot of a bound program has what was handed over last under its name, or else
what the effect held when the pass was bound, and where that was no texture, what the slot had
before; the registers of no slot are blank. A parameter for which no bound program has a slot
changes nothing on the device. -/
theorem slots_by_name (hact : KeepsSlots act) {device : D} {settings : Settings}
    {compiler : Compiler} {now : Int} {session : Session D} {engine : Engine D}
    (hcreate : Session.create device settings compiler now = (.ok session, engine))
    {before hooks : List (HookOp D A)} (hbefore : ∀ op ∈ before, op.leavesPrograms = true)
    (hhost : ({ session } : Host D).runHooks act before = host) {effect : Effect}
    (heffect : effect ∈ host.effects) {technique : Technique} (ht : technique ∈ effect.techniques)
    {pass : Pass} (hpass : pass ∈ technique.passes) {binding : Host D}
    (hbinding : host.stepHook act (.hook (.bindPass host.engine.scene effect pass)) = binding)
    (hbind : (host.engine.renderer.bindPass host.engine.scene effect pass).1 = .ok ())
    (hhooks : ∀ op ∈ hooks, op.keepsPass = true) {after : Host D}
    (hafter : binding.runHooks act hooks = after) :
    ∃ bound, after.engine.renderer.bound = some bound ∧
      (∀ program ∈ pass.programs, ∃ b ∈ bound.programs,
        b.stage = program.stage ∧ b.constants = program.constants) ∧
      (∀ b ∈ bound.programs, ∃ program ∈ pass.programs, b.constants = program.constants ∧
        b.Holds after.engine.device
          (fun name => (lastGiven? (·.numbers? name) (binding.handings act hooks)).or
            (host.engine.scene.numbersOf? effect name))
          fun slot =>
            (lastGiven? (·.texture? slot.parameter) (binding.handings act hooks)).or
              ((host.engine.scene.textureOf? effect slot.parameter).or
                (host.engine.renderer.slotTexture? program.key slot.slot))) ∧
      ∀ op : HookOp D A, op.hands = true →
        (∀ given, after.handing? op = some given →
          ∀ b ∈ bound.programs, b.takes given.parameter = false) →
        (after.stepHook act op).engine.device = after.engine.device := by
  have hready : host.Ready := by
    rw [← hhost]
    exact runHooks_ready hact hcreate hbefore
  have hrenderer : host.engine.renderer.bindPass host.engine.scene effect pass =
      (.ok (), binding.engine.renderer) := by
    rw [← hbinding]
    exact Prod.ext hbind rfl
  have hstaged : pass.Staged := by
    obtain ⟨handle, hget⟩ := (Arena.mem_items_iff _ effect).mp heffect
    exact hready.staged handle effect hget technique ht pass hpass
  obtain ⟨bound, former, hall, hmem, hfills⟩ := hready.kept.fills_bindPass hready.slotted
    (hready.owned.compiled_of_mem heffect) (hready.owned.supplies heffect) ht hpass hstaged
    hrenderer
  have hfilled := runHooks_fills hact hfills hhooks
  rw [hafter] at hfilled
  refine ⟨bound, hfilled.isBound, hall, fun b hb => ?_, fun op hop hmiss => ?_⟩
  · obtain ⟨program, hprogram, hconstants, hformer⟩ := hmem b hb
    have hholds := hfilled.holds b hb
    simp only [hformer] at hholds
    exact ⟨program, hprogram, hconstants, hholds⟩
  obtain ⟨notices, heq⟩ := after.stepHook_hands act hop
  change (after.stepHook act op).engine.renderer.device = after.engine.renderer.device
  rw [heq]
  cases hgiven : after.handing? op with
  | none => rfl
  | some given =>
    have hself : after.engine.renderer.hand given = after.engine.renderer := by
      refine Renderer.hand_eq_self fun other hother b hb => Upload.of?_eq_none ?_
      obtain rfl : bound = other := Option.some.inj (hfilled.isBound.symm.trans hother)
      exact hmiss given hgiven b hb
    rw [Option.elim_some, hself]
    rfl

/-- Two effects with a sampler of the same name. -/
def namesakes : List (HookOp HeadlessDevice HeadlessAct) :=
  [.session (.load "a.json" (mirror "a" "")), .session (.load "b.json" (mirror "b" ""))]

/-- A texture is connected to the sampler of the first effect. -/
def connectsFirst : List (HookOp HeadlessDevice HeadlessAct) :=
  [.session (.connect ⟨0⟩ "s" Staging.thisFrame)]

/-- The texture in the first slot of the fragment program that is bound. -/
def fragmentTexture? (host : Host HeadlessDevice) : Option TextureId :=
  (host.engine.device.bound.get? .fragment).bind fun id => host.engine.device.slotTexture? id 0

/-- The pass of the second effect is bound. The effects have a parameter each, and the one of
the first is handed over when a texture is connected to it. -/
structure Namesakes (host binding : Host HeadlessDevice) (effect : Effect) : Prop where
  first : (host.engine.effects.get? ⟨0⟩).map (·.parameterIds) = some [⟨0⟩]
  second : effect.parameterIds = [⟨1⟩]
  before : binding.fragmentTexture? = none
  given : lastGiven? (·.texture? "s") (binding.handings HeadlessAct.perform connectsFirst) =
    some ⟨3⟩
  after : (binding.runHooks HeadlessAct.perform connectsFirst).fragmentTexture? = some ⟨3⟩

theorem exists_namesakes :
    ∃ (session : Session HeadlessDevice) (engine : Engine HeadlessDevice)
      (host binding : Host HeadlessDevice) (effect : Effect) (technique : Technique) (pass : Pass),
      Session.create (HeadlessDevice.ofSize 4 4) { builtinParameters := false }
          (Session.searching {} {}) 0 = (.ok session, engine) ∧
        ({ session } : Host HeadlessDevice).runHooks HeadlessAct.perform namesakes = host ∧
        effect ∈ host.effects ∧ technique ∈ effect.techniques ∧ pass ∈ technique.passes ∧
        host.stepHook HeadlessAct.perform
          (.hook (.bindPass host.engine.scene effect pass)) = binding ∧
        (host.engine.renderer.bindPass host.engine.scene effect pass).1 = .ok () ∧
        Namesakes host binding effect := by
  have hseen : ((Session.create (HeadlessDevice.ofSize 4 4) { builtinParameters := false }
        (Session.searching {} {}) 0).1.toOption.bind fun session =>
      let host := ({ session } : Host HeadlessDevice).runHooks HeadlessAct.perform namesakes
      host.effects[1]?.bind fun effect => effect.techniques[0]?.bind fun technique =>
        technique.passes[0]?.bind fun pass =>
          let binding := host.stepHook HeadlessAct.perform
            (.hook (.bindPass host.engine.scene effect pass))
          (host.engine.renderer.bindPass host.engine.scene effect pass).1.toOption.map fun _ =>
            ((host.engine.effects.get? ⟨0⟩).map (·.parameterIds), effect.parameterIds,
              binding.fragmentTexture?,
              lastGiven? (·.texture? "s") (binding.handings HeadlessAct.perform connectsFirst),
              (binding.runHooks HeadlessAct.perform connectsFirst).fragmentTexture?)) =
      some (some [⟨0⟩], [⟨1⟩], none, some ⟨3⟩, some ⟨3⟩) := by decide +kernel
  obtain ⟨session, hsession, hhost⟩ := Option.bind_eq_some_iff.mp hseen
  obtain ⟨effect, heffect, htechniques⟩ := Option.bind_eq_some_iff.mp hhost
  obtain ⟨technique, htechnique, hpasses⟩ := Option.bind_eq_some_iff.mp htechniques
  obtain ⟨pass, hpass, hbound⟩ := Option.bind_eq_some_iff.mp hpasses
  obtain ⟨_, hbind, heq⟩ := Option.map_eq_some_iff.mp hbound
  simp only [Prod.mk.injEq] at heq
  obtain ⟨hfirst, hsecond, hbefore, hgiven, hafter⟩ := heq
  exact ⟨session, _, _, _, effect, technique, pass, eq_ok_of_toOption hsession, rfl,
    List.mem_of_getElem? heffect, List.mem_of_getElem? htechnique, List.mem_of_getElem? hpass,
    rfl, ok_of_toOption hbind, hfirst, hsecond, hbefore, hgiven, hafter⟩

/-- The bound pass has the texture that was connected to the sampler of the other effect. -/
theorem slots_by_name_namesakes :
    ∃ (session : Session HeadlessDevice) (engine : Engine HeadlessDevice)
      (host binding : Host HeadlessDevice) (effect : Effect) (technique : Technique) (pass : Pass),
      Session.create (HeadlessDevice.ofSize 4 4) { builtinParameters := false }
          (Session.searching {} {}) 0 = (.ok session, engine) ∧
        ({ session } : Host HeadlessDevice).runHooks HeadlessAct.perform namesakes = host ∧
        effect ∈ host.effects ∧ technique ∈ effect.techniques ∧ pass ∈ technique.passes ∧
        host.stepHook HeadlessAct.perform
          (.hook (.bindPass host.engine.scene effect pass)) = binding ∧
        (host.engine.renderer.bindPass host.engine.scene effect pass).1 = .ok () ∧
        lastGiven? (·.texture? "s") (binding.handings HeadlessAct.perform connectsFirst) =
          some ⟨3⟩ ∧
        ∃ bound,
          (binding.runHooks HeadlessAct.perform connectsFirst).engine.renderer.bound =
            some bound ∧
          (∀ program ∈ pass.programs, ∃ b ∈ bound.programs,
            b.stage = program.stage ∧ b.constants = program.constants) ∧
          (∀ b ∈ bound.programs, ∃ program ∈ pass.programs, b.constants = program.constants ∧
            b.Holds (binding.runHooks HeadlessAct.perform connectsFirst).engine.device
              (fun name => (lastGiven? (·.numbers? name)
                  (binding.handings HeadlessAct.perform connectsFirst)).or
                (host.engine.scene.numbersOf? effect name))
              fun slot =>
                (lastGiven? (·.texture? slot.parameter)
                  (binding.handings HeadlessAct.perform connectsFirst)).or
                  ((host.engine.scene.textureOf? effect slot.parameter).or
                    (host.engine.renderer.slotTexture? program.key slot.slot))) ∧
          ∀ op : HookOp HeadlessDevice HeadlessAct, op.hands = true →
            (∀ given, (binding.runHooks HeadlessAct.perform connectsFirst).handing? op =
              some given → ∀ b ∈ bound.programs, b.takes given.parameter = false) →
            ((binding.runHooks HeadlessAct.perform connectsFirst).stepHook HeadlessAct.perform
              op).engine.device =
                (binding.runHooks HeadlessAct.perform connectsFirst).engine.device := by
  obtain ⟨session, engine, host, binding, effect, technique, pass, hcreate, hhost, heffect, ht,
    hpass, hbinding, hbind, hseen⟩ := exists_namesakes
  have hbefore : ∀ op ∈ namesakes, op.leavesPrograms = true := by
    simp [namesakes, HookOp.leavesPrograms, HostOp.calls]
  have hhooks : ∀ op ∈ connectsFirst, op.keepsPass = true := by
    simp [connectsFirst, HookOp.keepsPass, HostOp.calls]
  exact ⟨session, engine, host, binding, effect, technique, pass, hcreate, hhost, heffect, ht,
    hpass, hbinding, hbind, hseen.given,
    slots_by_name HeadlessAct.keepsSlots hcreate hbefore hhost heffect ht hpass hbinding hbind
      hhooks rfl⟩

/-- While a pass is bound, a texture that is connected to a parameter of another effect gets
into a slot of its program. -/
theorem connected_elsewhere :
    ∃ (session : Session HeadlessDevice) (engine : Engine HeadlessDevice)
      (host binding : Host HeadlessDevice) (other effect : Effect) (technique : Technique)
      (pass : Pass),
      Session.create (HeadlessDevice.ofSize 4 4) { builtinParameters := false }
          (Session.searching {} {}) 0 = (.ok session, engine) ∧
        ({ session } : Host HeadlessDevice).runHooks HeadlessAct.perform namesakes = host ∧
        effect ∈ host.effects ∧ technique ∈ effect.techniques ∧ pass ∈ technique.passes ∧
        host.stepHook HeadlessAct.perform
          (.hook (.bindPass host.engine.scene effect pass)) = binding ∧
        (host.engine.renderer.bindPass host.engine.scene effect pass).1 = .ok () ∧
        host.engine.effects.get? ⟨0⟩ = some other ∧
        (∀ id ∈ other.parameterIds, id ∉ effect.parameterIds) ∧
        (binding.stepHook HeadlessAct.perform
          (.session (.connect ⟨0⟩ "s" Staging.thisFrame))).fragmentTexture? ≠
            binding.fragmentTexture? := by
  obtain ⟨session, engine, host, binding, effect, technique, pass, hcreate, hhost, heffect, ht,
    hpass, hbinding, hbind, hseen⟩ := exists_namesakes
  obtain ⟨other, hother, hids⟩ := Option.map_eq_some_iff.mp hseen.first
  refine ⟨session, engine, host, binding, other, effect, technique, pass, hcreate, hhost, heffect,
    ht, hpass, hbinding, hbind, hother, ?_, ?_⟩
  · rw [hids, hseen.second]
    simp
  · change (binding.runHooks HeadlessAct.perform connectsFirst).fragmentTexture? ≠ _
    rw [hseen.after, hseen.before]
    simp

end Host

end ShaderEffects
