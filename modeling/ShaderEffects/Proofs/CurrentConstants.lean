import ShaderEffects.Proofs.FrameDraws
import ShaderEffects.Proofs.FrameRuns
import ShaderEffects.Proofs.GpuRegisters
import ShaderEffects.Proofs.KeptPrograms
import ShaderEffects.Proofs.OwnedEffects

/-!
# The numbers that every draw sees

Whenever a pass is drawn, the registers of each of its programs hold what the
parameters of its effect hold at that time, and nothing else was ever written to them,
whichever effects share the program and whatever happened in between.
-/
namespace ShaderEffects

/-- The registers of a program are those that an effect's parameters call for: each slot
has the first numbers of the parameter of its name, four in each register, and the
registers of no slot are blank. -/
structure ConstantTable.Current (table : ConstantTable) (effect : Effect)
    (parameters : Parameters) (read blank : Nat → Option Register) : Prop where
  slots : ∀ slot ∈ table.constants, ∃ ep p, effect.parameter? slot.parameter = some ep ∧
    parameters.get? ep.id = some p ∧ ∀ k < slot.registers,
      (read (slot.register + k)).map (·.toList) = some ((p.scalars.toList.drop (4 * k)).take 4)
  others : ∀ n, (∀ slot ∈ table.constants, ¬ slot.Covers n) → read n = blank n

/-- Four numbers that follow each other in a value make a register. -/
theorem Register.toList_ofList_drop (scalars : Scalars) {k : Nat} (hk : k < 4) :
    (Register.ofList (scalars.toList.drop (4 * k))).toList =
      (scalars.toList.drop (4 * k)).take 4 := by
  apply List.ext_getElem
  · simp only [Vector.length_toList, List.length_take, List.length_drop]
    omega
  · intro i hi hi'
    simp only [Vector.length_toList] at hi
    have hlt : 4 * k + i < 16 := by omega
    simp [Register.ofList, hlt]

namespace Draw

variable {D : Type}

/-- The pass is one that may be drawn, of the technique that was chosen for the effect. -/
def Chosen (draw : Draw D) : Prop :=
  ∃ technique, draw.effect.default? = some technique ∧ draw.pass ∈ technique.passes ∧
    draw.pass.valid = true

variable [Device D] [RegisterFile D]

/-- Each program of the pass is bound, and its registers are current, unless there are
more than the device has. -/
def Current (draw : Draw D) (parameters : Parameters) : Prop :=
  ∀ program ∈ draw.pass.programs, ∃ id,
    RegisterFile.boundAt draw.device program.stage = some id ∧
      (program.constants.registerCount ≤ RegisterFile.capacity D →
        program.constants.Current draw.effect parameters (RegisterFile.read draw.device id)
          (RegisterFile.blank D))

end Draw

namespace Renderer

variable {D : Type} [Device D] [RegisterFile D] {r r' : Renderer D} {scene : Scene}
  {effect : Effect} {geometry : Option Geometry}

section pass

variable {technique : Technique} {pass : Pass}
  (hstages : ∀ programs : List Program, Accepted D programs → (programs.map (·.stage)).Nodup)
  (hcompiled : WellCompiled D effect) (hsupplies : scene.parameters.Supplies effect)

include hstages hcompiled hsupplies

/-- A pass is drawn with current registers. -/
theorem passDraws_current (h : r.Kept) (ht : technique ∈ effect.techniques)
    (hpass : pass ∈ technique.passes) (hvalid : pass.valid = true) :
    ∀ draw ∈ r.passDraws scene effect pass, draw.effect = effect ∧ draw.pass = pass ∧
      draw.Current scene.parameters := by
  unfold passDraws
  rcases hbind : r.bindPass scene effect pass with ⟨e | _, r₁⟩
  · exact fun draw hdraw => absurd hdraw List.not_mem_nil
  have hprograms := hstages pass.programs (hcompiled.accepted technique ht pass hpass hvalid)
  obtain ⟨hkept, hall⟩ := h.bindPass hprograms
    (fun program hprogram => hcompiled.laid_constants ht hpass hprogram) hbind
  intro draw hdraw
  obtain rfl := List.mem_singleton.mp hdraw
  refine ⟨rfl, rfl, fun program hprogram => ?_⟩
  obtain ⟨id, hid, hat, hheld⟩ := hall program hprogram
  -- drawing in the state of an effect changes no register
  have hsame : ∀ n, RegisterFile.read (Device.enterEffectState r₁.device) id n =
      RegisterFile.read r₁.device id n :=
    (RegisterFile.keep r₁.device (c := .enterEffectState) rfl id (hkept.has _ id hid)).2
  refine ⟨id, ?_, fun hcount => ?_⟩
  · rw [RegisterFile.boundAt_enterEffectState]
    exact hat
  have hlaid := hcompiled.laid_constants ht hpass hprogram
  obtain ⟨hslots, hothers⟩ := hheld (hlaid.fits hcount)
  refine ⟨fun slot hslot => ?_, fun n hn => ?_⟩
  · obtain ⟨ep, hep, hfind, hname, hscalar⟩ :=
      hcompiled.parameter?_slot ht hpass hprogram hslot
    obtain ⟨p, hp, hpname, hptype, hfeeds⟩ := hcompiled.feeds hsupplies hep
    rw [hname] at hfeeds
    have hcategory : p.category = .scalar := by
      unfold Parameter.category
      rw [hptype]
      exact hscalar
    have hholds := hslots slot hslot ep.id (List.mem_map_of_mem hep) p hp
      (hpname.trans hname) hcategory hfeeds
    refine ⟨ep, p, hfind, hp, fun k hk => ?_⟩
    have hregisters := hlaid.registers_le slot hslot
    rw [hsame, hholds k hk, Option.map_some,
      Register.toList_ofList_drop p.scalars (by omega)]
  · rw [hsame]
    exact hothers n hn

/-- Passes that are drawn one after the other are drawn with current registers. -/
theorem passesDraws_current (ht : technique ∈ effect.techniques) {passes : List Pass}
    (hpasses : ∀ pass ∈ passes, pass ∈ technique.passes) (h : r.Kept) (progress : Progress) :
    ∀ draw ∈ r.passesDraws scene effect geometry progress passes, draw.effect = effect ∧
      (draw.pass ∈ technique.passes ∧ draw.pass.valid = true) ∧
      draw.Current scene.parameters := by
  induction passes generalizing r progress with
  | nil => exact fun draw hdraw => absurd hdraw List.not_mem_nil
  | cons pass rest ih =>
    have hmem := hpasses pass List.mem_cons_self
    have hrest : ∀ pass ∈ rest, pass ∈ technique.passes :=
      fun pass hpass => hpasses pass (List.mem_cons_of_mem _ hpass)
    rw [passesDraws]
    by_cases hvalid : pass.valid = true
    · rw [if_pos hvalid]
      intro draw hdraw
      rcases List.mem_append.mp hdraw with hfirst | hlater
      · obtain ⟨heffect, rfl, hcurrent⟩ :=
          passDraws_current hstages hcompiled hsupplies h ht hmem hvalid draw hfirst
        exact ⟨heffect, ⟨hmem, hvalid⟩, hcurrent⟩
      · have hsteps := drawPass_steps r scene effect geometry progress pass
        rcases hdrawn : r.drawPass scene effect geometry progress pass with ⟨e | progress₁, r₁⟩
        · simp [hdrawn] at hlater
        · rw [hdrawn] at hsteps
          simp only [hdrawn] at hlater
          exact ih hrest (hsteps.kept h) progress₁ draw hlater
    · rw [if_neg hvalid]
      exact ih hrest ((steps_note r _).kept h) progress

/-- The technique of an effect is drawn with current registers. -/
theorem effectDraws_current (h : r.Kept) (geometry : Option Geometry) :
    ∀ draw ∈ r.effectDraws scene effect geometry, draw.effect = effect ∧
      draw.Chosen ∧ draw.Current scene.parameters := by
  unfold effectDraws
  cases hdefault : effect.default? with
  | none => exact fun draw hdraw => absurd hdraw List.not_mem_nil
  | some technique =>
    simp only [techniqueDraws]
    split_ifs
    · exact fun draw hdraw => absurd hdraw List.not_mem_nil
    · have htechnique : technique ∈ effect.techniques := by
        obtain ⟨index, _, hget⟩ := Option.bind_eq_some_iff.mp hdefault
        exact List.mem_of_getElem? hget
      have hfitted := (fitQuad_steps r).kept h
      have hset := Steps.kept (setTarget_step r.fitQuad .scratch).steps.of_quiet hfitted
      rcases hresult : Device.setTarget r.fitQuad.device .scratch with ⟨e | _, device⟩
      · exact fun draw hdraw => absurd hdraw List.not_mem_nil
      · rw [hresult] at hset
        intro draw hdraw
        obtain ⟨heffect, hpass, hcurrent⟩ := passesDraws_current hstages hcompiled hsupplies
          htechnique (fun _ hpass => hpass) hset {} draw hdraw
        exact ⟨heffect, ⟨technique, by rw [heffect, hdefault], hpass⟩, hcurrent⟩

end pass

end Renderer

namespace Session

variable {D : Type} [Device D] [RegisterFile D]
  (hstages : ∀ programs : List Program, Accepted D programs → (programs.map (·.stage)).Nodup)

include hstages

/-- Effects that are drawn one after the other are drawn with current registers. -/
theorem effectsDraws_current {e : Engine D} (h : e.renderer.Kept) {effects : List Effect}
    (hcompiled : ∀ effect ∈ effects, WellCompiled D effect)
    (hsupplies : ∀ effect ∈ effects, e.parameters.Supplies effect)
    (geometry : Option Geometry) :
    ∀ draw ∈ effectsDraws e geometry effects, draw.effect ∈ effects ∧ draw.Chosen ∧
      draw.Current e.parameters := by
  induction effects generalizing e with
  | nil => exact fun draw hdraw => absurd hdraw List.not_mem_nil
  | cons effect rest ih =>
    intro draw hdraw
    rw [effectsDraws] at hdraw
    rcases List.mem_append.mp hdraw with hfirst | hlater
    · obtain ⟨rfl, hpass, hcurrent⟩ := Renderer.effectDraws_current hstages
        (hcompiled effect List.mem_cons_self) (hsupplies effect List.mem_cons_self) h geometry
        draw hfirst
      exact ⟨List.mem_cons_self, hpass, hcurrent⟩
    · have hsteps := Renderer.drawEffect_steps e.renderer e.scene effect geometry
      rcases hdrawn : e.renderer.drawEffect e.scene effect geometry with ⟨error | report, r₁⟩
      · simp [hdrawn] at hlater
      · rw [hdrawn] at hsteps
        simp only [hdrawn] at hlater
        have hkept := (Renderer.steps_note r₁
          [.passesDrawn effect.name report.passesDrawn]).kept (hsteps.kept h)
        obtain ⟨hmem, hrest⟩ := ih
          (e := { e with renderer := r₁ }.note [.passesDrawn effect.name report.passesDrawn]) hkept
          (fun effect heffect => hcompiled effect (List.mem_cons_of_mem _ heffect))
          (fun effect heffect => hsupplies effect (List.mem_cons_of_mem _ heffect)) draw hlater
        exact ⟨List.mem_cons_of_mem _ hmem, hrest⟩

/-- In a frame every draw has current registers, as the parameters are after the frame,
since drawing changes none. -/
theorem frameDraws_current {session : Session D} {held : List ParameterId}
    (howned : session.engine.Owned held) (hkept : session.engine.renderer.Kept) (now : Int)
    (geometry : Option Geometry) :
    ∀ draw ∈ session.frameDraws now geometry,
      draw.effect ∈ session.engine.effects.toList.map (·.2) ∧ draw.Chosen ∧
      draw.Current (session.renderFrame now geometry).2.engine.parameters := by
  unfold frameDraws
  rw [renderFrame_eq]
  split_ifs with hlost
  · exact fun draw hdraw => absurd hdraw List.not_mem_nil
  obtain ⟨writes, hprepared⟩ := session.prepared_eq now
  simp only [drawFrame_parameters]
  rw [hprepared]
  have hwritten : ({ session.engine with parameters := written session.engine.parameters writes } :
      Engine D).Owned held := howned.stays (stays_written _ writes) rfl
  obtain ⟨renderer, heq, hsteps⟩ := snapshot_steps
    { session.engine with parameters := written session.engine.parameters writes }
    Staging.thisFrame
  rcases hsnap : snapshot
    { session.engine with parameters := written session.engine.parameters writes }
    Staging.thisFrame with ⟨_ | _, e₁⟩
  · exact fun draw hdraw => absurd hdraw List.not_mem_nil
  rw [hsnap] at heq
  simp only at heq
  subst heq
  refine effectsDraws_current hstages (hsteps.kept hkept) ?_ ?_ geometry
  · exact fun _ heffect => hwritten.compiled_of_mem heffect
  · exact fun _ heffect => hwritten.supplies heffect

end Session

/-! ## The devices -/

namespace Host

open Graphics (gpu)

/-- At every draw of a frame, whatever the host did before, each program of the pass is
bound and its registers are current. A device without a screen has a register for each
number of 32 bits. A graphics device, whatever its interface refuses, has accepted no program
with more registers than it has, so no write is dropped. Each pass that may be drawn has one of
these draws, or a bind error. -/
theorem draws_current :
    (∀ (device : HeadlessDevice) (settings : Settings) (compiler : Compiler) (start : Int)
        (session : Session HeadlessDevice) (engine : Engine HeadlessDevice)
        (ops : List (HostOp HeadlessDevice HeadlessAct)) (host : Host HeadlessDevice) (now : Int)
        (geometry : Option Geometry),
      Session.create device settings compiler start = (.ok session, engine) →
      (∀ op ∈ ops, op.leavesConstants = true) →
      ({ session } : Host HeadlessDevice).run HeadlessAct.perform ops = host →
      ∀ draw ∈ host.session.frameDraws now geometry, draw.effect ∈ host.effects ∧ draw.Chosen ∧
        ∀ program ∈ draw.pass.programs, ∃ id, draw.device.bound.get? program.stage = some id ∧
          (program.constants.registerCount ≤ HeadlessDevice.registerNumbers →
            program.constants.Current draw.effect
              (host.session.renderFrame now geometry).2.engine.parameters
              (draw.device.register? id) fun _ => none)) ∧
    (∀ (D : Type) [Device D] [Graphics D] (device : D) (settings : Settings) (compiler : Compiler)
        (start : Int) (session : Session D) (engine : Engine D) (ops : List (HostOp D GpuAct))
        (host : Host D) (now : Int) (geometry : Option Geometry),
      Session.create device settings compiler start = (.ok session, engine) →
      (∀ op ∈ ops, op.leavesConstants = true) →
      ({ session } : Host D).run Graphics.act ops = host →
      ∀ draw ∈ host.session.frameDraws now geometry, draw.effect ∈ host.effects ∧ draw.Chosen ∧
        ∀ program ∈ draw.pass.programs, ∃ id,
          (gpu draw.device).bound.get? program.stage = some id ∧
          (∀ slot ∈ program.constants.constants,
            slot.register + slot.registers ≤ Gpu.registerLimit) ∧
          program.constants.Current draw.effect
            (host.session.renderFrame now geometry).2.engine.parameters
            ((gpu draw.device).register? id) GpuDevice.blankRegister) ∧
    ∀ (D : Type) [Device D] (host : Host D) (now : Int) (geometry : Option Geometry)
        (reports : List FrameReport) (session : Session D),
      host.session.renderFrame now geometry = (.ok reports, session) →
      (reports.flatMap (·.bindErrors)).length + (host.session.frameDraws now geometry).length =
        (host.effects.flatMap Effect.drawablePasses).length := by
  refine ⟨?_, ?_, fun _ _ _ _ _ _ _ => Session.frameDraws_length⟩
  · intro device settings compiler start session engine ops host now geometry hcreate hops hrun
    have howned := run_owned hcreate HeadlessAct.perform ops
    have hkept := run_kept hcreate HeadlessAct.keepsRegisters hops
    rw [hrun] at howned hkept
    exact Session.frameDraws_current (fun _ => HeadlessDevice.nodup_of_accepted) howned hkept now
      geometry
  · intro D _ _ device settings compiler start session engine ops host now geometry hcreate hops
      hrun
    have howned := run_owned hcreate Graphics.act ops
    have hkept := run_kept hcreate Graphics.keepsRegisters hops
    rw [hrun] at howned hkept
    intro draw hdraw
    obtain ⟨heffect, hchosen, hcurrent⟩ := Session.frameDraws_current
      (fun _ h => (Graphics.fits_of_accepted h).1) howned hkept now geometry draw hdraw
    refine ⟨heffect, hchosen, fun program hprogram => ?_⟩
    obtain ⟨id, hat, hheld⟩ := hcurrent program hprogram
    obtain ⟨technique, hdefault, hpass, hvalid⟩ := hchosen
    have htechnique : technique ∈ draw.effect.techniques := by
      obtain ⟨index, _, hget⟩ := Option.bind_eq_some_iff.mp hdefault
      exact List.mem_of_getElem? hget
    obtain ⟨handle, hget⟩ := (Arena.mem_items_iff _ draw.effect).mp heffect
    have hcompiled := howned.compiled handle draw.effect hget
    have hcount := (Graphics.fits_of_accepted
      (hcompiled.accepted technique htechnique draw.pass hpass hvalid)).2 program hprogram
    have hlaid := hcompiled.laid_constants htechnique hpass hprogram
    exact ⟨id, hat, hlaid.fits hcount, hheld hcount⟩

/-- An effect of one pass with a parameter that its fragment program mentions. -/
def tinted (name : String) : String :=
  "[\"" ++ name ++ "\", [[\"tint\", \"float4\"]], [[\"t\", \x7b\x7d, [[\"p\", \x7b\x7d, " ++
  "[\"wgsl\", \"main\", \"\"], [\"wgsl\", \"main\", \"tint\"]]]]]]"

/-- Two effects that share their programs, after a frame. -/
def sharing {D A : Type} [Device D] : List (HostOp D A) :=
  [.load "a.json" (tinted "a"), .load "b.json" (tinted "b"), .frame 0 none]

/-- A graphics device whose interface refuses the first shader. Before it there are verdicts on
the textures of a session. -/
def refusingFirst : JudgedDevice :=
  .ofSize .plain 4 4 (List.replicate 4 none ++ [some "unreadable"])

/-- An effect whose first shader is refused, and two that share their programs. -/
def refusedSharing {D A : Type} [Device D] : List (HostOp D A) :=
  .load "z.json" (tinted "z") :: sharing

/-- Two effects draw with one program, each with the numbers of its own parameter. The effect
whose shader the graphics interface refuses is not drawn. -/
theorem draws_current_sharing :
    (∃ (session : Session HeadlessDevice) (engine : Engine HeadlessDevice)
      (host : Host HeadlessDevice),
      Session.create (HeadlessDevice.ofSize 4 4) { builtinParameters := false }
          (Session.searching {} {}) 0 = (.ok session, engine) ∧
        ({ session } : Host HeadlessDevice).run HeadlessAct.perform sharing = host ∧
        (host.session.frameDraws 0 none).map (fun draw =>
          (draw.effect.name, draw.device.bound.get? .fragment)) =
            [("a", some ⟨6⟩), ("b", some ⟨6⟩)] ∧
        ∀ draw ∈ host.session.frameDraws 0 none, ∀ program ∈ draw.pass.programs,
          ∃ id, draw.device.bound.get? program.stage = some id ∧
            program.constants.Current draw.effect
              (host.session.renderFrame 0 none).2.engine.parameters (draw.device.register? id)
              fun _ => none) ∧
    (∃ (session : Session JudgedDevice) (engine : Engine JudgedDevice) (host : Host JudgedDevice),
      Session.create refusingFirst { builtinParameters := false }
          (Session.searching {} {}) 0 = (.ok session, engine) ∧
        ({ session } : Host JudgedDevice).run Graphics.act refusedSharing = host ∧
        (host.session.frameDraws 0 none).map (fun draw =>
          (draw.effect.name, draw.device.device.bound.get? .fragment)) =
            [("a", some ⟨6⟩), ("b", some ⟨6⟩)] ∧
        (∃ (reports : List FrameReport) (session' : Session JudgedDevice),
          host.session.renderFrame 0 none = (.ok reports, session') ∧
            (reports.flatMap (·.bindErrors)).length + 2 =
              (host.effects.flatMap Effect.drawablePasses).length) ∧
        ∀ draw ∈ host.session.frameDraws 0 none, ∀ program ∈ draw.pass.programs,
          ∃ id, draw.device.device.bound.get? program.stage = some id ∧
            program.constants.Current draw.effect
              (host.session.renderFrame 0 none).2.engine.parameters
              (draw.device.device.register? id) GpuDevice.blankRegister) := by
  constructor
  · have hdrawn : (Session.create (HeadlessDevice.ofSize 4 4) { builtinParameters := false }
          (Session.searching {} {}) 0).1.toOption.map (fun session =>
        (({ session } : Host HeadlessDevice).run HeadlessAct.perform sharing).session.frameDraws 0
          none |>.map fun draw => ((draw.effect.name, draw.device.bound.get? .fragment),
            draw.pass.programs.map fun program => program.constants.registerCount)) =
        some [(("a", some ⟨6⟩), [0, 1]), (("b", some ⟨6⟩), [0, 1])] := by decide +kernel
    obtain ⟨session, hsession, hseen⟩ := Option.map_eq_some_iff.mp hdrawn
    have hcreate := eq_ok_of_toOption hsession
    have hops : ∀ op ∈ (sharing : List (HostOp HeadlessDevice HeadlessAct)),
        op.leavesConstants = true := by simp [sharing, HostOp.leavesConstants]
    refine ⟨session, _, _, hcreate, rfl, ?_, fun draw hdraw program hprogram => ?_⟩
    · have hfirst := congrArg (List.map Prod.fst) hseen
      simpa only [List.map_map, Function.comp_def, List.map_cons, List.map_nil] using hfirst
    · obtain ⟨_, _, hcurrent⟩ :=
        draws_current.1 _ _ _ _ session _ sharing _ 0 none hcreate hops rfl draw hdraw
      obtain ⟨id, hat, hheld⟩ := hcurrent program hprogram
      -- no program of the two effects has more than one register
      have hmem := List.mem_map_of_mem (f := fun draw : Draw HeadlessDevice =>
        ((draw.effect.name, draw.device.bound.get? .fragment),
          draw.pass.programs.map fun program => program.constants.registerCount)) hdraw
      rw [hseen] at hmem
      have hcount : program.constants.registerCount ∈ [0, 1] := by
        have hcounts := List.mem_map_of_mem
          (f := fun program : Program => program.constants.registerCount) hprogram
        simp only [List.mem_cons, List.not_mem_nil, or_false, Prod.mk.injEq] at hmem
        rcases hmem with ⟨_, heq⟩ | ⟨_, heq⟩ <;> rwa [heq] at hcounts
      have hone : program.constants.registerCount ≤ 1 := by
        simp only [List.mem_cons, List.not_mem_nil, or_false] at hcount
        omega
      exact ⟨id, hat, hheld (Nat.le_trans hone (by decide))⟩
  · have hdrawn : (Session.create refusingFirst { builtinParameters := false }
          (Session.searching {} {}) 0).1.toOption.map (fun session =>
        (({ session } : Host JudgedDevice).run Graphics.act refusedSharing).session.frameDraws 0
          none |>.map fun draw => (draw.effect.name, draw.device.device.bound.get? .fragment)) =
        some [("a", some ⟨6⟩), ("b", some ⟨6⟩)] := by decide +kernel
    have hreported : (Session.create refusingFirst { builtinParameters := false }
          (Session.searching {} {}) 0).1.toOption.map (fun session =>
        (({ session } : Host JudgedDevice).run Graphics.act
          refusedSharing).session.renderFrame 0 none |>.1.isOk) = some true := by decide +kernel
    obtain ⟨session, hsession, hseen⟩ := Option.map_eq_some_iff.mp hdrawn
    have hcreate := eq_ok_of_toOption hsession
    have hops : ∀ op ∈ (refusedSharing : List (HostOp JudgedDevice GpuAct)),
        op.leavesConstants = true := by simp [refusedSharing, sharing, HostOp.leavesConstants]
    refine ⟨session, _, _, hcreate, rfl, hseen, ?_, fun draw hdraw program hprogram => ?_⟩
    · rw [hsession] at hreported
      rcases hframe : (({ session } : Host JudgedDevice).run Graphics.act
        refusedSharing).session.renderFrame 0 none with ⟨e | reports, session'⟩
      · simp [hframe, Except.isOk, Except.toBool] at hreported
      have hlength := draws_current.2.2 JudgedDevice _ 0 none reports session' hframe
      have htwo := congrArg List.length hseen
      rw [List.length_map] at htwo
      rw [htwo] at hlength
      exact ⟨reports, session', rfl, hlength⟩
    obtain ⟨_, _, hcurrent⟩ := draws_current.2.1 JudgedDevice _ _ _ _ session _ refusedSharing _ 0
      none hcreate hops rfl draw hdraw
    obtain ⟨id, hat, _, hheld⟩ := hcurrent program hprogram
    exact ⟨id, hat, hheld⟩

end Host

end ShaderEffects
