import ShaderEffects.Proofs.FrameRuns
import ShaderEffects.Proofs.KeptPrograms
import ShaderEffects.Proofs.SampledTextures

/-!
# The textures that a run samples

A host that puts no texture into a slot itself leaves it to the renderer. Then, whatever
it does, what a draw samples where its effect holds no texture is what the draws before
it left there, since the device has no way to empty a slot.
-/
namespace ShaderEffects

theorem DeviceCall.leavesPrograms_covers {D : Type} [Device D] :
    DeviceCall.Covers (DeviceCall.leavesPrograms : DeviceCall D → Bool) := by
  rintro c (h | h)
  · exact leavesPrograms_of_draws h
  · cases c <;> first | rfl | cases h

namespace Host

variable {D A : Type} [Device D]

/-- The draws of an operation, each with what the renderer read when it bound the pass. -/
def drawsOf (host : Host D) : HostOp D A → List (SceneDraw D)
  | .frame now geometry => (host.session.frameDraws now geometry).map
      (Draw.within (host.session.renderFrame now geometry).2.engine.scene)
  | _ => []

/-- The draws of a run, from the oldest on. -/
def draws (act : A → D → D) (host : Host D) : List (HostOp D A) → List (SceneDraw D)
  | [] => []
  | op :: rest => host.drawsOf op ++ (host.step act op).draws act rest

theorem drawsOf_eq_nil (host : Host D) {op : HostOp D A} (h : op.isFrame = false) :
    host.drawsOf op = [] := by
  cases op <;> first | rfl | cases h

end Host

variable {D : Type} [Device D] [RegisterFile D] [SamplerFile D]

/-! ## Between operations -/

namespace Engine

/-- The registered textures are on the device. -/
def Stores (e : Engine D) : Prop := e.textures.StoredOn e.device

/-- No pass is bound, and the registered textures are on the device. -/
structure Rests (e : Engine D) : Prop where
  unbound : e.renderer.bound = none
  stored : e.Stores

variable {e e' : Engine D}

/-- A renderer that went on can take the place of another. -/
theorem Stores.withRenderer (h : e.Stores) {r : Renderer D} {kind : DeviceCall D → Bool}
    {hands : Prop} (hsteps : e.renderer.StepsBy kind hands r) :
    ({ e with renderer := r } : Engine D).Stores := hsteps.storedOn h

theorem Stores.withDevice (h : e.Stores) {d : D}
    (hd : ∀ texture, SamplerFile.HasTexture e.device texture →
      SamplerFile.HasTexture d texture) : (e.withDevice d).Stores :=
  fun handle texture hget => hd _ (h handle texture hget)

/-- A call takes no texture from the device. -/
theorem Stores.call (h : e.Stores) {c : DeviceCall D} {d : D} (hcall : c.perform e.device = d) :
    (e.withDevice d).Stores := by
  subst hcall
  exact h.withDevice fun _ => SamplerFile.hasTexture e.device c

theorem Stores.register (h : e.Stores) {name : String} {backing : TextureId} {desc : TextureDesc}
    {handle : Handle Texture} {textures : TextureRegistry}
    (hregister : e.textures.register name backing desc = .ok (handle, textures))
    (hbacking : SamplerFile.HasTexture e.device backing) :
    ({ e with textures } : Engine D).Stores := by
  intro k texture hk
  rw [TextureRegistry.get?_register hregister] at hk
  split_ifs at hk
  · cases hk
    exact hbacking
  · exact h k texture hk

theorem Step.stores (h : e.Step e') (he : e.Stores) : e'.Stores := by
  cases h with
  | note | attach | give => exact he
  | @call c => exact he.call (c := c) rfl
  | @create name desc backing device _ _ hcreate hregister =>
    have hcall : (DeviceCall.createTexture name desc).perform e.device = device :=
      congrArg Prod.snd hcreate
    exact (he.call hcall).register hregister (SamplerFile.createTexture hcreate)
  | @load files name path backing desc device _ _ _ hload hregister =>
    have hcall : (DeviceCall.loadTexture files name path).perform e.device = device :=
      congrArg (fun result => result.2.1) hload
    exact (he.call hcall).register hregister (SamplerFile.loadTexture hload)

theorem Steps.stores (h : e.Steps e') (he : e.Stores) : e'.Stores :=
  h.keep (fun _ _ hstep => hstep.stores) he

theorem load_stores (he : e.Stores) (name text : String) : (e.load name text).2.Stores := by
  rcases e.load_cases name text with hsteps | ⟨_, draft, e₁, _, hsteps₁, _, heq⟩
  · exact hsteps.stores he
  · rw [heq]
    have hdrafted : ({ e₁ with parameters := (draft.install e.parameters).2 } :
        Engine D).Stores := hsteps₁.stores he
    have hlinked := (link_steps _ (draft.install e.parameters).1).stores hdrafted
    exact hlinked

theorem Step.rests (h : e.Step e') (he : e.Rests) : e'.Rests := by
  refine ⟨?_, h.stores he.stored⟩
  rcases h.renderer_cases with heq | ⟨_, heq⟩ | ⟨_, _, heq⟩ <;> rw [heq] <;> exact he.unbound

theorem Tunes.rests (h : e.Tunes e') (he : e.Rests) : e'.Rests := by
  obtain ⟨parameters, notices, rfl⟩ := h
  exact ⟨he.unbound, he.stored⟩

end Engine

/-- Such calls leave programs, what is in their slots, and textures. -/
structure KeepsSlots {A : Type} (act : A → D → D) : Prop where
  registers : KeepsRegisters act
  slots : ∀ a d id, RegisterFile.Has d id → ∀ slot,
    (SamplerFile.HasSlot d id slot → SamplerFile.HasSlot (act a d) id slot) ∧
      SamplerFile.sampler? (act a d) id slot = SamplerFile.sampler? d id slot
  textures : ∀ a d texture, SamplerFile.HasTexture d texture →
    SamplerFile.HasTexture (act a d) texture

namespace Host

variable {A : Type} {act : A → D → D}

/-- An operation takes no registered texture from the device. -/
theorem step_stores {host : Host D}
    (hact : ∀ a d texture, SamplerFile.HasTexture d texture →
      SamplerFile.HasTexture (act a d) texture) (h : host.engine.Stores) (op : HostOp D A) :
    (host.step act op).engine.Stores := by
  have hchange := host.step_change act op
  generalize (host.step act op).engine = e', (host.step act op).held = held' at hchange ⊢
  cases hchange with
  | steps hsteps => exact hsteps.stores h
  | load notices name text => exact Engine.load_stores (e := host.engine.note notices) h name text
  | unload handle notices =>
    have hfreed := h.withRenderer (Renderer.unbindPass_steps host.engine.renderer)
    unfold Engine.unload
    cases host.engine.effects.get? handle <;> exact hfreed
  | @connect id _ texture _ =>
    have hsteps : host.engine.renderer.Steps (host.engine.connect id texture).2.renderer :=
      Renderer.connected_steps host.engine.renderer _ id
    exact h.withRenderer hsteps
  | createVirtual name type =>
    obtain ⟨parameters, notices, heq⟩ := host.engine.tunes_createVirtual name type
    rw [heq]
    exact h
  | stays | retain | release => exact h
  | draw _ writes geometry =>
    obtain ⟨renderer, heq, hsteps⟩ := Session.drawFrame_steps
      { host.engine with parameters := Session.written host.engine.parameters writes } geometry
    rw [heq]
    exact h.withRenderer hsteps
  | @call c => exact h.call (c := c) rfl
  | @act a => exact h.withDevice (hact a host.engine.device)

theorem step_rests {host : Host D} (hact : KeepsSlots act) (h : host.engine.Rests)
    (op : HostOp D A) : (host.step act op).engine.Rests := by
  refine ⟨host.step_renderer_keep (P := fun r => r.bound = none) act op ?_ ?_ ?_ ?_ ?_ ?_ h.unbound,
    step_stores hact.textures h.stored op⟩
  · exact fun _ _ hact hr => hact.acts.unbound hr
  · exact fun _ _ _ hr => hr
  · exact fun r _ => Renderer.unbindPass_bound r
  · exact fun _ _ _ hr => hr
  · exact fun _ _ _ hr => hr
  · exact fun _ _ _ hr => hr

/-- An operation samples what it should. -/
theorem step_shows (hstages : ∀ programs : List Program,
      Accepted D programs → (programs.map (·.stage)).Nodup)
    (hact : KeepsSlots act) {host : Host D} (howned : host.engine.Owned host.held)
    (h : host.engine.Rests) {op : HostOp D A} (hop : op.calls DeviceCall.leavesPrograms = true) :
    host.engine.renderer.Shows (host.drawsOf op) (host.step act op).engine.renderer := by
  cases hframe : op.isFrame with
  | true =>
    cases op with
    | frame now geometry =>
      exact Session.renderFrame_shows hstages howned h.unbound h.stored now geometry
    | _ => cases hframe
  | false =>
    rw [host.drawsOf_eq_nil hframe]
    rcases host.step_renderer DeviceCall.leavesPrograms_covers act hop
      (Or.inr ⟨hframe, h.unbound⟩ : False ∨ _) with hsteps | ⟨a, -, heq⟩
    · exact hsteps.shows
    · intro before hkept hsupplied
      rw [heq, List.append_nil]
      exact ⟨trivial, hkept.withDevice fun id hid => hact.registers a _ id hid,
        hsupplied.withDevice hkept (hact.slots a _) (hact.textures a _)⟩

/-- A run samples what it should. -/
theorem run_shows (hstages : ∀ programs : List Program,
      Accepted D programs → (programs.map (·.stage)).Nodup)
    (hact : KeepsSlots act) {host : Host D} (howned : host.engine.Owned host.held)
    (h : host.engine.Rests) {ops : List (HostOp D A)}
    (hops : ∀ op ∈ ops, op.calls DeviceCall.leavesPrograms = true) :
    host.engine.renderer.Shows (host.draws act ops) (host.run act ops).engine.renderer := by
  induction ops generalizing host with
  | nil => exact (Renderer.StepsBy.refl host.engine.renderer).shows
  | cons op rest ih =>
    have hfirst := step_shows hstages hact howned h (hops op List.mem_cons_self)
    exact hfirst.trans (ih (step_owned howned act op) (step_rests hact h op)
      fun other hother => hops other (List.mem_cons_of_mem op hother))

/-- Each draw of a session samples what it should, given the draws before it. -/
theorem draws_sample (hstages : ∀ programs : List Program,
      Accepted D programs → (programs.map (·.stage)).Nodup)
    (hact : KeepsSlots act) {device : D} {settings : Settings} {compiler : Compiler} {start : Int}
    {session : Session D} {engine : Engine D}
    (hcreate : Session.create device settings compiler start = (.ok session, engine))
    {ops : List (HostOp D A)} (hops : ∀ op ∈ ops, op.calls DeviceCall.leavesPrograms = true)
    {before after : List (SceneDraw D)} {draw : SceneDraw D}
    (hdraws : ({ session } : Host D).draws act ops = before ++ draw :: after) :
    draw.Samples before := by
  have howned := run_owned hcreate act []
  have hinitial : session.engine.Rests ∧ session.engine.renderer.Kept ∧
      session.engine.renderer.Supplied [] := by
    refine Session.create_keep
      (P := fun e => e.Rests ∧ e.renderer.Kept ∧ e.renderer.Supplied []) ?_ ?_ hcreate
      ⟨⟨rfl, fun _ _ h => by cases h⟩, Renderer.kept_of_empty rfl rfl,
        Renderer.supplied_of_empty rfl⟩
    · exact fun _ _ hstep h => ⟨hstep.rests h.1,
        (hstep.renderer_steps DeviceCall.leavesPrograms_covers).supplied h.2.1 h.2.2⟩
    · exact fun e name type h => ⟨(e.tunes_createVirtual name type).rests h.1,
        (e.tunes_createVirtual name type).renderer_steps.supplied h.2.1 h.2.2⟩
  obtain ⟨hrests, hkept, hsupplied⟩ := hinitial
  have hshows := (run_shows hstages hact howned hrests hops [] hkept hsupplied).1
  have hdrawn : ({ session } : Host D).draws act ops = before ++ draw :: after := hdraws
  change Follows SceneDraw.Samples [] (({ session } : Host D).draws act ops) at hshows
  rw [hdrawn] at hshows
  exact hshows.split

end Host

/-! ## The devices -/

theorem HeadlessAct.keepsSlots : KeepsSlots HeadlessAct.perform where
  registers := keepsRegisters
  slots := fun a d id _ slot => by cases a <;> exact ⟨fun h => h, rfl⟩
  textures := fun a d texture htexture => (a.outlives d).textures texture htexture

theorem Graphics.keepsSlots {D : Type} [Device D] [Graphics D] :
    KeepsSlots (act : GpuAct → D → D) where
  registers := keepsRegisters
  slots := fun a d id _ slot => by
    have hretains := a.retains (gpu d)
    rw [← acts] at hretains
    have hsamplers := hretains.samplers id
    refine ⟨fun h => ?_, ?_⟩
    · obtain ⟨samplers, hget, hlt⟩ := h
      exact ⟨samplers, hsamplers.trans hget, hlt⟩
    · change (gpu (act a d)).slotTexture? id slot = (gpu d).slotTexture? id slot
      rw [GpuDevice.slotTexture?, hsamplers, GpuDevice.slotTexture?]
  textures := fun a d texture htexture => by
    have hretains := a.retains (gpu d)
    rw [← acts] at hretains
    exact hretains.textures texture htexture

namespace Host

open Graphics (gpu)

/-- At every draw of a run each program of the pass is bound. A slot of it has the texture
that the parameter of its name holds; if that holds none, or one that is not registered,
the slot has what the last of the draws before supplied for it that had a program of the
same key and supplied anything, and nothing if there was none. A graphics device, whatever its
interface refuses, samples what a slot has, and a stand-in where it has nothing. -/
theorem sampled_textures :
    (∀ (device : HeadlessDevice) (settings : Settings) (compiler : Compiler) (start : Int)
        (session : Session HeadlessDevice) (engine : Engine HeadlessDevice)
        (ops : List (HostOp HeadlessDevice HeadlessAct))
        (before after : List (SceneDraw HeadlessDevice)) (draw : SceneDraw HeadlessDevice),
      Session.create device settings compiler start = (.ok session, engine) →
      (∀ op ∈ ops, op.calls DeviceCall.leavesPrograms = true) →
      ({ session } : Host HeadlessDevice).draws HeadlessAct.perform ops =
        before ++ draw :: after →
      ∀ program ∈ draw.pass.programs, ∃ id, draw.device.bound.get? program.stage = some id ∧
        ∀ slot ∈ program.constants.samplers, ∃ ep p,
          draw.effect.parameter? slot.parameter = some ep ∧
          draw.scene.parameters.get? ep.id = some p ∧
          draw.device.slotTexture? id slot.slot =
            ((p.texture.bind draw.scene.textures.get?).map (·.backing)).or
              (lastSupplied? program.key slot.parameter before)) ∧
    ∀ (D : Type) [Device D] [Graphics D] (device : D) (settings : Settings) (compiler : Compiler)
        (start : Int) (session : Session D) (engine : Engine D) (ops : List (HostOp D GpuAct))
        (before after : List (SceneDraw D)) (draw : SceneDraw D),
      Session.create device settings compiler start = (.ok session, engine) →
      (∀ op ∈ ops, op.calls DeviceCall.leavesPrograms = true) →
      ({ session } : Host D).draws Graphics.act ops = before ++ draw :: after →
      ∀ program ∈ draw.pass.programs, ∃ id,
        (gpu draw.device).bound.get? program.stage = some id ∧
        ∀ slot ∈ program.constants.samplers, ∃ ep p,
          draw.effect.parameter? slot.parameter = some ep ∧
          draw.scene.parameters.get? ep.id = some p ∧
          (((gpu draw.device).programs.get? id).map (gpu draw.device).sampledBy).bind
              (·[slot.slot]?) =
            some ((((p.texture.bind draw.scene.textures.get?).map (·.backing)).or
              (lastSupplied? program.key slot.parameter before)).elim .fallback .texture) := by
  constructor
  · intro device settings compiler start session engine ops before after draw hcreate hops hdraws
      program hprogram
    have hstages := fun (programs : List Program) (h : Accepted HeadlessDevice programs) =>
      HeadlessDevice.nodup_of_accepted h
    obtain ⟨id, hat, hslots⟩ :=
      draws_sample hstages HeadlessAct.keepsSlots hcreate hops hdraws program hprogram
    refine ⟨id, hat, fun slot hslot => ?_⟩
    obtain ⟨ep, p, hfind, hp, _, hholds, _⟩ := hslots slot hslot
    exact ⟨ep, p, hfind, hp, hholds⟩
  · intro D _ _ device settings compiler start session engine ops before after draw hcreate hops
      hdraws program hprogram
    have hstages := fun (programs : List Program) (h : Accepted D programs) =>
      (Graphics.fits_of_accepted h).1
    obtain ⟨id, hat, hslots⟩ :=
      draws_sample hstages Graphics.keepsSlots hcreate hops hdraws program hprogram
    refine ⟨id, hat, fun slot hslot => ?_⟩
    obtain ⟨ep, p, hfind, hp, hhas, hholds, hthere⟩ := hslots slot hslot
    refine ⟨ep, p, hfind, hp, ?_⟩
    rw [GpuDevice.sampledBy_slot hhas, ← hholds]
    -- what a slot has, the device has, so nothing stands in for it
    cases hslotted : SamplerFile.sampler? draw.device id slot.slot with
    | none =>
      change (gpu draw.device).slotTexture? id slot.slot = none at hslotted
      rw [hslotted]
      rfl
    | some texture =>
      have hcontains : (gpu draw.device).textures.contains texture = true :=
        hthere texture hslotted
      change (gpu draw.device).slotTexture? id slot.slot = some texture at hslotted
      rw [hslotted, GpuDevice.sampled, if_pos hcontains]
      rfl

/-- An effect of one pass whose fragment program mentions a sampler with these
annotations. -/
def mirror (name annotations : String) : String :=
  "[\"" ++ name ++ "\", [[\"s\", \"sampler2D\", [], \x7b" ++ annotations ++ "\x7d]], " ++
  "[[\"t\", \x7b\x7d, [[\"p\", \x7b\x7d, [\"wgsl\", \"main\", \"\"], " ++
  "[\"wgsl\", \"main\", \"s\"]]]]]]"

/-- Two effects that share their programs, of which only the first has a texture. The
texture is taken away between two frames. -/
def mirroring {D A : Type} [Device D] : List (HostOp D A) :=
  [.load "a.json" (mirror "a" "\"texture\": \":thisframe\""), .load "b.json" (mirror "b" ""),
    .frame 0 none, .write ⟨0⟩ (.texture none), .frame 0 none]

theorem mirroring_leavesPrograms {D A : Type} [Device D] :
    ∀ op ∈ (mirroring : List (HostOp D A)), op.calls DeviceCall.leavesPrograms = true := by
  simp [mirroring, HostOp.calls]

/-- The effect of a draw, the texture that its sampler holds, and that in the slot of the
fragment program. -/
def SceneDraw.mirrored (draw : SceneDraw HeadlessDevice) :
    String × Option TextureId × Option TextureId :=
  (draw.effect.name, draw.scene.textureOf? draw.effect "s",
    (draw.device.bound.get? .fragment).bind fun id => draw.device.slotTexture? id 0)

theorem sampled_textures_mirrored :
    (∃ session engine first second third last,
      Session.create (HeadlessDevice.ofSize 4 4) { builtinParameters := false }
        (Session.searching {} {}) 0 = (.ok session, engine) ∧
      ({ session } : Host HeadlessDevice).draws HeadlessAct.perform mirroring =
        [first, second, third] ++ last :: [] ∧
      ∀ program ∈ last.pass.programs, ∃ id, last.device.bound.get? program.stage = some id ∧
        ∀ slot ∈ program.constants.samplers, ∃ ep p,
          last.effect.parameter? slot.parameter = some ep ∧
          last.scene.parameters.get? ep.id = some p ∧
          last.device.slotTexture? id slot.slot =
            ((p.texture.bind last.scene.textures.get?).map (·.backing)).or
              (lastSupplied? program.key slot.parameter [first, second, third])) ∧
    (∃ session engine first second third last,
      Session.create (JudgedDevice.ofSize .plain 4 4 []) { builtinParameters := false }
        (Session.searching {} {}) 0 = (.ok session, engine) ∧
      ({ session } : Host JudgedDevice).draws Graphics.act mirroring =
        [first, second, third] ++ last :: [] ∧
      ∀ program ∈ last.pass.programs, ∃ id,
        last.device.device.bound.get? program.stage = some id ∧
        ∀ slot ∈ program.constants.samplers, ∃ ep p,
          last.effect.parameter? slot.parameter = some ep ∧
          last.scene.parameters.get? ep.id = some p ∧
          ((last.device.device.programs.get? id).map last.device.device.sampledBy).bind
              (·[slot.slot]?) =
            some ((((p.texture.bind last.scene.textures.get?).map (·.backing)).or
              (lastSupplied? program.key slot.parameter [first, second, third])).elim
                .fallback .texture)) := by
  constructor
  · have hseen : (Session.create (HeadlessDevice.ofSize 4 4) { builtinParameters := false }
          (Session.searching {} {}) 0).1.toOption.map (fun session =>
        (({ session } : Host HeadlessDevice).draws HeadlessAct.perform mirroring).length) =
        some 4 := by decide +kernel
    obtain ⟨session, hsession, hlength⟩ := Option.map_eq_some_iff.mp hseen
    have hcreate := eq_ok_of_toOption hsession
    obtain ⟨first, second, third, last, hdraws⟩ := List.length_eq_four.mp hlength
    exact ⟨session, _, first, second, third, last, hcreate, hdraws,
      sampled_textures.1 _ _ _ _ session _ mirroring [first, second, third] [] last hcreate
        mirroring_leavesPrograms hdraws⟩
  · have hseen : (Session.create (JudgedDevice.ofSize .plain 4 4 [])
          { builtinParameters := false } (Session.searching {} {}) 0).1.toOption.map (fun session =>
        (({ session } : Host JudgedDevice).draws Graphics.act mirroring).length) =
        some 4 := by decide +kernel
    obtain ⟨session, hsession, hlength⟩ := Option.map_eq_some_iff.mp hseen
    have hcreate := eq_ok_of_toOption hsession
    obtain ⟨first, second, third, last, hdraws⟩ := List.length_eq_four.mp hlength
    exact ⟨session, _, first, second, third, last, hcreate, hdraws,
      sampled_textures.2 JudgedDevice _ _ _ _ session _ mirroring [first, second, third] [] last hcreate
        mirroring_leavesPrograms hdraws⟩

/-- A draw may sample what its effect does not hold: a texture that another effect left in
a program of both, and one that its own parameter had given up. -/
theorem sampled_after_removal :
    ∃ session engine, Session.create (HeadlessDevice.ofSize 4 4) { builtinParameters := false }
        (Session.searching {} {}) 0 = (.ok session, engine) ∧
      (({ session } : Host HeadlessDevice).draws HeadlessAct.perform mirroring).map
          SceneDraw.mirrored =
        [("a", some ⟨3⟩, some ⟨3⟩), ("b", none, some ⟨3⟩), ("a", none, some ⟨3⟩),
          ("b", none, some ⟨3⟩)] := by
  have hseen : (Session.create (HeadlessDevice.ofSize 4 4) { builtinParameters := false }
        (Session.searching {} {}) 0).1.toOption.map (fun session =>
      (({ session } : Host HeadlessDevice).draws HeadlessAct.perform mirroring).map
        SceneDraw.mirrored) =
      some [("a", some ⟨3⟩, some ⟨3⟩), ("b", none, some ⟨3⟩), ("a", none, some ⟨3⟩),
        ("b", none, some ⟨3⟩)] := by decide +kernel
  obtain ⟨session, hsession, hmirrored⟩ := Option.map_eq_some_iff.mp hseen
  exact ⟨session, _, eq_ok_of_toOption hsession, hmirrored⟩

end Host

end ShaderEffects
