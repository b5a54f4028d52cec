import ShaderEffects.Proofs.DeviceAgreement

/-!
# Sessions on the two devices

A session on the device without a screen is a faithful stand-in for one on a graphics
device: as long as a host asks for nothing that only one of them can do, it is told the same
by both, loads the same effects and textures under the same numbers, and draws and copies
the same.
-/
namespace ShaderEffects

open Gpu

/-! ## What both devices can do -/

/-- A vertex and a fragment program that a graphics device can use. -/
structure Plain (programs : List Program) : Prop where
  stages : (programs.map (·.stage)).Perm [.vertex, .fragment]
  profiles : ∀ p ∈ programs, p.profile.family = .wgsl
  registers : ∀ p ∈ programs, p.constants.registerCount ≤ registerLimit
  samplers : ∀ p ∈ programs, ∀ slot ∈ p.constants.samplers, slot.type = .sampler2D

/-- A texture that both devices can create. -/
structure Blank (desc : TextureDesc) : Prop where
  color : desc.format.isColor = true
  depth : desc.depth = 1
  width : 1 ≤ desc.width ∧ desc.width ≤ sideLimit
  height : 1 ≤ desc.height ∧ desc.height ≤ sideLimit

instance : DecidablePred Plain := fun programs =>
  decidable_of_iff ((programs.map (·.stage)).Perm [.vertex, .fragment] ∧
      (∀ p ∈ programs, p.profile.family = .wgsl) ∧
      (∀ p ∈ programs, p.constants.registerCount ≤ registerLimit) ∧
      ∀ p ∈ programs, ∀ slot ∈ p.constants.samplers, slot.type = .sampler2D)
    ⟨fun ⟨stages, profiles, registers, samplers⟩ => ⟨stages, profiles, registers, samplers⟩,
      fun h => ⟨h.stages, h.profiles, h.registers, h.samplers⟩⟩

instance : DecidablePred Blank := fun desc =>
  decidable_of_iff (desc.format.isColor = true ∧ desc.depth = 1 ∧
      (1 ≤ desc.width ∧ desc.width ≤ sideLimit) ∧ (1 ≤ desc.height ∧ desc.height ≤ sideLimit))
    ⟨fun ⟨color, depth, width, height⟩ => ⟨color, depth, width, height⟩,
      fun h => ⟨h.color, h.depth, h.width, h.height⟩⟩

instance (compiler : Compiler) (directives : List (List Directive)) (techniques : List Technique) :
    Decidable (Modest Plain Blank False compiler directives techniques) :=
  decidable_of_iff ((∀ t ∈ techniques, ∀ pass ∈ t.passes, pass.programs ≠ [] →
      Plain pass.programs) ∧
      ∀ ds ∈ directives, ∀ wanted ∈ Directive.texture? ds,
        (∀ desc ∈ wanted.2.toOption, Blank desc) ∧ compiler.resolve? wanted.1 = none)
    ⟨fun ⟨hpasses, hwanted⟩ => ⟨hpasses,
        fun ds hds _ desc hasked => (hwanted ds hds _ hasked).1 desc rfl,
        fun ds hds _ _ hasked => Or.inr (hwanted ds hds _ hasked).2⟩,
      fun h => ⟨h.passes, fun ds hds wanted hasked =>
        ⟨fun desc hdesc => h.blanks ds hds wanted.1 desc (by
            obtain ⟨name, _ | blank⟩ := wanted <;> cases hdesc
            exact hasked),
          (h.files ds hds wanted.1 wanted.2 hasked).resolve_left id⟩⟩⟩

instance (compiler : Compiler) (text : String) :
    Decidable (ModestText Plain Blank False compiler text) :=
  decidable_of_iff (∀ description ∈ (EffectDescription.ofText text).toOption,
      ∀ draft ∈ (EffectDraft.compile compiler description).toOption,
        Modest Plain Blank False compiler (draft.parameters.map (·.directives)) draft.techniques)
    ⟨fun h description draft hparse hcompile =>
        h description (by rw [hparse]; rfl) draft (by rw [hcompile]; rfl),
      fun h description hparse draft hcompile =>
        h description draft (by
          cases hresult : EffectDescription.ofText text <;> rw [hresult] at hparse <;>
            cases hparse
          rfl) (by
          cases hresult : EffectDraft.compile compiler description <;> rw [hresult] at hcompile <;>
            cases hcompile
          rfl)⟩

namespace Plain

variable {programs : List Program}

theorem cases (h : Plain programs) : ∃ vertex fragment : Program, vertex.stage = .vertex ∧
    fragment.stage = .fragment ∧
      (programs = [vertex, fragment] ∨ programs = [fragment, vertex]) := by
  have hstages := h.stages
  have hlength : programs.length = 2 := by simpa using hstages.length_eq
  obtain ⟨a, b, rfl⟩ := List.length_eq_two.mp hlength
  have ha : a.stage ∈ [Stage.vertex, .fragment] := hstages.mem_iff.mp (by simp)
  have hb : b.stage ∈ [Stage.vertex, .fragment] := hstages.mem_iff.mp (by simp)
  have hne : a.stage ≠ b.stage := by
    have hnodup := hstages.nodup_iff.mpr (by decide)
    simpa using hnodup
  simp only [List.mem_cons, List.not_mem_nil, or_false] at ha hb
  rcases ha with ha | ha <;> rcases hb with hb | hb
  · exact absurd (ha.trans hb.symm) hne
  · exact ⟨a, b, ha, hb, Or.inl rfl⟩
  · exact ⟨b, a, hb, ha, Or.inr rfl⟩
  · exact absurd (ha.trans hb.symm) hne

theorem not_repeated (h : Plain programs) : HeadlessDevice.repeatedStage? [] programs = none := by
  obtain ⟨vertex, fragment, hvertex, hfragment, rfl | rfl⟩ := h.cases <;>
    simp [HeadlessDevice.repeatedStage?, hvertex, hfragment]

theorem checkTable (h : Plain programs) {p : Program} (hp : p ∈ programs) :
    GpuDevice.checkTable p = .ok () := by
  have hsamplers : p.constants.samplers.find? (fun slot => slot.type ≠ .sampler2D) = none := by
    simpa using h.samplers p hp
  simp only [GpuDevice.checkTable, if_neg (Nat.not_lt.mpr (h.registers p hp)), hsamplers]

theorem checkPair (h : Plain programs) :
    ∃ vertex fragment, GpuDevice.checkPair programs = .ok (vertex, fragment) := by
  obtain ⟨vertex, fragment, hvertex, hfragment, hprograms⟩ := h.cases
  have hpair : GpuDevice.pair programs = .ok (vertex, fragment) := by
    rcases hprograms with rfl | rfl <;> simp [GpuDevice.pair, hvertex, hfragment]
  have hmem : vertex ∈ programs ∧ fragment ∈ programs := by
    rcases hprograms with rfl | rfl <;> simp
  refine ⟨vertex, fragment, ?_⟩
  simp only [GpuDevice.checkPair, hpair, h.checkTable hmem.1, h.checkTable hmem.2]

end Plain

theorem Blank.creationFault? {desc : TextureDesc} (h : Blank desc) :
    GpuDevice.creationFault? desc = none := by
  have hcolor := h.color
  have hdepth := h.depth
  have hwidth := h.width.2
  have hheight := h.height.2
  simp only [GpuDevice.creationFault?, hcolor, hdepth, Bool.not_true, Bool.false_eq_true, if_false,
    Nat.lt_irrefl]
  rw [if_neg (by omega)]

/-- Whether a geometry has corners. -/
def Cornered (geometry : Geometry) : Prop := geometry.vertices ≠ []

theorem cornered_ofSize (width height : Nat) (halfPixel : Bool) :
    Cornered (FullscreenQuad.ofSize width height halfPixel).geometry := by
  cases halfPixel <;> exact List.cons_ne_nil _ _

/-! ## The devices answer alike -/

theorem twins (fed : Set ParameterId) : Twins fed Agrees where
  isLost := fun h => h.obliging.lost.trans h.lost.symm
  backbufferSize := fun h => h.size.symm
  target := fun h => h.target.symm
  loadProgram := fun h => h.loadProgram
  bind := fun h => h.bind
  unbind := fun h => h.unbind
  setConstants := fun h id register values values' _ => h.setConstants id register values values'
  setSampler := fun h => h.setSampler
  setTarget := fun h => h.setTarget
  copy := fun h _ _ hne => h.copy hne

theorem linkTwins : LinkTwins Agrees Plain Blank False where
  supports := by
    intro d g h programs hplain p hp
    have hd : Device.supports d p.profile = true := by
      simp [Device.supports, HeadlessDevice.supports, h.obliging.refusedProfiles]
    have hg : Device.supports g p.profile = true := decide_eq_true (hplain.profiles p hp)
    rw [hd, hg]
  validate := by
    intro d g h programs hplain
    obtain ⟨vertex, fragment, hpair⟩ := hplain.checkPair
    exact h.validate hplain.not_repeated hpair
  createTexture := fun h name desc hblank => h.createTexture name
    (Nat.one_le_iff_ne_zero.mp hblank.width.1) (Nat.one_le_iff_ne_zero.mp hblank.height.1)
    hblank.creationFault?
  loadTexture := fun hloads => hloads.elim

/-- A pass that was bound has its programs in their stages. -/
theorem get?_bound_bindPass {r r' : Renderer HeadlessDevice} {scene : Scene} {effect : Effect}
    {pass : Pass} (hstages : (pass.programs.map (·.stage)).Nodup)
    (h : r.bindPass scene effect pass = (.ok (), r')) :
    ∀ p ∈ pass.programs, ∃ id, r'.device.bound.get? p.stage = some id := by
  obtain ⟨r₁, _, _, _, hall, _, rfl⟩ := Renderer.bindPass_ready hstages h
  rw [Renderer.foldl_applyParameter_device]
  intro p hp
  obtain ⟨id, _, hat, _⟩ := hall p hp
  exact ⟨id, (congrFun (Renderer.boundAt_foldl _ _) _).trans hat⟩

theorem drawTwins (fed : Set ParameterId) : DrawTwins fed Agrees
    (fun quad => Cornered quad.geometry) (fun pass => Accepted GpuDevice pass.programs)
    Cornered where
  toTwins := twins fed
  fit := by
    intro quad width height hquad
    unfold FullscreenQuad.fit
    split_ifs
    · exact hquad
    · exact cornered_ofSize width height _
  quad := fun _ hquad => hquad
  draw := by
    intro r r₁ scene effect pass haccepted hbind g h geometry hgeometry
    obtain ⟨vertex, fragment, hvertex, hfragment, hprograms, _⟩ :=
      Graphics.pair_of_accepted haccepted
    have hbound := get?_bound_bindPass (Graphics.fits_of_accepted haccepted).1 hbind
    have hmem : vertex ∈ pass.programs ∧ fragment ∈ pass.programs := by
      rcases hprograms with heq | heq <;> simp [heq]
    obtain ⟨v, hv⟩ := hbound vertex hmem.1
    obtain ⟨f, hf⟩ := hbound fragment hmem.2
    rw [hvertex] at hv
    rw [hfragment] at hf
    exact h.drawAside hv hf hgeometry

/-! ## Setting up -/

namespace Engine

variable {e : Engine HeadlessDevice} {name : String} {desc : TextureDesc}

/-- A texture of some size is created under a name that is free, as long as the device is
not lost. -/
theorem createRegistered_ok (hlost : e.device.lost = false) (hdesc : Blank desc)
    (hname : e.textures.contains name = false) :
    ∃ handle e', e.createRegistered name desc = (.ok handle, e') ∧ e'.device.lost = false ∧
      e'.parameters = e.parameters := by
  have hsized : ¬ (desc.width = 0 ∨ desc.height = 0) := by
    have hwidth := hdesc.width.1
    have hheight := hdesc.height.1
    omega
  have halive : e.device.alive = .ok () := by simp [HeadlessDevice.alive, hlost]
  unfold createRegistered
  simp only [HeadlessDevice.device_createTexture, HeadlessDevice.createTexture, halive,
    if_neg hsized, registerTexture, withDevice, TextureRegistry.register, hname,
    Bool.false_eq_true, if_false]
  exact ⟨_, _, rfl, hlost, rfl⟩

end Engine

namespace Session

theorem stage_ok {e : Engine HeadlessDevice} (hlost : e.device.lost = false)
    {desc : TextureDesc} (hdesc : Blank desc) {names : List String} (hnames : names.Nodup)
    (hfree : ∀ name ∈ names, e.textures.contains name = false) :
    ∃ e', stage e desc names = (.ok (), e') ∧ e'.parameters = e.parameters := by
  induction names generalizing e with
  | nil => exact ⟨e, rfl, rfl⟩
  | cons name rest ih =>
    obtain ⟨hfirst, hrest⟩ := List.nodup_cons.mp hnames
    obtain ⟨handle, e₁, hcreate, hlost₁, hparameters⟩ :=
      Engine.createRegistered_ok hlost hdesc (hfree name List.mem_cons_self)
    obtain ⟨e₂, hstage, hsame⟩ := ih hlost₁ hrest fun other hother =>
      Engine.contains_createRegistered hcreate (fun heq => hfirst (heq ▸ hother))
        (hfree other (List.mem_cons_of_mem name hother))
    refine ⟨e₂, ?_, hsame.trans hparameters⟩
    rw [stage, hcreate]
    exact hstage

theorem registerBuiltins_ok {D : Type} {e : Engine D} (h : e.parameters = {}) :
    ∃ builtins e', registerBuiltins e = (.ok builtins, e') := by
  refine ⟨⟨⟨0⟩, ⟨1⟩, ⟨2⟩⟩, (registerBuiltins e).2, ?_⟩
  obtain ⟨parameters, textures, effects, compiler, renderer⟩ := e
  cases h
  rfl

/-- The device without a screen is ready for a session. -/
theorem create_ok {device : HeadlessDevice} (hlost : device.lost = false) {settings : Settings}
    (hdesc : Blank (.target device.width device.height settings.stagingFormat))
    (compiler : Compiler) (now : Int) :
    ∃ session e, create device settings compiler now = (.ok session, e) := by
  have hnames : Staging.all.Nodup := by decide
  obtain ⟨e, hstage, hparameters⟩ := stage_ok (e := bareEngine device settings compiler) hlost hdesc
    hnames fun _ _ => rfl
  obtain ⟨builtins, e', hbuiltins⟩ := registerBuiltins_ok hparameters
  unfold create
  simp only [HeadlessDevice.device_backbufferSize, hstage]
  split_ifs
  · rw [hbuiltins]
    exact ⟨_, _, rfl⟩
  · exact ⟨_, _, rfl⟩

theorem create_compiler {D : Type} [Device D] {device : D} {settings : Settings}
    {compiler : Compiler} {now : Int} {session : Session D} {e : Engine D}
    (h : create device settings compiler now = (.ok session, e)) :
    session.engine.compiler = compiler :=
  create_keep (P := fun e => e.compiler = compiler)
    (fun _ _ hstep hsame => hstep.compiler.trans hsame)
    (fun e name type hsame => by
      obtain ⟨parameters, notices, heq⟩ := e.tunes_createVirtual name type
      rw [heq]
      exact hsame) h rfl

/-- Where the settings ask for them, a session has the parameters that follow the frames. -/
theorem create_builtins {D : Type} [Device D] {device : D} {settings : Settings}
    {compiler : Compiler} {now : Int} {session : Session D} {e : Engine D}
    (h : create device settings compiler now = (.ok session, e))
    (hsettings : settings.builtinParameters = true) :
    ∃ builtins, session.builtins = some builtins := by
  unfold create at h
  simp only at h
  split at h
  · simp at h
  · rw [if_pos hsettings] at h
    split at h
    · simp at h
    · obtain ⟨rfl, _⟩ := Prod.mk.inj (by simpa using h)
      exact ⟨_, rfl⟩

end Session

/-! ## Running -/

/-- An operation that asks for nothing but what both devices can do: passes of a vertex and
a fragment program, textures of colour, no files of textures and no empty geometry. -/
abbrev SessionOp.Common (compiler : Compiler) (op : SessionOp) : Prop :=
  op.Modest Plain Blank False (fun pass => Accepted GpuDevice pass.programs) Cornered compiler

/-- What a host on each device has in hand is the same, but for the numbers of what is fed. -/
structure Host.Matches (fed : ParameterId → Prop) (host : Host HeadlessDevice)
    (host' : Host GpuDevice) : Prop where
  devices : Agrees host.engine.device host'.engine.device
  /-- Which passes and techniques are valid, which one is drawn, and where they end. -/
  effects : host'.engine.effects = host.engine.effects
  /-- The registered names, with their numbers on the device and descriptions. -/
  textures : host'.engine.textures = host.engine.textures
  parameters : ∀ id, ¬ fed id →
    host'.engine.parameters.get? id = host.engine.parameters.get? id
  attachments : host'.engine.parameters.attachments = host.engine.parameters.attachments
  held : ∀ id, (host'.engine.parameters.get? id).bind (·.texture) =
    (host.engine.parameters.get? id).bind (·.texture)
  loaded : host'.engine.renderer.loaded = host.engine.renderer.loaded
  bound : host'.engine.renderer.bound = host.engine.renderer.bound
  journal : host'.engine.renderer.journal = host.engine.renderer.journal
  /-- The draws with their targets, labels and corners, and the copies. -/
  strokes : host'.engine.device.strokes = host.engine.device.strokes

theorem Host.Alike.matches {fed : ParameterId → Prop} {good : FullscreenQuad → Prop}
    {host : Host HeadlessDevice} {host' : Host GpuDevice}
    (h : host.Alike {id | fed id} Agrees good host') : host.Matches fed host' := by
  have hdevices := h.engine.device
  have hrenderer : host'.engine.renderer = host.engine.renderer.on host'.engine.device := by
    obtain ⟨_, d, _, heq, _⟩ := h.engine
    rw [heq]
    rfl
  refine
    { devices := hdevices
      effects := h.engine.effects
      textures := h.engine.textures
      parameters := fun id hid => h.engine.parameters.get?_eq hid
      attachments := h.engine.parameters.attachments
      held := h.engine.parameters.texture
      loaded := by rw [hrenderer]; rfl
      bound := by rw [hrenderer]; rfl
      journal := by rw [hrenderer]; rfl
      strokes := (congrArg Replay.strokes hdevices.replay).symm }

/-- A host that does the same on both devices, each with its own clock, is told the same and
has the same in hand. Only the numbers of the parameters to which the time was handed on
may differ. -/
theorem Host.converse_agrees (context : GpuContext) {width height : Nat}
    (hwidth : width ≤ sideLimit) (hheight : height ≤ sideLimit) {settings : Settings}
    (hformat : settings.stagingFormat.isColor = true) (compiler : Compiler) (now now' : Int)
    {steps steps' : List (SessionOp × Int)} (hsteps : steps'.map Prod.fst = steps.map Prod.fst)
    (hcommon : ∀ x ∈ steps, x.1.Common compiler) :
    ∃ session e session' e',
      Session.create (HeadlessDevice.ofSize width height) settings compiler now =
          (.ok session, e) ∧
        Session.create (GpuDevice.ofSize context width height) settings compiler now' =
          (.ok session', e') ∧
        (({ session := session' } : Host GpuDevice).converse steps').1 =
          (({ session } : Host HeadlessDevice).converse steps).1 ∧
        (({ session } : Host HeadlessDevice).converse steps).2.Matches
          (FedByTime (({ session } : Host HeadlessDevice).trace steps))
          (({ session := session' } : Host GpuDevice).converse steps').2 := by
  have hstaging : Blank (.target (max width 1) (max height 1) settings.stagingFormat) := by
    refine ⟨hformat, rfl, ?_, ?_⟩ <;> simp only [TextureDesc.target, sideLimit] at * <;> omega
  have halive : (HeadlessDevice.ofSize width height).lost = false := rfl
  obtain ⟨session, e, hcreate⟩ := Session.create_ok halive hstaging compiler now
  let fed : Set ParameterId := {id | FedByTime (({ session } : Host HeadlessDevice).trace steps) id}
  have hnow : fed = ∅ → settings.builtinParameters = true → now' = now := by
    intro hnothing hsettings
    obtain ⟨builtins, hbuiltins⟩ := Session.create_builtins hcreate hsettings
    have htime : builtins.time ∈ fed := .time (Host.mem_trace_self _ steps) hbuiltins
    rw [hnothing] at htime
    exact absurd htime (Set.notMem_empty _)
  have hboth : Session.BothSetUp fed Agrees (fun quad => Cornered quad.geometry)
      (Session.create (HeadlessDevice.ofSize width height) settings compiler now).1
      (Session.create (GpuDevice.ofSize context width height) settings compiler now').1 :=
    Session.create_alike (twins fed) linkTwins cornered_ofSize (Agrees.ofSize context width height)
      settings compiler hnow hstaging
  rw [hcreate] at hboth
  rcases hcreate' : Session.create (GpuDevice.ofSize context width height) settings compiler now' with
    ⟨result, e'⟩
  rw [hcreate'] at hboth
  obtain ⟨session', rfl, hsessions⟩ : ∃ session', result = .ok session' ∧
      session.Alike fed Agrees (fun quad => Cornered quad.geometry) session' := by
    cases hboth with
    | both h => exact ⟨_, rfl, h⟩
  have hcommon' : ∀ x ∈ steps, x.1.Common session.engine.compiler := by
    rw [Session.create_compiler hcreate]
    exact hcommon
  have halike : ({ session } : Host HeadlessDevice).Alike fed Agrees
      (fun quad => Cornered quad.geometry) { session := session' } := ⟨hsessions, rfl⟩
  obtain ⟨hreplies, hhosts⟩ := Host.converse_mirrors (drawTwins fed) linkTwins halike
    (Host.run_owned hcreate' (Empty.elim : Empty → GpuDevice → GpuDevice) []) hsteps hcommon'
    (feeds_fedByTime _ steps steps')
  exact ⟨session, e, session', e', hcreate, rfl, hreplies.symm, hhosts.matches⟩

/-- An effect of one pass, which is loaded, follows the time and is drawn. -/
def followed : List SessionOp :=
  [.load "a.json" ("[\"a\", [[\"tint\", \"float4\"]], [[\"t\", \x7b\x7d, [[\"p\", \x7b\x7d, " ++
      "[\"wgsl\", \"main\", \"\"], [\"wgsl\", \"main\", \"tint\"]]]]]]"),
    .attach ⟨0⟩ ⟨3⟩, .frame none]

/-- The pass is drawn by both devices, although one clock is ahead of the other. -/
theorem Host.converse_agrees_followed :
    ∃ session e session' e',
      Session.create (HeadlessDevice.ofSize 4 4) {} (Session.searching {} {}) 0 =
          (.ok session, e) ∧
        Session.create (GpuDevice.ofSize .plain 4 4) {} (Session.searching {} {}) 7 =
          (.ok session', e') ∧
        (({ session := session' } : Host GpuDevice).converse (followed.map (·, 9))).1 =
          (({ session } : Host HeadlessDevice).converse (followed.map (·, 1))).1 ∧
        (({ session } : Host HeadlessDevice).converse (followed.map (·, 1))).2.Matches
          (FedByTime (({ session } : Host HeadlessDevice).trace (followed.map (·, 1))))
          (({ session := session' } : Host GpuDevice).converse (followed.map (·, 9))).2 ∧
        (({ session := session' } : Host GpuDevice).converse
            (followed.map (·, 9))).2.engine.device.strokes =
          [.copy .backbuffer (.texture ⟨3⟩), .draw .scratch "a/t/p:Fragment" 6,
            .copy .scratch (.texture ⟨1⟩), .copy (.texture ⟨1⟩) (.texture ⟨2⟩),
            .copy (.texture ⟨2⟩) .backbuffer, .copy .backbuffer (.texture ⟨4⟩)] := by
  have hdrawn :
      (Session.create (GpuDevice.ofSize .plain 4 4) {} (Session.searching {} {}) 7).1.toOption.map
      (fun session => (({ session } : Host GpuDevice).converse
        (followed.map (·, 9))).2.engine.device.strokes) =
      some [.copy .backbuffer (.texture ⟨3⟩), .draw .scratch "a/t/p:Fragment" 6,
        .copy .scratch (.texture ⟨1⟩), .copy (.texture ⟨1⟩) (.texture ⟨2⟩),
        .copy (.texture ⟨2⟩) .backbuffer, .copy .backbuffer (.texture ⟨4⟩)] := by decide +kernel
  have hcommon : ∀ x ∈ followed.map (·, (1 : Int)), x.1.Common (Session.searching {} {}) := by
    simp only [followed, List.map_cons, List.map_nil, List.forall_mem_cons, List.not_mem_nil,
      false_implies, implies_true, and_true]
    refine ⟨?_, trivial, fun _ hg => by cases hg⟩
    show ModestText Plain Blank False (Session.searching {} {}) _
    decide +kernel
  obtain ⟨session, e, session', e', hcreate, hcreate', hreplies, hmatches⟩ :=
    @converse_agrees .plain 4 4 (by decide) (by decide) {} rfl (Session.searching {} {}) 0 7
      (followed.map (·, 1)) (followed.map (·, 9)) rfl hcommon
  rw [hcreate'] at hdrawn
  exact ⟨session, e, session', e', hcreate, hcreate', hreplies, hmatches, Option.some.inj hdrawn⟩

end ShaderEffects
