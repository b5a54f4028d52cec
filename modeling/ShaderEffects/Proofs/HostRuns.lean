import ShaderEffects.Proofs.HeldTextures
import ShaderEffects.Proofs.LinkedEffects
import ShaderEffects.Proofs.RendererTurns
import ShaderEffects.Session

/-!
# Runs of a host

A host loads and unloads effects, makes and writes parameters, keeps some of them
alive, draws frames and calls the device itself, in any order. What it does to an
engine between frames comes down to steps of the engine, to effects that come and go,
and to parameters.
-/
namespace ShaderEffects

/-- A result that is there is the result of a call that did not fail. -/
theorem ok_of_toOption {ε α : Type} {x : Except ε α} {a : α} (h : x.toOption = some a) :
    x = .ok a := by
  cases x with
  | error e => cases h
  | ok b =>
    cases h
    rfl

theorem eq_ok_of_toOption {ε α β : Type} {x : Except ε α × β} {a : α}
    (h : x.1.toOption = some a) : x = (.ok a, x.2) := Prod.ext (ok_of_toOption h) rfl

/-- What a host does with a session on a device. What only some kind of device takes,
such as a new size, is of type `A`. -/
inductive HostOp (D A : Type) [Device D] where
  | load (name text : String)
  | loadFile (path : String)
  | unload (handle : Handle Effect)
  | connect (handle : Handle Effect) (parameter texture : String)
  | createTexture (name : String) (desc : TextureDesc)
  | createVirtual (name : String) (type : ParameterType)
  | attach (target source : ParameterId)
  | detach (target source : ParameterId)
  | write (id : ParameterId) (w : Write)
  /-- Keeps a parameter alive. -/
  | hold (id : ParameterId)
  /-- Gives a parameter up that was kept alive. -/
  | drop (id : ParameterId)
  | frame (now : Int) (geometry : Option Geometry)
  | call (c : DeviceCall D)
  | act (a : A)

/-- Whether an operation writes a texture to a parameter. -/
def HostOp.Gives {D A : Type} [Device D] (texture : Handle Texture) (op : HostOp D A) : Prop :=
  ∃ id, op = .write id (.texture (some texture))

/-- Whether an operation binds no program on the device. -/
def HostOp.bindsNothing {D A : Type} [Device D] : HostOp D A → Bool
  | .call c => c.bindsNothing
  | _ => true

/-- Whether an operation is a frame. -/
def HostOp.isFrame {D A : Type} [Device D] : HostOp D A → Bool
  | .frame .. => true
  | _ => false

/-- A session, and the parameters its host keeps alive, each as often as it does so. -/
structure Host (D : Type) where
  session : Session D
  held : List ParameterId := []

namespace Host

variable {D A : Type}

/-- The engine of the session. -/
def engine (host : Host D) : Engine D := host.session.engine

/-- The host with another engine. -/
def withEngine (host : Host D) (engine : Engine D) : Host D :=
  { host with session := { host.session with engine } }

/-- The loaded effects in the order of loading. -/
def effects (host : Host D) : List Effect := host.engine.effects.toList.map (·.2)

variable [Device D]

/-- What a host does, where `act` says what a device makes of the calls that only it
takes. -/
def step (act : A → D → D) (host : Host D) : HostOp D A → Host D
  | .load name text => { host with session := (host.session.load name text).2 }
  | .loadFile path => { host with session := (host.session.loadFile path).2 }
  | .unload handle => { host with session := (host.session.unload handle).2 }
  | .connect handle parameter texture =>
    { host with session := (host.session.connect handle parameter texture).2 }
  | .createTexture name desc => host.withEngine (host.engine.createTexture name desc).2
  | .createVirtual name type => host.withEngine (host.engine.createVirtual name type).2
  | .attach target source =>
    host.withEngine
      { host.engine with parameters := host.engine.parameters.perform (.attach target source) }
  | .detach target source =>
    host.withEngine
      { host.engine with parameters := host.engine.parameters.perform (.detach target source) }
  | .write id w => host.withEngine (host.engine.write id w)
  | .hold id =>
    if host.engine.parameters.alive id then
      { host.withEngine { host.engine with parameters := host.engine.parameters.retain id } with
        held := id :: host.held }
    else host
  | .drop id =>
    if id ∈ host.held then
      { host.withEngine { host.engine with parameters := host.engine.parameters.release id } with
        held := host.held.erase id }
    else host
  | .frame now geometry => { host with session := (host.session.renderFrame now geometry).2 }
  | .call c => host.withEngine (host.engine.withDevice (c.perform host.engine.device))
  | .act a => host.withEngine (host.engine.withDevice (act a host.engine.device))

/-- What a host does one after the other. -/
def run (act : A → D → D) (host : Host D) (ops : List (HostOp D A)) : Host D :=
  ops.foldl (step act) host

/-- What every operation of a run keeps, the run keeps. -/
theorem run_keep {P : Host D → Prop} {act : A → D → D} {ops : List (HostOp D A)}
    (hP : ∀ host, ∀ op ∈ ops, P host → P (host.step act op)) {host : Host D} (h : P host) :
    P (host.run act ops) := by
  induction ops generalizing host with
  | nil => exact h
  | cons op ops ih =>
    refine ih (fun host op' hop' => hP host op' (List.mem_cons_of_mem op hop')) ?_
    exact hP host op List.mem_cons_self h

end Host

/-! ## What the operations come down to -/

namespace Engine

variable {D : Type}

theorem note_nil (e : Engine D) : e.note [] = e := by
  simp [note, Renderer.note]

/-- Only the parameters and the journal changed. -/
def Tunes (e e' : Engine D) : Prop := ∃ parameters notices, e' = { e with parameters }.note notices

theorem Tunes.refl (e : Engine D) : e.Tunes e :=
  ⟨e.parameters, [], e.note_nil.symm⟩

theorem Tunes.trans {e₁ e₂ e₃ : Engine D} (h₁ : e₁.Tunes e₂) (h₂ : e₂.Tunes e₃) : e₁.Tunes e₃ := by
  obtain ⟨parameters, notices, rfl⟩ := h₁
  obtain ⟨parameters', notices', rfl⟩ := h₂
  exact ⟨parameters', notices ++ notices', by simp [note, Renderer.note]⟩

theorem tunes_note (e : Engine D) (notices : List Notice) : e.Tunes (e.note notices) :=
  ⟨e.parameters, notices, rfl⟩

theorem tunes_createVirtual (e : Engine D) (name : String) (type : ParameterType) :
    e.Tunes (e.createVirtual name type).2 := by
  unfold createVirtual
  rcases e.parameters.createVirtual name type with error | ⟨id, parameters⟩
  · exact .refl e
  · exact ⟨parameters, _, rfl⟩

theorem unload_renderer {D : Type} (e : Engine D) (handle : Handle Effect) :
    (e.unload handle).2.renderer = e.renderer := by
  unfold unload
  cases e.effects.get? handle <;> rfl

theorem createTexture_steps {D : Type} [Device D] (e : Engine D) (name : String)
    (desc : TextureDesc) : e.Steps (e.createTexture name desc).2 := by
  unfold createTexture
  split_ifs with hname
  · exact .refl e
  · exact createRegistered_steps (Bool.eq_false_iff.mpr hname) desc

end Engine

namespace Session

variable {D : Type} [Device D]

/-- Taking a picture is a run of the renderer. -/
theorem snapshot_acts (e : Engine D) (name : String) (drawn : Effect → Prop) :
    ∃ renderer, (snapshot e name).2 = { e with renderer } ∧
      e.renderer.Acts drawn renderer := by
  unfold snapshot
  cases hname : e.textures.byName? name with
  | none => exact ⟨e.renderer, rfl, .refl e.renderer⟩
  | some texture =>
    have hact : e.renderer.Act drawn { e.renderer with
        device := (Device.copy e.device .backbuffer (.texture texture.backing)).2 } :=
      .copy .backbuffer (.texture texture.backing)
    rcases hcopy : Device.copy e.device .backbuffer (.texture texture.backing)
      with ⟨result, device⟩
    rw [hcopy] at hact
    rcases result with (_ | _ | _ | _) | _
    all_goals simp only [hcopy]
    · exact ⟨_, rfl, hact.acts⟩
    · exact ⟨_, rfl, hact.acts.trans (Renderer.note_acts _ _)⟩
    · exact ⟨_, rfl, hact.acts.trans (Renderer.note_acts _ _)⟩
    · exact ⟨_, rfl, hact.acts.trans (Renderer.note_acts _ _)⟩
    · exact ⟨_, rfl, hact.acts⟩

/-- Drawing effects is a run of the renderer. -/
theorem drawEffects_acts (e : Engine D) (geometry : Option Geometry) {drawn : Effect → Prop}
    {effects : List Effect} (hdrawn : ∀ effect ∈ effects, drawn effect) :
    ∃ renderer, (drawEffects e geometry effects).2 = { e with renderer } ∧
      e.renderer.Acts drawn renderer := by
  induction effects generalizing e with
  | nil => exact ⟨e.renderer, rfl, .refl e.renderer⟩
  | cons effect rest ih =>
    have hact : e.renderer.Act drawn (e.renderer.drawEffect e.scene effect geometry).2 :=
      .effect e.scene geometry (hdrawn effect List.mem_cons_self)
    rw [drawEffects]
    rcases hdraw : e.renderer.drawEffect e.scene effect geometry with ⟨error | report, r₁⟩
    · rw [hdraw] at hact
      exact ⟨r₁, rfl, hact.acts⟩
    · rw [hdraw] at hact
      obtain ⟨r₂, heq, hrest⟩ := ih
        ({ e with renderer := r₁ }.note [.passesDrawn effect.name report.passesDrawn])
        (fun x hx => hdrawn x (List.mem_cons_of_mem effect hx))
      refine ⟨r₂, ?_, (hact.acts.trans (Renderer.note_acts r₁ _)).trans hrest⟩
      rcases hnext : drawEffects
        ({ e with renderer := r₁ }.note [.passesDrawn effect.name report.passesDrawn])
        geometry rest with ⟨_ | _, e₂⟩
      · rw [hnext] at heq
        simp only [hnext]
        exact heq
      · rw [hnext] at heq
        simp only [hnext]
        exact heq

/-- Drawing a frame is a run of the renderer that draws the loaded effects. -/
theorem drawFrame_acts (e : Engine D) (geometry : Option Geometry) :
    ∃ renderer, (drawFrame e geometry).2 = { e with renderer } ∧
      e.renderer.Acts (fun effect => effect ∈ e.effects.toList.map (·.2)) renderer := by
  obtain ⟨r₁, heq₁, hacts₁⟩ := snapshot_acts e Staging.thisFrame
    (fun effect => effect ∈ e.effects.toList.map (·.2))
  unfold drawFrame
  rcases hsnap : snapshot e Staging.thisFrame with ⟨_ | _, e₁⟩
  · rw [hsnap] at heq₁
    exact ⟨r₁, heq₁, hacts₁⟩
  rw [hsnap] at heq₁
  obtain rfl : e₁ = { e with renderer := r₁ } := heq₁
  have hdrawn : ∀ effect ∈ e.effects.toList.map (·.2), effect ∈ e.effects.toList.map (·.2) :=
    fun _ hmem => hmem
  obtain ⟨r₂, heq₂, hacts₂⟩ := drawEffects_acts { e with renderer := r₁ } geometry hdrawn
  simp only
  rcases hdraw : drawEffects { e with renderer := r₁ } geometry (e.effects.toList.map (·.2))
    with ⟨_ | _, e₂⟩
  · rw [hdraw] at heq₂
    simp only [hdraw]
    exact ⟨r₂, heq₂, hacts₁.trans hacts₂⟩
  rw [hdraw] at heq₂
  obtain rfl : e₂ = { e with renderer := r₂ } := heq₂
  obtain ⟨r₃, heq₃, hacts₃⟩ := snapshot_acts { e with renderer := r₂ } Staging.lastFrame
    (fun effect => effect ∈ e.effects.toList.map (·.2))
  refine ⟨r₃, ?_, (hacts₁.trans hacts₂).trans hacts₃⟩
  simp only [hdraw]
  rcases hlast : snapshot { e with renderer := r₂ } Staging.lastFrame with ⟨_ | _, e₃⟩
  · rw [hlast] at heq₃
    exact heq₃
  · rw [hlast] at heq₃
    exact heq₃

theorem snapshot_steps (e : Engine D) (name : String) :
    ∃ renderer, (snapshot e name).2 = { e with renderer } ∧ e.renderer.Steps renderer := by
  obtain ⟨renderer, heq, hacts⟩ := snapshot_acts e name (fun _ => True)
  exact ⟨renderer, heq, hacts.steps⟩

theorem drawFrame_steps (e : Engine D) (geometry : Option Geometry) :
    ∃ renderer, (drawFrame e geometry).2 = { e with renderer } ∧ e.renderer.Steps renderer := by
  obtain ⟨renderer, heq, hacts⟩ := drawFrame_acts e geometry
  exact ⟨renderer, heq, hacts.steps⟩

/-- Each staging texture is made in steps, and is registered if that ends well. -/
theorem stage_steps {e : Engine D} (desc : TextureDesc) {names : List String}
    (hnames : names.Nodup) (hfree : ∀ name ∈ names, e.textures.contains name = false) :
    e.Steps (stage e desc names).2 ∧
      ((stage e desc names).1 = .ok () → ∀ name ∈ names,
        ∃ handle, (stage e desc names).2.textures.find? name = some handle) := by
  induction names generalizing e with
  | nil => exact ⟨.refl e, fun _ _ h => absurd h List.not_mem_nil⟩
  | cons name rest ih =>
    obtain ⟨hfirst, hrest⟩ := List.nodup_cons.mp hnames
    have hcreate := Engine.createRegistered_steps (hfree name List.mem_cons_self) desc
    rw [stage]
    rcases hc : e.createRegistered name desc with ⟨_ | handle, e₁⟩
    · rw [hc] at hcreate
      exact ⟨hcreate, fun h => absurd h (by simp)⟩
    · rw [hc] at hcreate
      have hfree₁ : ∀ other ∈ rest, e₁.textures.contains other = false := fun other hother =>
        Engine.contains_createRegistered hc (fun hsame => hfirst (hsame ▸ hother))
          (hfree other (List.mem_cons_of_mem name hother))
      obtain ⟨hsteps, hstaged⟩ := ih hrest hfree₁
      refine ⟨hcreate.trans hsteps, fun hok other hother => ?_⟩
      rcases List.mem_cons.mp hother with rfl | hmem
      · exact ⟨handle, hsteps.grows.find? (Engine.find?_createRegistered hc)⟩
      · exact hstaged hok other hmem

omit [Device D] in
/-- What making a virtual parameter keeps, making those that follow the frames keeps. -/
theorem registerBuiltins_keep {P : Engine D → Prop}
    (hP : ∀ (e : Engine D) name type, P e → P (e.createVirtual name type).2) {e : Engine D}
    (he : P e) : P (registerBuiltins e).2 := by
  have hfirst := hP e "time" .float1 he
  unfold registerBuiltins
  rcases htime : e.createVirtual "time" .float1 with ⟨_ | time, e₁⟩ <;> rw [htime] at hfirst
  · exact hfirst
  have hsecond := hP e₁ "frame" .float1 hfirst
  simp only
  rcases hframe : e₁.createVirtual "frame" .float1 with ⟨_ | frame, e₂⟩ <;> rw [hframe] at hsecond
  · exact hsecond
  have hthird := hP e₂ "resolution" .float2 hsecond
  simp only
  rcases hresolution : e₂.createVirtual "resolution" .float2 with ⟨_ | resolution, e₃⟩ <;>
    rw [hresolution] at hthird <;> exact hthird

/-- A session that was set up has its staging textures, and perhaps the parameters that
follow the frames. -/
theorem create_cases {device : D} {settings : Settings} {compiler : Compiler} {now : Int}
    {session : Session D} {engine : Engine D}
    (h : create device settings compiler now = (.ok session, engine)) :
    ∃ e : Engine D, (bareEngine device settings compiler).Steps e ∧
      (∀ name ∈ Staging.all, ∃ handle, e.textures.find? name = some handle) ∧
      ∃ e' notices, (e' = e ∨ e' = (registerBuiltins e).2) ∧ session.engine = e'.note notices := by
  have hnames : Staging.all.Nodup := by decide
  have hstage := stage_steps (e := bareEngine device settings compiler)
    (TextureDesc.target (Device.backbufferSize device).1 (Device.backbufferSize device).2
      settings.stagingFormat) hnames fun _ _ => rfl
  unfold create at h
  simp only at h
  rcases hresult : stage (bareEngine device settings compiler)
    (TextureDesc.target (Device.backbufferSize device).1 (Device.backbufferSize device).2
      settings.stagingFormat) Staging.all with ⟨_ | _, e⟩
  · simp [hresult] at h
  rw [hresult] at hstage
  refine ⟨e, hstage.1, hstage.2 rfl, ?_⟩
  simp only [hresult] at h
  split_ifs at h
  · rcases hregister : registerBuiltins e with ⟨_ | builtins, e₁⟩
    · simp [hregister] at h
    · simp only [hregister, Prod.mk.injEq, Except.ok.injEq] at h
      obtain ⟨rfl, _⟩ := h
      exact ⟨e₁, _, Or.inr rfl, rfl⟩
  · simp only [Prod.mk.injEq, Except.ok.injEq] at h
    obtain ⟨rfl, _⟩ := h
    exact ⟨e, _, Or.inl rfl, rfl⟩

/-- Removing an effect is to free the bound pass first. -/
theorem unload_eq (session : Session D) (handle : Handle Effect) :
    ∃ notices, (session.unload handle).2.engine =
      (({ session.engine with renderer := session.engine.renderer.unbindPass } :
        Engine D).unload handle).2.note notices := by
  unfold unload
  simp only
  rcases ({ session.engine with renderer := session.engine.renderer.unbindPass } :
    Engine D).unload handle with ⟨_ | effect, e⟩
  · exact ⟨[], e.note_nil.symm⟩
  · exact ⟨_, rfl⟩

/-- A registered texture is connected to a parameter, or nothing but the journal changes. -/
theorem connect_cases (session : Session D) (handle : Handle Effect)
    (parameter texture : String) :
    (∃ notices, (session.connect handle parameter texture).2.engine =
        session.engine.note notices) ∨
      ∃ id k, session.engine.textures.find? texture = some k ∧
        (session.connect handle parameter texture).2.engine = (session.engine.connect id k).2 := by
  unfold connect
  simp only
  cases session.engine.textures.find? texture with
  | none => exact Or.inl ⟨_, rfl⟩
  | some k =>
    cases (session.engine.effects.get? handle).bind (·.parameter? parameter) with
    | none => exact Or.inl ⟨[], session.engine.note_nil.symm⟩
    | some p => exact Or.inr ⟨p.id, k, rfl, rfl⟩

/-- Loading from a file is loading a text, or nothing changes. -/
theorem loadFile_cases (session : Session D) (path : String) :
    (session.loadFile path).2.engine = session.engine ∨
      ∃ name text notices, (session.loadFile path).2.engine =
        ((session.engine.note notices).load name text).2 := by
  unfold loadFile
  simp only
  cases session.engine.compiler.files.readText (session.effectPath path) with
  | error fault => exact Or.inl rfl
  | ok text => exact Or.inr ⟨_, text, _, rfl⟩

/-- The parameters after numbers were written to some of them. -/
def written (parameters : Parameters) (writes : List (ParameterId × Scalars)) : Parameters :=
  writes.foldl (fun parameters w => parameters.write w.1 (.scalars w.2)) parameters

/-- The engine with the parameters that follow the frames brought to an instant. -/
def prepared (session : Session D) (now : Int) : Engine D :=
  match session.builtins with
  | none => session.engine
  | some builtins => updateBuiltins session.engine builtins (session.clock.tick now).2

/-- Preparing an engine only writes numbers to parameters. -/
theorem prepared_eq (session : Session D) (now : Int) :
    ∃ writes, session.prepared now =
      { session.engine with parameters := written session.engine.parameters writes } := by
  unfold prepared
  cases session.builtins with
  | none => exact ⟨[], rfl⟩
  | some builtins =>
    exact ⟨[(builtins.time, .ofList [seconds (session.clock.tick now).2.elapsed]),
      (builtins.frame, .ofList [Float32.ofNat (session.clock.tick now).2.frame]),
      (builtins.resolution, .ofList
        [Float32.ofNat (Device.backbufferSize session.engine.device).1,
          Float32.ofNat (Device.backbufferSize session.engine.device).2])], rfl⟩

/-- A frame is that of the prepared engine, unless the device is lost already. -/
theorem renderFrame_eq (session : Session D) (now : Int) (geometry : Option Geometry) :
    session.renderFrame now geometry =
      if Device.isLost session.engine.device then (.error .lost, session)
      else ((drawFrame (session.prepared now) geometry).1,
        { session with
          engine := (drawFrame (session.prepared now) geometry).2
          clock := (session.clock.tick now).1 }) := rfl

/-- What steps and new virtual parameters keep, setting a session up keeps. -/
theorem create_keep {P : Engine D → Prop} (hstep : ∀ e e' : Engine D, e.Step e' → P e → P e')
    (hvirtual : ∀ (e : Engine D) name type, P e → P (e.createVirtual name type).2) {device : D}
    {settings : Settings} {compiler : Compiler} {now : Int} {session : Session D}
    {engine : Engine D}
    (hcreate : create device settings compiler now = (.ok session, engine))
    (hbare : P (bareEngine device settings compiler)) : P session.engine := by
  obtain ⟨e, hsteps, _, e', notices, he', heq⟩ := create_cases hcreate
  have hstaged : P e := hsteps.keep hstep hbare
  rw [heq]
  refine (Engine.note_steps e' notices).keep hstep ?_
  rcases he' with rfl | rfl
  · exact hstaged
  · exact registerBuiltins_keep hvirtual hstaged

end Session

/-! ## What one operation does to an engine -/

/-- What an operation makes of an engine and of the parameters that the host keeps alive. -/
inductive Engine.Change {D A : Type} [Device D] (act : A → D → D) (op : HostOp D A)
    (e : Engine D) (held : List ParameterId) : Engine D → List ParameterId → Prop where
  | steps {e' : Engine D} (h : e.Steps e') : Change act op e held e' held
  | load (notices : List Notice) (name text : String) :
    Change act op e held ((e.note notices).load name text).2 held
  | unload (handle : Handle Effect) (notices : List Notice) :
    Change act op e held ((({ e with renderer := e.renderer.unbindPass } : Engine D).unload
      handle).2.note notices) held
  | connect (id : ParameterId) {name : String} {texture : Handle Texture}
    (h : e.textures.find? name = some texture) : Change act op e held (e.connect id texture).2 held
  | createVirtual (name : String) (type : ParameterType) :
    Change act op e held (e.createVirtual name type).2 held
  | stays {parameters : Parameters} (h : e.parameters.Stays parameters)
    (hgiven : ∀ texture, parameters.Holds texture →
      e.parameters.Holds texture ∨ op.Gives texture) :
    Change act op e held { e with parameters } held
  | retain {id : ParameterId} (h : e.parameters.alive id = true) :
    Change act op e held { e with parameters := e.parameters.retain id } (id :: held)
  | release {id : ParameterId} (h : id ∈ held) :
    Change act op e held { e with parameters := e.parameters.release id } (held.erase id)
  | draw (h : op.isFrame = true) (writes : List (ParameterId × Scalars))
    (geometry : Option Geometry) :
    Change act op e held
      (Session.drawFrame { e with parameters := Session.written e.parameters writes } geometry).2
      held
  | call {c : DeviceCall D} (h : op = .call c) :
    Change act op e held (e.withDevice (c.perform e.device)) held
  | act {a : A} (h : op = .act a) : Change act op e held (e.withDevice (act a e.device)) held

/-- Every effect that is loaded after a change was loaded before, or was compiled and
linked. -/
theorem Engine.Change.effects {D A : Type} [Device D] {act : A → D → D} {op : HostOp D A}
    {e e' : Engine D} {held held' : List ParameterId} {P : Effect → Prop}
    (hlink : ∀ (compiler : Compiler) (d : EffectDescription) (draft : EffectDraft),
      EffectDraft.compile compiler d = .ok draft → ∀ (ps : Parameters) (e : Engine D),
      P (e.link (draft.install ps).1).1)
    (h : e.Change act op held e' held')
    (he : ∀ handle effect, e.effects.get? handle = some effect → P effect) :
    ∀ handle effect, e'.effects.get? handle = some effect → P effect := by
  cases h with
  | steps hsteps =>
    rw [hsteps.effects]
    exact he
  | load notices name text =>
    rcases (e.note notices).load_cases name text with hsteps | ⟨d, draft, e₁, hdraft, hsteps, _, heq⟩
    · rw [hsteps.effects]
      exact he
    · rw [heq]
      intro handle effect hget
      have hlinked := (link_steps ({ e₁ with
        parameters := (draft.install (e.note notices).parameters).2 } : Engine D)
        (draft.install (e.note notices).parameters).1).effects
      simp only [insert, Arena.get?_insert, hlinked] at hget
      split_ifs at hget
      · cases hget
        exact hlink _ d draft hdraft _ _
      · rw [hsteps.effects] at hget
        exact he handle effect hget
  | unload handle notices =>
    intro other effect hget
    simp only [Engine.unload, Engine.note] at hget
    split at hget
    · exact he other effect hget
    · simp only [Arena.get?_erase] at hget
      split_ifs at hget
      exact he other effect hget
  | connect | stays | retain | release | call | act => exact he
  | createVirtual name type =>
    obtain ⟨parameters, notices, heq⟩ := e.tunes_createVirtual name type
    rw [heq]
    exact he
  | draw _ writes geometry =>
    obtain ⟨renderer, heq, _⟩ := Session.drawFrame_steps
      { e with parameters := Session.written e.parameters writes } geometry
    rw [heq]
    exact he

/-- An operation of a host is one of these changes. -/
theorem Host.step_change {D A : Type} [Device D] (act : A → D → D) (host : Host D)
    (op : HostOp D A) :
    host.engine.Change act op host.held (host.step act op).engine (host.step act op).held := by
  cases op with
  | load name text =>
    have h : host.engine.Change act (.load name text) host.held _ _ := .load [] name text
    rw [Engine.note_nil] at h
    exact h
  | loadFile path =>
    simp only [step, engine]
    rcases host.session.loadFile_cases path with heq | ⟨name, text, notices, heq⟩
    · rw [heq]
      exact .steps (.refl _)
    · rw [heq]
      exact .load notices name text
  | unload handle =>
    simp only [step, engine]
    obtain ⟨notices, heq⟩ := host.session.unload_eq handle
    rw [heq]
    exact .unload handle notices
  | connect handle parameter texture =>
    simp only [step, engine]
    rcases host.session.connect_cases handle parameter texture with
      ⟨notices, heq⟩ | ⟨id, k, hfind, heq⟩
    · rw [heq]
      exact .steps (Engine.note_steps _ notices)
    · rw [heq]
      exact .connect id hfind
  | createTexture name desc => exact .steps (host.engine.createTexture_steps name desc)
  | createVirtual name type => exact .createVirtual name type
  | attach target source =>
    simp only [step, withEngine, engine, Parameters.perform]
    rcases hattach : host.session.engine.parameters.attach target source with _ | parameters
    · exact .steps (.refl _)
    · exact .stays (Parameters.stays_attach hattach) fun texture hholds =>
        Or.inl (Parameters.holds_attach hattach hholds)
  | detach target source =>
    exact .stays (Parameters.stays_detach _ target source) fun texture hholds =>
      Or.inl (Parameters.holds_detach hholds)
  | write id w =>
    refine .stays (Parameters.stays_write _ id w) fun texture hholds => ?_
    exact (Parameters.holds_write hholds).imp_right fun hgiven => ⟨id, by rw [hgiven]⟩
  | hold id =>
    simp only [step]
    split_ifs with halive
    · exact .retain halive
    · exact .steps (.refl _)
  | drop id =>
    simp only [step]
    split_ifs with hheld
    · exact .release hheld
    · exact .steps (.refl _)
  | frame now geometry =>
    simp only [step, engine]
    rw [Session.renderFrame_eq]
    split_ifs
    · exact .steps (.refl _)
    · obtain ⟨writes, hprepared⟩ := host.session.prepared_eq now
      rw [hprepared]
      exact .draw rfl writes geometry
  | call c => exact .call rfl
  | act a => exact .act rfl

end ShaderEffects
