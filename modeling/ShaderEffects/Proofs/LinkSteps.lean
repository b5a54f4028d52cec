import ShaderEffects.Engine.Load
import ShaderEffects.Proofs.Registries
import ShaderEffects.Proofs.RendererSteps

/-!
# Linking, step by step

Linking an effect goes through the parameters, the textures and the device of an
engine in small steps, and puts nothing into the effect but what it found out: which
passes the device accepts, which technique is drawn, and where passes and techniques
end.
-/
namespace ShaderEffects

open Relation

/-- A call that leaves a device without a new texture. -/
def DeviceCall.MakesNothing {D : Type} [Device D] (d : D) : DeviceCall D → Prop
  | .createTexture name desc => ∃ e, (Device.createTexture d name desc).1 = .error e
  | .loadTexture files name path => ∃ e, (Device.loadTexture d files name path).1 = .error e
  | _ => True

namespace Engine

variable {D : Type} [Device D]

/-- One step of an engine that leaves its effects as they are. A texture of the device
that is made is registered. -/
inductive Step : Engine D → Engine D → Prop
  | note (e : Engine D) (notices : List Notice) : Step e (e.note notices)
  | call (e : Engine D) {c : DeviceCall D} : c.prepares = true → c.MakesNothing e.device →
      Step e (e.withDevice (c.perform e.device))
  | attach {e : Engine D} {target source : ParameterId} {parameters : Parameters} :
      e.parameters.attach target source = .ok parameters → Step e { e with parameters }
  | give {e : Engine D} {name : String} {handle : Handle Texture} (id : ParameterId) :
      e.textures.find? name = some handle → Step e (e.write id (.texture (some handle)))
  | create {e : Engine D} {name : String} {desc : TextureDesc} {backing : TextureId} {device : D}
      {handle : Handle Texture} {textures : TextureRegistry} :
      Device.createTexture e.device name desc = (.ok backing, device) →
      e.textures.register name backing desc = .ok (handle, textures) →
      Step e { e.withDevice device with textures }
  | load {e : Engine D} {files : FileTree} {name path : String} {backing : TextureId}
      {desc : TextureDesc} {device : D} {notices : List Notice} {handle : Handle Texture}
      {textures : TextureRegistry} :
      Device.loadTexture e.device files name path = (.ok (backing, desc), device, notices) →
      e.textures.register name backing desc = .ok (handle, textures) →
      Step e { e.withDevice device with textures }

/-- A run of steps. -/
def Steps : Engine D → Engine D → Prop := ReflTransGen Step

theorem Steps.refl (e : Engine D) : e.Steps e := ReflTransGen.refl

theorem Step.steps {e e' : Engine D} (h : e.Step e') : e.Steps e' := ReflTransGen.single h

theorem Steps.trans {e₁ e₂ e₃ : Engine D} (h₁ : e₁.Steps e₂) (h₂ : e₂.Steps e₃) : e₁.Steps e₃ :=
  ReflTransGen.trans h₁ h₂

theorem Steps.keep {P : Engine D → Prop} (hP : ∀ e e', e.Step e' → P e → P e')
    {e e' : Engine D} (h : e.Steps e') (he : P e) : P e' := by
  induction h with
  | refl => exact he
  | tail _ hstep ih => exact hP _ _ hstep ih

theorem note_steps (e : Engine D) (notices : List Notice) : e.Steps (e.note notices) :=
  (Step.note e notices).steps

/-- A new texture of the device comes together with its name. -/
theorem createRegistered_steps {e : Engine D} {name : String}
    (hfree : e.textures.contains name = false) (desc : TextureDesc) :
    e.Steps (e.createRegistered name desc).2 := by
  unfold createRegistered
  rcases hc : Device.createTexture e.device name desc with ⟨error | backing, device⟩
  · have hcall : e.Step (e.withDevice ((DeviceCall.createTexture name desc).perform e.device)) :=
      .call e rfl ⟨error, congrArg Prod.fst hc⟩
    simpa [DeviceCall.perform, hc] using hcall.steps
  · obtain ⟨handle, textures, hr⟩ := TextureRegistry.exists_register hfree backing desc
    have hstep := (Step.create hc hr).steps
    simpa [registerTexture, withDevice, hr] using hstep.trans (note_steps _ _)

/-- What a texture that was made does to the registered ones. -/
theorem register_of_createRegistered {e e' : Engine D} {name : String} {desc : TextureDesc}
    {handle : Handle Texture} (h : e.createRegistered name desc = (.ok handle, e')) :
    ∃ backing, e.textures.register name backing desc = .ok (handle, e'.textures) := by
  unfold createRegistered registerTexture at h
  rcases hc : Device.createTexture e.device name desc with ⟨_ | backing, device⟩
  · simp [hc] at h
  · rcases hr : (e.withDevice device).textures.register name backing desc with _ | ⟨k, textures⟩
    · simp [hc, hr] at h
    · simp only [hc, hr, Prod.mk.injEq, Except.ok.injEq] at h
      obtain ⟨rfl, rfl⟩ := h
      exact ⟨backing, hr⟩

/-- A texture that was made is found under its name. -/
theorem find?_createRegistered {e e' : Engine D} {name : String} {desc : TextureDesc}
    {handle : Handle Texture} (h : e.createRegistered name desc = (.ok handle, e')) :
    e'.textures.find? name = some handle := by
  obtain ⟨_, hregister⟩ := register_of_createRegistered h
  exact TextureRegistry.find?_register_self hregister

theorem contains_createRegistered {e e' : Engine D} {name other : String} {desc : TextureDesc}
    {handle : Handle Texture} (h : e.createRegistered name desc = (.ok handle, e'))
    (hne : other ≠ name) (hfree : e.textures.contains other = false) :
    e'.textures.contains other = false := by
  obtain ⟨_, hregister⟩ := register_of_createRegistered h
  exact TextureRegistry.contains_register hregister hne hfree

end Engine

namespace Linking

variable {D : Type} [Device D]

omit [Device D] in
@[simp] theorem report_engine (l : Linking D) (errors : List LinkError) :
    (l.report errors).engine = l.engine := rfl

theorem note_steps (l : Linking D) (notices : List Notice) :
    l.engine.Steps (l.note notices).engine := Engine.note_steps l.engine notices

theorem foldl_steps {α : Type} {f : Linking D → α → Linking D}
    (hf : ∀ (l : Linking D) (x : α), l.engine.Steps (f l x).engine) (l : Linking D) (xs : List α) :
    l.engine.Steps (xs.foldl f l).engine := by
  induction xs generalizing l with
  | nil => exact .refl l.engine
  | cons x xs ih => exact (hf l x).trans (ih (f l x))

theorem reportMalformed_steps (l : Linking D) (owner : String) (directives : List Directive) :
    l.engine.Steps (l.reportMalformed owner directives).engine := note_steps l _

/-! ## Parameters -/

theorem linkParameter_steps (effect : String) (l : Linking D) (p : EffectParameter) :
    l.engine.Steps (linkParameter effect l p).engine := by
  have hreport := reportMalformed_steps l p.name p.directives
  unfold linkParameter
  rcases hglobal : Directive.globalLink? p.directives with _ | global
  · simpa [hglobal] using hreport
  · rcases hfind : (l.reportMalformed p.name p.directives).engine.parameters.find? global p.type
      with _ | target
    · simp only [hfind]
      exact hreport.trans (note_steps _ _)
    · rcases hattach : (l.reportMalformed p.name p.directives).engine.parameters.attach target p.id
        with e | parameters
      · simp only [hfind, hattach]
        exact hreport.trans (note_steps _ _)
      · simp only [hfind, hattach]
        exact (hreport.trans (Engine.Step.attach hattach).steps).trans (Engine.note_steps _ _)

theorem linkParameters_steps (l : Linking D) (effect : Effect) :
    l.engine.Steps (l.linkParameters effect).engine :=
  foldl_steps (linkParameter_steps effect.name) l effect.parameters

/-! ## Samplers -/

theorem give_steps {l : Linking D} {name : String} {texture : Handle Texture}
    (h : l.engine.textures.find? name = some texture) (id : ParameterId) :
    l.engine.Steps (l.give id texture).engine := (Engine.Step.give id h).steps

/-- Loading a file registers its texture, or leaves the registered ones as they are. -/
theorem loadFile_steps {l : Linking D} {name : String}
    (hfree : l.engine.textures.contains name = false) (path : String) :
    l.engine.Steps (l.loadFile name path).2.engine ∧
      match (l.loadFile name path).1 with
      | some handle => (l.loadFile name path).2.engine.textures.find? name = some handle
      | none => (l.loadFile name path).2.engine.textures = l.engine.textures := by
  unfold loadFile
  rcases hl : Device.loadTexture l.engine.device l.engine.compiler.files name path with
    ⟨error | ⟨backing, desc⟩, device, notices⟩
  · have hcall : l.engine.Step (l.engine.withDevice
        ((DeviceCall.loadTexture l.engine.compiler.files name path).perform l.engine.device)) :=
      .call l.engine rfl ⟨error, congrArg Prod.fst hl⟩
    simp only [DeviceCall.perform, hl] at hcall
    exact ⟨(hcall.steps.trans (note_steps ⟨l.engine.withDevice device, l.errors⟩ notices)).trans
      (note_steps _ _), rfl⟩
  · obtain ⟨handle, textures, hr⟩ := TextureRegistry.exists_register hfree backing desc
    have hstep := (Engine.Step.load hl hr).steps
    have hnotes := (hstep.trans (Engine.note_steps _ notices)).trans
      ((Engine.note_steps _ [.textureRegistered name desc]).trans
        (Engine.note_steps _ [.textureLoaded name path]))
    have hfound := TextureRegistry.find?_register_self hr
    simp only [Engine.registerTexture, Engine.withDevice, Engine.note, note, hr]
    exact ⟨by simpa [Engine.withDevice, Engine.note] using hnotes, hfound⟩

theorem load_steps {l : Linking D} {name : String}
    (hfree : l.engine.textures.contains name = false) :
    l.engine.Steps (l.load name).2.engine ∧
      match (l.load name).1 with
      | some handle => (l.load name).2.engine.textures.find? name = some handle
      | none => (l.load name).2.engine.textures = l.engine.textures := by
  unfold load
  cases l.engine.compiler.resolve? name with
  | none => exact ⟨.refl l.engine, rfl⟩
  | some path => exact loadFile_steps hfree path

theorem giveBlank_steps (effect : String) {l : Linking D} (p : EffectParameter) {name : String}
    (hfree : l.engine.textures.contains name = false) (blank : BlankTarget) :
    l.engine.Steps (l.giveBlank effect p name blank).engine := by
  cases blank with
  | error fault => exact note_steps l _
  | ok desc =>
    simp only [giveBlank]
    have hcreate := Engine.createRegistered_steps hfree desc
    rcases hc : l.engine.createRegistered name desc with ⟨_ | handle, engine⟩
    · rw [hc] at hcreate
      exact hcreate.trans (note_steps ⟨engine, l.errors⟩ _)
    · rw [hc] at hcreate
      have hfound : engine.textures.find? name = some handle := Engine.find?_createRegistered hc
      exact (hcreate.trans (note_steps ⟨engine, l.errors⟩ _)).trans
        (give_steps (l := ({ l with engine } : Linking D).note [.blankCreated name desc])
          hfound p.id)

theorem resolveSampler_steps (effect : String) (l : Linking D) (p : EffectParameter) :
    l.engine.Steps (resolveSampler effect l p).engine := by
  unfold resolveSampler
  split_ifs
  · exact .refl l.engine
  · cases Directive.texture? p.directives with
    | none => exact .refl l.engine
    | some wanted =>
      obtain ⟨name, blank⟩ := wanted
      simp only
      cases hfind : l.engine.textures.find? name with
      | some handle => exact give_steps hfind _
      | none =>
        have hfree := (l.engine.textures.contains_eq_false_iff name).mpr hfind
        obtain ⟨hload, hresult⟩ := load_steps hfree
        rcases hl : l.load name with ⟨_ | handle, l'⟩
        · rw [hl] at hload hresult
          simp only at hload hresult
          exact hload.trans (giveBlank_steps effect p (by rw [hresult, hfree]) blank)
        · rw [hl] at hload hresult
          exact hload.trans (give_steps (l := l') hresult _)

theorem resolveSamplers_steps (l : Linking D) (effect : Effect) :
    l.engine.Steps (l.resolveSamplers effect).engine :=
  foldl_steps (resolveSampler_steps effect.name) l effect.parameters

/-! ## Techniques -/

theorem validate_steps (l : Linking D) (programs : List Program) :
    l.engine.Steps (l.validate programs).2.engine := by
  unfold validate
  split_ifs
  · exact .refl l.engine
  · cases programs.find? fun p => !Device.supports l.engine.device p.profile with
    | some p => exact .refl l.engine
    | none =>
      have hcall : l.engine.Step
          (l.engine.withDevice ((DeviceCall.validate programs).perform l.engine.device)) :=
        .call l.engine rfl trivial
      simp only
      rcases hv : Device.validate l.engine.device programs with ⟨_ | _, device⟩ <;>
        simpa [DeviceCall.perform, hv] using hcall.steps

theorem validatePass_steps (effect : String) (l : Linking D) (pass : Pass) :
    l.engine.Steps (validatePass effect l pass).2.engine := by
  unfold validatePass
  have hvalidate := validate_steps l pass.programs
  rcases hv : l.validate pass.programs with ⟨_ | _, l'⟩
  · rw [hv] at hvalidate
    exact hvalidate.trans (note_steps l' _)
  · rwa [hv] at hvalidate

theorem validatePasses_steps (effect : String) (l : Linking D) (passes : List Pass) :
    l.engine.Steps (validatePasses effect l passes).2.engine := by
  induction passes generalizing l with
  | nil => exact .refl l.engine
  | cons pass rest ih => exact (validatePass_steps effect l pass).trans (ih _)

theorem validateTechnique_steps (effect : String) (l : Linking D) (t : Technique) :
    l.engine.Steps (validateTechnique effect l t).2.engine := by
  unfold validateTechnique
  have hpasses := validatePasses_steps effect l t.passes
  simp only
  split_ifs
  · exact hpasses
  · exact hpasses.trans (note_steps _ _)

theorem validateTechniques_steps (effect : String) (l : Linking D) (techniques : List Technique) :
    l.engine.Steps (validateTechniques effect l techniques).2.engine := by
  induction techniques generalizing l with
  | nil => exact .refl l.engine
  | cons t rest ih => exact (validateTechnique_steps effect l t).trans (ih _)

theorem choose_steps (l : Linking D) (effect : Effect) :
    l.engine.Steps (l.choose effect).2.engine := by
  unfold choose
  have htechniques := validateTechniques_steps effect.name l effect.techniques
  simp only
  split_ifs
  · exact htechniques
  · exact htechniques.trans (note_steps _ _)

/-! ## Targets -/

theorem reportPass_steps (technique : String) (l : Linking D) (pass : Pass) :
    l.engine.Steps (reportPass technique l pass).engine :=
  (reportMalformed_steps l _ _).trans (note_steps _ _)

theorem aim_steps (l : Linking D) (effect : Effect) :
    l.engine.Steps (l.aim effect).2.engine := by
  refine foldl_steps (fun l t => ?_) l effect.techniques
  exact (reportMalformed_steps l _ _).trans (foldl_steps (reportPass_steps _) _ t.passes)

end Linking

/-- Linking an effect is a run of steps. -/
theorem Engine.link_steps {D : Type} [Device D] (e : Engine D) (effect : Effect) :
    e.Steps (e.link effect).2.2 := by
  have hparameters := Linking.linkParameters_steps { engine := e } effect
  have hsamplers := hparameters.trans (Linking.resolveSamplers_steps _ effect)
  have hchoice := hsamplers.trans (Linking.choose_steps _ effect)
  exact (hchoice.trans (Linking.aim_steps _ _)).trans (Linking.note_steps _ _)

end ShaderEffects
