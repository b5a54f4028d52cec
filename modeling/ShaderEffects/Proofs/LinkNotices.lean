import ShaderEffects.Proofs.JudgedDevices
import ShaderEffects.Proofs.NewEffects

/-!
# What a link notes

Linking an effect writes what it does into the journal. That a pass ends in a staging texture
is noted only where targets are found: attaching parameters, finding textures and choosing a
technique say nothing of it. Finding targets notes nothing but this and what is wrong with
annotations, technique by technique and pass by pass.
-/
namespace ShaderEffects

/-- Whether a notice says that a pass ends in a staging texture. -/
@[simp]
def Notice.tellsFallback : Notice → Bool
  | .targetUnregistered .. | .defaultTarget .. => true
  | _ => false

/-- What a device says while it loads a texture is not about targets. -/
def Device.LoadsQuietly (D : Type) [Device D] : Prop :=
  ∀ (d : D) (files : FileTree) (name path : String),
    ∀ notice ∈ (Device.loadTexture d files name path).2.2, notice.tellsFallback = false

theorem HeadlessDevice.loadsQuietly : Device.LoadsQuietly HeadlessDevice := by
  intro d files name path notice h
  cases h

theorem GpuDevice.loadsQuietly : Device.LoadsQuietly GpuDevice := by
  intro d files name path notice h
  change notice ∈ (d.loadTexture files name path).2.2 at h
  have hload : ∀ notice ∈ (d.loadTexture files name path).2.2,
      notice = .loadingTexture path := by
    unfold loadTexture
    cases d.alive with
    | error e => exact fun _ h => absurd h List.not_mem_nil
    | ok _ =>
      simp only
      cases d.imageSize files path <;> exact fun _ h => List.mem_singleton.mp h
  rw [hload notice h]
  rfl

theorem JudgedDevice.loadsQuietly : Device.LoadsQuietly JudgedDevice :=
  fun w => GpuDevice.loadsQuietly w.device

/-! ## Before targets are found -/

/-- An engine noted nothing about targets. -/
def Engine.Silent {D : Type} (e e' : Engine D) : Prop :=
  Appends (fun n => n.tellsFallback = false) e.renderer.journal e'.renderer.journal

namespace Engine

variable {D : Type} {e e₁ e₂ : Engine D}

theorem Silent.refl (e : Engine D) : e.Silent e := Appends.refl e.renderer.journal

theorem Silent.trans (h₁ : e.Silent e₁) (h₂ : e₁.Silent e₂) : e.Silent e₂ := Appends.trans h₁ h₂

theorem silent_of_journal (h : e₁.renderer.journal = e.renderer.journal) : e.Silent e₁ := by
  unfold Silent
  rw [h]
  exact Appends.refl _

theorem silent_note (e : Engine D) {notices : List Notice}
    (h : ∀ n ∈ notices, n.tellsFallback = false) : e.Silent (e.note notices) := ⟨notices, rfl, h⟩

variable [Device D]

/-- Making a texture is noted as such. -/
theorem createRegistered_silent (e : Engine D) (name : String) (desc : TextureDesc) :
    e.Silent (e.createRegistered name desc).2 := by
  unfold createRegistered registerTexture
  rcases Device.createTexture e.device name desc with ⟨error | backing, device⟩
  · exact .refl e
  · simp only
    cases (e.withDevice device).textures.register name backing desc with
    | error error => exact .refl e
    | ok registered => exact silent_note e (by simp)

end Engine

namespace Linking

variable {D : Type}

theorem foldl_silent {α : Type} {f : Linking D → α → Linking D}
    (hf : ∀ (l : Linking D) (x : α), l.engine.Silent (f l x).engine) (l : Linking D)
    (xs : List α) : l.engine.Silent (xs.foldl f l).engine := by
  induction xs generalizing l with
  | nil => exact .refl l.engine
  | cons x xs ih => exact (hf l x).trans (ih (f l x))

theorem note_silent (l : Linking D) {notices : List Notice}
    (h : ∀ n ∈ notices, n.tellsFallback = false) : l.engine.Silent (l.note notices).engine :=
  l.engine.silent_note h

/-- What there is to note about the annotations of something. -/
def malformedNotices (owner : String) (directives : List Directive) : List Notice :=
  (malformed owner directives).map .malformedValue

theorem reportMalformed_silent (l : Linking D) (owner : String) (directives : List Directive) :
    l.engine.Silent (l.reportMalformed owner directives).engine :=
  note_silent l (by simp)

theorem linkParameter_silent (effect : String) (l : Linking D) (p : EffectParameter) :
    l.engine.Silent (linkParameter effect l p).engine := by
  have hreport := reportMalformed_silent l p.name p.directives
  unfold linkParameter
  cases Directive.globalLink? p.directives with
  | none => exact hreport
  | some global =>
    simp only
    cases (l.reportMalformed p.name p.directives).engine.parameters.find? global p.type with
    | none => exact hreport.trans (note_silent _ (by simp))
    | some target =>
      simp only
      cases (l.reportMalformed p.name p.directives).engine.parameters.attach target p.id with
      | error e => exact hreport.trans (note_silent _ (by simp))
      | ok parameters =>
        exact hreport.trans (Engine.silent_note _ (by simp))

variable [Device D]

theorem loadFile_silent (hquiet : Device.LoadsQuietly D) (l : Linking D) (name path : String) :
    l.engine.Silent (l.loadFile name path).2.engine := by
  have hsaid := hquiet l.engine.device l.engine.compiler.files name path
  unfold loadFile
  rcases hl : Device.loadTexture l.engine.device l.engine.compiler.files name path with
    ⟨error | ⟨backing, desc⟩, device, notices⟩ <;> rw [hl] at hsaid
  · exact (Engine.silent_note l.engine hsaid).trans
      (note_silent ⟨(l.engine.withDevice device).note notices, l.errors⟩
        (by simp))
  · have hnoted : l.engine.Silent ((l.engine.withDevice device).note notices) :=
      Engine.silent_note l.engine hsaid
    simp only [Engine.registerTexture, note]
    cases ((l.engine.withDevice device).note notices).textures.register name backing desc with
    | error error => exact hnoted
    | ok registered =>
      exact (hnoted.trans (Engine.silent_note _ (by simp))).trans
        (Engine.silent_note _ (by simp))

theorem load_silent (hquiet : Device.LoadsQuietly D) (l : Linking D) (name : String) :
    l.engine.Silent (l.load name).2.engine := by
  unfold load
  cases l.engine.compiler.resolve? name with
  | none => exact .refl l.engine
  | some path => exact loadFile_silent hquiet l name path

theorem giveBlank_silent (effect : String) (l : Linking D) (p : EffectParameter) (name : String)
    (blank : BlankTarget) : l.engine.Silent (l.giveBlank effect p name blank).engine := by
  cases blank with
  | error fault => exact note_silent l (by simp)
  | ok desc =>
    have hcreate := l.engine.createRegistered_silent name desc
    simp only [giveBlank]
    rcases hc : l.engine.createRegistered name desc with ⟨_ | handle, engine⟩ <;>
      rw [hc] at hcreate <;>
      exact hcreate.trans (Engine.silent_note engine (by simp))

theorem resolveSampler_silent (hquiet : Device.LoadsQuietly D) (effect : String) (l : Linking D)
    (p : EffectParameter) : l.engine.Silent (resolveSampler effect l p).engine := by
  unfold resolveSampler
  split_ifs
  · exact .refl l.engine
  cases Directive.texture? p.directives with
  | none => exact .refl l.engine
  | some wanted =>
    simp only
    cases l.engine.textures.find? wanted.1 with
    | some handle => exact .refl l.engine
    | none =>
      have hload := load_silent hquiet l wanted.1
      simp only
      rcases hl : l.load wanted.1 with ⟨_ | handle, l'⟩ <;> rw [hl] at hload
      · exact hload.trans (giveBlank_silent effect l' p wanted.1 wanted.2)
      · exact hload

theorem validatePass_silent (effect : String) (l : Linking D) (pass : Pass) :
    l.engine.Silent (validatePass effect l pass).2.engine := by
  have hvalidate : (l.validate pass.programs).2.engine.renderer.journal =
      l.engine.renderer.journal := by
    unfold validate
    split_ifs
    · rfl
    cases pass.programs.find? fun p => !Device.supports l.engine.device p.profile with
    | some p => rfl
    | none =>
      simp only
      rcases Device.validate l.engine.device pass.programs with ⟨_ | _, device⟩ <;> rfl
  have hsilent := Engine.silent_of_journal hvalidate
  unfold validatePass
  rcases hv : l.validate pass.programs with ⟨_ | _, l'⟩ <;> rw [hv] at hsilent
  · exact hsilent.trans (note_silent l' (by simp))
  · exact hsilent

theorem validatePasses_silent (effect : String) (l : Linking D) (passes : List Pass) :
    l.engine.Silent (validatePasses effect l passes).2.engine := by
  induction passes generalizing l with
  | nil => exact .refl l.engine
  | cons pass rest ih => exact (validatePass_silent effect l pass).trans (ih _)

theorem validateTechnique_silent (effect : String) (l : Linking D) (t : Technique) :
    l.engine.Silent (validateTechnique effect l t).2.engine := by
  have hpasses := validatePasses_silent effect l t.passes
  unfold validateTechnique
  simp only
  split_ifs
  · exact hpasses
  · exact hpasses.trans (note_silent _ (by simp))

theorem validateTechniques_silent (effect : String) (l : Linking D) (techniques : List Technique) :
    l.engine.Silent (validateTechniques effect l techniques).2.engine := by
  induction techniques generalizing l with
  | nil => exact .refl l.engine
  | cons t rest ih => exact (validateTechnique_silent effect l t).trans (ih _)

theorem choose_silent (l : Linking D) (effect : Effect) :
    l.engine.Silent (l.choose effect).2.engine := by
  have htechniques := validateTechniques_silent effect.name l effect.techniques
  unfold choose
  simp only
  split_ifs
  · exact htechniques
  · exact htechniques.trans (note_silent _ (by simp))

end Linking

/-- Until targets are found, a link notes nothing about them. -/
theorem Engine.chosen_silent {D : Type} [Device D] (hquiet : Device.LoadsQuietly D)
    (e : Engine D) (effect : Effect) : e.Silent (e.chosen effect).2.engine :=
  ((Linking.foldl_silent (Linking.linkParameter_silent effect.name) { engine := e }
    effect.parameters).trans (Linking.foldl_silent (Linking.resolveSampler_silent hquiet
      effect.name) _ effect.parameters)).trans (Linking.choose_silent _ effect)

/-! ## While targets are found -/

namespace Linking

variable {D : Type}

/-- What is noted about the annotations and the target of a pass. -/
def passNotices (textures : TextureRegistry) (technique : String) (pass : Pass) : List Notice :=
  malformedNotices (technique ++ "/" ++ pass.name) pass.directives ++
    targetNotices textures (technique ++ "/" ++ pass.name) pass.directives

/-- What is noted about the annotations of a technique, and about its passes. -/
def techniqueNotices (textures : TextureRegistry) (effect : String) (t : Technique) :
    List Notice :=
  malformedNotices (effect ++ "/" ++ t.name) t.directives ++
    t.passes.flatMap (passNotices textures (effect ++ "/" ++ t.name))

/-- A row of things is noted one behind the other, and no texture is registered. -/
theorem foldl_noted {α : Type} (f : Linking D → α → Linking D)
    (g : TextureRegistry → α → List Notice)
    (hf : ∀ (l : Linking D) (x : α), (f l x).engine.textures = l.engine.textures ∧
      (f l x).engine.renderer.journal = l.engine.renderer.journal ++ g l.engine.textures x)
    (l : Linking D) (xs : List α) :
    (xs.foldl f l).engine.textures = l.engine.textures ∧
      (xs.foldl f l).engine.renderer.journal =
        l.engine.renderer.journal ++ xs.flatMap (g l.engine.textures) := by
  induction xs generalizing l with
  | nil => exact ⟨rfl, (List.append_nil _).symm⟩
  | cons x xs ih =>
    obtain ⟨htextures, hjournal⟩ := hf l x
    obtain ⟨htextures', hjournal'⟩ := ih (f l x)
    refine ⟨htextures'.trans htextures, ?_⟩
    rw [List.foldl_cons, hjournal', hjournal, htextures, List.flatMap_cons, List.append_assoc]

theorem reportPass_noted (technique : String) (l : Linking D) (pass : Pass) :
    (reportPass technique l pass).engine.textures = l.engine.textures ∧
      (reportPass technique l pass).engine.renderer.journal =
        l.engine.renderer.journal ++ passNotices l.engine.textures technique pass :=
  ⟨rfl, List.append_assoc ..⟩

theorem reportTechnique_noted (effect : String) (l : Linking D) (t : Technique) :
    (reportTechnique effect l t).engine.textures = l.engine.textures ∧
      (reportTechnique effect l t).engine.renderer.journal =
        l.engine.renderer.journal ++ techniqueNotices l.engine.textures effect t := by
  obtain ⟨htextures, hjournal⟩ := foldl_noted (reportPass (effect ++ "/" ++ t.name))
    (fun textures => passNotices textures (effect ++ "/" ++ t.name)) (reportPass_noted _)
    (l.reportMalformed (effect ++ "/" ++ t.name) t.directives) t.passes
  refine ⟨htextures, hjournal.trans ?_⟩
  exact List.append_assoc ..

/-- What finding targets notes. -/
theorem aim_noted (l : Linking D) (effect : Effect) :
    (l.aim effect).2.engine.renderer.journal = l.engine.renderer.journal ++
      effect.techniques.flatMap (techniqueNotices l.engine.textures effect.name) :=
  (foldl_noted (reportTechnique effect.name) (fun textures => techniqueNotices textures effect.name)
    (reportTechnique_noted effect.name) l effect.techniques).2

end Linking

end ShaderEffects
