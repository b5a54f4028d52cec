import ShaderEffects.Proofs.LinkSteps
import ShaderEffects.Proofs.Registries

/-!
# What linking puts into an effect

A linked effect has the parameters and the programs it was compiled with. A pass of
it that may be drawn has programs that the device accepted together, the technique
that is drawn has such a pass, and what has no target of its own ends in a staging
texture.
-/
namespace ShaderEffects

/-- Some state of a device accepted the programs together. -/
def Accepted (D : Type) [Device D] (programs : List Program) : Prop :=
  ∃ d d' : D, Device.validate d programs = (.ok (), d')

/-- A pass as linking leaves it: its programs are those of a compiled pass, and if it
may be drawn the device accepted them. -/
structure LinkedPass (D : Type) [Device D] (compiled pass : Pass) : Prop where
  programs : pass.programs = compiled.programs
  accepted : pass.valid = true → Accepted D pass.programs

/-- A binding that is an annotation's wish, or the texture that stands in for one. -/
def DefaultsTo (fallback : Handle Texture) (target : Option TargetBinding) : Prop :=
  ∃ binding, target = some binding ∧ (binding.explicit = false → binding.texture = fallback)

/-! ## Choosing a technique -/

namespace Linking

variable {D : Type} [Device D]

theorem validate_accepted {l l' : Linking D} {programs : List Program}
    (h : l.validate programs = (.ok (), l')) : Accepted D programs := by
  unfold validate at h
  split_ifs at h
  · simp at h
  · cases hfind : programs.find? fun p => !Device.supports l.engine.device p.profile with
    | some p => simp [hfind] at h
    | none =>
      rcases hv : Device.validate l.engine.device programs with ⟨_ | _, device⟩
      · simp [hfind, hv] at h
      · exact ⟨l.engine.device, device, hv⟩

theorem validatePass_linked (effect : String) (l : Linking D) (pass : Pass) :
    LinkedPass D pass (validatePass effect l pass).1 := by
  unfold validatePass
  rcases hv : l.validate pass.programs with ⟨_ | _, l'⟩
  · exact ⟨rfl, fun h => absurd h Bool.false_ne_true⟩
  · exact ⟨rfl, fun _ => validate_accepted hv⟩

theorem validatePasses_linked (effect : String) (l : Linking D) (passes : List Pass) {pass : Pass}
    (h : pass ∈ (validatePasses effect l passes).1) : ∃ p ∈ passes, LinkedPass D p pass := by
  induction passes generalizing l with
  | nil => exact absurd h List.not_mem_nil
  | cons p rest ih =>
    simp only [validatePasses, List.mem_cons] at h
    rcases h with rfl | hrest
    · exact ⟨p, List.mem_cons_self, validatePass_linked effect l p⟩
    · obtain ⟨c, hc, hlinked⟩ := ih _ hrest
      exact ⟨c, List.mem_cons_of_mem p hc, hlinked⟩

theorem validateTechnique_passes (effect : String) (l : Linking D) (t : Technique) :
    (validateTechnique effect l t).1.passes = (validatePasses effect l t.passes).1 := by
  unfold validateTechnique
  simp only
  split_ifs <;> rfl

theorem validateTechniques_linked (effect : String) (l : Linking D) (techniques : List Technique)
    {t : Technique} (h : t ∈ (validateTechniques effect l techniques).1) :
    ∃ c ∈ techniques, ∀ pass ∈ t.passes, ∃ p ∈ c.passes, LinkedPass D p pass := by
  induction techniques generalizing l with
  | nil => exact absurd h List.not_mem_nil
  | cons c rest ih =>
    simp only [validateTechniques, List.mem_cons] at h
    rcases h with rfl | hrest
    · refine ⟨c, List.mem_cons_self, fun pass hpass => ?_⟩
      rw [validateTechnique_passes] at hpass
      exact validatePasses_linked effect l c.passes hpass
    · obtain ⟨t', ht', hlinked⟩ := ih _ hrest
      exact ⟨t', List.mem_cons_of_mem c ht', hlinked⟩

/-- What choosing a technique puts into an effect. -/
theorem choose_fst (l : Linking D) (effect : Effect) :
    (l.choose effect).1 =
      { effect with
        techniques := (validateTechniques effect.name l effect.techniques).1
        chosen := (validateTechniques effect.name l effect.techniques).1.findIdx? (·.isValid) } := by
  unfold choose
  simp only
  split_ifs <;> rfl

end Linking

/-! ## Linking -/

namespace Engine

variable {D : Type} [Device D]

/-- What is linked before the targets are found. -/
def chosen (e : Engine D) (effect : Effect) : Effect × Linking D :=
  ((({ engine := e : Linking D }).linkParameters effect).resolveSamplers effect).choose effect

theorem link_fst (e : Engine D) (effect : Effect) :
    (e.link effect).1 =
      { (e.chosen effect).1 with
        techniques := (e.chosen effect).1.techniques.map
          (Linking.aimTechnique (e.chosen effect).2.engine.textures) } := rfl

theorem link_parameters (e : Engine D) (effect : Effect) :
    (e.link effect).1.parameters = effect.parameters := by
  rw [link_fst, chosen, Linking.choose_fst]

theorem link_name (e : Engine D) (effect : Effect) : (e.link effect).1.name = effect.name := by
  rw [link_fst, chosen, Linking.choose_fst]

/-- The passes of a linked effect are linked. -/
theorem link_passes (e : Engine D) (effect : Effect) {t : Technique} {pass : Pass}
    (ht : t ∈ (e.link effect).1.techniques) (hpass : pass ∈ t.passes) :
    ∃ c ∈ effect.techniques, ∃ p ∈ c.passes, LinkedPass D p pass := by
  rw [link_fst] at ht
  obtain ⟨t', ht', rfl⟩ := List.mem_map.mp ht
  rw [chosen, Linking.choose_fst] at ht'
  obtain ⟨c, hc, hlinked⟩ := Linking.validateTechniques_linked _ _ _ ht'
  obtain ⟨pass', hpass', rfl⟩ := List.mem_map.mp hpass
  obtain ⟨p, hp, hp'⟩ := hlinked pass' hpass'
  exact ⟨c, hc, p, hp, hp'.programs, hp'.accepted⟩

/-- The technique that is drawn has a pass that the device accepted. -/
theorem link_default_valid (e : Engine D) (effect : Effect) {t : Technique}
    (h : (e.link effect).1.default? = some t) : t.isValid = true := by
  rw [link_fst, chosen, Linking.choose_fst] at h
  obtain ⟨i, hi, hget⟩ := Option.bind_eq_some_iff.mp h
  rw [List.getElem?_map] at hget
  obtain ⟨t', ht', rfl⟩ := Option.map_eq_some_iff.mp hget
  obtain ⟨hlt, hvalid, _⟩ := List.findIdx?_eq_some_iff_getElem.mp hi
  rw [List.getElem?_eq_getElem hlt] at ht'
  cases ht'
  exact hvalid

theorem Step.grows {e e' : Engine D} (h : e.Step e') : e.textures.Grows e'.textures := by
  cases h with
  | note | call | attach | give => exact .refl e.textures
  | create _ hregister => exact TextureRegistry.grows_register hregister
  | load _ hregister => exact TextureRegistry.grows_register hregister

/-- Steps take no name and no texture from the registered ones. -/
theorem Steps.grows {e e' : Engine D} (h : e.Steps e') : e.textures.Grows e'.textures :=
  h.keep (P := fun e' => e.textures.Grows e'.textures)
    (fun _ _ hstep hgrows => hgrows.trans hstep.grows) (.refl e.textures)

theorem chosen_steps (e : Engine D) (effect : Effect) :
    e.Steps (e.chosen effect).2.engine :=
  ((Linking.linkParameters_steps { engine := e } effect).trans
    (Linking.resolveSamplers_steps _ effect)).trans (Linking.choose_steps _ effect)

/-- Where a staging texture is registered, a technique and its passes have a target. -/
theorem link_targets (e : Engine D) (effect : Effect) {lastPass lastShader : Handle Texture}
    (hpass : e.textures.find? Staging.lastPass = some lastPass)
    (hshader : e.textures.find? Staging.lastShader = some lastShader) {t : Technique}
    (ht : t ∈ (e.link effect).1.techniques) :
    DefaultsTo lastShader t.target ∧ ∀ pass ∈ t.passes, DefaultsTo lastPass pass.target := by
  have hdefault : ∀ (textures : TextureRegistry) (fallback : String) (handle : Handle Texture)
      (directives : List Directive) (before : Option TargetBinding),
      textures.find? fallback = some handle →
      DefaultsTo handle (Linking.target? textures fallback directives <|> before) := by
    intro textures fallback handle directives before hfind
    unfold Linking.target?
    cases Linking.namedTarget? textures directives with
    | some texture => exact ⟨⟨texture, true⟩, rfl, fun h => absurd h.symm Bool.false_ne_true⟩
    | none => exact ⟨⟨handle, false⟩, by simp [hfind], fun _ => rfl⟩
  have hsteps := e.chosen_steps effect
  rw [link_fst] at ht
  obtain ⟨t', _, rfl⟩ := List.mem_map.mp ht
  refine ⟨hdefault _ _ _ _ _ (hsteps.grows.find? hshader), ?_⟩
  intro pass hmem
  obtain ⟨pass', _, rfl⟩ := List.mem_map.mp hmem
  exact hdefault _ _ _ _ _ (hsteps.grows.find? hpass)

theorem Step.effects {e e' : Engine D} (h : e.Step e') : e'.effects = e.effects := by
  cases h <;> rfl

/-- Steps leave the loaded effects as they are. -/
theorem Steps.effects {e e' : Engine D} (h : e.Steps e') : e'.effects = e.effects :=
  h.keep (P := fun e' => e'.effects = e.effects) (fun _ _ hstep he => hstep.effects.trans he) rfl

theorem Step.compiler {e e' : Engine D} (h : e.Step e') : e'.compiler = e.compiler := by
  cases h <;> rfl

theorem Steps.compiler {e e' : Engine D} (h : e.Steps e') : e'.compiler = e.compiler :=
  h.keep (P := fun e' => e'.compiler = e.compiler) (fun _ _ hstep he => hstep.compiler.trans he) rfl

/-- Loading either fails, or compiles an effect, brings its parameters to life, links it
and puts it behind the others. -/
theorem load_cases (e : Engine D) (name text : String) :
    e.Steps (e.load name text).2 ∨
      ∃ (description : EffectDescription) (draft : EffectDraft) (e₁ : Engine D),
        EffectDraft.compile e.compiler description = .ok draft ∧ e.Steps e₁ ∧
        e₁.parameters = e.parameters ∧
        (e.load name text).2 =
          (({ e₁ with parameters := (draft.install e.parameters).2 }.link
              (draft.install e.parameters).1).2.2.insert
            ({ e₁ with parameters := (draft.install e.parameters).2 }.link
              (draft.install e.parameters).1).1).2 := by
  unfold load prepare
  cases hparse : EffectDescription.ofText text with
  | error fault => exact Or.inl (.refl e)
  | ok description =>
    have hnote := note_steps e (EffectDraft.notices e.compiler description)
    have hcompiler : (e.note (EffectDraft.notices e.compiler description)).compiler =
        e.compiler := rfl
    simp only [hcompiler]
    cases hcompile : EffectDraft.compile e.compiler description with
    | error fault => exact Or.inl hnote
    | ok draft =>
      exact Or.inr ⟨description, draft, e.note (EffectDraft.notices e.compiler description),
        hcompile, hnote, rfl, rfl⟩

end Engine

end ShaderEffects
