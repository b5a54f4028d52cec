import ShaderEffects.Proofs.CompiledEffects
import ShaderEffects.Proofs.HookRuns

/-!
# Devices that are lost

A device without a screen that is lost stays as it is, whatever is asked of it. A session on
it still loads and unloads effects, but none of those it loads can be drawn, no texture is
created or registered, and no frame begins.
-/
namespace ShaderEffects

namespace HeadlessDevice

variable {d d' : HeadlessDevice}

/-- A device that is lost, with what another one has on it. -/
structure Stilled (d d' : HeadlessDevice) : Prop where
  lost : d'.lost = true
  contents : d'.contents = d.contents
  textures : d'.textures = d.textures
  plates : ∀ id, d'.plate? id = d.plate? id
  renderTarget : d'.renderTarget = d.renderTarget

theorem Stilled.refl (h : d.lost = true) : d.Stilled d := ⟨h, rfl, rfl, fun _ => rfl, rfl⟩

theorem Stilled.trans {d₁ d₂ d₃ : HeadlessDevice} (h₁ : d₁.Stilled d₂) (h₂ : d₂.Stilled d₃) :
    d₁.Stilled d₃ where
  lost := h₂.lost
  contents := h₂.contents.trans h₁.contents
  textures := h₂.textures.trans h₁.textures
  plates := fun id => (h₂.plates id).trans (h₁.plates id)
  renderTarget := h₂.renderTarget.trans h₁.renderTarget

theorem alive_of_lost (h : d.lost = true) : d.alive = .error .lost := by simp [alive, h]

/-- A call of a lost device changes nothing on it. -/
theorem stilled_perform (h : d.lost = true) (c : DeviceCall HeadlessDevice) :
    d.Stilled (c.perform d) := by
  have halive := alive_of_lost h
  cases c with
  | validate => exact .refl h
  | createTexture name desc =>
    simpa [DeviceCall.perform, createTexture, halive] using Stilled.refl h
  | loadTexture files name path =>
    simpa [DeviceCall.perform, loadTexture, halive] using Stilled.refl h
  | loadProgram p => simpa [DeviceCall.perform, loadProgram, halive] using Stilled.refl h
  | bind stage id => simpa [DeviceCall.perform, bind, halive] using Stilled.refl h
  | setTarget surface => simpa [DeviceCall.perform, setTarget, halive] using Stilled.refl h
  | draw geometry => simpa [DeviceCall.perform, draw, halive] using Stilled.refl h
  | copy source destination => simpa [DeviceCall.perform, copy, halive] using Stilled.refl h
  | unbind | restore | enterEffectState => exact ⟨h, rfl, rfl, fun _ => rfl, rfl⟩
  | setConstants id register values =>
    exact ⟨h, rfl, rfl, plate?_setConstants d id register values, rfl⟩
  | setSampler id slot texture => exact ⟨h, rfl, rfl, plate?_setSampler d id slot texture, rfl⟩

end HeadlessDevice

namespace Renderer

variable {r r' : Renderer HeadlessDevice}

/-- Whatever a renderer does with a lost device, nothing changes on it. -/
theorem StepsBy.stilled {kind : DeviceCall HeadlessDevice → Bool} {hands : Prop}
    (h : r.StepsBy kind hands r') (hlost : r.device.lost = true) : r.device.Stilled r'.device :=
  h.device_keep (P := r.device.Stilled)
    (fun _ c _ hd => hd.trans (HeadlessDevice.stilled_perform hd.lost c)) (.refl hlost)

end Renderer

/-! ## Linking on a lost device -/

namespace Engine

variable {e e' : Engine HeadlessDevice}

theorem Step.of_lost (h : e.Step e') (hlost : e.device.lost = true) :
    e'.device.lost = true ∧ e'.textures = e.textures := by
  have halive := HeadlessDevice.alive_of_lost hlost
  cases h with
  | note | attach | give => exact ⟨hlost, rfl⟩
  | call hc => exact ⟨(HeadlessDevice.stilled_perform hlost _).lost, rfl⟩
  | create hcreate =>
    simp [HeadlessDevice.device_createTexture, HeadlessDevice.createTexture, halive] at hcreate
  | load hload =>
    simp [HeadlessDevice.device_loadTexture, HeadlessDevice.loadTexture, halive] at hload

/-- Steps of an engine on a lost device register no texture. -/
theorem Steps.of_lost (h : e.Steps e') (hlost : e.device.lost = true) :
    e'.device.lost = true ∧ e'.textures = e.textures := by
  refine h.keep (P := fun e' => e'.device.lost = true ∧ e'.textures = e.textures) ?_ ⟨hlost, rfl⟩
  intro e₁ e₂ hstep h₁
  obtain ⟨hlost₂, hsame⟩ := hstep.of_lost h₁.1
  exact ⟨hlost₂, hsame.trans h₁.2⟩

end Engine

/-- A technique, neither of itself nor of its passes of which anything can be drawn. -/
structure Technique.Useless (t : Technique) : Prop where
  technique : t.isValid = false
  passes : ∀ pass ∈ t.passes, pass.valid = false

namespace Linking

variable {l : Linking HeadlessDevice}

theorem validate_of_lost (hlost : l.engine.device.lost = true) (programs : List Program) :
    ∃ fault, (l.validate programs).1 = .error fault := by
  unfold validate
  split_ifs
  · exact ⟨_, rfl⟩
  · cases programs.find? fun p => !Device.supports l.engine.device p.profile with
    | some p => exact ⟨_, rfl⟩
    | none =>
      simp only [HeadlessDevice.device_validate, HeadlessDevice.validate,
        HeadlessDevice.alive_of_lost hlost]
      exact ⟨_, rfl⟩

theorem validatePass_of_lost (effect : String) (hlost : l.engine.device.lost = true)
    (pass : Pass) : (validatePass effect l pass).1.valid = false := by
  obtain ⟨fault, hfault⟩ := validate_of_lost hlost pass.programs
  unfold validatePass
  rcases hv : l.validate pass.programs with ⟨_ | _, l'⟩
  · rfl
  · rw [hv] at hfault
    cases hfault

theorem validatePasses_of_lost (effect : String) (hlost : l.engine.device.lost = true)
    (passes : List Pass) : ∀ pass ∈ (validatePasses effect l passes).1, pass.valid = false := by
  induction passes generalizing l with
  | nil => exact fun _ h => absurd h List.not_mem_nil
  | cons p rest ih =>
    have hnext := ((validatePass_steps effect l p).of_lost hlost).1
    intro pass hpass
    rcases List.mem_cons.mp hpass with rfl | hrest
    · exact validatePass_of_lost effect hlost p
    · exact ih hnext pass hrest

theorem validateTechnique_of_lost (effect : String) (hlost : l.engine.device.lost = true)
    {t : Technique} (hnew : t.verdict = none) : (validateTechnique effect l t).1.Useless := by
  have hpasses := validatePasses_of_lost effect hlost t.passes
  refine ⟨?_, by rw [validateTechnique_passes]; exact hpasses⟩
  have hany : ((validatePasses effect l t.passes).1.any (·.valid)) = false := by
    simpa using hpasses
  unfold validateTechnique
  simp only [hany]
  split_ifs <;> simp [Technique.settle, Technique.isValid, hnew]

theorem validateTechniques_of_lost (effect : String) (hlost : l.engine.device.lost = true)
    {techniques : List Technique} (hnew : ∀ t ∈ techniques, t.verdict = none) :
    ∀ t ∈ (validateTechniques effect l techniques).1, t.Useless := by
  induction techniques generalizing l with
  | nil => exact fun _ h => absurd h List.not_mem_nil
  | cons c rest ih =>
    obtain ⟨hfirst, hrest⟩ := List.forall_mem_cons.mp hnew
    have hnext := ((validateTechnique_steps effect l c).of_lost hlost).1
    intro t ht
    rcases List.mem_cons.mp ht with rfl | hmem
    · exact validateTechnique_of_lost effect hlost hfirst
    · exact ih hnext hrest t hmem

theorem choose_of_lost (hlost : l.engine.device.lost = true) {effect : Effect}
    (hnew : ∀ t ∈ effect.techniques, t.verdict = none) :
    (l.choose effect).1.chosen = none ∧ (∀ t ∈ (l.choose effect).1.techniques, t.Useless) ∧
      .noValidTechnique effect.name ∈ (l.choose effect).2.errors := by
  have huseless := validateTechniques_of_lost effect.name hlost hnew
  have hnone : (validateTechniques effect.name l effect.techniques).1.findIdx? (·.isValid) =
      none := by
    rw [List.findIdx?_eq_none_iff]
    exact fun t ht => (huseless t ht).technique
  refine ⟨by rw [choose_fst]; exact hnone, by rw [choose_fst]; exact huseless, ?_⟩
  unfold choose
  simp [hnone, report]

theorem reportMalformed_errors (l : Linking HeadlessDevice) (owner : String)
    (directives : List Directive) {error : LinkError} (h : error ∈ l.errors) :
    error ∈ (l.reportMalformed owner directives).errors :=
  List.mem_append_left _ h

/-- A problem that came up before the targets are found is still there afterwards. -/
theorem aim_errors (l : Linking HeadlessDevice) (effect : Effect) {error : LinkError}
    (h : error ∈ l.errors) : error ∈ (l.aim effect).2.errors := by
  have hpasses : ∀ (owner : String) (passes : List Pass) (l : Linking HeadlessDevice),
      error ∈ l.errors → error ∈ (passes.foldl (reportPass owner) l).errors := by
    intro owner passes l hl
    induction passes generalizing l with
    | nil => exact hl
    | cons pass rest ih => exact ih _ (reportMalformed_errors l _ pass.directives hl)
  unfold aim
  generalize effect.name = name
  induction effect.techniques generalizing l with
  | nil => exact h
  | cons t rest ih => exact ih _ (hpasses _ t.passes _ (reportMalformed_errors l _ t.directives h))

end Linking

/-- No technique of a compiled effect is settled. -/
theorem EffectDraft.compile_unsettled {compiler : Compiler} {d : EffectDescription}
    {draft : EffectDraft} (h : EffectDraft.compile compiler d = .ok draft) :
    ∀ t ∈ draft.techniques, t.verdict = none := by
  obtain ⟨parameters, techniques, _, htechniques, rfl⟩ := compile_eq_ok_iff.mp h
  intro t ht
  obtain ⟨technique, _, hcompile⟩ := mem_of_mapM_eq_ok htechniques ht
  obtain ⟨passes, _, rfl⟩ := compileTechnique_eq_ok_iff.mp hcompile
  rfl

/-! ## Sessions on a lost device -/

/-- An effect of which nothing can be drawn. -/
structure Effect.Useless (effect : Effect) : Prop where
  default : effect.default? = none
  techniques : ∀ t ∈ effect.techniques, t.Useless

namespace Engine

variable {e : Engine HeadlessDevice}

theorem link_of_lost (hlost : e.device.lost = true) {effect : Effect}
    (hnew : ∀ t ∈ effect.techniques, t.verdict = none) :
    (e.link effect).1.Useless ∧ .noValidTechnique effect.name ∈ (e.link effect).2.1 ∧
      (e.link effect).2.2.textures = e.textures := by
  have hsteps := ((Linking.linkParameters_steps { engine := e } effect).trans
    (Linking.resolveSamplers_steps _ effect)).of_lost hlost
  obtain ⟨hchosen, huseless, herror⟩ := Linking.choose_of_lost
    (l := (({ engine := e : Linking HeadlessDevice }).linkParameters effect).resolveSamplers effect)
    hsteps.1 hnew
  refine ⟨⟨?_, ?_⟩, ?_, ((link_steps e effect).of_lost hlost).2⟩
  · rw [link_fst]
    exact Option.bind_eq_none_iff.mpr fun i hi => by rw [chosen, hchosen] at hi; cases hi
  · rw [link_fst]
    intro t ht
    obtain ⟨t', ht', rfl⟩ := List.mem_map.mp ht
    refine ⟨(huseless t' ht').technique, fun pass hpass => ?_⟩
    obtain ⟨pass', hpass', rfl⟩ := List.mem_map.mp hpass
    exact (huseless t' ht').passes pass' hpass'
  · exact Linking.aim_errors _ _ herror

/-- What compiles is loaded also on a lost device, but nothing of it can be drawn, and no
texture is registered for it. -/
theorem load_of_lost (hlost : e.device.lost = true) (name : String) {text : String}
    {description : EffectDescription} {draft : EffectDraft}
    (hparse : EffectDescription.ofText text = .ok description)
    (hcompile : EffectDraft.compile e.compiler description = .ok draft) :
    ∃ handle errors e' effect, e.load name text = (.ok (handle, errors), e') ∧
      e'.effects.get? handle = some effect ∧ effect.Useless ∧
      .noValidTechnique draft.name ∈ errors ∧ e'.textures = e.textures := by
  unfold load prepare
  simp only [hparse, show (e.note (EffectDraft.notices e.compiler description)).compiler =
    e.compiler from rfl, hcompile]
  have hnew : ∀ t ∈ (draft.install e.parameters).1.techniques, t.verdict = none :=
    EffectDraft.compile_unsettled hcompile
  obtain ⟨huseless, herror, hsame⟩ := link_of_lost (e := { e.note
    (EffectDraft.notices e.compiler description) with
      parameters := (draft.install e.parameters).2 }) hlost hnew
  exact ⟨_, _, _, _, rfl,
    (Arena.get?_insert _ _ _).trans (if_pos rfl), huseless, herror, hsame⟩

end Engine

namespace Host

variable {host : Host HeadlessDevice}

/-- What a host finds on a lost device. -/
structure Absorbed (host : Host HeadlessDevice) : Prop where
  /-- No frame begins: neither the clock nor a parameter changes. -/
  frame : ∀ now geometry, host.session.renderFrame now geometry = (.error .lost, host.session)
  /-- No texture is created, also under a name that is free. -/
  texture : ∀ name desc, host.engine.textures.contains name = false →
    host.engine.createTexture name desc = (.error (.device .lost), host.engine)
  /-- What compiles is loaded, with nothing to draw and no new texture. -/
  load : ∀ name text description draft, EffectDescription.ofText text = .ok description →
    EffectDraft.compile host.engine.compiler description = .ok draft →
    ∃ handle errors session' effect,
      host.session.load name text = (.ok (handle, errors), session') ∧
        session'.engine.effects.get? handle = some effect ∧ effect.Useless ∧
        .noValidTechnique draft.name ∈ errors ∧ session'.engine.textures = host.engine.textures

theorem absorbed_of_lost (hlost : host.engine.device.lost = true) : host.Absorbed where
  frame := by
    intro now geometry
    rw [Session.renderFrame_eq]
    exact if_pos hlost
  texture := by
    intro name desc hfree
    unfold Engine.createTexture Engine.createRegistered
    simp only [hfree, Bool.false_eq_true, if_false, HeadlessDevice.device_createTexture,
      HeadlessDevice.createTexture, HeadlessDevice.alive_of_lost hlost]
    rfl
  load := by
    intro name text description draft hparse hcompile
    obtain ⟨handle, errors, e', effect, hload, hget, huseless, herror, hsame⟩ :=
      Engine.load_of_lost hlost name hparse hcompile
    refine ⟨handle, errors, { host.session with engine := e' }, effect, ?_, hget, huseless, herror,
      hsame⟩
    unfold Session.load
    simp only [show host.session.engine = host.engine from rfl, hload]

/-- An operation of a host, its hooks included, changes nothing on a lost device. -/
theorem stepHook_stilled (hlost : host.engine.device.lost = true)
    (op : HookOp HeadlessDevice Empty) :
    host.engine.device.Stilled (host.stepHook Empty.elim op).engine.device := by
  cases op with
  | hook hook =>
    exact (host.engine.hook_steps hook).stilled hlost
  | session op =>
    have hop : op.calls (fun _ => true) = true := by cases op <;> rfl
    rcases host.step_renderer (fun _ _ => rfl) Empty.elim hop (Or.inl trivial) with hsteps | ⟨a, _⟩
    · exact hsteps.stilled hlost
    · exact a.elim

theorem runHooks_stilled (hlost : host.engine.device.lost = true)
    (ops : List (HookOp HeadlessDevice Empty)) :
    host.engine.device.Stilled (host.runHooks Empty.elim ops).engine.device :=
  runHooks_keep (P := fun host' => host.engine.device.Stilled host'.engine.device)
    (fun _ op _ h => h.trans (stepHook_stilled h.lost op)) (.refl hlost)

end Host

end ShaderEffects
