import ShaderEffects.Proofs.RendererSteps

/-!
# A renderer, turn by turn

Between its steps a renderer may hold half a pass. A turn is what it does from one
moment at which that is not so to the next: a pass is bound as a whole or not at all,
and the state of the host is put back after each draw. Drawing is a run of turns, and
only the frame around the passes of a technique aims at another surface.
-/
namespace ShaderEffects

open Relation

namespace Renderer

variable {D : Type} [Device D]

/-- What a renderer does at one go, if the passes it may bind are `ok`, and if it may aim
at surfaces. -/
inductive Turn (ok : Pass → Prop) (aims : Prop) (r : Renderer D) : Renderer D → Prop
  | note (notices : List Notice) : Turn ok aims r (r.note notices)
  | quad (quad : FullscreenQuad) : Turn ok aims r { r with quad }
  | load (pass : Pass) : Turn ok aims r (r.loadPass pass).2
  | bind (scene : Scene) (effect : Effect) {pass : Pass} : ok pass →
      Turn ok aims r (r.bindPass scene effect pass).2
  | free : Turn ok aims r r.unbindPass
  | apply (scene : Scene) (id : ParameterId) : Turn ok aims r (r.applyParameter scene id)
  | draw (geometry : Option Geometry) : Turn ok aims r (r.drawBound geometry).2
  | copy (source destination : Surface) :
      Turn ok aims r { r with device := (Device.copy r.device source destination).2 }
  | aim (surface : Surface) : aims →
      Turn ok aims r { r with device := (Device.setTarget r.device surface).2 }

/-- A run of turns. -/
def Turns (ok : Pass → Prop) (aims : Prop) : Renderer D → Renderer D → Prop :=
  ReflTransGen (Turn ok aims)

variable {ok : Pass → Prop} {aims : Prop} {r r' : Renderer D}

theorem Turns.refl (r : Renderer D) : r.Turns ok aims r := ReflTransGen.refl

theorem Turn.turns (h : r.Turn ok aims r') : r.Turns ok aims r' := ReflTransGen.single h

theorem Turns.trans {r₁ r₂ r₃ : Renderer D} (h₁ : r₁.Turns ok aims r₂)
    (h₂ : r₂.Turns ok aims r₃) : r₁.Turns ok aims r₃ := ReflTransGen.trans h₁ h₂

/-- What every turn keeps, every run of turns keeps. -/
theorem Turns.keep {P : Renderer D → Prop} (hP : ∀ r r', r.Turn ok aims r' → P r → P r')
    (h : r.Turns ok aims r') (hr : P r) : P r' := by
  induction h with
  | refl => exact hr
  | tail _ hturn ih => exact hP _ _ hturn ih

theorem note_turns (r : Renderer D) (notices : List Notice) :
    r.Turns ok aims (r.note notices) := (Turn.note notices).turns

theorem drawBound_steps (r : Renderer D) (geometry : Option Geometry) :
    r.StepsBy DeviceCall.draws False (r.drawBound geometry).2 := by
  have henter : r.StepBy DeviceCall.draws False
      { r with device := (DeviceCall.enterEffectState).perform r.device } := .call r rfl
  have hdraw := henter.steps.trans
    (StepBy.call _ (c := .draw (geometry.getD r.quad.geometry)) rfl).steps
  exact hdraw.trans (StepBy.call _ (c := .restore (Device.capture r.device)) rfl).steps

theorem setTarget_step (r : Renderer D) (surface : Surface) :
    r.StepBy DeviceCall.draws False
      { r with device := (Device.setTarget r.device surface).2 } :=
  .call r (c := .setTarget surface) rfl

/-- A turn is a run of steps. -/
theorem Turn.steps (h : r.Turn ok aims r') : r.Steps r' := by
  cases h with
  | note notices => exact steps_note r notices
  | quad quad => exact (StepBy.quad r quad).steps
  | load pass => exact (loadPrograms_steps r pass.programs).draw
  | bind scene effect => exact (bindPass_steps r scene effect _).draw
  | free => exact (unbindPass_steps r).draw
  | apply scene id => exact applyParameter_steps r scene id
  | draw geometry => exact (drawBound_steps r geometry).of_quiet
  | copy source destination =>
    exact (StepBy.call r (c := .copy source destination) rfl).steps
  | aim surface => exact (setTarget_step r surface).steps.of_quiet

theorem Turns.steps (h : r.Turns ok aims r') : r.Steps r' :=
  h.keep (P := fun r' => r.Steps r') (fun _ _ hturn hsteps => hsteps.trans hturn.steps) (.refl r)

/-- Turns that bind no pass leave none bound. -/
theorem Turns.unbound (h : r.Turns (fun _ => False) aims r') (hbound : r.bound = none) :
    r'.bound = none := by
  refine h.keep (P := fun r => r.bound = none) (fun r₁ r₂ hturn hr₁ => ?_) hbound
  cases hturn with
  | note | quad | apply | draw | copy | aim => exact hr₁
  | load pass => exact (loadPrograms_bound r₁ pass.programs).trans hr₁
  | bind _ _ hok => exact hok.elim
  | free => exact unbindPass_bound r₁

/-- Turns that bind no pass hand nothing over if none was bound. -/
theorem Turns.quiet (h : r.Turns (fun _ => False) aims r') (hbound : r.bound = none) :
    r.StepsBy DeviceCall.draws False r' := by
  have hbinds : ∀ {r₁ r₂ : Renderer D}, r₁.StepsBy DeviceCall.binds False r₂ →
      r₁.StepsBy DeviceCall.draws False r₂ :=
    fun h => h.mono (fun _ => DeviceCall.draws_of_binds) id
  refine (h.keep (P := fun r₁ => r₁.bound = none ∧ r.StepsBy DeviceCall.draws False r₁)
    (fun r₁ r₂ hturn hr₁ => ⟨hturn.turns.unbound hr₁.1, hr₁.2.trans ?_⟩) ⟨hbound, .refl r⟩).2
  cases hturn with
  | note notices => exact note_stepsBy r₁ notices
  | quad quad => exact (StepBy.quad r₁ quad).steps
  | load pass => exact hbinds (loadPrograms_steps r₁ pass.programs)
  | bind _ _ hok => exact hok.elim
  | free => exact hbinds (unbindPass_steps r₁)
  | apply scene id =>
    rw [applyParameter_of_unbound hr₁.1]
    exact .refl r₁
  | draw geometry => exact drawBound_steps r₁ geometry
  | copy source destination =>
    exact (StepBy.call r₁ (c := .copy source destination) rfl).steps
  | aim surface => exact (setTarget_step r₁ surface).steps

theorem connected_turns (r : Renderer D) (scene : Scene) (id : ParameterId) :
    r.Turns ok aims (r.connected scene id).2 := by
  unfold connected
  cases scene.parameters.get? id with
  | none => exact .refl r
  | some p =>
    simp only
    cases p.category with
    | sampler => exact (Turn.apply scene id).turns
    | scalar => exact note_turns r _

/-! ## Drawing -/

theorem copy_turns (r : Renderer D) (source destination : Surface) :
    r.Turns ok aims (r.copy source destination).2 := by
  unfold copy
  have hcopy : r.Turn ok aims { r with device := (Device.copy r.device source destination).2 } :=
    .copy source destination
  rcases hc : Device.copy r.device source destination with ⟨result, device⟩
  rw [hc] at hcopy
  rcases result with e | _
  · cases e with
    | lost => exact hcopy.turns
    | _ => exact hcopy.turns.trans (note_turns _ _)
  · exact hcopy.turns

@[simp] theorem copy_bound (r : Renderer D) (source destination : Surface) :
    (r.copy source destination).2.bound = r.bound := by
  unfold copy
  rcases Device.copy r.device source destination with ⟨(_ | _ | _ | _) | _, device⟩ <;> rfl

theorem drawPass_turns (r : Renderer D) (scene : Scene) (effect : Effect)
    (geometry : Option Geometry) (progress : Progress) {pass : Pass} (hok : ok pass) :
    r.Turns ok aims (r.drawPass scene effect geometry progress pass).2 := by
  unfold drawPass
  have hbind : r.Turns ok aims (r.bindPass scene effect pass).2 := (Turn.bind scene effect hok).turns
  rcases hb : r.bindPass scene effect pass with ⟨_ | _, r₁⟩
  · rw [hb] at hbind
    by_cases hlost : Device.isLost r₁.device
    · simpa [hlost] using hbind
    · simpa [hlost] using hbind.trans (note_turns r₁ _)
  · rw [hb] at hbind
    have hdraw := hbind.trans (Turn.draw geometry).turns
    rcases hd : r₁.drawBound geometry with ⟨drawn, r₂⟩
    rw [hd] at hdraw
    have hfree := hdraw.trans (Turn.free (r := r₂)).turns
    simp only [hd]
    rcases drawn with e | _
    · by_cases hlost : e = .lost ∨ Device.isLost r₂.unbindPass.device = true
      · simpa [hlost] using hfree
      · simpa [hlost] using hfree.trans (note_turns r₂.unbindPass _)
    · have hcopy := hfree.trans
        (copy_turns r₂.unbindPass .scratch (TargetBinding.surface scene.textures pass.target))
      rcases hc : r₂.unbindPass.copy .scratch
        (TargetBinding.surface scene.textures pass.target) with ⟨_ | copied, r₃⟩
      · simpa [hc] using hcopy
      · cases copied <;> simpa [hc] using hcopy

/-- After a pass none is bound. -/
theorem drawPass_bound (r : Renderer D) (scene : Scene) (effect : Effect)
    (geometry : Option Geometry) (progress : Progress) (pass : Pass) :
    (r.drawPass scene effect geometry progress pass).2.bound = none := by
  unfold drawPass
  rcases hb : r.bindPass scene effect pass with ⟨e | _, r₁⟩
  · have hnone := bindPass_bound_of_error (congrArg Prod.fst hb)
    rw [hb] at hnone
    by_cases hlost : Device.isLost r₁.device <;> simpa [hlost, note] using hnone
  · rcases hd : r₁.drawBound geometry with ⟨drawn, r₂⟩
    simp only [hd]
    rcases drawn with e | _
    · by_cases hlost : e = .lost ∨ Device.isLost r₂.unbindPass.device = true <;>
        simp [hlost, note]
    · have hcopy : (r₂.unbindPass.copy .scratch
          (TargetBinding.surface scene.textures pass.target)).2.bound = none := by
        rw [copy_bound, unbindPass_bound]
      rcases hc : r₂.unbindPass.copy .scratch
        (TargetBinding.surface scene.textures pass.target) with ⟨_ | copied, r₃⟩
      · simpa [hc] using hcopy
      · cases copied <;> simpa [hc] using hcopy

theorem drawPass_steps (r : Renderer D) (scene : Scene) (effect : Effect)
    (geometry : Option Geometry) (progress : Progress) (pass : Pass) :
    r.Steps (r.drawPass scene effect geometry progress pass).2 := by
  have hturns : r.Turns (fun _ => True) True (r.drawPass scene effect geometry progress pass).2 :=
    drawPass_turns r scene effect geometry progress trivial
  exact hturns.steps

/-- Once a pass is bound, nothing is handed over until it is drawn. -/
theorem drawPass_quiet (r : Renderer D) (scene : Scene) (effect : Effect)
    (geometry : Option Geometry) (progress : Progress) (pass : Pass) :
    (r.bindPass scene effect pass).2.StepsBy DeviceCall.draws False
      (r.drawPass scene effect geometry progress pass).2 := by
  unfold drawPass
  rcases hb : r.bindPass scene effect pass with ⟨e | _, r₁⟩
  · simp only
    split_ifs
    · exact .refl r₁
    · exact note_stepsBy r₁ _
  · have hdraw := drawBound_steps r₁ geometry
    rcases hd : r₁.drawBound geometry with ⟨drawn, r₂⟩
    rw [hd] at hdraw
    have hfree := hdraw.trans ((unbindPass_steps r₂).mono (fun _ => DeviceCall.draws_of_binds) id)
    simp only [hd]
    rcases drawn with e | _
    · simp only
      split_ifs
      · exact hfree
      · exact hfree.trans (note_stepsBy r₂.unbindPass _)
    · have hturns : r₂.unbindPass.Turns (fun _ => False) False (r₂.unbindPass.copy .scratch
          (TargetBinding.surface scene.textures pass.target)).2 := copy_turns _ _ _
      have hcopy := hfree.trans (hturns.quiet (unbindPass_bound r₂))
      rcases hc : r₂.unbindPass.copy .scratch
        (TargetBinding.surface scene.textures pass.target) with ⟨_ | copied, r₃⟩
      · simpa [hc] using hcopy
      · cases copied <;> simpa [hc] using hcopy

theorem drawPasses_turns (r : Renderer D) (scene : Scene) (effect : Effect)
    (geometry : Option Geometry) (progress : Progress) {passes : List Pass}
    (hok : ∀ pass ∈ passes, pass.valid = true → ok pass) :
    r.Turns ok aims (r.drawPasses scene effect geometry progress passes).2 := by
  induction passes generalizing r progress with
  | nil => exact .refl r
  | cons pass rest ih =>
    have hrest := fun p hp => hok p (List.mem_cons_of_mem pass hp)
    rw [drawPasses]
    split_ifs with hvalid
    · have hpass : r.Turns ok aims (r.drawPass scene effect geometry progress pass).2 :=
        drawPass_turns r scene effect geometry progress (hok pass List.mem_cons_self hvalid)
      rcases hd : r.drawPass scene effect geometry progress pass with ⟨_ | progress', r₁⟩
      · rwa [hd] at hpass
      · rw [hd] at hpass
        exact hpass.trans (ih r₁ progress' hrest)
    · exact (note_turns r _).trans (ih _ progress hrest)

theorem drawPasses_steps (r : Renderer D) (scene : Scene) (effect : Effect)
    (geometry : Option Geometry) (progress : Progress) (passes : List Pass) :
    r.Steps (r.drawPasses scene effect geometry progress passes).2 := by
  have hturns : r.Turns (fun _ => True) True
      (r.drawPasses scene effect geometry progress passes).2 :=
    drawPasses_turns r scene effect geometry progress fun _ _ _ => trivial
  exact hturns.steps

/-- If no pass was bound, none is bound after passes. -/
theorem drawPasses_bound {r : Renderer D} (hbound : r.bound = none) (scene : Scene)
    (effect : Effect) (geometry : Option Geometry) (progress : Progress) (passes : List Pass) :
    (r.drawPasses scene effect geometry progress passes).2.bound = none := by
  induction passes generalizing r progress with
  | nil => exact hbound
  | cons pass rest ih =>
    rw [drawPasses]
    split_ifs
    · have hpass := drawPass_bound r scene effect geometry progress pass
      rcases hd : r.drawPass scene effect geometry progress pass with ⟨_ | progress', r₁⟩
      · rwa [hd] at hpass
      · rw [hd] at hpass
        exact ih hpass progress'
    · exact ih (r := r.note [.passNotDrawn pass.name]) hbound progress

theorem copyResult_turns (r : Renderer D) (result destination : Surface) :
    r.Turns ok aims (r.copyResult result destination).2 := by
  unfold copyResult
  split_ifs
  · exact .refl r
  · have hcopy : r.Turns ok aims (r.copy result destination).2 := copy_turns r result destination
    rcases hc : r.copy result destination with ⟨_ | _, r₁⟩ <;> simpa [hc] using hcopy

theorem present_turns (r : Renderer D) (binding : Option TargetBinding) (destination : Surface) :
    r.Turns ok aims (r.present binding destination).2 := by
  unfold present
  simp only
  split_ifs
  · have hcopy : r.Turns ok aims (r.copy destination .backbuffer).2 :=
      copy_turns r destination .backbuffer
    rcases hc : r.copy destination .backbuffer with ⟨_ | _, r₁⟩ <;> simpa [hc] using hcopy
  · exact .refl r

theorem compose_turns (r : Renderer D) (scene : Scene) (technique : Technique)
    (result : Option Surface) : r.Turns ok aims (r.compose scene technique result).2 := by
  cases result with
  | none => exact .refl r
  | some result =>
    simp only [compose]
    have hcopy : r.Turns ok aims (r.copyResult result
        (TargetBinding.surface scene.textures technique.target)).2 := copyResult_turns r _ _
    rcases hc : r.copyResult result (TargetBinding.surface scene.textures technique.target)
      with ⟨_ | _, r₁⟩
    · rwa [hc] at hcopy
    · rw [hc] at hcopy
      exact hcopy.trans (present_turns r₁ _ _)

/-- Once it aims at the scratch surface, a technique is drawn in turns. -/
theorem runTechnique_turns (r : Renderer D) (scene : Scene) (effect : Effect)
    {technique : Technique} (geometry : Option Geometry)
    (hok : ∀ pass ∈ technique.passes, pass.valid = true → ok pass) :
    ({ r with device := (Device.setTarget r.device .scratch).2 } : Renderer D).Turns ok aims
      (r.runTechnique scene effect technique geometry).2 := by
  unfold runTechnique
  rcases ht : Device.setTarget r.device .scratch with ⟨_ | _, device⟩
  · exact .refl _
  · have hpasses : ({ r with device } : Renderer D).Turns ok aims
        (({ r with device } : Renderer D).drawPasses scene effect geometry {}
          technique.passes).2 := drawPasses_turns _ scene effect geometry {} hok
    simp only
    rcases hd : ({ r with device } : Renderer D).drawPasses scene effect geometry {}
      technique.passes with ⟨_ | progress, r₁⟩
    · rwa [hd] at hpasses
    · rw [hd] at hpasses
      have hcompose := hpasses.trans (compose_turns r₁ scene technique progress.result)
      rcases hc : r₁.compose scene technique progress.result with ⟨_ | _, r₂⟩ <;>
        simpa [hc] using hcompose

theorem fitQuad_turns (r : Renderer D) : r.Turns ok aims r.fitQuad := by
  unfold fitQuad
  simp only
  split_ifs
  · exact .refl r
  · exact (Turn.quad _).turns.trans (note_turns _ _)

theorem fitQuad_device (r : Renderer D) : r.fitQuad.device = r.device := by
  unfold fitQuad
  simp only
  split_ifs <;> rfl

theorem fitQuad_bound (r : Renderer D) : r.fitQuad.bound = r.bound := by
  unfold fitQuad
  simp only
  split_ifs <;> rfl

theorem fitQuad_steps (r : Renderer D) : r.Steps r.fitQuad := by
  have hturns : r.Turns (fun _ => True) True r.fitQuad := fitQuad_turns r
  exact hturns.steps

theorem restoreTarget_turns (r : Renderer D) (target : Surface) :
    r.Turns ok True (r.restoreTarget target) := by
  unfold restoreTarget
  have htarget : r.Turn ok True { r with device := (Device.setTarget r.device target).2 } :=
    .aim target trivial
  rcases ht : Device.setTarget r.device target with ⟨_ | _, device⟩
  · rw [ht] at htarget
    exact htarget.turns.trans (note_turns _ _)
  · rw [ht] at htarget
    exact htarget.turns

theorem drawTechnique_turns (r : Renderer D) (scene : Scene) (effect : Effect)
    {technique : Technique} (geometry : Option Geometry)
    (hok : ∀ pass ∈ technique.passes, pass.valid = true → ok pass) :
    r.Turns ok True (r.drawTechnique scene effect technique geometry).2 := by
  unfold drawTechnique
  split_ifs
  · exact note_turns r _
  · exact .refl r
  · have haim : r.fitQuad.Turn ok True
        { r.fitQuad with device := (Device.setTarget r.fitQuad.device .scratch).2 } :=
      .aim .scratch trivial
    have hrun := ((fitQuad_turns r).trans haim.turns).trans
      (runTechnique_turns r.fitQuad scene effect geometry hok)
    simp only
    rcases hr : r.fitQuad.runTechnique scene effect technique geometry with ⟨result, r₁⟩
    rw [hr] at hrun
    have hrestore := hrun.trans (restoreTarget_turns r₁ (Device.target r.fitQuad.device))
    cases result with
    | ok report => exact hrestore
    | error e => exact hrestore.trans (note_turns _ _)

/-- If no pass was bound, none is bound after a technique. -/
theorem runTechnique_bound {r : Renderer D} (hbound : r.bound = none) (scene : Scene)
    (effect : Effect) (technique : Technique) (geometry : Option Geometry) :
    (r.runTechnique scene effect technique geometry).2.bound = none := by
  unfold runTechnique
  rcases Device.setTarget r.device .scratch with ⟨_ | _, device⟩
  · exact hbound
  · have hpasses := drawPasses_bound (r := { r with device }) hbound scene effect geometry {}
      technique.passes
    simp only
    rcases hd : ({ r with device } : Renderer D).drawPasses scene effect geometry {}
      technique.passes with ⟨_ | progress, r₁⟩
    · rwa [hd] at hpasses
    · rw [hd] at hpasses
      have hcompose : r₁.Turns (fun _ => False) False
          (r₁.compose scene technique progress.result).2 := compose_turns r₁ scene technique _
      have hdone := hcompose.unbound hpasses
      rcases hc : r₁.compose scene technique progress.result with ⟨_ | _, r₂⟩ <;>
        simpa [hc] using hdone

/-- If no pass was bound, none is bound after an effect. -/
theorem drawEffect_bound {r : Renderer D} (hbound : r.bound = none) (scene : Scene)
    (effect : Effect) (geometry : Option Geometry) :
    (r.drawEffect scene effect geometry).2.bound = none := by
  unfold drawEffect
  cases effect.default? with
  | none => exact hbound
  | some technique =>
    simp only [drawTechnique]
    split_ifs
    · exact hbound
    · exact hbound
    · have hrun := runTechnique_bound ((fitQuad_bound r).trans hbound) scene effect technique
        geometry
      rcases hr : r.fitQuad.runTechnique scene effect technique geometry with ⟨result, r₁⟩
      rw [hr] at hrun
      have hrestore : r₁.Turns (fun _ => False) True
          (r₁.restoreTarget (Device.target r.fitQuad.device)) := restoreTarget_turns r₁ _
      cases result <;> exact hrestore.unbound hrun

/-- Drawing an effect is a run of turns. -/
theorem drawEffect_turns (r : Renderer D) (scene : Scene) {effect : Effect}
    (geometry : Option Geometry)
    (hok : ∀ technique, effect.default? = some technique → ∀ pass ∈ technique.passes,
      pass.valid = true → ok pass) :
    r.Turns ok True (r.drawEffect scene effect geometry).2 := by
  unfold drawEffect
  cases hdefault : effect.default? with
  | some technique =>
    exact drawTechnique_turns r scene effect geometry (hok technique hdefault)
  | none => exact note_turns r _

theorem drawEffect_steps (r : Renderer D) (scene : Scene) (effect : Effect)
    (geometry : Option Geometry) : r.Steps (r.drawEffect scene effect geometry).2 := by
  have hturns : r.Turns (fun _ => True) True (r.drawEffect scene effect geometry).2 :=
    drawEffect_turns r scene geometry fun _ _ _ _ _ => trivial
  exact hturns.steps

/-! ## Frames -/

/-- What a frame takes of a renderer: it copies surfaces, and draws effects as a whole. -/
inductive Act (drawn : Effect → Prop) (r : Renderer D) : Renderer D → Prop
  | note (notices : List Notice) : Act drawn r (r.note notices)
  | copy (source destination : Surface) :
      Act drawn r { r with device := (Device.copy r.device source destination).2 }
  | effect (scene : Scene) {effect : Effect} (geometry : Option Geometry) : drawn effect →
      Act drawn r (r.drawEffect scene effect geometry).2

/-- A row of acts. -/
def Acts (drawn : Effect → Prop) : Renderer D → Renderer D → Prop := ReflTransGen (Act drawn)

variable {drawn : Effect → Prop}

theorem Acts.refl (r : Renderer D) : r.Acts drawn r := ReflTransGen.refl

theorem Act.acts (h : r.Act drawn r') : r.Acts drawn r' := ReflTransGen.single h

theorem Acts.trans {r₁ r₂ r₃ : Renderer D} (h₁ : r₁.Acts drawn r₂) (h₂ : r₂.Acts drawn r₃) :
    r₁.Acts drawn r₃ := ReflTransGen.trans h₁ h₂

/-- What every act keeps, every row of acts keeps. -/
theorem Acts.keep {P : Renderer D → Prop} (hP : ∀ r r', r.Act drawn r' → P r → P r')
    (h : r.Acts drawn r') (hr : P r) : P r' := by
  induction h with
  | refl => exact hr
  | tail _ hact ih => exact hP _ _ hact ih

theorem note_acts (r : Renderer D) (notices : List Notice) : r.Acts drawn (r.note notices) :=
  (Act.note notices).acts

/-- An act is a run of turns. -/
theorem Act.turns (hok : ∀ effect, drawn effect → ∀ technique, effect.default? = some technique →
      ∀ pass ∈ technique.passes, pass.valid = true → ok pass)
    (h : r.Act drawn r') : r.Turns ok True r' := by
  cases h with
  | note notices => exact note_turns r notices
  | copy source destination => exact (Turn.copy source destination).turns
  | effect scene geometry heffect => exact drawEffect_turns r scene geometry (hok _ heffect)

theorem Acts.turns (hok : ∀ effect, drawn effect → ∀ technique, effect.default? = some technique →
      ∀ pass ∈ technique.passes, pass.valid = true → ok pass)
    (h : r.Acts drawn r') : r.Turns ok True r' :=
  h.keep (P := fun r' => r.Turns ok True r')
    (fun _ _ hact hturns => hturns.trans (hact.turns hok)) (.refl r)

/-- If no pass was bound, none is bound after a row of acts. -/
theorem Acts.unbound (h : r.Acts drawn r') (hbound : r.bound = none) : r'.bound = none := by
  refine h.keep (P := fun r => r.bound = none) (fun r₁ r₂ hact hr₁ => ?_) hbound
  cases hact with
  | note | copy => exact hr₁
  | effect scene geometry _ => exact drawEffect_bound hr₁ scene _ geometry

theorem Acts.steps (h : r.Acts drawn r') : r.Steps r' := by
  have hturns : r.Turns (fun _ => True) True r' := h.turns fun _ _ _ _ _ _ _ => trivial
  exact hturns.steps

end Renderer

end ShaderEffects
