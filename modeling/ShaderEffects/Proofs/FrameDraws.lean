import ShaderEffects.Proofs.HostRuns

/-!
# The draws of a frame

What a device looks like each time a pass is drawn. A pass that may be drawn is drawn
once, unless it cannot be bound, so the draws of an effect and its bind errors together
are as many as the passes that may be drawn.
-/
namespace ShaderEffects

/-- A draw: the pass that is drawn, its effect, and the device that draws. -/
structure Draw (D : Type) where
  effect : Effect
  pass : Pass
  device : D

/-- The passes of an effect that may be drawn. -/
def Effect.drawablePasses (effect : Effect) : List Pass :=
  match effect.default? with
  | some technique => if technique.isValid then technique.passes.filter (·.valid) else []
  | none => []

namespace Renderer

variable {D : Type} [Device D]

/-- The draw of a pass, if the pass can be bound. -/
def passDraws (r : Renderer D) (scene : Scene) (effect : Effect) (pass : Pass) :
    List (Draw D) :=
  match r.bindPass scene effect pass with
  | (.error _, _) => []
  | (.ok _, r) => [⟨effect, pass, Device.enterEffectState r.device⟩]

/-- The draws of passes that are drawn one after the other. -/
def passesDraws (r : Renderer D) (scene : Scene) (effect : Effect) (geometry : Option Geometry)
    (progress : Progress) : List Pass → List (Draw D)
  | [] => []
  | pass :: rest =>
    if pass.valid then
      r.passDraws scene effect pass ++
        match r.drawPass scene effect geometry progress pass with
        | (.error _, _) => []
        | (.ok progress, r) => r.passesDraws scene effect geometry progress rest
    else (r.note [.passNotDrawn pass.name]).passesDraws scene effect geometry progress rest

/-- The draws of a technique. -/
def techniqueDraws (r : Renderer D) (scene : Scene) (effect : Effect) (technique : Technique)
    (geometry : Option Geometry) : List (Draw D) :=
  if !technique.isValid ∨ Device.isLost r.device then []
  else
    match Device.setTarget r.fitQuad.device .scratch with
    | (.error _, _) => []
    | (.ok _, device) =>
      { r.fitQuad with device }.passesDraws scene effect geometry {} technique.passes

/-- The draws of the technique that was chosen for an effect. -/
def effectDraws (r : Renderer D) (scene : Scene) (effect : Effect)
    (geometry : Option Geometry) : List (Draw D) :=
  match effect.default? with
  | some technique => r.techniqueDraws scene effect technique geometry
  | none => []

variable {r r' : Renderer D} {scene : Scene} {effect : Effect} {geometry : Option Geometry}

/-- A pass is drawn with the programs that were bound, once, or it has a bind error. -/
theorem passDraws_length {progress progress' : Progress} {pass : Pass}
    (h : r.drawPass scene effect geometry progress pass = (.ok progress', r')) :
    progress'.report.bindErrors.length + (r.passDraws scene effect pass).length =
      progress.report.bindErrors.length + 1 := by
  unfold drawPass at h
  unfold passDraws
  rcases hbind : r.bindPass scene effect pass with ⟨e | _, r₁⟩
  · simp only [hbind] at h
    split_ifs at h
    · cases (Prod.mk.inj h).1
    · obtain ⟨hprogress, _⟩ := Prod.mk.inj h
      cases hprogress
      simp
  · simp only [hbind] at h
    rcases hdraw : r₁.drawBound geometry with ⟨e | _, r₂⟩
    · simp only [hdraw] at h
      split_ifs at h
      · cases (Prod.mk.inj h).1
      · obtain ⟨hprogress, _⟩ := Prod.mk.inj h
        cases hprogress
        simp
    · simp only [hdraw] at h
      rcases hcopy : r₂.unbindPass.copy .scratch (TargetBinding.surface scene.textures pass.target)
        with ⟨e | _ | _, r₃⟩
      · simp [hcopy] at h
      · simp only [hcopy, Prod.mk.injEq, Except.ok.injEq] at h
        rw [← h.1]
        simp
      · simp only [hcopy, Prod.mk.injEq, Except.ok.injEq] at h
        rw [← h.1]
        simp

/-- Passes that may be drawn are drawn once or have a bind error each. -/
theorem passesDraws_length {progress progress' : Progress} {passes : List Pass}
    (h : r.drawPasses scene effect geometry progress passes = (.ok progress', r')) :
    progress'.report.bindErrors.length +
        (r.passesDraws scene effect geometry progress passes).length =
      progress.report.bindErrors.length + (passes.filter (·.valid)).length := by
  induction passes generalizing r progress with
  | nil =>
    obtain ⟨hprogress, _⟩ := Prod.mk.inj h
    cases hprogress
    simp [passesDraws]
  | cons pass rest ih =>
    rw [drawPasses] at h
    rw [passesDraws]
    by_cases hvalid : pass.valid = true
    · rw [if_pos hvalid] at h
      rw [if_pos hvalid, List.filter_cons_of_pos (by simpa using hvalid)]
      rcases hpass : r.drawPass scene effect geometry progress pass with ⟨e | progress₁, r₁⟩
      · simp [hpass] at h
      · have hfirst := passDraws_length hpass
        simp only [hpass] at h
        have hrest := ih h
        simp only [List.length_append, List.length_cons]
        omega
    · rw [if_neg hvalid] at h
      rw [if_neg hvalid, List.filter_cons_of_neg (by simpa using hvalid)]
      exact ih h

/-- A technique that was drawn was run on a device that is not lost. -/
theorem runTechnique_of_drawTechnique {report : FrameReport} {technique : Technique}
    (hvalid : technique.isValid = true)
    (h : r.drawTechnique scene effect technique geometry = (.ok report, r')) :
    Device.isLost r.device = false ∧
      ∃ r₁, r.fitQuad.runTechnique scene effect technique geometry = (.ok report, r₁) := by
  unfold drawTechnique at h
  simp only [hvalid, Bool.not_true, Bool.false_eq_true, if_false] at h
  split_ifs at h with hlost
  · cases (Prod.mk.inj h).1
  · refine ⟨by simpa using hlost, ?_⟩
    rcases hrun : r.fitQuad.runTechnique scene effect technique geometry with ⟨e | report₁, r₁⟩
    · simp [hrun] at h
    · simp only [hrun, Prod.mk.injEq, Except.ok.injEq] at h
      exact ⟨r₁, by rw [h.1]⟩

/-- The draws of an effect and its bind errors are as many as the passes that may be
drawn. -/
theorem effectDraws_length {report : FrameReport}
    (h : r.drawEffect scene effect geometry = (.ok report, r')) :
    report.bindErrors.length + (r.effectDraws scene effect geometry).length =
      effect.drawablePasses.length := by
  unfold drawEffect at h
  unfold effectDraws Effect.drawablePasses
  cases hdefault : effect.default? with
  | none =>
    simp only [hdefault, Prod.mk.injEq, Except.ok.injEq] at h
    obtain ⟨rfl, _⟩ := h
    rfl
  | some technique =>
    simp only [hdefault] at h
    cases hvalid : technique.isValid with
    | false =>
      simp only [drawTechnique, hvalid, Bool.not_false, if_true, Prod.mk.injEq,
        Except.ok.injEq] at h
      obtain ⟨rfl, _⟩ := h
      simp [techniqueDraws, hvalid]
    | true =>
      obtain ⟨halive, r₁, hrun⟩ := runTechnique_of_drawTechnique hvalid h
      have hif : ¬ ((!technique.isValid) = true ∨ Device.isLost r.device = true) := by
        simp [hvalid, halive]
      unfold runTechnique at hrun
      simp only [if_pos hvalid]
      rw [techniqueDraws, if_neg hif]
      rcases hset : Device.setTarget r.fitQuad.device .scratch with ⟨e | _, device⟩
      · simp [hset] at hrun
      simp only [hset] at hrun
      rcases hpasses : ({ r.fitQuad with device } : Renderer D).drawPasses scene effect geometry
        {} technique.passes with ⟨e | progress, r₂⟩
      · simp [hpasses] at hrun
      have hlength := passesDraws_length hpasses
      simp only [hpasses] at hrun
      rcases hcompose : r₂.compose scene technique progress.result with ⟨e | _, r₃⟩
      · simp [hcompose] at hrun
      · simp only [hcompose, Prod.mk.injEq, Except.ok.injEq] at hrun
        obtain ⟨rfl, _⟩ := hrun
        simpa using hlength

end Renderer

namespace Session

variable {D : Type} [Device D]

/-- The draws of effects that are drawn one after the other. -/
def effectsDraws (engine : Engine D) (geometry : Option Geometry) :
    List Effect → List (Draw D)
  | [] => []
  | effect :: rest =>
    engine.renderer.effectDraws engine.scene effect geometry ++
      match engine.renderer.drawEffect engine.scene effect geometry with
      | (.error _, _) => []
      | (.ok report, renderer) =>
        effectsDraws
          ({ engine with renderer }.note [.passesDrawn effect.name report.passesDrawn])
          geometry rest

/-- The draws of a frame. -/
def frameDraws (session : Session D) (now : Int) (geometry : Option Geometry) :
    List (Draw D) :=
  if Device.isLost session.engine.device then []
  else
    match snapshot (session.prepared now) Staging.thisFrame with
    | (.error _, _) => []
    | (.ok _, engine) => effectsDraws engine geometry (engine.effects.toList.map (·.2))

theorem effectsDraws_length {e e' : Engine D} {geometry : Option Geometry}
    {effects : List Effect} {reports : List FrameReport}
    (h : drawEffects e geometry effects = (.ok reports, e')) :
    (reports.flatMap (·.bindErrors)).length + (effectsDraws e geometry effects).length =
      (effects.flatMap Effect.drawablePasses).length := by
  induction effects generalizing e e' reports with
  | nil =>
    obtain ⟨hreports, _⟩ := Prod.mk.inj h
    cases hreports
    rfl
  | cons effect rest ih =>
    rw [drawEffects] at h
    rw [effectsDraws]
    rcases hdraw : e.renderer.drawEffect e.scene effect geometry with ⟨error | report, r₁⟩
    · simp [hdraw] at h
    simp only [hdraw] at h ⊢
    rcases hrest : drawEffects
      ({ e with renderer := r₁ }.note [.passesDrawn effect.name report.passesDrawn])
      geometry rest with ⟨error | others, e₂⟩
    · simp [hrest] at h
    simp only [hrest, Prod.mk.injEq, Except.ok.injEq] at h
    obtain ⟨rfl, _⟩ := h
    have hfirst := Renderer.effectDraws_length hdraw
    have hothers := ih hrest
    simp only [List.flatMap_cons, List.length_append]
    omega

/-- Each pass that may be drawn in a frame has one of the draws, or a bind error. -/
theorem frameDraws_length {session session' : Session D} {now : Int}
    {geometry : Option Geometry} {reports : List FrameReport}
    (h : session.renderFrame now geometry = (.ok reports, session')) :
    (reports.flatMap (·.bindErrors)).length + (session.frameDraws now geometry).length =
      ((session.engine.effects.toList.map (·.2)).flatMap Effect.drawablePasses).length := by
  rw [renderFrame_eq] at h
  unfold frameDraws
  split_ifs at h ⊢ with hlost
  · cases (Prod.mk.inj h).1
  obtain ⟨hreports, _⟩ := Prod.mk.inj h
  obtain ⟨writes, hprepared⟩ := session.prepared_eq now
  unfold drawFrame at hreports
  obtain ⟨renderer, heq, _⟩ := snapshot_steps (session.prepared now) Staging.thisFrame
  rcases hsnap : snapshot (session.prepared now) Staging.thisFrame with ⟨error | _, e₁⟩
  · simp [hsnap] at hreports
  rw [hsnap] at heq
  simp only [hsnap] at hreports ⊢
  have heffects : e₁.effects = session.engine.effects := by
    rw [show e₁ = _ from heq, hprepared]
  rcases hdraw : drawEffects e₁ geometry (e₁.effects.toList.map (·.2)) with ⟨error | rs, e₂⟩
  · simp [hdraw] at hreports
  have hlength := effectsDraws_length hdraw
  simp only [hdraw] at hreports
  rcases hlast : snapshot e₂ Staging.lastFrame with ⟨error | _, e₃⟩
  · simp [hlast] at hreports
  simp only [hlast, Except.ok.injEq] at hreports
  rw [← hreports, hlength, heffects]

/-- Drawing does not change what the parameters hold. -/
theorem drawFrame_parameters (e : Engine D) (geometry : Option Geometry) :
    (drawFrame e geometry).2.parameters = e.parameters := by
  obtain ⟨renderer, heq, _⟩ := drawFrame_steps e geometry
  rw [heq]

end Session

end ShaderEffects
