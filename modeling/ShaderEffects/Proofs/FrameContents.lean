import ShaderEffects.Proofs.Registries
import ShaderEffects.Proofs.TechniqueContents
import ShaderEffects.Session

/-!
# What a frame leaves on a device without a screen

A frame copies the backbuffer aside, draws the effects one after the other, and
copies the backbuffer aside again. On a headless device that does what the reference
frame does, or the device is lost and the frame with it.
-/
namespace ShaderEffects

theorem TextureRegistry.Coherent.byName?_of_find? {registry : TextureRegistry}
    (hc : registry.Coherent) {name : String} {handle : Handle Texture}
    (h : registry.find? name = some handle) :
    ∃ texture, registry.byName? name = some texture ∧ registry.get? handle = some texture := by
  obtain ⟨texture, hget, _⟩ := (hc.find?_eq_some_iff name handle).mp h
  exact ⟨texture, by simp [byName?, h, hget], hget⟩

/-- An effect whose default technique can be drawn, and each of whose passes has at most
one program for a stage. -/
structure Drawable (effect : Effect) : Prop where
  valid : ∀ technique, effect.default? = some technique → technique.isValid = true
  stages : ∀ technique, effect.default? = some technique → ∀ pass ∈ technique.passes,
    pass.valid = true → (pass.programs.map (·.stage)).Nodup

namespace Session

open HeadlessDevice

variable {e : Engine HeadlessDevice}

/-- Either the device was lost, or only the renderer went on, nothing is bound, and the
result and the surfaces are what they should be. -/
def Yields {α : Type} (e : Engine HeadlessDevice)
    (result : Except DeviceError α × Engine HeadlessDevice) (value : α) (canvas : Canvas) : Prop :=
  (result.1 = .error .lost ∧ result.2.device.lost = true) ∨
    ∃ renderer, result = (.ok value, { e with renderer }) ∧ renderer.Idle ∧
      e.renderer.Steps renderer ∧ renderer.canvas = canvas

/-- A picture of the backbuffer is what the backbuffer shows. -/
theorem snapshot_spec (hidle : e.renderer.Idle) (hbacked : e.textures.BackedBy e.device)
    {name : String} {texture : Texture} (hname : e.textures.byName? name = some texture) :
    Yields e (snapshot e name) ()
      (e.renderer.canvas.put (.texture texture.backing) (e.renderer.canvas.shown .backbuffer)) := by
  obtain ⟨handle, _, hget⟩ := Option.bind_eq_some_iff.mp hname
  have halive : e.device.alive = .ok () := alive_eq_ok hidle.lost
  have hdestination : e.device.checkSurface (.texture texture.backing) = .ok () := by
    simp [HeadlessDevice.checkSurface, hbacked handle texture hget]
  have hstep : e.renderer.Step { e.renderer with
      device := (DeviceCall.copy .backbuffer (.texture texture.backing)).perform e.device } :=
    .call e.renderer rfl
  have hcopy : (DeviceCall.copy .backbuffer (.texture texture.backing)).perform e.device =
      (e.renderer.repainted
        (copiedContents e.device.contents .backbuffer (.texture texture.backing))
        e.device.drawsLeft
        (e.device.calls ++ [.copy .backbuffer (.texture texture.backing)])).device := by
    simp only [DeviceCall.perform, device_copy, HeadlessDevice.copy, halive,
      checkSurface_backbuffer, hdestination]
    rfl
  refine Or.inr ⟨e.renderer.repainted
    (copiedContents e.device.contents .backbuffer (.texture texture.backing)) e.device.drawsLeft
    (e.device.calls ++ [.copy .backbuffer (.texture texture.backing)]), ?_,
    hidle.repainted _ _ _, ?_, Renderer.canvas_repainted_copied _ _ _ _ _⟩
  · simp only [snapshot, hname, device_copy, HeadlessDevice.copy, halive,
      checkSurface_backbuffer, hdestination]
    rfl
  · rw [hcopy] at hstep
    exact hstep.steps

/-- Drawing effects one after the other reports and shows what the reference does. -/
theorem drawEffects_spec (hidle : e.renderer.Idle) (hbacked : e.textures.BackedBy e.device)
    (geometry : Option Geometry) {effects : List Effect} (hdrawable : ∀ x ∈ effects, Drawable x) :
    Yields e (drawEffects e geometry effects)
      (e.renderer.canvas.effects e.device.refusals e.textures effects).1
      (e.renderer.canvas.effects e.device.refusals e.textures effects).2 := by
  induction effects generalizing e with
  | nil => exact Or.inr ⟨e.renderer, rfl, hidle, .refl e.renderer, rfl⟩
  | cons effect rest ih =>
    have hfirst := hdrawable effect List.mem_cons_self
    have hscenic : e.scene.textures.BackedBy e.device := hbacked
    have hdraw := Renderer.drawEffect_spec hidle hscenic geometry hfirst.valid hfirst.stages
    have hsteps := Renderer.drawEffect_steps e.renderer e.scene effect geometry
    have hscene : e.scene.textures = e.textures := rfl
    obtain ⟨report, hreport⟩ : ∃ report,
        (e.renderer.canvas.effect e.device.refusals e.textures effect).1 = report := ⟨_, rfl⟩
    simp only [Engine.device] at hreport
    rw [hscene, hreport] at hdraw
    rw [drawEffects]
    rcases hresult : e.renderer.drawEffect e.scene effect geometry with ⟨result, r₁⟩
    rw [hresult] at hdraw hsteps
    rcases hdraw with ⟨rfl, hlost⟩ | ⟨rfl, hidle₁, hcanvas₁⟩
    · exact Or.inl ⟨rfl, hlost⟩
    · -- the notice of each effect changes neither the device nor what is loaded
      let e₂ : Engine HeadlessDevice :=
        { e with renderer := r₁ }.note [.passesDrawn effect.name report.passesDrawn]
      have hidle₂ : e₂.renderer.Idle :=
        ⟨hidle₁.lost, hidle₁.bound, hidle₁.free, hidle₁.stocked⟩
      have hcanvas₂ : e₂.renderer.canvas =
          (e.renderer.canvas.effect e.device.refusals e.textures effect).2 := hcanvas₁
      have hrefusals : e₂.device.refusals = e.device.refusals := hsteps.refusals
      have hnext := ih (e := e₂) hidle₂ (hbacked.outlives hsteps.outlives)
        (fun x hx => hdrawable x (List.mem_cons_of_mem effect hx))
      rw [hcanvas₂, hrefusals] at hnext
      simp only [Canvas.effects, Engine.device, hreport]
      rcases hrest : drawEffects e₂ geometry rest with ⟨drawn, e₃⟩
      rw [hrest] at hnext
      rcases hnext with ⟨rfl, hlost⟩ | ⟨r₃, heq, hidle₃, hsteps₃, hcanvas₃⟩
      · exact Or.inl ⟨rfl, hlost⟩
      · obtain ⟨rfl, rfl⟩ := Prod.mk.inj heq
        exact Or.inr ⟨r₃, rfl, hidle₃,
          (hsteps.trans (Renderer.steps_note r₁ _)).trans hsteps₃, hcanvas₃⟩

/-- Drawing a frame reports and shows what the reference does. -/
theorem drawFrame_spec (hidle : e.renderer.Idle) (hbacked : e.textures.BackedBy e.device)
    (geometry : Option Geometry) {thisFrame lastFrame : Texture}
    (hthis : e.textures.byName? Staging.thisFrame = some thisFrame)
    (hlast : e.textures.byName? Staging.lastFrame = some lastFrame)
    (hdrawable : ∀ x ∈ e.effects.toList.map (·.2), Drawable x) :
    Yields e (drawFrame e geometry)
      (e.renderer.canvas.frame e.device.refusals e.textures (.texture thisFrame.backing)
        (.texture lastFrame.backing) (e.effects.toList.map (·.2))).1
      (e.renderer.canvas.frame e.device.refusals e.textures (.texture thisFrame.backing)
        (.texture lastFrame.backing) (e.effects.toList.map (·.2))).2 := by
  have hfirst := snapshot_spec hidle hbacked hthis
  unfold drawFrame Canvas.frame
  rcases hsnap : snapshot e Staging.thisFrame with ⟨taken, e₁⟩
  rw [hsnap] at hfirst
  rcases hfirst with ⟨rfl, hlost⟩ | ⟨r₁, heq, hidle₁, hsteps₁, hcanvas₁⟩
  · exact Or.inl ⟨rfl, hlost⟩
  obtain ⟨rfl, rfl⟩ := Prod.mk.inj heq
  have hbacked₁ : e.textures.BackedBy r₁.device := hbacked.outlives hsteps₁.outlives
  have hrefusals : r₁.device.refusals = e.device.refusals := hsteps₁.refusals
  have hdrawn := drawEffects_spec (e := { e with renderer := r₁ }) hidle₁ hbacked₁ geometry
    hdrawable
  simp only [Engine.device, hcanvas₁] at hdrawn hrefusals
  rw [hrefusals] at hdrawn
  rcases hdraw : drawEffects { e with renderer := r₁ } geometry (e.effects.toList.map (·.2))
    with ⟨drawn, e₂⟩
  rw [hdraw] at hdrawn
  rcases hdrawn with ⟨rfl, hlost⟩ | ⟨r₂, heq, hidle₂, hsteps₂, hcanvas₂⟩
  · simp only [hdraw]
    exact Or.inl ⟨rfl, hlost⟩
  obtain ⟨rfl, rfl⟩ := Prod.mk.inj heq
  have hbacked₂ : e.textures.BackedBy r₂.device := hbacked₁.outlives hsteps₂.outlives
  have hsecond := snapshot_spec (e := { e with renderer := r₂ }) hidle₂ hbacked₂ hlast
  simp only [hdraw]
  rcases hsnap' : snapshot { e with renderer := r₂ } Staging.lastFrame with ⟨taken, e₃⟩
  rw [hsnap'] at hsecond
  rcases hsecond with ⟨rfl, hlost⟩ | ⟨r₃, heq, hidle₃, hsteps₃, hcanvas₃⟩
  · exact Or.inl ⟨rfl, hlost⟩
  obtain ⟨rfl, rfl⟩ := Prod.mk.inj heq
  refine Or.inr ⟨r₃, rfl, hidle₃, (hsteps₁.trans hsteps₂).trans hsteps₃, ?_⟩
  rw [hcanvas₃]
  simp only [hcanvas₂]
  rfl

end Session

end ShaderEffects
