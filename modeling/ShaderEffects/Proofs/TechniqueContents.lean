import ShaderEffects.Proofs.PassContents
import ShaderEffects.Proofs.RendererTurns

/-!
# What a technique leaves on a device without a screen

Drawing the passes of a technique and composing them on a headless device either
loses the device or leaves what the reference says, and reports what the reference
reports.
-/
namespace ShaderEffects

namespace HeadlessDevice

theorem checkSurface_scratch (d : HeadlessDevice) : d.checkSurface .scratch = .ok () := rfl

theorem checkSurface_backbuffer (d : HeadlessDevice) : d.checkSurface .backbuffer = .ok () := rfl

end HeadlessDevice

namespace TextureRegistry

/-- Every registered texture is one of the device. -/
def BackedBy (registry : TextureRegistry) (d : HeadlessDevice) : Prop :=
  ∀ handle texture, registry.get? handle = some texture → d.textures.contains texture.backing = true

theorem BackedBy.outlives {registry : TextureRegistry} {d d' : HeadlessDevice}
    (h : registry.BackedBy d) (ho : d.Outlives d') : registry.BackedBy d' :=
  fun handle texture ht => ho.textures _ (h handle texture ht)

/-- The device has the surface in which something ends. -/
theorem BackedBy.checkSurface {registry : TextureRegistry} {d : HeadlessDevice}
    (h : registry.BackedBy d) (binding : Option TargetBinding) :
    d.checkSurface (TargetBinding.surface registry binding) = .ok () := by
  unfold TargetBinding.surface
  cases hb : binding.bind fun b => registry.get? b.texture with
  | none => rfl
  | some texture =>
    obtain ⟨b, _, ht⟩ := Option.bind_eq_some_iff.mp hb
    simp [HeadlessDevice.checkSurface, h b.texture texture ht]

end TextureRegistry

/-- How far a technique is drawn after one more pass. -/
def Progress.after (textures : TextureRegistry) (progress : Progress) (pass : Pass) :
    Outcome → Progress
  | .error e =>
    { progress with
      report := { progress.report with bindErrors := progress.report.bindErrors ++ [e] } }
  | .ok _ =>
    ⟨{ progress.report with passesDrawn := progress.report.passesDrawn + 1 },
      some (TargetBinding.surface textures pass.target)⟩

/-- The last drawn pass, if there is one, shows its label where it ended. -/
def Progress.Shows (textures : TextureRegistry) (progress : Progress) (c : Canvas) :
    Option String → Prop
  | none => progress.result = none
  | some tag => ∃ target, progress.result = some (TargetBinding.surface textures target) ∧
      c.shown (TargetBinding.surface textures target) = some tag

/-- What was reported, and then what was reported after it. -/
def FrameReport.add (report later : FrameReport) : FrameReport :=
  { report with
    passesDrawn := report.passesDrawn + later.passesDrawn
    bindErrors := report.bindErrors ++ later.bindErrors }

theorem FrameReport.add_nil (report : FrameReport) :
    report.add (Canvas.reportOf []) = report := by
  simp [FrameReport.add, Canvas.reportOf]

theorem Progress.report_after (textures : TextureRegistry) (progress : Progress) (pass : Pass)
    (outcome : Outcome) (others : List Outcome) :
    (progress.after textures pass outcome).report.add (Canvas.reportOf others) =
      progress.report.add (Canvas.reportOf (outcome :: others)) := by
  cases outcome with
  | error e =>
    simp only [Progress.after, FrameReport.add, Canvas.reportOf, Canvas.errorOf?,
      Except.toOption, List.filterMap_cons, List.append_assoc, List.singleton_append]
  | ok tag =>
    simp only [Progress.after, FrameReport.add, Canvas.reportOf, Canvas.errorOf?,
      Except.toOption, List.filterMap_cons, List.length_cons, FrameReport.mk.injEq, and_true]
    omega

/-- After one more pass the last label is that of the pass, if it was drawn. -/
theorem Progress.Shows.after {textures : TextureRegistry} {progress : Progress} {c : Canvas}
    {tag? : Option String} (h : progress.Shows textures c tag?) (pass : Pass)
    (result : Outcome × Canvas) (hshown : result.2.shown = c.shown) :
    (progress.after textures pass result.1).Shows textures
      (result.2.drawn textures pass result.1) ((Except.toOption result.1).or tag?) := by
  rcases result with ⟨e | tag, c'⟩
  · have hshown' : c'.shown = c.shown := hshown
    cases tag? with
    | none => exact h
    | some tag =>
      obtain ⟨target, hresult, htarget⟩ := h
      exact ⟨target, hresult, by rw [← htarget, ← hshown']; rfl⟩
  · exact ⟨pass.target, rfl, by simp [Canvas.drawn, Canvas.put]⟩

namespace Renderer

open HeadlessDevice

variable {r : Renderer HeadlessDevice}

/-- The device was lost on the way. -/
def Lost {α : Type} (result : Except DeviceError α × Renderer HeadlessDevice) : Prop :=
  result.1 = .error .lost ∧ result.2.device.lost = true

/-- Either the device was lost, or nothing is bound, and the result and the surfaces are
what they should be. -/
def Yields {α : Type} (result : Except DeviceError α × Renderer HeadlessDevice) (value : α)
    (canvas : Canvas) : Prop :=
  Lost result ∨ (result.1 = .ok value ∧ result.2.Idle ∧ result.2.canvas = canvas)

/-! ## Surfaces -/

/-- The renderer with other labels on the surfaces of its device. -/
def repainted (r : Renderer HeadlessDevice) (contents : Table Surface String)
    (left : Option Nat) (calls : List HeadlessCall) : Renderer HeadlessDevice :=
  { r with device := { r.device with contents, drawsLeft := left, calls } }

theorem Idle.repainted (h : r.Idle) (contents : Table Surface String) (left : Option Nat)
    (calls : List HeadlessCall) : (r.repainted contents left calls).Idle :=
  ⟨h.lost, h.bound, h.free, h.stocked⟩

theorem Holds.repainted {tag : String} (h : r.Holds tag) (contents : Table Surface String)
    (left : Option Nat) (calls : List HeadlessCall) :
    (r.repainted contents left calls).Holds tag :=
  ⟨h.lost, h.stocked, h.tag, h.bound⟩

theorem canvas_repainted_insert (r : Renderer HeadlessDevice) (surface : Surface)
    (content : String) (left : Option Nat) (calls : List HeadlessCall) :
    (r.repainted (r.device.contents.insert surface content) left calls).canvas =
      r.canvas.put surface (some content) := by
  rw [Canvas.put, Canvas.mk.injEq]
  refine ⟨?_, rfl⟩
  funext other
  rw [Function.update_apply]
  exact Table.get?_insert _ _ _ _

theorem canvas_repainted_copied (r : Renderer HeadlessDevice) (source destination : Surface)
    (left : Option Nat) (calls : List HeadlessCall) :
    (r.repainted (copiedContents r.device.contents source destination) left calls).canvas =
      r.canvas.put destination (r.canvas.shown source) := by
  have hsource : r.canvas.shown source = r.device.contents.get? source := rfl
  rw [Canvas.put, Canvas.mk.injEq, hsource]
  refine ⟨?_, rfl⟩
  funext other
  rw [Function.update_apply]
  unfold copiedContents
  cases r.device.contents.get? source with
  | some content => exact Table.get?_insert _ _ _ _
  | none => exact Table.get?_erase _ _ _

/-- Between the passes of a technique the device draws into the scratch surface. -/
structure Painting (r : Renderer HeadlessDevice) : Prop where
  idle : r.Idle
  target : r.device.renderTarget = .scratch

/-- Copying between surfaces that the device has. -/
theorem Painting.copy_eq (hr : r.Painting) {source destination : Surface}
    (hsource : r.device.checkSurface source = .ok ())
    (hdestination : r.device.checkSurface destination = .ok ()) :
    ∃ r', r.copy source destination = (.ok true, r') ∧ r'.Painting ∧
      r'.canvas = r.canvas.put destination (r.canvas.shown source) := by
  refine ⟨r.repainted (copiedContents r.device.contents source destination)
    r.device.drawsLeft (r.device.calls ++ [.copy source destination]), ?_,
    ⟨hr.idle.repainted _ _ _, hr.target⟩, canvas_repainted_copied r source destination _ _⟩
  unfold copy
  simp only [device_copy, HeadlessDevice.copy, alive_eq_ok hr.idle.lost, hsource, hdestination]
  rfl

/-- A draw either loses the device or leaves the label of what is bound. -/
theorem drawBound_spec (hlost : r.device.lost = false) (geometry : Option Geometry) :
    Lost (r.drawBound geometry) ∨ ∃ left calls, r.drawBound geometry =
      (.ok (), r.repainted (r.device.contents.insert r.device.renderTarget r.device.drawTag)
        left calls) := by
  have halive : HeadlessDevice.alive { r.device with state := RenderState.effect } = .ok () :=
    alive_eq_ok hlost
  unfold drawBound
  simp only [device_capture, device_enterEffectState, device_draw, device_restore,
    HeadlessDevice.draw, halive, countDraw]
  rcases hleft : r.device.drawsLeft with _ | _ | n
  · exact Or.inr ⟨_, _, rfl⟩
  · exact Or.inl ⟨rfl, rfl⟩
  · exact Or.inr ⟨_, _, rfl⟩

/-- Freeing a pass leaves nothing bound and every surface as it is. -/
theorem Holds.unbindPass {tag : String} (h : r.Holds tag) :
    r.unbindPass.Idle ∧ r.unbindPass.canvas = r.canvas ∧
      r.unbindPass.device.renderTarget = r.device.renderTarget := by
  obtain ⟨pass, hbound, hstages⟩ := h.bound
  obtain ⟨stages, calls, heq, hfree⟩ := unbindAll_eq r.device pass.programs
  have hunbind : r.unbindPass = { r.rebound stages calls with bound := none } := by
    unfold Renderer.unbindPass rebound
    simp only [hbound, heq]
  rw [hunbind]
  refine ⟨⟨h.lost, rfl, fun stage => ?_, h.stocked⟩, rfl, rfl⟩
  change stages.get? stage = none
  rw [hfree]
  split_ifs with hmem
  · rfl
  · exact not_not.mp fun hne => hmem (hstages stage hne)

/-! ## Passes -/

theorem drawPass_spec (hr : r.Painting) {scene : Scene} (hbacked : scene.textures.BackedBy r.device)
    (effect : Effect) (geometry : Option Geometry) (progress : Progress) {pass : Pass}
    (hstages : (pass.programs.map (·.stage)).Nodup) :
    Lost (r.drawPass scene effect geometry progress pass) ∨
      ∃ r', r.drawPass scene effect geometry progress pass =
          (.ok (progress.after scene.textures pass (r.canvas.outcome r.device.refusals pass).1), r') ∧
        r'.Painting ∧
        r'.canvas = (r.canvas.outcome r.device.refusals pass).2.drawn scene.textures pass
          (r.canvas.outcome r.device.refusals pass).1 := by
  obtain ⟨r₁, hr₁, htarget₁, hcanvas₁, hcase⟩ := bindPass_spec hr.idle scene effect hstages
  have hbacked₁ : scene.textures.BackedBy r₁.device := by
    have hsteps := bindPass_steps r scene effect pass
    rw [hr₁] at hsteps
    exact hbacked.outlives hsteps.outlives
  unfold drawPass
  rw [← hcanvas₁]
  cases ho : (r.canvas.outcome r.device.refusals pass).1 with
  | error e =>
    rw [ho] at hcase
    obtain ⟨hbind, hidle⟩ := hcase
    have hpair : r.bindPass scene effect pass = (.error e, r₁) := Prod.ext hbind hr₁
    simp only [hpair, device_isLost, hidle.lost]
    refine Or.inr ⟨_, rfl, ⟨?_, htarget₁.trans hr.target⟩, rfl⟩
    exact ⟨hidle.lost, hidle.bound, hidle.free, hidle.stocked⟩
  | ok tag =>
    rw [ho] at hcase
    obtain ⟨hbind, hholds⟩ := hcase
    have hpair : r.bindPass scene effect pass = (.ok (), r₁) := Prod.ext hbind hr₁
    simp only [hpair]
    rcases drawBound_spec hholds.lost geometry with hlost | ⟨left, calls, hdraw⟩
    · rcases hdraw : r₁.drawBound geometry with ⟨drawn, r₂⟩
      rw [hdraw] at hlost
      obtain ⟨rfl, hlost₂⟩ := hlost
      have hlost₃ : r₂.unbindPass.device.lost = true := (unbindPass_steps r₂).outlives.lost hlost₂
      exact Or.inl ⟨by simp, by simp [hlost₃]⟩
    · have hholds₂ := hholds.repainted
        (r₁.device.contents.insert r₁.device.renderTarget r₁.device.drawTag) left calls
      obtain ⟨hidle, hcanvas₃, htarget₃⟩ := hholds₂.unbindPass
      have hput : (r₁.repainted (r₁.device.contents.insert r₁.device.renderTarget
          r₁.device.drawTag) left calls).canvas = r₁.canvas.put .scratch (some tag) := by
        rw [canvas_repainted_insert, hholds.tag, htarget₁, hr.target]
      have hbacked₃ := hbacked₁.outlives
        ((drawBound_steps r₁ geometry).of_quiet.trans (unbindPass_steps _).draw).outlives
      rw [hdraw] at hbacked₃
      have hpainting := Painting.mk hidle (htarget₃.trans (htarget₁.trans hr.target))
      obtain ⟨r₄, hcopy, hr₄, hcanvas₄⟩ := hpainting.copy_eq (checkSurface_scratch _)
        (hbacked₃.checkSurface pass.target)
      simp only [hdraw, hcopy]
      refine Or.inr ⟨r₄, rfl, hr₄, ?_⟩
      rw [hcanvas₄, hcanvas₃, hput]
      simp [Canvas.drawn, Canvas.put]

theorem drawPasses_spec (hr : r.Painting) {scene : Scene}
    (hbacked : scene.textures.BackedBy r.device) (effect : Effect) (geometry : Option Geometry)
    {progress : Progress} {tag? : Option String}
    (htag : progress.Shows scene.textures r.canvas tag?)
    {passes : List Pass}
    (hstages : ∀ pass ∈ passes, pass.valid = true → (pass.programs.map (·.stage)).Nodup) :
    Lost (r.drawPasses scene effect geometry progress passes) ∨
      ∃ progress' r', r.drawPasses scene effect geometry progress passes = (.ok progress', r') ∧
        r'.Painting ∧
        r'.canvas = (r.canvas.outcomes r.device.refusals scene.textures
          (passes.filter (·.valid))).2 ∧
        progress'.report = progress.report.add (Canvas.reportOf (r.canvas.outcomes
          r.device.refusals scene.textures (passes.filter (·.valid))).1) ∧
        progress'.Shows scene.textures r'.canvas ((Canvas.lastTag (r.canvas.outcomes r.device.refusals
          scene.textures (passes.filter (·.valid))).1).or tag?) := by
  induction passes generalizing r progress tag? with
  | nil => exact Or.inr ⟨progress, r, rfl, hr, rfl, (FrameReport.add_nil _).symm, htag⟩
  | cons pass rest ih =>
    have hrest : ∀ p ∈ rest, p.valid = true → (p.programs.map (·.stage)).Nodup :=
      fun p hp => hstages p (List.mem_cons_of_mem pass hp)
    rw [drawPasses]
    cases hvalid : pass.valid with
    | false =>
      simp only [Bool.false_eq_true, if_false, List.filter_cons, hvalid]
      have hnoted : (r.note [.passNotDrawn pass.name]).Painting :=
        ⟨⟨hr.idle.lost, hr.idle.bound, hr.idle.free, hr.idle.stocked⟩, hr.target⟩
      exact ih hnoted hbacked htag hrest
    | true =>
      have hnodup := hstages pass List.mem_cons_self hvalid
      simp only [if_true, List.filter_cons, hvalid]
      rcases drawPass_spec hr hbacked effect geometry progress hnodup with
        hlost | ⟨r₁, hdraw, hr₁, hcanvas₁⟩
      · rcases hdraw : r.drawPass scene effect geometry progress pass with ⟨drawn, r₁⟩
        rw [hdraw] at hlost
        obtain ⟨rfl, hlost₁⟩ := hlost
        exact Or.inl ⟨rfl, hlost₁⟩
      · have hsteps := drawPass_steps r scene effect geometry progress pass
        rw [hdraw] at hsteps
        have htag₁ := htag.after pass (r.canvas.outcome r.device.refusals pass)
          (Canvas.outcome_shown _ _ _)
        rw [← hcanvas₁] at htag₁
        have hnext := ih hr₁ (hbacked.outlives hsteps.outlives) htag₁ hrest
        rw [hsteps.refusals, hcanvas₁] at hnext
        simp only [hdraw, Canvas.outcomes]
        rcases hnext with hlost | ⟨progress', r', heq, hr', hcanvas', hreport', htag'⟩
        · exact Or.inl hlost
        · refine Or.inr ⟨progress', r', heq, hr', hcanvas', ?_, ?_⟩
          · rw [hreport']
            exact Progress.report_after _ _ _ _ _
          · rw [Canvas.lastTag_cons]
            exact htag'

/-! ## Techniques -/

/-- Copying the result of the last pass leaves its label where the technique ends, also
if it is there already. -/
theorem copyResult_spec (hr : r.Painting) {textures : TextureRegistry}
    (hbacked : textures.BackedBy r.device) (result destination : Option TargetBinding) :
    ∃ r', r.copyResult (TargetBinding.surface textures result)
          (TargetBinding.surface textures destination) = (.ok (), r') ∧ r'.Painting ∧
      r'.canvas = r.canvas.put (TargetBinding.surface textures destination)
        (r.canvas.shown (TargetBinding.surface textures result)) := by
  unfold copyResult
  split_ifs with hsame
  · refine ⟨r, rfl, hr, ?_⟩
    rw [hsame, Canvas.put_shown]
  · obtain ⟨r', hcopy, hr', hcanvas⟩ :=
      hr.copy_eq (hbacked.checkSurface result) (hbacked.checkSurface destination)
    exact ⟨r', by rw [hcopy], hr', hcanvas⟩

/-- A technique without a target of its own is shown on the backbuffer. -/
theorem present_spec (hr : r.Painting) {textures : TextureRegistry}
    (hbacked : textures.BackedBy r.device) (binding : Option TargetBinding) :
    ∃ r', r.present binding (TargetBinding.surface textures binding) = (.ok (), r') ∧
      r'.Painting ∧
      r'.canvas =
        if binding.any fun b => !b.explicit then
          r.canvas.put .backbuffer (r.canvas.shown (TargetBinding.surface textures binding))
        else r.canvas := by
  unfold present
  by_cases hdefault : (binding.any fun b => !b.explicit) = true
  · by_cases hback : TargetBinding.surface textures binding = .backbuffer
    · refine ⟨r, by simp [hback], hr, ?_⟩
      rw [if_pos hdefault, hback, Canvas.put_shown]
    · obtain ⟨r', hcopy, hr', hcanvas⟩ :=
        hr.copy_eq (hbacked.checkSurface binding) (checkSurface_backbuffer _)
      refine ⟨r', by simp [hdefault, hback, hcopy], hr', ?_⟩
      rw [if_pos hdefault, hcanvas]
  · exact ⟨r, by simp [hdefault], hr, by rw [if_neg hdefault]⟩

/-- Composing shows the label of the last drawn pass where the reference does. -/
theorem compose_spec (hr : r.Painting) {scene : Scene} (hbacked : scene.textures.BackedBy r.device)
    (technique : Technique) {progress : Progress} {tag? : Option String}
    (htag : progress.Shows scene.textures r.canvas tag?) :
    ∃ r', r.compose scene technique progress.result = (.ok (), r') ∧ r'.Painting ∧
      r'.canvas = tag?.elim r.canvas (r.canvas.compose scene.textures technique) := by
  cases tag? with
  | none =>
    have hresult : progress.result = none := htag
    exact ⟨r, by rw [hresult]; rfl, hr, rfl⟩
  | some tag =>
    obtain ⟨target, hresult, hshown⟩ := htag
    obtain ⟨r₁, hcopy, hr₁, hcanvas₁⟩ := copyResult_spec hr hbacked target technique.target
    have hturns : r.Turns (fun _ => True) True (r.copyResult
        (TargetBinding.surface scene.textures target)
        (TargetBinding.surface scene.textures technique.target)).2 := copyResult_turns r _ _
    have hsteps := hturns.steps
    rw [hcopy] at hsteps
    rw [hshown] at hcanvas₁
    obtain ⟨r₂, hpresent, hr₂, hcanvas₂⟩ :=
      present_spec hr₁ (hbacked.outlives hsteps.outlives) technique.target
    refine ⟨r₂, ?_, hr₂, ?_⟩
    · rw [hresult]
      simp only [compose, hcopy, hpresent]
    · rw [hcanvas₂, hcanvas₁]
      simp only [Option.elim_some, Canvas.compose]
      split_ifs <;> simp [Canvas.put]

/-- The renderer that draws into another surface. -/
def aimedAt (r : Renderer HeadlessDevice) (surface : Surface) : Renderer HeadlessDevice :=
  { r with device := { r.device with renderTarget := surface }.record (.target surface) }

theorem Idle.aimedAt (hr : r.Idle) (surface : Surface) : (r.aimedAt surface).Idle :=
  ⟨hr.lost, hr.bound, hr.free, hr.stocked⟩

theorem aimedAt_canvas (r : Renderer HeadlessDevice) (surface : Surface) :
    (r.aimedAt surface).canvas = r.canvas := rfl

theorem aimedAt_refusals (r : Renderer HeadlessDevice) (surface : Surface) :
    (r.aimedAt surface).device.refusals = r.device.refusals := rfl

theorem setTarget_eq (hlost : r.device.lost = false) {surface : Surface}
    (hsurface : r.device.checkSurface surface = .ok ()) :
    Device.setTarget r.device surface = (.ok (), (r.aimedAt surface).device) := by
  simp only [device_setTarget, HeadlessDevice.setTarget, alive_eq_ok hlost, hsurface]
  rfl

theorem runTechnique_spec (hr : r.Idle) {scene : Scene} (hbacked : scene.textures.BackedBy r.device)
    (effect : Effect) {technique : Technique} (geometry : Option Geometry)
    (hstages : ∀ pass ∈ technique.passes, pass.valid = true →
      (pass.programs.map (·.stage)).Nodup) :
    Yields (r.runTechnique scene effect technique geometry)
      (r.canvas.technique r.device.refusals scene.textures technique).1
      (r.canvas.technique r.device.refusals scene.textures technique).2 := by
  have hpainting : (r.aimedAt .scratch).Painting := ⟨hr.aimedAt .scratch, rfl⟩
  have hshows : ({} : Progress).Shows scene.textures (r.aimedAt .scratch).canvas none := rfl
  have hdrawn := drawPasses_spec hpainting hbacked effect geometry hshows hstages
  rw [aimedAt_refusals, aimedAt_canvas] at hdrawn
  have haimed : { r with device := (r.aimedAt .scratch).device } = r.aimedAt .scratch := rfl
  have hsteps := drawPasses_steps (r.aimedAt .scratch) scene effect geometry {} technique.passes
  unfold runTechnique
  simp only [setTarget_eq hr.lost (checkSurface_scratch r.device), haimed]
  rcases hdrawn with hlost | ⟨progress, r₁, hdraw, hr₁, hcanvas₁, hreport, htag⟩
  · rcases hdraw : (r.aimedAt .scratch).drawPasses scene effect geometry {} technique.passes
      with ⟨drawn, r₁⟩
    rw [hdraw] at hlost
    obtain ⟨rfl, hlost₁⟩ := hlost
    exact Or.inl ⟨rfl, hlost₁⟩
  · rw [hdraw] at hsteps
    have hbacked₀ : scene.textures.BackedBy (r.aimedAt .scratch).device := hbacked
    obtain ⟨r₂, hcompose, hr₂, hcanvas₂⟩ :=
      compose_spec hr₁ (hbacked₀.outlives hsteps.outlives) technique htag
    simp only [hdraw, hcompose]
    refine Or.inr ⟨?_, hr₂.idle, ?_⟩
    · rw [hreport, Canvas.technique_fst]
      simp only [FrameReport.add, Canvas.reportOf, Nat.zero_add, List.nil_append]
    · rw [hcanvas₂, hcanvas₁, Option.or_none, Canvas.technique_snd]

/-- Putting the target of the device back changes nothing that is shown. -/
theorem Idle.restoreTarget (hr : r.Idle) (target : Surface) :
    (r.restoreTarget target).Idle ∧ (r.restoreTarget target).canvas = r.canvas := by
  unfold Renderer.restoreTarget
  simp only [device_setTarget, HeadlessDevice.setTarget, alive_eq_ok hr.lost]
  cases r.device.checkSurface target with
  | error e => exact ⟨⟨hr.lost, hr.bound, hr.free, hr.stocked⟩, rfl⟩
  | ok _ => exact ⟨⟨hr.lost, hr.bound, hr.free, hr.stocked⟩, rfl⟩

theorem Idle.fitQuad (hr : r.Idle) :
    r.fitQuad.Idle ∧ r.fitQuad.canvas = r.canvas ∧ r.fitQuad.device = r.device := by
  unfold Renderer.fitQuad
  simp only
  split_ifs
  · exact ⟨hr, rfl, rfl⟩
  · exact ⟨⟨hr.lost, hr.bound, hr.free, hr.stocked⟩, rfl, rfl⟩

theorem drawTechnique_spec (hr : r.Idle) {scene : Scene}
    (hbacked : scene.textures.BackedBy r.device) (effect : Effect) {technique : Technique}
    (geometry : Option Geometry) (hvalid : technique.isValid = true)
    (hstages : ∀ pass ∈ technique.passes, pass.valid = true →
      (pass.programs.map (·.stage)).Nodup) :
    Yields (r.drawTechnique scene effect technique geometry)
      (r.canvas.technique r.device.refusals scene.textures technique).1
      (r.canvas.technique r.device.refusals scene.textures technique).2 := by
  obtain ⟨hr₁, hcanvas₁, hdevice₁⟩ := hr.fitQuad
  rw [← hdevice₁] at hbacked
  have hrun := runTechnique_spec hr₁ hbacked effect geometry hstages
  rw [hcanvas₁, hdevice₁] at hrun
  unfold drawTechnique
  simp only [hvalid, Bool.not_true, Bool.false_eq_true, if_false, device_isLost, hr.lost]
  rcases hresult : r.fitQuad.runTechnique scene effect technique geometry with ⟨result, r₂⟩
  rw [hresult] at hrun
  rcases hrun with ⟨rfl, hlost₂⟩ | ⟨rfl, hr₂, hcanvas₂⟩
  · have hrestore : r₂.Turns (fun _ => True) True
        (r₂.restoreTarget (Device.target r.fitQuad.device)) := restoreTarget_turns r₂ _
    have hlost₃ := hrestore.steps.outlives.lost hlost₂
    exact Or.inl ⟨rfl, hlost₃⟩
  · obtain ⟨hr₃, hcanvas₃⟩ := hr₂.restoreTarget (Device.target r.fitQuad.device)
    exact Or.inr ⟨rfl, hr₃, hcanvas₃.trans hcanvas₂⟩

/-- Drawing an effect reports and shows what the reference does. -/
theorem drawEffect_spec (hr : r.Idle) {scene : Scene}
    (hbacked : scene.textures.BackedBy r.device) {effect : Effect} (geometry : Option Geometry)
    (hvalid : ∀ technique, effect.default? = some technique → technique.isValid = true)
    (hstages : ∀ technique, effect.default? = some technique → ∀ pass ∈ technique.passes,
      pass.valid = true → (pass.programs.map (·.stage)).Nodup) :
    Yields (r.drawEffect scene effect geometry)
      (r.canvas.effect r.device.refusals scene.textures effect).1
      (r.canvas.effect r.device.refusals scene.textures effect).2 := by
  unfold drawEffect Canvas.effect
  cases hdefault : effect.default? with
  | none => exact Or.inr ⟨rfl, ⟨hr.lost, hr.bound, hr.free, hr.stocked⟩, rfl⟩
  | some technique =>
    exact drawTechnique_spec hr hbacked effect geometry (hvalid technique hdefault)
      (hstages technique hdefault)

end Renderer

end ShaderEffects
