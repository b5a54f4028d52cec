import ShaderEffects.Proofs.CachedPrograms
import ShaderEffects.Proofs.SampledRuns

/-!
# Frames in which everything is drawn

Linking tries out the programs of a pass and says whether the pass is valid. Later the programs
are loaded and bound, the pass is drawn, and what was drawn is copied from surface to surface;
each of these steps looks up what an earlier one left. On a graphics device that accepts what
it is asked for and is not lost, none of them fails for a valid pass: a frame draws each valid
pass of each effect, and notes no error.
-/
namespace ShaderEffects

open Gpu

/-! ## Calls that succeed -/

namespace GpuDevice

variable {g g' : GpuDevice} {kind : MoveKind} {kinds : MoveKind → Prop} {surface : Surface}

/-- The device has an image for a surface. -/
def Has (g : GpuDevice) (surface : Surface) : Prop := ∃ image, g.image surface = .ok image

theorem has_backbuffer (g : GpuDevice) : g.Has .backbuffer := ⟨_, rfl⟩

theorem has_scratch (g : GpuDevice) : g.Has .scratch := ⟨_, rfl⟩

theorem has_texture {id : TextureId} : g.Has (.texture id) ↔ g.textures.contains id = true := by
  cases htexture : g.textures.get? id <;> simp [Has, GpuDevice.image, Table.contains, htexture]

/-- The device is not lost, and has the surface into which it draws. -/
structure Able (g : GpuDevice) : Prop where
  alive : g.lost = false
  aimed : g.Has g.renderTarget

theorem able_ofSize (context : GpuContext) (width height : Nat) :
    (ofSize context width height).Able := ⟨rfl, _, rfl⟩

/-- A move takes no surface away. -/
theorem Move.has (h : g.Move kind g') (hs : g.Has surface) : g'.Has surface := by
  cases h with
  | ask | makeModule | makeLayout | makePipeline | makeBlit | load | bind | unbind | write
  | sample | aim | draw | copy | configure | present | lose => exact hs
  | upload id =>
    obtain ⟨image, himage⟩ := hs
    exact ⟨image, ((backstage_upload g id).image surface).trans himage⟩
  | keep image =>
    cases surface with
    | backbuffer | scratch => exact ⟨_, rfl⟩
    | texture id =>
      rw [has_texture] at hs ⊢
      simp only [GpuDevice.keep, Table.contains, Table.get?_insert]
      split_ifs
      · rfl
      · exact hs
  | resize =>
    cases surface with
    | backbuffer | scratch => exact ⟨_, rfl⟩
    | texture id => exact hs

/-- After a move there still is a surface to draw into. -/
theorem Move.aimed (h : g.Move kind g') (hg : g.Has g.renderTarget) : g'.Has g'.renderTarget := by
  have haimed : g'.Has g.renderTarget := h.has hg
  cases h with
  | aim himage => exact ⟨_, himage⟩
  | upload id => exact (backstage_upload g id).target ▸ haimed
  | ask | makeModule | makeLayout | makePipeline | makeBlit | keep | load | bind | unbind | write
  | sample | draw | copy | resize | configure | present | lose => exact haimed

theorem MovesBy.aimed (h : g.MovesBy kinds g') (hg : g.Has g.renderTarget) :
    g'.Has g'.renderTarget :=
  h.preserve (P := fun g' => g'.Has g'.renderTarget) (fun _ _ _ _ hmove => hmove.aimed) hg

theorem perform_able (hg : g.Able) (c : DeviceCall GpuDevice) : (c.perform g).Able := by
  have hmoves := perform_moves g c
  exact ⟨(hmoves.lost c.moveKind_ne_host).trans hg.alive, hmoves.aimed hg.aimed⟩

theorem setTarget_ok (hg : g.Able) (hs : g.Has surface) :
    g.setTarget surface = (.ok (), { g with renderTarget := surface }) := by
  obtain ⟨image, himage⟩ := hs
  simp [setTarget, alive, hg.alive, himage]

theorem copy_ok (hg : g.Able) {source destination : Surface} (hsource : g.Has source)
    (hdestination : g.Has destination) : (g.copy source destination).1 = .ok () := by
  obtain ⟨image, himage⟩ := hsource
  obtain ⟨image', himage'⟩ := hdestination
  unfold copy
  simp only [alive, hg.alive, Bool.false_eq_true, if_false, himage, himage']
  split_ifs <;> rfl

/-- A draw succeeds if the two bound programs are loaded. -/
theorem draw_of_bound (hg : g.Able) {vertex fragment : ProgramId} {plate plate' : String × Stage}
    (hvertex : g.bound.get? .vertex = some vertex)
    (hfragment : g.bound.get? .fragment = some fragment)
    (hvplate : g.plate? vertex = some plate) (hfplate : g.plate? fragment = some plate')
    (geometry : Geometry) : (g.draw geometry).1 = .ok () := by
  unfold draw
  simp only [alive, hg.alive, Bool.false_eq_true, if_false, hvertex, hfragment]
  split_ifs
  · rfl
  · obtain ⟨image, himage⟩ := hg.aimed
    obtain ⟨g₁, request, heq, -, -⟩ :=
      g.drawWith_stroke himage (by rw [hvplate]; rfl) hfplate geometry
    rw [heq]

end GpuDevice

@[simp] theorem GpuDevice.lost_configure (g : GpuDevice) (width height : Nat) :
    (g.configure width height).lost = g.lost := by
  unfold configure
  split_ifs
  · rfl
  · cases g.context.window <;> rfl

/-- A call of the host does not lose the device. -/
theorem GpuAct.lost_perform {a : GpuAct} (ha : a ≠ .lose) (g : GpuDevice) :
    (a.perform g).lost = g.lost := by
  cases a with
  | lose => exact absurd rfl ha
  | clearBackbuffer => rfl
  | resize width height =>
    simp only [perform, GpuDevice.resize]
    split_ifs
    · rfl
    · exact g.lost_configure width height
  | present answer =>
    simp only [perform, GpuDevice.present]
    cases g.context.window with
    | none => rfl
    | some window =>
      cases answer with
      | lost | outdated => exact g.lost_configure window.width window.height
      | timeout | failed => rfl
      | frame =>
        simp only [GpuDevice.blitPipelineFor]
        cases g.blitPipelines.get? window.format <;> rfl

theorem GpuAct.able {a : GpuAct} (ha : a ≠ .lose) {g : GpuDevice} (hg : g.Able) :
    (a.perform g).Able :=
  ⟨(lost_perform ha g).trans hg.alive, (a.moves g).aimed hg.aimed⟩

/-! ## Renderers that note no error -/

/-- Notices came to a journal, none of them an error. -/
abbrev Calm (before after : List Notice) : Prop := Appends (fun n => n.level ≠ .error) before after

/-- How far a technique is drawn after one more pass. -/
def Progress.further (progress : Progress) (result : Surface) : Progress :=
  ⟨{ progress.report with passesDrawn := progress.report.passesDrawn + 1 }, some result⟩

namespace Renderer

section journals

variable {D : Type} [Device D] {r r' : Renderer D}

/-- What a renderer did without noting an error. -/
structure Untroubled (r r' : Renderer D) : Prop where
  steps : r.Steps r'
  journal : Calm r.journal r'.journal

theorem Untroubled.of_journal (hsteps : r.Steps r') (h : r'.journal = r.journal) :
    r.Untroubled r' := ⟨hsteps, by rw [h]; exact .refl r.journal⟩

theorem Untroubled.refl (r : Renderer D) : r.Untroubled r := .of_journal (.refl r) rfl

theorem Untroubled.trans {r₁ r₂ r₃ : Renderer D} (h₁ : r₁.Untroubled r₂)
    (h₂ : r₂.Untroubled r₃) : r₁.Untroubled r₃ :=
  ⟨h₁.steps.trans h₂.steps, h₁.journal.trans h₂.journal⟩

theorem note_untroubled (r : Renderer D) {notice : Notice} (h : notice.level ≠ .error) :
    r.Untroubled (r.note [notice]) := ⟨steps_note r [notice], appends_concat r.journal h⟩

/-- Something succeeded with a value, and no error was noted. -/
def Succeeds {ε α : Type} (r : Renderer D) (result : Except ε α × Renderer D) (value : α) : Prop :=
  ∃ r', result = (.ok value, r') ∧ r.Untroubled r'

@[simp] theorem unbindPass_journal (r : Renderer D) : r.unbindPass.journal = r.journal := by
  unfold unbindPass
  cases r.bound <;> rfl

theorem unbindPass_untroubled (r : Renderer D) : r.Untroubled r.unbindPass :=
  .of_journal (unbindPass_steps r).draw (unbindPass_journal r)

/-- Whether or not they can be loaded, loading programs notes no error. -/
theorem loadPrograms_untroubled (r : Renderer D) (programs : List Program) :
    r.Untroubled (r.loadPrograms programs).2 := by
  refine ⟨(loadPrograms_steps r programs).draw, ?_⟩
  induction programs generalizing r with
  | nil => exact .refl r.journal
  | cons p rest ih =>
    rw [loadPrograms]
    split_ifs
    · exact ih r
    · rcases Device.loadProgram r.device p with ⟨cause | id, device⟩
      · exact .refl r.journal
      · have hnoted : Calm r.journal (r.journal ++ [.programLoaded p.label id]) :=
          appends_concat r.journal (by simp [Notice.level])
        exact hnoted.trans (ih (({ r with
          device, loaded := r.loaded.insert p.key id } : Renderer D).note
            [.programLoaded p.label id]))

theorem bindPrograms_journal (r : Renderer D) (done : List BoundProgram)
    (programs : List Program) : (r.bindPrograms done programs).2.journal = r.journal := by
  induction programs generalizing r done with
  | nil => rfl
  | cons p rest ih =>
    have hbind : (r.bindProgram p).2.journal = r.journal := by
      unfold bindProgram
      cases r.loaded.get? p.key with
      | none => rfl
      | some id => rcases hb : Device.bind r.device p.stage id with ⟨_ | _, device⟩ <;> simp [hb]
    rw [bindPrograms]
    rcases hb : r.bindProgram p with ⟨cause | id, r₁⟩ <;> rw [hb] at hbind
    · exact hbind
    · exact (ih r₁ _).trans hbind

theorem bindPass_untroubled (r : Renderer D) (scene : Scene) (effect : Effect) (pass : Pass) :
    r.Untroubled (r.bindPass scene effect pass).2 := by
  have hload := (unbindPass_untroubled r).trans
    (loadPrograms_untroubled r.unbindPass pass.programs)
  refine ⟨(bindPass_steps r scene effect pass).draw, ?_⟩
  unfold bindPass loadPass
  rcases hl : r.unbindPass.loadPrograms pass.programs with ⟨e | _, r₁⟩ <;> rw [hl] at hload
  · exact hload.journal
  · have hbind := bindPrograms_journal r₁ [] pass.programs
    rcases hb : r₁.bindPrograms [] pass.programs with ⟨e | programs, r₂⟩ <;> rw [hb] at hbind <;>
      simp only [hb] at hbind ⊢
    · rw [hbind]
      exact hload.journal
    · rw [foldl_applyParameter_device]
      simp only [hbind]
      exact hload.journal

end journals

variable {r r' : Renderer GpuDevice} {textures : TextureRegistry} {scene : Scene}
  {effect : Effect} {geometry : Option Geometry}

/-- A renderer that can draw: its device is able to, and has the programs that were noted and
the registered textures. -/
structure Equipped (r : Renderer GpuDevice) (textures : TextureRegistry) : Prop where
  able : r.device.Able
  stocks : r.Stocks
  stored : textures.StoredOn r.device

theorem StepsBy.equipped {calls : DeviceCall GpuDevice → Bool} {hands : Prop}
    (h : r.StepsBy calls hands r') (hr : r.Equipped textures) : r'.Equipped textures where
  able := h.device_keep (P := GpuDevice.Able)
    (fun _ c _ hd => GpuDevice.perform_able hd c) hr.able
  stocks := h.stocks hr.stocks
  stored := h.storedOn hr.stored

theorem Untroubled.equipped (h : r.Untroubled r') (hr : r.Equipped textures) :
    r'.Equipped textures := h.steps.equipped hr

/-- The device has every surface in which a pass or a technique may end. -/
theorem Equipped.has (hr : r.Equipped textures) (binding : Option TargetBinding) :
    r.device.Has (TargetBinding.surface textures binding) := by
  unfold TargetBinding.surface
  cases hb : binding.bind fun b => textures.get? b.texture with
  | none => exact ⟨_, rfl⟩
  | some texture =>
    obtain ⟨b, _, ht⟩ := Option.bind_eq_some_iff.mp hb
    exact GpuDevice.has_texture.mpr (hr.stored b.texture texture ht)

/-! ## Passes -/

/-- Every pass can be bound. -/
theorem Equipped.bindPass (hr : r.Equipped textures) (scene : Scene) (effect : Effect)
    (pass : Pass) : r.Succeeds (r.bindPass scene effect pass) () := by
  have hbound := bindPass_untroubled r scene effect pass
  rcases hb : r.bindPass scene effect pass with ⟨e | _, r₁⟩ <;> rw [hb] at hbound
  · -- only a lost device refuses a program, and this one is not
    obtain ⟨-, hlost⟩ | ⟨-, message, hsaid, -⟩ := bindPass_refused hr.stocks hb
    swap
    · exact hsaid.elim
    exact absurd hlost (Bool.eq_false_iff.mp (hbound.equipped hr).able.alive)
  · exact ⟨r₁, rfl, hbound⟩

/-- A bound pass with a vertex and a fragment program can be drawn. -/
theorem Equipped.drawBound (hr : r.Equipped textures) {pass : Pass}
    (haccepted : Accepted GpuDevice pass.programs)
    (hbind : r.bindPass scene effect pass = (.ok (), r')) (geometry : Option Geometry) :
    r'.Succeeds (r'.drawBound geometry) () := by
  have hr' : r'.Equipped textures := by
    have hbound := bindPass_untroubled r scene effect pass
    rw [hbind] at hbound
    exact hbound.equipped hr
  obtain ⟨r₁, bound, hsteps₁, -, hall, -, rfl⟩ :=
    bindPass_ready (Graphics.fits_of_accepted haccepted).1 hbind
  have hready : ∀ p ∈ pass.programs, ∃ id plate,
      (effect.parameterIds.foldl (fun r id => r.applyParameter scene id) r₁).device.bound.get?
        p.stage = some id ∧
      (effect.parameterIds.foldl (fun r id => r.applyParameter scene id) r₁).device.plate? id =
        some plate := by
    intro p hp
    obtain ⟨id, hid, hat, -⟩ := hall p hp
    have hkept : (effect.parameterIds.foldl (fun r id => r.applyParameter scene id)
        r₁).loaded.get? p.key = some id := by
      rw [foldl_applyParameter_device]
      exact hid
    obtain ⟨label, hshelved⟩ := hr'.stocks.held p.key id hkept
    refine ⟨id, (label, p.key.stage), ?_, ?_⟩
    · rw [foldl_applyParameter_device]
      exact (congrFun (boundAt_foldl _ _) p.stage).trans hat
    · exact GpuDevice.plate?_of_shelved hshelved
  obtain ⟨vertex, fragment, hvertex, hfragment, hprograms, -⟩ :=
    Graphics.pair_of_accepted haccepted
  have hmem : vertex ∈ pass.programs ∧ fragment ∈ pass.programs := by
    rcases hprograms with heq | heq <;> simp [heq]
  obtain ⟨v, vplate, hv, hvplate⟩ := hready vertex hmem.1
  obtain ⟨f, fplate, hf, hfplate⟩ := hready fragment hmem.2
  rw [hvertex] at hv
  rw [hfragment] at hf
  have hdraw := GpuDevice.draw_of_bound hr'.able hv hf hvplate hfplate
  exact ⟨_, Prod.ext (hdraw _) rfl, .of_journal (drawBound_steps _ geometry).of_quiet rfl⟩

theorem Equipped.copy (hr : r.Equipped textures) {source destination : Surface}
    (hsource : r.device.Has source) (hdestination : r.device.Has destination) :
    r.Succeeds (r.copy source destination) true := by
  have hcopy := GpuDevice.copy_ok hr.able hsource hdestination
  have hstep : r.Step { r with device := (Device.copy r.device source destination).2 } :=
    .call r (c := .copy source destination) rfl
  unfold Renderer.copy
  rcases hc : Device.copy r.device source destination with ⟨result, device⟩
  rw [hc] at hstep
  obtain rfl : result = .ok () := (congrArg Prod.fst hc).symm.trans hcopy
  exact ⟨_, rfl, .of_journal hstep.steps rfl⟩

/-- A valid pass is drawn and copied to its target. -/
theorem Equipped.drawPass (hr : r.Equipped scene.textures) {pass : Pass}
    (haccepted : Accepted GpuDevice pass.programs) (effect : Effect)
    (geometry : Option Geometry) (progress : Progress) :
    r.Succeeds (r.drawPass scene effect geometry progress pass)
      (progress.further (TargetBinding.surface scene.textures pass.target)) := by
  obtain ⟨r₁, hbind, htrouble₁⟩ := hr.bindPass scene effect pass
  obtain ⟨r₂, hdraw, htrouble₂⟩ := hr.drawBound haccepted hbind geometry
  have htrouble₃ := (htrouble₁.trans htrouble₂).trans (unbindPass_untroubled r₂)
  have hr₃ := htrouble₃.equipped hr
  obtain ⟨r₄, hcopy, htrouble₄⟩ := hr₃.copy r₂.unbindPass.device.has_scratch (hr₃.has pass.target)
  unfold Renderer.drawPass
  simp only [hbind, hdraw, hcopy]
  exact ⟨r₄, rfl, htrouble₃.trans htrouble₄⟩

/-- The device has the surface in which the last drawn pass ended. -/
def Ends (r : Renderer GpuDevice) (result : Option Surface) : Prop :=
  ∀ surface, result = some surface → r.device.Has surface

/-- All valid passes are drawn, each of whose programs the device accepted. -/
theorem Equipped.drawPasses (hr : r.Equipped scene.textures) {passes : List Pass}
    (haccepted : ∀ pass ∈ passes, pass.valid = true → Accepted GpuDevice pass.programs)
    (effect : Effect) (geometry : Option Geometry) {progress : Progress}
    (hends : r.Ends progress.result) :
    ∃ progress' r', r.drawPasses scene effect geometry progress passes = (.ok progress', r') ∧
      r.Untroubled r' ∧ r'.Ends progress'.result ∧
      progress'.report = { progress.report with
        passesDrawn := progress.report.passesDrawn + passes.countP (·.valid) } := by
  induction passes generalizing r progress with
  | nil => exact ⟨progress, r, rfl, .refl r, hends, rfl⟩
  | cons pass rest ih =>
    have hrest := fun p hp => haccepted p (List.mem_cons_of_mem pass hp)
    rw [Renderer.drawPasses]
    cases hvalid : pass.valid with
    | false =>
      have hnoted : r.Untroubled (r.note [.passNotDrawn pass.name]) :=
        note_untroubled r (by simp [Notice.level])
      obtain ⟨progress', r', heq, huntroubled, hends', hreport⟩ :=
        ih (hnoted.equipped hr) hrest hends
      refine ⟨progress', r', by simpa using heq, hnoted.trans huntroubled, hends', ?_⟩
      rw [hreport, List.countP_cons_of_neg (by simp [hvalid])]
    | true =>
      obtain ⟨r₁, hdraw, huntroubled₁⟩ :=
        hr.drawPass (haccepted pass List.mem_cons_self hvalid) effect geometry progress
      have hr₁ := huntroubled₁.equipped hr
      have hends₁ : r₁.Ends (progress.further
          (TargetBinding.surface scene.textures pass.target)).result := by
        intro surface hsurface
        obtain rfl := Option.some.inj hsurface
        exact hr₁.has pass.target
      obtain ⟨progress', r', heq, huntroubled, hends', hreport⟩ := ih hr₁ hrest hends₁
      refine ⟨progress', r', by simpa [hdraw] using heq, huntroubled₁.trans huntroubled, hends', ?_⟩
      have hcount : (pass :: rest).countP (·.valid) = rest.countP (·.valid) + 1 :=
        List.countP_cons_of_pos hvalid
      simp only [hreport, hcount, Progress.further, FrameReport.mk.injEq, and_true]
      omega

/-! ## Techniques and effects -/

theorem Equipped.copyResult (hr : r.Equipped textures) {result destination : Surface}
    (hresult : r.device.Has result) (hdestination : r.device.Has destination) :
    r.Succeeds (r.copyResult result destination) () := by
  unfold Renderer.copyResult
  split_ifs
  · exact ⟨r, rfl, .refl r⟩
  · obtain ⟨r', hcopy, huntroubled⟩ := hr.copy hresult hdestination
    exact ⟨r', by simp [hcopy], huntroubled⟩

theorem Equipped.present (hr : r.Equipped textures) (binding : Option TargetBinding)
    {destination : Surface} (hdestination : r.device.Has destination) :
    r.Succeeds (r.present binding destination) () := by
  unfold Renderer.present
  simp only
  split_ifs
  · obtain ⟨r', hcopy, huntroubled⟩ := hr.copy hdestination r.device.has_backbuffer
    exact ⟨r', by simp [hcopy], huntroubled⟩
  · exact ⟨r, rfl, .refl r⟩

theorem Equipped.compose (hr : r.Equipped scene.textures) (technique : Technique)
    {result : Option Surface} (hends : r.Ends result) :
    r.Succeeds (r.compose scene technique result) () := by
  cases result with
  | none => exact ⟨r, rfl, .refl r⟩
  | some surface =>
    obtain ⟨r₁, hcopy, huntroubled₁⟩ :=
      hr.copyResult (hends surface rfl) (hr.has technique.target)
    have hr₁ := huntroubled₁.equipped hr
    obtain ⟨r₂, hpresent, huntroubled₂⟩ := hr₁.present technique.target (hr₁.has technique.target)
    exact ⟨r₂, by simp only [Renderer.compose, hcopy, hpresent], huntroubled₁.trans huntroubled₂⟩

theorem Equipped.setTarget (hr : r.Equipped textures) {surface : Surface}
    (hs : r.device.Has surface) :
    ∃ device, Device.setTarget r.device surface = (.ok (), device) ∧
      r.Untroubled { r with device } := by
  have hset : Device.setTarget r.device surface =
      (.ok (), { r.device with renderTarget := surface }) := GpuDevice.setTarget_ok hr.able hs
  have hsteps : r.Steps { r with device := (Device.setTarget r.device surface).2 } :=
    (setTarget_step r surface).steps.of_quiet
  rw [hset] at hsteps
  exact ⟨_, hset, .of_journal hsteps rfl⟩

/-- A technique is drawn with all its valid passes. -/
theorem Equipped.runTechnique (hr : r.Equipped scene.textures) {technique : Technique}
    (haccepted : ∀ pass ∈ technique.passes, pass.valid = true →
      Accepted GpuDevice pass.programs) (effect : Effect) (geometry : Option Geometry) :
    r.Succeeds (r.runTechnique scene effect technique geometry)
      { passesDrawn := technique.passes.countP (·.valid) } := by
  obtain ⟨device, htarget, huntroubled₁⟩ := hr.setTarget r.device.has_scratch
  have hstart : ({ r with device } : Renderer GpuDevice).Ends ({} : Progress).result :=
    fun _ h => by cases h
  obtain ⟨progress, r₂, hpasses, huntroubled₂, hends, hreport⟩ :=
    (huntroubled₁.equipped hr).drawPasses haccepted effect geometry hstart
  have huntroubled := huntroubled₁.trans huntroubled₂
  obtain ⟨r₃, hcompose, huntroubled₃⟩ := (huntroubled.equipped hr).compose technique hends
  unfold Renderer.runTechnique
  simp only [htarget, hpasses, hcompose, hreport]
  exact ⟨r₃, by simp, huntroubled.trans huntroubled₃⟩

theorem fitQuad_untroubled {D : Type} [Device D] (r : Renderer D) : r.Untroubled r.fitQuad := by
  refine ⟨fitQuad_steps r, ?_⟩
  unfold fitQuad
  simp only
  split_ifs
  · exact .refl r.journal
  · exact appends_concat r.journal (by simp [Notice.level])

/-- The surface that was drawn into before is there to be drawn into again. -/
theorem Equipped.restoreTarget (hr : r.Equipped textures) {surface : Surface}
    (hs : r.device.Has surface) : r.Untroubled (r.restoreTarget surface) := by
  obtain ⟨device, htarget, huntroubled⟩ := hr.setTarget hs
  unfold Renderer.restoreTarget
  simp only [htarget]
  exact huntroubled

/-- Whatever a renderer does, the device keeps its surfaces. -/
theorem Untroubled.has (h : r.Untroubled r') {surface : Surface} (hs : r.device.Has surface) :
    r'.device.Has surface :=
  h.steps.device_keep (P := fun g => g.Has surface) (fun g c _ hg =>
    (GpuDevice.perform_moves g c).preserve (P := fun g => g.Has surface)
      (fun _ _ _ _ hmove => hmove.has) hg) hs

theorem Equipped.drawTechnique (hr : r.Equipped scene.textures) {technique : Technique}
    (hvalid : technique.isValid = true) (haccepted : ∀ pass ∈ technique.passes,
      pass.valid = true → Accepted GpuDevice pass.programs) (effect : Effect)
    (geometry : Option Geometry) :
    r.Succeeds (r.drawTechnique scene effect technique geometry)
      { passesDrawn := technique.passes.countP (·.valid) } := by
  have hfit := fitQuad_untroubled r
  have hr₁ := hfit.equipped hr
  obtain ⟨r₂, hrun, huntroubled₂⟩ := hr₁.runTechnique haccepted effect geometry
  have huntroubled := hfit.trans huntroubled₂
  have hrestore := (huntroubled.equipped hr).restoreTarget (huntroubled₂.has hr₁.able.aimed)
  have hlost : Device.isLost r.device = false := hr.able.alive
  unfold Renderer.drawTechnique
  simp only [hvalid, hlost, hrun, Bool.not_true, Bool.false_eq_true, if_false]
  exact ⟨_, rfl, huntroubled.trans hrestore⟩

end Renderer

/-- The report of an effect that is drawn with every valid pass of its technique, if it has
one. -/
def FrameReport.complete (effect : Effect) : FrameReport :=
  match effect.default? with
  | some technique => { passesDrawn := technique.passes.countP (·.valid) }
  | none => { skipped := true }

/-- An effect as linking leaves it: the device accepted its valid passes, and the technique that
is drawn has one. -/
structure Effect.Checked (effect : Effect) : Prop where
  default : ∀ technique, effect.default? = some technique → technique.isValid = true
  accepted : ∀ technique ∈ effect.techniques, ∀ pass ∈ technique.passes, pass.valid = true →
    Accepted GpuDevice pass.programs

theorem Engine.link_checked (e : Engine GpuDevice) (effect : Effect) :
    (e.link effect).1.Checked where
  default := fun _ => link_default_valid e effect
  accepted := fun _ ht _ hpass hvalid => by
    obtain ⟨_, _, _, _, hlinked⟩ := link_passes e effect ht hpass
    exact hlinked.accepted hvalid

theorem Renderer.Equipped.drawEffect {r : Renderer GpuDevice} {scene : Scene}
    (hr : r.Equipped scene.textures) {effect : Effect} (hchecked : effect.Checked)
    (geometry : Option Geometry) :
    r.Succeeds (r.drawEffect scene effect geometry) (.complete effect) := by
  unfold Renderer.drawEffect FrameReport.complete
  cases hdefault : effect.default? with
  | none => exact ⟨_, rfl, note_untroubled r (by simp [Notice.level])⟩
  | some technique =>
    obtain ⟨index, _, hget⟩ := Option.bind_eq_some_iff.mp hdefault
    exact hr.drawTechnique (hchecked.default technique hdefault)
      (hchecked.accepted technique (List.mem_of_getElem? hget)) effect geometry

/-! ## Frames -/

namespace Session

variable {e : Engine GpuDevice}

/-- Something a frame does succeeded with a value: only the renderer went on, and it noted no
error. -/
def Succeeds {α : Type} (e : Engine GpuDevice) (result : Except DeviceError α × Engine GpuDevice)
    (value : α) : Prop :=
  ∃ renderer, result = (.ok value, { e with renderer }) ∧ e.renderer.Untroubled renderer

theorem snapshot_succeeds (he : e.renderer.Equipped e.textures) (name : String) :
    Succeeds e (snapshot e name) () := by
  unfold snapshot
  cases hname : e.textures.byName? name with
  | none => exact ⟨e.renderer, rfl, .refl _⟩
  | some texture =>
    obtain ⟨handle, _, hget⟩ := Option.bind_eq_some_iff.mp hname
    have hdestination : e.device.Has (.texture texture.backing) :=
      GpuDevice.has_texture.mpr (he.stored handle texture hget)
    have hcopy := GpuDevice.copy_ok he.able e.device.has_backbuffer hdestination
    have hstep : e.renderer.Step { e.renderer with
        device := (Device.copy e.device .backbuffer (.texture texture.backing)).2 } :=
      .call e.renderer (c := .copy .backbuffer (.texture texture.backing)) rfl
    rcases hc : Device.copy e.device .backbuffer (.texture texture.backing) with ⟨result, device⟩
    rw [hc] at hstep
    obtain rfl : result = .ok () := (congrArg Prod.fst hc).symm.trans hcopy
    simp only [hc]
    exact ⟨_, rfl, .of_journal hstep.steps rfl⟩

/-- Effects are drawn one after the other, each with all its valid passes. -/
theorem drawEffects_succeeds (he : e.renderer.Equipped e.textures) {effects : List Effect}
    (hchecked : ∀ effect ∈ effects, effect.Checked) (geometry : Option Geometry) :
    Succeeds e (drawEffects e geometry effects) (effects.map .complete) := by
  induction effects generalizing e with
  | nil => exact ⟨e.renderer, rfl, .refl _⟩
  | cons effect rest ih =>
    obtain ⟨hfirst, hrest⟩ := List.forall_mem_cons.mp hchecked
    have hscene : e.renderer.Equipped e.scene.textures := he
    obtain ⟨r₁, hdraw, huntroubled₁⟩ := hscene.drawEffect hfirst geometry
    have hnoted : r₁.Untroubled (r₁.note
        [.passesDrawn effect.name (FrameReport.complete effect).passesDrawn]) :=
      Renderer.note_untroubled r₁ (by simp [Notice.level])
    have huntroubled₂ := huntroubled₁.trans hnoted
    obtain ⟨r₂, hdrawn, huntroubled₃⟩ := ih (e := { e with renderer := r₁ }.note
      [.passesDrawn effect.name (FrameReport.complete effect).passesDrawn])
      (huntroubled₂.equipped he) hrest
    refine ⟨r₂, ?_, huntroubled₂.trans huntroubled₃⟩
    simp only [drawEffects, hdraw, hdrawn]
    rfl

theorem drawFrame_succeeds (he : e.renderer.Equipped e.textures)
    (hchecked : ∀ effect ∈ e.effects.toList.map (·.2), effect.Checked)
    (geometry : Option Geometry) :
    Succeeds e (drawFrame e geometry) ((e.effects.toList.map (·.2)).map .complete) := by
  obtain ⟨r₁, hfirst, huntroubled₁⟩ := snapshot_succeeds he Staging.thisFrame
  have he₁ := huntroubled₁.equipped he
  obtain ⟨r₂, hdrawn, huntroubled₂⟩ :=
    drawEffects_succeeds (e := { e with renderer := r₁ }) he₁ hchecked geometry
  obtain ⟨r₃, hlast, huntroubled₃⟩ :=
    snapshot_succeeds (e := { e with renderer := r₂ }) (huntroubled₂.equipped he₁) Staging.lastFrame
  refine ⟨r₃, ?_, (huntroubled₁.trans huntroubled₂).trans huntroubled₃⟩
  simp only [drawFrame, hfirst, hdrawn, hlast]

end Session

/-! ## Runs -/

/-- An engine that can draw what it has loaded. -/
structure Engine.Equipped (e : Engine GpuDevice) : Prop where
  renderer : e.renderer.Equipped e.textures
  effects : ∀ handle effect, e.effects.get? handle = some effect → effect.Checked

/-- A frame of a session that can draw what it has loaded. -/
theorem Session.renderFrame_succeeds {session : Session GpuDevice}
    (h : session.engine.Equipped) (now : Int) (geometry : Option Geometry) :
    ∃ session', session.renderFrame now geometry =
        (.ok ((session.engine.effects.toList.map (·.2)).map .complete), session') ∧
      session.engine.renderer.Untroubled session'.engine.renderer := by
  obtain ⟨writes, hprepared⟩ := session.prepared_eq now
  have hchecked : ∀ effect ∈ session.engine.effects.toList.map (·.2), effect.Checked := by
    intro effect heffect
    obtain ⟨handle, hget⟩ := (Arena.mem_items_iff _ effect).mp heffect
    exact h.effects handle effect hget
  have hframe := drawFrame_succeeds (e := session.prepared now)
    (by rw [hprepared]; exact h.renderer) (by rw [hprepared]; exact hchecked) geometry
  obtain ⟨renderer, hdrawn, huntroubled⟩ := hframe
  have hlost : Device.isLost session.engine.device = false := h.renderer.able.alive
  rw [Session.renderFrame_eq, if_neg (by simp [hlost]), hdrawn]
  rw [hprepared] at huntroubled ⊢
  exact ⟨_, rfl, huntroubled⟩

namespace Engine

variable {e e' : Engine GpuDevice}

theorem Step.equipped (h : e.Step e') (he : e.Equipped) : e'.Equipped where
  renderer :=
    have hsteps : e.renderer.StepsBy (fun _ => true) False e'.renderer :=
      h.renderer_steps fun _ _ => rfl
    ⟨(hsteps.equipped he.renderer).able, hsteps.stocks he.renderer.stocks,
      h.stores he.renderer.stored⟩
  effects := by
    rw [h.effects]
    exact he.effects

theorem Tunes.equipped (h : e.Tunes e') (he : e.Equipped) : e'.Equipped := by
  obtain ⟨parameters, notices, rfl⟩ := h
  exact ⟨(Renderer.steps_note e.renderer notices).equipped he.renderer, he.effects⟩

/-- A session that was set up on a device that is able to draw can draw what it loads. -/
theorem equipped_of_create {device : GpuDevice} (hdevice : device.Able) {settings : Settings}
    {compiler : Compiler} {start : Int} {session : Session GpuDevice}
    (hcreate : Session.create device settings compiler start = (.ok session, e)) :
    session.engine.Equipped := by
  refine Session.create_keep (P := Equipped) (fun _ _ hstep => hstep.equipped)
    (fun e name type => (e.tunes_createVirtual name type).equipped) hcreate ?_
  exact ⟨⟨hdevice, Renderer.stocks_of_empty rfl, fun _ _ h => by cases h⟩,
    fun _ _ h => by cases h⟩

end Engine

namespace Host

variable {host : Host GpuDevice}

/-- An operation leaves a session equipped, unless it loses the device. -/
theorem step_equipped (h : host.engine.Equipped) {op : HostOp GpuDevice GpuAct}
    (hop : op ≠ .act .lose) : (host.step GpuAct.perform op).engine.Equipped := by
  have hcalls : op.calls (fun _ => true) = true := by cases op <;> rfl
  have hstored : (host.step GpuAct.perform op).engine.Stores :=
    step_stores (fun a d texture => (a.retains d).textures texture) h.renderer.stored op
  refine ⟨?_, (host.step_change GpuAct.perform op).effects
    (fun _ _ _ _ _ e => e.link_checked _) h.effects⟩
  rcases host.step_renderer (fun _ _ => rfl) GpuAct.perform hcalls (Or.inl trivial)
    with hsteps | ⟨a, rfl, heq⟩
  · have hequipped := hsteps.equipped h.renderer
    exact ⟨hequipped.able, hequipped.stocks, hstored⟩
  · have hable := GpuAct.able (a := a) (fun ha => hop (ha ▸ rfl)) h.renderer.able
    have hstocks : ({ host.engine.renderer with
        device := a.perform host.engine.renderer.device } : Renderer GpuDevice).Stocks :=
      h.renderer.stocks.withDevice (Graphics.keepsShelves a _)
    rw [← heq] at hstocks
    exact ⟨by rw [heq]; exact hable, hstocks, hstored⟩

theorem stepHook_equipped (h : host.engine.Equipped) {op : HookOp GpuDevice GpuAct}
    (hop : op ≠ .session (.act .lose)) : (host.stepHook GpuAct.perform op).engine.Equipped := by
  cases op with
  | session op => exact step_equipped h fun heq => hop (congrArg HookOp.session heq)
  | hook hook =>
    have hsteps := host.engine.hook_steps hook
    have htextures : (host.engine.hook hook).textures = host.engine.textures := by
      cases hook <;> rfl
    have heffects : (host.engine.hook hook).effects = host.engine.effects := by
      cases hook <;> rfl
    have hequipped := hsteps.equipped h.renderer
    rw [← htextures] at hequipped
    refine ⟨hequipped, fun handle effect hget => h.effects handle effect ?_⟩
    rw [← heffects]
    exact hget

/-- On a graphics device that accepts what it is asked for, a frame draws everything that
linking accepted: however the effects mix stages, profiles, registers and samplers, and whatever
else the host did, as long as the device is not lost. Of each effect every valid pass of its
default technique is drawn and none is refused; and nothing is noted as an error, as each call
is that fails to load or to bind a program, to draw, to choose a target or to copy. -/
theorem accepted_draws {device : GpuDevice} (hdevice : device.Able) {settings : Settings}
    {compiler : Compiler} {start : Int} {session : Session GpuDevice} {engine : Engine GpuDevice}
    (hcreate : Session.create device settings compiler start = (.ok session, engine))
    {ops : List (HookOp GpuDevice GpuAct)} (hops : ∀ op ∈ ops, op ≠ .session (.act .lose))
    {host : Host GpuDevice}
    (hrun : ({ session } : Host GpuDevice).runHooks GpuAct.perform ops = host) (now : Int)
    (geometry : Option Geometry) :
    ∃ session', host.session.renderFrame now geometry =
        (.ok (host.effects.map .complete), session') ∧
      ∃ notices, session'.engine.renderer.journal = host.engine.renderer.journal ++ notices ∧
        ∀ n ∈ notices, n.level ≠ .error := by
  have hequipped : host.engine.Equipped := by
    rw [← hrun]
    exact runHooks_keep (P := fun host => host.engine.Equipped)
      (fun _ op hop h => stepHook_equipped h (hops op hop))
      (Engine.equipped_of_create hdevice hcreate)
  obtain ⟨session', hframe, huntroubled⟩ :=
    host.session.renderFrame_succeeds hequipped now geometry
  exact ⟨session', hframe, huntroubled.journal⟩

/-- An effect of a technique of two passes, the second of which has no vertex program. -/
def halfDrawn : String :=
  "[\"half\", [], [[\"t\", \x7b\x7d, [[\"p\", \x7b\x7d, [\"wgsl\", \"main\", \"\"], " ++
  "[\"wgsl\", \"main\", \"\"]], [\"q\", \x7b\x7d, null, [\"wgsl\", \"main\", \"\"]]]]]]"

/-- An effect of one pass, which has no vertex program. -/
def neverDrawn : String :=
  "[\"never\", [], [[\"t\", \x7b\x7d, [[\"q\", \x7b\x7d, null, [\"wgsl\", \"main\", \"\"]]]]]]"

/-- Two effects are loaded, a frame is drawn, and the surfaces change their size. -/
def halfDrawing : List (HookOp GpuDevice GpuAct) :=
  [.session (.load "a.json" halfDrawn), .session (.load "b.json" neverDrawn),
    .session (.frame 0 none), .session (.act (.resize 8 8)), .hook .unbindPass]

/-- Of two effects the one that has a valid pass is drawn, with that pass. -/
theorem accepted_draws_half :
    ∃ (session : Session GpuDevice) (engine : Engine GpuDevice) (host : Host GpuDevice)
      (reports : List FrameReport) (session' : Session GpuDevice),
      Session.create (GpuDevice.ofSize .plain 4 4) { builtinParameters := false }
          (Session.searching {} {}) 0 = (.ok session, engine) ∧
        ({ session } : Host GpuDevice).runHooks GpuAct.perform halfDrawing = host ∧
        host.session.renderFrame 1 none = (.ok reports, session') ∧
        reports.map (fun report => (report.passesDrawn, report.skipped)) =
          [(1, false), (0, true)] ∧
        reports = host.effects.map .complete ∧
        ∃ notices, session'.engine.renderer.journal = host.engine.renderer.journal ++ notices ∧
          ∀ n ∈ notices, n.level ≠ .error := by
  have hdrawn : (Session.create (GpuDevice.ofSize .plain 4 4) { builtinParameters := false }
        (Session.searching {} {}) 0).1.toOption.map (fun session =>
      ((({ session } : Host GpuDevice).runHooks GpuAct.perform
          halfDrawing).effects.map FrameReport.complete).map
        fun report => (report.passesDrawn, report.skipped)) =
      some [(1, false), (0, true)] := by decide +kernel
  obtain ⟨session, hsession, hreports⟩ := Option.map_eq_some_iff.mp hdrawn
  have hcreate := eq_ok_of_toOption hsession
  have hops : ∀ op ∈ halfDrawing, op ≠ .session (.act .lose) := by simp [halfDrawing]
  obtain ⟨session', hframe, hjournal⟩ :=
    accepted_draws (GpuDevice.able_ofSize .plain 4 4) hcreate hops rfl 1 none
  exact ⟨session, _, _, _, session', hcreate, rfl, hframe, hreports, rfl, hjournal⟩

end Host

end ShaderEffects
