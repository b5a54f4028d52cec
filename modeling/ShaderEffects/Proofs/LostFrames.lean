import ShaderEffects.Proofs.FrameRuns
import ShaderEffects.Proofs.LostDevices
import ShaderEffects.Proofs.TwinSessions

/-!
# The draw that loses a device

A device without a screen may be lost by one of its draws. Until that draw it is not told
apart from a device that no draw loses. So a frame that ends because the device is lost has
left on the surfaces what the same frame leaves on the other device up to that draw, which
is the draw of one pass of one effect.
-/
namespace ShaderEffects

/-- Whether a call is a draw. -/
def HeadlessCall.isDraw : HeadlessCall → Bool
  | .draw .. => true
  | _ => false

namespace HeadlessDevice

/-- The device, if no draw loses it. -/
def endless (d : HeadlessDevice) : HeadlessDevice := { d with drawsLeft := none }

/-- The number of draws that it noted. -/
def draws (d : HeadlessDevice) : Nat := d.calls.countP HeadlessCall.isDraw

/-- A device that is not lost, beside one that no draw loses. After `total` draws, if that is
a number, the next one loses the first of them. -/
structure Outlasted (total : Option Nat) (d d' : HeadlessDevice) : Prop where
  endless : d' = d.endless
  alive : d.lost = false
  total : d.drawsLeft.map (d.draws + ·) = total

variable {total : Option Nat} {d d' : HeadlessDevice}

theorem outlasted (h : d.lost = false) : Outlasted (d.drawsLeft.map (d.draws + ·)) d d.endless :=
  ⟨rfl, h, rfl⟩

/-- Whatever draws nothing leaves the other device to outlast this one. -/
theorem Outlasted.after (h : Outlasted total d d') {d₁ : HeadlessDevice} (hlost : d₁.lost = d.lost)
    (hleft : d₁.drawsLeft = d.drawsLeft) (hdraws : d₁.draws = d.draws) :
    Outlasted total d₁ d₁.endless :=
  ⟨rfl, hlost.trans h.alive, by rw [hleft, hdraws]; exact h.total⟩

theorem draws_append {calls : List HeadlessCall} {c : HeadlessCall} (hc : c.isDraw = false) :
    (calls ++ [c]).countP HeadlessCall.isDraw = calls.countP HeadlessCall.isDraw := by
  simp [List.countP_append, hc]

theorem outlasted_twins (total : Option Nat) : Twins ∅ (Outlasted total) where
  isLost := by rintro d _ ⟨rfl, _, _⟩; rfl
  backbufferSize := by rintro d _ ⟨rfl, _, _⟩; rfl
  target := by rintro d _ ⟨rfl, _, _⟩; rfl
  loadProgram := by
    intro d d' h p
    obtain rfl := h.endless
    have halive : d.endless.alive = d.alive := rfl
    have hfailing : d.endless.failingLoads = d.failingLoads := rfl
    simp only [device_loadProgram, loadProgram, halive, hfailing]
    cases d.alive with
    | error e => exact ⟨rfl, h⟩
    | ok _ =>
      simp only
      split_ifs
      · exact ⟨rfl, h⟩
      · exact ⟨rfl, h.after rfl rfl (draws_append rfl)⟩
  bind := by
    intro d d' h stage id
    obtain rfl := h.endless
    have halive : d.endless.alive = d.alive := rfl
    have hprograms : d.endless.programs = d.programs := rfl
    have hfailing : d.endless.failingBinds = d.failingBinds := rfl
    simp only [device_bind, bind, halive, hprograms, hfailing]
    cases d.alive with
    | error e => exact ⟨rfl, h⟩
    | ok _ =>
      cases d.programs.get? id with
      | none => exact ⟨rfl, h⟩
      | some program =>
        simp only
        split_ifs
        · exact ⟨rfl, h⟩
        · exact ⟨rfl, h⟩
        · exact ⟨rfl, h.after rfl rfl (draws_append rfl)⟩
  unbind := by
    intro d d' h stage
    obtain rfl := h.endless
    exact h.after rfl rfl (draws_append rfl)
  setConstants := by
    intro d d' h id register values values' hvalues
    obtain rfl := h.endless
    obtain rfl := hvalues.resolve_right Set.not_nonempty_empty
    exact h.after rfl rfl rfl
  setSampler := by
    intro d d' h id slot texture
    obtain rfl := h.endless
    exact h.after rfl rfl rfl
  setTarget := by
    intro d d' h surface
    obtain rfl := h.endless
    have halive : d.endless.alive = d.alive := rfl
    have hcheck : d.endless.checkSurface surface = d.checkSurface surface := by
      cases surface <;> rfl
    simp only [device_setTarget, setTarget, halive, hcheck]
    cases d.alive with
    | error e => exact ⟨rfl, h⟩
    | ok _ =>
      cases d.checkSurface surface with
      | error e => exact ⟨rfl, h⟩
      | ok _ => exact ⟨rfl, h.after rfl rfl (draws_append rfl)⟩
  copy := by
    intro d d' h source destination _
    obtain rfl := h.endless
    have halive : d.endless.alive = d.alive := rfl
    have hcheck : ∀ surface, d.endless.checkSurface surface = d.checkSurface surface := by
      intro surface
      cases surface <;> rfl
    simp only [device_copy, copy, halive, hcheck]
    cases d.alive with
    | error e => exact ⟨rfl, h⟩
    | ok _ =>
      cases d.checkSurface source with
      | error e => exact ⟨rfl, h⟩
      | ok _ =>
        cases d.checkSurface destination with
        | error e => exact ⟨rfl, h⟩
        | ok _ => exact ⟨rfl, h.after rfl rfl (draws_append rfl)⟩

/-- The device after a draw in the state for effects, which is put back. -/
def drawn (d : HeadlessDevice) (geometry : Geometry) (left : Option Nat) : HeadlessDevice :=
  { d with
    drawsLeft := left
    contents := d.contents.insert d.renderTarget d.drawTag
    calls := d.calls ++ [.draw d.renderTarget geometry.indexCount .effect] }

theorem drawAside_cases (hlost : d.lost = false) (geometry : Geometry) :
    d.drawsLeft = some 0 ∧ Device.drawAside d geometry = (.error .lost, d.lose) ∨
      ∃ left, d.drawsLeft = left.map Nat.succ ∧
        Device.drawAside d geometry = (.ok (), d.drawn geometry left) := by
  obtain ⟨_, _, _, _, _, left, lost, _⟩ := d
  obtain rfl : lost = false := hlost
  rcases left with _ | _ | n
  · exact Or.inr ⟨none, rfl, rfl⟩
  · exact Or.inl ⟨rfl, rfl⟩
  · exact Or.inr ⟨some n, rfl, rfl⟩

/-- Both devices draw, or the draw is the one that loses the first. -/
theorem Outlasted.drawAside (h : Outlasted total d d') (geometry : Geometry) :
    (∃ d₁, Device.drawAside d geometry = (.ok (), d₁) ∧
        Device.drawAside d' geometry = (.ok (), d₁.endless) ∧ Outlasted total d₁ d₁.endless) ∨
      d.drawsLeft = some 0 ∧ Device.drawAside d geometry = (.error .lost, d.lose) := by
  obtain rfl := h.endless
  rcases drawAside_cases h.alive geometry with hstruck | ⟨left, hleft, hdraw⟩
  · exact Or.inr hstruck
  · refine Or.inl ⟨_, hdraw, ?_, rfl, h.alive, ?_⟩
    · rcases drawAside_cases (d := d.endless) h.alive geometry with ⟨hnone, _⟩ | ⟨left', hnone, heq⟩
      · cases hnone
      · obtain rfl : left' = none := Option.map_eq_none_iff.mp hnone.symm
        exact heq
    · have hdraws : (d.drawn geometry left).draws = d.draws + 1 := by
        simp [drawn, HeadlessDevice.draws, List.countP_append, HeadlessCall.isDraw]
      rw [← h.total, hleft, hdraws]
      cases left with
      | none => rfl
      | some n => exact congrArg some (by simp [Nat.add_assoc, Nat.add_comm 1])

/-- Stages are freed on a lost device as on another one. -/
theorem unbindAll_lose (d : HeadlessDevice) (programs : List BoundProgram) :
    Renderer.unbindAll d.lose programs = (Renderer.unbindAll d programs).lose := by
  induction programs generalizing d with
  | nil => rfl
  | cons b rest ih => exact ih (d.unbind b.stage)

theorem lost_of_alive {e : DeviceError} (h : d.alive = .error e) : d.lost = true := by
  unfold alive at h
  split_ifs at h with hlost
  exact hlost

theorem checkSurface_ne_lost (surface : Surface) : d.checkSurface surface ≠ .error .lost := by
  cases surface with
  | texture id =>
    simp only [checkSurface]
    split_ifs <;> simp
  | backbuffer | scratch => exact fun h => by cases h

/-- Only a device that is lost says so when it is to copy. -/
theorem copy_lost {source destination : Surface}
    (h : d.copy source destination = (.error .lost, d')) : d'.lost = true := by
  unfold copy at h
  cases halive : d.alive with
  | error e =>
    simp only [halive, Prod.mk.injEq] at h
    exact h.2 ▸ lost_of_alive halive
  | ok _ =>
    cases hsource : d.checkSurface source with
    | error e =>
      simp only [halive, hsource, Prod.mk.injEq] at h
      exact absurd (hsource.trans h.1) (checkSurface_ne_lost source)
    | ok _ =>
      cases hdestination : d.checkSurface destination with
      | error e =>
        simp only [halive, hsource, hdestination, Prod.mk.injEq] at h
        exact absurd (hdestination.trans h.1) (checkSurface_ne_lost destination)
      | ok _ => simp [halive, hsource, hdestination] at h

end HeadlessDevice

namespace Renderer

open HeadlessDevice

variable {r r' r₁ : Renderer HeadlessDevice} {total : Option Nat} {scene scene' : Scene}

/-- Two renderers that differ in their devices, of which the second outlasts the first. -/
abbrev Outlasted (total : Option Nat) (r r' : Renderer HeadlessDevice) : Prop :=
  r.Alike (HeadlessDevice.Outlasted total) (fun _ => True) r'

/-! ## Failures that lose the device -/

theorem copy_error {source destination : Surface} {e : DeviceError}
    (h : r.copy source destination = (.error e, r₁)) : r₁.device.lost = true := by
  unfold copy at h
  rcases hcopy : Device.copy r.device source destination with ⟨(_ | _ | _ | _) | _, d⟩ <;>
    simp only [hcopy, Prod.mk.injEq, reduceCtorEq, false_and] at h
  rw [← h.2]
  exact copy_lost hcopy

theorem copyResult_error {result destination : Surface} {e : DeviceError}
    (h : r.copyResult result destination = (.error e, r₁)) : r₁.device.lost = true := by
  unfold copyResult at h
  split_ifs at h
  · simp at h
  · rcases hcopy : r.copy result destination with ⟨cause | _, r₂⟩ <;>
      simp only [hcopy, Prod.mk.injEq, reduceCtorEq, false_and] at h
    exact h.2 ▸ copy_error hcopy

theorem present_error {binding : Option TargetBinding} {destination : Surface} {e : DeviceError}
    (h : r.present binding destination = (.error e, r₁)) : r₁.device.lost = true := by
  unfold present at h
  simp only at h
  split_ifs at h
  · rcases hcopy : r.copy destination .backbuffer with ⟨cause | _, r₂⟩ <;>
      simp only [hcopy, Prod.mk.injEq, reduceCtorEq, false_and] at h
    exact h.2 ▸ copy_error hcopy
  · simp at h

theorem compose_error {technique : Technique} {result : Option Surface} {e : DeviceError}
    (h : r.compose scene technique result = (.error e, r₁)) : r₁.device.lost = true := by
  cases result with
  | none => simp [compose] at h
  | some result =>
    simp only [compose] at h
    rcases hcopy : r.copyResult result
      (TargetBinding.surface scene.textures technique.target) with ⟨cause | _, r₂⟩ <;>
      simp only [hcopy, Prod.mk.injEq] at h
    · exact h.2 ▸ copyResult_error hcopy
    · exact present_error h

/-! ## Up to the fatal draw -/

/-- The same result without a failure, and renderers of which the second outlasts the first. -/
def Survives {α : Type} (total : Option Nat)
    (x y : Except DeviceError α × Renderer HeadlessDevice) :
    Prop :=
  ∃ value s t, x = (.ok value, s) ∧ y = (.ok value, t) ∧ s.Outlasted total t

/-- What is left of a renderer when a draw with the bound pass loses the device. -/
def cut (r : Renderer HeadlessDevice) : Renderer HeadlessDevice :=
  ({ r with device := r.device.lose }).unbindPass

theorem cut_device (r : Renderer HeadlessDevice) : r.cut.device = r.unbindPass.device.lose := by
  unfold cut unbindPass
  cases r.bound with
  | none => rfl
  | some bound => exact unbindAll_lose r.device bound.programs

theorem unbindPass_device (r : Renderer HeadlessDevice) : ∃ stages calls,
    r.unbindPass.device = { r.device with bound := stages, calls } := by
  unfold unbindPass
  cases r.bound with
  | none => exact ⟨r.device.bound, r.device.calls, rfl⟩
  | some bound =>
    obtain ⟨stages, calls, heq, _⟩ := unbindAll_eq r.device bound.programs
    exact ⟨stages, calls, heq⟩

theorem restoreTarget_of_lost (hlost : r.device.lost = true) (target : Surface) :
    (r.restoreTarget target).device = r.device := by
  unfold restoreTarget
  simp only [device_setTarget, setTarget, alive_of_lost hlost]
  rfl

/-- The first renderer is as it was left by a draw that lost the device, and the second is
just before the same draw. -/
def Struck (total : Option Nat) (s t : Renderer HeadlessDevice) : Prop :=
  ∃ r : Renderer HeadlessDevice,
    r.Outlasted total t ∧ r.device.drawsLeft = some 0 ∧ s.device = r.cut.device

theorem drawBound_cases (h : r.Outlasted total r') (geometry : Option Geometry) :
    Survives total (r.drawBound geometry) (r'.drawBound geometry) ∨
      r.device.drawsLeft = some 0 ∧
        r.drawBound geometry = (.error .lost, { r with device := r.device.lose }) := by
  obtain ⟨_, d', rfl, hdevice⟩ := h
  have hquad : (r.on d').quad = r.quad := rfl
  have hon : (r.on d').device = d' := rfl
  rw [drawBound_eq, drawBound_eq, hquad, hon]
  rcases hdevice.drawAside (geometry.getD r.quad.geometry) with
    ⟨d, hd, hd', hafter⟩ | ⟨hleft, hd⟩
  · rw [hd, hd']
    exact Or.inl ⟨(), _, _, rfl, rfl, trivial, d.endless, rfl, hafter⟩
  · rw [hd]
    exact Or.inr ⟨hleft, rfl⟩

/-- A pass is drawn by both, or its draw is the one that loses the device. -/
theorem drawPass_cases (h : r.Outlasted total r') (hscene : scene.Alike ∅ scene') (effect : Effect)
    (geometry : Option Geometry) (progress : Progress) (pass : Pass) :
    Survives total (r.drawPass scene effect geometry progress pass)
        (r'.drawPass scene' effect geometry progress pass) ∨
      ∃ s t, r.drawPass scene effect geometry progress pass = (.error .lost, s) ∧
        r'.bindPass scene' effect pass = (.ok (), t) ∧ Struck total s t := by
  obtain ⟨bound, r₁, r₁', h₁, h₁', hbound⟩ :=
    (bindPass_mirrors (outlasted_twins total) h hscene effect pass).split
  have hlost := hbound.device.alive
  have hlost' : r₁'.device.lost = false := by
    rw [hbound.device.endless]
    exact hlost
  unfold drawPass
  rw [h₁, h₁']
  cases bound with
  | error e =>
    simp only [device_isLost, hlost, hlost', Bool.false_eq_true, if_false]
    exact Or.inl ⟨_, _, _, rfl, rfl, hbound.note _⟩
  | ok _ =>
    rcases drawBound_cases hbound geometry with ⟨_, r₂, r₂', h₂, h₂', hdrawn⟩ | ⟨hleft, h₂⟩
    · have hfreed := unbindPass_alike (outlasted_twins total) hdrawn
      obtain ⟨copied, r₃, r₃', h₃, h₃', hcopied⟩ :=
        (copy_mirrors (outlasted_twins total) hfreed
          (surface_ne_scratch scene.textures pass.target)).split
      simp only [h₂, h₂', hscene.textures, h₃, h₃']
      rcases copied with e | _ | _
      · exact absurd (copy_error h₃) (by simp [hcopied.device.alive])
      · exact Or.inl ⟨_, _, _, rfl, rfl, hcopied⟩
      · exact Or.inl ⟨_, _, _, rfl, rfl, hcopied⟩
    · refine Or.inr ⟨r₁.cut, r₁', ?_, rfl, r₁, hbound, hleft, rfl⟩
      simp [h₂, cut]

/-- Both go on after a pass, drawn or left out, or its draw loses the device. -/
theorem drawPasses_step (h : r.Outlasted total r') (hscene : scene.Alike ∅ scene')
    (effect : Effect) (geometry : Option Geometry) (progress : Progress) (pass : Pass) :
    (∃ (next : Progress) (r₁ r₁' : Renderer HeadlessDevice), r₁.Outlasted total r₁' ∧ ∀ rest,
        r.drawPasses scene effect geometry progress (pass :: rest) =
            r₁.drawPasses scene effect geometry next rest ∧
          r'.drawPasses scene' effect geometry progress (pass :: rest) =
            r₁'.drawPasses scene' effect geometry next rest) ∨
      pass.valid = true ∧ ∃ s t, r'.bindPass scene' effect pass = (.ok (), t) ∧
        Struck total s t ∧ ∀ rest,
          r.drawPasses scene effect geometry progress (pass :: rest) = (.error .lost, s) := by
  by_cases hvalid : pass.valid = true
  · simp only [drawPasses, if_pos hvalid]
    rcases drawPass_cases h hscene effect geometry progress pass with
      ⟨next, r₁, r₁', h₁, h₁', halike⟩ | ⟨s, t, h₁, hbind, hstruck⟩
    · simp only [h₁, h₁']
      exact Or.inl ⟨next, r₁, r₁', halike, fun _ => ⟨rfl, rfl⟩⟩
    · simp only [h₁]
      exact Or.inr ⟨hvalid, s, t, hbind, hstruck, fun _ => rfl⟩
  · simp only [drawPasses, if_neg hvalid]
    exact Or.inl ⟨progress, _, _, h.note [.passNotDrawn pass.name], fun _ => ⟨rfl, rfl⟩⟩

/-- The passes are drawn by both, or one of them is the first whose draw loses the device. -/
theorem drawPasses_cases (h : r.Outlasted total r') (hscene : scene.Alike ∅ scene')
    (effect : Effect) (geometry : Option Geometry) (progress : Progress) (passes : List Pass) :
    Survives total (r.drawPasses scene effect geometry progress passes)
        (r'.drawPasses scene' effect geometry progress passes) ∨
      ∃ done pass rest reached s t t', passes = done ++ pass :: rest ∧ pass.valid = true ∧
        r.drawPasses scene effect geometry progress passes = (.error .lost, s) ∧
        r'.drawPasses scene' effect geometry progress done = (.ok reached, t) ∧
        t.bindPass scene' effect pass = (.ok (), t') ∧ Struck total s t' := by
  induction passes generalizing r r' progress with
  | nil => exact Or.inl ⟨progress, r, r', rfl, rfl, h⟩
  | cons pass rest ih =>
    rcases drawPasses_step h hscene effect geometry progress pass with
      ⟨next, r₁, r₁', halike, hnext⟩ | ⟨hvalid, s, t, hbind, hstruck, hlost⟩
    · rw [(hnext rest).1, (hnext rest).2]
      rcases ih halike next with hboth |
        ⟨done, pass', rest', reached, s, t, t', rfl, hvalid, hs, ht, hbind, hstruck⟩
      · exact Or.inl hboth
      · exact Or.inr ⟨pass :: done, pass', rest', reached, s, t, t', rfl, hvalid, hs,
          (hnext done).2.trans ht, hbind, hstruck⟩
    · exact Or.inr
        ⟨[], pass, rest, progress, s, r', t, rfl, hvalid, hlost rest, rfl, hbind, hstruck⟩

theorem boundLabel?_bindPass {effect : Effect} {pass : Pass}
    (h : r.bindPass scene effect pass = (.ok (), r₁)) :
    r₁.boundLabel? = some (effect.name ++ "/" ++ pass.technique ++ "/" ++ pass.name) := by
  unfold bindPass at h
  rcases hload : r.unbindPass.loadPass pass with ⟨e | _, r₂⟩
  · simp [hload] at h
  rcases hbind : r₂.bindPrograms [] pass.programs with ⟨e | programs, r₃⟩
  · simp [hload, hbind] at h
  simp only [hload, hbind, foldl_applyParameter_device, Prod.mk.injEq, true_and] at h
  rw [← h]
  rfl

end Renderer

/-- A pass that is drawn of an effect, among the passes of its technique. -/
structure PassPlace (effect : Effect) where
  technique : Technique
  default : effect.default? = some technique
  done : List Pass
  pass : Pass
  rest : List Pass
  passes : technique.passes = done ++ pass :: rest
  valid : pass.valid = true

/-- The label that the pass has while it is bound. -/
def PassPlace.label {effect : Effect} (place : PassPlace effect) : String :=
  effect.name ++ "/" ++ place.pass.technique ++ "/" ++ place.pass.name

namespace Renderer

open HeadlessDevice

variable {r r' r₁ : Renderer HeadlessDevice} {total : Option Nat} {scene scene' : Scene}

/-- The renderer just before the draw of a pass: it aims at the scratch surface, has drawn
the passes before and has bound this one. -/
def approach (r : Renderer HeadlessDevice) (scene : Scene) (geometry : Option Geometry)
    {effect : Effect} (place : PassPlace effect) : Renderer HeadlessDevice :=
  let r := r.fitQuad
  let r := { r with device := (Device.setTarget r.device .scratch).2 }
  ((r.drawPasses scene effect geometry {} place.done).2.bindPass scene effect place.pass).2

/-- A renderer stopped by the draw of a pass, and the other one on its way to it. -/
structure StruckAt (total : Option Nat) {effect : Effect} (place : PassPlace effect)
    (s t : Renderer HeadlessDevice) : Prop where
  struck : Struck total s t
  bound : t.boundLabel? = some place.label

theorem drawTechnique_cases (h : r.Outlasted total r') (hscene : scene.Alike ∅ scene')
    {effect : Effect} {technique : Technique} (hdefault : effect.default? = some technique)
    (geometry : Option Geometry) :
    Survives total (r.drawTechnique scene effect technique geometry)
        (r'.drawTechnique scene' effect technique geometry) ∨
      ∃ (place : PassPlace effect) (s : Renderer HeadlessDevice),
        r.drawTechnique scene effect technique geometry = (.error .lost, s) ∧
        StruckAt total place s (r'.approach scene' geometry place) := by
  have hlost := h.device.alive
  have hlost' : r'.device.lost = false := by
    rw [h.device.endless]
    exact hlost
  have hfitted := fitQuad_alike (outlasted_twins total) (fun _ _ _ _ => trivial) h
  obtain ⟨aimed, d, d', hd, hd', hsame⟩ :=
    ((outlasted_twins total).setTarget hfitted.device .scratch).split
  have haimed : aimed = .ok () := by
    rcases setTarget_cases r.fitQuad.device .scratch with ⟨e, _, hfails | hfails⟩ | ⟨_, _, heq⟩
    · rw [hfitted.device.alive] at hfails
      cases hfails
    · cases hfails
    · rw [device_setTarget, heq] at hd
      exact (congrArg Prod.fst hd).symm
  subst haimed
  have hready : ({ r.fitQuad with device := d } : Renderer HeadlessDevice).Outlasted total
      { r'.fitQuad with device := d' } := by
    obtain ⟨_, _, heq, _⟩ := hfitted
    rw [heq]
    exact ⟨trivial, d', rfl, hsame⟩
  unfold drawTechnique
  simp only [device_isLost, hlost, hlost', Bool.false_eq_true, if_false]
  split_ifs
  · exact Or.inl ⟨_, _, _, rfl, rfl, h.note _⟩
  unfold runTechnique
  simp only [hd, hd']
  rcases drawPasses_cases hready hscene effect geometry {} technique.passes with
    ⟨progress, r₁, r₁', h₁, h₁', hdrawn⟩ |
    ⟨done, pass, rest, reached, s, t, t', hpasses, hvalid, hs, ht, hbind, hstruck⟩
  · obtain ⟨composed, r₂, r₂', h₂, h₂', hcomposed⟩ :=
      (compose_mirrors (outlasted_twins total) hdrawn hscene technique progress.result).split
    simp only [h₁, h₁', h₂, h₂']
    cases composed with
    | error e => exact absurd (compose_error h₂) (by simp [hcomposed.device.alive])
    | ok _ =>
      have hrestored := restoreTarget_alike (outlasted_twins total) hcomposed
        (Device.target r.fitQuad.device)
      rw [← (outlasted_twins total).target hfitted.device]
      exact Or.inl ⟨_, _, _, rfl, rfl, hrestored⟩
  · simp only [hs]
    refine Or.inr ⟨⟨technique, hdefault, done, pass, rest, hpasses, hvalid⟩, _, rfl, ?_⟩
    have happroach : r'.approach scene' geometry
        ⟨technique, hdefault, done, pass, rest, hpasses, hvalid⟩ = t' := by
      simp only [approach, hd', ht, hbind]
    obtain ⟨r₁, hother, hleft, hdevice⟩ := hstruck
    rw [happroach]
    refine ⟨⟨r₁, hother, hleft, ?_⟩, boundLabel?_bindPass hbind⟩
    -- the target is not put back, since the device is lost
    have hstopped : s.device.lost = true := by rw [hdevice, cut_device, lose]
    exact (restoreTarget_of_lost hstopped _).trans hdevice

theorem drawEffect_cases (h : r.Outlasted total r') (hscene : scene.Alike ∅ scene')
    (effect : Effect) (geometry : Option Geometry) :
    Survives total (r.drawEffect scene effect geometry) (r'.drawEffect scene' effect geometry) ∨
      ∃ (place : PassPlace effect) (s : Renderer HeadlessDevice),
        r.drawEffect scene effect geometry = (.error .lost, s) ∧
        StruckAt total place s (r'.approach scene' geometry place) := by
  unfold drawEffect
  cases hdefault : effect.default? with
  | none => exact Or.inl ⟨_, _, _, rfl, rfl, h.note _⟩
  | some technique => exact drawTechnique_cases h hscene hdefault geometry

end Renderer

/-! ## Frames -/

namespace Session

open HeadlessDevice

variable {e e' e₁ : Engine HeadlessDevice} {total : Option Nat}

/-- Two engines that differ in their devices, of which the second outlasts the first. -/
abbrev Outlasted (total : Option Nat) (e e' : Engine HeadlessDevice) : Prop :=
  e.Alike ∅ (HeadlessDevice.Outlasted total) (fun _ => True) e'

theorem snapshot_error {name : String} {cause : DeviceError}
    (h : snapshot e name = (.error cause, e₁)) : e₁.device.lost = true := by
  unfold snapshot at h
  cases hname : e.textures.byName? name with
  | none => simp [hname] at h
  | some texture =>
    rcases hcopy : Device.copy e.device .backbuffer (.texture texture.backing) with
      ⟨(_ | _ | _ | _) | _, d⟩ <;>
      simp only [hname, hcopy, Prod.mk.injEq, reduceCtorEq, false_and] at h
    rw [← h.2]
    exact copy_lost hcopy

/-- Taking a picture does not fail as long as the device is not lost. -/
theorem snapshot_survives (h : Outlasted total e e') (name : String) :
    ∃ e₁ e₁', snapshot e name = (.ok (), e₁) ∧ snapshot e' name = (.ok (), e₁') ∧
      Outlasted total e₁ e₁' := by
  obtain ⟨result, e₁, e₁', h₁, h₁', halike⟩ :=
    (snapshot_mirrors (outlasted_twins total) h name).split
  cases result with
  | error cause => exact absurd (snapshot_error h₁) (by simp [halike.device.alive])
  | ok _ => exact ⟨e₁, e₁', h₁, h₁', halike⟩

/-- The effects are drawn by both, or one of them is the first that is not. -/
theorem drawEffects_cases (h : Outlasted total e e') (geometry : Option Geometry)
    (effects : List Effect) :
    (∃ reports e₁ e₁', drawEffects e geometry effects = (.ok reports, e₁) ∧
        drawEffects e' geometry effects = (.ok reports, e₁') ∧ Outlasted total e₁ e₁') ∨
      ∃ before effect after reports e₁ e₁', ∃ place : PassPlace effect,
        effects = before ++ effect :: after ∧
        drawEffects e geometry effects = (.error .lost, e₁) ∧
        drawEffects e' geometry before = (.ok reports, e₁') ∧
        Renderer.StruckAt total place e₁.renderer
          (e₁'.renderer.approach e₁'.scene geometry place) := by
  induction effects generalizing e e' with
  | nil => exact Or.inl ⟨[], e, e', rfl, rfl, h⟩
  | cons effect rest ih =>
    rcases Renderer.drawEffect_cases h.renderer h.scene effect geometry with
      ⟨report, r₁, r₁', h₁, h₁', halike⟩ | ⟨place, s, h₁, hstruck⟩
    · have hnext := (h.withRenderer halike).note [.passesDrawn effect.name report.passesDrawn]
      rcases ih hnext with ⟨reports, e₂, e₂', h₂, h₂', hlast⟩ |
        ⟨before, effect', after, reports, e₂, e₂', place, rfl, h₂, h₂', hstruck⟩
      · refine Or.inl ⟨report :: reports, e₂, e₂', ?_, ?_, hlast⟩
        · rw [drawEffects, h₁]; simp only [h₂]
        · rw [drawEffects, h₁']; simp only [h₂']
      · refine Or.inr ⟨effect :: before, effect', after, report :: reports, e₂, e₂', place, rfl,
          ?_, ?_, hstruck⟩
        · rw [drawEffects, h₁]; simp only [h₂]
        · rw [drawEffects, h₁']; simp only [h₂']
    · refine Or.inr
        ⟨[], effect, rest, [], { e with renderer := s }, e', place, rfl, ?_, rfl, hstruck⟩
      rw [drawEffects, h₁]

end Session

/-- The draw of a pass in a frame of a session. -/
structure FrameDraw (session : Session HeadlessDevice) where
  before : List Effect
  effect : Effect
  after : List Effect
  effects : session.engine.effects.toList.map (·.2) = before ++ effect :: after
  place : PassPlace effect

/-- The renderer just before a draw, on a device that no draw loses: the frame has taken the
picture it begins with, drawn the effects before this one and the passes before this one. -/
def FrameDraw.approach {session : Session HeadlessDevice} (draw : FrameDraw session) (now : Int)
    (geometry : Option Geometry) : Renderer HeadlessDevice :=
  let e := session.prepared now
  let e := (Session.snapshot (e.withDevice e.device.endless) Staging.thisFrame).2
  let e := (Session.drawEffects e geometry draw.before).2
  e.renderer.approach e.scene geometry draw.place

/-- A frame was stopped by a draw: `reached` is the renderer on a device that no draw loses,
just before the same draw. -/
structure Session.Stopped (session session' : Session HeadlessDevice) (draw : FrameDraw session)
    (reached : Renderer HeadlessDevice) : Prop where
  alive : reached.device.lost = false
  bound : reached.boundLabel? = some draw.place.label
  /-- As many draws were made as the device had left. -/
  draws : session.engine.device.drawsLeft.map (session.engine.device.draws + ·) =
    some reached.device.draws
  contents : ∀ surface, session'.engine.device.content? surface = reached.device.content? surface
  /-- Nothing else happened: the pass was freed, and the device is lost. -/
  device : session'.engine.device =
    { reached.unbindPass.device with drawsLeft := some 0, lost := true }

namespace Session

open HeadlessDevice

variable {session session' : Session HeadlessDevice} {now : Int} {geometry : Option Geometry}

theorem outlasted_prepared (halive : session.engine.device.lost = false) (now : Int) :
    Outlasted (session.engine.device.drawsLeft.map (session.engine.device.draws + ·))
      (session.prepared now)
      ((session.prepared now).withDevice (session.prepared now).device.endless) := by
  obtain ⟨writes, heq⟩ := session.prepared_eq now
  rw [heq]
  exact ⟨trivial, _, _, rfl, outlasted halive, Parameters.alike_refl ∅ _⟩

theorem stopped_of_struckAt {draw : FrameDraw session} {reached : Renderer HeadlessDevice}
    (h : Renderer.StruckAt (session.engine.device.drawsLeft.map (session.engine.device.draws + ·))
      draw.place session'.engine.renderer reached) : Stopped session session' draw reached := by
  obtain ⟨⟨r, hother, hleft, hdevice⟩, hlabel⟩ := h
  have hreached := hother.device.endless
  have hfreed : reached.unbindPass.device = r.unbindPass.device.endless :=
    (Renderer.unbindPass_alike (outlasted_twins _) hother).device.endless
  have hstopped : session'.engine.device =
      { reached.unbindPass.device with drawsLeft := some 0, lost := true } := by
    obtain ⟨stages, calls, heq⟩ := r.unbindPass_device
    rw [show session'.engine.device = _ from hdevice, Renderer.cut_device, hfreed, heq, ← hleft]
    rfl
  refine ⟨by rw [hreached]; exact hother.device.alive, hlabel, ?_, ?_, hstopped⟩
  · rw [← hother.device.total, hleft, hreached]
    rfl
  · obtain ⟨stages, calls, heq⟩ := reached.unbindPass_device
    intro surface
    rw [hstopped, heq]
    rfl

/-- A frame on a device that was not lost ends with its loss only at a draw. -/
theorem renderFrame_stopped (halive : session.engine.device.lost = false)
    (h : session.renderFrame now geometry = (.error .lost, session')) :
    ∃ draw : FrameDraw session, Stopped session session' draw (draw.approach now geometry) := by
  rw [renderFrame_eq, if_neg (by simp [halive])] at h
  obtain ⟨hresult, rfl⟩ := Prod.mk.inj h
  have hprepared := outlasted_prepared halive now
  have heffects : (session.prepared now).effects = session.engine.effects := by
    obtain ⟨writes, heq⟩ := session.prepared_eq now
    rw [heq]
  obtain ⟨e₁, e₁', h₁, h₁', hfirst⟩ := snapshot_survives hprepared Staging.thisFrame
  have hsame : e₁.effects = session.engine.effects := by
    obtain ⟨renderer, heq, _⟩ := snapshot_steps (session.prepared now) Staging.thisFrame
    rw [h₁] at heq
    rw [← heffects, show e₁ = _ from heq]
  unfold drawFrame at hresult ⊢
  rw [h₁] at hresult ⊢
  simp only [hsame] at hresult ⊢
  rcases drawEffects_cases hfirst geometry (session.engine.effects.toList.map (·.2)) with
    ⟨reports, e₂, e₂', h₂, h₂', hdrawn⟩ |
    ⟨before, effect, after, reports, e₂, e₂', place, hsplit, h₂, h₂', hstruck⟩
  · obtain ⟨e₃, e₃', h₃, _, _⟩ := snapshot_survives hdrawn Staging.lastFrame
    simp [h₂, h₃] at hresult
  · have happroach : FrameDraw.approach ⟨before, effect, after, hsplit, place⟩ now geometry =
        e₂'.renderer.approach e₂'.scene geometry place := by
      simp only [FrameDraw.approach, h₁', h₂']
    refine ⟨⟨before, effect, after, hsplit, place⟩, ?_⟩
    rw [happroach]
    simp only [h₂]
    exact stopped_of_struckAt hstruck

end Session

namespace Host

/-- A frame that loses the device stops at the draw of one pass: the surfaces show what they
show on a device that no draw loses, just before this draw. Whatever the host does with its
session afterwards, nothing changes on the device, and nothing can be drawn, created or
loaded to be drawn. -/
theorem frame_lost {session session' : Session HeadlessDevice} {now : Int}
    {geometry : Option Geometry} (halive : session.engine.device.lost = false)
    (hlost : session.renderFrame now geometry = (.error .lost, session')) :
    (∃ draw : FrameDraw session,
      session.Stopped session' draw (draw.approach now geometry)) ∧
    ∀ (held : List ParameterId) (ops : List (HookOp HeadlessDevice Empty)),
      session'.engine.device.Stilled
          (({ session := session', held } : Host HeadlessDevice).runHooks Empty.elim
            ops).engine.device ∧
        (({ session := session', held } : Host HeadlessDevice).runHooks
          Empty.elim ops).Absorbed := by
  obtain ⟨draw, hstopped⟩ := Session.renderFrame_stopped halive hlost
  refine ⟨⟨draw, hstopped⟩, fun held ops => ?_⟩
  have hlost' :
      ({ session := session', held } : Host HeadlessDevice).engine.device.lost = true := by
    show session'.engine.device.lost = true
    rw [hstopped.device]
  have hstilled := runHooks_stilled hlost' ops
  exact ⟨hstilled, absorbed_of_lost hstilled.lost⟩

/-- The second of two passes loses the device: the first one was copied to where passes end,
and nothing was copied from there. -/
theorem frame_lost_second :
    ∃ (session : Session HeadlessDevice) (engine : Engine HeadlessDevice)
      (host : Host HeadlessDevice) (session' : Session HeadlessDevice)
      (draw : FrameDraw host.session),
      Session.create ((HeadlessDevice.ofSize 4 4).losingAfter 1) { builtinParameters := false }
          (Session.searching {} {}) 0 = (.ok session, engine) ∧
        ({ session } : Host HeadlessDevice).run HeadlessAct.perform [.load "fx.json" twoPasses] =
          host ∧
        host.session.renderFrame 0 none = (.error .lost, session') ∧
        host.session.Stopped session' draw (draw.approach 0 none) ∧
        ([Staging.lastPass, Staging.lastShader, Staging.thisFrame, Staging.lastFrame].map
            session'.engine.device.textureContent?, session'.engine.device.content? .backbuffer) =
          ([some "fx/t/p:Fragment", none, some "backbuffer", none], some "backbuffer") ∧
        ({ session := session' } : Host HeadlessDevice).Absorbed := by
  have hdrawn : ((Session.create ((HeadlessDevice.ofSize 4 4).losingAfter 1)
        { builtinParameters := false } (Session.searching {} {}) 0).1.toOption.map fun session =>
      let host := ({ session } : Host HeadlessDevice).run HeadlessAct.perform
        [.load "fx.json" twoPasses]
      let (result, session') := host.session.renderFrame 0 none
      (host.session.engine.device.lost, result.map List.length,
        [Staging.lastPass, Staging.lastShader, Staging.thisFrame, Staging.lastFrame].map
          session'.engine.device.textureContent?, session'.engine.device.content? .backbuffer)) =
      some (false, .error .lost, [some "fx/t/p:Fragment", none, some "backbuffer", none],
        some "backbuffer") := by decide +kernel
  obtain ⟨session, hsession, hseen⟩ := Option.map_eq_some_iff.mp hdrawn
  have hcreate := eq_ok_of_toOption hsession
  rcases hframe : (({ session } : Host HeadlessDevice).run HeadlessAct.perform
    [.load "fx.json" twoPasses]).session.renderFrame 0 none with ⟨cause | reports, session'⟩ <;>
    simp only [hframe, Prod.mk.injEq] at hseen
  · obtain ⟨halive, hcause, hshown⟩ := hseen
    obtain rfl : cause = .lost := Except.error.inj hcause
    obtain ⟨⟨draw, hstopped⟩, hafter⟩ := frame_lost halive hframe
    exact ⟨session, _, _, session', draw, hcreate, rfl, hframe, hstopped,
      Prod.ext hshown.1 hshown.2,
      (hafter [] []).2⟩
  · cases hseen.2.1

end Host

end ShaderEffects
