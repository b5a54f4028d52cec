import ShaderEffects.Proofs.ProgramShelves

/-!
# What the renderer remembers of loaded programs

Whatever a host does, each number that the renderer has noted is that of one program, which
the device still has and which has the stage it was compiled for. So a pass fails to be
bound only if the device refuses one of its programs.
-/
namespace ShaderEffects

namespace Renderer

variable {D : Type} [Device D] [ProgramShelf D] {r r' : Renderer D}

/-- Every number that was noted is that of one program, which the device has. -/
structure Stocks (r : Renderer D) : Prop where
  held : ∀ key id, r.loaded.get? key = some id →
    ∃ label, ProgramShelf.shelved r.device id = some (label, key.stage)
  injective : ∀ key other id, r.loaded.get? key = some id → r.loaded.get? other = some id →
    key = other

theorem stocks_of_empty (h : r.loaded = ∅) : r.Stocks := ⟨by simp [h], by simp [h]⟩

theorem Stocks.withDevice (h : r.Stocks) {d : D}
    (hd : ∀ id plate, ProgramShelf.shelved r.device id = some plate →
      ProgramShelf.shelved d id = some plate) : ({ r with device := d } : Renderer D).Stocks :=
  ⟨fun key id hid => (h.held key id hid).imp fun _ hplate => hd id _ hplate, h.injective⟩

/-- A program that is loaded gets a number that no other has. -/
theorem Stocks.load (h : r.Stocks) {p : Program} {id : ProgramId} {device : D}
    (hload : Device.loadProgram r.device p = (.ok id, device)) :
    ({ r with device, loaded := r.loaded.insert p.key id } : Renderer D).Stocks := by
  obtain ⟨hfresh, hshelved⟩ := ProgramShelf.load hload
  have hkeep : ∀ other plate, ProgramShelf.shelved r.device other = some plate →
      ProgramShelf.shelved device other = some plate := by
    intro other plate hother
    have hperform := ProgramShelf.keep r.device (.loadProgram p) hother
    simpa only [DeviceCall.perform, hload] using hperform
  have hother : ∀ key, r.loaded.get? key ≠ some id := by
    intro key hid
    obtain ⟨label, hlabel⟩ := h.held key id hid
    rw [hfresh] at hlabel
    cases hlabel
  constructor
  · intro key other hid
    simp only [Table.get?_insert] at hid
    split_ifs at hid with hkey
    · cases hid
      exact ⟨p.label, by rw [hkey]; exact hshelved⟩
    · exact (h.held key other hid).imp fun _ => hkeep other _
  · intro key key' other hid hid'
    simp only [Table.get?_insert] at hid hid'
    split_ifs at hid hid' with hkey hkey' hkey'
    · exact hkey.trans hkey'.symm
    · cases hid
      exact absurd hid' (hother key')
    · cases hid'
      exact absurd hid (hother key)
    · exact h.injective key key' other hid hid'

theorem StepBy.stocks {kind : DeviceCall D → Bool} {hands : Prop} (h : r.StepBy kind hands r')
    (hr : r.Stocks) : r'.Stocks := by
  cases h with
  | note | quad | hold | free => exact ⟨hr.held, hr.injective⟩
  | @call c _ => exact hr.withDevice fun _ _ => ProgramShelf.keep r.device c
  | load _ hload => exact hr.load hload
  | @upload _ _ _ _ u _ _ _ _ =>
    cases u with
    | constants program register values =>
      exact hr.withDevice fun _ _ =>
        ProgramShelf.keep r.device (.setConstants program register values)
    | sampler program slot texture =>
      exact hr.withDevice fun _ _ => ProgramShelf.keep r.device (.setSampler program slot texture)

theorem StepsBy.stocks {kind : DeviceCall D → Bool} {hands : Prop} (h : r.StepsBy kind hands r')
    (hr : r.Stocks) : r'.Stocks := h.keep (fun _ _ hstep => hstep.stocks) hr

/-! ## Why a pass is not bound -/

theorem StepsBy.refuses {kind : DeviceCall D → Bool} {hands : Prop} (h : r.StepsBy kind hands r')
    {e : BindError} (he : ProgramShelf.Refuses r.device e) : ProgramShelf.Refuses r'.device e :=
  h.device_keep (P := fun d => ProgramShelf.Refuses d e)
    (fun d c _ hd => ProgramShelf.refuses_keep d c hd) he

theorem loadPrograms_refused {programs : List Program} {e : BindError}
    (h : r.loadPrograms programs = (.error e, r')) : ProgramShelf.Refuses r'.device e := by
  induction programs generalizing r with
  | nil => simp [loadPrograms] at h
  | cons p rest ih =>
    rw [loadPrograms] at h
    split_ifs at h
    · exact ih h
    · rcases hload : Device.loadProgram r.device p with ⟨cause | id, device⟩
      · simp only [hload, Prod.mk.injEq, Except.error.injEq] at h
        obtain ⟨rfl, rfl⟩ := h
        have hkept := ProgramShelf.refuses_keep r.device (.loadProgram p)
          (ProgramShelf.load_refused hload)
        simpa only [DeviceCall.perform, hload] using hkept
      · simp only [hload] at h
        exact ih h

/-- Programs that were loaded are bound, unless the device refuses one. -/
theorem bindPrograms_refused (hr : r.Stocks) {done : List BoundProgram} {programs : List Program}
    (hloaded : ∀ p ∈ programs, ∃ id, r.loaded.get? p.key = some id) {e : BindError}
    (h : r.bindPrograms done programs = (.error e, r')) : ProgramShelf.Refuses r'.device e := by
  induction programs generalizing r done with
  | nil => simp [bindPrograms] at h
  | cons p rest ih =>
    obtain ⟨id, hid⟩ := hloaded p List.mem_cons_self
    obtain ⟨label, hlabel⟩ := hr.held p.key id hid
    have hsteps := bindProgram_steps r p
    rw [bindPrograms] at h
    rcases hbind : r.bindProgram p with ⟨cause | known, r₁⟩ <;> rw [hbind] at hsteps
    · simp only [hbind, Prod.mk.injEq, Except.error.injEq] at h
      obtain ⟨rfl, rfl⟩ := h
      have hrefused : ProgramShelf.Refuses r.device ⟨.bind, p.stage, p.label, cause⟩ := by
        unfold bindProgram at hbind
        simp only [hid] at hbind
        rcases hdevice : Device.bind r.device p.stage id with ⟨fault | _, device⟩ <;>
          simp only [hdevice, Prod.mk.injEq, Except.error.injEq, reduceCtorEq, false_and] at hbind
        obtain ⟨rfl, _⟩ := hbind
        exact ProgramShelf.bind_refused hlabel hdevice
      exact (unbindAll_steps r₁ done).refuses (hsteps.refuses hrefused)
    · simp only [hbind] at h
      refine ih (hsteps.stocks hr) (fun q hq => ?_) h
      obtain ⟨other, hother⟩ := hloaded q (List.mem_cons_of_mem p hq)
      exact ⟨other, hsteps.loaded hother⟩

/-- A pass is bound, unless the device refuses one of its programs. -/
theorem bindPass_refused (hr : r.Stocks) {scene : Scene} {effect : Effect} {pass : Pass}
    {e : BindError} (h : r.bindPass scene effect pass = (.error e, r')) :
    ProgramShelf.Refuses r'.device e := by
  have hload := (unbindPass_steps r).trans (loadPrograms_steps r.unbindPass pass.programs)
  unfold bindPass loadPass at h
  rcases hl : r.unbindPass.loadPrograms pass.programs with ⟨error | _, r₁⟩
  · simp only [hl, Prod.mk.injEq, Except.error.injEq] at h
    obtain ⟨rfl, rfl⟩ := h
    exact loadPrograms_refused hl
  · rw [hl] at hload
    have hloaded : ∀ p ∈ pass.programs, ∃ id, r₁.loaded.get? p.key = some id := by
      intro p hp
      have hall := loadPrograms_loaded (congrArg Prod.fst hl) hp
      rwa [hl] at hall
    rcases hb : r₁.bindPrograms [] pass.programs with ⟨error | programs, r₂⟩
    · simp only [hl, hb, Prod.mk.injEq, Except.error.injEq] at h
      obtain ⟨rfl, rfl⟩ := h
      exact bindPrograms_refused (hload.stocks hr) hloaded hb
    · simp [hl, hb] at h

/-! ## What a frame reports -/

/-- What is reported of some bound passes is that the device refused them. -/
def Excused (r : Renderer D) (report : FrameReport) : Prop :=
  ∀ e ∈ report.bindErrors, ProgramShelf.Refuses r.device e

theorem StepsBy.excused {kind : DeviceCall D → Bool} {hands : Prop} (h : r.StepsBy kind hands r')
    {report : FrameReport} (hr : r.Excused report) : r'.Excused report :=
  fun e he => h.refuses (hr e he)

variable {scene : Scene} {effect : Effect} {geometry : Option Geometry}

theorem drawPass_excused (hr : r.Stocks) {progress progress' : Progress} {pass : Pass}
    (hreport : r.Excused progress.report)
    (h : r.drawPass scene effect geometry progress pass = (.ok progress', r')) :
    r'.Excused progress'.report := by
  have hsteps := drawPass_steps r scene effect geometry progress pass
  rw [h] at hsteps
  have hkept := hsteps.excused hreport
  unfold drawPass at h
  rcases hbind : r.bindPass scene effect pass with ⟨e | _, r₁⟩ <;> simp only [hbind] at h
  · split_ifs at h
    · simp at h
    · simp only [Prod.mk.injEq, Except.ok.injEq] at h
      obtain ⟨rfl, rfl⟩ := h
      intro e' he'
      rcases List.mem_append.mp he' with hold | hnew
      · exact hkept e' hold
      · rw [List.mem_singleton.mp hnew]
        exact (steps_note r₁ _).refuses (bindPass_refused hr hbind)
  · -- a pass that was bound adds nothing to the errors
    have hsame : progress'.report.bindErrors = progress.report.bindErrors := by
      rcases hdraw : r₁.drawBound geometry with ⟨cause | _, r₂⟩ <;> simp only [hdraw] at h
      · split_ifs at h <;> simp only [Prod.mk.injEq, Except.ok.injEq, reduceCtorEq, false_and] at h
        rw [← h.1]
      · rcases hcopy : r₂.unbindPass.copy .scratch
          (TargetBinding.surface scene.textures pass.target) with ⟨cause | _ | _, r₃⟩ <;>
          simp only [hcopy, Prod.mk.injEq, Except.ok.injEq, reduceCtorEq, false_and] at h <;>
          rw [← h.1]
    intro e he
    rw [hsame] at he
    exact hkept e he

theorem drawPasses_excused (hr : r.Stocks) {progress progress' : Progress} {passes : List Pass}
    (hreport : r.Excused progress.report)
    (h : r.drawPasses scene effect geometry progress passes = (.ok progress', r')) :
    r'.Excused progress'.report := by
  induction passes generalizing r progress with
  | nil =>
    simp only [drawPasses, Prod.mk.injEq, Except.ok.injEq] at h
    obtain ⟨rfl, rfl⟩ := h
    exact hreport
  | cons pass rest ih =>
    rw [drawPasses] at h
    split_ifs at h
    · have hsteps := drawPass_steps r scene effect geometry progress pass
      rcases hpass : r.drawPass scene effect geometry progress pass with ⟨error | next, r₁⟩ <;>
        simp only [hpass] at h
      · simp at h
      · rw [hpass] at hsteps
        exact ih (hsteps.stocks hr) (drawPass_excused hr hreport hpass) h
    · have hnote := steps_note r [.passNotDrawn pass.name]
      exact ih (hnote.stocks hr) (hnote.excused hreport) h

theorem runTechnique_excused (hr : r.Stocks) {technique : Technique} {report : FrameReport}
    (h : r.runTechnique scene effect technique geometry = (.ok report, r')) :
    r'.Excused report := by
  have haimed := (setTarget_step r .scratch).steps
  unfold runTechnique at h
  rcases htarget : Device.setTarget r.device .scratch with ⟨cause | _, device⟩ <;>
    simp only [htarget] at h haimed
  · simp at h
  rcases hpasses : ({ r with device } : Renderer D).drawPasses scene effect geometry {}
    technique.passes with ⟨cause | progress, r₁⟩ <;> simp only [hpasses] at h
  · simp at h
  have hnone : ({ r with device } : Renderer D).Excused ({} : Progress).report :=
    fun e he => absurd he List.not_mem_nil
  have hexcused := drawPasses_excused (haimed.stocks hr) hnone hpasses
  have hturns : r₁.Turns (fun _ => True) True (r₁.compose scene technique progress.result).2 :=
    compose_turns r₁ scene technique progress.result
  have hcompose := hturns.steps
  rcases hcomposed : r₁.compose scene technique progress.result with ⟨cause | _, r₂⟩ <;>
    simp only [hcomposed] at h hcompose
  · simp at h
  · simp only [Prod.mk.injEq, Except.ok.injEq] at h
    obtain ⟨rfl, rfl⟩ := h
    exact hcompose.excused hexcused

theorem drawEffect_excused (hr : r.Stocks) {report : FrameReport}
    (h : r.drawEffect scene effect geometry = (.ok report, r')) : r'.Excused report := by
  unfold drawEffect at h
  cases hdefault : effect.default? with
  | none =>
    simp only [hdefault, Prod.mk.injEq, Except.ok.injEq] at h
    obtain ⟨rfl, rfl⟩ := h
    exact fun e he => absurd he List.not_mem_nil
  | some technique =>
    simp only [hdefault] at h
    unfold drawTechnique at h
    split_ifs at h
    · simp only [Prod.mk.injEq, Except.ok.injEq] at h
      obtain ⟨rfl, rfl⟩ := h
      exact fun e he => absurd he List.not_mem_nil
    · simp at h
    · have hfitted := fitQuad_steps r
      rcases hrun : r.fitQuad.runTechnique scene effect technique geometry with
        ⟨cause | report', r₁⟩ <;> simp only [hrun, Prod.mk.injEq, reduceCtorEq, false_and] at h
      have hturns : r₁.Turns (fun _ => True) True
          (r₁.restoreTarget (Device.target r.fitQuad.device)) := restoreTarget_turns r₁ _
      have hrestored := hturns.steps
      simp only [Except.ok.injEq] at h
      obtain ⟨rfl, rfl⟩ := h
      exact hrestored.excused (runTechnique_excused (hfitted.stocks hr) hrun)

end Renderer

namespace Session

variable {D : Type} [Device D] [ProgramShelf D] {geometry : Option Geometry}

theorem drawEffects_excused {e e' : Engine D} (he : e.renderer.Stocks) {effects : List Effect}
    {reports : List FrameReport} (h : drawEffects e geometry effects = (.ok reports, e')) :
    ∀ report ∈ reports, e'.renderer.Excused report := by
  induction effects generalizing e reports with
  | nil =>
    simp only [drawEffects, Prod.mk.injEq, Except.ok.injEq] at h
    obtain ⟨rfl, rfl⟩ := h
    exact fun _ hmem => absurd hmem List.not_mem_nil
  | cons effect rest ih =>
    have hsteps := Renderer.drawEffect_steps e.renderer e.scene effect geometry
    rw [drawEffects] at h
    rcases hdraw : e.renderer.drawEffect e.scene effect geometry with ⟨cause | report, r₁⟩ <;>
      simp only [hdraw] at h hsteps
    · simp at h
    have hnoted := hsteps.trans
      (Renderer.steps_note r₁ [.passesDrawn effect.name report.passesDrawn])
    have hall : ∀ other ∈ rest, (fun _ : Effect => True) other := fun _ _ => trivial
    obtain ⟨r₂, heq, hacts⟩ := drawEffects_acts
      ({ e with renderer := r₁ }.note [.passesDrawn effect.name report.passesDrawn]) geometry hall
    rcases hrest : drawEffects
      ({ e with renderer := r₁ }.note [.passesDrawn effect.name report.passesDrawn]) geometry rest
      with ⟨cause | others, e₂⟩ <;>
      simp only [hrest, Prod.mk.injEq, reduceCtorEq, false_and] at h heq
    simp only [Except.ok.injEq] at h
    obtain ⟨rfl, rfl⟩ := h
    intro other hother
    rcases List.mem_cons.mp hother with rfl | hmem
    · rw [heq]
      exact ((Renderer.steps_note r₁ _).trans hacts.steps).excused
        (Renderer.drawEffect_excused he hdraw)
    · exact ih (e := { e with renderer := r₁ }.note _) (hnoted.stocks he) hrest other hmem

/-- A frame reports only such passes as not bound that the device refused. -/
theorem renderFrame_excused {session session' : Session D} (hs : session.engine.renderer.Stocks)
    {now : Int} {reports : List FrameReport}
    (h : session.renderFrame now geometry = (.ok reports, session')) :
    ∀ report ∈ reports, session'.engine.renderer.Excused report := by
  rw [renderFrame_eq] at h
  split_ifs at h
  · simp at h
  obtain ⟨hresult, rfl⟩ := Prod.mk.inj h
  have hprepared : (session.prepared now).renderer.Stocks := by
    obtain ⟨writes, heq⟩ := session.prepared_eq now
    rw [heq]
    exact hs
  generalize session.prepared now = e at hprepared hresult ⊢
  obtain ⟨r₁, heq₁, hsteps₁⟩ := snapshot_steps e Staging.thisFrame
  unfold drawFrame at hresult ⊢
  rcases hsnap : snapshot e Staging.thisFrame with ⟨cause | _, e₁⟩ <;>
    simp only [hsnap] at hresult heq₁ ⊢
  · simp at hresult
  have hstocks₁ : e₁.renderer.Stocks := by
    rw [heq₁]
    exact hsteps₁.stocks hprepared
  rcases hdraw : drawEffects e₁ geometry (e₁.effects.toList.map (·.2)) with ⟨cause | drawn, e₂⟩ <;>
    simp only [hdraw] at hresult ⊢
  · simp at hresult
  obtain ⟨r₃, heq₃, hsteps₃⟩ := snapshot_steps e₂ Staging.lastFrame
  rcases hlast : snapshot e₂ Staging.lastFrame with ⟨cause | _, e₃⟩ <;>
    simp only [hlast] at hresult heq₃ ⊢
  · simp at hresult
  obtain rfl := Except.ok.inj hresult
  intro report hreport
  rw [heq₃]
  exact hsteps₃.excused (drawEffects_excused hstocks₁ hdraw report hreport)

end Session

/-! ## Runs -/

/-- Such calls take no program away. -/
def KeepsShelves {D A : Type} [Device D] [ProgramShelf D] (act : A → D → D) : Prop :=
  ∀ a d id plate, ProgramShelf.shelved d id = some plate →
    ProgramShelf.shelved (act a d) id = some plate

theorem HeadlessAct.keepsShelves : KeepsShelves HeadlessAct.perform :=
  fun a d _ _ hid => (a.outlives d).shelved hid

theorem Graphics.keepsShelves {D : Type} [Device D] [Graphics D] :
    KeepsShelves (act : GpuAct → D → D) := by
  intro a d id plate hid
  have houtlives := (a.moves (gpu d)).outlives
  rw [← acts] at houtlives
  exact houtlives.shelved hid

namespace Host

variable {D A : Type} [Device D] [ProgramShelf D] {host : Host D} {act : A → D → D}

/-- An operation takes nothing from what was noted, and what is noted stays true. -/
theorem stepHook_stocks (hact : KeepsShelves act) (h : host.engine.renderer.Stocks)
    (op : HookOp D A) :
    (host.stepHook act op).engine.renderer.Stocks ∧
      ∀ key id, host.engine.renderer.loaded.get? key = some id →
        (host.stepHook act op).engine.renderer.loaded.get? key = some id := by
  cases op with
  | hook hook =>
    have hsteps := host.engine.hook_steps hook
    exact ⟨hsteps.stocks h, fun _ _ => hsteps.loaded⟩
  | session op =>
    have hop : op.calls (fun _ => true) = true := by cases op <;> rfl
    rcases host.step_renderer (fun _ _ => rfl) act hop (Or.inl trivial) with hsteps | ⟨a, -, heq⟩
    · exact ⟨hsteps.stocks h, fun _ _ => hsteps.loaded⟩
    · simp only [stepHook, heq]
      exact ⟨h.withDevice (hact a _), fun _ _ hid => hid⟩

theorem runHooks_stocks (hact : KeepsShelves act) (h : host.engine.renderer.Stocks)
    (ops : List (HookOp D A)) :
    (host.runHooks act ops).engine.renderer.Stocks ∧
      ∀ key id, host.engine.renderer.loaded.get? key = some id →
        (host.runHooks act ops).engine.renderer.loaded.get? key = some id := by
  refine runHooks_keep (P := fun host' => host'.engine.renderer.Stocks ∧
    ∀ key id, host.engine.renderer.loaded.get? key = some id →
      host'.engine.renderer.loaded.get? key = some id) (fun host' op _ h' => ?_) ⟨h, fun _ _ => id⟩
  obtain ⟨hstocks, hgrows⟩ := stepHook_stocks hact h'.1 op
  exact ⟨hstocks, fun key id hid => hgrows key id (h'.2 key id hid)⟩

omit [ProgramShelf D] in
/-- A session that was set up has loaded nothing. -/
theorem loaded_of_create {device : D} {settings : Settings} {compiler : Compiler} {now : Int}
    {session : Session D} {engine : Engine D}
    (hcreate : Session.create device settings compiler now = (.ok session, engine)) :
    session.engine.renderer.loaded = ∅ := by
  refine Session.create_keep (P := fun e => e.renderer.loaded = ∅) ?_ ?_ hcreate rfl
  · intro e e' hstep he
    rcases hstep.renderer_cases with heq | ⟨notices, heq⟩ | ⟨c, _, heq⟩ <;> rw [heq] <;> exact he
  · intro e name type he
    obtain ⟨parameters, notices, heq⟩ := e.tunes_createVirtual name type
    rw [heq]
    exact he

end Host

end ShaderEffects
