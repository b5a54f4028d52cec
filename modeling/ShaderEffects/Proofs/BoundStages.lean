import ShaderEffects.Proofs.CompiledEffects
import ShaderEffects.Proofs.PassContents
import ShaderEffects.Proofs.RendererTurns

/-!
# The bound pass and the stages of the device

A renderer notes which pass is bound, and the device which program each stage has. The
two agree after every turn of the renderer, also if a program of a pass could not be
loaded or bound, and also on a device that is lost.
-/
namespace ShaderEffects

/-- Whether a call neither binds a program nor frees a stage. -/
def DeviceCall.leavesStages {D : Type} [Device D] : DeviceCall D → Bool
  | .bind .. => false
  | .unbind _ => false
  | _ => true

namespace HeadlessDevice

variable {d d' : HeadlessDevice}

/-- The stages of the device have these programs and no others. -/
def Carries (d : HeadlessDevice) (programs : List BoundProgram) : Prop :=
  ∀ stage id, d.bound.get? stage = some id ↔ ∃ b ∈ programs, b.stage = stage ∧ b.id = id

theorem carries_nil_iff (d : HeadlessDevice) : d.Carries [] ↔ Free d := by
  simp only [Carries, Free, List.not_mem_nil, false_and, exists_false, iff_false,
    Option.eq_none_iff_forall_ne_some, ne_eq]

theorem Carries.congr {programs : List BoundProgram} (h : d.Carries programs)
    (hbound : d'.bound = d.bound) : d'.Carries programs := by
  intro stage id
  rw [hbound]
  exact h stage id

theorem Carries.unbindAll {programs : List BoundProgram} (h : d.Carries programs) :
    Free (Renderer.unbindAll d programs) := by
  obtain ⟨stages, calls, heq, hstages⟩ := Renderer.unbindAll_eq d programs
  intro stage
  rw [heq]
  simp only [hstages]
  split_ifs with hmem
  · rfl
  · refine Option.eq_none_iff_forall_ne_some.mpr fun id hid => hmem ?_
    obtain ⟨b, hb, hstage, _⟩ := (h stage id).mp hid
    exact List.mem_map.mpr ⟨b, hb, hstage⟩

/-- A stage without a program gets one. -/
theorem Carries.bind {programs : List BoundProgram} (h : d.Carries programs) {stage : Stage}
    {id : ProgramId} (constants : ConstantTable) (hnew : stage ∉ programs.map (·.stage))
    (hbind : d.bind stage id = (.ok (), d')) :
    d'.Carries (programs ++ [⟨stage, id, constants⟩]) := by
  have hbound : d'.bound = d.bound.insert stage id := by
    rcases bind_cases d stage id with ⟨e, heq⟩ | ⟨label, heq⟩
    · simp [heq] at hbind
    · rw [heq] at hbind
      cases hbind
      rfl
  intro other k
  rw [hbound, Table.get?_insert]
  simp only [List.mem_append, List.mem_singleton, or_and_right, exists_or, exists_eq_left]
  split_ifs with hsame
  · subst hsame
    have hnone : ¬ ∃ b ∈ programs, b.stage = other ∧ b.id = k := by
      rintro ⟨b, hb, hstage, _⟩
      exact hnew (List.mem_map.mpr ⟨b, hb, hstage⟩)
    simp [hnone]
  · rw [h other k]
    simp [Ne.symm hsame]

/-- Only a bind and an unbind change the stages. -/
theorem bound_perform (d : HeadlessDevice) {c : DeviceCall HeadlessDevice}
    (hc : c.leavesStages = true) : (c.perform d).bound = d.bound := by
  cases hspares : c.sparesPrograms with
  | true => exact (spares_perform d hspares).bound
  | false =>
    cases c with
    | bind | unbind => cases hc
    | validate | createTexture | loadTexture | setTarget | restore | enterEffectState | draw
    | copy => cases hspares
    | setConstants | setSampler => rfl
    | loadProgram p =>
      simp only [DeviceCall.perform, device_loadProgram]
      rcases loadProgram_cases d p with ⟨e, heq⟩ | heq <;> rw [heq]

end HeadlessDevice

namespace Renderer

open HeadlessDevice

variable {r r' : Renderer HeadlessDevice}

/-- The programs of the pass that is bound. -/
def boundPrograms {D : Type} (r : Renderer D) : List BoundProgram :=
  (r.bound.map (·.programs)).getD []

/-- Each stage has the program that the bound pass has for it, and no other. -/
def InStep (r : Renderer HeadlessDevice) : Prop := r.device.Carries r.boundPrograms

theorem InStep.congr (h : r.InStep) (hbound : r'.bound = r.bound)
    (hstages : r'.device.bound = r.device.bound) : r'.InStep := by
  unfold InStep boundPrograms
  rw [hbound]
  exact Carries.congr h hstages

theorem inStep_of_free (hbound : r.bound = none) (hfree : Free r.device) : r.InStep := by
  unfold InStep boundPrograms
  rw [hbound]
  exact (carries_nil_iff r.device).mpr hfree

/-! ## Binding and freeing -/

theorem InStep.free_unbindPass (h : r.InStep) : Free r.unbindPass.device := by
  unfold InStep boundPrograms at h
  unfold Renderer.unbindPass
  cases hbound : r.bound with
  | none =>
    rw [hbound] at h
    exact (carries_nil_iff r.device).mp h
  | some bound =>
    rw [hbound] at h
    exact Carries.unbindAll h

/-- Loading programs binds and frees nothing. -/
theorem loadPrograms_stages (r : Renderer HeadlessDevice) (programs : List Program) :
    (r.loadPrograms programs).2.device.bound = r.device.bound := by
  induction programs generalizing r with
  | nil => rfl
  | cons p rest ih =>
    rw [loadPrograms]
    split_ifs
    · exact ih r
    · rw [device_loadProgram]
      rcases loadProgram_cases r.device p with ⟨e, heq⟩ | heq
      · simp [heq]
      · simp only [heq]
        exact ih _

theorem bindProgram_cases (r : Renderer HeadlessDevice) (p : Program) :
    (∃ e, r.bindProgram p = (.error e, r)) ∨
      ∃ id device, r.loaded.get? p.key = some id ∧ r.device.bind p.stage id = (.ok (), device) ∧
        r.bindProgram p = (.ok id, { r with device }) := by
  unfold bindProgram
  cases hid : r.loaded.get? p.key with
  | none => exact Or.inl ⟨_, rfl⟩
  | some id =>
    simp only [device_bind]
    rcases bind_cases r.device p.stage id with ⟨e, heq⟩ | ⟨label, heq⟩
    · simp only [heq]
      exact Or.inl ⟨e, rfl⟩
    · exact Or.inr ⟨id, _, rfl, heq, by simp only [heq]⟩

/-- Programs are bound one by one. A failure frees those of the same pass again. -/
theorem bindPrograms_carries {done : List BoundProgram} {programs : List Program}
    (hstages : (done.map (·.stage) ++ programs.map (·.stage)).Nodup)
    (h : r.device.Carries done) :
    (r.bindPrograms done programs).2.loaded = r.loaded ∧
      match (r.bindPrograms done programs).1 with
      | .error _ => Free (r.bindPrograms done programs).2.device
      | .ok bound => (r.bindPrograms done programs).2.device.Carries bound ∧
          ∃ added, bound = done ++ added ∧ added.map (·.stage) = programs.map (·.stage) ∧
            ∀ p ∈ programs, ∃ b ∈ added, b.stage = p.stage ∧ r.loaded.get? p.key = some b.id := by
  induction programs generalizing r done with
  | nil => exact ⟨rfl, h, [], by simp, rfl, fun _ hp => absurd hp List.not_mem_nil⟩
  | cons p rest ih =>
    rw [bindPrograms]
    rcases bindProgram_cases r p with ⟨e, heq⟩ | ⟨id, device, hid, hbind, heq⟩
    · rw [heq]
      exact ⟨rfl, h.unbindAll⟩
    · rw [heq]
      have hnew : p.stage ∉ done.map (·.stage) := by
        intro hmem
        rw [List.map_cons, List.nodup_append] at hstages
        exact hstages.2.2 _ hmem _ List.mem_cons_self rfl
      have hnext : ((done ++ [(⟨p.stage, id, p.constants⟩ : BoundProgram)]).map (·.stage) ++
          rest.map (·.stage)).Nodup := by simpa using hstages
      have hdevice := h.bind p.constants hnew hbind
      obtain ⟨hloaded, hrest⟩ := ih (r := { r with device }) hnext hdevice
      refine ⟨hloaded, ?_⟩
      rcases hresult : ({ r with device } : Renderer HeadlessDevice).bindPrograms
        (done ++ [⟨p.stage, id, p.constants⟩]) rest with ⟨e | bound, r₁⟩
      · rw [hresult] at hrest
        simpa only [hresult] using hrest
      · rw [hresult] at hrest
        obtain ⟨hcarries, added, rfl, hadded, hall⟩ := hrest
        simp only [hresult]
        refine ⟨hcarries, ⟨p.stage, id, p.constants⟩ :: added, by simp, by simp [hadded], ?_⟩
        intro q hq
        rcases List.mem_cons.mp hq with rfl | hmem
        · exact ⟨_, List.mem_cons_self, rfl, hid⟩
        · obtain ⟨b, hb, hknown⟩ := hall q hmem
          exact ⟨b, List.mem_cons_of_mem _ hb, hknown⟩

/-- What binding a pass leaves bound: nothing if it fails, and otherwise the programs of the
pass, each on its stage, and nothing on any other stage. -/
structure Binds (pass : Pass) (result : Except BindError Unit × Renderer HeadlessDevice) : Prop where
  failed : ∀ e, result.1 = .error e → result.2.bound = none ∧ Free result.2.device
  bound : result.1 = .ok () → ∃ bound, result.2.bound = some bound
  stages : result.1 = .ok () → ∀ program ∈ pass.programs, ∃ id,
    result.2.loaded.get? program.key = some id ∧
      result.2.device.bound.get? program.stage = some id
  others : result.1 = .ok () → ∀ stage, stage ∉ pass.programs.map (·.stage) →
    result.2.device.bound.get? stage = none

theorem InStep.bindPass (h : r.InStep) (scene : Scene) (effect : Effect) {pass : Pass}
    (hstages : pass.Staged) :
    (r.bindPass scene effect pass).2.InStep ∧ Binds pass (r.bindPass scene effect pass) := by
  have hfree₁ : Free (r.unbindPass.loadPrograms pass.programs).2.device := fun stage => by
    rw [loadPrograms_stages]
    exact h.free_unbindPass stage
  -- where nothing is bound in the end, nothing else is to be shown
  have hfailed : ∀ {e : BindError} {r' : Renderer HeadlessDevice},
      r.bindPass scene effect pass = (.error e, r') → Free r'.device →
      (r.bindPass scene effect pass).2.InStep ∧ Binds pass (r.bindPass scene effect pass) := by
    intro e r' heq hfree
    have hnone := bindPass_bound_of_error (congrArg Prod.fst heq)
    rw [heq] at hnone ⊢
    refine ⟨inStep_of_free hnone hfree, fun _ _ => ⟨hnone, hfree⟩, ?_, ?_, ?_⟩ <;>
      exact fun hok => by cases hok
  rcases hload : r.unbindPass.loadPrograms pass.programs with ⟨e | _, r₁⟩ <;>
    rw [hload] at hfree₁
  · exact hfailed (e := e) (by simp only [Renderer.bindPass, loadPass, hload]) hfree₁
  have hcarries := @bindPrograms_carries r₁ [] pass.programs hstages
    ((carries_nil_iff r₁.device).mpr hfree₁)
  rcases hbind : r₁.bindPrograms [] pass.programs with ⟨e | bound, r₂⟩ <;> rw [hbind] at hcarries
  · exact hfailed (e := e) (by simp only [Renderer.bindPass, loadPass, hload, hbind]) hcarries.2
  obtain ⟨hloaded, hcarries₂, added, hadded, hsame, hall⟩ := hcarries
  rw [List.nil_append] at hadded
  subst hadded
  obtain ⟨programs, happly, _⟩ := foldl_applyParameter_eq
    { r₂ with
      bound := some ⟨effect.name ++ "/" ++ pass.technique ++ "/" ++ pass.name, bound⟩ }
    scene effect.parameterIds
  simp only [Renderer.bindPass, loadPass, hload, hbind, happly]
  refine ⟨hcarries₂, (fun e he => by cases he), fun _ => ⟨_, rfl⟩, fun _ program hprogram => ?_,
    fun _ stage hstage => ?_⟩
  · obtain ⟨b, hb, hstage, hid⟩ := hall program hprogram
    refine ⟨b.id, ?_, (hcarries₂ program.stage b.id).mpr ⟨b, hb, hstage, rfl⟩⟩
    rw [← hid, ← hloaded]
    rfl
  · refine Option.eq_none_iff_forall_ne_some.mpr fun id hid => hstage ?_
    obtain ⟨b, hb, rfl, _⟩ := (hcarries₂ stage id).mp hid
    rw [← hsame]
    exact List.mem_map.mpr ⟨b, hb, rfl⟩

/-! ## Turns -/

/-- After every turn the bound pass and the stages agree. -/
theorem Turn.inStep {aims : Prop} (hturn : r.Turn Pass.Staged aims r') (h : r.InStep) :
    r'.InStep := by
  have hcall : ∀ {c : DeviceCall HeadlessDevice}, c.leavesStages = true →
      ({ r with device := c.perform r.device } : Renderer HeadlessDevice).InStep :=
    fun hc => h.congr rfl (bound_perform r.device hc)
  cases hturn with
  | note | quad => exact h.congr rfl rfl
  | load pass =>
    exact h.congr (loadPrograms_bound r pass.programs) (loadPrograms_stages r pass.programs)
  | bind scene effect hstaged => exact (h.bindPass scene effect hstaged).1
  | free => exact inStep_of_free (unbindPass_bound r) h.free_unbindPass
  | apply scene id =>
    obtain ⟨programs, happly, _⟩ := foldl_applyParameter_eq r scene [id]
    rw [List.foldl_cons, List.foldl_nil] at happly
    rw [happly]
    exact h.congr rfl rfl
  | draw geometry =>
    refine h.congr rfl ?_
    exact bound_perform { r.device with state := .effect }
      (c := .draw (geometry.getD r.quad.geometry)) rfl
  | copy source destination => exact hcall (c := .copy source destination) rfl
  | aim surface => exact hcall (c := .setTarget surface) rfl

theorem Turns.inStep {aims : Prop} (hturns : r.Turns Pass.Staged aims r') (h : r.InStep) :
    r'.InStep :=
  hturns.keep (fun _ _ hturn => hturn.inStep) h

end Renderer

end ShaderEffects
