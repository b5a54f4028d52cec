import Mathlib.Logic.Relation
import Mathlib.Tactic.SplitIfs
import ShaderEffects.Renderer.Draw

/-!
# A renderer, step by step

Whatever a renderer is asked to do, it does in small steps: a call of its device,
the loading of a program, a value handed to a program that is bound. Each function
of the renderer is a run of such steps, also where it fails, so a property that
every step keeps holds after any drawing.
-/
namespace ShaderEffects

open Relation

/-! ## What comes to a list -/

/-- Things were added at the end of a list, all of them of one kind. -/
def Appends {α : Type} (P : α → Prop) (before after : List α) : Prop :=
  ∃ added, after = before ++ added ∧ ∀ x ∈ added, P x

theorem Appends.refl {α : Type} {P : α → Prop} (xs : List α) : Appends P xs xs :=
  ⟨[], (List.append_nil xs).symm, fun _ h => absurd h List.not_mem_nil⟩

theorem Appends.trans {α : Type} {P : α → Prop} {xs ys zs : List α} (h₁ : Appends P xs ys)
    (h₂ : Appends P ys zs) : Appends P xs zs := by
  obtain ⟨added, rfl, hadded⟩ := h₁
  obtain ⟨later, rfl, hlater⟩ := h₂
  refine ⟨added ++ later, List.append_assoc .., fun x hx => ?_⟩
  exact (List.mem_append.mp hx).elim (hadded x) (hlater x)

theorem appends_concat {α : Type} {P : α → Prop} (xs : List α) {x : α} (h : P x) :
    Appends P xs (xs ++ [x]) := ⟨[x], rfl, List.forall_mem_singleton.mpr h⟩

/-! ## Steps -/

/-- A call that may change a device. -/
inductive DeviceCall (D : Type) [Device D] where
  | validate (programs : List Program)
  | createTexture (name : String) (desc : TextureDesc)
  | loadTexture (files : FileTree) (name path : String)
  | loadProgram (program : Program)
  | bind (stage : Stage) (program : ProgramId)
  | unbind (stage : Stage)
  | setConstants (program : ProgramId) (register : Nat) (values : List Float32)
  | setSampler (program : ProgramId) (slot : Nat) (texture : TextureId)
  | setTarget (surface : Surface)
  | restore (state : Device.HostState D)
  | enterEffectState
  | draw (geometry : Geometry)
  | copy (source destination : Surface)

namespace DeviceCall

variable {D : Type} [Device D]

/-- The device after a call. -/
def perform (d : D) : DeviceCall D → D
  | .validate programs => (Device.validate d programs).2
  | .createTexture name desc => (Device.createTexture d name desc).2
  | .loadTexture files name path => (Device.loadTexture d files name path).2.1
  | .loadProgram program => (Device.loadProgram d program).2
  | .bind stage program => (Device.bind d stage program).2
  | .unbind stage => Device.unbind d stage
  | .setConstants program register values => Device.setConstants d program register values
  | .setSampler program slot texture => Device.setSampler d program slot texture
  | .setTarget surface => (Device.setTarget d surface).2
  | .restore state => Device.restore d state
  | .enterEffectState => Device.enterEffectState d
  | .draw geometry => (Device.draw d geometry).2
  | .copy source destination => (Device.copy d source destination).2

/-- Whether a call writes no numbers to a program. -/
def leavesConstants : DeviceCall D → Bool
  | .setConstants .. => false
  | _ => true

/-- Whether a call puts no texture into a slot of a program. -/
def leavesSamplers : DeviceCall D → Bool
  | .setSampler .. => false
  | _ => true

/-- Whether a call has nothing to do with programs. -/
def sparesPrograms : DeviceCall D → Bool
  | .loadProgram _ => false
  | .bind .. => false
  | .unbind _ => false
  | .setConstants .. => false
  | .setSampler .. => false
  | _ => true

/-- Whether a call binds no program. -/
def bindsNothing : DeviceCall D → Bool
  | .bind .. => false
  | _ => true

/-- Whether a call only makes a texture or asks whether programs go together. -/
def prepares : DeviceCall D → Bool
  | .validate _ => true
  | .createTexture .. => true
  | .loadTexture .. => true
  | _ => false

/-- Whether a call loads a program, binds one or frees a stage. -/
def binds : DeviceCall D → Bool
  | .loadProgram _ => true
  | .bind .. => true
  | .unbind _ => true
  | _ => false

/-- Whether a call is one that drawing takes. Values go to programs on their own way. -/
def draws : DeviceCall D → Bool
  | .setConstants .. => false
  | .setSampler .. => false
  | c => !c.prepares

theorem leavesConstants_of_draws {c : DeviceCall D} (h : c.draws = true) :
    c.leavesConstants = true := by
  cases c <;> first | rfl | cases h

theorem draws_of_binds {c : DeviceCall D} (h : c.binds = true) : c.draws = true := by
  cases c <;> first | rfl | cases h

end DeviceCall

namespace Renderer

variable {D : Type} [Device D]

/-- What is kept of a bound program is what was loaded. -/
def Knows (r : Renderer D) (b : BoundProgram) : Prop :=
  ∃ key, r.loaded.get? key = some b.id ∧ b.constants = key.constants

/-- One step of a renderer that makes calls of one kind only, and that hands values to
bound programs only if `hands`. -/
inductive StepBy (kind : DeviceCall D → Bool) (hands : Prop) : Renderer D → Renderer D → Prop
  | note (r : Renderer D) (notices : List Notice) : StepBy kind hands r (r.note notices)
  | quad (r : Renderer D) (quad : FullscreenQuad) : StepBy kind hands r { r with quad }
  | call (r : Renderer D) {c : DeviceCall D} : kind c = true →
      StepBy kind hands r { r with device := c.perform r.device }
  | load {r : Renderer D} {p : Program} {id : ProgramId} {device : D} :
      r.loaded.get? p.key = none → Device.loadProgram r.device p = (.ok id, device) →
      StepBy kind hands r { r with device, loaded := r.loaded.insert p.key id }
  | hold {r : Renderer D} {bound : BoundPass} : (∀ b ∈ bound.programs, r.Knows b) →
      StepBy kind hands r { r with bound := some bound }
  | free (r : Renderer D) : StepBy kind hands r { r with bound := none }
  | upload {r : Renderer D} {bound : BoundPass} {b : BoundProgram} {scene : Scene}
      {p : Parameter} {u : Upload} : hands → r.bound = some bound → b ∈ bound.programs →
      Upload.of? scene p b = some u → StepBy kind hands r { r with device := u.apply r.device }

/-- A run of steps that make calls of one kind only, and hand values over only if `hands`. -/
def StepsBy (kind : DeviceCall D → Bool) (hands : Prop) : Renderer D → Renderer D → Prop :=
  ReflTransGen (StepBy kind hands)

/-- One step of a renderer that draws. -/
abbrev Step : Renderer D → Renderer D → Prop := StepBy DeviceCall.draws True

/-- A run of steps of a renderer that draws. -/
abbrev Steps : Renderer D → Renderer D → Prop := StepsBy DeviceCall.draws True

section kinds

variable {kind wider : DeviceCall D → Bool} {hands more : Prop}

theorem StepsBy.refl (r : Renderer D) : r.StepsBy kind hands r := ReflTransGen.refl

theorem StepBy.steps {r r' : Renderer D} (h : r.StepBy kind hands r') :
    r.StepsBy kind hands r' := ReflTransGen.single h

theorem StepsBy.trans {r₁ r₂ r₃ : Renderer D} (h₁ : r₁.StepsBy kind hands r₂)
    (h₂ : r₂.StepsBy kind hands r₃) : r₁.StepsBy kind hands r₃ := ReflTransGen.trans h₁ h₂

/-- What every step keeps, every run of steps keeps. -/
theorem StepsBy.keep {P : Renderer D → Prop}
    (hP : ∀ r r', r.StepBy kind hands r' → P r → P r') {r r' : Renderer D}
    (h : r.StepsBy kind hands r') (hr : P r) : P r' := by
  induction h with
  | refl => exact hr
  | tail _ hstep ih => exact hP _ _ hstep ih

theorem StepBy.mono (hkind : ∀ c, kind c = true → wider c = true) (hmore : hands → more)
    {r r' : Renderer D} (h : r.StepBy kind hands r') : r.StepBy wider more r' := by
  cases h with
  | note notices => exact .note r notices
  | quad quad => exact .quad r quad
  | call hc => exact .call r (hkind _ hc)
  | load hnew hload => exact .load hnew hload
  | hold hknows => exact .hold hknows
  | free => exact .free r
  | upload hhands hbound hmem hu => exact .upload (hmore hhands) hbound hmem hu

/-- Steps with calls of one kind are steps with calls of a wider kind. -/
theorem StepsBy.mono (hkind : ∀ c, kind c = true → wider c = true) (hmore : hands → more)
    {r r' : Renderer D} (h : r.StepsBy kind hands r') : r.StepsBy wider more r' :=
  h.keep (P := fun r' => r.StepsBy wider more r')
    (fun _ _ hstep hsteps => hsteps.trans (hstep.mono hkind hmore).steps) (.refl r)

/-- Steps that hand nothing over are steps. -/
theorem StepsBy.of_quiet {r r' : Renderer D} (h : r.StepsBy kind False r') :
    r.StepsBy kind hands r' := h.mono (fun _ hc => hc) False.elim

theorem note_stepsBy (r : Renderer D) (notices : List Notice) :
    r.StepsBy kind hands (r.note notices) := (StepBy.note r notices).steps

/-- What the calls of a kind and those about programs keep of a device, every run of steps
that makes calls of that kind keeps. -/
theorem StepsBy.device_keep {P : D → Prop}
    (hP : ∀ (d : D) (c : DeviceCall D), kind c = true ∨ c.sparesPrograms = false →
      P d → P (c.perform d))
    {r r' : Renderer D} (h : r.StepsBy kind hands r') (hr : P r.device) : P r'.device := by
  refine h.keep (P := fun r => P r.device) (fun r₁ r₂ hstep hr₁ => ?_) hr
  cases hstep with
  | note | quad | hold | free => exact hr₁
  | call hc => exact hP _ _ (Or.inl hc) hr₁
  | @load p _ _ _ hload =>
    have hperform := hP r₁.device (.loadProgram p) (Or.inr rfl) hr₁
    simpa only [DeviceCall.perform, hload] using hperform
  | @upload _ _ _ _ u _ _ _ _ =>
    cases u with
    | constants program register values =>
      exact hP _ (.setConstants program register values) (Or.inr rfl) hr₁
    | sampler program slot texture =>
      exact hP _ (.setSampler program slot texture) (Or.inr rfl) hr₁

/-- A program that is loaded stays loaded. -/
theorem StepsBy.loaded {r r' : Renderer D} (h : r.StepsBy kind hands r') {key : ProgramKey}
    {id : ProgramId} (hid : r.loaded.get? key = some id) : r'.loaded.get? key = some id := by
  refine h.keep (P := fun r => r.loaded.get? key = some id) ?_ hid
  intro r₁ r₂ hstep hr₁
  cases hstep with
  | load hnew _ =>
    rw [Table.get?_insert, if_neg ?_]
    · exact hr₁
    · rintro rfl
      rw [hnew] at hr₁
      cases hr₁
  | note | quad | call | hold | free | upload => exact hr₁

end kinds

theorem StepsBy.draw {hands : Prop} {r r' : Renderer D}
    (h : r.StepsBy DeviceCall.binds hands r') : r.Steps r' :=
  h.mono (fun _ => DeviceCall.draws_of_binds) fun _ => trivial

theorem steps_note (r : Renderer D) (notices : List Notice) : r.Steps (r.note notices) :=
  note_stepsBy r notices

/-! ## Loading and binding -/

theorem loadPrograms_steps (r : Renderer D) (programs : List Program) :
    r.StepsBy DeviceCall.binds False (r.loadPrograms programs).2 := by
  induction programs generalizing r with
  | nil => exact .refl r
  | cons p rest ih =>
    rw [loadPrograms]
    cases hloaded : r.loaded.get? p.key with
    | some id =>
      rw [if_pos (by simp [Table.contains, hloaded])]
      exact ih r
    | none =>
      rw [if_neg (by simp [Table.contains, hloaded])]
      rcases hload : Device.loadProgram r.device p with ⟨result, device⟩
      cases result with
      | error cause =>
        have hcall : r.StepBy DeviceCall.binds False
            { r with device := (DeviceCall.loadProgram p).perform r.device } := .call r rfl
        simpa [DeviceCall.perform, hload] using hcall.steps
      | ok id =>
        have hstep : r.StepBy DeviceCall.binds False
            { r with device, loaded := r.loaded.insert p.key id } := .load hloaded hload
        exact (hstep.steps.trans (note_stepsBy _ _)).trans (ih _)

/-- What was loaded without a failure is loaded. -/
theorem loadPrograms_loaded {r : Renderer D} {programs : List Program}
    (h : (r.loadPrograms programs).1 = .ok ()) {p : Program} (hp : p ∈ programs) :
    ∃ id, (r.loadPrograms programs).2.loaded.get? p.key = some id := by
  induction programs generalizing r with
  | nil => exact absurd hp List.not_mem_nil
  | cons q rest ih =>
    have hkeep : ∀ (r₁ : Renderer D) (id : ProgramId), r₁.loaded.get? q.key = some id →
        (r₁.loadPrograms rest).1 = .ok () →
        ∃ id, (r₁.loadPrograms rest).2.loaded.get? p.key = some id := by
      intro r₁ id hq hok
      rcases List.mem_cons.mp hp with rfl | hrest
      · exact ⟨id, (loadPrograms_steps r₁ rest).loaded hq⟩
      · exact ih hok hrest
    rw [loadPrograms] at h ⊢
    cases hid : r.loaded.get? q.key with
    | some id =>
      rw [if_pos (by simp [Table.contains, hid])] at h ⊢
      exact hkeep r id hid h
    | none =>
      rw [if_neg (by simp [Table.contains, hid])] at h ⊢
      rcases hload : Device.loadProgram r.device q with ⟨cause | id, device⟩
      · simp [hload] at h
      · simp only [hload] at h ⊢
        exact hkeep _ id (by simp [note]) h

theorem unbindAll_steps (r : Renderer D) (programs : List BoundProgram) :
    r.StepsBy DeviceCall.binds False { r with device := unbindAll r.device programs } := by
  induction programs generalizing r with
  | nil => exact .refl r
  | cons b rest ih =>
    have hcall : r.StepBy DeviceCall.binds False
        { r with device := (DeviceCall.unbind b.stage).perform r.device } := .call r rfl
    exact hcall.steps.trans (ih _)

theorem unbindPass_steps (r : Renderer D) : r.StepsBy DeviceCall.binds False r.unbindPass := by
  unfold unbindPass
  cases hbound : r.bound with
  | none => exact .refl r
  | some bound =>
    have hfree : r.StepBy DeviceCall.binds False { r with bound := none } := .free r
    exact hfree.steps.trans (unbindAll_steps { r with bound := none } bound.programs)

theorem bindProgram_steps (r : Renderer D) (p : Program) :
    r.StepsBy DeviceCall.binds False (r.bindProgram p).2 := by
  unfold bindProgram
  cases r.loaded.get? p.key with
  | none => exact .refl r
  | some id =>
    have hcall : r.StepBy DeviceCall.binds False
        { r with device := (DeviceCall.bind p.stage id).perform r.device } := .call r rfl
    rcases hbind : Device.bind r.device p.stage id with ⟨result, device⟩
    have hstep : r.StepBy DeviceCall.binds False { r with device } := by
      simpa [DeviceCall.perform, hbind] using hcall
    cases result <;> simpa [hbind] using hstep.steps

@[simp] theorem bindProgram_loaded (r : Renderer D) (p : Program) :
    (r.bindProgram p).2.loaded = r.loaded := by
  unfold bindProgram
  cases r.loaded.get? p.key with
  | none => rfl
  | some id =>
    rcases hbind : Device.bind r.device p.stage id with ⟨_ | _, device⟩ <;> simp [hbind]

theorem bindProgram_knows {r r' : Renderer D} {p : Program} {id : ProgramId}
    (h : r.bindProgram p = (.ok id, r')) : r.loaded.get? p.key = some id := by
  unfold bindProgram at h
  cases hloaded : r.loaded.get? p.key with
  | none => simp [hloaded] at h
  | some known =>
    rw [hloaded] at h
    rcases hbind : Device.bind r.device p.stage known with ⟨_ | _, device⟩
    · simp [hbind] at h
    · simp only [hbind, Prod.mk.injEq, Except.ok.injEq] at h
      rw [h.1]

theorem bindPrograms_steps (r : Renderer D) (done : List BoundProgram) (programs : List Program) :
    r.StepsBy DeviceCall.binds False (r.bindPrograms done programs).2 := by
  induction programs generalizing r done with
  | nil => exact .refl r
  | cons p rest ih =>
    rw [bindPrograms]
    have hstep := bindProgram_steps r p
    rcases hbind : r.bindProgram p with ⟨result, r'⟩
    rw [hbind] at hstep
    cases result with
    | error cause => exact hstep.trans (unbindAll_steps r' done)
    | ok id => exact hstep.trans (ih r' _)

omit [Device D] in
theorem knows_congr {r₁ r₂ : Renderer D} (h : r₁.loaded = r₂.loaded) {b : BoundProgram}
    (hb : r₁.Knows b) : r₂.Knows b := by
  obtain ⟨key, hkey, hconstants⟩ := hb
  exact ⟨key, h ▸ hkey, hconstants⟩

/-- What is bound is what one of the programs was loaded as, and binding loads nothing. -/
theorem mem_bindPrograms {r r' : Renderer D} {done bound : List BoundProgram}
    {programs : List Program} (h : r.bindPrograms done programs = (.ok bound, r')) :
    r'.loaded = r.loaded ∧ ∀ b ∈ bound, b ∈ done ∨
      ∃ p ∈ programs, r.loaded.get? p.key = some b.id ∧ b.constants = p.constants := by
  induction programs generalizing r done with
  | nil =>
    simp only [bindPrograms, Prod.mk.injEq, Except.ok.injEq] at h
    obtain ⟨rfl, rfl⟩ := h
    exact ⟨rfl, fun b hb => Or.inl hb⟩
  | cons p rest ih =>
    rw [bindPrograms] at h
    rcases hbind : r.bindProgram p with ⟨result, r₁⟩
    have hloaded : r₁.loaded = r.loaded := by simpa [hbind] using bindProgram_loaded r p
    rw [hbind] at h
    cases result with
    | error cause => simp at h
    | ok id =>
      obtain ⟨hsame, hmem⟩ := ih h
      rw [hloaded] at hsame hmem
      refine ⟨hsame, fun b hb => ?_⟩
      rcases hmem b hb with hdone | ⟨q, hq, hknown⟩
      · rcases List.mem_append.mp hdone with hold | hnew
        · exact Or.inl hold
        · obtain rfl := List.mem_singleton.mp hnew
          exact Or.inr ⟨p, List.mem_cons_self, bindProgram_knows hbind, rfl⟩
      · exact Or.inr ⟨q, List.mem_cons_of_mem p hq, hknown⟩

theorem foldl_upload_steps {kind : DeviceCall D → Bool} {r : Renderer D} {bound : BoundPass}
    (hbound : r.bound = some bound) {scene : Scene} {p : Parameter} (us : List Upload)
    (hus : ∀ u ∈ us, ∃ b ∈ bound.programs, Upload.of? scene p b = some u) :
    r.StepsBy kind True { r with device := us.foldl Upload.apply r.device } := by
  induction us generalizing r with
  | nil => exact .refl r
  | cons u us ih =>
    obtain ⟨b, hb, hu⟩ := hus u List.mem_cons_self
    have hstep : r.StepBy kind True { r with device := u.apply r.device } :=
      .upload trivial hbound hb hu
    refine hstep.steps.trans (ih (r := { r with device := u.apply r.device }) hbound ?_)
    exact fun v hv => hus v (List.mem_cons_of_mem u hv)

theorem applyParameter_steps {kind : DeviceCall D → Bool} (r : Renderer D) (scene : Scene)
    (id : ParameterId) : r.StepsBy kind True (r.applyParameter scene id) := by
  have huploads : r.uploads scene id = [] ∨ ∃ bound p, r.bound = some bound ∧
      r.uploads scene id = bound.programs.filterMap (Upload.of? scene p) := by
    unfold uploads
    cases r.bound with
    | none => exact Or.inl rfl
    | some bound =>
      cases scene.parameters.get? id with
      | none => exact Or.inl rfl
      | some p => exact Or.inr ⟨bound, p, rfl, rfl⟩
  unfold applyParameter
  rcases huploads with hnil | ⟨bound, p, hbound, hus⟩
  · rw [hnil]
    exact .refl r
  · rw [hus]
    exact foldl_upload_steps hbound _ fun u hu => List.mem_filterMap.mp hu

theorem foldl_applyParameter_steps {kind : DeviceCall D → Bool} (r : Renderer D) (scene : Scene)
    (ids : List ParameterId) :
    r.StepsBy kind True (ids.foldl (fun r id => r.applyParameter scene id) r) := by
  induction ids generalizing r with
  | nil => exact .refl r
  | cons id ids ih => exact (applyParameter_steps r scene id).trans (ih _)

/-- No value is handed over before all programs of a pass are bound. A pass that cannot be
bound hands none over. -/
theorem bindPass_cases (r : Renderer D) (scene : Scene) (effect : Effect) (pass : Pass) :
    (∃ e r', r.bindPass scene effect pass = (.error e, r') ∧
        r.StepsBy DeviceCall.binds False r') ∨
      ∃ r₁ r₂ bound, r.unbindPass.loadPrograms pass.programs = (.ok (), r₁) ∧
        r₁.bindPrograms [] pass.programs = (.ok bound.programs, r₂) ∧
        r.StepsBy DeviceCall.binds False { r₂ with bound := some bound } ∧
        r.bindPass scene effect pass = (.ok (), effect.parameterIds.foldl
          (fun r id => r.applyParameter scene id) { r₂ with bound := some bound }) := by
  unfold bindPass loadPass
  have hload := (unbindPass_steps r).trans (loadPrograms_steps r.unbindPass pass.programs)
  rcases hl : r.unbindPass.loadPrograms pass.programs with ⟨e | _, r₁⟩ <;> rw [hl] at hload
  · exact Or.inl ⟨e, r₁, rfl, hload⟩
  have hbind := hload.trans (bindPrograms_steps r₁ [] pass.programs)
  rcases hb : r₁.bindPrograms [] pass.programs with ⟨e | programs, r₂⟩ <;> rw [hb] at hbind
  · exact Or.inl ⟨e, r₂, by simp only [hb], hbind⟩
  obtain ⟨hsame, hmem⟩ := mem_bindPrograms hb
  have hknown : ∀ b ∈ programs, r₁.Knows b := by
    intro b hb
    obtain ⟨p, _, hid, hconstants⟩ := (hmem b hb).resolve_left List.not_mem_nil
    exact ⟨p.key, hid, hconstants⟩
  have hhold : ∀ label,
      r₂.StepBy DeviceCall.binds False { r₂ with bound := some ⟨label, programs⟩ } := fun label =>
    .hold fun b hmem => knows_congr hsame.symm (hknown b hmem)
  refine Or.inr ⟨r₁, r₂, ⟨effect.name ++ "/" ++ pass.technique ++ "/" ++ pass.name, programs⟩,
    rfl, hb, hbind.trans (hhold _).steps, ?_⟩
  simp only [hb]

/-- Binding a pass takes nothing but calls that load and bind programs. -/
theorem bindPass_steps (r : Renderer D) (scene : Scene) (effect : Effect) (pass : Pass) :
    r.StepsBy DeviceCall.binds True (r.bindPass scene effect pass).2 := by
  rcases bindPass_cases r scene effect pass with ⟨e, r', heq, hsteps⟩ |
    ⟨r₁, r₂, bound, _, _, hsteps, heq⟩
  · rw [heq]
    exact hsteps.of_quiet
  · rw [heq]
    exact hsteps.of_quiet.trans (foldl_applyParameter_steps _ scene _)

/-! ## What is bound -/

@[simp] theorem loadPrograms_bound (r : Renderer D) (programs : List Program) :
    (r.loadPrograms programs).2.bound = r.bound := by
  induction programs generalizing r with
  | nil => rfl
  | cons p rest ih =>
    rw [loadPrograms]
    split_ifs
    · exact ih r
    · rcases Device.loadProgram r.device p with ⟨_ | id, device⟩
      · rfl
      · exact ih _

@[simp] theorem bindProgram_bound (r : Renderer D) (p : Program) :
    (r.bindProgram p).2.bound = r.bound := by
  unfold bindProgram
  cases r.loaded.get? p.key with
  | none => rfl
  | some id =>
    rcases hbind : Device.bind r.device p.stage id with ⟨_ | _, device⟩ <;> simp [hbind]

@[simp] theorem bindPrograms_bound (r : Renderer D) (done : List BoundProgram)
    (programs : List Program) : (r.bindPrograms done programs).2.bound = r.bound := by
  induction programs generalizing r done with
  | nil => rfl
  | cons p rest ih =>
    rw [bindPrograms]
    have hbound := bindProgram_bound r p
    rcases hbind : r.bindProgram p with ⟨_ | id, r'⟩ <;> rw [hbind] at hbound
    · exact hbound
    · exact (ih r' _).trans hbound

@[simp] theorem unbindPass_bound (r : Renderer D) : r.unbindPass.bound = none := by
  unfold unbindPass
  cases hbound : r.bound with
  | none => exact hbound
  | some bound => rfl

/-- A pass that cannot be bound leaves none bound. -/
theorem bindPass_bound_of_error {r : Renderer D} {scene : Scene} {effect : Effect} {pass : Pass}
    {e : BindError} (h : (r.bindPass scene effect pass).1 = .error e) :
    (r.bindPass scene effect pass).2.bound = none := by
  unfold bindPass loadPass at h ⊢
  have hload : (r.unbindPass.loadPrograms pass.programs).2.bound = none := by simp
  rcases hl : r.unbindPass.loadPrograms pass.programs with ⟨_ | _, r₁⟩
  · rw [hl] at hload
    exact hload
  · rw [hl] at hload
    have hbind := bindPrograms_bound r₁ [] pass.programs
    simp only [hl] at h ⊢
    rcases hb : r₁.bindPrograms [] pass.programs with ⟨_ | programs, r₂⟩
    · rw [hb] at hbind
      exact hbind.trans hload
    · simp [hb] at h

theorem connected_steps {kind : DeviceCall D → Bool} (r : Renderer D) (scene : Scene)
    (id : ParameterId) : r.StepsBy kind True (r.connected scene id).2 := by
  unfold connected
  cases scene.parameters.get? id with
  | none => exact .refl r
  | some p =>
    simp only
    cases p.category with
    | sampler => exact applyParameter_steps r scene id
    | scalar => exact note_stepsBy r _

/-- Where no pass is bound, a value is handed to no program. -/
theorem applyParameter_of_unbound {r : Renderer D} (hbound : r.bound = none) (scene : Scene)
    (id : ParameterId) : r.applyParameter scene id = r := by
  have huploads : r.uploads scene id = [] := by simp [uploads, hbound]
  rw [applyParameter, huploads]
  rfl

theorem connected_of_unbound {r : Renderer D} (hbound : r.bound = none) (scene : Scene)
    (id : ParameterId) : ∃ notices, (r.connected scene id).2 = r.note notices := by
  have hsame : r.note [] = r := by simp [note]
  unfold connected
  cases scene.parameters.get? id with
  | none => exact ⟨[], hsame.symm⟩
  | some p =>
    simp only
    cases p.category with
    | sampler => exact ⟨[], by rw [applyParameter_of_unbound hbound, hsame]⟩
    | scalar => exact ⟨_, rfl⟩

end Renderer

end ShaderEffects
