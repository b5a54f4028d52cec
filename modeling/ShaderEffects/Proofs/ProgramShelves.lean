import ShaderEffects.Proofs.GraphicsDevices
import ShaderEffects.Proofs.HookRuns
import ShaderEffects.Proofs.KeptPipelines

/-!
# Programs that are loaded once and kept

A device keeps every program it loads under a number of its own. The renderer notes the
number beside what the program was compiled to, and never looks a program up under a number
that the device does not know. So a pass that cannot be bound was refused by the device.
-/
namespace ShaderEffects

open Gpu

/-- What would be wrong with a renderer: it lost track of what it loaded. -/
inductive BindError.Slip (e : BindError) : Prop
  | neverLoaded (h : e.cause = .invalidCall .neverLoaded)
  | unknownProgram (id : ProgramId) (h : e.cause = .invalidCall (.unknownProgram id))
  | wrongStage (label : String) (stage : Stage)
    (h : e.cause = .invalidCall (.wrongStage label stage))

/-- A device that keeps what it loads. -/
class ProgramShelf (D : Type) [Device D] where
  /-- The label and the stage of a program that was loaded. -/
  shelved : D → ProgramId → Option (String × Stage)
  /-- The device itself does not load or bind a program. -/
  Refuses : D → BindError → Prop
  keep : ∀ (d : D) (c : DeviceCall D) {id : ProgramId} {plate : String × Stage},
    shelved d id = some plate → shelved (c.perform d) id = some plate
  load : ∀ {d d' : D} {p : Program} {id : ProgramId}, Device.loadProgram d p = (.ok id, d') →
    shelved d id = none ∧ shelved d' id = some (p.label, p.stage)
  refuses_keep : ∀ (d : D) (c : DeviceCall D) {e : BindError}, Refuses d e → Refuses (c.perform d) e
  load_refused : ∀ {d d' : D} {p : Program} {cause : DeviceError},
    Device.loadProgram d p = (.error cause, d') → Refuses d ⟨.load, p.stage, p.label, cause⟩
  bind_refused : ∀ {d d' : D} {p : Program} {id : ProgramId} {label : String}
    {cause : DeviceError}, shelved d id = some (label, p.stage) →
    Device.bind d p.stage id = (.error cause, d') → Refuses d ⟨.bind, p.stage, p.label, cause⟩
  not_slip : ∀ {d : D} {e : BindError}, Refuses d e → ¬ e.Slip

/-! ## The device without a screen -/

namespace HeadlessDevice

/-- The label and the stage of a program that was loaded. -/
def shelved (d : HeadlessDevice) (id : ProgramId) : Option (String × Stage) :=
  if id.number < d.nextId then d.plate? id else none

/-- The device is lost, or was told to refuse a program: to load it, or to bind the one it
was loaded as. -/
def Refuses (d : HeadlessDevice) (e : BindError) : Prop :=
  e.cause = .lost ∧ d.lost = true ∨
    match e.step with
    | .load => e.program ∈ d.failingLoads ∧ e.cause = .invalidCall (.rejected e.program)
    | .bind => ∃ label ∈ d.failingBinds, e.cause = .invalidCall (.unbindable label)

variable {d d' : HeadlessDevice}

theorem Refuses.not_slip {e : BindError} (h : d.Refuses e) : ¬ e.Slip := by
  have hcause : e.cause = .lost ∨ (∃ label, e.cause = .invalidCall (.rejected label)) ∨
      ∃ label, e.cause = .invalidCall (.unbindable label) := by
    rcases h with ⟨hlost, _⟩ | hrefused
    · exact Or.inl hlost
    · cases hstep : e.step <;> rw [hstep] at hrefused
      · exact Or.inr (Or.inl ⟨_, hrefused.2⟩)
      · obtain ⟨label, _, hcause⟩ := hrefused
        exact Or.inr (Or.inr ⟨label, hcause⟩)
  rintro (hslip | ⟨_, hslip⟩ | ⟨_, _, hslip⟩) <;> rw [hslip] at hcause <;> simp at hcause

theorem Outlives.shelved (h : d.Outlives d') {id : ProgramId} {plate : String × Stage}
    (hid : d.shelved id = some plate) : d'.shelved id = some plate := by
  unfold HeadlessDevice.shelved at hid ⊢
  split_ifs at hid with hlt
  rw [if_pos (Nat.lt_of_lt_of_le hlt h.nextId_le), h.plates id hlt, hid]

theorem Outlives.refuses (h : d.Outlives d') {e : BindError} (he : d.Refuses e) :
    d'.Refuses e := by
  refine he.imp (fun hlost => ⟨hlost.1, h.lost hlost.2⟩) fun hrefused => ?_
  rw [h.failingLoads, h.failingBinds]
  exact hrefused

theorem shelved_loadProgram {p : Program} {id : ProgramId}
    (h : d.loadProgram p = (.ok id, d')) :
    d.shelved id = none ∧ d'.shelved id = some (p.label, p.stage) := by
  rcases loadProgram_cases d p with ⟨e, heq⟩ | heq <;> rw [heq] at h
  · cases (Prod.mk.inj h).1
  · obtain ⟨hid, rfl⟩ := Prod.mk.inj h
    cases hid
    exact ⟨if_neg (Nat.lt_irrefl _), by simp [shelved, plate?]⟩

theorem refuses_loadProgram {p : Program} {cause : DeviceError}
    (h : d.loadProgram p = (.error cause, d')) :
    d.Refuses ⟨.load, p.stage, p.label, cause⟩ := by
  unfold loadProgram alive at h
  cases hlost : d.lost with
  | true =>
    simp only [hlost, if_true, Prod.mk.injEq, Except.error.injEq] at h
    exact Or.inl ⟨h.1.symm, hlost⟩
  | false =>
    simp only [hlost, Bool.false_eq_true, if_false] at h
    split_ifs at h with hfails
    · simp only [Prod.mk.injEq, Except.error.injEq] at h
      exact Or.inr ⟨hfails, h.1.symm⟩
    · cases (Prod.mk.inj h).1

theorem refuses_bind {p : Program} {id : ProgramId} {label : String} {cause : DeviceError}
    (hid : d.shelved id = some (label, p.stage))
    (h : d.bind p.stage id = (.error cause, d')) :
    d.Refuses ⟨.bind, p.stage, p.label, cause⟩ := by
  have hplate : d.plate? id = some (label, p.stage) := by
    unfold shelved at hid
    split_ifs at hid
    exact hid
  obtain ⟨q, hq, hplated⟩ := Option.map_eq_some_iff.mp hplate
  obtain ⟨rfl, hstage⟩ := Prod.mk.inj hplated
  unfold bind alive at h
  cases hlost : d.lost with
  | true =>
    simp only [hlost, if_true, Prod.mk.injEq, Except.error.injEq] at h
    exact Or.inl ⟨h.1.symm, hlost⟩
  | false =>
    simp only [hlost, Bool.false_eq_true, if_false, hq, hstage, ne_eq, not_true_eq_false] at h
    split_ifs at h with hfails
    · simp only [Prod.mk.injEq, Except.error.injEq] at h
      exact Or.inr ⟨q.label, hfails, h.1.symm⟩
    · simp at h

instance : ProgramShelf HeadlessDevice where
  shelved := shelved
  Refuses := Refuses
  keep := fun d c _ _ hid => (outlives_perform d c).shelved hid
  load := shelved_loadProgram
  refuses_keep := fun d c _ he => (outlives_perform d c).refuses he
  load_refused := refuses_loadProgram
  bind_refused := refuses_bind
  not_slip := Refuses.not_slip

end HeadlessDevice

/-! ## Graphics devices -/

namespace GpuDevice

/-- The label and the stage of a program that was loaded. -/
def shelved (g : GpuDevice) (id : ProgramId) : Option (String × Stage) :=
  if id.number < g.nextId then g.plate? id else none

variable {g g' : GpuDevice}

/-- What every call leaves as it is. -/
structure Outlives (g g' : GpuDevice) : Prop where
  nextId_le : g.nextId ≤ g'.nextId
  lost : g.lost = true → g'.lost = true
  plates : ∀ id, id.number < g.nextId → g'.plate? id = g.plate? id

theorem Outlives.refl (g : GpuDevice) : g.Outlives g := ⟨Nat.le_refl _, id, fun _ _ => rfl⟩

theorem Outlives.trans {g₁ g₂ g₃ : GpuDevice} (h₁ : g₁.Outlives g₂) (h₂ : g₂.Outlives g₃) :
    g₁.Outlives g₃ where
  nextId_le := Nat.le_trans h₁.nextId_le h₂.nextId_le
  lost := fun h => h₂.lost (h₁.lost h)
  plates := fun id hid => by
    rw [h₂.plates id (Nat.lt_of_lt_of_le hid h₁.nextId_le), h₁.plates id hid]

/-- No move takes a program or a loss back. -/
theorem Move.outlives {kind : MoveKind} (h : g.Move kind g') : g.Outlives g' := by
  have hplate : ∀ (g : GpuDevice) id,
      g.plate? id = (g.shape? id).map fun s => (s.label, s.stage) := by
    intro g id
    rw [plate?, shape?, Option.map_map]
    rfl
  refine ⟨h.shapes.1, fun hlost => ?_, fun id hid => by rw [hplate, hplate, h.shapes.2 id hid]⟩
  cases h with
  | upload id => rw [(upload_same g id).2.1, hlost]
  | lose => rfl
  | ask | keep | makeModule | makeLayout | makePipeline | makeBlit | load | bind | unbind | write
  | sample | aim | draw | copy | resize | configure | present => exact hlost

theorem MovesBy.outlives {kinds : MoveKind → Prop} (h : g.MovesBy kinds g') : g.Outlives g' :=
  h.preserve (P := fun g' => g.Outlives g') (fun _ _ _ _ hmove ho => ho.trans hmove.outlives)
    (.refl g)

theorem Outlives.shelved (h : g.Outlives g') {id : ProgramId} {plate : String × Stage}
    (hid : g.shelved id = some plate) : g'.shelved id = some plate := by
  unfold GpuDevice.shelved at hid ⊢
  split_ifs at hid with hlt
  rw [if_pos (Nat.lt_of_lt_of_le hlt h.nextId_le), h.plates id hlt, hid]

theorem plate?_of_shelved {id : ProgramId} {plate : String × Stage}
    (h : g.shelved id = some plate) : g.plate? id = some plate := by
  unfold shelved at h
  split_ifs at h
  exact h

/-- A program that was loaded is bound to its stage, unless the device is lost. -/
theorem lost_of_bind {stage : Stage} {id : ProgramId} {label : String} {cause : DeviceError}
    (hid : g.shelved id = some (label, stage)) (h : g.bind stage id = (.error cause, g')) :
    cause = .lost ∧ g.lost = true := by
  obtain ⟨q, hq, hplated⟩ := Option.map_eq_some_iff.mp (plate?_of_shelved hid)
  obtain ⟨rfl, hstage⟩ := Prod.mk.inj hplated
  unfold bind at h
  cases halive : g.alive with
  | error e =>
    simp only [halive, Prod.mk.injEq, Except.error.injEq] at h
    exact lost_of_alive (h.1 ▸ halive)
  | ok _ => simp [halive, hq, hstage] at h

end GpuDevice

namespace Graphics

variable {D : Type} [Device D] [Graphics D] {d d' : D}

/-- The device is lost, or its interface refuses a shader in words of its own. -/
def Refuses (d : D) (e : BindError) : Prop :=
  e.cause = .lost ∧ (gpu d).lost = true ∨
    e.step = .load ∧ ∃ message, Complaint D message ∧ e.cause = .invalidCall (.refused message)

theorem Refuses.not_slip {e : BindError} (h : Refuses d e) : ¬ e.Slip := by
  have hcause : e.cause = .lost ∨ ∃ message, e.cause = .invalidCall (.refused message) :=
    h.imp And.left fun hrefused => hrefused.2.imp fun _ => And.right
  rintro (hslip | ⟨_, hslip⟩ | ⟨_, _, hslip⟩) <;> rw [hslip] at hcause <;> simp at hcause

theorem shelved_loadProgram {p : Program} {id : ProgramId}
    (h : Device.loadProgram d p = (.ok id, d')) :
    (gpu d).shelved id = none ∧ (gpu d').shelved id = some (p.label, p.stage) := by
  obtain ⟨g, module, hprepares, -, rfl, heq⟩ := loads h
  rw [heq]
  refine ⟨if_neg ?_, by simp [GpuDevice.shelved, GpuDevice.plate?, LoadedProgram.fresh]⟩
  rw [hprepares.backstage.nextId]
  exact Nat.lt_irrefl _

instance : ProgramShelf D where
  shelved d := (gpu d).shelved
  Refuses := Refuses
  keep := fun d c _ _ hid => (moves d c).outlives.shelved hid
  load := shelved_loadProgram
  refuses_keep := fun d c _ he => he.imp_left (And.imp_right (moves d c).outlives.lost)
  load_refused := fun h => (load_refused h).imp_right (And.intro rfl)
  bind_refused := fun {d d' p id label cause} hid h => by
    have hbind := binds d p.stage id
    rw [h] at hbind
    exact Or.inl (GpuDevice.lost_of_bind hid hbind.symm)
  not_slip := Refuses.not_slip

end Graphics

end ShaderEffects
