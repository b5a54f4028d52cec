import Mathlib.Tactic.SplitIfs
import ShaderEffects.Device.Headless
import ShaderEffects.Proofs.RendererSteps

/-!
# The calls of a device without a screen

What each call leaves as it is: a device that is lost stays lost, a texture that was
made stays, a loaded program keeps its label and its stage, and the labels that are
refused do not change.
-/
namespace ShaderEffects.HeadlessDevice

section calls

variable (d : HeadlessDevice)

@[simp] theorem device_isLost : Device.isLost d = d.lost := rfl

@[simp] theorem device_target : Device.target d = d.renderTarget := rfl

@[simp] theorem device_backbufferSize : Device.backbufferSize d = (d.width, d.height) := rfl

@[simp] theorem device_validate (programs : List Program) :
    Device.validate d programs = (d.validate programs, d) := rfl

@[simp] theorem device_createTexture (name : String) (desc : TextureDesc) :
    Device.createTexture d name desc = d.createTexture name desc := rfl

@[simp] theorem device_loadTexture (files : FileTree) (name path : String) :
    Device.loadTexture d files name path =
      ((d.loadTexture files name path).1, (d.loadTexture files name path).2, []) := rfl

@[simp] theorem device_loadProgram (p : Program) : Device.loadProgram d p = d.loadProgram p := rfl

@[simp] theorem device_bind (stage : Stage) (id : ProgramId) :
    Device.bind d stage id = d.bind stage id := rfl

@[simp] theorem device_unbind (stage : Stage) : Device.unbind d stage = d.unbind stage := rfl

@[simp] theorem device_setConstants (id : ProgramId) (register : Nat) (values : List Float32) :
    Device.setConstants d id register values = d.setConstants id register values := rfl

@[simp] theorem device_setSampler (id : ProgramId) (slot : Nat) (texture : TextureId) :
    Device.setSampler d id slot texture = d.setSampler id slot texture := rfl

@[simp] theorem device_setTarget (surface : Surface) :
    Device.setTarget d surface = d.setTarget surface := rfl

@[simp] theorem device_capture : Device.capture d = d.state := rfl

@[simp] theorem device_restore (state : RenderState) :
    Device.restore d state = { d with state := state } := rfl

@[simp] theorem device_enterEffectState :
    Device.enterEffectState d = { d with state := .effect } := rfl

@[simp] theorem device_draw (geometry : Geometry) : Device.draw d geometry = d.draw geometry := rfl

@[simp] theorem device_copy (source destination : Surface) :
    Device.copy d source destination = d.copy source destination := rfl

end calls

/-- The label and the stage of a program. -/
def plate? (d : HeadlessDevice) (id : ProgramId) : Option (String × Stage) :=
  (d.programs.get? id).map fun p => (p.label, p.stage)

/-- What every call leaves as it is. -/
structure Outlives (d d' : HeadlessDevice) : Prop where
  nextId_le : d.nextId ≤ d'.nextId
  lost : d.lost = true → d'.lost = true
  textures : ∀ id, d.textures.contains id = true → d'.textures.contains id = true
  plates : ∀ id, id.number < d.nextId → d'.plate? id = d.plate? id
  failingLoads : d'.failingLoads = d.failingLoads
  failingBinds : d'.failingBinds = d.failingBinds

theorem Outlives.refl (d : HeadlessDevice) : d.Outlives d :=
  ⟨Nat.le_refl _, id, fun _ => id, fun _ _ => rfl, rfl, rfl⟩

theorem Outlives.trans {d₁ d₂ d₃ : HeadlessDevice} (h₁ : d₁.Outlives d₂) (h₂ : d₂.Outlives d₃) :
    d₁.Outlives d₃ where
  nextId_le := Nat.le_trans h₁.nextId_le h₂.nextId_le
  lost := fun h => h₂.lost (h₁.lost h)
  textures := fun id h => h₂.textures id (h₁.textures id h)
  plates := fun id h => by
    rw [h₂.plates id (Nat.lt_of_lt_of_le h h₁.nextId_le), h₁.plates id h]
  failingLoads := h₂.failingLoads.trans h₁.failingLoads
  failingBinds := h₂.failingBinds.trans h₁.failingBinds

theorem plate?_modify (d : HeadlessDevice) (id : ProgramId) (f : HeadlessProgram → HeadlessProgram)
    (hf : ∀ p, (f p).label = p.label ∧ (f p).stage = p.stage) (q : ProgramId) :
    plate? { d with programs := d.programs.modify id f } q = d.plate? q := by
  simp only [plate?, Table.get?_modify]
  split_ifs with hq
  · subst hq
    rw [Option.map_map]
    congr 1
    funext p
    simp [hf p]
  · rfl

@[simp] theorem plate?_setConstants (d : HeadlessDevice) (id : ProgramId) (register : Nat)
    (values : List Float32) (q : ProgramId) :
    (d.setConstants id register values).plate? q = d.plate? q := by
  unfold setConstants
  exact plate?_modify d id _ (by intro p; exact ⟨rfl, rfl⟩) q

@[simp] theorem plate?_setSampler (d : HeadlessDevice) (id : ProgramId) (slot : Nat)
    (texture : TextureId) (q : ProgramId) :
    (d.setSampler id slot texture).plate? q = d.plate? q := by
  unfold setSampler
  exact plate?_modify d id _ (by intro p; exact ⟨rfl, rfl⟩) q

/-- What changes neither the programs of a device nor what is bound, and takes nothing
away. -/
structure Spares (d d' : HeadlessDevice) : Prop where
  nextId_le : d.nextId ≤ d'.nextId
  lost : d.lost = true → d'.lost = true
  textures : ∀ id, d.textures.contains id = true → d'.textures.contains id = true
  programs : d'.programs = d.programs
  bound : d'.bound = d.bound
  failingLoads : d'.failingLoads = d.failingLoads
  failingBinds : d'.failingBinds = d.failingBinds

theorem Spares.refl (d : HeadlessDevice) : d.Spares d :=
  ⟨Nat.le_refl _, id, fun _ => id, rfl, rfl, rfl, rfl⟩

theorem Spares.outlives {d d' : HeadlessDevice} (h : d.Spares d') : d.Outlives d' where
  nextId_le := h.nextId_le
  lost := h.lost
  textures := h.textures
  plates := fun id _ => by rw [plate?, h.programs, plate?]
  failingLoads := h.failingLoads
  failingBinds := h.failingBinds

/-- A texture gets a number that was not given yet, or nothing changes. -/
theorem createTexture_cases (d : HeadlessDevice) (name : String) (desc : TextureDesc) :
    (∃ e, d.createTexture name desc = (.error e, d)) ∨
      d.createTexture name desc = (.ok ⟨d.nextId⟩,
        { d with
          nextId := d.nextId + 1
          textures := d.textures.insert ⟨d.nextId⟩ ⟨name, desc⟩ }) := by
  unfold createTexture
  cases d.alive with
  | error e => exact Or.inl ⟨e, rfl⟩
  | ok _ =>
    simp only
    split_ifs
    · exact Or.inl ⟨_, rfl⟩
    · exact Or.inr rfl

/-- A texture of a file gets a number that was not given yet, or nothing changes. -/
theorem loadTexture_cases (d : HeadlessDevice) (files : FileTree) (name path : String) :
    (∃ e, d.loadTexture files name path = (.error e, d)) ∨
      ∃ desc contents, d.loadTexture files name path = (.ok (⟨d.nextId⟩, desc),
        { d with
          nextId := d.nextId + 1
          textures := d.textures.insert ⟨d.nextId⟩ ⟨name, desc⟩
          contents }) := by
  unfold loadTexture
  cases d.alive with
  | error e => exact Or.inl ⟨e, rfl⟩
  | ok _ =>
    cases imageSize files path with
    | error fault => exact Or.inl ⟨_, rfl⟩
    | ok size =>
      simp only
      rcases d.createTexture_cases name
        { TextureDesc.target size.width size.height default with mipmaps := true } with
        ⟨e, heq⟩ | heq
      · rw [heq]
        exact Or.inl ⟨e, rfl⟩
      · rw [heq]
        exact Or.inr ⟨_, _, rfl⟩

/-- A new texture takes nothing away. -/
theorem spares_insert (d : HeadlessDevice) (texture : HeadlessTexture)
    (contents : Table Surface String) :
    d.Spares { d with
      nextId := d.nextId + 1
      textures := d.textures.insert ⟨d.nextId⟩ texture
      contents } := by
  refine ⟨Nat.le_succ _, fun h => h, fun id h => ?_, rfl, rfl, rfl, rfl⟩
  simp only [Table.contains, Table.get?_insert]
  split_ifs
  · rfl
  · exact h

theorem spares_createTexture (d : HeadlessDevice) (name : String) (desc : TextureDesc) :
    d.Spares (d.createTexture name desc).2 := by
  rcases d.createTexture_cases name desc with ⟨e, heq⟩ | heq <;> rw [heq]
  · exact .refl d
  · exact d.spares_insert _ _

theorem spares_loadTexture (d : HeadlessDevice) (files : FileTree) (name path : String) :
    d.Spares (d.loadTexture files name path).2 := by
  rcases d.loadTexture_cases files name path with ⟨e, heq⟩ | ⟨desc, contents, heq⟩ <;> rw [heq]
  · exact .refl d
  · exact d.spares_insert _ _

/-- Only a surface that the device has is aimed at. -/
theorem setTarget_cases (d : HeadlessDevice) (surface : Surface) :
    (∃ e, d.setTarget surface = (.error e, d) ∧
        (d.lost = true ∨ d.checkSurface surface = .error e)) ∨
      d.lost = false ∧ d.checkSurface surface = .ok () ∧ d.setTarget surface =
        (.ok (), { d with
          renderTarget := surface
          calls := d.calls ++ [.target surface] }) := by
  unfold setTarget alive
  cases hlost : d.lost with
  | true => exact Or.inl ⟨_, rfl, Or.inl rfl⟩
  | false =>
    cases hsurface : d.checkSurface surface with
    | error e => exact Or.inl ⟨e, rfl, Or.inr rfl⟩
    | ok _ => exact Or.inr ⟨rfl, rfl, rfl⟩

/-- A draw paints the target, or is the one that loses the device, or changes nothing. -/
theorem draw_cases (d : HeadlessDevice) (geometry : Geometry) :
    (∃ e, d.draw geometry = (.error e, d)) ∨ d.draw geometry = (.error .lost, d.lose) ∨
      ∃ contents left, d.draw geometry = (.ok (), { d with
        contents
        drawsLeft := left
        calls := d.calls ++ [.draw d.renderTarget geometry.indexCount d.state] }) := by
  unfold draw countDraw
  cases d.alive with
  | error e => exact Or.inl ⟨e, rfl⟩
  | ok _ =>
    rcases d.drawsLeft with _ | _ | n
    · exact Or.inr (Or.inr ⟨_, _, rfl⟩)
    · exact Or.inr (Or.inl rfl)
    · exact Or.inr (Or.inr ⟨_, _, rfl⟩)

/-- One surface shows the other afterwards, or nothing changes. -/
theorem copy_cases (d : HeadlessDevice) (source destination : Surface) :
    (∃ e, d.copy source destination = (.error e, d)) ∨
      d.copy source destination = (.ok (), { d with
        contents := copiedContents d.contents source destination
        calls := d.calls ++ [.copy source destination] }) := by
  unfold copy
  cases d.alive with
  | error e => exact Or.inl ⟨e, rfl⟩
  | ok _ =>
    cases d.checkSurface source with
    | error e => exact Or.inl ⟨e, rfl⟩
    | ok _ =>
      cases d.checkSurface destination with
      | error e => exact Or.inl ⟨e, rfl⟩
      | ok _ => exact Or.inr rfl

/-- Most calls spare the programs. -/
theorem spares_perform (d : HeadlessDevice) {c : DeviceCall HeadlessDevice}
    (hc : c.sparesPrograms = true) : d.Spares (c.perform d) := by
  cases c with
  | loadProgram | bind | unbind | setConstants | setSampler => exact absurd hc Bool.false_ne_true
  | validate => exact .refl d
  | createTexture name desc => exact spares_createTexture d name desc
  | loadTexture files name path => exact spares_loadTexture d files name path
  | setTarget surface =>
    rcases setTarget_cases d surface with ⟨e, heq, _⟩ | ⟨_, _, heq⟩ <;>
      simp only [DeviceCall.perform, device_setTarget, heq]
    · exact .refl d
    · exact ⟨Nat.le_refl _, fun h => h, fun _ h => h, rfl, rfl, rfl, rfl⟩
  | restore state => exact ⟨Nat.le_refl _, fun h => h, fun _ h => h, rfl, rfl, rfl, rfl⟩
  | enterEffectState => exact ⟨Nat.le_refl _, fun h => h, fun _ h => h, rfl, rfl, rfl, rfl⟩
  | draw geometry =>
    rcases d.draw_cases geometry with ⟨e, heq⟩ | heq | ⟨contents, left, heq⟩ <;>
      simp only [DeviceCall.perform, device_draw, heq]
    · exact .refl d
    · exact ⟨Nat.le_refl _, fun _ => rfl, fun _ h => h, rfl, rfl, rfl, rfl⟩
    · exact ⟨Nat.le_refl _, fun h => h, fun _ h => h, rfl, rfl, rfl, rfl⟩
  | copy source destination =>
    rcases d.copy_cases source destination with ⟨e, heq⟩ | heq <;>
      simp only [DeviceCall.perform, device_copy, heq]
    · exact .refl d
    · exact ⟨Nat.le_refl _, fun h => h, fun _ h => h, rfl, rfl, rfl, rfl⟩

/-- The program of a number that was not given yet is loaded, or nothing changes. -/
theorem loadProgram_cases (d : HeadlessDevice) (p : Program) :
    (∃ e, d.loadProgram p = (.error e, d)) ∨
      d.loadProgram p = (.ok ⟨d.nextId⟩,
        { d with
          nextId := d.nextId + 1
          programs := d.programs.insert ⟨d.nextId⟩ { label := p.label, stage := p.stage }
          calls := d.calls ++ [.load p.label] }) := by
  unfold loadProgram
  cases d.alive with
  | error e => exact Or.inl ⟨e, rfl⟩
  | ok _ =>
    simp only
    split_ifs
    · exact Or.inl ⟨_, rfl⟩
    · exact Or.inr rfl

/-- A program is bound to its stage, or nothing changes. -/
theorem bind_cases (d : HeadlessDevice) (stage : Stage) (id : ProgramId) :
    (∃ e, d.bind stage id = (.error e, d)) ∨
      ∃ label, d.bind stage id = (.ok (), { d with
        bound := d.bound.insert stage id
        calls := d.calls ++ [.bind stage label] }) := by
  unfold bind
  cases d.alive with
  | error e => exact Or.inl ⟨e, rfl⟩
  | ok _ =>
    cases d.programs.get? id with
    | none => exact Or.inl ⟨_, rfl⟩
    | some p =>
      simp only
      split_ifs
      · exact Or.inl ⟨_, rfl⟩
      · exact Or.inl ⟨_, rfl⟩
      · exact Or.inr ⟨_, rfl⟩

/-- Every call outlives what was there. -/
theorem outlives_perform (d : HeadlessDevice) (c : DeviceCall HeadlessDevice) :
    d.Outlives (c.perform d) := by
  cases hc : c.sparesPrograms with
  | true => exact (spares_perform d hc).outlives
  | false =>
    cases c with
    | validate | createTexture | loadTexture | setTarget | restore | enterEffectState | draw
    | copy => cases hc
    | loadProgram p =>
      rcases loadProgram_cases d p with ⟨e, heq⟩ | heq
      · simp only [DeviceCall.perform, device_loadProgram, heq]
        exact .refl d
      · simp only [DeviceCall.perform, device_loadProgram, heq]
        refine ⟨Nat.le_succ _, id, fun _ h => h, fun id h => ?_, rfl, rfl⟩
        have hne : id ≠ ⟨d.nextId⟩ := by
          rintro rfl
          exact Nat.lt_irrefl _ h
        simp [plate?, hne]
    | bind stage id =>
      rcases bind_cases d stage id with ⟨e, heq⟩ | ⟨label, heq⟩
      · simp only [DeviceCall.perform, device_bind, heq]
        exact .refl d
      · simp only [DeviceCall.perform, device_bind, heq]
        exact ⟨Nat.le_refl _, fun h => h, fun _ h => h, fun _ _ => rfl, rfl, rfl⟩
    | unbind stage => exact ⟨Nat.le_refl _, fun h => h, fun _ h => h, fun _ _ => rfl, rfl, rfl⟩
    | setConstants id register values =>
      exact ⟨Nat.le_refl _, fun h => h, fun _ h => h,
        fun q _ => plate?_setConstants d id register values q, rfl, rfl⟩
    | setSampler id slot texture =>
      exact ⟨Nat.le_refl _, fun h => h, fun _ h => h,
        fun q _ => plate?_setSampler d id slot texture q, rfl, rfl⟩

/-! ## Stages and textures -/

/-- No stage of the device has a program. -/
def Free (d : HeadlessDevice) : Prop := ∀ stage, d.bound.get? stage = none

/-- Only a bind puts a program into a stage. -/
theorem Free.perform {d : HeadlessDevice} (h : Free d) {c : DeviceCall HeadlessDevice}
    (hc : c.bindsNothing = true) : Free (c.perform d) := by
  have hsame : ∀ d' : HeadlessDevice, d'.bound = d.bound → Free d' := by
    intro d' hbound stage
    rw [hbound]
    exact h stage
  cases hspares : c.sparesPrograms with
  | true => exact hsame _ (spares_perform d hspares).bound
  | false =>
    cases c with
    | bind => cases hc
    | validate | createTexture | loadTexture | setTarget | restore | enterEffectState | draw
    | copy => cases hspares
    | setConstants | setSampler => exact hsame _ rfl
    | unbind stage =>
      intro other
      simp only [DeviceCall.perform, device_unbind, unbind, record, Table.get?_erase]
      split_ifs
      · rfl
      · exact h other
    | loadProgram p =>
      refine hsame _ ?_
      simp only [DeviceCall.perform, device_loadProgram]
      rcases loadProgram_cases d p with ⟨e, heq⟩ | heq <;> rw [heq]

/-- A new texture is one of the device. -/
theorem contains_createTexture {d d' : HeadlessDevice} {name : String} {desc : TextureDesc}
    {id : TextureId} (h : d.createTexture name desc = (.ok id, d')) :
    d'.textures.contains id = true := by
  rcases d.createTexture_cases name desc with ⟨e, heq⟩ | heq <;> rw [heq] at h <;> cases h
  simp [Table.contains]

theorem contains_loadTexture {d d' : HeadlessDevice} {files : FileTree} {name path : String}
    {id : TextureId} {desc : TextureDesc} (h : d.loadTexture files name path = (.ok (id, desc), d')) :
    d'.textures.contains id = true := by
  rcases d.loadTexture_cases files name path with ⟨e, heq⟩ | ⟨desc, contents, heq⟩ <;>
    rw [heq] at h <;> cases h
  simp [Table.contains]

end ShaderEffects.HeadlessDevice

namespace ShaderEffects

open HeadlessDevice

/-- Whatever a renderer does outlives what was on its device. -/
theorem Renderer.StepsBy.outlives {kind : DeviceCall HeadlessDevice → Bool} {hands : Prop}
    {r r' : Renderer HeadlessDevice} (h : r.StepsBy kind hands r') :
    r.device.Outlives r'.device :=
  h.device_keep (P := r.device.Outlives) (fun d c _ hd => hd.trans (outlives_perform d c))
    (.refl r.device)

/-- What only a device without a screen takes. -/
inductive HeadlessAct where
  | paint (surface : Surface) (content : String)
  | resize (width height : Nat)
  | lose
  | clearCalls

/-- The device after such a call. -/
def HeadlessAct.perform : HeadlessAct → HeadlessDevice → HeadlessDevice
  | .paint surface content, d => d.paint surface content
  | .resize width height, d => d.resize width height
  | .lose, d => d.lose
  | .clearCalls, d => { d with calls := [] }

theorem HeadlessAct.outlives (a : HeadlessAct) (d : HeadlessDevice) :
    d.Outlives (a.perform d) := by
  cases a with
  | paint => exact ⟨Nat.le_refl _, fun h => h, fun _ h => h, fun _ _ => rfl, rfl, rfl⟩
  | resize => exact ⟨Nat.le_refl _, fun h => h, fun _ h => h, fun _ _ => rfl, rfl, rfl⟩
  | lose => exact ⟨Nat.le_refl _, fun _ => rfl, fun _ h => h, fun _ _ => rfl, rfl, rfl⟩
  | clearCalls => exact ⟨Nat.le_refl _, fun h => h, fun _ h => h, fun _ _ => rfl, rfl, rfl⟩

theorem HeadlessAct.bound (a : HeadlessAct) (d : HeadlessDevice) :
    (a.perform d).bound = d.bound := by
  cases a <;> rfl

end ShaderEffects
