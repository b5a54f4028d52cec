import ShaderEffects.Device.Gpu.Checked
import ShaderEffects.Proofs.JudgedDevices

/-!
# Graphics devices

The interface of a graphics device may accept everything, refuse what it likes, or read the
shaders that it is given. Behind each of these devices is a graphics device, to which they
do what can be done to it at a time, and which loads, binds and is written to as it would be by
itself. What is shown of every graphics device is shown of all of them.
-/
namespace ShaderEffects

open Gpu

/-- A device that does what a graphics device does. Its interface may refuse things. -/
class Graphics (D : Type) [Device D] where
  /-- The graphics device behind it. -/
  gpu : D → GpuDevice
  /-- What only a graphics device takes. -/
  act : GpuAct → D → D
  /-- What the interface may say of a shader that it refuses. -/
  Complaint : String → Prop
  moves : ∀ (d : D) (c : DeviceCall D), (gpu d).MovesBy c.Takes (gpu (c.perform d))
  acts : ∀ (a : GpuAct) (d : D), gpu (act a d) = a.perform (gpu d)
  /-- A program is loaded with the shader that is kept for it. -/
  loads : ∀ {d d' : D} {p : Program} {id : ProgramId}, Device.loadProgram d p = (.ok id, d') →
    ∃ (g : GpuDevice) (module : ShaderModule), (gpu d).Prepares g ∧
      g.modules.get? p.key = some module ∧ id = ⟨g.nextId⟩ ∧
      gpu d' = { g with
        nextId := g.nextId + 1, programs := g.programs.insert ⟨g.nextId⟩ (.fresh p module) }
  /-- A program is not loaded if the device is lost, or if its shader is refused. -/
  load_refused : ∀ {d d' : D} {p : Program} {e : DeviceError},
    Device.loadProgram d p = (.error e, d') →
      e = .lost ∧ (gpu d).lost = true ∨
        ∃ message, Complaint message ∧ e = .invalidCall (.refused message)
  binds : ∀ (d : D) (stage : Stage) (id : ProgramId),
    ((Device.bind d stage id).1, gpu (Device.bind d stage id).2) = (gpu d).bind stage id
  aims : ∀ (d : D) (surface : Surface),
    ((Device.setTarget d surface).1, gpu (Device.setTarget d surface).2) =
      (gpu d).setTarget surface
  writes : ∀ (d : D) (id : ProgramId) (register : Nat) (values : List Float32),
    gpu (Device.setConstants d id register values) = (gpu d).setConstants id register values
  samples : ∀ (d : D) (id : ProgramId) (slot : Nat) (texture : TextureId),
    gpu (Device.setSampler d id slot texture) = (gpu d).setSampler id slot texture
  creates : ∀ {d d' : D} {name : String} {desc : TextureDesc} {id : TextureId},
    Device.createTexture d name desc = (.ok id, d') → (gpu d').textures.contains id = true
  loadsTexture : ∀ {d d' : D} {files : FileTree} {name path : String} {id : TextureId}
    {desc : TextureDesc} {notices : List Notice},
    Device.loadTexture d files name path = (.ok (id, desc), d', notices) →
      (gpu d').textures.contains id = true
  /-- The interface is only asked about programs that fit. -/
  validates : ∀ {d d' : D} {programs : List Program},
    Device.validate d programs = (.ok (), d') →
      ∃ pair, GpuDevice.checkPair programs = .ok pair

/-! ## An interface that accepts everything -/

namespace GpuDevice

variable {g g' : GpuDevice}

theorem contains_keep (g : GpuDevice) (image : Image) :
    (g.keep image).2.textures.contains (g.keep image).1 = true := by
  simp [keep, Table.contains]

/-- A new texture is one of the device. -/
theorem contains_createTexture {name : String} {desc : TextureDesc} {id : TextureId}
    (h : g.createTexture name desc = (.ok id, g')) : g'.textures.contains id = true := by
  obtain ⟨e, heq⟩ | heq := g.createTexture_cases name desc <;> rw [heq] at h <;> cases h
  exact contains_keep _ _

theorem contains_loadTexture {files : FileTree} {name path : String} {id : TextureId}
    {desc : TextureDesc} (h : (g.loadTexture files name path).1 = .ok (id, desc)) :
    (g.loadTexture files name path).2.1.textures.contains id = true := by
  obtain ⟨-, e, notices, heq⟩ | ⟨size, notices, -, heq⟩ := g.loadTexture_cases files name path <;>
    rw [heq] at h ⊢ <;> cases h
  exact contains_keep _ _

theorem loads_of_loadProgram {p : Program} {id : ProgramId}
    (h : g.loadProgram p = (.ok id, g')) :
    ∃ (g₁ : GpuDevice) (module : ShaderModule), g.Prepares g₁ ∧
      g₁.modules.get? p.key = some module ∧ id = ⟨g₁.nextId⟩ ∧
      g' = { g₁ with
        nextId := g₁.nextId + 1, programs := g₁.programs.insert ⟨g₁.nextId⟩ (.fresh p module) } := by
  rcases loadProgram_spec g p with ⟨-, heq⟩ | ⟨g₁, module, hmoves, hmodule, heq⟩ <;> rw [heq] at h
  · cases h
  · obtain ⟨hid, rfl⟩ := Prod.mk.inj h
    exact ⟨g₁, module, hmoves, hmodule, (Except.ok.inj hid).symm, rfl⟩

theorem lost_of_loadProgram {p : Program} {e : DeviceError}
    (h : g.loadProgram p = (.error e, g')) : e = .lost ∧ g.lost = true := by
  rcases loadProgram_spec g p with ⟨hlost, heq⟩ | ⟨g₁, module, -, -, heq⟩ <;> rw [heq] at h <;>
    cases h
  exact ⟨rfl, hlost⟩

theorem paired_of_validate {programs : List Program} (h : (g.validate programs).1 = .ok ()) :
    g.lost = false ∧ ∃ pair, checkPair programs = .ok pair := by
  obtain ⟨rest, -, heq⟩ := JudgedDevice.validate_kind (List.forall_mem_nil _) g programs
  exact JudgedDevice.paired_of_validate ((congrArg Prod.fst heq).trans h)

end GpuDevice

instance : Graphics GpuDevice where
  gpu g := g
  act := GpuAct.perform
  Complaint _ := False
  moves := GpuDevice.perform_moves
  acts _ _ := rfl
  loads := GpuDevice.loads_of_loadProgram
  load_refused h := Or.inl (GpuDevice.lost_of_loadProgram h)
  binds _ _ _ := rfl
  aims _ _ := rfl
  writes _ _ _ _ := rfl
  samples _ _ _ _ := rfl
  creates := GpuDevice.contains_createTexture
  loadsTexture h := by
    have hcontains := GpuDevice.contains_loadTexture (congrArg Prod.fst h)
    rwa [show GpuDevice.loadTexture _ _ _ _ = _ from h] at hcontains
  validates h := (GpuDevice.paired_of_validate (congrArg Prod.fst h)).2

/-! ## An interface that refuses -/

namespace JudgedDevice

variable {w w' : JudgedDevice}

theorem contains_createTexture {name : String} {desc : TextureDesc} {id : TextureId}
    (h : w.createTexture name desc = (.ok id, w')) : w'.device.textures.contains id = true := by
  obtain ⟨-, e, heq⟩ | ⟨-, rest, ⟨e, heq⟩ | heq⟩ := w.createTexture_cases name desc <;>
    rw [heq] at h <;> cases h
  exact GpuDevice.contains_keep _ _

theorem contains_loadTexture {files : FileTree} {name path : String} {id : TextureId}
    {desc : TextureDesc} {notices : List Notice}
    (h : Device.loadTexture w files name path = (.ok (id, desc), w', notices)) :
    w'.device.textures.contains id = true := by
  obtain ⟨hresult, hrest⟩ := Prod.mk.inj h
  obtain ⟨rfl, -⟩ := Prod.mk.inj hrest
  exact GpuDevice.contains_loadTexture hresult

theorem loads_of_loadProgram {p : Program} {id : ProgramId}
    (h : w.loadProgram p = (.ok id, w')) :
    ∃ (g : GpuDevice) (module : ShaderModule), w.device.Prepares g ∧
      g.modules.get? p.key = some module ∧ id = ⟨g.nextId⟩ ∧
      w'.device = { g with
        nextId := g.nextId + 1, programs := g.programs.insert ⟨g.nextId⟩ (.fresh p module) } := by
  rcases loadProgram_spec w p with ⟨e, w₁, heq, -⟩ | ⟨w₁, module, hmoves, hmodule, heq⟩ <;>
    rw [heq] at h
  · cases h
  · obtain ⟨hid, rfl⟩ := Prod.mk.inj h
    exact ⟨w₁.device, module, hmoves, hmodule, (Except.ok.inj hid).symm, rfl⟩

theorem refused_of_loadProgram {p : Program} {e : DeviceError}
    (h : w.loadProgram p = (.error e, w')) :
    e = .lost ∧ w.device.lost = true ∨
      ∃ message, some message ∈ w.verdicts ∧ e = .invalidCall (.refused message) := by
  rcases loadProgram_spec w p with ⟨e', w₁, heq, -, hrefused⟩ | ⟨w₁, module, -, -, heq⟩ <;>
    rw [heq] at h <;> cases h
  exact hrefused

end JudgedDevice

instance : Graphics JudgedDevice where
  gpu w := w.device
  act a w := { w with device := a.perform w.device }
  Complaint _ := True
  moves := JudgedDevice.perform_moves
  acts _ _ := rfl
  loads := JudgedDevice.loads_of_loadProgram
  load_refused h := (JudgedDevice.refused_of_loadProgram h).imp_right
    fun ⟨message, _, heq⟩ => ⟨message, trivial, heq⟩
  binds _ _ _ := rfl
  aims _ _ := rfl
  writes _ _ _ _ := rfl
  samples _ _ _ _ := rfl
  creates := JudgedDevice.contains_createTexture
  loadsTexture := JudgedDevice.contains_loadTexture
  validates h := (JudgedDevice.paired_of_validate (congrArg Prod.fst h)).2

/-! ## An interface that reads shaders -/

namespace CheckedDevice

variable {w w' : CheckedDevice}

/-- What makes shaders is done by a device that hears verdicts on them. -/
theorem validate_judged (w : CheckedDevice) (programs : List Program) :
    ∃ judged : JudgedDevice, judged.device = w.device ∧
      w.validate programs = ((judged.validate programs).1, ⟨(judged.validate programs).2.device⟩) :=
  ⟨_, rfl, rfl⟩

theorem loadProgram_judged (w : CheckedDevice) (p : Program) :
    ∃ judged : JudgedDevice, judged.device = w.device ∧
      w.loadProgram p = ((judged.loadProgram p).1, ⟨(judged.loadProgram p).2.device⟩) :=
  ⟨_, rfl, rfl⟩

theorem validate_moves (w : CheckedDevice) (programs : List Program) :
    w.device.Prepares (w.validate programs).2.device := by
  obtain ⟨judged, hdevice, heq⟩ := w.validate_judged programs
  rw [heq, ← hdevice]
  exact JudgedDevice.validate_moves judged programs

theorem loadProgram_moves (w : CheckedDevice) (p : Program) :
    w.device.MovesBy (fun k => k = .backstage ∨ k = .load) (w.loadProgram p).2.device := by
  obtain ⟨judged, hdevice, heq⟩ := w.loadProgram_judged p
  rw [heq, ← hdevice]
  exact JudgedDevice.loadProgram_moves judged p

theorem perform_moves (w : CheckedDevice) (c : DeviceCall CheckedDevice) :
    w.device.MovesBy c.Takes (c.perform w).device := by
  cases c with
  | validate programs => exact (validate_moves w programs).within (Or.inl rfl)
  | createTexture name desc => exact GpuDevice.createTexture_moves w.device name desc
  | loadTexture files name path => exact GpuDevice.loadTexture_moves w.device files name path
  | loadProgram p => exact loadProgram_moves w p
  | bind stage id => exact GpuDevice.bind_moves w.device stage id
  | unbind stage => exact (GpuDevice.Move.unbind stage).moves (Or.inr rfl)
  | setConstants id register values =>
    exact (GpuDevice.Move.write id register values).moves (Or.inr rfl)
  | setSampler id slot texture => exact (GpuDevice.Move.sample id slot texture).moves (Or.inr rfl)
  | setTarget surface => exact GpuDevice.setTarget_moves w.device surface
  | restore | enterEffectState => exact .refl _
  | draw geometry => exact GpuDevice.draw_moves w.device geometry
  | copy source destination => exact GpuDevice.copy_moves w.device source destination

theorem contains_createTexture {name : String} {desc : TextureDesc} {id : TextureId}
    (h : Device.createTexture w name desc = (.ok id, w')) :
    w'.device.textures.contains id = true := by
  obtain ⟨hresult, rfl⟩ := Prod.mk.inj h
  exact GpuDevice.contains_createTexture (Prod.ext hresult rfl)

theorem contains_loadTexture {files : FileTree} {name path : String} {id : TextureId}
    {desc : TextureDesc} {notices : List Notice}
    (h : Device.loadTexture w files name path = (.ok (id, desc), w', notices)) :
    w'.device.textures.contains id = true := by
  obtain ⟨hresult, hrest⟩ := Prod.mk.inj h
  obtain ⟨rfl, -⟩ := Prod.mk.inj hrest
  exact GpuDevice.contains_loadTexture hresult

theorem loads_of_loadProgram {p : Program} {id : ProgramId}
    (h : w.loadProgram p = (.ok id, w')) :
    ∃ (g : GpuDevice) (module : ShaderModule), w.device.Prepares g ∧
      g.modules.get? p.key = some module ∧ id = ⟨g.nextId⟩ ∧
      w'.device = { g with
        nextId := g.nextId + 1, programs := g.programs.insert ⟨g.nextId⟩ (.fresh p module) } := by
  obtain ⟨judged, hdevice, heq⟩ := w.loadProgram_judged p
  obtain ⟨hresult, rfl⟩ := Prod.mk.inj (heq.symm.trans h)
  rw [← hdevice]
  exact JudgedDevice.loads_of_loadProgram (Prod.ext hresult rfl)

theorem refused_of_loadProgram {p : Program} {e : DeviceError}
    (h : w.loadProgram p = (.error e, w')) :
    e = .lost ∧ w.device.lost = true ∨
      ∃ message, refusal? p = some message ∧ e = .invalidCall (.refused message) := by
  let judged : JudgedDevice := ⟨w.device, w.verdicts [p]⟩
  have hresult : (judged.loadProgram p).1 = .error e := (Prod.mk.inj h).1
  have hjudged : judged.loadProgram p = (.error e, (judged.loadProgram p).2) :=
    Prod.ext hresult rfl
  refine (JudgedDevice.refused_of_loadProgram hjudged).imp_right ?_
  rintro ⟨message, hsaid, heq⟩
  obtain ⟨q, hq, hrefusal⟩ := List.mem_map.mp hsaid
  obtain rfl := List.mem_singleton.mp (List.mem_filter.mp hq).1
  exact ⟨message, hrefusal, heq⟩

theorem paired_of_validate {programs : List Program} (h : (w.validate programs).1 = .ok ()) :
    w.device.lost = false ∧ ∃ pair, GpuDevice.checkPair programs = .ok pair := by
  obtain ⟨judged, hdevice, heq⟩ := w.validate_judged programs
  rw [← hdevice]
  exact JudgedDevice.paired_of_validate ((congrArg Prod.fst heq).symm.trans h)

end CheckedDevice

instance : Graphics CheckedDevice where
  gpu w := w.device
  act a w := ⟨a.perform w.device⟩
  Complaint message := ∃ p, refusal? p = some message
  moves := CheckedDevice.perform_moves
  acts _ _ := rfl
  loads := CheckedDevice.loads_of_loadProgram
  load_refused h := (CheckedDevice.refused_of_loadProgram h).imp_right
    fun ⟨message, hrefusal, heq⟩ => ⟨message, ⟨_, hrefusal⟩, heq⟩
  binds _ _ _ := rfl
  aims _ _ := rfl
  writes _ _ _ _ := rfl
  samples _ _ _ _ := rfl
  creates := CheckedDevice.contains_createTexture
  loadsTexture := CheckedDevice.contains_loadTexture
  validates h := (CheckedDevice.paired_of_validate (congrArg Prod.fst h)).2

end ShaderEffects
