import Mathlib.Logic.Function.Basic
import ShaderEffects.Device.Gpu.Basic
import ShaderEffects.Proofs.HeadlessCalls

/-!
# Strokes

What a device did to its surfaces: the draws, each with its target, the label of its
program and the number of its corners, and the copies. The device without a screen notes
them among its calls, and a graphics device asks for them. What else a graphics device
does, such as to make a pipeline, goes on behind the scenes.
-/
namespace ShaderEffects

open Gpu

/-- What can be seen of a call on the surfaces. -/
inductive Stroke where
  /-- A draw of a number of corners with the program of a label. -/
  | draw (target : Surface) (label : String) (corners : Nat)
  | copy (source destination : Surface)
deriving DecidableEq, Repr

/-- What surfaces show after a stroke, each draw leaving its label. -/
def Stroke.paint (contents : Table Surface String) : Stroke → Table Surface String
  | .draw target label _ => contents.insert target label
  | .copy source destination => HeadlessDevice.copiedContents contents source destination

/-! ## The strokes of the device without a screen -/

/-- The labels of the programs that are bound, and the strokes so far. -/
structure Replay where
  labels : Stage → Option String := fun _ => none
  strokes : List Stroke := []

namespace Replay

/-- The label that a draw leaves. -/
def tag (r : Replay) : String :=
  match r.labels .fragment with
  | some label => label
  | none => (r.labels .vertex).getD "unbound"

/-- What a call makes of it. -/
def follow (r : Replay) : HeadlessCall → Replay
  | .bind stage label => { r with labels := Function.update r.labels stage (some label) }
  | .unbind stage => { r with labels := Function.update r.labels stage none }
  | .draw target corners _ => { r with strokes := r.strokes ++ [.draw target r.tag corners] }
  | .copy source destination => { r with strokes := r.strokes ++ [.copy source destination] }
  | .load _ | .target _ => r

end Replay

namespace HeadlessDevice

/-- What the calls that were noted come to. -/
def replay (d : HeadlessDevice) : Replay := d.calls.foldl Replay.follow {}

/-- What was drawn and copied. -/
def strokes (d : HeadlessDevice) : List Stroke := d.replay.strokes

@[simp] theorem replay_record (d : HeadlessDevice) (call : HeadlessCall) :
    (d.record call).replay = d.replay.follow call := by
  simp [replay, record, List.foldl_append]

theorem drawTag_of_replay {d : HeadlessDevice} (h : d.replay.labels = d.boundLabel?) :
    d.drawTag = d.replay.tag := by
  cases hlabel : d.boundLabel? .fragment with
  | some label => simp [drawTag, Replay.tag, h, hlabel]
  | none => simp [drawTag, Replay.tag, h, hlabel]

/-- Refuses nothing that can be refused. -/
structure Obliging (d : HeadlessDevice) : Prop where
  lost : d.lost = false
  drawsLeft : d.drawsLeft = none
  refusedProfiles : d.refusedProfiles = []
  failingBinds : d.failingBinds = []
  failingLoads : d.failingLoads = []

namespace Obliging

variable {d : HeadlessDevice}

theorem alive (h : d.Obliging) : d.alive = .ok () := by
  simp [HeadlessDevice.alive, h.lost]

theorem loadProgram_eq (h : d.Obliging) (p : Program) :
    d.loadProgram p = (.ok ⟨d.nextId⟩,
      { d with
        nextId := d.nextId + 1
        programs := d.programs.insert ⟨d.nextId⟩ { label := p.label, stage := p.stage } }.record
          (.load p.label)) := by
  have hallowed : p.label ∉ d.failingLoads := by simp [h.failingLoads]
  simp only [loadProgram, h.alive, if_neg hallowed]

theorem bind_eq (h : d.Obliging) {stage : Stage} {id : ProgramId} {label : String}
    (hid : d.plate? id = some (label, stage)) :
    d.bind stage id =
      (.ok (), { d with bound := d.bound.insert stage id }.record (.bind stage label)) := by
  obtain ⟨p, hp, hplate⟩ := Option.map_eq_some_iff.mp hid
  obtain ⟨rfl, rfl⟩ := Prod.mk.inj hplate
  have hallowed : p.label ∉ d.failingBinds := by simp [h.failingBinds]
  simp only [bind, h.alive, hp, ne_eq, not_true_eq_false, if_false, if_neg hallowed]

theorem draw_eq (h : d.Obliging) (geometry : Geometry) :
    d.draw geometry = (.ok (), (d.paint d.renderTarget d.drawTag).record
      (.draw d.renderTarget geometry.indexCount d.state)) := by
  simp only [draw, h.alive, countDraw, h.drawsLeft]

end Obliging

end HeadlessDevice

/-! ## The strokes of the graphics device -/

/-- What can be seen of a request on the surfaces. -/
def Gpu.Request.stroke? : Request → Option Stroke
  | .draw pass => some <| .draw pass.target pass.label <|
    match pass.call with
    | .direct corners => corners
    | .indexed corners => corners
  | .blit pass => some (.copy pass.source pass.destination)
  | _ => none

namespace GpuDevice

/-- What was drawn and copied. -/
def strokes (g : GpuDevice) : List Stroke := g.requests.filterMap Request.stroke?

/-- The label and the stage of a program. -/
def plate? (g : GpuDevice) (id : ProgramId) : Option (String × Stage) :=
  (g.programs.get? id).map fun p => (p.label, p.stage)

theorem alive_of_found {g : GpuDevice} (h : g.lost = false) : g.alive = .ok () := by
  simp [alive, h]

theorem lost_of_alive {g : GpuDevice} {e : DeviceError} (h : g.alive = .error e) :
    e = .lost ∧ g.lost = true := by
  unfold alive at h
  split_ifs at h with hlost
  cases h
  exact ⟨rfl, hlost⟩

theorem plate?_modify (g : GpuDevice) (id : ProgramId) (f : LoadedProgram → LoadedProgram)
    (hf : ∀ p, (f p).label = p.label ∧ (f p).stage = p.stage) (q : ProgramId) :
    plate? { g with programs := g.programs.modify id f } q = g.plate? q := by
  simp only [plate?, Table.get?_modify]
  split_ifs with hq
  · subst hq
    rw [Option.map_map]
    congr 1
    funext p
    simp [hf p]
  · rfl

theorem writeRegisters_plate (p : LoadedProgram) (register : Nat) (rs : List Register) :
    (writeRegisters p register rs).label = p.label ∧
      (writeRegisters p register rs).stage = p.stage := by
  induction rs generalizing p register with
  | nil => exact ⟨rfl, rfl⟩
  | cons r rest ih =>
    rw [writeRegisters]
    obtain ⟨hlabel, hstage⟩ := ih (if register < registerLimit then
      { p with registers := p.registers.setIfInBounds register r, dirty := true } else p)
      (register + 1)
    refine ⟨hlabel.trans ?_, hstage.trans ?_⟩ <;> split_ifs <;> rfl

@[simp] theorem plate?_setConstants (g : GpuDevice) (id : ProgramId) (register : Nat)
    (values : List Float32) (q : ProgramId) :
    (g.setConstants id register values).plate? q = g.plate? q :=
  plate?_modify g id _ (fun p => writeRegisters_plate p register _) q

@[simp] theorem plate?_setSampler (g : GpuDevice) (id : ProgramId) (slot : Nat)
    (texture : TextureId) (q : ProgramId) :
    (g.setSampler id slot texture).plate? q = g.plate? q := by
  unfold setSampler
  exact plate?_modify g id _ (by intro p; exact ⟨rfl, rfl⟩) q

/-- What changes nothing but shaders, layouts, pipelines and uploads. -/
structure Backstage (g g' : GpuDevice) : Prop where
  context : g'.context = g.context
  backbuffer : g'.backbuffer = g.backbuffer
  scratch : g'.scratch = g.scratch
  lost : g'.lost = g.lost
  nextId : g'.nextId = g.nextId
  textures : g'.textures = g.textures
  bound : g'.bound = g.bound
  target : g'.renderTarget = g.renderTarget
  plates : ∀ id, g'.plate? id = g.plate? id
  strokes : g'.strokes = g.strokes

theorem Backstage.refl (g : GpuDevice) : g.Backstage g :=
  ⟨rfl, rfl, rfl, rfl, rfl, rfl, rfl, rfl, fun _ => rfl, rfl⟩

theorem Backstage.trans {g₁ g₂ g₃ : GpuDevice} (h₁ : g₁.Backstage g₂) (h₂ : g₂.Backstage g₃) :
    g₁.Backstage g₃ where
  context := h₂.context.trans h₁.context
  backbuffer := h₂.backbuffer.trans h₁.backbuffer
  scratch := h₂.scratch.trans h₁.scratch
  lost := h₂.lost.trans h₁.lost
  nextId := h₂.nextId.trans h₁.nextId
  textures := h₂.textures.trans h₁.textures
  bound := h₂.bound.trans h₁.bound
  target := h₂.target.trans h₁.target
  plates := fun id => (h₂.plates id).trans (h₁.plates id)
  strokes := h₂.strokes.trans h₁.strokes

theorem strokes_ask (g : GpuDevice) (request : Request) :
    (g.ask request).strokes = g.strokes ++ request.stroke?.toList := by
  simp only [strokes, ask, List.filterMap_append]
  cases hstroke : request.stroke? <;> simp [hstroke]

theorem backstage_ask (g : GpuDevice) {request : Request} (h : request.stroke? = none) :
    g.Backstage (g.ask request) :=
  ⟨rfl, rfl, rfl, rfl, rfl, rfl, rfl, rfl, fun _ => rfl, by simp [strokes_ask, h]⟩

theorem backstage_upload (g : GpuDevice) (id : ProgramId) : g.Backstage (g.upload id) := by
  unfold upload
  cases hp : g.programs.get? id with
  | none => exact .refl g
  | some p =>
    simp only
    split_ifs
    · refine ⟨rfl, rfl, rfl, rfl, rfl, rfl, rfl, rfl, fun q => ?_, ?_⟩
      · simp only [plate?, ask, Table.get?_insert]
        split_ifs with hq
        · rw [hq, hp]
          rfl
        · rfl
      · simp [strokes_ask, Request.stroke?]
        rfl
    · exact .refl g

end GpuDevice

end ShaderEffects
