import ShaderEffects.Proofs.FrameReference
import ShaderEffects.Proofs.HeadlessCalls

/-!
# What a pass leaves on a device without a screen

Drawing a pass on a headless device leaves what the reference says, provided no
program is bound before: its programs are loaded and bound as far as the device lets
them, the scratch surface and the target of the pass carry the label of what was
bound, and afterwards nothing is bound again.
-/
namespace ShaderEffects

namespace HeadlessDevice

/-- The labels that the device refuses. -/
def refusals (d : HeadlessDevice) : Refusals := ⟨d.failingLoads, d.failingBinds⟩

/-- A device that is not lost does what it is asked for. -/
theorem alive_eq_ok {d : HeadlessDevice} (h : d.lost = false) : d.alive = .ok () := by
  simp [alive, h]

end HeadlessDevice

namespace Renderer

open HeadlessDevice

variable {r r' : Renderer HeadlessDevice}

/-- What the surfaces show, and the labels of the loaded programs. -/
def canvas (r : Renderer HeadlessDevice) : Canvas where
  shown surface := r.device.content? surface
  labels key := (r.loaded.get? key).bind fun id => (r.device.plate? id).map (·.1)

/-- Loaded programs are on the device, for the stage they were compiled for. -/
def Stocked (r : Renderer HeadlessDevice) : Prop :=
  ∀ key id, r.loaded.get? key = some id →
    id.number < r.device.nextId ∧ ∃ label, r.device.plate? id = some (label, key.stage)

theorem Stocked.label {key : ProgramKey} {id : ProgramId} (hs : r.Stocked)
    (h : r.loaded.get? key = some id) :
    ∃ label, r.canvas.labels key = some label ∧ r.device.plate? id = some (label, key.stage) := by
  obtain ⟨_, label, hlabel⟩ := hs key id h
  exact ⟨label, by simp [canvas, h, hlabel], hlabel⟩

/-! ## Loading -/

theorem StepsBy.refusals {kind : DeviceCall HeadlessDevice → Bool} {hands : Prop}
    (h : r.StepsBy kind hands r') :
    r'.device.refusals = r.device.refusals := by
  unfold HeadlessDevice.refusals
  rw [h.outlives.failingLoads, h.outlives.failingBinds]

/-- Loading and handing values over touch neither the surfaces nor what is bound. -/
structure Quiet (r r' : Renderer HeadlessDevice) : Prop where
  bound : r'.bound = r.bound
  stages : r'.device.bound = r.device.bound
  target : r'.device.renderTarget = r.device.renderTarget
  lost : r'.device.lost = r.device.lost
  contents : r'.device.contents = r.device.contents

theorem Quiet.refl (r : Renderer HeadlessDevice) : r.Quiet r := ⟨rfl, rfl, rfl, rfl, rfl⟩

theorem Quiet.trans {r₁ r₂ r₃ : Renderer HeadlessDevice} (h₁ : r₁.Quiet r₂) (h₂ : r₂.Quiet r₃) :
    r₁.Quiet r₃ :=
  ⟨h₂.bound.trans h₁.bound, h₂.stages.trans h₁.stages, h₂.target.trans h₁.target,
    h₂.lost.trans h₁.lost, h₂.contents.trans h₁.contents⟩

/-- The renderer with one more program, which the device did not refuse. -/
def learned (r : Renderer HeadlessDevice) (p : Program) : Renderer HeadlessDevice :=
  { r with
    device :=
      { r.device with
        nextId := r.device.nextId + 1
        programs :=
          r.device.programs.insert ⟨r.device.nextId⟩ { label := p.label, stage := p.stage }
        calls := r.device.calls ++ [.load p.label] }
    loaded := r.loaded.insert p.key ⟨r.device.nextId⟩ }

theorem loadProgram_eq (hlost : r.device.lost = false) (p : Program) :
    Device.loadProgram r.device p =
      if p.label ∈ r.device.failingLoads then
        (.error (.invalidCall (.rejected p.label)), r.device)
      else (.ok ⟨r.device.nextId⟩, (r.learned p).device) := by
  rw [device_loadProgram]
  unfold loadProgram
  rw [alive_eq_ok hlost]
  simp only
  split_ifs <;> rfl

theorem learned_plate? (r : Renderer HeadlessDevice) (p : Program) (id : ProgramId) :
    (r.learned p).device.plate? id =
      if id = ⟨r.device.nextId⟩ then some (p.label, p.stage) else r.device.plate? id := by
  simp only [learned, plate?, Table.get?_insert]
  split_ifs <;> rfl

/-- The number of a loaded program is not given again. -/
theorem Stocked.ne_nextId (hs : r.Stocked) {key : ProgramKey} {id : ProgramId}
    (h : r.loaded.get? key = some id) : id ≠ ⟨r.device.nextId⟩ := by
  rintro rfl
  exact Nat.lt_irrefl _ (hs key _ h).1

theorem Stocked.learned (hs : r.Stocked) (p : Program) : (r.learned p).Stocked := by
  intro key id hid
  rw [learned_plate?]
  simp only [Renderer.learned, Table.get?_insert] at hid ⊢
  split_ifs at hid with hkey
  · cases hid
    subst hkey
    exact ⟨Nat.lt_succ_self _, p.label, by simp [Program.stage]⟩
  · obtain ⟨hlt, label, hlabel⟩ := hs key id hid
    exact ⟨Nat.lt_succ_of_lt hlt, label, by rw [if_neg (hs.ne_nextId hid), hlabel]⟩

theorem Stocked.canvas_learned (hs : r.Stocked) (p : Program) : (r.learned p).canvas =
    { r.canvas with labels := Function.update r.canvas.labels p.key (some p.label) } := by
  have hlabels : (r.learned p).canvas.labels =
      Function.update r.canvas.labels p.key (some p.label) := by
    funext key
    have hkeys : (r.learned p).loaded.get? key =
        if key = p.key then some ⟨r.device.nextId⟩ else r.loaded.get? key := Table.get?_insert ..
    simp only [canvas, hkeys]
    by_cases hkey : key = p.key
    · subst hkey
      rw [Function.update_self, if_pos rfl, Option.bind_some, learned_plate?, if_pos rfl]
      rfl
    · rw [Function.update_of_ne hkey, if_neg hkey]
      cases hid : r.loaded.get? key with
      | none => rfl
      | some id => simp only [Option.bind_some, learned_plate?, if_neg (hs.ne_nextId hid)]
  rw [← hlabels]
  rfl

theorem loadPrograms_of_loaded {p : Program} {id : ProgramId} (hid : r.loaded.get? p.key = some id)
    (rest : List Program) : r.loadPrograms (p :: rest) = r.loadPrograms rest := by
  rw [loadPrograms, if_pos (by simp [Table.contains, hid])]

theorem loadPrograms_of_new {p : Program} (hlost : r.device.lost = false)
    (hid : r.loaded.get? p.key = none) (rest : List Program) :
    r.loadPrograms (p :: rest) =
      if p.label ∈ r.device.failingLoads then
        (.error ⟨.load, p.stage, p.label, .invalidCall (.rejected p.label)⟩, r)
      else ((r.learned p).note [.programLoaded p.label ⟨r.device.nextId⟩]).loadPrograms rest := by
  rw [loadPrograms, if_neg (by simp [Table.contains, hid]), loadProgram_eq hlost]
  split_ifs <;> rfl

/-- Loading the programs of a pass is what the reference says. -/
theorem loadPrograms_spec (programs : List Program) (hs : r.Stocked)
    (hlost : r.device.lost = false) :
    r.canvas.learn r.device.refusals programs =
        ((r.loadPrograms programs).1, (r.loadPrograms programs).2.canvas) ∧
      (r.loadPrograms programs).2.Stocked ∧ r.Quiet (r.loadPrograms programs).2 := by
  induction programs generalizing r with
  | nil => exact ⟨rfl, hs, .refl r⟩
  | cons p rest ih =>
    rw [Canvas.learn]
    cases hid : r.loaded.get? p.key with
    | some id =>
      obtain ⟨label, hlabel, _⟩ := hs.label hid
      rw [loadPrograms_of_loaded hid, if_pos (by simp [hlabel])]
      exact ih hs hlost
    | none =>
      have hlabel : r.canvas.labels p.key = none := by simp [canvas, hid]
      rw [loadPrograms_of_new hlost hid, if_neg (by simp [hlabel])]
      by_cases hp : p.label ∈ r.device.failingLoads
      · rw [if_pos hp, if_pos (by exact hp)]
        exact ⟨rfl, hs, .refl r⟩
      · rw [if_neg hp, if_neg (by exact hp), ← hs.canvas_learned p]
        have hquiet : r.Quiet ((r.learned p).note [.programLoaded p.label ⟨r.device.nextId⟩]) :=
          ⟨rfl, rfl, rfl, rfl, rfl⟩
        obtain ⟨hlearn, hstocked, hrest⟩ :=
          ih (r := (r.learned p).note [.programLoaded p.label ⟨r.device.nextId⟩])
            (hs.learned p) hlost
        exact ⟨hlearn, hstocked, hquiet.trans hrest⟩

/-! ## Binding -/

/-- The renderer with other programs bound on its device. -/
def rebound (r : Renderer HeadlessDevice) (stages : Table Stage ProgramId)
    (calls : List HeadlessCall) : Renderer HeadlessDevice :=
  { r with device := { r.device with bound := stages, calls } }

theorem unbindAll_eq (d : HeadlessDevice) (programs : List BoundProgram) :
    ∃ stages calls, unbindAll d programs = { d with bound := stages, calls } ∧
      ∀ stage, stages.get? stage =
        if stage ∈ programs.map (·.stage) then none else d.bound.get? stage := by
  induction programs generalizing d with
  | nil => exact ⟨d.bound, d.calls, rfl, fun _ => rfl⟩
  | cons b rest ih =>
    obtain ⟨stages, calls, heq, hstages⟩ := ih (d.unbind b.stage)
    refine ⟨stages, calls, heq, fun stage => ?_⟩
    rw [hstages]
    simp only [unbind, record, Table.get?_erase, List.map_cons, List.mem_cons]
    by_cases hrest : stage ∈ rest.map (·.stage)
    · simp [hrest]
    · by_cases hb : stage = b.stage <;> simp [hrest, hb]

/-- A loaded program is bound unless its label is refused. -/
theorem bindProgram_eq (hs : r.Stocked) (hlost : r.device.lost = false) {p : Program}
    {id : ProgramId} (hid : r.loaded.get? p.key = some id) :
    ∃ label, r.canvas.labels p.key = some label ∧
      r.bindProgram p =
        if label ∈ r.device.failingBinds then (.error (.invalidCall (.unbindable label)), r)
        else (.ok id, r.rebound (r.device.bound.insert p.stage id)
          (r.device.calls ++ [.bind p.stage label])) := by
  obtain ⟨label, hlabel, hplate⟩ := hs.label hid
  obtain ⟨program, hprogram, hlabels⟩ := Option.map_eq_some_iff.mp hplate
  obtain ⟨rfl, hstage⟩ := Prod.mk.inj hlabels
  refine ⟨program.label, hlabel, ?_⟩
  have hstage' : ¬ program.stage ≠ p.stage := by simp [hstage, Program.stage]
  unfold bindProgram
  simp only [hid, device_bind, HeadlessDevice.bind, alive_eq_ok hlost, hprogram, if_neg hstage']
  split_ifs <;> rfl

/-- What is known of the stages once some programs are bound: each has the program of
that stage, if there is one, and is otherwise as it was. -/
def StagesOf (r : Renderer HeadlessDevice) (programs : List Program)
    (before after : Table Stage ProgramId) : Prop :=
  ∀ stage, after.get? stage =
    match programs.find? fun p => p.stage = stage with
    | some p => r.loaded.get? p.key
    | none => before.get? stage

theorem StagesOf.cons {p : Program} {rest : List Program} {id : ProgramId}
    {before after : Table Stage ProgramId}
    (hof : r.StagesOf rest (before.insert p.stage id) after)
    (hfirst : p.stage ∉ rest.map (·.stage)) (hid : r.loaded.get? p.key = some id) :
    r.StagesOf (p :: rest) before after := by
  intro stage
  rw [hof stage, List.find?_cons]
  by_cases hstage : p.stage = stage
  · have hnone : rest.find? (fun q => q.stage = stage) = none := by
      rw [List.find?_eq_none]
      intro q hq hqs
      have hqstage : q.stage = stage := by simpa using hqs
      exact hfirst (List.mem_map.mpr ⟨q, hq, hqstage.trans hstage.symm⟩)
    simp [hnone, hstage, hid]
  · simp only [hstage, decide_false]
    cases rest.find? (fun q => q.stage = stage) with
    | some q => rfl
    | none => simp [Ne.symm hstage]

/-- Binding the programs of a pass is what the reference says. A refusal frees the
stages of the pass again. -/
theorem bindPrograms_spec {programs : List Program} (hs : r.Stocked)
    (hlost : r.device.lost = false) (hstages : (programs.map (·.stage)).Nodup)
    (hloaded : ∀ p ∈ programs, ∃ id, r.loaded.get? p.key = some id) (done : List BoundProgram)
    (hdone : ∀ stage, r.device.bound.get? stage ≠ none → stage ∈ done.map (·.stage)) :
    match r.canvas.refused? r.device.refusals programs with
    | some e => ∃ stages calls, r.bindPrograms done programs = (.error e, r.rebound stages calls) ∧
        ∀ stage, stages.get? stage = none
    | none => ∃ stages calls bound,
        r.bindPrograms done programs = (.ok bound, r.rebound stages calls) ∧
        (∀ stage, stages.get? stage ≠ none → stage ∈ bound.map (·.stage)) ∧
        r.StagesOf programs r.device.bound stages := by
  induction programs generalizing r done with
  | nil => exact ⟨r.device.bound, r.device.calls, done, rfl, hdone, fun _ => rfl⟩
  | cons p rest ih =>
    obtain ⟨id, hid⟩ := hloaded p List.mem_cons_self
    obtain ⟨label, hlabel, hbind⟩ := bindProgram_eq hs hlost hid
    obtain ⟨hfirst, hrest⟩ := List.nodup_cons.mp hstages
    rw [bindPrograms, hbind]
    by_cases hp : label ∈ r.device.failingBinds
    · obtain ⟨stages, calls, heq, hfree⟩ := unbindAll_eq r.device done
      rw [Canvas.refused?_cons_of_mem hlabel hp, if_pos hp]
      refine ⟨stages, calls, by simp only [heq]; rfl, fun stage => ?_⟩
      rw [hfree]
      split_ifs with hmem
      · rfl
      · exact not_not.mp fun hne => hmem (hdone stage hne)
    · rw [Canvas.refused?_cons_of_not_mem hlabel hp, if_neg hp]
      have hdone' : ∀ stage,
          (r.device.bound.insert p.stage id).get? stage ≠ none →
          stage ∈ (done ++ [(⟨p.stage, id, p.constants⟩ : BoundProgram)]).map (·.stage) := by
        intro stage hne
        rw [Table.get?_insert] at hne
        split_ifs at hne with hstage
        · simp [hstage]
        · rw [List.map_append]
          exact List.mem_append_left _ (hdone stage hne)
      have hnext := ih (r := r.rebound (r.device.bound.insert p.stage id)
        (r.device.calls ++ [.bind p.stage label])) hs hlost hrest
        (fun q hq => hloaded q (List.mem_cons_of_mem p hq)) _ hdone'
      have hcanvas : (r.rebound (r.device.bound.insert p.stage id)
        (r.device.calls ++ [.bind p.stage label])).canvas = r.canvas := rfl
      have hrefusals : (r.rebound (r.device.bound.insert p.stage id)
        (r.device.calls ++ [.bind p.stage label])).device.refusals = r.device.refusals := rfl
      rw [hcanvas, hrefusals] at hnext
      cases hr : r.canvas.refused? r.device.refusals rest with
      | some e =>
        rw [hr] at hnext
        exact hnext
      | none =>
        rw [hr] at hnext
        obtain ⟨stages, calls, bound, heq, hbound, hof⟩ := hnext
        exact ⟨stages, calls, bound, heq, hbound, hof.cons hfirst hid⟩

/-! ## Handing values over -/

/-- The renderer with other programs on its device. -/
def restocked (r : Renderer HeadlessDevice) (programs : Table ProgramId HeadlessProgram) :
    Renderer HeadlessDevice := { r with device := { r.device with programs } }

theorem foldl_upload_eq (d : HeadlessDevice) (us : List Upload) :
    ∃ programs, us.foldl Upload.apply d = { d with programs } ∧
      ∀ q, (us.foldl Upload.apply d).plate? q = d.plate? q := by
  induction us generalizing d with
  | nil => exact ⟨d.programs, rfl, fun _ => rfl⟩
  | cons u us ih =>
    obtain ⟨programs, heq, hplates⟩ := ih (u.apply d)
    cases u with
    | constants program register values =>
      refine ⟨programs, heq, fun q => ?_⟩
      exact (hplates q).trans (plate?_setConstants d program register values q)
    | sampler program slot texture =>
      refine ⟨programs, heq, fun q => ?_⟩
      exact (hplates q).trans (plate?_setSampler d program slot texture q)

/-- Handing values over changes no label. -/
theorem foldl_applyParameter_eq (r : Renderer HeadlessDevice) (scene : Scene)
    (ids : List ParameterId) :
    ∃ programs, ids.foldl (fun r id => r.applyParameter scene id) r = r.restocked programs ∧
      ∀ q, (r.restocked programs).device.plate? q = r.device.plate? q := by
  induction ids generalizing r with
  | nil => exact ⟨r.device.programs, rfl, fun _ => rfl⟩
  | cons id ids ih =>
    obtain ⟨uploaded, hupload, hplate⟩ := foldl_upload_eq r.device (r.uploads scene id)
    have happly : r.applyParameter scene id = r.restocked uploaded := by
      unfold applyParameter restocked
      rw [hupload]
    obtain ⟨programs, heq, hplates⟩ := ih (r.applyParameter scene id)
    rw [happly] at heq hplates
    refine ⟨programs, by rw [List.foldl_cons, happly, heq]; rfl, fun q => ?_⟩
    rw [hupload] at hplate
    exact (hplates q).trans (hplate q)

theorem Stocked.restocked (hs : r.Stocked) {programs : Table ProgramId HeadlessProgram}
    (hplates : ∀ q, (r.restocked programs).device.plate? q = r.device.plate? q) :
    (r.restocked programs).Stocked := by
  intro key id hid
  obtain ⟨hlt, label, hlabel⟩ := hs key id hid
  exact ⟨hlt, label, (hplates id).trans hlabel⟩

theorem canvas_restocked {programs : Table ProgramId HeadlessProgram}
    (hplates : ∀ q, (r.restocked programs).device.plate? q = r.device.plate? q) :
    (r.restocked programs).canvas = r.canvas := by
  have hlabels : (r.restocked programs).canvas.labels = r.canvas.labels := by
    funext key
    simp only [canvas, hplates]
    rfl
  rw [Canvas.mk.injEq]
  exact ⟨rfl, hlabels⟩

/-! ## Binding a pass -/

/-- Between passes nothing is bound, and the device is not lost. -/
structure Idle (r : Renderer HeadlessDevice) : Prop where
  lost : r.device.lost = false
  bound : r.bound = none
  free : Free r.device
  stocked : r.Stocked

/-- With a pass bound a draw leaves the label of the pass, and to free the pass is to
free every stage. -/
structure Holds (r : Renderer HeadlessDevice) (tag : String) : Prop where
  lost : r.device.lost = false
  stocked : r.Stocked
  tag : r.device.drawTag = tag
  bound : ∃ pass, r.bound = some pass ∧
    ∀ stage, r.device.bound.get? stage ≠ none → stage ∈ pass.programs.map (·.stage)

theorem boundLabel?_eq (d : HeadlessDevice) (stage : Stage) :
    d.boundLabel? stage = (d.bound.get? stage).bind fun id => (d.plate? id).map (·.1) := by
  simp only [HeadlessDevice.boundLabel?, plate?]
  cases d.bound.get? stage with
  | none => rfl
  | some id => simp [Function.comp_def]

/-- A draw with the programs of a pass leaves the label that the reference says. -/
theorem drawTag_eq {pass : Pass} {before : Table Stage ProgramId}
    (hbefore : ∀ stage, before.get? stage = none)
    (hof : r.StagesOf pass.programs before r.device.bound) :
    r.device.drawTag = r.canvas.tag pass := by
  have hstage : ∀ stage, r.device.boundLabel? stage = r.canvas.stageLabel? pass stage := by
    intro stage
    rw [boundLabel?_eq, hof stage]
    simp only [Canvas.stageLabel?, Pass.program?]
    cases pass.programs.find? fun p => p.stage = stage with
    | none => simp [hbefore]
    | some p => rfl
  have hfragment := hstage .fragment
  have hvertex := hstage .vertex
  unfold drawTag Canvas.tag
  cases hlabel : r.canvas.stageLabel? pass .fragment with
  | some label => simp only [hfragment, hlabel]
  | none => simp only [hfragment, hvertex, hlabel]

/-- Binding a pass fails where the reference does, and leaves nothing bound then. -/
theorem bindPass_spec (hr : r.Idle) (scene : Scene) (effect : Effect) {pass : Pass}
    (hstages : (pass.programs.map (·.stage)).Nodup) :
    ∃ r', (r.bindPass scene effect pass).2 = r' ∧
      r'.device.renderTarget = r.device.renderTarget ∧
      r'.canvas = (r.canvas.outcome r.device.refusals pass).2 ∧
      match (r.canvas.outcome r.device.refusals pass).1 with
      | .error e => (r.bindPass scene effect pass).1 = .error e ∧ r'.Idle
      | .ok tag => (r.bindPass scene effect pass).1 = .ok () ∧ r'.Holds tag := by
  have hunbind : r.unbindPass = r := by
    unfold unbindPass
    rw [hr.bound]
  obtain ⟨hlearn, hstocked, hquiet⟩ := loadPrograms_spec pass.programs hr.stocked hr.lost
  have hrefusals := StepsBy.refusals (loadPrograms_steps r pass.programs)
  unfold bindPass loadPass Canvas.outcome
  rw [hunbind, hlearn]
  have hloaded : (r.loadPrograms pass.programs).1 = .ok () → ∀ p ∈ pass.programs,
      ∃ id, (r.loadPrograms pass.programs).2.loaded.get? p.key = some id :=
    fun hok p hp => loadPrograms_loaded hok hp
  rcases hload : r.loadPrograms pass.programs with ⟨e | _, r₁⟩
  · rw [hload] at hstocked hquiet
    refine ⟨r₁, rfl, hquiet.target, rfl, rfl, ?_⟩
    refine ⟨hquiet.lost.trans hr.lost, hquiet.bound.trans hr.bound, fun stage => ?_, hstocked⟩
    rw [hquiet.stages]
    exact hr.free stage
  · rw [hload] at hstocked hquiet hloaded hrefusals
    have hfree : ∀ stage, r₁.device.bound.get? stage = none := by
      intro stage
      rw [hquiet.stages]
      exact hr.free stage
    have hbind := bindPrograms_spec hstocked (hquiet.lost.trans hr.lost) hstages
      (hloaded rfl) [] (fun stage hne => absurd (hfree stage) hne)
    rw [hrefusals] at hbind
    simp only
    cases hrefused : r₁.canvas.refused? r.device.refusals pass.programs with
    | some e =>
      rw [hrefused] at hbind
      obtain ⟨stages, calls, heq, hnone⟩ := hbind
      rw [heq]
      refine ⟨_, rfl, hquiet.target, rfl, rfl, ?_⟩
      exact ⟨hquiet.lost.trans hr.lost, hquiet.bound.trans hr.bound, hnone, hstocked⟩
    | none =>
      rw [hrefused] at hbind
      obtain ⟨stages, calls, bound, heq, hbound, hof⟩ := hbind
      rw [heq]
      obtain ⟨programs, happly, hplates⟩ := foldl_applyParameter_eq
        { r₁.rebound stages calls with
          bound := some ⟨effect.name ++ "/" ++ pass.technique ++ "/" ++ pass.name, bound⟩ }
        scene effect.parameterIds
      simp only [happly]
      refine ⟨_, rfl, hquiet.target, canvas_restocked hplates, trivial, ?_⟩
      refine ⟨hquiet.lost.trans hr.lost, Stocked.restocked hstocked hplates, ?_, _, rfl, hbound⟩
      refine (drawTag_eq hfree hof).trans ?_
      rw [canvas_restocked hplates]
      rfl

end Renderer

end ShaderEffects
