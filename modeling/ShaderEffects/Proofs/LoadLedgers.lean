import ShaderEffects.Proofs.CachedPrograms
import ShaderEffects.Proofs.TwinHosts

/-!
# Each program is loaded once

A device is put beside a ledger, in which every program is entered that the renderer has
loaded. The renderer cannot tell that it is watched, so what the ledger says of a run is
true of the run without it: what was loaded is what the renderer has noted, under as many
keys, whatever failed in between and was tried again.
-/
namespace ShaderEffects

/-- A device, and what was loaded through it: the keys of the programs with their numbers. -/
structure Ledger (D : Type) where
  device : D
  loads : List (ProgramKey × ProgramId) := []

namespace Ledger

variable {D : Type} [Device D]

/-- The result of a call of the device, with nothing entered. -/
def pass {α : Type} (l : Ledger D) (x : α × D) : α × Ledger D := (x.1, { l with device := x.2 })

/-- Loads a program, and enters it if that succeeds. -/
def loadProgram (l : Ledger D) (p : Program) : Except DeviceError ProgramId × Ledger D :=
  match Device.loadProgram l.device p with
  | (.ok id, device) => (.ok id, ⟨device, l.loads ++ [(p.key, id)]⟩)
  | (.error cause, device) => (.error cause, { l with device })

instance : Device (Ledger D) where
  HostState := Device.HostState D
  backbufferSize l := Device.backbufferSize l.device
  isLost l := Device.isLost l.device
  supports l := Device.supports l.device
  validate l programs := l.pass (Device.validate l.device programs)
  createTexture l name desc := l.pass (Device.createTexture l.device name desc)
  loadTexture l files name path :=
    let (result, device, notices) := Device.loadTexture l.device files name path
    (result, { l with device }, notices)
  loadProgram := loadProgram
  bind l stage id := l.pass (Device.bind l.device stage id)
  unbind l stage := { l with device := Device.unbind l.device stage }
  setConstants l id register values :=
    { l with device := Device.setConstants l.device id register values }
  setSampler l id slot texture := { l with device := Device.setSampler l.device id slot texture }
  target l := Device.target l.device
  setTarget l surface := l.pass (Device.setTarget l.device surface)
  capture l := Device.capture l.device
  restore l state := { l with device := Device.restore l.device state }
  enterEffectState l := { l with device := Device.enterEffectState l.device }
  draw l geometry := l.pass (Device.draw l.device geometry)
  copy l source destination := l.pass (Device.copy l.device source destination)

/-- The device with a ledger is this one. -/
def Watches (l : Ledger D) (d : D) : Prop := l.device = d

/-! ## The renderer does not notice -/

theorem twins : Twins ∅ (Watches (D := D)) where
  isLost := by rintro l _ rfl; rfl
  backbufferSize := by rintro l _ rfl; rfl
  target := by rintro l _ rfl; rfl
  loadProgram := by
    rintro l _ rfl p
    show Mirrors Watches (l.loadProgram p) _
    unfold loadProgram
    rcases Device.loadProgram l.device p with ⟨_ | id, device⟩ <;> exact ⟨rfl, rfl⟩
  bind := by rintro l _ rfl stage id; exact ⟨rfl, rfl⟩
  unbind := by rintro l _ rfl stage; rfl
  setConstants := by
    rintro l _ rfl id register values values' (rfl | hfed)
    · rfl
    · exact absurd hfed Set.not_nonempty_empty
  setSampler := by rintro l _ rfl id slot texture; rfl
  setTarget := by rintro l _ rfl surface; exact ⟨rfl, rfl⟩
  copy := by rintro l _ rfl source destination _; exact ⟨rfl, rfl⟩

theorem linkTwins : LinkTwins (Watches (D := D)) (fun _ => True) (fun _ => True) True where
  supports := by rintro l _ rfl programs _ p _; rfl
  validate := by rintro l _ rfl programs _; exact ⟨rfl, rfl⟩
  createTexture := by rintro l _ rfl name desc _; exact ⟨rfl, rfl⟩
  loadTexture := by rintro _ l _ rfl files name path; exact ⟨rfl, rfl, rfl⟩

theorem drawTwins : DrawTwins ∅ (Watches (D := D)) (fun _ => True) (fun _ => True)
    (fun _ => True) where
  toTwins := twins
  fit := fun _ _ _ _ => trivial
  quad := fun _ _ => trivial
  draw := by rintro r r₁ scene effect pass _ _ _ rfl geometry _; exact ⟨rfl, rfl⟩

/-- What a host does past the session goes to the device and is not entered. -/
def act {A : Type} (act : A → D → D) : DeviceCall D ⊕ A → Ledger D → Ledger D
  | .inl c, l => { l with device := c.perform l.device }
  | .inr a, l => { l with device := act a l.device }

end Ledger

/-- The operation on a device with a ledger. -/
def HostOp.onLedger {D A : Type} [Device D] : HostOp D A → HostOp (Ledger D) (DeviceCall D ⊕ A)
  | load name text => .load name text
  | loadFile path => .loadFile path
  | unload handle => .unload handle
  | connect handle parameter texture => .connect handle parameter texture
  | createTexture name desc => .createTexture name desc
  | createVirtual name type => .createVirtual name type
  | attach target source => .attach target source
  | detach target source => .detach target source
  | write id w => .write id w
  | hold id => .hold id
  | drop id => .drop id
  | frame now geometry => .frame now geometry
  | call c => .act (.inl c)
  | act a => .act (.inr a)

/-- The operation on a device with a ledger. -/
def HookOp.onLedger {D A : Type} [Device D] : HookOp D A → HookOp (Ledger D) (DeviceCall D ⊕ A)
  | session op => .session op.onLedger
  | hook h => .hook h

/-- Every operation is allowed where all is allowed. -/
theorem SessionOp.modest (compiler : Compiler) (op : SessionOp) :
    op.Modest (fun _ => True) (fun _ => True) True (fun _ => True) (fun _ => True) compiler := by
  have htext : ∀ text, ModestText (fun _ => True) (fun _ => True) True compiler text :=
    fun _ _ _ _ _ => ⟨fun _ _ _ _ _ => trivial, fun _ _ _ _ _ => trivial,
      fun _ _ _ _ _ => Or.inl trivial⟩
  cases op with
  | load _ text => exact htext text
  | loadFile path => exact fun text _ => htext text
  | hook h => cases h <;> simp [SessionOp.Modest, SessionOp.HookModest]
  | createTexture | frame => simp [SessionOp.Modest]
  | unload | connect | createVirtual | attach | detach | write | hold | drop => trivial

/-! ## What is entered -/

namespace Renderer

variable {D : Type} [Device D] {r r' : Renderer (Ledger D)}

/-- What was entered is what the renderer has noted, each key once. -/
structure Entered (r : Renderer (Ledger D)) : Prop where
  loads : r.device.loads = r.loaded.entries
  nodup : r.loaded.keys.Nodup

omit [Device D] in
theorem Entered.congr (h : r.Entered) (hloaded : r'.loaded = r.loaded)
    (hloads : r'.device.loads = r.device.loads) : r'.Entered :=
  ⟨by rw [hloads, hloaded, h.loads], by rw [hloaded]; exact h.nodup⟩

theorem Entered.load (h : r.Entered) {p : Program} {id : ProgramId} {device : Ledger D}
    (hnew : r.loaded.contains p.key = false)
    (hload : Device.loadProgram r.device p = (.ok id, device)) :
    ({ r with device, loaded := r.loaded.insert p.key id } : Renderer (Ledger D)).Entered := by
  have hentered : device.loads = r.device.loads ++ [(p.key, id)] := by
    change r.device.loadProgram p = _ at hload
    unfold Ledger.loadProgram at hload
    rcases hdevice : Device.loadProgram r.device.device p with ⟨_ | id', d⟩ <;>
      simp only [hdevice, Prod.mk.injEq, reduceCtorEq, false_and, Except.ok.injEq] at hload
    obtain ⟨rfl, rfl⟩ := hload
    rfl
  constructor
  · rw [hentered, h.loads, Table.entries_insert_of_new hnew]
  · exact Table.nodup_keys_insert h.nodup p.key id

theorem loadPrograms_entered (h : r.Entered) (programs : List Program) :
    (r.loadPrograms programs).2.Entered := by
  induction programs generalizing r with
  | nil => exact h
  | cons p rest ih =>
    rw [loadPrograms]
    split_ifs with hloaded
    · exact ih h
    · have hnew : r.loaded.contains p.key = false := by simpa using hloaded
      rcases hload : Device.loadProgram r.device p with ⟨cause | id, device⟩
      · refine h.congr rfl ?_
        change r.device.loadProgram p = _ at hload
        unfold Ledger.loadProgram at hload
        rcases hdevice : Device.loadProgram r.device.device p with ⟨_ | id', d⟩ <;>
          simp only [hdevice, Prod.mk.injEq, reduceCtorEq, false_and] at hload
        rw [← hload.2]
      · exact ih ((h.load hnew hload).congr rfl rfl)

theorem unbindAll_loads (l : Ledger D) (programs : List BoundProgram) :
    (unbindAll l programs).loads = l.loads := by
  induction programs generalizing l with
  | nil => rfl
  | cons b rest ih => exact ih (Device.unbind l b.stage)

theorem unbindPass_entered (h : r.Entered) : r.unbindPass.Entered := by
  unfold unbindPass
  cases r.bound with
  | none => exact h
  | some bound => exact h.congr rfl (unbindAll_loads r.device bound.programs)

theorem bindProgram_entered (h : r.Entered) (p : Program) : (r.bindProgram p).2.Entered := by
  refine h.congr (bindProgram_loaded r p) ?_
  unfold bindProgram
  cases r.loaded.get? p.key with
  | none => rfl
  | some id =>
    have hloads : (Device.bind r.device p.stage id).2.loads = r.device.loads := rfl
    rcases hbind : Device.bind r.device p.stage id with ⟨_ | _, device⟩ <;> rw [hbind] at hloads <;>
      simpa only [hbind] using hloads

theorem bindPrograms_entered (h : r.Entered) (done : List BoundProgram) (programs : List Program) :
    (r.bindPrograms done programs).2.Entered := by
  induction programs generalizing r done with
  | nil => exact h
  | cons p rest ih =>
    have hbound := bindProgram_entered h p
    rw [bindPrograms]
    rcases hbind : r.bindProgram p with ⟨cause | id, r₁⟩ <;> rw [hbind] at hbound
    · exact hbound.congr rfl (unbindAll_loads r₁.device done)
    · exact ih hbound _

theorem foldl_upload_loads (l : Ledger D) (us : List Upload) :
    (us.foldl Upload.apply l).loads = l.loads := by
  induction us generalizing l with
  | nil => rfl
  | cons u rest ih => cases u <;> exact ih _

theorem applyParameter_entered (h : r.Entered) (scene : Scene) (id : ParameterId) :
    (r.applyParameter scene id).Entered := h.congr rfl (foldl_upload_loads _ _)

theorem bindPass_entered (h : r.Entered) (scene : Scene) (effect : Effect) (pass : Pass) :
    (r.bindPass scene effect pass).2.Entered := by
  have hload := loadPrograms_entered (unbindPass_entered h) pass.programs
  unfold bindPass loadPass
  rcases hl : r.unbindPass.loadPrograms pass.programs with ⟨e | _, r₁⟩ <;> rw [hl] at hload
  · exact hload
  have hbind := bindPrograms_entered hload [] pass.programs
  rcases hb : r₁.bindPrograms [] pass.programs with ⟨e | programs, r₂⟩ <;> rw [hb] at hbind <;>
    simp only [hb]
  · exact hbind
  · -- a value for a program is no program
    refine List.foldlRecOn _ _ (hbind.congr rfl rfl) fun r₃ h₃ id _ => ?_
    exact applyParameter_entered h₃ scene id

theorem Turn.entered {ok : Pass → Prop} {aims : Prop} (h : r.Turn ok aims r') (hr : r.Entered) :
    r'.Entered := by
  cases h with
  | note | quad | draw | copy | aim => exact hr.congr rfl rfl
  | load pass => exact loadPrograms_entered hr pass.programs
  | bind scene effect => exact bindPass_entered hr scene effect _
  | free => exact unbindPass_entered hr
  | apply scene id => exact applyParameter_entered hr scene id

theorem Turns.entered {ok : Pass → Prop} {aims : Prop} (h : r.Turns ok aims r') (hr : r.Entered) :
    r'.Entered := h.keep (fun _ _ hturn => hturn.entered) hr

end Renderer

namespace Engine

variable {D : Type} [Device D] {e e' : Engine (Ledger D)}

theorem Step.entered (h : e.Step e') (he : e.renderer.Entered) : e'.renderer.Entered := by
  rcases h.renderer_cases with heq | ⟨notices, heq⟩ | ⟨c, hc, heq⟩ <;> rw [heq]
  · exact he
  · exact he.congr rfl rfl
  · cases c <;> first | exact he.congr rfl rfl | cases hc

theorem Steps.entered (h : e.Steps e') (he : e.renderer.Entered) : e'.renderer.Entered :=
  h.keep (fun _ _ hstep => hstep.entered) he

omit [Device D] in
theorem Tunes.entered (h : e.Tunes e') (he : e.renderer.Entered) : e'.renderer.Entered := by
  obtain ⟨parameters, notices, rfl⟩ := h
  exact he.congr rfl rfl

theorem load_entered (he : e.renderer.Entered) (name text : String) :
    (e.load name text).2.renderer.Entered := by
  rcases e.load_cases name text with hsteps | ⟨_, draft, e₁, _, hsteps, _, heq⟩
  · exact hsteps.entered he
  · rw [heq]
    have hlink := link_steps { e₁ with parameters := (draft.install e.parameters).2 }
      (draft.install e.parameters).1
    exact hlink.entered (hsteps.entered he)

end Engine

namespace Host

variable {D A : Type} [Device D] {host : Host (Ledger D)} {host' : Host D}

/-- Two hosts of which one has a ledger beside its device. -/
abbrev Watches (host : Host (Ledger D)) (host' : Host D) : Prop :=
  host.Alike ∅ Ledger.Watches (fun _ => True) host'

theorem Watches.stepHook (h : host.Watches host') (act : A → D → D) (op : HookOp D A) :
    (host.stepHook (Ledger.act act) op.onLedger).Watches (host'.stepHook act op) := by
  have htold : ∀ (op : SessionOp) (now : Int),
      (host.tell (op, now)).2.Watches (host'.tell (op, now)).2 := fun op now =>
    (tell_mirrors Ledger.drawTwins Ledger.linkTwins h (op.modest _)
      (fun _ _ _ _ _ _ _ => trivial) (Or.inl ⟨rfl, rfl⟩)
      fun a _ ha => absurd ha (Set.notMem_empty a)).2
  cases op with
  | hook hook => exact htold (.hook hook) 0
  | session op =>
    cases op with
    | load name text => exact htold (.load name text) 0
    | loadFile path => exact htold (.loadFile path) 0
    | unload handle => exact htold (.unload handle) 0
    | connect handle parameter texture => exact htold (.connect handle parameter texture) 0
    | createTexture name desc => exact htold (.createTexture name desc) 0
    | createVirtual name type => exact htold (.createVirtual name type) 0
    | attach target source => exact htold (.attach target source) 0
    | detach target source => exact htold (.detach target source) 0
    | write id w => exact htold (.write id w) 0
    | hold id => exact htold (.hold id) 0
    | drop id => exact htold (.drop id) 0
    | frame now geometry => exact htold (.frame geometry) now
    | call c =>
      exact h.withEngine (h.engine.withDevice (congrArg (DeviceCall.perform · c) h.engine.device))
    | act a => exact h.withEngine (h.engine.withDevice (congrArg (act a) h.engine.device))

theorem step_entered (h : host.engine.renderer.Entered) (act : A → D → D) (op : HostOp D A) :
    (host.step (Ledger.act act) op.onLedger).engine.renderer.Entered := by
  have hchange := host.step_change (Ledger.act act) op.onLedger
  generalize (host.step (Ledger.act act) op.onLedger).engine = e',
    (host.step (Ledger.act act) op.onLedger).held = held' at hchange ⊢
  cases hchange with
  | steps hsteps => exact hsteps.entered h
  | load notices name text =>
    have hnoted : (host.engine.note notices).renderer.Entered := h.congr rfl rfl
    exact Engine.load_entered hnoted name text
  | unload handle notices =>
    have hsame := Engine.unload_renderer
      { host.engine with renderer := host.engine.renderer.unbindPass } handle
    exact (Renderer.unbindPass_entered h).congr (congrArg (·.loaded) hsame)
      (congrArg (·.device.loads) hsame)
  | @connect id _ texture _ =>
    have hturns : host.engine.renderer.Turns (fun _ => True) True
        (host.engine.connect id texture).2.renderer := Renderer.connected_turns _ _ id
    exact hturns.entered h
  | createVirtual name type => exact (host.engine.tunes_createVirtual name type).entered h
  | stays | retain | release => exact h
  | draw _ writes geometry =>
    obtain ⟨renderer, heq, hacts⟩ := Session.drawFrame_acts
      { host.engine with parameters := Session.written host.engine.parameters writes } geometry
    rw [heq]
    have hturns : host.engine.renderer.Turns (fun _ => True) True renderer :=
      hacts.turns fun _ _ _ _ _ _ _ => trivial
    exact hturns.entered h
  | call hcall => cases op <;> cases hcall
  | @act a =>
    refine h.congr rfl ?_
    cases a <;> rfl

theorem stepHook_entered (h : host.engine.renderer.Entered) (act : A → D → D) (op : HookOp D A) :
    (host.stepHook (Ledger.act act) op.onLedger).engine.renderer.Entered := by
  cases op with
  | session op => exact step_entered h act op
  | hook hook =>
    have hturns :
        host.engine.renderer.Turns (fun _ => True) True (host.engine.hook hook).renderer :=
      (host.engine.hook_turns fun _ _ => trivial).2
    exact hturns.entered h

/-- A host with a ledger has entered what a host without one has noted. -/
theorem runHooks_watches (h : host.Watches host') (hentered : host.engine.renderer.Entered)
    (act : A → D → D) (ops : List (HookOp D A)) :
    (host.runHooks (Ledger.act act) (ops.map HookOp.onLedger)).Watches (host'.runHooks act ops) ∧
      (host.runHooks (Ledger.act act) (ops.map HookOp.onLedger)).engine.renderer.Entered := by
  induction ops generalizing host host' with
  | nil => exact ⟨h, hentered⟩
  | cons op rest ih => exact ih (h.stepHook act op) (stepHook_entered hentered act op)

end Host

/-! ## Runs -/

/-- What is in order with the programs of a host, which has a session on a device:
`ledger` is the same host with a ledger beside the device. -/
structure Host.Coherent {D : Type} [Device D] [ProgramShelf D] (host : Host D)
    (ledger : Host (Ledger D)) : Prop where
  /-- What is noted is a program that the device still has, of the stage it is noted for. -/
  held : ∀ key id, host.engine.renderer.loaded.get? key = some id →
    ∃ label, ProgramShelf.shelved host.engine.device id = some (label, key.stage)
  /-- No number is noted for two programs. -/
  injective : ∀ key other id, host.engine.renderer.loaded.get? key = some id →
    host.engine.renderer.loaded.get? other = some id → key = other
  /-- A pass that is bound now, or in the middle of what is drawn next, is not bound only if
  the device refuses it. -/
  bindPass : ∀ r, host.engine.renderer.Steps r → ∀ scene effect pass e r',
    r.bindPass scene effect pass = (.error e, r') → ProgramShelf.Refuses r'.device e ∧ ¬ e.Slip
  /-- The same for what a frame reports. -/
  frame : ∀ now geometry reports session',
    host.session.renderFrame now geometry = (.ok reports, session') → ∀ report ∈ reports,
      ∀ e ∈ report.bindErrors, ProgramShelf.Refuses session'.engine.device e ∧ ¬ e.Slip
  /-- The ledger changes nothing. -/
  device : ledger.engine.device.device = host.engine.device
  /-- What was loaded is what is noted. -/
  loads : ledger.engine.device.loads = host.engine.renderer.loaded.entries
  /-- Nothing was loaded twice. -/
  once : (ledger.engine.device.loads.map Prod.fst).Nodup

section runs

variable {D A : Type} [Device D] [ProgramShelf D] {act : A → D → D} {device : D}
  {settings : Settings} {compiler : Compiler} {now : Int} {session : Session D} {engine : Engine D}

omit [ProgramShelf D] in
/-- A session is set up beside a ledger as it is without one. -/
theorem Session.create_onLedger
    (hcreate : Session.create device settings compiler now = (.ok session, engine)) :
    ∃ ledger engine', Session.create (⟨device, []⟩ : Ledger D) settings compiler now =
        (.ok ledger, engine') ∧
      ledger.Alike ∅ Ledger.Watches (fun _ => True) session ∧ ledger.engine.renderer.Entered := by
  have hboth : Session.BothSetUp ∅ Ledger.Watches (fun _ => True)
      (Session.create (⟨device, []⟩ : Ledger D) settings compiler now).1
      (Session.create device settings compiler now).1 :=
    Session.create_alike Ledger.twins Ledger.linkTwins (fun _ _ _ => trivial) rfl settings compiler
      (fun _ _ => rfl) trivial
  rw [hcreate] at hboth
  rcases hledger : Session.create (⟨device, []⟩ : Ledger D) settings compiler now with
    ⟨result, engine'⟩
  rw [hledger] at hboth
  obtain ⟨ledger, rfl, hsessions⟩ : ∃ ledger, result = .ok ledger ∧
      ledger.Alike ∅ Ledger.Watches (fun _ => True) session := by
    cases hboth with
    | both h => exact ⟨_, rfl, h⟩
  refine ⟨ledger, engine', rfl, hsessions, ?_⟩
  exact Session.create_keep (P := fun e => e.renderer.Entered)
    (fun _ _ hstep he => hstep.entered he)
    (fun e name type he => (e.tunes_createVirtual name type).entered he) hledger
    ⟨rfl, List.nodup_nil⟩

end runs

theorem Host.Watches.coherent {D : Type} [Device D] [ProgramShelf D] {host : Host D}
    {ledger : Host (Ledger D)} (hstocks : host.engine.renderer.Stocks)
    (hwatches : ledger.Watches host) (hentered : ledger.engine.renderer.Entered) :
    host.Coherent ledger where
  held := hstocks.held
  injective := hstocks.injective
  bindPass := by
    intro r hr scene effect pass e r' hbind
    have hrefused := Renderer.bindPass_refused (hr.stocks hstocks) hbind
    exact ⟨hrefused, ProgramShelf.not_slip hrefused⟩
  frame := by
    intro now geometry reports session' hframe report hreport e he
    have hrefused := Session.renderFrame_excused hstocks hframe report hreport e he
    exact ⟨hrefused, ProgramShelf.not_slip hrefused⟩
  device := hwatches.engine.device
  loads := by
    obtain ⟨_, d, hrenderer, _⟩ := hwatches.engine.renderer
    rw [hrenderer]
    exact hentered.loads
  once := by
    have hloads : ledger.engine.device.loads = ledger.engine.renderer.loaded.entries :=
      hentered.loads
    rw [hloads]
    exact hentered.nodup

/-- Whatever a host does with a session on such a device, its programs are in order, and
what was noted stays noted. -/
def LoadsOnce {D A : Type} [Device D] [ProgramShelf D] (act : A → D → D) : Prop :=
  ∀ {device : D} {settings : Settings} {compiler : Compiler} {now : Int} {session : Session D}
    {engine : Engine D}, Session.create device settings compiler now = (.ok session, engine) →
    ∃ ledger engine', Session.create (⟨device, []⟩ : Ledger D) settings compiler now =
        (.ok ledger, engine') ∧
      ∀ before after : List (HookOp D A),
        (({ session } : Host D).runHooks act before).Coherent
          (({ session := ledger } : Host (Ledger D)).runHooks (Ledger.act act)
            (before.map HookOp.onLedger)) ∧
        ∀ key id,
          (({ session } : Host D).runHooks act before).engine.renderer.loaded.get? key = some id →
          (({ session } : Host D).runHooks act (before ++ after)).engine.renderer.loaded.get? key =
            some id

namespace Host

theorem loadsOnce_of_keeps {D A : Type} [Device D] [ProgramShelf D] {act : A → D → D}
    (hact : KeepsShelves act) : LoadsOnce act := by
  intro device settings compiler now session engine hcreate
  obtain ⟨ledger, engine', hledger, hsessions, hset⟩ := Session.create_onLedger hcreate
  refine ⟨ledger, engine', hledger, fun before after => ?_⟩
  have hstart : ({ session } : Host D).engine.renderer.Stocks :=
    Renderer.stocks_of_empty (loaded_of_create hcreate)
  have hbeside : ({ session := ledger } : Host (Ledger D)).Watches { session } := ⟨hsessions, rfl⟩
  obtain ⟨hstocks, -⟩ := runHooks_stocks hact hstart before
  obtain ⟨hwatches, hentered⟩ := runHooks_watches hbeside hset act before
  refine ⟨hwatches.coherent hstocks hentered, ?_⟩
  simp only [runHooks, List.foldl_append] at hstocks ⊢
  exact (runHooks_stocks hact hstocks after).2

/-- On the device without a screen and on every graphics device each program is loaded once and
kept, whatever is refused and tried again. A pass is not bound only if the device refuses to load
or to bind one of its programs, or is lost. -/
theorem programs_loaded_once :
    LoadsOnce HeadlessAct.perform ∧
      ∀ (D : Type) [Device D] [Graphics D], LoadsOnce (Graphics.act : GpuAct → D → D) :=
  ⟨loadsOnce_of_keeps HeadlessAct.keepsShelves, fun _ => loadsOnce_of_keeps Graphics.keepsShelves⟩

/-- Two passes with a program in common, of which the device refuses the second, and both
once more. -/
def retried {D A : Type} [Device D] : List (HookOp D A) :=
  ["first", "second", "first", "second"].map fun label =>
    .hook (.bindPass ⟨{}, {}⟩ ⟨"fx", [], [], none⟩ (overBase label))

/-- What a pass was not bound for. -/
def refusal? {D : Type} [Device D] (host : Host D) (pass : Pass) : Option DeviceError :=
  match (host.engine.renderer.bindPass ⟨{}, {}⟩ ⟨"fx", [], [], none⟩ pass).1 with
  | .error e => some e.cause
  | .ok _ => none

theorem exists_of_refusal? {D : Type} [Device D] {host : Host D} {pass : Pass}
    {cause : DeviceError} (h : host.refusal? pass = some cause) :
    ∃ e r, host.engine.renderer.bindPass ⟨{}, {}⟩ ⟨"fx", [], [], none⟩ pass = (.error e, r) ∧
      e.cause = cause := by
  unfold refusal? at h
  rcases hresult : host.engine.renderer.bindPass ⟨{}, {}⟩ ⟨"fx", [], [], none⟩ pass with
    ⟨e | _, r⟩ <;> rw [hresult] at h <;> cases h
  exact ⟨e, r, rfl, rfl⟩

/-- A graphics device whose interface refuses one shader: that of the third program to be
loaded. Before it there are verdicts on the textures of a session. -/
def fastidious : JudgedDevice :=
  .ofSize .plain 4 4 (List.replicate 6 none ++ [some "unreadable"])

/-- The programs that a device takes are loaded once. One that the device without a screen refuses
is refused again. The shader that the graphics interface refuses is tried again, and then the
program is loaded. -/
theorem programs_loaded_once_retried :
    (∃ (session : Session HeadlessDevice) (engine : Engine HeadlessDevice)
      (ledger : Session (Ledger HeadlessDevice)) (host : Host HeadlessDevice)
      (watched : Host (Ledger HeadlessDevice)),
      Session.create ((HeadlessDevice.ofSize 4 4).failingLoad "second") {}
          (Session.searching {} {}) 0 = (.ok session, engine) ∧
        ({ session } : Host HeadlessDevice).runHooks HeadlessAct.perform retried = host ∧
        ({ session := ledger } : Host (Ledger HeadlessDevice)).runHooks
          (Ledger.act HeadlessAct.perform) (retried.map HookOp.onLedger) = watched ∧
        host.Coherent watched ∧
        host.engine.renderer.loaded.entries.map (fun entry => (entry.1.stage, entry.2)) =
          [(.vertex, ⟨5⟩), (.fragment, ⟨6⟩)] ∧
        ∃ e r, host.engine.renderer.bindPass ⟨{}, {}⟩ ⟨"fx", [], [], none⟩ (overBase "second") =
          (.error e, r) ∧ e.cause = .invalidCall (.rejected "second") ∧ ¬ e.Slip) ∧
    ∃ (session : Session JudgedDevice) (engine : Engine JudgedDevice)
      (ledger : Session (Ledger JudgedDevice)) (before after : Host JudgedDevice)
      (watched : Host (Ledger JudgedDevice)),
      Session.create fastidious {} (Session.searching {} {}) 0 = (.ok session, engine) ∧
        ({ session } : Host JudgedDevice).runHooks Graphics.act (retried.take 1) = before ∧
        (∃ e r, before.engine.renderer.bindPass ⟨{}, {}⟩ ⟨"fx", [], [], none⟩
          (overBase "second") = (.error e, r) ∧
          e.cause = .invalidCall (.refused "unreadable") ∧ ¬ e.Slip) ∧
        ({ session } : Host JudgedDevice).runHooks Graphics.act retried = after ∧
        ({ session := ledger } : Host (Ledger JudgedDevice)).runHooks
          (Ledger.act Graphics.act) (retried.map HookOp.onLedger) = watched ∧
        after.Coherent watched ∧
        after.engine.renderer.loaded.entries.map (fun entry => (entry.1.stage, entry.2)) =
          [(.vertex, ⟨5⟩), (.fragment, ⟨6⟩), (.fragment, ⟨7⟩)] := by
  constructor
  · have hrun : ((Session.create ((HeadlessDevice.ofSize 4 4).failingLoad "second") {}
          (Session.searching {} {}) 0).1.toOption.map fun session =>
        let host := ({ session } : Host HeadlessDevice).runHooks HeadlessAct.perform retried
        (host.engine.renderer.loaded.entries.map fun entry => (entry.1.stage, entry.2),
          host.refusal? (overBase "second"))) =
        some ([(.vertex, ⟨5⟩), (.fragment, ⟨6⟩)], some (.invalidCall (.rejected "second"))) := by
      decide +kernel
    obtain ⟨session, hsession, hseen⟩ := Option.map_eq_some_iff.mp hrun
    obtain ⟨hloaded, hrefused⟩ := Prod.mk.inj hseen
    have hcreate := eq_ok_of_toOption hsession
    obtain ⟨ledger, _, _, hcoherent⟩ := programs_loaded_once.1 hcreate
    obtain ⟨hcoherent, -⟩ := hcoherent retried []
    obtain ⟨e, r, hresult, hcause⟩ := exists_of_refusal? hrefused
    exact ⟨session, _, ledger, _, _, hcreate, rfl, rfl, hcoherent, hloaded, e, r, hresult, hcause,
      (hcoherent.bindPass _ (.refl _) _ _ _ _ _ hresult).2⟩
  · have hrun : ((Session.create fastidious {} (Session.searching {} {}) 0).1.toOption.map
        fun session =>
        ((({ session } : Host JudgedDevice).runHooks Graphics.act (retried.take 1)).refusal?
            (overBase "second"),
          (({ session } : Host JudgedDevice).runHooks Graphics.act
            retried).engine.renderer.loaded.entries.map fun entry => (entry.1.stage, entry.2))) =
        some (some (.invalidCall (.refused "unreadable")),
          [(.vertex, ⟨5⟩), (.fragment, ⟨6⟩), (.fragment, ⟨7⟩)]) := by decide +kernel
    obtain ⟨session, hsession, hseen⟩ := Option.map_eq_some_iff.mp hrun
    obtain ⟨hrefused, hloaded⟩ := Prod.mk.inj hseen
    have hcreate := eq_ok_of_toOption hsession
    obtain ⟨ledger, _, _, hcoherent⟩ := programs_loaded_once.2 JudgedDevice hcreate
    obtain ⟨hbefore, -⟩ := hcoherent (retried.take 1) []
    obtain ⟨hafter, -⟩ := hcoherent retried []
    obtain ⟨e, r, hresult, hcause⟩ := exists_of_refusal? hrefused
    exact ⟨session, _, ledger, _, _, _, hcreate, rfl, ⟨e, r, hresult, hcause,
      (hbefore.bindPass _ (.refl _) _ _ _ _ _ hresult).2⟩, rfl, rfl, hafter, hloaded⟩

end Host

end ShaderEffects
