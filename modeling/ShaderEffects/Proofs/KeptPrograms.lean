import ShaderEffects.Proofs.GpuRegisters
import ShaderEffects.Proofs.HandedConstants
import ShaderEffects.Proofs.HostRuns

/-!
# Programs while a host runs

A host that writes no numbers to programs itself leaves it to the renderer: whatever
else it does, what is known of the loaded programs holds after it.
-/
namespace ShaderEffects

namespace DeviceCall

variable {D : Type} [Device D]

/-- A kind of calls that has what engines and renderers take by themselves. -/
def Covers (kind : DeviceCall D → Bool) : Prop :=
  ∀ c : DeviceCall D, c.draws = true ∨ c.prepares = true → kind c = true

theorem leavesConstants_covers : Covers (leavesConstants : DeviceCall D → Bool) := by
  rintro c (h | h)
  · exact leavesConstants_of_draws h
  · cases c <;> first | rfl | cases h

end DeviceCall

/-- What calls make of a device that only make textures or ask about programs. -/
def Device.Prepared {D : Type} [Device D] : D → D → Prop :=
  Relation.ReflTransGen fun d d' => ∃ c : DeviceCall D, c.prepares = true ∧ d' = c.perform d

/-- What the calls keep, such a device has. -/
theorem Device.Prepared.keep {D : Type} [Device D] {P : D → Prop}
    (hP : ∀ (d : D) (c : DeviceCall D), c.prepares = true → P d → P (c.perform d)) {d d' : D}
    (h : Device.Prepared d d') (hd : P d) : P d' := by
  induction h with
  | refl => exact hd
  | tail _ hcall ih =>
    obtain ⟨c, hc, rfl⟩ := hcall
    exact hP _ c hc ih

namespace Engine

variable {D : Type} [Device D] {e e' : Engine D} {kind : DeviceCall D → Bool}

/-- To the renderer a step of an engine is nothing, a note, or a call that makes a texture
or asks whether programs go together. -/
theorem Step.renderer_cases (h : e.Step e') :
    e'.renderer = e.renderer ∨ (∃ notices, e'.renderer = e.renderer.note notices) ∨
      ∃ c : DeviceCall D, c.prepares = true ∧
        e'.renderer = { e.renderer with device := c.perform e.renderer.device } := by
  cases h with
  | attach | give => exact Or.inl rfl
  | note notices => exact Or.inr (Or.inl ⟨notices, rfl⟩)
  | @call c hc _ => exact Or.inr (Or.inr ⟨c, hc, rfl⟩)
  | @create name desc backing device _ _ hcreate =>
    have hdevice : (DeviceCall.createTexture name desc).perform e.renderer.device = device :=
      congrArg Prod.snd hcreate
    exact Or.inr (Or.inr ⟨_, rfl, by rw [hdevice]; rfl⟩)
  | @load files name path backing desc device _ _ _ hload =>
    have hdevice : (DeviceCall.loadTexture files name path).perform e.renderer.device = device :=
      congrArg (fun result => result.2.1) hload
    exact Or.inr (Or.inr ⟨_, rfl, by rw [hdevice]; rfl⟩)

/-- To the renderer a step of an engine is nothing, or a step. -/
theorem Step.renderer_steps (hkind : DeviceCall.Covers kind) (h : e.Step e') :
    e.renderer.StepsBy kind False e'.renderer := by
  rcases h.renderer_cases with heq | ⟨notices, heq⟩ | ⟨c, hc, heq⟩ <;> rw [heq]
  · exact .refl e.renderer
  · exact Renderer.note_stepsBy e.renderer notices
  · exact (Renderer.StepBy.call e.renderer (hkind c (Or.inr hc))).steps

theorem Steps.renderer_steps (hkind : DeviceCall.Covers kind) (h : e.Steps e') :
    e.renderer.StepsBy kind False e'.renderer :=
  h.keep (P := fun e' => e.renderer.StepsBy kind False e'.renderer)
    (fun _ _ hstep hsteps => hsteps.trans (hstep.renderer_steps hkind)) (.refl e.renderer)

/-- While an engine takes steps, its device only makes textures and is asked about programs. -/
theorem Steps.prepared (h : e.Steps e') :
    Device.Prepared e.device e'.device := by
  refine h.keep (P := fun e' => Device.Prepared e.device e'.device) (fun e₁ e₂ hstep h₁ => ?_) .refl
  unfold Engine.device at h₁ ⊢
  rcases hstep.renderer_cases with heq | ⟨notices, heq⟩ | ⟨c, hc, heq⟩ <;> rw [heq]
  · exact h₁
  · exact h₁
  · exact h₁.tail ⟨c, hc, rfl⟩

/-- Loading an effect is a run of the renderer. -/
theorem load_renderer_steps (hkind : DeviceCall.Covers kind) (e : Engine D) (name text : String) :
    e.renderer.StepsBy kind False (e.load name text).2.renderer := by
  rcases e.load_cases name text with hsteps | ⟨_, draft, e₁, _, hsteps₁, _, heq⟩
  · exact hsteps.renderer_steps hkind
  · rw [heq]
    have hlink := link_steps { e₁ with parameters := (draft.install e.parameters).2 }
      (draft.install e.parameters).1
    have hlinked := hlink.renderer_steps hkind
    exact (hsteps₁.renderer_steps hkind).trans hlinked

theorem Tunes.renderer_steps (h : e.Tunes e') : e.renderer.StepsBy kind False e'.renderer := by
  obtain ⟨parameters, notices, rfl⟩ := h
  exact Renderer.note_stepsBy e.renderer notices

end Engine

/-- Whether an operation is no call of the device but of a kind. -/
def HostOp.calls {D A : Type} [Device D] (kind : DeviceCall D → Bool) : HostOp D A → Bool
  | .call c => kind c
  | _ => true

/-- Whether an operation is no write of numbers to a program past the session. -/
def HostOp.leavesConstants {D A : Type} [Device D] : HostOp D A → Bool
  | .call c => c.leavesConstants
  | _ => true

theorem HostOp.calls_leavesConstants {D A : Type} [Device D] (op : HostOp D A) :
    op.calls DeviceCall.leavesConstants = op.leavesConstants := by
  cases op <;> rfl

/-- Such calls leave programs and their registers. -/
def KeepsRegisters {D A : Type} [Device D] [RegisterFile D] (act : A → D → D) : Prop :=
  ∀ a d id, RegisterFile.Has d id → RegisterFile.Has (act a d) id ∧
    ∀ n, RegisterFile.read (act a d) id n = RegisterFile.read d id n

theorem HeadlessAct.keepsRegisters : KeepsRegisters HeadlessAct.perform := by
  intro a d id hid
  cases a <;> exact ⟨hid, fun _ => rfl⟩

theorem Graphics.keepsRegisters {D : Type} [Device D] [Graphics D] :
    KeepsRegisters (act : GpuAct → D → D) := by
  intro a d id hid
  have hretains := a.retains (gpu d)
  rw [← acts] at hretains
  exact ⟨hretains.loaded hid, fun n => hretains.register? id n⟩

namespace Host

variable {D A : Type} [Device D]

/-- To the renderer an operation is a run of steps, or a call that only some kind of
device takes. Only a frame hands values over, and a texture that is connected while a pass
is bound. -/
theorem step_renderer {kind : DeviceCall D → Bool} (hkind : DeviceCall.Covers kind)
    (host : Host D) (act : A → D → D) {op : HostOp D A} (hop : op.calls kind = true)
    {hands : Prop} (hhands : hands ∨ op.isFrame = false ∧ host.engine.renderer.bound = none) :
    host.engine.renderer.StepsBy kind hands (host.step act op).engine.renderer ∨
      ∃ a, op = .act a ∧ (host.step act op).engine.renderer =
        { host.engine.renderer with device := act a host.engine.renderer.device } := by
  have hdraws : ∀ c : DeviceCall D, c.draws = true → kind c = true := fun c hc => hkind c (.inl hc)
  have hchange := host.step_change act op
  generalize (host.step act op).engine = e', (host.step act op).held = held' at hchange ⊢
  cases hchange with
  | steps hsteps => exact Or.inl (hsteps.renderer_steps hkind).of_quiet
  | load notices name text =>
    exact Or.inl ((Renderer.note_stepsBy host.engine.renderer notices).trans
      (Engine.load_renderer_steps hkind (host.engine.note notices) name text)).of_quiet
  | unload handle notices =>
    left
    have hfreed : host.engine.renderer.StepsBy kind hands host.engine.renderer.unbindPass :=
      (Renderer.unbindPass_steps host.engine.renderer).mono
        (fun c hc => hdraws c (DeviceCall.draws_of_binds hc)) False.elim
    have hnoted := hfreed.trans (Renderer.note_stepsBy host.engine.renderer.unbindPass notices)
    have hsame : (({ host.engine with renderer := host.engine.renderer.unbindPass } :
        Engine D).unload handle).2.renderer = host.engine.renderer.unbindPass :=
      Engine.unload_renderer _ handle
    rw [← hsame] at hnoted
    exact hnoted
  | @connect id _ texture _ =>
    left
    rcases hhands with hhands | ⟨_, hbound⟩
    · exact (Renderer.connected_steps host.engine.renderer
        (host.engine.write id (.texture (some texture))).scene id).mono (fun _ hc => hc)
          fun _ => hhands
    · obtain ⟨notices, heq⟩ := Renderer.connected_of_unbound hbound
        (host.engine.write id (.texture (some texture))).scene id
      have hnoted : host.engine.renderer.StepsBy kind hands
          (host.engine.renderer.note notices) := Renderer.note_stepsBy _ notices
      rw [← heq] at hnoted
      exact hnoted
  | createVirtual name type =>
    exact Or.inl (host.engine.tunes_createVirtual name type).renderer_steps.of_quiet
  | stays | retain | release => exact Or.inl (.refl _)
  | draw hframe writes geometry =>
    left
    obtain ⟨renderer, heq, hsteps⟩ := Session.drawFrame_steps
      { host.engine with parameters := Session.written host.engine.parameters writes } geometry
    rw [heq]
    refine hsteps.mono hdraws fun _ => hhands.resolve_right ?_
    rintro ⟨hno, _⟩
    rw [hframe] at hno
    cases hno
  | call h =>
    subst h
    exact Or.inl (Renderer.StepBy.call host.engine.renderer hop).steps
  | act h => exact Or.inr ⟨_, h, rfl⟩

/-- What a renderer keeps when it notes something, frees its pass, hands values over, makes
its device create textures and try out programs, or draws the loaded effects, every operation
of a session keeps. -/
theorem step_renderer_keep {P : Renderer D → Prop}
    (act : A → D → D) (host : Host D) (op : HostOp D A)
    (hact : ∀ r r', r.Act (fun effect => effect ∈ host.effects) r' → P r → P r')
    (hprepare : ∀ (r : Renderer D) (c : DeviceCall D), c.prepares = true → P r →
      P { r with device := c.perform r.device })
    (hfree : ∀ r, P r → P r.unbindPass)
    (happly : ∀ r scene id, P r → P (r.applyParameter scene id))
    (hcall : ∀ (r : Renderer D) c, op = .call c → P r → P { r with device := c.perform r.device })
    (hown : ∀ (r : Renderer D) a, op = .act a → P r → P { r with device := act a r.device })
    (h : P host.engine.renderer) : P (host.step act op).engine.renderer := by
  have hnote : ∀ (r : Renderer D) notices, P r → P (r.note notices) :=
    fun r notices => hact r _ (.note notices)
  have hsteps : ∀ e e' : Engine D, e.Steps e' → P e.renderer → P e'.renderer := by
    intro e e' hsteps he
    refine hsteps.keep (P := fun e => P e.renderer) (fun e₁ e₂ hstep he₁ => ?_) he
    rcases hstep.renderer_cases with heq | ⟨notices, heq⟩ | ⟨c, hc, heq⟩ <;> rw [heq]
    · exact he₁
    · exact hnote _ notices he₁
    · exact hprepare _ c hc he₁
  have hchange := host.step_change act op
  generalize (host.step act op).engine = e', (host.step act op).held = held' at hchange ⊢
  cases hchange with
  | steps h' => exact hsteps _ _ h' h
  | load notices name text =>
    have hnoted : P (host.engine.note notices).renderer := hnote _ notices h
    rcases (host.engine.note notices).load_cases name text with
      h' | ⟨_, draft, e₁, _, h₁, _, heq⟩
    · exact hsteps _ _ h' hnoted
    · rw [heq]
      have hlink := Engine.link_steps { e₁ with
        parameters := (draft.install (host.engine.note notices).parameters).2 }
        (draft.install (host.engine.note notices).parameters).1
      have hprepared : P e₁.renderer := hsteps _ _ h₁ hnoted
      have hlinked := hsteps _ _ hlink hprepared
      exact hlinked
  | unload handle notices =>
    have hsame := Engine.unload_renderer
      { host.engine with renderer := host.engine.renderer.unbindPass } handle
    refine hnote _ notices ?_
    rw [hsame]
    exact hfree _ h
  | @connect id _ texture _ =>
    simp only [Engine.connect, Engine.write, Renderer.connected]
    split
    · exact h
    · split
      · exact happly _ _ _ h
      · exact hnote _ _ h
  | createVirtual name type =>
    obtain ⟨parameters, notices, heq⟩ := host.engine.tunes_createVirtual name type
    rw [heq]
    exact hnote _ notices h
  | stays | retain | release => exact h
  | draw _ writes geometry =>
    obtain ⟨renderer, heq, hacts⟩ := Session.drawFrame_acts
      { host.engine with parameters := Session.written host.engine.parameters writes } geometry
    rw [heq]
    exact hacts.keep hact h
  | call hop => exact hcall _ _ hop h
  | act hop => exact hown _ _ hop h

variable [RegisterFile D]

/-- Whatever a host does after a session was set up, what is known of loaded programs
holds, as long as it writes no numbers to programs itself. -/
theorem run_kept {device : D} {settings : Settings} {compiler : Compiler} {now : Int}
    {session : Session D} {engine : Engine D}
    (hcreate : Session.create device settings compiler now = (.ok session, engine))
    {act : A → D → D} (hact : KeepsRegisters act) {ops : List (HostOp D A)}
    (hops : ∀ op ∈ ops, op.leavesConstants = true) :
    (({ session } : Host D).run act ops).engine.renderer.Kept := by
  refine run_keep (P := fun host => host.engine.renderer.Kept) (fun host op hop h => ?_) ?_
  · have hcalls : op.calls DeviceCall.leavesConstants = true := by
      rw [HostOp.calls_leavesConstants, hops op hop]
    rcases host.step_renderer DeviceCall.leavesConstants_covers act hcalls (Or.inl trivial)
      with hsteps | ⟨a, -, heq⟩
    · exact hsteps.kept h
    · rw [heq]
      exact h.withDevice fun id hid => hact a _ id hid
  · exact Session.create_keep (P := fun e => e.renderer.Kept)
      (fun _ _ hstep h => (hstep.renderer_steps DeviceCall.leavesConstants_covers).kept h)
      (fun e name type h => (e.tunes_createVirtual name type).renderer_steps.kept h) hcreate
      (Renderer.kept_of_empty rfl rfl)

end Host

end ShaderEffects
