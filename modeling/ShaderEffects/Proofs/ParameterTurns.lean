import ShaderEffects.Proofs.JoinedParameters
import ShaderEffects.Proofs.OwnedEffects

/-!
# What runs of a host do to parameters

Whatever a host does, effects declare parameters, parameters are written, and the
operations on parameters are performed, one after the other. So the live attachments stay
well formed over every run of a host, and registered names stand for virtual parameters.
-/
namespace ShaderEffects

open Relation

namespace Parameters

/-- One change of parameters. -/
inductive Turn : Parameters → Parameters → Prop
  | perform (ps : Parameters) (op : ParameterOp) : Turn ps (ps.perform op)
  | declare (ps : Parameters) {p : Parameter} : p.attached = [] → p.isVirtual = false →
      Turn ps (ps.add p).1
  | write (ps : Parameters) (id : ParameterId) (w : Write) : Turn ps (ps.write id w)

/-- Changes one after the other. -/
def Turns : Parameters → Parameters → Prop := ReflTransGen Turn

theorem Turns.refl (ps : Parameters) : ps.Turns ps := ReflTransGen.refl

theorem Turn.turns {ps ps' : Parameters} (h : ps.Turn ps') : ps.Turns ps' := ReflTransGen.single h

theorem Turns.trans {ps₁ ps₂ ps₃ : Parameters} (h₁ : ps₁.Turns ps₂) (h₂ : ps₂.Turns ps₃) :
    ps₁.Turns ps₃ := ReflTransGen.trans h₁ h₂

theorem turns_releaseAll (ps : Parameters) (ids : List ParameterId) :
    ps.Turns (ps.releaseAll ids) := by
  induction ids generalizing ps with
  | nil => exact .refl ps
  | cons id rest ih => exact (Turn.perform ps (.drop id)).turns.trans (ih (ps.release id))

theorem turns_written (ps : Parameters) (writes : List (ParameterId × Scalars)) :
    ps.Turns (Session.written ps writes) := by
  induction writes generalizing ps with
  | nil => exact .refl ps
  | cons w rest ih => exact (Turn.write ps w.1 (.scalars w.2)).turns.trans (ih _)

/-! ## Registered names -/

/-- Names stay registered for virtual parameters as long as parameters keep their names and
their origins, and no name goes to a parameter that has it already. -/
theorem Registered.keep {ps ps' : Parameters} (h : ps.Registered) (hmade : ps.made ≤ ps'.made)
    (hnames : ∀ name id, ps'.named? name = some id → ps.named? name = some id)
    (hcell : ∀ q p', ps'.get? q = some p' →
      (∃ p, ps.get? q = some p ∧ p'.name = p.name ∧ p'.origin = p.origin) ∨
        ps.made ≤ q.number) : ps'.Registered where
  number_lt := fun name id hname =>
    Nat.lt_of_lt_of_le (h.number_lt name id (hnames name id hname)) hmade
  named := fun name id p' hname hp' => by
    have hname' := hnames name id hname
    rcases hcell id p' hp' with ⟨p, hp, hsame, horigin⟩ | hnew
    · obtain ⟨hvirtual, hcalled⟩ := h.named name id p hname' hp
      exact ⟨by simpa [Parameter.isVirtual, horigin] using hvirtual, hsame.trans hcalled⟩
    · exact absurd (h.number_lt name id hname') (Nat.not_lt.mpr hnew)

/-- Parameters of which some were changed, but neither in name nor in origin. -/
def Recalls (ps ps' : Parameters) : Prop :=
  ∀ q p', ps'.get? q = some p' → ∃ p, ps.get? q = some p ∧ p'.name = p.name ∧ p'.origin = p.origin

theorem Recalls.refl (ps : Parameters) : ps.Recalls ps := fun _ p hp => ⟨p, hp, rfl, rfl⟩

theorem Recalls.trans {ps₁ ps₂ ps₃ : Parameters} (h₁ : ps₁.Recalls ps₂) (h₂ : ps₂.Recalls ps₃) :
    ps₁.Recalls ps₃ := by
  intro q p₃ hp₃
  obtain ⟨p₂, hp₂, hname₂, horigin₂⟩ := h₂ q p₃ hp₃
  obtain ⟨p₁, hp₁, hname₁, horigin₁⟩ := h₁ q p₂ hp₂
  exact ⟨p₁, hp₁, hname₂.trans hname₁, horigin₂.trans horigin₁⟩

theorem recalls_put {ps : Parameters} {id : ParameterId} {p p' : Parameter}
    (hp : ps.get? id = some p) (hname : p'.name = p.name) (horigin : p'.origin = p.origin) :
    ps.Recalls (ps.put id p') := by
  intro q c hc
  rw [get?_put] at hc
  split_ifs at hc with hq
  · cases hc
    exact ⟨p, hq ▸ hp, hname, horigin⟩
  · exact ⟨c, hc, rfl, rfl⟩

theorem recalls_modify (ps : Parameters) (id : ParameterId) (f : Parameter → Parameter)
    (hf : ∀ p, (f p).name = p.name ∧ (f p).origin = p.origin) :
    ps.Recalls { ps with cells := ps.cells.modify id f } := by
  unfold Table.modify
  cases hp : ps.cells.get? id with
  | none => exact .refl ps
  | some p => exact recalls_put hp (hf p).1 (hf p).2

theorem recalls_release (ps : Parameters) (id : ParameterId) : ps.Recalls (ps.release id) := by
  intro q c hc
  rw [get?_release] at hc
  split_ifs at hc with hq
  · obtain ⟨p, hp, hkept⟩ := Option.bind_eq_some_iff.mp hc
    split_ifs at hkept
    cases hkept
    exact ⟨p, hq ▸ hp, rfl, rfl⟩
  · exact ⟨c, hc, rfl, rfl⟩

theorem recalls_write (ps : Parameters) (id : ParameterId) (w : Write) :
    ps.Recalls (ps.write id w) := by
  intro q c hc
  rw [get?_write] at hc
  obtain ⟨p, hp, rfl⟩ := Option.map_eq_some_iff.mp hc
  refine ⟨p, hp, ?_⟩
  split_ifs
  · cases w <;> exact ⟨rfl, rfl⟩
  · exact ⟨rfl, rfl⟩

theorem recalls_writeAll (ps : Parameters) (id : ParameterId) (ws : List Write) :
    ps.Recalls (ps.writeAll id ws) := by
  induction ws generalizing ps with
  | nil => exact .refl ps
  | cons w rest ih => exact (recalls_write ps id w).trans (ih _)

theorem made_release (ps : Parameters) (id : ParameterId) :
    (ps.release id).made = ps.made ∧ (ps.release id).names = ps.names := by
  unfold release
  cases ps.get? id with
  | none => exact ⟨rfl, rfl⟩
  | some p =>
    simp only
    split_ifs <;> exact ⟨rfl, rfl⟩

theorem recalls_attach {ps ps' : Parameters} {target source : ParameterId}
    (h : ps.attach target source = .ok ps') :
    ps.Recalls ps' ∧ ps'.made = ps.made ∧ ps'.names = ps.names := by
  cases ht : ps.get? target with
  | none =>
    rw [attach_of_not_alive (Or.inl ht)] at h
    cases h
    exact ⟨.refl ps, rfl, rfl⟩
  | some t =>
    cases hs : ps.get? source with
    | none =>
      rw [attach_of_not_alive (Or.inr hs)] at h
      cases h
      exact ⟨.refl ps, rfl, rfl⟩
    | some s =>
      rcases attach_cases ht hs with ⟨_, heq⟩ | ⟨_, _, heq⟩ | ⟨_, _, _, heq⟩ | ⟨_, _, _, heq⟩ <;>
        rw [heq] at h <;> cases h
      · exact ⟨recalls_put ht rfl rfl, rfl, rfl⟩
      · obtain ⟨hmade, hnames⟩ :=
          writeAll_made_names (ps.put target (ps.extended t source)) source (handedOn t)
        have hput : ps.Recalls (ps.put target (ps.extended t source)) := recalls_put ht rfl rfl
        exact ⟨hput.trans (recalls_writeAll _ _ _), hmade, hnames⟩

theorem Registered.recalls {ps ps' : Parameters} (h : ps.Registered) (hrecalls : ps.Recalls ps')
    (hmade : ps'.made = ps.made) (hnames : ps'.names = ps.names) : ps'.Registered :=
  h.keep (Nat.le_of_eq hmade.symm) (fun name id hname => by rwa [named?, hnames] at hname)
    fun q p' hp' => Or.inl (hrecalls q p' hp')

theorem Registered.add {ps : Parameters} (h : ps.Registered) (p : Parameter) :
    (ps.add p).1.Registered :=
  h.keep (Nat.le_succ _) (fun _ _ hname => hname) fun q c hc => by
    rw [get?_add] at hc
    split_ifs at hc with hq
    · exact Or.inr (hq ▸ Nat.le_refl _)
    · exact Or.inl ⟨c, hc, rfl, rfl⟩

theorem Registered.createVirtual {ps ps' : Parameters} (h : ps.Registered) {name : String}
    {type : ParameterType} {id : ParameterId} (hcreate : ps.createVirtual name type = .ok (id, ps')) :
    ps'.Registered := by
  have hadd := h.add { name, type, origin := .virtual }
  unfold Parameters.createVirtual at hcreate
  cases hname : ps.names.get? name with
  | some _ => simp [hname] at hcreate
  | none =>
    simp only [hname, Except.ok.injEq, Prod.mk.injEq] at hcreate
    obtain ⟨rfl, rfl⟩ := hcreate
    -- the name that is new stands for the parameter that is new
    have hnames : ∀ other q, (ps.names.insert name ⟨ps.made⟩).get? other = some q →
        (other = name ∧ q = ⟨ps.made⟩) ∨ ps.named? other = some q := fun other q hother => by
      rw [Table.get?_insert] at hother
      split_ifs at hother with hsame
      · exact Or.inl ⟨hsame, (Option.some.inj hother).symm⟩
      · exact Or.inr hother
    refine ⟨fun other q hother => ?_, fun other q p hother hp => ?_⟩
    · rcases hnames other q hother with ⟨_, rfl⟩ | hold
      · exact Nat.lt_succ_self _
      · exact hadd.number_lt other q hold
    · rcases hnames other q hother with ⟨rfl, rfl⟩ | hold
      · have hp' : (ps.add { name := other, type, origin := .virtual }).1.get? ⟨ps.made⟩ = some p := hp
        rw [get?_add, if_pos rfl] at hp'
        cases hp'
        exact ⟨rfl, rfl⟩
      · exact hadd.named other q p hold hp

theorem Registered.perform {ps : Parameters} (h : ps.Registered) (op : ParameterOp) :
    (ps.perform op).Registered := by
  cases op with
  | declare name type effect => exact h.add _
  | createVirtual name type =>
    simp only [Parameters.perform]
    rcases hcreate : ps.createVirtual name type with _ | ⟨id, ps'⟩
    · exact h
    · exact h.createVirtual hcreate
  | removeVirtual name =>
    simp only [Parameters.perform, removeVirtual]
    cases hname : ps.named? name with
    | none => exact h
    | some id =>
      obtain ⟨hmade, hnames⟩ := made_release { ps with names := ps.names.erase name } id
      refine h.keep (Nat.le_of_eq hmade.symm) (fun other q hother => ?_) fun q p' hp' =>
        Or.inl (recalls_release { ps with names := ps.names.erase name } id q p' hp')
      rw [named?, hnames, Table.get?_erase] at hother
      split_ifs at hother
      exact hother
  | hold id => exact h.recalls (recalls_modify ps id _ fun _ => ⟨rfl, rfl⟩) rfl rfl
  | drop id => exact h.recalls (recalls_release ps id) (made_release ps id).1 (made_release ps id).2
  | attach target source =>
    simp only [Parameters.perform]
    rcases hattach : ps.attach target source with _ | ps'
    · exact h
    · obtain ⟨hrecalls, hmade, hnames⟩ := recalls_attach hattach
      exact h.recalls hrecalls hmade hnames
  | detach target source => exact h.recalls (recalls_modify ps target _ fun _ => ⟨rfl, rfl⟩) rfl rfl
  | setScalars id values => exact h.recalls (recalls_write ps id _) rfl rfl
  | setTexture id texture => exact h.recalls (recalls_write ps id _) rfl rfl

/-- What holds of the parameters of a session at any time. -/
structure Settled (ps : Parameters) : Prop where
  attached : ps.WellAttached
  registered : ps.Registered

theorem settled_empty : Settled {} := ⟨wellAttached_empty, registered_empty⟩

theorem Settled.numbered {ps : Parameters} (h : ps.Settled) : ps.Numbered := h.attached.number_lt

theorem Turn.settled {ps ps' : Parameters} (hturn : ps.Turn ps') (h : ps.Settled) :
    ps'.Settled := by
  cases hturn with
  | perform op => exact ⟨h.attached.perform op, h.registered.perform op⟩
  | declare hleaf _ => exact ⟨h.attached.shrinks (shrinks_add ps hleaf), h.registered.add _⟩
  | write id w =>
    exact ⟨h.attached.shrinks (shrinks_write ps id w),
      h.registered.recalls (recalls_write ps id w) rfl rfl⟩

theorem Turns.settled {ps ps' : Parameters} (hturns : ps.Turns ps') (h : ps.Settled) :
    ps'.Settled := by
  induction hturns with
  | refl => exact h
  | tail _ hturn ih => exact hturn.settled ih

end Parameters

/-! ## Effects -/

namespace EffectDraft

/-- The parameters of an effect that compiled are declared by it, and have one owner, no
attachments and no texture. -/
theorem compile_cells {compiler : Compiler} {d : EffectDescription} {draft : EffectDraft}
    (h : compile compiler d = .ok draft) {p : ParameterDraft} (hp : p ∈ draft.parameters) :
    p.cell.attached = [] ∧ p.cell.isVirtual = false ∧ p.cell.texture = none ∧
      p.cell.owners = 1 := by
  obtain ⟨parameters, hparameters, _⟩ := compile_cases h
  rw [hparameters] at hp
  obtain ⟨typed, _, rfl⟩ := List.mem_map.mp hp
  unfold EffectDraft.draft
  simp only
  split_ifs <;> exact ⟨rfl, rfl, rfl, rfl⟩

theorem turns_settle (ps : Parameters) {drafts : List ParameterDraft}
    (h : ∀ p ∈ drafts, p.cell.attached = [] ∧ p.cell.isVirtual = false) :
    ps.Turns (settle ps drafts).2 := by
  induction drafts generalizing ps with
  | nil => exact .refl ps
  | cons p rest ih =>
    obtain ⟨hleaf, hnot⟩ := h p List.mem_cons_self
    exact (Parameters.Turn.declare ps hleaf hnot).turns.trans
      (ih (ps.add p.cell).1 fun q hq => h q (List.mem_cons_of_mem p hq))

theorem turns_install {compiler : Compiler} {d : EffectDescription} {draft : EffectDraft}
    (h : compile compiler d = .ok draft) (ps : Parameters) : ps.Turns (draft.install ps).2 :=
  turns_settle ps fun _ hp => ⟨(compile_cells h hp).1, (compile_cells h hp).2.1⟩

end EffectDraft

/-! ## Engines and hosts -/

namespace Engine

variable {D : Type} [Device D] {e e' : Engine D}

theorem Step.turns (h : e.Step e') : e.parameters.Turns e'.parameters := by
  cases h with
  | note | call | create | load => exact .refl _
  | @attach target source parameters hattach =>
    have hturn := Parameters.Turn.perform e.parameters (.attach target source)
    simp only [Parameters.perform, hattach] at hturn
    exact hturn.turns
  | give id _ => exact (Parameters.Turn.write e.parameters id _).turns

theorem Steps.turns (h : e.Steps e') : e.parameters.Turns e'.parameters :=
  h.keep (P := fun e' => e.parameters.Turns e'.parameters)
    (fun _ _ hstep hturns => hturns.trans hstep.turns) (.refl _)

theorem load_turns (e : Engine D) (name text : String) :
    e.parameters.Turns (e.load name text).2.parameters := by
  rcases e.load_cases name text with hsteps | ⟨_, draft, e₁, hcompile, hsteps₁, hsame, heq⟩
  · exact hsteps.turns
  · rw [heq]
    have hinstall := EffectDraft.turns_install hcompile e.parameters
    exact hinstall.trans (link_steps { e₁ with parameters := (draft.install e.parameters).2 }
      (draft.install e.parameters).1).turns

omit [Device D] in
theorem createVirtual_turns (e : Engine D) (name : String) (type : ParameterType) :
    e.parameters.Turns (e.createVirtual name type).2.parameters := by
  have hturn := Parameters.Turn.perform e.parameters (.createVirtual name type)
  unfold createVirtual
  simp only [Parameters.perform] at hturn
  rcases hcreate : e.parameters.createVirtual name type with _ | ⟨id, parameters⟩
  · exact .refl _
  · rw [hcreate] at hturn
    exact hturn.turns

omit [Device D] in
theorem unload_turns (e : Engine D) (handle : Handle Effect) :
    e.parameters.Turns (e.unload handle).2.parameters := by
  unfold unload
  cases e.effects.get? handle with
  | none => exact .refl _
  | some effect => exact Parameters.turns_releaseAll _ _

/-- A hook writes at most one parameter. -/
theorem hook_turns_parameters (e : Engine D) (hook : Hook) :
    e.parameters.Turns (e.hook hook).parameters := by
  cases hook with
  | loadPass | bindPass | unbindPass | applyParameter | drawEffect | drawTechnique =>
    exact .refl _
  | connectTexture textures id texture => exact (Parameters.Turn.write e.parameters id _).turns

end Engine

namespace Host

variable {D A : Type} [Device D]

theorem step_turns (act : A → D → D) (host : Host D) (op : HostOp D A) :
    host.engine.parameters.Turns (host.step act op).engine.parameters := by
  cases op with
  | load name text => exact host.engine.load_turns name text
  | loadFile path =>
    simp only [step, engine]
    rcases host.session.loadFile_cases path with heq | ⟨name, text, notices, heq⟩ <;> rw [heq]
    · exact .refl _
    · exact (host.session.engine.note notices).load_turns name text
  | unload handle =>
    obtain ⟨notices, heq⟩ := host.session.unload_eq handle
    simp only [step, engine]
    rw [heq]
    exact ({ host.session.engine with
      renderer := host.session.engine.renderer.unbindPass } : Engine D).unload_turns handle
  | connect handle parameter texture =>
    simp only [step, engine]
    rcases host.session.connect_cases handle parameter texture with
      ⟨notices, heq⟩ | ⟨id, k, _, heq⟩ <;> rw [heq]
    · exact .refl _
    · exact (Parameters.Turn.write host.session.engine.parameters id _).turns
  | createTexture name desc => exact (host.engine.createTexture_steps name desc).turns
  | createVirtual name type => exact host.engine.createVirtual_turns name type
  | attach target source => exact (Parameters.Turn.perform _ (.attach target source)).turns
  | detach target source => exact (Parameters.Turn.perform _ (.detach target source)).turns
  | write id w => exact (Parameters.Turn.write _ id w).turns
  | hold id =>
    simp only [step]
    split_ifs
    · exact (Parameters.Turn.perform _ (.hold id)).turns
    · exact .refl _
  | drop id =>
    simp only [step]
    split_ifs
    · exact (Parameters.Turn.perform _ (.drop id)).turns
    · exact .refl _
  | frame now geometry =>
    simp only [step, engine]
    rw [Session.renderFrame_eq]
    split_ifs
    · exact .refl _
    · obtain ⟨writes, hprepared⟩ := host.session.prepared_eq now
      obtain ⟨renderer, heq, _⟩ := Session.drawFrame_steps (host.session.prepared now) geometry
      rw [heq, hprepared]
      exact Parameters.turns_written _ writes
  | call c => exact .refl _
  | act a => exact .refl _

theorem stepHook_turns (act : A → D → D) (host : Host D) (op : HookOp D A) :
    host.engine.parameters.Turns (host.stepHook act op).engine.parameters := by
  cases op with
  | session op => exact host.step_turns act op
  | hook hook => exact host.engine.hook_turns_parameters hook

/-- Whatever a host does after a session was set up, its parameters are settled and owned. -/
theorem runHooks_settled {device : D} {settings : Settings} {compiler : Compiler} {now : Int}
    {session : Session D} {engine : Engine D}
    (hcreate : Session.create device settings compiler now = (.ok session, engine))
    (act : A → D → D) (ops : List (HookOp D A)) :
    (({ session } : Host D).runHooks act ops).engine.parameters.Settled ∧
      (({ session } : Host D).runHooks act ops).engine.Owned
        (({ session } : Host D).runHooks act ops).held := by
  refine runHooks_keep
    (P := fun host => host.engine.parameters.Settled ∧ host.engine.Owned host.held)
    (fun host op _ h => ⟨(host.stepHook_turns act op).settled h.1, stepHook_owned h.2 act op⟩) ?_
  exact Session.create_keep (P := fun e => e.parameters.Settled ∧ e.Owned [])
    (fun _ _ hstep h => ⟨hstep.turns.settled h.1, h.2.steps hstep.steps⟩)
    (fun e name type h => ⟨(e.createVirtual_turns name type).settled h.1,
      h.2.createVirtual name type⟩)
    hcreate ⟨Parameters.settled_empty,
      Engine.owned_of_empty Parameters.numbered_empty rfl⟩

end Host

end ShaderEffects
