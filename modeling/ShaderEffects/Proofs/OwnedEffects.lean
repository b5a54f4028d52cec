import ShaderEffects.Proofs.CompiledEffects
import ShaderEffects.Proofs.HookRuns

/-!
# Effects and their parameters

A loaded effect owns its parameters: whatever a host does, they stay alive under their
names until the effect is unloaded, and no two loaded effects have one in common.
-/
namespace ShaderEffects

namespace Engine

variable {D : Type} [Device D] {e e' : Engine D}

theorem Step.stays (h : e.Step e') : e.parameters.Stays e'.parameters := by
  cases h with
  | note | call | create | load => exact .refl e.parameters
  | attach hattach => exact Parameters.stays_attach hattach
  | give id _ => exact Parameters.stays_write e.parameters id _

/-- Steps keep the parameters but for what they hold. -/
theorem Steps.stays (h : e.Steps e') : e.parameters.Stays e'.parameters :=
  h.keep (P := fun e' => e.parameters.Stays e'.parameters)
    (fun _ _ hstep hstays => hstays.trans hstep.stays) (.refl e.parameters)

/-- Loaded effects own their parameters, next to a host that keeps some alive: a
parameter has more owners than the host alone accounts for. -/
structure Owned (e : Engine D) (held : List ParameterId) : Prop where
  numbered : e.parameters.Numbered
  compiled : ∀ handle effect, e.effects.get? handle = some effect → WellCompiled D effect
  apart : ∀ handle other effect effect', e.effects.get? handle = some effect →
    e.effects.get? other = some effect' → handle ≠ other →
    ∀ id ∈ effect.parameterIds, id ∉ effect'.parameterIds
  alive : ∀ handle effect, e.effects.get? handle = some effect → ∀ ep ∈ effect.parameters,
    ∃ p, e.parameters.get? ep.id = some p ∧ p.name = ep.name ∧ p.type = ep.type ∧
      held.count ep.id < p.owners
  kept : ∀ id ∈ held, ∃ p, e.parameters.get? id = some p ∧ held.count id ≤ p.owners

variable {held : List ParameterId}

theorem Owned.compiled_of_mem (h : e.Owned held) {effect : Effect}
    (hmem : effect ∈ e.effects.toList.map (·.2)) : WellCompiled D effect := by
  obtain ⟨handle, hget⟩ := (Arena.mem_items_iff _ effect).mp hmem
  exact h.compiled handle effect hget

theorem Owned.supplies (h : e.Owned held) {effect : Effect}
    (hmem : effect ∈ e.effects.toList.map (·.2)) : e.parameters.Supplies effect := by
  obtain ⟨handle, hget⟩ := (Arena.mem_items_iff _ effect).mp hmem
  intro ep hep
  obtain ⟨p, hp, hname, htype, _⟩ := h.alive handle effect hget ep hep
  exact ⟨p, hp, hname, htype⟩

/-- Where no effect is loaded, nothing is owned. -/
theorem owned_of_empty (hnumbered : e.parameters.Numbered) (heffects : e.effects = ∅) :
    e.Owned [] where
  numbered := hnumbered
  compiled := by simp [heffects]
  apart := by simp [heffects]
  alive := by simp [heffects]
  kept := fun _ h => absurd h List.not_mem_nil

/-- What parameters hold does not matter for who owns them. -/
theorem Owned.stays (h : e.Owned held) (hs : e.parameters.Stays e'.parameters)
    (heffects : e'.effects = e.effects) : e'.Owned held where
  numbered := hs.numbered h.numbered
  compiled := by
    rw [heffects]
    exact h.compiled
  apart := by
    rw [heffects]
    exact h.apart
  alive := by
    rw [heffects]
    intro handle effect hget ep hep
    obtain ⟨p, hp, hname, htype, howners⟩ := h.alive handle effect hget ep hep
    obtain ⟨p', hp', hname', htype', howners'⟩ := hs.kept _ p hp
    exact ⟨p', hp', hname'.trans hname, htype'.trans htype, howners' ▸ howners⟩
  kept := by
    intro id hid
    obtain ⟨p, hp, hcount⟩ := h.kept id hid
    obtain ⟨p', hp', _, _, howners⟩ := hs.kept id p hp
    exact ⟨p', hp', howners ▸ hcount⟩

theorem Owned.steps (h : e.Owned held) (hs : e.Steps e') : e'.Owned held :=
  h.stays hs.stays hs.effects

/-- The host keeps one more parameter alive. -/
theorem Owned.retain (h : e.Owned held) {id : ParameterId} (hid : e.parameters.alive id = true) :
    ({ e with parameters := e.parameters.retain id } : Engine D).Owned (id :: held) where
  numbered := Parameters.numbered_retain h.numbered id
  compiled := h.compiled
  apart := h.apart
  alive := by
    intro handle effect hget ep hep
    obtain ⟨p, hp, hname, htype, howners⟩ := h.alive handle effect hget ep hep
    simp only [Parameters.get?_retain]
    by_cases hsame : ep.id = id
    · refine ⟨{ p with owners := p.owners + 1 }, by rw [if_pos hsame, ← hsame, hp]; rfl,
        hname, htype, ?_⟩
      rw [hsame, List.count_cons_self]
      rw [hsame] at howners
      exact Nat.succ_lt_succ howners
    · refine ⟨p, by rw [if_neg hsame, hp], hname, htype, ?_⟩
      rwa [List.count_cons_of_ne (Ne.symm hsame)]
  kept := by
    intro q hq
    simp only [Parameters.get?_retain]
    obtain ⟨known, hknown⟩ := (Parameters.alive_iff e.parameters id).mp hid
    by_cases hsame : q = id
    · subst hsame
      refine ⟨{ known with owners := known.owners + 1 }, by rw [if_pos rfl, hknown]; rfl, ?_⟩
      rw [List.count_cons_self]
      refine Nat.succ_le_succ ?_
      by_cases hmem : q ∈ held
      · obtain ⟨p, hp, hcount⟩ := h.kept q hmem
        rw [hknown] at hp
        cases hp
        exact hcount
      · rw [List.count_eq_zero_of_not_mem hmem]
        exact Nat.zero_le _
    · obtain ⟨p, hp, hcount⟩ := h.kept q ((List.mem_cons.mp hq).resolve_left hsame)
      refine ⟨p, by rw [if_neg hsame, hp], ?_⟩
      rwa [List.count_cons_of_ne (Ne.symm hsame)]

/-- The host gives up a parameter that it kept alive. -/
theorem Owned.release (h : e.Owned held) {id : ParameterId} (hid : id ∈ held) :
    ({ e with parameters := e.parameters.release id } : Engine D).Owned (held.erase id) where
  numbered := Parameters.numbered_release h.numbered id
  compiled := h.compiled
  apart := h.apart
  alive := by
    intro handle effect hget ep hep
    obtain ⟨p, hp, hname, htype, howners⟩ := h.alive handle effect hget ep hep
    simp only [Parameters.get?_release]
    by_cases hsame : ep.id = id
    · have hpos : 0 < held.count id := List.count_pos_iff.mpr hid
      rw [hsame] at howners
      refine ⟨{ p with owners := p.owners - 1 }, ?_, hname, htype, ?_⟩
      · rw [if_pos hsame, ← hsame, hp, Option.bind_some, if_neg (by omega)]
      · rw [hsame, List.count_erase_self]
        simp only
        omega
    · refine ⟨p, by rw [if_neg hsame, hp], hname, htype, ?_⟩
      rwa [List.count_erase_of_ne hsame]
  kept := by
    intro q hq
    simp only [Parameters.get?_release]
    obtain ⟨p, hp, hcount⟩ := h.kept q (List.mem_of_mem_erase hq)
    by_cases hsame : q = id
    · subst hsame
      have hpos : 0 < (held.erase q).count q := List.count_pos_iff.mpr hq
      rw [List.count_erase_self] at hpos
      refine ⟨{ p with owners := p.owners - 1 }, ?_, ?_⟩
      · rw [if_pos rfl, hp, Option.bind_some, if_neg (by omega)]
      · rw [List.count_erase_self]
        simp only
        omega
    · refine ⟨p, by rw [if_neg hsame, hp], ?_⟩
      rwa [List.count_erase_of_ne hsame]

/-- An effect that goes gives up its parameters; only those that the host keeps stay. -/
theorem Owned.unload (h : e.Owned held) (handle : Handle Effect) :
    (e.unload handle).2.Owned held := by
  unfold Engine.unload
  cases hget : e.effects.get? handle with
  | none => exact h
  | some effect =>
    have hids := (h.compiled handle effect hget).ids
    have hkeep : ∀ (other : Handle Effect) (effect' : Effect),
        (e.effects.erase handle).get? other = some effect' →
        other ≠ handle ∧ e.effects.get? other = some effect' := by
      intro other effect' hother
      rw [Arena.get?_erase] at hother
      split_ifs at hother with hsame
      exact ⟨hsame, hother⟩
    refine ⟨Parameters.numbered_releaseAll h.numbered _, ?_, ?_, ?_, ?_⟩
    · intro other effect' hother
      exact h.compiled other effect' (hkeep other effect' hother).2
    · intro k other effect₁ effect₂ hk hother
      exact h.apart k other effect₁ effect₂ (hkeep k effect₁ hk).2 (hkeep other effect₂ hother).2
    · intro other effect' hother ep hep
      obtain ⟨hne, hother⟩ := hkeep other effect' hother
      obtain ⟨p, hp, hname, htype, howners⟩ := h.alive other effect' hother ep hep
      have hmiss : ep.id ∉ effect.parameterIds :=
        h.apart other handle effect' effect hother hget hne ep.id (List.mem_map_of_mem hep)
      refine ⟨p, ?_, hname, htype, howners⟩
      simp only
      rw [Parameters.get?_releaseAll _ hids, if_neg hmiss, hp]
    · intro id hid
      obtain ⟨p, hp, hcount⟩ := h.kept id hid
      simp only
      rw [Parameters.get?_releaseAll _ hids]
      by_cases hmem : id ∈ effect.parameterIds
      · obtain ⟨ep, hep, rfl⟩ := List.mem_map.mp hmem
        obtain ⟨p', hp', _, _, howners⟩ := h.alive handle effect hget ep hep
        rw [hp] at hp'
        cases hp'
        have hpos : 0 < held.count ep.id := List.count_pos_iff.mpr hid
        refine ⟨{ p with owners := p.owners - 1 }, ?_, ?_⟩
        · rw [if_pos hmem, hp, Option.bind_some, if_neg (by omega)]
        · simp only
          omega
      · exact ⟨p, by rw [if_neg hmem, hp], hcount⟩

/-- An effect that comes with parameters of its own owns them. -/
theorem Owned.insert (h : e.Owned held) {effect : Effect} (hcompiled : WellCompiled D effect)
    (hnew : ∀ handle other, e.effects.get? handle = some other →
      ∀ id ∈ effect.parameterIds, id ∉ other.parameterIds)
    (halive : ∀ ep ∈ effect.parameters, ∃ p, e.parameters.get? ep.id = some p ∧
      p.name = ep.name ∧ p.type = ep.type ∧ held.count ep.id < p.owners) :
    (e.insert effect).2.Owned held := by
  have hcases : ∀ handle other, (e.effects.insert effect).1.get? handle = some other →
      (handle = (e.effects.insert effect).2 ∧ other = effect) ∨
        e.effects.get? handle = some other := by
    intro handle other hget
    rw [Arena.get?_insert] at hget
    split_ifs at hget with hsame
    · cases hget
      exact Or.inl ⟨hsame, rfl⟩
    · exact Or.inr hget
  refine ⟨h.numbered, ?_, ?_, ?_, h.kept⟩
  · intro handle other hget
    rcases hcases handle other hget with ⟨_, rfl⟩ | hold
    · exact hcompiled
    · exact h.compiled handle other hold
  · intro handle other effect₁ effect₂ h₁ h₂ hne id hid
    rcases hcases handle effect₁ h₁ with ⟨rfl, rfl⟩ | hold₁ <;>
      rcases hcases other effect₂ h₂ with ⟨rfl, rfl⟩ | hold₂
    · exact absurd rfl hne
    · exact hnew other effect₂ hold₂ id hid
    · exact fun hmem => hnew handle effect₁ hold₁ id hmem hid
    · exact h.apart handle other effect₁ effect₂ hold₁ hold₂ hne id hid
  · intro handle other hget
    rcases hcases handle other hget with ⟨_, rfl⟩ | hold
    · exact halive
    · exact h.alive handle other hold

theorem Owned.createVirtual (h : e.Owned held) (name : String) (type : ParameterType) :
    (e.createVirtual name type).2.Owned held := by
  unfold Engine.createVirtual
  rcases hcreate : e.parameters.createVirtual name type with _ | ⟨id, parameters⟩
  · exact h
  · exact h.stays (Parameters.stays_createVirtual h.numbered name type hcreate) rfl

/-- A new effect owns its new parameters. -/
theorem Owned.load (h : e.Owned held) (name text : String) : (e.load name text).2.Owned held := by
  rcases e.load_cases name text with hsteps | ⟨_, draft, e₁, hcompile, hsteps₁, _, heq⟩
  · exact h.steps hsteps
  rw [heq]
  have hinstalled := EffectDraft.installed_install hcompile h.numbered
  obtain ⟨effect, heffect⟩ : ∃ effect, (draft.install e.parameters).1 = effect := ⟨_, rfl⟩
  obtain ⟨e₂, he₂⟩ : ∃ e₂ : Engine D,
      { e₁ with parameters := (draft.install e.parameters).2 } = e₂ := ⟨_, rfl⟩
  have hsettled : e₂.Owned held :=
    h.stays (he₂ ▸ hinstalled.stays) (he₂ ▸ hsteps₁.effects)
  rw [heffect] at hinstalled ⊢
  rw [he₂]
  have hlink := link_steps e₂ effect
  have hlinked := link_parameters e₂ effect
  -- every parameter known before has a smaller number than the new ones
  have hfresh : ∀ ep ∈ effect.parameters, ∀ p, e.parameters.get? ep.id ≠ some p := by
    intro ep hep p hp
    exact Nat.lt_irrefl _ (Nat.lt_of_lt_of_le (h.numbered ep.id p hp) (hinstalled.fresh ep hep).1)
  refine (hsettled.steps hlink).insert (link_wellCompiled e₂ hinstalled) ?_ ?_
  · intro handle other hget id hid hmem
    have hold : e.effects.get? handle = some other := by
      rw [hlink.effects, ← he₂] at hget
      exact hsteps₁.effects ▸ hget
    unfold Effect.parameterIds at hid
    rw [hlinked] at hid
    obtain ⟨ep, hep, rfl⟩ := List.mem_map.mp hid
    obtain ⟨known, hknown, hsame⟩ := List.mem_map.mp hmem
    obtain ⟨p, hp, _⟩ := h.alive handle other hold known hknown
    exact hfresh ep hep p (hsame ▸ hp)
  · rw [hlinked]
    intro ep hep
    obtain ⟨_, p, hp, hname, htype, hone⟩ := hinstalled.fresh ep hep
    obtain ⟨p', hp', hname', htype', howners⟩ := hlink.stays.kept ep.id p (he₂ ▸ hp)
    refine ⟨p', hp', hname'.trans hname, htype'.trans htype, ?_⟩
    have hmiss : ep.id ∉ held := by
      intro hmem
      obtain ⟨q, hq, _⟩ := h.kept ep.id hmem
      exact hfresh ep hep q hq
    rw [howners, hone, List.count_eq_zero_of_not_mem hmiss]
    exact Nat.zero_lt_one

end Engine

namespace Session

variable {D : Type} [Device D]

omit [Device D] in
theorem stays_written (parameters : Parameters) (writes : List (ParameterId × Scalars)) :
    parameters.Stays (written parameters writes) := by
  induction writes generalizing parameters with
  | nil => exact .refl parameters
  | cons w rest ih => exact (Parameters.stays_write parameters w.1 (.scalars w.2)).trans (ih _)

end Session

namespace Host

variable {D A : Type} [Device D]

/-- What a host does leaves effects their parameters. -/
theorem step_owned {host : Host D} (h : host.engine.Owned host.held) (act : A → D → D)
    (op : HostOp D A) : (host.step act op).engine.Owned (host.step act op).held := by
  have hchange := host.step_change act op
  generalize (host.step act op).engine = e', (host.step act op).held = held' at hchange ⊢
  cases hchange with
  | steps hsteps => exact h.steps hsteps
  | load notices name text => exact (h.steps (Engine.note_steps _ notices)).load name text
  | unload handle notices =>
    have hfreed : ({ host.engine with renderer := host.engine.renderer.unbindPass } :
        Engine D).Owned host.held := h.stays (.refl _) rfl
    exact (hfreed.unload handle).steps (Engine.note_steps _ notices)
  | connect id => exact h.stays (Parameters.stays_write _ id _) rfl
  | createVirtual name type => exact h.createVirtual name type
  | stays hstays _ => exact h.stays hstays rfl
  | retain halive => exact h.retain halive
  | release hheld => exact h.release hheld
  | draw _ writes geometry =>
    obtain ⟨renderer, heq, _⟩ := Session.drawFrame_steps
      { host.engine with parameters := Session.written host.engine.parameters writes } geometry
    rw [heq]
    exact h.stays (Session.stays_written _ writes) rfl
  | call | act => exact h.stays (.refl _) rfl

/-- A hook leaves effects their parameters. -/
theorem stepHook_owned {host : Host D} (h : host.engine.Owned host.held) (act : A → D → D)
    (op : HookOp D A) : (host.stepHook act op).engine.Owned (host.stepHook act op).held := by
  cases op with
  | session op => exact step_owned h act op
  | hook hook =>
    cases hook with
    | connectTexture textures id texture => exact h.stays (Parameters.stays_write _ id _) rfl
    | loadPass | bindPass | unbindPass | applyParameter | drawEffect | drawTechnique =>
      exact h.stays (.refl _) rfl

/-- Whatever a host does after a session was set up, effects own their parameters. -/
theorem run_owned {device : D} {settings : Settings} {compiler : Compiler} {now : Int}
    {session : Session D} {engine : Engine D}
    (hcreate : Session.create device settings compiler now = (.ok session, engine))
    (act : A → D → D) (ops : List (HostOp D A)) :
    (({ session } : Host D).run act ops).engine.Owned (({ session } : Host D).run act ops).held := by
  refine run_keep (P := fun host => host.engine.Owned host.held)
    (fun _ op _ h => step_owned h act op) ?_
  exact Session.create_keep (P := fun e => e.Owned [])
    (fun _ _ hstep h => h.steps hstep.steps) (fun _ name type h => h.createVirtual name type)
    hcreate (Engine.owned_of_empty Parameters.numbered_empty rfl)

end Host

end ShaderEffects
