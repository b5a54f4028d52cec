import ShaderEffects.Proofs.NewEffects

/-!
# Handles that were issued

An effect that is loaded gets the number of the next slot of the arena, and slots are never
given back. So no two loads of a run return the same handle, and the handle of an effect
that is gone stands for none ever after.
-/
namespace ShaderEffects

namespace Arena

variable {α : Type}

theorem get?_eq_none_of_le {a : Arena α} {h : Handle α} (hle : a.slots.length ≤ h.index) :
    a.get? h = none := by
  simp [get?, List.getElem?_eq_none hle]

theorem lt_of_get? {a : Arena α} {h : Handle α} {item : α} (hget : a.get? h = some item) :
    h.index < a.slots.length := by
  by_contra hle
  rw [get?_eq_none_of_le (Nat.not_lt.mp hle)] at hget
  cases hget

/-- What becomes of an arena: there are never fewer slots, and no slot that is empty is used
again. -/
structure Ages (a b : Arena α) : Prop where
  slots_le : a.slots.length ≤ b.slots.length
  spent : ∀ h : Handle α, h.index < a.slots.length → a.get? h = none → b.get? h = none

theorem Ages.refl (a : Arena α) : a.Ages a := ⟨Nat.le_refl _, fun _ _ h => h⟩

theorem Ages.trans {a b c : Arena α} (h₁ : a.Ages b) (h₂ : b.Ages c) : a.Ages c where
  slots_le := Nat.le_trans h₁.slots_le h₂.slots_le
  spent := fun h hlt hnone =>
    h₂.spent h (Nat.lt_of_lt_of_le hlt h₁.slots_le) (h₁.spent h hlt hnone)

theorem ages_insert (a : Arena α) (item : α) : a.Ages (a.insert item).1 where
  slots_le := by simp [insert]
  spent := fun h hlt hnone => by
    have hne : h ≠ (a.insert item).2 := fun heq => by
      rw [heq] at hlt
      exact Nat.lt_irrefl _ hlt
    rw [get?_insert, if_neg hne, hnone]

theorem ages_erase (a : Arena α) (k : Handle α) : a.Ages (a.erase k) where
  slots_le := by simp [erase]
  spent := fun h _ hnone => by
    rw [get?_erase]
    split_ifs
    · rfl
    · exact hnone

end Arena

namespace Engine

variable {D : Type} [Device D]

theorem load_ages (e : Engine D) (name text : String) :
    e.effects.Ages (e.load name text).2.effects := by
  rcases e.load_outcome name text with ⟨_, _, heq⟩ | ⟨_, draft, notices, linked, _, after, _, _,
    hlink, heq⟩ <;> rw [heq]
  · exact .refl _
  · have hsame := (link_steps (e.entered notices draft) (draft.install e.parameters).1).effects
    rw [hlink] at hsame
    have hages := after.effects.ages_insert linked
    simp only at hsame
    rw [hsame] at hages
    simp only [insert, hsame]
    exact hages

/-- The handle of an effect that is loaded is that of the next slot. -/
theorem load_handle {e e' : Engine D} {name text : String} {handle : Handle Effect}
    {errors : List LinkError} (h : e.load name text = (.ok (handle, errors), e')) :
    handle.index = e.effects.slots.length ∧ e'.effects.slots.length = handle.index + 1 := by
  rcases e.load_outcome name text with ⟨_, _, heq⟩ | ⟨_, draft, notices, linked, _, after, _, _,
    hlink, heq⟩
  · rw [heq] at h
    cases h
  · have hsame := (link_steps (e.entered notices draft) (draft.install e.parameters).1).effects
    rw [hlink] at hsame
    simp only at hsame
    rw [heq] at h
    cases h
    constructor
    · change after.effects.slots.length = _
      rw [hsame]
      rfl
    · simp [insert, Arena.insert]

omit [Device D] in
theorem unload_ages (e : Engine D) (handle : Handle Effect) :
    e.effects.Ages (e.unload handle).2.effects := by
  unfold unload
  cases e.effects.get? handle with
  | none => exact .refl _
  | some effect => exact e.effects.ages_erase handle

end Engine

/-- The handle that an operation returns, if it loads an effect. -/
def HookOp.issued? {D A : Type} [Device D] (host : Host D) : HookOp D A → Option (Handle Effect)
  | .session (.load name text) => (host.session.load name text).1.toOption.map (·.1)
  | .session (.loadFile path) => (host.session.loadFile path).1.toOption.map (·.1)
  | _ => none

namespace Host

variable {D A : Type} [Device D]

theorem step_ages (act : A → D → D) (host : Host D) (op : HostOp D A) :
    host.engine.effects.Ages (host.step act op).engine.effects := by
  have hchange := host.step_change act op
  generalize (host.step act op).engine = e', (host.step act op).held = held' at hchange ⊢
  cases hchange with
  | steps hsteps => exact hsteps.effects ▸ .refl _
  | load notices name text => exact (host.engine.note notices).load_ages name text
  | unload handle notices =>
    exact ({ host.engine with renderer := host.engine.renderer.unbindPass } :
      Engine D).unload_ages handle
  | connect | stays | retain | release | call | act => exact .refl _
  | createVirtual name type =>
    obtain ⟨parameters, notices, heq⟩ := host.engine.tunes_createVirtual name type
    rw [heq]
    exact .refl _
  | draw _ writes geometry =>
    obtain ⟨renderer, heq, _⟩ := Session.drawFrame_steps
      { host.engine with parameters := Session.written host.engine.parameters writes } geometry
    rw [heq]
    exact .refl _

theorem stepHook_ages (act : A → D → D) (host : Host D) (op : HookOp D A) :
    host.engine.effects.Ages (host.stepHook act op).engine.effects := by
  cases op with
  | session op => exact host.step_ages act op
  | hook hook =>
    have hany : ∀ pass ∈ hook.passes, True := fun _ _ => trivial
    have hsame := (host.engine.hook_turns hany).1
    simp only [stepHook, withEngine, engine] at hsame ⊢
    rw [hsame]
    exact .refl _

theorem runHooks_ages (act : A → D → D) (host : Host D) (ops : List (HookOp D A)) :
    host.engine.effects.Ages (host.runHooks act ops).engine.effects :=
  runHooks_keep (P := fun later => host.engine.effects.Ages later.engine.effects)
    (fun later op _ h => h.trans (later.stepHook_ages act op)) (.refl _)

/-- The handles that the loads of a run return, in order. -/
def issued (act : A → D → D) (host : Host D) : List (HookOp D A) → List (Handle Effect)
  | [] => []
  | op :: rest => (op.issued? host).toList ++ issued act (host.stepHook act op) rest

/-- A handle that an operation returns is that of the next slot. -/
theorem issued?_spec (act : A → D → D) {host : Host D} {op : HookOp D A} {handle : Handle Effect}
    (h : op.issued? host = some handle) :
    handle.index = host.engine.effects.slots.length ∧
      handle.index < (host.stepHook act op).engine.effects.slots.length := by
  -- what a load returns, whatever was noted before
  have hload : ∀ (e : Engine D) (name text : String),
      (e.load name text).1.toOption.map (·.1) = some handle →
        handle.index = e.effects.slots.length ∧
          handle.index < (e.load name text).2.effects.slots.length := by
    intro e name text hsome
    obtain ⟨⟨k, errors⟩, hresult, rfl⟩ := Option.map_eq_some_iff.mp hsome
    have heq := eq_ok_of_toOption hresult
    obtain ⟨hindex, hlength⟩ := Engine.load_handle heq
    exact ⟨hindex, by rw [hlength]; exact Nat.lt_succ_self _⟩
  cases op with
  | hook => cases h
  | session op =>
    cases op with
    | unload | connect | createTexture | createVirtual | attach | detach | write | hold | drop
    | frame | call | act => cases h
    | load name text => exact hload host.engine name text h
    | loadFile path =>
      simp only [HookOp.issued?, stepHook, step, engine] at h ⊢
      unfold Session.loadFile at h ⊢
      simp only at h ⊢
      cases hread : host.session.engine.compiler.files.readText (host.session.effectPath path) with
      | error fault =>
        rw [hread] at h
        cases h
      | ok text =>
        rw [hread] at h
        exact hload (host.session.engine.note [.loadingEffect (host.session.effectPath path)])
          (host.session.effectPath path) text h

/-- Whatever was issued, its slot is there at the end of the run. -/
theorem lt_of_mem_issued (act : A → D → D) {host : Host D} {ops : List (HookOp D A)}
    {handle : Handle Effect} (h : handle ∈ host.issued act ops) :
    host.engine.effects.slots.length ≤ handle.index ∧
      handle.index < (host.runHooks act ops).engine.effects.slots.length := by
  induction ops generalizing host with
  | nil => exact absurd h List.not_mem_nil
  | cons op rest ih =>
    rcases List.mem_append.mp h with hfirst | hrest
    · obtain ⟨hindex, hlt⟩ := issued?_spec act (Option.mem_toList.mp hfirst)
      refine ⟨Nat.le_of_eq hindex.symm, ?_⟩
      exact Nat.lt_of_lt_of_le hlt ((host.stepHook act op).runHooks_ages act rest).slots_le
    · obtain ⟨hle, hlt⟩ := ih hrest
      exact ⟨Nat.le_trans (host.stepHook_ages act op).slots_le hle, hlt⟩

/-- The handle of a slot that is empty stands for no effect ever after, and is never issued
again. -/
theorem spent_forever (act : A → D → D) {host : Host D} {handle : Handle Effect}
    (hlt : handle.index < host.engine.effects.slots.length)
    (hnone : host.engine.effects.get? handle = none) (later : List (HookOp D A)) :
    (host.runHooks act later).engine.effects.get? handle = none ∧
      handle ∉ host.issued act later :=
  ⟨(host.runHooks_ages act later).spent handle hlt hnone,
    fun hmem => Nat.not_lt.mpr (lt_of_mem_issued act hmem).1 hlt⟩

end Host

end ShaderEffects
