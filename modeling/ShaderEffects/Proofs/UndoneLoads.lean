import ShaderEffects.Proofs.IssuedHandles

/-!
# Removing an effect undoes loading it

What an effect brought goes with it. Whatever was written to its own parameters in between,
after it was removed the loaded effects, the virtual parameters with their attachments and
the parameters of all other effects are what they were before it was loaded; only its handle
is spent. In which order effects are removed does not matter.
-/
namespace ShaderEffects

namespace Parameters

/-! ## Parameters without those of an effect -/

/-- The same parameters are alive and hold the same, and what is attached to each is the
same but for what is gone anyway. -/
structure Restored (before after : Parameters) : Prop where
  names : after.names = before.names
  alive : ∀ id, after.alive id = before.alive id
  cells : ∀ id p, before.get? id = some p → ∃ attached,
    after.get? id = some { p with attached } ∧ (p.isVirtual = false → attached = p.attached)
  attachments : ∀ id, after.attachments id = before.attachments id

section gains

variable {ps ps' : Parameters} {row : List EffectParameter}

/-- A write to a parameter of the new effect changes that parameter alone. -/
theorem Gains.write (hnumbered : ps.Numbered) (h : ps.Gains row ps') {id : ParameterId}
    (hid : id ∈ row.map (·.id)) (w : Write) : ps.Gains row (ps'.write id w) := by
  obtain ⟨ep, hep, rfl⟩ := List.mem_map.mp hid
  obtain ⟨own, hown, hleaf, howners⟩ := h.own ep hep
  have hwritten := get?_write_leaf hown hleaf w
  refine ⟨h.names, fun q p hp => ?_, h.fresh, fun ep' hep' => ?_, fun q hq => ?_⟩
  · have hne : q ≠ ep.id := by
      rintro rfl
      exact Nat.lt_irrefl _ (Nat.lt_of_lt_of_le (hnumbered _ p hp) (h.fresh ep hep))
    rw [hwritten, if_neg hne, h.old q p hp]
  · rw [hwritten]
    split_ifs
    · refine ⟨w.apply own, rfl, by rw [attached_apply, hleaf], ?_⟩
      cases w <;> exact howners
    · exact h.own ep' hep'
  · exact h.only q (by rwa [alive_write] at hq)

/-- Once the parameters of the new effect are given up, they are gone, and the others stay. -/
theorem Gains.get?_releaseAll (h : ps.Gains row ps') (hids : (row.map (·.id)).Nodup)
    (q : ParameterId) :
    (ps'.releaseAll (row.map (·.id))).get? q =
      if q ∈ row.map (·.id) then none else ps'.get? q := by
  rw [Parameters.get?_releaseAll _ hids]
  split_ifs with hmem
  · obtain ⟨ep, hep, rfl⟩ := List.mem_map.mp hmem
    obtain ⟨own, hown, _, howners⟩ := h.own ep hep
    rw [hown, Option.bind_some, if_pos (Nat.le_of_eq howners)]
  · rfl

theorem names_releaseAll (ps : Parameters) (ids : List ParameterId) :
    (ps.releaseAll ids).names = ps.names := by
  induction ids generalizing ps with
  | nil => rfl
  | cons id rest ih => exact (ih (ps.release id)).trans (made_release ps id).2

theorem Gains.restored (hps : ps.Settled) (h : ps.Gains row ps')
    (hids : (row.map (·.id)).Nodup) : ps.Restored (ps'.releaseAll (row.map (·.id))) := by
  have hfresh : ∀ q p, ps.get? q = some p → q ∉ row.map (·.id) := by
    intro q p hp hmem
    obtain ⟨ep, hep, rfl⟩ := List.mem_map.mp hmem
    exact Nat.lt_irrefl _ (Nat.lt_of_lt_of_le (hps.numbered _ p hp) (h.fresh ep hep))
  have hget := h.get?_releaseAll hids
  have hold : ∀ q p, ps.get? q = some p → (ps'.releaseAll (row.map (·.id))).get? q =
      some (ps.joined (ps.followers row q) p) := fun q p hp => by
    rw [hget, if_neg (hfresh q p hp), h.old q p hp]
  have halive : (ps'.releaseAll (row.map (·.id))).alive = ps.alive := by
    funext q
    refine Bool.eq_iff_iff.mpr ⟨fun hq => ?_, fun hq => ?_⟩
    · obtain ⟨p', hp'⟩ := (Parameters.alive_iff _ _).mp hq
      rw [hget] at hp'
      split_ifs at hp' with hmem
      refine (h.only q (alive_of_get? hp')).resolve_right ?_
      rintro ⟨ep, hep, rfl⟩
      exact hmem (List.mem_map_of_mem hep)
    · obtain ⟨p, hp⟩ := (Parameters.alive_iff _ _).mp hq
      exact alive_of_get? (hold q p hp)
  refine ⟨(names_releaseAll _ _).trans h.names, fun q => congrFun halive q, fun q p hp =>
    ⟨(ps.joined (ps.followers row q) p).attached, ?_, fun hnot => ?_⟩, fun q => ?_⟩
  · rw [← joined_eq]
    exact hold q p hp
  · rw [hps.registered.followers_eq_nil row hp hnot, joined_nil]
  · cases hp : ps.get? q with
    | none =>
      have hgone : (ps'.releaseAll (row.map (·.id))).get? q = none := by
        cases hp' : (ps'.releaseAll (row.map (·.id))).get? q with
        | none => rfl
        | some p' =>
          have hq := alive_of_get? hp'
          rw [halive] at hq
          obtain ⟨p, hsome⟩ := (Parameters.alive_iff _ _).mp hq
          rw [hp] at hsome
          cases hsome
      rw [attachments_of_not_alive hp, attachments_of_not_alive hgone]
    | some p =>
      rw [attachments_eq (hold q p hp), attachments_eq hp, halive]
      unfold joined
      split_ifs
      · rfl
      · -- the followers are gone, and what was forgotten was gone before
        have hgone : (ps.followers row q).filter ps.alive = [] := by
          refine List.filter_eq_nil_iff.mpr fun id hid hlives => ?_
          obtain ⟨ep, hep, _, rfl⟩ := (mem_followers_iff _ _ _ _).mp hid
          obtain ⟨known, hknown⟩ := (Parameters.alive_iff _ _).mp hlives
          exact hfresh _ known hknown (List.mem_map_of_mem hep)
        rw [List.filter_append, hgone, List.append_nil, List.filter_filter]
        simp

end gains

/-- In which order parameters are given up does not matter. -/
theorem get?_releaseAll_comm (ps : Parameters) {xs ys : List ParameterId} (hxs : xs.Nodup)
    (hys : ys.Nodup) :
    ((ps.releaseAll xs).releaseAll ys).get? = ((ps.releaseAll ys).releaseAll xs).get? := by
  funext q
  simp only [Parameters.get?_releaseAll _ hxs, Parameters.get?_releaseAll _ hys]
  split_ifs <;> rfl

/-- What is attached depends on what can be looked up. -/
theorem attachments_congr {ps ps' : Parameters} (h : ps'.get? = ps.get?) :
    ps'.attachments = ps.attachments := by
  have halive : ps'.alive = ps.alive := by
    funext q
    exact Bool.eq_iff_iff.mpr (by rw [alive_iff, alive_iff, h])
  funext q
  unfold attachments
  rw [h, halive]

end Parameters

/-! ## Effects that are removed -/

namespace Arena

variable {α : Type}

theorem toList_erase_insert (a : Arena α) (item : α) :
    ((a.insert item).1.erase (a.insert item).2).toList = a.toList := by
  simp [insert, erase, toList, List.zipIdx_append]

theorem erase_eq_self {a : Arena α} {h : Handle α} (hnone : a.get? h = none) :
    a.erase h = a := by
  refine congrArg Arena.mk (List.ext_getElem? fun i => ?_)
  rw [List.getElem?_set]
  split_ifs with hi hlt
  · subst hi
    simpa [get?, hlt, eq_comm] using hnone
  · subst hi
    exact (List.getElem?_eq_none (Nat.not_lt.mp hlt)).symm
  · rfl

theorem erase_comm (a : Arena α) (h k : Handle α) : (a.erase h).erase k = (a.erase k).erase h := by
  by_cases hk : h.index = k.index
  · rw [Handle.eq_of_index_eq hk]
  · exact congrArg Arena.mk (List.set_comm none none hk)

end Arena

namespace Engine

variable {D : Type}

/-- The same effects are loaded, under the same handles and in the same order, and all
parameters are the same, with what is attached to them. -/
structure SameEffects (e e' : Engine D) : Prop where
  effects : e.effects = e'.effects
  names : e.parameters.names = e'.parameters.names
  get? : e.parameters.get? = e'.parameters.get?
  attachments : e.parameters.attachments = e'.parameters.attachments

/-- The parameters that an effect brought, if it is loaded. -/
def parametersOf (e : Engine D) (handle : Handle Effect) : List ParameterId :=
  ((e.effects.get? handle).map (·.parameterIds)).getD []

theorem unload_snd (e : Engine D) (handle : Handle Effect) :
    (e.unload handle).2 = { e with
      effects := e.effects.erase handle
      parameters := e.parameters.releaseAll (e.parametersOf handle) } := by
  unfold unload parametersOf
  cases hget : e.effects.get? handle with
  | none => simp [Arena.erase_eq_self hget, Parameters.releaseAll]
  | some effect => rfl

theorem Owned.nodup_parametersOf [Device D] {e : Engine D} {held : List ParameterId}
    (h : e.Owned held) (handle : Handle Effect) : (e.parametersOf handle).Nodup := by
  unfold parametersOf
  cases hget : e.effects.get? handle with
  | none => exact List.nodup_nil
  | some effect => exact (h.compiled handle effect hget).ids

variable [Device D]

/-- An effect that is loaded brings its parameters, and only they are new. -/
theorem load_brings {e e' : Engine D} {name text : String} {handle : Handle Effect}
    {errors : List LinkError} (hsettled : e.parameters.Settled)
    (h : e.load name text = (.ok (handle, errors), e')) :
    ∃ effect, e'.effects = (e.effects.insert effect).1 ∧ handle = (e.effects.insert effect).2 ∧
      e.parameters.Gains effect.parameters e'.parameters := by
  rcases e.load_gains hsettled name text with ⟨_, _, heq⟩ |
    ⟨_, _, linked, _, after, hsteps, hgains, heq⟩ <;> rw [heq] at h <;> cases h
  have heffects : after.effects = e.effects := hsteps.effects
  simp only [insert, heffects]
  exact ⟨linked, rfl, rfl, hgains⟩

end Engine

/-! ## Hosts -/

/-- A write to the own parameters of a loaded effect. -/
def HookOp.Touches {D A : Type} [Device D] (handle : Handle Effect) (effect : Effect) :
    HookOp D A → Prop
  | .session (.write id _) => id ∈ effect.parameterIds
  | .session (.connect k _ _) => k = handle
  | .hook (.connectTexture _ id _) => id ∈ effect.parameterIds
  | _ => False

namespace Host

variable {D A : Type} [Device D]

theorem step_unload (act : A → D → D) (host : Host D) (handle : Handle Effect) :
    (host.step act (.unload handle)).engine.effects = host.engine.effects.erase handle ∧
      (host.step act (.unload handle)).engine.parameters =
        host.engine.parameters.releaseAll (host.engine.parametersOf handle) := by
  obtain ⟨notices, heq⟩ := host.session.unload_eq handle
  have hstep : (host.step act (.unload handle)).engine = _ := heq
  rw [hstep, Engine.unload_snd]
  exact ⟨rfl, rfl⟩

/-- In which order two effects are removed does not matter. -/
theorem unload_comm (act : A → D → D) {host : Host D} (howned : host.engine.Owned host.held)
    (handle other : Handle Effect) {one another : Host D}
    (hone : (host.step act (.unload handle)).step act (.unload other) = one)
    (hanother : (host.step act (.unload other)).step act (.unload handle) = another) :
    one.engine.SameEffects another.engine := by
  by_cases hsame : other = handle
  · subst hsame
    rw [← hone, ← hanother]
    exact ⟨rfl, rfl, rfl, rfl⟩
  have hother : (host.step act (.unload handle)).engine.parametersOf other =
      host.engine.parametersOf other := by
    rw [Engine.parametersOf, (step_unload act host handle).1, Arena.get?_erase, if_neg hsame]
    rfl
  have hhandle : (host.step act (.unload other)).engine.parametersOf handle =
      host.engine.parametersOf handle := by
    rw [Engine.parametersOf, (step_unload act host other).1, Arena.get?_erase,
      if_neg (Ne.symm hsame)]
    rfl
  obtain ⟨heffects₁, hparameters₁⟩ := step_unload act (host.step act (.unload handle)) other
  obtain ⟨heffects₂, hparameters₂⟩ := step_unload act (host.step act (.unload other)) handle
  rw [(step_unload act host handle).1, hone] at heffects₁
  rw [(step_unload act host handle).2, hother, hone] at hparameters₁
  rw [(step_unload act host other).1, hanother] at heffects₂
  rw [(step_unload act host other).2, hhandle, hanother] at hparameters₂
  have hget := Parameters.get?_releaseAll_comm host.engine.parameters
    (howned.nodup_parametersOf handle) (howned.nodup_parametersOf other)
  rw [← hparameters₁, ← hparameters₂] at hget
  refine ⟨?_, ?_, hget, Parameters.attachments_congr hget⟩
  · rw [heffects₁, heffects₂, Arena.erase_comm]
  · rw [hparameters₁, hparameters₂]
    simp only [Parameters.names_releaseAll]

/-- A write to the parameters of a new effect leaves all others as they are. -/
theorem touch_gains (act : A → D → D) {host : Host D} {ps : Parameters} (hps : ps.Numbered)
    {handle : Handle Effect} {effect : Effect}
    (heffect : host.engine.effects.get? handle = some effect)
    (h : ps.Gains effect.parameters host.engine.parameters) {op : HookOp D A}
    (hop : op.Touches handle effect) :
    (host.stepHook act op).engine.effects = host.engine.effects ∧
      ps.Gains effect.parameters (host.stepHook act op).engine.parameters := by
  cases op with
  | hook hook =>
    cases hook with
    | connectTexture _ id texture => exact ⟨rfl, h.write hps hop _⟩
    | loadPass | bindPass | unbindPass | applyParameter | drawEffect | drawTechnique => cases hop
  | session op =>
    cases op with
    | write id w => exact ⟨rfl, h.write hps hop w⟩
    | connect k parameter texture =>
      obtain rfl : k = handle := hop
      simp only [stepHook, step, engine, Session.connect] at heffect h ⊢
      cases host.session.engine.textures.find? texture with
      | none => exact ⟨rfl, h⟩
      | some texture =>
        simp only [heffect, Option.bind_some]
        cases hparameter : effect.parameter? parameter with
        | none => exact ⟨rfl, h⟩
        | some ep =>
          have hown : ep.id ∈ effect.parameterIds :=
            List.mem_map_of_mem (List.mem_of_find?_eq_some hparameter)
          exact ⟨rfl, h.write hps hown _⟩
    | load | loadFile | unload | createTexture | createVirtual | attach | detach | hold | drop
    | frame | call | act => cases hop

/-- Whatever a host did before, and whatever it then writes to the own parameters of an effect
that it loaded: once the effect is removed, the loaded effects and the parameters are what
they were before it was loaded. Its handle stands for no effect ever after and is not returned
by a later load, and it does not matter whether another effect is removed before or after it. -/
theorem unload_undoes_load {device : D} {settings : Settings} {compiler : Compiler} {now : Int}
    {session : Session D} {engine : Engine D}
    (hcreate : Session.create device settings compiler now = (.ok session, engine))
    (act : A → D → D) {ops : List (HookOp D A)} {host : Host D}
    (hrun : ({ session } : Host D).runHooks act ops = host) {name text : String}
    {handle : Handle Effect} {errors : List LinkError} {after : Session D}
    (hload : host.session.load name text = (.ok (handle, errors), after)) :
    ∃ effect, after.engine.effects.get? handle = some effect ∧
      ∀ between : List (HookOp D A), (∀ op ∈ between, op.Touches handle effect) →
        ∀ touched undone, ({ host with session := after } : Host D).runHooks act between = touched →
          touched.step act (.unload handle) = undone →
          undone.engine.effects.toList = host.engine.effects.toList ∧
          host.engine.parameters.Restored undone.engine.parameters ∧
          (∀ later, (undone.runHooks act later).engine.effects.get? handle = none ∧
            handle ∉ undone.issued act later) ∧
          ∀ later other one another,
            ((touched.runHooks act later).step act (.unload handle)).step act (.unload other) =
              one →
            ((touched.runHooks act later).step act (.unload other)).step act (.unload handle) =
              another →
            one.engine.SameEffects another.engine := by
  have hsettled : host.engine.parameters.Settled := hrun ▸ (runHooks_settled hcreate act ops).1
  have hloaded : host.engine.load name text = (.ok (handle, errors), after.engine) := by
    unfold Session.load at hload
    simp only [Prod.mk.injEq] at hload
    exact Prod.ext hload.1 (congrArg Session.engine hload.2)
  obtain ⟨effect, heffects, hhandle, hgains⟩ := Engine.load_brings hsettled hloaded
  have heffect : after.engine.effects.get? handle = some effect := by
    rw [heffects, Arena.get?_insert, if_pos hhandle]
  refine ⟨effect, heffect, ?_⟩
  rintro between hbetween touched undone rfl rfl
  -- writes to the parameters of the effect leave the effects, and the other parameters
  have htouched : (({ host with session := after } : Host D).runHooks act between).engine.effects =
        after.engine.effects ∧
      host.engine.parameters.Gains effect.parameters
        (({ host with session := after } : Host D).runHooks act between).engine.parameters := by
    refine runHooks_keep (P := fun later => later.engine.effects = after.engine.effects ∧
      host.engine.parameters.Gains effect.parameters later.engine.parameters)
      (fun later op hop h => ?_) ⟨rfl, hgains⟩
    have hstep := touch_gains act hsettled.numbered (h.1 ▸ heffect) h.2 (hbetween op hop)
    exact ⟨hstep.1.trans h.1, hstep.2⟩
  generalize hgeneral : ({ host with session := after } : Host D).runHooks act between = touched
    at htouched ⊢
  have howned : ∀ later, (touched.runHooks act later).engine.Owned
      (touched.runHooks act later).held := fun later => by
    have hstep : host.stepHook act (.session (.load name text)) = { host with session := after } :=
      congrArg (fun session => ({ host with session } : Host D)) (congrArg Prod.snd hload)
    have hall := (runHooks_settled hcreate act
      (ops ++ .session (.load name text) :: (between ++ later))).2
    have hsame : ({ session } : Host D).runHooks act
        (ops ++ .session (.load name text) :: (between ++ later)) = touched.runHooks act later := by
      rw [runHooks_append, hrun, ← hgeneral, ← hstep, ← runHooks_append]
      rfl
    rwa [hsame] at hall
  have hget : touched.engine.effects.get? handle = some effect := htouched.1 ▸ heffect
  have hids : touched.engine.parametersOf handle = effect.parameters.map (·.id) := by
    rw [Engine.parametersOf, hget]
    rfl
  obtain ⟨hremaining, hparameters⟩ := step_unload act touched handle
  rw [htouched.1, heffects, hhandle] at hremaining
  rw [hids] at hparameters
  refine ⟨?_, ?_, fun later => ?_, fun later other one another hone hanother =>
    unload_comm act (howned later) handle other hone hanother⟩
  · rw [← hhandle] at hremaining
    rw [hremaining, hhandle, Arena.toList_erase_insert]
  · rw [hparameters]
    exact htouched.2.restored hsettled ((howned []).compiled handle effect hget).ids
  · refine spent_forever act ?_ ?_ later
    · have hlt := Arena.lt_of_get? hget
      rw [(step_unload act touched handle).1]
      simpa [Arena.erase] using hlt
    · rw [(step_unload act touched handle).1, Arena.get?_erase, if_pos rfl]

/-- An effect with a parameter that follows `v`, and a sampler. -/
def follower : String :=
  "[\"fx\", [[\"a\", \"float\", [], \x7b\"global\": \"v\"\x7d], " ++
  "[\"s\", \"sampler2D\", [], \x7b\x7d]], []]"

/-- A session with the virtual parameter `v` and an effect that follows it. -/
def followed : List (HookOp HeadlessDevice HeadlessAct) :=
  [.session (.createVirtual "v" .float1), .session (.load "fx.json" follower)]

/-- Loaded a second time, the effect follows `v` twice. Once its sampler was written and it was
removed again, the first one follows alone. -/
theorem unload_undoes_load_second :
    ∃ (session : Session HeadlessDevice) (engine : Engine HeadlessDevice)
      (host : Host HeadlessDevice) (errors : List LinkError) (after : Session HeadlessDevice)
      (undone : Host HeadlessDevice),
      Session.create (HeadlessDevice.ofSize 4 4) { builtinParameters := false }
          (Session.searching {} {}) 0 = (.ok session, engine) ∧
        ({ session } : Host HeadlessDevice).runHooks HeadlessAct.perform followed = host ∧
        host.session.load "fx.json" follower = (.ok (⟨1⟩, errors), after) ∧
        (({ host with session := after } : Host HeadlessDevice).runHooks HeadlessAct.perform
          [.session (.write ⟨4⟩ (.texture none))]).step HeadlessAct.perform (.unload ⟨1⟩) = undone ∧
        after.engine.parameters.attachments ⟨0⟩ = [⟨1⟩, ⟨3⟩] ∧
        undone.engine.parameters.attachments ⟨0⟩ = [⟨1⟩] ∧
        host.engine.parameters.Restored undone.engine.parameters := by
  have hmade : ((Session.create (HeadlessDevice.ofSize 4 4) { builtinParameters := false }
        (Session.searching {} {}) 0).1.toOption.map fun session =>
      let host := ({ session } : Host HeadlessDevice).runHooks HeadlessAct.perform followed
      let result := host.session.load "fx.json" follower
      (host.engine.parameters.attachments ⟨0⟩, result.1.toOption.map (·.1),
        result.2.engine.parameters.attachments ⟨0⟩,
        (result.2.engine.effects.get? ⟨1⟩).map (·.parameterIds))) =
      some ([⟨1⟩], some ⟨1⟩, [⟨1⟩, ⟨3⟩], some [⟨3⟩, ⟨4⟩]) := by decide +kernel
  obtain ⟨session, hsession, hseen⟩ := Option.map_eq_some_iff.mp hmade
  obtain ⟨hbefore, hseen⟩ := Prod.mk.inj hseen
  obtain ⟨hhandle, hseen⟩ := Prod.mk.inj hseen
  obtain ⟨hafter, hids⟩ := Prod.mk.inj hseen
  have hcreate := eq_ok_of_toOption hsession
  have hrun : ({ session } : Host HeadlessDevice).runHooks HeadlessAct.perform followed = _ := rfl
  obtain ⟨⟨handle, errors⟩, hresult, rfl⟩ := Option.map_eq_some_iff.mp hhandle
  have hload := eq_ok_of_toOption hresult
  obtain ⟨effect, heffect, hundone⟩ := unload_undoes_load hcreate HeadlessAct.perform hrun hload
  rw [heffect] at hids
  have hown : effect.parameterIds = [⟨3⟩, ⟨4⟩] := Option.some.inj hids
  obtain ⟨_, hrestored, _⟩ := hundone [.session (.write ⟨4⟩ (.texture none))]
    (by simp [HookOp.Touches, hown]) _ _ rfl rfl
  refine ⟨session, _, _, errors, _, _, hcreate, rfl, hload, rfl, hafter, ?_, hrestored⟩
  rw [hrestored.attachments]
  exact hbefore

end Host

end ShaderEffects
