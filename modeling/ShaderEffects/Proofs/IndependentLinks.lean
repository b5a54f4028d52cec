import ShaderEffects.Proofs.IssuedHandles
import ShaderEffects.Proofs.MentionedTextures
import ShaderEffects.Proofs.TextureAgreement

/-!
# Effects that do not disturb each other

An effect is linked alike whether another one was loaded before it or not, unless it names
a texture that came with the other one: it has the same problems, the same passes and
techniques can be used, and its targets, its samplers and its numbers are the same. Only a
sampler that follows a virtual parameter may be handed a handle without a texture. It
holds this handle in any case, but the other effect may have brought a texture for it.
-/
namespace ShaderEffects

/-! ## Engines in which more was loaded -/

/-- Making textures and asking about programs does not change what a device answers. -/
theorem HeadlessDevice.answersAs_of_prepared {d d' : HeadlessDevice} (h : Device.Prepared d d') :
    d.AnswersAs d' := by
  refine h.keep (P := d.AnswersAs) (fun d₁ c hc h₁ => ?_) ⟨rfl, rfl⟩
  cases c with
  | validate => exact h₁
  | createTexture name desc =>
    rcases d₁.createTexture_cases name desc with ⟨_, hmade⟩ | hmade <;>
      simp only [DeviceCall.perform, device_createTexture, hmade] <;>
      exact ⟨h₁.lost, h₁.refusedProfiles⟩
  | loadTexture files name path =>
    rcases d₁.loadTexture_cases files name path with ⟨_, hmade⟩ | ⟨_, _, hmade⟩ <;>
      simp only [DeviceCall.perform, device_loadTexture, hmade] <;>
      exact ⟨h₁.lost, h₁.refusedProfiles⟩
  | loadProgram | bind | unbind | setConstants | setSampler | setTarget | restore
  | enterEffectState | draw | copy => cases hc

namespace Engine

/-- What loading effects leaves for one that is loaded after them. -/
structure Widens (base e : Engine HeadlessDevice) : Prop where
  compiler : e.compiler = base.compiler
  device : base.device.AnswersAs e.device
  grows : base.textures.Grows e.textures
  made_le : base.parameters.made ≤ e.parameters.made
  names : e.parameters.names = base.parameters.names
  old : ∀ q p, base.parameters.get? q = some p →
    ∃ attached, e.parameters.get? q = some { p with attached }
  alive : ∀ q, q.number < base.parameters.made →
    e.parameters.alive q = base.parameters.alive q

theorem Steps.answersAs {e e' : Engine HeadlessDevice} (h : e.Steps e') :
    e.device.AnswersAs e'.device := HeadlessDevice.answersAs_of_prepared h.prepared

theorem load_widens {e : Engine HeadlessDevice} (h : e.parameters.Settled) (name text : String) :
    e.Widens (e.load name text).2 := by
  rcases e.load_gains h name text with ⟨error, notices, heq⟩ |
    ⟨notices, draft, linked, errors, after, hsteps, hgains, heq⟩ <;> rw [heq]
  · exact ⟨rfl, ⟨rfl, rfl⟩, .refl _, Nat.le_refl _, rfl, fun q p hp => ⟨p.attached, hp⟩,
      fun _ _ => rfl⟩
  have hentered : e.parameters.made ≤ (e.entered notices draft).parameters.made :=
    (EffectDraft.settle_cells e.parameters draft.parameters).2.1 ▸ Nat.le_add_right _ _
  exact
    { compiler := hsteps.compiler
      device := hsteps.answersAs
      grows := hsteps.grows
      made_le := Nat.le_trans hentered hsteps.stays.made_le
      names := hgains.names
      old := fun q p hp => ⟨(e.parameters.joined (e.parameters.followers _ q) p).attached, by
        rw [← Parameters.joined_eq]
        exact hgains.old q p hp⟩
      alive := fun q hq => hgains.alive_of_lt hq }

section widens

variable {base e : Engine HeadlessDevice} (h : base.Widens e) (hbase : base.parameters.Settled)

include h hbase

/-- There are the same virtual parameters. -/
theorem Widens.find? : e.parameters.find? = base.parameters.find? := by
  funext name type
  unfold Parameters.find? Parameters.named?
  rw [h.names]
  cases hname : base.parameters.names.get? name with
  | none => rfl
  | some id =>
    have halive := h.alive id (hbase.registered.number_lt name id hname)
    cases hp : base.parameters.get? id with
    | some p =>
      obtain ⟨attached, hp'⟩ := h.old id p hp
      simp only [hp', hp, Option.map_some]
    | none =>
      have hgone : e.parameters.get? id = none := by
        cases hp' : e.parameters.get? id with
        | none => rfl
        | some p' =>
          rw [Parameters.alive_of_get? hp', eq_comm, Parameters.alive_iff, hp] at halive
          obtain ⟨_, hnone⟩ := halive
          cases hnone
      simp only [hgone, hp]

/-- Whom a parameter follows holds the same, so the same is handed on to it. -/
theorem Widens.taught (shift : Nat) (ep : EffectParameter) (p : Parameter) :
    e.parameters.taught (ep.moved shift) p = base.parameters.taught ep p := by
  have hsame : e.parameters.followed? (ep.moved shift) = base.parameters.followed? ep := by
    unfold Parameters.followed?
    rw [h.find? hbase]
    rfl
  unfold Parameters.taught
  rw [hsame]
  cases hq : base.parameters.followed? ep with
  | none => rfl
  | some q =>
    obtain ⟨t, ht, _⟩ := hbase.registered.followed hq
    obtain ⟨attached, ht'⟩ := h.old q t ht
    simp only [Option.bind_some, ht, ht']
    rfl

end widens

end Engine

/-! ## New parameters -/

namespace EffectDraft

/-- Whom a new parameter follows was there before. -/
theorem Enters.taught {ps ps' : Parameters} {effect : Effect} (h : Enters ps effect ps')
    (hps : ps.Settled) (ep : EffectParameter) (p : Parameter) :
    ps'.taught ep p = ps.taught ep p := by
  unfold Parameters.taught Parameters.followed?
  rw [h.find? hps]
  cases hglobal : Directive.globalLink? ep.directives with
  | none => rfl
  | some global =>
    cases hq : ps.find? global ep.type with
    | none => simp [hq]
    | some q =>
      have hname := ((ps.find?_eq_some_iff _ _ _).mp hq).1
      simp only [Option.bind_some, hq, h.get? (hps.registered.number_lt _ q hname)]

end EffectDraft

namespace Parameters

/-- The texture that a new parameter is handed on by whom it follows. -/
def handed (ps : Parameters) (ep : EffectParameter) : Option (Handle Texture) :=
  ((ps.followed? ep).bind ps.get?).bind fun target =>
    if target.written then target.texture else none

theorem texture_taught_eq (ps : Parameters) (ep : EffectParameter) {p : Parameter}
    (hnone : p.texture = none) : (ps.taught ep p).texture = ps.handed ep := by
  unfold taught handed
  cases (ps.followed? ep).bind ps.get? with
  | none => exact hnone
  | some target =>
    change (target.caughtUp p).texture = if target.written then target.texture else none
    unfold Parameter.caughtUp
    split_ifs
    · simp [hnone]
    · exact hnone

/-- A texture that a parameter is handed on is that of whom it follows. -/
theorem texture_taught {ps : Parameters} {ep : EffectParameter} {p : Parameter}
    (hnone : p.texture = none) {texture : Handle Texture}
    (h : (ps.taught ep p).texture = some texture) :
    ∃ target, (ps.followed? ep).bind ps.get? = some target ∧ target.texture = some texture := by
  rw [ps.texture_taught_eq ep hnone] at h
  obtain ⟨target, htarget, hgiven⟩ := Option.bind_eq_some_iff.mp h
  split_ifs at hgiven
  exact ⟨target, htarget, hgiven⟩

end Parameters

/-! ## One effect in two engines -/

namespace Engine

/-- A parameter holds the same in two engines, but for its number and the handle of its
texture. If a sampler was handed a handle without a texture, it holds this handle in both. -/
structure SameParameter (base e e' : Engine HeadlessDevice) (ep ep' : EffectParameter) : Prop where
  name : ep'.name = ep.name
  type : ep'.type = ep.type
  directives : ep'.directives = ep.directives
  holds : ∃ p p', e.parameters.get? ep.id = some p ∧ e'.parameters.get? ep'.id = some p' ∧
    p'.scalars = p.scalars ∧
    (p'.texture.map e'.textures.name? = p.texture.map e.textures.name? ∨
      ∃ target texture, (base.parameters.followed? ep).bind base.parameters.get? = some target ∧
        target.texture = some texture ∧ base.textures.get? texture = none ∧
        p.texture = some texture ∧ p'.texture = some texture)

/-- One effect as two engines linked it: the same can be used, the same is drawn, everything
ends in textures of the same names, and the parameters hold the same. -/
structure SameLink (base e e' : Engine HeadlessDevice) (effect effect' : Effect) : Prop where
  name : effect'.name = effect.name
  chosen : effect'.chosen = effect.chosen
  techniques : effect'.techniques.map (·.seen e'.textures) =
    effect.techniques.map (·.seen e.textures)
  parameters : List.Forall₂ (SameParameter base e e') effect.parameters effect'.parameters

variable {base e : Engine HeadlessDevice}

/-- Parameters that hold the same under handles hold the same under names. -/
theorem sameParameter_of_twin {shift : Nat} {e' : Engine HeadlessDevice} {ep : EffectParameter}
    (h : Twin base shift e e' ep) (hcoherent : e.textures.Coherent)
    (hcoherent' : e'.textures.Coherent) : SameParameter base e e' ep (ep.moved shift) := by
  obtain ⟨p, p', hp, hp', _, _, hscalars, htexture⟩ := h
  refine ⟨rfl, rfl, rfl, p, p', hp, hp', hscalars, ?_⟩
  generalize p.texture = texture, p'.texture = texture' at htexture
  cases htexture with
  | none => exact Or.inl rfl
  | named hfind hfind' =>
    refine Or.inl (congrArg some ?_)
    exact (hcoherent'.name_of_find? hfind').trans (hcoherent.name_of_find? hfind).symm
  | handed htarget hholds hnone => exact Or.inr ⟨_, _, htarget, hholds, hnone, rfl, rfl⟩

/-- New parameters start alike in both engines: they follow the same virtual parameters and
are handed on the same. -/
theorem Widens.linkParameters (h : base.Widens e) (hbase : base.parameters.Settled)
    (he : e.parameters.Settled) (hcoherent : base.textures.Coherent)
    (hcoherent' : e.textures.Coherent) {compiler : Compiler} {d : EffectDescription}
    {draft : EffectDraft} (hcompile : EffectDraft.compile compiler d = .ok draft)
    (notices notices' : List Notice) {shift : Nat}
    (hmade : e.parameters.made = base.parameters.made + shift) :
    let l := ({ engine := base.entered notices draft } : Linking HeadlessDevice).linkParameters
      (draft.install base.parameters).1
    let l' := ({ engine := e.entered notices' draft } : Linking HeadlessDevice).linkParameters
      (draft.install e.parameters).1
    l.Abreast base.textures
        (fun name => e.textures.contains name = base.textures.contains name) l' ∧
      ∀ ep ∈ (draft.install base.parameters).1.parameters,
        Twin base shift l.engine l'.engine ep := by
  have henters := EffectDraft.enters_install hcompile base.parameters
  have henters' := EffectDraft.enters_install hcompile e.parameters
  have hsettled := (EffectDraft.turns_install hcompile base.parameters).settled hbase
  have hsettled' := (EffectDraft.turns_install hcompile e.parameters).settled he
  have hcells := EffectDraft.settle_same hmade draft.parameters
  obtain ⟨hjoins, ⟨_, _, hl⟩, herrors⟩ := Linking.linkParameters_joins
    { engine := base.entered notices draft } _ (henters.loose hbase) hsettled.registered
  obtain ⟨hjoins', ⟨_, _, hl'⟩, herrors'⟩ := Linking.linkParameters_joins
    { engine := e.entered notices' draft } _ (henters'.loose he) hsettled'.registered
  have hfind : (draft.install e.parameters).2.find? = (draft.install base.parameters).2.find? := by
    rw [henters'.find? he, h.find? hbase, henters.find? hbase]
  have hfaults : ∀ ep, Linking.parameterErrors (draft.install e.parameters).2 (ep.moved shift) =
      Linking.parameterErrors (draft.install base.parameters).2 ep := fun ep => by
    unfold Linking.parameterErrors Linking.globalErrors
    rw [hfind]
    rfl
  have hrow : (draft.install e.parameters).1.parameters =
      (draft.install base.parameters).1.parameters.map (·.moved shift) := by
    rw [draft.install_moved hmade]
  refine ⟨⟨?_, ?_⟩, fun ep hep => ?_⟩
  · rw [herrors, herrors', hrow, List.flatMap_map]
    simp only [entered, hfaults]
  · rw [hl, hl']
    exact ⟨h.compiler, h.device, .refl _, h.grows, hcoherent, hcoherent', fun _ hname => hname⟩
  · obtain ⟨p, hp, hdirectives, hcell, hcell'⟩ := hcells ep hep
    obtain ⟨hleaf, _, hnone, _⟩ := EffectDraft.compile_cells hcompile hp
    have hown := hjoins.own ep hep p.cell hcell
    have hown' := hjoins'.own (ep.moved shift) (hrow ▸ List.mem_map_of_mem hep) p.cell hcell'
    have htaught : (draft.install base.parameters).2.taught ep p.cell =
        base.parameters.taught ep p.cell := henters.taught hbase ep p.cell
    have htaught' : (draft.install e.parameters).2.taught (ep.moved shift) p.cell =
        base.parameters.taught ep p.cell := by
      rw [henters'.taught he, h.taught hbase]
    have hkeeps := Parameters.taught_keeps base.parameters ep p.cell
    simp only [entered] at hown hown'
    rw [htaught] at hown
    rw [htaught'] at hown'
    refine ⟨_, _, hown, hown', hkeeps.2.2.2.1.trans hleaf, hkeeps.2.2.2.1.trans hleaf, rfl, ?_⟩
    rw [hl, hl']
    cases htexture : (base.parameters.taught ep p.cell).texture with
    | none => exact .none
    | some texture =>
      obtain ⟨target, htarget, hholds⟩ := Parameters.texture_taught hnone htexture
      cases hget : base.textures.get? texture with
      | none => exact .handed htarget hholds hget
      | some known =>
        have hname := (hcoherent.find?_eq_some_iff known.name texture).mpr ⟨known, hget, rfl⟩
        exact .named hname (h.grows.find? hname)

/-- A compiled effect asks only for textures that its document names. -/
theorem mentioned_of_compile {compiler : Compiler} {d : EffectDescription} {draft : EffectDraft}
    (hcompile : EffectDraft.compile compiler d = .ok draft) (ps : Parameters) :
    (∀ ep ∈ (draft.install ps).1.parameters, ∀ name blank,
        Directive.texture? ep.directives = some (name, blank) → name ∈ d.mentioned) ∧
      ∀ t ∈ (draft.install ps).1.techniques, ∀ directives ∈ t.asks, ∀ name,
        Directive.target? directives = some name → name ∈ d.mentioned := by
  obtain ⟨hparameters, htechniques⟩ := EffectDraft.compile_asks hcompile
  refine ⟨fun ep hep name blank hname => ?_, fun t ht directives hasks name hname => ?_⟩
  · obtain ⟨p, hp, hdirectives, _⟩ :=
      EffectDraft.settle_same (show ps.made = ps.made + 0 from rfl) draft.parameters ep hep
    obtain ⟨note, hnote, heq⟩ := hparameters p hp
    rw [hdirectives, heq] at hname
    exact List.mem_flatMap.mpr ⟨note, hnote, Directive.mem_mentioned_of_texture? hname⟩
  · obtain ⟨note, hnote, rfl⟩ := htechniques t ht directives hasks
    exact List.mem_flatMap.mpr ⟨note, hnote, Directive.mem_mentioned_of_target? hname⟩

/-- An effect that names no texture that came in addition is linked alike in both engines. -/
theorem Widens.link (h : base.Widens e) (hbase : base.parameters.Settled)
    (he : e.parameters.Settled) (hcoherent : base.textures.Coherent)
    (hcoherent' : e.textures.Coherent) (hstaged : base.Staged) {compiler : Compiler}
    {d : EffectDescription} {draft : EffectDraft}
    (hcompile : EffectDraft.compile compiler d = .ok draft)
    (hshared : ∀ name ∈ d.mentioned, e.textures.contains name = base.textures.contains name)
    (notices notices' : List Notice) :
    let x := (base.entered notices draft).link (draft.install base.parameters).1
    let y := (e.entered notices' draft).link (draft.install e.parameters).1
    y.2.1 = x.2.1 ∧ base.SameLink x.2.2 y.2.2 x.1 y.1 := by
  obtain ⟨shift, hmade⟩ := Nat.exists_eq_add_of_le h.made_le
  obtain ⟨hentered, htwins⟩ :=
    h.linkParameters hbase he hcoherent hcoherent' hcompile notices notices' hmade
  obtain ⟨hsamplers, hasks⟩ := mentioned_of_compile hcompile base.parameters
  obtain ⟨lastPass, hpass⟩ := hstaged Staging.lastPass (by simp [Staging.all])
  obtain ⟨lastShader, hshader⟩ := hstaged Staging.lastShader (by simp [Staging.all])
  rw [draft.install_moved hmade] at hentered htwins ⊢
  generalize (draft.install base.parameters).1 = effect at *
  obtain ⟨hresolved, htwins⟩ := hentered.resolveSamplers effect htwins
    fun ep hep name blank hname => hshared name (hsamplers ep hep name blank hname)
  obtain ⟨hended, htries, htries', hsame, htechniques⟩ := hresolved.conclude effect
    (effect.parameters.map (·.moved shift)) hpass hshader
    fun t ht directives hmem name hname => hshared name (hasks t ht directives hmem name hname)
  refine ⟨hended.errors, congrArg (·.name) hsame, congrArg (·.chosen) hsame, htechniques, ?_⟩
  have hrow := link_parameters (base.entered notices draft) effect
  have hrow' := link_parameters (e.entered notices' draft)
    { effect with parameters := effect.parameters.map (·.moved shift) }
  rw [hrow, hrow', List.forall₂_map_right_iff, List.forall₂_same]
  intro ep hep
  have htwin := (htwins ep hep).tries htries htries'
  exact sameParameter_of_twin htwin hended.engine.textures.coherent hended.engine.textures.coherent'

/-! ## Loading -/

theorem SameLink.insert {e' : Engine HeadlessDevice} {effect effect' : Effect}
    (h : base.SameLink e e' effect effect') :
    base.SameLink (e.insert effect).2 (e'.insert effect').2 effect effect' :=
  ⟨h.name, h.chosen, h.techniques,
    h.parameters.imp fun _ _ hsame => ⟨hsame.name, hsame.type, hsame.directives, hsame.holds⟩⟩

/-- An effect that names no texture that came in addition is loaded alike in both engines. -/
theorem Widens.load (h : base.Widens e) (hbase : base.parameters.Settled)
    (he : e.parameters.Settled) (hcoherent : base.textures.Coherent)
    (hcoherent' : e.textures.Coherent) (hstaged : base.Staged) (name : String) {text : String}
    (hshared : ∀ d, EffectDescription.ofText text = .ok d → ∀ name ∈ d.mentioned,
      e.textures.contains name = base.textures.contains name) :
    (∃ error, (base.load name text).1 = .error error ∧ (e.load name text).1 = .error error) ∨
      ∃ handle handle' errors effect effect', (base.load name text).1 = .ok (handle, errors) ∧
        (e.load name text).1 = .ok (handle', errors) ∧
        (base.load name text).2.effects.get? handle = some effect ∧
        (e.load name text).2.effects.get? handle' = some effect' ∧
        base.SameLink (base.load name text).2 (e.load name text).2 effect effect' := by
  cases hparse : EffectDescription.ofText text with
  | error fault =>
    refine Or.inl ⟨.malformed name fault, ?_, ?_⟩ <;> simp only [Engine.load, prepare, hparse]
  | ok d =>
    cases hcompile : EffectDraft.compile base.compiler d with
    | error fault =>
      have hcompile' : EffectDraft.compile e.compiler d = .error fault := h.compiler ▸ hcompile
      refine Or.inl ⟨fault, ?_, ?_⟩
      · simp only [Engine.load, prepare, hparse, note, hcompile]
      · simp only [Engine.load, prepare, hparse, note, hcompile']
    | ok draft =>
      have hcompile' : EffectDraft.compile e.compiler d = .ok draft := h.compiler ▸ hcompile
      have hload := base.load_of_compile name hparse hcompile
      have hload' := e.load_of_compile name hparse hcompile'
      obtain ⟨herrors, hsame⟩ := h.link hbase he hcoherent hcoherent' hstaged hcompile
        (hshared d hparse) (EffectDraft.notices base.compiler d) (EffectDraft.notices e.compiler d)
      rw [hload, hload', herrors]
      exact Or.inr ⟨_, _, _, _, _, rfl, rfl, (Arena.get?_insert _ _ _).trans (if_pos rfl),
        (Arena.get?_insert _ _ _).trans (if_pos rfl), hsame.insert⟩

end Engine

/-! ## Hosts -/

namespace Host

variable {A : Type}

/-- Whatever a host does, its renderer included, leaves what registering a texture keeps. -/
theorem runHooks_textures_keep {D : Type} [Device D] {P : TextureRegistry → Prop}
    (hP : TextureRegistry.Kept P) {host : Host D} (h : P host.engine.textures) (act : A → D → D)
    (ops : List (HookOp D A)) : P (host.runHooks act ops).engine.textures := by
  refine runHooks_keep (P := fun host => P host.engine.textures) (fun host op _ h => ?_) h
  cases op with
  | session op => exact step_textures_keep hP h act op
  | hook hook => cases hook <;> exact h

/-- Whatever a host does after a session was set up, names and textures are those of each
other, and the staging textures are there. -/
theorem runHooks_staged {D : Type} [Device D] {device : D} {settings : Settings}
    {compiler : Compiler} {now : Int} {session : Session D} {engine : Engine D}
    (hcreate : Session.create device settings compiler now = (.ok session, engine))
    (act : A → D → D) (ops : List (HookOp D A)) :
    (({ session } : Host D).runHooks act ops).engine.textures.Coherent ∧
      ∀ name ∈ Staging.all, ∃ handle,
        (({ session } : Host D).runHooks act ops).engine.textures.find? name = some handle := by
  have hset : ({ session } : Host D).engine.textures.Coherent := Session.create_keep
    (P := fun e => e.textures.Coherent)
    (fun e e' hstep h => hstep.steps.textures_keep (fun hr hc => hc.register hr) h)
    (fun e name type h => by
      obtain ⟨parameters, notices, heq⟩ := e.tunes_createVirtual name type
      rw [heq]
      exact h) hcreate TextureRegistry.coherent_empty
  refine runHooks_textures_keep (P := fun r => r.Coherent ∧
    ∀ name ∈ Staging.all, ∃ handle, r.find? name = some handle)
    (fun hr h => ⟨h.1.register hr, fun name hname => ?_⟩)
    ⟨hset, Session.create_staged hcreate⟩ act ops
  obtain ⟨handle, hfind⟩ := h.2 name hname
  exact ⟨handle, TextureRegistry.find?_register hr hfind⟩

/-- Whatever a host did before, an effect that names no texture that another one brings is
loaded alike with and without the other one before it. It fails for the same reason, or it
has the same problems, the same passes and techniques can be used, the same one is drawn,
everything ends in textures of the same names for the same reason, and its parameters hold
the same numbers and textures of the same names. But a parameter that follows a virtual one
which holds a handle without a texture holds this very handle in both. -/
theorem links_independent {device : HeadlessDevice} {settings : Settings} {compiler : Compiler}
    {now : Int} {session : Session HeadlessDevice} {engine : Engine HeadlessDevice}
    (hcreate : Session.create device settings compiler now = (.ok session, engine))
    (act : A → HeadlessDevice → HeadlessDevice) {ops : List (HookOp HeadlessDevice A)}
    {host : Host HeadlessDevice}
    (hrun : ({ session } : Host HeadlessDevice).runHooks act ops = host)
    {other document : String} {after : Session HeadlessDevice}
    (hafter : (host.session.load other document).2 = after) (name : String) {text : String}
    (hapart : ∀ d, EffectDescription.ofText text = .ok d → ∀ texture ∈ d.mentioned,
      host.engine.textures.contains texture = false →
        after.engine.textures.contains texture = false) :
    (∃ error, (host.session.load name text).1 = .error error ∧
        (after.load name text).1 = .error error) ∨
      ∃ handle handle' errors effect effect' alone later,
        host.session.load name text = (.ok (handle, errors), alone) ∧
        after.load name text = (.ok (handle', errors), later) ∧
        alone.engine.effects.get? handle = some effect ∧
        later.engine.effects.get? handle' = some effect' ∧
        host.engine.SameLink alone.engine later.engine effect effect' := by
  subst hrun hafter
  have hsettled := (runHooks_settled hcreate act ops).1
  have hsettled' := (runHooks_settled hcreate act (ops ++ [.session (.load other document)])).1
  obtain ⟨hcoherent, hstaged⟩ := runHooks_staged hcreate act ops
  have hcoherent' :=
    (runHooks_staged hcreate act (ops ++ [.session (.load other document)])).1
  rw [runHooks_append] at hsettled' hcoherent'
  generalize ({ session } : Host HeadlessDevice).runHooks act ops = host at *
  have hwidens := Engine.load_widens hsettled other document
  have hshared : ∀ d, EffectDescription.ofText text = .ok d → ∀ name ∈ d.mentioned,
      (host.engine.load other document).2.textures.contains name =
        host.engine.textures.contains name := fun d hparse known hknown => by
    cases hfind : host.engine.textures.find? known with
    | none =>
      have hfree := (host.engine.textures.contains_eq_false_iff known).mpr hfind
      exact (hapart d hparse known hknown hfree).trans hfree.symm
    | some texture =>
      rw [TextureRegistry.contains_of_find? hfind,
        TextureRegistry.contains_of_find? (hwidens.grows.find? hfind)]
  rcases hwidens.load hsettled hsettled' hcoherent hcoherent' hstaged name hshared with
    ⟨error, herror, herror'⟩ |
    ⟨handle, handle', errors, effect, effect', hok, hok', hget, hget', hsame⟩
  · exact Or.inl ⟨error, herror, herror'⟩
  · exact Or.inr ⟨handle, handle', errors, effect, effect', _, _, Prod.ext hok rfl,
      Prod.ext hok' rfl, hget, hget', hsame⟩

/-- A session with the virtual parameter `v`, which was written to, and a texture. -/
def prepared : List (HookOp HeadlessDevice HeadlessAct) :=
  [.session (.createVirtual "v" .float1), .session (.write ⟨0⟩ (.scalars (.ofList [1]))),
    .session (.createTexture "board" (.target 4 4 .rgba8))]

/-- An effect that follows `v`, samples a texture of its own and draws into `board`. -/
def lit : String :=
  "[\"lit\", [[\"a\", \"float\", [], \x7b\"global\": \"v\"\x7d], " ++
  "[\"s\", \"sampler2D\", [], \x7b\"texture\": \"sky\", \"size\": [2, 2], " ++
  "\"format\": \"rgba8\"\x7d]], [[\"t\", \x7b\"target\": \"board\"\x7d, " ++
  "[[\"p\", \x7b\x7d, null, [\"wgsl\", \"main\", \"s\"]]]]]]"

/-- It is loaded alike with and without an effect that brings the texture `glow`. -/
theorem links_independent_glowing :
    ∃ (session : Session HeadlessDevice) (engine : Engine HeadlessDevice)
      (host : Host HeadlessDevice) (after alone later : Session HeadlessDevice)
      (errors : List LinkError) (effect effect' : Effect),
      Session.create (HeadlessDevice.ofSize 4 4) { builtinParameters := false }
          (Session.searching {} {}) 0 = (.ok session, engine) ∧
        ({ session } : Host HeadlessDevice).runHooks HeadlessAct.perform prepared = host ∧
        (host.session.load "fx.json" glowing).2 = after ∧
        host.engine.textures.contains "glow" = false ∧
        after.engine.textures.contains "glow" = true ∧
        host.session.load "lit.json" lit = (.ok (⟨0⟩, errors), alone) ∧
        after.load "lit.json" lit = (.ok (⟨1⟩, errors), later) ∧
        alone.engine.effects.get? ⟨0⟩ = some effect ∧
        later.engine.effects.get? ⟨1⟩ = some effect' ∧
        host.engine.SameLink alone.engine later.engine effect effect' := by
  have hmade : ((Session.create (HeadlessDevice.ofSize 4 4) { builtinParameters := false }
        (Session.searching {} {}) 0).1.toOption.map fun session =>
      let host := ({ session } : Host HeadlessDevice).runHooks HeadlessAct.perform prepared
      let after := (host.session.load "fx.json" glowing).2
      (host.engine.textures.contains "glow", after.engine.textures.contains "glow",
        (host.session.load "lit.json" lit).1.toOption.map (·.1.index),
        (after.load "lit.json" lit).1.toOption.map (·.1.index),
        (EffectDescription.ofText lit).toOption.map fun d => d.mentioned.all fun texture =>
          host.engine.textures.contains texture || !after.engine.textures.contains texture)) =
      some (false, true, some 0, some 1, some true) := by decide +kernel
  obtain ⟨session, hsession, hseen⟩ := Option.map_eq_some_iff.mp hmade
  obtain ⟨hfree, hseen⟩ := Prod.mk.inj hseen
  obtain ⟨htaken, hseen⟩ := Prod.mk.inj hseen
  obtain ⟨hindex, hseen⟩ := Prod.mk.inj hseen
  obtain ⟨hindex', hmentioned⟩ := Prod.mk.inj hseen
  have hcreate := eq_ok_of_toOption hsession
  have hrun : ({ session } : Host HeadlessDevice).runHooks HeadlessAct.perform prepared = _ := rfl
  rcases links_independent hcreate HeadlessAct.perform hrun rfl "lit.json"
    (fun d hparse texture htexture hnew => by
      rw [hparse] at hmentioned
      have hall := List.all_eq_true.mp (Option.some.inj hmentioned) texture htexture
      rw [hnew] at hall
      simpa using hall) with ⟨error, herror, _⟩ |
    ⟨handle, handle', errors, effect, effect', alone, later, hload, hload', hget, hget', hsame⟩
  · rw [herror] at hindex
    cases hindex
  · rw [hload] at hindex
    rw [hload'] at hindex'
    obtain rfl : handle = ⟨0⟩ := Handle.eq_of_index_eq (Option.some.inj hindex)
    obtain rfl : handle' = ⟨1⟩ := Handle.eq_of_index_eq (Option.some.inj hindex')
    exact ⟨session, _, _, _, alone, later, errors, effect, effect', hcreate, rfl, rfl, hfree,
      htaken, hload, hload', hget, hget', hsame⟩

/-- A session with the virtual sampler `v`, which was given the handle that the next texture
will have. -/
def dangling : List (HookOp HeadlessDevice HeadlessAct) :=
  [.session (.createVirtual "v" .sampler2D), .session (.write ⟨0⟩ (.texture (some ⟨4⟩)))]

/-- An effect that follows `v` and names no texture. -/
def following : String :=
  "[\"fx\", [[\"s\", \"sampler2D\", [], \x7b\"global\": \"v\"\x7d]], []]"

/-- The names of the textures that the parameters of an effect hold. -/
def heldNames {D : Type} (e : Engine D) (effect : Effect) : List (Option String) :=
  effect.parameters.map fun ep =>
    ((e.parameters.get? ep.id).bind (·.texture)).bind e.textures.name?

/-- What follows `v` has no texture, though a handle, unless another effect came before and
brought one. -/
theorem following_dangling :
    ∃ (session : Session HeadlessDevice) (engine : Engine HeadlessDevice)
      (host : Host HeadlessDevice) (after alone later : Session HeadlessDevice)
      (d : EffectDescription) (errors errors' : List LinkError) (effect effect' : Effect),
      Session.create (HeadlessDevice.ofSize 4 4) { builtinParameters := false }
          (Session.searching {} {}) 0 = (.ok session, engine) ∧
        ({ session } : Host HeadlessDevice).runHooks HeadlessAct.perform dangling = host ∧
        (host.session.load "fx.json" glowing).2 = after ∧
        EffectDescription.ofText following = .ok d ∧
        (∀ texture ∈ d.mentioned, host.engine.textures.contains texture = false →
          after.engine.textures.contains texture = false) ∧
        host.session.load "fx.json" following = (.ok (⟨0⟩, errors), alone) ∧
        after.load "fx.json" following = (.ok (⟨1⟩, errors'), later) ∧
        alone.engine.effects.get? ⟨0⟩ = some effect ∧
        later.engine.effects.get? ⟨1⟩ = some effect' ∧
        heldNames alone.engine effect = [none] ∧
        heldNames later.engine effect' = [some "glow"] := by
  have hmentioned : (EffectDescription.ofText following).toOption.map (·.mentioned) = some [] := by
    decide +kernel
  have hfirst : ((Session.create (HeadlessDevice.ofSize 4 4) { builtinParameters := false }
        (Session.searching {} {}) 0).1.toOption.map fun session =>
      let host := ({ session } : Host HeadlessDevice).runHooks HeadlessAct.perform dangling
      let alone := host.session.load "fx.json" following
      (alone.1.toOption.map (·.1.index),
        (alone.2.engine.effects.get? ⟨0⟩).map (heldNames alone.2.engine))) =
      some (some 0, some [none]) := by decide +kernel
  have hsecond : ((Session.create (HeadlessDevice.ofSize 4 4) { builtinParameters := false }
        (Session.searching {} {}) 0).1.toOption.map fun session =>
      let host := ({ session } : Host HeadlessDevice).runHooks HeadlessAct.perform dangling
      let later := (host.session.load "fx.json" glowing).2.load "fx.json" following
      (later.1.toOption.map (·.1.index),
        (later.2.engine.effects.get? ⟨1⟩).map (heldNames later.2.engine))) =
      some (some 1, some [some "glow"]) := by decide +kernel
  obtain ⟨session, hsession, hseen⟩ := Option.map_eq_some_iff.mp hfirst
  rw [hsession] at hsecond
  obtain ⟨hindex, hnames⟩ := Prod.mk.inj hseen
  obtain ⟨hindex', hnames'⟩ := Prod.mk.inj (Option.some.inj hsecond)
  have hcreate := eq_ok_of_toOption hsession
  obtain ⟨d, hd, hnone⟩ := Option.map_eq_some_iff.mp hmentioned
  obtain ⟨effect, hget, hheld⟩ := Option.map_eq_some_iff.mp hnames
  obtain ⟨effect', hget', hheld'⟩ := Option.map_eq_some_iff.mp hnames'
  obtain ⟨⟨handle, errors⟩, hload, hhandle⟩ := Option.map_eq_some_iff.mp hindex
  obtain ⟨⟨handle', errors'⟩, hload', hhandle'⟩ := Option.map_eq_some_iff.mp hindex'
  obtain rfl : handle = ⟨0⟩ := Handle.eq_of_index_eq hhandle
  obtain rfl : handle' = ⟨1⟩ := Handle.eq_of_index_eq hhandle'
  exact ⟨session, _, _, _, _, _, d, errors, errors', effect, effect', hcreate, rfl, rfl,
    ok_of_toOption hd, fun texture htexture => by simp [hnone] at htexture,
    eq_ok_of_toOption hload, eq_ok_of_toOption hload', hget, hget', hheld, hheld'⟩

end Host

end ShaderEffects
