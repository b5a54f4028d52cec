import ShaderEffects.Proofs.NewEffects
import ShaderEffects.Proofs.HeadlessCalls

/-!
# One effect linked in two engines

An engine may have more textures and more parameters than another that it came from. An
effect whose annotations name none of the textures that came in addition is linked alike in
both: the same is reported, the same can be used, and what is found under a name in one is
found under this name in the other. Only the numbers of its parameters, and the handles of
what is registered for it, are different ones.
-/
namespace ShaderEffects

/-! ## Rows under other numbers -/

/-- The same parameter of an effect, under a higher number. -/
def EffectParameter.moved (shift : Nat) (ep : EffectParameter) : EffectParameter :=
  { ep with id := ⟨ep.id.number + shift⟩ }

theorem EffectParameter.moved_id_eq_iff {shift : Nat} {ep other : EffectParameter} :
    (ep.moved shift).id = (other.moved shift).id ↔ ep.id = other.id := by
  rcases ep with ⟨⟨n⟩, _, _, _⟩
  rcases other with ⟨⟨m⟩, _, _, _⟩
  simp [moved]

theorem forall₂_and {α β : Type} {r s : α → β → Prop} {xs : List α} {ys : List β}
    (hr : List.Forall₂ r xs ys) (hs : List.Forall₂ s xs ys) :
    List.Forall₂ (fun x y => r x y ∧ s x y) xs ys := by
  induction hr with
  | nil => exact .nil
  | cons hfirst _ ih =>
    cases hs with
    | cons hfirst' hrest' => exact .cons ⟨hfirst, hfirst'⟩ (ih hrest')

namespace EffectDraft

variable {ps ps' : Parameters} {shift : Nat}

/-- Where more parameters were made, parameters come to life under higher numbers. -/
theorem settle_moved (hmade : ps'.made = ps.made + shift) (drafts : List ParameterDraft) :
    (settle ps' drafts).1 = (settle ps drafts).1.map (·.moved shift) := by
  induction drafts generalizing ps ps' with
  | nil => rfl
  | cons d rest ih =>
    have hnext : (ps'.add d.cell).1.made = (ps.add d.cell).1.made + shift := by
      simp only [Parameters.add, hmade]
      omega
    simp only [settle, List.map_cons, ih hnext]
    rw [EffectParameter.moved]
    simp only [Parameters.add, hmade]

theorem install_moved (draft : EffectDraft) (hmade : ps'.made = ps.made + shift) :
    (draft.install ps').1 = { (draft.install ps).1 with
      parameters := (draft.install ps).1.parameters.map (·.moved shift) } := by
  simp only [install, settle_moved hmade]

/-- Under its other number a parameter holds the same. -/
theorem settle_same (hmade : ps'.made = ps.made + shift) (drafts : List ParameterDraft) :
    ∀ ep ∈ (settle ps drafts).1, ∃ d ∈ drafts, ep.directives = d.directives ∧
      (settle ps drafts).2.get? ep.id = some d.cell ∧
      (settle ps' drafts).2.get? (ep.moved shift).id = some d.cell := by
  obtain ⟨_, _, _, hrow, _⟩ := settle_cells ps drafts
  obtain ⟨_, _, _, hrow', _⟩ := settle_cells ps' drafts
  rw [settle_moved hmade, List.forall₂_map_left_iff] at hrow'
  intro ep hep
  obtain ⟨d, hd, hsame, hsame'⟩ := exists_of_forall₂ (forall₂_and hrow hrow') hep
  exact ⟨d, hd, hsame.directives, hsame.cell, hsame'.cell⟩

end EffectDraft

/-! ## Registries and devices -/

namespace TextureRegistry

/-- Two registries that grew from one, and agree on which of the shared names are taken. -/
structure Abreast (known : TextureRegistry) (shared : String → Prop)
    (r r' : TextureRegistry) : Prop where
  grows : known.Grows r
  grows' : known.Grows r'
  coherent : r.Coherent
  coherent' : r'.Coherent
  taken : ∀ name, shared name → r'.contains name = r.contains name

theorem contains_register_eq {r r₁ : TextureRegistry} {name : String} {backing : TextureId}
    {desc : TextureDesc} {handle : Handle Texture}
    (h : r.register name backing desc = .ok (handle, r₁)) (other : String) :
    r₁.contains other = (decide (other = name) || r.contains other) := by
  have hfind := find?_register_iff h other
  unfold find? at hfind
  unfold contains Table.contains
  rw [hfind]
  by_cases hother : other = name <;> simp [hother]

theorem Abreast.register {known : TextureRegistry} {shared : String → Prop}
    {r r' r₁ r₁' : TextureRegistry} (h : known.Abreast shared r r') {name : String}
    {backing backing' : TextureId} {desc desc' : TextureDesc} {handle handle' : Handle Texture}
    (hr : r.register name backing desc = .ok (handle, r₁))
    (hr' : r'.register name backing' desc' = .ok (handle', r₁')) :
    known.Abreast shared r₁ r₁' where
  grows := h.grows.trans (grows_register hr)
  grows' := h.grows'.trans (grows_register hr')
  coherent := h.coherent.register hr
  coherent' := h.coherent'.register hr'
  taken := fun other hother => by
    rw [contains_register_eq hr, contains_register_eq hr', h.taken other hother]

theorem contains_of_find? {r : TextureRegistry} {name : String} {texture : Handle Texture}
    (h : r.find? name = some texture) : r.contains name = true := by
  unfold find? at h
  simp [contains, Table.contains, h]

/-- A shared name is found in both, or in none. -/
theorem Abreast.find? {known : TextureRegistry} {shared : String → Prop} {r r' : TextureRegistry}
    (h : known.Abreast shared r r') {name : String} (hname : shared name) :
    (r.find? name = none ∧ r'.find? name = none) ∨
      ∃ texture texture', r.find? name = some texture ∧ r'.find? name = some texture' := by
  have htaken := h.taken name hname
  cases hfind : r.find? name with
  | none =>
    rw [(contains_eq_false_iff r name).mpr hfind] at htaken
    exact Or.inl ⟨rfl, (contains_eq_false_iff r' name).mp htaken⟩
  | some texture =>
    cases hfind' : r'.find? name with
    | some texture' => exact Or.inr ⟨texture, texture', rfl, rfl⟩
    | none =>
      rw [(contains_eq_false_iff r' name).mpr hfind', contains_of_find? hfind] at htaken
      cases htaken

/-- What is registered under a name has this name. -/
theorem Coherent.name_of_find? {r : TextureRegistry} (h : r.Coherent) {name : String}
    {handle : Handle Texture} (hfind : r.find? name = some handle) :
    (r.get? handle).map (·.name) = some name := by
  obtain ⟨texture, hget, hname⟩ := (h.find?_eq_some_iff name handle).mp hfind
  rw [hget, Option.map_some, hname]

end TextureRegistry

namespace HeadlessDevice

variable {d d' : HeadlessDevice}

/-- Devices that give the same answers when programs are looked at and textures are made. -/
structure AnswersAs (d d' : HeadlessDevice) : Prop where
  lost : d'.lost = d.lost
  refusedProfiles : d'.refusedProfiles = d.refusedProfiles

theorem AnswersAs.alive (h : d.AnswersAs d') : d'.alive = d.alive := by
  unfold HeadlessDevice.alive
  rw [h.lost]

theorem AnswersAs.createTexture (h : d.AnswersAs d') (name : String) (desc : TextureDesc) :
    (∃ e, d.createTexture name desc = (.error e, d) ∧
        d'.createTexture name desc = (.error e, d')) ∨
      ∃ id id' one other, d.createTexture name desc = (.ok id, one) ∧
        d'.createTexture name desc = (.ok id', other) ∧ one.AnswersAs other := by
  unfold HeadlessDevice.createTexture
  rw [h.alive]
  cases d.alive with
  | error e => exact Or.inl ⟨e, rfl, rfl⟩
  | ok _ =>
    simp only
    split_ifs
    · exact Or.inl ⟨_, rfl, rfl⟩
    · exact Or.inr ⟨_, _, _, _, rfl, rfl, ⟨h.lost, h.refusedProfiles⟩⟩

theorem AnswersAs.loadTexture (h : d.AnswersAs d') (files : FileTree) (name path : String) :
    (∃ e, d.loadTexture files name path = (.error e, d) ∧
        d'.loadTexture files name path = (.error e, d')) ∨
      ∃ id id' desc one other, d.loadTexture files name path = (.ok (id, desc), one) ∧
        d'.loadTexture files name path = (.ok (id', desc), other) ∧ one.AnswersAs other := by
  unfold HeadlessDevice.loadTexture
  rw [h.alive]
  cases d.alive with
  | error e => exact Or.inl ⟨e, rfl, rfl⟩
  | ok _ =>
    cases imageSize files path with
    | error fault => exact Or.inl ⟨_, rfl, rfl⟩
    | ok size =>
      simp only
      rcases h.createTexture name
        { TextureDesc.target size.width size.height default with mipmaps := true } with
        ⟨e, heq, heq'⟩ | ⟨id, id', one, other, heq, heq', hanswers⟩ <;> rw [heq, heq']
      · exact Or.inl ⟨e, rfl, rfl⟩
      · exact Or.inr ⟨id, id', _, _, _, rfl, rfl, ⟨hanswers.lost, hanswers.refusedProfiles⟩⟩

theorem AnswersAs.validate (h : d.AnswersAs d') (programs : List Program) :
    d'.validate programs = d.validate programs := by
  unfold HeadlessDevice.validate
  rw [h.alive]

theorem AnswersAs.supports (h : d.AnswersAs d') (profile : Profile) :
    d'.supports profile = d.supports profile := by
  unfold HeadlessDevice.supports
  rw [h.refusedProfiles]

end HeadlessDevice

/-! ## Engines side by side -/

namespace Engine

/-- Two engines in which an effect that names shared textures alone is linked alike. -/
structure Abreast (known : TextureRegistry) (shared : String → Prop)
    (e e' : Engine HeadlessDevice) : Prop where
  compiler : e'.compiler = e.compiler
  device : e.device.AnswersAs e'.device
  textures : known.Abreast shared e.textures e'.textures

variable {known : TextureRegistry} {shared : String → Prop} {e e' : Engine HeadlessDevice}

theorem Abreast.note (h : e.Abreast known shared e') (notices notices' : List Notice) :
    (e.note notices).Abreast known shared (e'.note notices') := ⟨h.compiler, h.device, h.textures⟩

theorem Abreast.parameters (h : e.Abreast known shared e') (ps ps' : Parameters) :
    ({ e with parameters := ps } : Engine HeadlessDevice).Abreast known shared
      { e' with parameters := ps' } := ⟨h.compiler, h.device, h.textures⟩

/-- A texture is registered under a free name in both engines, or in none. -/
theorem Abreast.createRegistered (h : e.Abreast known shared e') {name : String}
    (hshared : shared name) (hfree : e.textures.contains name = false) (desc : TextureDesc) :
    (e.createRegistered name desc).2.Abreast known shared (e'.createRegistered name desc).2 ∧
      ((∃ error, (e.createRegistered name desc).1 = .error error ∧
          (e'.createRegistered name desc).1 = .error error) ∨
        ∃ texture texture', (e.createRegistered name desc).1 = .ok texture ∧
          (e'.createRegistered name desc).1 = .ok texture' ∧
          (e.createRegistered name desc).2.textures.find? name = some texture ∧
          (e'.createRegistered name desc).2.textures.find? name = some texture') := by
  have hfree' : e'.textures.contains name = false := (h.textures.taken name hshared).trans hfree
  unfold Engine.createRegistered
  simp only [HeadlessDevice.device_createTexture]
  rcases h.device.createTexture name desc with ⟨error, heq, heq'⟩ |
    ⟨id, id', one, other, heq, heq', hanswers⟩ <;> rw [heq, heq']
  · exact ⟨⟨h.compiler, h.device, h.textures⟩, Or.inl ⟨_, rfl, rfl⟩⟩
  · obtain ⟨texture, textures, hr⟩ := TextureRegistry.exists_register hfree id desc
    obtain ⟨texture', textures', hr'⟩ := TextureRegistry.exists_register hfree' id' desc
    simp only [registerTexture, withDevice, hr, hr']
    exact ⟨⟨h.compiler, hanswers, h.textures.register hr hr'⟩, Or.inr ⟨texture, texture', rfl,
      rfl, TextureRegistry.find?_register_self hr, TextureRegistry.find?_register_self hr'⟩⟩

end Engine

/-! ## Samplers -/

namespace Linking

variable {known : TextureRegistry} {shared : String → Prop} {l l' : Linking HeadlessDevice}

/-- Links side by side that reported the same. -/
structure Abreast (known : TextureRegistry) (shared : String → Prop)
    (l l' : Linking HeadlessDevice) : Prop where
  errors : l'.errors = l.errors
  engine : l.engine.Abreast known shared l'.engine

theorem Abreast.note (h : l.Abreast known shared l') (notices notices' : List Notice) :
    (l.note notices).Abreast known shared (l'.note notices') :=
  ⟨h.errors, h.engine.note notices notices'⟩

theorem Abreast.report (h : l.Abreast known shared l') (errors : List LinkError) :
    (l.report errors).Abreast known shared (l'.report errors) :=
  ⟨congrArg (· ++ errors) h.errors, h.engine⟩

theorem Abreast.give (h : l.Abreast known shared l') (id id' : ParameterId)
    (texture texture' : Handle Texture) :
    (l.give id texture).Abreast known shared (l'.give id' texture') :=
  ⟨h.errors, h.engine.parameters _ _⟩

/-- The image file of a shared name is found and loaded in both links, or in none. -/
theorem Abreast.load (h : l.Abreast known shared l') {name : String} (hshared : shared name)
    (hfree : l.engine.textures.contains name = false) :
    (l.load name).2.Abreast known shared (l'.load name).2 ∧
      (((l.load name).1 = none ∧ (l'.load name).1 = none) ∨
        ∃ texture texture', (l.load name).1 = some texture ∧ (l'.load name).1 = some texture' ∧
          (l.load name).2.engine.textures.find? name = some texture ∧
          (l'.load name).2.engine.textures.find? name = some texture') := by
  have hfree' : l'.engine.textures.contains name = false :=
    (h.engine.textures.taken name hshared).trans hfree
  unfold Linking.load
  rw [h.engine.compiler]
  cases l.engine.compiler.resolve? name with
  | none => exact ⟨h, Or.inl ⟨rfl, rfl⟩⟩
  | some path =>
    simp only [loadFile, h.engine.compiler, HeadlessDevice.device_loadTexture]
    rcases h.engine.device.loadTexture l.engine.compiler.files name path with ⟨error, heq, heq'⟩ |
      ⟨id, id', desc, one, other, heq, heq', hanswers⟩ <;> rw [heq, heq']
    · exact ⟨⟨h.errors, ⟨h.engine.compiler, h.engine.device, h.engine.textures⟩⟩,
        Or.inl ⟨rfl, rfl⟩⟩
    · obtain ⟨texture, textures, hr⟩ := TextureRegistry.exists_register hfree id desc
      obtain ⟨texture', textures', hr'⟩ := TextureRegistry.exists_register hfree' id' desc
      simp only [Engine.registerTexture, Engine.withDevice, Engine.note, Linking.note, hr, hr']
      exact ⟨⟨h.errors, ⟨h.engine.compiler, hanswers, h.engine.textures.register hr hr'⟩⟩,
        Or.inr ⟨texture, texture', rfl, rfl, TextureRegistry.find?_register_self hr,
          TextureRegistry.find?_register_self hr'⟩⟩

/-- What a link did about a sampler: nothing to the parameters, or it gave it the texture of
a name, in both engines alike. -/
def Supplied (l l₁ l' l₁' : Linking HeadlessDevice) (id id' : ParameterId) : Prop :=
  (l₁.engine.parameters = l.engine.parameters ∧
      l₁'.engine.parameters = l'.engine.parameters) ∨
    ∃ name texture texture',
      l₁.engine.textures.find? name = some texture ∧
      l₁'.engine.textures.find? name = some texture' ∧
      l₁.engine.parameters = l.engine.parameters.write id (.texture (some texture)) ∧
      l₁'.engine.parameters = l'.engine.parameters.write id' (.texture (some texture'))

theorem Abreast.giveBlank (h : l.Abreast known shared l') {name : String} (hshared : shared name)
    (hfree : l.engine.textures.contains name = false) (effect : String) (ep : EffectParameter)
    (shift : Nat) (blank : BlankTarget) :
    (l.giveBlank effect ep name blank).Abreast known shared
        (l'.giveBlank effect (ep.moved shift) name blank) ∧
      Supplied l (l.giveBlank effect ep name blank) l'
        (l'.giveBlank effect (ep.moved shift) name blank) ep.id (ep.moved shift).id := by
  cases blank with
  | error fault => exact ⟨(h.note _ _).report _, Or.inl ⟨rfl, rfl⟩⟩
  | ok desc =>
    have hfree' : l'.engine.textures.contains name = false :=
      (h.engine.textures.taken name hshared).trans hfree
    obtain ⟨habreast, hresult⟩ := h.engine.createRegistered hshared hfree desc
    have hquiet := (Engine.createRegistered_quiet hfree desc).1
    have hquiet' := (Engine.createRegistered_quiet hfree' desc).1
    simp only [Linking.giveBlank]
    rcases hc : l.engine.createRegistered name desc with ⟨error | texture, e₁⟩ <;>
      rcases hc' : l'.engine.createRegistered name desc with ⟨error' | texture', e₁'⟩ <;>
      rw [hc, hc'] at habreast hresult <;> rw [hc] at hquiet <;> rw [hc'] at hquiet'
    · obtain ⟨known', hknown, hknown'⟩ := hresult.resolve_right (by simp)
      cases hknown
      cases hknown'
      exact ⟨⟨congrArg (· ++ [error]) h.errors, habreast.note _ _⟩, Or.inl ⟨hquiet, hquiet'⟩⟩
    · simp at hresult
    · simp at hresult
    · obtain ⟨known, known', hknown, hknown', hfind, hfind'⟩ := hresult.resolve_left (by simp)
      cases hknown
      cases hknown'
      refine ⟨⟨h.errors, (habreast.note _ _).parameters _ _⟩, Or.inr ⟨name, texture, texture',
        hfind, hfind', ?_, ?_⟩⟩
      · simp only [Linking.give, Linking.note, Engine.note, Engine.write]
        rw [hquiet]
      · simp only [Linking.give, Linking.note, Engine.note, Engine.write]
        rw [hquiet']

/-- A texture under a name that is free: that of the image file of this name, else a blank
one. -/
def fetch (effect : String) (l : Linking HeadlessDevice) (ep : EffectParameter) (name : String)
    (blank : BlankTarget) : Linking HeadlessDevice :=
  match l.load name with
  | (some texture, l) => l.give ep.id texture
  | (none, l) => l.giveBlank effect ep name blank

theorem Abreast.fetch (h : l.Abreast known shared l') {name : String} (hshared : shared name)
    (hfree : l.engine.textures.contains name = false) (effect : String) (ep : EffectParameter)
    (shift : Nat) (blank : BlankTarget) :
    (l.fetch effect ep name blank).Abreast known shared
        (l'.fetch effect (ep.moved shift) name blank) ∧
      Supplied l (l.fetch effect ep name blank) l' (l'.fetch effect (ep.moved shift) name blank)
        ep.id (ep.moved shift).id := by
  have hfree' : l'.engine.textures.contains name = false :=
    (h.engine.textures.taken name hshared).trans hfree
  obtain ⟨habreast, hresult⟩ := h.load hshared hfree
  have hquiet := (load_quiet hfree).1
  have hquiet' := (load_quiet hfree').1
  have hsteps := (load_steps hfree).2
  unfold Linking.fetch
  rcases hl : l.load name with ⟨_ | texture, l₁⟩ <;>
    rcases hl' : l'.load name with ⟨_ | texture', l₁'⟩ <;>
    rw [hl, hl'] at habreast hresult <;> rw [hl] at hquiet hsteps <;> rw [hl'] at hquiet'
  · have htextures : l₁.engine.textures = l.engine.textures := hsteps
    obtain ⟨hblank, hsupplied⟩ :=
      habreast.giveBlank hshared (by rw [htextures, hfree]) effect ep shift blank
    refine ⟨hblank, ?_⟩
    unfold Supplied at hsupplied ⊢
    rwa [hquiet, hquiet'] at hsupplied
  · simp at hresult
  · simp at hresult
  · obtain ⟨known', known'', hknown, hknown', hfound, hfound'⟩ := hresult.resolve_left (by simp)
    cases hknown
    cases hknown'
    refine ⟨habreast.give _ _ _ _, Or.inr ⟨name, texture, texture', hfound, hfound', ?_, ?_⟩⟩
    · simp only [Linking.give, Engine.write]
      rw [hquiet]
    · simp only [Linking.give, Engine.write]
      rw [hquiet']

theorem resolveSampler_eq (effect : String) (l : Linking HeadlessDevice) (ep : EffectParameter) :
    resolveSampler effect l ep =
      if ep.type.category ≠ .sampler ∨ (l.heldTexture? ep.id).isSome then l
      else
        match Directive.texture? ep.directives with
        | none => l
        | some (name, blank) =>
          match l.engine.textures.find? name with
          | some texture => l.give ep.id texture
          | none => l.fetch effect ep name blank := by
  unfold Linking.resolveSampler Linking.fetch
  split_ifs
  · rfl
  cases Directive.texture? ep.directives with
  | none => rfl
  | some wanted =>
    obtain ⟨name, blank⟩ := wanted
    simp only
    cases l.engine.textures.find? name with
    | some texture => rfl
    | none => rcases l.load name with ⟨_ | _, _⟩ <;> rfl

/-- The texture of a sampler is looked for alike in both links. -/
theorem Abreast.resolveSampler (h : l.Abreast known shared l') (effect : String)
    {ep : EffectParameter} {shift : Nat}
    (hheld : (l'.heldTexture? (ep.moved shift).id).isSome = (l.heldTexture? ep.id).isSome)
    (hshared : ∀ name blank, Directive.texture? ep.directives = some (name, blank) → shared name) :
    (resolveSampler effect l ep).Abreast known shared
        (resolveSampler effect l' (ep.moved shift)) ∧
      Supplied l (resolveSampler effect l ep) l' (resolveSampler effect l' (ep.moved shift)) ep.id
        (ep.moved shift).id := by
  have htype : (ep.moved shift).type = ep.type := rfl
  have hdirectives : (ep.moved shift).directives = ep.directives := rfl
  rw [resolveSampler_eq, resolveSampler_eq, hheld, htype, hdirectives]
  split_ifs
  · exact ⟨h, Or.inl ⟨rfl, rfl⟩⟩
  cases hwanted : Directive.texture? ep.directives with
  | none => exact ⟨h, Or.inl ⟨rfl, rfl⟩⟩
  | some wanted =>
    obtain ⟨name, blank⟩ := wanted
    have hname := hshared name blank hwanted
    simp only
    rcases h.engine.textures.find? hname with ⟨hfind, hfind'⟩ | ⟨texture, texture', hfind, hfind'⟩ <;>
      rw [hfind, hfind']
    · have hfree := (l.engine.textures.contains_eq_false_iff name).mpr hfind
      exact h.fetch hname hfree effect ep shift blank
    · exact ⟨h.give _ _ _ _, Or.inr ⟨name, texture, texture', hfind, hfind', rfl, rfl⟩⟩

end Linking

/-! ## What parameters hold -/

/-- Textures that two engines gave to a parameter: none, the one of a name, or the one that
was handed on to it when it was attached, though its handle stood for none in the engine that
both came from. -/
inductive SameTexture (base : Engine HeadlessDevice) (ep : EffectParameter)
    (r r' : TextureRegistry) : Option (Handle Texture) → Option (Handle Texture) → Prop
  | none : SameTexture base ep r r' none none
  | named {name : String} {texture texture' : Handle Texture} :
    r.find? name = some texture → r'.find? name = some texture' →
    SameTexture base ep r r' (some texture) (some texture')
  | handed {target : Parameter} {texture : Handle Texture} :
    (base.parameters.followed? ep).bind base.parameters.get? = some target →
    target.texture = some texture → base.textures.get? texture = .none →
    SameTexture base ep r r' (some texture) (some texture)

theorem SameTexture.grows {base : Engine HeadlessDevice} {ep : EffectParameter}
    {r r' r₁ r₁' : TextureRegistry} {texture texture' : Option (Handle Texture)}
    (h : SameTexture base ep r r' texture texture') (hr : r.Grows r₁) (hr' : r'.Grows r₁') :
    SameTexture base ep r₁ r₁' texture texture' := by
  cases h with
  | none => exact .none
  | named hfind hfind' => exact .named (hr.find? hfind) (hr'.find? hfind')
  | handed htarget hholds hnone => exact .handed htarget hholds hnone

/-- A parameter of an effect holds the same in two engines, in which it has different
numbers. -/
def Twin (base : Engine HeadlessDevice) (shift : Nat) (e e' : Engine HeadlessDevice)
    (ep : EffectParameter) : Prop :=
  ∃ p p', e.parameters.get? ep.id = some p ∧ e'.parameters.get? (ep.moved shift).id = some p' ∧
    p.attached = [] ∧ p'.attached = [] ∧ p'.scalars = p.scalars ∧
    SameTexture base ep e.textures e'.textures p.texture p'.texture

theorem Twin.tries {base e e' e₁ e₁' : Engine HeadlessDevice} {shift : Nat} {ep : EffectParameter}
    (h : Twin base shift e e' ep) (he : e.Tries e₁) (he' : e'.Tries e₁') :
    Twin base shift e₁ e₁' ep := by
  unfold Twin
  rw [he.parameters, he'.parameters, he.textures, he'.textures]
  exact h

namespace Linking

variable {known : TextureRegistry} {shared : String → Prop} {l l' l₁ l₁' : Linking HeadlessDevice}
  {base : Engine HeadlessDevice} {shift : Nat} {ep other : EffectParameter}

theorem heldTexture?_twin (h : Twin base shift l.engine l'.engine ep) :
    (l'.heldTexture? (ep.moved shift).id).isSome = (l.heldTexture? ep.id).isSome := by
  obtain ⟨p, p', hp, hp', _, _, _, htexture⟩ := h
  rw [heldTexture?, heldTexture?, hp, hp', Option.bind_some, Option.bind_some]
  generalize p.texture = texture, p'.texture = texture' at htexture
  cases htexture <;> rfl

/-- What is done about one sampler keeps all parameters of the effect alike. -/
theorem Supplied.twin (h : Supplied l l₁ l' l₁' ep.id (ep.moved shift).id)
    (hep : Twin base shift l.engine l'.engine ep) (hother : Twin base shift l.engine l'.engine other)
    (hgrows : l.engine.textures.Grows l₁.engine.textures)
    (hgrows' : l'.engine.textures.Grows l₁'.engine.textures) :
    Twin base shift l₁.engine l₁'.engine other := by
  obtain ⟨q, q', hq, hq', hqleaf, hqleaf', _, _⟩ := hep
  obtain ⟨p, p', hp, hp', hleaf, hleaf', hscalars, htexture⟩ := hother
  rcases h with ⟨heq, heq'⟩ | ⟨name, texture, texture', hfind, hfind', heq, heq'⟩
  · exact ⟨p, p', by rw [heq, hp], by rw [heq', hp'], hleaf, hleaf', hscalars,
      htexture.grows hgrows hgrows'⟩
  · have hwrite := Parameters.get?_write_leaf hq hqleaf (.texture (some texture)) other.id
    have hwrite' := Parameters.get?_write_leaf hq' hqleaf' (.texture (some texture'))
      (other.moved shift).id
    unfold Twin
    rw [heq, heq', hwrite, hwrite']
    by_cases hsame : other.id = ep.id
    · rw [hsame, hq] at hp
      cases hp
      rw [EffectParameter.moved_id_eq_iff.mpr hsame, hq'] at hp'
      cases hp'
      rw [if_pos hsame, if_pos (EffectParameter.moved_id_eq_iff.mpr hsame)]
      exact ⟨_, _, rfl, rfl, hleaf, hleaf', hscalars, .named hfind hfind'⟩
    · rw [if_neg hsame, if_neg (mt EffectParameter.moved_id_eq_iff.mp hsame)]
      exact ⟨p, p', hp, hp', hleaf, hleaf', hscalars, htexture.grows hgrows hgrows'⟩

/-- The samplers of an effect get the same textures in both links. -/
theorem Abreast.resolveSamplers (h : l.Abreast known shared l') (effect : Effect)
    (htwins : ∀ ep ∈ effect.parameters, Twin base shift l.engine l'.engine ep)
    (hshared : ∀ ep ∈ effect.parameters, ∀ name blank,
      Directive.texture? ep.directives = some (name, blank) → shared name) :
    let effect' := { effect with parameters := effect.parameters.map (·.moved shift) }
    (l.resolveSamplers effect).Abreast known shared (l'.resolveSamplers effect') ∧
      ∀ ep ∈ effect.parameters, Twin base shift (l.resolveSamplers effect).engine
        (l'.resolveSamplers effect').engine ep := by
  simp only [Linking.resolveSamplers, List.foldl_map]
  -- the rows that are still to come get shorter, but all parameters stay alike
  suffices hall : ∀ todo : List EffectParameter, (∀ ep ∈ todo, ep ∈ effect.parameters) →
      ∀ l l', l.Abreast known shared l' →
      (∀ ep ∈ effect.parameters, Twin base shift l.engine l'.engine ep) →
      (todo.foldl (Linking.resolveSampler effect.name) l).Abreast known shared
          (todo.foldl (fun l ep => Linking.resolveSampler effect.name l (ep.moved shift)) l') ∧
        ∀ ep ∈ effect.parameters,
          Twin base shift (todo.foldl (Linking.resolveSampler effect.name) l).engine
            (todo.foldl (fun l ep => Linking.resolveSampler effect.name l (ep.moved shift))
              l').engine ep from
    hall effect.parameters (fun _ hep => hep) l l' h htwins
  intro todo
  induction todo with
  | nil => exact fun _ l l' h htwins => ⟨h, htwins⟩
  | cons ep rest ih =>
    intro hrow l l' h htwins
    have hep := hrow ep List.mem_cons_self
    obtain ⟨habreast, hsupplied⟩ := h.resolveSampler effect.name (heldTexture?_twin (htwins ep hep))
      (hshared ep hep)
    refine ih (fun other hother => hrow other (List.mem_cons_of_mem ep hother)) _ _ habreast
      fun other hother => hsupplied.twin (htwins ep hep) (htwins other hother) ?_ ?_
    · exact (resolveSampler_steps effect.name l ep).grows
    · exact (resolveSampler_steps effect.name l' (ep.moved shift)).grows

end Linking

end ShaderEffects
