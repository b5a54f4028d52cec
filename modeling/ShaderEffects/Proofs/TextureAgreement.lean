import ShaderEffects.Proofs.CompiledEffects
import ShaderEffects.Proofs.FrameRuns
import ShaderEffects.Proofs.KeptPrograms

/-!
# Registered textures and textures of the device

As long as a host makes no textures of the device itself, every texture of the device
without a screen is registered, and every registered texture is one of the device. What
effects and parameters refer to is registered then, and an attempt to make a texture
that fails leaves nothing behind.
-/
namespace ShaderEffects

open HeadlessDevice

/-- Whether a call makes no texture. -/
def DeviceCall.leavesTextures {D : Type} [Device D] : DeviceCall D → Bool
  | .createTexture .. => false
  | .loadTexture .. => false
  | _ => true

theorem DeviceCall.leavesTextures_of_draws {D : Type} [Device D] {c : DeviceCall D}
    (h : c.draws = true) : c.leavesTextures = true := by
  cases c <;> first | rfl | cases h

namespace HeadlessDevice

theorem textures_perform (d : HeadlessDevice) {c : DeviceCall HeadlessDevice}
    (hc : c.leavesTextures = true) : (c.perform d).textures = d.textures := by
  cases c with
  | createTexture | loadTexture => cases hc
  | validate | unbind | setConstants | setSampler | restore | enterEffectState => rfl
  | loadProgram p =>
    rcases loadProgram_cases d p with ⟨e, heq⟩ | heq <;>
      simp only [DeviceCall.perform, device_loadProgram, heq]
  | bind stage id =>
    rcases bind_cases d stage id with ⟨e, heq⟩ | ⟨label, heq⟩ <;>
      simp only [DeviceCall.perform, device_bind, heq]
  | setTarget surface =>
    rcases setTarget_cases d surface with ⟨e, heq, _⟩ | ⟨_, _, heq⟩ <;>
      simp only [DeviceCall.perform, device_setTarget, heq]
  | draw geometry =>
    rcases d.draw_cases geometry with ⟨e, heq⟩ | heq | ⟨contents, left, heq⟩ <;>
      simp only [DeviceCall.perform, device_draw, heq]
    rfl
  | copy source destination =>
    rcases d.copy_cases source destination with ⟨e, heq⟩ | heq <;>
      simp only [DeviceCall.perform, device_copy, heq]

/-- A texture that could not be made leaves the device as it was. -/
theorem perform_of_makesNothing (d : HeadlessDevice) {c : DeviceCall HeadlessDevice}
    (hc : c.prepares = true) (hnothing : c.MakesNothing d) : c.perform d = d := by
  cases c with
  | loadProgram | bind | unbind | setConstants | setSampler | setTarget | restore
  | enterEffectState | draw | copy => cases hc
  | validate => rfl
  | createTexture name desc =>
    obtain ⟨e, he⟩ := hnothing
    rcases d.createTexture_cases name desc with ⟨_, heq⟩ | heq
    · simp only [DeviceCall.perform, device_createTexture, heq]
    · simp [heq] at he
  | loadTexture files name path =>
    obtain ⟨e, he⟩ := hnothing
    rcases d.loadTexture_cases files name path with ⟨_, heq⟩ | ⟨desc, contents, heq⟩
    · simp only [DeviceCall.perform, device_loadTexture, heq]
    · simp [heq] at he

end HeadlessDevice

theorem Renderer.StepsBy.textures {kind : DeviceCall HeadlessDevice → Bool}
    {hands : Prop} {r r' : Renderer HeadlessDevice} (h : r.StepsBy kind hands r')
    (hkind : ∀ c, kind c = true → c.leavesTextures = true) :
    r'.device.textures = r.device.textures := by
  refine h.device_keep (P := fun d => d.textures = r.device.textures) (fun d c hc hd => ?_) rfl
  refine (textures_perform d ?_).trans hd
  rcases hc with hc | hc
  · exact hkind c hc
  · cases c <;> first | rfl | cases hc

/-! ## Registries and devices -/

namespace TextureRegistry

variable {registry registry' : TextureRegistry} {d d' : HeadlessDevice}

/-- The registered textures are those of the device, each registered once and under its
own name. -/
structure Matches (registry : TextureRegistry) (d : HeadlessDevice) : Prop where
  coherent : registry.Coherent
  issued : ∀ id name desc, d.textures.get? id = some ⟨name, desc⟩ ↔
    ∃ handle, registry.get? handle = some ⟨name, id, desc⟩
  apart : ∀ handle other texture another, registry.get? handle = some texture →
    registry.get? other = some another → texture.backing = another.backing → handle = other
  numbered : ∀ id, d.textures.contains id = true → id.number < d.nextId

theorem matches_empty (h : d.textures = ∅) : ({} : TextureRegistry).Matches d where
  coherent := coherent_empty
  issued := fun id name desc => by simp [h, get?]
  apart := fun handle _ _ _ hget => by cases hget
  numbered := fun id hid => by simp [h, Table.contains] at hid

theorem Matches.congr (h : registry.Matches d) (htextures : d'.textures = d.textures)
    (hnext : d.nextId ≤ d'.nextId) : registry.Matches d' := by
  refine ⟨h.coherent, ?_, h.apart, fun id hid => ?_⟩
  · rw [htextures]
    exact h.issued
  · rw [htextures] at hid
    exact Nat.lt_of_lt_of_le (h.numbered id hid) hnext

/-- What is registered is one of the device. -/
theorem Matches.numbered_backing (h : registry.Matches d) {handle : Handle Texture}
    {texture : Texture} (hget : registry.get? handle = some texture) :
    texture.backing.number < d.nextId := by
  refine h.numbered _ ?_
  rw [Table.contains, (h.issued texture.backing texture.name texture.desc).mpr ⟨handle, hget⟩]
  rfl

/-- A new texture of the device, registered under a free name. -/
theorem Matches.register (h : registry.Matches d) {name : String} {desc : TextureDesc}
    {handle : Handle Texture}
    (htextures : d'.textures = d.textures.insert ⟨d.nextId⟩ ⟨name, desc⟩)
    (hnext : d'.nextId = d.nextId + 1)
    (hregister : registry.register name ⟨d.nextId⟩ desc = .ok (handle, registry')) :
    registry'.Matches d' := by
  have hget := get?_register hregister
  have hfresh := get?_fresh hregister
  refine ⟨h.coherent.register hregister, fun id other desc' => ?_, ?_, fun id hid => ?_⟩
  · rw [htextures, Table.get?_insert]
    constructor
    · intro hissued
      split_ifs at hissued with hid
      · cases hissued
        exact ⟨handle, by rw [hget, if_pos rfl, hid]⟩
      · obtain ⟨k, hk⟩ := (h.issued id other desc').mp hissued
        exact ⟨k, get?_register_of_some hregister hk⟩
    · rintro ⟨k, hk⟩
      rw [hget] at hk
      split_ifs at hk with hhandle
      · cases hk
        rw [if_pos rfl]
      · have hlt := h.numbered_backing hk
        rw [if_neg]
        · exact (h.issued id other desc').mpr ⟨k, hk⟩
        · rintro rfl
          exact Nat.lt_irrefl _ hlt
  · have hnew : ∀ k texture, registry.get? k = some texture →
        texture.backing ≠ ⟨d.nextId⟩ := fun k texture hk hsame =>
      absurd (h.numbered_backing hk) (by simp [hsame])
    intro k other texture another hk hother hbacking
    rw [hget] at hk hother
    split_ifs at hk hother with hhandle hhandle' hhandle'
    · rw [hhandle, hhandle']
    · cases hk
      exact absurd hbacking.symm (hnew other another hother)
    · cases hother
      exact absurd hbacking (hnew k texture hk)
    · exact h.apart k other texture another hk hother hbacking
  · rw [htextures, Table.contains, Table.get?_insert] at hid
    rw [hnext]
    split_ifs at hid with hsame
    · rw [hsame]
      exact Nat.lt_succ_self _
    · exact Nat.lt_succ_of_lt (h.numbered id hid)

/-- A target that is there and leads to a registered texture. -/
def Resolves (registry : TextureRegistry) (target : Option TargetBinding) : Prop :=
  ∃ binding texture, target = some binding ∧ registry.get? binding.texture = some texture

theorem Resolves.grows (hgrows : registry.Grows registry') {target : Option TargetBinding}
    (h : registry.Resolves target) : registry'.Resolves target := by
  obtain ⟨binding, texture, htarget, hget⟩ := h
  exact ⟨binding, texture, htarget, hgrows.get? hget⟩

/-- A target that is looked for among registered textures is found there. -/
theorem resolves_target? (hc : registry.Coherent) {fallback : String} {handle : Handle Texture}
    (hfallback : registry.find? fallback = some handle) (directives : List Directive)
    (before : Option TargetBinding) :
    registry.Resolves (Linking.target? registry fallback directives <|> before) := by
  unfold Linking.target?
  cases hnamed : Linking.namedTarget? registry directives with
  | some k =>
    obtain ⟨name, _, hname⟩ := Option.bind_eq_some_iff.mp hnamed
    obtain ⟨texture, _, hget⟩ := hc.byName?_of_find? hname
    exact ⟨⟨k, true⟩, texture, rfl, hget⟩
  | none =>
    obtain ⟨texture, _, hget⟩ := hc.byName?_of_find? hfallback
    exact ⟨⟨handle, false⟩, texture, by simp [hfallback], hget⟩

end TextureRegistry

/-! ## Engines -/

/-- The targets of an effect are there and lead to registered textures. -/
def Effect.TargetsIn (registry : TextureRegistry) (effect : Effect) : Prop :=
  ∀ t ∈ effect.techniques, registry.Resolves t.target ∧
    ∀ pass ∈ t.passes, registry.Resolves pass.target

theorem Effect.TargetsIn.grows {registry registry' : TextureRegistry}
    (hgrows : registry.Grows registry') {effect : Effect} (h : effect.TargetsIn registry) :
    effect.TargetsIn registry' :=
  fun t ht => ⟨(h t ht).1.grows hgrows, fun pass hpass => ((h t ht).2 pass hpass).grows hgrows⟩

/-- A parameter that came to life with a compiled effect holds no texture yet. -/
theorem EffectDraft.holds_install {compiler : Compiler} {d : EffectDescription}
    {draft : EffectDraft} (hcompile : compile compiler d = .ok draft) {ps : Parameters}
    {texture : Handle Texture} (h : (draft.install ps).2.Holds texture) : ps.Holds texture := by
  refine (holds_settle h).resolve_right ?_
  rintro ⟨drafted, hmem, htexture⟩
  obtain ⟨parameters, hparameters, _⟩ := compile_cases hcompile
  rw [hparameters] at hmem
  obtain ⟨p, _, rfl⟩ := List.mem_map.mp hmem
  unfold EffectDraft.draft at htexture
  simp only at htexture
  split_ifs at htexture
  cases htexture

namespace Engine

variable {e e' : Engine HeadlessDevice}

theorem Step.matches (h : e.Step e') (he : e.textures.Matches e.device) :
    e'.textures.Matches e'.device := by
  cases h with
  | note | attach | give => exact he
  | @call c hc hnothing =>
    have hsame := perform_of_makesNothing e.device hc hnothing
    simp only [withDevice, device] at he hsame ⊢
    rw [hsame]
    exact he
  | @create name desc _ _ _ _ hcreate hregister =>
    simp only [device_createTexture] at hcreate
    rcases e.device.createTexture_cases name desc with ⟨error, heq⟩ | heq <;>
      rw [heq] at hcreate <;> cases hcreate
    exact he.register rfl rfl hregister
  | @load files name path _ _ _ _ _ _ hload hregister =>
    simp only [device_loadTexture, Prod.mk.injEq] at hload
    obtain ⟨hresult, rfl, _⟩ := hload
    rcases e.device.loadTexture_cases files name path with ⟨error, heq⟩ | ⟨desc, contents, heq⟩ <;>
      rw [heq] at hresult <;> cases hresult
    rw [heq]
    exact he.register rfl rfl hregister

theorem Steps.matches (h : e.Steps e') (he : e.textures.Matches e.device) :
    e'.textures.Matches e'.device :=
  h.keep (P := fun e => e.textures.Matches e.device) (fun _ _ hstep => hstep.matches) he

/-- A texture that a parameter holds after a step was held before, or was registered. -/
theorem Step.holds (h : e.Step e') {texture : Handle Texture}
    (hholds : e'.parameters.Holds texture) :
    e.parameters.Holds texture ∨ ∃ name, e.textures.find? name = some texture := by
  cases h with
  | note | call | create | load => exact Or.inl hholds
  | attach hattach => exact Or.inl (Parameters.holds_attach hattach hholds)
  | @give name given id hfind =>
    rcases Parameters.holds_write hholds with hheld | hsame
    · exact Or.inl hheld
    · cases hsame
      exact Or.inr ⟨name, hfind⟩

/-- Registered textures, textures of the device, targets and held textures agree, but for
textures that were given by the host. -/
structure Agrees (e : Engine HeadlessDevice) (given : Handle Texture → Prop) : Prop where
  registered : e.textures.Matches e.device
  targets : ∀ handle effect, e.effects.get? handle = some effect → effect.TargetsIn e.textures
  held : ∀ texture, e.parameters.Holds texture →
    (∃ t, e.textures.get? texture = some t) ∨ given texture

variable {given : Handle Texture → Prop}

theorem Agrees.withRenderer (h : e.Agrees given) {renderer : Renderer HeadlessDevice}
    (htextures : renderer.device.textures = e.device.textures)
    (hnext : e.device.nextId ≤ renderer.device.nextId) :
    ({ e with renderer } : Engine HeadlessDevice).Agrees given :=
  ⟨h.registered.congr htextures hnext, h.targets, h.held⟩

theorem Agrees.withParameters (h : e.Agrees given) {parameters : Parameters}
    (hheld : ∀ texture, parameters.Holds texture →
      e.parameters.Holds texture ∨ (∃ name, e.textures.find? name = some texture) ∨
        given texture) :
    ({ e with parameters } : Engine HeadlessDevice).Agrees given := by
  refine ⟨h.registered, h.targets, fun texture hholds => ?_⟩
  rcases hheld texture hholds with hbefore | ⟨name, hfind⟩ | hgiven
  · exact h.held texture hbefore
  · obtain ⟨t, _, hget⟩ := h.registered.coherent.byName?_of_find? hfind
    exact Or.inl ⟨t, hget⟩
  · exact Or.inr hgiven

theorem Agrees.note (h : e.Agrees given) (notices : List Notice) : (e.note notices).Agrees given :=
  h.withRenderer rfl (Nat.le_refl _)

theorem Step.agrees (h : e.Step e') (he : e.Agrees given) : e'.Agrees given := by
  have hgrows := h.grows
  refine ⟨h.matches he.registered, fun handle effect hget => ?_, fun texture hholds => ?_⟩
  · rw [h.effects] at hget
    exact (he.targets handle effect hget).grows hgrows
  · have hresolved : (∃ t, e.textures.get? texture = some t) ∨ given texture := by
      rcases h.holds hholds with hbefore | ⟨name, hfind⟩
      · exact he.held texture hbefore
      · obtain ⟨t, _, hget⟩ := he.registered.coherent.byName?_of_find? hfind
        exact Or.inl ⟨t, hget⟩
    exact hresolved.imp_left fun ⟨t, hget⟩ => ⟨t, hgrows.get? hget⟩

theorem Steps.agrees (h : e.Steps e') (he : e.Agrees given) : e'.Agrees given :=
  h.keep (P := fun e => e.Agrees given) (fun _ _ hstep => hstep.agrees) he

theorem createVirtual_agrees (he : e.Agrees given) (name : String) (type : ParameterType) :
    (e.createVirtual name type).2.Agrees given := by
  unfold createVirtual
  rcases hcreate : e.parameters.createVirtual name type with error | ⟨id, parameters⟩
  · exact he
  · have hparameters : ({ e with parameters } : Engine HeadlessDevice).Agrees given :=
      he.withParameters fun texture hholds =>
        Or.inl (Parameters.holds_createVirtual hcreate hholds)
    exact hparameters.note _

/-! ## Loading and unloading -/

/-- Linking leads passes and techniques to registered textures. -/
theorem link_targetsIn (hmatches : e.textures.Matches e.device) (hstaged : e.Staged)
    (effect : Effect) : (e.link effect).1.TargetsIn (e.link effect).2.2.textures := by
  obtain ⟨lastPass, hpass⟩ := hstaged Staging.lastPass (by simp [Staging.all])
  obtain ⟨lastShader, hshader⟩ := hstaged Staging.lastShader (by simp [Staging.all])
  have hchosen := e.chosen_steps effect
  have hcoherent := (hchosen.matches hmatches).coherent
  have hrest : (e.chosen effect).2.engine.Steps (e.link effect).2.2 :=
    (Linking.aim_steps _ _).trans (Linking.note_steps _ _)
  intro t ht
  rw [link_fst] at ht
  obtain ⟨t', _, rfl⟩ := List.mem_map.mp ht
  refine ⟨(TextureRegistry.resolves_target? hcoherent (hchosen.grows.find? hshader) _ _).grows
    hrest.grows, fun pass hmem => ?_⟩
  obtain ⟨pass', _, rfl⟩ := List.mem_map.mp hmem
  exact (TextureRegistry.resolves_target? hcoherent (hchosen.grows.find? hpass) _ _).grows
    hrest.grows

theorem load_agrees (he : e.Agrees given) (hstaged : e.Staged) (name text : String) :
    (e.load name text).2.Agrees given := by
  rcases e.load_cases name text with hsteps | ⟨_, draft, e₁, hcompile, hsteps₁, hparameters, heq⟩
  · exact hsteps.agrees he
  · rw [heq]
    have hagrees₁ := hsteps₁.agrees he
    have hinstalled : ({ e₁ with parameters := (draft.install e.parameters).2 } :
        Engine HeadlessDevice).Agrees given := by
      refine hagrees₁.withParameters fun texture hholds => Or.inl ?_
      rw [hparameters]
      exact EffectDraft.holds_install hcompile hholds
    have hstaged₁ : ({ e₁ with parameters := (draft.install e.parameters).2 } :
        Engine HeadlessDevice).Staged := hsteps₁.staged hstaged
    have hlinked := (link_steps { e₁ with parameters := (draft.install e.parameters).2 }
      (draft.install e.parameters).1).agrees hinstalled
    refine ⟨hlinked.registered, fun handle effect hget => ?_, hlinked.held⟩
    simp only [insert, Arena.get?_insert] at hget
    split_ifs at hget
    · cases hget
      exact link_targetsIn hinstalled.registered hstaged₁ _
    · exact hlinked.targets handle effect hget

theorem unload_agrees (he : e.Agrees given) (handle : Handle Effect) :
    (e.unload handle).2.Agrees given := by
  unfold unload
  cases e.effects.get? handle with
  | none => exact he
  | some effect =>
    refine ⟨he.registered, fun other effect' hget => ?_, fun texture hholds =>
      he.held texture (Parameters.holds_releaseAll hholds)⟩
    simp only [Arena.get?_erase] at hget
    split_ifs at hget
    exact he.targets other effect' hget

end Engine

/-! ## Attempts that fail -/

/-- The registered textures and those of the device are the same. -/
def Engine.SameTextures (e e' : Engine HeadlessDevice) : Prop :=
  e'.textures = e.textures ∧ e'.device.textures = e.device.textures

namespace Engine

variable {e : Engine HeadlessDevice} {name : String}

theorem createRegistered_of_error (hfree : e.textures.contains name = false) {desc : TextureDesc}
    {error : LinkError} (h : (e.createRegistered name desc).1 = .error error) :
    e.SameTextures (e.createRegistered name desc).2 := by
  unfold createRegistered at h ⊢
  simp only [device_createTexture] at h ⊢
  rcases e.device.createTexture_cases name desc with ⟨e', heq⟩ | heq
  · simp only [heq]
    exact ⟨rfl, rfl⟩
  · obtain ⟨handle, textures, hregister⟩ :=
      TextureRegistry.exists_register hfree ⟨e.device.nextId⟩ desc
    simp [heq, registerTexture, withDevice, hregister] at h

/-- A texture that could not be created is neither on the device nor registered. -/
theorem createTexture_of_error {desc : TextureDesc} {error : LinkError}
    (h : (e.createTexture name desc).1 = .error error) :
    e.SameTextures (e.createTexture name desc).2 := by
  unfold createTexture at h ⊢
  split_ifs at h ⊢ with hname
  · exact ⟨rfl, rfl⟩
  · exact createRegistered_of_error (Bool.eq_false_iff.mpr hname) h

end Engine

namespace Linking

variable {l : Linking HeadlessDevice} {name : String}

/-- Loading a file leaves no problems, and if there is no texture nothing was left. -/
theorem loadFile_cases (hfree : l.engine.textures.contains name = false) (path : String) :
    (l.loadFile name path).2.errors = l.errors ∧
      ((l.loadFile name path).1 = none →
        l.engine.SameTextures (l.loadFile name path).2.engine) := by
  unfold loadFile
  simp only [device_loadTexture]
  rcases l.engine.device.loadTexture_cases l.engine.compiler.files name path with
    ⟨e, heq⟩ | ⟨desc, contents, heq⟩
  · simp only [heq]
    exact ⟨rfl, fun _ => ⟨rfl, rfl⟩⟩
  · obtain ⟨handle, textures, hregister⟩ :=
      TextureRegistry.exists_register hfree ⟨l.engine.device.nextId⟩ desc
    simp only [heq, Engine.registerTexture, note, Engine.note, Engine.withDevice, hregister]
    exact ⟨trivial, fun h => by cases h⟩

theorem load_cases (hfree : l.engine.textures.contains name = false) :
    (l.load name).2.errors = l.errors ∧
      ((l.load name).1 = none → l.engine.SameTextures (l.load name).2.engine) := by
  unfold load
  cases l.engine.compiler.resolve? name with
  | none => exact ⟨rfl, fun _ => ⟨rfl, rfl⟩⟩
  | some path => exact loadFile_cases hfree path

theorem giveBlank_cases (effect : String) (p : EffectParameter)
    (hfree : l.engine.textures.contains name = false) (blank : BlankTarget) :
    (l.giveBlank effect p name blank).errors = l.errors ∨
      l.engine.SameTextures (l.giveBlank effect p name blank).engine := by
  cases blank with
  | error fault => exact Or.inr ⟨rfl, rfl⟩
  | ok desc =>
    have hfailed : ∀ error, (l.engine.createRegistered name desc).1 = .error error →
        l.engine.SameTextures (l.engine.createRegistered name desc).2 :=
      fun _ => Engine.createRegistered_of_error hfree
    simp only [giveBlank]
    rcases hc : l.engine.createRegistered name desc with ⟨error | handle, engine⟩
    · rw [hc] at hfailed
      exact Or.inr (hfailed error rfl)
    · exact Or.inl rfl

/-- A sampler for which a problem is reported leaves no texture behind. -/
theorem resolveSampler_of_errors {effect : String} {p : EffectParameter}
    (h : (resolveSampler effect l p).errors ≠ l.errors) :
    l.engine.SameTextures (resolveSampler effect l p).engine := by
  unfold resolveSampler at h ⊢
  split_ifs at h ⊢
  · exact absurd rfl h
  · cases hwanted : Directive.texture? p.directives with
    | none => exact ⟨rfl, rfl⟩
    | some wanted =>
      obtain ⟨name, blank⟩ := wanted
      simp only [hwanted] at h ⊢
      cases hfind : l.engine.textures.find? name with
      | some handle =>
        simp only [hfind] at h
        exact absurd rfl h
      | none =>
        simp only [hfind] at h ⊢
        have hfree := (l.engine.textures.contains_eq_false_iff name).mpr hfind
        obtain ⟨herrors, hsame⟩ := load_cases hfree
        rcases hload : l.load name with ⟨_ | handle, l'⟩
        · rw [hload] at herrors hsame
          obtain ⟨htextures, hdevice⟩ := hsame rfl
          simp only [hload] at h htextures hdevice ⊢
          have hfree' : l'.engine.textures.contains name = false := htextures ▸ hfree
          rcases giveBlank_cases effect p hfree' blank with hnone | ⟨htextures', hdevice'⟩
          · exact absurd (hnone.trans herrors) h
          · exact ⟨htextures'.trans htextures, hdevice'.trans hdevice⟩
        · rw [hload] at herrors
          simp only [hload] at h
          exact absurd herrors h

end Linking

/-! ## Runs of a host -/

theorem Session.holds_written {parameters : Parameters} {writes : List (ParameterId × Scalars)}
    {texture : Handle Texture} (h : (written parameters writes).Holds texture) :
    parameters.Holds texture := by
  unfold written at h
  induction writes generalizing parameters with
  | nil => exact h
  | cons w rest ih => exact (Parameters.holds_write (ih h)).resolve_right fun hsame => by cases hsame

/-- What registering a texture keeps. -/
def TextureRegistry.Kept (P : TextureRegistry → Prop) : Prop :=
  ∀ {r r' : TextureRegistry} {name : String} {backing : TextureId} {desc : TextureDesc}
    {handle : Handle Texture}, r.register name backing desc = .ok (handle, r') → P r → P r'

namespace Engine

variable {D : Type} [Device D] {P : TextureRegistry → Prop}

theorem Steps.textures_keep (hP : TextureRegistry.Kept P) {e e' : Engine D} (h : e.Steps e')
    (he : P e.textures) : P e'.textures := by
  refine h.keep (P := fun e => P e.textures) (fun e₁ e₂ hstep h₁ => ?_) he
  cases hstep with
  | note | call | attach | give => exact h₁
  | create _ hregister | load _ hregister => exact hP hregister h₁

theorem load_textures_keep (hP : TextureRegistry.Kept P) {e : Engine D} (he : P e.textures)
    (name text : String) : P (e.load name text).2.textures := by
  rcases e.load_cases name text with hsteps | ⟨_, draft, e₁, _, hsteps₁, _, heq⟩
  · exact hsteps.textures_keep hP he
  · rw [heq]
    have hlinked := link_steps { e₁ with parameters := (draft.install e.parameters).2 }
      (draft.install e.parameters).1
    exact hlinked.textures_keep hP (hsteps₁.textures_keep hP he)

end Engine

namespace Host

/-- What registering a texture keeps of the registered ones, everything a host does keeps. -/
theorem step_textures_keep {D A : Type} [Device D] {P : TextureRegistry → Prop}
    (hP : TextureRegistry.Kept P) {host : Host D} (h : P host.engine.textures) (act : A → D → D)
    (op : HostOp D A) : P (host.step act op).engine.textures := by
  have hchange := host.step_change act op
  generalize (host.step act op).engine = e', (host.step act op).held = held' at hchange ⊢
  cases hchange with
  | steps hsteps => exact hsteps.textures_keep hP h
  | load notices name text =>
    exact Engine.load_textures_keep hP (e := host.engine.note notices) h name text
  | unload handle notices =>
    have hsame : ∀ e : Engine D, (e.unload handle).2.textures = e.textures := fun e => by
      unfold Engine.unload
      cases e.effects.get? handle <;> rfl
    simp only [Engine.note, hsame]
    exact h
  | connect | stays | retain | release | call | act => exact h
  | createVirtual name type =>
    obtain ⟨parameters, notices, heq⟩ := host.engine.tunes_createVirtual name type
    rw [heq]
    exact h
  | draw _ writes geometry =>
    obtain ⟨renderer, heq, _⟩ := Session.drawFrame_steps
      { host.engine with parameters := Session.written host.engine.parameters writes } geometry
    rw [heq]
    exact h

/-- Whatever a host does, a name that is registered stays with its texture. -/
theorem step_grows {D A : Type} [Device D] (host : Host D) (act : A → D → D) (op : HostOp D A) :
    host.engine.textures.Grows (host.step act op).engine.textures :=
  step_textures_keep (P := host.engine.textures.Grows)
    (fun hregister h => h.trans (TextureRegistry.grows_register hregister)) (.refl _) act op

theorem run_grows {D A : Type} [Device D] (host : Host D) (act : A → D → D)
    (ops : List (HostOp D A)) :
    host.engine.textures.Grows (host.run act ops).engine.textures :=
  run_keep (P := fun later => host.engine.textures.Grows later.engine.textures)
    (fun later op _ h => h.trans (later.step_grows act op)) (.refl _)

variable {host : Host HeadlessDevice} {given : Handle Texture → Prop}

theorem step_agrees (h : host.engine.Agrees given) (hstaged : host.engine.Staged)
    {op : HostOp HeadlessDevice HeadlessAct} (hop : op.calls DeviceCall.leavesTextures = true)
    (hgiven : ∀ texture, op.Gives texture → given texture) :
    (host.step HeadlessAct.perform op).engine.Agrees given := by
  have hdraws : ∀ c : DeviceCall HeadlessDevice, c.draws = true → c.leavesTextures = true :=
    fun _ => DeviceCall.leavesTextures_of_draws
  have hbinds : ∀ c : DeviceCall HeadlessDevice, c.binds = true → c.leavesTextures = true :=
    fun c hc => hdraws c (DeviceCall.draws_of_binds hc)
  have hchange := host.step_change HeadlessAct.perform op
  generalize (host.step HeadlessAct.perform op).engine = e',
    (host.step HeadlessAct.perform op).held = held' at hchange ⊢
  cases hchange with
  | steps hsteps => exact hsteps.agrees h
  | load notices name text => exact Engine.load_agrees (h.note notices) hstaged name text
  | unload handle notices =>
    have hfreed := Renderer.unbindPass_steps host.engine.renderer
    have hunbound := h.withRenderer (hfreed.textures hbinds) hfreed.outlives.nextId_le
    exact (Engine.unload_agrees hunbound handle).note notices
  | @connect id name texture hfind =>
    have hwritten : (host.engine.write id (.texture (some texture))).Agrees given :=
      h.withParameters fun other hholds => by
        refine (Parameters.holds_write hholds).imp_right fun hsame => Or.inl ⟨name, ?_⟩
        cases hsame
        exact hfind
    have hconnected : host.engine.renderer.Steps (host.engine.connect id texture).2.renderer :=
      Renderer.connected_steps host.engine.renderer _ id
    exact hwritten.withRenderer (hconnected.textures hdraws) hconnected.outlives.nextId_le
  | createVirtual name type => exact Engine.createVirtual_agrees h name type
  | stays _ hholds =>
    exact h.withParameters fun texture hheld => (hholds texture hheld).imp_right fun hgives =>
      Or.inr (hgiven texture hgives)
  | retain => exact h.withParameters fun texture hheld => Or.inl (Parameters.holds_retain hheld)
  | release => exact h.withParameters fun texture hheld => Or.inl (Parameters.holds_release hheld)
  | draw _ writes geometry =>
    obtain ⟨renderer, heq, hsteps⟩ := Session.drawFrame_steps
      { host.engine with parameters := Session.written host.engine.parameters writes } geometry
    rw [heq]
    have hwritten : ({ host.engine with
        parameters := Session.written host.engine.parameters writes } :
          Engine HeadlessDevice).Agrees given :=
      h.withParameters fun texture hheld => Or.inl (Session.holds_written hheld)
    exact hwritten.withRenderer (hsteps.textures hdraws) hsteps.outlives.nextId_le
  | @call c hcall =>
    subst hcall
    exact h.withRenderer (textures_perform host.engine.device hop)
      (outlives_perform host.engine.device c).nextId_le
  | @act a =>
    have htextures : (a.perform host.engine.device).textures = host.engine.device.textures := by
      cases a <;> rfl
    exact h.withRenderer htextures (a.outlives host.engine.device).nextId_le

/-- Whatever a host does that makes no textures of the device itself, the registered
textures, those of the device and those that effects and parameters refer to agree, a name
stays with its texture for good, and an attempt to make a texture that fails changes
neither the registered textures nor those of the device. -/
theorem textures_agree {device : HeadlessDevice} (hempty : device.textures = ∅)
    {settings : Settings} {compiler : Compiler} {start : Int} {session : Session HeadlessDevice}
    {engine : Engine HeadlessDevice}
    (hcreate : Session.create device settings compiler start = (.ok session, engine))
    {ops : List (HostOp HeadlessDevice HeadlessAct)}
    (hops : ∀ op ∈ ops, op.calls DeviceCall.leavesTextures = true) {host : Host HeadlessDevice}
    (hrun : ({ session } : Host HeadlessDevice).run HeadlessAct.perform ops = host) :
    host.engine.Agrees (fun texture => ∃ op ∈ ops, op.Gives texture) ∧
      host.engine.Staged ∧
      (∀ later, host.engine.textures.Grows (host.run HeadlessAct.perform later).engine.textures) ∧
      (∀ name desc error, (host.engine.createTexture name desc).1 = .error error →
        host.engine.SameTextures (host.engine.createTexture name desc).2) ∧
      (∀ (l : Linking HeadlessDevice) name, l.engine.textures.find? name = none →
        (l.load name).1 = none → l.engine.SameTextures (l.load name).2.engine) ∧
      ∀ (l : Linking HeadlessDevice) effect p,
        (Linking.resolveSampler effect l p).errors ≠ l.errors →
          l.engine.SameTextures (Linking.resolveSampler effect l p).engine := by
  have hbare : (Session.bareEngine device settings compiler).Agrees
      (fun texture => ∃ op ∈ ops, op.Gives texture) :=
    ⟨TextureRegistry.matches_empty hempty, fun handle effect hget => (by cases hget),
      fun texture hholds => absurd hholds (Parameters.not_holds_empty texture)⟩
  have hset := Session.create_keep (fun _ _ hstep h => Engine.Step.agrees hstep h)
    (fun _ name type h => Engine.createVirtual_agrees h name type) hcreate hbare
  have hstaged : session.engine.Staged := by
    obtain ⟨e, _, hstaged, e', notices, he', heq⟩ := Session.create_cases hcreate
    rw [heq]
    rcases he' with rfl | rfl
    · exact hstaged
    · exact Session.registerBuiltins_keep (P := Engine.Staged)
        (fun e name type h => (e.tunes_createVirtual name type).staged h) hstaged
  have hkept : host.engine.Agrees (fun texture => ∃ op ∈ ops, op.Gives texture) ∧
      host.engine.Staged := by
    rw [← hrun]
    refine run_keep (P := fun host => host.engine.Agrees _ ∧ host.engine.Staged)
      (fun host op hop h => ⟨step_agrees h.1 h.2 (hops op hop)
        fun texture hgives => ⟨op, hop, hgives⟩, fun name hname => ?_⟩) ⟨hset, hstaged⟩
    obtain ⟨handle, hfind⟩ := h.2 name hname
    exact ⟨handle, (host.step_grows HeadlessAct.perform op).find? hfind⟩
  exact ⟨hkept.1, hkept.2, fun later => host.run_grows HeadlessAct.perform later,
    fun name desc error h => Engine.createTexture_of_error h,
    fun l name hfree h =>
      (Linking.load_cases ((l.engine.textures.contains_eq_false_iff name).mpr hfree)).2 h,
    fun l effect p h => Linking.resolveSampler_of_errors h⟩

/-- An effect with a sampler for which a blank texture can be made. -/
def glowing : String :=
  "[\"fx\", [[\"s\", \"sampler2D\", [], \x7b\"texture\": \"glow\", \"size\": [2, 2], " ++
  "\"format\": \"rgba8\"\x7d]], [[\"t\", \x7b\x7d, [[\"p\", \x7b\x7d, null, " ++
  "[\"wgsl\", \"main\", \"s\"]]]]]]"

/-- A blank texture that is made for a sampler is registered, and no other is made under its
name. -/
theorem textures_agree_blank :
    ∃ (session : Session HeadlessDevice) (engine : Engine HeadlessDevice)
      (host : Host HeadlessDevice),
      Session.create (HeadlessDevice.ofSize 4 4) { builtinParameters := false }
          (Session.searching {} {}) 0 = (.ok session, engine) ∧
        ({ session } : Host HeadlessDevice).run HeadlessAct.perform
          [.load "fx.json" glowing] = host ∧
        host.engine.device.textures.entries.map (·.2.name) = Staging.all ++ ["glow"] ∧
        host.engine.textures.Matches host.engine.device ∧
        ∃ error, (host.engine.createTexture "glow" (.target 4 4 .rgba8)).1 = .error error ∧
          host.engine.SameTextures (host.engine.createTexture "glow" (.target 4 4 .rgba8)).2 := by
  have hmade : ((Session.create (HeadlessDevice.ofSize 4 4) { builtinParameters := false }
        (Session.searching {} {}) 0).1.toOption.map fun session =>
      let host := ({ session } : Host HeadlessDevice).run HeadlessAct.perform
        [.load "fx.json" glowing]
      (host.engine.device.textures.entries.map (·.2.name), host.engine.textures.contains "glow")) =
      some (Staging.all ++ ["glow"], true) := by decide +kernel
  obtain ⟨session, hsession, hseen⟩ := Option.map_eq_some_iff.mp hmade
  obtain ⟨hnames, htaken⟩ := Prod.mk.inj hseen
  have hcreate := eq_ok_of_toOption hsession
  have hops : ∀ op ∈ [(.load "fx.json" glowing : HostOp HeadlessDevice HeadlessAct)],
      op.calls DeviceCall.leavesTextures = true := by simp [HostOp.calls]
  obtain ⟨hagrees, _, _, hfailed, _⟩ :=
    textures_agree (rfl : (HeadlessDevice.ofSize 4 4).textures = ∅) hcreate hops rfl
  have hduplicate : ((({ session } : Host HeadlessDevice).run HeadlessAct.perform
      [.load "fx.json" glowing]).engine.createTexture "glow" (.target 4 4 .rgba8)).1 =
      .error (.duplicateTexture "glow") := by
    unfold Engine.createTexture
    rw [if_pos htaken]
  exact ⟨session, _, _, hcreate, rfl, hnames, hagrees.registered, _, hduplicate,
    hfailed "glow" _ _ hduplicate⟩

end Host

end ShaderEffects
