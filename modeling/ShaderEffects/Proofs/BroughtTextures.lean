import ShaderEffects.Proofs.IndependentLinks

/-!
# Which samplers find a texture

A sampler that was handed none finds the texture of the name it asks for if this is registered,
or if the image file of the name can be loaded. Otherwise it finds one only if it, or a sampler
before it in its effect, brings a blank one of this name.
-/
namespace ShaderEffects

/-! ## What there is to find -/

namespace Engine

variable {D : Type} [Device D]

omit [Device D] in
/-- The texture that a parameter of an effect holds. -/
def texture? (e : Engine D) (ep : EffectParameter) : Option (Handle Texture) :=
  (e.parameters.get? ep.id).bind (·.texture)

omit [Device D] in
/-- The name of the texture that a parameter of an effect holds. -/
def textureName? (e : Engine D) (ep : EffectParameter) : Option String :=
  (e.texture? ep).bind e.textures.name?

/-- There is an image file of this name, and the device loads it. -/
def Loads (e : Engine D) (name : String) : Prop :=
  ∃ path, e.compiler.resolve? name = some path ∧
    ∃ made, (Device.loadTexture e.device e.compiler.files name path).1 = .ok made

/-- Annotations describe a blank target, and the device makes it. -/
def Paints (e : Engine D) (name : String) (blank : BlankTarget) : Prop :=
  ∃ desc, blank = .ok desc ∧
    ∃ backing, (Device.createTexture e.device name desc).1 = .ok backing

/-- A texture of this name is registered or can be loaded. -/
def Finds (e : Engine D) (name : String) : Prop :=
  e.textures.contains name = true ∨ e.Loads name

omit [Device D] in
/-- A new sampler that is handed no texture and asks for one of this name. -/
structure Seeks (e : Engine D) (ep : EffectParameter) (name : String) (blank : BlankTarget) :
    Prop where
  sampler : ep.type.category = .sampler
  asks : Directive.texture? ep.directives = some (name, blank)
  handed : e.parameters.handed ep = none

/-- A new sampler that seeks a texture of this name, which can be made as its own annotations
describe it. -/
def Brings (e : Engine D) (ep : EffectParameter) (name : String) : Prop :=
  ∃ blank, e.Seeks ep name blank ∧ e.Paints name blank

/-- A name that leads to a texture once these samplers of a new effect had their turn. -/
def Reaches (e : Engine D) (row : List EffectParameter) (name : String) : Prop :=
  e.Finds name ∨ ∃ ep ∈ row, e.Brings ep name

variable {e e' : Engine HeadlessDevice}

theorem loads_iff (hcompiler : e'.compiler = e.compiler) (hdevice : e.device.AnswersAs e'.device)
    (name : String) : e'.Loads name ↔ e.Loads name := by
  unfold Loads
  rw [hcompiler]
  refine exists_congr fun path => and_congr_right fun _ => ?_
  simp only [HeadlessDevice.device_loadTexture]
  rcases hdevice.loadTexture e.compiler.files name path with ⟨error, heq, heq'⟩ |
    ⟨id, id', desc, one, other, heq, heq', _⟩
  · rw [heq, heq']
  · rw [heq, heq']
    exact ⟨fun _ => ⟨_, rfl⟩, fun _ => ⟨_, rfl⟩⟩

theorem paints_iff (hdevice : e.device.AnswersAs e'.device) (name : String) (blank : BlankTarget) :
    e'.Paints name blank ↔ e.Paints name blank := by
  unfold Paints
  refine exists_congr fun desc => and_congr_right fun _ => ?_
  simp only [HeadlessDevice.device_createTexture]
  rcases hdevice.createTexture name desc with ⟨error, heq, heq'⟩ |
    ⟨id, id', one, other, heq, heq', _⟩
  · rw [heq, heq']
  · rw [heq, heq']
    exact ⟨fun _ => ⟨_, rfl⟩, fun _ => ⟨_, rfl⟩⟩

end Engine

/-! ## One sampler -/

namespace Linking

variable {l l' : Linking HeadlessDevice} {name : String}

/-- What comes of looking for a texture that a sampler is to be given, whether it is there
or not. -/
structure Sought (l l' : Linking HeadlessDevice) (id : ParameterId) (name : String)
    (there : Prop) : Prop where
  others : ∀ other, other ≠ name →
    l'.engine.textures.find? other = l.engine.textures.find? other
  found : there → ∃ texture, l'.engine.textures.find? name = some texture ∧
    l'.engine.parameters = l.engine.parameters.write id (.texture (some texture))
  missed : ¬ there → l'.engine.textures.find? name = none ∧
    l'.engine.parameters = l.engine.parameters

/-- What comes of a load if its texture is registered under a name. -/
def Registers (l : Linking HeadlessDevice) (name : String)
    (result : Option (Handle Texture) × Linking HeadlessDevice) : Prop :=
  ∃ backing desc texture, result.1 = some texture ∧
    l.engine.textures.register name backing desc = .ok (texture, result.2.engine.textures)

/-- An image file is loaded and registered, or nothing is. -/
theorem loadFile_outcome (hfree : l.engine.textures.contains name = false) (path : String) :
    ((∃ made, (Device.loadTexture l.engine.device l.engine.compiler.files name path).1 = .ok made) ∧
        l.Registers name (l.loadFile name path)) ∨
      ((¬ ∃ made, (Device.loadTexture l.engine.device l.engine.compiler.files name path).1 =
          .ok made) ∧
        (l.loadFile name path).1 = none ∧
          (l.loadFile name path).2.engine.textures = l.engine.textures) := by
  unfold loadFile
  rcases hl : Device.loadTexture l.engine.device l.engine.compiler.files name path with
    ⟨error | ⟨backing, desc⟩, device, notices⟩
  · exact Or.inr ⟨by simp, rfl, rfl⟩
  · obtain ⟨texture, textures, hr⟩ := TextureRegistry.exists_register hfree backing desc
    refine Or.inl ⟨⟨_, rfl⟩, backing, desc, texture, ?_⟩
    simp only [Engine.registerTexture, Engine.withDevice, Engine.note, note, hr]
    exact ⟨trivial, trivial⟩

theorem load_outcome (hfree : l.engine.textures.contains name = false) :
    (l.engine.Loads name ∧ l.Registers name (l.load name)) ∨
      (¬ l.engine.Loads name ∧ (l.load name).1 = none ∧
        (l.load name).2.engine.textures = l.engine.textures) := by
  unfold load Engine.Loads
  cases l.engine.compiler.resolve? name with
  | none => exact Or.inr ⟨by simp, rfl, rfl⟩
  | some path => simpa using loadFile_outcome hfree path

theorem giveBlank_sought (effect : String) (ep : EffectParameter)
    (hfree : l.engine.textures.contains name = false) (blank : BlankTarget) :
    l.Sought (l.giveBlank effect ep name blank) ep.id name (l.engine.Paints name blank) := by
  have hnone := (l.engine.textures.contains_eq_false_iff name).mp hfree
  unfold Engine.Paints
  cases blank with
  | error fault => exact ⟨fun _ _ => rfl, by rintro ⟨_, ⟨⟩, _⟩, fun _ => ⟨hnone, rfl⟩⟩
  | ok desc =>
    simp only [giveBlank]
    unfold Engine.createRegistered
    rcases hc : Device.createTexture l.engine.device name desc with ⟨error | backing, device⟩
    · refine ⟨fun _ _ => rfl, ?_, fun _ => ⟨hnone, rfl⟩⟩
      rintro ⟨desc', hdesc, backing, hbacking⟩
      cases hdesc
      rw [hc] at hbacking
      cases hbacking
    · obtain ⟨texture, textures, hr⟩ := TextureRegistry.exists_register hfree backing desc
      simp only [Engine.registerTexture, Engine.withDevice, hr]
      refine ⟨fun other hother => ?_, fun _ => ⟨texture, ?_, rfl⟩,
        fun hnot => absurd ⟨desc, rfl, backing, congrArg Prod.fst hc⟩ hnot⟩
      · exact (TextureRegistry.find?_register_iff hr other).trans (if_neg hother)
      · exact TextureRegistry.find?_register_self hr

theorem fetch_sought (effect : String) (ep : EffectParameter)
    (hfree : l.engine.textures.contains name = false) (blank : BlankTarget) :
    l.Sought (l.fetch effect ep name blank) ep.id name
      (l.engine.Loads name ∨ l.engine.Paints name blank) := by
  have hquiet := (load_quiet hfree).1
  have hanswers := (load_steps hfree).1.answersAs
  have houtcome := load_outcome hfree
  unfold fetch
  rcases hl : l.load name with ⟨_ | texture, l₁⟩ <;> rw [hl] at hquiet hanswers houtcome
  · rcases houtcome with ⟨_, _, _, _, hnone, _⟩ | ⟨hnot, _, htextures⟩
    · cases hnone
    · have hblank := giveBlank_sought effect ep
        ((congrArg (·.contains name) htextures).trans hfree) blank
      refine ⟨fun other hother => ?_, fun hthere => ?_, fun hmissing => ?_⟩
      · rw [hblank.others other hother, htextures]
      · have hpaints := (Engine.paints_iff hanswers name blank).mpr (hthere.resolve_left hnot)
        obtain ⟨texture, hfind, hwrite⟩ := hblank.found hpaints
        exact ⟨texture, hfind, by rw [hwrite, hquiet]⟩
      · have hnone := hblank.missed fun hpaints =>
          hmissing (Or.inr ((Engine.paints_iff hanswers name blank).mp hpaints))
        exact ⟨hnone.1, hnone.2.trans hquiet⟩
  · rcases houtcome with ⟨hloads, backing, desc, texture', heq, hr⟩ | ⟨_, hnone, _⟩
    · cases heq
      refine ⟨fun other hother => ?_, fun _ => ⟨texture, ?_, ?_⟩,
        fun hmissing => absurd (Or.inl hloads) hmissing⟩
      · exact (TextureRegistry.find?_register_iff hr other).trans (if_neg hother)
      · exact TextureRegistry.find?_register_self hr
      · simp only [give, Engine.write]
        rw [hquiet]
    · cases hnone

/-- A sampler that lacks a texture is given the one of its name wherever that comes from. -/
theorem resolveSampler_sought (effect : String) (l : Linking HeadlessDevice)
    {ep : EffectParameter} {blank : BlankTarget} (hsampler : ep.type.category = .sampler)
    (hasks : Directive.texture? ep.directives = some (name, blank))
    (hheld : l.engine.texture? ep = none) :
    l.Sought (resolveSampler effect l ep) ep.id name
      (l.engine.Finds name ∨ l.engine.Paints name blank) := by
  have hskip : ¬ (ep.type.category ≠ .sampler ∨ (l.heldTexture? ep.id).isSome) := by
    rintro (hnot | hsome)
    · exact hnot hsampler
    · change (l.engine.texture? ep).isSome at hsome
      rw [hheld] at hsome
      cases hsome
  rw [resolveSampler_eq, if_neg hskip, hasks]
  unfold Engine.Finds
  simp only
  cases hfind : l.engine.textures.find? name with
  | some texture =>
    have hthere := TextureRegistry.contains_of_find? hfind
    exact ⟨fun _ _ => rfl, fun _ => ⟨texture, hfind, rfl⟩,
      fun hmissing => absurd (Or.inl (Or.inl hthere)) hmissing⟩
  | none =>
    have hfree := (l.engine.textures.contains_eq_false_iff name).mpr hfind
    simpa only [hfree, Bool.false_eq_true, false_or] using fetch_sought effect ep hfree blank

/-- Any other parameter is passed over. -/
theorem resolveSampler_skip (effect : String) (l : Linking HeadlessDevice) {ep : EffectParameter}
    (h : ∀ name blank, ep.type.category = .sampler →
      Directive.texture? ep.directives = some (name, blank) → l.engine.texture? ep ≠ none) :
    resolveSampler effect l ep = l := by
  rcases resolveSampler_outcome effect l ep with ⟨_, heq⟩ | ⟨⟨hsampler, hasks, hheld⟩, _⟩
  · exact heq
  · obtain ⟨⟨name, blank⟩, hwanted⟩ := Option.isSome_iff_exists.mp hasks
    exact absurd hheld (h name blank hsampler hwanted)

end Linking

/-! ## A row of samplers -/

namespace Engine

/-- What one sampler of a new effect ends up with, where `there` tells which names lead to a
texture by the time it is its turn. -/
structure Settles (base after : Engine HeadlessDevice) (there : String → Prop)
    (ep : EffectParameter) : Prop where
  found : ∀ name blank, base.Seeks ep name blank → there name →
    ∃ texture, after.textures.find? name = some texture ∧ after.texture? ep = some texture
  missed : ∀ name blank, base.Seeks ep name blank → ¬ there name → after.texture? ep = none
  kept : (∀ name blank, ¬ base.Seeks ep name blank) →
    after.texture? ep = base.parameters.handed ep

/-- What is settled stays so while more textures are registered. -/
theorem Settles.grows {base e e' : Engine HeadlessDevice} {there there' : String → Prop}
    {ep : EffectParameter} (h : base.Settles e there ep) (hgrows : e.textures.Grows e'.textures)
    (hsame : e'.texture? ep = e.texture? ep) (hthere : ∀ name, there' name ↔ there name) :
    base.Settles e' there' ep where
  found := fun name blank hseeks hname => by
    obtain ⟨texture, hfind, hheld⟩ := h.found name blank hseeks ((hthere name).mp hname)
    exact ⟨texture, hgrows.find? hfind, hsame.trans hheld⟩
  missed := fun name blank hseeks hname =>
    hsame.trans (h.missed name blank hseeks fun hno => hname ((hthere name).mpr hno))
  kept := fun hnot => hsame.trans (h.kept hnot)

end Engine

namespace Linking

/-- A link of a new effect that still has the samplers of a row to resolve. Its engine came
from `base`. -/
structure Awaits (base : Engine HeadlessDevice) (row : List EffectParameter)
    (l : Linking HeadlessDevice) : Prop where
  compiler : l.engine.compiler = base.compiler
  device : base.device.AnswersAs l.engine.device
  leaves : l.engine.parameters.Leaves row
  held : ∀ ep ∈ row, l.engine.texture? ep = base.parameters.handed ep

/-- A texture of this name is registered by now, or can be loaded. -/
def Knows (base : Engine HeadlessDevice) (l : Linking HeadlessDevice) (name : String) : Prop :=
  l.engine.textures.contains name = true ∨ base.Loads name

section awaits

variable {base : Engine HeadlessDevice} {l : Linking HeadlessDevice} {ep : EffectParameter}
  {rest row : List EffectParameter}

theorem Awaits.resolveSampler (h : Awaits base (ep :: rest) l) (effect : String) :
    Awaits base rest (resolveSampler effect l ep) := by
  have hsteps := resolveSampler_steps effect l ep
  obtain ⟨hfills, _⟩ := resolveSampler_fills effect l h.leaves.head
  refine ⟨hsteps.compiler.trans h.compiler, ?_, h.leaves.fills hfills, fun other hother => ?_⟩
  · have hanswers := hsteps.answersAs
    exact ⟨hanswers.lost.trans h.device.lost,
      hanswers.refusedProfiles.trans h.device.refusedProfiles⟩
  · unfold Engine.texture?
    rw [hfills.get?_rest h.leaves hother]
    exact h.held other (List.mem_cons_of_mem ep hother)

theorem Awaits.finds_iff (h : Awaits base row l) (name : String) :
    l.engine.Finds name ↔ Knows base l name :=
  or_congr_right (Engine.loads_iff h.compiler h.device name)

/-- A sampler that seeks no texture is passed over, and brings none. -/
theorem Awaits.skips (h : Awaits base (ep :: rest) l) (effect : String)
    (hnot : ∀ name blank, ¬ base.Seeks ep name blank) :
    Linking.resolveSampler effect l ep = l ∧ ∀ name, ¬ base.Brings ep name := by
  refine ⟨resolveSampler_skip effect l fun name blank hsampler hasks hheld => ?_,
    fun name ⟨blank, hseeks, _⟩ => hnot name blank hseeks⟩
  exact hnot name blank ⟨hsampler, hasks, (h.held ep List.mem_cons_self).symm.trans hheld⟩

/-- A sampler that seeks a texture is given it if it is there or if it brings it itself. -/
theorem Awaits.sought (h : Awaits base (ep :: rest) l) (effect : String) {name : String}
    {blank : BlankTarget} (hseeks : base.Seeks ep name blank) :
    l.Sought (Linking.resolveSampler effect l ep) ep.id name
        (Knows base l name ∨ base.Brings ep name) ∧
      ∀ other, base.Brings ep other → other = name := by
  have honly : ∀ other blank', base.Seeks ep other blank' → other = name ∧ blank' = blank :=
    fun other blank' hother =>
      Prod.mk.inj (Option.some.inj (hother.asks.symm.trans hseeks.asks))
  have hbrings : base.Brings ep name ↔ base.Paints name blank := by
    refine ⟨fun ⟨blank', hother, hpaints⟩ => ?_, fun hpaints => ⟨blank, hseeks, hpaints⟩⟩
    exact (honly name blank' hother).2 ▸ hpaints
  refine ⟨?_, fun other ⟨blank', hother, _⟩ => (honly other blank' hother).1⟩
  rw [hbrings, ← h.finds_iff name, ← Engine.paints_iff h.device name blank]
  exact resolveSampler_sought effect l hseeks.sampler hseeks.asks
    ((h.held ep List.mem_cons_self).trans hseeks.handed)

/-- Once it was a sampler's turn, what it brings is there. -/
theorem Awaits.knows_iff (h : Awaits base (ep :: rest) l) (effect : String) (name : String) :
    Knows base (Linking.resolveSampler effect l ep) name ↔
      Knows base l name ∨ base.Brings ep name := by
  by_cases hseeks : ∃ asked blank, base.Seeks ep asked blank
  · obtain ⟨asked, blank, hseeks⟩ := hseeks
    obtain ⟨hsought, honly⟩ := h.sought effect hseeks
    by_cases hname : name = asked
    · subst hname
      refine ⟨fun hknows => ?_, fun hthere => ?_⟩
      · by_contra hmissing
        have hfree := (TextureRegistry.contains_eq_false_iff _ name).mpr (hsought.missed hmissing).1
        rcases hknows with hthere | hloads
        · rw [hfree] at hthere
          cases hthere
        · exact hmissing (Or.inl (Or.inr hloads))
      · obtain ⟨texture, hfind, _⟩ := hsought.found hthere
        exact Or.inl (TextureRegistry.contains_of_find? hfind)
    · have hsame := hsought.others name hname
      unfold TextureRegistry.find? at hsame
      unfold Knows TextureRegistry.contains Table.contains
      rw [hsame]
      exact ⟨Or.inl, fun hthere => hthere.resolve_right fun hbrings => hname (honly name hbrings)⟩
  · obtain ⟨heq, hnot⟩ := h.skips effect fun asked blank hasked => hseeks ⟨asked, blank, hasked⟩
    rw [heq]
    exact ⟨Or.inl, fun hthere => hthere.resolve_right (hnot name)⟩

/-- When it is a sampler's turn, it finds its texture if that is there or if it brings it. -/
theorem Awaits.settles (h : Awaits base (ep :: rest) l) (effect : String) :
    base.Settles (Linking.resolveSampler effect l ep).engine
      (fun name => Knows base l name ∨ base.Brings ep name) ep := by
  have hheld := h.held ep List.mem_cons_self
  obtain ⟨p, hp, hleaf, _⟩ := h.leaves.leaf ep List.mem_cons_self
  refine ⟨fun name blank hseeks hthere => ?_, fun name blank hseeks hmissing => ?_,
    fun hnot => ?_⟩
  · obtain ⟨texture, hfind, hwrite⟩ := (h.sought effect hseeks).1.found hthere
    refine ⟨texture, hfind, ?_⟩
    unfold Engine.texture?
    rw [hwrite, Parameters.get?_write_leaf hp hleaf, if_pos rfl]
    rfl
  · unfold Engine.texture?
    rw [((h.sought effect hseeks).1.missed hmissing).2]
    exact hheld.trans hseeks.handed
  · rw [(h.skips effect hnot).1, hheld]

/-- Once the samplers of a row are resolved, what they bring is there, and each has found its
texture if that was there, or came with it or with one before it. -/
theorem Awaits.resolveSamplers {effect : Effect} (h : Awaits base effect.parameters l) :
    (∀ name, Knows base (l.resolveSamplers effect) name ↔
        Knows base l name ∨ ∃ ep ∈ effect.parameters, base.Brings ep name) ∧
      ∀ earlier ep later, effect.parameters = earlier ++ ep :: later →
        base.Settles (l.resolveSamplers effect).engine
          (fun name => Knows base l name ∨ ∃ other ∈ earlier ++ [ep], base.Brings other name)
          ep := by
  unfold Linking.resolveSamplers
  obtain ⟨effectName, row, techniques, chosen⟩ := effect
  simp only at h ⊢
  induction row generalizing l with
  | nil => exact ⟨by simp, by simp⟩
  | cons first rest ih =>
    have hknows := h.knows_iff effectName
    have hfirst := h.settles effectName
    have hnext := h.resolveSampler effectName
    rw [List.foldl_cons]
    generalize Linking.resolveSampler effectName l first = l₁ at hknows hfirst hnext ⊢
    obtain ⟨hrest, hsettles⟩ := ih hnext
    refine ⟨fun name => ?_, fun earlier ep later hrow => ?_⟩
    · rw [hrest, hknows]
      simp [or_assoc]
    · cases earlier with
      | nil =>
        obtain ⟨rfl, rfl⟩ := List.cons.inj hrow
        -- what is resolved later does not touch the first of the row
        have hfills := (resolveSamplers_fills l₁ ⟨effectName, rest, techniques, chosen⟩
          hnext.leaves).1
        have hgrows := (resolveSamplers_steps l₁ ⟨effectName, rest, techniques, chosen⟩).grows
        have hsame := hfills.others first.id fun _ hep => (h.leaves.id_ne hep).symm
        exact hfirst.grows hgrows (congrArg (·.bind (·.texture)) hsame) fun name => by simp
      | cons other earlier =>
        obtain ⟨rfl, hrest⟩ := List.cons.inj hrow
        refine (hsettles earlier ep later hrest).grows (.refl _) rfl fun name => ?_
        rw [hknows]
        simp [or_assoc]

end awaits

/-- Once the parameters of a new effect follow whom they ask to follow, its samplers are to be
resolved. -/
theorem awaits_linkParameters {base : Engine HeadlessDevice} (hbase : base.parameters.Settled)
    {compiler : Compiler} {d : EffectDescription} {draft : EffectDraft}
    (hcompile : EffectDraft.compile compiler d = .ok draft) (notices : List Notice) :
    let l := ({ engine := base.entered notices draft } : Linking HeadlessDevice).linkParameters
      (draft.install base.parameters).1
    Awaits base (draft.install base.parameters).1.parameters l ∧
      l.engine.textures = base.textures := by
  have henters := EffectDraft.enters_install hcompile base.parameters
  have hsettled := (EffectDraft.turns_install hcompile base.parameters).settled hbase
  obtain ⟨hjoins, ⟨_, _, hl⟩, _⟩ := linkParameters_joins { engine := base.entered notices draft }
    _ (henters.loose hbase) hsettled.registered
  refine ⟨⟨?_, ?_, henters.leaves.joins hjoins, fun ep hep => ?_⟩, ?_⟩
  · rw [hl]
    rfl
  · rw [hl]
    exact ⟨rfl, rfl⟩
  · obtain ⟨_, _, p, hp, _, _, hnone, _⟩ := henters.own ep hep
    unfold Engine.texture?
    rw [hjoins.own ep hep p hp, Option.bind_some]
    exact (congrArg (·.texture) (henters.taught hbase ep p)).trans
      (base.parameters.texture_taught_eq ep hnone)
  · rw [hl]
    rfl

end Linking

/-- When a new effect was linked, the names that lead to textures are those that did before and
those its samplers bring, and each sampler found its texture if its name led to one before, or
was brought by it or by one before it. -/
theorem Engine.link_settles {base : Engine HeadlessDevice} (hbase : base.parameters.Settled)
    {compiler : Compiler} {d : EffectDescription} {draft : EffectDraft}
    (hcompile : EffectDraft.compile compiler d = .ok draft) (notices : List Notice) :
    let after := ((base.entered notices draft).link (draft.install base.parameters).1).2.2
    (∀ name, after.textures.contains name = true ∨ base.Loads name ↔
        base.Reaches (draft.install base.parameters).1.parameters name) ∧
      ∀ earlier ep later, (draft.install base.parameters).1.parameters = earlier ++ ep :: later →
        base.Settles after (base.Reaches (earlier ++ [ep])) ep := by
  obtain ⟨hawaits, htextures⟩ := Linking.awaits_linkParameters hbase hcompile notices
  have htries := (base.entered notices draft).link_tries (draft.install base.parameters).1
  obtain ⟨hknows, hsettles⟩ := hawaits.resolveSamplers
  unfold Linking.Knows at hknows hsettles
  rw [htextures, ← htries.textures] at hknows
  rw [htextures] at hsettles
  refine ⟨hknows, fun earlier ep later hrow => ?_⟩
  refine (hsettles earlier ep later hrow).grows (htries.textures ▸ .refl _) ?_ fun _ => .rfl
  exact congrArg (fun ps => (ps.get? ep.id).bind (·.texture)) htries.parameters

end ShaderEffects
