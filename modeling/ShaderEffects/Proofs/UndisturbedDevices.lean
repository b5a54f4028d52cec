import ShaderEffects.Proofs.JudgedDevices
import ShaderEffects.Proofs.TextureAgreement

/-!
# What a device keeps while effects are prepared

To link an effect a device looks at programs and makes textures. What it has is not touched
by that: textures and loaded programs are as they were, surfaces show what they showed, and
nothing is drawn, bound or written. New textures get numbers that were not given yet, so
this holds of every device whose textures are numbered in order.
-/
namespace ShaderEffects

open Gpu

/-- A device on which preparing an effect only adds to what is there. -/
class Undisturbing (D : Type) [Device D] where
  /-- No texture has a number that is still to be given. -/
  Numbered : D → Prop
  /-- There is nothing but what came with new textures, and with looking at programs. -/
  Undisturbed : D → D → Prop
  refl : ∀ d : D, Undisturbed d d
  trans : ∀ {d₁ d₂ d₃ : D}, Undisturbed d₁ d₂ → Undisturbed d₂ d₃ → Undisturbed d₁ d₃
  numbered : ∀ (c : DeviceCall D) {d : D}, Numbered d → Numbered (c.perform d)
  prepare : ∀ {c : DeviceCall D} {d : D}, c.prepares = true → Numbered d →
    Undisturbed d (c.perform d)

namespace Table

variable {κ α : Type} [DecidableEq κ]

/-- What is under a key stays there. -/
def Within (t u : Table κ α) : Prop := ∀ k v, t.get? k = some v → u.get? k = some v

theorem Within.refl (t : Table κ α) : t.Within t := fun _ _ h => h

theorem Within.trans {t u v : Table κ α} (h₁ : t.Within u) (h₂ : u.Within v) : t.Within v :=
  fun k x h => h₂ k x (h₁ k x h)

theorem within_insert {t : Table κ α} {k : κ} (hnew : t.get? k = none) (v : α) :
    t.Within (t.insert k v) := by
  intro j x hj
  have hne : j ≠ k := by
    rintro rfl
    rw [hnew] at hj
    cases hj
  rw [get?_insert, if_neg hne, hj]

end Table

/-! ## The device without a screen -/

namespace HeadlessDevice

variable {d d' : HeadlessDevice}

/-- No texture has a number that is still to be given. -/
def Numbered (d : HeadlessDevice) : Prop :=
  ∀ id, d.textures.contains id = true → id.number < d.nextId

/-- Nothing but new textures came to a device, with what they show. -/
structure Undisturbed (d d' : HeadlessDevice) : Prop where
  textures : d.textures.Within d'.textures
  contents : ∀ surface, d.checkSurface surface = .ok () → d'.content? surface = d.content? surface
  others : ∃ nextId textures contents, d' = { d with nextId, textures, contents }

theorem numbered_ofSize (width height : Nat) : (ofSize width height).Numbered :=
  fun _ hid => by cases hid

theorem checkSurface_texture_iff (d : HeadlessDevice) (id : TextureId) :
    d.checkSurface (.texture id) = .ok () ↔ d.textures.contains id = true := by
  simp only [checkSurface]
  split_ifs with h <;> simp [h]

theorem Undisturbed.refl (d : HeadlessDevice) : d.Undisturbed d :=
  ⟨.refl _, fun _ _ => rfl, _, _, _, rfl⟩

theorem Undisturbed.checkSurface (h : d.Undisturbed d') {surface : Surface}
    (hthere : d.checkSurface surface = .ok ()) : d'.checkSurface surface = .ok () := by
  cases surface with
  | backbuffer | scratch => rfl
  | texture id =>
    rw [checkSurface_texture_iff, Table.contains_eq_true_iff] at hthere ⊢
    obtain ⟨texture, hget⟩ := hthere
    exact ⟨texture, h.textures id texture hget⟩

theorem Undisturbed.trans {d₁ d₂ d₃ : HeadlessDevice} (h₁ : d₁.Undisturbed d₂)
    (h₂ : d₂.Undisturbed d₃) : d₁.Undisturbed d₃ where
  textures := h₁.textures.trans h₂.textures
  contents := fun surface hthere =>
    (h₂.contents surface (h₁.checkSurface hthere)).trans (h₁.contents surface hthere)
  others := by
    obtain ⟨nextId, textures, contents, rfl⟩ := h₁.others
    obtain ⟨nextId', textures', contents', rfl⟩ := h₂.others
    exact ⟨nextId', textures', contents', rfl⟩

/-- The number that is given next has no texture. -/
theorem Numbered.get?_nextId (h : d.Numbered) : d.textures.get? ⟨d.nextId⟩ = none := by
  cases hget : d.textures.get? ⟨d.nextId⟩ with
  | none => rfl
  | some texture =>
    exact absurd (h ⟨d.nextId⟩ (by rw [Table.contains, hget]; rfl)) (Nat.lt_irrefl _)

theorem Numbered.of_textures (h : d.Numbered) (htextures : d'.textures = d.textures)
    (hnext : d.nextId ≤ d'.nextId) : d'.Numbered := fun id hid =>
  Nat.lt_of_lt_of_le (h id (htextures ▸ hid)) hnext

/-- A new texture is one more, and what other surfaces show stays. -/
theorem Numbered.insert (h : d.Numbered) (texture : HeadlessTexture)
    {contents : Table Surface String}
    (hcontents : ∀ surface, surface ≠ .texture ⟨d.nextId⟩ →
      contents.get? surface = d.contents.get? surface) :
    let d' := { d with
      nextId := d.nextId + 1
      textures := d.textures.insert ⟨d.nextId⟩ texture
      contents }
    d'.Numbered ∧ d.Undisturbed d' := by
  refine ⟨fun id hid => ?_, Table.within_insert h.get?_nextId texture, fun surface hthere => ?_,
    _, _, _, rfl⟩
  · simp only [Table.contains, Table.get?_insert] at hid
    split_ifs at hid with hsame
    · rw [hsame]
      exact Nat.lt_succ_self _
    · exact Nat.lt_succ_of_lt (h id hid)
  · refine hcontents surface ?_
    rintro rfl
    rw [checkSurface_texture_iff] at hthere
    exact absurd (h _ hthere) (Nat.lt_irrefl _)

theorem Numbered.createTexture (h : d.Numbered) (name : String) (desc : TextureDesc) :
    (d.createTexture name desc).2.Numbered ∧ d.Undisturbed (d.createTexture name desc).2 := by
  rcases d.createTexture_cases name desc with ⟨e, heq⟩ | heq <;> rw [heq]
  · exact ⟨h, .refl d⟩
  · exact h.insert ⟨name, desc⟩ fun _ _ => rfl

theorem Numbered.loadTexture (h : d.Numbered) (files : FileTree) (name path : String) :
    (d.loadTexture files name path).2.Numbered ∧
      d.Undisturbed (d.loadTexture files name path).2 := by
  unfold HeadlessDevice.loadTexture
  cases d.alive with
  | error e => exact ⟨h, .refl d⟩
  | ok _ =>
    cases imageSize files path with
    | error fault => exact ⟨h, .refl d⟩
    | ok size =>
      simp only
      rcases d.createTexture_cases name
        { TextureDesc.target size.width size.height default with mipmaps := true } with
        ⟨e, heq⟩ | heq <;> rw [heq]
      · exact ⟨h, .refl d⟩
      · exact h.insert _ fun surface hne => by
          rw [Table.get?_insert, if_neg hne]

/-- Textures stay numbered in order. -/
theorem Numbered.perform (h : d.Numbered) (c : DeviceCall HeadlessDevice) :
    (c.perform d).Numbered := by
  cases hc : c.leavesTextures with
  | true => exact h.of_textures (textures_perform d hc) (outlives_perform d c).nextId_le
  | false =>
    cases c with
    | createTexture name desc => exact (h.createTexture name desc).1
    | loadTexture files name path => exact (h.loadTexture files name path).1
    | validate | loadProgram | bind | unbind | setConstants | setSampler | setTarget | restore
    | enterEffectState | draw | copy => cases hc

instance : Undisturbing HeadlessDevice where
  Numbered := Numbered
  Undisturbed := Undisturbed
  refl := .refl
  trans := .trans
  numbered c _ h := h.perform c
  prepare {c d} hc h := by
    cases c with
    | validate programs => exact .refl d
    | createTexture name desc => exact (h.createTexture name desc).2
    | loadTexture files name path => exact (h.loadTexture files name path).2
    | loadProgram | bind | unbind | setConstants | setSampler | setTarget | restore
    | enterEffectState | draw | copy => cases hc

end HeadlessDevice

theorem HeadlessAct.numbered (a : HeadlessAct) {d : HeadlessDevice} (h : d.Numbered) :
    (a.perform d).Numbered := by
  cases a <;> exact h

/-! ## The graphics device -/

/-- A request for something that was not there, and that nothing is drawn with yet. -/
def Gpu.Request.Furnishes (request : Request) : Prop := request.makes = true ∧ request ≠ .clear

theorem Gpu.Image.request_furnishes (image : Image) (label : String) :
    (image.request label).Furnishes := ⟨rfl, nofun⟩

namespace GpuDevice

variable {g g' : GpuDevice}

/-- No texture has a number that is still to be given. -/
def Numbered (g : GpuDevice) : Prop := ∀ id, g.textures.contains id = true → id.number < g.nextId

/-- Nothing but new textures, shaders and layouts came to a device, and what was asked for
is for these and for pipelines that are tried out. -/
structure Undisturbed (g g' : GpuDevice) : Prop where
  textures : g.textures.Within g'.textures
  modules : g.modules.Within g'.modules
  layouts : g.layouts.Within g'.layouts
  requests : Appends Request.Furnishes g.requests g'.requests
  others : ∃ nextId textures modules layouts requests,
    g' = { g with nextId, textures, modules, layouts, requests }

theorem numbered_ofSize (context : GpuContext) (width height : Nat) :
    (ofSize context width height).Numbered :=
  fun _ hid => by cases hid

theorem Undisturbed.refl (g : GpuDevice) : g.Undisturbed g :=
  ⟨.refl _, .refl _, .refl _, .refl _, _, _, _, _, _, rfl⟩

theorem Undisturbed.trans {g₁ g₂ g₃ : GpuDevice} (h₁ : g₁.Undisturbed g₂)
    (h₂ : g₂.Undisturbed g₃) : g₁.Undisturbed g₃ where
  textures := h₁.textures.trans h₂.textures
  modules := h₁.modules.trans h₂.modules
  layouts := h₁.layouts.trans h₂.layouts
  requests := h₁.requests.trans h₂.requests
  others := by
    obtain ⟨_, _, _, _, _, rfl⟩ := h₁.others
    obtain ⟨_, _, _, _, _, rfl⟩ := h₂.others
    exact ⟨_, _, _, _, _, rfl⟩

theorem undisturbed_ask (g : GpuDevice) {request : Request} (h : request.Furnishes) :
    g.Undisturbed (g.ask request) :=
  ⟨.refl _, .refl _, .refl _, appends_concat _ h, _, _, _, _, _, rfl⟩

theorem undisturbed_makeModule {key : ProgramKey} (hnew : g.modules.get? key = none)
    (module : ShaderModule) :
    g.Undisturbed { g with modules := g.modules.insert key module } :=
  ⟨.refl _, Table.within_insert hnew module, .refl _, .refl _, _, _, _, _, _, rfl⟩

theorem undisturbed_layOut (g : GpuDevice) (group count : Nat) :
    g.Undisturbed (g.layOut group count).2 := by
  unfold layOut
  cases hkept : g.layouts.get? (group, count) with
  | some layout => exact .refl g
  | none =>
    have hmade : g.Undisturbed { g with
        layouts := g.layouts.insert (group, count)
          (samplersLayout (groupVisibility group) count) } :=
      ⟨.refl _, .refl _, Table.within_insert hkept _, .refl _, _, _, _, _, _, rfl⟩
    exact hmade.trans (undisturbed_ask _ ⟨rfl, nofun⟩)

theorem undisturbed_moduleFor (g : GpuDevice) (p : Program) :
    g.Undisturbed (g.moduleFor p).2 := by
  unfold moduleFor
  cases hkept : g.modules.get? p.key with
  | some module => exact .refl g
  | none => exact (undisturbed_makeModule hkept _).trans (undisturbed_ask _ ⟨rfl, nofun⟩)

theorem undisturbed_buildPipeline (g : GpuDevice) (label : String)
    (vertex fragment : PipelineStage) (format : PixelFormat) :
    g.Undisturbed (g.buildPipeline label vertex fragment format).2 :=
  ((undisturbed_layOut g _ _).trans (undisturbed_layOut _ _ _)).trans
    (undisturbed_ask _ ⟨rfl, nofun⟩)

theorem undisturbed_validate (g : GpuDevice) (programs : List Program) :
    g.Undisturbed (g.validate programs).2 := by
  unfold validate
  cases g.alive with
  | error e => exact .refl g
  | ok _ =>
    cases checkPair programs with
    | error fault => exact .refl g
    | ok pair =>
      exact ((undisturbed_moduleFor g pair.1).trans (undisturbed_moduleFor _ pair.2)).trans
        (undisturbed_buildPipeline _ _ _ _ _)

theorem Numbered.keep (h : g.Numbered) (image : Image) :
    (g.keep image).2.Numbered ∧ g.Undisturbed (g.keep image).2 := by
  have hnew : g.textures.get? ⟨g.nextId⟩ = none := by
    cases hget : g.textures.get? ⟨g.nextId⟩ with
    | none => rfl
    | some image' =>
      exact absurd (h ⟨g.nextId⟩ (by rw [Table.contains, hget]; rfl)) (Nat.lt_irrefl _)
  refine ⟨fun id hid => ?_, Table.within_insert hnew image, .refl _, .refl _, .refl _,
    _, _, _, _, _, rfl⟩
  simp only [GpuDevice.keep, Table.contains, Table.get?_insert] at hid ⊢
  split_ifs at hid with hsame
  · rw [hsame]
    exact Nat.lt_succ_self _
  · exact Nat.lt_succ_of_lt (h id hid)

/-- What is asked for before a texture is kept does not change the numbers. -/
theorem Numbered.keep_asked (h : g.Numbered) {request : Request} (hnew : request.Furnishes)
    (image : Image) : g.Undisturbed ((g.ask request).keep image).2 :=
  (undisturbed_ask g hnew).trans (Numbered.keep (g := g.ask request) h image).2

theorem Numbered.createTexture (h : g.Numbered) (name : String) (desc : TextureDesc) :
    g.Undisturbed (g.createTexture name desc).2 := by
  obtain ⟨e, heq⟩ | heq := g.createTexture_cases name desc <;> rw [heq]
  · exact .refl g
  · exact h.keep_asked (Image.request_furnishes _ name) _

theorem Numbered.loadTexture (h : g.Numbered) (files : FileTree) (name path : String) :
    g.Undisturbed (g.loadTexture files name path).2.1 := by
  obtain ⟨-, e, notices, heq⟩ | ⟨size, notices, -, heq⟩ := g.loadTexture_cases files name path <;>
    rw [heq]
  · exact .refl g
  · let image := Image.ofSize size.width size.height .standard
    have hwrites : (Request.writeTexture size.width size.height
        (size.width * size.height * TextureFormat.rgba8.bytesPerTexel)).Furnishes :=
      ⟨rfl, nofun⟩
    exact (undisturbed_ask g (image.request_furnishes name)).trans
      (Numbered.keep_asked (g := g.ask (image.request name)) h hwrites image)

/-- Textures stay numbered in order. -/
theorem Move.numbered {kind : MoveKind} (h : g.Move kind g') (hg : g.Numbered) : g'.Numbered := by
  have hsame : ∀ g₁ : GpuDevice, g₁.textures = g.textures → g.nextId ≤ g₁.nextId →
      g₁.Numbered := fun _ htextures hnext id hid =>
    Nat.lt_of_lt_of_le (hg id (htextures ▸ hid)) hnext
  cases h with
  | ask | makeModule | makeLayout | makePipeline | makeBlit | bind | unbind | write | sample
  | aim | draw | copy | resize | configure | present | lose => exact hsame _ rfl (Nat.le_refl _)
  | load => exact hsame _ rfl (Nat.le_succ _)
  | upload id =>
    have hback := backstage_upload g id
    exact hsame _ hback.textures hback.nextId.ge
  | keep image => exact (hg.keep image).1

theorem MovesBy.numbered {kinds : MoveKind → Prop} (h : g.MovesBy kinds g') (hg : g.Numbered) :
    g'.Numbered := h.preserve (fun _ _ _ _ hmove hnumbered => hmove.numbered hnumbered) hg

instance : Undisturbing GpuDevice where
  Numbered := Numbered
  Undisturbed := Undisturbed
  refl := .refl
  trans := .trans
  numbered c g h := (g.perform_moves c).numbered h
  prepare {c g} hc h := by
    cases c with
    | validate programs => exact g.undisturbed_validate programs
    | createTexture name desc => exact h.createTexture name desc
    | loadTexture files name path => exact h.loadTexture files name path
    | loadProgram | bind | unbind | setConstants | setSampler | setTarget | restore
    | enterEffectState | draw | copy => cases hc

end GpuDevice

theorem GpuAct.numbered (a : GpuAct) {g : GpuDevice} (h : g.Numbered) : (a.perform g).Numbered :=
  (a.moves g).numbered h

/-! ## A device whose interface may refuse -/

namespace JudgedDevice

variable {w w' : JudgedDevice}

theorem undisturbed_moduleFor (w : JudgedDevice) (p : Program) :
    w.device.Undisturbed (w.moduleFor p).2.device := by
  unfold moduleFor
  cases hkept : w.device.modules.get? p.key with
  | some module => exact .refl _
  | none =>
    have hfurnishes : (Request.shader ⟨p.label, moduleSource p⟩).Furnishes := ⟨rfl, nofun⟩
    have hasked := GpuDevice.undisturbed_ask w.device hfurnishes
    obtain ⟨rest, ⟨e, heq⟩ | heq⟩ := judge_cases ({ w with
      device := w.device.ask (.shader ⟨p.label, moduleSource p⟩) } : JudgedDevice)
      (⟨p.label, moduleSource p⟩ : ShaderModule)
    · simpa only [heq] using hasked
    · simp only [heq]
      exact hasked.trans (GpuDevice.undisturbed_makeModule (g := w.device.ask _) hkept _)

theorem undisturbed_validate (w : JudgedDevice) (programs : List Program) :
    w.device.Undisturbed (w.validate programs).2.device := by
  unfold validate
  cases w.device.alive with
  | error e => exact .refl _
  | ok _ =>
    cases GpuDevice.checkPair programs with
    | error fault => exact .refl _
    | ok pair =>
      obtain ⟨vertex, fragment⟩ := pair
      have hvertex := undisturbed_moduleFor w vertex
      simp only
      rcases hv : w.moduleFor vertex with ⟨_ | vertexModule, w₁⟩ <;> rw [hv] at hvertex
      · exact hvertex
      have hfragment := hvertex.trans (undisturbed_moduleFor w₁ fragment)
      simp only
      rcases hf : w₁.moduleFor fragment with ⟨_ | fragmentModule, w₂⟩ <;> rw [hf] at hfragment
      · exact hfragment
      have hbuild := hfragment.trans (GpuDevice.undisturbed_buildPipeline w₂.device
        (fragment.label ++ " (validation)") (.ofProgram vertex vertexModule)
        (.ofProgram fragment fragmentModule) .standard)
      rw [← (buildPipeline_spec w₂ _ _ _ _).1] at hbuild
      simp only
      rcases hb : w₂.buildPipeline (fragment.label ++ " (validation)")
        (.ofProgram vertex vertexModule) (.ofProgram fragment fragmentModule)
        .standard with ⟨_ | pipeline, w₃⟩ <;> rw [hb] at hbuild <;> exact hbuild

theorem undisturbed_createTexture (h : w.device.Numbered) (name : String) (desc : TextureDesc) :
    w.device.Undisturbed (w.createTexture name desc).2.device := by
  have hfurnishes := (Image.ofSize desc.width desc.height desc.format).request_furnishes name
  obtain ⟨-, e, heq⟩ | ⟨-, rest, ⟨e, heq⟩ | heq⟩ := w.createTexture_cases name desc <;> rw [heq]
  · exact .refl _
  · exact GpuDevice.undisturbed_ask w.device hfurnishes
  · exact h.keep_asked hfurnishes _

instance : Undisturbing JudgedDevice where
  Numbered w := w.device.Numbered
  Undisturbed w w' := w.device.Undisturbed w'.device
  refl w := .refl w.device
  trans := .trans
  numbered c w h := (w.perform_moves c).numbered h
  prepare {c w} hc h := by
    cases c with
    | validate programs => exact w.undisturbed_validate programs
    | createTexture name desc => exact undisturbed_createTexture h name desc
    | loadTexture files name path => exact h.loadTexture files name path
    | loadProgram | bind | unbind | setConstants | setSampler | setTarget | restore
    | enterEffectState | draw | copy => cases hc

end JudgedDevice

end ShaderEffects
