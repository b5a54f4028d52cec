import ShaderEffects.Proofs.FedParameters
import ShaderEffects.Proofs.RendererTurns

/-!
# Renderers on two devices

A renderer sees its device only through the calls of a device. Where two devices answer
alike, two renderers that differ in nothing else do so too: each function of the renderer
has the same result on both, and leaves them alike.
-/
namespace ShaderEffects

variable {α D₁ D₂ : Type}

/-- The same value, and states that are related. -/
def Mirrors {σ τ : Type} (R : σ → τ → Prop) (x : α × σ) (y : α × τ) : Prop :=
  x.1 = y.1 ∧ R x.2 y.2

theorem Mirrors.split {σ τ : Type} {R : σ → τ → Prop} {x : α × σ} {y : α × τ}
    (h : Mirrors R x y) : ∃ value s t, x = (value, s) ∧ y = (value, t) ∧ R s t :=
  ⟨x.1, x.2, y.2, rfl, Prod.ext h.1.symm rfl, h.2⟩

/-- A draw in the state for effects, with the state of the host put back. -/
def Device.drawAside {D : Type} [Device D] (d : D) (geometry : Geometry) :
    Except DeviceError Unit × D :=
  let (result, d') := Device.draw (Device.enterEffectState d) geometry
  (result, Device.restore d' (Device.capture d))

/-- Devices that answer alike, as long as nothing is drawn. They may be handed other
numbers if something is fed other numbers. -/
structure Twins [Device D₁] [Device D₂] (fed : Set ParameterId) (Same : D₁ → D₂ → Prop) :
    Prop where
  isLost : ∀ {a b}, Same a b → Device.isLost a = Device.isLost b
  backbufferSize : ∀ {a b}, Same a b → Device.backbufferSize a = Device.backbufferSize b
  target : ∀ {a b}, Same a b → Device.target a = Device.target b
  loadProgram : ∀ {a b}, Same a b → ∀ p,
    Mirrors Same (Device.loadProgram a p) (Device.loadProgram b p)
  bind : ∀ {a b}, Same a b → ∀ stage id,
    Mirrors Same (Device.bind a stage id) (Device.bind b stage id)
  unbind : ∀ {a b}, Same a b → ∀ stage, Same (Device.unbind a stage) (Device.unbind b stage)
  setConstants : ∀ {a b}, Same a b → ∀ id register {values values'},
    values = values' ∨ fed.Nonempty →
    Same (Device.setConstants a id register values) (Device.setConstants b id register values')
  setSampler : ∀ {a b}, Same a b → ∀ id slot texture,
    Same (Device.setSampler a id slot texture) (Device.setSampler b id slot texture)
  setTarget : ∀ {a b}, Same a b → ∀ surface,
    Mirrors Same (Device.setTarget a surface) (Device.setTarget b surface)
  copy : ∀ {a b}, Same a b → ∀ {source destination}, source ≠ destination →
    Mirrors Same (Device.copy a source destination) (Device.copy b source destination)

/-- Two scenes that differ at most in the numbers of what was fed. -/
structure Scene.Alike (fed : Set ParameterId) (scene scene' : Scene) : Prop where
  parameters : scene.parameters.Alike fed scene'.parameters
  textures : scene'.textures = scene.textures

/-- Two values for a program that are the same, or numbers of something that was fed. -/
def Upload.Alike (fed : Set ParameterId) (u u' : Upload) : Prop :=
  u = u' ∨ fed.Nonempty ∧ ∃ program register values values',
    u = .constants program register values ∧ u' = .constants program register values'

theorem Upload.of?_alike {fed : Set ParameterId} {scene scene' : Scene}
    (hscene : scene.Alike fed scene') {id : ParameterId} {p p' : Parameter}
    (hp : p.Alike fed id p') (b : BoundProgram) :
    (of? scene p b = none ∧ of? scene' p' b = none) ∨
      ∃ u u', of? scene p b = some u ∧ of? scene' p' b = some u' ∧ u.Alike fed u' := by
  unfold of?
  rw [hp.category, hp.name, hp.texture, hscene.textures]
  cases p.category with
  | scalar =>
    cases b.constants.constant? p.name with
    | none => exact Or.inl ⟨rfl, rfl⟩
    | some slot =>
      refine Or.inr ⟨_, _, rfl, rfl, ?_⟩
      by_cases hid : id ∈ fed
      · exact Or.inr ⟨⟨id, hid⟩, _, _, _, _, rfl, rfl⟩
      · rw [hp.2 hid]
        exact Or.inl rfl
  | sampler =>
    simp only
    cases b.constants.sampler? p.name with
    | none => exact Or.inl ⟨rfl, rfl⟩
    | some slot =>
      cases p.texture.bind scene.textures.get? with
      | none => exact Or.inl ⟨rfl, rfl⟩
      | some texture => exact Or.inr ⟨_, _, rfl, rfl, Or.inl rfl⟩

namespace Renderer

/-- The renderer on another device. -/
def on (r : Renderer D₁) (d : D₂) : Renderer D₂ where
  device := d
  quad := r.quad
  loaded := r.loaded
  bound := r.bound
  journal := r.journal

/-- Two renderers that differ only in their devices, which are related. The full-screen
quad is a `good` one. -/
def Alike (Same : D₁ → D₂ → Prop) (good : FullscreenQuad → Prop) (r : Renderer D₁)
    (r' : Renderer D₂) : Prop :=
  good r.quad ∧ ∃ d, r' = r.on d ∧ Same r.device d

variable {fed : Set ParameterId} {Same : D₁ → D₂ → Prop} {good : FullscreenQuad → Prop}
  {r : Renderer D₁} {r' : Renderer D₂} {scene scene' : Scene}

theorem Alike.device (h : r.Alike Same good r') : Same r.device r'.device := by
  obtain ⟨_, d, rfl, hd⟩ := h
  exact hd

theorem Alike.note (h : r.Alike Same good r') (notices : List Notice) :
    (r.note notices).Alike Same good (r'.note notices) := by
  obtain ⟨hquad, d, rfl, hd⟩ := h
  exact ⟨hquad, d, rfl, hd⟩

variable [Device D₁] [Device D₂]

/-! ## Binding a pass -/

theorem loadPrograms_mirrors (T : Twins fed Same) (h : r.Alike Same good r')
    (programs : List Program) :
    Mirrors (Alike Same good) (r.loadPrograms programs) (r'.loadPrograms programs) := by
  induction programs generalizing r r' with
  | nil => exact ⟨rfl, h⟩
  | cons p rest ih =>
    obtain ⟨hquad, d, rfl, hd⟩ := h
    rw [loadPrograms, loadPrograms]
    by_cases hloaded : r.loaded.contains p.key = true
    · rw [if_pos hloaded, if_pos (by exact hloaded)]
      exact ih ⟨hquad, d, rfl, hd⟩
    · obtain ⟨result, a, b, ha, hb, hsame⟩ := (T.loadProgram hd p).split
      rw [if_neg hloaded, if_neg (by exact hloaded), ha, show (r.on d).device = d from rfl, hb]
      cases result with
      | error cause => exact ⟨rfl, hquad, b, rfl, hsame⟩
      | ok id => exact ih ⟨hquad, b, rfl, hsame⟩

theorem unbindAll_same (T : Twins fed Same) {a : D₁} {b : D₂} (h : Same a b)
    (programs : List BoundProgram) : Same (unbindAll a programs) (unbindAll b programs) := by
  induction programs generalizing a b with
  | nil => exact h
  | cons bound rest ih => exact ih (T.unbind h bound.stage)

theorem unbindPass_alike (T : Twins fed Same) (h : r.Alike Same good r') :
    r.unbindPass.Alike Same good r'.unbindPass := by
  obtain ⟨hquad, d, rfl, hd⟩ := h
  have hon : (r.on d).bound = r.bound := rfl
  unfold unbindPass
  rw [hon]
  cases r.bound with
  | none => exact ⟨hquad, d, rfl, hd⟩
  | some bound => exact ⟨hquad, _, rfl, unbindAll_same T hd bound.programs⟩

theorem bindProgram_mirrors (T : Twins fed Same) (h : r.Alike Same good r') (p : Program) :
    Mirrors (Alike Same good) (r.bindProgram p) (r'.bindProgram p) := by
  obtain ⟨hquad, d, rfl, hd⟩ := h
  have hon : (r.on d).loaded = r.loaded := rfl
  unfold bindProgram
  rw [hon]
  cases r.loaded.get? p.key with
  | none => exact ⟨rfl, hquad, d, rfl, hd⟩
  | some id =>
    obtain ⟨result, a, b, ha, hb, hsame⟩ := (T.bind hd p.stage id).split
    simp only [ha, show (r.on d).device = d from rfl, hb]
    cases result <;> exact ⟨rfl, hquad, b, rfl, hsame⟩

theorem bindPrograms_mirrors (T : Twins fed Same) (h : r.Alike Same good r')
    (done : List BoundProgram)
    (programs : List Program) :
    Mirrors (Alike Same good) (r.bindPrograms done programs) (r'.bindPrograms done programs) := by
  induction programs generalizing r r' done with
  | nil => exact ⟨rfl, h⟩
  | cons p rest ih =>
    obtain ⟨result, r₁, r₁', h₁, h₁', halike⟩ := (bindProgram_mirrors T h p).split
    rw [bindPrograms, bindPrograms, h₁, h₁']
    cases result with
    | error cause =>
      obtain ⟨hquad, d, rfl, hd⟩ := halike
      exact ⟨rfl, hquad, _, rfl, unbindAll_same T hd done⟩
    | ok id => exact ih halike _

theorem foldl_upload_same (T : Twins fed Same) {a : D₁} {b : D₂} (h : Same a b)
    {us us' : List Upload} (hus : List.Forall₂ (Upload.Alike fed) us us') :
    Same (us.foldl Upload.apply a) (us'.foldl Upload.apply b) := by
  induction hus generalizing a b with
  | nil => exact h
  | @cons u u' _ _ hu _ ih =>
    refine ih ?_
    rcases hu with rfl | ⟨hfed, program, register, values, values', rfl, rfl⟩
    · cases u with
      | constants program register values => exact T.setConstants h program register (.inl rfl)
      | sampler program slot texture => exact T.setSampler h program slot texture
    · exact T.setConstants h program register (.inr hfed)

omit [Device D₁] [Device D₂] in
theorem uploads_alike (h : r.Alike Same good r') (hscene : scene.Alike fed scene')
    (id : ParameterId) :
    List.Forall₂ (Upload.Alike fed) (r.uploads scene id) (r'.uploads scene' id) := by
  obtain ⟨_, d, rfl, _⟩ := h
  have hon : (r.on d).bound = r.bound := rfl
  unfold uploads
  rw [hon]
  cases r.bound with
  | none => exact .nil
  | some bound =>
    rcases hscene.parameters.cell id with ⟨hp, hp'⟩ | ⟨p, p', hp, hp', halike⟩ <;> rw [hp, hp']
    · exact .nil
    · simp only
      induction bound.programs with
      | nil => exact .nil
      | cons b rest ih =>
        rcases Upload.of?_alike hscene halike b with ⟨hu, hu'⟩ | ⟨u, u', hu, hu', halike⟩
        · rwa [List.filterMap_cons_none hu, List.filterMap_cons_none hu']
        · rw [List.filterMap_cons_some hu, List.filterMap_cons_some hu']
          exact .cons halike ih

theorem applyParameter_alike (T : Twins fed Same) (h : r.Alike Same good r')
    (hscene : scene.Alike fed scene') (id : ParameterId) :
    (r.applyParameter scene id).Alike Same good (r'.applyParameter scene' id) := by
  have hus := uploads_alike h hscene id
  obtain ⟨hquad, d, rfl, hd⟩ := h
  exact ⟨hquad, _, rfl, foldl_upload_same T hd hus⟩

theorem foldl_applyParameter_alike (T : Twins fed Same) (h : r.Alike Same good r')
    (hscene : scene.Alike fed scene') (ids : List ParameterId) :
    (ids.foldl (fun r id => r.applyParameter scene id) r).Alike Same good
      (ids.foldl (fun r id => r.applyParameter scene' id) r') := by
  induction ids generalizing r r' with
  | nil => exact h
  | cons id ids ih => exact ih (applyParameter_alike T h hscene id)

/-- A pass is bound on both devices, or fails on both in the same way. -/
theorem bindPass_mirrors (T : Twins fed Same) (h : r.Alike Same good r')
    (hscene : scene.Alike fed scene') (effect : Effect) (pass : Pass) :
    Mirrors (Alike Same good) (r.bindPass scene effect pass) (r'.bindPass scene' effect pass) := by
  unfold bindPass loadPass
  obtain ⟨loaded, r₁, r₁', h₁, h₁', hload⟩ :=
    (loadPrograms_mirrors T (unbindPass_alike T h) pass.programs).split
  rw [h₁, h₁']
  cases loaded with
  | error e => exact ⟨rfl, hload⟩
  | ok _ =>
    obtain ⟨bound, r₂, r₂', h₂, h₂', hbind⟩ :=
      (bindPrograms_mirrors T hload [] pass.programs).split
    simp only [h₂, h₂']
    cases bound with
    | error e => exact ⟨rfl, hbind⟩
    | ok programs =>
      obtain ⟨hquad, d, rfl, hd⟩ := hbind
      have hheld : ∀ label, Alike Same good { r₂ with bound := some ⟨label, programs⟩ }
          { r₂.on d with bound := some ⟨label, programs⟩ } := fun label => ⟨hquad, d, rfl, hd⟩
      exact ⟨rfl, foldl_applyParameter_alike T (hheld _) hscene effect.parameterIds⟩

theorem connected_mirrors (T : Twins fed Same) (h : r.Alike Same good r')
    (hscene : scene.Alike fed scene') (id : ParameterId) :
    Mirrors (Alike Same good) (r.connected scene id) (r'.connected scene' id) := by
  unfold connected
  rcases hscene.parameters.cell id with ⟨hp, hp'⟩ | ⟨p, p', hp, hp', halike⟩ <;> rw [hp, hp']
  · exact ⟨rfl, h⟩
  · simp only [halike.category, halike.name]
    cases p.category with
    | sampler => exact ⟨rfl, applyParameter_alike T h hscene id⟩
    | scalar => exact ⟨rfl, h.note _⟩

/-! ## Copying and aiming -/

theorem copy_mirrors (T : Twins fed Same) (h : r.Alike Same good r') {source destination : Surface}
    (hne : source ≠ destination) :
    Mirrors (Alike Same good) (r.copy source destination) (r'.copy source destination) := by
  obtain ⟨hquad, d, rfl, hd⟩ := h
  obtain ⟨result, a, b, ha, hb, hsame⟩ := (T.copy hd hne).split
  unfold copy
  simp only [ha, show (r.on d).device = d from rfl, hb]
  rcases result with (_ | _ | _ | _) | _ <;> exact ⟨rfl, hquad, b, rfl, hsame⟩

theorem copyResult_mirrors (T : Twins fed Same) (h : r.Alike Same good r')
    (result destination : Surface) :
    Mirrors (Alike Same good) (r.copyResult result destination)
      (r'.copyResult result destination) := by
  unfold copyResult
  split_ifs with hsame
  · exact ⟨rfl, h⟩
  · obtain ⟨copied, r₁, r₁', h₁, h₁', halike⟩ := (copy_mirrors T h hsame).split
    rw [h₁, h₁']
    cases copied <;> exact ⟨rfl, halike⟩

theorem present_mirrors (T : Twins fed Same) (h : r.Alike Same good r')
    (binding : Option TargetBinding)
    (destination : Surface) :
    Mirrors (Alike Same good) (r.present binding destination) (r'.present binding destination) := by
  unfold present
  simp only
  split_ifs with hshown
  · obtain ⟨copied, r₁, r₁', h₁, h₁', halike⟩ := (copy_mirrors T h hshown.2).split
    rw [h₁, h₁']
    cases copied <;> exact ⟨rfl, halike⟩
  · exact ⟨rfl, h⟩

theorem compose_mirrors (T : Twins fed Same) (h : r.Alike Same good r')
    (hscene : scene.Alike fed scene') (technique : Technique) (result : Option Surface) :
    Mirrors (Alike Same good) (r.compose scene technique result)
      (r'.compose scene' technique result) := by
  cases result with
  | none => exact ⟨rfl, h⟩
  | some result =>
    obtain ⟨copied, r₁, r₁', h₁, h₁', halike⟩ := (copyResult_mirrors T h result
      (TargetBinding.surface scene.textures technique.target)).split
    simp only [compose, hscene.textures, h₁, h₁']
    cases copied with
    | error e => exact ⟨rfl, halike⟩
    | ok _ => exact present_mirrors T halike _ _

theorem fitQuad_alike (T : Twins fed Same)
    (hfit : ∀ q width height, good q → good (FullscreenQuad.fit q width height))
    (h : r.Alike Same good r') : r.fitQuad.Alike Same good r'.fitQuad := by
  obtain ⟨hquad, d, rfl, hd⟩ := h
  unfold fitQuad
  rw [show (r.on d).device = d from rfl, ← T.backbufferSize hd]
  by_cases hfits : r.quad.fits (Device.backbufferSize r.device).1
    (Device.backbufferSize r.device).2 = true
  · exact ⟨by simpa [hfits] using hquad, d, by simp [hfits, on], by simpa [hfits] using hd⟩
  · exact ⟨by simpa [hfits, note] using hfit _ _ _ hquad, d, by simp [hfits, on, note],
      by simpa [hfits, note] using hd⟩

theorem restoreTarget_alike (T : Twins fed Same) (h : r.Alike Same good r') (target : Surface) :
    (r.restoreTarget target).Alike Same good (r'.restoreTarget target) := by
  obtain ⟨hquad, d, rfl, hd⟩ := h
  obtain ⟨result, a, b, ha, hb, hsame⟩ := (T.setTarget hd target).split
  unfold restoreTarget
  simp only [ha, show (r.on d).device = d from rfl, hb]
  cases result <;> exact ⟨hquad, b, rfl, hsame⟩

end Renderer

/-! ## Drawing -/

/-- Devices that answer alike also when they draw with a pass that is `ok` and was bound
just before, if the geometry is `drawn`. -/
structure DrawTwins [Device D₁] [Device D₂] (fed : Set ParameterId) (Same : D₁ → D₂ → Prop)
    (good : FullscreenQuad → Prop) (ok : Pass → Prop) (drawn : Geometry → Prop) : Prop
    extends Twins fed Same where
  fit : ∀ q width height, good q → good (FullscreenQuad.fit q width height)
  quad : ∀ q, good q → drawn q.geometry
  draw : ∀ {r r₁ : Renderer D₁} {scene effect pass}, ok pass →
    r.bindPass scene effect pass = (.ok (), r₁) → ∀ {b}, Same r₁.device b →
    ∀ {geometry}, drawn geometry →
    Mirrors Same (Device.drawAside r₁.device geometry) (Device.drawAside b geometry)

namespace Renderer

variable [Device D₁] [Device D₂] {fed : Set ParameterId} {Same : D₁ → D₂ → Prop}
  {good : FullscreenQuad → Prop} {ok : Pass → Prop} {drawn : Geometry → Prop}
  {r : Renderer D₁} {r' : Renderer D₂} {scene scene' : Scene}

theorem drawBound_eq {D : Type} [Device D] (r : Renderer D) (geometry : Option Geometry) :
    r.drawBound geometry =
      ((Device.drawAside r.device (geometry.getD r.quad.geometry)).1,
        { r with device := (Device.drawAside r.device (geometry.getD r.quad.geometry)).2 }) := rfl

theorem drawBound_mirrors (T : DrawTwins fed Same good ok drawn) {r₁ : Renderer D₁}
    {r₁' : Renderer D₂}
    {effect : Effect} {pass : Pass} (hpass : ok pass)
    (hbind : r.bindPass scene effect pass = (.ok (), r₁)) (h : r₁.Alike Same good r₁')
    {geometry : Option Geometry} (hgeometry : ∀ g ∈ geometry, drawn g) :
    Mirrors (Alike Same good) (r₁.drawBound geometry) (r₁'.drawBound geometry) := by
  obtain ⟨hquad, d, rfl, hd⟩ := h
  have hlively : drawn (geometry.getD r₁.quad.geometry) := by
    cases geometry with
    | none => exact T.quad r₁.quad hquad
    | some g => exact hgeometry g rfl
  obtain ⟨hresult, hsame⟩ := T.draw hpass hbind hd hlively
  rw [drawBound_eq, drawBound_eq]
  exact ⟨hresult, hquad, _, rfl, hsame⟩

theorem surface_ne_scratch (textures : TextureRegistry) (binding : Option TargetBinding) :
    Surface.scratch ≠ TargetBinding.surface textures binding := by
  unfold TargetBinding.surface
  cases binding.bind fun b => textures.get? b.texture <;> nofun

theorem drawPass_mirrors (T : DrawTwins fed Same good ok drawn) (h : r.Alike Same good r')
    (hscene : scene.Alike fed scene') (effect : Effect) {geometry : Option Geometry}
    (hgeometry : ∀ g ∈ geometry, drawn g)
    (progress : Progress) {pass : Pass} (hpass : ok pass) :
    Mirrors (Alike Same good) (r.drawPass scene effect geometry progress pass)
      (r'.drawPass scene' effect geometry progress pass) := by
  obtain ⟨bound, r₁, r₁', h₁, h₁', hbound⟩ :=
    (bindPass_mirrors T.toTwins h hscene effect pass).split
  unfold drawPass
  rw [h₁, h₁']
  cases bound with
  | error e =>
    simp only [← T.isLost hbound.device]
    split_ifs
    · exact ⟨rfl, hbound⟩
    · exact ⟨rfl, hbound.note _⟩
  | ok _ =>
    obtain ⟨result, r₂, r₂', h₂, h₂', halike⟩ :=
      (drawBound_mirrors T hpass h₁ hbound hgeometry).split
    have hfreed := unbindPass_alike T.toTwins halike
    simp only [h₂, h₂', ← T.isLost hfreed.device]
    cases result with
    | error e =>
      simp only
      split_ifs
      · exact ⟨rfl, hfreed⟩
      · exact ⟨rfl, hfreed.note _⟩
    | ok _ =>
      obtain ⟨copied, r₃, r₃', h₃, h₃', hcopied⟩ :=
        (copy_mirrors T.toTwins hfreed (surface_ne_scratch scene.textures pass.target)).split
      simp only [hscene.textures, h₃, h₃']
      rcases copied with e | _ | _ <;> exact ⟨rfl, hcopied⟩

theorem drawPasses_mirrors (T : DrawTwins fed Same good ok drawn) (h : r.Alike Same good r')
    (hscene : scene.Alike fed scene') (effect : Effect) {geometry : Option Geometry}
    (hgeometry : ∀ g ∈ geometry, drawn g)
    (progress : Progress) {passes : List Pass}
    (hpasses : ∀ pass ∈ passes, pass.valid = true → ok pass) :
    Mirrors (Alike Same good) (r.drawPasses scene effect geometry progress passes)
      (r'.drawPasses scene' effect geometry progress passes) := by
  induction passes generalizing r r' progress with
  | nil => exact ⟨rfl, h⟩
  | cons pass rest ih =>
    have hrest : ∀ pass ∈ rest, pass.valid = true → ok pass :=
      fun p hp => hpasses p (List.mem_cons_of_mem pass hp)
    rw [drawPasses, drawPasses]
    split_ifs with hvalid
    · obtain ⟨result, r₁, r₁', h₁, h₁', halike⟩ := (drawPass_mirrors T h hscene effect hgeometry
        progress (hpasses pass List.mem_cons_self hvalid)).split
      rw [h₁, h₁']
      cases result with
      | error e => exact ⟨rfl, halike⟩
      | ok progress => exact ih halike progress hrest
    · exact ih (h.note _) progress hrest

theorem runTechnique_mirrors (T : DrawTwins fed Same good ok drawn) (h : r.Alike Same good r')
    (hscene : scene.Alike fed scene') (effect : Effect) {technique : Technique}
    {geometry : Option Geometry}
    (hgeometry : ∀ g ∈ geometry, drawn g)
    (hpasses : ∀ pass ∈ technique.passes, pass.valid = true → ok pass) :
    Mirrors (Alike Same good) (r.runTechnique scene effect technique geometry)
      (r'.runTechnique scene' effect technique geometry) := by
  obtain ⟨hquad, d, rfl, hd⟩ := h
  obtain ⟨aimed, a, b, ha, hb, hsame⟩ := (T.setTarget hd .scratch).split
  unfold runTechnique
  simp only [ha, show (r.on d).device = d from rfl, hb]
  cases aimed with
  | error e => exact ⟨rfl, hquad, b, rfl, hsame⟩
  | ok _ =>
    have hon : ({ r.on d with device := b } : Renderer D₂) = ({ r with device := a }).on b := rfl
    obtain ⟨result, r₁, r₁', h₁, h₁', halike⟩ := (drawPasses_mirrors T
      (r := { r with device := a }) ⟨hquad, b, rfl, hsame⟩ hscene effect hgeometry {} hpasses).split
    simp only [hon, h₁, h₁']
    cases result with
    | error e => exact ⟨rfl, halike⟩
    | ok progress =>
      obtain ⟨composed, r₂, r₂', h₂, h₂', hcomposed⟩ :=
        (compose_mirrors T.toTwins halike hscene technique progress.result).split
      simp only [h₂, h₂']
      cases composed <;> exact ⟨rfl, hcomposed⟩

theorem drawTechnique_mirrors (T : DrawTwins fed Same good ok drawn) (h : r.Alike Same good r')
    (hscene : scene.Alike fed scene') (effect : Effect) {technique : Technique}
    {geometry : Option Geometry}
    (hgeometry : ∀ g ∈ geometry, drawn g)
    (hpasses : ∀ pass ∈ technique.passes, pass.valid = true → ok pass) :
    Mirrors (Alike Same good) (r.drawTechnique scene effect technique geometry)
      (r'.drawTechnique scene' effect technique geometry) := by
  have hfitted := fitQuad_alike T.toTwins T.fit h
  unfold drawTechnique
  rw [← T.isLost h.device]
  split_ifs
  · exact ⟨rfl, h.note _⟩
  · exact ⟨rfl, h⟩
  · obtain ⟨result, r₁, r₁', h₁, h₁', halike⟩ :=
      (runTechnique_mirrors T hfitted hscene effect hgeometry hpasses).split
    have hrestored := restoreTarget_alike T.toTwins halike (Device.target r.fitQuad.device)
    simp only [h₁, h₁', ← T.target hfitted.device]
    cases result with
    | error e => exact ⟨rfl, hrestored.note _⟩
    | ok report => exact ⟨rfl, hrestored⟩

theorem drawEffect_mirrors (T : DrawTwins fed Same good ok drawn) (h : r.Alike Same good r')
    (hscene : scene.Alike fed scene') {effect : Effect} {geometry : Option Geometry}
    (hgeometry : ∀ g ∈ geometry, drawn g)
    (hpasses : ∀ technique, effect.default? = some technique → ∀ pass ∈ technique.passes,
      pass.valid = true → ok pass) :
    Mirrors (Alike Same good) (r.drawEffect scene effect geometry)
      (r'.drawEffect scene' effect geometry) := by
  unfold drawEffect
  cases hdefault : effect.default? with
  | none => exact ⟨rfl, h.note _⟩
  | some technique =>
    exact drawTechnique_mirrors T h hscene effect hgeometry (hpasses technique hdefault)

end Renderer

end ShaderEffects
