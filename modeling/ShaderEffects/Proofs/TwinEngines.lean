import Mathlib.Data.List.Find
import ShaderEffects.Proofs.LinkedEffects
import ShaderEffects.Proofs.TwinRenderers

/-!
# Engines on two devices

Linking asks a device whether it can use the programs of a pass, and for textures. Where
two devices answer alike, an effect is linked alike on both: with the same problems, the
same choice of a technique, the same targets and the same registered textures.
-/
namespace ShaderEffects

variable {D₁ D₂ : Type}

/-- Devices that answer alike while effects are linked, if the programs of each pass are
`fit`, the blank textures are `blank`, and files are loaded only if `loads`. -/
structure LinkTwins [Device D₁] [Device D₂] (Same : D₁ → D₂ → Prop)
    (fit : List Program → Prop) (blank : TextureDesc → Prop) (loads : Prop) : Prop where
  supports : ∀ {a b}, Same a b → ∀ {programs}, fit programs → ∀ p ∈ programs,
    Device.supports a p.profile = Device.supports b p.profile
  validate : ∀ {a b}, Same a b → ∀ {programs}, fit programs →
    Mirrors Same (Device.validate a programs) (Device.validate b programs)
  createTexture : ∀ {a b}, Same a b → ∀ name {desc}, blank desc →
    Mirrors Same (Device.createTexture a name desc) (Device.createTexture b name desc)
  loadTexture : loads → ∀ {a b}, Same a b → ∀ files name path,
    Mirrors (fun x y => Same x.1 y.1 ∧ x.2 = y.2) (Device.loadTexture a files name path)
      (Device.loadTexture b files name path)

/-- What is linked asks for nothing but what is allowed: `directives` are the annotations
of its parameters. -/
structure Modest (fit : List Program → Prop) (blank : TextureDesc → Prop) (loads : Prop)
    (compiler : Compiler) (directives : List (List Directive)) (techniques : List Technique) :
    Prop where
  passes : ∀ t ∈ techniques, ∀ pass ∈ t.passes, pass.programs ≠ [] → fit pass.programs
  blanks : ∀ ds ∈ directives, ∀ name desc, Directive.texture? ds = some (name, .ok desc) →
    blank desc
  files : ∀ ds ∈ directives, ∀ name wanted, Directive.texture? ds = some (name, wanted) →
    loads ∨ compiler.resolve? name = none

namespace Engine

/-- The engine on another device, with other parameters. -/
def on (e : Engine D₁) (d : D₂) (parameters : Parameters) : Engine D₂ where
  parameters
  textures := e.textures
  effects := e.effects
  compiler := e.compiler
  renderer := e.renderer.on d

/-- Two engines that differ only in their devices, which are related, and in the numbers
of what was fed. -/
def Alike (fed : Set ParameterId) (Same : D₁ → D₂ → Prop) (good : FullscreenQuad → Prop)
    (e : Engine D₁) (e' : Engine D₂) : Prop :=
  good e.renderer.quad ∧ ∃ d parameters, e' = e.on d parameters ∧ Same e.device d ∧
    e.parameters.Alike fed parameters

variable {fed : Set ParameterId} {Same : D₁ → D₂ → Prop} {good : FullscreenQuad → Prop}
  {e : Engine D₁} {e' : Engine D₂}

theorem Alike.device (h : e.Alike fed Same good e') : Same e.device e'.device := by
  obtain ⟨_, d, ps, rfl, hd, _⟩ := h
  exact hd

theorem Alike.renderer (h : e.Alike fed Same good e') :
    e.renderer.Alike Same good e'.renderer := by
  obtain ⟨hquad, d, ps, rfl, hd, _⟩ := h
  exact ⟨hquad, d, rfl, hd⟩

theorem Alike.parameters (h : e.Alike fed Same good e') :
    e.parameters.Alike fed e'.parameters := by
  obtain ⟨_, _, _, rfl, _, hps⟩ := h
  exact hps

theorem Alike.textures (h : e.Alike fed Same good e') : e'.textures = e.textures := by
  obtain ⟨_, _, _, rfl, _⟩ := h
  rfl

theorem Alike.effects (h : e.Alike fed Same good e') : e'.effects = e.effects := by
  obtain ⟨_, _, _, rfl, _⟩ := h
  rfl

theorem Alike.compiler (h : e.Alike fed Same good e') : e'.compiler = e.compiler := by
  obtain ⟨_, _, _, rfl, _⟩ := h
  rfl

theorem Alike.scene (h : e.Alike fed Same good e') : e.scene.Alike fed e'.scene :=
  ⟨h.parameters, h.textures⟩

theorem Alike.note (h : e.Alike fed Same good e') (notices : List Notice) :
    (e.note notices).Alike fed Same good (e'.note notices) := by
  obtain ⟨hquad, d, ps, rfl, hd, hps⟩ := h
  exact ⟨hquad, d, ps, rfl, hd, hps⟩

theorem Alike.withParameters (h : e.Alike fed Same good e') {ps ps' : Parameters}
    (hps : ps.Alike fed ps') :
    ({ e with parameters := ps } : Engine D₁).Alike fed Same good
      { e' with parameters := ps' } := by
  obtain ⟨hquad, d, _, rfl, hd, _⟩ := h
  exact ⟨hquad, d, ps', rfl, hd, hps⟩

theorem Alike.withEffects (h : e.Alike fed Same good e') (effects : Arena Effect) :
    ({ e with effects } : Engine D₁).Alike fed Same good { e' with effects } := by
  obtain ⟨hquad, d, ps, rfl, hd, hps⟩ := h
  exact ⟨hquad, d, ps, rfl, hd, hps⟩

theorem Alike.withRenderer (h : e.Alike fed Same good e') {r : Renderer D₁} {r' : Renderer D₂}
    (hr : r.Alike Same good r') :
    ({ e with renderer := r } : Engine D₁).Alike fed Same good { e' with renderer := r' } := by
  obtain ⟨_, _, ps, rfl, _, hps⟩ := h
  obtain ⟨hquad, d, rfl, hd⟩ := hr
  exact ⟨hquad, d, ps, rfl, hd, hps⟩

theorem Alike.withDevice (h : e.Alike fed Same good e') {a : D₁} {b : D₂} (hd : Same a b) :
    (e.withDevice a).Alike fed Same good (e'.withDevice b) := by
  obtain ⟨hquad, _, ps, rfl, _, hps⟩ := h
  exact ⟨hquad, b, ps, rfl, hd, hps⟩

theorem createVirtual_mirrors (h : e.Alike fed Same good e') (name : String)
    (type : ParameterType) :
    Mirrors (Alike fed Same good) (e.createVirtual name type) (e'.createVirtual name type) := by
  unfold createVirtual
  rcases h.parameters.createVirtual name type with
    ⟨error, hps, hps'⟩ | ⟨id, ps, ps', hps, hps', halike⟩ <;>
    rw [hps, hps']
  · exact ⟨rfl, h⟩
  · exact ⟨rfl, (h.withParameters halike).note _⟩

theorem registerTexture_mirrors (h : e.Alike fed Same good e') (name : String)
    (backing : TextureId) (desc : TextureDesc) :
    Mirrors (Alike fed Same good) (e.registerTexture name backing desc)
      (e'.registerTexture name backing desc) := by
  unfold registerTexture
  rw [h.textures]
  rcases e.textures.register name backing desc with error | ⟨handle, textures⟩
  · exact ⟨rfl, h⟩
  · obtain ⟨hquad, d, ps, rfl, hd, hps⟩ := h
    exact ⟨rfl, hquad, d, ps, rfl, hd, hps⟩

theorem write_alike (h : e.Alike fed Same good e') (id : ParameterId) (w : Write) :
    (e.write id w).Alike fed Same good (e'.write id w) :=
  h.withParameters (h.parameters.write_same id w)

variable [Device D₁] [Device D₂]

theorem connect_mirrors (T : Twins fed Same) (h : e.Alike fed Same good e') (id : ParameterId)
    (texture : Handle Texture) :
    Mirrors (Alike fed Same good) (e.connect id texture) (e'.connect id texture) := by
  have hwritten := write_alike h id (.texture (some texture))
  unfold connect
  simp only
  obtain ⟨connected, r, r', hr, hr', halike⟩ :=
    (Renderer.connected_mirrors T hwritten.renderer hwritten.scene id).split
  rw [hr, hr']
  exact ⟨rfl, hwritten.withRenderer halike⟩

variable {fit : List Program → Prop} {blank : TextureDesc → Prop} {loads : Prop}

theorem createRegistered_mirrors (T : LinkTwins Same fit blank loads) (h : e.Alike fed Same good e')
    (name : String) {desc : TextureDesc} (hdesc : blank desc) :
    Mirrors (Alike fed Same good) (e.createRegistered name desc)
      (e'.createRegistered name desc) := by
  obtain ⟨result, a, b, ha, hb, hsame⟩ := (T.createTexture h.device name hdesc).split
  unfold createRegistered
  rw [ha, hb]
  cases result with
  | error error => exact ⟨rfl, h.withDevice hsame⟩
  | ok backing => exact registerTexture_mirrors (h.withDevice hsame) name backing desc

theorem createTexture_mirrors (T : LinkTwins Same fit blank loads) (h : e.Alike fed Same good e')
    (name : String) {desc : TextureDesc} (hdesc : blank desc) :
    Mirrors (Alike fed Same good) (e.createTexture name desc) (e'.createTexture name desc) := by
  unfold createTexture
  rw [h.textures]
  split_ifs
  · exact ⟨rfl, h⟩
  · exact createRegistered_mirrors T h name hdesc

end Engine

/-! ## Linking -/

namespace EffectDraft

variable {fed : Set ParameterId} {ps ps' : Parameters}

theorem settle_alike (h : ps.Alike fed ps') (drafts : List ParameterDraft) :
    (settle ps drafts).1 = (settle ps' drafts).1 ∧
      (settle ps drafts).2.Alike fed (settle ps' drafts).2 := by
  induction drafts generalizing ps ps' with
  | nil => exact ⟨rfl, h⟩
  | cons p rest ih =>
    obtain ⟨hid, hadded⟩ := h.add p.cell
    obtain ⟨hothers, hrest⟩ := ih hadded
    simp only [settle, hid, hothers]
    exact ⟨trivial, hrest⟩

theorem install_alike (draft : EffectDraft) (h : ps.Alike fed ps') :
    (draft.install ps).1 = (draft.install ps').1 ∧
      (draft.install ps).2.Alike fed (draft.install ps').2 := by
  obtain ⟨hparameters, halike⟩ := settle_alike h draft.parameters
  simp only [install, hparameters]
  exact ⟨trivial, halike⟩

end EffectDraft

namespace Engine

variable {D : Type} [Device D] {e e' : Engine D} {fed : Set ParameterId}

theorem Step.edge (h : e.Step e') {a b : ParameterId} (hab : e.parameters.Edge a b) :
    e'.parameters.Edge a b := by
  cases h with
  | note | call | create | load => exact hab
  | attach hattach => exact Parameters.edge_attach hattach hab
  | give id _ =>
    simp only [write, Parameters.edge_write]
    exact hab

/-- Linking takes no attachment away, so what is closed in the end was closed before. -/
theorem Steps.closed (h : e.Steps e') (hclosed : e'.parameters.Closed fed) :
    e.parameters.Closed fed := by
  refine hclosed.of_grown fun a b hab => ?_
  exact h.keep (P := fun e => e.parameters.Edge a b) (fun _ _ hstep hab => hstep.edge hab) hab

/-- What follows the attaching of parameters when an effect is linked. -/
theorem linkParameters_steps_link (e : Engine D) (effect : Effect) :
    (({ engine := e } : Linking D).linkParameters effect).engine.Steps (e.link effect).2.2 :=
  (((Linking.resolveSamplers_steps _ effect).trans (Linking.choose_steps _ effect)).trans
    (Linking.aim_steps _ _)).trans (Linking.note_steps _ _)

end Engine

namespace Linking

/-- Two links that have the same problems so far, in engines that are alike. -/
def Alike (fed : Set ParameterId) (Same : D₁ → D₂ → Prop) (good : FullscreenQuad → Prop)
    (l : Linking D₁) (l' : Linking D₂) : Prop :=
  l.errors = l'.errors ∧ l.engine.Alike fed Same good l'.engine

variable {fed : Set ParameterId} {Same : D₁ → D₂ → Prop} {good : FullscreenQuad → Prop}
  {l : Linking D₁} {l' : Linking D₂}

theorem Alike.note (h : l.Alike fed Same good l') (notices : List Notice) :
    (l.note notices).Alike fed Same good (l'.note notices) := ⟨h.1, h.2.note notices⟩

theorem Alike.report (h : l.Alike fed Same good l') (errors : List LinkError) :
    (l.report errors).Alike fed Same good (l'.report errors) := by
  refine ⟨?_, h.2⟩
  simp only [Linking.report, h.1]

theorem Alike.withEngine (h : l.Alike fed Same good l') {e : Engine D₁} {e' : Engine D₂}
    (he : e.Alike fed Same good e') :
    Alike fed Same good { l with engine := e } { l' with engine := e' } := ⟨h.1, he⟩

theorem reportMalformed_alike (h : l.Alike fed Same good l') (owner : String)
    (directives : List Directive) :
    (l.reportMalformed owner directives).Alike fed Same good
      (l'.reportMalformed owner directives) :=
  (h.note _).report _

theorem foldl_alike {α : Type} {f : Linking D₁ → α → Linking D₁} {f' : Linking D₂ → α → Linking D₂}
    {xs : List α}
    (hf : ∀ {l : Linking D₁} {l' : Linking D₂}, l.Alike fed Same good l' → ∀ x ∈ xs,
      (f l x).Alike fed Same good (f' l' x))
    (h : l.Alike fed Same good l') : (xs.foldl f l).Alike fed Same good (xs.foldl f' l') := by
  induction xs generalizing l l' with
  | nil => exact h
  | cons x xs ih =>
    exact ih (fun hl y hy => hf hl y (List.mem_cons_of_mem x hy)) (hf h x List.mem_cons_self)

theorem linkParameter_alike (effect : String) (h : l.Alike fed Same good l') (p : EffectParameter)
    (hclosed : (linkParameter effect l p).engine.parameters.Closed fed) :
    (linkParameter effect l p).Alike fed Same good (linkParameter effect l' p) := by
  have hreported := reportMalformed_alike h p.name p.directives
  unfold linkParameter at hclosed ⊢
  simp only [hreported.2.parameters.find?] at hclosed ⊢
  cases hglobal : Directive.globalLink? p.directives with
  | none => exact hreported
  | some global =>
    simp only [hglobal] at hclosed ⊢
    cases hfind : (l.reportMalformed p.name p.directives).engine.parameters.find? global p.type with
    | none => exact (hreported.note _).report _
    | some target =>
      simp only [hfind] at hclosed ⊢
      have hattach := hreported.2.parameters.attach target p.id fun qs hqs => by
        rw [hqs] at hclosed
        exact hclosed
      rcases hattach with ⟨e, ha, ha'⟩ | ⟨ps, ps', ha, ha', halike⟩ <;> simp only [ha, ha']
      · exact (hreported.note _).report _
      · exact (hreported.withEngine (hreported.2.withParameters halike)).note _

variable [Device D₁] [Device D₂] {fit : List Program → Prop} {blank : TextureDesc → Prop}
  {loads : Prop}

omit [Device D₂] in
theorem linkParameters_alike (h : l.Alike fed Same good l') (effect : Effect)
    (hclosed : (l.linkParameters effect).engine.parameters.Closed fed) :
    (l.linkParameters effect).Alike fed Same good (l'.linkParameters effect) := by
  unfold linkParameters at hclosed ⊢
  generalize effect.parameters = ps at hclosed ⊢
  induction ps generalizing l l' with
  | nil => exact h
  | cons p rest ih =>
    have hrest := foldl_steps (linkParameter_steps effect.name) (linkParameter effect.name l p) rest
    exact ih (linkParameter_alike effect.name h p (hrest.closed hclosed)) hclosed

/-! ### Samplers -/

omit [Device D₁] [Device D₂] in
theorem give_alike (h : l.Alike fed Same good l') (id : ParameterId) (texture : Handle Texture) :
    (l.give id texture).Alike fed Same good (l'.give id texture) :=
  h.withEngine (Engine.write_alike h.2 id _)

theorem loadFile_mirrors (T : LinkTwins Same fit blank loads) (hloads : loads)
    (h : l.Alike fed Same good l') (name path : String) :
    Mirrors (Alike fed Same good) (l.loadFile name path) (l'.loadFile name path) := by
  unfold loadFile
  rw [h.2.compiler]
  obtain ⟨result, ⟨a, notices⟩, ⟨b, _⟩, ha, hb, hsame, rfl⟩ :=
    (T.loadTexture hloads h.2.device l.engine.compiler.files name path).split
  simp only [ha, hb]
  have hloaded := (h.withEngine (h.2.withDevice hsame)).note notices
  rcases result with e | ⟨backing, desc⟩
  · exact ⟨rfl, hloaded.note _⟩
  · obtain ⟨registered, e, e', he, he', halike⟩ :=
      (Engine.registerTexture_mirrors hloaded.2 name backing desc).split
    simp only [he, he']
    cases registered with
    | error error => exact ⟨rfl, (hloaded.withEngine halike).report _⟩
    | ok handle => exact ⟨rfl, (hloaded.withEngine halike).note _⟩

theorem giveBlank_alike (T : LinkTwins Same fit blank loads) (effect : String)
    (h : l.Alike fed Same good l') (p : EffectParameter) (name : String) {wanted : BlankTarget}
    (hwanted : ∀ desc, wanted = .ok desc → blank desc) :
    (l.giveBlank effect p name wanted).Alike fed Same good (l'.giveBlank effect p name wanted) := by
  cases wanted with
  | error fault => exact (h.note _).report _
  | ok desc =>
    obtain ⟨created, e, e', he, he', halike⟩ :=
      (Engine.createRegistered_mirrors T h.2 name (hwanted desc rfl)).split
    simp only [giveBlank, he, he']
    cases created with
    | error error => exact ((h.withEngine halike).note _).report _
    | ok handle => exact give_alike ((h.withEngine halike).note _) p.id handle

theorem resolveSampler_alike (T : LinkTwins Same fit blank loads) (effect : String)
    (h : l.Alike fed Same good l') (p : EffectParameter)
    (hblank : ∀ name desc, Directive.texture? p.directives = some (name, .ok desc) → blank desc)
    (hfile : ∀ name wanted, Directive.texture? p.directives = some (name, wanted) →
      loads ∨ l.engine.compiler.resolve? name = none) :
    (resolveSampler effect l p).Alike fed Same good (resolveSampler effect l' p) := by
  unfold resolveSampler heldTexture? load
  rw [h.2.parameters.texture, h.2.textures, h.2.compiler]
  split_ifs
  · exact h
  · cases hwanted : Directive.texture? p.directives with
    | none => exact h
    | some wanted =>
      obtain ⟨name, wanted⟩ := wanted
      have hdesc : ∀ desc, wanted = .ok desc → blank desc := by
        rintro desc rfl
        exact hblank name desc hwanted
      simp only
      cases l.engine.textures.find? name with
      | some handle => exact give_alike h p.id handle
      | none =>
        cases hpath : l.engine.compiler.resolve? name with
        | none => exact giveBlank_alike T effect h p name hdesc
        | some path =>
          have hloads : loads := (hfile name wanted hwanted).resolve_right (by rw [hpath]; nofun)
          obtain ⟨loaded, l₁, l₁', h₁, h₁', halike⟩ :=
            (loadFile_mirrors T hloads h name path).split
          simp only [h₁, h₁']
          cases loaded with
          | some handle => exact give_alike halike p.id handle
          | none => exact giveBlank_alike T effect halike p name hdesc

theorem resolveSamplers_alike (T : LinkTwins Same fit blank loads) (h : l.Alike fed Same good l')
    (effect : Effect)
    (hmodest : Modest fit blank loads l.engine.compiler (effect.parameters.map (·.directives))
      effect.techniques) :
    (l.resolveSamplers effect).Alike fed Same good (l'.resolveSamplers effect) := by
  -- the compiler stays as it is from one parameter to the next
  have hfold : ∀ ps : List EffectParameter, (∀ p ∈ ps, p ∈ effect.parameters) →
      ∀ {m : Linking D₁} {m' : Linking D₂}, m.Alike fed Same good m' →
      m.engine.compiler = l.engine.compiler →
      (ps.foldl (resolveSampler effect.name) m).Alike fed Same good
        (ps.foldl (resolveSampler effect.name) m') := by
    intro ps
    induction ps with
    | nil => exact fun _ _ _ hm _ => hm
    | cons p rest ih =>
      intro hps m m' hm hcompiler
      have hds : p.directives ∈ effect.parameters.map (·.directives) :=
        List.mem_map_of_mem (hps p List.mem_cons_self)
      refine ih (fun q hq => hps q (List.mem_cons_of_mem p hq)) ?_ ?_
      · refine resolveSampler_alike T effect.name hm p (hmodest.blanks _ hds) ?_
        rw [hcompiler]
        exact hmodest.files _ hds
      · exact (resolveSampler_steps effect.name m p).compiler.trans hcompiler
  exact hfold effect.parameters (fun _ hp => hp) h rfl

/-! ### Techniques -/

theorem validate_mirrors (T : LinkTwins Same fit blank loads) (h : l.Alike fed Same good l')
    {programs : List Program} (hfit : programs ≠ [] → fit programs) :
    Mirrors (Alike fed Same good) (l.validate programs) (l'.validate programs) := by
  unfold validate
  split_ifs with hempty
  · exact ⟨rfl, h⟩
  · have hprograms : fit programs := hfit (by simpa using hempty)
    have hunsupported : programs.find? (fun p => !Device.supports l.engine.device p.profile) =
        programs.find? (fun p => !Device.supports l'.engine.device p.profile) := by
      refine List.find?_congr fun p hp => ?_
      rw [T.supports h.2.device hprograms p hp]
    rw [← hunsupported]
    cases programs.find? fun p => !Device.supports l.engine.device p.profile with
    | some p => exact ⟨rfl, h⟩
    | none =>
      obtain ⟨result, a, b, ha, hb, hsame⟩ := (T.validate h.2.device hprograms).split
      simp only [ha, hb]
      cases result <;> exact ⟨rfl, h.withEngine (h.2.withDevice hsame)⟩

theorem validatePass_mirrors (T : LinkTwins Same fit blank loads) (effect : String)
    (h : l.Alike fed Same good l') {pass : Pass} (hfit : pass.programs ≠ [] → fit pass.programs) :
    Mirrors (Alike fed Same good) (validatePass effect l pass) (validatePass effect l' pass) := by
  obtain ⟨result, l₁, l₁', h₁, h₁', halike⟩ := (validate_mirrors T h hfit).split
  unfold validatePass
  rw [h₁, h₁']
  cases result with
  | error fault => exact ⟨rfl, halike.note _⟩
  | ok _ => exact ⟨rfl, halike⟩

theorem validatePasses_mirrors (T : LinkTwins Same fit blank loads) (effect : String)
    (h : l.Alike fed Same good l') {passes : List Pass}
    (hfit : ∀ pass ∈ passes, pass.programs ≠ [] → fit pass.programs) :
    Mirrors (Alike fed Same good) (validatePasses effect l passes)
      (validatePasses effect l' passes) := by
  induction passes generalizing l l' with
  | nil => exact ⟨rfl, h⟩
  | cons pass rest ih =>
    obtain ⟨first, l₁, l₁', h₁, h₁', halike⟩ :=
      (validatePass_mirrors T effect h (hfit pass List.mem_cons_self)).split
    obtain ⟨others, l₂, l₂', h₂, h₂', hrest⟩ :=
      (ih halike fun p hp => hfit p (List.mem_cons_of_mem pass hp)).split
    simp only [validatePasses, h₁, h₁', h₂, h₂']
    exact ⟨rfl, hrest⟩

theorem validateTechnique_mirrors (T : LinkTwins Same fit blank loads) (effect : String)
    (h : l.Alike fed Same good l') {t : Technique}
    (hfit : ∀ pass ∈ t.passes, pass.programs ≠ [] → fit pass.programs) :
    Mirrors (Alike fed Same good) (validateTechnique effect l t)
      (validateTechnique effect l' t) := by
  obtain ⟨passes, l₁, l₁', h₁, h₁', halike⟩ := (validatePasses_mirrors T effect h hfit).split
  unfold validateTechnique
  simp only [h₁, h₁']
  split_ifs
  · exact ⟨rfl, halike⟩
  · exact ⟨rfl, halike.note _⟩

theorem validateTechniques_mirrors (T : LinkTwins Same fit blank loads) (effect : String)
    (h : l.Alike fed Same good l') {techniques : List Technique}
    (hfit : ∀ t ∈ techniques, ∀ pass ∈ t.passes, pass.programs ≠ [] → fit pass.programs) :
    Mirrors (Alike fed Same good) (validateTechniques effect l techniques)
      (validateTechniques effect l' techniques) := by
  induction techniques generalizing l l' with
  | nil => exact ⟨rfl, h⟩
  | cons t rest ih =>
    obtain ⟨first, l₁, l₁', h₁, h₁', halike⟩ :=
      (validateTechnique_mirrors T effect h (hfit t List.mem_cons_self)).split
    obtain ⟨others, l₂, l₂', h₂, h₂', hrest⟩ :=
      (ih halike fun t' ht' => hfit t' (List.mem_cons_of_mem t ht')).split
    simp only [validateTechniques, h₁, h₁', h₂, h₂']
    exact ⟨rfl, hrest⟩

theorem choose_mirrors (T : LinkTwins Same fit blank loads) (h : l.Alike fed Same good l')
    {effect : Effect}
    (hfit : ∀ t ∈ effect.techniques, ∀ pass ∈ t.passes, pass.programs ≠ [] → fit pass.programs) :
    Mirrors (Alike fed Same good) (l.choose effect) (l'.choose effect) := by
  obtain ⟨techniques, l₁, l₁', h₁, h₁', halike⟩ :=
    (validateTechniques_mirrors T effect.name h hfit).split
  unfold choose
  simp only [h₁, h₁']
  split_ifs
  · exact ⟨rfl, halike⟩
  · exact ⟨rfl, (halike.note _).report _⟩

/-! ### Targets -/

omit [Device D₁] [Device D₂] in
theorem reportPass_alike (technique : String) (h : l.Alike fed Same good l') (pass : Pass) :
    (reportPass technique l pass).Alike fed Same good (reportPass technique l' pass) := by
  unfold reportPass
  rw [h.2.textures]
  exact (reportMalformed_alike h _ _).note _

omit [Device D₁] [Device D₂] in
theorem aim_mirrors (h : l.Alike fed Same good l') (effect : Effect) :
    Mirrors (Alike fed Same good) (l.aim effect) (l'.aim effect) := by
  unfold aim
  rw [h.2.textures]
  refine ⟨rfl, foldl_alike (fun hl t _ => ?_) h⟩
  exact foldl_alike (fun hm pass _ => reportPass_alike _ hm pass) (reportMalformed_alike hl _ _)

end Linking

namespace Engine

variable [Device D₁] [Device D₂] {Same : D₁ → D₂ → Prop} {good : FullscreenQuad → Prop}
  {fit : List Program → Prop} {blank : TextureDesc → Prop} {loads : Prop} {e : Engine D₁}
  {e' : Engine D₂}

/-- Linking is to choose a technique, to find the targets, and a notice. -/
theorem link_eq {D : Type} [Device D] (e : Engine D) (effect : Effect) {aimed : Effect}
    {l : Linking D} (h : (e.chosen effect).2.aim (e.chosen effect).1 = (aimed, l)) :
    e.link effect = (aimed, l.errors,
      l.engine.note [.effectLinked aimed.name (aimed.default?.map (·.name)) l.errors.length]) := by
  have hlink : ∀ x, (e.chosen effect).2.aim (e.chosen effect).1 = x →
      e.link effect = (x.1, x.2.errors, x.2.engine.note
        [.effectLinked x.1.name (x.1.default?.map (·.name)) x.2.errors.length]) := by
    rintro _ rfl
    rfl
  exact hlink (aimed, l) h

/-- An effect is linked alike on both devices. -/
theorem link_mirrors (T : LinkTwins Same fit blank loads) (h : e.Alike fed Same good e')
    {effect : Effect} (hmodest : Modest fit blank loads e.compiler
      (effect.parameters.map (·.directives)) effect.techniques)
    (hclosed : (e.link effect).2.2.parameters.Closed fed) :
    (e.link effect).1 = (e'.link effect).1 ∧
      Mirrors (Alike fed Same good) (e.link effect).2 (e'.link effect).2 := by
  have hbegun : ({ engine := e } : Linking D₁).Alike fed Same good { engine := e' } := ⟨rfl, h⟩
  have hrest : (({ engine := e } : Linking D₁).linkParameters effect).engine.Steps
      (e.link effect).2.2 := linkParameters_steps_link e effect
  have hlinked := Linking.linkParameters_alike hbegun effect (hrest.closed hclosed)
  have hcompiler : (({ engine := e } : Linking D₁).linkParameters effect).engine.compiler =
      e.compiler := (Linking.linkParameters_steps { engine := e } effect).compiler
  rw [← hcompiler] at hmodest
  have hsampled := Linking.resolveSamplers_alike T hlinked effect hmodest
  obtain ⟨chosen, l₁, l₁', h₁, h₁', hchosen⟩ :=
    (Linking.choose_mirrors T hsampled hmodest.passes).split
  obtain ⟨aimed, l₂, l₂', h₂, h₂', haimed⟩ := (Linking.aim_mirrors hchosen chosen).split
  have haim : (e.chosen effect).2.aim (e.chosen effect).1 = (aimed, l₂) := by
    rw [show e.chosen effect = (chosen, l₁) from h₁, h₂]
  have haim' : (e'.chosen effect).2.aim (e'.chosen effect).1 = (aimed, l₂') := by
    rw [show e'.chosen effect = (chosen, l₁') from h₁', h₂']
  rw [link_eq e effect haim, link_eq e' effect haim']
  refine ⟨rfl, haimed.1, ?_⟩
  rw [haimed.1]
  exact haimed.2.note _

omit [Device D₁] [Device D₂] in
theorem prepare_mirrors (h : e.Alike fed Same good e') (name text : String) :
    Mirrors (Alike fed Same good) (e.prepare name text) (e'.prepare name text) := by
  unfold prepare
  cases EffectDescription.ofText text with
  | error fault => exact ⟨rfl, h⟩
  | ok description =>
    obtain ⟨hquad, d, ps, rfl, hd, hps⟩ := h
    simp only [note, on]
    cases EffectDraft.compile e.compiler description with
    | error fault => exact ⟨rfl, hquad, d, ps, rfl, hd, hps⟩
    | ok draft =>
      obtain ⟨heffect, halike⟩ := draft.install_alike hps
      exact ⟨congrArg Except.ok heffect, hquad, d, _, rfl, hd, halike⟩

omit [Device D₁] [Device D₂] in
theorem insert_mirrors (h : e.Alike fed Same good e') (effect : Effect) :
    Mirrors (Alike fed Same good) (e.insert effect) (e'.insert effect) := by
  unfold insert
  rw [h.effects]
  exact ⟨rfl, h.withEffects _⟩

end Engine

end ShaderEffects
