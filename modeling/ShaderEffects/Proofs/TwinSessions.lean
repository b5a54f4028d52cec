import ShaderEffects.Proofs.HostRuns
import ShaderEffects.Proofs.TwinEngines

/-!
# Sessions on two devices

A host that does the same with two sessions, on devices that answer alike, gets the same
replies from both, and the sessions stay alike. If their clocks show different times, the
sessions may differ in the numbers of the parameters to which the time is handed on.
-/
namespace ShaderEffects

variable {D₁ D₂ : Type}

namespace EffectDraft

theorem settle_directives (ps : Parameters) (drafts : List ParameterDraft) :
    (settle ps drafts).1.map (·.directives) = drafts.map (·.directives) := by
  induction drafts generalizing ps with
  | nil => rfl
  | cons p rest ih => exact congrArg (p.directives :: ·) (ih (ps.add p.cell).1)

end EffectDraft

/-- What compiles from a text asks for nothing but what is allowed. -/
def ModestText (fit : List Program → Prop) (blank : TextureDesc → Prop) (loads : Prop)
    (compiler : Compiler) (text : String) : Prop :=
  ∀ description draft, EffectDescription.ofText text = .ok description →
    EffectDraft.compile compiler description = .ok draft →
    Modest fit blank loads compiler (draft.parameters.map (·.directives)) draft.techniques

namespace Engine

variable {fed : Set ParameterId} {Same : D₁ → D₂ → Prop} {good : FullscreenQuad → Prop}
  {e : Engine D₁} {e' : Engine D₂}

theorem unload_mirrors (h : e.Alike fed Same good e') (handle : Handle Effect) :
    Mirrors (Alike fed Same good) (e.unload handle) (e'.unload handle) := by
  unfold unload
  rw [h.effects]
  cases e.effects.get? handle with
  | none => exact ⟨rfl, h⟩
  | some effect =>
    exact ⟨rfl, (h.withEffects (e.effects.erase handle)).withParameters
      (h.parameters.releaseAll effect.parameterIds)⟩

variable [Device D₁] [Device D₂] {fit : List Program → Prop} {blank : TextureDesc → Prop}
  {loads : Prop}

omit [Device D₁] in
/-- What is prepared is a draft that has come to life. -/
theorem prepare_eq_ok {e e₁ : Engine D₁} {name text : String} {effect : Effect}
    (h : e.prepare name text = (.ok effect, e₁)) :
    e₁.compiler = e.compiler ∧ ∃ description draft,
      EffectDescription.ofText text = .ok description ∧
        EffectDraft.compile e.compiler description = .ok draft ∧
        effect.parameters.map (·.directives) = draft.parameters.map (·.directives) ∧
        effect.techniques = draft.techniques := by
  unfold prepare at h
  cases hparse : EffectDescription.ofText text with
  | error fault => simp [hparse] at h
  | ok description =>
    simp only [hparse, note] at h
    cases hcompile : EffectDraft.compile e.compiler description with
    | error fault => simp [hcompile] at h
    | ok draft =>
      simp only [hcompile, Prod.mk.injEq, Except.ok.injEq] at h
      obtain ⟨rfl, rfl⟩ := h
      exact ⟨rfl, description, draft, rfl, hcompile,
        EffectDraft.settle_directives e.parameters draft.parameters, rfl⟩

theorem load_mirrors (T : LinkTwins Same fit blank loads) (h : e.Alike fed Same good e')
    (name : String) {text : String} (hmodest : ModestText fit blank loads e.compiler text)
    (hclosed : (e.load name text).2.parameters.Closed fed) :
    Mirrors (Alike fed Same good) (e.load name text) (e'.load name text) := by
  obtain ⟨prepared, e₁, e₁', h₁, h₁', halike⟩ := (prepare_mirrors h name text).split
  unfold load at hclosed ⊢
  rw [h₁] at hclosed ⊢
  rw [h₁']
  cases prepared with
  | error fault => exact ⟨rfl, halike⟩
  | ok effect =>
    obtain ⟨hcompiler, description, draft, hparse, hcompile, hdirectives, htechniques⟩ :=
      prepare_eq_ok h₁
    have hasked := hmodest description draft hparse hcompile
    rw [← hcompiler, ← hdirectives, ← htechniques] at hasked
    obtain ⟨hlinked, herrors, hengines⟩ := link_mirrors T halike hasked hclosed
    obtain ⟨hhandle, hinserted⟩ := insert_mirrors hengines (e₁.link effect).1
    simp only [← hlinked, herrors, hhandle]
    exact ⟨rfl, hinserted⟩

end Engine

namespace Session

variable {fed : Set ParameterId} {Same : D₁ → D₂ → Prop} {good : FullscreenQuad → Prop}
  {e : Engine D₁} {e' : Engine D₂}

/-! ## Frames -/

variable [Device D₁] [Device D₂] {ok : Pass → Prop} {drawn : Geometry → Prop}

theorem snapshot_mirrors (T : Twins fed Same) (h : e.Alike fed Same good e') (name : String) :
    Mirrors (Engine.Alike fed Same good) (snapshot e name) (snapshot e' name) := by
  unfold snapshot
  rw [h.textures]
  cases e.textures.byName? name with
  | none => exact ⟨rfl, h⟩
  | some texture =>
    have hne : Surface.backbuffer ≠ .texture texture.backing := by nofun
    obtain ⟨result, a, b, ha, hb, hsame⟩ := (T.copy h.device hne).split
    simp only [ha, hb]
    rcases result with (_ | _ | _ | _) | _
    · exact ⟨rfl, h.withDevice hsame⟩
    · exact ⟨rfl, (h.withDevice hsame).note _⟩
    · exact ⟨rfl, (h.withDevice hsame).note _⟩
    · exact ⟨rfl, (h.withDevice hsame).note _⟩
    · exact ⟨rfl, h.withDevice hsame⟩

/-- What may be drawn of some effects is `ok`. -/
def Vetted (ok : Pass → Prop) (effects : List Effect) : Prop :=
  ∀ effect ∈ effects, ∀ t ∈ effect.techniques, ∀ pass ∈ t.passes, pass.valid = true → ok pass

theorem drawEffects_mirrors (T : DrawTwins fed Same good ok drawn)
    (h : e.Alike fed Same good e') {geometry : Option Geometry}
    (hgeometry : ∀ g ∈ geometry, drawn g) {effects : List Effect} (hvetted : Vetted ok effects) :
    Mirrors (Engine.Alike fed Same good) (drawEffects e geometry effects)
      (drawEffects e' geometry effects) := by
  induction effects generalizing e e' with
  | nil => exact ⟨rfl, h⟩
  | cons effect rest ih =>
    have hdefault : ∀ t, effect.default? = some t → ∀ pass ∈ t.passes,
        pass.valid = true → ok pass := by
      intro t ht
      obtain ⟨index, _, hget⟩ := Option.bind_eq_some_iff.mp ht
      exact hvetted effect List.mem_cons_self t (List.mem_of_getElem? hget)
    obtain ⟨result, r, r', hr, hr', halike⟩ :=
      (Renderer.drawEffect_mirrors T h.renderer h.scene hgeometry hdefault).split
    rw [drawEffects, drawEffects, hr, hr']
    cases result with
    | error error => exact ⟨rfl, h.withRenderer halike⟩
    | ok report =>
      obtain ⟨reports, e₁, e₁', h₁, h₁', hrest⟩ :=
        (ih ((h.withRenderer halike).note [.passesDrawn effect.name report.passesDrawn])
          fun x hx => hvetted x (List.mem_cons_of_mem effect hx)).split
      simp only [h₁, h₁']
      cases reports <;> exact ⟨rfl, hrest⟩

theorem drawFrame_mirrors (T : DrawTwins fed Same good ok drawn)
    (h : e.Alike fed Same good e') {geometry : Option Geometry}
    (hgeometry : ∀ g ∈ geometry, drawn g)
    (hvetted : Vetted ok (e.effects.toList.map (·.2))) :
    Mirrors (Engine.Alike fed Same good) (drawFrame e geometry) (drawFrame e' geometry) := by
  obtain ⟨first, e₁, e₁', h₁, h₁', hfirst⟩ :=
    (snapshot_mirrors T.toTwins h Staging.thisFrame).split
  unfold drawFrame
  rw [h₁, h₁']
  cases first with
  | error error => exact ⟨rfl, hfirst⟩
  | ok _ =>
    have heffects : e₁.effects = e.effects := by
      obtain ⟨renderer, heq, _⟩ := snapshot_steps e Staging.thisFrame
      rw [h₁] at heq
      exact congrArg (·.effects) heq
    rw [← heffects] at hvetted
    obtain ⟨reports, e₂, e₂', h₂, h₂', hsecond⟩ :=
      (drawEffects_mirrors T hfirst hgeometry hvetted).split
    simp only [hfirst.effects, h₂, h₂']
    cases reports with
    | error error => exact ⟨rfl, hsecond⟩
    | ok reports =>
      obtain ⟨last, e₃, e₃', h₃, h₃', hlast⟩ :=
        (snapshot_mirrors T.toTwins hsecond Staging.lastFrame).split
      simp only [h₃, h₃']
      cases last <;> exact ⟨rfl, hlast⟩

/-- Two sessions that differ only in their devices, which are related, in the time that
their clocks show if something is fed, and in the numbers of what is fed. -/
structure Alike (fed : Set ParameterId) (Same : D₁ → D₂ → Prop) (good : FullscreenQuad → Prop)
    (s : Session D₁) (s' : Session D₂) : Prop where
  engine : s.engine.Alike fed Same good s'.engine
  settings : s'.settings = s.settings
  builtins : s'.builtins = s.builtins
  frames : s'.clock.frames = s.clock.frames
  clock : fed = ∅ → s.builtins ≠ none → s'.clock = s.clock

omit [Device D₁] [Device D₂] in
theorem Alike.withEngine {s : Session D₁} {s' : Session D₂} (h : s.Alike fed Same good s')
    {e : Engine D₁} {e' : Engine D₂} (he : e.Alike fed Same good e') :
    Alike fed Same good { s with engine := e } { s' with engine := e' } :=
  ⟨he, h.settings, h.builtins, h.frames, h.clock⟩

variable {s : Session D₁} {s' : Session D₂} {fit : List Program → Prop}
  {blank : TextureDesc → Prop} {loads : Prop}

theorem load_mirrors (T : LinkTwins Same fit blank loads) (h : s.Alike fed Same good s')
    (name : String) {text : String} (hmodest : ModestText fit blank loads s.engine.compiler text)
    (hclosed : (s.load name text).2.engine.parameters.Closed fed) :
    Mirrors (Alike fed Same good) (s.load name text) (s'.load name text) := by
  obtain ⟨hresult, halike⟩ := Engine.load_mirrors T h.engine name hmodest hclosed
  exact ⟨hresult, h.withEngine halike⟩

omit [Device D₁] [Device D₂] in
theorem Alike.effectPath (h : s.Alike fed Same good s') (path : String) :
    s'.effectPath path = s.effectPath path := by
  unfold Session.effectPath
  rw [h.engine.compiler]

/-- The text that a path leads to. -/
def textAt (compiler : Compiler) (path : String) : Except FileFault String :=
  compiler.files.readText
    (if compiler.files.contains path then path else (compiler.resolve? path).getD path)

theorem loadFile_mirrors (T : LinkTwins Same fit blank loads) (h : s.Alike fed Same good s')
    {path : String} (hmodest : ∀ text, textAt s.engine.compiler path = .ok text →
      ModestText fit blank loads s.engine.compiler text)
    (hclosed : (s.loadFile path).2.engine.parameters.Closed fed) :
    Mirrors (Alike fed Same good) (s.loadFile path) (s'.loadFile path) := by
  change ∀ text, s.engine.compiler.files.readText (s.effectPath path) = .ok text → _ at hmodest
  unfold loadFile at hclosed ⊢
  simp only [h.effectPath, h.engine.compiler] at hclosed ⊢
  cases hread : s.engine.compiler.files.readText (s.effectPath path) with
  | error fault => exact ⟨rfl, h⟩
  | ok text =>
    rw [hread] at hclosed
    exact load_mirrors T (h.withEngine (h.engine.note [.loadingEffect (s.effectPath path)])) _
      (hmodest text hread) hclosed

theorem unload_mirrors (T : Twins fed Same) (h : s.Alike fed Same good s')
    (handle : Handle Effect) :
    Mirrors (Alike fed Same good) (s.unload handle) (s'.unload handle) := by
  have hfreed := h.engine.withRenderer (Renderer.unbindPass_alike T h.engine.renderer)
  obtain ⟨effect, e, e', he, he', halike⟩ := (Engine.unload_mirrors hfreed handle).split
  unfold unload
  simp only [he, he']
  cases effect with
  | none => exact ⟨rfl, h.withEngine halike⟩
  | some effect => exact ⟨rfl, h.withEngine (halike.note _)⟩

theorem connect_mirrors (T : Twins fed Same) (h : s.Alike fed Same good s')
    (handle : Handle Effect) (parameter texture : String) :
    Mirrors (Alike fed Same good) (s.connect handle parameter texture)
      (s'.connect handle parameter texture) := by
  unfold connect
  simp only [h.engine.textures, h.engine.effects]
  cases s.engine.textures.find? texture with
  | none => exact ⟨rfl, h.withEngine (h.engine.note _)⟩
  | some texture =>
    cases (s.engine.effects.get? handle).bind (·.parameter? parameter) with
    | none => exact ⟨rfl, h⟩
    | some p =>
      obtain ⟨hresult, halike⟩ := Engine.connect_mirrors T h.engine p.id texture
      exact ⟨hresult, h.withEngine halike⟩

/-- The parameter for the time is fed, and so is all that is attached to what is fed. -/
structure FeedsTime (fed : Set ParameterId) (s : Session D₁) : Prop where
  closed : s.engine.parameters.Closed fed
  time : ∀ builtins, s.builtins = some builtins → builtins.time ∈ fed

/-- Nothing is fed, and the instants are the same; or the time is fed. -/
def Feeds (fed : Set ParameterId) (s : Session D₁) (now now' : Int) : Prop :=
  fed = ∅ ∧ now' = now ∨ s.FeedsTime fed

theorem prepared_alike (T : Twins fed Same) (h : s.Alike fed Same good s') {now now' : Int}
    (hfeeds : s.Feeds fed now now') :
    (s.prepared now).Alike fed Same good (s'.prepared now') := by
  unfold prepared
  rw [h.builtins]
  cases hbuiltins : s.builtins with
  | none => exact h.engine
  | some builtins =>
    have htime : (s.engine.parameters.setScalars builtins.time
        [seconds (s.clock.tick now).2.elapsed]).Alike fed
        (s'.engine.parameters.setScalars builtins.time
          [seconds (s'.clock.tick now').2.elapsed]) := by
      refine h.engine.parameters.write ?_
      rcases hfeeds with ⟨hnothing, rfl⟩ | hfeeds
      · rw [h.clock hnothing (by simp [hbuiltins])]
        exact Or.inl rfl
      · exact Or.inr ⟨⟨_, _, rfl, rfl⟩, hfeeds.closed, hfeeds.time builtins hbuiltins⟩
    have hframe : (s'.clock.tick now').2.frame = (s.clock.tick now).2.frame := h.frames
    simp only [updateBuiltins, ← T.backbufferSize h.engine.device, hframe]
    exact h.engine.withParameters ((htime.write_same _ _).write_same _ _)

theorem renderFrame_mirrors (T : DrawTwins fed Same good ok drawn)
    (h : s.Alike fed Same good s') {now now' : Int} (hfeeds : s.Feeds fed now now')
    {geometry : Option Geometry} (hgeometry : ∀ g ∈ geometry, drawn g)
    (hvetted : Vetted ok (s.engine.effects.toList.map (·.2))) :
    Mirrors (Alike fed Same good) (s.renderFrame now geometry) (s'.renderFrame now' geometry) := by
  have hprepared := prepared_alike T.toTwins h hfeeds
  have heffects : (s.prepared now).effects = s.engine.effects := by
    obtain ⟨writes, heq⟩ := s.prepared_eq now
    rw [heq]
  rw [← heffects] at hvetted
  rw [renderFrame_eq, renderFrame_eq, ← T.isLost h.engine.device]
  split_ifs
  · exact ⟨rfl, h⟩
  · obtain ⟨hresult, halike⟩ := drawFrame_mirrors T hprepared hgeometry hvetted
    refine ⟨hresult, halike, h.settings, h.builtins, congrArg (· + 1) h.frames, ?_⟩
    intro hnothing hbuiltins
    rcases hfeeds with ⟨_, rfl⟩ | hfeeds
    · simp only [h.clock hnothing hbuiltins]
    · obtain ⟨builtins, hsome⟩ := Option.ne_none_iff_exists'.mp hbuiltins
      have hfed := hfeeds.time builtins hsome
      rw [hnothing] at hfed
      exact absurd hfed (Set.notMem_empty _)

/-! ## Setting up -/

theorem stage_mirrors (T : LinkTwins Same fit blank loads) (h : e.Alike fed Same good e')
    {desc : TextureDesc} (hdesc : blank desc) (names : List String) :
    Mirrors (Engine.Alike fed Same good) (stage e desc names) (stage e' desc names) := by
  induction names generalizing e e' with
  | nil => exact ⟨rfl, h⟩
  | cons name rest ih =>
    obtain ⟨result, e₁, e₁', h₁, h₁', halike⟩ :=
      (Engine.createRegistered_mirrors T h name hdesc).split
    rw [stage, stage, h₁, h₁']
    cases result with
    | error error => exact ⟨rfl, halike⟩
    | ok handle => exact ih halike

omit [Device D₁] [Device D₂] in
theorem registerBuiltins_mirrors (h : e.Alike fed Same good e') :
    Mirrors (Engine.Alike fed Same good) (registerBuiltins e) (registerBuiltins e') := by
  unfold registerBuiltins
  obtain ⟨time, e₁, e₁', h₁, h₁', hfirst⟩ := (Engine.createVirtual_mirrors h "time" .float1).split
  rw [h₁, h₁']
  cases time with
  | error error => exact ⟨rfl, hfirst⟩
  | ok time =>
    obtain ⟨frame, e₂, e₂', h₂, h₂', hsecond⟩ :=
      (Engine.createVirtual_mirrors hfirst "frame" .float1).split
    simp only [h₂, h₂']
    cases frame with
    | error error => exact ⟨rfl, hsecond⟩
    | ok frame =>
      obtain ⟨resolution, e₃, e₃', h₃, h₃', hthird⟩ :=
        (Engine.createVirtual_mirrors hsecond "resolution" .float2).split
      simp only [h₃, h₃']
      cases resolution <;> exact ⟨rfl, hthird⟩

/-- Both sessions are set up and alike, or neither is, for the same reason. -/
inductive BothSetUp (fed : Set ParameterId) (Same : D₁ → D₂ → Prop)
    (good : FullscreenQuad → Prop) :
    Except LinkError (Session D₁) → Except LinkError (Session D₂) → Prop
  | neither (e : LinkError) : BothSetUp fed Same good (.error e) (.error e)
  | both {s : Session D₁} {s' : Session D₂} (h : s.Alike fed Same good s') :
    BothSetUp fed Same good (.ok s) (.ok s')

theorem create_alike (T : Twins fed Same) (L : LinkTwins Same fit blank loads)
    (hgood : ∀ width height halfPixel, good (.ofSize width height halfPixel)) {a : D₁} {b : D₂}
    (hsame : Same a b) (settings : Settings) (compiler : Compiler) {now now' : Int}
    (hnow : fed = ∅ → settings.builtinParameters = true → now' = now)
    (hstaging : blank (TextureDesc.target (Device.backbufferSize a).1 (Device.backbufferSize a).2
      settings.stagingFormat)) :
    BothSetUp fed Same good (create a settings compiler now).1
      (create b settings compiler now').1 := by
  have hbare : (bareEngine a settings compiler).Alike fed Same good
      (bareEngine b settings compiler) := by
    refine ⟨hgood _ _ _, b, {}, ?_, hsame, Parameters.alike_refl fed {}⟩
    simp only [bareEngine, Engine.on, Renderer.on, Renderer.ofDevice, T.backbufferSize hsame]
  have hready : ∀ {e : Engine D₁} {e' : Engine D₂} (builtins : Option Builtins) notices,
      (builtins ≠ none → settings.builtinParameters = true) → e.Alike fed Same good e' →
      Alike fed Same good ⟨e.note notices, settings, .startingAt now, builtins⟩
        ⟨e'.note notices, settings, .startingAt now', builtins⟩ := by
    refine fun _ notices hkept he => ⟨he.note notices, rfl, rfl, rfl, fun hnothing hsome => ?_⟩
    rw [hnow hnothing (hkept hsome)]
  obtain ⟨staged, e₁, e₁', h₁, h₁', hfirst⟩ := (stage_mirrors L hbare hstaging Staging.all).split
  unfold create
  simp only [← T.backbufferSize hsame, h₁, h₁']
  cases staged with
  | error error => exact .neither error
  | ok _ =>
    simp only
    split_ifs with hsettings
    · obtain ⟨builtins, e₂, e₂', h₂, h₂', hsecond⟩ := (registerBuiltins_mirrors hfirst).split
      simp only [h₂, h₂']
      cases builtins with
      | error error => exact .neither error
      | ok builtins => exact .both (hready _ _ (fun _ => hsettings) hsecond)
    · exact .both (hready _ _ (fun hnone => absurd rfl hnone) hfirst)

end Session

end ShaderEffects
