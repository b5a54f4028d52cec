import ShaderEffects.Proofs.OwnedEffects
import ShaderEffects.Proofs.SuppliedTextures

/-!
# The textures that every draw samples

A draw samples the texture that its effect's parameter holds at that time. Where the
parameter holds none, it samples what the draws before it left in the slot, whichever
effects share the program and whatever happened in between.
-/
namespace ShaderEffects

/-- Each of some things that happen one after the other is good, given those before it. -/
def Follows {α : Type} (good : List α → α → Prop) (before : List α) : List α → Prop
  | [] => True
  | x :: rest => good before x ∧ Follows good (before ++ [x]) rest

section follows

variable {α : Type} {good : List α → α → Prop} {before : List α}

theorem follows_append {xs ys : List α} :
    Follows good before (xs ++ ys) ↔
      Follows good before xs ∧ Follows good (before ++ xs) ys := by
  induction xs generalizing before with
  | nil => simp [Follows]
  | cons x rest ih => simp [Follows, ih, and_assoc]

/-- What happened last is good, given all that happened before it. -/
theorem Follows.split {xs ys : List α} {x : α} (h : Follows good [] (xs ++ x :: ys)) :
    good xs x := (follows_append.mp h).2.1

end follows

variable {D : Type} [Device D] [RegisterFile D] [SamplerFile D]

/-- Each program of the pass is bound, and each of its slots has the texture that the
parameter of its name holds. If that holds none, the slot has what the draws before
supplied for it last. What a slot has, the device has. -/
def SceneDraw.Samples (before : List (SceneDraw D)) (draw : SceneDraw D) : Prop :=
  ∀ program ∈ draw.pass.programs, ∃ id,
    RegisterFile.boundAt draw.device program.stage = some id ∧
      ∀ slot ∈ program.constants.samplers, ∃ ep p,
        draw.effect.parameter? slot.parameter = some ep ∧
        draw.scene.parameters.get? ep.id = some p ∧
        SamplerFile.HasSlot draw.device id slot.slot ∧
        SamplerFile.sampler? draw.device id slot.slot =
          ((p.texture.bind draw.scene.textures.get?).map (·.backing)).or
            (lastSupplied? program.key slot.parameter before) ∧
        ∀ texture, SamplerFile.sampler? draw.device id slot.slot = some texture →
          SamplerFile.HasTexture draw.device texture

/-- The registered textures are on a device. -/
def TextureRegistry.StoredOn (textures : TextureRegistry) (d : D) : Prop :=
  ∀ handle texture, textures.get? handle = some texture →
    SamplerFile.HasTexture d texture.backing

namespace Renderer

variable {r r' : Renderer D}

/-- A run of a renderer makes these draws, and they sample what they should. -/
def Shows (draws : List (SceneDraw D)) (r r' : Renderer D) : Prop :=
  ∀ before, r.Kept → r.Supplied before →
    Follows SceneDraw.Samples before draws ∧ r'.Kept ∧ r'.Supplied (before ++ draws)

theorem Shows.trans {r₁ r₂ r₃ : Renderer D} {xs ys : List (SceneDraw D)} (h₁ : r₁.Shows xs r₂)
    (h₂ : r₂.Shows ys r₃) : r₁.Shows (xs ++ ys) r₃ := by
  intro before hkept hsupplied
  obtain ⟨hfirst, hkept₂, hsupplied₂⟩ := h₁ before hkept hsupplied
  obtain ⟨hsecond, hkept₃, hsupplied₃⟩ := h₂ (before ++ xs) hkept₂ hsupplied₂
  rw [List.append_assoc] at hsupplied₃
  exact ⟨follows_append.mpr ⟨hfirst, hsecond⟩, hkept₃, hsupplied₃⟩

/-- What hands no value over makes no draw. -/
theorem StepsBy.shows (h : r.StepsBy DeviceCall.leavesPrograms False r') : r.Shows [] r' := by
  intro before hkept hsupplied
  rw [List.append_nil]
  exact ⟨trivial, h.supplied hkept hsupplied⟩

theorem StepsBy.shows_of_draws (h : r.StepsBy DeviceCall.draws False r') : r.Shows [] r' :=
  StepsBy.shows (h.mono (fun _ => DeviceCall.leavesPrograms_of_draws) id)

/-- Where no pass is bound, turns that bind none make no draw. -/
theorem Turns.shows {aims : Prop} (h : r.Turns (fun _ => False) aims r')
    (hbound : r.bound = none) : r.Shows [] r' := (h.quiet hbound).shows_of_draws

theorem StepsBy.storedOn {kind : DeviceCall D → Bool} {hands : Prop}
    (h : r.StepsBy kind hands r') {textures : TextureRegistry}
    (hstored : textures.StoredOn r.device) : textures.StoredOn r'.device :=
  fun handle texture hget => h.hasTexture (hstored handle texture hget)

section draws

variable {scene : Scene} {effect : Effect} {technique : Technique} (geometry : Option Geometry)
  (hstages : ∀ programs : List Program, Accepted D programs → (programs.map (·.stage)).Nodup)
  (hcompiled : WellCompiled D effect) (hsupplies : scene.parameters.Supplies effect)
  (ht : technique ∈ effect.techniques)

include hstages hcompiled hsupplies ht

/-- A pass that is bound samples what it should. -/
theorem bindPass_shows {pass : Pass} (hstored : scene.textures.StoredOn r.device)
    (hpass : pass ∈ technique.passes) (hvalid : pass.valid = true) :
    r.Shows ((r.passDraws scene effect pass).map (Draw.within scene))
      (r.bindPass scene effect pass).2 := by
  unfold passDraws
  rcases hbind : r.bindPass scene effect pass with ⟨e | _, r₁⟩
  · rcases bindPass_cases r scene effect pass with ⟨_, _, heq, hsteps⟩ | ⟨_, _, _, _, _, _, heq⟩
    · rw [hbind] at heq
      cases heq
      exact (hsteps.mono (fun _ => DeviceCall.draws_of_binds) id).shows_of_draws
    · rw [hbind] at heq
      cases (Prod.mk.inj heq).1
  intro before hkept hsupplied
  obtain ⟨hkept₁, hsupplied₁, hall⟩ := hsupplied.bindPass hkept hcompiled hsupplies ht hpass
    (hstages pass.programs (hcompiled.accepted technique ht pass hpass hvalid)) hstored hbind
    (Device.enterEffectState r₁.device)
  refine ⟨⟨fun program hprogram => ?_, trivial⟩, hkept₁, hsupplied₁⟩
  change program ∈ pass.programs at hprogram
  obtain ⟨id, hid, hat⟩ := hall program hprogram
  refine ⟨id, (congrFun (RegisterFile.boundAt_enterEffectState _) _).trans hat,
    fun slot hslot => ?_⟩
  obtain ⟨ep, p, _, hfind, hp, _, _, _, htexture⟩ :=
    samplerOf hcompiled hsupplies ht hpass hprogram hslot
  -- drawing in the state of an effect changes no slot
  obtain ⟨hkeeps, hsame⟩ := SamplerFile.keep r₁.device (c := .enterEffectState) rfl id
    (hkept₁.has _ id hid) slot.slot
  obtain ⟨hhas, hholds⟩ := hsupplied₁.slots program.key id hid
    (hcompiled.sampled_constants ht hpass hprogram) slot hslot
  have hheld := hsame.trans hholds
  refine ⟨ep, p, hfind, hp, hkeeps hhas, ?_, fun texture hthere => ?_⟩
  · rw [lastSupplied?_snoc, Draw.supplied?_within scene effect _ hprogram, htexture] at hheld
    exact hheld
  · obtain ⟨draw, hdraw, hsupplied'⟩ := exists_of_lastSupplied? (hheld.symm.trans hthere)
    exact SamplerFile.hasTexture r₁.device .enterEffectState
      (hsupplied₁.textures draw hdraw slot.parameter texture hsupplied')

/-- Passes that are drawn one after the other sample what they should. -/
theorem drawPasses_shows {passes : List Pass} (hstored : scene.textures.StoredOn r.device)
    (hpasses : ∀ pass ∈ passes, pass ∈ technique.passes) (progress : Progress) :
    r.Shows ((r.passesDraws scene effect geometry progress passes).map (Draw.within scene))
      (r.drawPasses scene effect geometry progress passes).2 := by
  induction passes generalizing r progress with
  | nil => exact (StepsBy.refl r).shows
  | cons pass rest ih =>
    have hrest : ∀ pass ∈ rest, pass ∈ technique.passes :=
      fun p hp => hpasses p (List.mem_cons_of_mem pass hp)
    rw [passesDraws, drawPasses]
    by_cases hvalid : pass.valid = true
    · rw [if_pos hvalid, if_pos hvalid]
      have hbind := bindPass_shows hstages hcompiled hsupplies ht hstored
        (hpasses pass List.mem_cons_self) hvalid
      have hpass := hbind.trans
        (drawPass_quiet r scene effect geometry progress pass).shows_of_draws
      have hsteps := drawPass_steps r scene effect geometry progress pass
      rw [List.append_nil] at hpass
      rcases hdrawn : r.drawPass scene effect geometry progress pass with ⟨e | progress₁, r₁⟩
      · rw [hdrawn] at hpass
        simpa only [List.append_nil] using hpass
      · rw [hdrawn] at hpass hsteps
        simp only [List.map_append]
        exact hpass.trans (ih (hsteps.storedOn hstored) hrest progress₁)
    · rw [if_neg hvalid, if_neg hvalid]
      have hnote : r.Shows [] (r.note [.passNotDrawn pass.name]) :=
        StepsBy.shows (note_stepsBy r _)
      exact hnote.trans (ih (r := r.note [.passNotDrawn pass.name]) hstored hrest progress)

/-- Once it aims at the scratch surface, a technique samples what it should. -/
theorem runTechnique_shows (hbound : r.bound = none)
    (hstored : scene.textures.StoredOn r.device) :
    r.Shows ((match Device.setTarget r.device .scratch with
      | (.error _, _) => []
      | (.ok _, device) => { r with device }.passesDraws scene effect geometry {}
          technique.passes).map (Draw.within scene))
      (r.runTechnique scene effect technique geometry).2 := by
  have hset := (setTarget_step r .scratch).steps
  have haim := hset.shows_of_draws
  have hstored₁ := hset.storedOn hstored
  unfold runTechnique
  rcases htarget : Device.setTarget r.device .scratch with ⟨e | _, device⟩ <;>
    rw [htarget] at haim hstored₁
  · exact haim
  have hpasses := haim.trans (drawPasses_shows (r := { r with device }) geometry
    hstages hcompiled hsupplies ht hstored₁ (fun _ hpass => hpass) {})
  have hunbound := drawPasses_bound (r := { r with device }) hbound scene effect geometry {}
    technique.passes
  simp only
  rcases hdrawn : ({ r with device } : Renderer D).drawPasses scene effect geometry {}
    technique.passes with ⟨e | progress, r₁⟩ <;> rw [hdrawn] at hpasses hunbound
  · exact hpasses
  have hturns : r₁.Turns (fun _ => False) False
      (r₁.compose scene technique progress.result).2 := compose_turns r₁ scene technique _
  have hcomposed := hpasses.trans (hturns.shows hunbound)
  rw [List.append_nil] at hcomposed
  rcases hc : r₁.compose scene technique progress.result with ⟨_ | _, r₂⟩ <;>
    simpa [hc] using hcomposed

/-- A technique samples what it should. -/
theorem drawTechnique_shows (hbound : r.bound = none)
    (hstored : scene.textures.StoredOn r.device) :
    r.Shows ((r.techniqueDraws scene effect technique geometry).map (Draw.within scene))
      (r.drawTechnique scene effect technique geometry).2 := by
  unfold techniqueDraws drawTechnique
  by_cases hvalid : technique.isValid = true
  swap
  · rw [if_pos (Or.inl (by simpa using hvalid)), if_pos (by simpa using hvalid)]
    exact StepsBy.shows (note_stepsBy r _)
  by_cases hlost : Device.isLost r.device = true
  · rw [if_pos (Or.inr hlost), if_neg (by simpa using hvalid), if_pos hlost]
    exact (StepsBy.refl r).shows
  rw [if_neg (by simp [hvalid, hlost]), if_neg (by simpa using hvalid), if_neg hlost]
  have hfit : r.Turns (fun _ => False) False r.fitQuad := fitQuad_turns r
  have hunbound := (fitQuad_bound r).trans hbound
  have hrun := (hfit.shows hbound).trans (runTechnique_shows geometry hstages hcompiled
    hsupplies ht hunbound ((hfit.quiet hbound).storedOn hstored))
  have hdone := runTechnique_bound hunbound scene effect technique geometry
  simp only
  rcases hresult : r.fitQuad.runTechnique scene effect technique geometry with ⟨result, r₁⟩
  rw [hresult] at hrun hdone
  have hrestore : r₁.Turns (fun _ => False) True
      (r₁.restoreTarget (Device.target r.fitQuad.device)) := restoreTarget_turns r₁ _
  cases result with
  | ok report =>
    have hrestored := hrun.trans (hrestore.shows hdone)
    rwa [List.append_nil] at hrestored
  | error e =>
    have hrestored := hrun.trans ((hrestore.trans
      (note_turns _ [.techniqueAborted effect.name technique.name e])).shows hdone)
    rwa [List.append_nil] at hrestored

omit ht in
/-- An effect samples what it should. -/
theorem drawEffect_shows (hbound : r.bound = none)
    (hstored : scene.textures.StoredOn r.device) :
    r.Shows ((r.effectDraws scene effect geometry).map (Draw.within scene))
      (r.drawEffect scene effect geometry).2 := by
  unfold effectDraws drawEffect
  cases hdefault : effect.default? with
  | none => exact StepsBy.shows (note_stepsBy r _)
  | some technique =>
    have ht : technique ∈ effect.techniques := by
      obtain ⟨index, _, hget⟩ := Option.bind_eq_some_iff.mp hdefault
      exact List.mem_of_getElem? hget
    exact drawTechnique_shows geometry hstages hcompiled hsupplies ht hbound hstored

end draws

end Renderer

namespace Session

variable (hstages : ∀ programs : List Program, Accepted D programs → (programs.map (·.stage)).Nodup)

include hstages

/-- Effects that are drawn one after the other sample what they should. -/
theorem drawEffects_shows {e : Engine D} (hbound : e.renderer.bound = none)
    (hstored : e.textures.StoredOn e.device) {effects : List Effect}
    (hcompiled : ∀ effect ∈ effects, WellCompiled D effect)
    (hsupplies : ∀ effect ∈ effects, e.parameters.Supplies effect)
    (geometry : Option Geometry) :
    e.renderer.Shows ((effectsDraws e geometry effects).map (Draw.within e.scene))
      (drawEffects e geometry effects).2.renderer := by
  induction effects generalizing e with
  | nil => exact (Renderer.StepsBy.refl e.renderer).shows
  | cons effect rest ih =>
    have hfirst : e.renderer.Shows _ (e.renderer.drawEffect e.scene effect geometry).2 :=
      Renderer.drawEffect_shows geometry hstages (hcompiled effect List.mem_cons_self)
        (hsupplies effect List.mem_cons_self) hbound hstored
    have hunbound := Renderer.drawEffect_bound hbound e.scene effect geometry
    have hsteps := Renderer.drawEffect_steps e.renderer e.scene effect geometry
    rw [effectsDraws, drawEffects]
    rcases hdrawn : e.renderer.drawEffect e.scene effect geometry with ⟨error | report, r₁⟩ <;>
      rw [hdrawn] at hfirst hunbound hsteps
    · simpa only [hdrawn, List.append_nil] using hfirst
    simp only [List.map_append]
    have hnote : r₁.Shows [] (r₁.note [.passesDrawn effect.name report.passesDrawn]) :=
      Renderer.StepsBy.shows (Renderer.note_stepsBy r₁ _)
    have hothers := ih
      (e := { e with renderer := r₁ }.note [.passesDrawn effect.name report.passesDrawn])
      hunbound (hsteps.storedOn hstored)
      (fun other hother => hcompiled other (List.mem_cons_of_mem effect hother))
      (fun other hother => hsupplies other (List.mem_cons_of_mem effect hother))
    have hall := (hfirst.trans hnote).trans hothers
    rw [List.append_nil] at hall
    rcases hrest : drawEffects
      ({ e with renderer := r₁ }.note [.passesDrawn effect.name report.passesDrawn])
      geometry rest with ⟨error | reports, e₂⟩ <;> rw [hrest] at hall <;> simp only [hrest] <;>
      exact hall

omit hstages in
/-- Taking a picture makes no draw. -/
theorem snapshot_shows (e : Engine D) (name : String) (hbound : e.renderer.bound = none) :
    ∃ renderer, (snapshot e name).2 = { e with renderer } ∧ e.renderer.Steps renderer ∧
      e.renderer.Shows [] renderer ∧ renderer.bound = none := by
  obtain ⟨renderer, heq, hacts⟩ := snapshot_acts e name fun _ => False
  have hturns : e.renderer.Turns (fun _ => False) True renderer :=
    hacts.turns fun _ hdrawn => hdrawn.elim
  exact ⟨renderer, heq, hacts.steps, hturns.shows hbound, hturns.unbound hbound⟩

/-- What is drawn between two pictures samples what it should. -/
theorem drawFrame_shows {e : Engine D} {held : List ParameterId} (howned : e.Owned held)
    (hbound : e.renderer.bound = none) (hstored : e.textures.StoredOn e.device)
    (geometry : Option Geometry) :
    e.renderer.Shows
      (List.map (Draw.within e.scene) (match snapshot e Staging.thisFrame with
        | (.error _, _) => []
        | (.ok _, engine) => effectsDraws engine geometry (engine.effects.toList.map (·.2))))
      (drawFrame e geometry).2.renderer := by
  obtain ⟨r₁, heq₁, hsteps₁, hfirst, hbound₁⟩ := snapshot_shows e Staging.thisFrame hbound
  unfold drawFrame
  rcases hsnap : snapshot e Staging.thisFrame with ⟨error | _, e₁⟩ <;> rw [hsnap] at heq₁ <;>
    obtain rfl : e₁ = { e with renderer := r₁ } := heq₁
  · exact hfirst
  have hdrawn := hfirst.trans (drawEffects_shows (e := { e with renderer := r₁ }) hstages hbound₁
    (hsteps₁.storedOn hstored) (fun _ hmem => howned.compiled_of_mem hmem)
    (fun _ hmem => howned.supplies hmem) geometry)
  have hacts : ∃ renderer, (drawEffects { e with renderer := r₁ } geometry
      (e.effects.toList.map (·.2))).2 = { e with renderer } ∧
        r₁.Acts (fun _ => True) renderer :=
    drawEffects_acts { e with renderer := r₁ } geometry fun _ _ => trivial
  obtain ⟨r₂, heq₂, hacts₂⟩ := hacts
  simp only
  rcases hdraw : drawEffects { e with renderer := r₁ } geometry (e.effects.toList.map (·.2))
    with ⟨error | reports, e₂⟩ <;> rw [hdraw] at heq₂ hdrawn <;>
    obtain rfl : e₂ = { e with renderer := r₂ } := heq₂
  · simp only [hdraw]
    exact hdrawn
  obtain ⟨r₃, heq₃, _, hlast, _⟩ := snapshot_shows { e with renderer := r₂ } Staging.lastFrame
    (hacts₂.unbound hbound₁)
  have hall := hdrawn.trans hlast
  rw [List.append_nil] at hall
  rcases hsnap₃ : snapshot { e with renderer := r₂ } Staging.lastFrame with ⟨error | _, e₃⟩ <;>
    rw [hsnap₃] at heq₃ <;> obtain rfl : e₃ = { e with renderer := r₃ } := heq₃ <;>
    simp only [hdraw, hsnap₃] <;> exact hall

/-- A frame samples what it should. The scene is that after the frame, since drawing
changes neither parameters nor textures. -/
theorem renderFrame_shows {session : Session D} {held : List ParameterId}
    (howned : session.engine.Owned held) (hbound : session.engine.renderer.bound = none)
    (hstored : session.engine.textures.StoredOn session.engine.device) (now : Int)
    (geometry : Option Geometry) :
    session.engine.renderer.Shows
      ((session.frameDraws now geometry).map
        (Draw.within (session.renderFrame now geometry).2.engine.scene))
      (session.renderFrame now geometry).2.engine.renderer := by
  unfold frameDraws
  rw [renderFrame_eq]
  split_ifs with hlost
  · exact (Renderer.StepsBy.refl _).shows
  obtain ⟨writes, hprepared⟩ := session.prepared_eq now
  rw [hprepared]
  have hwritten : ({ session.engine with parameters := written session.engine.parameters writes } :
      Engine D).Owned held := howned.stays (stays_written _ writes) rfl
  obtain ⟨renderer, heq, _⟩ := drawFrame_steps
    { session.engine with parameters := written session.engine.parameters writes } geometry
  have hshows := drawFrame_shows hstages hwritten hbound hstored geometry
  simp only [heq] at hshows ⊢
  exact hshows

end Session

end ShaderEffects
