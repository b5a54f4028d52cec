import ShaderEffects.Proofs.IndependentLinks
import ShaderEffects.Proofs.LinkNotices

/-!
# Where passes and techniques end

When an effect is linked, each of its techniques and passes gets a target among the textures
that are registered by then: the one that its annotations name, if there is one of this name,
else a staging texture. For each pass that ends in a staging texture this is noted once, as a
warning if the pass names another texture. For techniques it is not.
-/
namespace ShaderEffects

/-- A target as annotations ask for it: it leads to a registered texture, to the one that is
named if there is one of this name, else to the staging texture. -/
structure TextureRegistry.EndsIn (r : TextureRegistry) (fallback : String)
    (directives : List Directive) (binding : TargetBinding) : Prop where
  resolves : ∃ texture, r.get? binding.texture = some texture
  named : ∀ name, binding.explicit = true ∧ r.name? binding.texture = some name ↔
    Directive.target? directives = some name ∧ r.contains name = true
  otherwise : binding.explicit = false → r.name? binding.texture = some fallback

/-- The target of a pass or a technique is there and as its annotations ask for it. -/
def TextureRegistry.Aims (r : TextureRegistry) (fallback : String) (directives : List Directive)
    (target : Option TargetBinding) : Prop :=
  ∃ binding, target = some binding ∧ r.EndsIn fallback directives binding

/-- What says that a pass ends in a staging texture, which one that names another texture did
not ask for. -/
def Pass.fallbackNotices (owner : String) (pass : Pass) : List Notice :=
  if pass.target.any (·.explicit) then []
  else
    match Directive.target? pass.directives with
    | some name => [.targetUnregistered owner name Staging.lastPass]
    | none => [.defaultTarget owner Staging.lastPass]

/-- There is one such notice unless the target was asked for: a warning if the pass names a
texture, a detail if not. -/
theorem Pass.fallbackNotices_levels (owner : String) (pass : Pass) :
    (pass.fallbackNotices owner).map (·.level) =
      if pass.target.any (·.explicit) then []
      else [if (Directive.target? pass.directives).isSome then .warn else .debug] := by
  unfold fallbackNotices
  split_ifs with hexplicit hnamed
  · rfl
  · obtain ⟨name, hname⟩ := Option.isSome_iff_exists.mp hnamed
    rw [hname]
    rfl
  · rw [Option.not_isSome_iff_eq_none.mp hnamed]
    rfl

/-- What finding the targets of a technique notes: what is wrong with its annotations, and
pass by pass what is wrong with these and whether a staging texture stands in. -/
def Technique.targetTale (effect : String) (t : Technique) : List Notice :=
  Linking.malformedNotices (effect ++ "/" ++ t.name) t.directives ++ t.passes.flatMap fun pass =>
    Linking.malformedNotices (effect ++ "/" ++ t.name ++ "/" ++ pass.name) pass.directives ++
      pass.fallbackNotices (effect ++ "/" ++ t.name ++ "/" ++ pass.name)

namespace TextureRegistry

variable {r : TextureRegistry} {fallback : String} {staging : Handle Texture}

/-- Targets are found as annotations ask for them. -/
theorem Coherent.aims (h : r.Coherent) (hfallback : r.find? fallback = some staging)
    (directives : List Directive) (before : Option TargetBinding) :
    r.Aims fallback directives (Linking.target? r fallback directives <|> before) := by
  have hget : ∀ {name handle}, r.find? name = some handle →
      ∃ texture, r.get? handle = some texture := fun hfind =>
    (((h.find?_eq_some_iff _ _).mp hfind).imp fun _ => And.left)
  unfold Linking.target? Linking.namedTarget?
  cases hasked : (Directive.target? directives).bind r.find? with
  | some handle =>
    obtain ⟨name, hname, hfind⟩ := Option.bind_eq_some_iff.mp hasked
    have hthere : r.name? handle = some name := h.name_of_find? hfind
    refine ⟨⟨handle, true⟩, rfl, hget hfind, fun other => ?_, nofun⟩
    rw [hthere, hname]
    constructor
    · rintro ⟨_, hother⟩
      cases hother
      exact ⟨rfl, contains_of_find? hfind⟩
    · rintro ⟨hother, _⟩
      cases hother
      exact ⟨rfl, rfl⟩
  | none =>
    refine ⟨⟨staging, false⟩, by simp [hfallback], hget hfallback, fun other => ?_,
      fun _ => h.name_of_find? hfallback⟩
    refine ⟨nofun, ?_⟩
    rintro ⟨hother, hcontains⟩
    -- a name that is taken leads to a texture
    rw [hother, Option.bind_some, ← contains_eq_false_iff, hcontains] at hasked
    cases hasked

/-- What is noted of a pass tells where it ends. -/
theorem targetNotices_eq (hfallback : r.find? Staging.lastPass = some staging) (owner : String)
    (pass : Pass) :
    Linking.targetNotices r owner pass.directives =
      (Linking.aimPass r pass).fallbackNotices owner := by
  unfold Linking.targetNotices Pass.fallbackNotices Linking.aimPass Linking.target?
  cases Linking.namedTarget? r pass.directives with
  | some handle => rfl
  | none => cases Directive.target? pass.directives <;> simp [hfallback]

end TextureRegistry

/-- What finding targets notes is what is to be told of the targets that were found. -/
theorem techniqueNotices_eq {r : TextureRegistry} {staging : Handle Texture}
    (hfallback : r.find? Staging.lastPass = some staging) (effect : String) (t : Technique) :
    Linking.techniqueNotices r effect t = (Linking.aimTechnique r t).targetTale effect := by
  unfold Linking.techniqueNotices Technique.targetTale Linking.aimTechnique
  rw [List.flatMap_map]
  refine congrArg _ (congrArg₂ _ (funext fun pass => ?_) rfl)
  unfold Linking.passNotices
  rw [TextureRegistry.targetNotices_eq hfallback]
  rfl

/-- An effect whose techniques and passes all have targets as their annotations ask for them. -/
def Effect.Aimed (r : TextureRegistry) (effect : Effect) : Prop :=
  ∀ t ∈ effect.techniques, r.Aims Staging.lastShader t.directives t.target ∧
    ∀ pass ∈ t.passes, r.Aims Staging.lastPass pass.directives pass.target

namespace Engine

variable {D : Type} [Device D] {e : Engine D}

/-- The textures that are registered when an effect found its samplers' textures are those
that are registered when it is linked. -/
theorem link_textures (e : Engine D) (effect : Effect) :
    (e.link effect).2.2.textures =
        ((({ engine := e : Linking D }).linkParameters effect).resolveSamplers
          effect).engine.textures ∧
      (e.chosen effect).2.engine.textures = (e.link effect).2.2.textures := by
  have htextures := (e.link_tries effect).textures
  exact ⟨htextures, (Linking.choose_tries _ effect).1.textures.trans htextures.symm⟩

theorem link_declared (e : Engine D) (effect : Effect) :
    (e.link effect).1.techniques.map (·.declared) = effect.techniques.map (·.declared) := by
  have haimed : ∀ (r : TextureRegistry) (t : Technique),
      (Linking.aimTechnique r t).declared = t.declared := fun r t => by
    simp [Technique.declared, Linking.aimTechnique, Pass.declared, Linking.aimPass]
  rw [link_fst, List.map_map, chosen, Linking.choose_fst]
  exact (List.map_congr_left fun t _ => haimed _ t).trans
    (Linking.declared_validateTechniques _ _ _)

/-- Where the staging textures are registered, linking finds all targets. -/
theorem link_aimed (hcoherent : e.textures.Coherent)
    (hstaged : ∀ name ∈ Staging.all, ∃ handle, e.textures.find? name = some handle)
    (effect : Effect) : (e.link effect).1.Aimed (e.link effect).2.2.textures := by
  obtain ⟨lastPass, hpass⟩ := hstaged Staging.lastPass (by simp [Staging.all])
  obtain ⟨lastShader, hshader⟩ := hstaged Staging.lastShader (by simp [Staging.all])
  have hsteps := e.link_steps effect
  have hlinked := hsteps.textures_keep (fun hr hc => TextureRegistry.Coherent.register hc hr)
    hcoherent
  intro t ht
  rw [link_fst, (e.link_textures effect).2] at ht
  obtain ⟨t', _, rfl⟩ := List.mem_map.mp ht
  refine ⟨hlinked.aims (hsteps.grows.find? hshader) _ _, fun pass hmem => ?_⟩
  obtain ⟨pass', _, rfl⟩ := List.mem_map.mp hmem
  exact hlinked.aims (hsteps.grows.find? hpass) _ _

/-- The last that a link notes is that it is done. -/
theorem link_journal (e : Engine D) (effect : Effect) :
    (e.link effect).2.2.renderer.journal =
      ((e.chosen effect).2.aim (e.chosen effect).1).2.engine.renderer.journal ++
        [.effectLinked (e.link effect).1.name ((e.link effect).1.default?.map (·.name))
          (e.link effect).2.1.length] := rfl

/-- What a link notes about targets comes after all else but the last notice. -/
theorem link_noted (hquiet : Device.LoadsQuietly D)
    (hstaged : ∀ name ∈ Staging.all, ∃ handle, e.textures.find? name = some handle)
    (effect : Effect) :
    ∃ earlier, (∀ n ∈ earlier, n.tellsFallback = false) ∧
      (e.link effect).2.2.renderer.journal = e.renderer.journal ++ earlier ++
        (e.link effect).1.techniques.flatMap (Technique.targetTale effect.name) ++
        [.effectLinked effect.name ((e.link effect).1.default?.map (·.name))
          (e.link effect).2.1.length] := by
  obtain ⟨lastPass, hpass⟩ := hstaged Staging.lastPass (by simp [Staging.all])
  have hfound := (e.chosen_steps effect).grows.find? hpass
  obtain ⟨earlier, hearlier, hsilent⟩ := e.chosen_silent hquiet effect
  refine ⟨earlier, hsilent, ?_⟩
  have hname : (e.chosen effect).1.name = effect.name := by rw [chosen, Linking.choose_fst]
  have htales : (e.link effect).1.techniques.flatMap (Technique.targetTale effect.name) =
      (e.chosen effect).1.techniques.flatMap
        (Linking.techniqueNotices (e.chosen effect).2.engine.textures effect.name) := by
    rw [link_fst, List.flatMap_map, funext (techniqueNotices_eq hfound _)]
  rw [link_journal, Linking.aim_noted, hearlier, hname, link_name, htales]

end Engine

namespace Host

variable {D A : Type} [Device D]

/-- Whatever a host did before, a new effect that is linked has targets for all techniques and
passes that its document declares: those that are asked for if they are registered once its
samplers found their textures, else staging textures. That a pass ends in a staging texture is
noted once and at its level, pass by pass, and nothing of this kind is noted otherwise. -/
theorem targets_found (hquiet : Device.LoadsQuietly D) {device : D} {settings : Settings}
    {compiler : Compiler} {now : Int} {session : Session D} {engine : Engine D}
    (hcreate : Session.create device settings compiler now = (.ok session, engine))
    (act : A → D → D) (ops : List (HookOp D A)) {host : Host D}
    (hrun : ({ session } : Host D).runHooks act ops = host) (draft : EffectDraft)
    (notices : List Notice) {linked : Effect} {errors : List LinkError} {after : Engine D}
    (hlink : (host.engine.entered notices draft).link (draft.install host.engine.parameters).1 =
      (linked, errors, after)) :
    after.textures = ((({ engine := host.engine.entered notices draft : Linking D }).linkParameters
        (draft.install host.engine.parameters).1).resolveSamplers
        (draft.install host.engine.parameters).1).engine.textures ∧
      linked.techniques.map (·.declared) = draft.techniques.map (·.declared) ∧
      linked.Aimed after.textures ∧
      (∃ earlier, (∀ n ∈ earlier, n.tellsFallback = false) ∧
        after.renderer.journal = host.engine.renderer.journal ++ notices ++ earlier ++
          linked.techniques.flatMap (Technique.targetTale draft.name) ++
          [.effectLinked draft.name (linked.default?.map (·.name)) errors.length]) ∧
      ∀ (owner : String) (pass : Pass), (pass.fallbackNotices owner).map (·.level) =
        if pass.target.any (·.explicit) then []
        else [if (Directive.target? pass.directives).isSome then .warn else .debug] := by
  obtain ⟨hcoherent, hstaged⟩ := runHooks_staged hcreate act ops
  rw [hrun] at hcoherent hstaged
  have htextures := (host.engine.entered notices draft).link_textures
    (draft.install host.engine.parameters).1
  have hdeclared := (host.engine.entered notices draft).link_declared
    (draft.install host.engine.parameters).1
  have haimed := Engine.link_aimed (e := host.engine.entered notices draft) hcoherent hstaged
    (draft.install host.engine.parameters).1
  obtain ⟨earlier, hsilent, hnoted⟩ := Engine.link_noted (e := host.engine.entered notices draft)
    hquiet hstaged (draft.install host.engine.parameters).1
  rw [hlink] at htextures hdeclared haimed hnoted
  exact ⟨htextures.1, hdeclared, haimed, ⟨earlier, hsilent, hnoted⟩,
    Pass.fallbackNotices_levels⟩

/-- An effect whose technique ends in the texture that comes with its sampler. Of its passes
the first names a texture that is not there, the second none, the third a staging texture. -/
def aiming : String :=
  "[\"fx\", [[\"s\", \"sampler2D\", [], \x7b\"texture\": \"glow\", \"size\": [2, 2], " ++
  "\"format\": \"rgba8\"\x7d]], [[\"t\", \x7b\"target\": \"glow\"\x7d, " ++
  "[[\"p\", \x7b\"target\": \"missing\"\x7d], [\"q\", \x7b\x7d], " ++
  "[\"r\", \x7b\"target\": \":lastshader\"\x7d]]]]]"

/-- The names of the textures in which the techniques of an effect end, each followed by those
of its passes. -/
def targetNames (r : TextureRegistry) (effect : Effect) : List (Option String) :=
  effect.techniques.flatMap fun t =>
    (t.target :: t.passes.map (·.target)).map fun target => target.bind fun b => r.name? b.texture

/-- Its targets are found, and of two of its passes it is told that they end in a staging
texture. -/
theorem targets_found_aiming :
    ∃ (session : Session HeadlessDevice) (engine : Engine HeadlessDevice) (draft : EffectDraft)
      (linked : Effect) (errors : List LinkError) (after : Engine HeadlessDevice),
      Session.create (HeadlessDevice.ofSize 4 4) { builtinParameters := false }
          (Session.searching {} {}) 0 = (.ok session, engine) ∧
        (session.engine.entered [] draft).link (draft.install session.engine.parameters).1 =
          (linked, errors, after) ∧
        linked.Aimed after.textures ∧
        targetNames after.textures linked =
          [some "glow", some ":lastpass", some ":lastpass", some ":lastshader"] ∧
        (after.renderer.journal.filter (·.tellsFallback)).map (·.line) =
          ["WARN Pass 'fx/t/p' targets unregistered texture 'missing'; using ':lastpass'",
            "DEBUG Pass 'fx/t/q' renders into ':lastpass'"] := by
  have hcompiled : (((EffectDescription.ofText aiming).toOption.bind fun d =>
      (EffectDraft.compile (Session.searching {} {}) d).toOption).bind fun draft =>
    (Session.create (HeadlessDevice.ofSize 4 4) { builtinParameters := false }
        (Session.searching {} {}) 0).1.toOption.map fun session =>
      let x := (session.engine.entered [] draft).link (draft.install session.engine.parameters).1
      (targetNames x.2.2.textures x.1,
        (x.2.2.renderer.journal.filter (·.tellsFallback)).map (·.line))) =
      some ([some "glow", some ":lastpass", some ":lastpass", some ":lastshader"],
        ["WARN Pass 'fx/t/p' targets unregistered texture 'missing'; using ':lastpass'",
          "DEBUG Pass 'fx/t/q' renders into ':lastpass'"]) := by decide +kernel
  obtain ⟨draft, _, hlinked⟩ := Option.bind_eq_some_iff.mp hcompiled
  obtain ⟨session, hsession, hseen⟩ := Option.map_eq_some_iff.mp hlinked
  obtain ⟨hnames, hlines⟩ := Prod.mk.inj hseen
  have hcreate := eq_ok_of_toOption hsession
  obtain ⟨_, _, haimed, _⟩ := targets_found HeadlessDevice.loadsQuietly hcreate
    HeadlessAct.perform [] rfl draft [] rfl
  exact ⟨session, _, draft, _, _, _, hcreate, rfl, haimed, hnames, hlines⟩

end Host

end ShaderEffects
