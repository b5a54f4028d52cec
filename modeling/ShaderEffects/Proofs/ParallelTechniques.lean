import ShaderEffects.Proofs.ParallelLinks

/-!
# Techniques and targets in two engines

In engines side by side the same passes and techniques can be used and the same technique
is chosen. What it ends in, and what its passes end in, has the same names in both.
-/
namespace ShaderEffects

/-! ## Techniques as they are told by names -/

/-- The name of the texture under a handle. -/
def TextureRegistry.name? (r : TextureRegistry) (handle : Handle Texture) : Option String :=
  (r.get? handle).map (·.name)

/-- The name of the texture that something ends in, and whether an annotation asked for it. -/
structure SeenTarget where
  texture : Option String
  explicit : Bool

/-- A pass, with the name of its target in the place of the handle. -/
structure SeenPass where
  pass : Pass
  target : Option SeenTarget

/-- A technique, with the names of its targets in the place of the handles. -/
structure SeenTechnique where
  technique : Technique
  target : Option SeenTarget
  passes : List SeenPass

/-- A target by the name of its texture. -/
def TargetBinding.seen (r : TextureRegistry) (target : TargetBinding) : SeenTarget :=
  ⟨r.name? target.texture, target.explicit⟩

/-- A pass by the name of its target. -/
def Pass.seen (r : TextureRegistry) (pass : Pass) : SeenPass :=
  ⟨{ pass with target := none }, pass.target.map (·.seen r)⟩

/-- A technique by the names of its targets. -/
def Technique.seen (r : TextureRegistry) (t : Technique) : SeenTechnique :=
  ⟨{ t with target := none, passes := [] }, t.target.map (·.seen r), t.passes.map (·.seen r)⟩

/-- The annotations of a technique and those of its passes. -/
def Technique.asks (t : Technique) : List (List Directive) :=
  t.directives :: t.passes.map (·.directives)

theorem Technique.asks_eq_of_declared {t c : Technique} (h : t.declared = c.declared) :
    t.asks = c.asks := by
  have htold : ∀ t : Technique, t.asks = t.declared.2.1 :: t.declared.2.2.map (·.2) := fun t => by
    simp [asks, declared, Pass.declared]
  rw [htold, htold, h]

namespace TextureRegistry

variable {known r r' : TextureRegistry} {shared : String → Prop} {fallback : String}
  {staging : Handle Texture}

/-- Something ends in the registered texture that it asks for, else in the staging texture. -/
theorem Coherent.seen_target? (h : r.Coherent) (hfallback : r.find? fallback = some staging)
    (directives : List Directive) (before : Option TargetBinding) :
    (Linking.target? r fallback directives <|> before).map (·.seen r) =
      match Directive.target? directives with
      | some name => if r.contains name then some ⟨some name, true⟩ else some ⟨some fallback, false⟩
      | none => some ⟨some fallback, false⟩ := by
  have hdefault : r.name? staging = some fallback := h.name_of_find? hfallback
  unfold Linking.target? Linking.namedTarget?
  cases Directive.target? directives with
  | none => simp [hfallback, TargetBinding.seen, hdefault]
  | some name =>
    cases hfind : r.find? name with
    | none =>
      have hfree := (contains_eq_false_iff r name).mpr hfind
      simp [hfind, hfree, hfallback, TargetBinding.seen, hdefault]
    | some texture =>
      have hname : r.name? texture = some name := h.name_of_find? hfind
      simp [hfind, contains_of_find? hfind, TargetBinding.seen, hname]

/-- What asks for shared textures ends in the same ones. -/
theorem Abreast.seen_target? (h : known.Abreast shared r r')
    (hfallback : known.find? fallback = some staging) {directives : List Directive}
    (hshared : ∀ name, Directive.target? directives = some name → shared name)
    (before before' : Option TargetBinding) :
    (Linking.target? r' fallback directives <|> before').map (·.seen r') =
      (Linking.target? r fallback directives <|> before).map (·.seen r) := by
  rw [h.coherent.seen_target? (h.grows.find? hfallback),
    h.coherent'.seen_target? (h.grows'.find? hfallback)]
  cases hname : Directive.target? directives with
  | none => rfl
  | some name => simp only [h.taken name (hshared name hname)]

theorem Abreast.seen_aimTechnique (h : known.Abreast shared r r')
    {lastPass lastShader : Handle Texture}
    (hpass : known.find? Staging.lastPass = some lastPass)
    (hshader : known.find? Staging.lastShader = some lastShader) {t : Technique}
    (hshared : ∀ directives ∈ t.asks, ∀ name,
      Directive.target? directives = some name → shared name) :
    (Linking.aimTechnique r' t).seen r' = (Linking.aimTechnique r t).seen r := by
  have hpasses : ∀ pass ∈ t.passes,
      (Linking.aimPass r' pass).seen r' = (Linking.aimPass r pass).seen r := fun pass hmem => by
    have hasks : pass.directives ∈ t.asks :=
      List.mem_cons_of_mem _ (List.mem_map_of_mem hmem)
    simp only [Linking.aimPass, Pass.seen,
      h.seen_target? hpass (hshared pass.directives hasks) pass.target pass.target]
  have htarget := h.seen_target? hshader (hshared t.directives List.mem_cons_self) t.target t.target
  simp only [Linking.aimTechnique, Technique.seen, htarget, List.map_map]
  exact congrArg (SeenTechnique.mk _ _) (List.map_congr_left hpasses)

end TextureRegistry

/-! ## Choosing side by side -/

namespace Linking

variable {known : TextureRegistry} {shared : String → Prop} {l l' : Linking HeadlessDevice}

/-- Results of two links side by side that are the same. -/
def Agree {α : Type} (known : TextureRegistry) (shared : String → Prop)
    (x x' : α × Linking HeadlessDevice) : Prop := x'.1 = x.1 ∧ x.2.Abreast known shared x'.2

theorem Abreast.validate (h : l.Abreast known shared l') (programs : List Program) :
    Agree known shared (l.validate programs) (l'.validate programs) := by
  unfold Linking.validate
  simp only [HeadlessDevice.device_validate]
  rw [h.engine.device.validate, show (Device.supports l'.engine.device : Profile → Bool) =
    Device.supports l.engine.device from funext h.engine.device.supports]
  split_ifs
  · exact ⟨rfl, h⟩
  cases programs.find? fun p => !Device.supports l.engine.device p.profile with
  | some p => exact ⟨rfl, h⟩
  | none =>
    have hkept : Abreast known shared
        { l with engine := l.engine.withDevice l.engine.device }
        { l' with engine := l'.engine.withDevice l'.engine.device } :=
      ⟨h.errors, ⟨h.engine.compiler, h.engine.device, h.engine.textures⟩⟩
    cases l.engine.device.validate programs with
    | error e => exact ⟨rfl, hkept⟩
    | ok _ => exact ⟨rfl, hkept⟩

theorem Abreast.validatePass (h : l.Abreast known shared l') (effect : String) (pass : Pass) :
    Agree known shared (validatePass effect l pass) (validatePass effect l' pass) := by
  obtain ⟨heq, habreast⟩ := h.validate pass.programs
  unfold Linking.validatePass
  rcases hv : l.validate pass.programs with ⟨result, l₁⟩
  rcases hv' : l'.validate pass.programs with ⟨result', l₁'⟩
  rw [hv, hv'] at heq habreast
  obtain rfl : result' = result := heq
  cases result' with
  | error fault => exact ⟨rfl, habreast.note _ _⟩
  | ok _ => exact ⟨rfl, habreast⟩

theorem Abreast.validatePasses (h : l.Abreast known shared l') (effect : String)
    (passes : List Pass) :
    Agree known shared (validatePasses effect l passes) (validatePasses effect l' passes) := by
  induction passes generalizing l l' with
  | nil => exact ⟨rfl, h⟩
  | cons pass rest ih =>
    obtain ⟨hfirst, habreast⟩ := h.validatePass effect pass
    obtain ⟨hrest, habreast'⟩ := ih habreast
    refine ⟨?_, habreast'⟩
    simp only [Linking.validatePasses, hfirst, hrest]

theorem Abreast.validateTechnique (h : l.Abreast known shared l') (effect : String)
    (t : Technique) :
    Agree known shared (validateTechnique effect l t) (validateTechnique effect l' t) := by
  obtain ⟨hpasses, habreast⟩ := h.validatePasses effect t.passes
  unfold Linking.validateTechnique
  simp only [hpasses]
  split_ifs
  · exact ⟨rfl, habreast⟩
  · exact ⟨rfl, habreast.note _ _⟩

theorem Abreast.validateTechniques (h : l.Abreast known shared l') (effect : String)
    (techniques : List Technique) :
    Agree known shared (validateTechniques effect l techniques)
      (validateTechniques effect l' techniques) := by
  induction techniques generalizing l l' with
  | nil => exact ⟨rfl, h⟩
  | cons t rest ih =>
    obtain ⟨hfirst, habreast⟩ := h.validateTechnique effect t
    obtain ⟨hrest, habreast'⟩ := ih habreast
    refine ⟨?_, habreast'⟩
    simp only [Linking.validateTechniques, hfirst, hrest]

/-- The same technique is chosen, whatever the parameters are. -/
theorem Abreast.choose (h : l.Abreast known shared l') (effect : Effect)
    (row : List EffectParameter) :
    (l'.choose { effect with parameters := row }).1 =
        { (l.choose effect).1 with parameters := row } ∧
      (l.choose effect).2.Abreast known shared
        (l'.choose { effect with parameters := row }).2 := by
  obtain ⟨htechniques, habreast⟩ := h.validateTechniques effect.name effect.techniques
  refine ⟨?_, ?_⟩
  · rw [choose_fst, choose_fst, htechniques]
  · unfold Linking.choose
    simp only [htechniques]
    split_ifs
    · exact habreast
    · exact (habreast.note _ _).report _

/-- Targets are found side by side, and the same is reported. -/
theorem Abreast.aim (h : l.Abreast known shared l') (effect : Effect)
    (row : List EffectParameter) :
    (l.aim effect).2.Abreast known shared (l'.aim { effect with parameters := row }).2 := by
  have htries : ∀ {α : Type} {f : Linking HeadlessDevice → α → Linking HeadlessDevice}
      (_ : ∀ {l l'} x, Abreast known shared l l' → Abreast known shared (f l x) (f l' x))
      (xs : List α) {l l'}, Abreast known shared l l' →
      Abreast known shared (xs.foldl f l) (xs.foldl f l') := by
    intro α f hf xs
    induction xs with
    | nil => exact fun h => h
    | cons x rest ih => exact fun h => ih (hf x h)
  refine htries (fun t h => htries (fun pass h => ?_) t.passes ?_) effect.techniques h
  · exact ((h.note _ _).report _).note _ _
  · exact (h.note _ _).report _

/-- A link side by side ends alike: the same is reported and drawn, everything ends in
textures of the same names, and neither parameters nor textures are touched. -/
theorem Abreast.conclude (h : l.Abreast known shared l') (effect : Effect)
    (row : List EffectParameter) {lastPass lastShader : Handle Texture}
    (hpass : known.find? Staging.lastPass = some lastPass)
    (hshader : known.find? Staging.lastShader = some lastShader)
    (hshared : ∀ t ∈ effect.techniques, ∀ directives ∈ t.asks, ∀ name,
      Directive.target? directives = some name → shared name) :
    let x := (l.choose effect).2.aim (l.choose effect).1
    let y := (l'.choose { effect with parameters := row }).2.aim
      (l'.choose { effect with parameters := row }).1
    x.2.Abreast known shared y.2 ∧
      l.engine.Tries x.2.engine ∧ l'.engine.Tries y.2.engine ∧
      y.1 = { x.1 with parameters := row, techniques := y.1.techniques } ∧
      y.1.techniques.map (·.seen y.2.engine.textures) =
        x.1.techniques.map (·.seen x.2.engine.textures) := by
  obtain ⟨hchosen, hchoice⟩ := h.choose effect row
  have haim := (aim_tries (l.choose effect).2 (l.choose effect).1).1
  have haim' := (aim_tries (l'.choose { effect with parameters := row }).2
    { (l.choose effect).1 with parameters := row }).1
  simp only
  rw [hchosen]
  refine ⟨hchoice.aim _ row, (choose_tries l effect).1.trans haim,
    (choose_tries l' _).1.trans haim', rfl, ?_⟩
  rw [haim.textures, haim'.textures]
  simp only [Linking.aim, List.map_map]
  refine List.map_congr_left fun t ht => ?_
  -- whether a technique can be used does not change what it asks for
  obtain ⟨c, hc, hdeclared⟩ : ∃ c ∈ effect.techniques, c.declared = t.declared := by
    rw [choose_fst] at ht
    have hmem := List.mem_map_of_mem (f := (·.declared)) ht
    rw [declared_validateTechniques] at hmem
    exact List.mem_map.mp hmem
  refine hchoice.engine.textures.seen_aimTechnique hpass hshader ?_
  rw [← Technique.asks_eq_of_declared hdeclared]
  exact hshared c hc

end Linking

end ShaderEffects
