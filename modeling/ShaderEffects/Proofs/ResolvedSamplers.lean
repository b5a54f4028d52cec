import ShaderEffects.Proofs.JoinedParameters

/-!
# What resolving the samplers of an effect comes to

A sampler that wants a texture is given one, or stays without one and leaves exactly one
problem. No other parameter is touched on the way.
-/
namespace ShaderEffects

/-- What a problem of a link is about. -/
inductive LinkError.Kind where
  /-- Whom a parameter of this name asks to follow. -/
  | following (parameter : String)
  /-- The texture of a sampler. -/
  | texture
  /-- An annotation. -/
  | directive
  /-- The choice of a technique. -/
  | choice
  /-- A name that is taken, or an attachment that is refused. -/
  | refusal
deriving DecidableEq

/-- What a problem is about. -/
def LinkError.kind : LinkError → LinkError.Kind
  | .unresolvedGlobal parameter .. => .following parameter
  | .unresolvedSampler .. | .device _ => .texture
  | .malformedValue .. => .directive
  | .noValidTechnique _ => .choice
  | .duplicateParameter _ | .duplicateTexture _ | .notVirtual .. | .attachCycle .. => .refusal

namespace Parameters

/-- A sampler that asks for a texture and holds none. -/
def Lacks (ps : Parameters) (ep : EffectParameter) : Prop :=
  ep.type.category = .sampler ∧ (Directive.texture? ep.directives).isSome = true ∧
    (ps.get? ep.id).bind (·.texture) = none

instance (ps : Parameters) (ep : EffectParameter) : Decidable (ps.Lacks ep) := by
  unfold Lacks
  infer_instance

/-- What becomes of parameters when samplers of a row are given textures. -/
structure Fills (ps : Parameters) (row : List EffectParameter) (ps' : Parameters) : Prop where
  made : ps'.made = ps.made
  names : ps'.names = ps.names
  others : ∀ q, (∀ ep ∈ row, q ≠ ep.id) → ps'.get? q = ps.get? q
  own : ∀ ep ∈ row, ∀ p, ps.get? ep.id = some p → ps'.get? ep.id = some p ∨
    ∃ texture, p.texture = none ∧
      ps'.get? ep.id = some ((Write.texture (some texture)).apply p)

theorem fills_refl (ps : Parameters) (row : List EffectParameter) : ps.Fills row ps where
  made := rfl
  names := rfl
  others := fun _ _ => rfl
  own := fun _ _ _ hp => Or.inl hp

theorem fills_write {ps : Parameters} {ep : EffectParameter} (hleaves : ps.Leaves [ep])
    (hnone : (ps.get? ep.id).bind (·.texture) = none) (texture : Handle Texture) :
    ps.Fills [ep] (ps.write ep.id (.texture (some texture))) := by
  obtain ⟨p, hp, hleaf, _⟩ := hleaves.leaf ep List.mem_cons_self
  have hget := get?_write_leaf hp hleaf (.texture (some texture))
  refine ⟨rfl, rfl, fun q hq => ?_, fun ep' hep' p' hp' => ?_⟩
  · rw [hget, if_neg (hq ep List.mem_cons_self)]
  · rw [List.mem_singleton.mp hep'] at hp' ⊢
    rw [hp] at hp'
    cases hp'
    rw [hp] at hnone
    exact Or.inr ⟨texture, hnone, by rw [hget, if_pos rfl]⟩

section fills

variable {ps ps' ps'' : Parameters} {ep : EffectParameter} {rest : List EffectParameter}

theorem Fills.get?_rest (hleaves : ps.Leaves (ep :: rest)) (h : ps.Fills [ep] ps')
    {other : EffectParameter} (hother : other ∈ rest) : ps'.get? other.id = ps.get? other.id :=
  h.others other.id fun ep' hep' => by
    rw [List.mem_singleton.mp hep']
    exact hleaves.id_ne hother

theorem Leaves.fills (hleaves : ps.Leaves (ep :: rest)) (h : ps.Fills [ep] ps') :
    ps'.Leaves rest where
  nodup := hleaves.tail.nodup
  leaf := fun other hother => by
    rw [h.get?_rest hleaves hother]
    exact hleaves.tail.leaf other hother

theorem Fills.cons (hleaves : ps.Leaves (ep :: rest)) (hfirst : ps.Fills [ep] ps')
    (hrest : ps'.Fills rest ps'') : ps.Fills (ep :: rest) ps'' := by
  refine ⟨hrest.made.trans hfirst.made, hrest.names.trans hfirst.names, fun q hq => ?_,
    fun other hother p hp => ?_⟩
  · rw [hrest.others q fun other hother => hq other (List.mem_cons_of_mem ep hother)]
    exact hfirst.others q fun ep' hep' =>
      hq ep' (List.mem_singleton.mp hep' ▸ List.mem_cons_self)
  · rcases List.mem_cons.mp hother with rfl | hmem
    · rw [hrest.others other.id fun _ hep => (hleaves.id_ne hep).symm]
      exact hfirst.own other List.mem_cons_self p hp
    · exact hrest.own other hmem p (by rw [hfirst.get?_rest hleaves hmem, hp])

end fills

end Parameters

/-! ## One sampler -/

namespace Engine

variable {D : Type} [Device D]

/-- A blank texture under a free name can only be refused by the device. -/
theorem createRegistered_quiet {e : Engine D} {name : String}
    (hfree : e.textures.contains name = false) (desc : TextureDesc) :
    (e.createRegistered name desc).2.parameters = e.parameters ∧
      ∀ error, (e.createRegistered name desc).1 = .error error → ∃ fault, error = .device fault := by
  unfold createRegistered
  rcases hc : Device.createTexture e.device name desc with ⟨fault | backing, device⟩
  · exact ⟨rfl, fun error h => by cases h; exact ⟨fault, rfl⟩⟩
  · obtain ⟨handle, textures, hr⟩ := TextureRegistry.exists_register hfree backing desc
    simp only [registerTexture, withDevice, hr]
    exact ⟨rfl, fun error h => by cases h⟩

end Engine

namespace Linking

variable {D : Type} [Device D] {l : Linking D} {name : String}

/-- Loading a file touches no parameter and leaves no problem. -/
theorem loadFile_quiet (hfree : l.engine.textures.contains name = false) (path : String) :
    (l.loadFile name path).2.engine.parameters = l.engine.parameters ∧
      (l.loadFile name path).2.errors = l.errors := by
  unfold loadFile
  rcases hl : Device.loadTexture l.engine.device l.engine.compiler.files name path with
    ⟨error | ⟨backing, desc⟩, device, notices⟩
  · exact ⟨rfl, rfl⟩
  · obtain ⟨handle, textures, hr⟩ := TextureRegistry.exists_register hfree backing desc
    simp only [Engine.registerTexture, Engine.withDevice, Engine.note, note, hr]
    exact ⟨trivial, trivial⟩

theorem load_quiet (hfree : l.engine.textures.contains name = false) :
    (l.load name).2.engine.parameters = l.engine.parameters ∧
      (l.load name).2.errors = l.errors := by
  unfold load
  cases l.engine.compiler.resolve? name with
  | none => exact ⟨rfl, rfl⟩
  | some path => exact loadFile_quiet hfree path

/-- A sampler is given a blank texture, or it gets none and there is a problem more. -/
theorem giveBlank_outcome (effect : String) (ep : EffectParameter)
    (hfree : l.engine.textures.contains name = false) (blank : BlankTarget) :
    (∃ texture, (l.giveBlank effect ep name blank).engine.parameters =
        l.engine.parameters.write ep.id (.texture (some texture)) ∧
      (l.giveBlank effect ep name blank).errors = l.errors) ∨
    ∃ fault, fault.kind = .texture ∧
      (l.giveBlank effect ep name blank).engine.parameters = l.engine.parameters ∧
      (l.giveBlank effect ep name blank).errors = l.errors ++ [fault] := by
  cases blank with
  | error fault => exact Or.inr ⟨.unresolvedSampler ep.name name fault, rfl, rfl, rfl⟩
  | ok desc =>
    obtain ⟨hparameters, herror⟩ := Engine.createRegistered_quiet hfree desc
    simp only [giveBlank]
    rcases hc : l.engine.createRegistered name desc with ⟨error | handle, engine⟩
    · rw [hc] at hparameters herror
      obtain ⟨fault, rfl⟩ := herror error rfl
      exact Or.inr ⟨.device fault, rfl, hparameters, rfl⟩
    · rw [hc] at hparameters
      refine Or.inl ⟨handle, ?_, rfl⟩
      simp only [give, note, Engine.note, Engine.write]
      rw [hparameters]

/-- A sampler that lacks a texture is given one, or it still lacks it and there is a
problem more. Any other parameter is left alone. -/
theorem resolveSampler_outcome (effect : String) (l : Linking D) (ep : EffectParameter) :
    (¬ l.engine.parameters.Lacks ep ∧ resolveSampler effect l ep = l) ∨
    (l.engine.parameters.Lacks ep ∧
      ((∃ texture, (resolveSampler effect l ep).engine.parameters =
          l.engine.parameters.write ep.id (.texture (some texture)) ∧
        (resolveSampler effect l ep).errors = l.errors) ∨
      ∃ fault, fault.kind = .texture ∧
        (resolveSampler effect l ep).engine.parameters = l.engine.parameters ∧
        (resolveSampler effect l ep).errors = l.errors ++ [fault])) := by
  unfold resolveSampler
  split_ifs with hskip
  · refine Or.inl ⟨fun hlacks => ?_, rfl⟩
    rcases hskip with hcategory | hheld
    · exact hcategory hlacks.1
    · rw [heldTexture?, hlacks.2.2] at hheld
      cases hheld
  · obtain ⟨hcategory, hheld⟩ := not_or.mp hskip
    have hnone : (l.engine.parameters.get? ep.id).bind (·.texture) = none := by
      simpa [heldTexture?] using hheld
    cases hwanted : Directive.texture? ep.directives with
    | none =>
      refine Or.inl ⟨fun hlacks => ?_, rfl⟩
      rw [Parameters.Lacks, hwanted] at hlacks
      exact absurd hlacks.2.1 Bool.false_ne_true
    | some wanted =>
      obtain ⟨name, blank⟩ := wanted
      refine Or.inr ⟨⟨not_not.mp hcategory, by rw [hwanted]; rfl, hnone⟩, ?_⟩
      simp only
      cases hfind : l.engine.textures.find? name with
      | some handle => exact Or.inl ⟨handle, rfl, rfl⟩
      | none =>
        have hfree := (l.engine.textures.contains_eq_false_iff name).mpr hfind
        obtain ⟨hparameters, herrors⟩ := load_quiet hfree
        obtain ⟨_, hresult⟩ := load_steps hfree
        rcases hl : l.load name with ⟨_ | handle, l'⟩
        · rw [hl] at hparameters herrors hresult
          simp only at hparameters herrors hresult
          have hblank := giveBlank_outcome (l := l') effect ep (by rw [hresult, hfree]) blank
          rw [hparameters, herrors] at hblank
          exact hblank
        · rw [hl] at hparameters herrors
          simp only at hparameters herrors
          refine Or.inl ⟨handle, ?_, herrors⟩
          simp only [give, Engine.write, hparameters]

theorem resolveSampler_fills (effect : String) (l : Linking D) {ep : EffectParameter}
    (hleaves : l.engine.parameters.Leaves [ep]) :
    l.engine.parameters.Fills [ep] (resolveSampler effect l ep).engine.parameters ∧
      ∃ faults, (resolveSampler effect l ep).errors = l.errors ++ faults ∧
        (∀ fault ∈ faults, fault.kind = .texture) ∧
        faults.length =
          if (resolveSampler effect l ep).engine.parameters.Lacks ep then 1 else 0 := by
  rcases resolveSampler_outcome effect l ep with ⟨hlacks, heq⟩ | ⟨hlacks, hgiven | hfailed⟩
  · rw [heq]
    exact ⟨Parameters.fills_refl _ _, [], by simp [hlacks]⟩
  · obtain ⟨texture, hparameters, herrors⟩ := hgiven
    have hfills := Parameters.fills_write hleaves hlacks.2.2 texture
    obtain ⟨p, hp, hleaf, _⟩ := hleaves.leaf ep List.mem_cons_self
    have hheld : ¬ (l.engine.parameters.write ep.id (.texture (some texture))).Lacks ep := by
      rintro ⟨_, _, hnone⟩
      rw [Parameters.get?_write_leaf hp hleaf, if_pos rfl] at hnone
      cases hnone
    rw [hparameters, herrors]
    exact ⟨hfills, [], by simp [hheld]⟩
  · obtain ⟨fault, hfault, hparameters, herrors⟩ := hfailed
    rw [hparameters, herrors]
    exact ⟨Parameters.fills_refl _ _, [fault], by simp [hlacks, hfault]⟩

/-! ## A row of samplers -/

/-- Resolving the samplers of a row gives textures to some of them, and leaves one problem
for each that still lacks one. -/
theorem resolveSamplers_fills (l : Linking D) (effect : Effect)
    (hleaves : l.engine.parameters.Leaves effect.parameters) :
    l.engine.parameters.Fills effect.parameters (l.resolveSamplers effect).engine.parameters ∧
      ∃ faults, (l.resolveSamplers effect).errors = l.errors ++ faults ∧
        (∀ fault ∈ faults, fault.kind = .texture) ∧
        faults.length = effect.parameters.countP fun ep =>
          (l.resolveSamplers effect).engine.parameters.Lacks ep := by
  unfold resolveSamplers
  generalize effect.parameters = row at hleaves ⊢
  induction row generalizing l with
  | nil => exact ⟨Parameters.fills_refl _ _, [], by simp⟩
  | cons ep rest ih =>
    obtain ⟨hfills, faults, herrors, hkind, hlength⟩ :=
      resolveSampler_fills effect.name l hleaves.head
    rw [List.foldl_cons]
    generalize resolveSampler effect.name l ep = l' at hfills herrors hlength ⊢
    obtain ⟨hrest, faults', herrors', hkind', hlength'⟩ := ih l' (hleaves.fills hfills)
    refine ⟨hfills.cons hleaves hrest, faults ++ faults', ?_, ?_, ?_⟩
    · rw [herrors', herrors, List.append_assoc]
    · intro fault hfault
      exact (List.mem_append.mp hfault).elim (hkind fault) (hkind' fault)
    · -- what is resolved later does not touch the first of the row
      have hsame : (rest.foldl (resolveSampler effect.name) l').engine.parameters.Lacks ep ↔
          l'.engine.parameters.Lacks ep := by
        unfold Parameters.Lacks
        rw [hrest.others ep.id fun _ hep => (hleaves.id_ne hep).symm]
      rw [List.length_append, hlength, hlength', List.countP_cons, Nat.add_comm]
      simp only [decide_eq_true_eq, hsame]

end Linking

end ShaderEffects
