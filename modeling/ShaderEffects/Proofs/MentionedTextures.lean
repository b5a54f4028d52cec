import ShaderEffects.Proofs.ParallelTechniques

/-!
# The textures that a document names

What a compiled effect asks for stands in the annotations of its document. So no texture is
looked for under a name that the document does not mention.
-/
namespace ShaderEffects

namespace Directive

/-- The textures that annotations name, to sample one or to draw into it. -/
def mentioned (annotations : Annotations) : List String :=
  [NameKey.texture, .target].filterMap fun key => (annotations.get? key.text).bind (·.text?)

theorem underKey_eq_some {annotations : Annotations} {key : NameKey} {make : String → Directive}
    {directive : Directive} (h : underKey annotations key make = some directive) :
    directive = .malformed key ∨ ∃ name,
      (annotations.get? key.text).bind (·.text?) = some name ∧ directive = make name := by
  obtain ⟨value, hvalue, heq⟩ := Option.map_eq_some_iff.mp h
  rw [hvalue, Option.bind_some]
  cases htext : value.text? with
  | none =>
    rw [htext] at heq
    exact Or.inl heq.symm
  | some name =>
    rw [htext] at heq
    exact Or.inr ⟨name, rfl, heq.symm⟩

/-- A directive comes from one of the keys. -/
theorem mem_ofAnnotations {annotations : Annotations} {directive : Directive}
    (h : directive ∈ ofAnnotations annotations) :
    underKey annotations .global .globalLink = some directive ∨
      underKey annotations .parameter .globalLink = some directive ∨
      underKey annotations .texture (fun name => .texture name (blankTarget annotations)) =
        some directive ∨
      underKey annotations .target .target = some directive := by
  simp only [ofAnnotations, List.mem_filterMap, List.mem_cons, List.not_mem_nil, or_false, id,
    exists_eq_right] at h
  rcases h with hglobal | htexture | htarget
  · cases hfirst : underKey annotations .global .globalLink with
    | some first =>
      rw [hfirst] at hglobal
      exact Or.inl hglobal.symm
    | none =>
      rw [hfirst] at hglobal
      exact Or.inr (Or.inl hglobal.symm)
  · exact Or.inr (Or.inr (Or.inl htexture.symm))
  · exact Or.inr (Or.inr (Or.inr htarget.symm))

theorem mem_mentioned_of_texture? {annotations : Annotations} {name : String}
    {blank : BlankTarget} (h : texture? (ofAnnotations annotations) = some (name, blank)) :
    name ∈ mentioned annotations := by
  obtain ⟨directive, hmem, hdirective⟩ := List.exists_of_findSome?_eq_some h
  cases directive with
  | globalLink | target | malformed => cases hdirective
  | texture known blank' =>
    cases hdirective
    rcases mem_ofAnnotations hmem with hkey | hkey | hkey | hkey <;>
      rcases underKey_eq_some hkey with heq | ⟨known, hknown, heq⟩ <;> cases heq
    exact List.mem_filterMap.mpr ⟨.texture, List.mem_cons_self, hknown⟩

theorem mem_mentioned_of_target? {annotations : Annotations} {name : String}
    (h : target? (ofAnnotations annotations) = some name) : name ∈ mentioned annotations := by
  obtain ⟨directive, hmem, hdirective⟩ := List.exists_of_findSome?_eq_some h
  cases directive with
  | globalLink | texture | malformed => cases hdirective
  | target known =>
    cases hdirective
    rcases mem_ofAnnotations hmem with hkey | hkey | hkey | hkey <;>
      rcases underKey_eq_some hkey with heq | ⟨known, hknown, heq⟩ <;> cases heq
    exact List.mem_filterMap.mpr ⟨.target, by simp, hknown⟩

end Directive

namespace EffectDescription

/-- The annotations of a technique and of its passes. -/
def techniqueNotes (t : TechniqueDescription) : List Annotations :=
  t.annotations :: t.passes.map (·.annotations)

/-- All annotations of a document. -/
def notes (d : EffectDescription) : List Annotations :=
  d.parameters.map (·.annotations) ++ d.techniques.flatMap techniqueNotes

/-- The textures that a document names, to sample one or to draw into it. -/
def mentioned (d : EffectDescription) : List String := d.notes.flatMap Directive.mentioned

end EffectDescription

namespace EffectDraft

theorem mem_of_mem_firstOfEach {seen : List String} {parameters : List TypedParameter}
    {p : TypedParameter} (h : p ∈ firstOfEach seen parameters) : p ∈ parameters := by
  induction parameters generalizing seen with
  | nil => exact h
  | cons first rest ih =>
    rw [firstOfEach] at h
    split_ifs at h
    · exact List.mem_cons_of_mem first (ih h)
    · rcases List.mem_cons.mp h with rfl | hrest
      · exact List.mem_cons_self
      · exact List.mem_cons_of_mem first (ih hrest)

theorem compilePass_directives {compiler : Compiler} {effect technique : String}
    {ds : List Declaration} {d : PassDescription} {pass : Pass}
    (h : compilePass compiler effect technique ds d = .ok pass) :
    pass.directives = Directive.ofAnnotations d.annotations := by
  obtain ⟨_, _, rfl⟩ := compilePass_eq_ok_iff.mp h
  rfl

theorem compileTechnique_asks {compiler : Compiler} {effect : String} {ds : List Declaration}
    {d : TechniqueDescription} {t : Technique} (h : compileTechnique compiler effect ds d = .ok t) :
    t.asks = (EffectDescription.techniqueNotes d).map Directive.ofAnnotations := by
  obtain ⟨passes, hpasses, rfl⟩ := compileTechnique_eq_ok_iff.mp h
  have hsame := map_of_mapM_eq_ok (fun _ _ => compilePass_directives) hpasses
  simp only [Technique.asks, EffectDescription.techniqueNotes, List.map_cons, List.map_map, hsame]
  rfl

/-- What a compiled effect asks for stands in its document. -/
theorem compile_asks {compiler : Compiler} {d : EffectDescription} {draft : EffectDraft}
    (h : compile compiler d = .ok draft) :
    (∀ p ∈ draft.parameters, ∃ note ∈ d.notes, p.directives = Directive.ofAnnotations note) ∧
      ∀ t ∈ draft.techniques, ∀ directives ∈ t.asks, ∃ note ∈ d.notes,
        directives = Directive.ofAnnotations note := by
  obtain ⟨parameters, techniques, htyped, htechniques, rfl⟩ := compile_eq_ok_iff.mp h
  refine ⟨fun p hp => ?_, fun t ht directives hdirectives => ?_⟩
  · obtain ⟨kept, hkept, rfl⟩ := List.mem_map.mp hp
    obtain ⟨description, hdescription, htype⟩ :=
      mem_of_mapM_eq_ok htyped (mem_of_mem_firstOfEach hkept)
    have hsame : kept.description = description := (typed_eq_ok_iff.mp htype).1
    exact ⟨description.annotations, List.mem_append_left _ (List.mem_map_of_mem hdescription),
      by rw [← hsame]; rfl⟩
  · obtain ⟨description, hdescription, hcompile⟩ := mem_of_mapM_eq_ok htechniques ht
    rw [compileTechnique_asks hcompile] at hdirectives
    obtain ⟨note, hnote, rfl⟩ := List.mem_map.mp hdirectives
    exact ⟨note, List.mem_append_right _ (List.mem_flatMap.mpr ⟨description, hdescription, hnote⟩),
      rfl⟩

end EffectDraft

end ShaderEffects
