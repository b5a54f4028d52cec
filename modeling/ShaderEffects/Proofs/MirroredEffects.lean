import ShaderEffects.Proofs.CompileFaults
import ShaderEffects.Proofs.NewEffects

/-!
# Effects that mirror their documents

A compiled effect has the first parameter of each name, and techniques, passes and
programs one for one with its document. Nothing is known yet of what a device makes of
them.
-/
namespace ShaderEffects

/-! ## The first declaration of each name -/

/-- The declarations before which no other of their name stands. -/
def ParameterDescription.firsts (ps : List ParameterDescription) : List ParameterDescription :=
  (ps.zipIdx.filter fun (p, i) => p.name ∉ (ps.take i).map (·.name)).map (·.1)

namespace ParameterDescription

@[simp] theorem firsts_nil : firsts [] = [] := rfl

theorem firsts_concat (ps : List ParameterDescription) (p : ParameterDescription) :
    firsts (ps ++ [p]) = firsts ps ++ if p.name ∈ ps.map (·.name) then [] else [p] := by
  unfold firsts
  have hsame : ∀ x ∈ ps.zipIdx, (x.1.name ∉ ((ps ++ [p]).take x.2).map (·.name)) =
      (x.1.name ∉ (ps.take x.2).map (·.name)) := by
    rintro ⟨q, i⟩ hmem
    have hlt := (List.mem_zipIdx' hmem).1
    rw [List.take_append_of_le_length hlt.le]
  rw [List.zipIdx_append, List.filter_append, List.map_append]
  congr 2
  · exact List.filter_congr fun x hx => by simp only [hsame x hx]
  · simp only [List.zipIdx_singleton, Nat.zero_add, List.filter_cons, List.filter_nil,
      List.take_left']
    split_ifs <;> simp_all

end ParameterDescription

namespace EffectDraft

theorem firstOfEach_concat (seen : List String) (parameters : List TypedParameter)
    (p : TypedParameter) :
    firstOfEach seen (parameters ++ [p]) = firstOfEach seen parameters ++
      if p.description.name ∈ seen ∨ p.description.name ∈ parameters.map (·.description.name)
      then [] else [p] := by
  induction parameters generalizing seen with
  | nil => simp [firstOfEach]
  | cons q rest ih =>
    simp only [List.cons_append, firstOfEach, ih, List.map_cons, List.mem_cons]
    by_cases hq : q.description.name ∈ seen
    · have hsame : p.description.name = q.description.name → p.description.name ∈ seen :=
        fun h => h ▸ hq
      rw [if_pos hq, if_pos hq]
      congr 2
      exact propext ⟨by tauto, by tauto⟩
    · rw [if_neg hq, if_neg hq, List.cons_append]
      congr 3
      exact propext ⟨by tauto, by tauto⟩

/-- What is kept is the first declaration of each name. -/
theorem map_firstOfEach (parameters : List TypedParameter) :
    (firstOfEach [] parameters).map (·.description) =
      ParameterDescription.firsts (parameters.map (·.description)) := by
  induction parameters using List.reverseRecOn with
  | nil => rfl
  | append_singleton rest p ih =>
    rw [firstOfEach_concat, List.map_append, ih, List.map_append, List.map_singleton,
      ParameterDescription.firsts_concat]
    simp only [List.not_mem_nil, false_or, List.map_map, Function.comp_def]
    split_ifs <;> rfl

end EffectDraft

/-! ## What stands for what -/

/-- A parameter that just came to life holds what its document declares: of the numbers the
first sixteen, where missing ones are zero. -/
structure Parameter.Mirrors (effect : String) (d : ParameterDescription) (p : Parameter) :
    Prop where
  name : p.name = d.name
  type : ParameterType.ofSpelling? d.type = some p.type
  origin : p.origin = .effect effect
  scalars : ∀ i (h : i < 16),
    p.scalars[i] = if p.category = .scalar then d.default.getD i 0 else 0
  texture : p.texture = none
  attached : p.attached = []

/-- A parameter of an effect stands for a declared one. -/
structure EffectParameter.Mirrors (ps : Parameters) (effect : String) (d : ParameterDescription)
    (ep : EffectParameter) : Prop where
  name : ep.name = d.name
  type : ParameterType.ofSpelling? d.type = some ep.type
  directives : ep.directives = Directive.ofAnnotations d.annotations
  holds : ∃ p, ps.get? ep.id = some p ∧ p.Mirrors effect d

/-- A pass has the programs that its document declares, each at its own stage, and no
other. -/
structure Pass.Mirrors (compiler : Compiler) (effect owner : String) (ds : List Declaration)
    (d : PassDescription) (pass : Pass) : Prop where
  name : pass.name = d.name
  technique : pass.technique = owner
  directives : pass.directives = Directive.ofAnnotations d.annotations
  stages : pass.programs.map (·.stage) = d.programs.map (·.1)
  programs : ∀ stage, Option.Rel
    (compiler.Builds (EffectDraft.label effect owner d.name stage) stage · ds ·)
    (d.program? stage) (pass.program? stage)
  target : pass.target = none
  valid : pass.valid = false

/-- A technique has the passes that its document declares, in order. -/
structure Technique.Mirrors (compiler : Compiler) (effect : String) (ds : List Declaration)
    (d : TechniqueDescription) (t : Technique) : Prop where
  name : t.name = d.name
  directives : t.directives = Directive.ofAnnotations d.annotations
  passes : List.Forall₂ (Pass.Mirrors compiler effect d.name ds) d.passes t.passes
  target : t.target = none
  verdict : t.verdict = none

/-- The names and types by which the programs of an effect are laid out. -/
def Effect.declarations (effect : Effect) : List Declaration :=
  effect.parameters.map fun ep => ⟨ep.name, ep.type⟩

/-- An effect has the first declared parameter of each name and the techniques that its
document declares, in order, and none of these is chosen. -/
structure Effect.Mirrors (compiler : Compiler) (ps : Parameters) (d : EffectDescription)
    (effect : Effect) : Prop where
  name : effect.name = d.name
  parameters : List.Forall₂ (EffectParameter.Mirrors ps d.name)
    (ParameterDescription.firsts d.parameters) effect.parameters
  techniques : List.Forall₂ (Technique.Mirrors compiler d.name effect.declarations)
    d.techniques effect.techniques
  chosen : effect.chosen = none

/-! ## Passes and techniques -/

theorem find?_filterMap_stage {α : Type} (f : Stage → Option α) (stage : Stage)
    (stages : List Stage) :
    ((stages.filterMap fun s => (f s).map fun x => (s, x)).find? fun x => x.1 = stage) =
      if stage ∈ stages then (f stage).map fun x => (stage, x) else none := by
  induction stages with
  | nil => rfl
  | cons s rest ih =>
    rw [List.filterMap_cons]
    by_cases hs : s = stage
    · subst hs
      cases hf : f s with
      | none => simp [ih, hf]
      | some x => simp
    · cases hf : f s with
      | none => simp [ih, Ne.symm hs]
      | some x => simp [ih, hs, Ne.symm hs]

/-- The program that a pass declares for a stage is found under it. -/
theorem PassDescription.find?_programs (d : PassDescription) (stage : Stage) :
    (d.programs.find? fun x => x.1 = stage) = (d.program? stage).map fun x => (stage, x) := by
  unfold programs
  rw [find?_filterMap_stage, if_pos stage.mem_all]

/-- Of two rows in step, which agree on what is looked for, the same place is found. -/
theorem rel_find?_of_forall₂ {α β : Type} {r : α → β → Prop} {p : α → Bool} {q : β → Bool}
    (hsame : ∀ x y, r x y → p x = q y) {xs : List α} {ys : List β} (h : List.Forall₂ r xs ys) :
    Option.Rel r (xs.find? p) (ys.find? q) := by
  induction h with
  | nil => exact .none
  | @cons x y _ _ hfirst _ ih =>
    rw [List.find?_cons, List.find?_cons, ← hsame x y hfirst]
    cases p x with
    | true => exact .some hfirst
    | false => exact ih

namespace EffectDraft

theorem compilePass_mirrors {compiler : Compiler} {effect technique : String}
    {ds : List Declaration} {d : PassDescription} {pass : Pass}
    (h : compilePass compiler effect technique ds d = .ok pass) :
    pass.Mirrors compiler effect technique ds d := by
  obtain ⟨programs, hcompiled, rfl⟩ := compilePass_eq_ok_iff.mp h
  have hprograms := mapM_eq_ok_iff.mp hcompiled
  have hstage : ∀ x program, compileStage compiler effect technique d.name ds x = .ok program →
      program.stage = x.1 := fun _ _ hcompile => (compileStage_eq_ok_iff.mp hcompile).staged
  refine ⟨rfl, rfl, rfl, map_of_mapM_eq_ok hstage hcompiled, fun stage => ?_, rfl, rfl⟩
  have hfound := rel_find?_of_forall₂ (p := fun x => x.1 = stage)
    (q := fun program => program.stage = stage)
    (fun x program hcompile => by rw [hstage x program hcompile]) hprograms
  rw [d.find?_programs] at hfound
  unfold Pass.program?
  revert hfound
  cases d.program? stage <;> cases programs.find? fun program => program.stage = stage <;>
    intro hfound <;> cases hfound
  · exact .none
  · exact .some (compileStage_eq_ok_iff.mp ‹_›)

theorem compileTechnique_mirrors {compiler : Compiler} {effect : String}
    {ds : List Declaration} {d : TechniqueDescription} {t : Technique}
    (h : compileTechnique compiler effect ds d = .ok t) :
    t.Mirrors compiler effect ds d := by
  obtain ⟨passes, hpasses, rfl⟩ := compileTechnique_eq_ok_iff.mp h
  have hrow := mapM_eq_ok_iff.mp hpasses
  exact ⟨rfl, rfl, hrow.imp fun _ _ => compilePass_mirrors, rfl, rfl⟩

/-! ## Parameters -/

theorem draft_mirrors (effect : String) {p : TypedParameter}
    (htype : ParameterType.ofSpelling? p.description.type = some p.type) :
    (draft effect p).cell.Mirrors effect p.description := by
  unfold draft
  simp only
  split_ifs with hwrites
  · refine ⟨rfl, htype, rfl, fun i hi => ?_, rfl, rfl⟩
    simp [Write.apply, Scalars.ofList, Parameter.category, hwrites.1]
  · refine ⟨rfl, htype, rfl, fun i hi => ?_, rfl, rfl⟩
    change (Scalars.ofList [])[i] =
      if p.type.category = .scalar then p.description.default.getD i 0 else 0
    rw [Scalars.ofList, Vector.getElem_ofFn]
    by_cases hscalar : p.type.category = .scalar
    · have hempty : p.description.default = [] := by simpa [hscalar] using hwrites
      rw [if_pos hscalar, hempty]
    · rw [if_neg hscalar]
      rfl

theorem Realizes.mirrors {ps : Parameters} {effect : String} {p : TypedParameter}
    {ep : EffectParameter} (h : Realizes ps ep (draft effect p))
    (htype : ParameterType.ofSpelling? p.description.type = some p.type) :
    ep.Mirrors ps effect p.description := by
  have hcell := draft_mirrors effect htype
  exact ⟨h.name.trans hcell.name, h.type ▸ hcell.type, h.directives, _, h.cell, hcell⟩

theorem firstOfEach_sublist (seen : List String) (parameters : List TypedParameter) :
    (firstOfEach seen parameters).Sublist parameters := by
  induction parameters generalizing seen with
  | nil => exact .slnil
  | cons p rest ih =>
    unfold firstOfEach
    split_ifs
    · exact (ih seen).cons p
    · exact (ih _).cons_cons p

/-- The parameters of an installed effect are the first declared ones of each name. -/
theorem settle_mirrors {d : EffectDescription} {parameters : List TypedParameter}
    (htyped : d.parameters.mapM typed = .ok parameters) (ps : Parameters) :
    let settled := settle ps ((firstOfEach [] parameters).map (draft d.name))
    List.Forall₂ (EffectParameter.Mirrors settled.2 d.name)
        (ParameterDescription.firsts d.parameters) settled.1 ∧
      settled.1.map (fun ep => (⟨ep.name, ep.type⟩ : Declaration)) =
        declarations (firstOfEach [] parameters) := by
  intro settled
  have hrow := mapM_eq_ok_iff.mp htyped
  have hdeclared : parameters.map (·.description) = d.parameters := by
    rw [map_of_mapM_eq_ok (g := id) (fun _ _ h => (typed_eq_ok_iff.mp h).1) htyped, List.map_id]
  have htypes : ∀ p ∈ firstOfEach [] parameters,
      ParameterType.ofSpelling? p.description.type = some p.type := by
    intro p hp
    obtain ⟨q, _, hq⟩ := mem_of_mapM_eq_ok htyped ((firstOfEach_sublist [] parameters).subset hp)
    obtain ⟨rfl, htype⟩ := typed_eq_ok_iff.mp hq
    exact htype
  obtain ⟨-, -, -, hcells, -⟩ := settle_cells ps ((firstOfEach [] parameters).map (draft d.name))
  have hkept := (List.forall₂_map_right_iff.mp hcells).flip
  constructor
  · rw [← hdeclared, ← map_firstOfEach, List.forall₂_map_left_iff]
    exact ((List.forall₂_and_left _ _).mpr ⟨htypes, hkept⟩).imp fun p ep h => h.2.mirrors h.1
  · rw [declarations, ← List.forall₂_eq_eq_eq, List.forall₂_map_left_iff,
      List.forall₂_map_right_iff]
    refine hkept.flip.imp fun ep p h => ?_
    rw [h.name, h.type, (draft_cell d.name p).1, (draft_cell d.name p).2.1]

/-! ## Effects -/

/-- A document compiles exactly if everything in it does, of one that does not the first
thing that is wrong is reported, and an effect that compiles mirrors its document. -/
theorem compile_mirrors (compiler : Compiler) (d : EffectDescription) :
    ((∃ draft, compile compiler d = .ok draft) ↔ d.Compilable compiler) ∧
      (∀ e, compile compiler d = .error e ↔ d.Reports compiler e) ∧
      ∀ draft, compile compiler d = .ok draft → ∀ ps,
        (draft.install ps).1.Mirrors compiler (draft.install ps).2 d := by
  refine ⟨(compile_tells compiler d).1, (compile_tells compiler d).2, fun draft h ps => ?_⟩
  obtain ⟨parameters, techniques, htyped, htechniques, rfl⟩ := compile_eq_ok_iff.mp h
  obtain ⟨hparameters, hdeclared⟩ := settle_mirrors htyped ps
  refine ⟨rfl, hparameters, ?_, rfl⟩
  have hrow := mapM_eq_ok_iff.mp htechniques
  rw [← hdeclared] at hrow
  exact hrow.imp fun _ _ => compileTechnique_mirrors

/-- An effect that declares a parameter twice, and a program whose file is not looked for. -/
def repeating : EffectDescription where
  name := "fx"
  parameters :=
    [{ name := "tint", type := "float4", default := [1, 0] },
      { name := "scene", type := "sampler2D" },
      { name := "tint", type := "float" }]
  techniques :=
    [{ name := "t", passes :=
        [{ name := "p"
           fragment := some { profile := "ps_3_0", source := some "scene tint", file := some "none" }
           hull := some { profile := "wgsl", source := some "" } }] }]

/-- It has a parameter of each name and the two programs at their stages. -/
theorem compile_mirrors_repeating :
    ∃ draft, compile { lookup := .search [] } repeating = .ok draft ∧
      (draft.install {}).1.Mirrors { lookup := .search [] } (draft.install {}).2 repeating ∧
      (draft.install {}).1.declarations = [⟨"tint", .float4⟩, ⟨"scene", .sampler2D⟩] ∧
      (draft.install {}).1.techniques.map (fun t => t.passes.map fun pass =>
        pass.programs.map (·.label)) = [[["fx/t/p:Fragment", "fx/t/p:Hull"]]] := by
  have hcompiled : ((compile { lookup := .search [] } repeating).toOption.map fun draft =>
      ((draft.install {}).1.declarations, (draft.install {}).1.techniques.map fun t =>
        t.passes.map fun pass => pass.programs.map (·.label))) =
      some ([⟨"tint", .float4⟩, ⟨"scene", .sampler2D⟩],
        [[["fx/t/p:Fragment", "fx/t/p:Hull"]]]) := by decide +kernel
  obtain ⟨draft, hdraft, hshown⟩ := Option.map_eq_some_iff.mp hcompiled
  obtain ⟨hdeclared, hlabels⟩ := Prod.mk.inj hshown
  have hcompile := ok_of_toOption hdraft
  exact ⟨draft, hcompile, (compile_mirrors _ _).2.2 draft hcompile {}, hdeclared, hlabels⟩

end EffectDraft

end ShaderEffects
