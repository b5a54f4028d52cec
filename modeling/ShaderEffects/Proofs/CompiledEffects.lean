import ShaderEffects.Proofs.CompiledPrograms
import ShaderEffects.Proofs.ConstantSlots
import ShaderEffects.Proofs.LinkedEffects
import ShaderEffects.Proofs.OwnedParameters

/-!
# What compiling puts into an effect

No two parameters of a compiled effect have one name, and its programs are laid out by
its parameters. So a slot of a program stands for the one parameter of the effect that
has its name.
-/
namespace ShaderEffects

/-- Of two rows in step each member of the first has its counterpart in the second. -/
theorem exists_of_forall₂ {α β : Type} {r : α → β → Prop} {xs : List α} {ys : List β}
    (h : List.Forall₂ r xs ys) {x : α} (hx : x ∈ xs) : ∃ y ∈ ys, r x y := by
  induction h with
  | nil => exact absurd hx List.not_mem_nil
  | @cons _ y _ _ hfirst _ ih =>
    rcases List.mem_cons.mp hx with rfl | hrest
    · exact ⟨y, List.mem_cons_self, hfirst⟩
    · obtain ⟨z, hz, hr⟩ := ih hrest
      exact ⟨z, List.mem_cons_of_mem y hz, hr⟩

/-- A row of computations succeeds if all of them do, and has their results in order. -/
theorem mapM_eq_ok_iff {α β ε : Type} {f : α → Except ε β} {xs : List α} {ys : List β} :
    xs.mapM f = .ok ys ↔ List.Forall₂ (fun x y => f x = .ok y) xs ys := by
  induction xs generalizing ys with
  | nil => simp [pure, Except.pure, eq_comm]
  | cons x rest ih =>
    rw [List.mapM_cons, List.forall₂_cons_left_iff]
    cases hx : f x with
    | error e => simp [bind, Except.bind]
    | ok first =>
      cases hrest : rest.mapM f with
      | error e => simp [bind, Except.bind, ← ih, hrest]
      | ok others => simp [bind, Except.bind, pure, Except.pure, ← ih, hrest, eq_comm]

/-- Each result of a row of computations is that of one of them. -/
theorem mem_of_mapM_eq_ok {α β ε : Type} {f : α → Except ε β} {xs : List α} {ys : List β}
    (h : xs.mapM f = .ok ys) {y : β} (hy : y ∈ ys) : ∃ x ∈ xs, f x = .ok y :=
  exists_of_forall₂ (mapM_eq_ok_iff.mp h).flip hy

/-- What the results of a row of computations have in common with what they are made of,
they have in the same order. -/
theorem map_of_mapM_eq_ok {α β γ ε : Type} {f : α → Except ε β} {g : α → γ} {k : β → γ}
    (hf : ∀ x y, f x = .ok y → k y = g x) {xs : List α} {ys : List β} (h : xs.mapM f = .ok ys) :
    ys.map k = xs.map g := by
  have hrow := mapM_eq_ok_iff.mp h
  clear h
  induction hrow with
  | nil => rfl
  | cons hfirst _ ih => rw [List.map_cons, List.map_cons, hf _ _ hfirst, ih]

theorem map_eq_ok_iff {α β ε : Type} {f : α → β} {x : Except ε α} {y : β} :
    x.map f = .ok y ↔ ∃ a, x = .ok a ∧ f a = y := by
  cases x <;> simp [Except.map]

/-- A pass that has at most one program for each stage. -/
def Pass.Staged (pass : Pass) : Prop := (pass.programs.map (·.stage)).Nodup

/-- A document declares at most one program for each stage of a pass. -/
theorem PassDescription.nodup_stages (d : PassDescription) :
    (d.programs.map (·.1)).Nodup := by
  have hall : Stage.all.Nodup := by decide
  have hsublist : ∀ stages : List Stage, List.Sublist
      ((stages.filterMap fun stage =>
        (d.program? stage).map fun program => (stage, program)).map (·.1)) stages := by
    intro stages
    induction stages with
    | nil => exact List.Sublist.refl _
    | cons stage rest ih =>
      rw [List.filterMap_cons]
      cases d.program? stage with
      | none => exact ih.cons stage
      | some program => exact ih.cons_cons stage
  exact (hsublist Stage.all).nodup hall

namespace EffectDraft

/-- Of the parameters of one name the first is kept. -/
theorem nodup_firstOfEach (seen : List String) (parameters : List TypedParameter) :
    ((firstOfEach seen parameters).map (·.description.name)).Nodup ∧
      ∀ p ∈ firstOfEach seen parameters, p.description.name ∉ seen := by
  induction parameters generalizing seen with
  | nil => exact ⟨List.nodup_nil, fun _ hp => absurd hp List.not_mem_nil⟩
  | cons p rest ih =>
    rw [firstOfEach]
    split_ifs with hseen
    · exact ih seen
    · obtain ⟨hnodup, hnew⟩ := ih (p.description.name :: seen)
      refine ⟨List.nodup_cons.mpr ⟨fun hmem => ?_, hnodup⟩, fun q hq => ?_⟩
      · obtain ⟨q, hq, hname⟩ := List.mem_map.mp hmem
        exact hnew q hq (hname ▸ List.mem_cons_self)
      · rcases List.mem_cons.mp hq with rfl | hrest
        · exact hseen
        · exact fun hmem => hnew q hrest (List.mem_cons_of_mem _ hmem)

theorem typed_eq_ok_iff {d : ParameterDescription} {p : TypedParameter} :
    typed d = .ok p ↔ p.description = d ∧ ParameterType.ofSpelling? d.type = some p.type := by
  obtain ⟨description, type⟩ := p
  unfold typed
  cases ParameterType.ofSpelling? d.type with
  | none => simp
  | some known => simp [eq_comm]

/-- The numbers of a document change neither name nor type of a parameter, which has one
owner. -/
theorem draft_cell (effect : String) (p : TypedParameter) :
    (draft effect p).cell.name = p.description.name ∧ (draft effect p).cell.type = p.type ∧
      (draft effect p).cell.owners = 1 := by
  unfold draft
  simp only
  split_ifs <;> exact ⟨rfl, rfl, rfl⟩

/-- Compiles the program of a stage, and says which effect and pass a failure is of. -/
def compileStage (compiler : Compiler) (effect technique pass : String) (ds : List Declaration)
    (x : Stage × ProgramDescription) : Except EffectError Program :=
  (compiler.compile (label effect technique pass x.1) x.1 x.2 ds).mapError
    fun cause => EffectError.compile effect (technique ++ "/" ++ pass) cause

theorem compileStage_eq_ok_iff {compiler : Compiler} {effect technique pass : String}
    {ds : List Declaration} {x : Stage × ProgramDescription} {program : Program} :
    compileStage compiler effect technique pass ds x = .ok program ↔
      compiler.Builds (label effect technique pass x.1) x.1 x.2 ds program := by
  rw [← Compiler.compile_eq_ok_iff]
  unfold compileStage
  cases compiler.compile (label effect technique pass x.1) x.1 x.2 ds <;> simp [Except.mapError]

theorem compilePass_eq_ok_iff {compiler : Compiler} {effect technique : String}
    {ds : List Declaration} {d : PassDescription} {pass : Pass} :
    compilePass compiler effect technique ds d = .ok pass ↔ ∃ programs,
      d.programs.mapM (compileStage compiler effect technique d.name ds) = .ok programs ∧
        { name := d.name, technique, programs,
          directives := Directive.ofAnnotations d.annotations } = pass := map_eq_ok_iff

theorem compileTechnique_eq_ok_iff {compiler : Compiler} {effect : String}
    {ds : List Declaration} {d : TechniqueDescription} {t : Technique} :
    compileTechnique compiler effect ds d = .ok t ↔ ∃ passes,
      d.passes.mapM (compilePass compiler effect d.name ds) = .ok passes ∧
        { name := d.name, passes, directives := Directive.ofAnnotations d.annotations } = t :=
  map_eq_ok_iff

/-- The programs of an effect are laid out by the parameters that are kept. -/
theorem compile_eq_ok_iff {compiler : Compiler} {d : EffectDescription} {draft : EffectDraft} :
    compile compiler d = .ok draft ↔ ∃ parameters techniques,
      d.parameters.mapM typed = .ok parameters ∧
        d.techniques.mapM
            (compileTechnique compiler d.name (declarations (firstOfEach [] parameters))) =
          .ok techniques ∧
        ⟨d.name, (firstOfEach [] parameters).map (EffectDraft.draft d.name), techniques⟩ =
          draft := by
  unfold compile
  cases d.parameters.mapM typed with
  | error e => simp
  | ok parameters =>
    simp only [Except.ok.injEq, exists_and_left, exists_eq_left']
    cases d.techniques.mapM
      (compileTechnique compiler d.name (declarations (firstOfEach [] parameters))) <;> simp

/-- The programs of a compiled pass, one for each that its document declares. -/
theorem compilePass_mapM {compiler : Compiler} {effect technique : String}
    {ds : List Declaration} {d : PassDescription} {pass : Pass}
    (h : compilePass compiler effect technique ds d = .ok pass) :
    d.programs.mapM (compileStage compiler effect technique d.name ds) = .ok pass.programs := by
  obtain ⟨programs, hprograms, rfl⟩ := compilePass_eq_ok_iff.mp h
  exact hprograms

theorem compilePass_programs {compiler : Compiler} {effect technique : String}
    {ds : List Declaration} {d : PassDescription} {pass : Pass}
    (h : compilePass compiler effect technique ds d = .ok pass) {program : Program}
    (hprogram : program ∈ pass.programs) : program.constants = .build program.source ds := by
  obtain ⟨_, _, hcompile⟩ := mem_of_mapM_eq_ok (compilePass_mapM h) hprogram
  exact (compileStage_eq_ok_iff.mp hcompile).laid

theorem compilePass_staged {compiler : Compiler} {effect technique : String}
    {ds : List Declaration} {d : PassDescription} {pass : Pass}
    (h : compilePass compiler effect technique ds d = .ok pass) : pass.Staged := by
  unfold Pass.Staged
  rw [map_of_mapM_eq_ok (fun _ _ hcompile => (compileStage_eq_ok_iff.mp hcompile).staged)
    (compilePass_mapM h)]
  exact d.nodup_stages

/-- The passes of a compiled technique are compiled. -/
theorem compileTechnique_passes {compiler : Compiler} {effect : String}
    {ds : List Declaration} {d : TechniqueDescription} {t : Technique}
    (h : compileTechnique compiler effect ds d = .ok t) {pass : Pass} (hpass : pass ∈ t.passes) :
    ∃ description, compilePass compiler effect d.name ds description = .ok pass := by
  obtain ⟨passes, hpasses, rfl⟩ := compileTechnique_eq_ok_iff.mp h
  obtain ⟨description, _, hcompile⟩ := mem_of_mapM_eq_ok hpasses hpass
  exact ⟨description, hcompile⟩

/-- A compiled effect keeps the first parameter of each name, and its passes are compiled
for those. -/
theorem compile_cases {compiler : Compiler} {d : EffectDescription} {draft : EffectDraft}
    (h : compile compiler d = .ok draft) :
    ∃ parameters : List TypedParameter,
      draft.parameters = (firstOfEach [] parameters).map (EffectDraft.draft d.name) ∧
      ∀ t ∈ draft.techniques, ∀ pass ∈ t.passes, ∃ technique description,
        compilePass compiler d.name technique (declarations (firstOfEach [] parameters))
          description = .ok pass := by
  obtain ⟨parameters, techniques, _, htechniques, rfl⟩ := compile_eq_ok_iff.mp h
  refine ⟨parameters, rfl, fun t ht pass hpass => ?_⟩
  obtain ⟨technique, _, hcompile⟩ := mem_of_mapM_eq_ok htechniques ht
  exact ⟨technique.name, compileTechnique_passes hcompile hpass⟩

/-- The parameters of a compiled effect have names of their own and one owner each, and
the programs are laid out by them. -/
theorem compile_spec {compiler : Compiler} {d : EffectDescription} {draft : EffectDraft}
    (h : compile compiler d = .ok draft) :
    (draft.parameters.map (·.cell.name)).Nodup ∧ (∀ p ∈ draft.parameters, p.cell.owners = 1) ∧
      ∀ t ∈ draft.techniques, ∀ pass ∈ t.passes, ∀ program ∈ pass.programs,
        program.constants =
          .build program.source (draft.parameters.map fun p => ⟨p.cell.name, p.cell.type⟩) := by
  obtain ⟨parameters, hparameters, hpasses⟩ := compile_cases h
  have hname : ∀ p, (EffectDraft.draft d.name p).cell.name = p.description.name :=
    fun p => (draft_cell d.name p).1
  have htype : ∀ p, (EffectDraft.draft d.name p).cell.type = p.type :=
    fun p => (draft_cell d.name p).2.1
  rw [hparameters]
  refine ⟨?_, ?_, ?_⟩
  · have hnodup := (nodup_firstOfEach [] parameters).1
    simpa [Function.comp_def, hname] using hnodup
  · intro p hp
    obtain ⟨q, _, rfl⟩ := List.mem_map.mp hp
    exact (draft_cell d.name q).2.2
  · intro t ht pass hpass program hprogram
    obtain ⟨_, _, hcompile⟩ := hpasses t ht pass hpass
    have hconstants := compilePass_programs hcompile hprogram
    simpa [declarations, Function.comp_def, hname, htype] using hconstants

/-- Each pass of a compiled effect has at most one program for a stage. -/
theorem compile_staged {compiler : Compiler} {d : EffectDescription} {draft : EffectDraft}
    (h : compile compiler d = .ok draft) :
    ∀ t ∈ draft.techniques, ∀ pass ∈ t.passes, pass.Staged := by
  obtain ⟨_, _, hpasses⟩ := compile_cases h
  intro t ht pass hpass
  obtain ⟨_, _, hcompile⟩ := hpasses t ht pass hpass
  exact compilePass_staged hcompile

/-- What bringing the parameters of a compiled effect to life makes of it: they differ in
names and numbers, the programs are laid out by them, and each of them is a new one with
one owner. -/
structure Installed (ps : Parameters) (effect : Effect) (ps' : Parameters) : Prop where
  stays : ps.Stays ps'
  names : (effect.parameters.map (·.name)).Nodup
  ids : effect.parameterIds.Nodup
  laid : ∀ t ∈ effect.techniques, ∀ pass ∈ t.passes, ∀ program ∈ pass.programs,
    program.constants =
      .build program.source (effect.parameters.map fun ep => ⟨ep.name, ep.type⟩)
  fresh : ∀ ep ∈ effect.parameters, ps.made ≤ ep.id.number ∧
    ∃ p, ps'.get? ep.id = some p ∧ p.name = ep.name ∧ p.type = ep.type ∧ p.owners = 1

theorem installed_install {compiler : Compiler} {d : EffectDescription} {draft : EffectDraft}
    (hcompile : compile compiler d = .ok draft) {ps : Parameters} (h : ps.Numbered) :
    Installed ps (draft.install ps).1 (draft.install ps).2 := by
  obtain ⟨hnames, howners, hlaid⟩ := compile_spec hcompile
  obtain ⟨hstays, hmap, hids, hall⟩ := settle_spec h draft.parameters
  refine ⟨hstays, ?_, hids, ?_, ?_⟩
  · have hsame := congrArg (List.map Prod.fst) hmap
    simp only [List.map_map, Function.comp_def] at hsame
    exact hsame ▸ hnames
  · intro t ht pass hpass program hprogram
    have hsame := congrArg (List.map fun x => (⟨x.1, x.2⟩ : Declaration)) hmap
    simp only [List.map_map, Function.comp_def] at hsame
    rw [hlaid t ht pass hpass program hprogram]
    exact congrArg _ hsame.symm
  · intro ep hep
    obtain ⟨hle, p, hp, hname, htype, drafted, hdrafted, hone⟩ := hall ep hep
    exact ⟨hle, p, hp, hname, htype, hone.trans (howners drafted hdrafted)⟩

end EffectDraft

/-! ## Loaded effects -/

/-- What is known of a loaded effect at any time: its parameters differ in their names
and numbers, its programs are laid out by them, and the device accepted the programs of
each pass that may be drawn. -/
structure WellCompiled (D : Type) [Device D] (effect : Effect) : Prop where
  names : (effect.parameters.map (·.name)).Nodup
  ids : effect.parameterIds.Nodup
  laid : ∀ t ∈ effect.techniques, ∀ pass ∈ t.passes, ∀ program ∈ pass.programs,
    program.constants =
      .build program.source (effect.parameters.map fun ep => ⟨ep.name, ep.type⟩)
  accepted : ∀ t ∈ effect.techniques, ∀ pass ∈ t.passes, pass.valid = true →
    Accepted D pass.programs

namespace WellCompiled

variable {D : Type} [Device D] {effect : Effect}

/-- A parameter is found by its name. -/
theorem parameter? (h : WellCompiled D effect) {ep : EffectParameter}
    (hep : ep ∈ effect.parameters) : effect.parameter? ep.name = some ep :=
  find?_of_nodup_map h.names hep

section program

variable {t : Technique} {pass : Pass} {program : Program} (h : WellCompiled D effect)
  (ht : t ∈ effect.techniques) (hpass : pass ∈ t.passes) (hprogram : program ∈ pass.programs)

include h ht hpass hprogram

/-- The slots of a program stand one behind the other. -/
theorem laid_constants : program.constants.Laid := by
  rw [h.laid t ht pass hpass program hprogram]
  refine ConstantTable.laid_build _ ?_
  simpa [Function.comp_def] using h.names

/-- A slot of a program stands for the parameter of its name, which holds numbers. -/
theorem parameter?_slot {slot : ConstantSlot} (hslot : slot ∈ program.constants.constants) :
    ∃ ep ∈ effect.parameters, effect.parameter? slot.parameter = some ep ∧
      ep.name = slot.parameter ∧ ep.type.category = .scalar := by
  rw [h.laid t ht pass hpass program hprogram] at hslot
  obtain ⟨hmem, hscalar, _⟩ := ConstantTable.mem_constants_build hslot
  obtain ⟨ep, hep, heq⟩ := List.mem_map.mp hmem
  obtain ⟨hname, htype⟩ := Declaration.mk.inj heq
  refine ⟨ep, hep, ?_, hname, htype ▸ hscalar⟩
  rw [← hname]
  exact h.parameter? hep

end program

end WellCompiled

namespace Parameters

/-- The parameters of an effect are alive under their names. -/
def Supplies (ps : Parameters) (effect : Effect) : Prop :=
  ∀ ep ∈ effect.parameters, ∃ p, ps.get? ep.id = some p ∧ p.name = ep.name ∧ p.type = ep.type

/-- The effect has no other parameter of this name than one with this value. -/
def Feeds (ps : Parameters) (effect : Effect) (name : String) (p : Parameter) : Prop :=
  ∀ id ∈ effect.parameterIds, ∀ other, ps.get? id = some other → other.name = name → other = p

end Parameters

/-- A parameter of an effect that is alive is the only one of its name. -/
theorem WellCompiled.feeds {D : Type} [Device D] {effect : Effect} (h : WellCompiled D effect)
    {ps : Parameters} (hsupplies : ps.Supplies effect) {ep : EffectParameter}
    (hep : ep ∈ effect.parameters) :
    ∃ p, ps.get? ep.id = some p ∧ p.name = ep.name ∧ p.type = ep.type ∧
      ps.Feeds effect ep.name p := by
  obtain ⟨p, hp, hname, htype⟩ := hsupplies ep hep
  refine ⟨p, hp, hname, htype, fun id hid other hother hsame => ?_⟩
  obtain ⟨known, hknown, rfl⟩ := List.mem_map.mp hid
  obtain ⟨p', hp', hname', _⟩ := hsupplies known hknown
  rw [hother] at hp'
  cases hp'
  have hsomes := h.parameter? hknown
  rw [← hname', hsame, h.parameter? hep] at hsomes
  cases hsomes
  exact Option.some.inj (hother.symm.trans hp)

namespace Engine

variable {D : Type} [Device D]

/-- Linking a compiled effect leaves it well compiled. -/
theorem link_wellCompiled (e : Engine D) {effect : Effect} {ps ps' : Parameters}
    (h : EffectDraft.Installed ps effect ps') : WellCompiled D (e.link effect).1 := by
  have hparameters := link_parameters e effect
  refine ⟨?_, ?_, ?_, ?_⟩
  · rw [hparameters]
    exact h.names
  · unfold Effect.parameterIds
    rw [hparameters]
    exact h.ids
  · intro t ht pass hpass program hprogram
    obtain ⟨c, hc, p, hp, hlinked⟩ := link_passes e effect ht hpass
    rw [hlinked.programs] at hprogram
    rw [hparameters]
    exact h.laid c hc p hp program hprogram
  · intro t ht pass hpass hvalid
    obtain ⟨_, _, _, _, hlinked⟩ := link_passes e effect ht hpass
    exact hlinked.accepted hvalid

end Engine

end ShaderEffects
