import ShaderEffects.Proofs.CompiledEffects

/-!
# What is reported of a document that does not compile

A document compiles if it declares parameters of known types alone and all its programs
compile; otherwise the first thing that is wrong with it is reported, where every parameter
comes before every program.
-/
namespace ShaderEffects

/-! ## The first member of a row that fails -/

section first

variable {α β : Type}

/-- A member of a row has not what all before it have. -/
def FirstWithout (P : α → Prop) (xs : List α) (x : α) : Prop :=
  ∃ before after, xs = before ++ x :: after ∧ (∀ y ∈ before, P y) ∧ ¬ P x

theorem firstWithout_nil {P : α → Prop} {x : α} : ¬ FirstWithout P [] x := by
  rintro ⟨before, after, hsplit, _⟩
  exact List.cons_ne_nil _ _ (List.append_eq_nil_iff.mp hsplit.symm).2

theorem firstWithout_cons {P : α → Prop} {x y : α} {rest : List α} :
    FirstWithout P (y :: rest) x ↔ ¬ P y ∧ x = y ∨ P y ∧ FirstWithout P rest x := by
  constructor
  · rintro ⟨_ | ⟨z, before⟩, after, hsplit, hbefore, hx⟩
    · cases hsplit
      exact Or.inl ⟨hx, rfl⟩
    · cases hsplit
      obtain ⟨hfirst, hrest⟩ := List.forall_mem_cons.mp hbefore
      exact Or.inr ⟨hfirst, before, after, rfl, hrest, hx⟩
  · rintro (⟨hy, rfl⟩ | ⟨hy, before, after, rfl, hbefore, hx⟩)
    · exact ⟨[], rest, rfl, fun _ hmem => absurd hmem List.not_mem_nil, hy⟩
    · exact ⟨y :: before, after, rfl, List.forall_mem_cons.mpr ⟨hy, hbefore⟩, hx⟩

theorem firstWithout_append {P : α → Prop} {x : α} {xs ys : List α} :
    FirstWithout P (xs ++ ys) x ↔ FirstWithout P xs x ∨ (∀ y ∈ xs, P y) ∧ FirstWithout P ys x := by
  induction xs with
  | nil => simp [firstWithout_nil]
  | cons y rest ih =>
    rw [List.cons_append, firstWithout_cons, firstWithout_cons, ih, List.forall_mem_cons]
    tauto

theorem FirstWithout.mem {P : α → Prop} {x : α} {xs : List α} (h : FirstWithout P xs x) :
    x ∈ xs := by
  obtain ⟨before, after, rfl, _⟩ := h
  exact List.mem_append_right _ List.mem_cons_self

theorem FirstWithout.not {P : α → Prop} {x : α} {xs : List α} (h : FirstWithout P xs x) : ¬ P x := by
  obtain ⟨_, _, _, _, hx⟩ := h
  exact hx

/-- Of groups put one behind the other the first failure is in the first group that has one. -/
theorem firstWithout_flatMap {P : β → Prop} {f : α → List β} {y : β} {xs : List α} :
    FirstWithout P (xs.flatMap f) y ↔
      ∃ x, FirstWithout (fun x => ∀ y ∈ f x, P y) xs x ∧ FirstWithout P (f x) y := by
  induction xs with
  | nil => simp [firstWithout_nil]
  | cons x rest ih =>
    simp only [List.flatMap_cons, firstWithout_append, firstWithout_cons, ih]
    constructor
    · rintro (hx | ⟨hall, z, hz, hy⟩)
      · exact ⟨x, Or.inl ⟨fun hall => hx.not (hall y hx.mem), rfl⟩, hx⟩
      · exact ⟨z, Or.inr ⟨hall, hz⟩, hy⟩
    · rintro ⟨z, ⟨_, rfl⟩ | ⟨hall, hz⟩, hy⟩
      · exact Or.inl hy
      · exact Or.inr ⟨hall, z, hz, hy⟩

end first

/-- A computation that succeeds. -/
def Succeeds {α β ε : Type} (f : α → Except ε β) (x : α) : Prop := ∃ y, f x = .ok y

theorem not_succeeds_iff {α β ε : Type} {f : α → Except ε β} {x : α} :
    ¬ Succeeds f x ↔ ∃ e, f x = .error e := by
  unfold Succeeds
  cases f x <;> simp

theorem mapM_succeeds_iff {α β ε : Type} {f : α → Except ε β} {xs : List α} :
    Succeeds (List.mapM f) xs ↔ ∀ x ∈ xs, Succeeds f x := by
  unfold Succeeds
  simp only [mapM_eq_ok_iff]
  induction xs with
  | nil => simp
  | cons x rest ih =>
    simp only [List.forall₂_cons_left_iff, List.forall_mem_cons, ← ih]
    constructor
    · rintro ⟨_, y, ys, hy, hys, -⟩
      exact ⟨⟨y, hy⟩, ys, hys⟩
    · rintro ⟨⟨y, hy⟩, ys, hys⟩
      exact ⟨_, y, ys, hy, hys, rfl⟩

/-- A row of computations fails with the first failure in it. -/
theorem mapM_eq_error_iff {α β ε : Type} {f : α → Except ε β} {xs : List α} {e : ε} :
    xs.mapM f = .error e ↔ ∃ x, FirstWithout (Succeeds f) xs x ∧ f x = .error e := by
  induction xs with
  | nil => simp [firstWithout_nil, pure, Except.pure]
  | cons x rest ih =>
    rw [List.mapM_cons]
    simp only [firstWithout_cons]
    cases hx : f x with
    | error fault =>
      have hnot : ¬ Succeeds f x := not_succeeds_iff.mpr ⟨fault, hx⟩
      simp [bind, Except.bind, hnot, hx]
    | ok y =>
      have hsucceeds : Succeeds f x := ⟨y, hx⟩
      cases hrest : rest.mapM f with
      | error fault => simp [bind, Except.bind, hsucceeds, ← ih, hrest]
      | ok ys => simp [bind, Except.bind, pure, Except.pure, hsucceeds, ← ih, hrest]

/-! ## Documents -/

/-- A stage program of a document, with the pass that it stands in. -/
structure ProgramSite where
  technique : TechniqueDescription
  pass : PassDescription
  stage : Stage
  program : ProgramDescription

namespace ProgramSite

/-- The pass of a program as errors name it. -/
def passName (site : ProgramSite) : String := site.technique.name ++ "/" ++ site.pass.name

/-- The program compiles. -/
def Compiles (compiler : Compiler) (site : ProgramSite) : Prop :=
  compiler.Compilable site.stage site.program

end ProgramSite

/-- The programs of a pass, stage by stage. -/
def PassDescription.sites (technique : TechniqueDescription) (pass : PassDescription) :
    List ProgramSite :=
  pass.programs.map fun (stage, program) => ⟨technique, pass, stage, program⟩

/-- The programs of a technique, pass by pass. -/
def TechniqueDescription.sites (technique : TechniqueDescription) : List ProgramSite :=
  technique.passes.flatMap (·.sites technique)

/-- The type of a declared parameter is known. -/
def ParameterDescription.Known (p : ParameterDescription) : Prop :=
  ∃ type, ParameterType.ofSpelling? p.type = some type

namespace EffectDescription

/-- The programs of a document, technique by technique. -/
def sites (d : EffectDescription) : List ProgramSite := d.techniques.flatMap (·.sites)

/-- Everything in a document compiles. -/
structure Compilable (compiler : Compiler) (d : EffectDescription) : Prop where
  types : ∀ p ∈ d.parameters, p.Known
  programs : ∀ site ∈ d.sites, site.Compiles compiler

/-- What is reported of a document that does not compile: the first parameter of an unknown
type, and only if there is none the first program that is rejected. -/
inductive Reports (compiler : Compiler) (d : EffectDescription) : EffectError → Prop where
  | parameter {p : ParameterDescription}
      (h : FirstWithout ParameterDescription.Known d.parameters p) :
      Reports compiler d (.unknownType p.name p.type)
  | program {site : ProgramSite} {cause : CompileError} (htypes : ∀ p ∈ d.parameters, p.Known)
      (h : FirstWithout (ProgramSite.Compiles compiler) d.sites site)
      (hcause : compiler.Rejects site.stage site.program cause) :
      Reports compiler d (.compile d.name site.passName cause)

end EffectDescription

namespace EffectDraft

theorem typed_succeeds_iff {p : ParameterDescription} : Succeeds typed p ↔ p.Known := by
  unfold Succeeds typed ParameterDescription.Known
  cases ParameterType.ofSpelling? p.type <;> simp

theorem typed_eq_error_iff {p : ParameterDescription} {e : EffectError} :
    typed p = .error e ↔ ¬ p.Known ∧ e = .unknownType p.name p.type := by
  unfold typed ParameterDescription.Known
  cases ParameterType.ofSpelling? p.type <;> simp [eq_comm]

/-- A result that stands for a row of programs: there is one if all of them compile, and
otherwise the first that does not is reported. -/
structure Tells {α : Type} (compiler : Compiler) (effect : String) (sites : List ProgramSite)
    (result : Except EffectError α) : Prop where
  ok_iff : (∃ y, result = .ok y) ↔ ∀ site ∈ sites, site.Compiles compiler
  error_iff : ∀ e, result = .error e ↔ ∃ site cause,
    FirstWithout (ProgramSite.Compiles compiler) sites site ∧
      compiler.Rejects site.stage site.program cause ∧ e = .compile effect site.passName cause

section tells

variable {compiler : Compiler} {effect : String}

theorem Tells.map {α β : Type} {sites : List ProgramSite} {result : Except EffectError α}
    (h : Tells compiler effect sites result) (f : α → β) :
    Tells compiler effect sites (result.map f) := by
  obtain ⟨hok, herror⟩ := h
  constructor
  · rw [← hok]
    cases result <;> simp [Except.map]
  · intro e
    rw [← herror]
    cases result <;> simp [Except.map]

/-- What each member of a row tells of its programs, the row tells of all of them. -/
theorem tells_mapM {α β : Type} {f : α → Except EffectError β} {g : α → List ProgramSite}
    (h : ∀ x, Tells compiler effect (g x) (f x)) (xs : List α) :
    Tells compiler effect (xs.flatMap g) (xs.mapM f) := by
  have hsucceeds : Succeeds f = fun x => ∀ site ∈ g x, site.Compiles compiler :=
    funext fun x => propext (h x).ok_iff
  constructor
  · change Succeeds (List.mapM f) xs ↔ _
    rw [mapM_succeeds_iff, hsucceeds, List.forall_mem_flatMap]
  · intro e
    simp only [mapM_eq_error_iff, hsucceeds, (h _).error_iff, firstWithout_flatMap]
    constructor
    · rintro ⟨x, hx, site, cause, hsite, hcause⟩
      exact ⟨site, cause, ⟨x, hx, hsite⟩, hcause⟩
    · rintro ⟨site, cause, ⟨x, hx, hsite⟩, hcause⟩
      exact ⟨x, hx, site, cause, hsite, hcause⟩

variable (compiler effect) (ds : List Declaration)

theorem tells_stage (technique : TechniqueDescription) (pass : PassDescription)
    (x : Stage × ProgramDescription) :
    Tells compiler effect [⟨technique, pass, x.1, x.2⟩]
      (compileStage compiler effect technique.name pass.name ds x) := by
  let name := label effect technique.name pass.name x.1
  have hresult : (∃ program, compiler.compile name x.1 x.2 ds = .ok program) ↔
      compiler.Compilable x.1 x.2 := Compiler.exists_compile_iff name ds
  have hfault : ∀ cause, compiler.compile name x.1 x.2 ds = .error cause ↔
      compiler.Rejects x.1 x.2 cause := fun _ => Compiler.compile_eq_error_iff name ds
  change Tells compiler effect _ ((compiler.compile name x.1 x.2 ds).mapError _)
  rcases hcompile : compiler.compile name x.1 x.2 ds with cause | program <;>
    simp only [hcompile] at hresult hfault
  · have hnot : ¬ compiler.Compilable x.1 x.2 := by simp [← hresult]
    constructor
    · simp [Except.mapError, ProgramSite.Compiles, hnot]
    · simp [Except.mapError, ProgramSite.Compiles, hnot, firstWithout_cons, firstWithout_nil,
        ← hfault, ProgramSite.passName, eq_comm]
  · have hcompiles : compiler.Compilable x.1 x.2 := by simp [← hresult]
    constructor
    · simp [Except.mapError, ProgramSite.Compiles, hcompiles]
    · simp [Except.mapError, ProgramSite.Compiles, hcompiles, firstWithout_cons,
        firstWithout_nil]

theorem tells_pass (technique : TechniqueDescription) (pass : PassDescription) :
    Tells compiler effect (pass.sites technique)
      (compilePass compiler effect technique.name ds pass) := by
  have hprograms := tells_mapM (tells_stage compiler effect ds technique pass) pass.programs
  rw [← List.map_eq_flatMap] at hprograms
  exact hprograms.map _

theorem tells_technique (technique : TechniqueDescription) :
    Tells compiler effect technique.sites (compileTechnique compiler effect ds technique) :=
  (tells_mapM (tells_pass compiler effect ds technique) technique.passes).map _

end tells

/-- When a document compiles, and what is reported of one that does not. -/
theorem compile_tells (compiler : Compiler) (d : EffectDescription) :
    ((∃ draft, compile compiler d = .ok draft) ↔ d.Compilable compiler) ∧
      ∀ e, compile compiler d = .error e ↔ d.Reports compiler e := by
  have htypes : Succeeds (List.mapM typed) d.parameters ↔ ∀ p ∈ d.parameters, p.Known := by
    simp only [mapM_succeeds_iff, typed_succeeds_iff]
  have hfault : ∀ e, d.parameters.mapM typed = .error e ↔
      ∃ p, FirstWithout ParameterDescription.Known d.parameters p ∧
        e = .unknownType p.name p.type := by
    intro e
    have hknown : Succeeds typed = ParameterDescription.Known :=
      funext fun _ => propext typed_succeeds_iff
    simp only [mapM_eq_error_iff, hknown, typed_eq_error_iff]
    exact exists_congr fun p => ⟨fun h => ⟨h.1, h.2.2⟩, fun h => ⟨h.1, h.1.not, h.2⟩⟩
  rcases hparameters : d.parameters.mapM typed with fault | parameters
  · -- a parameter of an unknown type
    simp only [hparameters, Except.error.injEq] at hfault
    have hcompile : compile compiler d = .error fault := by simp only [compile, hparameters]
    obtain ⟨p, hp, -⟩ := (hfault fault).mp rfl
    have hnot : ¬ ∀ p ∈ d.parameters, p.Known := fun h => hp.not (h p hp.mem)
    simp only [hcompile, Except.error.injEq, reduceCtorEq, exists_false, false_iff, hfault]
    refine ⟨fun h => hnot h.types, fun e => ⟨?_, ?_⟩⟩
    · rintro ⟨q, hq, rfl⟩
      exact .parameter hq
    · rintro (h | ⟨hall, -, -⟩)
      · exact ⟨_, h, rfl⟩
      · exact absurd hall hnot
  have hall := htypes.mp ⟨parameters, hparameters⟩
  obtain ⟨hok, herror⟩ := tells_mapM
    (tells_technique compiler d.name (declarations (firstOfEach [] parameters))) d.techniques
  rcases htechniques : d.techniques.mapM
    (compileTechnique compiler d.name (declarations (firstOfEach [] parameters)))
    with fault | techniques
  · -- a program that is rejected
    simp only [htechniques, Except.error.injEq] at herror
    have hcompile : compile compiler d = .error fault := by
      simp only [compile, hparameters, htechniques]
    obtain ⟨site, cause, hsite, -⟩ := (herror fault).mp rfl
    have hnot : ¬ ∀ site ∈ d.sites, site.Compiles compiler := fun h => hsite.not (h site hsite.mem)
    simp only [hcompile, Except.error.injEq, reduceCtorEq, exists_false, false_iff, herror]
    refine ⟨fun h => hnot h.programs, fun e => ⟨?_, ?_⟩⟩
    · rintro ⟨site, cause, hsite, hcause, rfl⟩
      exact .program hall hsite hcause
    · rintro (h | ⟨-, h, hcause⟩)
      · exact absurd (hall _ h.mem) h.not
      · exact ⟨_, _, h, hcause, rfl⟩
  · have hcompile : compile compiler d =
        .ok ⟨d.name, (firstOfEach [] parameters).map (draft d.name), techniques⟩ := by
      simp only [compile, hparameters, htechniques]
    have hprograms : ∀ site ∈ d.sites, site.Compiles compiler := hok.mp ⟨techniques, htechniques⟩
    refine ⟨⟨fun _ => ⟨hall, hprograms⟩, fun _ => ⟨_, hcompile⟩⟩, fun e => ?_⟩
    simp only [hcompile, reduceCtorEq, false_iff]
    rintro (h | ⟨-, h, -⟩)
    · exact h.not (hall _ h.mem)
    · exact h.not (hprograms _ h.mem)

end EffectDraft

end ShaderEffects
