import Mathlib.Tactic.SplitIfs
import ShaderEffects.Program.Compiler

/-!
# When programs compile

A program compiles if its profile serves its stage and its source is there, under any label
and beside any declarations. Otherwise the first of five things is wrong with it.
-/
namespace ShaderEffects

namespace Compiler

/-- The text of a program and where it comes from. Source that stands in the document
goes before a file, whether or not the file can be read. -/
inductive Sources (compiler : Compiler) (d : ProgramDescription) :
    String → ProgramOrigin → Prop where
  | inline {source : String} (h : d.source = some source) : Sources compiler d source .inline
  | file {name path text : String} (hnone : d.source = none) (hfile : d.file = some name)
      (hfound : compiler.resolve? name = some path)
      (hread : compiler.files.readText path = .ok text) : Sources compiler d text (.file path)

/-- A profile that serves a stage. -/
def Serves (name : String) (stage : Stage) (profile : Profile) : Prop :=
  Profile.ofName? name = some profile ∧ profile.targets stage = true

/-- A program whose profile serves its stage and whose source is there. -/
def Compilable (compiler : Compiler) (stage : Stage) (d : ProgramDescription) : Prop :=
  (∃ profile, Serves d.profile stage profile) ∧
    ((∃ source, d.source = some source) ∨ ∃ name path text, d.file = some name ∧
      compiler.resolve? name = some path ∧ compiler.files.readText path = .ok text)

/-- What a program is compiled to. -/
structure Builds (compiler : Compiler) (label : String) (stage : Stage) (d : ProgramDescription)
    (ds : List Declaration) (program : Program) : Prop where
  labelled : program.label = label
  staged : program.stage = stage
  serves : Serves d.profile stage program.profile
  entered : program.entry = d.entry
  sources : compiler.Sources d program.source program.origin
  laid : program.constants = .build program.source ds

/-- Why a program does not compile: of the things that are wrong with it the first. -/
inductive Rejects (compiler : Compiler) (stage : Stage) (d : ProgramDescription) :
    CompileError → Prop where
  | unknownProfile (h : Profile.ofName? d.profile = none) :
      Rejects compiler stage d (.unknownProfile d.profile)
  | stageMismatch {profile : Profile} (h : Profile.ofName? d.profile = some profile)
      (htargets : profile.targets stage = false) :
      Rejects compiler stage d (.stageMismatch profile.name stage)
  | missingSource {profile : Profile} (h : Serves d.profile stage profile)
      (hsource : d.source = none) (hfile : d.file = none) :
      Rejects compiler stage d (.missingSource stage)
  | fileNotFound {profile : Profile} {name : String} (h : Serves d.profile stage profile)
      (hsource : d.source = none) (hfile : d.file = some name)
      (hfound : compiler.resolve? name = none) :
      Rejects compiler stage d (.fileNotFound name)
  | unreadable {profile : Profile} {name path : String} {fault : FileFault}
      (h : Serves d.profile stage profile) (hsource : d.source = none)
      (hfile : d.file = some name) (hfound : compiler.resolve? name = some path)
      (hread : compiler.files.readText path = .error fault) :
      Rejects compiler stage d (.unreadable path fault)

section program

variable {compiler : Compiler} {label : String} {stage : Stage} {d : ProgramDescription}
  {ds : List Declaration}

theorem profileFor_eq_ok_iff {name : String} {profile : Profile} :
    profileFor stage name = .ok profile ↔ Serves name stage profile := by
  unfold profileFor Serves
  cases Profile.ofName? name with
  | none => simp
  | some known =>
    simp only [Option.some.injEq]
    split_ifs with htargets
    · simp only [Except.ok.injEq]
      exact ⟨fun h => ⟨h, h ▸ htargets⟩, And.left⟩
    · simp only [false_iff]
      rintro ⟨rfl, h⟩
      exact htargets h

theorem sourceOf_eq_ok_iff {source : String} {origin : ProgramOrigin} :
    compiler.sourceOf stage d = .ok (source, origin) ↔ compiler.Sources d source origin := by
  constructor
  · unfold sourceOf
    intro h
    split at h
    · next hsource =>
      cases h
      exact .inline hsource
    · cases h
    · next file hsource hfile =>
      cases hfound : compiler.resolve? file with
      | none => simp [hfound] at h
      | some path =>
        cases hread : compiler.files.readText path with
        | error fault => simp [hfound, hread] at h
        | ok text =>
          simp only [hfound, hread, Except.ok.injEq, Prod.mk.injEq] at h
          obtain ⟨rfl, rfl⟩ := h
          exact .file hsource hfile hfound hread
  · rintro (h | ⟨hnone, hfile, hfound, hread⟩)
    · unfold sourceOf
      rw [h]
    · unfold sourceOf
      simp only [hnone, hfile, hfound, hread]

theorem compile_eq_ok_iff {program : Program} :
    compiler.compile label stage d ds = .ok program ↔
      compiler.Builds label stage d ds program := by
  unfold compile
  constructor
  · intro h
    rcases hprofile : profileFor stage d.profile with e | profile
    · simp [hprofile] at h
    rcases hsource : compiler.sourceOf stage d with e | ⟨source, origin⟩
    · simp [hprofile, hsource] at h
    simp only [hprofile, hsource, Except.ok.injEq] at h
    subst h
    exact ⟨rfl, rfl, profileFor_eq_ok_iff.mp hprofile, rfl, sourceOf_eq_ok_iff.mp hsource, rfl⟩
  · rintro ⟨rfl, rfl, hprofile, hentry, hsource, hconstants⟩
    rw [profileFor_eq_ok_iff.mpr hprofile, sourceOf_eq_ok_iff.mpr hsource]
    simp only [← hentry, ← hconstants]
    rfl

/-- A program can be laid out by other declarations. -/
theorem Builds.relaid {program : Program} (h : compiler.Builds label stage d ds program)
    (ds' : List Declaration) :
    compiler.Builds label stage d ds'
      { program with key := { program.key with constants := .build program.source ds' } } :=
  { h with laid := rfl }

theorem exists_sources_iff :
    (∃ source origin, compiler.Sources d source origin) ↔
      (∃ source, d.source = some source) ∨ ∃ name path text, d.file = some name ∧
        compiler.resolve? name = some path ∧ compiler.files.readText path = .ok text := by
  constructor
  · rintro ⟨_, _, h | ⟨_, hfile, hfound, hread⟩⟩
    · exact Or.inl ⟨_, h⟩
    · exact Or.inr ⟨_, _, _, hfile, hfound, hread⟩
  · rintro (⟨source, h⟩ | ⟨name, path, text, hfile, hfound, hread⟩)
    · exact ⟨source, .inline, .inline h⟩
    · cases hsource : d.source with
      | some source => exact ⟨source, .inline, .inline hsource⟩
      | none => exact ⟨text, .file path, .file hsource hfile hfound hread⟩

/-- A program compiles if it can be, under any label and beside any declarations. -/
theorem exists_compile_iff (label : String) (ds : List Declaration) :
    (∃ program, compiler.compile label stage d ds = .ok program) ↔
      compiler.Compilable stage d := by
  simp only [compile_eq_ok_iff, Compilable, ← exists_sources_iff]
  constructor
  · rintro ⟨program, h⟩
    exact ⟨⟨_, h.serves⟩, _, _, h.sources⟩
  · rintro ⟨⟨profile, hprofile⟩, source, origin, hsource⟩
    exact ⟨⟨label, origin, stage, profile, d.entry, source, .build source ds⟩,
      rfl, rfl, hprofile, rfl, hsource, rfl⟩

theorem rejects_of_compile {e : CompileError}
    (h : compiler.compile label stage d ds = .error e) : compiler.Rejects stage d e := by
  unfold compile at h
  rcases hprofile : profileFor stage d.profile with fault | profile
  · simp only [hprofile, Except.error.injEq] at h
    subst h
    unfold profileFor at hprofile
    cases hname : Profile.ofName? d.profile with
    | none =>
      simp only [hname, Except.error.injEq] at hprofile
      subst hprofile
      exact .unknownProfile hname
    | some profile =>
      simp only [hname] at hprofile
      split_ifs at hprofile with htargets
      cases hprofile
      exact .stageMismatch hname (Bool.eq_false_iff.mpr htargets)
  have hserves := profileFor_eq_ok_iff.mp hprofile
  rcases hsource : compiler.sourceOf stage d with fault | ⟨source, origin⟩
  · simp only [hprofile, hsource, Except.error.injEq] at h
    subst h
    unfold sourceOf at hsource
    split at hsource
    · cases hsource
    · next hnone hfile =>
      cases hsource
      exact .missingSource hserves hnone hfile
    · next file hnone hfile =>
      cases hfound : compiler.resolve? file with
      | none =>
        simp only [hfound, Except.error.injEq] at hsource
        subst hsource
        exact .fileNotFound hserves hnone hfile hfound
      | some path =>
        cases hread : compiler.files.readText path with
        | ok text => simp [hfound, hread] at hsource
        | error fault =>
          simp only [hfound, hread, Except.error.injEq] at hsource
          subst hsource
          exact .unreadable hserves hnone hfile hfound hread
  · simp [hprofile, hsource] at h

/-- A program that compiles is not rejected, and no program is rejected for two reasons. -/
theorem Rejects.compile {e : CompileError} (h : compiler.Rejects stage d e) :
    compiler.compile label stage d ds = .error e := by
  have hok : ∀ {name : String} {profile : Profile}, Serves name stage profile →
      profileFor stage name = .ok profile := profileFor_eq_ok_iff.mpr
  cases h with
  | unknownProfile h => simp [Compiler.compile, profileFor, h]
  | stageMismatch h htargets => simp [Compiler.compile, profileFor, h, htargets]
  | missingSource h hsource hfile => simp [Compiler.compile, hok h, sourceOf, hsource, hfile]
  | fileNotFound h hsource hfile hfound =>
    simp [Compiler.compile, hok h, sourceOf, hsource, hfile, hfound]
  | unreadable h hsource hfile hfound hread =>
    simp [Compiler.compile, hok h, sourceOf, hsource, hfile, hfound, hread]

/-- A program that does not compile is rejected with the first thing that is wrong with it. -/
theorem compile_eq_error_iff (label : String) (ds : List Declaration) {e : CompileError} :
    compiler.compile label stage d ds = .error e ↔ compiler.Rejects stage d e :=
  ⟨rejects_of_compile, Rejects.compile⟩

end program

end Compiler

end ShaderEffects
