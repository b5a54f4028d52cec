import Mathlib.Data.List.Perm.Basic
import ShaderEffects.Device.Gpu.Checked
import ShaderEffects.Proofs.BindGroups
import ShaderEffects.Proofs.JudgedDevices

/-!
# Names that a prelude declares

A prelude takes names from three places: those of the samplers, those made from them, and
two of its own. The first two lots are free of repetitions each, and so are the fields of
the uniform struct. Nothing keeps the three apart, so it depends on the names of the samplers
whether a name is declared twice, and an interface that reads shaders refuses a program if
one is.
-/
namespace ShaderEffects

namespace Gpu

/-- The name of the sampler beside the texture of a parameter. -/
def samplerName (name : String) : String := name ++ "_sampler"

theorem samplerName_injective : Function.Injective samplerName := by
  intro a b h
  have hchars := congrArg String.toList h
  simp only [samplerName, String.toList_append] at hchars
  exact String.toList_inj.mp (List.append_cancel_right hchars)

theorem samplerName_ne {name other : String} (h : other.toList.getLast? ≠ some 'r') :
    samplerName name ≠ other := by
  rintro rfl
  refine h ?_
  have hsuffix : "_sampler".toList = "_sample".toList ++ ['r'] := by decide
  rw [samplerName, String.toList_append, hsuffix, ← List.append_assoc, List.getLast?_concat]

/-- The names of the samplers of a program. -/
def samplerNames (p : Program) : List String := p.constants.samplers.map (·.parameter)

/-- The names of the uniform struct and its variable, if there is one. -/
def ownNames (p : Program) : List String :=
  if p.constants.constants = [] then [] else [constantsStruct p.stage, "constants"]

theorem ownNames_nodup (p : Program) : (ownNames p).Nodup := by
  unfold ownNames
  split_ifs
  · exact List.nodup_nil
  · cases p.stage <;> decide

/-- No name of the prelude itself is one that is made from the name of a sampler. -/
theorem samplerName_notMem_ownNames (p : Program) (name : String) :
    samplerName name ∉ ownNames p := by
  unfold ownNames
  split_ifs
  · exact List.not_mem_nil
  · rw [List.mem_pair, not_or]
    exact ⟨samplerName_ne (by cases p.stage <;> decide), samplerName_ne (by decide)⟩

/-- The prelude declares its own names, those of the samplers, and those made from them. -/
theorem declaredNames_perm (p : Program) :
    List.Perm (declaredNames p) (ownNames p ++ (samplerNames p ++ (samplerNames p).map samplerName))
    := by
  have hown : (constantItems p.stage p.constants.constants).map ShaderItem.name = ownNames p := by
    unfold constantItems ownNames
    cases p.constants.constants <;> rfl
  rw [declaredNames, preludeItems, List.map_append, hown, List.map_flatMap, samplerNames,
    List.map_map, List.map_eq_flatMap, List.map_eq_flatMap]
  exact (List.flatMap_append_perm p.constants.samplers (fun slot => [slot.parameter])
    fun slot => [samplerName slot.parameter]).symm.append_left _

/-- Two declarations in front of a program have one name: a sampler has the name that is made
from that of another, or a name of the prelude itself. -/
def Clash (p : Program) : Prop :=
  (∃ name ∈ samplerNames p, samplerName name ∈ samplerNames p) ∨
    ∃ name ∈ ownNames p, name ∈ samplerNames p

instance (p : Program) : Decidable (Clash p) := inferInstanceAs (Decidable (_ ∨ _))

/-- Nothing else than a clash makes a name be declared twice. -/
theorem declaredNames_nodup_iff {p : Program} (h : (samplerNames p).Nodup) :
    (declaredNames p).Nodup ↔ ¬Clash p := by
  rw [(declaredNames_perm p).nodup_iff, List.nodup_append', List.nodup_append']
  simp only [ownNames_nodup, h, h.map samplerName_injective, true_and, List.disjoint_left,
    List.mem_append, not_or]
  constructor
  · rintro ⟨hmade, hown⟩ (⟨name, hname, hmem⟩ | ⟨name, hname, hmem⟩)
    · exact hmade hmem (List.mem_map_of_mem hname)
    · exact (hown hname).1 hmem
  · intro hclash
    refine ⟨fun name hname hmem => ?_, fun name hname => ⟨fun hmem => ?_, fun hmem => ?_⟩⟩
    · obtain ⟨other, hother, rfl⟩ := List.mem_map.mp hmem
      exact hclash (Or.inl ⟨other, hother, hname⟩)
    · exact hclash (Or.inr ⟨name, hname, hmem⟩)
    · obtain ⟨other, -, rfl⟩ := List.mem_map.mp hmem
      exact samplerName_notMem_ownNames p other hname

/-! ## The interface that reads shaders -/

/-- The search finds a name if one of them was seen before or is there twice. -/
theorem repeated?_eq_none_iff {seen names : List String} :
    repeated? seen names = none ↔ names.Nodup ∧ ∀ name ∈ names, name ∉ seen := by
  induction names generalizing seen with
  | nil => simp [repeated?]
  | cons name rest ih =>
    rw [repeated?, List.nodup_cons, List.forall_mem_cons]
    split_ifs with hseen
    · simp [hseen]
    · rw [ih]
      simp only [List.mem_cons, not_or, hseen, not_false_eq_true, true_and]
      constructor
      · rintro ⟨hnodup, hnew⟩
        exact ⟨⟨fun hmem => (hnew name hmem).1 rfl, hnodup⟩, fun other hmem => (hnew other hmem).2⟩
      · rintro ⟨⟨hname, hnodup⟩, hnew⟩
        exact ⟨hnodup, fun other hmem => ⟨fun heq => hname (heq ▸ hmem), hnew other hmem⟩⟩

/-- A shader is refused if its prelude declares a name twice. -/
theorem refusal?_eq_none_iff {p : Program} : refusal? p = none ↔ (declaredNames p).Nodup := by
  simp [refusal?, repeated?_eq_none_iff]

end Gpu

open Gpu

namespace CheckedDevice

variable (w : CheckedDevice) {programs : List Program} {p : Program}

theorem kind_verdicts (h : ∀ p ∈ programs, (declaredNames p).Nodup) :
    JudgedDevice.Kind (w.verdicts programs) := by
  intro verdict hverdict
  obtain ⟨p, hp, rfl⟩ := List.mem_map.mp hverdict
  exact refusal?_eq_none_iff.mpr (h p (List.mem_filter.mp hp).1)

/-- A pass is tried out as by an interface that does not read shaders, if no prelude declares
a name twice. -/
theorem validate_eq (h : ∀ p ∈ programs, (declaredNames p).Nodup) :
    w.validate programs = pass (w.device.validate programs) := by
  unfold validate judging
  cases hpair : GpuDevice.checkPair programs with
  | error fault =>
    have hkind : JudgedDevice.Kind (w.verdicts []) := w.kind_verdicts nofun
    obtain ⟨rest, -, heq⟩ := JudgedDevice.validate_kind hkind w.device programs
    simp only [heq, pass]
  | ok two =>
    have htwo : ∀ p ∈ [two.1, two.2], p ∈ programs := by
      obtain ⟨-, -, rfl | rfl⟩ := GpuDevice.pair_eq_ok (GpuDevice.checkPair_eq_ok hpair).1 <;>
        simp
    have hkind : JudgedDevice.Kind (w.verdicts [two.1, two.2]) :=
      w.kind_verdicts fun p hp => h p (htwo p hp)
    obtain ⟨rest, -, heq⟩ := JudgedDevice.validate_kind hkind w.device programs
    simp only [heq, pass]

/-- A program is loaded as by an interface that does not read shaders, if its prelude declares
no name twice. -/
theorem loadProgram_eq (h : (declaredNames p).Nodup) :
    w.loadProgram p = pass (w.device.loadProgram p) := by
  have hkind : JudgedDevice.Kind (w.verdicts [p]) :=
    w.kind_verdicts fun q hq => List.mem_singleton.mp hq ▸ h
  obtain ⟨rest, -, heq⟩ := JudgedDevice.loadProgram_kind hkind w.device p
  simp only [loadProgram, judging, heq, pass]

end CheckedDevice

/-! ## Compiled effects -/

namespace EffectDraft

/-- A program of a compiled effect. -/
def HasProgram (draft : EffectDraft) (p : Program) : Prop :=
  ∃ t ∈ draft.techniques, ∃ pass ∈ t.passes, p ∈ pass.programs

/-- The fields of the struct that is declared in front of a program differ in their names, and
so do the things that are declared there, unless a sampler has the name that is made from that
of another, or a name of the prelude itself. -/
theorem prelude_names {compiler : Compiler} {d : EffectDescription} {draft : EffectDraft}
    (hcompile : compile compiler d = .ok draft) {p : Program} (hp : draft.HasProgram p) :
    (∀ name members, .struct name members ∈ preludeItems p → (members.map (·.name)).Nodup) ∧
      ((declaredNames p).Nodup ↔ ¬Clash p) := by
  obtain ⟨t, ht, pass, hpass, hprogram⟩ := hp
  obtain ⟨hnames, -, hlaid⟩ := compile_spec hcompile
  have hbuild := hlaid t ht pass hpass p hprogram
  have hdeclared : ((draft.parameters.map fun q => (⟨q.cell.name, q.cell.type⟩ : Declaration)).map
      (·.name)).Nodup := by
    simpa [Function.comp_def] using hnames
  refine ⟨fun name members hstruct => ?_, declaredNames_nodup_iff ?_⟩
  · rw [(of_struct_mem hstruct).2, hbuild]
    simpa [fields, Function.comp_def] using (ConstantTable.laid_build p.source hdeclared).names
  · rw [samplerNames, hbuild]
    exact (ConstantTable.sampled_build p.source hdeclared).names

/-- The programs of an effect, if it compiles. -/
def programs (compiler : Compiler) (d : EffectDescription) : List Program :=
  match compile compiler d with
  | .error _ => []
  | .ok draft => draft.techniques.flatMap fun t => t.passes.flatMap (·.programs)

theorem of_mem_programs {compiler : Compiler} {d : EffectDescription} {p : Program}
    (h : p ∈ programs compiler d) :
    ∃ draft, compile compiler d = .ok draft ∧ draft.HasProgram p := by
  unfold programs at h
  cases hcompile : compile compiler d with
  | error e => simp [hcompile] at h
  | ok draft =>
    simp only [hcompile, List.mem_flatMap] at h
    exact ⟨draft, rfl, h⟩

/-- The names that are declared for a number, a matrix and a texture. -/
theorem prelude_names_shaded :
    ∃ draft, compile { lookup := .search [] } GpuDevice.shaded = .ok draft ∧
      let p := GpuDevice.shadedProgram .fragment "view tint scene"
      draft.HasProgram p ∧
        declaredNames p = ["FragmentConstants", "constants", "scene", "scene_sampler"] ∧
        (declaredNames p).Nodup ∧
        ∃ members, .struct "FragmentConstants" members ∈ preludeItems p ∧
          members.map (·.name) = ["tint", "view"] ∧ (members.map (·.name)).Nodup := by
  obtain ⟨draft, hcompile, hp⟩ := of_mem_programs
    (show GpuDevice.shadedProgram .fragment "view tint scene" ∈
      programs { lookup := .search [] } GpuDevice.shaded by decide +kernel)
  obtain ⟨hfields, hdeclared⟩ := prelude_names hcompile hp
  have hstruct : .struct "FragmentConstants" [⟨"tint", .vec4⟩, ⟨"view", .mat4x4⟩] ∈
      preludeItems (GpuDevice.shadedProgram .fragment "view tint scene") := by decide +kernel
  exact ⟨draft, hcompile, hp, by decide +kernel, hdeclared.mpr (by decide +kernel), _, hstruct, rfl,
    hfields _ _ hstruct⟩

/-- An effect whose texture has the name of the uniform struct. -/
def colliding : EffectDescription where
  name := "a"
  parameters := [⟨"tint", "float4", [], ∅⟩, ⟨"FragmentConstants", "sampler2D", [], ∅⟩]
  techniques := [⟨"t", ∅, [{
    name := "p"
    vertex := some { profile := "wgsl", source := some "" }
    fragment := some { profile := "wgsl", source := some "tint FragmentConstants" } }]⟩]

/-- The struct and the texture are declared by one name, although no two parameters have one. -/
theorem prelude_names_colliding :
    ∃ draft p, compile { lookup := .search [] } colliding = .ok draft ∧ draft.HasProgram p ∧
      (draft.parameters.map (·.cell.name)).Nodup ∧ p.stage = .fragment ∧
      (∀ slot ∈ p.constants.samplers, slot.type = .sampler2D) ∧
      declaredNames p =
        ["FragmentConstants", "constants", "FragmentConstants", "FragmentConstants_sampler"] ∧
      ¬(declaredNames p).Nodup := by
  let p : Program := ⟨"a/t/p:Fragment", .inline, .fragment, ⟨"wgsl", .wgsl, .full⟩, "main",
    "tint FragmentConstants", .build "tint FragmentConstants"
      [⟨"tint", .float4⟩, ⟨"FragmentConstants", .sampler2D⟩]⟩
  obtain ⟨draft, hcompile, hp⟩ := of_mem_programs
    (show p ∈ programs { lookup := .search [] } colliding by decide +kernel)
  exact ⟨draft, p, hcompile, hp, (compile_spec hcompile).1, rfl, by decide +kernel,
    by decide +kernel, by decide +kernel⟩

end EffectDraft

end ShaderEffects
