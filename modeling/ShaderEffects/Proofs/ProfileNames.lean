import ShaderEffects.Proofs.CompiledPrograms
import ShaderEffects.Proofs.NamesInText
import ShaderEffects.Proofs.TrimmedText

/-!
# What names a profile

A text names a profile if its letters are `wgsl`, or the prefix of a stage, an underscore and a
version. The letters are the name of the profile, so that texts name the same profile exactly if
they have the same letters, and programs that are told apart by nothing else have the same key.
-/
namespace ShaderEffects

namespace Profile

variable {letters text sign : List Char} {stage : Stage} {major : Nat} {profile : Profile}

/-! ## The grammar -/

/-- The stages that shader models are named for. -/
inductive Stem : List Char → Stage → Prop where
  | vertex : Stem "vs".toList .vertex
  | pixel : Stem "ps".toList .fragment
  | fragment : Stem "fs".toList .fragment
  | geometry : Stem "gs".toList .geometry
  | domain : Stem "ds".toList .domain
  | hull : Stem "hs".toList .hull

/-- At most one plus sign. -/
def Sign (sign : List Char) : Prop := sign = [] ∨ sign = ['+']

/-- A sign, the digits of a number of one byte, and an underscore in front of anything else. -/
def Version (sign text : List Char) (major : Nat) : Prop :=
  ∃ digits rest, text = sign ++ digits ++ rest ∧ digits ≠ [] ∧
    (∀ c ∈ digits, Identifier.Digit c) ∧ Nat.ofDigitChars 10 digits 0 = major ∧ major ≤ 255 ∧
    ∀ c ∈ rest.head?, c = '_'

/-- The name of a shader model, with a sign in front of its version. -/
def ModelName (sign letters : List Char) (stage : Stage) (major : Nat) : Prop :=
  ∃ stem version, letters = stem ++ '_' :: version ∧ Stem stem stage ∧ Version sign version major

/-- The family that letters name, and the stages it is for. A version may have a plus sign. -/
inductive Names (letters : List Char) : ProfileFamily → (Stage → Prop) → Prop where
  | wgsl (hletters : letters = "wgsl".toList) : Names letters .wgsl fun _ => True
  | model {sign : List Char} {stage : Stage} {major : Nat} (hsign : Sign sign)
      (hletters : ModelName sign letters stage major) :
      Names letters (.shaderModel major) (· = stage)

/-- A profile is told by the letters of its name, its family and the stages it serves. -/
structure Shows (profile : Profile) (letters : List Char) (family : ProfileFamily)
    (stages : Stage → Prop) : Prop where
  name : profile.name = String.ofList letters
  family : profile.family = family
  targets : ∀ stage, profile.targets stage = true ↔ stages stage

/-- Texts that differ in nothing but the blanks around them and the case of their letters. -/
def Alike (name other : String) : Prop :=
  ∃ letters, Text.Plain name letters ∧ Text.Plain other letters

/-! ## Reading the grammar -/

theorem stem_of_mem : ∀ entry ∈ stageNames, Stem entry.1 entry.2 := by
  simp only [stageNames, List.forall_mem_cons]
  exact ⟨.vertex, .pixel, .fragment, .geometry, .domain, .hull, List.forall_mem_nil _⟩

theorem lookup_stageNames_iff : stageNames.lookup text = some stage ↔ Stem text stage := by
  constructor
  · intro h
    obtain ⟨before, after, heq, -⟩ := List.lookup_eq_some_iff.mp h
    exact stem_of_mem (text, stage) (heq ▸ by simp)
  · intro h
    cases h <;> decide +kernel

theorem Stem.not_mem (h : Stem text stage) : '_' ∉ text := by
  cases h <;> decide

theorem beforeUnderscore_eq_iff {first : List Char} : beforeUnderscore text = first ↔
    ∃ rest, text = first ++ rest ∧ '_' ∉ first ∧ ∀ c ∈ rest.head?, c = '_' := by
  simp only [beforeUnderscore, Identifier.takeWhile_eq_iff, decide_eq_true_eq,
    decide_eq_false_iff_not, not_not, ne_eq, List.forall_mem_ne']

theorem dropWhile_of_not_mem {first rest : List Char} (hfirst : '_' ∉ first)
    (hrest : ∀ c ∈ rest.head?, c = '_') : (first ++ rest).dropWhile (· ≠ '_') = rest := by
  refine Text.dropWhile_append_of_head? (fun c hc => ?_) (fun c hc => ?_)
  · exact decide_eq_true fun heq => hfirst (heq ▸ hc)
  · exact decide_eq_false (not_not.mpr (hrest c hc))

/-- A text is cut at its first underscore. -/
theorem cut_iff {first version : List Char} :
    beforeUnderscore text = first ∧ afterUnderscore? text = some version ↔
      text = first ++ '_' :: version ∧ '_' ∉ first := by
  constructor
  · rintro ⟨hbefore, hafter⟩
    obtain ⟨rest, rfl, hfirst, hrest⟩ := beforeUnderscore_eq_iff.mp hbefore
    rw [afterUnderscore?, dropWhile_of_not_mem hfirst hrest] at hafter
    cases rest with
    | nil => cases hafter
    | cons c rest =>
      cases hafter
      obtain rfl := hrest c rfl
      exact ⟨rfl, hfirst⟩
  · rintro ⟨rfl, hfirst⟩
    have hrest : ∀ c ∈ ('_' :: version).head?, c = '_' := by simp
    refine ⟨beforeUnderscore_eq_iff.mpr ⟨'_' :: version, rfl, hfirst, hrest⟩, ?_⟩
    rw [afterUnderscore?, dropWhile_of_not_mem hfirst hrest]

theorem exists_sign (text : List Char) : ∃ sign, Sign sign ∧ text = sign ++ unsigned text := by
  unfold unsigned
  split
  · exact ⟨['+'], Or.inr rfl, rfl⟩
  · exact ⟨[], Or.inl rfl, rfl⟩

theorem unsigned_append {digits : List Char} (hsign : Sign sign)
    (hdigits : ∀ c ∈ digits, Identifier.Digit c) : unsigned (sign ++ digits) = digits := by
  rcases hsign with rfl | rfl
  · rw [List.nil_append]
    unfold unsigned
    split
    · exact absurd (hdigits '+' (by simp)).1 (by decide)
    · rfl
  · rfl

theorem byte?_eq_some_iff : byte? text = some major ↔ ∃ sign digits, Sign sign ∧
    text = sign ++ digits ∧ digits ≠ [] ∧ (∀ c ∈ digits, Identifier.Digit c) ∧
    Nat.ofDigitChars 10 digits 0 = major ∧ major ≤ 255 := by
  have hall : ∀ {digits : List Char}, digits.all Char.isDigit = true ↔
      ∀ c ∈ digits, Identifier.Digit c := by
    simp only [List.all_eq_true, Identifier.isDigit_iff, implies_true]
  simp only [byte?, Option.ite_none_right_eq_some, Option.some.injEq, hall]
  constructor
  · rintro ⟨⟨hne, hdigits, hle⟩, rfl⟩
    obtain ⟨sign, hsign, htext⟩ := exists_sign text
    exact ⟨sign, unsigned text, hsign, htext, hne, hdigits, rfl, hle⟩
  · rintro ⟨sign, digits, hsign, rfl, hne, hdigits, rfl, hle⟩
    rw [unsigned_append hsign hdigits]
    exact ⟨⟨hne, hdigits, hle⟩, rfl⟩

/-- A version is read up to its first underscore, and nothing behind that counts. -/
theorem version_iff : byte? (beforeUnderscore text) = some major ↔
    ∃ sign, Sign sign ∧ Version sign text major := by
  constructor
  · intro h
    obtain ⟨sign, digits, hsign, hbefore, hne, hdigits, hmajor, hle⟩ := byte?_eq_some_iff.mp h
    obtain ⟨rest, htext, -, hrest⟩ := beforeUnderscore_eq_iff.mp hbefore
    exact ⟨sign, hsign, digits, rest, htext, hne, hdigits, hmajor, hle, hrest⟩
  · rintro ⟨sign, hsign, digits, rest, rfl, hne, hdigits, hmajor, hle, hrest⟩
    have hnot : '_' ∉ sign ++ digits := by
      rw [List.mem_append, not_or]
      refine ⟨?_, fun hmem => absurd (hdigits '_' hmem).2 (by decide)⟩
      rcases hsign with rfl | rfl <;> decide
    rw [beforeUnderscore_eq_iff.mpr ⟨rest, rfl, hnot, hrest⟩, byte?_eq_some_iff]
    exact ⟨sign, digits, hsign, rfl, hne, hdigits, hmajor, hle⟩

theorem shows_wgsl : wgsl.Shows "wgsl".toList .wgsl fun _ => True :=
  ⟨rfl, rfl, fun stage => by simp [targets, wgsl]⟩

theorem shows_model (letters : List Char) (stage : Stage) (major : Nat) :
    (⟨String.ofList letters, .shaderModel major, .single stage⟩ : Profile).Shows letters
      (.shaderModel major) (· = stage) :=
  ⟨rfl, rfl, fun other => by simp [targets]⟩

theorem ModelName.ne_wgsl (h : ModelName sign letters stage major) : letters ≠ "wgsl".toList := by
  obtain ⟨stem, version, rfl, -⟩ := h
  intro heq
  have hmem : '_' ∈ "wgsl".toList := heq ▸ by simp
  exact absurd hmem (by decide)

/-- A text that names a profile is put together as names are. -/
theorem exists_names {name : String} (h : ofName? name = some profile) :
    ∃ letters family stages, Text.Plain name letters ∧ Names letters family stages ∧
      profile.Shows letters family stages := by
  obtain ⟨letters, hplain⟩ := Text.exists_plain name
  have hletters := Text.plain_iff.mp hplain
  simp only [ofName?, hletters] at h
  split_ifs at h with hwgsl
  · cases h
    exact ⟨letters, _, _, hplain, .wgsl hwgsl, hwgsl ▸ shows_wgsl⟩
  · cases hafter : afterUnderscore? letters with
    | none => simp [hafter] at h
    | some version =>
      cases hstage : stageNames.lookup (beforeUnderscore letters) with
      | none => simp [hafter, hstage] at h
      | some stage =>
        simp only [hafter, hstage, Option.map_eq_some_iff] at h
        obtain ⟨major, hmajor, rfl⟩ := h
        obtain ⟨sign, hsign, hversion⟩ := version_iff.mp hmajor
        have hcut := (cut_iff.mp ⟨rfl, hafter⟩).1
        have hstem := lookup_stageNames_iff.mp hstage
        exact ⟨letters, _, _, hplain, .model hsign ⟨_, version, hcut, hstem, hversion⟩,
          shows_model letters stage major⟩

/-- Letters that are put together as names are name a profile, and it is as they say. -/
theorem Names.exists_profile {name : String} {family : ProfileFamily} {stages : Stage → Prop}
    (h : Names letters family stages) (hplain : Text.Plain name letters) :
    ∃ profile, ofName? name = some profile ∧ profile.Shows letters family stages := by
  simp only [ofName?, Text.plain_iff.mp hplain]
  cases h with
  | wgsl hletters => exact ⟨Profile.wgsl, if_pos hletters, hletters ▸ shows_wgsl⟩
  | model hsign hletters =>
    refine ⟨_, ?_, shows_model letters _ _⟩
    rw [if_neg hletters.ne_wgsl]
    obtain ⟨stem, version, heq, hstem, hversion⟩ := hletters
    obtain ⟨hbefore, hafter⟩ := cut_iff.mpr ⟨heq, hstem.not_mem⟩
    simp only [hafter, hbefore, lookup_stageNames_iff.mpr hstem,
      version_iff.mpr ⟨_, hsign, hversion⟩, Option.map_some]

/-! ## Names that are spelled alike -/

variable {name other : String}

theorem ofName?_congr (h : Alike other name) : ofName? other = ofName? name := by
  obtain ⟨letters, hother, hname⟩ := h
  simp only [ofName?, Text.plain_iff.mp hother, Text.plain_iff.mp hname]

/-- A profile has the letters of every text that names it for its name. -/
theorem plain_name (h : ofName? name = some profile) : Text.Plain name profile.name.toList := by
  obtain ⟨letters, _, _, hplain, _, hshows⟩ := exists_names h
  rwa [hshows.name, String.toList_ofList]

theorem alike_name (h : ofName? name = some profile) : Alike profile.name name := by
  have hself := (plain_name h).self
  rw [String.ofList_toList] at hself
  exact ⟨profile.name.toList, hself, plain_name h⟩

theorem ofName?_eq_some_iff_alike (h : ofName? name = some profile) :
    ofName? other = some profile ↔ Alike other name :=
  ⟨fun hother => ⟨profile.name.toList, plain_name hother, plain_name h⟩,
    fun halike => (ofName?_congr halike).trans h⟩

end Profile

namespace Compiler

variable {compiler : Compiler} {label : String} {stage : Stage} {d : ProgramDescription}
  {ds : List Declaration} {program : Program} {name other : String}

theorem Sources.respelled {source : String} {origin : ProgramOrigin}
    (h : compiler.Sources { d with profile := name } source origin) :
    compiler.Sources { d with profile := other } source origin := by
  cases h with
  | inline hsource => exact .inline hsource
  | file hnone hfile hfound hread => exact .file hnone hfile hfound hread

/-- A program that compiles does so however its profile is spelled. -/
theorem Builds.respelled (h : compiler.Builds label stage { d with profile := name } ds program)
    (halike : Profile.Alike other name) (label' : String) :
    compiler.Builds label' stage { d with profile := other } ds
      { program with label := label' } where
  labelled := rfl
  staged := h.staged
  serves := ⟨(Profile.ofName?_congr halike).trans h.serves.1, h.serves.2⟩
  entered := h.entered
  sources := h.sources.respelled
  laid := h.laid

end Compiler

namespace Profile

/-- Which texts name a profile, and what they name. The name of a profile names it, and so does
every text that is spelled like one that does and no other. Programs are the same to a device
however the names of their profiles are spelled. -/
theorem names_grammar (name : String) :
    ((∃ profile, ofName? name = some profile) ↔
      ∃ letters family stages, Text.Plain name letters ∧ Names letters family stages) ∧
    (∀ profile, ofName? name = some profile →
      (∀ letters family stages, Text.Plain name letters → Names letters family stages →
        profile.Shows letters family stages) ∧
      ofName? profile.name = some profile ∧
      ∀ other, ofName? other = some profile ↔ Alike other name) ∧
    ∀ other, Alike other name → ∀ (compiler : Compiler) (label label' : String) (stage : Stage)
      (d : ProgramDescription) (ds : List Declaration) (program : Program),
        compiler.compile label stage { d with profile := name } ds = .ok program →
          ∃ program', compiler.compile label' stage { d with profile := other } ds =
            .ok program' ∧ program'.key = program.key := by
  refine ⟨⟨?_, ?_⟩, fun profile h => ⟨?_, ?_, fun other => ofName?_eq_some_iff_alike h⟩, ?_⟩
  · rintro ⟨profile, h⟩
    obtain ⟨letters, family, stages, hplain, hnames, -⟩ := exists_names h
    exact ⟨letters, family, stages, hplain, hnames⟩
  · rintro ⟨letters, family, stages, hplain, hnames⟩
    obtain ⟨profile, h, -⟩ := hnames.exists_profile hplain
    exact ⟨profile, h⟩
  · intro letters family stages hplain hnames
    obtain ⟨named, hnamed, hshows⟩ := hnames.exists_profile hplain
    exact Option.some.inj (hnamed.symm.trans h) ▸ hshows
  · exact (ofName?_congr (alike_name h)).trans h
  · intro other halike compiler label label' stage d ds program h
    have hbuilds := (Compiler.compile_eq_ok_iff.mp h).respelled halike label'
    exact ⟨_, Compiler.compile_eq_ok_iff.mpr hbuilds, rfl⟩

/-- A fragment program whose profile is spelled in upper case and between blanks. -/
def shouting : ProgramDescription where
  profile := " PS_2_A\n"
  source := some "tint"

/-- Spelled in lower case and without the blanks, it has the same profile and the same key. -/
theorem names_grammar_shouting :
    Text.Plain " PS_2_A\n" "ps_2_a".toList ∧
      Names "ps_2_a".toList (.shaderModel 2) (· = .fragment) ∧ Alike "ps_2_a" " PS_2_A\n" ∧
      ∃ profile, ofName? " PS_2_A\n" = some profile ∧
        profile.Shows "ps_2_a".toList (.shaderModel 2) (· = .fragment) ∧
        ofName? profile.name = some profile ∧ ofName? "ps_2_a" = some profile ∧
        ∃ program program',
          Compiler.compile { lookup := .search [] } "fx/t/p:Fragment" .fragment shouting [] =
            .ok program ∧
          Compiler.compile { lookup := .search [] } "fx/t/q:Fragment" .fragment
            { shouting with profile := "ps_2_a" } [] = .ok program' ∧
          program'.key = program.key := by
  obtain ⟨hnamed, hprofile, hkeys⟩ := names_grammar " PS_2_A\n"
  have hplain : Text.Plain " PS_2_A\n" "ps_2_a".toList := Text.plain_iff.mpr (by decide +kernel)
  have hself : Text.Plain "ps_2_a" "ps_2_a".toList := Text.plain_iff.mpr (by decide +kernel)
  have halike : Alike "ps_2_a" " PS_2_A\n" := ⟨_, hself, hplain⟩
  have hversion : Version [] "2_a".toList 2 :=
    ⟨['2'], ['_', 'a'], rfl, by decide, List.forall_mem_singleton.mpr ⟨by decide, by decide⟩, rfl,
      by decide, by simp⟩
  have hnames : Names "ps_2_a".toList (.shaderModel 2) (· = .fragment) :=
    .model (Or.inl rfl) ⟨"ps".toList, "2_a".toList, rfl, .pixel, hversion⟩
  obtain ⟨profile, h⟩ := hnamed.mpr ⟨_, _, _, hplain, hnames⟩
  obtain ⟨hshows, hown, hother⟩ := hprofile profile h
  have hshown := hshows _ _ _ hplain hnames
  have hserves : Compiler.Serves shouting.profile .fragment profile :=
    ⟨h, (hshown.targets .fragment).mpr rfl⟩
  have hcompilable : Compiler.Compilable { lookup := .search [] } .fragment shouting :=
    ⟨⟨profile, hserves⟩, Or.inl ⟨"tint", rfl⟩⟩
  obtain ⟨program, hcompile⟩ :=
    (Compiler.exists_compile_iff "fx/t/p:Fragment" []).mpr hcompilable
  obtain ⟨program', hcompile', hkey⟩ := hkeys "ps_2_a" halike { lookup := .search [] }
    "fx/t/p:Fragment" "fx/t/q:Fragment" .fragment shouting [] program hcompile
  exact ⟨hplain, hnames, halike, profile, h, hshown, hown, (hother _).mpr halike, program,
    program', hcompile, hcompile', hkey⟩

/-- A version that is not all digits: it has a plus sign, and still is one. -/
theorem signed_version_named :
    ofName? "vs_+3" = some ⟨"vs_+3", .shaderModel 3, .single .vertex⟩ ∧
      ¬ ∃ letters, Text.Plain "vs_+3" letters ∧
        (letters = "wgsl".toList ∨ ∃ stage major, ModelName [] letters stage major) := by
  refine ⟨by decide +kernel, ?_⟩
  rintro ⟨letters, hplain, hletters⟩
  have hplain : "vs_+3".toList = letters := by
    rw [← Text.plain_iff.mp hplain]
    decide +kernel
  subst hplain
  rcases hletters with hwgsl | ⟨stage, major, stem, version, heq, hstem, hversion⟩
  · exact absurd hwgsl (by decide)
  · have hcut : afterUnderscore? "vs_+3".toList = some version :=
      (cut_iff.mpr ⟨heq, hstem.not_mem⟩).2
    have hrest : afterUnderscore? "vs_+3".toList = some "+3".toList := by decide +kernel
    obtain rfl : version = "+3".toList := Option.some.inj (hcut.symm.trans hrest)
    obtain ⟨digits, rest, htext, hne, hdigits, -⟩ := hversion
    cases digits with
    | nil => exact hne rfl
    | cons c digits =>
      obtain rfl : '+' = c := (List.cons.inj htext).1
      exact absurd (hdigits '+' (by simp)).1 (by decide)

end Profile

end ShaderEffects
