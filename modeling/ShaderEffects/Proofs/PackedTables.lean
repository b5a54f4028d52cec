import Mathlib.Algebra.Ring.Nat
import Mathlib.Logic.Relation
import ShaderEffects.Proofs.CompiledEffects
import ShaderEffects.Proofs.SamplerFiles

/-!
# How a table is packed

A table has a slot for each declared parameter whose name stands in the source, in the
order in which they are declared. Registers are given out from zero on without a gap, and
so are the slots of samplers. What the source does not mention leaves no trace in it.
-/
namespace ShaderEffects

/-! ## Names in a text -/

namespace Identifier

variable {text name piece : List Char}

/-- A name that stands somewhere in a text, where the text goes on on neither side with a
character of a name. -/
def StandsIn (name text : List Char) : Prop :=
  ∃ before after, text = before ++ name ++ after ∧ isName name = true ∧
    (∀ c ∈ name, isWord c = true) ∧ (∀ c ∈ before.getLast?, isWord c = false) ∧
      ∀ c ∈ after.head?, isWord c = false

/-- The first piece goes as far as the characters of a name do. -/
theorem pieces_eq (text : List Char) :
    pieces text = text.takeWhile isWord :: (pieces text).tail := by
  unfold pieces
  induction text with
  | nil => simp
  | cons c rest ih =>
    cases hc : isWord c with
    | false => simp [List.splitOnP_cons_eq_if_modifyHead, hc]
    | true =>
      rw [List.splitOnP_cons_eq_if_modifyHead, ih]
      simp [hc]

/-- Every other piece begins behind a character that cannot stand in a name. -/
theorem mem_tail_pieces : piece ∈ (pieces text).tail ↔
    ∃ before c rest, text = before ++ c :: rest ∧ isWord c = false ∧
      rest.takeWhile isWord = piece := by
  induction text with
  | nil => simp [pieces]
  | cons first rest ih =>
    cases hfirst : isWord first with
    | false =>
      have htail : (pieces (first :: rest)).tail = pieces rest := by
        simp [pieces, List.splitOnP_cons_eq_if_modifyHead, hfirst]
      rw [htail, pieces_eq rest, List.mem_cons, ih]
      constructor
      · rintro (rfl | ⟨before, c, after, rfl, hc⟩)
        · exact ⟨[], first, rest, rfl, hfirst, rfl⟩
        · exact ⟨first :: before, c, after, rfl, hc⟩
      · rintro ⟨_ | ⟨other, before⟩, c, after, heq, hc, hpiece⟩ <;>
          obtain ⟨rfl, rfl⟩ := List.cons.inj heq
        · exact Or.inl hpiece.symm
        · exact Or.inr ⟨before, c, after, rfl, hc, hpiece⟩
    | true =>
      have htail : (pieces (first :: rest)).tail = (pieces rest).tail := by
        rw [pieces, List.splitOnP_cons_eq_if_modifyHead, ← pieces, pieces_eq rest]
        simp [hfirst]
      rw [htail, ih]
      constructor
      · rintro ⟨before, c, after, rfl, hc⟩
        exact ⟨first :: before, c, after, rfl, hc⟩
      · rintro ⟨_ | ⟨other, before⟩, c, after, heq, hc, hpiece⟩ <;>
          obtain ⟨rfl, rfl⟩ := List.cons.inj heq
        · exact absurd hfirst (by simp [hc])
        · exact ⟨before, c, after, rfl, hc, hpiece⟩

/-- The longest beginning of characters of one kind ends where there is another character. -/
theorem takeWhile_eq_iff {p : Char → Bool} : text.takeWhile p = piece ↔
    ∃ after, text = piece ++ after ∧ (∀ c ∈ piece, p c = true) ∧
      ∀ c ∈ after.head?, p c = false := by
  constructor
  · rintro rfl
    refine ⟨text.dropWhile p, List.takeWhile_append_dropWhile.symm, ?_, fun c hc => ?_⟩
    · exact List.all_eq_true.mp List.all_takeWhile
    · have hhead := List.head?_dropWhile_not p text
      rw [Option.mem_def.mp hc] at hhead
      simpa using hhead
  · rintro ⟨after, rfl, hpiece, hafter⟩
    have hnone : after.takeWhile p = [] := by
      cases after with
      | nil => rfl
      | cons c rest => simp [hafter c rfl]
    rw [List.takeWhile_append_of_pos hpiece, hnone, List.append_nil]

/-- The identifiers of a text are the names that stand in it. -/
theorem mem_all_iff : name ∈ all text ↔ StandsIn name text := by
  rw [all, List.mem_filter, pieces_eq, List.mem_cons, mem_tail_pieces, eq_comm, takeWhile_eq_iff]
  constructor
  · rintro ⟨⟨after, rfl, hword, hafter⟩ | ⟨before, c, rest, rfl, hc, hrest⟩, hname⟩
    · exact ⟨[], after, rfl, hname, hword, by simp, hafter⟩
    · obtain ⟨after, rfl, hword, hafter⟩ := takeWhile_eq_iff.mp hrest
      exact ⟨before ++ [c], after, by simp, hname, hword, by simp [hc], hafter⟩
  · rintro ⟨before, after, rfl, hname, hword, hbefore, hafter⟩
    refine ⟨?_, hname⟩
    rcases List.eq_nil_or_concat before with rfl | ⟨front, c, rfl⟩
    · exact Or.inl ⟨after, rfl, hword, hafter⟩
    · refine Or.inr ⟨front, c, name ++ after, by simp, hbefore c (by simp), ?_⟩
      exact takeWhile_eq_iff.mpr ⟨after, rfl, hword, hafter⟩

instance : Decidable (StandsIn name text) := decidable_of_iff _ mem_all_iff

end Identifier

/-- The source mentions the parameter by its name. -/
def Declaration.MentionedIn (d : Declaration) (source : String) : Prop :=
  Identifier.StandsIn d.name.toList source.toList

instance (d : Declaration) (source : String) : Decidable (d.MentionedIn source) :=
  inferInstanceAs (Decidable (Identifier.StandsIn _ _))

theorem Declaration.occurs_iff {d : Declaration} {source : String} :
    Identifier.occurs d.name source = true ↔ d.MentionedIn source := by
  rw [Identifier.occurs, List.contains_iff_mem, Identifier.mem_all_iff, MentionedIn]

/-- The parameter that a slot is for. -/
def ConstantSlot.declaration (slot : ConstantSlot) : Declaration := ⟨slot.parameter, slot.type⟩

/-- The parameter that a slot is for. -/
def SamplerSlot.declaration (slot : SamplerSlot) : Declaration := ⟨slot.parameter, slot.type⟩

namespace ConstantTable

/-! ## Slots one behind the other -/

/-- A slot begins where those before it end. -/
theorem register_layConstants {register : Nat} {ds : List Declaration} {i : Nat}
    (h : i < (layConstants register ds).length) :
    (layConstants register ds)[i].register =
      register + (((layConstants register ds).take i).map (·.registers)).sum := by
  induction ds generalizing register i with
  | nil => exact absurd h (Nat.not_lt_zero i)
  | cons d rest ih =>
    cases i with
    | zero => rfl
    | succ i =>
      simp only [layConstants, List.getElem_cons_succ, List.take_succ_cons, List.map_cons,
        List.sum_cons]
      rw [ih, Nat.add_assoc]

/-- The registers of slots have no gap. -/
theorem covers_layConstants {register n : Nat} {ds : List Declaration} :
    (∃ slot ∈ layConstants register ds, slot.Covers n) ↔
      register ≤ n ∧ n < register + (ds.map (·.type.registers)).sum := by
  induction ds generalizing register with
  | nil =>
    simp only [layConstants, List.not_mem_nil, false_and, exists_false, List.map_nil,
      List.sum_nil, false_iff]
    omega
  | cons d rest ih =>
    simp only [layConstants, List.mem_cons, exists_eq_or_imp, ih, List.map_cons, List.sum_cons]
    simp only [ConstantSlot.Covers]
    omega

/-- The last slot ends behind the registers of all of them. -/
theorem end_layConstants (register : Nat) (ds : List Declaration) :
    ((layConstants register ds).getLast?.elim register fun slot => slot.register + slot.registers) =
      register + (ds.map (·.type.registers)).sum := by
  induction ds generalizing register with
  | nil => rfl
  | cons d rest ih =>
    rw [layConstants, List.getLast?_cons, List.map_cons, List.sum_cons, ← Nat.add_assoc, ← ih]
    cases (layConstants (register + d.type.registers) rest).getLast? <;> rfl

theorem layConstants_map_declaration (register : Nat) (ds : List Declaration) :
    (layConstants register ds).map ConstantSlot.declaration = ds := by
  induction ds generalizing register with
  | nil => rfl
  | cons d rest ih => rw [layConstants, List.map_cons, ih, ConstantSlot.declaration]

theorem laySamplers_map_declaration (slot : Nat) (ds : List Declaration) :
    (laySamplers slot ds).map SamplerSlot.declaration = ds := by
  induction ds generalizing slot with
  | nil => rfl
  | cons d rest ih => rw [laySamplers, List.map_cons, ih, SamplerSlot.declaration]

/-! ## Packed tables -/

/-- A table that is packed for what a source mentions of the declared parameters. -/
structure Packed (source : String) (ds : List Declaration) (table : ConstantTable) : Prop where
  constants : table.constants.map ConstantSlot.declaration =
    ds.filter fun d => d.MentionedIn source ∧ d.type.category = .scalar
  samplers : table.samplers.map SamplerSlot.declaration =
    ds.filter fun d => d.MentionedIn source ∧ d.type.category = .sampler
  room : ∀ slot ∈ table.constants, slot.registers = if slot.type = .matrix then 4 else 1
  /-- Each parameter begins where those before it end. -/
  consecutive : ∀ i (h : i < table.constants.length),
    table.constants[i].register = ((table.constants.take i).map (·.registers)).sum
  apart : table.constants.Pairwise fun a b => ∀ n, ¬(a.Covers n ∧ b.Covers n)
  /-- The registers in use are those of the parameters. -/
  covered : ∀ n, (∃ slot ∈ table.constants, slot.Covers n) ↔ n < table.registerCount
  slots : table.samplers.map (·.slot) = List.range table.samplers.length

variable {source : String} {ds : List Declaration}

theorem mentioned_eq (source : String) (category : ParameterCategory) (ds : List Declaration) :
    mentioned source category ds =
      ds.filter fun d => d.MentionedIn source ∧ d.type.category = category := by
  simp only [mentioned, Declaration.occurs_iff]

theorem packed_build (source : String) (ds : List Declaration) :
    Packed source ds (build source ds) where
  constants := by rw [build_eq, layConstants_map_declaration, mentioned_eq]
  samplers := by rw [build_eq, laySamplers_map_declaration, mentioned_eq]
  room := by
    intro slot hslot
    obtain ⟨-, hscalar, hregisters⟩ := mem_constants_build hslot
    rw [hregisters]
    revert hscalar
    cases slot.type <;> decide
  consecutive := by
    intro i h
    rw [build_eq] at h
    simpa [build_eq] using register_layConstants h
  apart := by
    rw [build_eq]
    refine (pairwise_layConstants _ _).imp fun {a b} hle n => ?_
    unfold ConstantSlot.Covers
    omega
  covered := by
    intro n
    have hend := end_layConstants 0 (mentioned source .scalar ds)
    have hcount : (build source ds).registerCount =
        0 + ((mentioned source .scalar ds).map (·.type.registers)).sum := by
      rw [← hend, build_eq, registerCount]
      cases (layConstants 0 (mentioned source .scalar ds)).getLast? <;> rfl
    rw [hcount, build_eq, covers_layConstants]
    simp
  slots := by rw [build_eq, laySamplers_map_slot, length_laySamplers, List.range_eq_range']

/-- What members of two lists have in common all along, they have in common at each place. -/
theorem getElem_of_map_eq {α β : Type} {f : α → β} {xs ys : List α} (h : xs.map f = ys.map f)
    {i : Nat} (hx : i < xs.length) (hy : i < ys.length) : f xs[i] = f ys[i] := by
  have hat := congrArg (fun zs => zs[i]?) h
  simpa [hx, hy] using hat

/-- Slots that stand one behind the other are known by their parameters. -/
theorem constants_ext {xs ys : List ConstantSlot}
    (hdeclared : xs.map ConstantSlot.declaration = ys.map ConstantSlot.declaration)
    (hroom : ∀ slot ∈ xs ++ ys, slot.registers = if slot.type = .matrix then 4 else 1)
    (hxs : ∀ i (h : i < xs.length), xs[i].register = ((xs.take i).map (·.registers)).sum)
    (hys : ∀ i (h : i < ys.length), ys[i].register = ((ys.take i).map (·.registers)).sum) :
    xs = ys := by
  have hregisters : xs.map (·.registers) = ys.map (·.registers) := by
    have hof : ∀ zs : List ConstantSlot, (∀ slot ∈ zs, slot ∈ xs ++ ys) →
        zs.map (·.registers) =
          (zs.map ConstantSlot.declaration).map fun d => if d.type = .matrix then 4 else 1 := by
      intro zs hzs
      rw [List.map_map]
      exact List.map_congr_left fun slot hslot => hroom slot (hzs slot hslot)
    rw [hof xs fun _ => List.mem_append_left ys, hof ys fun _ => List.mem_append_right xs,
      hdeclared]
  have hlength : xs.length = ys.length := by simpa using congrArg List.length hdeclared
  refine List.ext_getElem hlength fun i hx hy => ?_
  have hsame : xs[i].declaration = ys[i].declaration := getElem_of_map_eq hdeclared hx hy
  have hroom' : xs[i].registers = ys[i].registers := getElem_of_map_eq hregisters hx hy
  have hregister : xs[i].register = ys[i].register := by
    rw [hxs i hx, hys i hy, List.map_take, List.map_take, hregisters]
  obtain ⟨hname, htype⟩ := Declaration.mk.inj hsame
  exact ConstantSlot.mk.injEq .. |>.mpr ⟨hname, htype, hregister, hroom'⟩

/-- Slots that are numbered from zero on are known by their parameters. -/
theorem samplers_ext {xs ys : List SamplerSlot}
    (hdeclared : xs.map SamplerSlot.declaration = ys.map SamplerSlot.declaration)
    (hxs : xs.map (·.slot) = List.range xs.length)
    (hys : ys.map (·.slot) = List.range ys.length) : xs = ys := by
  have hlength : xs.length = ys.length := by simpa using congrArg List.length hdeclared
  refine List.ext_getElem hlength fun i hx hy => ?_
  have hslots : xs.map (·.slot) = ys.map (·.slot) := by rw [hxs, hys, hlength]
  have hsame : xs[i].declaration = ys[i].declaration := getElem_of_map_eq hdeclared hx hy
  have hslot : xs[i].slot = ys[i].slot := getElem_of_map_eq hslots hx hy
  obtain ⟨hname, htype⟩ := Declaration.mk.inj hsame
  exact SamplerSlot.mk.injEq .. |>.mpr ⟨hname, htype, hslot⟩

/-- There is one packed table. -/
theorem Packed.unique {a b : ConstantTable} (ha : Packed source ds a) (hb : Packed source ds b) :
    a = b := by
  have hconstants : a.constants = b.constants := by
    refine constants_ext (ha.constants.trans hb.constants.symm) (fun slot hslot => ?_)
      ha.consecutive hb.consecutive
    exact (List.mem_append.mp hslot).elim (ha.room slot) (hb.room slot)
  have hsamplers : a.samplers = b.samplers :=
    samplers_ext (ha.samplers.trans hb.samplers.symm) ha.slots hb.slots
  exact ConstantTable.mk.injEq .. |>.mpr ⟨hconstants, hsamplers⟩

/-! ## Finding slots -/

/-- A table in which a name finds its slot and no other. -/
structure Finds (source : String) (ds : List Declaration) (table : ConstantTable) : Prop where
  constant? : ∀ name slot, table.constant? name = some slot ↔
    slot ∈ table.constants ∧ slot.parameter = name
  sampler? : ∀ name slot, table.sampler? name = some slot ↔
    slot ∈ table.samplers ∧ slot.parameter = name
  references : ∀ name, table.references name = true ↔
    ∃ d ∈ ds, d.name = name ∧ d.MentionedIn source

/-- A parameter has a slot if the source mentions it, whatever its category. -/
theorem exists_slot_iff {name : String} :
    ((∃ slot ∈ (build source ds).constants, slot.parameter = name) ∨
      ∃ slot ∈ (build source ds).samplers, slot.parameter = name) ↔
      ∃ d ∈ ds, d.name = name ∧ d.MentionedIn source := by
  rw [← List.mem_map, ← List.mem_map, build_eq, layConstants_map_parameter,
    laySamplers_map_parameter]
  simp only [List.mem_map, mentioned_eq, List.mem_filter, decide_eq_true_eq]
  constructor
  · rintro (⟨d, ⟨hd, hmentioned, -⟩, hname⟩ | ⟨d, ⟨hd, hmentioned, -⟩, hname⟩) <;>
      exact ⟨d, hd, hname, hmentioned⟩
  · rintro ⟨d, hd, hname, hmentioned⟩
    cases hcategory : d.type.category
    · exact Or.inl ⟨d, ⟨hd, hmentioned, hcategory⟩, hname⟩
    · exact Or.inr ⟨d, ⟨hd, hmentioned, hcategory⟩, hname⟩

theorem finds_build (hnames : (ds.map (·.name)).Nodup) : Finds source ds (build source ds) where
  constant? name slot := by
    refine ⟨of_constant?, ?_⟩
    rintro ⟨hslot, rfl⟩
    exact (laid_build source hnames).constant? hslot
  sampler? name slot := by
    refine ⟨of_sampler?, ?_⟩
    rintro ⟨hslot, rfl⟩
    exact (sampled_build source hnames).sampler? hslot
  references name := by
    rw [← exists_slot_iff, references, Bool.or_eq_true, constant?, ConstantTable.sampler?,
      List.find?_isSome, List.find?_isSome]
    simp only [decide_eq_true_eq]

/-! ## What a source does not mention -/

/-- A parameter that the source does not mention is declared in addition, no longer, or
elsewhere. -/
inductive Edit (source : String) : List Declaration → List Declaration → Prop
  | add (before : List Declaration) {d : Declaration} (after : List Declaration)
      (h : ¬d.MentionedIn source) : Edit source (before ++ after) (before ++ d :: after)
  | remove (before : List Declaration) {d : Declaration} (after : List Declaration)
      (h : ¬d.MentionedIn source) : Edit source (before ++ d :: after) (before ++ after)
  | back (before : List Declaration) {d : Declaration} (between after : List Declaration)
      (h : ¬d.MentionedIn source) :
      Edit source (before ++ d :: (between ++ after)) (before ++ (between ++ d :: after))
  | forth (before : List Declaration) {d : Declaration} (between after : List Declaration)
      (h : ¬d.MentionedIn source) :
      Edit source (before ++ (between ++ d :: after)) (before ++ d :: (between ++ after))

/-- Any number of such changes. -/
def Edits (source : String) : List Declaration → List Declaration → Prop :=
  Relation.ReflTransGen (Edit source)

variable {ds' : List Declaration}

theorem Edit.mentioned_eq (h : Edit source ds ds') (category : ParameterCategory) :
    mentioned source category ds' = mentioned source category ds := by
  rw [ConstantTable.mentioned_eq, ConstantTable.mentioned_eq]
  cases h <;> simp [List.filter_append, *]

theorem Edits.build_eq (h : Edits source ds ds') : build source ds' = build source ds := by
  induction h with
  | refl => rfl
  | tail _ hedit ih =>
    rw [← ih, ConstantTable.build_eq, ConstantTable.build_eq, hedit.mentioned_eq .scalar,
      hedit.mentioned_eq .sampler]

end ConstantTable

/-- What a program does not mention has no part in compiling it. -/
theorem Compiler.compile_congr {compiler : Compiler} {label : String} {stage : Stage}
    {d : ProgramDescription} {ds ds' : List Declaration} {program : Program}
    (h : compiler.compile label stage d ds = .ok program)
    (hbuild : ConstantTable.build program.source ds' = .build program.source ds) :
    compiler.compile label stage d ds' = .ok program := by
  have hbuilds := compile_eq_ok_iff.mp h
  exact compile_eq_ok_iff.mpr { hbuilds with laid := hbuilds.laid.trans hbuild.symm }

namespace ConstantTable

/-- Exactly one table is packed for what the source mentions, in it each name finds its slot,
and no change to what the source does not mention makes another table, or another program. -/
theorem build_packed (source : String) (ds : List Declaration) :
    (∀ table, Packed source ds table ↔ table = build source ds) ∧
    ((ds.map (·.name)).Nodup → Finds source ds (build source ds)) ∧
    ∀ ds', Edits source ds ds' → build source ds' = build source ds ∧
      ∀ (compiler : Compiler) (label : String) (stage : Stage) (d : ProgramDescription)
        (program : Program), program.source = source →
          (compiler.compile label stage d ds = .ok program ↔
            compiler.compile label stage d ds' = .ok program) := by
  refine ⟨fun table => ⟨fun h => h.unique (packed_build source ds), ?_⟩, finds_build, ?_⟩
  · rintro rfl
    exact packed_build source ds
  · intro ds' hedits
    refine ⟨hedits.build_eq, fun compiler label stage d program hsource => ?_⟩
    subst hsource
    exact ⟨fun h => Compiler.compile_congr h hedits.build_eq,
      fun h => Compiler.compile_congr h hedits.build_eq.symm⟩

/-- A source that mentions numbers, a matrix and textures. -/
def waves : String :=
  "color = tex(noise, uv) * tint + tex(scene, uv) * sin(time) * view[0];\nfloat timeScale;"

/-- What is declared for it, and one number that it has no use for. -/
def wavesParameters (unused : List Declaration) : List Declaration :=
  ⟨"time", .float1⟩ :: (unused ++
    [⟨"view", .matrix⟩, ⟨"tint", .float4⟩, ⟨"scene", .sampler2D⟩, ⟨"noise", .sampler2D⟩])

/-- No register moves when the number that the source does not mention is no longer
declared. -/
theorem build_packed_waves :
    let ds := wavesParameters [⟨"unused", .float4⟩]
    (ds.map (·.name)).Nodup ∧ Packed waves ds (build waves ds) ∧ Finds waves ds (build waves ds) ∧
      (build waves ds).constants.map (fun slot => (slot.parameter, slot.register)) =
        [("time", 0), ("view", 1), ("tint", 5)] ∧
      (build waves ds).registerCount = 6 ∧
      (build waves ds).samplers.map (fun slot => (slot.parameter, slot.slot)) =
        [("scene", 0), ("noise", 1)] ∧
      Edits waves ds (wavesParameters []) ∧ build waves (wavesParameters []) = build waves ds ∧
      ∃ program, program.source = waves ∧
        ({ lookup := .search [] } : Compiler).compile "a/t/p:Fragment" .fragment
          { profile := "wgsl", source := some waves } ds = .ok program ∧
        ({ lookup := .search [] } : Compiler).compile "a/t/p:Fragment" .fragment
          { profile := "wgsl", source := some waves } (wavesParameters []) = .ok program := by
  intro ds
  have hnames : (ds.map (·.name)).Nodup := by decide +kernel
  have hedits : Edits waves ds (wavesParameters []) :=
    .single (.remove [⟨"time", .float1⟩] _ (by decide +kernel))
  obtain ⟨hpacked, hfinds, hchanged⟩ := build_packed waves ds
  obtain ⟨hsame, hprogram⟩ := hchanged _ hedits
  refine ⟨hnames, (hpacked _).mpr rfl, hfinds hnames, by decide +kernel, by decide +kernel,
    by decide +kernel, hedits, hsame, _, rfl, rfl, ?_⟩
  exact (hprogram _ _ _ _ _ rfl).mp rfl

end ConstantTable

end ShaderEffects
