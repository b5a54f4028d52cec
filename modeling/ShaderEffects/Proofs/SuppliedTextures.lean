import ShaderEffects.Proofs.FrameDraws
import ShaderEffects.Proofs.HandedConstants
import ShaderEffects.Proofs.SamplerFiles

/-!
# The textures that draws supply

When a pass is bound, each sampler of its effect that holds a texture puts it into the
slots of its name. A sampler that holds none leaves those slots alone, so a slot has the
texture that the last draw with the same program supplied for it, of whatever effect,
and is empty as long as no draw did.
-/
namespace ShaderEffects

/-- A draw, and what the renderer read when it bound the pass. -/
structure SceneDraw (D : Type) extends Draw D where
  scene : Scene

/-- The draw as one of a scene. -/
def Draw.within {D : Type} (scene : Scene) (draw : Draw D) : SceneDraw D := { draw with scene }

/-- The texture that the parameter of an effect holds, as the device knows it. There is
none if nothing is registered under the handle that the parameter has. -/
def Scene.textureOf? (scene : Scene) (effect : Effect) (name : String) : Option TextureId :=
  (effect.parameter? name).bind fun ep => (scene.parameters.get? ep.id).bind fun p =>
    (p.texture.bind scene.textures.get?).map (·.backing)

theorem Scene.exists_of_textureOf? {scene : Scene} {effect : Effect} {name : String}
    {id : TextureId} (h : scene.textureOf? effect name = some id) :
    ∃ handle texture, scene.textures.get? handle = some texture ∧ texture.backing = id := by
  obtain ⟨ep, _, hep⟩ := Option.bind_eq_some_iff.mp h
  obtain ⟨p, _, hp⟩ := Option.bind_eq_some_iff.mp hep
  obtain ⟨texture, htexture, hbacking⟩ := Option.map_eq_some_iff.mp hp
  obtain ⟨handle, _, hget⟩ := Option.bind_eq_some_iff.mp htexture
  exact ⟨handle, texture, hget, hbacking⟩

/-- What a draw supplies for the samplers of a name in the programs of a key. -/
def SceneDraw.supplied? {D : Type} (draw : SceneDraw D) (key : ProgramKey) (name : String) :
    Option TextureId :=
  if key ∈ draw.pass.programs.map (·.key) then draw.scene.textureOf? draw.effect name else none

theorem Draw.supplied?_within {D : Type} (scene : Scene) (effect : Effect) {pass : Pass}
    (device : D) {program : Program} (h : program ∈ pass.programs) (name : String) :
    (Draw.within scene ⟨effect, pass, device⟩).supplied? program.key name =
      scene.textureOf? effect name := if_pos (List.mem_map_of_mem h)

/-- What a draw supplies is what its effect holds, for one of the programs of its pass. -/
theorem SceneDraw.of_supplied? {D : Type} {draw : SceneDraw D} {key : ProgramKey} {name : String}
    {texture : TextureId} (h : draw.supplied? key name = some texture) :
    draw.scene.textureOf? draw.effect name = some texture ∧
      ∃ program ∈ draw.pass.programs, program.key = key := by
  unfold supplied? at h
  split_ifs at h with hkey
  exact ⟨h, List.mem_map.mp hkey⟩

/-- What the last of some draws supplied that supplied anything. The draws are given from
the oldest on. -/
def lastSupplied? {D : Type} (key : ProgramKey) (name : String) (draws : List (SceneDraw D)) :
    Option TextureId :=
  draws.reverse.findSome? fun draw => draw.supplied? key name

theorem lastSupplied?_snoc {D : Type} (key : ProgramKey) (name : String)
    (draws : List (SceneDraw D)) (draw : SceneDraw D) :
    lastSupplied? key name (draws ++ [draw]) =
      (draw.supplied? key name).or (lastSupplied? key name draws) := by
  rw [lastSupplied?, List.reverse_append, List.findSome?_append]
  congr 1
  cases hsupplied : draw.supplied? key name <;> simp [hsupplied]

/-- What was supplied was supplied by one of the draws. -/
theorem exists_of_lastSupplied? {D : Type} {key : ProgramKey} {name : String}
    {draws : List (SceneDraw D)} {texture : TextureId}
    (h : lastSupplied? key name draws = some texture) :
    ∃ draw ∈ draws, draw.scene.textureOf? draw.effect name = some texture := by
  obtain ⟨draw, hdraw, hsupplied⟩ := List.exists_of_findSome?_eq_some h
  exact ⟨draw, List.mem_reverse.mp hdraw, (SceneDraw.of_supplied? hsupplied).1⟩

/-- A key that no draw has a program of was supplied with nothing. -/
theorem lastSupplied?_eq_none {D : Type} {key : ProgramKey} (name : String)
    {draws : List (SceneDraw D)}
    (h : ∀ draw ∈ draws, ∀ program ∈ draw.pass.programs, program.key ≠ key) :
    lastSupplied? key name draws = none := by
  refine List.findSome?_eq_none_iff.mpr fun draw hdraw => if_neg fun hkey => ?_
  obtain ⟨program, hprogram, hsame⟩ := List.mem_map.mp hkey
  exact h draw (List.mem_reverse.mp hdraw) program hprogram hsame

/-! ## One slot -/

/-- What a value puts into a slot of a program. -/
def Upload.into? (id : ProgramId) (slot : Nat) : Upload → Option TextureId
  | .constants .. => none
  | .sampler program number texture =>
    if program = id ∧ number = slot then some texture else none

/-- A sampler that holds a texture has a value for each program with a slot of its name. -/
theorem Upload.of?_of_sampler {scene : Scene} {p : Parameter} {b : BoundProgram}
    {slot : SamplerSlot} {texture : Texture} (hp : p.category = .sampler)
    (hslot : b.constants.sampler? p.name = some slot)
    (htexture : p.texture.bind scene.textures.get? = some texture) :
    Upload.of? scene p b = some (.sampler b.id slot.slot texture.backing) := by
  simp [Upload.of?, hp, hslot, htexture]

section slot

variable {D : Type} [Device D] [RegisterFile D] [SamplerFile D] {d : D} {id : ProgramId}
  {slot : Nat}

theorem hasSlot_apply (u : Upload) (hid : RegisterFile.Has d id)
    (hslot : SamplerFile.HasSlot d id slot) : SamplerFile.HasSlot (u.apply d) id slot := by
  cases u with
  | constants program register values =>
    exact (SamplerFile.keep d (c := .setConstants program register values) rfl id hid slot).1 hslot
  | sampler program number texture => exact SamplerFile.hasSlot_set d program number texture hslot

theorem hasSlot_foldl (hid : RegisterFile.Has d id) (hslot : SamplerFile.HasSlot d id slot)
    (us : List Upload) : SamplerFile.HasSlot (us.foldl Upload.apply d) id slot := by
  induction us generalizing d with
  | nil => exact hslot
  | cons u rest ih => exact ih (has_apply u hid) (hasSlot_apply u hid hslot)

/-- A value that is handed over fills the slot it is for. -/
theorem sampler?_apply (u : Upload) (hid : RegisterFile.Has d id)
    (hslot : SamplerFile.HasSlot d id slot) :
    SamplerFile.sampler? (u.apply d) id slot =
      (u.into? id slot).or (SamplerFile.sampler? d id slot) := by
  cases u with
  | constants program register values =>
    exact (SamplerFile.keep d (c := .setConstants program register values) rfl id hid slot).2
  | sampler program number texture =>
    simp only [Upload.apply, Upload.into?]
    split_ifs with hthis
    · obtain ⟨rfl, rfl⟩ := hthis
      exact SamplerFile.set d texture hslot
    · exact SamplerFile.set_other d texture fun hprogram hnumber =>
        hthis ⟨hprogram.symm, hnumber.symm⟩

/-- If the values that are for a slot are all the same texture, the slot has it in the
end. If none is for the slot, it stays as it was. -/
theorem sampler?_foldl {wanted : Option TextureId} {us : List Upload}
    (hid : RegisterFile.Has d id) (hslot : SamplerFile.HasSlot d id slot)
    (hall : ∀ u ∈ us, ∀ texture, u.into? id slot = some texture → wanted = some texture)
    (hsome : ∀ texture, wanted = some texture → SamplerFile.sampler? d id slot = some texture ∨
      ∃ u ∈ us, u.into? id slot = some texture) :
    SamplerFile.sampler? (us.foldl Upload.apply d) id slot =
      wanted.or (SamplerFile.sampler? d id slot) := by
  induction us generalizing d with
  | nil =>
    cases wanted with
    | none => rfl
    | some texture =>
      exact (hsome texture rfl).resolve_right fun ⟨_, hu, _⟩ => List.not_mem_nil hu
  | cons u rest ih =>
    have happly := sampler?_apply u hid hslot
    have hrest : ∀ v ∈ rest, ∀ texture, v.into? id slot = some texture → wanted = some texture :=
      fun v hv => hall v (List.mem_cons_of_mem u hv)
    rw [List.foldl_cons, ih (has_apply u hid) (hasSlot_apply u hid hslot) hrest ?_, happly]
    · cases wanted with
      | some texture => rfl
      | none =>
        have hnone : u.into? id slot = none := by
          refine Option.eq_none_iff_forall_ne_some.mpr fun texture hinto => ?_
          cases hall u List.mem_cons_self texture hinto
        simp only [hnone, Option.none_or]
    · intro texture hwanted
      rw [happly]
      cases hinto : u.into? id slot with
      | some other =>
        rw [hall u List.mem_cons_self other hinto] at hwanted
        exact Or.inl hwanted
      | none =>
        rcases hsome texture hwanted with hold | ⟨v, hv, hinto'⟩
        · exact Or.inl hold
        · rcases List.mem_cons.mp hv with rfl | hv
          · rw [hinto] at hinto'
            cases hinto'
          · exact Or.inr ⟨v, hv, hinto'⟩

end slot

/-! ## What slots have between draws -/

namespace DeviceCall

variable {D : Type} [Device D]

/-- Whether a call writes nothing to a program. -/
def leavesPrograms (c : DeviceCall D) : Bool := c.leavesConstants && c.leavesSamplers

theorem leavesConstants_of_leavesPrograms {c : DeviceCall D} (h : c.leavesPrograms = true) :
    c.leavesConstants = true := (Bool.and_eq_true_iff.mp h).1

theorem leavesSamplers_of_leavesPrograms {c : DeviceCall D} (h : c.leavesPrograms = true) :
    c.leavesSamplers = true := (Bool.and_eq_true_iff.mp h).2

theorem leavesPrograms_of_draws {c : DeviceCall D} (h : c.draws = true) :
    c.leavesPrograms = true := by
  cases c <;> first | rfl | cases h

end DeviceCall

namespace Renderer

variable {D : Type} [Device D] [RegisterFile D] [SamplerFile D] {r r' : Renderer D}
  {draws : List (SceneDraw D)}

/-- A texture stays on the device. -/
theorem StepsBy.hasTexture {kind : DeviceCall D → Bool} {hands : Prop}
    (h : r.StepsBy kind hands r') {texture : TextureId}
    (htexture : SamplerFile.HasTexture r.device texture) :
    SamplerFile.HasTexture r'.device texture :=
  h.device_keep (fun d c _ => SamplerFile.hasTexture d c) htexture

/-- The slots of each loaded program have what the draws before supplied for them last. -/
structure Supplied (draws : List (SceneDraw D)) (r : Renderer D) : Prop where
  slots : ∀ key id, r.loaded.get? key = some id → key.constants.Sampled →
    ∀ slot ∈ key.constants.samplers, SamplerFile.HasSlot r.device id slot.slot ∧
      SamplerFile.sampler? r.device id slot.slot = lastSupplied? key slot.parameter draws
  loaded : ∀ draw ∈ draws, ∀ program ∈ draw.pass.programs,
    ∃ id, r.loaded.get? program.key = some id
  textures : ∀ draw ∈ draws, ∀ name texture,
    draw.scene.textureOf? draw.effect name = some texture →
      SamplerFile.HasTexture r.device texture

/-- Before the first draw nothing is known of any slot. -/
theorem supplied_of_empty (hloaded : r.loaded = ∅) : r.Supplied [] where
  slots := by simp [hloaded]
  loaded := fun _ h => absurd h List.not_mem_nil
  textures := fun _ h => absurd h List.not_mem_nil

/-- A device that keeps slots and textures can take the place of another. -/
theorem Supplied.withDevice (h : r.Supplied draws) (hkept : r.Kept) {d : D}
    (hslots : ∀ q, RegisterFile.Has r.device q → ∀ slot,
      (SamplerFile.HasSlot r.device q slot → SamplerFile.HasSlot d q slot) ∧
        SamplerFile.sampler? d q slot = SamplerFile.sampler? r.device q slot)
    (htextures : ∀ texture, SamplerFile.HasTexture r.device texture →
      SamplerFile.HasTexture d texture) :
    ({ r with device := d } : Renderer D).Supplied draws where
  slots := fun key id hid hsampled slot hslot => by
    obtain ⟨hhas, hholds⟩ := h.slots key id hid hsampled slot hslot
    obtain ⟨hkeeps, hsame⟩ := hslots id (hkept.has key id hid) slot.slot
    exact ⟨hkeeps hhas, hsame.trans hholds⟩
  loaded := h.loaded
  textures := fun draw hdraw name texture htexture =>
    htextures texture (h.textures draw hdraw name texture htexture)

/-- A program that is loaded has empty slots, and no draw supplied anything for it. -/
theorem Supplied.load (h : r.Supplied draws) (hkept : r.Kept) {p : Program} {id : ProgramId}
    {device : D} (hnew : r.loaded.get? p.key = none)
    (hload : Device.loadProgram r.device p = (.ok id, device)) :
    ({ r with device, loaded := r.loaded.insert p.key id } : Renderer D).Supplied draws := by
  obtain ⟨hslots, hblank⟩ := SamplerFile.load hload
  have hdevice : (DeviceCall.loadProgram p).perform r.device = device := congrArg Prod.snd hload
  have hold : ({ r with device } : Renderer D).Supplied draws := by
    refine h.withDevice hkept (fun q hq slot => ?_) fun texture htexture => ?_
    · have hkeep := SamplerFile.keep r.device (c := .loadProgram p) rfl q hq slot
      rwa [hdevice] at hkeep
    · have hkeep := SamplerFile.hasTexture r.device (.loadProgram p) htexture
      rwa [hdevice] at hkeep
  have hother : ∀ draw ∈ draws, ∀ program ∈ draw.pass.programs, program.key ≠ p.key := by
    intro draw hdraw program hprogram hkey
    obtain ⟨known, hknown⟩ := h.loaded draw hdraw program hprogram
    rw [hkey, hnew] at hknown
    cases hknown
  refine ⟨fun key q hq hsampled slot hslot => ?_, fun draw hdraw program hprogram => ?_,
    hold.textures⟩
  · rw [Table.get?_insert] at hq
    split_ifs at hq with hkey
    · cases hq
      subst hkey
      refine ⟨hslots _ (hsampled.slot_lt hslot), ?_⟩
      rw [hblank, lastSupplied?_eq_none slot.parameter hother]
    · exact hold.slots key q hq hsampled slot hslot
  · obtain ⟨known, hknown⟩ := h.loaded draw hdraw program hprogram
    refine ⟨known, ?_⟩
    rw [Table.get?_insert, if_neg (hother draw hdraw program hprogram)]
    exact hknown

/-- What hands no value over leaves the slots. -/
theorem StepBy.supplied (h : r.StepBy DeviceCall.leavesPrograms False r') (hkept : r.Kept)
    (hr : r.Supplied draws) : r'.Supplied draws := by
  cases h with
  | note | quad | hold | free => exact ⟨hr.slots, hr.loaded, hr.textures⟩
  | call hc =>
    exact hr.withDevice hkept
      (SamplerFile.keep r.device (DeviceCall.leavesSamplers_of_leavesPrograms hc))
      fun _ => SamplerFile.hasTexture r.device _
  | load hnew hload => exact hr.load hkept hnew hload
  | upload hhands => exact hhands.elim

theorem StepsBy.supplied (h : r.StepsBy DeviceCall.leavesPrograms False r') (hkept : r.Kept)
    (hr : r.Supplied draws) : r'.Kept ∧ r'.Supplied draws :=
  h.keep (P := fun r => r.Kept ∧ r.Supplied draws)
    (fun _ _ hstep hr => ⟨StepBy.kept
      (hstep.mono (fun _ => DeviceCall.leavesConstants_of_leavesPrograms) id) hr.1,
        hstep.supplied hr.1 hr.2⟩) ⟨hkept, hr⟩

/-! ## Binding a pass -/

section bind

variable {scene : Scene} {effect : Effect} {technique : Technique} {pass : Pass}

omit [RegisterFile D] [SamplerFile D] in
/-- A sampler of an effect is alive, no other parameter has its name, and it holds what
the scene says of that name. -/
theorem samplerOf (hcompiled : WellCompiled D effect)
    (hsupplies : scene.parameters.Supplies effect) (ht : technique ∈ effect.techniques)
    (hpass : pass ∈ technique.passes) {program : Program} (hprogram : program ∈ pass.programs)
    {slot : SamplerSlot} (hslot : slot ∈ program.constants.samplers) :
    ∃ ep p, ep ∈ effect.parameters ∧ effect.parameter? slot.parameter = some ep ∧
      scene.parameters.get? ep.id = some p ∧ p.name = slot.parameter ∧ p.category = .sampler ∧
      scene.parameters.Feeds effect slot.parameter p ∧
      scene.textureOf? effect slot.parameter =
        (p.texture.bind scene.textures.get?).map (·.backing) := by
  obtain ⟨ep, hep, hfind, hname, hsampler⟩ :=
    hcompiled.parameter?_samplerSlot ht hpass hprogram hslot
  obtain ⟨p, hp, hpname, hptype, hfeeds⟩ := hcompiled.feeds hsupplies hep
  rw [hname] at hpname hfeeds
  refine ⟨ep, p, hep, hfind, hp, hpname, ?_, hfeeds, ?_⟩
  · rw [Parameter.category, hptype]
    exact hsampler
  · rw [Scene.textureOf?, hfind, Option.bind_some, hp, Option.bind_some]

section handed

variable {bound : BoundPass} {key : ProgramKey} {id : ProgramId} {slot : SamplerSlot}
  (hcompiled : WellCompiled D effect) (hsupplies : scene.parameters.Supplies effect)
  (ht : technique ∈ effect.techniques) (hpass : pass ∈ technique.passes)
  (hid : r.loaded.get? key = some id) (hslot : slot ∈ key.constants.samplers)

include hcompiled hsupplies ht hpass hid hslot

omit [SamplerFile D] in
/-- A value that is put into a slot is what the draw supplies for it. -/
theorem Kept.supplied?_of_into? (hkept : r.Kept) (hsampled : key.constants.Sampled)
    (hbound : ∀ b ∈ bound.programs, ∃ program ∈ pass.programs,
      r.loaded.get? program.key = some b.id ∧ b.constants = program.constants)
    {u : Upload} (hu : Handed scene effect bound u) {texture : TextureId}
    (hinto : u.into? id slot.slot = some texture) (device : D) :
    (Draw.within scene ⟨effect, pass, device⟩).supplied? key slot.parameter = some texture := by
  obtain ⟨pid, hpid, other, hother, b, hb, hof⟩ := hu
  rcases Upload.of?_eq_some_iff.mp hof with
    ⟨_, _, _, rfl⟩ | ⟨_, found, held, hfound, hheld, rfl⟩
  · cases hinto
  simp only [Upload.into?] at hinto
  split_ifs at hinto with hthis
  obtain ⟨hbid, hnumber⟩ := hthis
  obtain ⟨program, hprogram, hknown, hconstants⟩ := hbound b hb
  rw [hbid] at hknown
  obtain rfl := hkept.injective _ _ _ hknown hid
  -- the slot that was found has the number of the slot, so it is the slot
  rw [hconstants] at hfound
  obtain ⟨hmem, hparameter⟩ := ConstantTable.of_sampler? hfound
  obtain rfl := hsampled.eq_of_slot hslot hmem hnumber
  obtain ⟨ep, p, _, _, _, _, _, hfeeds, htexture⟩ :=
    samplerOf hcompiled hsupplies ht hpass hprogram hslot
  obtain rfl := hfeeds pid hpid other hother hparameter.symm
  rw [Draw.supplied?_within scene effect device hprogram, htexture, hheld]
  exact hinto

omit [RegisterFile D] [SamplerFile D] in
/-- What the draw supplies for a slot is put into it. -/
theorem exists_into?_of_supplied? (hsampled : key.constants.Sampled)
    (hbound : r.bound = some bound)
    (hall : ∀ program ∈ pass.programs, ∃ id, r.loaded.get? program.key = some id ∧
      (⟨program.stage, id, program.constants⟩ : BoundProgram) ∈ bound.programs)
    {texture : TextureId} {device : D}
    (h : (Draw.within scene ⟨effect, pass, device⟩).supplied? key slot.parameter =
      some texture) :
    ∃ u ∈ effect.parameterIds.flatMap (r.uploads scene),
      u.into? id slot.slot = some texture := by
  obtain ⟨hthere, program, hprogram, rfl⟩ := SceneDraw.of_supplied? h
  change scene.textureOf? effect slot.parameter = some texture at hthere
  change program ∈ pass.programs at hprogram
  obtain ⟨known, hknown, hmem⟩ := hall program hprogram
  obtain rfl : known = id := Option.some.inj (hknown.symm.trans hid)
  obtain ⟨ep, p, hep, _, hp, hpname, hsampler, _, htexture⟩ :=
    samplerOf hcompiled hsupplies ht hpass hprogram hslot
  rw [htexture, Option.map_eq_some_iff] at hthere
  obtain ⟨held, hheld, rfl⟩ := hthere
  refine ⟨.sampler known slot.slot held.backing, ?_, by simp [Upload.into?]⟩
  refine List.mem_flatMap.mpr ⟨ep.id, List.mem_map_of_mem hep, ?_⟩
  simp only [uploads, hbound, hp]
  refine List.mem_filterMap.mpr ⟨_, hmem, Upload.of?_of_sampler hsampler ?_ hheld⟩
  rw [hpname]
  exact hsampled.sampler? hslot

/-- Handing the values of an effect over fills a slot with what the draw supplies for it,
and leaves it if the draw supplies nothing. -/
theorem Kept.sampler?_handed (hkept : r.Kept) (hsampled : key.constants.Sampled)
    (hbound : r.bound = some bound)
    (hall : ∀ program ∈ pass.programs, ∃ id, r.loaded.get? program.key = some id ∧
      (⟨program.stage, id, program.constants⟩ : BoundProgram) ∈ bound.programs)
    (hmem : ∀ b ∈ bound.programs, ∃ program ∈ pass.programs,
      r.loaded.get? program.key = some b.id ∧ b.constants = program.constants)
    (hhas : SamplerFile.HasSlot r.device id slot.slot) (device : D) :
    SamplerFile.sampler? ((effect.parameterIds.flatMap (r.uploads scene)).foldl Upload.apply
        r.device) id slot.slot =
      ((Draw.within scene ⟨effect, pass, device⟩).supplied? key slot.parameter).or
        (SamplerFile.sampler? r.device id slot.slot) := by
  refine sampler?_foldl (hkept.has key id hid) hhas (fun u hu texture hinto => ?_)
    fun texture hsupplied => ?_
  · obtain ⟨pid, hpid, hmemu⟩ := List.mem_flatMap.mp hu
    exact hkept.supplied?_of_into? hcompiled hsupplies ht hpass hid hslot hsampled hmem
      (mem_uploads hbound hpid hmemu) hinto device
  · exact Or.inr (exists_into?_of_supplied? hcompiled hsupplies ht hpass hid hslot hsampled
      hbound hall hsupplied)

end handed

/-- When a pass was bound, each slot of its programs has what the draw supplies for it,
and keeps what it had if the draw supplies nothing. The slots of other programs stay as
they were. -/
theorem Supplied.bindPass (h : r.Supplied draws) (hkept : r.Kept)
    (hcompiled : WellCompiled D effect) (hsupplies : scene.parameters.Supplies effect)
    (ht : technique ∈ effect.techniques) (hpass : pass ∈ technique.passes)
    (hstages : (pass.programs.map (·.stage)).Nodup)
    (htextures : ∀ handle texture, scene.textures.get? handle = some texture →
      SamplerFile.HasTexture r.device texture.backing)
    (hbind : r.bindPass scene effect pass = (.ok (), r')) (device : D) :
    r'.Kept ∧ r'.Supplied (draws ++ [Draw.within scene ⟨effect, pass, device⟩]) ∧
      ∀ program ∈ pass.programs, ∃ id, r'.loaded.get? program.key = some id ∧
        RegisterFile.boundAt r'.device program.stage = some id := by
  obtain ⟨r₁, bound, hsteps, hbound, hall, hmem, rfl⟩ := bindPass_ready hstages hbind
  have hquiet : r.StepsBy DeviceCall.leavesPrograms False r₁ :=
    hsteps.mono (fun _ hc => DeviceCall.leavesPrograms_of_draws (DeviceCall.draws_of_binds hc)) id
  obtain ⟨hkept₁, h₁⟩ := hquiet.supplied hkept h
  have hhands : r₁.Steps (effect.parameterIds.foldl (fun r id => r.applyParameter scene id) r₁) :=
    foldl_applyParameter_steps r₁ scene effect.parameterIds
  have hgrows := hquiet.of_quiet.trans (hhands.mono (fun _ => DeviceCall.leavesPrograms_of_draws) id)
  rw [foldl_applyParameter_device] at hhands hgrows ⊢
  refine ⟨hhands.kept hkept₁, ⟨fun key id hid hsampled slot hslot => ?_, ?_, ?_⟩, ?_⟩
  · change r₁.loaded.get? key = some id at hid
    obtain ⟨hhas, hholds⟩ := h₁.slots key id hid hsampled slot hslot
    have hloaded := hkept₁.has key id hid
    refine ⟨hasSlot_foldl hloaded hhas _, ?_⟩
    rw [lastSupplied?_snoc, ← hholds]
    exact hkept₁.sampler?_handed hcompiled hsupplies ht hpass hid hslot hsampled hbound
      (fun program hprogram => (hall program hprogram).imp fun _ hp => ⟨hp.1, hp.2.2⟩) hmem hhas
      device
  · intro draw hdraw program hprogram
    rcases List.mem_append.mp hdraw with hold | hnew
    · exact h₁.loaded draw hold program hprogram
    · obtain rfl := List.mem_singleton.mp hnew
      exact (hall program hprogram).imp fun _ hp => hp.1
  · intro draw hdraw name texture htexture
    rcases List.mem_append.mp hdraw with hold | hnew
    · exact hgrows.hasTexture (h.textures draw hold name texture htexture)
    · obtain rfl := List.mem_singleton.mp hnew
      obtain ⟨handle, held, hget, rfl⟩ := Scene.exists_of_textureOf? htexture
      exact hgrows.hasTexture (htextures handle held hget)
  · intro program hprogram
    obtain ⟨id, hid, hat, _⟩ := hall program hprogram
    exact ⟨id, hid, (congrFun (boundAt_foldl _ _) _).trans hat⟩

end bind

end Renderer

end ShaderEffects
