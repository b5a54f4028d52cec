import ShaderEffects.Proofs.GraphicsDevices
import ShaderEffects.Proofs.LinkedEffects
import ShaderEffects.Proofs.RegisterFiles

/-!
# The registers of a graphics device

What the moves of a graphics device leave as it is. Shaders, layouts and pipelines
come and go beside the programs; the numbers and the textures of a program change only
when some are written to it, and uploading numbers changes none. So every graphics device
has registers, whatever its interface refuses.
-/
namespace ShaderEffects

open Gpu

/-- A call that writes no numbers takes no move that does. -/
theorem DeviceCall.not_takes_write {D : Type} [Device D] {c : DeviceCall D}
    (h : c.leavesConstants = true) : ¬ c.Takes .write := by
  rintro (hkind | hkind)
  · cases hkind
  · cases c with
    | setConstants => cases h
    | validate | createTexture | loadTexture | loadProgram | bind | unbind | setSampler
    | setTarget | restore | enterEffectState | draw | copy => cases hkind

namespace GpuDevice

section calls

variable (d : GpuDevice)

@[simp] theorem device_validate (programs : List Program) :
    Device.validate d programs = d.validate programs := rfl

@[simp] theorem device_createTexture (name : String) (desc : TextureDesc) :
    Device.createTexture d name desc = d.createTexture name desc := rfl

@[simp] theorem device_loadTexture (files : FileTree) (name path : String) :
    Device.loadTexture d files name path = d.loadTexture files name path := rfl

@[simp] theorem device_loadProgram (p : Program) : Device.loadProgram d p = d.loadProgram p := rfl

@[simp] theorem device_bind (stage : Stage) (id : ProgramId) :
    Device.bind d stage id = d.bind stage id := rfl

@[simp] theorem device_setSampler (id : ProgramId) (slot : Nat) (texture : TextureId) :
    Device.setSampler d id slot texture = d.setSampler id slot texture := rfl

@[simp] theorem device_setTarget (surface : Surface) :
    Device.setTarget d surface = d.setTarget surface := rfl

@[simp] theorem device_draw (geometry : Geometry) : Device.draw d geometry = d.draw geometry := rfl

@[simp] theorem device_copy (source destination : Surface) :
    Device.copy d source destination = d.copy source destination := rfl

end calls

/-! ## What calls leave -/

/-- What was written to a program: numbers, and a texture for each slot. -/
def written (p : LoadedProgram) : Vector Register 64 × List (Option TextureId) :=
  (p.registers, p.samplers)

/-- What changes nothing that was written to a program and no stage, and takes no texture
away. -/
structure Retains (d d' : GpuDevice) : Prop where
  nextId_le : d.nextId ≤ d'.nextId
  written : ∀ id, (d'.programs.get? id).map written = (d.programs.get? id).map written
  bound : d'.bound = d.bound
  textures : ∀ id, d.textures.contains id = true → d'.textures.contains id = true

/-- What has the programs, stages and textures of a device retains them. -/
theorem retains_of_eq {d d' : GpuDevice} (hnextId : d.nextId ≤ d'.nextId)
    (hprograms : d'.programs = d.programs) (hbound : d'.bound = d.bound)
    (htextures : d'.textures = d.textures) : d.Retains d' :=
  ⟨hnextId, fun id => by rw [hprograms], hbound, fun id hid => by rwa [htextures]⟩

theorem Retains.refl (d : GpuDevice) : d.Retains d := retains_of_eq (Nat.le_refl _) rfl rfl rfl

theorem Retains.trans {d₁ d₂ d₃ : GpuDevice} (h₁ : d₁.Retains d₂) (h₂ : d₂.Retains d₃) :
    d₁.Retains d₃ :=
  ⟨Nat.le_trans h₁.nextId_le h₂.nextId_le, fun id => (h₂.written id).trans (h₁.written id),
    h₂.bound.trans h₁.bound, fun id hid => h₂.textures id (h₁.textures id hid)⟩

theorem Retains.registers {d d' : GpuDevice} (h : d.Retains d') (id : ProgramId) :
    (d'.programs.get? id).map (·.registers) = (d.programs.get? id).map (·.registers) := by
  have hfst := congrArg (Option.map Prod.fst) (h.written id)
  rwa [Option.map_map, Option.map_map] at hfst

theorem Retains.samplers {d d' : GpuDevice} (h : d.Retains d') (id : ProgramId) :
    (d'.programs.get? id).map (·.samplers) = (d.programs.get? id).map (·.samplers) := by
  have hsnd := congrArg (Option.map Prod.snd) (h.written id)
  rwa [Option.map_map, Option.map_map] at hsnd

theorem retains_upload (d : GpuDevice) (id : ProgramId) : d.Retains (d.upload id) := by
  unfold upload
  cases hp : d.programs.get? id with
  | none => exact .refl d
  | some p =>
    simp only
    split_ifs
    · refine ⟨Nat.le_refl _, fun q => ?_, rfl, fun _ hid => hid⟩
      simp only [ask, Table.get?_insert]
      split_ifs with hq
      · rw [hq, hp]
        rfl
      · rfl
    · exact .refl d

/-- A move that loads, binds and writes nothing leaves what was written. -/
theorem Move.retains {d d' : GpuDevice} {kind : MoveKind} (h : d.Move kind d')
    (hkind : kind.sparesPrograms = true) : d.Retains d' := by
  cases h with
  | load | bind | unbind | write | sample => cases hkind
  | ask | makeModule | makeLayout | makePipeline | makeBlit | aim | draw | copy | resize
  | configure | present | lose =>
    exact retains_of_eq (Nat.le_refl _) rfl rfl rfl
  | upload id => exact retains_upload d id
  | keep image =>
    refine ⟨Nat.le_succ _, fun _ => rfl, rfl, fun id hid => ?_⟩
    simp only [GpuDevice.keep, Table.contains, Table.get?_insert]
    split_ifs
    · rfl
    · exact hid

theorem MovesBy.retains {d d' : GpuDevice} {kinds : MoveKind → Prop} (h : d.MovesBy kinds d')
    (hkinds : ∀ kind, kinds kind → kind.sparesPrograms = true) : d.Retains d' :=
  h.preserve (P := fun d' => d.Retains d')
    (fun k _ _ hk hmove hd => hd.trans (hmove.retains (hkinds k hk))) (.refl d)

/-- A program is bound to its stage, or nothing changes. -/
theorem bind_cases (d : GpuDevice) (stage : Stage) (id : ProgramId) :
    (∃ e, d.bind stage id = (.error e, d)) ∨
      d.bind stage id = (.ok (), { d with bound := d.bound.insert stage id }) := by
  unfold bind
  cases d.alive with
  | error e => exact Or.inl ⟨e, rfl⟩
  | ok _ =>
    cases d.programs.get? id with
    | none => exact Or.inl ⟨_, rfl⟩
    | some p =>
      simp only
      split_ifs
      · exact Or.inl ⟨_, rfl⟩
      · exact Or.inr rfl

/-! ## Registers -/

/-- A register of a program, if there is one of that number. -/
def register? (d : GpuDevice) (id : ProgramId) (n : Nat) : Option Register :=
  ((d.programs.get? id).map (·.registers)).bind fun registers => registers[n]?

/-- The program was loaded. -/
def Loaded (d : GpuDevice) (id : ProgramId) : Prop :=
  id.number < d.nextId ∧ (d.programs.get? id).isSome = true

/-- What a register of a new program reads. -/
def blankRegister (n : Nat) : Option Register := if n < registerLimit then some .zero else none

theorem Retains.loaded {d d' : GpuDevice} (h : d.Retains d') {q : ProgramId} (hq : d.Loaded q) :
    d'.Loaded q := by
  refine ⟨Nat.lt_of_lt_of_le hq.1 h.nextId_le, ?_⟩
  rw [← Option.isSome_map, h.registers q, Option.isSome_map]
  exact hq.2

theorem Retains.register? {d d' : GpuDevice} (h : d.Retains d') (q : ProgramId) (n : Nat) :
    d'.register? q n = d.register? q n := by
  rw [GpuDevice.register?, h.registers q, GpuDevice.register?]

/-- A register of a program is written if it is one of those that are told, and those past the
end are not there. -/
theorem getElem?_writeRegisters_of_lt {n : Nat} (hn : n < registerLimit) (p : LoadedProgram)
    (register : Nat) (rs : List Register) :
    (writeRegisters p register rs).registers[n]? =
      if register ≤ n ∧ n < register + rs.length then rs[n - register]? else p.registers[n]? := by
  induction rs generalizing p register with
  | nil =>
    rw [if_neg (by simp only [List.length_nil]; omega)]
    rfl
  | cons r rest ih =>
    have hn' : n < 64 := hn
    have hfirst : (if register < registerLimit then
        { p with registers := p.registers.setIfInBounds register r, dirty := true }
      else p).registers[n]? = if register = n then some r else p.registers[n]? := by
      by_cases hregister : register = n
      · rw [hregister, if_pos hn]
        simp [hn']
      · split_ifs
        · simp [hregister]
        · rfl
    rw [writeRegisters, ih, hfirst]
    simp only [List.length_cons]
    by_cases hregister : register = n
    · subst hregister
      rw [if_neg (by omega), if_pos rfl, if_pos (by omega)]
      simp
    · rw [if_neg hregister]
      by_cases hin : register + 1 ≤ n ∧ n < register + 1 + rest.length
      · rw [if_pos hin, if_pos (by omega)]
        obtain ⟨k, rfl⟩ := Nat.exists_eq_add_of_le hin.1
        have hk : register + 1 + k - register = k + 1 := by omega
        have hk' : register + 1 + k - (register + 1) = k := by omega
        rw [hk, hk', List.getElem?_cons_succ]
      · rw [if_neg hin, if_neg (by omega)]

theorem getElem?_writeRegisters {rs : List Register} {register : Nat}
    (h : register + rs.length ≤ registerLimit) (p : LoadedProgram) (n : Nat) :
    (writeRegisters p register rs).registers[n]? =
      if register ≤ n ∧ n < register + rs.length then rs[n - register]? else p.registers[n]? := by
  by_cases hn : n < registerLimit
  · exact getElem?_writeRegisters_of_lt hn p register rs
  · have hend : ∀ registers : Vector Register 64, registers[n]? = none := fun registers =>
      Vector.getElem?_eq_none (Nat.le_of_not_lt hn)
    have hmissed : ¬ (register ≤ n ∧ n < register + rs.length) := by omega
    rw [if_neg hmissed, hend, hend]

theorem loaded_modify (d : GpuDevice) (id : ProgramId) (f : LoadedProgram → LoadedProgram)
    {q : ProgramId} (hq : d.Loaded q) :
    Loaded { d with programs := d.programs.modify id f } q := by
  refine ⟨hq.1, ?_⟩
  simp only [Table.get?_modify]
  split_ifs with hid
  · rw [Option.isSome_map, ← hid]
    exact hq.2
  · exact hq.2

/-- A program that was loaded stays. -/
theorem Move.loaded {d d' : GpuDevice} {kind : MoveKind} (h : d.Move kind d') {q : ProgramId}
    (hq : d.Loaded q) : d'.Loaded q := by
  cases hspares : kind.sparesPrograms with
  | true => exact (h.retains hspares).loaded hq
  | false =>
    cases h with
    | ask | bind | unbind => exact hq
    | makeModule | makeLayout | makePipeline | makeBlit | upload | keep | aim | draw | copy
    | resize | configure | present | lose => cases hspares
    | write id => exact loaded_modify d id _ hq
    | sample id => exact loaded_modify d id _ hq
    | load p hmodule =>
      refine ⟨Nat.lt_succ_of_lt hq.1, ?_⟩
      simp only [Table.get?_insert]
      split_ifs
      · rfl
      · exact hq.2

/-- A move that writes no numbers keeps the registers of the loaded programs. -/
theorem Move.register? {d d' : GpuDevice} {kind : MoveKind} (h : d.Move kind d')
    (hkind : kind ≠ .write) {q : ProgramId} (hq : d.Loaded q) (n : Nat) :
    d'.register? q n = d.register? q n := by
  cases hspares : kind.sparesPrograms with
  | true => exact (h.retains hspares).register? q n
  | false =>
    cases h with
    | ask | bind | unbind => rfl
    | makeModule | makeLayout | makePipeline | makeBlit | upload | keep | aim | draw | copy
    | resize | configure | present | lose => cases hspares
    | write => exact absurd rfl hkind
    | load p hmodule =>
      have hne : q ≠ ⟨d.nextId⟩ := by
        rintro rfl
        exact Nat.lt_irrefl _ hq.1
      simp [GpuDevice.register?, hne]
    | sample id slot texture =>
      simp only [GpuDevice.register?, setSampler, Table.get?_modify]
      split_ifs with hid
      · rw [← hid]
        cases d.programs.get? q <;> rfl
      · rfl

theorem MovesBy.loaded {d d' : GpuDevice} {kinds : MoveKind → Prop} (h : d.MovesBy kinds d')
    {q : ProgramId} (hq : d.Loaded q) : d'.Loaded q :=
  h.preserve (P := fun d => d.Loaded q) (fun _ _ _ _ hmove => hmove.loaded) hq

theorem MovesBy.register? {d d' : GpuDevice} {kinds : MoveKind → Prop} (h : d.MovesBy kinds d')
    (hkinds : ¬ kinds .write) {q : ProgramId} (hq : d.Loaded q) (n : Nat) :
    d'.register? q n = d.register? q n := by
  have hkept : d'.Loaded q ∧ d'.register? q n = d.register? q n :=
    h.preserve (P := fun d' => d'.Loaded q ∧ d'.register? q n = d.register? q n)
      (fun k _ _ hk hmove ⟨hloaded, hsame⟩ => ⟨hmove.loaded hloaded,
        (hmove.register? (fun hwrite => hkinds (hwrite ▸ hk)) hloaded n).trans hsame⟩) ⟨hq, rfl⟩
  exact hkept.2

theorem register?_setConstants (d : GpuDevice) {id : ProgramId} {register : Nat}
    {values : List Float32} (hid : d.Loaded id)
    (hfits : register + (Register.fill values).length ≤ registerLimit) (n : Nat) :
    (d.setConstants id register values).register? id n =
      if register ≤ n ∧ n < register + (Register.fill values).length then
        (Register.fill values)[n - register]?
      else d.register? id n := by
  obtain ⟨p, hp⟩ := Option.isSome_iff_exists.mp hid.2
  simp only [register?, setConstants, Table.get?_modify, if_true, hp, Option.map_some,
    Option.bind_some]
  exact getElem?_writeRegisters hfits p n

theorem register?_setConstants_other (d : GpuDevice) {id q : ProgramId} (register : Nat)
    (values : List Float32) (hq : q ≠ id) (n : Nat) :
    (d.setConstants id register values).register? q n = d.register? q n := by
  simp [register?, setConstants, hq]

theorem get?_bound_bind {d d' : GpuDevice} {stage : Stage} {id : ProgramId}
    (h : d.bind stage id = (.ok (), d')) :
    d'.bound.get? stage = some id ∧
      ∀ other, other ≠ stage → d'.bound.get? other = d.bound.get? other := by
  rcases bind_cases d stage id with ⟨e, heq⟩ | heq <;> rw [heq] at h
  · cases (Prod.mk.inj h).1
  · obtain ⟨_, rfl⟩ := Prod.mk.inj h
    exact ⟨by simp, fun other hother => by simp [hother]⟩

end GpuDevice

namespace Graphics

variable {D : Type} [Device D] [Graphics D] {d d' : D}

/-- A program gets a number that no other has, and is loaded with blank registers. -/
theorem register?_loadProgram {p : Program} {id : ProgramId}
    (h : Device.loadProgram d p = (.ok id, d')) :
    ¬ (gpu d).Loaded id ∧ (gpu d').Loaded id ∧
      ∀ n, (gpu d').register? id n = GpuDevice.blankRegister n := by
  obtain ⟨g, module, hprepares, -, rfl, heq⟩ := loads h
  rw [heq]
  refine ⟨fun hloaded => ?_, ⟨Nat.lt_succ_self _, by simp⟩, fun n => ?_⟩
  · rw [GpuDevice.Loaded, hprepares.backstage.nextId] at hloaded
    exact Nat.lt_irrefl _ hloaded.1
  · simp only [GpuDevice.register?, Table.get?_insert, if_true, Option.map_some,
      Option.bind_some, LoadedProgram.fresh, GpuDevice.blankRegister]
    simp only [Vector.getElem?_replicate, registerLimit]
    rfl

theorem bound_bind {stage : Stage} {id : ProgramId} (h : Device.bind d stage id = (.ok (), d')) :
    (gpu d').bound.get? stage = some id ∧
      ∀ other, other ≠ stage → (gpu d').bound.get? other = (gpu d).bound.get? other := by
  have hbind := binds d stage id
  rw [h] at hbind
  exact GpuDevice.get?_bound_bind hbind.symm

instance : RegisterFile D where
  capacity := registerLimit
  blank := GpuDevice.blankRegister
  read d := (gpu d).register?
  Has d := (gpu d).Loaded
  boundAt d stage := (gpu d).bound.get? stage
  load := register?_loadProgram
  keep := fun d c hc _ hq =>
    ⟨(moves d c).loaded hq, (moves d c).register? (DeviceCall.not_takes_write hc) hq⟩
  has_write := fun d id register values _ hq => by
    rw [writes]
    exact (gpu d).loaded_modify id _ hq
  read_write := fun d _ _ _ hid hfits n => by
    rw [writes]
    exact (gpu d).register?_setConstants hid hfits n
  read_write_other := fun d _ _ register values hq n => by
    rw [writes]
    exact (gpu d).register?_setConstants_other register values hq n
  bind := bound_bind
  boundAt_write := fun d id register values => by
    rw [writes]
    rfl
  boundAt_setSampler := fun d id slot texture => by
    rw [samples]
    rfl
  boundAt_enterEffectState := fun d => by
    have hmoves : (gpu d).Prepares (gpu (Device.enterEffectState d)) :=
      (moves d .enterEffectState).mono fun _ hk => hk.elim id id
    rw [hmoves.backstage.bound]

end Graphics

theorem GpuAct.retains (a : GpuAct) (d : GpuDevice) : d.Retains (a.perform d) :=
  (a.moves d).retains fun _ hk => by rcases hk with rfl | rfl <;> rfl

namespace GpuDevice

/-! ## Programs that are accepted -/

theorem pair_eq_ok {programs : List Program} {vertex fragment : Program}
    (h : pair programs = .ok (vertex, fragment)) :
    vertex.stage = .vertex ∧ fragment.stage = .fragment ∧
      (programs = [vertex, fragment] ∨ programs = [fragment, vertex]) := by
  unfold pair at h
  cases hv : programs.find? (·.stage = .vertex) with
  | none => simp [hv] at h
  | some v =>
    cases hf : programs.find? (·.stage = .fragment) with
    | none => simp [hv, hf] at h
    | some f =>
      simp only [hv, hf] at h
      split_ifs at h with hlength
      simp only [Except.ok.injEq, Prod.mk.injEq] at h
      obtain ⟨rfl, rfl⟩ := h
      have hvstage : v.stage = .vertex := by simpa using List.find?_some hv
      have hfstage : f.stage = .fragment := by simpa using List.find?_some hf
      have hvmem := List.mem_of_find?_eq_some hv
      have hfmem := List.mem_of_find?_eq_some hf
      obtain ⟨a, b, rfl⟩ := List.length_eq_two.mp hlength
      have hne : v ≠ f := by
        rintro rfl
        exact absurd (hvstage.symm.trans hfstage) (by decide)
      refine ⟨hvstage, hfstage, ?_⟩
      simp only [List.mem_cons, List.not_mem_nil, or_false] at hvmem hfmem
      rcases hvmem with rfl | rfl <;> rcases hfmem with rfl | rfl
      · exact absurd rfl hne
      · exact Or.inl rfl
      · exact Or.inr rfl
      · exact absurd rfl hne

theorem registerCount_le_of_checkTable {p : Program} (h : checkTable p = .ok ()) :
    p.constants.registerCount ≤ registerLimit := by
  by_contra hlt
  simp [checkTable, Nat.lt_of_not_le hlt] at h

/-- Two programs that are let through are those of a pass that has no others, and fit. -/
theorem checkPair_eq_ok {programs : List Program} {vertex fragment : Program}
    (h : checkPair programs = .ok (vertex, fragment)) :
    pair programs = .ok (vertex, fragment) ∧ checkTable vertex = .ok () ∧
      checkTable fragment = .ok () := by
  unfold checkPair at h
  cases hpair : pair programs with
  | error fault => simp [hpair] at h
  | ok two =>
    obtain ⟨v, f⟩ := two
    simp only [hpair] at h
    cases hv : checkTable v with
    | error fault => simp [hv] at h
    | ok _ =>
      cases hf : checkTable f with
      | error fault => simp [hv, hf] at h
      | ok _ =>
        simp only [hv, hf, Except.ok.injEq, Prod.mk.injEq] at h
        obtain ⟨rfl, rfl⟩ := h
        exact ⟨rfl, hv, hf⟩

end GpuDevice

namespace Graphics

variable {D : Type} [Device D] [Graphics D] {programs : List Program}

/-- Programs that a device accepts are a vertex and a fragment program that fit it. -/
theorem pair_of_accepted (h : Accepted D programs) :
    ∃ vertex fragment : Program, vertex.stage = .vertex ∧ fragment.stage = .fragment ∧
      (programs = [vertex, fragment] ∨ programs = [fragment, vertex]) ∧
      GpuDevice.checkTable vertex = .ok () ∧ GpuDevice.checkTable fragment = .ok () := by
  obtain ⟨d, d', hvalidate⟩ := h
  obtain ⟨two, hcheck⟩ := validates hvalidate
  obtain ⟨hpair, hv, hf⟩ := GpuDevice.checkPair_eq_ok hcheck
  obtain ⟨hvstage, hfstage, hprograms⟩ := GpuDevice.pair_eq_ok hpair
  exact ⟨two.1, two.2, hvstage, hfstage, hprograms, hv, hf⟩

/-- Programs that a device accepts are one for each of two stages, and their numbers fit its
registers. -/
theorem fits_of_accepted (h : Accepted D programs) :
    (programs.map (·.stage)).Nodup ∧
      ∀ p ∈ programs, p.constants.registerCount ≤ registerLimit := by
  obtain ⟨v, f, hvstage, hfstage, hprograms, hv, hf⟩ := pair_of_accepted h
  have hvfits := GpuDevice.registerCount_le_of_checkTable hv
  have hffits := GpuDevice.registerCount_le_of_checkTable hf
  rcases hprograms with rfl | rfl <;> simp [hvstage, hfstage, hvfits, hffits]

end Graphics

end ShaderEffects
