import ShaderEffects.Device.Gpu.Basic
import ShaderEffects.Proofs.HeadlessCalls

/-!
# Devices whose programs have registers

What the two devices have in common where numbers are handed to programs. A program
that was just loaded has blank registers, only a write of numbers changes registers,
and a write that fits changes just those it is meant for.
-/
namespace ShaderEffects

/-- A device that keeps registers for each program. -/
class RegisterFile (D : Type) [Device D] where
  /-- The registers that a write does not miss. -/
  capacity : Nat
  /-- What a register of a new program reads. -/
  blank : Nat → Option Register
  read : D → ProgramId → Nat → Option Register
  /-- Whether the device has a program. -/
  Has : D → ProgramId → Prop
  /-- The program of a stage. -/
  boundAt : D → Stage → Option ProgramId
  load : ∀ {d d' : D} {p : Program} {id : ProgramId}, Device.loadProgram d p = (.ok id, d') →
    ¬ Has d id ∧ Has d' id ∧ ∀ n, read d' id n = blank n
  keep : ∀ (d : D) {c : DeviceCall D}, c.leavesConstants = true → ∀ q, Has d q →
    Has (c.perform d) q ∧ ∀ n, read (c.perform d) q n = read d q n
  has_write : ∀ (d : D) (id : ProgramId) (register : Nat) (values : List Float32) (q : ProgramId),
    Has d q → Has (Device.setConstants d id register values) q
  read_write : ∀ (d : D) {id : ProgramId} {register : Nat} {values : List Float32}, Has d id →
    register + (Register.fill values).length ≤ capacity → ∀ n,
      read (Device.setConstants d id register values) id n =
        if register ≤ n ∧ n < register + (Register.fill values).length then
          (Register.fill values)[n - register]?
        else read d id n
  read_write_other : ∀ (d : D) {id q : ProgramId} (register : Nat) (values : List Float32),
    q ≠ id → ∀ n, read (Device.setConstants d id register values) q n = read d q n
  bind : ∀ {d d' : D} {stage : Stage} {id : ProgramId}, Device.bind d stage id = (.ok (), d') →
    boundAt d' stage = some id ∧ ∀ other, other ≠ stage → boundAt d' other = boundAt d other
  boundAt_write : ∀ (d : D) (id : ProgramId) (register : Nat) (values : List Float32),
    boundAt (Device.setConstants d id register values) = boundAt d
  boundAt_setSampler : ∀ (d : D) (id : ProgramId) (slot : Nat) (texture : TextureId),
    boundAt (Device.setSampler d id slot texture) = boundAt d
  boundAt_enterEffectState : ∀ d : D, boundAt (Device.enterEffectState d) = boundAt d

/-! ## The device without a screen -/

namespace HeadlessDevice

/-- What was written to a register of a program. -/
def register? (d : HeadlessDevice) (id : ProgramId) (n : Nat) : Option Register :=
  (d.programs.get? id).bind fun p => p.constants.get? n

/-- The program was loaded. -/
def Loaded (d : HeadlessDevice) (id : ProgramId) : Prop :=
  id.number < d.nextId ∧ (d.programs.get? id).isSome = true

theorem get?_writeRegisters {rs : List Register} {register : Nat}
    (h : register + rs.length ≤ registerNumbers) (constants : Table Nat Register) (n : Nat) :
    (writeRegisters constants register rs).get? n =
      if register ≤ n ∧ n < register + rs.length then rs[n - register]? else constants.get? n := by
  induction rs generalizing constants register with
  | nil =>
    rw [if_neg (by simp only [List.length_nil]; omega)]
    rfl
  | cons r rest ih =>
    rw [writeRegisters]
    cases rest with
    | nil =>
      simp only [writeRegisters, Table.get?_insert, List.length_singleton]
      by_cases hn : n = register
      · subst hn
        simp
      · rw [if_neg hn, if_neg (by omega)]
    | cons next others =>
      simp only [List.length_cons] at h
      have hnext : (register + 1) % registerNumbers = register + 1 :=
        Nat.mod_eq_of_lt (by omega)
      rw [hnext, ih (by simp only [List.length_cons]; omega)]
      simp only [List.length_cons, Table.get?_insert]
      by_cases hn : n = register
      · subst hn
        rw [if_neg (by omega), if_pos rfl, if_pos (by omega)]
        simp
      · by_cases hin : register + 1 ≤ n ∧ n < register + 1 + (others.length + 1)
        · rw [if_pos hin, if_pos (by omega)]
          obtain ⟨k, rfl⟩ := Nat.exists_eq_add_of_le hin.1
          have hk : register + 1 + k - register = k + 1 := by omega
          have hk' : register + 1 + k - (register + 1) = k := by omega
          rw [hk, hk', List.getElem?_cons_succ]
        · rw [if_neg hin, if_neg hn, if_neg (by omega)]

/-- A call that writes no numbers keeps the registers of the loaded programs. -/
theorem register?_perform (d : HeadlessDevice) {c : DeviceCall HeadlessDevice}
    (hc : c.leavesConstants = true) {q : ProgramId} (hq : d.Loaded q) :
    (c.perform d).Loaded q ∧ ∀ n, (c.perform d).register? q n = d.register? q n := by
  obtain ⟨hlt, hsome⟩ := hq
  have hsame : ∀ d' : HeadlessDevice, d.nextId ≤ d'.nextId → d'.programs = d.programs →
      d'.Loaded q ∧ ∀ n, d'.register? q n = d.register? q n := by
    intro d' hle hprograms
    refine ⟨⟨Nat.lt_of_lt_of_le hlt hle, by rw [hprograms]; exact hsome⟩, fun n => ?_⟩
    rw [register?, hprograms, register?]
  cases hspares : c.sparesPrograms with
  | true =>
    have h := spares_perform d hspares
    exact hsame _ h.nextId_le h.programs
  | false =>
    cases c with
    | setConstants => cases hc
    | validate | createTexture | loadTexture | setTarget | restore | enterEffectState | draw
    | copy => cases hspares
    | unbind stage => exact hsame _ (Nat.le_refl _) rfl
    | bind stage id =>
      rcases bind_cases d stage id with ⟨e, heq⟩ | ⟨label, heq⟩
      · have hperform : (DeviceCall.bind stage id).perform d = d := congrArg Prod.snd heq
        rw [hperform]
        exact hsame d (Nat.le_refl _) rfl
      · simp only [DeviceCall.perform, device_bind, heq]
        exact hsame _ (Nat.le_refl _) rfl
    | loadProgram p =>
      rcases loadProgram_cases d p with ⟨e, heq⟩ | heq
      · have hperform : (DeviceCall.loadProgram p).perform d = d := congrArg Prod.snd heq
        rw [hperform]
        exact hsame d (Nat.le_refl _) rfl
      · have hne : q ≠ ⟨d.nextId⟩ := by
          rintro rfl
          exact Nat.lt_irrefl _ hlt
        simp only [DeviceCall.perform, device_loadProgram, heq]
        refine ⟨⟨Nat.lt_succ_of_lt hlt, ?_⟩, fun n => ?_⟩
        · simpa [hne] using hsome
        · simp [register?, hne]
    | setSampler id slot texture =>
      simp only [DeviceCall.perform, device_setSampler, setSampler]
      refine ⟨⟨hlt, ?_⟩, fun n => ?_⟩
      · simp only [Table.get?_modify]
        split_ifs with hid
        · rw [Option.isSome_map, ← hid]
          exact hsome
        · exact hsome
      · simp only [register?, Table.get?_modify]
        split_ifs with hid
        · rw [← hid]
          cases d.programs.get? q <;> rfl
        · rfl

theorem register?_loadProgram {d d' : HeadlessDevice} {p : Program} {id : ProgramId}
    (h : d.loadProgram p = (.ok id, d')) :
    ¬ d.Loaded id ∧ d'.Loaded id ∧ ∀ n, d'.register? id n = none := by
  rcases loadProgram_cases d p with ⟨e, heq⟩ | heq <;> rw [heq] at h
  · cases (Prod.mk.inj h).1
  · obtain ⟨hid, rfl⟩ := Prod.mk.inj h
    cases hid
    refine ⟨fun hloaded => Nat.lt_irrefl _ hloaded.1, ⟨Nat.lt_succ_self _, ?_⟩, fun n => ?_⟩
    · simp
    · simp [register?]

theorem loaded_setConstants (d : HeadlessDevice) (id : ProgramId) (register : Nat)
    (values : List Float32) {q : ProgramId} (hq : d.Loaded q) :
    (d.setConstants id register values).Loaded q := by
  refine ⟨hq.1, ?_⟩
  simp only [setConstants, Table.get?_modify]
  split_ifs with hid
  · rw [Option.isSome_map, ← hid]
    exact hq.2
  · exact hq.2

theorem register?_setConstants (d : HeadlessDevice) {id : ProgramId} {register : Nat}
    {values : List Float32} (hid : d.Loaded id)
    (hfits : register + (Register.fill values).length ≤ registerNumbers) (n : Nat) :
    (d.setConstants id register values).register? id n =
      if register ≤ n ∧ n < register + (Register.fill values).length then
        (Register.fill values)[n - register]?
      else d.register? id n := by
  obtain ⟨p, hp⟩ := Option.isSome_iff_exists.mp hid.2
  simp only [register?, setConstants, Table.get?_modify, if_true, hp, Option.map_some,
    Option.bind_some]
  exact get?_writeRegisters hfits p.constants n

theorem register?_setConstants_other (d : HeadlessDevice) {id q : ProgramId} (register : Nat)
    (values : List Float32) (hq : q ≠ id) (n : Nat) :
    (d.setConstants id register values).register? q n = d.register? q n := by
  simp [register?, setConstants, hq]

theorem get?_bound_bind {d d' : HeadlessDevice} {stage : Stage} {id : ProgramId}
    (h : d.bind stage id = (.ok (), d')) :
    d'.bound.get? stage = some id ∧
      ∀ other, other ≠ stage → d'.bound.get? other = d.bound.get? other := by
  rcases bind_cases d stage id with ⟨e, heq⟩ | ⟨label, heq⟩ <;> rw [heq] at h
  · cases (Prod.mk.inj h).1
  · obtain ⟨_, rfl⟩ := Prod.mk.inj h
    exact ⟨by simp, fun other hother => by simp [hother]⟩

instance : RegisterFile HeadlessDevice where
  capacity := registerNumbers
  blank _ := none
  read := register?
  Has := Loaded
  boundAt d stage := d.bound.get? stage
  load := register?_loadProgram
  keep := fun d _ hc _ hq => register?_perform d hc hq
  has_write := fun d id register values _ hq => loaded_setConstants d id register values hq
  read_write := fun d _ _ _ hid hfits n => register?_setConstants d hid hfits n
  read_write_other := fun d _ _ register values hq n =>
    register?_setConstants_other d register values hq n
  bind := get?_bound_bind
  boundAt_write := fun _ _ _ _ => rfl
  boundAt_setSampler := fun _ _ _ _ => rfl
  boundAt_enterEffectState := fun _ => rfl

end HeadlessDevice

end ShaderEffects
