import ShaderEffects.Proofs.BindGroups
import ShaderEffects.Proofs.JudgedDevices

/-!
# Uniform buffers

The numbers that are written to a program are kept beside it, and are uploaded by the next draw
if something was written since the last upload. Whatever is done to a device, and wherever a
draw of it is refused, a render pass finds in the buffers of its two programs what was last
written to each of their registers.
-/
namespace ShaderEffects

open Gpu

namespace GpuDevice

variable {g g' : GpuDevice} {kind : MoveKind} {kinds : MoveKind → Prop}

/-! ## What is not dirty is uploaded -/

/-- The buffer of each program that is not dirty has its numbers. -/
def Uploaded (g : GpuDevice) : Prop :=
  ∀ id p, g.programs.get? id = some p → p.dirty = false →
    g.contents? id = some (registerBytes p.registers.toList)

theorem uploaded_ofSize (context : GpuContext) (width height : Nat) :
    (ofSize context width height).Uploaded :=
  fun _ _ h => by simp [ofSize] at h

/-- A program that is not dirty after a write was not written to. -/
theorem writeRegisters_clean {p : LoadedProgram} {register : Nat} {rs : List Register}
    (h : (writeRegisters p register rs).dirty = false) : writeRegisters p register rs = p := by
  induction rs generalizing p register with
  | nil => rfl
  | cons r rest ih =>
    rw [writeRegisters] at h ⊢
    split_ifs at h ⊢
    · rw [dirty_writeRegisters_of_dirty rfl] at h
      cases h
    · exact ih h

theorem Uploaded.upload (h : g.Uploaded) (id : ProgramId) : (g.upload id).Uploaded := by
  intro q p hp hclean
  by_cases hq : q = id
  · subst hq
    cases hold : g.programs.get? q with
    | none => simp [GpuDevice.upload, hold] at hp
    | some old =>
      cases hdirty : old.dirty with
      | true =>
        rw [contents?_upload hold hdirty]
        simp only [GpuDevice.upload, hold, hdirty, if_true, ask, Table.get?_insert,
          Option.some.injEq] at hp
        rw [← hp]
      | false =>
        have hsame : g.upload q = g := by simp [GpuDevice.upload, hold, hdirty]
        rw [hsame] at hp ⊢
        exact h q p hp hclean
  · rw [(upload_other hq).1] at hp
    rw [(upload_other hq).2]
    exact h q p hp hclean

theorem Uploaded.write (h : g.Uploaded) (id : ProgramId) (register : Nat)
    (values : List Float32) : (g.setConstants id register values).Uploaded := by
  intro q p hp hclean
  simp only [setConstants, Table.get?_modify] at hp
  split_ifs at hp with hq
  · obtain ⟨old, hold, rfl⟩ := Option.map_eq_some_iff.mp hp
    have hsame := writeRegisters_clean hclean
    rw [hsame] at hclean ⊢
    exact h q old (hq ▸ hold) hclean
  · exact h q p hp hclean

theorem Uploaded.sample (h : g.Uploaded) (id : ProgramId) (slot : Nat) (texture : TextureId) :
    (g.setSampler id slot texture).Uploaded := by
  intro q p hp hclean
  simp only [setSampler, Table.get?_modify] at hp
  split_ifs at hp with hq
  · obtain ⟨old, hold, rfl⟩ := Option.map_eq_some_iff.mp hp
    exact h q old (hq ▸ hold) hclean
  · exact h q p hp hclean

/-- Every move leaves what is not dirty uploaded. -/
theorem Move.uploaded (hmove : g.Move kind g') (h : g.Uploaded) : g'.Uploaded := by
  have hask : ∀ {request : Request}, request.isUpload = false → (g.ask request).Uploaded := by
    intro request hrequest q p hp hclean
    rw [contents?_ask g hrequest]
    exact h q p hp hclean
  cases hmove with
  | ask hasked => exact hask (Request.isUpload_of_makes (Request.makes_of_askedBy hasked))
  | draw | copy | present => exact hask rfl
  | makeModule | makeLayout | makePipeline | makeBlit | keep | bind | unbind | aim | resize
  | configure | lose => exact h
  | upload id => exact h.upload id
  | write id register values => exact h.write id register values
  | sample id slot texture => exact h.sample id slot texture
  | load p hmodule =>
    intro q loaded hloaded hclean
    simp only [Table.get?_insert] at hloaded
    split_ifs at hloaded
    · cases hloaded
      cases hclean
    · exact h q loaded hloaded hclean

theorem MovesBy.uploaded (hmoves : g.MovesBy kinds g') (h : g.Uploaded) : g'.Uploaded :=
  hmoves.preserve (fun _ _ _ _ hmove hg => hmove.uploaded hg) h

/-! ## What else is known of the programs -/

/-- Moves that neither load a program nor write numbers leave all registers. -/
theorem Move.registers (hmove : g.Move kind g') (hload : kind ≠ .load) (hwrite : kind ≠ .write)
    (id : ProgramId) :
    (g'.programs.get? id).map (·.registers) = (g.programs.get? id).map (·.registers) := by
  cases hmove with
  | load => exact absurd rfl hload
  | write => exact absurd rfl hwrite
  | ask | makeModule | makeLayout | makePipeline | makeBlit | keep | bind | unbind | aim | draw
  | copy | resize | configure | present | lose => rfl
  | upload q => exact (retains_upload g q).registers id
  | sample q slot texture =>
    simp only [setSampler, Table.get?_modify]
    split_ifs with hq
    · rw [hq, Option.map_map]
      rfl
    · rfl

theorem MovesBy.registers (hmoves : g.MovesBy kinds g') (hload : ¬ kinds .load)
    (hwrite : ¬ kinds .write) (id : ProgramId) :
    (g'.programs.get? id).map (·.registers) = (g.programs.get? id).map (·.registers) :=
  hmoves.preserve (P := fun g' =>
      (g'.programs.get? id).map (·.registers) = (g.programs.get? id).map (·.registers))
    (fun _ _ _ hk hmove hsame => (hmove.registers (fun h => hload (h ▸ hk))
      (fun h => hwrite (h ▸ hk)) id).trans hsame) rfl

/-- What is known of a program that no move loaded or wrote to was known before. -/
theorem MovesBy.known (hmoves : g.MovesBy kinds g') (h : g.Consistent) (hload : ¬ kinds .load)
    (hwrite : ¬ kinds .write) {id : ProgramId} {p' : LoadedProgram}
    (hp' : g'.programs.get? id = some p') :
    ∃ p, g.programs.get? id = some p ∧ p'.shape = p.shape ∧ p'.registers = p.registers := by
  have hregisters := hmoves.registers hload hwrite id
  rw [hp'] at hregisters
  obtain ⟨p, hp, hsame⟩ := Option.map_eq_some_iff.mp hregisters.symm
  have hnumber : id.number < g.nextId := h.numbered id p.shape (congrArg _ hp)
  have hshape := hmoves.shapes.2 id hnumber
  rw [shape?, shape?, hp', hp] at hshape
  exact ⟨p, hp, Option.some.inj hshape, hsame.symm⟩

theorem MovesBy.shape?_known (hmoves : g.MovesBy kinds g') (h : g.Consistent)
    (hload : ¬ kinds .load) (hwrite : ¬ kinds .write) {id : ProgramId} {s : ProgramShape}
    (hs : g'.shape? id = some s) : g.shape? id = some s := by
  obtain ⟨p', hp', rfl⟩ := Option.map_eq_some_iff.mp hs
  obtain ⟨p, hp, hshape, -⟩ := hmoves.known h hload hwrite hp'
  rw [shape?, hp, hshape]
  rfl

/-- Moves of a draw or a copy leave the stages, the target and the surfaces. -/
theorem MovesBy.surfaces_same (hmoves : g.MovesBy kinds g')
    (hkinds : ∀ k, kinds k → k = .backstage ∨ k = .draw ∨ k = .copy) :
    g'.bound = g.bound ∧ g'.renderTarget = g.renderTarget ∧
      ∀ surface, g'.image surface = g.image surface := by
  refine hmoves.preserve (P := fun g' => g'.bound = g.bound ∧ g'.renderTarget = g.renderTarget ∧
    ∀ surface, g'.image surface = g.image surface) ?_ ⟨rfl, rfl, fun _ => rfl⟩
  intro k g₁ g₂ hk hmove hsame
  rcases hkinds k hk with rfl | rfl | rfl
  · have hback := hmove.backstage
    exact ⟨hback.bound.trans hsame.1, hback.target.trans hsame.2.1,
      fun surface => (hback.image surface).trans (hsame.2.2 surface)⟩
  · cases hmove <;> exact hsame
  · cases hmove <;> exact hsame

end GpuDevice

/-! ## What was last written to a register -/

/-- What is put into a register of a program. -/
def GpuOp.put? (id : ProgramId) (n : Nat) : GpuOp → Option Register
  | .call (.setConstants q register values) =>
    if q = id ∧ register ≤ n ∧ 4 * (n - register) < values.length then
      some (.ofList (values.drop (4 * (n - register))))
    else none
  | _ => none

/-- What was last put into a register of a program, and zeros if nothing was. -/
def lastPut (since : List GpuOp) (id : ProgramId) (n : Nat) : Register :=
  (since.reverse.findSome? (GpuOp.put? id n)).getD .zero

/-- What was last put into each register of a program. -/
def lastFile (since : List GpuOp) (id : ProgramId) : List Register :=
  (List.range registerLimit).map (lastPut since id)

theorem lastPut_concat (since : List GpuOp) (op : GpuOp) (id : ProgramId) (n : Nat) :
    lastPut (since ++ [op]) id n = (op.put? id n).getD (lastPut since id n) := by
  rw [lastPut, List.reverse_append, List.reverse_singleton, List.singleton_append,
    List.findSome?_cons]
  cases op.put? id n <;> rfl

theorem getElem?_lastFile (since : List GpuOp) (id : ProgramId) {n : Nat}
    (hn : n < registerLimit) : (lastFile since id)[n]? = some (lastPut since id n) := by
  simp [lastFile, hn]

namespace JudgedDevice

variable {w : JudgedDevice}

/-- Registers that are written are those that are put. -/
theorem getElem?_fill_writeRegisters {n : Nat} (hn : n < registerLimit) (id : ProgramId)
    (p : LoadedProgram) (register : Nat) (values : List Float32) :
    (GpuDevice.writeRegisters p register (Register.fill values)).registers[n]? =
      ((GpuOp.call (.setConstants id register values)).put? id n).or p.registers[n]? := by
  have hrow := Register.getElem?_fill values (n - register)
  rw [GpuDevice.getElem?_writeRegisters_of_lt hn, hrow]
  simp only [GpuOp.put?, true_and]
  by_cases hput : register ≤ n ∧ 4 * (n - register) < values.length
  · rw [if_pos hput.2] at hrow
    obtain ⟨hlt, -⟩ := List.getElem?_eq_some_iff.mp hrow
    have hin : register ≤ n ∧ n < register + (Register.fill values).length := by omega
    rw [if_pos hin, if_pos hput.2, if_pos hput, Option.some_or]
  · have hout : ¬ (register ≤ n ∧ n < register + (Register.fill values).length) := by
      rintro ⟨hregister, hlt⟩
      rw [if_neg (fun hlength => hput ⟨hregister, hlength⟩)] at hrow
      have := List.getElem?_eq_none_iff.mp hrow
      omega
    rw [if_neg hout, if_neg hput, Option.none_or]

theorem put?_of_kind {op : GpuOp} (h : op.kind ≠ .write) (id : ProgramId) (n : Nat) :
    op.put? id n = none := by
  cases op with
  | act a => rfl
  | call c => cases c <;> first | rfl | exact absurd rfl h

/-- What is done to a program that is loaded changes the registers that are put, and nothing
that is fixed about the program. -/
theorem programs_perform (h : w.device.Consistent) (op : GpuOp) {id : ProgramId}
    {p' : LoadedProgram} (hp' : (op.perform w).device.programs.get? id = some p') :
    (∃ q, op = .call (.loadProgram q) ∧ (w.loadProgram q).1 = .ok id ∧
        p'.shape.IsOf q ∧ p'.registers = .replicate 64 .zero) ∨
      ∃ p, w.device.programs.get? id = some p ∧ p'.shape = p.shape ∧
        ∀ n < registerLimit, p'.registers[n]? = (op.put? id n).or p.registers[n]? := by
  have hquiet : ∀ {kinds : MoveKind → Prop} {g : GpuDevice} {p' : LoadedProgram},
      op.kind ≠ .write → w.device.MovesBy kinds g → ¬ kinds .load → ¬ kinds .write →
      g.programs.get? id = some p' → ∃ p, w.device.programs.get? id = some p ∧
        p'.shape = p.shape ∧
        ∀ n < registerLimit, p'.registers[n]? = (op.put? id n).or p.registers[n]? := by
    intro kinds g p' hkind hmoves hload hwrite hp'
    obtain ⟨p, hp, hshape, hregisters⟩ := hmoves.known h hload hwrite hp'
    refine ⟨p, hp, hshape, fun n _ => ?_⟩
    rw [put?_of_kind hkind, hregisters, Option.none_or]
  by_cases hload : op.kind = .load
  · obtain ⟨q, rfl⟩ : ∃ q, op = .call (.loadProgram q) := by
      cases op with
      | act a => cases hload
      | call c => cases c <;> first | exact ⟨_, rfl⟩ | cases hload
    rcases loadProgram_spec w q with ⟨e, w', heq, hmoves, -⟩ | ⟨w₁, module, hmoves, hmodule, heq⟩
    · have hperform : (GpuOp.call (.loadProgram q)).perform w = w' := congrArg Prod.snd heq
      rw [hperform] at hp'
      exact Or.inr (hquiet nofun hmoves nofun nofun hp')
    · have hperform := congrArg Prod.snd heq
      rw [show (GpuOp.call (.loadProgram q)).perform w = _ from hperform] at hp'
      simp only [Table.get?_insert] at hp'
      split_ifs at hp' with hid
      · cases hp'
        refine Or.inl ⟨q, rfl, by rw [heq, hid], ⟨rfl, rfl, ?_, ?_⟩, rfl⟩
        · exact (hmoves.consistent h).1.modules q module hmodule
        · simp [LoadedProgram.shape, LoadedProgram.fresh]
      · exact Or.inr (hquiet nofun hmoves nofun nofun hp')
  by_cases hwrite : op.kind = .write
  · obtain ⟨q, register, values, rfl⟩ :
        ∃ q register values, op = .call (.setConstants q register values) := by
      cases op with
      | act a => cases hwrite
      | call c => cases c <;> first | exact ⟨_, _, _, rfl⟩ | cases hwrite
    have hp'' : (w.device.setConstants q register values).programs.get? id = some p' := hp'
    simp only [GpuDevice.setConstants, Table.get?_modify] at hp''
    split_ifs at hp'' with hid
    · subst hid
      obtain ⟨p, hp, rfl⟩ := Option.map_eq_some_iff.mp hp''
      exact Or.inr ⟨p, hp, GpuDevice.shape_writeRegisters p register _, fun n hn =>
        getElem?_fill_writeRegisters hn id p register values⟩
    · refine Or.inr ⟨p', hp'', rfl, fun n _ => ?_⟩
      have hother : ¬ (q = id ∧ register ≤ n ∧ 4 * (n - register) < values.length) :=
        fun hput => hid hput.1.symm
      rw [GpuOp.put?, if_neg hother, Option.none_or]
  · refine Or.inr (hquiet hwrite (op.moves w) ?_ ?_ hp')
    · rintro (hkind | hkind)
      · cases hkind
      · exact hload hkind.symm
    · rintro (hkind | hkind)
      · cases hkind
      · exact hwrite hkind.symm

/-- A number that a load returns was not given before, and is given then. -/
theorem number_loadProgram {p : Program} {id : ProgramId} (h : (w.loadProgram p).1 = .ok id) :
    w.device.nextId ≤ id.number ∧ id.number < (w.loadProgram p).2.device.nextId := by
  rcases loadProgram_spec w p with ⟨e, w', heq, -⟩ | ⟨w₁, module, hmoves, -, heq⟩ <;>
    rw [heq] at h ⊢ <;> cases h
  exact ⟨hmoves.shapes.1, Nat.lt_succ_self _⟩

/-- What is loaded later has another number. -/
theorem number_ne_of_loaded {before between : List GpuOp} {p q : Program} {id : ProgramId}
    (h : ((w.run before).loadProgram p).1 = .ok id) :
    ((w.run (before ++ .call (.loadProgram p) :: between)).loadProgram q).1 ≠ .ok id := by
  intro hagain
  have hlater : ((w.run before).loadProgram p).2.device.nextId ≤
      (w.run (before ++ .call (.loadProgram p) :: between)).device.nextId := by
    rw [run_append]
    exact (run_moves ((w.run before).loadProgram p).2 between).shapes.1
  exact Nat.lt_irrefl _ (Nat.lt_of_lt_of_le (number_loadProgram h).2
    (Nat.le_trans hlater (number_loadProgram hagain).1))

/-- A number stands for one load. -/
theorem LoadedAs.unique {ops since since' : List GpuOp} {id : ProgramId} {p p' : Program}
    (h : w.LoadedAs ops id p since) (h' : w.LoadedAs ops id p' since') :
    p = p' ∧ since = since' := by
  obtain ⟨before, rfl, hid⟩ := h
  obtain ⟨before', heq, hid'⟩ := h'
  rcases List.append_eq_append_iff.mp heq with ⟨c, hbefore, hrest⟩ | ⟨c, hbefore, hrest⟩
  · rcases c with _ | ⟨op, between⟩
    · cases hrest
      exact ⟨rfl, rfl⟩
    · obtain ⟨rfl, -⟩ := List.cons.inj hrest
      exact absurd (hbefore ▸ hid') (number_ne_of_loaded hid)
  · rcases c with _ | ⟨op, between⟩
    · cases hrest
      exact ⟨rfl, rfl⟩
    · obtain ⟨rfl, -⟩ := List.cons.inj hrest
      exact absurd (hbefore ▸ hid) (number_ne_of_loaded hid')

theorem run_consistent {context : GpuContext} {width height : Nat}
    {verdicts : List (Option String)} {ops : List GpuOp}
    (hrun : (ofSize context width height verdicts).run ops = w) :
    w.device.Consistent := by
  subst hrun
  exact ((run_moves _ ops).consistent (GpuDevice.consistent_ofSize context width height)).1

/-- Every program that a device has was loaded, and has what was last put into its registers. -/
theorem run_programs (context : GpuContext) (width height : Nat)
    (verdicts : List (Option String)) (ops : List GpuOp) {id : ProgramId} {p : LoadedProgram}
    (hp : ((ofSize context width height verdicts).run ops).device.programs.get? id = some p) :
    ∃ q since, (ofSize context width height verdicts).LoadedAs ops id q since ∧ p.shape.IsOf q ∧
      p.registers.toList = lastFile since id := by
  induction ops using List.reverseRecOn generalizing id p with
  | nil => simp [run, ofSize, GpuDevice.ofSize] at hp
  | append_singleton ops op ih =>
    rw [run_concat] at hp
    rcases programs_perform (run_consistent rfl) op hp with ⟨q, rfl, hload, hshape, hblank⟩ |
      ⟨old, hold, hshape, hregisters⟩
    · refine ⟨q, [], ⟨ops, rfl, hload⟩, hshape, ?_⟩
      rw [hblank]
      rfl
    · obtain ⟨q, since, hloaded, hisOf, hfile⟩ := ih hold
      refine ⟨q, since ++ [op], hloaded.concat op, hshape ▸ hisOf, List.ext_getElem? fun n => ?_⟩
      by_cases hn : n < registerLimit
      · have hread : old.registers[n]? = some (lastPut since id n) := by
          rw [← getElem?_lastFile since id hn, ← hfile, Vector.getElem?_toList]
        rw [Vector.getElem?_toList, hregisters n hn, hread, getElem?_lastFile _ _ hn,
          lastPut_concat]
        cases op.put? id n <;> rfl
      · rw [List.getElem?_eq_none, List.getElem?_eq_none]
        · simpa [lastFile] using hn
        · simpa [registerLimit] using hn

/-! ## What a render pass finds -/

/-- The numbers of the programs of a device, after a run. -/
structure Current (w₀ : JudgedDevice) (ops : List GpuOp) (w : JudgedDevice) : Prop where
  /-- A number stands for one load. -/
  once : ∀ {id q q' since since'}, w₀.LoadedAs ops id q since → w₀.LoadedAs ops id q' since' →
    q = q' ∧ since = since'
  /-- A program has what was last put into each of its registers since it was loaded. -/
  mirrored : ∀ id p, w.device.programs.get? id = some p →
    ∃ q since, w₀.LoadedAs ops id q since ∧ p.registers.toList = lastFile since id
  /-- The buffer of a program that is not dirty has its registers. -/
  uploaded : ∀ id p, w.device.programs.get? id = some p → p.dirty = false →
    w.device.contents? id = some (registerBytes p.registers.toList)
  /-- Whatever is done next, when a draw is recorded the buffers of both bound programs have
  what was last put into their registers. -/
  drawn : ∀ (op : GpuOp) (asked : List Request) (pass : DrawPass) (later : List Request),
    (op.perform w).device.requests = w.device.requests ++ (asked ++ .draw pass :: later) →
    ∃ vertex fragment, w.device.bound.get? .vertex = some vertex ∧
      w.device.bound.get? .fragment = some fragment ∧
      pass.groups[0]? = some (GpuDevice.bindConstants vertex fragment) ∧
      ∀ id, id = vertex ∨ id = fragment → ∃ q since, w₀.LoadedAs ops id q since ∧
        GpuDevice.contents? { w.device with requests := w.device.requests ++ asked } id =
          some (registerBytes (lastFile since id))

/-- In any run of calls, whichever of them are refused, the numbers of programs are where
draws find them. -/
theorem uniforms_current {context : GpuContext} {width height : Nat}
    {verdicts : List (Option String)} {ops : List GpuOp} {w : JudgedDevice}
    (hrun : (ofSize context width height verdicts).run ops = w) :
    Current (ofSize context width height verdicts) ops w := by
  have hconsistent := run_consistent hrun
  have huploaded : w.device.Uploaded := by
    rw [← hrun]
    exact (run_moves _ ops).uploaded (GpuDevice.uploaded_ofSize context width height)
  have hmirrored : ∀ id p, w.device.programs.get? id = some p →
      ∃ q since, (ofSize context width height verdicts).LoadedAs ops id q since ∧
        p.registers.toList = lastFile since id := by
    intro id p hp
    obtain ⟨q, since, hloaded, -, hfile⟩ := run_programs context width height verdicts ops (hrun ▸ hp)
    exact ⟨q, since, hloaded, hfile⟩
  refine ⟨LoadedAs.unique, hmirrored, huploaded, fun op asked pass later hrequests => ?_⟩
  obtain ⟨g, vertex, fragment, vs, fs, target, hg, hasked, hrecords⟩ := draw_asked hrequests
  obtain ⟨hbound, -⟩ := hg.surfaces_same fun k hk => hk.imp_right Or.inl
  -- The device that records the draw still has the registers that it had before.
  have hfile : ∀ id p, g.programs.get? id = some p → p.dirty = false →
      ∃ q since, (ofSize context width height verdicts).LoadedAs ops id q since ∧
        g.contents? id = some (registerBytes (lastFile since id)) := by
    intro id p hp hclean
    obtain ⟨old, hold, -, hregisters⟩ := hg.known hconsistent (by simp) (by simp) hp
    obtain ⟨q, since, hloaded, hlast⟩ := hmirrored id old hold
    exact ⟨q, since, hloaded, by rw [hg.uploaded huploaded id p hp hclean, hregisters, hlast]⟩
  have hcontents : ∀ id, GpuDevice.contents?
      { w.device with requests := w.device.requests ++ asked } id = g.contents? id := fun id => by
    simp only [GpuDevice.contents?, hasked]
  refine ⟨vertex, fragment, hbound ▸ hrecords.vertexBound, hbound ▸ hrecords.fragmentBound, ?_, ?_⟩
  · obtain ⟨_, _, _, _, hgroups⟩ := hrecords.groups
    rw [hgroups]
    rfl
  · intro id hid
    rw [hcontents]
    rcases hid with rfl | rfl
    · exact hfile id vs hrecords.vertexLoaded hrecords.clean.1
    · exact hfile id fs hrecords.fragmentLoaded hrecords.clean.2

/-- A run with a draw that is refused when the interface looks at the texture of the fragment
program. The numbers of both programs are uploaded by then, and one is written afterwards. -/
def refusedDraw : List GpuOp :=
  [.call (.loadProgram (GpuDevice.shadedProgram .vertex "view")),
    .call (.loadProgram (GpuDevice.shadedProgram .fragment "view tint scene")),
    .call (.bind .vertex ⟨1⟩), .call (.bind .fragment ⟨2⟩),
    .call (.setConstants ⟨2⟩ 0 [1, 0, 0, 1, 2]),
    .call (.draw { vertices := [⟨0, 0, 0, 0, 0, 0⟩] }),
    .call (.setConstants ⟨1⟩ 63 [3, 4, 5, 6, 7])]

/-- The verdicts of the interface: the second texture is refused. -/
def refusedTexture : List (Option String) := [none, none, none, none, some "samplers"]

/-- The draw after the refused one uploads the numbers that were written since, and finds those
of the other program where the refused one left them. -/
theorem uniforms_current_refused :
    ∃ (w : JudgedDevice) (pass : DrawPass) (file : List Register),
      (ofSize .plain 4 4 refusedTexture).run refusedDraw = w ∧
      (((ofSize .plain 4 4 refusedTexture).run (refusedDraw.take 5)).draw
        { vertices := [⟨0, 0, 0, 0, 0, 0⟩] }).1 =
          .error (.invalidCall (.refused "samplers")) ∧
      (w.draw { vertices := [⟨0, 0, 0, 0, 0, 0⟩] }).2.device.requests =
        w.device.requests ++ ([.writeBuffer ⟨1⟩ file] ++ [.draw pass]) ∧
      GpuDevice.contents? { w.device with
          requests := w.device.requests ++ [.writeBuffer ⟨1⟩ file] } ⟨1⟩ =
        some (registerBytes (lastFile (refusedDraw.drop 1) ⟨1⟩)) ∧
      GpuDevice.contents? { w.device with
          requests := w.device.requests ++ [.writeBuffer ⟨1⟩ file] } ⟨2⟩ =
        some (registerBytes (lastFile (refusedDraw.drop 2) ⟨2⟩)) ∧
      lastPut (refusedDraw.drop 2) ⟨2⟩ 1 = .ofList [2] ∧
      lastPut (refusedDraw.drop 1) ⟨1⟩ 63 = .ofList [3, 4, 5, 6] := by
  have hrun : (ofSize .plain 4 4 refusedTexture).run refusedDraw =
      (ofSize .plain 4 4 refusedTexture).run refusedDraw := rfl
  have hcurrent := uniforms_current hrun
  have hrequests : ((GpuOp.call (.draw { vertices := [⟨0, 0, 0, 0, 0, 0⟩] })).perform
      ((ofSize .plain 4 4 refusedTexture).run refusedDraw)).device.requests =
        ((ofSize .plain 4 4 refusedTexture).run refusedDraw).device.requests ++
          ([.writeBuffer ⟨1⟩ _] ++ .draw _ :: []) := rfl
  obtain ⟨vertex, fragment, hvertex, hfragment, -, hbuffers⟩ :=
    hcurrent.drawn _ _ _ _ hrequests
  have hone : (⟨1⟩ : ProgramId) = vertex := Option.some.inj hvertex
  have htwo : (⟨2⟩ : ProgramId) = fragment := Option.some.inj hfragment
  subst hone htwo
  obtain ⟨p, since₁, hloaded₁, hcontents₁⟩ := hbuffers ⟨1⟩ (Or.inl rfl)
  obtain ⟨q, since₂, hloaded₂, hcontents₂⟩ := hbuffers ⟨2⟩ (Or.inr rfl)
  have hfirst : (ofSize .plain 4 4 refusedTexture).LoadedAs refusedDraw ⟨1⟩
      (GpuDevice.shadedProgram .vertex "view") (refusedDraw.drop 1) := ⟨[], rfl, rfl⟩
  have hsecond : (ofSize .plain 4 4 refusedTexture).LoadedAs refusedDraw ⟨2⟩
      (GpuDevice.shadedProgram .fragment "view tint scene") (refusedDraw.drop 2) :=
    ⟨refusedDraw.take 1, rfl, rfl⟩
  obtain ⟨-, rfl⟩ := hcurrent.once hloaded₁ hfirst
  obtain ⟨-, rfl⟩ := hcurrent.once hloaded₂ hsecond
  exact ⟨_, _, _, rfl, rfl, hrequests, hcontents₁, hcontents₂, rfl, rfl⟩

end JudgedDevice

end ShaderEffects
