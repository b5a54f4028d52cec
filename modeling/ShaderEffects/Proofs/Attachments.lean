import Mathlib.Data.Finset.Card
import Mathlib.Logic.Relation
import ShaderEffects.Parameter.Store
import ShaderEffects.Proofs.Tables

/-!
# The graph of live attachments

An edge leads from a virtual parameter to each living parameter that is attached
to it. The search of `Parameters.gather` finds exactly what can be reached over
such edges, so a write changes the parameters that are reached and no other, and
leaves the edges as they are.
-/
namespace ShaderEffects.Parameters

open Relation

/-- What is written to `a` is handed on to `b`. -/
def Edge (ps : Parameters) (a b : ParameterId) : Prop := b ∈ ps.attachments a

/-- `b` is `a`, or live attachments lead from `a` to `b`. -/
def Reaches (ps : Parameters) : ParameterId → ParameterId → Prop := ReflTransGen ps.Edge

/-- No parameter is led back to by its own attachments. -/
def Acyclic (ps : Parameters) : Prop := ∀ a, ¬ TransGen ps.Edge a a

theorem alive_iff (ps : Parameters) (id : ParameterId) :
    ps.alive id = true ↔ ∃ p, ps.get? id = some p :=
  ps.cells.contains_eq_true_iff id

theorem alive_of_get? {ps : Parameters} {id : ParameterId} {p : Parameter}
    (h : ps.get? id = some p) : ps.alive id = true :=
  (ps.alive_iff id).mpr ⟨p, h⟩

theorem mem_ids_iff (ps : Parameters) (id : ParameterId) : id ∈ ps.ids ↔ ps.alive id = true :=
  ps.cells.mem_keys_iff id

theorem edge_iff (ps : Parameters) (a b : ParameterId) :
    ps.Edge a b ↔ ∃ p, ps.get? a = some p ∧ b ∈ p.attached ∧ ps.alive b = true := by
  unfold Edge attachments
  cases h : ps.get? a with
  | none => simp
  | some p => simp

theorem Edge.alive_source {ps : Parameters} {a b : ParameterId} (h : ps.Edge a b) :
    ps.alive a = true := by
  obtain ⟨p, hp, _⟩ := (ps.edge_iff a b).mp h
  exact alive_of_get? hp

theorem Edge.alive_target {ps : Parameters} {a b : ParameterId} (h : ps.Edge a b) :
    ps.alive b = true := by
  obtain ⟨_, _, _, hb⟩ := (ps.edge_iff a b).mp h
  exact hb

/-- Whatever a living parameter reaches is alive. -/
theorem Reaches.alive {ps : Parameters} {a b : ParameterId} (h : ps.Reaches a b)
    (ha : ps.alive a = true) : ps.alive b = true := by
  cases h with
  | refl => exact ha
  | tail _ hbc => exact hbc.alive_target

theorem attachments_eq {ps : Parameters} {id : ParameterId} {p : Parameter}
    (h : ps.get? id = some p) : ps.attachments id = p.attached.filter ps.alive := by
  simp [attachments, h]

theorem attachments_of_not_alive {ps : Parameters} {id : ParameterId} (h : ps.get? id = none) :
    ps.attachments id = [] := by
  simp [attachments, h]

/-! ## The search -/

/-- `b` is led to from a member of `todo` by edges that never leave `unseen`. -/
inductive Leads (ps : Parameters) (unseen todo : List ParameterId) : ParameterId → Prop
  | start {b : ParameterId} : b ∈ todo → b ∈ unseen → Leads ps unseen todo b
  | step {a b : ParameterId} : Leads ps unseen todo a → ps.Edge a b → b ∈ unseen →
      Leads ps unseen todo b

/-- What is found behind a visited parameter was to be found before the visit. -/
theorem Leads.of_visit {ps : Parameters} {unseen rest : List ParameterId} {id b : ParameterId}
    (hid : id ∈ unseen) (h : ps.Leads (unseen.erase id) (ps.attachments id ++ rest) b) :
    ps.Leads unseen (id :: rest) b := by
  induction h with
  | start htodo hunseen =>
    have hunseen' := List.mem_of_mem_erase hunseen
    rcases List.mem_append.mp htodo with hchild | hrest
    · exact .step (.start List.mem_cons_self hid) hchild hunseen'
    · exact .start (List.mem_cons_of_mem _ hrest) hunseen'
  | step _ hedge hunseen ih => exact .step ih hedge (List.mem_of_mem_erase hunseen)

/-- A visit loses nothing but the visited parameter: a path through it is cut
there, and what follows starts from its attachments. -/
theorem Leads.visit {ps : Parameters} {unseen rest : List ParameterId} {id b : ParameterId}
    (h : ps.Leads unseen (id :: rest) b) (hne : b ≠ id) :
    ps.Leads (unseen.erase id) (ps.attachments id ++ rest) b := by
  induction h with
  | start htodo hunseen =>
    have hrest := (List.mem_cons.mp htodo).resolve_left hne
    exact .start (List.mem_append_right _ hrest) ((List.mem_erase_of_ne hne).mpr hunseen)
  | @step a b _ hedge hunseen ih =>
    have hunseen' := (List.mem_erase_of_ne hne).mpr hunseen
    by_cases ha : a = id
    · subst ha
      exact .start (List.mem_append_left _ hedge) hunseen'
    · exact .step (ih ha) hedge hunseen'

/-- A parameter that was seen before leads nowhere. -/
theorem Leads.skip_iff {ps : Parameters} {unseen rest : List ParameterId} {id b : ParameterId}
    (hid : id ∉ unseen) : ps.Leads unseen (id :: rest) b ↔ ps.Leads unseen rest b := by
  constructor
  · intro h
    induction h with
    | start htodo hunseen =>
      rcases List.mem_cons.mp htodo with rfl | hrest
      · exact absurd hunseen hid
      · exact .start hrest hunseen
    | step _ hedge hunseen ih => exact .step ih hedge hunseen
  · intro h
    induction h with
    | start htodo hunseen => exact .start (List.mem_cons_of_mem _ htodo) hunseen
    | step _ hedge hunseen ih => exact .step ih hedge hunseen

theorem mem_gather_iff (ps : Parameters) (unseen todo : List ParameterId) (b : ParameterId) :
    b ∈ ps.gather unseen todo ↔ ps.Leads unseen todo b := by
  induction unseen, todo using gather.induct ps with
  | case1 unseen =>
    rw [gather]
    refine ⟨fun h => absurd h List.not_mem_nil, fun h => ?_⟩
    induction h with
    | start htodo _ => exact absurd htodo List.not_mem_nil
    | step _ _ _ ih => exact absurd ih List.not_mem_nil
  | case2 unseen id rest hid ih =>
    rw [gather, if_pos hid, List.mem_cons, ih]
    constructor
    · rintro (rfl | h)
      · exact .start List.mem_cons_self hid
      · exact h.of_visit hid
    · intro h
      by_cases hb : b = id
      · exact Or.inl hb
      · exact Or.inr (h.visit hb)
  | case3 unseen id rest hid ih => rw [gather, if_neg hid, ih, Leads.skip_iff hid]

/-- The search from a parameter finds what it reaches, if it is alive. -/
theorem mem_downstream_iff (ps : Parameters) (id b : ParameterId) :
    b ∈ ps.downstream id ↔ ps.alive id = true ∧ ps.Reaches id b := by
  rw [downstream, mem_gather_iff]
  constructor
  · intro h
    induction h with
    | start htodo hunseen =>
      obtain rfl := List.mem_singleton.mp htodo
      exact ⟨(ps.mem_ids_iff _).mp hunseen, .refl⟩
    | step _ hedge _ ih => exact ⟨ih.1, ih.2.tail hedge⟩
  · rintro ⟨hid, h⟩
    induction h with
    | refl => exact .start List.mem_cons_self ((ps.mem_ids_iff _).mpr hid)
    | tail _ hedge ih => exact .step ih hedge ((ps.mem_ids_iff _).mpr hedge.alive_target)

/-! ## Writes -/

/-- A parameter after a write that reached it. -/
def received (ps : Parameters) (w : Write) (p : Parameter) : Parameter := ps.pruned (w.apply p)

theorem write_cells (ps : Parameters) (id : ParameterId) (w : Write) :
    (ps.write id w).cells =
      ps.cells.mapValues fun i p => if i ∈ ps.downstream id then ps.received w p else p := by
  simp only [write, Table.mapValues, received]
  congr 1
  refine List.map_congr_left fun e _ => ?_
  by_cases h : e.1 ∈ ps.downstream id <;> simp [h]

theorem get?_write (ps : Parameters) (id : ParameterId) (w : Write) (q : ParameterId) :
    (ps.write id w).get? q =
      (ps.get? q).map fun p => if q ∈ ps.downstream id then ps.received w p else p := by
  simp only [get?, write_cells, Table.get?_mapValues]

theorem get?_write_of_reaches {ps : Parameters} {id q : ParameterId} {p : Parameter} (w : Write)
    (hid : ps.alive id = true) (h : ps.Reaches id q) (hq : ps.get? q = some p) :
    (ps.write id w).get? q = some (ps.received w p) := by
  have hmem := (ps.mem_downstream_iff id q).mpr ⟨hid, h⟩
  simp [get?_write, hq, hmem]

theorem get?_write_of_not_reaches {ps : Parameters} {id q : ParameterId} (w : Write)
    (h : ¬ ps.Reaches id q) : (ps.write id w).get? q = ps.get? q := by
  have hmem : q ∉ ps.downstream id := fun hq => h ((ps.mem_downstream_iff id q).mp hq).2
  simp [get?_write, hmem]

@[simp] theorem alive_write (ps : Parameters) (id : ParameterId) (w : Write) :
    (ps.write id w).alive = ps.alive := by
  funext q
  simp only [alive, Table.contains, write_cells, Table.get?_mapValues, Option.isSome_map]

@[simp] theorem received_attached (ps : Parameters) (w : Write) (p : Parameter) :
    (ps.received w p).attached = p.attached.filter ps.alive := by
  cases w <;> rfl

@[simp] theorem attachments_write (ps : Parameters) (id : ParameterId) (w : Write)
    (a : ParameterId) : (ps.write id w).attachments a = ps.attachments a := by
  simp only [attachments, get?_write, alive_write]
  cases ps.get? a with
  | none => rfl
  | some p =>
    by_cases h : a ∈ ps.downstream id
    · simp [h]
    · simp [h]

/-- A write adds no edge and takes none away. -/
theorem edge_write (ps : Parameters) (id : ParameterId) (w : Write) :
    (ps.write id w).Edge = ps.Edge := by
  funext a b
  simp [Edge]

theorem reaches_write (ps : Parameters) (id : ParameterId) (w : Write) :
    (ps.write id w).Reaches = ps.Reaches := by
  rw [Reaches, Reaches, edge_write]

@[simp] theorem names_write (ps : Parameters) (id : ParameterId) (w : Write) :
    (ps.write id w).names = ps.names := rfl

@[simp] theorem made_write (ps : Parameters) (id : ParameterId) (w : Write) :
    (ps.write id w).made = ps.made := rfl

@[simp] theorem ids_write (ps : Parameters) (id : ParameterId) (w : Write) :
    (ps.write id w).ids = ps.ids := by
  change (ps.write id w).cells.keys = ps.cells.keys
  rw [write_cells, Table.keys_mapValues]

end ShaderEffects.Parameters
