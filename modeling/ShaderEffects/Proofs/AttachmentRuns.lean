import ShaderEffects.Proofs.Attachments

/-!
# Runs of parameter operations

Parameters are declared, created, held, dropped, attached, detached and written
in any order. What every such run keeps is that the live attachments form a
graph without cycles and without double edges, whose edges start at virtual
parameters. Every operation but `attach` only takes edges away; `attach` adds
one edge, and refuses the edge that would close a cycle.
-/
namespace ShaderEffects

/-- What hosts and effects do to parameters. -/
inductive ParameterOp where
  /-- An effect of a name declares a parameter. -/
  | declare (name : String) (type : ParameterType) (effect : String)
  | createVirtual (name : String) (type : ParameterType)
  | removeVirtual (name : String)
  /-- One more owner. -/
  | hold (id : ParameterId)
  /-- One owner less. -/
  | drop (id : ParameterId)
  | attach (target source : ParameterId)
  | detach (target source : ParameterId)
  | setScalars (id : ParameterId) (values : List Float32)
  | setTexture (id : ParameterId) (texture : Option (Handle Texture))

namespace Parameters

open Relation

/-- The parameters after an operation. One that fails changes nothing. -/
def perform (ps : Parameters) : ParameterOp → Parameters
  | .declare name type effect => (ps.add { name, type, origin := .effect effect }).1
  | .createVirtual name type =>
    match ps.createVirtual name type with
    | .ok (_, ps) => ps
    | .error _ => ps
  | .removeVirtual name => ps.removeVirtual name
  | .hold id => ps.retain id
  | .drop id => ps.release id
  | .attach target source =>
    match ps.attach target source with
    | .ok ps => ps
    | .error _ => ps
  | .detach target source => ps.detach target source
  | .setScalars id values => ps.setScalars id values
  | .setTexture id texture => ps.setTexture id texture

/-- The parameters after a row of operations. -/
def run (ps : Parameters) (ops : List ParameterOp) : Parameters := ops.foldl perform ps

theorem run_append (ps : Parameters) (ops later : List ParameterOp) :
    ps.run (ops ++ later) = (ps.run ops).run later :=
  List.foldl_append

theorem run_snoc (ps : Parameters) (ops : List ParameterOp) (op : ParameterOp) :
    ps.run (ops ++ [op]) = (ps.run ops).perform op := by
  rw [run_append]
  rfl

/-- What holds of the parameters of a session at any time. -/
structure WellAttached (ps : Parameters) : Prop where
  keys_nodup : ps.cells.keys.Nodup
  number_lt : ∀ q p, ps.get? q = some p → q.number < ps.made
  /-- Also a parameter that is gone was made once, so its number is not given again. -/
  attached_lt : ∀ q p, ps.get? q = some p → ∀ b ∈ p.attached, b.number < ps.made
  attached_nodup : ∀ q p, ps.get? q = some p → p.attached.Nodup
  target_virtual : ∀ q p, ps.get? q = some p → p.attached ≠ [] → p.isVirtual = true
  acyclic : ps.Acyclic

theorem wellAttached_empty : WellAttached {} where
  keys_nodup := List.nodup_nil
  number_lt := by intro q p h; cases h
  attached_lt := by intro q p h; cases h
  attached_nodup := by intro q p h; cases h
  target_virtual := by intro q p h; cases h
  acyclic := by
    intro a h
    obtain ⟨b, hab, _⟩ := TransGen.head'_iff.mp h
    obtain ⟨p, hp, _⟩ := (edge_iff _ _ _).mp hab
    cases hp

/-! ## Operations that add no edge -/

/-- Every parameter of `ps'` is one of `ps` with perhaps fewer attachments, or is
new and has none. -/
structure Shrinks (ps ps' : Parameters) : Prop where
  made_le : ps.made ≤ ps'.made
  keys_nodup : ps.cells.keys.Nodup → ps'.cells.keys.Nodup
  cell : ∀ q p', ps'.get? q = some p' →
    (∃ p, ps.get? q = some p ∧ p'.attached.Sublist p.attached ∧ p'.origin = p.origin) ∨
      (ps.made ≤ q.number ∧ q.number < ps'.made ∧ p'.attached = [])

theorem Shrinks.edge {ps ps' : Parameters} (hs : ps.Shrinks ps') (h : ps.WellAttached)
    {a b : ParameterId} (hab : ps'.Edge a b) : ps.Edge a b := by
  obtain ⟨p', hp', hb, halive⟩ := (edge_iff _ _ _).mp hab
  rcases hs.cell a p' hp' with ⟨p, hp, hsub, _⟩ | ⟨_, _, hnone⟩
  · have hbp : b ∈ p.attached := hsub.mem hb
    obtain ⟨c', hc'⟩ := (alive_iff _ _).mp halive
    rcases hs.cell b c' hc' with ⟨c, hc, _⟩ | ⟨hnew, _, _⟩
    · exact (edge_iff _ _ _).mpr ⟨p, hp, hbp, alive_of_get? hc⟩
    · have hlt := h.attached_lt a p hp b hbp
      omega
  · rw [hnone] at hb
    exact absurd hb List.not_mem_nil

theorem WellAttached.shrinks {ps ps' : Parameters} (h : ps.WellAttached) (hs : ps.Shrinks ps') :
    ps'.WellAttached where
  keys_nodup := hs.keys_nodup h.keys_nodup
  number_lt := by
    intro q p' hp'
    have hmade := hs.made_le
    rcases hs.cell q p' hp' with ⟨p, hp, _⟩ | ⟨_, hlt, _⟩
    · have hlt := h.number_lt q p hp
      omega
    · exact hlt
  attached_lt := by
    intro q p' hp' b hb
    have hmade := hs.made_le
    rcases hs.cell q p' hp' with ⟨p, hp, hsub, _⟩ | ⟨_, _, hnone⟩
    · have hlt := h.attached_lt q p hp b (hsub.mem hb)
      omega
    · rw [hnone] at hb
      exact absurd hb List.not_mem_nil
  attached_nodup := by
    intro q p' hp'
    rcases hs.cell q p' hp' with ⟨p, hp, hsub, _⟩ | ⟨_, _, hnone⟩
    · exact (h.attached_nodup q p hp).sublist hsub
    · rw [hnone]
      exact List.nodup_nil
  target_virtual := by
    intro q p' hp' hne
    rcases hs.cell q p' hp' with ⟨p, hp, hsub, horigin⟩ | ⟨_, _, hnone⟩
    · have hp_ne : p.attached ≠ [] := by
        intro hnil
        rw [hnil] at hsub
        exact hne (List.sublist_nil.mp hsub)
      have hv := h.target_virtual q p hp hp_ne
      simpa [Parameter.isVirtual, horigin] using hv
    · exact absurd hnone hne
  acyclic := fun a ha => h.acyclic a (ha.lift id fun _ _ => hs.edge h)

theorem Shrinks.refl (ps : Parameters) : ps.Shrinks ps where
  made_le := Nat.le_refl _
  keys_nodup := id
  cell := fun _ p' hp' => Or.inl ⟨p', hp', List.Sublist.refl _, rfl⟩

/-- The parameters with one of them changed. -/
def put (ps : Parameters) (id : ParameterId) (p : Parameter) : Parameters :=
  { ps with cells := ps.cells.insert id p }

theorem get?_put (ps : Parameters) (id : ParameterId) (p : Parameter) (q : ParameterId) :
    (ps.put id p).get? q = if q = id then some p else ps.get? q := by
  simp [put, get?]

theorem alive_put {ps : Parameters} {id : ParameterId} {p : Parameter}
    (hp : ps.get? id = some p) (p' : Parameter) : (ps.put id p').alive = ps.alive := by
  funext q
  refine Bool.eq_iff_iff.mpr ?_
  rw [alive_iff, alive_iff, get?_put]
  split_ifs with hq
  · subst hq
    simp [hp]
  · exact Iff.rfl

theorem edge_put_iff {ps : Parameters} {id : ParameterId} {p : Parameter}
    (hp : ps.get? id = some p) (p' : Parameter) (a b : ParameterId) :
    (ps.put id p').Edge a b ↔
      if a = id then b ∈ p'.attached ∧ ps.alive b = true else ps.Edge a b := by
  rw [edge_iff, edge_iff, alive_put hp, get?_put]
  split_ifs with ha
  · simp
  · exact Iff.rfl

/-- Changing one parameter is no gain if the parameter keeps its origin and gets no
attachment. -/
theorem shrinks_insert {ps : Parameters} {id : ParameterId} {p p' : Parameter}
    (hp : ps.get? id = some p) (hsub : p'.attached.Sublist p.attached)
    (horigin : p'.origin = p.origin) :
    ps.Shrinks (ps.put id p') where
  made_le := Nat.le_refl _
  keys_nodup := fun h => Table.nodup_keys_insert h _ _
  cell := by
    intro q c hc
    rw [get?_put] at hc
    split_ifs at hc with hq
    · cases hc
      subst hq
      exact Or.inl ⟨p, hp, hsub, horigin⟩
    · exact Or.inl ⟨c, hc, List.Sublist.refl _, rfl⟩

theorem shrinks_modify (ps : Parameters) (id : ParameterId) (f : Parameter → Parameter)
    (hsub : ∀ p, (f p).attached.Sublist p.attached) (horigin : ∀ p, (f p).origin = p.origin) :
    ps.Shrinks { ps with cells := ps.cells.modify id f } := by
  unfold Table.modify
  cases hp : ps.cells.get? id with
  | none => exact .refl ps
  | some p => exact shrinks_insert hp (hsub p) (horigin p)

theorem shrinks_erase (ps : Parameters) (id : ParameterId) :
    ps.Shrinks { ps with cells := ps.cells.erase id } where
  made_le := Nat.le_refl _
  keys_nodup := fun h => Table.nodup_keys_erase h _
  cell := by
    intro q c hc
    simp only [get?, Table.get?_erase] at hc
    split_ifs at hc
    exact Or.inl ⟨c, hc, List.Sublist.refl _, rfl⟩

theorem get?_add (ps : Parameters) (p : Parameter) (q : ParameterId) :
    (ps.add p).1.get? q = if q = ⟨ps.made⟩ then some p else ps.get? q := by
  simp [add, get?]

theorem shrinks_add (ps : Parameters) {p : Parameter} (hp : p.attached = []) :
    ps.Shrinks (ps.add p).1 where
  made_le := Nat.le_succ _
  keys_nodup := fun h => Table.nodup_keys_insert h _ _
  cell := by
    intro q c hc
    rw [get?_add] at hc
    split_ifs at hc with hq
    · cases hc
      subst hq
      exact Or.inr ⟨Nat.le_refl _, Nat.lt_succ_self _, hp⟩
    · exact Or.inl ⟨c, hc, List.Sublist.refl _, rfl⟩

theorem shrinks_release (ps : Parameters) (id : ParameterId) : ps.Shrinks (ps.release id) := by
  unfold release
  cases hp : ps.get? id with
  | none => exact .refl ps
  | some p =>
    simp only
    split_ifs
    · exact shrinks_erase ps id
    · exact shrinks_insert hp (List.Sublist.refl _) rfl

theorem received_origin (ps : Parameters) (w : Write) (p : Parameter) :
    (ps.received w p).origin = p.origin := by
  cases w <;> rfl

theorem shrinks_write (ps : Parameters) (id : ParameterId) (w : Write) :
    ps.Shrinks (ps.write id w) where
  made_le := Nat.le_refl _
  keys_nodup := fun h => by rwa [write_cells, Table.keys_mapValues]
  cell := by
    intro q p' hp'
    rw [get?_write] at hp'
    obtain ⟨p, hp, rfl⟩ := Option.map_eq_some_iff.mp hp'
    refine Or.inl ⟨p, hp, ?_, ?_⟩
    · split_ifs
      · rw [received_attached]
        exact List.filter_sublist
      · exact List.Sublist.refl _
    · split_ifs
      · exact received_origin ps w p
      · rfl

/-! ## Attaching -/

/-- A path over a relation with one more edge either does without the edge, or
leads to its start and goes on from its end. -/
theorem transGen_of_insert {α : Type} {r : α → α → Prop} {s t a b : α}
    (h : TransGen (fun x y => r x y ∨ (x = s ∧ y = t)) a b) :
    TransGen r a b ∨ (ReflTransGen r a s ∧ ReflTransGen r t b) := by
  induction h with
  | single hab =>
    rcases hab with hab | ⟨rfl, rfl⟩
    · exact Or.inl (.single hab)
    · exact Or.inr ⟨.refl, .refl⟩
  | tail _ hbc ih =>
    rcases hbc with hbc | ⟨rfl, rfl⟩
    · rcases ih with hab | ⟨has, htb⟩
      · exact Or.inl (hab.tail hbc)
      · exact Or.inr ⟨has, htb.tail hbc⟩
    · rcases ih with hab | ⟨has, _⟩
      · exact Or.inr ⟨hab.to_reflTransGen, .refl⟩
      · exact Or.inr ⟨has, .refl⟩

/-- A parameter that hands on to one more. -/
def extended (ps : Parameters) (t : Parameter) (source : ParameterId) : Parameter :=
  { ps.pruned t with attached := (ps.pruned t).attached ++ [source] }

/-- What a parameter hands on to one that is newly attached to it. -/
def handedOn (t : Parameter) : List Write :=
  if t.written then
    .scalars t.scalars :: t.texture.toList.map fun handle => .texture (some handle)
  else []

/-- The parameters after several writes to one of them. -/
def writeAll (ps : Parameters) (id : ParameterId) (ws : List Write) : Parameters :=
  ws.foldl (fun ps w => ps.write id w) ps

theorem catchUp_eq (ps : Parameters) (t : Parameter) (source : ParameterId) :
    catchUp ps t source = ps.writeAll source (handedOn t) := by
  unfold catchUp handedOn writeAll
  split_ifs
  · cases t.texture <;> rfl
  · rfl

theorem handedOn_extended (ps : Parameters) (t : Parameter) (source : ParameterId) :
    handedOn (ps.extended t source) = handedOn t := rfl

/-- What attaching comes to, in the order in which the conditions are tested. -/
theorem attach_cases {ps : Parameters} {target source : ParameterId} {t s : Parameter}
    (ht : ps.get? target = some t) (hs : ps.get? source = some s) :
    (t.isVirtual = false ∧ ps.attach target source = .error (.notVirtual t.name s.name)) ∨
    (t.isVirtual = true ∧ ps.Reaches source target ∧
      ps.attach target source = .error (.attachCycle t.name s.name)) ∨
    (t.isVirtual = true ∧ ¬ ps.Reaches source target ∧ ps.Edge target source ∧
      ps.attach target source = .ok (ps.put target (ps.pruned t))) ∨
    (t.isVirtual = true ∧ ¬ ps.Reaches source target ∧ ¬ ps.Edge target source ∧
      ps.attach target source =
        .ok ((ps.put target (ps.extended t source)).writeAll source (handedOn t))) := by
  have hreach : target ∈ ps.downstream source ↔ ps.Reaches source target := by
    rw [mem_downstream_iff]
    exact and_iff_right (alive_of_get? hs)
  have hedge : source ∈ (ps.pruned t).attached ↔ ps.Edge target source := by
    rw [Edge, attachments_eq ht]
    rfl
  simp only [attach, ht, hs]
  cases hv : t.isVirtual with
  | false => exact Or.inl ⟨rfl, rfl⟩
  | true =>
    refine Or.inr ?_
    by_cases hr : ps.Reaches source target
    · exact Or.inl ⟨rfl, hr, by simp [hreach.mpr hr]⟩
    · have hr' := hreach.not.mpr hr
      refine Or.inr ?_
      by_cases he : ps.Edge target source
      · have he' := hedge.mpr he
        exact Or.inl ⟨rfl, hr, he, by simp [hr', he', put]⟩
      · have he' := hedge.not.mpr he
        refine Or.inr ⟨rfl, hr, he, ?_⟩
        rw [← handedOn_extended ps t source, ← catchUp_eq]
        simp [hr', he', put, extended]

theorem attach_of_not_alive {ps : Parameters} {target source : ParameterId}
    (h : ps.get? target = none ∨ ps.get? source = none) : ps.attach target source = .ok ps := by
  unfold attach
  rcases h with h | h
  · simp [h]
  · cases ht : ps.get? target <;> simp [h]

/-- Forgetting the gone changes no edge. -/
theorem edge_put_pruned {ps : Parameters} {target : ParameterId} {t : Parameter}
    (ht : ps.get? target = some t) : (ps.put target (ps.pruned t)).Edge = ps.Edge := by
  funext a b
  refine propext ?_
  rw [edge_put_iff ht]
  split_ifs with ha
  · subst ha
    rw [edge_iff]
    simp [ht, pruned]
  · exact Iff.rfl

theorem edge_put_extended_iff {ps : Parameters} {target source : ParameterId} {t : Parameter}
    (ht : ps.get? target = some t) (hs : ps.alive source = true) (a b : ParameterId) :
    (ps.put target (ps.extended t source)).Edge a b ↔
      ps.Edge a b ∨ (a = target ∧ b = source) := by
  rw [edge_put_iff ht]
  split_ifs with ha
  · subst ha
    rw [edge_iff]
    simp only [extended, pruned, List.mem_append, List.mem_filter, List.mem_singleton, true_and]
    constructor
    · rintro ⟨⟨hb, halive⟩ | rfl, _⟩
      · exact Or.inl ⟨t, ht, hb, halive⟩
      · exact Or.inr rfl
    · rintro (⟨p, hp, hb, halive⟩ | rfl)
      · rw [ht] at hp
        cases hp
        exact ⟨Or.inl ⟨hb, halive⟩, halive⟩
      · exact ⟨Or.inr rfl, hs⟩
  · simp [ha]

/-- An edge that closes no cycle keeps the graph as it should be. -/
theorem WellAttached.put_extended {ps : Parameters} (h : ps.WellAttached)
    {target source : ParameterId} {t s : Parameter} (ht : ps.get? target = some t)
    (hs : ps.get? source = some s) (hv : t.isVirtual = true)
    (hr : ¬ ps.Reaches source target) (he : ¬ ps.Edge target source) :
    (ps.put target (ps.extended t source)).WellAttached where
  keys_nodup := Table.nodup_keys_insert h.keys_nodup _ _
  number_lt := by
    intro q p hp
    rw [get?_put] at hp
    split_ifs at hp with hq
    · subst hq
      exact h.number_lt q t ht
    · exact h.number_lt q p hp
  attached_lt := by
    intro q p hp b hb
    rw [get?_put] at hp
    split_ifs at hp with hq
    · cases hp
      subst hq
      simp only [extended, pruned, List.mem_append, List.mem_filter, List.mem_singleton] at hb
      rcases hb with ⟨hb, _⟩ | rfl
      · exact h.attached_lt q t ht b hb
      · exact h.number_lt b s hs
    · exact h.attached_lt q p hp b hb
  attached_nodup := by
    intro q p hp
    rw [get?_put] at hp
    split_ifs at hp with hq
    · cases hp
      have hnot : source ∉ t.attached.filter ps.alive := by
        rw [← attachments_eq ht]
        exact he
      refine List.Nodup.append ((h.attached_nodup target t ht).filter _) (List.nodup_singleton _) ?_
      simpa [pruned] using hnot
    · exact h.attached_nodup q p hp
  target_virtual := by
    intro q p hp hne
    rw [get?_put] at hp
    split_ifs at hp with hq
    · cases hp
      exact hv
    · exact h.target_virtual q p hp hne
  acyclic := by
    intro a ha
    have hedges : (ps.put target (ps.extended t source)).Edge =
        fun x y => ps.Edge x y ∨ (x = target ∧ y = source) := by
      funext x y
      exact propext (edge_put_extended_iff ht (alive_of_get? hs) x y)
    rw [hedges] at ha
    rcases transGen_of_insert ha with hcycle | ⟨hto, hfrom⟩
    · exact h.acyclic a hcycle
    · exact hr (hfrom.trans hto)

theorem WellAttached.writeAll {ps : Parameters} (h : ps.WellAttached) (id : ParameterId)
    (ws : List Write) : (ps.writeAll id ws).WellAttached := by
  induction ws generalizing ps with
  | nil => exact h
  | cons w ws ih => exact ih (h.shrinks (shrinks_write ps id w))

theorem edge_writeAll (ps : Parameters) (id : ParameterId) (ws : List Write) :
    (ps.writeAll id ws).Edge = ps.Edge := by
  induction ws generalizing ps with
  | nil => rfl
  | cons w ws ih => exact (ih (ps.write id w)).trans (edge_write ps id w)

theorem WellAttached.attach {ps ps' : Parameters} (h : ps.WellAttached)
    {target source : ParameterId} (ha : ps.attach target source = .ok ps') :
    ps'.WellAttached := by
  cases ht : ps.get? target with
  | none =>
    rw [attach_of_not_alive (Or.inl ht)] at ha
    cases ha
    exact h
  | some t =>
    cases hs : ps.get? source with
    | none =>
      rw [attach_of_not_alive (Or.inr hs)] at ha
      cases ha
      exact h
    | some s =>
      rcases attach_cases ht hs with ⟨_, he⟩ | ⟨_, _, he⟩ | ⟨_, _, _, he⟩ | ⟨hv, hr, hne, he⟩
      · rw [he] at ha
        cases ha
      · rw [he] at ha
        cases ha
      · rw [he] at ha
        cases ha
        exact h.shrinks (shrinks_insert ht List.filter_sublist rfl)
      · rw [he] at ha
        cases ha
        exact (h.put_extended ht hs hv hr hne).writeAll source _

/-! ## Runs -/

/-- No operation but `attach` adds an edge. -/
theorem shrinks_perform (ps : Parameters) {op : ParameterOp}
    (hop : ∀ target source, op ≠ .attach target source) : ps.Shrinks (ps.perform op) := by
  cases op with
  | declare name type effect => exact shrinks_add ps rfl
  | createVirtual name type =>
    simp only [perform, createVirtual]
    cases ps.names.get? name with
    | some _ => exact .refl ps
    | none =>
      have hadd := shrinks_add ps (p := { name, type, origin := .virtual }) rfl
      exact ⟨hadd.made_le, hadd.keys_nodup, hadd.cell⟩
  | removeVirtual name =>
    simp only [perform, removeVirtual]
    cases ps.named? name with
    | none => exact .refl ps
    | some id =>
      have hrel := shrinks_release { ps with names := ps.names.erase name } id
      exact ⟨hrel.made_le, hrel.keys_nodup, hrel.cell⟩
  | hold id => exact shrinks_modify ps id _ (fun _ => List.Sublist.refl _) fun _ => rfl
  | drop id => exact shrinks_release ps id
  | attach target source => exact absurd rfl (hop target source)
  | detach target source => exact shrinks_modify ps target _ (fun _ => List.filter_sublist) fun _ => rfl
  | setScalars id values => exact shrinks_write ps id _
  | setTexture id texture => exact shrinks_write ps id _

theorem WellAttached.perform {ps : Parameters} (h : ps.WellAttached) (op : ParameterOp) :
    (ps.perform op).WellAttached := by
  by_cases hop : ∃ target source, op = .attach target source
  · obtain ⟨target, source, rfl⟩ := hop
    simp only [Parameters.perform]
    cases ha : ps.attach target source with
    | error e => exact h
    | ok ps' => exact h.attach ha
  · exact h.shrinks (shrinks_perform ps fun target source he => hop ⟨target, source, he⟩)

theorem WellAttached.run {ps : Parameters} (h : ps.WellAttached) (ops : List ParameterOp) :
    (ps.run ops).WellAttached := by
  induction ops generalizing ps with
  | nil => exact h
  | cons op ops ih => exact ih (h.perform op)

/-- Whatever is done to parameters, starting from none. -/
theorem wellAttached_run (ops : List ParameterOp) : WellAttached (({} : Parameters).run ops) :=
  wellAttached_empty.run ops

end Parameters

end ShaderEffects
