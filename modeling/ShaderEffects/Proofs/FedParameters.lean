import Mathlib.Data.List.Forall2
import Mathlib.Data.Set.Basic
import ShaderEffects.Proofs.AttachmentRuns

/-!
# Parameters that are fed other numbers

Two runs of one session may be fed other numbers from outside, such as the time. Which
parameters there are, what is attached to what and which textures they hold does not
depend on numbers, so the two rows of parameters differ at most in the numbers of those
that were fed, directly or over attachments.
-/
namespace ShaderEffects

namespace Table

variable {κ α : Type} {R : κ → α → α → Prop} {t u : Table κ α} {k : κ} {v w : α}

/-- Two tables with the same keys in the same order, and related values. -/
def Alike (R : κ → α → α → Prop) (t u : Table κ α) : Prop :=
  List.Forall₂ (fun x y => x.1 = y.1 ∧ R x.1 x.2 y.2) t.entries u.entries

theorem Alike.keys (h : t.Alike R u) : t.keys = u.keys := by
  obtain ⟨l⟩ := t
  obtain ⟨m⟩ := u
  change List.Forall₂ _ l m at h
  induction h with
  | nil => rfl
  | cons hfirst _ ih => exact congrArg₂ List.cons hfirst.1 ih

theorem Alike.map {f g : κ → α → α} {S : κ → α → α → Prop} (h : t.Alike R u)
    (hfg : ∀ k v w, R k v w → S k (f k v) (g k w)) :
    (t.mapValues f).Alike S (u.mapValues g) := by
  obtain ⟨l⟩ := t
  obtain ⟨m⟩ := u
  change List.Forall₂ _ l m at h
  induction h with
  | nil => exact .nil
  | @cons x y _ _ hfirst _ ih =>
    obtain ⟨k, v⟩ := x
    obtain ⟨_, w⟩ := y
    obtain ⟨rfl, hvalues⟩ := hfirst
    exact .cons ⟨rfl, hfg _ _ _ hvalues⟩ ih

variable [DecidableEq κ]

theorem Alike.get? (h : t.Alike R u) (k : κ) :
    (t.get? k = none ∧ u.get? k = none) ∨
      ∃ v w, t.get? k = some v ∧ u.get? k = some w ∧ R k v w := by
  obtain ⟨l⟩ := t
  obtain ⟨m⟩ := u
  change List.Forall₂ _ l m at h
  induction h with
  | nil => exact Or.inl ⟨rfl, rfl⟩
  | @cons x y xs ys hfirst _ ih =>
    obtain ⟨hkey, hvalues⟩ := hfirst
    by_cases hx : x.1 = k
    · subst hx
      exact Or.inr ⟨x.2, y.2, by simp [Table.get?], by simp [Table.get?, hkey], hvalues⟩
    · have hy : ¬ y.1 = k := hkey ▸ hx
      simpa [Table.get?, hx, hy] using ih

theorem Alike.insert (h : t.Alike R u) (hv : R k v w) : (t.insert k v).Alike R (u.insert k w) := by
  obtain ⟨l⟩ := t
  obtain ⟨m⟩ := u
  change List.Forall₂ _ l m at h
  induction h with
  | nil => exact .cons ⟨rfl, hv⟩ .nil
  | @cons x y xs ys hfirst hrest ih =>
    have hkey : x.1 = y.1 := hfirst.1
    simp only [Alike, Table.insert, insertEntry, ← hkey] at ih ⊢
    split_ifs
    · exact .cons ⟨rfl, hv⟩ hrest
    · exact .cons hfirst ih

theorem Alike.erase (h : t.Alike R u) (k : κ) : (t.erase k).Alike R (u.erase k) := by
  obtain ⟨l⟩ := t
  obtain ⟨m⟩ := u
  change List.Forall₂ _ l m at h
  induction h with
  | nil => exact .nil
  | @cons x y xs ys hfirst hrest ih =>
    have hkey : x.1 = y.1 := hfirst.1
    simp only [Alike, Table.erase, List.filter_cons, ← hkey] at ih ⊢
    split_ifs
    · exact .cons hfirst ih
    · exact ih

theorem Alike.modify (h : t.Alike R u) {f : α → α} (hf : ∀ v w, R k v w → R k (f v) (f w)) :
    (t.modify k f).Alike R (u.modify k f) := by
  unfold Table.modify
  rcases h.get? k with ⟨ht, hu⟩ | ⟨v, w, ht, hu, hvw⟩
  · rw [ht, hu]
    exact h
  · rw [ht, hu]
    exact h.insert (hf v w hvw)

end Table

/-- A parameter that may differ in its numbers if it was fed. -/
def Parameter.Alike (fed : Set ParameterId) (id : ParameterId) (p p' : Parameter) : Prop :=
  p' = { p with scalars := p'.scalars } ∧ (id ∉ fed → p'.scalars = p.scalars)

namespace Parameter

variable {fed : Set ParameterId} {id : ParameterId} {p p' : Parameter}

theorem alike_refl (fed : Set ParameterId) (id : ParameterId) (p : Parameter) :
    p.Alike fed id p := ⟨rfl, fun _ => rfl⟩

theorem Alike.name (h : p.Alike fed id p') : p'.name = p.name := by rw [h.1]

theorem Alike.type (h : p.Alike fed id p') : p'.type = p.type := by rw [h.1]

theorem Alike.category (h : p.Alike fed id p') : p'.category = p.category := by
  rw [Parameter.category, h.type, Parameter.category]

theorem Alike.texture (h : p.Alike fed id p') : p'.texture = p.texture := by rw [h.1]

theorem Alike.attached (h : p.Alike fed id p') : p'.attached = p.attached := by rw [h.1]

theorem Alike.owners (h : p.Alike fed id p') : p'.owners = p.owners := by rw [h.1]

theorem Alike.isVirtual (h : p.Alike fed id p') : p'.isVirtual = p.isVirtual := by
  rw [h.1]
  rfl

theorem Alike.written (h : p.Alike fed id p') : p'.written = p.written := by rw [h.1]

end Parameter

namespace Parameters

/-- Two rows of parameters that differ at most in the numbers of those that were fed. -/
structure Alike (fed : Set ParameterId) (ps ps' : Parameters) : Prop where
  cells : ps.cells.Alike (Parameter.Alike fed) ps'.cells
  made : ps'.made = ps.made
  names : ps'.names = ps.names

variable {fed : Set ParameterId} {ps ps' : Parameters}

theorem alike_refl (fed : Set ParameterId) (ps : Parameters) : ps.Alike fed ps :=
  ⟨List.forall₂_same.mpr fun x _ => ⟨rfl, Parameter.alike_refl fed x.1 x.2⟩, rfl, rfl⟩

/-- What was not fed has the same numbers. -/
theorem Alike.get?_eq (h : ps.Alike fed ps') {id : ParameterId} (hid : id ∉ fed) :
    ps'.get? id = ps.get? id := by
  rcases h.cells.get? id with ⟨hp, hp'⟩ | ⟨p, p', hp, hp', halike⟩
  · exact hp'.trans hp.symm
  · rw [get?, hp', get?, hp, halike.1, halike.2 hid]

/-! ## The same attachments -/

theorem Alike.cell (h : ps.Alike fed ps') (id : ParameterId) :
    (ps.get? id = none ∧ ps'.get? id = none) ∨
      ∃ p p', ps.get? id = some p ∧ ps'.get? id = some p' ∧ p.Alike fed id p' := h.cells.get? id

theorem Alike.alive (h : ps.Alike fed ps') : ps'.alive = ps.alive := by
  funext id
  rcases h.cell id with ⟨hp, hp'⟩ | ⟨p, p', hp, hp', _⟩ <;>
    simp only [Parameters.alive, Table.contains] <;> rw [← get?, ← get?, hp, hp']
  rfl

theorem Alike.attachments (h : ps.Alike fed ps') : ps'.attachments = ps.attachments := by
  funext id
  unfold Parameters.attachments
  rcases h.cell id with ⟨hp, hp'⟩ | ⟨p, p', hp, hp', halike⟩
  · rw [hp, hp']
  · rw [hp, hp', h.alive]
    simp only [halike.attached]

theorem Alike.edge (h : ps.Alike fed ps') : ps'.Edge = ps.Edge := by
  funext a b
  unfold Edge
  rw [h.attachments]

theorem Alike.mem_downstream_iff (h : ps.Alike fed ps') (id q : ParameterId) :
    q ∈ ps'.downstream id ↔ q ∈ ps.downstream id := by
  rw [Parameters.mem_downstream_iff, Parameters.mem_downstream_iff, h.alive]
  unfold Reaches
  rw [h.edge]

theorem Alike.find? (h : ps.Alike fed ps') (name : String) (type : ParameterType) :
    ps'.find? name type = ps.find? name type := by
  unfold Parameters.find? named?
  rw [h.names]
  cases ps.names.get? name with
  | none => rfl
  | some id =>
    simp only
    rcases h.cell id with ⟨hp, hp'⟩ | ⟨p, p', hp, hp', halike⟩
    · rw [hp, hp']
    · simp only [hp, hp', Option.map_some, halike.type]

theorem Alike.texture (h : ps.Alike fed ps') (id : ParameterId) :
    (ps'.get? id).bind (·.texture) = (ps.get? id).bind (·.texture) := by
  rcases h.cell id with ⟨hp, hp'⟩ | ⟨p, p', hp, hp', halike⟩
  · rw [hp, hp']
  · simp only [hp, hp', Option.bind_some, halike.texture]

/-! ## Operations -/

/-- What is fed from `a` is fed to all that is attached to it. -/
def Closed (fed : Set ParameterId) (ps : Parameters) : Prop :=
  ∀ a b, a ∈ fed → ps.Edge a b → b ∈ fed

theorem Closed.reaches {a b : ParameterId} (h : ps.Closed fed) (ha : a ∈ fed)
    (hab : ps.Reaches a b) : b ∈ fed := by
  induction hab with
  | refl => exact ha
  | tail _ hedge ih => exact h _ _ ih hedge

/-- Edges that are added may only break what was closed. -/
theorem Closed.of_grown (h : ps'.Closed fed) (hedges : ∀ a b, ps.Edge a b → ps'.Edge a b) :
    ps.Closed fed := fun a b ha hab => h a b ha (hedges a b hab)

theorem Alike.add (h : ps.Alike fed ps') (p : Parameter) :
    (ps.add p).2 = (ps'.add p).2 ∧ (ps.add p).1.Alike fed (ps'.add p).1 := by
  simp only [Parameters.add, h.made, true_and]
  exact ⟨h.cells.insert (Parameter.alike_refl fed _ p), rfl, h.names⟩

theorem Alike.put (h : ps.Alike fed ps') {id : ParameterId} {p p' : Parameter}
    (hp : p.Alike fed id p') : (ps.put id p).Alike fed (ps'.put id p') :=
  ⟨h.cells.insert hp, h.made, h.names⟩

theorem Alike.retain (h : ps.Alike fed ps') (id : ParameterId) :
    (ps.retain id).Alike fed (ps'.retain id) := by
  refine ⟨h.cells.modify fun p p' hp => ?_, h.made, h.names⟩
  refine ⟨?_, hp.2⟩
  rw [hp.owners, hp.1]

theorem Alike.detach (h : ps.Alike fed ps') (target source : ParameterId) :
    (ps.detach target source).Alike fed (ps'.detach target source) := by
  refine ⟨h.cells.modify fun p p' hp => ?_, h.made, h.names⟩
  refine ⟨?_, hp.2⟩
  rw [hp.attached, hp.1]

theorem Alike.release (h : ps.Alike fed ps') (id : ParameterId) :
    (ps.release id).Alike fed (ps'.release id) := by
  unfold Parameters.release
  rcases h.cell id with ⟨hp, hp'⟩ | ⟨p, p', hp, hp', halike⟩
  · rw [hp, hp']
    exact h
  · simp only [hp, hp', halike.owners]
    split_ifs
    · exact ⟨h.cells.erase id, h.made, h.names⟩
    · refine h.put ⟨?_, halike.2⟩
      rw [halike.1]

theorem Alike.releaseAll (h : ps.Alike fed ps') (ids : List ParameterId) :
    (ps.releaseAll ids).Alike fed (ps'.releaseAll ids) := by
  unfold Parameters.releaseAll
  induction ids generalizing ps ps' with
  | nil => exact h
  | cons id ids ih => exact ih (h.release id)

theorem Alike.pruned (h : ps.Alike fed ps') {q : ParameterId} {p p' : Parameter}
    (hp : p.Alike fed q p') : (ps.pruned p).Alike fed q (ps'.pruned p') := by
  refine ⟨?_, hp.2⟩
  simp only [Parameters.pruned, h.alive, hp.attached]
  rw [hp.1]

/-- Other numbers may be written only to what is fed, and so all that receives them. -/
theorem Alike.write (h : ps.Alike fed ps') {id : ParameterId} {w w' : Write}
    (hw : w' = w ∨ (∃ values values', w = .scalars values ∧ w' = .scalars values') ∧
      ps.Closed fed ∧ id ∈ fed) :
    (ps.write id w).Alike fed (ps'.write id w') := by
  refine ⟨?_, h.made, h.names⟩
  rw [write_cells, write_cells]
  refine Table.Alike.map h.cells fun q p p' hp => ?_
  simp only [h.mem_downstream_iff id q]
  split_ifs with hmem
  · refine h.pruned ?_
    rcases hw with rfl | ⟨⟨values, values', rfl, rfl⟩, hclosed, hid⟩
    · cases w' with
      | scalars values => exact ⟨by rw [hp.1]; rfl, fun _ => rfl⟩
      | texture handle => exact ⟨by rw [hp.1]; rfl, hp.2⟩
    · refine ⟨by rw [hp.1]; rfl, fun hq => ?_⟩
      exact absurd (hclosed.reaches hid ((Parameters.mem_downstream_iff ps id q).mp hmem).2) hq
  · exact hp

theorem Alike.write_same (h : ps.Alike fed ps') (id : ParameterId) (w : Write) :
    (ps.write id w).Alike fed (ps'.write id w) := h.write (Or.inl rfl)

theorem Alike.createVirtual (h : ps.Alike fed ps') (name : String) (type : ParameterType) :
    (∃ e, ps.createVirtual name type = .error e ∧ ps'.createVirtual name type = .error e) ∨
      ∃ id qs qs', ps.createVirtual name type = .ok (id, qs) ∧
        ps'.createVirtual name type = .ok (id, qs') ∧ qs.Alike fed qs' := by
  unfold Parameters.createVirtual
  rw [h.names]
  cases ps.names.get? name with
  | some _ => exact Or.inl ⟨_, rfl, rfl⟩
  | none =>
    have hadded := (h.add { name, type, origin := .virtual }).2
    simp only [Parameters.add, h.made] at hadded ⊢
    refine Or.inr ⟨_, _, _, rfl, rfl, hadded.cells, rfl, ?_⟩
    rw [h.names]

/-- What is handed on to a newly attached parameter are other numbers only if it is fed. -/
theorem Alike.writeAll (h : ps.Alike fed ps') {t t' : Parameter} {target source : ParameterId}
    (ht : t.Alike fed target t') (hfed : target ∈ fed → ps.Closed fed ∧ source ∈ fed) :
    (ps.writeAll source (handedOn t)).Alike fed (ps'.writeAll source (handedOn t')) := by
  unfold handedOn
  rw [ht.written, ht.texture]
  split_ifs
  · have hscalars : (ps.write source (.scalars t.scalars)).Alike fed
        (ps'.write source (.scalars t'.scalars)) := by
      refine h.write ?_
      by_cases htarget : target ∈ fed
      · exact Or.inr ⟨⟨_, _, rfl, rfl⟩, hfed htarget⟩
      · rw [ht.2 htarget]
        exact Or.inl rfl
    cases t.texture with
    | none => exact hscalars
    | some handle => exact hscalars.write_same source (.texture (some handle))
  · exact h

/-- Attaching has the same outcome, if all that is fed by then is known to be fed. -/
theorem Alike.attach (h : ps.Alike fed ps') (target source : ParameterId)
    (hclosed : ∀ qs, ps.attach target source = .ok qs → qs.Closed fed) :
    (∃ e, ps.attach target source = .error e ∧ ps'.attach target source = .error e) ∨
      ∃ qs qs', ps.attach target source = .ok qs ∧ ps'.attach target source = .ok qs' ∧
        qs.Alike fed qs' := by
  rcases h.cell target with ⟨ht, ht'⟩ | ⟨t, t', ht, ht', htarget⟩
  · exact Or.inr ⟨ps, ps', attach_of_not_alive (.inl ht), attach_of_not_alive (.inl ht'), h⟩
  rcases h.cell source with ⟨hs, hs'⟩ | ⟨s, s', hs, hs', hsource⟩
  · exact Or.inr ⟨ps, ps', attach_of_not_alive (.inr hs), attach_of_not_alive (.inr hs'), h⟩
  have hpruned : (ps.pruned t).Alike fed target (ps'.pruned t') := h.pruned htarget
  have hextended : (ps.extended t source).Alike fed target (ps'.extended t' source) := by
    refine ⟨?_, hpruned.2⟩
    simp only [extended, hpruned.attached]
    rw [hpruned.1]
  have hattach : ∀ {qs : Parameters} {c d : Parameter}, qs.get? target = some c →
      qs.get? source = some d → qs.attach target source =
        if !c.isVirtual then .error (.notVirtual c.name d.name)
        else if target ∈ qs.downstream source then .error (.attachCycle c.name d.name)
        else if source ∈ (qs.pruned c).attached then .ok (qs.put target (qs.pruned c))
        else .ok ((qs.put target (qs.extended c source)).writeAll source (handedOn c)) := by
    intro qs c d hc hd
    rw [← handedOn_extended qs c source, ← catchUp_eq]
    simp only [Parameters.attach, hc, hd]
    rfl
  rw [hattach ht hs] at hclosed ⊢
  rw [hattach ht' hs', htarget.isVirtual, htarget.name, hsource.name, hpruned.attached]
  simp only [h.mem_downstream_iff source target]
  by_cases hvirtual : (!t.isVirtual) = true
  · exact Or.inl ⟨_, by rw [if_pos hvirtual], by rw [if_pos hvirtual]⟩
  by_cases hcycle : target ∈ ps.downstream source
  · exact Or.inl ⟨_, by rw [if_neg hvirtual, if_pos hcycle], by rw [if_neg hvirtual, if_pos hcycle]⟩
  by_cases hthere : source ∈ (ps.pruned t).attached
  · simp only [if_neg hvirtual, if_neg hcycle, if_pos hthere]
    exact Or.inr ⟨_, _, rfl, rfl, h.put hpruned⟩
  · simp only [if_neg hvirtual, if_neg hcycle, if_neg hthere, Except.ok.injEq,
      forall_eq'] at hclosed ⊢
    refine Or.inr ⟨_, _, rfl, rfl, (h.put hextended).writeAll htarget fun hfed => ?_⟩
    -- the new edge leads to what is fed from then on
    have hedges : (ps.put target (ps.extended t source)).Closed fed := by
      intro a b ha hab
      refine hclosed a b ha ?_
      rwa [edge_writeAll]
    have hnew := (edge_put_extended_iff ht (alive_of_get? hs) target source).mpr (Or.inr ⟨rfl, rfl⟩)
    exact ⟨hedges, hedges target source hfed hnew⟩

/-- Attaching takes no edge away. -/
theorem edge_attach {target source : ParameterId} {qs : Parameters}
    (h : ps.attach target source = .ok qs) {a b : ParameterId} (hab : ps.Edge a b) :
    qs.Edge a b := by
  cases ht : ps.get? target with
  | none =>
    rw [attach_of_not_alive (.inl ht)] at h
    cases h
    exact hab
  | some t =>
    cases hs : ps.get? source with
    | none =>
      rw [attach_of_not_alive (.inr hs)] at h
      cases h
      exact hab
    | some s =>
      rcases attach_cases ht hs with ⟨_, ha⟩ | ⟨_, _, ha⟩ | ⟨_, _, _, ha⟩ | ⟨_, _, _, ha⟩ <;>
        rw [ha] at h <;> cases h
      · rwa [edge_put_pruned ht]
      · rw [edge_writeAll]
        exact (edge_put_extended_iff ht (alive_of_get? hs) a b).mpr (Or.inl hab)

end Parameters

end ShaderEffects
