import ShaderEffects.Effect.Compile
import ShaderEffects.Proofs.AttachmentRuns

/-!
# Parameters and their owners

Writing and attaching change what parameters hold, but neither their names and types
nor how many owners they have; only giving up an owner takes a parameter away. The
parameters of a new effect are new ones with one owner each.
-/
namespace ShaderEffects

namespace Parameters

/-- The numbers of the parameters were given before. -/
def Numbered (ps : Parameters) : Prop := ∀ q p, ps.get? q = some p → q.number < ps.made

theorem numbered_empty : Numbered {} := by
  intro q p h
  cases h

/-- Every parameter is still the same but for what it holds and what is attached to it,
and others are new. -/
structure Stays (ps ps' : Parameters) : Prop where
  made_le : ps.made ≤ ps'.made
  kept : ∀ q p, ps.get? q = some p → ∃ p', ps'.get? q = some p' ∧ p'.name = p.name ∧
    p'.type = p.type ∧ p'.owners = p.owners
  others : ∀ q p', ps'.get? q = some p' → ps.alive q = true ∨ q.number < ps'.made

theorem Stays.refl (ps : Parameters) : ps.Stays ps where
  made_le := Nat.le_refl _
  kept := fun _ p hp => ⟨p, hp, rfl, rfl, rfl⟩
  others := fun _ _ hp => Or.inl (alive_of_get? hp)

theorem Stays.numbered {ps ps' : Parameters} (h : ps.Stays ps') (hn : ps.Numbered) :
    ps'.Numbered := by
  intro q p' hp'
  rcases h.others q p' hp' with halive | hlt
  · obtain ⟨p, hp⟩ := (alive_iff ps q).mp halive
    exact Nat.lt_of_lt_of_le (hn q p hp) h.made_le
  · exact hlt

theorem Stays.trans {ps₁ ps₂ ps₃ : Parameters} (h₁ : ps₁.Stays ps₂) (h₂ : ps₂.Stays ps₃) :
    ps₁.Stays ps₃ where
  made_le := Nat.le_trans h₁.made_le h₂.made_le
  kept := by
    intro q p hp
    obtain ⟨p₂, hp₂, hname₂, htype₂, howners₂⟩ := h₁.kept q p hp
    obtain ⟨p₃, hp₃, hname₃, htype₃, howners₃⟩ := h₂.kept q p₂ hp₂
    exact ⟨p₃, hp₃, hname₃.trans hname₂, htype₃.trans htype₂, howners₃.trans howners₂⟩
  others := by
    intro q p₃ hp₃
    rcases h₂.others q p₃ hp₃ with halive | hlt
    · obtain ⟨p₂, hp₂⟩ := (alive_iff ps₂ q).mp halive
      rcases h₁.others q p₂ hp₂ with halive | hlt
      · exact Or.inl halive
      · exact Or.inr (Nat.lt_of_lt_of_le hlt h₂.made_le)
    · exact Or.inr hlt

theorem stays_put {ps : Parameters} {id : ParameterId} {p p' : Parameter}
    (hp : ps.get? id = some p) (hname : p'.name = p.name) (htype : p'.type = p.type)
    (howners : p'.owners = p.owners) : ps.Stays (ps.put id p') where
  made_le := Nat.le_refl _
  kept := by
    intro q c hc
    rw [get?_put]
    split_ifs with hq
    · subst hq
      rw [hp] at hc
      cases hc
      exact ⟨p', rfl, hname, htype, howners⟩
    · exact ⟨c, hc, rfl, rfl, rfl⟩
  others := by
    intro q c hc
    have halive : (ps.put id p').alive q = true := alive_of_get? hc
    rw [alive_put hp] at halive
    exact Or.inl halive

theorem stays_write (ps : Parameters) (id : ParameterId) (w : Write) : ps.Stays (ps.write id w) where
  made_le := Nat.le_refl _
  kept := by
    intro q p hp
    rw [get?_write, hp]
    refine ⟨_, rfl, ?_⟩
    split_ifs
    · cases w <;> exact ⟨rfl, rfl, rfl⟩
    · exact ⟨rfl, rfl, rfl⟩
  others := by
    intro q p hp
    have halive : (ps.write id w).alive q = true := alive_of_get? hp
    rw [alive_write] at halive
    exact Or.inl halive

theorem stays_writeAll (ps : Parameters) (id : ParameterId) (ws : List Write) :
    ps.Stays (ps.writeAll id ws) := by
  induction ws generalizing ps with
  | nil => exact .refl ps
  | cons w rest ih => exact (stays_write ps id w).trans (ih _)

theorem stays_attach {ps ps' : Parameters} {target source : ParameterId}
    (h : ps.attach target source = .ok ps') : ps.Stays ps' := by
  cases ht : ps.get? target with
  | none =>
    rw [attach_of_not_alive (Or.inl ht)] at h
    cases h
    exact .refl ps
  | some t =>
    cases hs : ps.get? source with
    | none =>
      rw [attach_of_not_alive (Or.inr hs)] at h
      cases h
      exact .refl ps
    | some s =>
      rcases attach_cases ht hs with ⟨_, heq⟩ | ⟨_, _, heq⟩ | ⟨_, _, _, heq⟩ | ⟨_, _, _, heq⟩ <;>
        rw [heq] at h <;> cases h
      · exact stays_put ht rfl rfl rfl
      · have hput : ps.Stays (ps.put target (ps.extended t source)) := stays_put ht rfl rfl rfl
        exact hput.trans (stays_writeAll _ _ _)

theorem stays_detach (ps : Parameters) (target source : ParameterId) :
    ps.Stays (ps.detach target source) := by
  unfold detach Table.modify
  cases ht : ps.cells.get? target with
  | none => exact .refl ps
  | some t => exact stays_put ht rfl rfl rfl

theorem stays_add {ps : Parameters} (h : ps.Numbered) (p : Parameter) : ps.Stays (ps.add p).1 where
  made_le := Nat.le_succ _
  kept := by
    intro q c hc
    have hne : q ≠ ⟨ps.made⟩ := by
      rintro rfl
      exact Nat.lt_irrefl _ (h _ c hc)
    rw [get?_add, if_neg hne]
    exact ⟨c, hc, rfl, rfl, rfl⟩
  others := by
    intro q c hc
    rw [get?_add] at hc
    split_ifs at hc with hq
    · subst hq
      exact Or.inr (Nat.lt_succ_self _)
    · exact Or.inl (alive_of_get? hc)

theorem stays_createVirtual {ps : Parameters} (h : ps.Numbered) (name : String)
    (type : ParameterType) {id : ParameterId} {ps' : Parameters}
    (hcreate : ps.createVirtual name type = .ok (id, ps')) : ps.Stays ps' := by
  unfold createVirtual at hcreate
  cases hname : ps.names.get? name with
  | some _ => simp [hname] at hcreate
  | none =>
    simp only [hname, Except.ok.injEq, Prod.mk.injEq] at hcreate
    obtain ⟨_, rfl⟩ := hcreate
    have hadd := stays_add h { name, type, origin := .virtual }
    exact ⟨hadd.made_le, hadd.kept, hadd.others⟩

/-! ## Owners -/

theorem get?_release (ps : Parameters) (id q : ParameterId) :
    (ps.release id).get? q =
      if q = id then (ps.get? id).bind fun p =>
        if p.owners ≤ 1 then none else some { p with owners := p.owners - 1 }
      else ps.get? q := by
  unfold release
  cases hp : ps.get? id with
  | none =>
    split_ifs with hq
    · rw [hq, hp]
      rfl
    · rfl
  | some p =>
    simp only [Option.bind_some]
    split_ifs with howners hq hq
    · simp [get?, hq]
    · simp [get?, hq]
    · simp [get?, hq]
    · simp [get?, hq]

theorem get?_retain (ps : Parameters) (id q : ParameterId) :
    (ps.retain id).get? q =
      if q = id then (ps.get? id).map fun p => { p with owners := p.owners + 1 }
      else ps.get? q := by
  simp [retain, get?]

theorem numbered_release {ps : Parameters} (h : ps.Numbered) (id : ParameterId) :
    (ps.release id).Numbered := by
  have hmade : (ps.release id).made = ps.made := by
    unfold release
    cases ps.get? id with
    | none => rfl
    | some p =>
      simp only
      split_ifs <;> rfl
  intro q p hp
  rw [hmade]
  rw [get?_release] at hp
  split_ifs at hp with hq
  · obtain ⟨c, hc, _⟩ := Option.bind_eq_some_iff.mp hp
    rw [hq]
    exact h id c hc
  · exact h q p hp

theorem numbered_retain {ps : Parameters} (h : ps.Numbered) (id : ParameterId) :
    (ps.retain id).Numbered := by
  intro q p hp
  rw [get?_retain] at hp
  split_ifs at hp with hq
  · obtain ⟨c, hc, _⟩ := Option.map_eq_some_iff.mp hp
    rw [hq]
    exact h id c hc
  · exact h q p hp

theorem numbered_releaseAll {ps : Parameters} (h : ps.Numbered) (ids : List ParameterId) :
    (ps.releaseAll ids).Numbered := by
  induction ids generalizing ps with
  | nil => exact h
  | cons id rest ih => exact ih (numbered_release h id)

/-- Giving up some parameters once each takes one owner from each. -/
theorem get?_releaseAll (ps : Parameters) {ids : List ParameterId} (hids : ids.Nodup)
    (q : ParameterId) :
    (ps.releaseAll ids).get? q =
      if q ∈ ids then (ps.get? q).bind fun p =>
        if p.owners ≤ 1 then none else some { p with owners := p.owners - 1 }
      else ps.get? q := by
  induction ids generalizing ps with
  | nil => rfl
  | cons id rest ih =>
    obtain ⟨hnew, hrest⟩ := List.nodup_cons.mp hids
    have hfold : ps.releaseAll (id :: rest) = (ps.release id).releaseAll rest := rfl
    rw [hfold, ih (ps.release id) hrest, get?_release]
    by_cases hq : q = id
    · subst hq
      rw [if_neg hnew, if_pos rfl, if_pos List.mem_cons_self]
    · simp [hq]

end Parameters

/-! ## New effects -/

namespace EffectDraft

/-- Parameters that come to life have the names and types of their drafts, new numbers,
and the owners of their drafts. -/
theorem settle_spec {ps : Parameters} (h : ps.Numbered) (drafts : List ParameterDraft) :
    ps.Stays (settle ps drafts).2 ∧
      (settle ps drafts).1.map (fun ep => (ep.name, ep.type)) =
        drafts.map (fun d => (d.cell.name, d.cell.type)) ∧
      ((settle ps drafts).1.map (·.id)).Nodup ∧
      ∀ ep ∈ (settle ps drafts).1, ps.made ≤ ep.id.number ∧
        ∃ p, (settle ps drafts).2.get? ep.id = some p ∧ p.name = ep.name ∧ p.type = ep.type ∧
          ∃ d ∈ drafts, p.owners = d.cell.owners := by
  induction drafts generalizing ps with
  | nil => exact ⟨.refl ps, rfl, List.nodup_nil, fun _ hep => absurd hep List.not_mem_nil⟩
  | cons d rest ih =>
    have hadd := Parameters.stays_add h d.cell
    obtain ⟨hstays, hmap, hnodup, hall⟩ := ih (hadd.numbered h)
    have hfirst : (ps.add d.cell).1.get? ⟨ps.made⟩ = some d.cell := by
      rw [Parameters.get?_add, if_pos rfl]
    have hmade : (ps.add d.cell).1.made = ps.made + 1 := rfl
    refine ⟨hadd.trans hstays, ?_, ?_, ?_⟩
    · simp only [settle, List.map_cons, hmap]
    · refine List.nodup_cons.mpr ⟨fun hmem => ?_, hnodup⟩
      obtain ⟨ep, hep, hid⟩ := List.mem_map.mp hmem
      have hle := (hall ep hep).1
      rw [hmade, hid] at hle
      exact Nat.lt_irrefl _ hle
    · intro ep hep
      rcases List.mem_cons.mp hep with rfl | hrest
      · obtain ⟨p, hp, hname, htype, howners⟩ := hstays.kept _ _ hfirst
        exact ⟨Nat.le_refl _, p, hp, hname, htype, d, List.mem_cons_self, howners⟩
      · obtain ⟨hle, p, hp, hname, htype, d', hd', howners⟩ := hall ep hrest
        rw [hmade] at hle
        exact ⟨Nat.le_of_succ_le hle, p, hp, hname, htype, d', List.mem_cons_of_mem d hd', howners⟩

end EffectDraft

end ShaderEffects
