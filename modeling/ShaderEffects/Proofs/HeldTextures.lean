import ShaderEffects.Proofs.OwnedParameters

/-!
# The textures that parameters hold

A texture comes to a parameter by a write only. Attaching, detaching and the coming and
going of parameters bring about no texture that was not held before.
-/
namespace ShaderEffects

namespace Parameters

/-- Some parameter holds a texture. -/
def Holds (ps : Parameters) (handle : Handle Texture) : Prop :=
  ∃ id p, ps.get? id = some p ∧ p.texture = some handle

variable {ps ps' : Parameters} {handle : Handle Texture}

theorem not_holds_empty (handle : Handle Texture) : ¬ ({} : Parameters).Holds handle := by
  rintro ⟨id, p, hget, _⟩
  cases hget

/-- Where each parameter is gone or holds what it held, no other texture is held. -/
theorem Holds.of_kept (hkept : ∀ id p', ps'.get? id = some p' →
      ∃ p, ps.get? id = some p ∧ p'.texture = p.texture) (h : ps'.Holds handle) :
    ps.Holds handle := by
  obtain ⟨id, p', hget, htexture⟩ := h
  obtain ⟨p, hp, hsame⟩ := hkept id p' hget
  exact ⟨id, p, hp, hsame ▸ htexture⟩

/-! ## Writing -/

theorem holds_write {id : ParameterId} {w : Write} (h : (ps.write id w).Holds handle) :
    ps.Holds handle ∨ w = .texture (some handle) := by
  obtain ⟨q, p', hget, htexture⟩ := h
  rw [get?_write] at hget
  obtain ⟨p, hp, rfl⟩ := Option.map_eq_some_iff.mp hget
  split_ifs at htexture
  · cases w with
    | scalars values => exact Or.inl ⟨q, p, hp, htexture⟩
    | texture given =>
      obtain rfl : given = some handle := htexture
      exact Or.inr rfl
  · exact Or.inl ⟨q, p, hp, htexture⟩

theorem holds_writeAll {id : ParameterId} {ws : List Write}
    (h : (ps.writeAll id ws).Holds handle) :
    ps.Holds handle ∨ .texture (some handle) ∈ ws := by
  induction ws generalizing ps with
  | nil => exact Or.inl h
  | cons w rest ih =>
    rcases ih h with hwritten | hrest
    · rcases holds_write hwritten with hheld | rfl
      · exact Or.inl hheld
      · exact Or.inr List.mem_cons_self
    · exact Or.inr (List.mem_cons_of_mem w hrest)

/-! ## Attaching -/

theorem holds_put {id : ParameterId} {p : Parameter} (h : (ps.put id p).Holds handle) :
    ps.Holds handle ∨ p.texture = some handle := by
  obtain ⟨q, p', hget, htexture⟩ := h
  rw [get?_put] at hget
  split_ifs at hget
  · cases hget
    exact Or.inr htexture
  · exact Or.inl ⟨q, p', hget, htexture⟩

/-- What is handed on is what was held. -/
theorem holds_attach {target source : ParameterId} (hattach : ps.attach target source = .ok ps')
    (h : ps'.Holds handle) : ps.Holds handle := by
  cases ht : ps.get? target with
  | none =>
    rw [attach_of_not_alive (Or.inl ht)] at hattach
    cases hattach
    exact h
  | some t =>
    cases hs : ps.get? source with
    | none =>
      rw [attach_of_not_alive (Or.inr hs)] at hattach
      cases hattach
      exact h
    | some s =>
      have htarget : t.texture = some handle → ps.Holds handle := fun htexture =>
        ⟨target, t, ht, htexture⟩
      rcases attach_cases ht hs with ⟨_, heq⟩ | ⟨_, _, heq⟩ | ⟨_, _, _, heq⟩ | ⟨_, _, _, heq⟩ <;>
        rw [heq] at hattach <;> cases hattach
      · exact (holds_put h).elim id htarget
      · rcases holds_writeAll h with hput | hhanded
        · exact (holds_put hput).elim id htarget
        · refine htarget ?_
          unfold handedOn at hhanded
          split_ifs at hhanded
          · simpa using hhanded
          · exact absurd hhanded List.not_mem_nil

theorem holds_detach {target source : ParameterId} (h : (ps.detach target source).Holds handle) :
    ps.Holds handle := by
  refine h.of_kept fun id p' hget => ?_
  simp only [detach, get?, Table.get?_modify] at hget
  split_ifs at hget with hid
  · obtain ⟨p, hp, rfl⟩ := Option.map_eq_some_iff.mp hget
    exact ⟨p, hid ▸ hp, rfl⟩
  · exact ⟨p', hget, rfl⟩

/-! ## Coming and going -/

theorem holds_add {p : Parameter} (h : (ps.add p).1.Holds handle) :
    ps.Holds handle ∨ p.texture = some handle := by
  obtain ⟨q, p', hget, htexture⟩ := h
  rw [get?_add] at hget
  split_ifs at hget
  · cases hget
    exact Or.inr htexture
  · exact Or.inl ⟨q, p', hget, htexture⟩

theorem holds_createVirtual {name : String} {type : ParameterType} {id : ParameterId}
    (hcreate : ps.createVirtual name type = .ok (id, ps')) (h : ps'.Holds handle) :
    ps.Holds handle := by
  unfold createVirtual at hcreate
  cases hname : ps.names.get? name with
  | some _ => simp [hname] at hcreate
  | none =>
    simp only [hname, Except.ok.injEq, Prod.mk.injEq] at hcreate
    obtain ⟨_, rfl⟩ := hcreate
    have hadded : (ps.add { name, type, origin := .virtual }).1.Holds handle := h
    exact (holds_add hadded).resolve_right fun htexture => by cases htexture

theorem holds_retain {id : ParameterId} (h : (ps.retain id).Holds handle) : ps.Holds handle := by
  refine h.of_kept fun q p' hget => ?_
  rw [get?_retain] at hget
  split_ifs at hget with hq
  · obtain ⟨p, hp, rfl⟩ := Option.map_eq_some_iff.mp hget
    exact ⟨p, hq ▸ hp, rfl⟩
  · exact ⟨p', hget, rfl⟩

theorem holds_release {id : ParameterId} (h : (ps.release id).Holds handle) : ps.Holds handle := by
  refine h.of_kept fun q p' hget => ?_
  rw [get?_release] at hget
  split_ifs at hget with hq
  · obtain ⟨p, hp, hleft⟩ := Option.bind_eq_some_iff.mp hget
    split_ifs at hleft
    cases hleft
    exact ⟨p, hq ▸ hp, rfl⟩
  · exact ⟨p', hget, rfl⟩

theorem holds_releaseAll {ids : List ParameterId} (h : (ps.releaseAll ids).Holds handle) :
    ps.Holds handle := by
  induction ids generalizing ps with
  | nil => exact h
  | cons id rest ih => exact holds_release (ih h)

end Parameters

/-- Parameters that come to life hold what their drafts hold. -/
theorem EffectDraft.holds_settle {ps : Parameters} {drafts : List ParameterDraft}
    {handle : Handle Texture} (h : (settle ps drafts).2.Holds handle) :
    ps.Holds handle ∨ ∃ d ∈ drafts, d.cell.texture = some handle := by
  induction drafts generalizing ps with
  | nil => exact Or.inl h
  | cons d rest ih =>
    rcases ih h with hadded | ⟨d', hd', htexture⟩
    · rcases Parameters.holds_add hadded with hheld | htexture
      · exact Or.inl hheld
      · exact Or.inr ⟨d, List.mem_cons_self, htexture⟩
    · exact Or.inr ⟨d', List.mem_cons_of_mem d hd', htexture⟩

end ShaderEffects
