import ShaderEffects.Proofs.AttachmentRuns

/-!
# Parameters without attachments

A write to a parameter to which nothing is attached changes that parameter alone. So a
parameter that was just made can be attached to a virtual one, and then holds what was
written there before; but for the new edge nothing else changes.
-/
namespace ShaderEffects

/-- The parameter once it received what a virtual one holds. A texture stays if the
virtual one has none. -/
def Parameter.caughtUp (t p : Parameter) : Parameter :=
  if t.written then
    { p with scalars := t.scalars, texture := t.texture <|> p.texture, written := true }
  else p

namespace Parameters

open Relation

variable {ps : Parameters} {id : ParameterId} {p : Parameter}

/-- A parameter without attachments leads nowhere but to itself. -/
theorem eq_of_reaches_leaf (hp : ps.get? id = some p) (hleaf : p.attached = [])
    {q : ParameterId} (h : ps.Reaches id q) : q = id := by
  rcases ReflTransGen.cases_head h with heq | ⟨b, hedge, _⟩
  · exact heq.symm
  · obtain ⟨p', hp', hb, _⟩ := (edge_iff _ _ _).mp hedge
    rw [hp] at hp'
    cases hp'
    rw [hleaf] at hb
    exact absurd hb List.not_mem_nil

theorem get?_write_leaf (hp : ps.get? id = some p) (hleaf : p.attached = []) (w : Write)
    (q : ParameterId) :
    (ps.write id w).get? q = if q = id then some (w.apply p) else ps.get? q := by
  by_cases hq : q = id
  · subst hq
    rw [if_pos rfl, get?_write_of_reaches w (alive_of_get? hp) .refl hp]
    cases w <;> simp [received, pruned, Write.apply, hleaf]
  · rw [if_neg hq]
    exact get?_write_of_not_reaches w fun h => hq (eq_of_reaches_leaf hp hleaf h)

@[simp] theorem attached_apply (w : Write) (p : Parameter) : (w.apply p).attached = p.attached := by
  cases w <;> rfl

theorem get?_writeAll_leaf (hp : ps.get? id = some p) (hleaf : p.attached = []) (ws : List Write)
    (q : ParameterId) :
    (ps.writeAll id ws).get? q =
      if q = id then some (ws.foldl (fun p w => w.apply p) p) else ps.get? q := by
  induction ws generalizing ps p with
  | nil =>
    split_ifs with hq
    · rw [hq]
      exact hp
    · rfl
  | cons w rest ih =>
    have hwritten := get?_write_leaf hp hleaf w
    have hfirst : (ps.write id w).get? id = some (w.apply p) := by rw [hwritten, if_pos rfl]
    have hrest := ih hfirst (by rw [attached_apply, hleaf])
    change ((ps.write id w).writeAll id rest).get? q = _
    rw [hrest, hwritten]
    split_ifs <;> rfl

/-- What is handed on to a new attachment is what the virtual parameter holds. -/
theorem foldl_handedOn (t p : Parameter) :
    (handedOn t).foldl (fun p w => w.apply p) p = t.caughtUp p := by
  unfold handedOn Parameter.caughtUp
  split_ifs
  · cases t.texture <;> rfl
  · rfl

theorem writeAll_made_names (ps : Parameters) (id : ParameterId) (ws : List Write) :
    (ps.writeAll id ws).made = ps.made ∧ (ps.writeAll id ws).names = ps.names := by
  induction ws generalizing ps with
  | nil => exact ⟨rfl, rfl⟩
  | cons w rest ih => exact ih (ps.write id w)

/-- A parameter to which nothing is attached, and which is not attached there yet, can be
attached to a virtual one. Only the two of them change. -/
theorem attach_leaf {target source : ParameterId} {t s : Parameter}
    (ht : ps.get? target = some t) (hs : ps.get? source = some s) (hv : t.isVirtual = true)
    (hleaf : s.attached = []) (hne : target ≠ source) (hnew : source ∉ t.attached) :
    ∃ ps', ps.attach target source = .ok ps' ∧ ps'.made = ps.made ∧ ps'.names = ps.names ∧
      ∀ q, ps'.get? q =
        if q = source then some (t.caughtUp s)
        else if q = target then some (ps.extended t source)
        else ps.get? q := by
  have hreach : ¬ ps.Reaches source target := fun h => hne (eq_of_reaches_leaf hs hleaf h)
  have hedge : ¬ ps.Edge target source := by
    rintro h
    obtain ⟨t', ht', hmem, _⟩ := (edge_iff _ _ _).mp h
    rw [ht] at ht'
    cases ht'
    exact hnew hmem
  rcases attach_cases ht hs with ⟨hv', _⟩ | ⟨_, hr, _⟩ | ⟨_, _, he, _⟩ | ⟨_, _, _, heq⟩
  · rw [hv] at hv'
    cases hv'
  · exact absurd hr hreach
  · exact absurd he hedge
  · obtain ⟨hmade, hnames⟩ :=
      writeAll_made_names (ps.put target (ps.extended t source)) source (handedOn t)
    refine ⟨_, heq, hmade, hnames, fun q => ?_⟩
    have hs' : (ps.put target (ps.extended t source)).get? source = some s := by
      rw [get?_put, if_neg hne.symm, hs]
    rw [get?_writeAll_leaf hs' hleaf, foldl_handedOn, get?_put]

end Parameters

end ShaderEffects
