import ShaderEffects.Proofs.Propagation

/-!
# What attaching does in a state that can be reached

However parameters were created, attached, detached, written and dropped, the
live attachments have no cycle, so that looking for a cycle and handing a write
on come to an end from every parameter. Attaching fails for a target that is not
virtual and for an edge that would close a cycle, and changes nothing then.
Otherwise it adds one edge. An edge that is there is not made again: all the
target loses is the places of attached parameters that are gone.
-/
namespace ShaderEffects.Parameters

open Relation

/-- What attaching the living parameter `source` to the living parameter `target`
comes to, where `t` and `s` are what is kept of them. -/
structure AttachesExactly (ps : Parameters) (target source : ParameterId) (t s : Parameter) :
    Prop where
  notVirtual_iff : ps.attach target source = .error (.notVirtual t.name s.name) ↔
    t.isVirtual = false
  attachCycle_iff : ps.attach target source = .error (.attachCycle t.name s.name) ↔
    t.isVirtual = true ∧ (source = target ∨ TransGen ps.Edge source target)
  /-- A failure leaves every parameter as it is. -/
  unchanged : ∀ e, ps.attach target source = .error e →
    ps.perform (.attach target source) = ps
  /-- In every other case one edge is added and none is lost. -/
  added : t.isVirtual = true → source ≠ target → ¬ TransGen ps.Edge source target →
    ∃ ps', ps.attach target source = .ok ps' ∧
      ∀ a b, ps'.Edge a b ↔ ps.Edge a b ∨ (a = target ∧ b = source)
  /-- An edge that is there already is not made again: no value is handed on, no
  attachment changes, and no parameter but the target, which forgets the gone. -/
  repeated : ps.Edge target source →
    ps.attach target source = .ok (ps.put target (ps.pruned t)) ∧
      ∀ a, (ps.put target (ps.pruned t)).attachments a = ps.attachments a

/-- The attachments of a state together with what the recursions over them do. -/
structure SoundlyAttached (ps : Parameters) : Prop where
  acyclic : ps.Acyclic
  nodup : ∀ a, (ps.attachments a).Nodup
  source_virtual : ∀ a b, ps.Edge a b → ∃ t, ps.get? a = some t ∧ t.isVirtual = true
  /-- Looking for `goal` behind a parameter ends, with the right answer. -/
  searches : ∀ id goal, ∃ answer, ps.Searches goal (ps.attachments id) answer ∧
    (answer = true ↔ TransGen ps.Edge id goal)
  /-- Handing a write on ends, in one state and no other. -/
  receives : ∀ id, ps.alive id = true → ∀ w ps', ps.Receives w id ps' ↔ ps' = ps.write id w
  attaches : ∀ target source t s, ps.get? target = some t → ps.get? source = some s →
    ps.AttachesExactly target source t s

theorem reaches_iff (ps : Parameters) (a b : ParameterId) :
    ps.Reaches a b ↔ a = b ∨ TransGen ps.Edge a b := by
  rw [Reaches, reflTransGen_iff_eq_or_transGen]
  exact or_congr_left eq_comm

theorem Acyclic.not_reaches_of_edge {ps : Parameters} (hac : ps.Acyclic) {a b : ParameterId}
    (hab : ps.Edge a b) : ¬ ps.Reaches b a := fun h => hac a (TransGen.head' hab h)

theorem attachments_put_pruned {ps : Parameters} {target : ParameterId} {t : Parameter}
    (ht : ps.get? target = some t) (a : ParameterId) :
    (ps.put target (ps.pruned t)).attachments a = ps.attachments a := by
  simp only [attachments, alive_put ht, get?_put]
  split_ifs with ha
  · subst ha
    simp [ht, pruned]
  · rfl

theorem edge_attached_iff {ps : Parameters} {target source : ParameterId} {t s : Parameter}
    (ht : ps.get? target = some t) (hs : ps.get? source = some s) (a b : ParameterId) :
    ((ps.put target (ps.extended t source)).writeAll source (handedOn t)).Edge a b ↔
      ps.Edge a b ∨ (a = target ∧ b = source) := by
  rw [edge_writeAll]
  exact edge_put_extended_iff ht (alive_of_get? hs) a b

/-- The four cases of `attach_cases` exclude each other, and each of them settles
what every field says. -/
theorem WellAttached.attachesExactly {ps : Parameters} (h : ps.WellAttached)
    {target source : ParameterId} {t s : Parameter} (ht : ps.get? target = some t)
    (hs : ps.get? source = some s) : ps.AttachesExactly target source t s := by
  have hreaches := ps.reaches_iff source target
  have hrepeat : ps.Edge target source → t.isVirtual = true ∧ ¬ ps.Reaches source target := by
    intro he
    obtain ⟨p, hp, hmem, _⟩ := (ps.edge_iff target source).mp he
    have hpt : p = t := Option.some.inj (hp.symm.trans ht)
    subst hpt
    exact ⟨h.target_virtual target p ht (List.ne_nil_of_mem hmem), h.acyclic.not_reaches_of_edge he⟩
  have hunchanged : ∀ e, ps.attach target source = .error e →
      ps.perform (.attach target source) = ps := by
    intro e he
    simp only [Parameters.perform, he]
  rcases attach_cases ht hs with ⟨hv, heq⟩ | ⟨hv, hr, heq⟩ | ⟨hv, hr, he, heq⟩ | ⟨hv, hr, he, heq⟩
  · refine ⟨?_, ?_, hunchanged, ?_, ?_⟩
    · simp [heq, hv]
    · simp [heq, hv]
    · intro hvirtual
      simp [hv] at hvirtual
    · intro he
      have hvirtual := (hrepeat he).1
      simp [hv] at hvirtual
  · refine ⟨?_, ?_, hunchanged, ?_, ?_⟩
    · simp [heq, hv]
    · simpa [heq, hv] using hreaches.mp hr
    · intro _ hne hnot
      exact absurd (hreaches.mp hr) (not_or.mpr ⟨hne, hnot⟩)
    · intro he
      exact absurd hr (hrepeat he).2
  · have hnot := hreaches.not.mp hr
    refine ⟨?_, ?_, hunchanged, ?_, ?_⟩
    · simp [heq, hv]
    · simpa [heq, hv] using hnot
    · intro _ _ _
      refine ⟨_, heq, fun a b => ?_⟩
      rw [edge_put_pruned ht]
      constructor
      · exact Or.inl
      · rintro (hab | ⟨rfl, rfl⟩)
        · exact hab
        · exact he
    · intro _
      exact ⟨heq, attachments_put_pruned ht⟩
  · have hnot := hreaches.not.mp hr
    refine ⟨?_, ?_, hunchanged, ?_, ?_⟩
    · simp [heq, hv]
    · simpa [heq, hv] using hnot
    · intro _ _ _
      exact ⟨_, heq, edge_attached_iff ht hs⟩
    · intro hedge
      exact absurd hedge he

theorem WellAttached.nodup_attachments {ps : Parameters} (h : ps.WellAttached)
    (a : ParameterId) : (ps.attachments a).Nodup := by
  cases ha : ps.get? a with
  | none => simp [attachments_of_not_alive ha]
  | some p =>
    rw [attachments_eq ha]
    exact (h.attached_nodup a p ha).filter _

/-- Whatever was done to parameters, their attachments are sound. -/
theorem soundlyAttached_run (ops : List ParameterOp) :
    (({} : Parameters).run ops).SoundlyAttached := by
  have h := wellAttached_run ops
  refine ⟨h.acyclic, h.nodup_attachments, ?_, exists_searches h.acyclic, ?_, ?_⟩
  · intro a b hab
    obtain ⟨t, ht, hmem, _⟩ := (edge_iff _ a b).mp hab
    exact ⟨t, ht, h.target_virtual a t ht (List.ne_nil_of_mem hmem)⟩
  · intro id hid w ps'
    exact receives_iff h hid w ps'
  · intro target source t s ht hs
    exact h.attachesExactly ht hs

/-- Of two parameters that were made to share, the second does not take the first. -/
theorem soundlyAttached_pair :
    (({} : Parameters).run [.createVirtual "shared" .float1, .createVirtual "local" .float1,
      .attach ⟨0⟩ ⟨1⟩]).attach ⟨1⟩ ⟨0⟩ = .error (.attachCycle "local" "shared") := by
  have h := soundlyAttached_run [.createVirtual "shared" .float1, .createVirtual "local" .float1,
    .attach ⟨0⟩ ⟨1⟩]
  generalize hps : ({} : Parameters).run [.createVirtual "shared" .float1,
    .createVirtual "local" .float1, .attach ⟨0⟩ ⟨1⟩] = ps at h ⊢
  have hedge : ps.attachments ⟨0⟩ = [⟨1⟩] := by
    rw [← hps]
    cbv
  have hshared : (ps.get? ⟨0⟩).map (·.name) = some "shared" := by
    rw [← hps]
    cbv
  have hlocal : (ps.get? ⟨1⟩).map (fun p => (p.name, p.isVirtual)) = some ("local", true) := by
    rw [← hps]
    cbv
  obtain ⟨s, hs, hsname⟩ := Option.map_eq_some_iff.mp hshared
  obtain ⟨t, ht, htname⟩ := Option.map_eq_some_iff.mp hlocal
  obtain ⟨htname, htvirtual⟩ := Prod.mk.inj htname
  have hcycle := (h.attaches ⟨1⟩ ⟨0⟩ t s ht hs).attachCycle_iff
  rw [htname, hsname] at hcycle
  refine hcycle.mpr ⟨htvirtual, Or.inr (.single ?_)⟩
  rw [Edge, hedge]
  exact List.mem_singleton_self _

/-- Attaching again is not without a trace: the target forgets an attached parameter
that is gone, which its text shows. -/
theorem attach_again_forgets :
    let ps := ({} : Parameters).run [.createVirtual "shared" .float1,
      .declare "kept" .float1 "first", .declare "lost" .float1 "second",
      .attach ⟨0⟩ ⟨1⟩, .attach ⟨0⟩ ⟨2⟩, .drop ⟨2⟩]
    ps.Edge ⟨0⟩ ⟨1⟩ ∧
      (ps.get? ⟨0⟩).map (·.attached.length) = some 2 ∧
      ((ps.perform (.attach ⟨0⟩ ⟨1⟩)).get? ⟨0⟩).map (·.attached.length) = some 1 := by
  refine ⟨?_, ?_, ?_⟩
  · rw [Edge]
    have hedge : (({} : Parameters).run [.createVirtual "shared" .float1,
        .declare "kept" .float1 "first", .declare "lost" .float1 "second",
        .attach ⟨0⟩ ⟨1⟩, .attach ⟨0⟩ ⟨2⟩, .drop ⟨2⟩]).attachments ⟨0⟩ = [⟨1⟩] := by cbv
    rw [hedge]
    exact List.mem_singleton_self _
  · cbv
  · cbv

end ShaderEffects.Parameters
