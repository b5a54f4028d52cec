import ShaderEffects.Proofs.Propagation

/-!
# Who wrote last

A write changes one kind of value of the parameters that are reached, and nothing
else of any parameter. So after a run the numbers of a parameter are those of the
last operation that brought it numbers, and its texture is that of the last one
that brought it a texture: a write to it or to a parameter from which it was
reached then, or the making of an attachment that handed on what was written
before.
-/
namespace ShaderEffects

open Relation

/-- Numbers that are too many are cut, and numbers that are missing are zero. -/
theorem Scalars.toList_ofList (values : List Float32) :
    (Scalars.ofList values).toList = values.take 16 ++ List.replicate (16 - values.length) 0 := by
  have hlen : (values.take 16 ++ List.replicate (16 - values.length) (0 : Float32)).length = 16 := by
    simp only [List.length_append, List.length_take, List.length_replicate]
    omega
  refine List.ext_getElem (by rw [hlen, Vector.length_toList]) ?_
  intro i hi _
  have hi16 : i < 16 := by simpa using hi
  rw [Vector.getElem_toList]
  simp only [Scalars.ofList, Vector.getElem_ofFn, List.getD_eq_getElem?_getD]
  by_cases hv : i < values.length
  · have htake : i < (values.take 16).length := by
      rw [List.length_take]
      omega
    rw [List.getElem_append_left htake, List.getElem_take, List.getElem?_eq_getElem hv]
    rfl
  · have htake : (values.take 16).length ≤ i := by
      rw [List.length_take]
      omega
    have hnone : values[i]? = none := List.getElem?_eq_none (by omega)
    rw [List.getElem_append_right htake, List.getElem_replicate, hnone]
    rfl

namespace Parameters

/-! ## One write -/

/-- What writing numbers to the living parameter `id` comes to. -/
structure PushesScalars (ps : Parameters) (id : ParameterId) (values : List Float32) : Prop where
  /-- The state is the one at which handing the numbers on ends, call by call. -/
  receives : ps.Receives (.scalars (.ofList values)) id (ps.setScalars id values)
  reached : ∀ q, ps.Reaches id q → ((ps.setScalars id values).get? q).map (·.scalars.toList) =
    some (values.take 16 ++ List.replicate (16 - values.length) 0)
  others : ∀ q, ¬ ps.Reaches id q →
    ((ps.setScalars id values).get? q).map (·.scalars) = (ps.get? q).map (·.scalars)
  texture : ∀ q, ((ps.setScalars id values).get? q).map (·.texture) = (ps.get? q).map (·.texture)
  edges : (ps.setScalars id values).Edge = ps.Edge

/-- What writing a texture to the living parameter `id`, or taking it away, comes to. -/
structure PushesTexture (ps : Parameters) (id : ParameterId) (texture : Option (Handle Texture)) :
    Prop where
  receives : ps.Receives (.texture texture) id (ps.setTexture id texture)
  reached : ∀ q, ps.Reaches id q →
    ((ps.setTexture id texture).get? q).map (·.texture) = some texture
  others : ∀ q, ¬ ps.Reaches id q →
    ((ps.setTexture id texture).get? q).map (·.texture) = (ps.get? q).map (·.texture)
  scalars : ∀ q, ((ps.setTexture id texture).get? q).map (·.scalars) =
    (ps.get? q).map (·.scalars)
  edges : (ps.setTexture id texture).Edge = ps.Edge

@[simp] theorem received_scalars (ps : Parameters) (values : Scalars) (p : Parameter) :
    (ps.received (.scalars values) p).scalars = values := rfl

/-- Numbers do not touch the texture. -/
@[simp] theorem texture_received_scalars (ps : Parameters) (values : Scalars) (p : Parameter) :
    (ps.received (.scalars values) p).texture = p.texture := rfl

/-- A texture does not touch the numbers. -/
@[simp] theorem scalars_received_texture (ps : Parameters) (texture : Option (Handle Texture))
    (p : Parameter) : (ps.received (.texture texture) p).scalars = p.scalars := rfl

@[simp] theorem received_texture (ps : Parameters) (texture : Option (Handle Texture))
    (p : Parameter) : (ps.received (.texture texture) p).texture = texture := rfl

theorem get?_write_of_reached {ps : Parameters} {id q : ParameterId} (w : Write)
    (hid : ps.alive id = true) (h : ps.Reaches id q) :
    ∃ p, ps.get? q = some p ∧ (ps.write id w).get? q = some (ps.received w p) := by
  obtain ⟨p, hp⟩ := (alive_iff _ _).mp (h.alive hid)
  exact ⟨p, hp, get?_write_of_reaches w hid h hp⟩

/-- What no write of a kind changes is what it was, wherever the write goes. -/
theorem map_get?_write {α : Type} (ps : Parameters) (id : ParameterId) (w : Write)
    (f : Parameter → α) (hf : ∀ p, f (ps.received w p) = f p) (q : ParameterId) :
    ((ps.write id w).get? q).map f = (ps.get? q).map f := by
  rw [get?_write, Option.map_map]
  congr 1
  funext p
  simp only [Function.comp_apply]
  split_ifs
  · exact hf p
  · rfl

theorem WellAttached.pushesScalars {ps : Parameters} (h : ps.WellAttached) {id : ParameterId}
    (hid : ps.alive id = true) (values : List Float32) : ps.PushesScalars id values where
  receives := (receives_iff h hid _ _).mpr rfl
  reached := by
    intro q hq
    obtain ⟨p, _, hp'⟩ := get?_write_of_reached (.scalars (.ofList values)) hid hq
    rw [setScalars, hp', Option.map_some, received_scalars, Scalars.toList_ofList]
  others := by
    intro q hq
    rw [setScalars, get?_write_of_not_reaches _ hq]
  texture := by
    intro q
    rw [setScalars]
    exact map_get?_write ps id _ (·.texture) (texture_received_scalars ps _) q
  edges := edge_write ps id (.scalars (.ofList values))

theorem WellAttached.pushesTexture {ps : Parameters} (h : ps.WellAttached) {id : ParameterId}
    (hid : ps.alive id = true) (texture : Option (Handle Texture)) :
    ps.PushesTexture id texture where
  receives := (receives_iff h hid _ _).mpr rfl
  reached := by
    intro q hq
    obtain ⟨p, _, hp'⟩ := get?_write_of_reached (.texture texture) hid hq
    rw [setTexture, hp', Option.map_some, received_texture]
  others := by
    intro q hq
    rw [setTexture, get?_write_of_not_reaches _ hq]
  scalars := by
    intro q
    rw [setTexture]
    exact map_get?_write ps id _ (·.scalars) (scalars_received_texture ps _) q
  edges := edge_write ps id (.texture texture)

/-! ## What a parameter was given -/

/-- Attaching makes an edge that was not there. -/
def Links (ps : Parameters) (target source : ParameterId) : Prop :=
  ¬ ps.Edge target source ∧ (ps.perform (.attach target source)).Edge target source

open Classical in
/-- The writes that an operation brings to the parameter `q`, in order: a write to a
living parameter that reaches it, and what a new attachment hands on to a parameter
that reaches it. -/
noncomputable def brought (ps : Parameters) (q : ParameterId) : ParameterOp → List Write
  | .setScalars id values =>
    if ps.alive id = true ∧ ps.Reaches id q then [.scalars (.ofList values)] else []
  | .setTexture id texture =>
    if ps.alive id = true ∧ ps.Reaches id q then [.texture texture] else []
  | .attach target source =>
    match ps.get? target with
    | none => []
    | some t => if ps.Links target source ∧ ps.Reaches source q then handedOn t else []
  | _ => []

/-- The writes that a row of operations brings to the parameter `q`. -/
noncomputable def history (q : ParameterId) : Parameters → List ParameterOp → List Write
  | _, [] => []
  | ps, op :: ops => ps.brought q op ++ history q (ps.perform op) ops

theorem history_append (q : ParameterId) (ps : Parameters) (ops later : List ParameterOp) :
    history q ps (ops ++ later) = history q ps ops ++ history q (ps.run ops) later := by
  induction ops generalizing ps with
  | nil => rfl
  | cons first ops ih =>
    rw [List.cons_append, history, history, ih, List.append_assoc]
    rfl

theorem history_snoc (q : ParameterId) (ps : Parameters) (ops : List ParameterOp)
    (op : ParameterOp) :
    history q ps (ops ++ [op]) = history q ps ops ++ (ps.run ops).brought q op := by
  rw [history_append, history, history, List.append_nil]

/-- The two values of a parameter. -/
def values (p : Parameter) : Scalars × Option (Handle Texture) := (p.scalars, p.texture)

/-- Two values after a write. -/
def overwrite (v : Scalars × Option (Handle Texture)) : Write → Scalars × Option (Handle Texture)
  | .scalars numbers => (numbers, v.2)
  | .texture handle => (v.1, handle)

/-- A parameter after writes. It may have got other attachments and owners besides. -/
def Became (ws : List Write) (p p' : Parameter) : Prop :=
  ∃ attached owners, p' = { ws.foldl (fun p w => w.apply p) p with attached, owners }

/-- A parameter that was just made, or one that nothing was written to. -/
structure Untouched (p : Parameter) : Prop where
  values : values p = (.ofList [], none)
  written : p.written = false

section became

variable {ws later : List Write} {p p' p'' : Parameter}

theorem Became.refl (p : Parameter) : Became [] p p := ⟨p.attached, p.owners, rfl⟩

theorem foldl_apply_with (ws : List Write) (p : Parameter) (attached : List ParameterId)
    (owners : Nat) :
    ws.foldl (fun p w => w.apply p) { p with attached, owners } =
      { ws.foldl (fun p w => w.apply p) p with attached, owners } := by
  induction ws generalizing p with
  | nil => rfl
  | cons w ws ih =>
    have hrest := ih (w.apply p)
    cases w <;> exact hrest

theorem Became.append (h : Became ws p p') (hlater : Became later p' p'') :
    Became (ws ++ later) p p'' := by
  obtain ⟨_, _, rfl⟩ := h
  obtain ⟨attached, owners, rfl⟩ := hlater
  exact ⟨attached, owners, by rw [foldl_apply_with, List.foldl_append]⟩

theorem became_received (ps : Parameters) (w : Write) (p : Parameter) :
    Became [w] p (ps.received w p) := ⟨_, _, rfl⟩

theorem Became.values (h : Became ws p p') : values p' = ws.foldl overwrite (values p) := by
  obtain ⟨_, _, rfl⟩ := h
  induction ws generalizing p with
  | nil => rfl
  | cons w ws ih => cases w <;> exact ih

/-- Whether anything was written is kept track of. -/
theorem Became.written (h : Became ws p p') : p'.written = (p.written || !ws.isEmpty) := by
  obtain ⟨_, _, rfl⟩ := h
  induction ws generalizing p with
  | nil => simp
  | cons w ws ih =>
    have hrest := ih (p := w.apply p)
    have hw : (w.apply p).written = true := by cases w <;> rfl
    simp only [hw, Bool.true_or] at hrest
    simpa using hrest

end became

theorem get?_writeAll {ps : Parameters} {id : ParameterId} (hid : ps.alive id = true)
    (ws : List Write) {q : ParameterId} {p' : Parameter}
    (hp' : (ps.writeAll id ws).get? q = some p') :
    ∃ p, ps.get? q = some p ∧ (ps.Reaches id q → Became ws p p') ∧
      (¬ ps.Reaches id q → p' = p) := by
  induction ws generalizing ps with
  | nil => exact ⟨p', hp', fun _ => .refl p', fun _ => rfl⟩
  | cons w ws ih =>
    have halive : (ps.write id w).alive id = true := by rwa [alive_write]
    obtain ⟨c, hc, hreached, hother⟩ := ih halive hp'
    rw [reaches_write] at hreached hother
    by_cases hr : ps.Reaches id q
    · obtain ⟨p, hp, hpw⟩ := get?_write_of_reached w hid hr
      rw [hpw] at hc
      cases hc
      exact ⟨p, hp, fun _ => (became_received ps w p).append (hreached hr),
        fun hnot => absurd hr hnot⟩
    · rw [get?_write_of_not_reaches w hr] at hc
      exact ⟨c, hc, fun hyes => absurd hyes hr, hother⟩

/-! ## One operation -/

/-- Every parameter of `ps'` is one of `ps` to which nothing was written, or is new. -/
def Carries (ps ps' : Parameters) : Prop :=
  ∀ q p', ps'.get? q = some p' →
    (∃ p, ps.get? q = some p ∧ Became [] p p') ∨ (ps.made ≤ q.number ∧ Untouched p')

theorem Carries.refl (ps : Parameters) : ps.Carries ps :=
  fun _ p' hp' => Or.inl ⟨p', hp', .refl p'⟩

theorem became_put {ps : Parameters} {id : ParameterId} {p p' : Parameter}
    (hp : ps.get? id = some p) (hsame : Became [] p p') {q : ParameterId} {c : Parameter}
    (hc : (ps.put id p').get? q = some c) : ∃ p, ps.get? q = some p ∧ Became [] p c := by
  rw [get?_put] at hc
  split_ifs at hc with hq
  · cases hc
    subst hq
    exact ⟨p, hp, hsame⟩
  · exact ⟨c, hc, .refl c⟩

theorem carries_put {ps : Parameters} {id : ParameterId} {p p' : Parameter}
    (hp : ps.get? id = some p) (hsame : Became [] p p') : ps.Carries (ps.put id p') :=
  fun _ _ hc => Or.inl (became_put hp hsame hc)

theorem carries_modify (ps : Parameters) (id : ParameterId) (f : Parameter → Parameter)
    (hsame : ∀ p, Became [] p (f p)) :
    ps.Carries { ps with cells := ps.cells.modify id f } := by
  unfold Table.modify
  cases hp : ps.cells.get? id with
  | none => exact .refl ps
  | some p => exact carries_put hp (hsame p)

theorem carries_add (ps : Parameters) {p : Parameter} (hp : Untouched p) :
    ps.Carries (ps.add p).1 := by
  intro q c hc
  rw [get?_add] at hc
  split_ifs at hc with hq
  · cases hc
    subst hq
    exact Or.inr ⟨Nat.le_refl _, hp⟩
  · exact Or.inl ⟨c, hc, .refl c⟩

theorem carries_release (ps : Parameters) (id : ParameterId) : ps.Carries (ps.release id) := by
  unfold release
  cases hp : ps.get? id with
  | none => exact .refl ps
  | some p =>
    simp only
    split_ifs
    · intro q c hc
      simp only [get?, Table.get?_erase] at hc
      split_ifs at hc
      exact Or.inl ⟨c, hc, .refl c⟩
    · exact carries_put hp ⟨_, _, rfl⟩

/-- The edge that attaching makes ends at `source`, and `source` does not lead to where
it starts, so it opens no way from `source`. -/
theorem reaches_put_extended_iff {ps : Parameters} {target source : ParameterId} {t : Parameter}
    (ht : ps.get? target = some t) (hs : ps.alive source = true)
    (hr : ¬ ps.Reaches source target) (q : ParameterId) :
    (ps.put target (ps.extended t source)).Reaches source q ↔ ps.Reaches source q := by
  have hedges : (ps.put target (ps.extended t source)).Edge =
      fun x y => ps.Edge x y ∨ (x = target ∧ y = source) := by
    funext x y
    exact propext (edge_put_extended_iff ht hs x y)
  constructor
  · intro h
    rcases reflTransGen_iff_eq_or_transGen.mp h with rfl | hpath
    · exact .refl
    · rw [hedges] at hpath
      rcases transGen_of_insert hpath with hold | ⟨hto, _⟩
      · exact hold.to_reflTransGen
      · exact absurd hto hr
  · intro h
    refine ReflTransGen.lift id ?_ _ _ h
    intro x y hxy
    rw [hedges]
    exact Or.inl hxy

/-- Where attaching makes no edge, it brings nothing. -/
theorem brought_attach_of_edge_eq {ps : Parameters} {target source : ParameterId}
    (h : (ps.perform (.attach target source)).Edge = ps.Edge) (q : ParameterId) :
    ps.brought q (.attach target source) = [] := by
  have hnot : ¬ ps.Links target source := by
    rintro ⟨hne, he⟩
    rw [h] at he
    exact hne he
  cases ht : ps.get? target <;> simp [brought, ht, hnot]

/-- What attaching writes to a parameter is what it brings to it. -/
theorem became_attach {ps : Parameters} {target source q : ParameterId} {p' : Parameter}
    (hp' : (ps.perform (.attach target source)).get? q = some p') :
    ∃ p, ps.get? q = some p ∧ Became (ps.brought q (.attach target source)) p p' := by
  have hsame : ps.perform (.attach target source) = ps →
      ∃ p, ps.get? q = some p ∧ Became (ps.brought q (.attach target source)) p p' := by
    intro heq
    rw [heq] at hp'
    rw [brought_attach_of_edge_eq (by rw [heq])]
    exact ⟨p', hp', .refl p'⟩
  cases ht : ps.get? target with
  | none => exact hsame (by simp only [perform, attach_of_not_alive (Or.inl ht)])
  | some t =>
    cases hs : ps.get? source with
    | none => exact hsame (by simp only [perform, attach_of_not_alive (Or.inr hs)])
    | some s =>
      rcases attach_cases ht hs with ⟨_, heq⟩ | ⟨_, _, heq⟩ | ⟨_, _, _, heq⟩ | ⟨_, hr, hne, heq⟩
      · exact hsame (by simp only [perform, heq])
      · exact hsame (by simp only [perform, heq])
      · have hperform : ps.perform (.attach target source) = ps.put target (ps.pruned t) := by
          simp only [perform, heq]
        rw [brought_attach_of_edge_eq (by rw [hperform, edge_put_pruned ht])]
        rw [hperform] at hp'
        exact became_put ht ⟨_, _, rfl⟩ hp'
      · have hperform : ps.perform (.attach target source) =
            (ps.put target (ps.extended t source)).writeAll source (handedOn t) := by
          simp only [perform, heq]
        have hlinks : ps.Links target source := by
          refine ⟨hne, ?_⟩
          rw [hperform, edge_writeAll, edge_put_extended_iff ht (alive_of_get? hs)]
          exact Or.inr ⟨rfl, rfl⟩
        have halive : (ps.put target (ps.extended t source)).alive source = true := by
          rw [alive_put ht]
          exact alive_of_get? hs
        rw [hperform] at hp'
        obtain ⟨c, hc, hreached, hother⟩ := get?_writeAll halive _ hp'
        rw [reaches_put_extended_iff ht (alive_of_get? hs) hr] at hreached hother
        obtain ⟨p, hp, hkept⟩ := became_put ht ⟨_, _, rfl⟩ hc
        refine ⟨p, hp, ?_⟩
        by_cases hq : ps.Reaches source q
        · simp only [brought, ht, hlinks, hq, and_self, if_true]
          exact hkept.append (hreached hq)
        · simp only [brought, ht, hq, and_false, if_false]
          rw [hother hq]
          exact hkept

open Classical in
theorem became_write {ps : Parameters} {id q : ParameterId} {w : Write} {p' : Parameter}
    (hp' : (ps.write id w).get? q = some p') :
    ∃ p, ps.get? q = some p ∧
      Became (if ps.alive id = true ∧ ps.Reaches id q then [w] else []) p p' := by
  rw [get?_write] at hp'
  obtain ⟨p, hp, rfl⟩ := Option.map_eq_some_iff.mp hp'
  refine ⟨p, hp, ?_⟩
  simp only [mem_downstream_iff]
  split_ifs with hr
  · exact became_received ps w p
  · exact .refl p

/-- A parameter that is there after an operation was there before, and received what the
operation brought it, or it is new. -/
theorem became_perform {ps : Parameters} {op : ParameterOp} {q : ParameterId} {p' : Parameter}
    (hp' : (ps.perform op).get? q = some p') :
    (∃ p, ps.get? q = some p ∧ Became (ps.brought q op) p p') ∨
      (ps.made ≤ q.number ∧ Untouched p') := by
  cases op with
  | declare name type effect => exact carries_add ps ⟨rfl, rfl⟩ q p' hp'
  | createVirtual name type =>
    simp only [perform, createVirtual] at hp'
    cases hname : ps.names.get? name with
    | some _ =>
      rw [hname] at hp'
      exact Carries.refl ps q p' hp'
    | none =>
      rw [hname] at hp'
      exact carries_add ps (p := { name, type, origin := .virtual }) ⟨rfl, rfl⟩ q p' hp'
  | removeVirtual name =>
    simp only [perform, removeVirtual] at hp'
    cases hname : ps.named? name with
    | none =>
      rw [hname] at hp'
      exact Carries.refl ps q p' hp'
    | some id =>
      rw [hname] at hp'
      exact carries_release { ps with names := ps.names.erase name } id q p' hp'
  | hold id =>
    have hcarries : ps.Carries (ps.retain id) := carries_modify ps id _ fun _ => ⟨_, _, rfl⟩
    exact hcarries q p' hp'
  | drop id => exact carries_release ps id q p' hp'
  | detach target source =>
    have hcarries : ps.Carries (ps.detach target source) :=
      carries_modify ps target _ fun _ => ⟨_, _, rfl⟩
    exact hcarries q p' hp'
  | attach target source => exact Or.inl (became_attach hp')
  | setScalars id numbers => exact Or.inl (became_write hp')
  | setTexture id texture => exact Or.inl (became_write hp')

/-! ## Whole runs -/

theorem made_writeAll (ps : Parameters) (id : ParameterId) (ws : List Write) :
    (ps.writeAll id ws).made = ps.made := by
  induction ws generalizing ps with
  | nil => rfl
  | cons w ws ih => exact (ih (ps.write id w)).trans (made_write ps id w)

/-- Numbers of parameters are never taken back. -/
theorem made_le_perform (ps : Parameters) (op : ParameterOp) : ps.made ≤ (ps.perform op).made := by
  by_cases hop : ∃ target source, op = .attach target source
  · obtain ⟨target, source, rfl⟩ := hop
    simp only [perform]
    cases ht : ps.get? target with
    | none => rw [attach_of_not_alive (Or.inl ht)]
    | some t =>
      cases hs : ps.get? source with
      | none => rw [attach_of_not_alive (Or.inr hs)]
      | some s =>
        rcases attach_cases ht hs with ⟨_, h⟩ | ⟨_, _, h⟩ | ⟨_, _, _, h⟩ | ⟨_, _, _, h⟩
        · rw [h]
        · rw [h]
        · rw [h]
          exact Nat.le_refl _
        · rw [h]
          simp only [made_writeAll]
          exact Nat.le_refl _
  · exact (shrinks_perform ps fun target source he => hop ⟨target, source, he⟩).made_le

/-- Nothing is brought to a parameter that is not there. -/
theorem brought_of_not_alive {ps : Parameters} {q : ParameterId} (hq : ps.get? q = none)
    (op : ParameterOp) : ps.brought q op = [] := by
  have hdead : ¬ ps.alive q = true := by
    rw [alive_iff]
    simp [hq]
  have hnot : ∀ id, ¬ (ps.alive id = true ∧ ps.Reaches id q) := by
    rintro id ⟨hid, hr⟩
    exact hdead (hr.alive hid)
  cases op with
  | setScalars id numbers => rw [brought, if_neg (hnot id)]
  | setTexture id texture => rw [brought, if_neg (hnot id)]
  | attach target source =>
    cases hs : ps.get? source with
    | none =>
      refine brought_attach_of_edge_eq ?_ q
      simp only [perform, attach_of_not_alive (Or.inr hs)]
    | some s =>
      have hr : ¬ ps.Reaches source q := fun hr => hnot source ⟨alive_of_get? hs, hr⟩
      cases ht : ps.get? target <;> simp [brought, ht, hr]
  | declare | createVirtual | removeVirtual | hold | drop | detach => rfl

/-- A parameter that is still to be made was brought nothing so far. -/
theorem history_eq_nil (q : ParameterId) (ops : List ParameterOp)
    (hq : (({} : Parameters).run ops).made ≤ q.number) : history q {} ops = [] := by
  induction ops using List.reverseRecOn with
  | nil => rfl
  | append_singleton ops op ih =>
    rw [run_snoc] at hq
    have hmade := made_le_perform (({} : Parameters).run ops) op
    have hnone : (({} : Parameters).run ops).get? q = none := by
      cases hc : (({} : Parameters).run ops).get? q with
      | none => rfl
      | some c =>
        have hlt := (wellAttached_run ops).number_lt q c hc
        omega
    rw [history_snoc, ih (by omega), brought_of_not_alive hnone op]
    rfl

/-- A parameter received its history since it was made. -/
theorem became_run (ops : List ParameterOp) {q : ParameterId} {p : Parameter}
    (hp : (({} : Parameters).run ops).get? q = some p) :
    ∃ made, Untouched made ∧ Became (history q {} ops) made p := by
  induction ops using List.reverseRecOn generalizing p with
  | nil => cases hp
  | append_singleton ops op ih =>
    rw [run_snoc] at hp
    rw [history_snoc]
    rcases became_perform hp with ⟨c, hc, hbecame⟩ | ⟨hnew, huntouched⟩
    · obtain ⟨made, hmade, hbefore⟩ := ih hc
      exact ⟨made, hmade, hbefore.append hbecame⟩
    · have hnone : (({} : Parameters).run ops).get? q = none := by
        cases hc : (({} : Parameters).run ops).get? q with
        | none => rfl
        | some c =>
          have hlt := (wellAttached_run ops).number_lt q c hc
          omega
      rw [history_eq_nil q ops hnew, brought_of_not_alive hnone op]
      exact ⟨p, huntouched, .refl p⟩

/-- The values of a parameter are what its history leaves of the values it was made with. -/
theorem values_run (ops : List ParameterOp) {q : ParameterId} {p : Parameter}
    (hp : (({} : Parameters).run ops).get? q = some p) :
    values p = (history q {} ops).foldl overwrite (.ofList [], none) := by
  obtain ⟨made, hmade, hbecame⟩ := became_run ops hp
  rw [hbecame.values, hmade.values]

/-- Whether anything was written to a parameter can be told from its history. -/
theorem written_run (ops : List ParameterOp) {q : ParameterId} {p : Parameter}
    (hp : (({} : Parameters).run ops).get? q = some p) :
    p.written = true ↔ history q {} ops ≠ [] := by
  obtain ⟨made, hmade, hbecame⟩ := became_run ops hp
  rw [hbecame.written, hmade.written]
  simp

end Parameters

/-- The numbers of a write of numbers. -/
def Write.scalars? : Write → Option Scalars
  | .scalars numbers => some numbers
  | .texture _ => none

/-- What a write of a texture writes. -/
def Write.texture? : Write → Option (Option (Handle Texture))
  | .scalars _ => none
  | .texture handle => some handle

namespace Parameters

/-- Of each kind of value the last write counts. -/
theorem foldl_overwrite (ws : List Write) (v : Scalars × Option (Handle Texture)) :
    ws.foldl overwrite v =
      ((ws.filterMap Write.scalars?).getLast?.getD v.1,
        (ws.filterMap Write.texture?).getLast?.getD v.2) := by
  induction ws using List.reverseRecOn with
  | nil => rfl
  | append_singleton ws w ih =>
    rw [List.foldl_append, ih]
    cases w <;> simp [overwrite, Write.scalars?, Write.texture?]

/-- A write changes its kind of value, exactly where it reaches, and over any run each
value of a parameter is that of the last write of its kind that the parameter was
brought, or the one it was made with. -/
theorem pushes_run (ops : List ParameterOp) :
    (∀ id, (({} : Parameters).run ops).alive id = true →
      (∀ numbers, (({} : Parameters).run ops).PushesScalars id numbers) ∧
        ∀ texture, (({} : Parameters).run ops).PushesTexture id texture) ∧
    ∀ q p, (({} : Parameters).run ops).get? q = some p →
      p.scalars = ((history q {} ops).filterMap Write.scalars?).getLast?.getD (.ofList []) ∧
      p.texture = ((history q {} ops).filterMap Write.texture?).getLast?.getD none := by
  refine ⟨?_, ?_⟩
  · intro id hid
    exact ⟨(wellAttached_run ops).pushesScalars hid, (wellAttached_run ops).pushesTexture hid⟩
  · intro q p hp
    have hvalues := values_run ops hp
    rw [foldl_overwrite] at hvalues
    exact Prod.mk.inj hvalues

/-- What is shared on two ways arrives once it is written, whichever way it takes. -/
theorem pushes_diamond :
    (((({} : Parameters).run [.createVirtual "top" .float2, .createVirtual "left" .float2,
      .createVirtual "right" .float2, .declare "leaf" .float2 "effect", .attach ⟨0⟩ ⟨1⟩,
      .attach ⟨0⟩ ⟨2⟩, .attach ⟨1⟩ ⟨3⟩, .attach ⟨2⟩ ⟨3⟩]).setScalars ⟨0⟩ [1, 2]).get? ⟨3⟩).map
        (·.scalars.toList) = some ([1, 2] ++ List.replicate 14 0) := by
  have h := pushes_run [.createVirtual "top" .float2, .createVirtual "left" .float2,
    .createVirtual "right" .float2, .declare "leaf" .float2 "effect", .attach ⟨0⟩ ⟨1⟩,
    .attach ⟨0⟩ ⟨2⟩, .attach ⟨1⟩ ⟨3⟩, .attach ⟨2⟩ ⟨3⟩]
  generalize hps : ({} : Parameters).run [.createVirtual "top" .float2,
    .createVirtual "left" .float2, .createVirtual "right" .float2,
    .declare "leaf" .float2 "effect", .attach ⟨0⟩ ⟨1⟩, .attach ⟨0⟩ ⟨2⟩, .attach ⟨1⟩ ⟨3⟩,
    .attach ⟨2⟩ ⟨3⟩] = ps at h ⊢
  have htop : ps.attachments ⟨0⟩ = [⟨1⟩, ⟨2⟩] := by
    rw [← hps]
    cbv
  have hleft : ps.attachments ⟨1⟩ = [⟨3⟩] := by
    rw [← hps]
    cbv
  have hfirst : ps.Edge ⟨0⟩ ⟨1⟩ := by
    rw [Edge, htop]
    exact List.mem_cons_self
  have hsecond : ps.Edge ⟨1⟩ ⟨3⟩ := by
    rw [Edge, hleft]
    exact List.mem_singleton_self _
  exact ((h.1 ⟨0⟩ hfirst.alive_source).1 [1, 2]).reached ⟨3⟩ (.tail (.single hfirst) hsecond)

end Parameters

end ShaderEffects
