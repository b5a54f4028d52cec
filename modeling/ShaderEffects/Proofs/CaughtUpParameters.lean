import ShaderEffects.Proofs.LastWrites
import ShaderEffects.Proofs.LeafParameters

/-!
# What a new attachment catches up on

A parameter that is newly attached to a virtual one is to hold what was written there before.
Only one flag says that anything was written, so both kinds of values are handed on once one
of them was: numbers that nobody wrote replace those of the new follower. And a texture is
handed on only if there is one, so that one which was taken away stays with the follower.
Apart from these two cases the follower is up to date, with all that can be reached from it.
-/
namespace ShaderEffects.Parameters

/-! ## What was ever written -/

/-- Numbers were written to the parameter, or to one from which they reached it. -/
def WroteScalars (ops : List ParameterOp) (q : ParameterId) : Prop :=
  ∃ numbers, .scalars numbers ∈ history q {} ops

/-- A texture was written to the parameter, or taken away from it, or this reached it. -/
def WroteTexture (ops : List ParameterOp) (q : ParameterId) : Prop :=
  ∃ texture, .texture texture ∈ history q {} ops

/-- What is written to a living parameter itself counts. -/
theorem wroteScalars_of_setScalars (before later : List ParameterOp) {q : ParameterId}
    (hq : (({} : Parameters).run before).alive q = true) (numbers : List Float32) :
    WroteScalars (before ++ .setScalars q numbers :: later) q := by
  refine ⟨.ofList numbers, ?_⟩
  rw [history_append, history, brought, if_pos ⟨hq, .refl⟩]
  simp

theorem wroteTexture_of_setTexture (before later : List ParameterOp) {q : ParameterId}
    (hq : (({} : Parameters).run before).alive q = true) (texture : Option (Handle Texture)) :
    WroteTexture (before ++ .setTexture q texture :: later) q := by
  refine ⟨texture, ?_⟩
  rw [history_append, history, brought, if_pos ⟨hq, .refl⟩]
  simp

/-- A parameter is marked once it received a value of either kind. -/
theorem written_iff (ops : List ParameterOp) {q : ParameterId} {p : Parameter}
    (hp : (({} : Parameters).run ops).get? q = some p) :
    p.written = true ↔ WroteScalars ops q ∨ WroteTexture ops q := by
  rw [written_run ops hp]
  constructor
  · intro hne
    obtain ⟨w, hw⟩ := List.exists_mem_of_ne_nil _ hne
    cases w with
    | scalars numbers => exact Or.inl ⟨numbers, hw⟩
    | texture texture => exact Or.inr ⟨texture, hw⟩
  · rintro (⟨_, hw⟩ | ⟨_, hw⟩) <;> exact List.ne_nil_of_mem hw

/-- Where no texture was written there is none. -/
theorem texture_of_not_wroteTexture (ops : List ParameterOp) {q : ParameterId} {p : Parameter}
    (hp : (({} : Parameters).run ops).get? q = some p) (h : ¬ WroteTexture ops q) :
    p.texture = none := by
  have hvalues := values_run ops hp
  rw [foldl_overwrite] at hvalues
  have hnone : (history q {} ops).filterMap Write.texture? = [] := by
    rw [List.filterMap_eq_nil_iff]
    intro w hw
    cases w with
    | scalars numbers => rfl
    | texture texture => exact absurd ⟨texture, hw⟩ h
  rw [hnone] at hvalues
  exact congrArg Prod.snd hvalues

/-! ## What is handed on -/

theorem overwrite_handedOn (t : Parameter) (v : Scalars × Option (Handle Texture)) :
    (handedOn t).foldl overwrite v =
      if t.written then (t.scalars, t.texture <|> v.2) else v := by
  unfold handedOn
  split_ifs
  · cases t.texture <;> rfl
  · rfl

section links

variable {ps : Parameters} {target source : ParameterId}

/-- An attachment that was made joins two living parameters and closes no cycle. -/
theorem Links.cases (h : ps.Links target source) :
    ∃ t s, ps.get? target = some t ∧ ps.get? source = some s ∧ ¬ ps.Reaches source target ∧
      ps.perform (.attach target source) =
        (ps.put target (ps.extended t source)).writeAll source (handedOn t) := by
  obtain ⟨hnew, hmade⟩ := h
  cases ht : ps.get? target with
  | none =>
    rw [perform, attach_of_not_alive (Or.inl ht)] at hmade
    exact absurd hmade hnew
  | some t =>
    cases hs : ps.get? source with
    | none =>
      rw [perform, attach_of_not_alive (Or.inr hs)] at hmade
      exact absurd hmade hnew
    | some s =>
      rcases attach_cases ht hs with ⟨_, heq⟩ | ⟨_, _, heq⟩ | ⟨_, _, hold, _⟩ | ⟨_, hr, _, heq⟩
      · rw [perform, heq] at hmade
        exact absurd hmade hnew
      · rw [perform, heq] at hmade
        exact absurd hmade hnew
      · exact absurd hold hnew
      · exact ⟨t, s, rfl, rfl, hr, by rw [perform, heq]⟩

/-- A new attachment changes no way that starts at the follower. -/
theorem Links.reaches_iff (h : ps.Links target source) (q : ParameterId) :
    (ps.perform (.attach target source)).Reaches source q ↔ ps.Reaches source q := by
  obtain ⟨t, s, ht, hs, hr, heq⟩ := h.cases
  rw [heq, ← reaches_put_extended_iff ht (alive_of_get? hs) hr q, Reaches, Reaches, edge_writeAll]

theorem alive_writeAll (ps : Parameters) (id : ParameterId) (ws : List Write) :
    (ps.writeAll id ws).alive = ps.alive := by
  induction ws generalizing ps with
  | nil => rfl
  | cons w ws ih => exact (ih (ps.write id w)).trans (alive_write ps id w)

/-- The target of a new attachment keeps its values. -/
theorem Links.target_values (h : ps.Links target source) {t : Parameter}
    (ht : ps.get? target = some t) :
    ∃ t', (ps.perform (.attach target source)).get? target = some t' ∧
      t'.scalars = t.scalars ∧ t'.texture = t.texture := by
  obtain ⟨t₀, s, ht₀, hs, hr, heq⟩ := h.cases
  obtain rfl : t₀ = t := Option.some.inj (ht₀.symm.trans ht)
  have halive : (ps.put target (ps.extended t₀ source)).alive source = true := by
    rw [alive_put ht]
    exact alive_of_get? hs
  have hthere : (ps.perform (.attach target source)).alive target = true := by
    rw [heq, alive_writeAll, alive_put ht]
    exact alive_of_get? ht
  obtain ⟨t', ht'⟩ := (alive_iff _ _).mp hthere
  refine ⟨t', ht', ?_⟩
  rw [heq] at ht'
  obtain ⟨c, hc, _, hother⟩ := get?_writeAll halive _ ht'
  rw [reaches_put_extended_iff ht (alive_of_get? hs) hr] at hother
  rw [get?_put, if_pos rfl] at hc
  cases hc
  rw [hother hr]
  exact ⟨rfl, rfl⟩

/-- What is reached from the new follower gets the values of the target if it was written to,
but for a texture that the target has not. -/
theorem Links.reached_values (h : ps.Links target source) {t : Parameter}
    (ht : ps.get? target = some t) {q : ParameterId} (hq : ps.Reaches source q) :
    ∃ p p', ps.get? q = some p ∧ (ps.perform (.attach target source)).get? q = some p' ∧
      p'.scalars = (if t.written then t.scalars else p.scalars) ∧
      p'.texture = if t.written then t.texture <|> p.texture else p.texture := by
  obtain ⟨t₀, s, ht₀, hs, _, heq⟩ := h.cases
  obtain rfl : t₀ = t := Option.some.inj (ht₀.symm.trans ht)
  have hthere : (ps.perform (.attach target source)).alive q = true := by
    rw [heq, alive_writeAll, alive_put ht]
    exact hq.alive (alive_of_get? hs)
  obtain ⟨p', hp'⟩ := (alive_iff _ _).mp hthere
  obtain ⟨p, hp, hbecame⟩ := became_attach hp'
  have hvalues := hbecame.values
  simp only [brought, ht, h, hq, and_self, if_true] at hvalues
  rw [overwrite_handedOn] at hvalues
  refine ⟨p, p', hp, hp', (congrArg Prod.fst hvalues).trans ?_, (congrArg Prod.snd hvalues).trans ?_⟩
  · split_ifs <;> rfl
  · split_ifs <;> rfl

end links

/-! ## Being up to date -/

/-- What attaching should make of one kind of value: if it was ever written, the follower and
all that can be reached from it have the value of the target, else they keep their own. -/
structure CatchesUp {α : Type} (wrote : Prop) (value : Parameter → α) (ps ps' : Parameters)
    (target source : ParameterId) : Prop where
  shared : wrote → ∀ q, ps'.Reaches source q →
    (ps'.get? q).map value = (ps'.get? target).map value
  left : ¬ wrote → ∀ q, ps'.Reaches source q → (ps'.get? q).map value = (ps.get? q).map value

/-- A kind of value that attaching leaves with the target, and of which it makes `handed` in all
that can be reached from the follower, catches up if `handed` gives what is asked for. -/
theorem Links.catchesUp_iff {α : Type} {value : Parameter → α} {wrote : Prop} {ps : Parameters}
    {target source : ParameterId} (h : ps.Links target source) (handed : α → α) {t : Parameter}
    (htarget : ((ps.perform (.attach target source)).get? target).map value = some (value t))
    (hreached : ∀ q, ps.Reaches source q → ∃ p p', ps.get? q = some p ∧
      (ps.perform (.attach target source)).get? q = some p' ∧ value p' = handed (value p)) :
    CatchesUp wrote value ps (ps.perform (.attach target source)) target source ↔
      ∀ q p, ps.Reaches source q → ps.get? q = some p →
        (wrote → handed (value p) = value t) ∧ (¬ wrote → handed (value p) = value p) := by
  constructor
  · intro hcatches q p hq hp
    obtain ⟨p₀, p', hp₀, hp', hvalue⟩ := hreached q hq
    obtain rfl : p₀ = p := Option.some.inj (hp₀.symm.trans hp)
    refine ⟨fun hwrote => ?_, fun hnever => ?_⟩
    · have hshared := hcatches.shared hwrote q ((h.reaches_iff q).mpr hq)
      rw [hp', htarget] at hshared
      exact hvalue.symm.trans (Option.some.inj hshared)
    · have hleft := hcatches.left hnever q ((h.reaches_iff q).mpr hq)
      rw [hp', hp] at hleft
      exact hvalue.symm.trans (Option.some.inj hleft)
  · intro hhanded
    refine ⟨fun hwrote q hq => ?_, fun hnever q hq => ?_⟩ <;>
      rw [h.reaches_iff] at hq <;>
      obtain ⟨p, p', hp, hp', hvalue⟩ := hreached q hq
    · rw [hp', htarget]
      exact congrArg some (hvalue.trans ((hhanded q p hq hp).1 hwrote))
    · rw [hp', hp]
      exact congrArg some (hvalue.trans ((hhanded q p hq hp).2 hnever))

section run

variable (ops : List ParameterOp) {target source : ParameterId} {t : Parameter}
  (ht : (({} : Parameters).run ops).get? target = some t)
  (hlinks : (({} : Parameters).run ops).Links target source)

include ht hlinks

/-- Numbers catch up unless only a texture was written, so that those of the target are handed
on although nobody wrote them. -/
theorem catchesUp_scalars_iff :
    CatchesUp (WroteScalars ops target) (·.scalars) (({} : Parameters).run ops)
        ((({} : Parameters).run ops).perform (.attach target source)) target source ↔
      (WroteTexture ops target → ¬ WroteScalars ops target →
        ∀ q p, (({} : Parameters).run ops).Reaches source q →
          (({} : Parameters).run ops).get? q = some p → p.scalars = t.scalars) := by
  obtain ⟨t', ht', hscalars, _⟩ := hlinks.target_values ht
  rw [hlinks.catchesUp_iff (fun v => if t.written then t.scalars else v) (t := t)
    (by rw [ht', Option.map_some, hscalars]) fun q hq => ?_]
  · constructor
    · intro h hwrote hnever q p hq hp
      have hsame := (h q p hq hp).2 hnever
      rw [if_pos ((written_iff ops ht).mpr (Or.inr hwrote))] at hsame
      exact hsame.symm
    · intro h q p hq hp
      refine ⟨fun hwrote => if_pos ((written_iff ops ht).mpr (Or.inl hwrote)), fun hnever => ?_⟩
      split_ifs with hwritten
      · have hwrote := ((written_iff ops ht).mp hwritten).resolve_left hnever
        exact (h hwrote hnever q p hq hp).symm
      · rfl
  · obtain ⟨p, p', hp, hp', hvalue, _⟩ := hlinks.reached_values ht hq
    exact ⟨p, p', hp, hp', hvalue⟩

/-- Textures catch up unless that of the target was taken away, so that there is none to hand
on. -/
theorem catchesUp_texture_iff :
    CatchesUp (WroteTexture ops target) (·.texture) (({} : Parameters).run ops)
        ((({} : Parameters).run ops).perform (.attach target source)) target source ↔
      (WroteTexture ops target → t.texture = none →
        ∀ q p, (({} : Parameters).run ops).Reaches source q →
          (({} : Parameters).run ops).get? q = some p → p.texture = none) := by
  obtain ⟨t', ht', _, htexture⟩ := hlinks.target_values ht
  rw [hlinks.catchesUp_iff (fun v => if t.written then t.texture <|> v else v) (t := t)
    (by rw [ht', Option.map_some, htexture]) fun q hq => ?_]
  · constructor
    · intro h hwrote hgone q p hq hp
      have hsame := (h q p hq hp).1 hwrote
      rwa [if_pos ((written_iff ops ht).mpr (Or.inr hwrote)), hgone] at hsame
    · intro h q p hq hp
      refine ⟨fun hwrote => ?_, fun hnever => ?_⟩
      · rw [if_pos ((written_iff ops ht).mpr (Or.inr hwrote))]
        cases hgone : t.texture with
        | some texture => rfl
        | none => exact h hwrote hgone q p hq hp
      · rw [texture_of_not_wroteTexture ops ht hnever]
        split_ifs <;> rfl
  · obtain ⟨p, p', hp, hp', _, hvalue⟩ := hlinks.reached_values ht hq
    exact ⟨p, p', hp, hp', hvalue⟩

end run

/-- After a row of operations, attaching `source` to `target` brings it up to date. -/
structure BringsUpToDate (ops : List ParameterOp) (target source : ParameterId) : Prop where
  scalars : CatchesUp (WroteScalars ops target) (·.scalars) (({} : Parameters).run ops)
    ((({} : Parameters).run ops).perform (.attach target source)) target source
  texture : CatchesUp (WroteTexture ops target) (·.texture) (({} : Parameters).run ops)
    ((({} : Parameters).run ops).perform (.attach target source)) target source

/-- A new attachment brings the follower up to date unless the target was given a texture. If
this was taken away again, what can be reached from the follower must have none. If numbers
were never written to the target, what can be reached must have just those of the target. -/
theorem bringsUpToDate_iff (ops : List ParameterOp) {target source : ParameterId} {t : Parameter}
    (ht : (({} : Parameters).run ops).get? target = some t)
    (hlinks : (({} : Parameters).run ops).Links target source) :
    BringsUpToDate ops target source ↔
      (WroteTexture ops target → t.texture = none →
        ∀ q p, (({} : Parameters).run ops).Reaches source q →
          (({} : Parameters).run ops).get? q = some p → p.texture = none) ∧
      (WroteTexture ops target → ¬ WroteScalars ops target →
        ∀ q p, (({} : Parameters).run ops).Reaches source q →
          (({} : Parameters).run ops).get? q = some p → p.scalars = t.scalars) := by
  rw [← catchesUp_texture_iff ops ht hlinks, ← catchesUp_scalars_iff ops ht hlinks]
  exact ⟨fun h => ⟨h.texture, h.scalars⟩, fun ⟨htexture, hscalars⟩ => ⟨hscalars, htexture⟩⟩

/-- A parameter that is attached gets the numbers that were written before. -/
theorem bringsUpToDate_numbers :
    BringsUpToDate [.createVirtual "shared" .float1, .declare "own" .float1 "fx",
      .setScalars ⟨0⟩ [5]] ⟨0⟩ ⟨1⟩ := by
  have h := @bringsUpToDate_iff [.createVirtual "shared" .float1, .declare "own" .float1 "fx",
    .setScalars ⟨0⟩ [5]] ⟨0⟩ ⟨1⟩
  have hwrote : WroteScalars [.createVirtual "shared" .float1, .declare "own" .float1 "fx",
      .setScalars ⟨0⟩ [5]] ⟨0⟩ :=
    wroteScalars_of_setScalars [.createVirtual "shared" .float1, .declare "own" .float1 "fx"] []
      (by decide +kernel) [5]
  generalize hps : ({} : Parameters).run [.createVirtual "shared" .float1,
    .declare "own" .float1 "fx", .setScalars ⟨0⟩ [5]] = ps at h
  have hown : (ps.get? ⟨1⟩).map (fun p => (p.attached, p.texture)) = some ([], none) := by
    rw [← hps]
    decide +kernel
  have hbefore : ps.attachments ⟨0⟩ = [] := by
    rw [← hps]
    decide +kernel
  have hafter : (ps.perform (.attach ⟨0⟩ ⟨1⟩)).attachments ⟨0⟩ = [⟨1⟩] := by
    rw [← hps]
    decide +kernel
  have hlinks : ps.Links ⟨0⟩ ⟨1⟩ := by
    rw [Links, Edge, Edge, hbefore, hafter]
    exact ⟨List.not_mem_nil, List.mem_singleton_self _⟩
  obtain ⟨t, _, ht, _⟩ := hlinks.cases
  obtain ⟨p, hp, hvalues⟩ := Option.map_eq_some_iff.mp hown
  obtain ⟨hleaf, hnone⟩ := Prod.mk.inj hvalues
  refine (h ht hlinks).mpr ⟨fun _ _ q p' hq hp' => ?_, fun _ hnever => absurd hwrote hnever⟩
  obtain rfl := eq_of_reaches_leaf hp hleaf hq
  obtain rfl : p = p' := Option.some.inj (hp.symm.trans hp')
  exact hnone

/-- A sampler that is attached keeps its texture although that of the target was taken away. -/
theorem not_bringsUpToDate_cleared :
    ¬ BringsUpToDate [.createVirtual "shared" .sampler2D, .declare "own" .sampler2D "fx",
      .setTexture ⟨0⟩ (some ⟨4⟩), .setTexture ⟨0⟩ none, .setTexture ⟨1⟩ (some ⟨2⟩)] ⟨0⟩ ⟨1⟩ := by
  intro h
  have hwrote : WroteTexture [.createVirtual "shared" .sampler2D, .declare "own" .sampler2D "fx",
      .setTexture ⟨0⟩ (some ⟨4⟩), .setTexture ⟨0⟩ none, .setTexture ⟨1⟩ (some ⟨2⟩)] ⟨0⟩ :=
    wroteTexture_of_setTexture [.createVirtual "shared" .sampler2D,
      .declare "own" .sampler2D "fx"] [.setTexture ⟨0⟩ none, .setTexture ⟨1⟩ (some ⟨2⟩)]
      (by decide +kernel) _
  have hshared := h.texture.shared hwrote ⟨1⟩ .refl
  revert hshared
  decide +kernel

end ShaderEffects.Parameters
