import ShaderEffects.Proofs.HostRuns
import ShaderEffects.Proofs.LeafParameters

/-!
# How the parameters of an effect join those of a session

A registered name stands for a virtual parameter. Linking attaches each new parameter of
an effect to the virtual one that it asks to follow, if there is one of its type, and
hands on what that one holds. All other parameters keep what they hold; a virtual one
gets its new followers at the end of those it has.
-/
namespace ShaderEffects

namespace Parameters

/-- Registered names stand for virtual parameters of these names, as long as they are
alive. -/
structure Registered (ps : Parameters) : Prop where
  number_lt : ∀ name id, ps.named? name = some id → id.number < ps.made
  named : ∀ name id p, ps.named? name = some id → ps.get? id = some p →
    p.isVirtual = true ∧ p.name = name

theorem registered_empty : Registered {} where
  number_lt := fun _ _ h => by cases h
  named := fun _ _ _ h => by cases h

theorem find?_eq_some_iff (ps : Parameters) (name : String) (type : ParameterType)
    (id : ParameterId) :
    ps.find? name type = some id ↔
      ps.named? name = some id ∧ ∃ p, ps.get? id = some p ∧ p.type = type := by
  unfold find?
  cases hname : ps.named? name with
  | none => simp
  | some known =>
    simp only [Option.map_eq_some_iff, Option.some.injEq]
    constructor
    · intro h
      split_ifs at h with htype
      cases h
      exact ⟨rfl, htype⟩
    · rintro ⟨rfl, htype⟩
      rw [if_pos htype]

/-- The virtual parameter that a parameter of an effect asks to follow, if there is one of
its type. -/
def followed? (ps : Parameters) (ep : EffectParameter) : Option ParameterId :=
  (Directive.globalLink? ep.directives).bind fun global => ps.find? global ep.type

/-- The parameters of a row that ask to follow `q`. -/
def followers (ps : Parameters) (row : List EffectParameter) (q : ParameterId) :
    List ParameterId :=
  (row.filter fun ep => ps.followed? ep = some q).map (·.id)

theorem mem_followers_iff (ps : Parameters) (row : List EffectParameter) (q id : ParameterId) :
    id ∈ ps.followers row q ↔ ∃ ep ∈ row, ps.followed? ep = some q ∧ ep.id = id := by
  simp [followers, and_assoc]

/-- A parameter with new followers. The gone are forgotten where there are any. -/
def joined (ps : Parameters) (new : List ParameterId) (p : Parameter) : Parameter :=
  if new.isEmpty then p else { p with attached := p.attached.filter ps.alive ++ new }

@[simp] theorem joined_nil (ps : Parameters) (p : Parameter) : ps.joined [] p = p := rfl

theorem joined_eq (ps : Parameters) (new : List ParameterId) (p : Parameter) :
    ps.joined new p = { p with attached := (ps.joined new p).attached } := by
  unfold joined
  split_ifs <;> rfl

/-- Followers that join in two lots join as one. -/
theorem joined_joined {ps ps' : Parameters} (halive : ps'.alive = ps.alive)
    {first : List ParameterId} (hfirst : ∀ id ∈ first, ps.alive id = true)
    (second : List ParameterId) (p : Parameter) :
    ps'.joined second (ps.joined first p) = ps.joined (first ++ second) p := by
  unfold joined
  rw [halive]
  cases first with
  | nil => simp
  | cons id rest =>
    cases second with
    | nil => simp
    | cons id' rest' =>
      have hkept : (id :: rest).filter ps.alive = id :: rest := List.filter_eq_self.mpr hfirst
      simp only [List.isEmpty_cons, List.cons_append, Bool.false_eq_true, if_false,
        List.filter_append, List.filter_filter, Bool.and_self, hkept, List.append_assoc]

/-- What a parameter holds once it follows whom it asks to follow. -/
def taught (ps : Parameters) (ep : EffectParameter) (p : Parameter) : Parameter :=
  match (ps.followed? ep).bind ps.get? with
  | some t => t.caughtUp p
  | none => p

/-- The parameters of a row are alive and differ, and nothing can be attached to them. -/
structure Leaves (ps : Parameters) (row : List EffectParameter) : Prop where
  nodup : (row.map (·.id)).Nodup
  leaf : ∀ ep ∈ row, ∃ p, ps.get? ep.id = some p ∧ p.attached = [] ∧ p.isVirtual = false

/-- Leaves that are attached to nothing. -/
structure Loose (ps : Parameters) (row : List EffectParameter) : Prop
    extends Leaves ps row where
  detached : ∀ ep ∈ row, ∀ a p, ps.get? a = some p → ep.id ∉ p.attached

/-- What becomes of parameters when those of a row follow whom they ask to follow. -/
structure Joins (ps : Parameters) (row : List EffectParameter) (ps' : Parameters) : Prop where
  made : ps'.made = ps.made
  names : ps'.names = ps.names
  others : ∀ q, (∀ ep ∈ row, q ≠ ep.id) →
    ps'.get? q = (ps.get? q).map (ps.joined (ps.followers row q))
  own : ∀ ep ∈ row, ∀ p, ps.get? ep.id = some p → ps'.get? ep.id = some (ps.taught ep p)

theorem joins_nil (ps : Parameters) : ps.Joins [] ps where
  made := rfl
  names := rfl
  others := fun q _ => by cases h : ps.get? q <;> simp [followers]
  own := fun _ h => absurd h List.not_mem_nil

section caughtUp

variable (t p : Parameter)

theorem caughtUp_keeps : (t.caughtUp p).name = p.name ∧ (t.caughtUp p).type = p.type ∧
    (t.caughtUp p).origin = p.origin ∧ (t.caughtUp p).attached = p.attached ∧
    (t.caughtUp p).owners = p.owners := by
  unfold Parameter.caughtUp
  split_ifs <;> exact ⟨rfl, rfl, rfl, rfl, rfl⟩

end caughtUp

theorem taught_keeps (ps : Parameters) (ep : EffectParameter) (p : Parameter) :
    (ps.taught ep p).name = p.name ∧ (ps.taught ep p).type = p.type ∧
      (ps.taught ep p).origin = p.origin ∧ (ps.taught ep p).attached = p.attached ∧
      (ps.taught ep p).owners = p.owners := by
  unfold taught
  cases (ps.followed? ep).bind ps.get? with
  | none => exact ⟨rfl, rfl, rfl, rfl, rfl⟩
  | some t => exact caughtUp_keeps t p

section joins

variable {ps ps' ps'' : Parameters} {row : List EffectParameter}

/-- Every parameter stays, and keeps what it holds but for what is attached, or is one of
the row. -/
theorem Joins.cell (h : ps.Joins row ps') (hloose : ps.Loose row) (q : ParameterId) :
    ps'.get? q = (ps.get? q).map (ps.joined (ps.followers row q)) ∨
      ∃ ep ∈ row, ∃ p, q = ep.id ∧ ps.get? q = some p ∧ p.attached = [] ∧
        ps'.get? q = some (ps.taught ep p) := by
  by_cases hq : ∃ ep ∈ row, q = ep.id
  · obtain ⟨ep, hep, rfl⟩ := hq
    obtain ⟨p, hp, hleaf, _⟩ := hloose.leaf ep hep
    exact Or.inr ⟨ep, hep, p, rfl, hp, hleaf, h.own ep hep p hp⟩
  · exact Or.inl (h.others q fun ep hep heq => hq ⟨ep, hep, heq⟩)

theorem Joins.alive (h : ps.Joins row ps') (hloose : ps.Loose row) : ps'.alive = ps.alive := by
  funext q
  refine Bool.eq_iff_iff.mpr ?_
  rw [alive_iff, alive_iff]
  rcases h.cell hloose q with heq | ⟨ep, _, p, _, hp, _, heq⟩
  · rw [heq]
    simp
  · simp [heq, hp]

theorem Joins.type (h : ps.Joins row ps') (hloose : ps.Loose row) (q : ParameterId) :
    (ps'.get? q).map (·.type) = (ps.get? q).map (·.type) := by
  rcases h.cell hloose q with heq | ⟨ep, _, p, _, hp, _, heq⟩
  · rw [heq, Option.map_map]
    congr 1
    funext p
    simp only [Function.comp_apply]
    rw [joined_eq]
  · rw [heq, hp, Option.map_some, Option.map_some, (taught_keeps ps ep p).2.1]

/-- Which virtual parameters there are does not depend on who follows whom. -/
theorem Joins.find? (h : ps.Joins row ps') (hloose : ps.Loose row) : ps'.find? = ps.find? := by
  funext name type
  unfold Parameters.find? named?
  rw [h.names]
  cases ps.names.get? name with
  | none => rfl
  | some id => simp only [h.type hloose id]

theorem Joins.followed? (h : ps.Joins row ps') (hloose : ps.Loose row) :
    ps'.followed? = ps.followed? := by
  funext ep
  simp only [Parameters.followed?, h.find? hloose]

end joins

/-- Whom a parameter asks to follow is virtual. -/
theorem Registered.followed {ps : Parameters} (h : ps.Registered) {ep : EffectParameter}
    {q : ParameterId} (hq : ps.followed? ep = some q) :
    ∃ t, ps.get? q = some t ∧ t.isVirtual = true ∧ t.type = ep.type := by
  obtain ⟨global, _, hfind⟩ := Option.bind_eq_some_iff.mp hq
  obtain ⟨hname, t, ht, htype⟩ := (ps.find?_eq_some_iff _ _ _).mp hfind
  exact ⟨t, ht, (h.named _ _ _ hname ht).1, htype⟩

/-- Only a virtual parameter gets followers. -/
theorem Registered.followers_eq_nil {ps : Parameters} (h : ps.Registered)
    (row : List EffectParameter) {q : ParameterId} {p : Parameter} (hp : ps.get? q = some p)
    (hnot : p.isVirtual = false) : ps.followers row q = [] := by
  refine List.eq_nil_iff_forall_not_mem.mpr fun id hid => ?_
  obtain ⟨ep, _, hfollowed, _⟩ := (ps.mem_followers_iff _ _ _).mp hid
  obtain ⟨t, ht, hvirtual, _⟩ := h.followed hfollowed
  rw [hp] at ht
  cases ht
  rw [hnot] at hvirtual
  cases hvirtual

theorem Registered.joins {ps ps' : Parameters} {row : List EffectParameter} (h : ps.Registered)
    (hloose : ps.Loose row) (hjoins : ps.Joins row ps') : ps'.Registered := by
  have hnamed : ∀ name, ps'.named? name = ps.named? name := fun name => by
    unfold named?
    rw [hjoins.names]
  refine ⟨fun name id hname => ?_, fun name id p' hname hp' => ?_⟩
  · rw [hjoins.made]
    exact h.number_lt name id (hnamed name ▸ hname)
  · rw [hnamed] at hname
    rcases hjoins.cell hloose id with heq | ⟨ep, _, p, _, hp, _, heq⟩
    · rw [hp'] at heq
      obtain ⟨p, hp, rfl⟩ := Option.map_eq_some_iff.mp heq.symm
      rw [joined_eq]
      exact h.named name id p hname hp
    · rw [hp'] at heq
      cases heq
      obtain ⟨hname', _, horigin, _⟩ := taught_keeps ps ep p
      have hvirtual := h.named name id p hname hp
      exact ⟨by simpa [Parameter.isVirtual, horigin] using hvirtual.1, hname'.trans hvirtual.2⟩

/-- No parameter of the row is asked to be followed. -/
theorem Loose.followers_eq_nil {ps : Parameters} {row : List EffectParameter}
    (hloose : ps.Loose row) (h : ps.Registered) {ep : EffectParameter} (hep : ep ∈ row)
    (others : List EffectParameter) : ps.followers others ep.id = [] := by
  refine List.eq_nil_iff_forall_not_mem.mpr fun id hid => ?_
  obtain ⟨other, _, hother, _⟩ := (ps.mem_followers_iff _ _ _).mp hid
  obtain ⟨t, ht, hvirtual, _⟩ := h.followed hother
  obtain ⟨p, hp, _, hnot⟩ := hloose.leaf ep hep
  rw [hp] at ht
  cases ht
  rw [hvirtual] at hnot
  cases hnot

section row

variable {ps : Parameters} {ep : EffectParameter} {rest : List EffectParameter}

theorem Leaves.tail (h : ps.Leaves (ep :: rest)) : ps.Leaves rest where
  nodup := (List.nodup_cons.mp h.nodup).2
  leaf := fun other hother => h.leaf other (List.mem_cons_of_mem ep hother)

theorem Leaves.head (h : ps.Leaves (ep :: rest)) : ps.Leaves [ep] where
  nodup := List.nodup_singleton _
  leaf := fun other hother => h.leaf other (by simp_all)

theorem Leaves.id_ne (h : ps.Leaves (ep :: rest)) {other : EffectParameter}
    (hother : other ∈ rest) : other.id ≠ ep.id := by
  intro heq
  have hmem : other.id ∈ rest.map (·.id) := List.mem_map_of_mem hother
  rw [heq] at hmem
  exact (List.nodup_cons.mp h.nodup).1 hmem

theorem Loose.tail (h : ps.Loose (ep :: rest)) : ps.Loose rest where
  toLeaves := h.toLeaves.tail
  detached := fun other hother => h.detached other (List.mem_cons_of_mem ep hother)

theorem Loose.head (h : ps.Loose (ep :: rest)) : ps.Loose [ep] where
  toLeaves := h.toLeaves.head
  detached := fun other hother => h.detached other (by simp_all)

end row

section cons

variable {ps ps' ps'' : Parameters} {ep : EffectParameter} {rest : List EffectParameter}
  (hloose : ps.Loose (ep :: rest)) (h : ps.Registered) (hfirst : ps.Joins [ep] ps')

include hloose h hfirst

/-- The rest of a row holds what it held when the first of it follows someone. -/
theorem Joins.get?_rest {other : EffectParameter} (hother : other ∈ rest) :
    ps'.get? other.id = ps.get? other.id := by
  rw [hfirst.others other.id fun ep' hep' => by
    rw [List.mem_singleton.mp hep']
    exact hloose.id_ne hother]
  rw [hloose.followers_eq_nil h (List.mem_cons_of_mem ep hother)]
  cases ps.get? other.id <;> rfl

/-- The rest of a row is as loose as before once the first of it follows someone. -/
theorem Loose.joins : ps'.Loose rest := by
  refine ⟨⟨hloose.tail.nodup, fun other hother => ?_⟩, fun other hother a p' hp' hmem => ?_⟩
  · rw [hfirst.get?_rest hloose h hother]
    exact hloose.tail.leaf other hother
  · rcases hfirst.cell hloose.head a with heq | ⟨ep', _, p, _, _, hleaf, heq⟩
    · rw [hp'] at heq
      obtain ⟨p, hp, rfl⟩ := Option.map_eq_some_iff.mp heq.symm
      have hold := hloose.tail.detached other hother a p hp
      unfold joined at hmem
      split_ifs at hmem
      · exact hold hmem
      · rcases List.mem_append.mp hmem with hkept | hnew
        · exact hold (List.mem_of_mem_filter hkept)
        · obtain ⟨ep', hep', _, hid⟩ := (ps.mem_followers_iff _ _ _).mp hnew
          rw [List.mem_singleton.mp hep'] at hid
          exact hloose.id_ne hother hid.symm
    · rw [hp'] at heq
      cases heq
      rw [(taught_keeps ps ep' p).2.2.2.1, hleaf] at hmem
      exact absurd hmem List.not_mem_nil

/-- A row joins one parameter after the other. -/
theorem Joins.cons (hrest : ps'.Joins rest ps'') : ps.Joins (ep :: rest) ps'' := by
  have halive := hfirst.alive hloose.head
  have hfollowed := hfirst.followed? hloose.head
  have hfollowers : ∀ q, ps'.followers rest q = ps.followers rest q := fun q => by
    unfold followers
    rw [hfollowed]
  have happend : ∀ q, ps.followers (ep :: rest) q = ps.followers [ep] q ++ ps.followers rest q :=
    fun q => by
      unfold followers
      rw [← List.map_append, ← List.filter_append]
      rfl
  have hnew : ∀ q, ∀ id ∈ ps.followers [ep] q, ps.alive id = true := fun q id hid => by
    obtain ⟨ep', hep', _, rfl⟩ := (ps.mem_followers_iff _ _ _).mp hid
    obtain ⟨p, hp, _⟩ := hloose.head.leaf ep' hep'
    exact alive_of_get? hp
  refine ⟨hrest.made.trans hfirst.made, hrest.names.trans hfirst.names, fun q hq => ?_,
    fun other hother p hp => ?_⟩
  · rw [hrest.others q fun other hother => hq other (List.mem_cons_of_mem ep hother),
      hfirst.others q fun ep' hep' => hq ep' (List.mem_singleton.mp hep' ▸ List.mem_cons_self),
      Option.map_map, hfollowers, happend]
    congr 1
    funext p
    exact joined_joined halive (hnew q) _ p
  · rcases List.mem_cons.mp hother with rfl | hmem
    · rw [hrest.others other.id fun _ hep => (hloose.id_ne hep).symm,
        hfirst.own other List.mem_cons_self p hp, hfollowers,
        hloose.followers_eq_nil h List.mem_cons_self]
      rfl
    · rw [hrest.own other hmem p (by rw [hfirst.get?_rest hloose h hmem, hp])]
      -- whom it follows may have got a follower more, but holds what it held
      unfold taught
      rw [hfollowed]
      cases hq : ps.followed? other with
      | none => rfl
      | some q =>
        obtain ⟨t, ht, hvirtual, _⟩ := h.followed hq
        have hne : ∀ ep' ∈ [ep], q ≠ ep'.id := by
          rintro ep' hep' rfl
          obtain ⟨p', hp', _, hnot⟩ := hloose.head.leaf ep' hep'
          rw [ht] at hp'
          cases hp'
          rw [hvirtual] at hnot
          cases hnot
        rw [Option.bind_some, Option.bind_some, hfirst.others q hne, ht, Option.map_some,
          joined_eq]
        rfl

end cons

/-! ## Linking -/

/-- A parameter that follows whom it asks to follow. -/
theorem joins_attach {ps : Parameters} {ep : EffectParameter} {q : ParameterId}
    (hloose : ps.Loose [ep]) (h : ps.Registered) (hq : ps.followed? ep = some q) :
    ∃ ps', ps.attach q ep.id = .ok ps' ∧ ps.Joins [ep] ps' := by
  obtain ⟨t, ht, hvirtual, _⟩ := h.followed hq
  obtain ⟨p, hp, hleaf, hnot⟩ := hloose.leaf ep List.mem_cons_self
  have hne : q ≠ ep.id := by
    rintro rfl
    rw [hp] at ht
    cases ht
    rw [hvirtual] at hnot
    cases hnot
  obtain ⟨ps', hattach, hmade, hnames, hget⟩ := attach_leaf ht hp hvirtual hleaf hne
    (hloose.detached ep List.mem_cons_self q t ht)
  refine ⟨ps', hattach, hmade, hnames, fun other hother => ?_, fun ep' hep' p' hp' => ?_⟩
  · have hother' : other ≠ ep.id := hother ep List.mem_cons_self
    rw [hget, if_neg hother']
    split_ifs with hsame
    · subst hsame
      rw [ht]
      simp [followers, hq, joined, extended, pruned]
    · have hnone : ps.followers [ep] other = [] := by simp [followers, hq, Ne.symm hsame]
      rw [hnone]
      cases ps.get? other <;> rfl
  · rw [List.mem_singleton.mp hep'] at hp' ⊢
    rw [hp] at hp'
    cases hp'
    rw [hget, if_pos rfl, taught, hq, Option.bind_some, ht]

/-- A parameter that follows no one. -/
theorem joins_none {ps : Parameters} {ep : EffectParameter} (h : ps.followed? ep = none) :
    ps.Joins [ep] ps where
  made := rfl
  names := rfl
  others := fun q _ => by
    have hnone : ps.followers [ep] q = [] := by simp [followers, h]
    rw [hnone]
    cases ps.get? q <;> rfl
  own := fun ep' hep' p hp => by
    rw [List.mem_singleton.mp hep'] at hp ⊢
    rw [hp, taught, h]
    rfl

/-- Leaves stay leaves, whomever they follow. -/
theorem Leaves.joins {ps ps' : Parameters} {row : List EffectParameter} (h : ps.Leaves row)
    (hjoins : ps.Joins row ps') : ps'.Leaves row where
  nodup := h.nodup
  leaf := fun ep hep => by
    obtain ⟨p, hp, hleaf, hnot⟩ := h.leaf ep hep
    obtain ⟨_, _, horigin, hattached, _⟩ := taught_keeps ps ep p
    exact ⟨_, hjoins.own ep hep p hp, hattached.trans hleaf,
      by simpa [Parameter.isVirtual, horigin] using hnot⟩

end Parameters

namespace Linking

variable {D : Type}

/-- What is wrong with whom a parameter asks to follow. -/
def globalErrors (ps : Parameters) (ep : EffectParameter) : List LinkError :=
  match Directive.globalLink? ep.directives with
  | none => []
  | some global =>
    if (ps.find? global ep.type).isSome then [] else [.unresolvedGlobal ep.name global ep.type]

/-- What is wrong with a parameter before its texture is looked for. -/
def parameterErrors (ps : Parameters) (ep : EffectParameter) : List LinkError :=
  malformed ep.name ep.directives ++ globalErrors ps ep

theorem linkParameter_joins (effect : String) (l : Linking D) {ep : EffectParameter}
    (hloose : l.engine.parameters.Loose [ep]) (h : l.engine.parameters.Registered) :
    l.engine.parameters.Joins [ep] (linkParameter effect l ep).engine.parameters ∧
      l.engine.Tunes (linkParameter effect l ep).engine ∧
      (linkParameter effect l ep).errors = l.errors ++ parameterErrors l.engine.parameters ep := by
  have hreport : l.engine.Tunes (l.reportMalformed ep.name ep.directives).engine :=
    Engine.tunes_note _ _
  have hparameters : (l.reportMalformed ep.name ep.directives).engine.parameters =
      l.engine.parameters := rfl
  have herrors : (l.reportMalformed ep.name ep.directives).errors =
      l.errors ++ malformed ep.name ep.directives := rfl
  unfold linkParameter parameterErrors globalErrors
  cases hglobal : Directive.globalLink? ep.directives with
  | none =>
    refine ⟨Parameters.joins_none ?_, hreport, by simp [herrors]⟩
    simp [Parameters.followed?, hglobal]
  | some global =>
    simp only [hparameters]
    have hfollowed : l.engine.parameters.followed? ep =
        l.engine.parameters.find? global ep.type := by
      simp [Parameters.followed?, hglobal]
    cases hfind : l.engine.parameters.find? global ep.type with
    | none =>
      rw [hfind] at hfollowed
      refine ⟨Parameters.joins_none hfollowed, hreport.trans (Engine.tunes_note _ _), ?_⟩
      simp [report, note, herrors]
    | some target =>
      rw [hfind] at hfollowed
      obtain ⟨ps', hattach, hjoins⟩ := Parameters.joins_attach hloose h hfollowed
      simp only [hattach]
      refine ⟨hjoins, hreport.trans ⟨ps', _, rfl⟩, ?_⟩
      simp [note, herrors]

/-- Linking the parameters of an effect lets each follow whom it asks to follow, and
reports what is wrong with each. -/
theorem linkParameters_joins (l : Linking D) (effect : Effect)
    (hloose : l.engine.parameters.Loose effect.parameters) (h : l.engine.parameters.Registered) :
    l.engine.parameters.Joins effect.parameters (l.linkParameters effect).engine.parameters ∧
      l.engine.Tunes (l.linkParameters effect).engine ∧
      (l.linkParameters effect).errors =
        l.errors ++ effect.parameters.flatMap (parameterErrors l.engine.parameters) := by
  unfold linkParameters
  generalize effect.parameters = row at hloose ⊢
  induction row generalizing l with
  | nil => exact ⟨Parameters.joins_nil _, .refl _, by simp⟩
  | cons ep rest ih =>
    obtain ⟨hfirst, htunes, herrors⟩ := linkParameter_joins effect.name l hloose.head h
    obtain ⟨hrest, htunes', herrors'⟩ := ih (linkParameter effect.name l ep)
      (h.joins hloose.head hfirst) (hloose.joins h hfirst)
    refine ⟨hfirst.cons hloose h hrest, htunes.trans htunes', ?_⟩
    rw [List.foldl_cons, herrors', herrors, List.flatMap_cons, List.append_assoc]
    have hsame : parameterErrors (linkParameter effect.name l ep).engine.parameters =
        parameterErrors l.engine.parameters := by
      funext other
      unfold parameterErrors globalErrors
      simp only [hfirst.find? hloose.head]
    rw [hsame]

end Linking

end ShaderEffects
