import Mathlib.Data.List.Permutation
import ShaderEffects.Proofs.AttachmentRuns

/-!
# Handing a write on, call by call

A parameter that receives a write keeps it, forgets the attached parameters that
are gone, and hands the write on to the others one after the other, each of
which does the same before the next one is served. Whether attaching would close
a cycle is found by a search that goes down in the same order. Without cycles
both descents come to an end: the write at what `Parameters.write` computes at
once, however often a parameter is served on the way, the search at whether the
parameter it looks for is reached.
-/
namespace ShaderEffects.Parameters

open Relation

/-- Serving a row of parameters with a write leads from some parameters to others.
The tree of a proof is that of the calls. -/
inductive HandsOn (w : Write) : Parameters → List ParameterId → Parameters → Prop
  | done (ps : Parameters) : HandsOn w ps [] ps
  | serve {ps ps₁ ps₂ : Parameters} {id : ParameterId} {rest : List ParameterId} {p : Parameter} :
      ps.get? id = some p →
      HandsOn w (ps.put id (ps.received w p)) (ps.attachments id) ps₁ →
      HandsOn w ps₁ rest ps₂ →
      HandsOn w ps (id :: rest) ps₂

/-- Receiving a write comes to an end and leads from `ps` to `ps'`. -/
def Receives (ps : Parameters) (w : Write) (id : ParameterId) (ps' : Parameters) : Prop :=
  HandsOn w ps [id] ps'

/-- Looking for `goal` among some parameters and behind them has an answer. -/
inductive Searches (ps : Parameters) (goal : ParameterId) : List ParameterId → Bool → Prop
  | done : Searches ps goal [] false
  | found (rest : List ParameterId) : Searches ps goal (goal :: rest) true
  | behind {id : ParameterId} {rest : List ParameterId} :
      id ≠ goal → Searches ps goal (ps.attachments id) true → Searches ps goal (id :: rest) true
  | onward {id : ParameterId} {rest : List ParameterId} {answer : Bool} :
      id ≠ goal → Searches ps goal (ps.attachments id) false → Searches ps goal rest answer →
      Searches ps goal (id :: rest) answer

/-! ## The measure of both descents -/

open Classical in
/-- The number of parameters behind a parameter. -/
noncomputable def height (ps : Parameters) (id : ParameterId) : ℕ :=
  (ps.ids.toFinset.filter fun b => TransGen ps.Edge id b).card

theorem height_lt_of_edge {ps : Parameters} (hac : ps.Acyclic) {a b : ParameterId}
    (hab : ps.Edge a b) : ps.height b < ps.height a := by
  classical
  refine Finset.card_lt_card ((Finset.ssubset_iff_of_subset ?_).mpr ⟨b, ?_, ?_⟩)
  · intro c hc
    rw [Finset.mem_filter] at hc ⊢
    exact ⟨hc.1, .head hab hc.2⟩
  · rw [Finset.mem_filter, List.mem_toFinset, mem_ids_iff]
    exact ⟨hab.alive_target, .single hab⟩
  · rw [Finset.mem_filter]
    exact fun hb => hac b hb.2

theorem height_congr {ps ps' : Parameters} (he : ps'.Edge = ps.Edge) (hi : ps'.ids = ps.ids) :
    ps'.height = ps.height := by
  funext id
  rw [height, height, he, hi]

/-! ## Serving a row -/

theorem received_congr {ps ps' : Parameters} (h : ps'.alive = ps.alive) (w : Write)
    (p : Parameter) : ps'.received w p = ps.received w p := by
  simp only [received, pruned, h]

theorem received_received (ps : Parameters) (w : Write) (p : Parameter) :
    ps.received w (ps.received w p) = ps.received w p := by
  cases w <;> simp [received, pruned, Write.apply]

/-- The parameters after a write to each of a row. -/
def writeEach (ps : Parameters) (w : Write) (row : List ParameterId) : Parameters :=
  row.foldl (fun ps id => ps.write id w) ps

theorem ids_writeEach (ps : Parameters) (w : Write) (row : List ParameterId) :
    (ps.writeEach w row).ids = ps.ids := by
  induction row generalizing ps with
  | nil => rfl
  | cons id row ih => exact (ih (ps.write id w)).trans (ids_write ps id w)

theorem names_made_writeEach (ps : Parameters) (w : Write) (row : List ParameterId) :
    (ps.writeEach w row).names = ps.names ∧ (ps.writeEach w row).made = ps.made := by
  induction row generalizing ps with
  | nil => exact ⟨rfl, rfl⟩
  | cons id row ih => exact ih (ps.write id w)

open Classical in
/-- Being served more than once is being served once. -/
theorem get?_writeEach (ps : Parameters) (w : Write) (row : List ParameterId)
    (hrow : ∀ id ∈ row, ps.alive id = true) (q : ParameterId) :
    (ps.writeEach w row).get? q = (ps.get? q).map fun p =>
      if ∃ id ∈ row, ps.Reaches id q then ps.received w p else p := by
  induction row generalizing ps with
  | nil => simp [writeEach]
  | cons id row ih =>
    have hid := hrow id List.mem_cons_self
    have hrest : ∀ c ∈ row, (ps.write id w).alive c = true := by
      intro c hc
      rw [alive_write]
      exact hrow c (List.mem_cons_of_mem _ hc)
    have hstep := ih (ps.write id w) hrest
    rw [reaches_write] at hstep
    change ((ps.write id w).writeEach w row).get? q = _
    rw [hstep]
    cases hq : ps.get? q with
    | none => simp [get?_write, hq]
    | some p =>
      by_cases hr : ps.Reaches id q
      · rw [get?_write_of_reaches w hid hr hq]
        simp only [Option.map_some, Option.some.injEq]
        rw [received_congr (alive_write ps id w), received_received]
        simp [hr]
      · rw [get?_write_of_not_reaches w hr, hq]
        simp only [Option.map_some, Option.some.injEq]
        rw [received_congr (alive_write ps id w)]
        simp [hr]

theorem ids_put {ps : Parameters} {id : ParameterId} {p : Parameter} (hp : ps.get? id = some p)
    (p' : Parameter) : (ps.put id p').ids = ps.ids :=
  Table.keys_insert_of_contains (alive_of_get? hp) p'

theorem edge_put_received {ps : Parameters} {id : ParameterId} {p : Parameter}
    (hp : ps.get? id = some p) (w : Write) : (ps.put id (ps.received w p)).Edge = ps.Edge := by
  funext a b
  refine propext ?_
  rw [edge_put_iff hp]
  split_ifs with ha
  · subst ha
    rw [edge_iff]
    simp [hp]
  · exact Iff.rfl

/-- Keeping a write and serving the attached parameters is writing. -/
theorem writeEach_attachments {ps : Parameters} (hk : ps.cells.keys.Nodup) {id : ParameterId}
    {p : Parameter} (hp : ps.get? id = some p) (w : Write) :
    (ps.put id (ps.received w p)).writeEach w (ps.attachments id) = ps.write id w := by
  classical
  have hedge := edge_put_received hp w
  have halive := alive_put hp (ps.received w p)
  have hrow : ∀ c ∈ ps.attachments id, (ps.put id (ps.received w p)).alive c = true := by
    intro c hc
    rw [halive]
    exact Edge.alive_target (a := id) hc
  have hget : ∀ q, ((ps.put id (ps.received w p)).writeEach w (ps.attachments id)).get? q =
      (ps.write id w).get? q := by
    intro q
    rw [get?_writeEach _ w _ hrow, get?_put]
    simp only [Reaches, hedge, received_congr halive]
    by_cases hq : q = id
    · subst hq
      rw [get?_write_of_reaches w (alive_of_get? hp) .refl hp]
      simp [received_received]
    · have hreach : (∃ c ∈ ps.attachments id, ReflTransGen ps.Edge c q) ↔ ps.Reaches id q := by
        rw [Reaches, ReflTransGen.cases_head_iff]
        simp [Edge, Ne.symm hq]
      rw [if_neg hq]
      cases hc : ps.get? q with
      | none => simp [get?_write, hc]
      | some c =>
        by_cases hr : ps.Reaches id q
        · rw [get?_write_of_reaches w (alive_of_get? hp) hr hc]
          simp [hreach.mpr hr]
        · rw [get?_write_of_not_reaches w hr, hc]
          simp [hreach.not.mpr hr]
  have hcells : ((ps.put id (ps.received w p)).writeEach w (ps.attachments id)).cells =
      (ps.write id w).cells := by
    have hids : ((ps.put id (ps.received w p)).writeEach w (ps.attachments id)).ids =
        (ps.write id w).ids := by rw [ids_writeEach, ids_put hp, ids_write]
    refine Table.eq_of_get?_eq hids ?_ hget
    change (Parameters.ids _).Nodup
    rw [hids, ids_write]
    exact hk
  obtain ⟨hnames, hmade⟩ := names_made_writeEach (ps.put id (ps.received w p)) w (ps.attachments id)
  cases hres : (ps.put id (ps.received w p)).writeEach w (ps.attachments id) with
  | mk cells made names =>
    rw [hres] at hcells hnames hmade
    subst hcells hnames hmade
    rfl

/-! ## The descent of a write -/

/-- Serving a row comes to an end, by induction on the height of what is served;
`n` is a bound on it. -/
theorem handsOn_writeEach_of_height_lt (w : Write) (n : ℕ) :
    ∀ (ps : Parameters) (row : List ParameterId), ps.cells.keys.Nodup → ps.Acyclic →
      (∀ id ∈ row, ps.alive id = true ∧ ps.height id < n) →
      HandsOn w ps row (ps.writeEach w row) := by
  induction n with
  | zero =>
    intro ps row _ _ hrow
    cases row with
    | nil => exact .done ps
    | cons id rest => exact absurd (hrow id List.mem_cons_self).2 (Nat.not_lt_zero _)
  | succ n ihn =>
    intro ps row hk hac hrow
    induction row generalizing ps with
    | nil => exact .done ps
    | cons id rest ihrest =>
      obtain ⟨hid, hheight⟩ := hrow id List.mem_cons_self
      obtain ⟨p, hp⟩ := (alive_iff _ _).mp hid
      have hedge := edge_put_received hp w
      have hids := ids_put hp (ps.received w p)
      have hbehind : HandsOn w (ps.put id (ps.received w p)) (ps.attachments id)
          (ps.write id w) := by
        rw [← writeEach_attachments hk hp w]
        refine ihn _ _ ?_ ?_ fun c hc => ⟨?_, ?_⟩
        · change (Parameters.ids _).Nodup
          rw [hids]
          exact hk
        · intro a ha
          rw [hedge] at ha
          exact hac a ha
        · rw [alive_put hp]
          exact Edge.alive_target (a := id) hc
        · have hlt : ps.height c < ps.height id := height_lt_of_edge hac hc
          rw [height_congr hedge hids]
          omega
      refine .serve hp hbehind (ihrest (ps.write id w) ?_ ?_ fun c hc => ?_)
      · change (Parameters.ids _).Nodup
        rw [ids_write]
        exact hk
      · intro a ha
        rw [edge_write] at ha
        exact hac a ha
      · rw [alive_write, height_congr (edge_write ps id w) (ids_write ps id w)]
        exact hrow c (List.mem_cons_of_mem _ hc)

theorem HandsOn.unique {w : Write} {ps ps₁ ps₂ : Parameters} {row : List ParameterId}
    (h₁ : HandsOn w ps row ps₁) (h₂ : HandsOn w ps row ps₂) : ps₁ = ps₂ := by
  induction h₁ generalizing ps₂ with
  | done ps =>
    cases h₂
    rfl
  | serve hp _ _ ihbehind ihrest =>
    cases h₂ with
    | serve hp' hbehind hrest =>
      rw [hp] at hp'
      cases hp'
      have hmid := ihbehind hbehind
      subst hmid
      exact ihrest hrest

/-- Receiving a write comes to an end, at what `write` computes. -/
theorem receives_iff {ps : Parameters} (h : ps.WellAttached) {id : ParameterId}
    (hid : ps.alive id = true) (w : Write) (ps' : Parameters) :
    ps.Receives w id ps' ↔ ps' = ps.write id w := by
  have hends : ps.Receives w id (ps.write id w) :=
    handsOn_writeEach_of_height_lt w (ps.height id + 1) ps [id] h.keys_nodup h.acyclic (by
      intro c hc
      obtain rfl := List.mem_singleton.mp hc
      exact ⟨hid, Nat.lt_succ_self _⟩)
  constructor
  · exact fun hr => HandsOn.unique hr hends
  · rintro rfl
    exact hends

/-! ## The descent of a search -/

/-- An answer says whether something in the row reaches the goal. -/
theorem Searches.answer_iff {ps : Parameters} {goal : ParameterId} {row : List ParameterId}
    {answer : Bool} (h : ps.Searches goal row answer) :
    answer = true ↔ ∃ id ∈ row, ps.Reaches id goal := by
  induction h with
  | done => simp
  | found rest => simpa using Or.inl .refl
  | @behind id rest hne _ ih =>
    obtain ⟨c, hc, hr⟩ := ih.mp rfl
    refine iff_of_true rfl ⟨id, List.mem_cons_self, ?_⟩
    exact ReflTransGen.head hc hr
  | @onward id rest answer hne _ _ ihbehind ihrest =>
    have hnot : ¬ ps.Reaches id goal := by
      intro hr
      rcases ReflTransGen.cases_head hr with heq | ⟨c, hc, hcg⟩
      · exact hne heq
      · exact absurd (ihbehind.mpr ⟨c, hc, hcg⟩) Bool.false_ne_true
    simp [ihrest, hnot]

/-- A search has an answer, by induction on the height of what is searched. -/
theorem exists_searches_of_height_lt {ps : Parameters} (hac : ps.Acyclic) (goal : ParameterId)
    (n : ℕ) : ∀ row : List ParameterId, (∀ id ∈ row, ps.height id < n) →
      ∃ answer, ps.Searches goal row answer := by
  induction n with
  | zero =>
    intro row hrow
    cases row with
    | nil => exact ⟨false, .done⟩
    | cons id rest => exact absurd (hrow id List.mem_cons_self) (Nat.not_lt_zero _)
  | succ n ihn =>
    intro row hrow
    induction row with
    | nil => exact ⟨false, .done⟩
    | cons id rest ihrest =>
      by_cases hgoal : id = goal
      · subst hgoal
        exact ⟨true, .found rest⟩
      · have hbehind : ∀ c ∈ ps.attachments id, ps.height c < n := by
          intro c hc
          have hlt : ps.height c < ps.height id := height_lt_of_edge hac hc
          have hid := hrow id List.mem_cons_self
          omega
        obtain ⟨found, hfound⟩ := ihn (ps.attachments id) hbehind
        obtain ⟨other, hother⟩ := ihrest fun c hc => hrow c (List.mem_cons_of_mem _ hc)
        cases found with
        | true => exact ⟨true, .behind hgoal hfound⟩
        | false => exact ⟨other, .onward hgoal hfound hother⟩

/-- Looking for a parameter behind another one comes to an end with the right answer. -/
theorem exists_searches {ps : Parameters} (hac : ps.Acyclic) (id goal : ParameterId) :
    ∃ answer, ps.Searches goal (ps.attachments id) answer ∧
      (answer = true ↔ TransGen ps.Edge id goal) := by
  obtain ⟨answer, h⟩ := exists_searches_of_height_lt hac goal (ps.height id)
    (ps.attachments id) fun c hc => height_lt_of_edge hac hc
  refine ⟨answer, h, h.answer_iff.trans ?_⟩
  rw [TransGen.head'_iff]
  constructor
  · rintro ⟨c, hc, hr⟩
    exact ⟨c, hc, hr⟩
  · rintro ⟨c, hc, hr⟩
    exact ⟨c, hc, hr⟩

end ShaderEffects.Parameters
