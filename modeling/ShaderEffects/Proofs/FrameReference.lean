import Mathlib.Data.List.Basic
import Mathlib.Logic.Function.Basic
import ShaderEffects.Renderer.Draw

/-!
# What a frame should show

A frame told without a device: which label each surface carries, and under which
label each program was loaded first. A pass whose programs can be loaded and bound
leaves one label on the scratch surface and on its target, a technique ends by
showing the label of its last drawn pass, and a frame is its effects one after the
other between two pictures of the backbuffer.
-/
namespace ShaderEffects

/-- The labels that a device refuses. -/
structure Refusals where
  loads : List String
  binds : List String

/-- The labels on the surfaces, and the labels of the programs loaded so far. -/
structure Canvas where
  shown : Surface → Option String
  labels : ProgramKey → Option String

/-- What became of a pass: the label it drew, or the program that kept it from drawing. -/
abbrev Outcome := Except BindError String

namespace Canvas

/-- The canvas with another label on a surface. -/
def put (c : Canvas) (surface : Surface) (content : Option String) : Canvas :=
  { c with shown := Function.update c.shown surface content }

/-- Loads programs up to the first that is refused. A program that is loaded keeps the
label of the first program with its key. -/
def learn (refusals : Refusals) (c : Canvas) : List Program → Except BindError Unit × Canvas
  | [] => (.ok (), c)
  | p :: rest =>
    if (c.labels p.key).isSome then c.learn refusals rest
    else if p.label ∈ refusals.loads then
      (.error ⟨.load, p.stage, p.label, .invalidCall (.rejected p.label)⟩, c)
    else { c with labels := Function.update c.labels p.key (some p.label) }.learn refusals rest

/-- The first of some loaded programs that cannot be bound. -/
def refused? (refusals : Refusals) (c : Canvas) (programs : List Program) : Option BindError :=
  programs.findSome? fun p =>
    (c.labels p.key).bind fun label =>
      if label ∈ refusals.binds then
        some ⟨.bind, p.stage, p.label, .invalidCall (.unbindable label)⟩
      else none

/-- The label under which the program of a stage was loaded. -/
def stageLabel? (c : Canvas) (pass : Pass) (stage : Stage) : Option String :=
  (pass.program? stage).bind fun p => c.labels p.key

/-- The label that a pass draws: that of its fragment program, else that of its vertex
program. -/
def tag (c : Canvas) (pass : Pass) : String :=
  match c.stageLabel? pass .fragment with
  | some label => label
  | none => (c.stageLabel? pass .vertex).getD "unbound"

/-- What becomes of a pass. -/
def outcome (refusals : Refusals) (c : Canvas) (pass : Pass) : Outcome × Canvas :=
  match c.learn refusals pass.programs with
  | (.error e, c) => (.error e, c)
  | (.ok _, c) =>
    match c.refused? refusals pass.programs with
    | some e => (.error e, c)
    | none => (.ok (c.tag pass), c)

/-- Leaves what a pass drew on the scratch surface and on its target. -/
def drawn (textures : TextureRegistry) (c : Canvas) (pass : Pass) : Outcome → Canvas
  | .error _ => c
  | .ok tag =>
    (c.put .scratch (some tag)).put (TargetBinding.surface textures pass.target) (some tag)

/-- What becomes of passes drawn one after the other. -/
def outcomes (refusals : Refusals) (textures : TextureRegistry) (c : Canvas) :
    List Pass → List Outcome × Canvas
  | [] => ([], c)
  | pass :: rest =>
    let (outcome, c) := c.outcome refusals pass
    let (others, c) := (c.drawn textures pass outcome).outcomes refusals textures rest
    (outcome :: others, c)

/-- The label of the last drawn pass. -/
def lastTag (outcomes : List Outcome) : Option String :=
  (outcomes.filterMap Except.toOption).getLast?

/-- Why a pass was not drawn. -/
def errorOf? : Outcome → Option BindError
  | .error e => some e
  | .ok _ => none

/-- The report about an effect with some outcomes. -/
def reportOf (outcomes : List Outcome) : FrameReport :=
  { passesDrawn := (outcomes.filterMap Except.toOption).length
    bindErrors := outcomes.filterMap errorOf? }

/-- Shows a label where a technique ends, and on the backbuffer unless an annotation
asked for that target. -/
def compose (textures : TextureRegistry) (c : Canvas) (technique : Technique) (tag : String) :
    Canvas :=
  let c := c.put (TargetBinding.surface textures technique.target) (some tag)
  if technique.target.any fun binding => !binding.explicit then c.put .backbuffer (some tag)
  else c

/-- Draws the valid passes of a technique. -/
def technique (refusals : Refusals) (textures : TextureRegistry) (c : Canvas) (t : Technique) :
    FrameReport × Canvas :=
  let (outcomes, c) := c.outcomes refusals textures (t.passes.filter (·.valid))
  match lastTag outcomes with
  | none => (reportOf outcomes, c)
  | some tag => (reportOf outcomes, c.compose textures t tag)

/-- Draws an effect. One without a default technique is skipped. -/
def effect (refusals : Refusals) (textures : TextureRegistry) (c : Canvas) (e : Effect) :
    FrameReport × Canvas :=
  match e.default? with
  | none => ({ skipped := true }, c)
  | some t => c.technique refusals textures t

/-- Draws effects one after the other. -/
def effects (refusals : Refusals) (textures : TextureRegistry) (c : Canvas) :
    List Effect → List FrameReport × Canvas
  | [] => ([], c)
  | e :: rest =>
    let (report, c) := c.effect refusals textures e
    let (reports, c) := c.effects refusals textures rest
    (report :: reports, c)

/-- A frame between two pictures of the backbuffer. -/
def frame (refusals : Refusals) (textures : TextureRegistry) (thisFrame lastFrame : Surface)
    (c : Canvas) (loaded : List Effect) : List FrameReport × Canvas :=
  let c := c.put thisFrame (c.shown .backbuffer)
  let (reports, c) := c.effects refusals textures loaded
  (reports, c.put lastFrame (c.shown .backbuffer))

/-- Putting on a surface what it shows changes nothing. -/
theorem put_shown (c : Canvas) (surface : Surface) : c.put surface (c.shown surface) = c := by
  rw [put, Function.update_eq_self]

theorem refused?_cons_of_mem {refusals : Refusals} {c : Canvas} {p : Program} {label : String}
    (hlabel : c.labels p.key = some label) (h : label ∈ refusals.binds) (rest : List Program) :
    c.refused? refusals (p :: rest) =
      some ⟨.bind, p.stage, p.label, .invalidCall (.unbindable label)⟩ := by
  simp [refused?, hlabel, h]

theorem refused?_cons_of_not_mem {refusals : Refusals} {c : Canvas} {p : Program}
    {label : String} (hlabel : c.labels p.key = some label) (h : label ∉ refusals.binds)
    (rest : List Program) : c.refused? refusals (p :: rest) = c.refused? refusals rest := by
  simp [refused?, hlabel, h]

theorem learn_shown (refusals : Refusals) (c : Canvas) (programs : List Program) :
    (c.learn refusals programs).2.shown = c.shown := by
  induction programs generalizing c with
  | nil => rfl
  | cons p rest ih =>
    rw [learn]
    split_ifs
    · exact ih c
    · rfl
    · exact ih _

/-- Before a pass is drawn the surfaces are as they were. -/
theorem outcome_shown (refusals : Refusals) (c : Canvas) (pass : Pass) :
    (c.outcome refusals pass).2.shown = c.shown := by
  have hlearn := learn_shown refusals c pass.programs
  unfold outcome
  rcases hl : c.learn refusals pass.programs with ⟨_ | _, c'⟩
  · rwa [hl] at hlearn
  · rw [hl] at hlearn
    simp only
    cases c'.refused? refusals pass.programs <;> exact hlearn

theorem lastTag_cons (outcome : Outcome) (others : List Outcome) (before : Option String) :
    (lastTag (outcome :: others)).or before =
      (lastTag others).or ((Except.toOption outcome).or before) := by
  unfold lastTag
  cases outcome with
  | error e => simp only [List.filterMap_cons, Except.toOption, Option.none_or]
  | ok tag =>
    simp only [List.filterMap_cons, Except.toOption, List.getLast?_cons]
    cases (others.filterMap Except.toOption).getLast? <;> rfl

/-! ## What the reports of a frame say -/

/-- An error that names a program of the pass. -/
def Names (pass : Pass) (e : BindError) : Prop :=
  ∃ p ∈ pass.programs, e.stage = p.stage ∧ e.program = p.label

theorem learn_error {refusals : Refusals} {c c' : Canvas} {programs : List Program}
    {e : BindError} (h : c.learn refusals programs = (.error e, c')) :
    ∃ p ∈ programs, e.stage = p.stage ∧ e.program = p.label := by
  induction programs generalizing c with
  | nil => simp [learn] at h
  | cons p rest ih =>
    rw [learn] at h
    split_ifs at h with hknown hrefused
    · obtain ⟨q, hq, hnames⟩ := ih h
      exact ⟨q, List.mem_cons_of_mem p hq, hnames⟩
    · simp only [Prod.mk.injEq, Except.error.injEq] at h
      obtain ⟨rfl, -⟩ := h
      exact ⟨p, List.mem_cons_self, rfl, rfl⟩
    · obtain ⟨q, hq, hnames⟩ := ih h
      exact ⟨q, List.mem_cons_of_mem p hq, hnames⟩

theorem refused?_error {refusals : Refusals} {c : Canvas} {programs : List Program}
    {e : BindError} (h : c.refused? refusals programs = some e) :
    ∃ p ∈ programs, e.stage = p.stage ∧ e.program = p.label := by
  obtain ⟨p, hp, he⟩ := List.exists_of_findSome?_eq_some h
  obtain ⟨label, _, hlabel⟩ := Option.bind_eq_some_iff.mp he
  split_ifs at hlabel
  cases hlabel
  exact ⟨p, hp, rfl, rfl⟩

/-- A pass is kept from drawing by one of its own programs. -/
theorem outcome_error {refusals : Refusals} {c : Canvas} {pass : Pass} {e : BindError}
    (h : (c.outcome refusals pass).1 = .error e) : Names pass e := by
  unfold outcome at h
  rcases hlearn : c.learn refusals pass.programs with ⟨e' | _, c'⟩
  · simp only [hlearn, Except.error.injEq] at h
    subst h
    exact learn_error hlearn
  · rw [hlearn] at h
    rcases hrefused : c'.refused? refusals pass.programs with _ | e'
    · simp [hrefused] at h
    · simp only [hrefused, Except.error.injEq] at h
      subst h
      exact refused?_error hrefused

/-- Every pass is either drawn or has an error, and the errors stand in the order of
their passes. -/
theorem outcomes_spec (refusals : Refusals) (textures : TextureRegistry) (c : Canvas)
    (passes : List Pass) :
    (reportOf (c.outcomes refusals textures passes).1).passesDrawn +
        (reportOf (c.outcomes refusals textures passes).1).bindErrors.length = passes.length ∧
      ∃ failed, List.Sublist failed passes ∧
        List.Forall₂ Names failed (reportOf (c.outcomes refusals textures passes).1).bindErrors := by
  induction passes generalizing c with
  | nil => exact ⟨rfl, [], List.Sublist.refl _, List.Forall₂.nil⟩
  | cons pass rest ih =>
    obtain ⟨hcount, failed, hsub, hnames⟩ :=
      ih ((c.outcome refusals pass).2.drawn textures pass (c.outcome refusals pass).1)
    simp only [outcomes]
    simp only [reportOf] at hcount hnames ⊢
    cases ho : (c.outcome refusals pass).1 with
    | error e =>
      rw [ho] at hcount hnames
      refine ⟨?_, pass :: failed, hsub.cons_cons pass, ?_⟩
      · simp only [List.filterMap_cons, Except.toOption, errorOf?, List.length_cons]
        omega
      · simp only [List.filterMap_cons, errorOf?]
        exact .cons (outcome_error ho) hnames
    | ok tag =>
      rw [ho] at hcount hnames
      refine ⟨?_, failed, hsub.cons pass, ?_⟩
      · simp only [List.filterMap_cons, Except.toOption, errorOf?, List.length_cons]
        omega
      · simpa only [List.filterMap_cons, errorOf?] using hnames

/-- A report that accounts for an effect: it is skipped exactly without a default
technique, and otherwise every valid pass of that technique was drawn or has an error,
in the order of the passes. -/
def Accounts (e : Effect) (report : FrameReport) : Prop :=
  (report.skipped = true ↔ e.default? = none) ∧
    ∀ t, e.default? = some t →
      report.passesDrawn + report.bindErrors.length = (t.passes.filter (·.valid)).length ∧
      ∃ failed, List.Sublist failed (t.passes.filter (·.valid)) ∧
        List.Forall₂ Names failed report.bindErrors

theorem technique_fst (refusals : Refusals) (textures : TextureRegistry) (c : Canvas)
    (t : Technique) :
    (c.technique refusals textures t).1 =
      reportOf (c.outcomes refusals textures (t.passes.filter (·.valid))).1 := by
  unfold technique
  simp only
  cases lastTag (c.outcomes refusals textures (t.passes.filter (·.valid))).1 <;> rfl

theorem technique_snd (refusals : Refusals) (textures : TextureRegistry) (c : Canvas)
    (t : Technique) :
    (c.technique refusals textures t).2 =
      (lastTag (c.outcomes refusals textures (t.passes.filter (·.valid))).1).elim
        (c.outcomes refusals textures (t.passes.filter (·.valid))).2
        ((c.outcomes refusals textures (t.passes.filter (·.valid))).2.compose textures t) := by
  unfold technique
  simp only
  cases lastTag (c.outcomes refusals textures (t.passes.filter (·.valid))).1 <;> rfl

theorem effect_accounts (refusals : Refusals) (textures : TextureRegistry) (c : Canvas)
    (e : Effect) : Accounts e (c.effect refusals textures e).1 := by
  unfold effect
  cases hdefault : e.default? with
  | none => exact ⟨by simp [hdefault], by simp [hdefault]⟩
  | some t =>
    simp only [Accounts, hdefault, technique_fst]
    refine ⟨by simp [reportOf], ?_⟩
    rintro _ ⟨⟩
    exact outcomes_spec refusals textures c (t.passes.filter (·.valid))

/-- There is one report for each effect, in order, that accounts for it. -/
theorem effects_account (refusals : Refusals) (textures : TextureRegistry) (c : Canvas)
    (loaded : List Effect) :
    List.Forall₂ Accounts loaded (c.effects refusals textures loaded).1 := by
  induction loaded generalizing c with
  | nil => exact .nil
  | cons e rest ih => exact .cons (effect_accounts refusals textures c e) (ih _)

/-- The reports of a frame account for its effects. -/
theorem frame_accounts (refusals : Refusals) (textures : TextureRegistry)
    (thisFrame lastFrame : Surface) (c : Canvas) (loaded : List Effect) :
    List.Forall₂ Accounts loaded
      (c.frame refusals textures thisFrame lastFrame loaded).1 :=
  effects_account refusals textures _ loaded

end Canvas

end ShaderEffects
