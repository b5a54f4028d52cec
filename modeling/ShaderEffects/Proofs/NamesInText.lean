import ShaderEffects.Proofs.PackedTables

/-!
# Names that stand in a text

A name is found in a text exactly if it occurs somewhere with no character of a word right
before it or right behind it. So what is found in texts that a character that is no part of a
word keeps apart is what is found in each of them, and a longer word does not bring out a name
that is a part of it.
-/
namespace ShaderEffects

namespace Identifier

/-- An ASCII letter. -/
def Letter (c : Char) : Prop := ('a' ≤ c ∧ c ≤ 'z') ∨ ('A' ≤ c ∧ c ≤ 'Z')

/-- An ASCII digit. -/
def Digit (c : Char) : Prop := '0' ≤ c ∧ c ≤ '9'

/-- A character of a word. -/
def WordCharacter (c : Char) : Prop := Letter c ∨ Digit c ∨ c = '_'

theorem isAlpha_iff {c : Char} : c.isAlpha = true ↔ Letter c := by
  have hupper : c.isUpper = decide (c.val ≥ 'A'.val ∧ c.val ≤ 'Z'.val) := rfl
  have hlower : c.isLower = (decide (c.val ≥ 'a'.val) && decide (c.val ≤ 'z'.val)) := rfl
  have halpha : c.isAlpha = (c.isUpper || c.isLower) := rfl
  simp only [Letter, halpha, hupper, hlower, Bool.or_eq_true, Bool.and_eq_true, decide_eq_true_eq,
    ge_iff_le, Char.le_def]
  exact Or.comm

theorem isDigit_iff {c : Char} : c.isDigit = true ↔ Digit c := by
  simp only [Digit, Char.isDigit, Bool.and_eq_true, decide_eq_true_eq, ge_iff_le, Char.le_def]

theorem isWord_iff {c : Char} : isWord c = true ↔ WordCharacter c := by
  simp only [isWord, Char.isAlphanum, Bool.or_eq_true, decide_eq_true_eq, isAlpha_iff, isDigit_iff,
    WordCharacter, or_assoc]

theorem isWord_eq_false_iff {c : Char} : isWord c = false ↔ ¬ WordCharacter c := by
  rw [← isWord_iff, Bool.not_eq_true]

theorem wordCharacter_of_all {word : List Char} (h : word.all isWord = true) :
    ∀ c ∈ word, WordCharacter c :=
  fun c hc => isWord_iff.mp (List.all_eq_true.mp h c hc)

theorem not_wordCharacter_of_all {next : Option Char} (h : (next.all fun c => !isWord c) = true) :
    ∀ c ∈ next, ¬ WordCharacter c := by
  rintro c rfl
  exact isWord_eq_false_iff.mp (by simpa using h)

theorem Digit.not_letter {c : Char} (h : Digit c) : ¬ Letter c := by
  rintro (⟨hlow, -⟩ | ⟨hlow, -⟩)
  · exact absurd (Char.le_trans hlow h.2) (by decide)
  · exact absurd (Char.le_trans hlow h.2) (by decide)

/-- What a name can begin with are the characters of a word but the digits. -/
theorem isInitial_iff {c : Char} : isInitial c = true ↔ WordCharacter c ∧ ¬ Digit c := by
  have hscore : c = '_' → ¬ Digit c := by
    rintro rfl h
    exact absurd h.2 (by decide)
  have hdigit : Digit c → ¬ Letter c := Digit.not_letter
  rw [isInitial, Bool.or_eq_true, isAlpha_iff, decide_eq_true_eq, WordCharacter]
  tauto

/-- A word that begins with no digit. -/
def NameShaped (word : List Char) : Prop :=
  word ≠ [] ∧ (∀ c ∈ word, WordCharacter c) ∧ ∀ c ∈ word.head?, ¬ Digit c

theorem nameShaped_iff {word : List Char} :
    NameShaped word ↔ isName word = true ∧ ∀ c ∈ word, isWord c = true := by
  cases word with
  | nil => simp [NameShaped, isName]
  | cons c rest =>
    simp only [NameShaped, isName, isInitial_iff, isWord_iff, List.head?_cons, Option.mem_some_iff,
      forall_eq', List.forall_mem_cons, ne_eq, reduceCtorEq, not_false_eq_true, true_and]
    tauto

/-- The place of a text where a word occurs with no character of a word right before it or right
behind it. -/
structure StandsAt (word text : List Char) (i : Nat) : Prop where
  occurs : word <+: text.drop i
  before : ∀ c ∈ (text.take i).getLast?, ¬ WordCharacter c
  behind : ∀ c ∈ (text.drop (i + word.length)).head?, ¬ WordCharacter c

/-- A name is found where it stands. -/
theorem mem_all_iff_standsAt {word text : List Char} :
    word ∈ all text ↔ NameShaped word ∧ ∃ i, StandsAt word text i := by
  rw [mem_all_iff, StandsIn, nameShaped_iff]
  simp only [isWord_eq_false_iff]
  constructor
  · rintro ⟨before, after, rfl, hname, hword, hbefore, hafter⟩
    refine ⟨⟨hname, hword⟩, before.length, by simp, by simpa using hbefore, ?_⟩
    rw [← List.length_append, List.drop_left]
    exact hafter
  · rintro ⟨⟨hname, hword⟩, i, ⟨after, hoccurs⟩, hbefore, hbehind⟩
    have hafter : text.drop (i + word.length) = after := by
      rw [← List.drop_drop, ← hoccurs, List.drop_left]
    rw [hafter] at hbehind
    refine ⟨text.take i, after, ?_, hname, hword, hbefore, hbehind⟩
    rw [List.append_assoc, hoccurs, List.take_append_drop]

/-! ## Texts that are kept apart -/

/-- A character that is no part of a word, or the end of one of them, keeps two texts apart
where they meet. -/
def Apart (front back : List Char) : Prop :=
  (∀ c ∈ front.getLast?, ¬ WordCharacter c) ∨ ∀ c ∈ back.head?, ¬ WordCharacter c

theorem all_append {front back : List Char} (h : Apart front back) :
    all (front ++ back) = all front ++ all back := by
  have hcons : ∀ front back : List Char, ∀ c, ¬ WordCharacter c →
      all (front ++ c :: back) = all front ++ all back := by
    intro front back c hc
    rw [all, pieces, List.splitOnP_append_cons, List.filter_append]
    · rfl
    · simpa [isWord_eq_false_iff] using hc
  rcases h with h | h
  · rcases List.eq_nil_or_concat' front with rfl | ⟨front, c, rfl⟩
    · rfl
    · have hc : ¬ WordCharacter c := h c (by simp)
      rw [List.append_assoc, List.singleton_append, hcons front back c hc, hcons front [] c hc]
      simp [all, pieces, isName]
  · cases back with
    | nil => simp [all, pieces, isName]
    | cons c back =>
      have hc : ¬ WordCharacter c := h c rfl
      rw [hcons front back c hc, ← List.nil_append (c :: back), hcons [] back c hc]
      simp [all, pieces, isName]

theorem all_word {word : List Char} (h : ∀ c ∈ word, WordCharacter c) :
    all word = if isName word then [word] else [] := by
  have hpieces : pieces word = [word] :=
    List.splitOnP_eq_singleton fun c hc => by simpa [isWord_iff] using h c hc
  rw [all, hpieces, List.filter_singleton, cond_eq_ite]

theorem Apart.append {before added after : List Char} (h : added = [] → Apart before after)
    (hadded : Apart before added) : Apart before (added ++ after) := by
  cases added with
  | nil => exact h rfl
  | cons c added => exact hadded

theorem all_append_append {before added after : List Char} (h : added = [] → Apart before after)
    (hbefore : Apart before added) (hafter : Apart added after) :
    all (before ++ added ++ after) = all before ++ all added ++ all after := by
  rw [List.append_assoc, all_append (.append h hbefore), all_append hafter, List.append_assoc]

theorem occurs_iff_mem {name source : String} :
    occurs name source = true ↔ name.toList ∈ all source.toList := by
  rw [occurs, List.contains_iff_mem]

/-- A source mentions a name exactly if the name stands in it. Text that is put in and is kept
apart from what is around it removes no name that stands before or behind the place where it is
put in, and brings only those that it mentions itself; so between words it removes none at all. A
longer or a shorter word, or one that begins with a digit, brings no name but itself. -/
theorem mentions_standing (name source : String) :
    (occurs name source = true ↔
      NameShaped name.toList ∧ ∃ i, StandsAt name.toList source.toList i) ∧
    (∀ before added after : String, source = before ++ after →
      Apart before.toList after.toList → Apart before.toList added.toList →
      Apart added.toList after.toList →
        (occurs name (before ++ added ++ after) = true ↔
          occurs name source = true ∨ occurs name added = true)) ∧
    (∀ before added after : String, added ≠ "" →
      Apart before.toList added.toList → Apart added.toList after.toList →
        (occurs name (before ++ added ++ after) = true ↔
          occurs name before = true ∨ occurs name added = true ∨ occurs name after = true)) ∧
    ∀ before word after : String, word ≠ "" → word ≠ name →
      (∀ c ∈ word.toList, WordCharacter c) →
      Apart before.toList word.toList → Apart word.toList after.toList →
        (occurs name (before ++ word ++ after) = true ↔
          occurs name before = true ∨ occurs name after = true) := by
  have hput : ∀ before added after : String, added ≠ "" →
      Apart before.toList added.toList → Apart added.toList after.toList →
        (occurs name (before ++ added ++ after) = true ↔
          occurs name before = true ∨ occurs name added = true ∨ occurs name after = true) := by
    intro before added after hne hbefore hafter
    have hempty : added.toList = [] → Apart before.toList after.toList := fun h =>
      absurd (by simpa using h) hne
    simp only [occurs_iff_mem, String.toList_append, all_append_append hempty hbefore hafter,
      List.mem_append, or_assoc]
  refine ⟨by rw [occurs_iff_mem, mem_all_iff_standsAt], ?_, hput, ?_⟩
  · rintro before added after rfl h hbefore hafter
    simp only [occurs_iff_mem, String.toList_append, all_append h,
      all_append_append (fun _ => h) hbefore hafter, List.mem_append]
    tauto
  · intro before word after hne hname hword hbefore hafter
    have hnot : occurs name word = false := by
      rw [Bool.eq_false_iff, Ne, occurs_iff_mem, all_word hword]
      split_ifs
      · simpa using fun heq => hname (String.toList_inj.mp heq).symm
      · simp
    simp only [hput before word after hne hbefore hafter, hnot, Bool.false_eq_true, false_or]

/-- `time` stands in a source that has `timeScale` too, still does when `3time` is put in, and
does not stand in `timeScale` alone. -/
theorem mentions_standing_time :
    StandsAt "time".toList "f(time, timeScale)".toList 2 ∧
      occurs "time" "f(time, timeScale)" = true ∧
      Apart "f(time".toList ", timeScale)".toList ∧ Apart "f(time".toList " * 3time".toList ∧
      Apart " * 3time".toList ", timeScale)".toList ∧
      occurs "time" ("f(time" ++ " * 3time" ++ ", timeScale)") = true ∧
      Apart "f(".toList "timeScale".toList ∧ Apart "timeScale".toList ")".toList ∧
      ¬ occurs "time" ("f(" ++ "timeScale" ++ ")") = true := by
  obtain ⟨hfound, hput, -, hlonger⟩ := mentions_standing "time" "f(time, timeScale)"
  have hat : StandsAt "time".toList "f(time, timeScale)".toList 2 :=
    ⟨⟨", timeScale)".toList, by decide +kernel⟩, not_wordCharacter_of_all (by decide +kernel),
      not_wordCharacter_of_all (by decide +kernel)⟩
  have hname : NameShaped "time".toList :=
    nameShaped_iff.mpr ⟨by decide +kernel, List.all_eq_true.mp (by decide +kernel)⟩
  have hin : occurs "time" "f(time, timeScale)" = true := hfound.mpr ⟨hname, 2, hat⟩
  have h : Apart "f(time".toList ", timeScale)".toList :=
    Or.inr (not_wordCharacter_of_all (by decide +kernel))
  have hbefore : Apart "f(time".toList " * 3time".toList :=
    Or.inr (not_wordCharacter_of_all (by decide +kernel))
  have hafter : Apart " * 3time".toList ", timeScale)".toList :=
    Or.inr (not_wordCharacter_of_all (by decide +kernel))
  have hopen : Apart "f(".toList "timeScale".toList :=
    Or.inl (not_wordCharacter_of_all (by decide +kernel))
  have hclose : Apart "timeScale".toList ")".toList :=
    Or.inr (not_wordCharacter_of_all (by decide +kernel))
  refine ⟨hat, hin, h, hbefore, hafter,
    (hput _ _ _ (by decide +kernel) h hbefore hafter).mpr (Or.inl hin), hopen, hclose,
    fun hnot => ?_⟩
  have hword : ∀ c ∈ "timeScale".toList, WordCharacter c :=
    wordCharacter_of_all (by decide +kernel)
  have hbrought : occurs "time" "f(" = true ∨ occurs "time" ")" = true :=
    (hlonger "f(" "timeScale" ")" (by decide +kernel) (by decide +kernel) hword hopen
      hclose).mp hnot
  exact absurd hbrought (by decide +kernel)

end Identifier

end ShaderEffects
