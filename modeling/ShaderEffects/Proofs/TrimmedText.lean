import Mathlib.Data.List.DropRight
import ShaderEffects.Text.Blank

/-!
# Trimmed text

What trimming leaves of a text neither begins nor ends with a blank, and blanks are all that it
takes away. Lower case neither makes a blank nor hides one, so that a text that is trimmed and in
lower case stays as it is.
-/
namespace ShaderEffects.Text

variable {text inner : List Char}

/-! ## Trimming -/

/-- A text without the blanks around it. -/
structure Trims (text inner : List Char) : Prop where
  around : ∃ before after, text = before ++ inner ++ after ∧
    (∀ c ∈ before, isBlank c = true) ∧ ∀ c ∈ after, isBlank c = true
  begins : ∀ c ∈ inner.head?, isBlank c = false
  ends : ∀ c ∈ inner.getLast?, isBlank c = false

theorem dropWhile_append_of_head? {p : Char → Bool} {before rest : List Char}
    (hbefore : ∀ c ∈ before, p c = true) (hrest : ∀ c ∈ rest.head?, p c = false) :
    (before ++ rest).dropWhile p = rest := by
  rw [List.dropWhile_append_of_pos hbefore]
  cases rest with
  | nil => rfl
  | cons c rest => rw [List.dropWhile_cons_of_neg (by simp [hrest c rfl])]

theorem Trims.trimChars_eq (h : Trims text inner) : trimChars text = inner := by
  obtain ⟨⟨before, after, rfl, hbefore, hafter⟩, hbegins, hends⟩ := h
  cases inner with
  | nil =>
    have hblank : (before ++ [] ++ after).dropWhile isBlank = [] := by
      rw [List.append_nil, List.dropWhile_eq_nil_iff]
      exact List.forall_mem_append.mpr ⟨hbefore, hafter⟩
    rw [trimChars, hblank]
    rfl
  | cons first inner =>
    have hfront : (before ++ (first :: inner) ++ after).dropWhile isBlank =
        first :: inner ++ after := by
      rw [List.append_assoc]
      exact dropWhile_append_of_head? hbefore hbegins
    have hback : (after.reverse ++ (first :: inner).reverse).dropWhile isBlank =
        (first :: inner).reverse := by
      refine dropWhile_append_of_head? (fun c hc => hafter c (List.mem_reverse.mp hc)) ?_
      rw [List.head?_reverse]
      exact hends
    rw [trimChars, hfront, List.reverse_append, hback, List.reverse_reverse]

theorem not_of_mem_head?_dropWhile {p : Char → Bool} :
    ∀ c ∈ (text.dropWhile p).head?, p c = false := by
  intro c hc
  have hhead := List.head?_dropWhile_not p text
  rwa [Option.mem_def.mp hc] at hhead

theorem trims_trimChars (text : List Char) : Trims text (trimChars text) := by
  have htext : text.takeWhile isBlank ++ text.dropWhile isBlank = text :=
    List.takeWhile_append_dropWhile
  have hbegins : ∀ c ∈ (text.dropWhile isBlank).head?, isBlank c = false :=
    not_of_mem_head?_dropWhile
  have htrim : trimChars text = (text.dropWhile isBlank).rdropWhile isBlank := rfl
  rw [htrim]
  -- The second pass goes over what the first one leaves, and sees nothing else of the text.
  generalize text.dropWhile isBlank = rest at htext hbegins
  have hrest : rest.rdropWhile isBlank ++ rest.rtakeWhile isBlank = rest :=
    List.rdropWhile_append_rtakeWhile
  refine ⟨⟨text.takeWhile isBlank, rest.rtakeWhile isBlank, ?_, ?_, ?_⟩, ?_, ?_⟩
  · rw [List.append_assoc, hrest, htext]
  · exact List.all_eq_true.mp List.all_takeWhile
  · exact fun c hc => List.mem_rtakeWhile_imp hc
  · intro c hc
    refine hbegins c ?_
    rw [← hrest, List.head?_append, Option.mem_def.mp hc]
    rfl
  · intro c hc
    obtain ⟨hne, rfl⟩ := List.mem_getLast?_eq_getLast hc
    exact Bool.eq_false_iff.mpr (List.rdropWhile_last_not isBlank rest hne)

/-- Trimming leaves the one text that the blanks stand around. -/
theorem trimChars_eq_iff : trimChars text = inner ↔ Trims text inner :=
  ⟨fun h => h ▸ trims_trimChars text, Trims.trimChars_eq⟩

/-- Nothing is left to trim. -/
theorem Trims.self (h : Trims text inner) : Trims inner inner :=
  ⟨⟨[], [], by simp, by simp, by simp⟩, h.begins, h.ends⟩

/-! ## Lower case -/

/-- A capital letter stands 32 places before its small one, and no other character changes. -/
theorem toLower_cases (c : Char) : c.toLower = c ∨
    65 ≤ c.toNat ∧ c.toNat ≤ 90 ∧ c.toLower.toNat = c.toNat + 32 := by
  unfold Char.toLower
  split_ifs with h
  · have hlow : 65 ≤ c.toNat := UInt32.le_iff_toNat_le.mp h.1
    have hhigh : c.toNat ≤ 90 := UInt32.le_iff_toNat_le.mp h.2
    have hsum : (c.val + 32).toNat = (c.toNat + 32) % 2 ^ 32 := UInt32.toNat_add c.val 32
    rw [Nat.mod_eq_of_lt (by omega)] at hsum
    exact Or.inr ⟨hlow, hhigh, hsum⟩
  · exact Or.inl rfl

theorem toLower_toLower (c : Char) : c.toLower.toLower = c.toLower := by
  rcases toLower_cases c with h | ⟨hlow, hhigh, hlower⟩
  · rw [h, h]
  · rcases toLower_cases c.toLower with h | ⟨-, hagain, -⟩
    · exact h
    · omega

theorem isBlank_toLower (c : Char) : isBlank c.toLower = isBlank c := by
  rcases toLower_cases c with h | ⟨hlow, hhigh, hlower⟩
  · rw [h]
  · have hletter : ∀ d : Char, 65 ≤ d.toNat → d.toNat ≤ 122 → isBlank d = false := by
      intro d hd hd'
      simp [isBlank, blankRanges]
      omega
    rw [hletter c hlow (by omega), hletter c.toLower (by omega) (by omega)]

theorem Trims.lower (h : Trims text inner) :
    Trims (text.map Char.toLower) (inner.map Char.toLower) := by
  obtain ⟨⟨before, after, rfl, hbefore, hafter⟩, hbegins, hends⟩ := h
  refine ⟨⟨before.map Char.toLower, after.map Char.toLower, by simp, ?_, ?_⟩, ?_, ?_⟩
  · simpa [isBlank_toLower] using hbefore
  · simpa [isBlank_toLower] using hafter
  · simpa [isBlank_toLower] using hbegins
  · simpa [isBlank_toLower] using hends

/-- The letters of a text: what is left of it without the blanks around it, in lower case. -/
def Plain (text : String) (letters : List Char) : Prop :=
  ∃ inner, Trims text.toList inner ∧ letters = inner.map Char.toLower

theorem plain_iff {text : String} {letters : List Char} :
    Plain text letters ↔ (trimChars text.toList).map Char.toLower = letters := by
  simp only [Plain, ← trimChars_eq_iff, exists_eq_left']
  exact eq_comm

theorem exists_plain (text : String) : ∃ letters, Plain text letters :=
  ⟨_, plain_iff.mpr rfl⟩

/-- Letters are their own letters. -/
theorem Plain.self {text : String} {letters : List Char} (h : Plain text letters) :
    Plain (String.ofList letters) letters := by
  obtain ⟨inner, htrims, rfl⟩ := h
  refine ⟨inner.map Char.toLower, ?_, ?_⟩
  · rw [String.toList_ofList]
    exact htrims.lower.self
  · rw [List.map_map]
    exact List.map_congr_left fun c _ => (toLower_toLower c).symm

end ShaderEffects.Text
