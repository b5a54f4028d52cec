import Mathlib.Algebra.BigOperators.Group.List.Basic
import Mathlib.Data.List.Forall2
import Mathlib.Data.List.Nodup
import ShaderEffects.Json.Reader
import ShaderEffects.Json.Writer

/-!
# What is written is read back

Strings, truth values, lists and records are read back from the texts that are written for them,
whatever the white space between their tokens. Places in the text do not matter for that: a scan
that succeeds is told by what it takes from the text and by what it leaves.
-/
namespace ShaderEffects.Json

/-- All of these characters are white space. -/
def Spaces (cs : List Char) : Prop :=
  ∀ c ∈ cs, isSpace c = true

theorem spaces_nil : Spaces [] := by
  simp [Spaces]

namespace Scan

/-- From the text `before`, wherever it starts, the scan gives `a` and leaves the text `after`. -/
def Reads {α : Type} (m : Scan α) (before : List Char) (a : α) (after : List Char) : Prop :=
  ∀ position, ∃ position', m ⟨before, position⟩ = .ok (a, ⟨after, position'⟩)

section Steps

variable {α β : Type} {m : Scan α} {f : α → Scan β} {a : α} {b : β}
variable {before between after gap cs : List Char} {c : Char}

theorem reads_pure : (pure a : Scan α).Reads cs a cs :=
  fun position => ⟨position, rfl⟩

theorem Reads.bind (h : m.Reads before a between) (hf : (f a).Reads between b after) :
    (m >>= f).Reads before b after := by
  intro position
  obtain ⟨p, hm⟩ := h position
  obtain ⟨q, hfa⟩ := hf p
  refine ⟨q, ?_⟩
  change (m _ >>= _) = _
  rw [hm]
  exact hfa

theorem reads_peek? : peek?.Reads (c :: cs) (some c) (c :: cs) :=
  fun position => ⟨position, rfl⟩

theorem reads_advance : advance.Reads (c :: cs) () cs :=
  fun position => ⟨position.after c, rfl⟩

theorem reads_rest : rest.Reads cs cs cs :=
  fun position => ⟨position, rfl⟩

theorem reads_takeWhile {inClass : Char → Bool} (h : ∀ c ∈ gap, inClass c = true)
    (hcs : ∀ c ∈ cs.head?, inClass c = false) :
    (takeWhile inClass).Reads (gap ++ cs) gap cs := by
  have hstop : cs.takeWhile inClass = [] ∧ cs.dropWhile inClass = cs := by
    cases cs with
    | nil => exact ⟨rfl, rfl⟩
    | cons c cs => simp [hcs c rfl]
  intro position
  refine ⟨gap.foldl Position.after position, ?_⟩
  simp only [takeWhile, Cursor.span, List.takeWhile_append_of_pos h,
    List.dropWhile_append_of_pos h, hstop, List.append_nil]

theorem reads_token? (hgap : Spaces gap) (hc : isSpace c = false) :
    token?.Reads (gap ++ c :: cs) (some c) (c :: cs) :=
  (reads_takeWhile hgap (by simpa using hc)).bind reads_peek?

theorem reads_token {ended : Fault} (hgap : Spaces gap) (hc : isSpace c = false) :
    (token ended).Reads (gap ++ c :: cs) c (c :: cs) :=
  (reads_token? hgap hc).bind reads_pure

theorem reads_word (letters : List Char) : (word letters).Reads (letters ++ cs) () cs := by
  induction letters with
  | nil => exact reads_pure
  | cons letter letters ih =>
    refine reads_peek?.bind ?_
    simp only [if_true]
    exact reads_advance.bind ih

end Steps

end Scan

section Strings

open Scan Write

variable {cs after : List Char} {c : Char}

theorem hexValue?_hexDigit {n : Nat} (h : n < 16) : hexValue? (hexDigit n) = some n := by
  revert n
  decide

/-- A character stands in a string as a letter behind a backslash, by its number, or as itself. -/
inductive StandsFor : List Char → Char → Prop where
  | letter {letter c : Char} (hu : letter ≠ 'u') (h : unescape? letter = some c) :
      StandsFor ['\\', letter] c
  | number {c : Char} (h : c.toNat < 0x20) :
      StandsFor ['\\', 'u', '0', '0', hexDigit (c.toNat / 16), hexDigit (c.toNat % 16)] c
  | itself {c : Char} (hquote : c ≠ '"') (hslash : c ≠ '\\') (h : ¬ c.toNat < 0x20) :
      StandsFor [c] c

theorem standsFor_character (c : Char) : StandsFor (character c) c := by
  unfold character
  split
  iterate 7 exact .letter (by decide) rfl
  case h_8 hquote hslash _ _ _ _ _ =>
    split_ifs with h
    · exact .number h
    · exact .itself hquote hslash h

theorem StandsFor.one_le_length {written : List Char} (h : StandsFor written c) :
    1 ≤ written.length := by
  cases h <;> simp

theorem reads_unit {a b : Nat} (ha : a < 16) (hb : b < 16) :
    unit.Reads ('0' :: '0' :: hexDigit a :: hexDigit b :: cs) (a * 16 + b) cs := by
  intro position
  have hzero : hexValue? '0' = some 0 := by decide
  refine ⟨(((position.after '0').after '0').after (hexDigit a)).after (hexDigit b), ?_⟩
  simp only [unit, hzero, hexValue?_hexDigit ha, hexValue?_hexDigit hb, Nat.zero_mul, Nat.zero_add]
  rfl

theorem reads_unicode (h : c.toNat < 0x20) :
    unicode.Reads ('0' :: '0' :: hexDigit (c.toNat / 16) :: hexDigit (c.toNat % 16) :: cs) c
      cs := by
  refine (reads_unit (by omega) (by omega)).bind ?_
  rw [Nat.div_add_mod']
  have hlow : isLowSurrogate c.toNat = false := by
    simp only [isLowSurrogate, Bool.and_eq_false_imp, decide_eq_true_eq]
    omega
  have hhigh : isHighSurrogate c.toNat = false := by
    simp only [isHighSurrogate, Bool.and_eq_false_imp, decide_eq_true_eq]
    omega
  simp only [hlow, hhigh, Bool.false_eq_true, if_false, Char.ofNat_toNat]
  exact reads_pure

theorem reads_letter {letter : Char} (hu : letter ≠ 'u') (h : unescape? letter = some c) :
    (escape unicode id).Reads (letter :: cs) c cs := by
  refine reads_peek?.bind ?_
  split
  · contradiction
  · exact absurd (Option.some.inj ‹_›) hu
  · obtain rfl := Option.some.inj ‹some letter = some _›
    simp only [h]
    exact reads_advance.bind reads_pure

theorem reads_stringRest (cs : List Char) (bound : List Char) (h : cs.length < bound.length) :
    (stringRest bound).Reads (cs.flatMap character ++ '"' :: after) cs after := by
  induction cs generalizing bound with
  | nil =>
    obtain ⟨_, bound, rfl⟩ := List.exists_cons_of_length_pos h
    refine reads_peek?.bind ?_
    simp only [if_true]
    exact reads_advance.bind reads_pure
  | cons c cs ih =>
    obtain ⟨_, bound, rfl⟩ := List.exists_cons_of_length_pos (Nat.zero_lt_of_lt h)
    have hrest := ih bound (by simpa using h)
    rw [List.flatMap_cons, List.append_assoc]
    generalize hw : character c = written
    cases hw ▸ standsFor_character c with
    | letter hu hc =>
      refine reads_peek?.bind ?_
      simp only [Char.reduceEq, if_false, if_true]
      exact reads_advance.bind ((reads_letter hu hc).bind (hrest.bind reads_pure))
    | number hc =>
      refine reads_peek?.bind ?_
      simp only [Char.reduceEq, if_false, if_true]
      refine reads_advance.bind (.bind ?_ (hrest.bind reads_pure))
      exact reads_peek?.bind (reads_advance.bind (reads_unicode hc))
    | itself hquote hslash hc =>
      refine reads_peek?.bind ?_
      simp only [hquote, hslash, hc, if_false]
      exact reads_advance.bind (hrest.bind reads_pure)

theorem reads_string (s : String) : Scan.string.Reads (Write.string s ++ after) s after := by
  -- No character is written with none, so the bound lasts up to the closing quote.
  have hlength : s.toList.length < (s.toList.flatMap character ++ '"' :: after).length := by
    rw [List.length_append, List.length_flatMap, List.length_cons]
    have := List.length_le_sum_of_one_le (s.toList.map fun c => (character c).length) (by
      simpa using fun c _ => (standsFor_character c).one_le_length)
    simp only [List.length_map] at this
    omega
  unfold Write.string
  rw [List.append_assoc]
  refine reads_advance.bind (reads_rest.bind ((reads_stringRest s.toList _ hlength).bind ?_))
  rw [String.ofList_toList]
  exact reads_pure

end Strings

/-- From what is written, behind white space or not, the scan gets `a` back and leaves what follows.
What is written starts with a character that is neither white space nor the end of an array. -/
structure Scan.Recovers {α : Type} (m : Scan α) (written : List Char) (a : α) : Prop where
  starts : ∃ c cs, written = c :: cs ∧ isSpace c = false ∧ c ≠ ']'
  reads : ∀ {gap : List Char} (after : List Char), Spaces gap →
    m.Reads (gap ++ (written ++ after)) a after

namespace Scan.Recovers

variable {α : Type} {m : Scan α} {written : List Char} {a : α}

theorem reads_here (h : m.Recovers written a) (after : List Char) :
    m.Reads (written ++ after) a after :=
  h.reads after spaces_nil

theorem ne_nil (h : m.Recovers written a) : written ≠ [] := by
  obtain ⟨c, cs, rfl, -⟩ := h.starts
  exact List.cons_ne_nil c cs

theorem map {β : Type} (h : m.Recovers written a) (f : α → β) :
    (m >>= fun a => pure (f a)).Recovers written (f a) where
  starts := h.starts
  reads after hgap := (h.reads after hgap).bind reads_pure

end Scan.Recovers

section Scalars

open Scan Reader

variable {α : Type} {a : α} {depth : Nat} {after : List Char}

theorem string_eq_cons (s : String) :
    Write.string s = '"' :: (s.toList.flatMap Write.character ++ ['"']) :=
  rfl

theorem reads_scalar_string (s : String) :
    scalar.Reads (Write.string s ++ after) (.string s) after :=
  reads_peek?.bind ((reads_string s).bind reads_pure)

theorem reads_scalar_boolean (b : Bool) :
    scalar.Reads (Write.boolean b ++ after) (.boolean b) after := by
  cases b with
  | false =>
    exact reads_peek?.bind
      (reads_advance.bind ((reads_word ['a', 'l', 's', 'e']).bind reads_pure))
  | true =>
    exact reads_peek?.bind
      (reads_advance.bind ((reads_word ['r', 'u', 'e']).bind reads_pure))

/-- A value without parts is got back if it is one that is selected. -/
theorem recovers_ofScalar {expected : String} {select? : Scalar → Option α} {s : Scalar} {c : Char}
    {cs : List Char} (hc : c = '"' ∨ c = 't' ∨ c = 'f')
    (hs : ∀ after, scalar.Reads (c :: cs ++ after) s after) (ha : select? s = some a) :
    (ofScalar expected select? depth).Recovers (c :: cs) a where
  starts := ⟨c, cs, rfl, by rcases hc with rfl | rfl | rfl <;> decide⟩
  reads after hgap := by
    have hspace : isSpace c = false := by rcases hc with rfl | rfl | rfl <;> rfl
    refine (reads_token hgap hspace).bind ?_
    have hfound : found.Reads (c :: cs ++ after) (.scalar s) after := by
      refine reads_peek?.bind ?_
      rcases hc with rfl | rfl | rfl <;> exact (hs after).bind reads_pure
    refine hfound.bind ?_
    simp only [ha]
    exact reads_pure

theorem recovers_string (s : String) : (Reader.string depth).Recovers (Write.string s) s :=
  recovers_ofScalar (.inl rfl) (fun _ => reads_scalar_string s) rfl

theorem recovers_path (s : String) : (path depth).Recovers (Write.string s) s :=
  recovers_ofScalar (.inl rfl) (fun _ => reads_scalar_string s) rfl

theorem recovers_boolean (b : Bool) : (boolean depth).Recovers (Write.boolean b) b := by
  have hs : ∀ after, scalar.Reads (Write.boolean b ++ after) (.boolean b) after :=
    fun _ => reads_scalar_boolean b
  cases b with
  | false => exact recovers_ofScalar (.inr (.inr rfl)) hs rfl
  | true => exact recovers_ofScalar (.inr (.inl rfl)) hs rfl

theorem recovers_choice {variants : List (String × α)} {name : String}
    (h : variants.lookup name = some a) :
    (choice variants depth).Recovers (Write.string name) a where
  starts := ⟨'"', _, string_eq_cons name, by decide⟩
  reads after hgap := by
    refine (reads_token hgap (by rfl)).bind ?_
    refine (reads_string name).bind ?_
    simp only [h]
    exact reads_pure

end Scalars

section Containers

open Scan Reader Write

variable {α : Type} {a b : α} {depth : Nat} {after line closing : List Char} {first : Bool}

theorem reads_moreItems_true {c : Char} {cs : List Char} (hline : Spaces line)
    (hspace : isSpace c = false) (hc : c ≠ ']') :
    (moreItems first).Reads ((if first then [] else [',']) ++ (line ++ c :: cs)) true
      (c :: cs) := by
  cases first with
  | true =>
    refine (reads_token hline hspace).bind ?_
    simp only [hc, if_false, if_true]
    exact reads_pure
  | false =>
    refine (reads_token spaces_nil (by rfl)).bind ?_
    simp only [Char.reduceEq, Bool.false_eq_true, if_false, if_true]
    refine reads_advance.bind ((reads_token hline hspace).bind ?_)
    simp only [hc, if_false]
    exact reads_pure

theorem reads_moreItems_false (hclosing : Spaces closing) :
    (moreItems first).Reads (closing ++ ']' :: after) false (']' :: after) := by
  refine (reads_token hclosing (by rfl)).bind ?_
  simp only [if_true]
  exact reads_pure

theorem reads_elements {element : Scan α} {items : List (List Char)} {as : List α}
    (h : List.Forall₂ element.Recovers items as) (hline : Spaces line) (hclosing : Spaces closing)
    (bound : List Char) (hbound : items.length < bound.length) (first : Bool) :
    (elements element bound first).Reads (parts line first items ++ (closing ++ ']' :: after)) as
      after := by
  induction h generalizing bound first with
  | nil =>
    obtain ⟨_, bound, rfl⟩ := List.exists_cons_of_length_pos hbound
    refine (reads_moreItems_false hclosing).bind ?_
    exact reads_advance.bind reads_pure
  | @cons item a items as hitem _ ih =>
    obtain ⟨_, bound, rfl⟩ := List.exists_cons_of_length_pos (Nat.zero_lt_of_lt hbound)
    obtain ⟨c, cs, rfl, hspace, hc⟩ := hitem.starts
    have hrest := ih bound (by simpa using hbound) false
    simp only [parts, List.append_assoc, List.cons_append]
    refine (reads_moreItems_true hline hspace hc).bind ?_
    exact (hitem.reads_here _).bind (hrest.bind reads_pure)

theorem length_le_length_parts (line : List Char) (first : Bool) (items : List (List Char))
    (h : ∀ item ∈ items, item ≠ []) : items.length ≤ (parts line first items).length := by
  induction items generalizing first with
  | nil => exact Nat.zero_le _
  | cons item items ih =>
    have hitem := List.length_pos_iff.mpr (h item List.mem_cons_self)
    have hrest := ih false fun item hmem => h item (List.mem_cons_of_mem _ hmem)
    simp only [parts, List.length_append, List.length_cons]
    omega

theorem spaces_closing (layout : Layout) (around : Nat) (items : List (List Char)) :
    Spaces (if items.isEmpty then [] else layout.line around) := by
  split_ifs
  · exact spaces_nil
  · exact layout.isSpace_line around

theorem recovers_list {read : Reader α} {layout : Layout} {around : Nat} {items : List (List Char)}
    {as : List α} (h : List.Forall₂ (read depth).Recovers items as) :
    (list read (depth + 1)).Recovers (Write.array layout around items) as where
  starts := ⟨'[', _, rfl, by decide⟩
  reads {gap} after hgap := by
    have hitems : ∀ item ∈ items, item ≠ [] :=
      ((List.forall₂_and_left _ _).mp (h.imp fun _ _ hitem => ⟨hitem.ne_nil, hitem⟩)).1
    have hclosing := spaces_closing layout around items
    simp only [Write.array, container, List.cons_append, List.append_assoc]
    refine (reads_token hgap (by rfl)).bind (reads_advance.bind (reads_rest.bind ?_))
    refine reads_elements h (layout.isSpace_line _) hclosing _ ?_ true
    have := length_le_length_parts (layout.line (around + 1)) true items hitems
    simp only [List.length_append, List.length_cons]
    omega

theorem reads_moreMembers_true {name : String} {cs : List Char} (hline : Spaces line) :
    (moreMembers first).Reads ((if first then [] else [',']) ++ (line ++ (Write.string name ++ cs)))
      true (Write.string name ++ cs) := by
  cases first with
  | true =>
    refine (reads_token hline (by rfl)).bind ?_
    simp only [Char.reduceEq, if_false, if_true]
    exact reads_pure
  | false =>
    refine (reads_token spaces_nil (by rfl)).bind ?_
    simp only [Char.reduceEq, Bool.false_eq_true, if_false, if_true]
    refine reads_advance.bind ((reads_token hline (by rfl)).bind ?_)
    simp only [if_true]
    exact reads_pure

theorem reads_moreMembers_false (hclosing : Spaces closing) :
    (moreMembers first).Reads (closing ++ '\x7d' :: after) false ('\x7d' :: after) := by
  refine (reads_token hclosing (by rfl)).bind ?_
  simp only [if_true]
  exact reads_pure

theorem reads_colon {cs : List Char} : colon.Reads (':' :: cs) () cs := by
  refine (reads_token spaces_nil (by rfl)).bind ?_
  simp only [if_true]
  exact reads_advance

/-- One after the other, members take a record from `a` to `b`: each has the name of a field,
which gets back what is written for it. -/
inductive Stores (fields : List (Reader.Field α)) (depth : Nat) :
    List (String × List Char) → α → α → Prop where
  | nil {a : α} : Stores fields depth [] a a
  | cons {name : String} {written : List Char} {members : List (String × List Char)}
      {f : Reader.Field α} {a b c : α} (hf : (fields.find? fun f => f.name = name) = some f)
      (hread : (f.read depth a).Recovers written b) (hrest : Stores fields depth members b c) :
      Stores fields depth ((name, written) :: members) a c

theorem Stores.append {fields : List (Reader.Field α)} {c : α}
    {before behind : List (String × List Char)} (h : Stores fields depth before a b) (h' : Stores fields depth behind b c) :
    Stores fields depth (before ++ behind) a c := by
  induction h with
  | nil => exact h'
  | cons hf hread _ ih => exact .cons hf hread (ih h')

theorem reads_fieldsByName {fields : List (Reader.Field α)} {layout : Layout}
    {members : List (String × List Char)} (h : Stores fields depth members a b)
    (hline : Spaces line) (hclosing : Spaces closing) (seen : List String)
    (hnodup : (members.map Prod.fst).Nodup) (hseen : ∀ name ∈ members.map Prod.fst, name ∉ seen)
    (hrequired : ∀ f ∈ fields, f.required = true → f.name ∈ seen ∨ f.name ∈ members.map Prod.fst)
    (bound : List Char) (hbound : members.length < bound.length) (first : Bool) :
    (fieldsByName fields depth bound first seen a).Reads
      (parts line first (members.map (member layout)) ++ (closing ++ '\x7d' :: after)) b after := by
  induction h generalizing bound first seen with
  | nil =>
    obtain ⟨_, bound, rfl⟩ := List.exists_cons_of_length_pos hbound
    refine (reads_moreMembers_false hclosing).bind ?_
    refine reads_advance.bind ?_
    have hnone : (fields.find? fun f => f.required && !seen.contains f.name) = none := by
      rw [List.find?_eq_none]
      intro f hf
      simpa using hrequired f hf
    simp only [hnone]
    exact reads_pure
  | @cons name written members f a b c hf hread _ ih =>
    obtain ⟨_, bound, rfl⟩ := List.exists_cons_of_length_pos (Nat.zero_lt_of_lt hbound)
    simp only [List.map_cons, List.nodup_cons] at hnodup
    obtain ⟨hname, hseen⟩ := List.forall_mem_cons.mp hseen
    -- With its name seen, the member is behind us: the names to come differ from it, and a field
    -- that is required is it or still to come.
    have hrest := ih (name :: seen) hnodup.2
      (fun other hmem hin => by
        rcases List.mem_cons.mp hin with rfl | hin
        · exact hnodup.1 hmem
        · exact hseen other hmem hin)
      (fun f hmem hf => by
        rcases hrequired f hmem hf with h | h
        · exact .inl (List.mem_cons_of_mem _ h)
        · rcases List.mem_cons.mp h with h | h
          · exact .inl (h ▸ List.mem_cons_self)
          · exact .inr h)
      bound (by simpa using hbound) false
    simp only [List.map_cons, parts, member, List.append_assoc, List.cons_append]
    refine (reads_moreMembers_true hline).bind ?_
    refine (reads_string name).bind ?_
    have hnew : seen.contains name = false := by simpa using hname
    simp only [hf, hnew, Bool.false_eq_true, if_false]
    exact reads_colon.bind ((hread.reads _ layout.isSpace_gap).bind hrest)

theorem recovers_record {type : String} {fields : List (Reader.Field α)} {layout : Layout}
    {around : Nat} {members : List (String × List Char)} (h : Stores fields depth members a b)
    (hnodup : (members.map Prod.fst).Nodup)
    (hrequired : ∀ f ∈ fields, f.required = true → f.name ∈ members.map Prod.fst) :
    (record type fields a (depth + 1)).Recovers (Write.object layout around members) b where
  starts := ⟨'\x7b', _, rfl, by decide⟩
  reads {gap} after hgap := by
    simp only [Write.object, container, List.cons_append, List.append_assoc]
    refine (reads_token hgap (by rfl)).bind (reads_advance.bind (reads_rest.bind ?_))
    refine reads_fieldsByName h (layout.isSpace_line _) (spaces_closing layout around _) []
      hnodup (by simp) (fun f hmem hf => .inr (hrequired f hmem hf)) _ ?_ true
    have hmembers : ∀ written ∈ members.map (member layout), written ≠ [] := by
      intro written hmem
      obtain ⟨m, -, rfl⟩ := List.mem_map.mp hmem
      exact List.cons_ne_nil _ _
    have := length_le_length_parts (layout.line (around + 1)) true _ hmembers
    simp only [List.length_append, List.length_cons, List.length_map] at this ⊢
    omega

end Containers

theorem Scan.Reads.run'_eq_ok {α : Type} {m : Scan α} {before : List Char} {a : α}
    (h : m.Reads before a []) : m.run' ⟨before, {}⟩ = .ok a := by
  obtain ⟨_, hm⟩ := h {}
  rw [StateT.run'_eq]
  exact congrArg (Except.map Prod.fst) hm

theorem Scan.reads_token?_nil : token?.Reads [] none [] :=
  fun position => ⟨position, rfl⟩

/-- A whole text is read to what its reader gets back from it. -/
theorem read_eq_ok {α : Type} {reader : Reader α} {written : List Char} {a : α}
    (h : (reader 127).Recovers written a) : read reader (String.ofList written) = .ok a := by
  have hreads := h.reads_here []
  rw [List.append_nil] at hreads
  unfold read
  rw [String.toList_ofList]
  refine (hreads.bind ?_).run'_eq_ok
  exact Scan.reads_token?_nil.bind Scan.reads_pure

end ShaderEffects.Json
