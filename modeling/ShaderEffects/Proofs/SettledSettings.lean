import ShaderEffects.Proofs.RecordImages
import ShaderEffects.Proofs.WrittenJson
import ShaderEffects.Settings

/-!
# Settings that were read can be used, and stay what they are

A settings document may leave fields out and may give values that cannot be used. What is read of
it can always be used: what the document gives is kept if it can be used, and the default stands
for everything else. Written and read again, such settings are what they were, and nothing is
complained about.
-/
namespace ShaderEffects

open Json Json.Reader

namespace Settings

/-- What a document gives for each of the settings. -/
structure Document where
  searchPaths : Option (List String) := none
  stagingFormat : Option TextureFormat := none
  halfPixelOffset : Option Bool := none
  builtinParameters : Option Bool := none
  logFilter : Option String := none
deriving DecidableEq, Repr

namespace Document

/-- The fields of a document, none of which has to be there. -/
def fields : List (Reader.Field Document) :=
  [.of "search_paths" false (list path) fun ps d => { d with searchPaths := some ps },
    .of "staging_format" false (choice formatNames) fun f d => { d with stagingFormat := some f },
    .of "half_pixel_offset" false boolean fun b d => { d with halfPixelOffset := some b },
    .of "builtin_parameters" false boolean fun b d => { d with builtinParameters := some b },
    .of "log_filter" false string fun t d => { d with logFilter := some t }]

/-- The document in a text. -/
def ofText (text : String) : Except ReadError Document :=
  Json.read (record "EffectSettings" fields {}) text

/-- The settings that a document gives, with defaults for what it leaves out. -/
def filled (d : Document) : Settings where
  searchPaths := d.searchPaths.getD ({} : Settings).searchPaths
  stagingFormat := d.stagingFormat.getD ({} : Settings).stagingFormat
  halfPixelOffset := d.halfPixelOffset.getD ({} : Settings).halfPixelOffset
  builtinParameters := d.builtinParameters.getD ({} : Settings).builtinParameters
  logFilter := d.logFilter.getD ({} : Settings).logFilter

/-- What is read into settings is what is read into a document, with the defaults filled in. -/
theorem read_reader (text : String) :
    Json.read Settings.reader text = (ofText text).map filled := by
  refine read_map (fun depth => ?_) text
  refine record_map (?_ : List.Forall₂ (Reader.Field.Maps filled) fields _) _ {} depth
  exact .cons (.of fun _ _ => rfl) (.cons (.of fun _ _ => rfl) (.cons (.of fun _ _ => rfl)
    (.cons (.of fun _ _ => rfl) (.cons (.of fun _ _ => rfl) .nil))))

/-- The members of a document as they are written. -/
def members (layout : Layout) (d : Document) : List (String × List Char) :=
  (d.searchPaths.map fun ps =>
      ("search_paths", Write.array layout 1 (ps.map Write.string))).toList
    ++ ((d.stagingFormat.map fun f => ("staging_format", Write.string f.key)).toList
    ++ ((d.halfPixelOffset.map fun b => ("half_pixel_offset", Write.boolean b)).toList
    ++ ((d.builtinParameters.map fun b => ("builtin_parameters", Write.boolean b)).toList
    ++ (d.logFilter.map fun t => ("log_filter", Write.string t)).toList)))

/-- Writes a document. -/
def text (layout : Layout) (d : Document) : String :=
  .ofList (Write.object layout 0 (d.members layout))

theorem nodup_members (layout : Layout) (d : Document) :
    ((d.members layout).map Prod.fst).Nodup := by
  have hname {α : Type} (x : Option α) (name : String) (write : α → List Char) :
      ((x.map fun a => (name, write a)).toList.map Prod.fst).Sublist [name] := by
    cases x <;> simp
  have hall : ((d.members layout).map Prod.fst).Sublist
      ["search_paths", "staging_format", "half_pixel_offset", "builtin_parameters",
        "log_filter"] := by
    simp only [members, List.map_append]
    exact (hname _ _ _).append ((hname _ _ _).append ((hname _ _ _).append
      ((hname _ _ _).append (hname _ _ _))))
  exact hall.nodup (by decide)

theorem stores_option {α β : Type} {fields : List (Reader.Field α)} {depth : Nat} {name : String}
    {read : Reader β} {store : β → α → α} {write : β → List Char}
    (hf : (fields.find? fun f => f.name = name) = some (.of name false read store))
    (hread : ∀ b, (read depth).Recovers (write b) b) (x : Option β) (a : α) :
    Stores fields depth (x.map fun b => (name, write b)).toList a (x.elim a (store · a)) := by
  cases x with
  | none => exact .nil
  | some b => exact .cons hf ((hread b).map _) .nil

theorem lookup_formatNames (format : TextureFormat) :
    formatNames.lookup format.key = some format := by
  cases format <;> decide +kernel

theorem stores_members (layout : Layout) (d : Document) (depth : Nat) :
    Stores fields (depth + 1) (d.members layout) {} d := by
  have hpaths : ∀ ps : List String, (list path (depth + 1)).Recovers
      (Write.array layout 1 (ps.map Write.string)) ps := fun ps =>
    recovers_list (List.forall₂_map_left_iff.mpr (List.forall₂_same.mpr fun _ _ => recovers_path _))
  have hstores : Stores fields (depth + 1) (d.members layout) {} _ :=
    .append (stores_option rfl hpaths d.searchPaths _)
      (.append
        (stores_option rfl (fun f => recovers_choice (lookup_formatNames f)) d.stagingFormat _)
        (.append (stores_option rfl recovers_boolean d.halfPixelOffset _)
          (.append (stores_option rfl recovers_boolean d.builtinParameters _)
            (stores_option rfl recovers_string d.logFilter _))))
  rcases d with ⟨_ | _, _ | _, _ | _, _ | _, _ | _⟩ <;> exact hstores

/-- What is written of a document is what is read of it. -/
theorem ofText_text (layout : Layout) (d : Document) : ofText (d.text layout) = .ok d := by
  refine read_eq_ok (recovers_record (stores_members layout d 125) (nodup_members layout d) ?_)
  simp [fields, Reader.Field.of]

end Document

/-- A text with a character that is not blank. -/
def NotBlank (t : String) : Prop :=
  ∃ c ∈ t.toList, Text.isBlank c = false

theorem isBlankText_eq_false_iff {t : String} : Text.isBlankText t = false ↔ NotBlank t := by
  simp [Text.isBlankText, NotBlank]

theorem notBlank_info : NotBlank "info" :=
  isBlankText_eq_false_iff.mp (by decide +kernel)

/-- Settings that a session can work with. -/
structure Usable (s : Settings) : Prop where
  searchPaths : s.searchPaths ≠ []
  stagingFormat : s.stagingFormat.isColor = true
  logFilter : NotBlank s.logFilter

variable {s : Settings}

theorem usable_checked (s : Settings) : s.checked.Usable where
  searchPaths := by
    simp only [checked, List.isEmpty_iff]
    split_ifs with h
    · exact List.cons_ne_nil _ _
    · exact h
  stagingFormat := by
    simp only [checked]
    split_ifs with h
    · exact h
    · rfl
  logFilter := by
    simp only [checked]
    split_ifs with h
    · exact notBlank_info
    · exact isBlankText_eq_false_iff.mp (Bool.eq_false_iff.mpr h)

theorem Usable.checked_eq (h : s.Usable) : s.checked = s := by
  have hlog := isBlankText_eq_false_iff.mpr h.logFilter
  simp [checked, h.searchPaths, h.stagingFormat, hlog]

theorem Usable.complaints_eq (h : s.Usable) : s.complaints = [] := by
  have hlog := isBlankText_eq_false_iff.mpr h.logFilter
  simp [complaints, h.searchPaths, h.stagingFormat, hlog]

/-- What is given is kept if it can be used, and otherwise the default stands. -/
def Kept {α : Type} (usable : α → Prop) (default : α) (given : Option α) (value : α) : Prop :=
  (∃ a, given = some a ∧ usable a ∧ value = a) ∨
    ((∀ a, given = some a → ¬ usable a) ∧ value = default)

theorem kept_of_getD {α : Type} {usable : α → Prop} {default value : α} {given : Option α}
    (hdefault : usable default) (hgood : usable (given.getD default) → value = given.getD default)
    (hbad : ¬ usable (given.getD default) → value = default) :
    Kept usable default given value := by
  cases given with
  | none => exact .inr ⟨by simp, hgood hdefault⟩
  | some a =>
    by_cases ha : usable a
    · exact .inl ⟨a, rfl, ha, hgood ha⟩
    · exact .inr ⟨fun b h => Option.some.inj h ▸ ha, hbad ha⟩

/-- The settings that come of a document. -/
structure Document.Settles (d : Document) (s : Settings) : Prop where
  searchPaths : Kept (· ≠ []) ["."] d.searchPaths s.searchPaths
  stagingFormat : Kept (·.isColor = true) .rgba8 d.stagingFormat s.stagingFormat
  halfPixelOffset : Kept (fun _ => True) true d.halfPixelOffset s.halfPixelOffset
  builtinParameters : Kept (fun _ => True) true d.builtinParameters s.builtinParameters
  logFilter : Kept NotBlank "info" d.logFilter s.logFilter

theorem Document.settles_filled (d : Document) : d.Settles d.filled.checked where
  searchPaths := kept_of_getD (List.cons_ne_nil _ _)
    (fun h => if_neg (mt List.isEmpty_iff.mp h))
    fun h => if_pos (List.isEmpty_iff.mpr (not_not.mp h))
  stagingFormat := kept_of_getD rfl (fun h => if_pos h) fun h => if_neg h
  halfPixelOffset := kept_of_getD trivial (fun _ => rfl) fun h => absurd trivial h
  builtinParameters := kept_of_getD trivial (fun _ => rfl) fun h => absurd trivial h
  logFilter := kept_of_getD notBlank_info
    (fun h => if_neg (Bool.eq_false_iff.mp (isBlankText_eq_false_iff.mpr h)))
    fun h => if_pos (Bool.of_not_eq_false (mt isBlankText_eq_false_iff.mp h))

/-- The text of settings, read and checked: what a document gives, with the defaults filled in. -/
theorem ofText_eq (text : String) :
    ofText text =
      match Document.ofText text with
      | .error e => (.error e, [])
      | .ok d => (.ok d.filled.checked, d.filled.complaints) := by
  rw [ofText, Document.read_reader]
  cases Document.ofText text <;> rfl

theorem ofText_eq_ok_iff {text : String} :
    (ofText text).1 = .ok s ↔ ∃ d, Document.ofText text = .ok d ∧ s = d.filled.checked := by
  rw [ofText_eq]
  cases Document.ofText text <;> simp [eq_comm]

theorem Usable.ofText_text (h : s.Usable) (layout : Layout) :
    ofText (s.text layout) = (.ok s, []) := by
  have hdocument := Document.ofText_text layout ⟨s.searchPaths, s.stagingFormat, s.halfPixelOffset,
    s.builtinParameters, s.logFilter⟩
  have hread : Document.ofText (s.text layout) = _ := hdocument
  rw [ofText_eq, hread]
  exact Prod.ext (congrArg Except.ok h.checked_eq) h.complaints_eq

example :
    text .compact { searchPaths := ["a\\b"] } =
      "\x7b\"search_paths\":[\"a\\\\b\"],\"staging_format\":\"rgba8\"," ++
        "\"half_pixel_offset\":true,\"builtin_parameters\":true,\"log_filter\":\"info\"\x7d" := by
  decide +kernel

/-- What a file gives: the document in it, or nothing if there is no such file or its text is not
accepted. -/
inductive Document.InFile (files : FileTree) (path : String) : Document → Prop where
  | accepted {text : String} {d : Document} (htext : files.readText path = .ok text)
      (hd : Document.ofText text = .ok d) : InFile files path d
  | absent (h : ∀ text, files.readText path = .ok text → ∀ s, (Settings.ofText text).1 ≠ .ok s) :
      InFile files path {}

/-- Settings that come of a document, can be used, and are read back as they are from what is
written of them, without a complaint. -/
structure Document.Yields (d : Document) (s : Settings) : Prop where
  settles : d.Settles s
  usable : s.Usable
  stays : ∀ layout, Settings.ofText (s.text layout) = (.ok s, [])

theorem Document.yields_filled (d : Document) : d.Yields d.filled.checked where
  settles := d.settles_filled
  usable := usable_checked _
  stays := (usable_checked _).ofText_text

theorem load_yields (files : FileTree) (path : String) :
    ∃ d, Document.InFile files path d ∧ d.Yields (load files path).1 := by
  have hdefault : ({} : Document).Yields {} := Document.yields_filled {}
  unfold load
  cases hread : files.readText path with
  | error fault =>
    refine ⟨{}, .absent fun text htext => by simp [hread] at htext, ?_⟩
    cases fault <;> exact hdefault
  | ok text =>
    cases hd : Document.ofText text with
    | error e =>
      have hrefused : ∀ other, files.readText path = .ok other →
          ∀ s, (Settings.ofText other).1 ≠ .ok s := by
        rintro other hother s hs
        obtain rfl := Except.ok.inj (hread.symm.trans hother)
        obtain ⟨d, hd', -⟩ := ofText_eq_ok_iff.mp hs
        simp [hd] at hd'
      refine ⟨{}, .absent hrefused, ?_⟩
      simp only [ofText_eq, hd]
      exact hdefault
    | ok d =>
      refine ⟨d, .accepted hread hd, ?_⟩
      simp only [ofText_eq, hd]
      exact d.yields_filled

/-- Settings that were read, from a text or from a file, come of the document that was there, can
be used, and are read back as they are. A text is accepted exactly if there is a document in it,
and every document can be written, whatever it leaves out. -/
theorem settled_and_stable :
    (∀ text s, (ofText text).1 = .ok s → ∃ d, Document.ofText text = .ok d ∧ d.Yields s) ∧
      (∀ files path, ∃ d, Document.InFile files path d ∧ d.Yields (load files path).1) ∧
      (∀ text, (∃ s, (ofText text).1 = .ok s) ↔ ∃ d, Document.ofText text = .ok d) ∧
      ∀ layout d, Document.ofText (Document.text layout d) = .ok d := by
  refine ⟨fun text s h => ?_, load_yields, fun text => ?_, Document.ofText_text⟩
  · obtain ⟨d, hd, rfl⟩ := ofText_eq_ok_iff.mp h
    exact ⟨d, hd, d.yields_filled⟩
  · simp only [ofText_eq_ok_iff]
    constructor
    · rintro ⟨s, d, hd, -⟩
      exact ⟨d, hd⟩
    · rintro ⟨d, hd⟩
      exact ⟨_, d, hd, rfl⟩

/-- A document with a format and a log filter that cannot be used. -/
def repairable : String :=
  "\x7b\"log_filter\": \" \", \"search_paths\": [\"a\\\\b\"], \"staging_format\": \"d24s8\"\x7d"

theorem settled_and_stable_repaired :
    (ofText repairable).1 = .ok { searchPaths := ["a\\b"] } ∧
      ∃ d : Document, Document.ofText repairable = .ok d ∧
        d.Yields { searchPaths := ["a\\b"] } := by
  have hread : (ofText repairable).1 = .ok { searchPaths := ["a\\b"] } := by
    have hsome : (ofText repairable).1.toOption = some { searchPaths := ["a\\b"] } := by
      decide +kernel
    cases hresult : (ofText repairable).1 with
    | error e =>
      rw [hresult] at hsome
      cases hsome
    | ok s =>
      rw [hresult] at hsome
      exact congrArg _ (Option.some.inj hsome)
  exact ⟨hread, settled_and_stable.1 _ _ hread⟩

end Settings

end ShaderEffects
