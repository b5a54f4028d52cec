import ShaderEffects.Device.Headless
import ShaderEffects.Proofs.CompileFaults
import ShaderEffects.Session

/-!
# Which file a name stands for

Names are looked up in the folders of a search path before the working directory, though
the working directory is meant to come first: another file is found exactly for names that
a folder shadows. Two paths stand for one file if they lead to the same place. The path of
an effect is taken as it is if it leads anywhere, and only otherwise looked up as a name.
-/
namespace ShaderEffects

/-! ## What is there under a path -/

namespace FileTree

variable {tree : FileTree} {path : String}

theorem not_isFile_empty (tree : FileTree) : tree.isFile "" = false := by
  have hfind : tree.find "" = .error .notFound := rfl
  unfold isFile
  rw [hfind]

/-- A file is there. -/
theorem contains_of_isFile (h : tree.isFile path = true) : tree.contains path = true := by
  unfold isFile at h
  unfold contains
  cases hfind : tree.find path with
  | error fault => simp [hfind] at h
  | ok entry => rfl

/-- What a path leads to can be read as text. -/
def Readable (tree : FileTree) (path : String) : Prop := ∃ text, tree.readText path = .ok text

theorem Readable.isFile (h : tree.Readable path) : tree.isFile path = true := by
  obtain ⟨text, htext⟩ := h
  unfold readText read at htext
  unfold FileTree.isFile
  rcases hfind : tree.find path with fault | ⟨content⟩ | _ <;> simp [hfind] at htext ⊢

theorem Readable.contains (h : tree.Readable path) : tree.contains path = true :=
  contains_of_isFile h.isFile

theorem not_readable_of_error {fault : FileFault} (h : tree.readText path = .error fault) :
    ¬ tree.Readable path := by
  rintro ⟨text, htext⟩
  rw [h] at htext
  cases htext

end FileTree

/-! ## The order of a search -/

namespace FileLookup

/-- The path under which a name is first found in the folders of a search path. -/
def firstBelow? (tree : FileTree) (roots : List String) (name : String) : Option String :=
  (roots.map (join · name)).find? tree.isFile

/-- The path of a name as a search is meant to find it: the name itself if it leads to a file,
be it absolute or not, and otherwise the first folder that has such a file. -/
def documented? (tree : FileTree) (roots : List String) (name : String) : Option String :=
  if tree.isFile name then some name
  else if name = "" ∨ FileTree.isAbsolute name then none
  else firstBelow? tree roots name

/-- A name that leads to a file from the working directory, before which a folder of the
search path has another file. -/
structure Shadowed (tree : FileTree) (roots : List String) (name : String) : Prop where
  relative : FileTree.isAbsolute name = false
  isFile : tree.isFile name = true
  below : ∃ path, firstBelow? tree roots name = some path ∧ tree.follow path ≠ tree.follow name

variable {tree : FileTree} {roots : List String} {name : String}

theorem isFile_firstBelow {path : String} (h : firstBelow? tree roots name = some path) :
    tree.isFile path = true := List.find?_some h

/-- A name that is not absolute is looked for in the folders first. -/
theorem find?_search_relative (h : FileTree.isAbsolute name = false) :
    (search roots).find? tree name =
      if name = "" then none
      else (firstBelow? tree roots name).or (if tree.isFile name then some name else none) := by
  unfold find? firstBelow?
  simp only [h, Bool.false_eq_true, if_false]
  split_ifs <;> cases (roots.map (join · name)).find? tree.isFile <;> rfl

/-- An absolute name is looked for nowhere else. -/
theorem find?_search_absolute (h : FileTree.isAbsolute name = true) :
    (search roots).find? tree name = if tree.isFile name then some name else none := by
  unfold find?
  have hne : name ≠ "" := by
    rintro rfl
    exact absurd h (by decide)
  simp only [hne, h, if_false, if_true]

/-- Only a relative name that leads to a file can be found under another path than is meant. -/
theorem find?_eq_documented
    (h : FileTree.isAbsolute name = true ∨ tree.isFile name = false) :
    (search roots).find? tree name = documented? tree roots name := by
  unfold documented?
  cases habsolute : FileTree.isAbsolute name with
  | true => simp only [find?_search_absolute habsolute, or_true, if_true]
  | false =>
    have hfile : tree.isFile name = false := h.resolve_left (by simp [habsolute])
    simp [find?_search_relative habsolute, hfile]

/-- A relative name that leads to a file is found, and stands for this file unless it is
shadowed. -/
theorem find?_of_isFile (roots : List String) (h : FileTree.isAbsolute name = false)
    (hfile : tree.isFile name = true) :
    ∃ found, (search roots).find? tree name = some found ∧ tree.isFile found = true ∧
      (tree.follow found = tree.follow name ↔ ¬ Shadowed tree roots name) := by
  have hname : name ≠ "" := by
    rintro rfl
    simp [FileTree.not_isFile_empty] at hfile
  rw [find?_search_relative h, if_neg hname, if_pos hfile]
  cases hbelow : firstBelow? tree roots name with
  | none =>
    have hnot : ¬ Shadowed tree roots name := fun h => by simpa [hbelow] using h.below
    exact ⟨name, rfl, hfile, by simpa using hnot⟩
  | some path =>
    have hiff : Shadowed tree roots name ↔ tree.follow path ≠ tree.follow name :=
      ⟨fun h => by simpa [hbelow] using h.below, fun hne => ⟨h, hfile, path, hbelow, hne⟩⟩
    exact ⟨path, rfl, isFile_firstBelow hbelow, by rw [hiff, not_not]⟩

/-- A name stands for the file that it is meant to stand for, unless a folder shadows it. -/
theorem follow_find?_iff :
    ((search roots).find? tree name).map tree.follow =
        (documented? tree roots name).map tree.follow ↔
      ¬ Shadowed tree roots name := by
  by_cases h : FileTree.isAbsolute name = true ∨ tree.isFile name = false
  · have hnot : ¬ Shadowed tree roots name := fun hshadowed => by
      simp [hshadowed.relative, hshadowed.isFile] at h
    simp only [find?_eq_documented h, hnot, not_false_eq_true]
  · obtain ⟨hrelative, hfile⟩ := not_or.mp h
    simp only [Bool.not_eq_true, Bool.not_eq_false] at hrelative hfile
    obtain ⟨found, hfound, -, hiff⟩ := find?_of_isFile roots hrelative hfile
    rw [hfound, documented?, if_pos hfile, Option.map_some, Option.map_some, Option.some.injEq,
      hiff]

end FileLookup

namespace Session

variable {D : Type}

/-- A path that leads to a file is that of the effect to load. -/
theorem effectPath_of_isFile (session : Session D) {path : String}
    (h : session.engine.compiler.files.isFile path = true) : session.effectPath path = path := by
  unfold effectPath
  simp only [FileTree.contains_of_isFile h, if_true]

/-- Where names are searched for, and when this is where they are meant to be. A name stands
for the file it is meant to stand for unless a folder shadows it, and only a relative name
that leads to a file can be found under another path. For a file below the working directory
effects and everything else agree on the same condition: an effect is read from there, and
programs and textures are unless a folder shadows the name. -/
theorem search_documented_iff (tree : FileTree) (roots : List String) :
    (∀ name, (((FileLookup.search roots).find? tree name).map tree.follow =
          (FileLookup.documented? tree roots name).map tree.follow ↔
        ¬ FileLookup.Shadowed tree roots name) ∧
      (FileTree.isAbsolute name = true ∨ tree.isFile name = false →
        (FileLookup.search roots).find? tree name = FileLookup.documented? tree roots name)) ∧
    ∀ (session : Session D) (path : String),
      session.engine.compiler = { files := tree, lookup := .search roots } →
      FileTree.isAbsolute path = false → tree.isFile path = true →
      session.effectPath path = path ∧
        ∃ found, session.engine.compiler.resolve? path = some found ∧ tree.isFile found = true ∧
          (tree.follow found = tree.follow path ↔ ¬ FileLookup.Shadowed tree roots path) := by
  refine ⟨fun name => ⟨FileLookup.follow_find?_iff, FileLookup.find?_eq_documented⟩,
    fun session path hcompiler h hfile => ?_⟩
  refine ⟨session.effectPath_of_isFile (by rw [hcompiler]; exact hfile), ?_⟩
  simp only [hcompiler, Compiler.resolve?, Variables.expand_empty]
  exact FileLookup.find?_of_isFile roots h hfile

/-- A session in a folder with the files `x` and `y`. The folder `a` below has another `x`, and
a folder elsewhere has `z`. -/
def shadowing (roots : List String) : Session HeadlessDevice where
  engine := bareEngine (HeadlessDevice.ofSize 4 4) {}
    { files := .ofList ["home"] [("x", .file "0".toUTF8), ("a/x", .file "1".toUTF8),
        ("y", .file "2".toUTF8), ("/lib/z", .file "3".toUTF8)]
      lookup := .search roots }
  settings := {}
  builtins := none

/-- `y` is found in the working directory, which is searched before it comes last, and stands
for the same file as the path of an effect. `z` is found in the folder elsewhere. -/
theorem search_documented_iff_shadowing :
    FileTree.isAbsolute "y" = false ∧
      (shadowing [".", "/lib"]).engine.compiler.files.isFile "y" = true ∧
      (shadowing [".", "/lib"]).effectPath "y" = "y" ∧
      (shadowing [".", "/lib"]).engine.compiler.resolve? "y" = some "./y" ∧
      (shadowing [".", "/lib"]).engine.compiler.files.follow "./y" =
        (shadowing [".", "/lib"]).engine.compiler.files.follow "y" ∧
      (FileLookup.search [".", "/lib"]).find? (shadowing [".", "/lib"]).engine.compiler.files "z" =
        some "/lib/z" ∧
      FileLookup.documented? (shadowing [".", "/lib"]).engine.compiler.files [".", "/lib"] "z" =
        some "/lib/z" := by
  have hfile : (shadowing [".", "/lib"]).engine.compiler.files.isFile "y" = true := by
    decide +kernel
  have hbelow : FileLookup.firstBelow? (shadowing [".", "/lib"]).engine.compiler.files
      [".", "/lib"] "y" = some "./y" := by decide +kernel
  have hsame : (shadowing [".", "/lib"]).engine.compiler.files.follow "./y" =
      (shadowing [".", "/lib"]).engine.compiler.files.follow "y" := by decide +kernel
  have hnot : ¬ FileLookup.Shadowed (shadowing [".", "/lib"]).engine.compiler.files
      [".", "/lib"] "y" := fun h => by
    simpa [hbelow, hsame] using h.below
  obtain ⟨hnames, hpaths⟩ :=
    search_documented_iff (D := HeadlessDevice) (shadowing [".", "/lib"]).engine.compiler.files
      [".", "/lib"]
  obtain ⟨hpath, found, hfound, _, hiff⟩ :=
    hpaths (shadowing [".", "/lib"]) "y" rfl (by decide +kernel) hfile
  have hdot : (shadowing [".", "/lib"]).engine.compiler.resolve? "y" = some "./y" := by
    decide +kernel
  obtain rfl : found = "./y" := Option.some.inj (hfound.symm.trans hdot)
  have hz := (hnames "z").2 (Or.inr (by decide +kernel))
  have helsewhere : (FileLookup.search [".", "/lib"]).find?
      (shadowing [".", "/lib"]).engine.compiler.files "z" = some "/lib/z" := by decide +kernel
  exact ⟨by decide +kernel, hfile, hpath, hfound, hiff.mpr hnot, helsewhere, hz ▸ helsewhere⟩

/-- Of `x` an effect is loaded from the working directory, as it is meant to be, and anything
else from the folder, where there is another file. -/
theorem not_search_documented_shadowing :
    FileLookup.documented? (shadowing ["a"]).engine.compiler.files ["a"] "x" = some "x" ∧
      (FileLookup.search ["a"]).find? (shadowing ["a"]).engine.compiler.files "x" = some "a/x" ∧
      (shadowing ["a"]).effectPath "x" = "x" ∧
      (shadowing ["a"]).engine.compiler.resolve? "x" = some "a/x" ∧
      (shadowing ["a"]).engine.compiler.files.follow "a/x" ≠
        (shadowing ["a"]).engine.compiler.files.follow "x" := by
  decide +kernel

/-! ## Loading an effect from a file -/

/-- The path of an effect stands for a file that can be read: for its own, or, if it leads
nowhere, for the one that it is looked up as. -/
inductive Finds (session : Session D) (path : String) : String → String → Prop where
  | asGiven {text : String} (h : session.engine.compiler.files.readText path = .ok text) :
      Finds session path path text
  | lookedUp {found text : String} (hnowhere : session.engine.compiler.files.contains path = false)
      (hfound : session.engine.compiler.resolve? path = some found)
      (h : session.engine.compiler.files.readText found = .ok text) :
      Finds session path found text

variable {session : Session D} {path : String}

theorem Finds.effectPath {found text : String} (h : session.Finds path found text) :
    session.effectPath path = found ∧
      session.engine.compiler.files.readText found = .ok text := by
  unfold Session.effectPath
  cases h with
  | asGiven h =>
    have hreadable : session.engine.compiler.files.Readable path := ⟨text, h⟩
    exact ⟨by simp only [hreadable.contains, if_true], h⟩
  | lookedUp hnowhere hfound h =>
    exact ⟨by simp only [hnowhere, hfound, Bool.false_eq_true, if_false, Option.getD_some], h⟩

/-- What can be read under the path of an effect was found. -/
theorem finds_of_readText {text : String}
    (h : session.engine.compiler.files.readText (session.effectPath path) = .ok text) :
    session.Finds path (session.effectPath path) text := by
  unfold Session.effectPath at h ⊢
  simp only at h ⊢
  split_ifs at h ⊢ with hcontains
  · exact .asGiven h
  · cases hfound : session.engine.compiler.resolve? path with
    | none =>
      rw [hfound, Option.getD_none] at h
      exact absurd (FileTree.Readable.contains ⟨text, h⟩) hcontains
    | some found =>
      rw [hfound, Option.getD_some] at h
      exact .lookedUp (Bool.eq_false_iff.mpr hcontains) hfound h

/-- Nothing is found under a path if it cannot be read, and leads somewhere or is looked up
in vain. -/
theorem not_finds_iff :
    (¬ ∃ found text, session.Finds path found text) ↔
      ¬ session.engine.compiler.files.Readable path ∧
        (session.engine.compiler.files.contains path = true ∨
          ∀ found, session.engine.compiler.resolve? path = some found →
            ¬ session.engine.compiler.files.Readable found) := by
  constructor
  · intro h
    refine ⟨fun ⟨text, hread⟩ => h ⟨path, text, .asGiven hread⟩, ?_⟩
    cases hcontains : session.engine.compiler.files.contains path with
    | true => exact Or.inl rfl
    | false =>
      exact Or.inr fun found hfound ⟨text, hread⟩ =>
        h ⟨found, text, .lookedUp hcontains hfound hread⟩
  · rintro ⟨hnot, hlookup⟩ ⟨found, text, hread | ⟨hnowhere, hfound, hread⟩⟩
    · exact hnot ⟨_, hread⟩
    · rcases hlookup with hcontains | hvain
      · rw [hnowhere] at hcontains
        cases hcontains
      · exact hvain found hfound ⟨text, hread⟩

end Session

/-- An effect whose text is there fails for other reasons than that it cannot be read. -/
theorem Engine.load_ne_unreadable {D : Type} [Device D] (e : Engine D) (name text path : String)
    (fault : FileFault) : (e.load name text).1 ≠ .error (.unreadable path fault) := by
  have hprepare : (e.prepare name text).1 ≠ .error (.unreadable path fault) := by
    unfold prepare
    cases EffectDescription.ofText text with
    | error error => simp
    | ok d =>
      simp only
      have htells := (EffectDraft.compile_tells e.compiler d).2 (.unreadable path fault)
      have hnot : ¬ d.Reports e.compiler (.unreadable path fault) := fun h => by cases h
      cases hcompile : EffectDraft.compile (e.note (EffectDraft.notices e.compiler d)).compiler d with
      | error error =>
        simp only [ne_eq, Except.error.injEq]
        rintro rfl
        exact hnot (htells.mp hcompile)
      | ok draft => simp
  unfold load
  rcases hresult : e.prepare name text with ⟨error | effect, engine⟩
  · rw [hresult] at hprepare
    simpa using hprepare
  · simp

namespace Session

variable {D : Type} [Device D]

/-- An effect is read from the file that its path stands for and then loaded. Its file is
unreadable exactly if none stands for the path, and then nothing changes. -/
theorem loadFile_finds (session : Session D) (path : String) :
    (∀ found text, session.Finds path found text →
      session.loadFile path =
        { session with engine := session.engine.note [.loadingEffect found] }.load found text) ∧
    ((∃ found fault, (session.loadFile path).1 = .error (.unreadable found fault)) ↔
      ¬ session.engine.compiler.files.Readable path ∧
        (session.engine.compiler.files.contains path = true ∨
          ∀ found, session.engine.compiler.resolve? path = some found →
            ¬ session.engine.compiler.files.Readable found)) ∧
    ∀ found fault, (session.loadFile path).1 = .error (.unreadable found fault) →
      (session.loadFile path).2 = session := by
  have hload : ∀ found text, session.Finds path found text → session.loadFile path =
      { session with engine := session.engine.note [.loadingEffect found] }.load found text := by
    intro found text h
    obtain ⟨rfl, hread⟩ := h.effectPath
    unfold loadFile
    simp only [hread]
  have hfails : ∀ found fault, (session.loadFile path).1 = .error (.unreadable found fault) →
      ∃ fault, session.engine.compiler.files.readText (session.effectPath path) = .error fault := by
    intro found fault h
    cases hread : session.engine.compiler.files.readText (session.effectPath path) with
    | error fault => exact ⟨fault, rfl⟩
    | ok text =>
      rw [hload _ _ (finds_of_readText hread)] at h
      exact absurd h (Engine.load_ne_unreadable _ _ _ _ _)
  refine ⟨hload, ?_, fun found fault h => ?_⟩
  · rw [← not_finds_iff]
    constructor
    · rintro ⟨found, fault, h⟩ ⟨found', text, hfinds⟩
      obtain ⟨fault', hread⟩ := hfails found fault h
      obtain ⟨hpath, hread'⟩ := hfinds.effectPath
      rw [hpath, hread'] at hread
      cases hread
    · intro h
      cases hread : session.engine.compiler.files.readText (session.effectPath path) with
      | error fault =>
        refine ⟨session.effectPath path, fault, ?_⟩
        unfold loadFile
        simp only [hread]
      | ok text => exact absurd ⟨_, text, finds_of_readText hread⟩ h
  · obtain ⟨fault', hread⟩ := hfails found fault h
    unfold loadFile
    simp only [hread]

/-- The document of an effect without parameters and techniques. -/
def bareDocument : String := "[\"fx\", [], []]"

/-- A session whose working directory has a folder `fx`. It searches two folders for effects,
one of them elsewhere. -/
def foldered : Session HeadlessDevice where
  engine := bareEngine (HeadlessDevice.ofSize 4 4) {}
    { files := .ofList ["home"] [("fx", .directory), ("lib/fx", .file bareDocument.toUTF8),
        ("/effects/gx", .file bareDocument.toUTF8)]
      lookup := .search ["lib", "/effects"] }
  settings := {}
  builtins := none

/-- The folder `fx` stands in the way of the effect, which can be read. -/
theorem foldered_unreadable :
    foldered.engine.compiler.files.isFile "fx" = false ∧
      foldered.engine.compiler.resolve? "fx" = some "lib/fx" ∧
      foldered.engine.compiler.files.readText "lib/fx" = .ok bareDocument ∧
      (foldered.loadFile "fx").1 = .error (.unreadable "fx" .isDirectory) := by
  refine ⟨by decide +kernel, by decide +kernel, by decide +kernel, ?_⟩
  have hpath : foldered.effectPath "fx" = "fx" := by decide +kernel
  have hread : foldered.engine.compiler.files.readText "fx" = .error .isDirectory := by
    decide +kernel
  unfold loadFile
  simp only [hpath, hread]

/-- Nothing is in the way of the effect elsewhere, under its name or under its path. -/
theorem loadFile_finds_foldered :
    foldered.Finds "gx" "/effects/gx" bareDocument ∧
      foldered.loadFile "gx" =
        { foldered with engine := foldered.engine.note [.loadingEffect "/effects/gx"] }.load
          "/effects/gx" bareDocument ∧
      foldered.Finds "../effects/gx" "../effects/gx" bareDocument ∧
      foldered.loadFile "../effects/gx" =
        { foldered with engine := foldered.engine.note [.loadingEffect "../effects/gx"] }.load
          "../effects/gx" bareDocument ∧
      (foldered.loadFile "fx").2 = foldered := by
  have hname : foldered.Finds "gx" "/effects/gx" bareDocument :=
    .lookedUp (by decide +kernel) (by decide +kernel) (by decide +kernel)
  have hpath : foldered.Finds "../effects/gx" "../effects/gx" bareDocument :=
    .asGiven (by decide +kernel)
  have hfolder : foldered.engine.compiler.files.readText "fx" = .error .isDirectory := by
    decide +kernel
  obtain ⟨found, fault, hfails⟩ := (loadFile_finds foldered "fx").2.1.mpr
    ⟨FileTree.not_readable_of_error hfolder, Or.inl (by decide +kernel)⟩
  exact ⟨hname, (loadFile_finds foldered "gx").1 _ _ hname, hpath,
    (loadFile_finds foldered "../effects/gx").1 _ _ hpath,
    (loadFile_finds foldered "fx").2.2 found fault hfails⟩

end Session

end ShaderEffects
