import CallForm.Config.Discovery
import CallForm.Proofs.FileSystem.Place
import Mathlib.Data.List.Find
import Mathlib.Data.List.Infix

/-!
# Which configuration is found

The directories that a place lies in are the places that it begins with, the place itself and
the root among them.  `Nearest fs start directory name` says that the file of that name in that
directory is the configuration for `start`: the directory is the nearest one that holds a
configuration file, and the name the first of those that are files in it.  The search finds this
file, and nothing exactly if no directory holds any.
-/

namespace CallForm.Config

variable {fs : FileSystem} {start directory place : List String} {name : String}

/-- `Holds fs directory`: one of the names of configuration files is that of a file in the
directory. -/
def Holds (fs : FileSystem) (directory : List String) : Prop :=
  ∃ name ∈ fileNames, fs.isFile (directory ++ [name])

instance (fs : FileSystem) (directory : List String) : Decidable (Holds fs directory) :=
  inferInstanceAs (Decidable (∃ name ∈ fileNames, fs.isFile (directory ++ [name])))

/-- `First fs directory name`: of the names of configuration files, this is the first that is
that of a file in the directory. -/
def First (fs : FileSystem) (directory : List String) (name : String) : Prop :=
  fs.isFile (directory ++ [name])
  ∧ ∃ before after, fileNames = before ++ name :: after
    ∧ ∀ other ∈ before, ¬fs.isFile (directory ++ [other])

/-- `Nearest fs start directory name`: of the directories that `start` lies in, this one is the
nearest that holds a configuration file, and the first of those in it has this name. -/
structure Nearest (fs : FileSystem) (start directory : List String) (name : String) : Prop where
  above : directory <+: start
  first : First fs directory name
  nearer : ∀ other, directory <+: other → other <+: start → other ≠ directory → ¬Holds fs other

/-! ### In one directory -/

theorem First.holds (h : First fs directory name) :
  Holds fs directory
  := by
  obtain ⟨hfile, before, after, hnames, -⟩ := h
  use name
  rw [hnames]
  exact ⟨List.mem_append_right _ List.mem_cons_self, hfile⟩

/-- The file in a directory is the first of its configuration files. -/
theorem fileIn?_eq_some_iff :
  fileIn? fs directory = some place ↔ ∃ name, First fs directory name ∧ place = directory ++ [name]
  := by
  have hfirst : ∀ name, fileNames.find? (fs.isFile ∘ (directory ++ [·])) = some name
      ↔ First fs directory name := by
    intro name
    rw [List.find?_eq_some_iff_append]
    simp [First]
  rw [fileIn?, List.find?_map, Option.map_eq_some_iff]
  simp only [hfirst, eq_comm]

/-- No file is in a directory that holds no configuration file. -/
theorem fileIn?_eq_none_iff :
  fileIn? fs directory = none ↔ ¬Holds fs directory
  := by
  simp [fileIn?, Holds]

theorem Holds.exists_first (h : Holds fs directory) :
  ∃ name, First fs directory name
  := by
  cases hfile : fileIn? fs directory with
  | none =>
      absurd h
      apply fileIn?_eq_none_iff.mp hfile
  | some place =>
      obtain ⟨name, hname, -⟩ := fileIn?_eq_some_iff.mp hfile
      use name

/-! ### Upwards -/

/-- A directory that holds a configuration file ends the search. -/
theorem nearest?_of_holds (h : Holds fs start) :
  nearest? fs start = fileIn? fs start
  := by
  rw [nearest?]
  cases hfile : fileIn? fs start with
  | some file => rfl
  | none =>
      absurd h
      apply fileIn?_eq_none_iff.mp hfile

/-- Behind the root the search gives up. -/
theorem nearest?_root (h : ¬Holds fs []) :
  nearest? fs [] = none
  := by
  rw [nearest?, fileIn?_eq_none_iff.mpr h]
  rfl

/-- From a directory that holds no configuration file the search goes on above it. -/
theorem nearest?_concat (h : ¬Holds fs (start ++ [name])) :
  nearest? fs (start ++ [name]) = nearest? fs start
  := by
  rw [nearest?, fileIn?_eq_none_iff.mpr h]
  simp

/-- Where a configuration file is held, the nearest directory is that place itself. -/
theorem nearest_iff_of_holds (h : Holds fs start) :
  Nearest fs start directory name ↔ directory = start ∧ First fs start name
  := by
  constructor
  · intro hnearest
    have heq : start = directory := by
      by_contra hne
      exact hnearest.nearer start hnearest.above List.prefix_rfl hne h
    subst heq
    exact ⟨rfl, hnearest.first⟩
  · rintro ⟨rfl, hfirst⟩
    refine ⟨List.prefix_rfl, hfirst, ?_⟩
    intro other hbelow habove hne
    absurd hne
    apply habove.eq_of_length_le hbelow.length_le

/-- Where no configuration file is held, the nearest directory is that of the place above. -/
theorem nearest_concat_iff {last : String} (h : ¬Holds fs (start ++ [last])) :
  Nearest fs (start ++ [last]) directory name ↔ Nearest fs start directory name
  := by
  constructor
  · intro hnearest
    refine ⟨?_, hnearest.first, ?_⟩
    · rcases List.prefix_concat_iff.mp hnearest.above with heq | habove
      · absurd h
        rw [← heq]
        apply hnearest.first.holds
      · apply habove
    · intro other hbelow habove
      apply hnearest.nearer other hbelow (habove.trans (List.prefix_append _ _))
  · intro hnearest
    refine ⟨hnearest.above.trans (List.prefix_append _ _), hnearest.first, ?_⟩
    intro other hbelow habove hne
    rcases List.prefix_concat_iff.mp habove with rfl | habove
    · apply h
    · apply hnearest.nearer other hbelow habove hne

theorem nearest?_eq_some_iff_of_holds (h : Holds fs start) :
  nearest? fs start = some place
    ↔ ∃ directory name, Nearest fs start directory name ∧ place = directory ++ [name]
  := by
  simp [nearest?_of_holds h, nearest_iff_of_holds h, fileIn?_eq_some_iff]

/-- The search finds the first configuration file of the nearest directory that holds one. -/
theorem nearest?_eq_some_iff :
  nearest? fs start = some place
    ↔ ∃ directory name, Nearest fs start directory name ∧ place = directory ++ [name]
  := by
  induction start using List.reverseRecOn with
  | nil =>
      by_cases h : Holds fs []
      · apply nearest?_eq_some_iff_of_holds h
      · have hnone : ∀ directory name, ¬Nearest fs [] directory name := by
          intro directory name hnearest
          apply h
          rw [← List.prefix_nil.mp hnearest.above]
          apply hnearest.first.holds
        simp [nearest?_root h, hnone]
  | append_singleton start last ih =>
      by_cases h : Holds fs (start ++ [last])
      · apply nearest?_eq_some_iff_of_holds h
      · simp only [nearest?_concat h, nearest_concat_iff h]
        apply ih

/-- If a directory holds a configuration file, the nearest one that does is no farther. -/
theorem exists_nearest (habove : directory <+: start) (h : Holds fs directory) :
  ∃ nearest name, directory <+: nearest ∧ Nearest fs start nearest name
  := by
  induction start using List.reverseRecOn with
  | nil =>
      obtain rfl := List.prefix_nil.mp habove
      obtain ⟨name, hname⟩ := h.exists_first
      exact ⟨[], name, List.prefix_rfl, (nearest_iff_of_holds h).mpr ⟨rfl, hname⟩⟩
  | append_singleton start last ih =>
      by_cases hstart : Holds fs (start ++ [last])
      · obtain ⟨name, hname⟩ := hstart.exists_first
        exact ⟨_, name, habove, (nearest_iff_of_holds hstart).mpr ⟨rfl, hname⟩⟩
      · rcases List.prefix_concat_iff.mp habove with rfl | habove
        · contradiction
        · simp only [nearest_concat_iff hstart]
          apply ih habove

/-- The search finds nothing exactly if no directory holds a configuration file. -/
theorem nearest?_eq_none_iff :
  nearest? fs start = none ↔ ∀ directory, directory <+: start → ¬Holds fs directory
  := by
  constructor
  · intro hnone directory habove hholds
    obtain ⟨nearest, name, -, hnearest⟩ := exists_nearest habove hholds
    have hsome := nearest?_eq_some_iff.mpr ⟨nearest, name, hnearest, rfl⟩
    cases hnone.symm.trans hsome
  · intro h
    rw [Option.eq_none_iff_forall_ne_some]
    intro place hsome
    obtain ⟨directory, name, hnearest, -⟩ := nearest?_eq_some_iff.mp hsome
    apply h directory hnearest.above hnearest.first.holds

theorem fileIn?_congr {other : FileSystem}
    (h : ∀ name ∈ fileNames, other.isFile (directory ++ [name]) = fs.isFile (directory ++ [name])) :
  fileIn? other directory = fileIn? fs directory
  := by
  rw [fileIn?, fileIn?]
  apply List.find?_congr
  simpa using h

/-- The search looks only for the configuration files in the directories that the place lies
in. -/
theorem nearest?_congr {other : FileSystem}
    (h : ∀ directory, directory <+: start → ∀ name ∈ fileNames,
      other.isFile (directory ++ [name]) = fs.isFile (directory ++ [name])) :
  nearest? other start = nearest? fs start
  := by
  induction start using List.reverseRecOn with
  | nil =>
      rw [nearest?.eq_def other [], nearest?.eq_def fs [], fileIn?_congr (h [] List.prefix_rfl)]
      rfl
  | append_singleton start last ih =>
      have habove := ih fun directory habove => h directory (habove.trans (List.prefix_append _ _))
      rw [nearest?.eq_def other (start ++ [last]), nearest?.eq_def fs (start ++ [last]),
        fileIn?_congr (h _ List.prefix_rfl), List.dropLast_concat, habove]

/-! ### The path that is found -/

theorem isName_of_mem_fileNames (h : name ∈ fileNames) :
  FileSystem.IsName name
  := by
  have hall : ∀ name ∈ fileNames, FileSystem.IsName name := by decide
  apply hall name h

/-- A configuration file stands at a place exactly if the path of the place leads to a file. -/
theorem isFile_iff_entryAt? (hfs : ∀ n ∈ fs.workingDirectory, FileSystem.IsName n) {path : String}
    (habove : directory <+: fs.absolute path) (hname : name ∈ fileNames) :
  fs.isFile (directory ++ [name])
    ↔ ∃ bytes, fs.entryAt? (FileSystem.pathFrom (FileSystem.rootOf path) (directory ++ [name]))
      = some (.file bytes)
  := by
  have hplace : ∀ n ∈ directory ++ [name], FileSystem.IsName n := by
    rw [List.forall_mem_append, List.forall_mem_singleton]
    constructor
    · intro n hn
      apply FileSystem.isName_of_mem_absolute hfs path n (habove.subset hn)
    · apply isName_of_mem_fileNames hname
  rw [FileSystem.isFile_iff, FileSystem.entryAt?_pathFrom hplace (by simp)]

/-- The file that is found for a path is the first configuration file in the nearest directory
that holds one, of those that the place of the path lies in.  Nothing is found exactly if none of
these directories holds any, the root included.  So a nearer directory counts before a farther
one, whatever the names of the files.  What else there is in the file system has no influence, and
a file that is put anywhere but at a place where a configuration file is looked for changes
nothing.  The places that are looked at are files exactly if their paths lead to files. -/
theorem finds_nearest (fs : FileSystem) (path : String) :
  (∀ file, find? fs path = some file
    ↔ ∃ directory name, Nearest fs (fs.absolute path) directory name
      ∧ file = FileSystem.pathFrom (FileSystem.rootOf path) (directory ++ [name]))
  ∧ (find? fs path = none ↔ ∀ directory, directory <+: fs.absolute path → ¬Holds fs directory)
  ∧ (∀ directory, directory <+: fs.absolute path → Holds fs directory →
    ∃ nearest name, directory <+: nearest ∧ Nearest fs (fs.absolute path) nearest name)
  ∧ (∀ other : FileSystem, other.workingDirectory = fs.workingDirectory →
    (∀ directory, directory <+: fs.absolute path → ∀ name ∈ fileNames,
      other.isFile (directory ++ [name]) = fs.isFile (directory ++ [name])) →
    find? other path = find? fs path)
  ∧ (∀ place bytes, fs.root.Free place →
    (∀ directory, directory <+: fs.absolute path → ∀ name ∈ fileNames,
      directory ++ [name] ≠ place) →
    find? (fs.put place bytes) path = find? fs path)
  ∧ ((∀ n ∈ fs.workingDirectory, FileSystem.IsName n) →
    ∀ directory, directory <+: fs.absolute path → ∀ name ∈ fileNames,
      (fs.isFile (directory ++ [name])
        ↔ ∃ bytes,
          fs.entryAt? (FileSystem.pathFrom (FileSystem.rootOf path) (directory ++ [name]))
            = some (.file bytes)))
  := by
  have hcongr : ∀ other : FileSystem, other.workingDirectory = fs.workingDirectory →
      (∀ directory, directory <+: fs.absolute path → ∀ name ∈ fileNames,
        other.isFile (directory ++ [name]) = fs.isFile (directory ++ [name])) →
      find? other path = find? fs path := by
    intro other hdirectory h
    have habsolute : other.absolute path = fs.absolute path := by
      rw [FileSystem.absolute, FileSystem.absolute, FileSystem.start, FileSystem.start, hdirectory]
    rw [find?, find?, habsolute, nearest?_congr h]
  refine ⟨?_, ?_, fun directory habove h => exists_nearest habove h, hcongr, ?_, ?_⟩
  · intro file
    simp only [find?, Option.map_eq_some_iff, nearest?_eq_some_iff]
    constructor
    · rintro ⟨_, ⟨directory, name, hnearest, rfl⟩, rfl⟩
      exact ⟨directory, name, hnearest, rfl⟩
    · rintro ⟨directory, name, hnearest, rfl⟩
      exact ⟨_, ⟨directory, name, hnearest, rfl⟩, rfl⟩
  · rw [find?, Option.map_eq_none_iff, nearest?_eq_none_iff]
  · intro place bytes hfree helsewhere
    apply hcongr (fs.put place bytes) rfl
    intro directory habove name hname
    apply FileSystem.isFile_put_of_ne hfree (helsewhere directory habove name hname)
  · intro hfs directory habove name hname
    apply isFile_iff_entryAt? hfs habove hname

/-- In the directory `a`, one name of a configuration file is that of a directory, and the last is
that of a file, and at the root the first is that of a file.  The last name in the nearer directory
counts before the first one at the root, and a file that is put in a directory beside changes
nothing. -/
theorem finds_nearest_last :
  let fs : FileSystem := ⟨.directory [(".tinycrc.yml", .file []),
    ("a", .directory [(".tinycrc.yml", .directory []), (".tinycrc.json", .file [])])], []⟩
  Nearest fs ["a", "b"] ["a"] ".tinycrc.json"
  ∧ fs.root.Free ["a", "c", ".tinycrc.yml"]
  ∧ find? fs "/a/b" = some "/a/.tinycrc.json"
  ∧ find? (fs.put ["a", "c", ".tinycrc.yml"] []) "/a/b" = some "/a/.tinycrc.json"
  ∧ ∃ bytes, fs.entryAt? "/a/.tinycrc.json" = some (.file bytes)
  := by
  intro fs
  have hnearest : Nearest fs ["a", "b"] ["a"] ".tinycrc.json" := by
    refine ⟨by decide, ⟨by decide, [".tinycrc.yml", ".tinycrc.yaml"], [], rfl, by decide⟩, ?_⟩
    have hothers : ∀ other ∈ ["a", "b"].inits,
        ["a"] <+: other → other ≠ ["a"] → ¬Holds fs other := by
      decide
    intro other hbelow habove
    apply hothers other ((List.mem_inits _ _).mpr habove) hbelow
  have hfree : fs.root.Free ["a", "c", ".tinycrc.yml"] := by
    have hnone : ∀ other ∈ ["a", "c", ".tinycrc.yml"].inits, ¬fs.isFile other := by
      decide
    rintro other bytes (habove | ⟨more, rfl⟩) hfile
    · absurd hnone other ((List.mem_inits _ _).mpr habove)
      exact FileSystem.isFile_iff.mpr ⟨bytes, hfile⟩
    · rw [Entry.find?_append] at hfile
      cases hfile
  obtain ⟨hsome, -, -, -, hput, hentry⟩ := finds_nearest fs "/a/b"
  have hfound : find? fs "/a/b" = some "/a/.tinycrc.json" :=
    (hsome _).mpr ⟨["a"], ".tinycrc.json", hnearest, rfl⟩
  refine ⟨hnearest, hfree, hfound, ?_, ?_⟩
  · have helsewhere : ∀ directory ∈ (fs.absolute "/a/b").inits, ∀ name ∈ fileNames,
        directory ++ [name] ≠ ["a", "c", ".tinycrc.yml"] := by
      decide
    rw [← hfound]
    apply hput _ [] hfree
    intro directory habove
    apply helsewhere directory ((List.mem_inits _ _).mpr habove)
  · apply (hentry (by simp [fs]) ["a"] (by decide) ".tinycrc.json" (by decide)).mp
    decide

end CallForm.Config
