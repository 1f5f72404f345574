import CallForm.FileSystem
import Mathlib.Tactic.Use

/-!
# Reading files

A path leads to a place exactly if something stands there, and the text of the file at a path
can be read unless one of four things bars it: nothing or a directory stands at the path, the
path itself is none for the system, or the bytes of the file are no text.
-/

namespace CallForm

/-- The entry at some names and further names is found by way of the first. -/
theorem Entry.find?_append (e : Entry) (names more : List String) :
  e.find? (names ++ more) = (e.find? names).bind (·.find? more)
  := by
  induction names generalizing e with
  | nil => rfl
  | cons name names ih =>
      cases e with
      | file bytes => rfl
      | directory entries =>
          rw [List.cons_append, Entry.find?, Entry.find?]
          cases entries.lookup name with
          | none => rfl
          | some f => apply ih f

namespace FileSystem

/-- The entry that a path leads to. -/
def entryAt? (fs : FileSystem) (path : String) : Option Entry :=
  (fs.locate? path).bind fs.root.find?

/-! ### Places that paths lead to -/

/-- Something stands above whatever stands somewhere. -/
theorem isSome_find?_dropLast {e : Entry} {place : List String} (h : (e.find? place).isSome) :
  (e.find? place.dropLast).isSome
  := by
  rcases List.eq_nil_or_concat place with rfl | ⟨front, name, rfl⟩
  · apply h
  · rw [List.concat_eq_append, Entry.find?_append] at h
    rw [List.concat_eq_append, List.dropLast_concat]
    cases hfront : e.find? front with
    | none =>
        rw [hfront] at h
        cases h
    | some f => rfl

theorem isSome_of_isDirectory {fs : FileSystem} {place : List String}
    (h : fs.isDirectory place) :
  (fs.root.find? place).isSome
  := by
  rw [isDirectory] at h
  cases hplace : fs.root.find? place with
  | none =>
      rw [hplace] at h
      cases h
  | some e => rfl

/-- A step leads to where something stands. -/
theorem isSome_of_step? {fs : FileSystem} {place next : List String} {name : String}
    (h : fs.step? place name = some next) :
  (fs.root.find? next).isSome
  := by
  rw [step?] at h
  split at h
  · cases h
  · rename_i hdirectory
    have hplace := isSome_of_isDirectory (by simpa using hdirectory)
    split at h
    · obtain rfl := Option.some.inj h
      apply hplace
    · split at h
      · obtain rfl := Option.some.inj h
        apply isSome_find?_dropLast hplace
      · split at h
        · rename_i hnext
          obtain rfl := Option.some.inj h
          apply hnext
        · cases h

theorem names_ne_nil (path : String) :
  names path ≠ []
  := by
  have h : ∀ cs name, names.go cs name ≠ [] := by
    intro cs name
    fun_induction names.go cs name with
    | case1 => simp
    | case2 => simp
    | case3 _ _ _ _ ih => apply ih
  apply h

/-- Steps lead to where something stands. -/
theorem isSome_of_steps {fs : FileSystem} {names place next : List String} (hnames : names ≠ [])
    (h : names.foldlM fs.step? place = some next) :
  (fs.root.find? next).isSome
  := by
  induction names generalizing place with
  | nil => contradiction
  | cons name names ih =>
      rw [List.foldlM_cons] at h
      obtain ⟨between, hstep, hsteps⟩ := Option.bind_eq_some_iff.mp h
      cases names with
      | nil =>
          obtain rfl := Option.some.inj hsteps
          apply isSome_of_step? hstep
      | cons other names => apply ih (by simp) hsteps

/-- A path leads somewhere exactly if something stands there. -/
theorem pathExists_iff {fs : FileSystem} {path : String} :
  fs.pathExists path ↔ ∃ e, fs.entryAt? path = some e
  := by
  rw [pathExists, entryAt?]
  cases hplace : fs.locate? path with
  | none => simp
  | some place =>
      rw [locate?] at hplace
      split at hplace
      · cases hplace
      · have hentry := isSome_of_steps (names_ne_nil path) hplace
        obtain ⟨e, he⟩ := Option.isSome_iff_exists.mp hentry
        simp [he]

/-! ### Reading -/

/-- What bars the file at a path from being read as a text. -/
def Bars (fs : FileSystem) (path : String) : ReadError → Prop
  | .nullInPath => '\x00' ∈ path.toList
  | .missing => '\x00' ∉ path.toList ∧ fs.entryAt? path = none
  | .directory named =>
    '\x00' ∉ path.toList ∧ named = path ∧ ∃ entries, fs.entryAt? path = some (.directory entries)
  | .notText error =>
    '\x00' ∉ path.toList ∧ ∃ bytes, fs.entryAt? path = some (.file bytes)
      ∧ Text.decodeUtf8 bytes = .error error

/-- Reading fails exactly for what bars the file. -/
theorem readText_eq_error_iff {fs : FileSystem} {path : String} {e : ReadError} :
  fs.readText path = .error e ↔ fs.Bars path e
  := by
  rw [readText, ← entryAt?]
  by_cases hnull : '\x00' ∈ path.toList
  · rw [if_pos (by simpa using hnull)]
    cases e <;> simp [Bars, hnull]
  · rw [if_neg (by simpa using hnull)]
    cases hentry : fs.entryAt? path with
    | none => cases e <;> simp [Bars, hnull, hentry]
    | some entry =>
        cases entry with
        | directory entries => cases e <;> simp [Bars, hnull, hentry, eq_comm]
        | file bytes =>
            cases hdecode : Text.decodeUtf8 bytes with
            | error error => cases e <;> simp [Bars, hnull, hentry, hdecode]
            | ok text => cases e <;> simp [Bars, hnull, hentry, hdecode]

end FileSystem

end CallForm
