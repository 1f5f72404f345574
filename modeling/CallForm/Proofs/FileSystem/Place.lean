import CallForm.Proofs.FileSystem.Reading

/-!
# Places and their paths

The path that is written for a place leads back to what stands there, as long as the names on
the way are names that an entry can bear.  The absolute form of a path has only such names.

A file can be put at a place if no other file stands on the way to it or below it.  That
changes no file elsewhere.
-/

namespace CallForm

namespace Entry

theorem lookup_cons (name : String) (e : Entry) (entries : List (String × Entry))
    (other : String) :
  ((name, e) :: entries).lookup other = if other = name then some e else entries.lookup other
  := by
  by_cases h : other = name
  · rw [if_pos h, h, List.lookup_cons_self]
  · have hbeq : (other == name) = false := beq_eq_false_iff_ne.mpr h
    rw [if_neg h, List.lookup_cons, hbeq]

/-- The entry of one name is put in place, and those of other names stay. -/
theorem lookup_replace (name : String) (e : Entry) (entries : List (String × Entry))
    (other : String) :
  (replace name e entries).lookup other = if other = name then some e else entries.lookup other
  := by
  induction entries with
  | nil => rw [replace, lookup_cons]
  | cons entry entries ih =>
      obtain ⟨first, f⟩ := entry
      rw [replace]
      split
      · rename_i hfirst
        rw [lookup_cons, lookup_cons, hfirst]
        split <;> rfl
      · rename_i hfirst
        rw [lookup_cons, lookup_cons, ih]
        by_cases h : other = first
        · rw [if_pos h, if_pos h, if_neg (h ▸ hfirst)]
        · rw [if_neg h, if_neg h]

/-- `Free e place`: no file stands on the way to the place or below it. -/
def Free (e : Entry) (place : List String) : Prop :=
  ∀ other bytes, other <+: place ∨ place <+: other → e.find? other = some (.file bytes) →
    other = place

variable {bytes : List UInt8} {entries : List (String × Entry)} {name : String}

/-- The entry of a name, with an empty directory where there is none, has the files that stand
below the name. -/
theorem find?_getD (more : List String) :
  ((entries.lookup name).getD (directory [])).find? more = some (.file bytes)
    ↔ (directory entries).find? (name :: more) = some (.file bytes)
  := by
  rw [find?]
  cases entries.lookup name with
  | none => cases more <;> simp [find?]
  | some e => rfl

/-- What is free in a directory is free in the entry on the way. -/
theorem Free.of_cons {names : List String} (h : (directory entries).Free (name :: names)) :
  ((entries.lookup name).getD (directory [])).Free names
  := by
  intro other bytes hother hfile
  have hcons : name :: other <+: name :: names ∨ name :: names <+: name :: other := by
    simpa [List.cons_prefix_cons] using hother
  exact (List.cons.inj (h _ bytes hcons ((find?_getD other).mp hfile))).2

/-- Putting a file at a free place changes no file elsewhere. -/
theorem find?_insert_of_ne {e : Entry} {place other : List String} (h : e.Free place)
    (hother : other ≠ place) (added : List UInt8) :
  (insert (.file added) place e).find? other = some (.file bytes)
    ↔ e.find? other = some (.file bytes)
  := by
  induction place generalizing e other with
  | nil =>
      obtain ⟨name, names, rfl⟩ := List.exists_cons_of_ne_nil hother
      have hbefore : e.find? (name :: names) ≠ some (.file bytes) := by
        intro hfile
        apply hother
        apply h _ bytes (Or.inr (List.nil_prefix)) hfile
      simp [insert, find?, hbefore]
  | cons name place ih =>
      cases e with
      | file old => cases h [] old (Or.inl (List.nil_prefix)) rfl
      | directory entries =>
          cases other with
          | nil => simp [insert, find?]
          | cons first others =>
              rw [insert, find?, lookup_replace]
              split
              · rename_i hfirst
                subst hfirst
                rw [← find?_getD]
                apply ih h.of_cons
                intro hothers
                apply hother
                rw [hothers]
              · rfl

end Entry

namespace FileSystem

/-! ### Names -/

/-- `IsName name`: an entry of a directory can bear the name.  It is not empty, it means neither
staying nor going up, and no separator stands in it. -/
structure IsName (name : String) : Prop where
  ne_empty : name ≠ ""
  ne_dot : name ≠ "."
  ne_dots : name ≠ ".."
  unseparated : '/' ∉ name.toList

instance (name : String) : Decidable (IsName name) :=
  decidable_of_iff (name ≠ "" ∧ name ≠ "." ∧ name ≠ ".." ∧ '/' ∉ name.toList)
    ⟨fun ⟨h, hdot, hdots, hunseparated⟩ => ⟨h, hdot, hdots, hunseparated⟩,
      fun h => ⟨h.ne_empty, h.ne_dot, h.ne_dots, h.unseparated⟩⟩

theorem go_separator (rest name : List Char) :
  names.go ('/' :: rest) name = String.ofList name.reverse :: names.go rest []
  := by
  rw [names.go]

theorem go_other {c : Char} (hc : c ≠ '/') (rest name : List Char) :
  names.go (c :: rest) name = names.go rest (c :: name)
  := by
  rw [names.go]
  apply hc

/-- What holds no separator is taken as a part of one name. -/
theorem go_append {cs : List Char} (hcs : '/' ∉ cs) (rest name : List Char) :
  names.go (cs ++ rest) name = names.go rest (cs.reverse ++ name)
  := by
  induction cs generalizing name with
  | nil => rfl
  | cons c cs ih =>
      rw [List.mem_cons, not_or] at hcs
      rw [List.cons_append, go_other (Ne.symm hcs.1), ih hcs.2]
      simp

/-- Names with separators between them are found again. -/
theorem go_intercalate {name : String} {more : List String}
    (h : ∀ n ∈ name :: more, '/' ∉ n.toList) :
  names.go ("/".intercalate (name :: more)).toList [] = name :: more
  := by
  induction more generalizing name with
  | nil =>
      have hgo := go_append (h name List.mem_cons_self) [] []
      simp only [List.append_nil] at hgo
      rw [String.intercalate_singleton, hgo, names.go]
      simp
  | cons next more ih =>
      rw [List.forall_mem_cons] at h
      have hcut : ("/".intercalate (name :: next :: more)).toList
          = name.toList ++ '/' :: ("/".intercalate (next :: more)).toList := by
        rw [String.intercalate_cons_cons, String.toList_append, String.toList_append,
          List.append_assoc]
        rfl
      rw [hcut, go_append h.1, go_separator, ih h.2]
      simp

/-- No separator stands in a name of a path. -/
theorem unseparated_of_mem_names {path name : String} (h : name ∈ names path) :
  '/' ∉ name.toList
  := by
  have hgo : ∀ cs before, '/' ∉ before → ∀ name ∈ names.go cs before, '/' ∉ name.toList := by
    intro cs before hbefore
    fun_induction names.go cs before with
    | case1 before => simpa using hbefore
    | case2 rest before ih =>
        rw [List.forall_mem_cons]
        exact ⟨by simpa using hbefore, ih (by simp)⟩
    | case3 before c rest hc ih =>
        apply ih
        rw [List.mem_cons, not_or]
        exact ⟨fun h => hc h.symm, hbefore⟩
  apply hgo _ _ _ name h
  simp

/-! ### Absolute paths -/

/-- Normalizing keeps to the names of the path. -/
theorem isName_of_mem_normalize {before path : List String} (hbefore : ∀ n ∈ before, IsName n)
    (hpath : ∀ n ∈ path, '/' ∉ n.toList) :
  ∀ name ∈ normalize before path, IsName name
  := by
  induction path generalizing before with
  | nil => apply hbefore
  | cons name path ih =>
      rw [List.forall_mem_cons] at hpath
      rw [normalize, List.foldl_cons]
      apply ih _ hpath.2
      split
      · apply hbefore
      · rename_i hstay
        split
        · intro n hn
          apply hbefore n ((List.dropLast_subset _) hn)
        · rename_i hup
          rw [not_or] at hstay
          rw [List.forall_mem_append, List.forall_mem_singleton]
          exact ⟨hbefore, hstay.1, hstay.2, hup, hpath.1⟩

variable {fs : FileSystem}

/-- The absolute form of a path has only names that an entry can bear. -/
theorem isName_of_mem_absolute (hfs : ∀ n ∈ fs.workingDirectory, IsName n) (path : String) :
  ∀ name ∈ fs.absolute path, IsName name
  := by
  apply isName_of_mem_normalize
  · rw [start]
    split
    · simp
    · apply hfs
  · intro name hname
    apply unseparated_of_mem_names hname

/-! ### Where the path of a place leads -/

/-- Steps by names lead to the place of these names if something stands there. -/
theorem steps_of_isName {place before : List String} (hplace : ∀ n ∈ place, IsName n)
    (hbefore : (fs.root.find? before).isSome) :
  place.foldlM fs.step? before
    = if (fs.root.find? (before ++ place)).isSome then some (before ++ place) else none
  := by
  induction place generalizing before with
  | nil =>
      rw [List.append_nil, if_pos hbefore]
      rfl
  | cons name place ih =>
      rw [List.forall_mem_cons] at hplace
      obtain ⟨hname, hplace⟩ := hplace
      have hthrough : before ++ name :: place = before ++ [name] ++ place := by simp
      rw [List.foldlM_cons, step?]
      cases hdirectory : fs.isDirectory before with
      | false =>
          have hnone : fs.root.find? (before ++ name :: place) = none := by
            obtain ⟨e, he⟩ := Option.isSome_iff_exists.mp hbefore
            rw [Entry.find?_append, he]
            cases e with
            | file bytes => rfl
            | directory entries =>
                rw [isDirectory, he] at hdirectory
                cases hdirectory
          rw [hnone]
          rfl
      | true =>
          rw [if_neg (by simp), if_neg (by simp [hname.ne_empty, hname.ne_dot]),
            if_neg hname.ne_dots, hthrough]
          split
          · rename_i hnext
            apply ih hplace hnext
          · rename_i hnext
            rw [Option.not_isSome_iff_eq_none] at hnext
            rw [Entry.find?_append, hnext]
            rfl

/-- The names in the path of a place are its names, behind those that mean staying at the
root. -/
theorem names_pathFrom {name : String} {more : List String}
    (h : ∀ n ∈ name :: more, '/' ∉ n.toList) (path : String) :
  names (pathFrom (rootOf path) (name :: more)) = "" :: name :: more
  ∨ names (pathFrom (rootOf path) (name :: more)) = "" :: "" :: name :: more
  := by
  have hone : names (pathFrom "/" (name :: more)) = "" :: name :: more := by
    have hcut : (pathFrom "/" (name :: more)).toList
        = '/' :: ("/".intercalate (name :: more)).toList := String.toList_append
    rw [names, hcut, go_separator, go_intercalate h]
    rfl
  have htwo : names (pathFrom "//" (name :: more)) = "" :: "" :: name :: more := by
    have hcut : (pathFrom "//" (name :: more)).toList
        = '/' :: '/' :: ("/".intercalate (name :: more)).toList := String.toList_append
    rw [names, hcut, go_separator, go_separator, go_intercalate h]
    rfl
  rw [rootOf]
  split
  · exact Or.inl hone
  · exact Or.inr htwo
  · exact Or.inl hone

/-- Such a path starts at the root. -/
theorem start_pathFrom (fs : FileSystem) (path : String) (place : List String) :
  fs.start (pathFrom (rootOf path) place) = []
  := by
  rw [start, pathFrom, String.toList_append, rootOf]
  split <;> rfl

/-- The path of a place below the root leads to what stands there. -/
theorem entryAt?_pathFrom {place : List String} (hplace : ∀ n ∈ place, IsName n)
    (hne : place ≠ []) (path : String) :
  fs.entryAt? (pathFrom (rootOf path) place) = fs.root.find? place
  := by
  obtain ⟨name, more, rfl⟩ := List.exists_cons_of_ne_nil hne
  have hnames := names_pathFrom (fun n hn => (hplace n hn).unseparated) path
  have hpath : pathFrom (rootOf path) (name :: more) ≠ "" := by
    intro h
    rw [h] at hnames
    revert hnames
    simp [names, names.go]
  rw [entryAt?, locate?, if_neg hpath, start_pathFrom]
  cases hdirectory : fs.isDirectory [] with
  | true =>
      have hstay : fs.step? [] "" = some [] := by simp [step?, hdirectory]
      have hsteps : (names (pathFrom (rootOf path) (name :: more))).foldlM fs.step? []
          = if (fs.root.find? (name :: more)).isSome then some (name :: more) else none := by
        rw [← List.nil_append (name :: more), ← steps_of_isName hplace rfl]
        rcases hnames with h | h <;> simp [h, hstay]
      rw [hsteps]
      cases hentry : fs.root.find? (name :: more) with
      | none => rfl
      | some e => apply hentry
  | false =>
      have hleave : fs.step? [] "" = none := by simp [step?, hdirectory]
      have hnone : fs.root.find? (name :: more) = none := by
        cases hroot : fs.root with
        | file bytes => rfl
        | directory entries =>
            rw [isDirectory, hroot] at hdirectory
            cases hdirectory
      rw [hnone]
      rcases hnames with h | h <;> simp [h, hleave]

theorem isFile_iff {place : List String} :
  fs.isFile place ↔ ∃ bytes, fs.root.find? place = some (.file bytes)
  := by
  rw [isFile]
  cases fs.root.find? place with
  | none => simp
  | some e => cases e <;> simp

/-- The file system with a file put at a place. -/
def put (fs : FileSystem) (place : List String) (bytes : List UInt8) : FileSystem :=
  { fs with root := Entry.insert (.file bytes) place fs.root }

/-- Putting a file at a free place makes no other place a file, and none a file no longer. -/
theorem isFile_put_of_ne {place other : List String} (h : fs.root.Free place)
    (hother : other ≠ place) (bytes : List UInt8) :
  (fs.put place bytes).isFile other = fs.isFile other
  := by
  rw [Bool.eq_iff_iff, isFile_iff, isFile_iff]
  apply exists_congr
  intro b
  apply Entry.find?_insert_of_ne h hother

end FileSystem

end CallForm
