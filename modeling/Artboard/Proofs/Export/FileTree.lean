import Artboard.Export.FileTree

/-!
# What operations on files keep

To make directories adds directories at places where nothing was, whether all of them
could be made or not; and once all are made, the path leads to a directory.  A file that
cannot be opened is left as it is.  From its opening on one place is changed: the path
leads to a file that holds what was written, or the part of it that got there.
-/

namespace Artboard
namespace FileTree

variable {disk : Disk} {tree before middle after : FileTree} {place other : Place}

/-! ## Putting something at a place -/

theorem kind?_of_ne_nil (tree : FileTree) (named : place ≠ []) :
    tree.kind? place = tree.entries.lookup place := by
  rw [kind?, if_neg (by simpa using named)]

theorem ne_nil_of_absent (absent : tree.kind? place = none) : place ≠ [] := by
  rintro rfl
  cases absent

/-- Where nothing is, no entry tells of the place. -/
theorem ne_of_mem_of_absent (absent : tree.kind? place = none) {entry : Place × FileKind}
    (listed : entry ∈ tree.entries) : entry.1 ≠ place := by
  rw [kind?_of_ne_nil tree (ne_nil_of_absent absent), List.lookup_eq_none_iff] at absent
  have apart := absent entry listed
  intro same
  rw [same] at apart
  simp at apart

theorem entries_put_of_absent (kind : FileKind) (absent : tree.kind? place = none) :
    (tree.put place kind).entries = tree.entries ++ [(place, kind)] := by
  have kept : tree.entries.filter (fun entry => entry.1 != place) = tree.entries := by
    rw [List.filter_eq_self]
    intro entry listed
    simpa using ne_of_mem_of_absent absent listed
  rw [put, kept]

theorem lookup_filter_of_ne (entries : List (Place × FileKind)) (apart : other ≠ place) :
    (entries.filter fun entry => entry.1 != place).lookup other = entries.lookup other := by
  induction entries with
  | nil => rfl
  | cons entry rest ih =>
      by_cases same : entry.1 = place
      · have skipped : (other == entry.1) = false := by simpa [same] using apart
        rw [List.filter_cons_of_neg (by simpa using same), ih, List.lookup_cons, skipped]
      · rw [List.filter_cons_of_pos (by simpa using same), List.lookup_cons, List.lookup_cons, ih]

theorem kind?_put_of_ne (kind : FileKind) (apart : other ≠ place) :
    (tree.put place kind).kind? other = tree.kind? other := by
  by_cases root : other = []
  · rw [root]
    rfl
  · have unlisted : (other == place) = false := by simpa using apart
    rw [kind?_of_ne_nil _ root, kind?_of_ne_nil _ root, put, List.lookup_append,
      lookup_filter_of_ne tree.entries apart, List.lookup_cons, unlisted, List.lookup_nil,
      Option.or_none]

theorem kind?_put_self (tree : FileTree) (kind : FileKind) (named : place ≠ []) :
    (tree.put place kind).kind? place = some kind := by
  have cleared : (tree.entries.filter fun entry => entry.1 != place).lookup place = none := by
    rw [List.lookup_eq_none_iff]
    intro entry kept
    simpa [bne_comm] using (List.mem_filter.mp kept).2
  rw [kind?_of_ne_nil _ named, put, List.lookup_append, cleared, List.lookup_cons_self,
    Option.none_or]

/-- What is put at a place twice is there as it was put last. -/
theorem put_put (tree : FileTree) (place : Place) (first second : FileKind) :
    (tree.put place first).put place second = tree.put place second := by
  simp [put, List.filter_append, List.filter_filter]

/-- Names lead to the same place after something was put where no directory was. -/
theorem follow_put {start : Place} {names : List String} (kind : FileKind)
    (led : tree.follow start names = .ok place)
    (notDirectory : tree.kind? other ≠ some .directory) :
    (tree.put other kind).follow start names = .ok place := by
  fun_induction follow tree start names with
  | case1 place => exact led
  | case2 place names ih =>
      rw [follow]
      exact ih led
  | case3 place names ih =>
      rw [follow]
      exact ih led
  | case5 start name notDot notDots fits =>
      rw [follow, if_neg fits]
      · exact led
      · exact notDot
      · exact notDots
  | case7 start name names notDot notDots more fits enters ih =>
      -- The place on the way is a directory, so it is not the one that changed.
      have apart : start ++ [name] ≠ other := by
        rintro rfl
        exact notDirectory enters
      rw [follow, if_neg fits, kind?_put_of_ne kind apart, enters]
      · exact ih led
      · exact notDot
      · exact notDots
      · exact more
  | _ => cases led

theorem locate_put {names : List String} (kind : FileKind) (led : tree.locate names = .ok place)
    (notDirectory : tree.kind? other ≠ some .directory) :
    (tree.put other kind).locate names = .ok place :=
  follow_put kind led notDirectory

/-! ## Making directories -/

/-- A tree with directories made at places where nothing was, and the same otherwise. -/
structure Grown (before after : FileTree) (made : List Place) : Prop where
  entries : after.entries = before.entries ++ made.map fun place => (place, .directory)
  fresh : ∀ place ∈ made, before.kind? place = none

namespace Grown

theorem refl (tree : FileTree) : Grown tree tree [] where
  entries := (List.append_nil _).symm
  fresh := fun _ impossible => absurd impossible List.not_mem_nil

variable {made more : List Place}

/-- What was there before is there afterwards. -/
theorem kind?_of_some (grown : Grown before after made) {kind : FileKind}
    (there : before.kind? place = some kind) : after.kind? place = some kind := by
  by_cases root : place = []
  · rw [root] at there ⊢
    exact there
  · rw [kind?_of_ne_nil _ root] at there ⊢
    rw [grown.entries, List.lookup_append, there, Option.some_or]

/-- What was not there before is a directory, if it is there afterwards. -/
theorem kind?_cases (grown : Grown before after made) (place : Place) :
    after.kind? place = before.kind? place ∨
      before.kind? place = none ∧ after.kind? place = some .directory := by
  cases there : before.kind? place with
  | some kind => exact Or.inl (grown.kind?_of_some there)
  | none =>
      have root := ne_nil_of_absent there
      rw [kind?_of_ne_nil _ root] at there
      rw [kind?_of_ne_nil _ root, grown.entries, List.lookup_append, there, Option.none_or]
      cases found : (made.map fun place => (place, FileKind.directory)).lookup place with
      | none => exact Or.inl rfl
      | some kind =>
          rcases List.lookup_eq_some_iff.mp found with ⟨first, rest, listed, -⟩
          have member : (place, kind) ∈ made.map fun place => (place, FileKind.directory) := by
            rw [listed]
            exact List.mem_append_right _ List.mem_cons_self
          rcases List.mem_map.mp member with ⟨other, -, same⟩
          rw [← (Prod.mk.inj same).2]
          exact Or.inr ⟨rfl, rfl⟩

/-- A tree that changed has a directory where nothing was. -/
theorem exists_directory (grown : Grown before after made) (changed : after ≠ before) :
    ∃ place, before.kind? place = none ∧ after.kind? place = some .directory := by
  cases made with
  | nil =>
      have same : after = before := by
        cases after
        cases before
        congr 1
        exact grown.entries.trans (List.append_nil _)
      exact absurd same changed
  | cons place others =>
      have fresh := grown.fresh place List.mem_cons_self
      have root := ne_nil_of_absent fresh
      refine ⟨place, fresh, ?_⟩
      rw [kind?_of_ne_nil _ root] at fresh ⊢
      rw [grown.entries, List.lookup_append, fresh, Option.none_or, List.map_cons,
        List.lookup_cons_self]

theorem trans (first : Grown before middle made) (second : Grown middle after more) :
    Grown before after (made ++ more) where
  entries := by
    rw [second.entries, first.entries, List.map_append, List.append_assoc]
  fresh := by
    intro place listed
    rcases List.mem_append.mp listed with early | late
    · exact first.fresh place early
    · cases there : before.kind? place with
      | none => rfl
      | some kind =>
          have kept := first.kind?_of_some there
          rw [second.fresh place late] at kept
          cases kept

end Grown

theorem makeDirectory_of_locate {names : List String} (led : tree.locate names = .ok place) :
    tree.makeDirectory disk names =
      match tree.kind? place with
      | some _ => .error .alreadyExists
      | none =>
        match disk.directoryFault? tree place with
        | some error => .error error
        | none => .ok (tree.put place .directory) := by
  rw [makeDirectory, led]
  rfl

/-- A directory is made at the place that its names lead to, where nothing is. -/
theorem makeDirectory_eq_ok {names : List String}
    (made : tree.makeDirectory disk names = .ok after) :
    ∃ place, tree.locate names = .ok place ∧ tree.kind? place = none ∧
      after = tree.put place .directory := by
  cases led : tree.locate names with
  | error error =>
      rw [makeDirectory, led] at made
      cases made
  | ok place =>
      rw [makeDirectory_of_locate led] at made
      cases there : tree.kind? place with
      | some kind =>
          rw [there] at made
          cases made
      | none =>
          rw [there] at made
          dsimp only at made
          split at made
          · cases made
          · exact ⟨place, rfl, there, (Except.ok.inj made).symm⟩

theorem grown_put (absent : tree.kind? place = none) :
    Grown tree (tree.put place .directory) [place] where
  entries := entries_put_of_absent .directory absent
  fresh := by
    intro other listed
    rw [List.mem_singleton.mp listed]
    exact absent

theorem isDirectory_iff {names : List String} :
    tree.isDirectory names = true ↔
      ∃ place, tree.locate names = .ok place ∧ tree.kind? place = some .directory := by
  unfold isDirectory
  cases tree.locate names with
  | error error => simp
  | ok place => simp

/-- To ensure one directory is to make it or to find it there. -/
theorem ensureDirectory_eq_ok {names : List String}
    (ensured : tree.ensureDirectory disk names = .ok after) :
    after.isDirectory names = true ∧ ∃ made, Grown tree after made := by
  unfold ensureDirectory at ensured
  cases made : tree.makeDirectory disk names with
  | ok other =>
      rw [made] at ensured
      cases ensured
      rcases makeDirectory_eq_ok made with ⟨place, led, absent, rfl⟩
      have stays := locate_put .directory led (by rw [absent]; simp)
      exact ⟨isDirectory_iff.mpr ⟨place, stays, kind?_put_self tree _ (ne_nil_of_absent absent)⟩,
        [place], grown_put absent⟩
  | error error =>
      rw [made] at ensured
      dsimp only at ensured
      split at ensured
      · next there =>
          cases ensured
          exact ⟨there, [], .refl tree⟩
      · cases ensured

/-- A directory that is there is left as it is. -/
theorem ensureDirectory_of_isDirectory {names : List String}
    (there : tree.isDirectory names = true) : tree.ensureDirectory disk names = .ok tree := by
  rcases isDirectory_iff.mp there with ⟨place, led, kind⟩
  have refused : tree.makeDirectory disk names = .error .alreadyExists := by
    rw [makeDirectory_of_locate led, kind]
  rw [ensureDirectory, refused]
  dsimp only
  rw [if_pos there]

/-- Whether all directories could be made or not, those that were made are all that
changed; and when all could be made, the names lead to a directory. -/
theorem ensureAll_grown (disk : Disk) (tree : FileTree) (names : List String) :
    (∃ made, Grown tree (tree.ensureAll disk names).2 made) ∧
      ((tree.ensureAll disk names).1 = .ok () →
        (tree.ensureAll disk names).2.isDirectory names.reverse = true) := by
  fun_induction ensureAll disk tree names with
  | case1 => exact ⟨⟨[], .refl _⟩, fun _ => rfl⟩
  | case2 last outer names after ensured =>
      rcases ensureDirectory_eq_ok ensured with ⟨there, grown⟩
      exact ⟨grown, fun _ => there⟩
  | case3 last outer names missing error middle refused ih =>
      rw [refused] at ih
      refine ⟨ih.1, ?_⟩
      intro impossible
      cases impossible
  | case4 last outer names missing middle around after ensured ih =>
      rw [around] at ih
      rcases ih.1 with ⟨made, first⟩
      rcases ensureDirectory_eq_ok ensured with ⟨there, more, second⟩
      exact ⟨⟨made ++ more, first.trans second⟩, fun _ => there⟩
  | case5 last outer names missing middle around error refused ih =>
      rw [around] at ih
      refine ⟨ih.1, ?_⟩
      intro impossible
      cases impossible
  | case6 last outer names error other refused =>
      refine ⟨⟨[], .refl tree⟩, ?_⟩
      intro impossible
      cases impossible

theorem ensureAll_of_isDirectory {names : List String}
    (there : tree.isDirectory names.reverse = true) :
    tree.ensureAll disk names = (.ok (), tree) := by
  cases names with
  | nil => rw [ensureAll]
  | cons last outer =>
      rw [ensureAll, ensureDirectory_of_isDirectory there]

/-- To make directories for a path leaves what was there and adds directories only. -/
theorem createDirectories_grown (disk : Disk) (tree : FileTree) (path : String) :
    ∃ made, Grown tree (tree.createDirectories disk path).2 made := by
  unfold createDirectories
  dsimp only
  cases (FilePath.ofText path).refusal with
  | some error => exact ⟨[], .refl tree⟩
  | none => exact (ensureAll_grown disk tree _).1

/-- Once directories are made for a path, the path leads to a directory. -/
theorem isDirectory_createDirectories {path : String}
    (made : (tree.createDirectories disk path).1 = .ok ()) :
    (tree.createDirectories disk path).2.isDirectory (FilePath.ofText path).names = true := by
  unfold createDirectories at made ⊢
  dsimp only at made ⊢
  cases refused : (FilePath.ofText path).refusal with
  | some error =>
      rw [refused] at made
      cases made
  | none =>
      rw [refused] at made
      simpa only [List.reverse_reverse] using (ensureAll_grown disk tree _).2 made

/-- Nothing changes when the directory is there. -/
theorem createDirectories_of_isDirectory {path : String}
    (there : tree.isDirectory (FilePath.ofText path).names = true) :
    (tree.createDirectories disk path).2 = tree := by
  unfold createDirectories
  dsimp only
  cases (FilePath.ofText path).refusal with
  | some error => rfl
  | none =>
      dsimp only
      rw [ensureAll_of_isDirectory (by rwa [List.reverse_reverse])]

/-! ## Writing a file -/

/-- The content of the file that a path leads to. -/
def contentAt? (tree : FileTree) (path : String) : Option (List UInt8) :=
  match tree.locate (FilePath.ofText path).names with
  | .error _ => none
  | .ok place =>
    match tree.kind? place with
    | some (.file content) => some content
    | _ => none

theorem writablePlace_of_locate {path : FilePath} (refused : path.refusal = none)
    (written : path.isBlank = false) (led : tree.locate path.names = .ok place) :
    tree.writablePlace path =
      match tree.kind? place with
      | some .directory => .error .isDirectory
      | some (.file _) => if path.mustBeDirectory then .error .notDirectory else .ok place
      | none => if path.mustBeDirectory then .error .isDirectory else .ok place := by
  rw [writablePlace, refused, written, led]
  rfl

/-- A file may only be written where its path leads to and no directory is. -/
theorem writablePlace_eq_ok {path : FilePath} (writable : tree.writablePlace path = .ok place) :
    tree.locate path.names = .ok place ∧ tree.kind? place ≠ some .directory := by
  cases refused : path.refusal with
  | some error =>
      rw [writablePlace, refused] at writable
      cases writable
  | none =>
      cases blank : path.isBlank with
      | true =>
          rw [writablePlace, refused, blank] at writable
          cases writable
      | false =>
          cases led : tree.locate path.names with
          | error error =>
              rw [writablePlace, refused, blank, led] at writable
              cases writable
          | ok other =>
              rw [writablePlace_of_locate refused blank led] at writable
              split at writable
              · cases writable
              · next kind =>
                  split at writable
                  · cases writable
                  · cases writable
                    simp [kind]
              · next kind =>
                  split at writable
                  · cases writable
                  · cases writable
                    simp [kind]

/-- A tree in which the file that a path leads to has new bytes in it, and that is the same
otherwise. -/
inductive Rewritten (before : FileTree) (path : String) (bytes : List UInt8) :
    FileTree → Prop
  | put {place : Place} (led : before.locate (FilePath.ofText path).names = .ok place)
    (notDirectory : before.kind? place ≠ some .directory) :
    Rewritten before path bytes (before.put place (.file bytes))

namespace Rewritten

variable {path : String} {bytes : List UInt8}

/-- From then on the path leads to the bytes. -/
theorem contentAt?_eq (rewritten : Rewritten before path bytes after) :
    after.contentAt? path = some bytes := by
  rcases rewritten with ⟨led, notDirectory⟩
  rw [contentAt?, locate_put _ led notDirectory]
  dsimp only
  rw [kind?_put_self]
  rintro rfl
  exact notDirectory rfl

end Rewritten

/-- A file that is opened is there and empty, at the place that its path leads to. -/
theorem openFile_eq_ok {path : String} (opened : tree.openFile disk path = .ok (place, after)) :
    tree.locate (FilePath.ofText path).names = .ok place ∧ tree.kind? place ≠ some .directory ∧
      after = tree.put place (.file []) := by
  unfold openFile at opened
  cases writable : tree.writablePlace (FilePath.ofText path) with
  | error error =>
      rw [writable] at opened
      cases opened
  | ok other =>
      rcases writablePlace_eq_ok writable with ⟨led, notDirectory⟩
      rw [writable] at opened
      change (match disk.openFault? tree other with
        | some error => Except.error error
        | none => .ok (other, tree.put other (.file []))) = _ at opened
      split at opened
      · cases opened
      · cases opened
        exact ⟨led, notDirectory, rfl⟩

/-- How a write ends: before the file is open and with nothing changed, or with the file
open and as many of the bytes in it as the disk takes. -/
inductive Writes (disk : Disk) (tree : FileTree) (path : String) (bytes : List UInt8) :
    Except SystemError Unit → FileTree → Prop
  | notOpened {error : SystemError} (refused : tree.openFile disk path = .error error) :
    Writes disk tree path bytes (.error error) tree
  | cutShort {place : Place} {opened left : FileTree} {count : Nat} {error : SystemError}
    (opening : tree.openFile disk path = .ok (place, opened))
    (fault : disk.writeFault? opened place bytes = some (count, error))
    (rewritten : Rewritten tree path (bytes.take count) left) :
    Writes disk tree path bytes (.error error) left
  | written {place : Place} {opened left : FileTree}
    (opening : tree.openFile disk path = .ok (place, opened))
    (faultless : disk.writeFault? opened place bytes = none)
    (rewritten : Rewritten tree path bytes left) : Writes disk tree path bytes (.ok ()) left

theorem writes_write (disk : Disk) (tree : FileTree) (path content : String) :
    Writes disk tree path (Text.toBytes content.toList) (tree.write disk path content).1
      (tree.write disk path content).2 := by
  unfold write
  cases opening : tree.openFile disk path with
  | error error => exact .notOpened opening
  | ok opened =>
      rcases opened with ⟨place, opened⟩
      rcases openFile_eq_ok opening with ⟨led, notDirectory, rfl⟩
      dsimp only
      unfold fill
      cases fault : disk.writeFault? (tree.put place (.file [])) place
          (Text.toBytes content.toList) with
      | some stopped =>
          dsimp only
          rw [put_put]
          exact .cutShort opening fault (.put led notDirectory)
      | none =>
          dsimp only
          rw [put_put]
          exact .written opening fault (.put led notDirectory)

end FileTree
end Artboard
