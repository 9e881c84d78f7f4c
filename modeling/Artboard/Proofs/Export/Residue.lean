import Artboard.Proofs.Export.Delivery

/-!
# What a failed export leaves behind

Most failures come before any file is touched.  But the directory of the page is made before
the page is written, and the page is emptied when it is opened, before anything is written
to it.  When the page cannot be opened then, the directories that were made for it are left
behind; and when it cannot be written, so is the file with the part of the page that got
there, in place of whatever the file held before.
-/

namespace Artboard
namespace Export

/-- For a delivery the directories are all there, and the file of the page is opened at a
place. -/
def Opens (disk : Disk) (tree : FileTree) (directory path : String) (place : Place) : Prop :=
  (tree.createDirectories disk directory).1 = .ok () ∧
    ∃ opened, (tree.createDirectories disk directory).2.openFile disk path = .ok (place, opened)

variable {disk : Disk} {tree files : FileTree} {delivery : Delivery} {error : ExportError}

/-- A delivery opens its page at one place. -/
theorem Opens.unique {directory path : String} {place other : Place}
    (first : Opens disk tree directory path place)
    (second : Opens disk tree directory path other) : place = other := by
  rcases first with ⟨-, opened, opening⟩
  rcases second with ⟨-, openedSame, openingSame⟩
  rw [opening] at openingSame
  cases openingSame
  rfl

/-- What a delivery that fails leaves: what was made for its directory, and if the page was
opened, what the disk took of it. -/
structure Leaves (disk : Disk) (delivery : Delivery) (tree files : FileTree) : Prop where
  others : ∀ place, ¬Opens disk tree delivery.directory delivery.path place →
    files.kind? place = (tree.createDirectories disk delivery.directory).2.kind? place
  apart : ∀ place, Opens disk tree delivery.directory delivery.path place →
    (tree.createDirectories disk delivery.directory).2.kind? place ≠ some .directory
  page : ∀ place, Opens disk tree delivery.directory delivery.path place → ∃ count,
    files.kind? place = some (.file ((Text.toBytes delivery.content.toList).take count))
  unopened : (∀ place, ¬Opens disk tree delivery.directory delivery.path place) →
    files = (tree.createDirectories disk delivery.directory).2

theorem leaves_of_not_opens
    (closed : ∀ place, ¬Opens disk tree delivery.directory delivery.path place) :
    Leaves disk delivery tree (tree.createDirectories disk delivery.directory).2 where
  others _ _ := rfl
  apart place opens := absurd opens (closed place)
  page place opens := absurd opens (closed place)
  unopened _ := rfl

theorem leaves_of_opens {place : Place} {count : Nat}
    (opens : Opens disk tree delivery.directory delivery.path place)
    (notDirectory :
      (tree.createDirectories disk delivery.directory).2.kind? place ≠ some .directory) :
    Leaves disk delivery tree ((tree.createDirectories disk delivery.directory).2.put place
      (.file ((Text.toBytes delivery.content.toList).take count))) where
  others := by
    intro other closed
    apply FileTree.kind?_put_of_ne
    rintro rfl
    exact closed opens
  apart := by
    intro other opensOther
    rw [opensOther.unique opens]
    exact notDirectory
  page := by
    intro other opensOther
    refine ⟨count, ?_⟩
    rw [opensOther.unique opens]
    apply FileTree.kind?_put_self
    rintro rfl
    exact notDirectory rfl
  unopened closed := absurd opens (closed place)

theorem Delivered.leaves (delivered : Delivered disk delivery tree (.error error) files) :
    (∃ path reason, error = .write path reason) ∧ Leaves disk delivery tree files := by
  generalize came : (.error error : Except ExportError Unit) = result at delivered
  cases delivered with
  | noDirectory failed =>
      cases came
      refine ⟨⟨_, _, rfl⟩, leaves_of_not_opens ?_⟩
      rintro place ⟨ready, -⟩
      rw [failed] at ready
      cases ready
  | writes ready writes =>
      cases writes with
      | notOpened refused =>
          cases came
          refine ⟨⟨_, _, rfl⟩, leaves_of_not_opens ?_⟩
          rintro place ⟨-, opened, opening⟩
          rw [refused] at opening
          cases opening
      | cutShort opening fault rewritten =>
          cases came
          rcases FileTree.openFile_eq_ok opening with ⟨led, notDirectory, -⟩
          rcases rewritten with ⟨ledSame, -⟩
          rw [led] at ledSame
          cases ledSame
          exact ⟨⟨_, _, rfl⟩, leaves_of_opens ⟨ready, _, opening⟩ notDirectory⟩
      | written opening faultless rewritten => cases came

/-- A directory that was made for the page is left where nothing was. -/
theorem Leaves.exists_directory_of_ne (leaves : Leaves disk delivery tree files)
    (changed : (tree.createDirectories disk delivery.directory).2 ≠ tree) :
    ∃ place, tree.kind? place = none ∧ files.kind? place = some .directory := by
  rcases tree.createDirectories_grown disk delivery.directory with ⟨made, grown⟩
  rcases grown.exists_directory changed with ⟨place, absent, isDirectory⟩
  have closed : ¬Opens disk tree delivery.directory delivery.path place :=
    fun opens => leaves.apart place opens isDirectory
  exact ⟨place, absent, (leaves.others place closed).trans isDirectory⟩

/-- When the directory of the page was missing and could be made, there is a new directory. -/
theorem Leaves.exists_directory (leaves : Leaves disk delivery tree files)
    (ready : (tree.createDirectories disk delivery.directory).1 = .ok ())
    (missing : tree.isDirectory (FilePath.ofText delivery.directory).names = false) :
    ∃ place, tree.kind? place = none ∧ files.kind? place = some .directory := by
  apply leaves.exists_directory_of_ne
  intro unchanged
  have there := FileTree.isDirectory_createDirectories ready
  rw [unchanged, missing] at there
  cases there

/-- Nothing changed if no directory was made and the file of the page is as before. -/
theorem Leaves.same_iff (leaves : Leaves disk delivery tree files) :
    (∀ place, files.kind? place = tree.kind? place) ↔
      (tree.createDirectories disk delivery.directory).2 = tree ∧
        ∀ place, Opens disk tree delivery.directory delivery.path place →
          files.kind? place = tree.kind? place := by
  constructor
  · intro same
    refine ⟨Decidable.byContradiction fun changed => ?_, fun place _ => same place⟩
    rcases leaves.exists_directory_of_ne changed with ⟨place, absent, isDirectory⟩
    rw [same, absent] at isDirectory
    cases isDirectory
  · rintro ⟨unchanged, samePage⟩ place
    by_cases opens : Opens disk tree delivery.directory delivery.path place
    · exact samePage place opens
    · rw [leaves.others place opens, unchanged]

variable {service : Service} {settings : Settings}

/-- What fails before there is a page is not a write. -/
theorem Course.ne_write {asked : List Request}
    (course : Course service settings asked (.error error)) (path : String)
    (reason : SystemError) : error ≠ .write path reason := by
  rintro rfl
  cases course with
  | refused defect => cases defect

/-- A failed export touched no file, or the delivery of its page failed. -/
theorem failed_run_cases (failed : (run service settings tree disk).result = .error error) :
    ((∀ path reason, error ≠ .write path reason) ∧
        (run service settings tree disk).files = tree) ∨
      ∃ page, (Attempt.trace service (prepare settings)).1 =
          .ok ⟨settings.outputDirectory, settings.outputPath, page⟩ ∧
        Delivered disk ⟨settings.outputDirectory, settings.outputPath, page⟩ tree
          (.error error) (run service settings tree disk).files := by
  rcases exists_course service settings with ⟨asked, other | delivery, course⟩
  · have ended := run_of_error tree disk (congrArg Prod.fst (trace_of_course course))
    rw [failed] at ended
    cases ended.1
    exact Or.inl ⟨course.ne_write, ended.2⟩
  · have came := congrArg Prod.fst (trace_of_course course)
    have ended := run_of_ok tree disk came
    have named : ∃ page, delivery = ⟨settings.outputDirectory, settings.outputPath, page⟩ := by
      cases course <;> exact ⟨_, rfl⟩
    rcases named with ⟨page, rfl⟩
    have delivered :=
      delivered_deliver disk ⟨settings.outputDirectory, settings.outputPath, page⟩ tree
    rw [ended.1] at failed
    rw [← ended.2] at delivered
    refine Or.inr ⟨page, came, ?_⟩
    generalize (deliver disk _ tree).1 = result at failed delivered
    cases result with
    | error reason =>
        cases failed
        exact delivered
    | ok done => cases failed

/-- What an export that failed with an error leaves of the files that were there before. -/
structure Residue (service : Service) (settings : Settings) (disk : Disk) (tree files : FileTree)
    (error : ExportError) : Prop where
  /-- Only a failing write leaves anything behind. -/
  untouched : (∀ path reason, error ≠ .write path reason) → files = tree
  /-- Apart from the file of the page, directories may be left where nothing was. -/
  elsewhere : ∀ place, ¬Opens disk tree settings.outputDirectory settings.outputPath place →
    files.kind? place = tree.kind? place ∨
      tree.kind? place = none ∧ files.kind? place = some .directory
  /-- They are left whenever the directory of the page was missing and could be made. -/
  missing : (∃ path reason, error = .write path reason) →
    (tree.createDirectories disk settings.outputDirectory).1 = .ok () →
    tree.isDirectory (FilePath.ofText settings.outputDirectory).names = false →
      ∃ place, tree.kind? place = none ∧ files.kind? place = some .directory
  /-- The file of a page that was opened holds only the beginning of the page. -/
  page : (∃ path reason, error = .write path reason) →
    ∀ place, Opens disk tree settings.outputDirectory settings.outputPath place →
      ∃ page count, (Attempt.trace service (prepare settings)).1 =
          .ok ⟨settings.outputDirectory, settings.outputPath, page⟩ ∧
        files.kind? place = some (.file ((Text.toBytes page.toList).take count))
  /-- Nothing is left when the directory was there and the page could not be opened. -/
  standing : tree.isDirectory (FilePath.ofText settings.outputDirectory).names = true →
    (∀ place, ¬Opens disk tree settings.outputDirectory settings.outputPath place) →
      files = tree
  /-- In any case the files are the same exactly when no write failed, or no directory was
  made for it and the file of a page that was opened is as before. -/
  same_iff : (∀ place, files.kind? place = tree.kind? place) ↔
    (∀ path reason, error ≠ .write path reason) ∨
      (tree.createDirectories disk settings.outputDirectory).2 = tree ∧
        ∀ place, Opens disk tree settings.outputDirectory settings.outputPath place →
          files.kind? place = tree.kind? place

theorem files_of_failed_run (failed : (run service settings tree disk).result = .error error) :
    Residue service settings disk tree (run service settings tree disk).files error := by
  rcases failed_run_cases failed with ⟨noWrite, same⟩ | ⟨page, came, delivered⟩
  · have untouched : ¬∃ path reason, error = .write path reason := by
      rintro ⟨path, reason, wrote⟩
      exact noWrite path reason wrote
    rw [same]
    constructor
    case untouched => exact fun _ => rfl
    case elsewhere => exact fun _ _ => Or.inl rfl
    case missing => exact fun wrote => absurd wrote untouched
    case page => exact fun wrote => absurd wrote untouched
    case standing => exact fun _ _ => rfl
    case same_iff => exact iff_of_true (fun _ => rfl) (Or.inl noWrite)
  · rcases delivered.leaves with ⟨⟨path, reason, rfl⟩, leaves⟩
    have wrote : ¬∀ other cause, ExportError.write path reason ≠ .write other cause :=
      fun noWrite => noWrite path reason rfl
    constructor
    case untouched => exact fun noWrite => absurd noWrite wrote
    case elsewhere =>
      intro place closed
      rcases tree.createDirectories_grown disk settings.outputDirectory with ⟨made, grown⟩
      rw [leaves.others place closed]
      exact grown.kind?_cases place
    case missing => exact fun _ ready missing => leaves.exists_directory ready missing
    case page =>
      intro _ place opens
      rcases leaves.page place opens with ⟨count, holds⟩
      exact ⟨page, count, came, holds⟩
    case standing =>
      intro there closed
      rw [leaves.unopened closed]
      exact FileTree.createDirectories_of_isDirectory there
    case same_iff =>
      rw [or_iff_right wrote]
      exact leaves.same_iff

/-! ## Two pages that cannot be written -/

/-- Outcomes can be compared. -/
instance decidableEqExcept [DecidableEq ε] [DecidableEq α] : DecidableEq (Except ε α)
  | .error first, .error second => decidable_of_iff (first = second) (by simp)
  | .ok first, .ok second => decidable_of_iff (first = second) (by simp)
  | .error _, .ok _ => isFalse (by simp)
  | .ok _, .error _ => isFalse (by simp)

/-- A design of one empty frame, as the service writes it. -/
def landingDesign : String :=
  "\x7b\"name\":\"Landing\",\"document\":" ++
    "\x7b\"id\":\"0\",\"name\":\"\",\"type\":\"DOCUMENT\",\"children\":[" ++
    "\x7b\"id\":\"1\",\"name\":\"\",\"type\":\"CANVAS\",\"children\":[" ++
    "\x7b\"id\":\"2\",\"name\":\"\",\"type\":\"FRAME\"\x7d]\x7d]\x7d\x7d"

/-- A service that gives the design to whoever asks. -/
def landingService : Service := fun _ => .ok ⟨200, Text.toBytes landingDesign.toList⟩

def landingClient : Client :=
  ⟨⟨"https", "", "", some (.domain "api.figma.com"), none, ["v1"], none, none⟩, "figd"⟩

/-- Settings for the design, with a name for the page. -/
def landingSettings (name : String) : Settings :=
  { Settings.standard with
    fileUrl := some "https://www.figma.com/design/AbC123/Landing"
    token := some "figd"
    outputDirectory := "site"
    outputName := name }

theorem admits_landing (name : String) : (landingSettings name).Admits landingClient "AbC123" := by
  have keyed : fileKey? "https://www.figma.com/design/AbC123/Landing" = some "AbC123" := by
    decide +kernel
  have located : Url.parse Client.standardApiBase = .ok landingClient.apiBase := by
    apply Json.eq_ok_iff_toOption.mpr
    decide +kernel
  exact ⟨⟨_, rfl, keyed⟩, rfl, by decide, located⟩

/-- Whatever its name is, there is a page to be written. -/
theorem exists_landingPage (name : String) :
    ∃ page, (Attempt.trace landingService (prepare (landingSettings name))).1 =
      .ok ⟨"site", FilePath.joinText "site" name, page⟩ := by
  have read : ((Wire.file.parse landingDesign).toOption.bind fun file =>
      file.firstFrame.toOption).any (fun root => root.imageIds.isEmpty) = true := by
    decide +kernel
  have replied : landingService (landingClient.request (landingClient.fileUrl "AbC123")) =
      .ok ⟨200, Text.toBytes landingDesign.toList⟩ := rfl
  rcases exists_framed (admits_landing name) replied read with ⟨root, framed, bare⟩
  have course := Course.plain framed (List.isEmpty_iff.mp bare)
  exact ⟨_, congrArg Prod.fst (trace_of_course course)⟩

theorem made_site :
    FileTree.empty.createDirectories .sound "site" = (.ok (), ⟨[(["site"], .directory)]⟩) := by
  decide +kernel

/-- The directory for pages is made, and then a page in a directory below it has none of its
own. -/
theorem run_nested :
    (run landingService (landingSettings "no/dir.html") .empty).result =
        .error (.write "site/no/dir.html" .notFound) ∧
      (run landingService (landingSettings "no/dir.html") .empty).files =
        ⟨[(["site"], .directory)]⟩ := by
  have named : FilePath.joinText "site" "no/dir.html" = "site/no/dir.html" := by decide +kernel
  have refused : (⟨[(["site"], .directory)]⟩ : FileTree).openFile .sound "site/no/dir.html" =
      .error .notFound := by decide +kernel
  rcases exists_landingPage "no/dir.html" with ⟨page, came⟩
  have ended := run_of_ok .empty .sound came
  have delivered : deliver .sound ⟨"site", "site/no/dir.html", page⟩ .empty =
      (.error (.write "site/no/dir.html" .notFound), ⟨[(["site"], .directory)]⟩) := by
    rw [deliver, made_site]
    dsimp only
    rw [FileTree.write, refused]
  rw [named, delivered] at ended
  exact ended

/-- So the export leaves a directory where nothing was. -/
theorem files_of_nested :
    (run landingService (landingSettings "no/dir.html") .empty).result =
        .error (.write "site/no/dir.html" .notFound) ∧
      ∃ place, FileTree.empty.kind? place = none ∧
        (run landingService (landingSettings "no/dir.html") .empty).files.kind? place =
          some .directory := by
  have missing : FileTree.empty.isDirectory (FilePath.ofText "site").names = false := by
    decide +kernel
  have left := files_of_failed_run run_nested.1
  exact ⟨run_nested.1, left.missing ⟨_, _, rfl⟩ (congrArg Prod.fst made_site) missing⟩

/-- Not every failed export leaves the files as they were, not even on a sound disk. -/
theorem failed_run_may_leave_directory :
    ¬ ∀ (service : Service) (settings : Settings) (tree : FileTree) (error : ExportError),
      (run service settings tree).result = .error error →
        (run service settings tree).files = tree := by
  intro unchanged
  have same := unchanged landingService (landingSettings "no/dir.html") .empty _ run_nested.1
  rw [run_nested.2] at same
  cases same

/-- The page of an earlier export. -/
def earlierPage : FileTree :=
  ⟨[(["site"], .directory), (["site", "Frame.html"], .file [60, 33, 68, 79])]⟩

/-- A disk that takes nothing any more. -/
def fullDisk : Disk :=
  { Disk.sound with writeFault? := fun _ _ _ => some (0, .other "No space left on device") }

/-- On such a disk the earlier page is emptied, and no other page takes its place. -/
theorem failed_run_may_empty_page :
    (run landingService (landingSettings "Frame.html") earlierPage fullDisk).result =
        .error (.write "site/Frame.html" (.other "No space left on device")) ∧
      (run landingService (landingSettings "Frame.html") earlierPage fullDisk).files =
        ⟨[(["site"], .directory), (["site", "Frame.html"], .file [])]⟩ := by
  have named : FilePath.joinText "site" "Frame.html" = "site/Frame.html" := by decide +kernel
  have there : earlierPage.createDirectories fullDisk "site" = (.ok (), earlierPage) := by
    decide +kernel
  have opening : earlierPage.openFile fullDisk "site/Frame.html" =
      .ok (["site", "Frame.html"],
        ⟨[(["site"], .directory), (["site", "Frame.html"], .file [])]⟩) := by decide +kernel
  rcases exists_landingPage "Frame.html" with ⟨page, came⟩
  have ended := run_of_ok earlierPage fullDisk came
  have delivered : deliver fullDisk ⟨"site", "site/Frame.html", page⟩ earlierPage =
      (.error (.write "site/Frame.html" (.other "No space left on device")),
        ⟨[(["site"], .directory), (["site", "Frame.html"], .file [])]⟩) := by
    rw [deliver, there]
    dsimp only
    rw [FileTree.write, opening]
    rfl
  rw [named, delivered] at ended
  exact ended

end Export
end Artboard
