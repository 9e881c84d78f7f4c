import Artboard.Proofs.Export.Delivery
import Artboard.Proofs.Service.Address
import Artboard.Proofs.Service.Classification

/-!
# What an export asks and what it writes

The service may answer anything to any request.  Whatever it answers, an export asks
for the file at most once and for images at most once after that, the answers alone
decide whether it goes on, and what it writes is the page of the first frame with the
images that the service named.

A request is told by what can be read from it, and images by the entries that they hold.
What the carrier does not send is asked for in vain, and nothing is asked for behind it.
-/

namespace Artboard

namespace Carrier

/-- A carrier that sends every request that it is given. -/
def SendsAll (carrier : Carrier) : Prop :=
  ∀ request, carrier.refusal? request = none

variable {carrier : Carrier}

theorem reach_eq (sendsAll : carrier.SendsAll) (service : Service) :
    carrier.reach service = service := by
  funext request
  rw [reach, sendsAll]

theorem sent_eq (sendsAll : carrier.SendsAll) (requests : List Request) :
    carrier.sent requests = requests := by
  apply List.filter_eq_self.mpr
  intro request _
  rw [sendsAll]
  rfl

theorem sent_cons_of_none {request : Request} (sends : carrier.refusal? request = none)
    (others : List Request) :
    carrier.sent (request :: others) = request :: carrier.sent others := by
  rw [sent, List.filter_cons, sends]
  rfl

theorem sent_cons_of_some {request : Request} {hindrance : Hindrance}
    (refused : carrier.refusal? request = some hindrance) (others : List Request) :
    carrier.sent (request :: others) = carrier.sent others := by
  rw [sent, List.filter_cons, refused]
  rfl

theorem sent_singleton (carrier : Carrier) (request : Request) :
    carrier.sent [request] <+: [request] := by
  cases sends : carrier.refusal? request with
  | none =>
      rw [sent_cons_of_none sends]
      exact List.prefix_refl _
  | some hindrance =>
      rw [sent_cons_of_some sends]
      exact List.nil_prefix

/-- A request that has a reply was sent. -/
theorem refusal?_eq_none {service : Service} {request : Request} {reply : Reply}
    (replied : carrier.reach service request = .ok reply) :
    carrier.refusal? request = none := by
  cases refused : carrier.refusal? request with
  | none => rfl
  | some hindrance =>
      rw [reach, refused] at replied
      cases replied

end Carrier

/-! ## The first frame -/

namespace DesignFile

variable {file : DesignFile}

/-- A canvas on the document of a file is its first page when no canvas is in front of it. -/
def IsFirstPage (file : DesignFile) (page : Node) : Prop :=
  page.layer.shape = .canvas ∧ ∃ before after, file.document.children = before ++ page :: after ∧
    ∀ node ∈ before, node.layer.shape ≠ .canvas

/-- What a file begins with: the first node on its first page, or the reason why there is
none. -/
inductive Begins (file : DesignFile) : Except NoContent Node → Prop
  | noPages (pageless : ∀ node ∈ file.document.children, node.layer.shape ≠ .canvas) :
    Begins file (.error (.noPages file.name))
  | emptyPage {page : Node} (first : file.IsFirstPage page) (empty : page.children = []) :
    Begins file (.error (.emptyPage page.layer.name file.name))
  | frame {page root : Node} {others : List Node} (first : file.IsFirstPage page)
    (nodes : page.children = root :: others) : Begins file (.ok root)

theorem find?_page_eq_some_iff {page : Node} :
    file.document.children.find? (·.layer.shape == .canvas) = some page ↔
      file.IsFirstPage page := by
  simp only [List.find?_eq_some_iff_append, IsFirstPage, beq_iff_eq, Bool.not_eq_true',
    beq_eq_false_iff_ne]

theorem find?_page_eq_none_iff :
    file.document.children.find? (·.layer.shape == .canvas) = none ↔
      ∀ node ∈ file.document.children, node.layer.shape ≠ .canvas := by
  simp only [List.find?_eq_none, beq_iff_eq, ne_eq]

theorem begins_firstFrame (file : DesignFile) : file.Begins file.firstFrame := by
  rw [firstFrame]
  cases found : file.document.children.find? (·.layer.shape == .canvas) with
  | none => exact .noPages (find?_page_eq_none_iff.mp found)
  | some page =>
      have first := find?_page_eq_some_iff.mp found
      dsimp only
      cases nodes : page.children with
      | nil => exact .emptyPage first nodes
      | cons root others => exact .frame first nodes

/-- The first frame is what the file begins with. -/
theorem firstFrame_eq_iff {outcome : Except NoContent Node} :
    file.firstFrame = outcome ↔ file.Begins outcome := by
  constructor
  · rintro rfl
    exact begins_firstFrame file
  · intro begins
    rw [firstFrame]
    cases begins with
    | noPages pageless => rw [find?_page_eq_none_iff.mpr pageless]
    | emptyPage first empty =>
        rw [find?_page_eq_some_iff.mpr first]
        dsimp only
        rw [empty]
    | frame first nodes =>
        rw [find?_page_eq_some_iff.mpr first]
        dsimp only
        rw [nodes]

/-- A file begins with one thing only. -/
theorem Begins.unique {outcome other : Except NoContent Node} (begins : file.Begins outcome)
    (second : file.Begins other) : outcome = other :=
  (firstFrame_eq_iff.mpr begins).symm.trans (firstFrame_eq_iff.mpr second)

end DesignFile

namespace Export

/-! ## Requests -/

/-- A request for the file with a key. -/
def AsksForFile (client : Client) (key : String) : Request → Prop :=
  client.Poses ["files", key] []

/-- The name of a format in a query. -/
def formatWord : ImageFormat → String
  | .png => "png"
  | .jpg => "jpg"
  | .svg => "svg"
  | .pdf => "pdf"

/-- A request for images of nodes of a file, whose ids are joined by commas. -/
def AsksForImages (client : Client) (key : String) (ids : List String) (format : ImageFormat) :
    Request → Prop :=
  client.Poses ["images", key] [("ids", ",".intercalate ids), ("format", formatWord format)]

theorem isName_of_admits {settings : Settings} {client : Client} {key : String}
    (admits : settings.Admits client key) : Url.IsName key := by
  rcases admits.fileUrl with ⟨url, -, named⟩
  exact isName_of_fileKey? named

theorem asksForFile {settings : Settings} {client : Client} {key : String}
    (admits : settings.Admits client key) :
    AsksForFile client key (client.request (client.fileUrl key)) :=
  client.poses_fileUrl (Url.isLegible_of_parse admits.apiBase) (isName_of_admits admits)

theorem asksForImages {settings : Settings} {client : Client} {key : String}
    (admits : settings.Admits client key) (ids : List String) (format : ImageFormat) :
    AsksForImages client key ids format (client.request (client.imagesUrl key ids format)) := by
  have word : format.name = formatWord format := by cases format <;> rfl
  have poses := client.poses_imagesUrl ids format (Url.isLegible_of_parse admits.apiBase)
    (isName_of_admits admits)
  rw [word] at poses
  exact poses

/-! ## Ways -/

/-- The answer to a request has a status of success and is a file. -/
def HasFile (service : Service) (first : Request) (file : DesignFile) : Prop :=
  ∃ reply, service first = .ok reply ∧ 200 ≤ reply.status ∧ reply.status < 300 ∧
    Wire.file.parse reply.text = .ok file

/-- What becomes of the answer to a request when it should be a file. -/
def FileComes (service : Service) (first : Request) : Except ServiceError DesignFile → Prop :=
  Comes service first Wire.file fun file outcome => outcome = .ok file

/-- What becomes of the answer to a request when it should name images. -/
def ImagesCome (service : Service) (second : Request) : Except ServiceError ImageMap → Prop :=
  Comes service second Wire.writtenImages.codec Client.ImagesMean

/-- The settings have no defect, and the answer to the request for the file is a file that
has a frame. -/
structure FrameComes (service : Service) (settings : Settings) (client : Client) (key : String)
    (first : Request) (root : Node) : Prop where
  admits : settings.Admits client key
  asks : AsksForFile client key first
  comes : ∃ file, FileComes service first (.ok file) ∧ file.Begins (.ok root)

/-- What an export asks for, and what that comes to: an error, or the first frame of the
file with its images. -/
inductive Way (service : Service) (settings : Settings) :
    List Request → Except ExportError (Node × ImageMap) → Prop
  | refused {error : ExportError} (defect : settings.FirstDefect error) :
    Way service settings [] (.error error)
  | fileFailed {client : Client} {key : String} {first : Request} {error : ServiceError}
    (admits : settings.Admits client key) (asks : AsksForFile client key first)
    (comes : FileComes service first (.error error)) :
    Way service settings [first] (.error (.service error))
  | noFrame {client : Client} {key : String} {first : Request} {file : DesignFile}
    {reason : NoContent} (admits : settings.Admits client key)
    (asks : AsksForFile client key first) (comes : FileComes service first (.ok file))
    (frameless : file.Begins (.error reason)) :
    Way service settings [first] (.error (.noContent reason))
  | plain {client : Client} {key : String} {first : Request} {root : Node}
    (framed : FrameComes service settings client key first root) (bare : root.imageIds = []) :
    Way service settings [first] (.ok (root, []))
  | imagesFailed {client : Client} {key : String} {first second : Request} {root : Node}
    {error : ServiceError} (framed : FrameComes service settings client key first root)
    (pictured : root.imageIds ≠ [])
    (asks : AsksForImages client key root.imageIds settings.imageFormat second)
    (comes : ImagesCome service second (.error error)) :
    Way service settings [first, second] (.error (.service error))
  | illustrated {client : Client} {key : String} {first second : Request} {root : Node}
    {images : ImageMap} (framed : FrameComes service settings client key first root)
    (pictured : root.imageIds ≠ [])
    (asks : AsksForImages client key root.imageIds settings.imageFormat second)
    (comes : ImagesCome service second (.ok images)) :
    Way service settings [first, second] (.ok (root, images))

/-- The page of a frame with its images on the background of the settings, for the place
that the settings name. -/
def pageOf (settings : Settings) (root : Node) (images : ImageMap) : Delivery where
  directory := settings.outputDirectory
  path := FilePath.joinText settings.outputDirectory settings.outputName
  content := (Page.ofNode images root).render
    { PageOptions.standard with background := settings.pageBackground }

/-- How an export ends: with the files as they were, or with what becomes of its page on the
disk. -/
inductive Ends (disk : Disk) (settings : Settings) (tree : FileTree) (outcome : Outcome) :
    Except ExportError (Node × ImageMap) → Prop
  | failed {error : ExportError} (result : outcome.result = .error error)
    (untouched : outcome.files = tree) : Ends disk settings tree outcome (.error error)
  | delivered {root : Node} {images : ImageMap} {ending : Except ExportError Unit}
    (delivered : Delivered disk (pageOf settings root images) tree ending outcome.files)
    (result : outcome.result = ending.map fun _ => (pageOf settings root images).path) :
    Ends disk settings tree outcome (.ok (root, images))

/-- An outcome is that of the steps of an export in their order, for settings, a service
behind a carrier, a disk and the files before. -/
structure Pipeline (carrier : Carrier) (service : Service) (settings : Settings) (disk : Disk)
    (tree : FileTree) (outcome : Outcome) : Prop where
  goes : ∃ ending, Way (carrier.reach service) settings outcome.journal.requests ending ∧
    Ends disk settings tree outcome ending
  /-- The first defect of the settings ends the export before anything is asked for. -/
  refused : ∀ error, settings.FirstDefect error →
    outcome.journal.requests = [] ∧ outcome.result = .error error
  signed : ∀ request ∈ outcome.journal.requests,
    request.verb = "GET" ∧ settings.token = some request.token
  /-- What the carrier sends is sent in this order, and nothing behind what it refuses. -/
  sent : carrier.sent outcome.journal.requests <+: outcome.journal.requests
  asks_iff : carrier.SendsAll →
    (carrier.sent outcome.journal.requests ≠ [] ↔ ∃ client key, settings.Admits client key)
  /-- Images are asked for when the answer to the first request is a file with a frame that
  needs some. -/
  asksImages_iff : carrier.SendsAll →
    ((carrier.sent outcome.journal.requests).length = 2 ↔
      ∃ first file root, outcome.journal.requests.head? = some first ∧
        HasFile service first file ∧ file.Begins (.ok root) ∧ root.imageIds ≠ [])
  /-- After a success the output path leads to the page of the first frame with its images,
  on the background of the settings. -/
  written : ∀ path, outcome.result = .ok path → path = FilePath.joinText settings.outputDirectory
      settings.outputName ∧
    ∃ root images,
      Way (carrier.reach service) settings outcome.journal.requests (.ok (root, images)) ∧
        outcome.files.contentAt? path =
          some (Text.toBytes ((Page.ofNode images root).render
            { PageOptions.standard with background := settings.pageBackground }).toList)

section

variable {service : Service} {settings : Settings} {client : Client} {key : String}

theorem frameComes_of_framed {root : Node} (framed : Framed service settings client key root) :
    FrameComes service settings client key (client.request (client.fileUrl key)) root := by
  rcases framed with ⟨admits, file, answered, found⟩
  have comes := Client.comes_file service client key
  rw [(client.valueOf_eq_ok_iff service).mpr answered] at comes
  exact ⟨admits, asksForFile admits, file, comes, DesignFile.firstFrame_eq_iff.mp found⟩

/-- The course of an export is a way: what it asks for can be read from its requests, and
what it comes to is what is said of the replies. -/
theorem exists_way_of_course {asked : List Request} {outcome : Except ExportError Delivery}
    (course : Course service settings asked outcome) :
    ∃ ending, Way service settings asked ending ∧
      outcome = ending.map fun found => pageOf settings found.1 found.2 := by
  cases course with
  | refused defect => exact ⟨_, .refused defect, rfl⟩
  | @fileFailed client key error admits failed =>
      have comes := Client.comes_file service client key
      rw [failed] at comes
      exact ⟨_, .fileFailed admits (asksForFile admits) comes, rfl⟩
  | @noFrame client key file reason admits answered frameless =>
      have comes := Client.comes_file service client key
      rw [(client.valueOf_eq_ok_iff service).mpr answered] at comes
      exact ⟨_, .noFrame admits (asksForFile admits) comes
        (DesignFile.firstFrame_eq_iff.mp frameless), rfl⟩
  | plain framed bare => exact ⟨_, .plain (frameComes_of_framed framed) bare, rfl⟩
  | @imagesFailed client key root error framed pictured failed =>
      have comes := Client.comes_images service client key root.imageIds settings.imageFormat
      rw [failed] at comes
      exact ⟨_, .imagesFailed (frameComes_of_framed framed) pictured
        (asksForImages framed.admits _ _) comes, rfl⟩
  | @illustrated client key root images framed pictured drawn =>
      have comes := Client.comes_images service client key root.imageIds settings.imageFormat
      rw [drawn] at comes
      exact ⟨_, .illustrated (frameComes_of_framed framed) pictured
        (asksForImages framed.admits _ _) comes, rfl⟩

/-- Every export goes a way and ends as that says. -/
theorem exists_way (service : Service) (settings : Settings) (disk : Disk) (tree : FileTree) :
    ∃ ending, Way service settings (run service settings tree disk).journal.requests ending ∧
      Ends disk settings tree (run service settings tree disk) ending := by
  rcases exists_course service settings with ⟨asked, outcome, course⟩
  have traced := trace_of_course course
  have requested := (requests_run tree disk).trans (congrArg Prod.snd traced)
  rcases exists_way_of_course course with ⟨ending, way, rfl⟩
  refine ⟨ending, requested ▸ way, ?_⟩
  cases ending with
  | error error =>
      have ended := run_of_error tree disk (congrArg Prod.fst traced)
      exact .failed ended.1 ended.2
  | ok found =>
      have ended := run_of_ok tree disk (congrArg Prod.fst traced)
      have delivered := delivered_deliver disk (pageOf settings found.1 found.2) tree
      rw [← ended.2] at delivered
      exact .delivered delivered ended.1

/-! ## What a way tells -/

variable {asked : List Request} {ending : Except ExportError (Node × ImageMap)}

theorem Way.signed (way : Way service settings asked ending) :
    ∀ request ∈ asked, request.verb = "GET" ∧ settings.token = some request.token := by
  have ofPoses : ∀ {client key names added request}, settings.Admits client key →
      client.Poses names added request →
        request.verb = "GET" ∧ settings.token = some request.token := by
    intro client key names added request admits poses
    rw [poses.token]
    exact ⟨poses.verb, admits.token⟩
  cases way with
  | refused defect => exact fun _ listed => absurd listed List.not_mem_nil
  | fileFailed admits asks comes => exact List.forall_mem_singleton.mpr (ofPoses admits asks)
  | noFrame admits asks comes frameless =>
      exact List.forall_mem_singleton.mpr (ofPoses admits asks)
  | plain framed bare => exact List.forall_mem_singleton.mpr (ofPoses framed.admits framed.asks)
  | imagesFailed framed pictured asks comes =>
      exact List.forall_mem_cons.mpr ⟨ofPoses framed.admits framed.asks,
        List.forall_mem_singleton.mpr (ofPoses framed.admits asks)⟩
  | illustrated framed pictured asks comes =>
      exact List.forall_mem_cons.mpr ⟨ofPoses framed.admits framed.asks,
        List.forall_mem_singleton.mpr (ofPoses framed.admits asks)⟩

theorem hasFile_of_comes {first : Request} {file : DesignFile}
    (comes : FileComes service first (.ok file)) : HasFile service first file := by
  cases replied : service first with
  | error hindrance => cases comes.lost hindrance replied
  | ok reply =>
      by_cases status : 100 ≤ reply.status ∧ reply.status < 1000
      · have classified := comes.replied reply replied status
        by_cases success : 200 ≤ reply.status ∧ reply.status < 300
        · cases read : Wire.file.parse reply.text with
          | error fault => cases classified.unreadable success fault read
          | ok other =>
              cases classified.readable success other read
              exact ⟨reply, replied, success.1, success.2, read⟩
        · rcases classified.refused success with ⟨message, -, failed⟩
          cases failed
      · cases comes.unmarked reply replied status

theorem eq_ok_of_hasFile {first : Request} {file : DesignFile}
    {outcome : Except ServiceError DesignFile} (has : HasFile service first file)
    (comes : FileComes service first outcome) : outcome = .ok file := by
  rcases has with ⟨reply, replied, least, most, read⟩
  have status : 100 ≤ reply.status ∧ reply.status < 1000 := by omega
  exact (comes.replied reply replied status).readable ⟨least, most⟩ file read

/-- What is asked for the first frame of a file is sent. -/
theorem FrameComes.refusal?_eq_none {carrier : Carrier} {first : Request} {root : Node}
    (framed : FrameComes (carrier.reach service) settings client key first root) :
    carrier.refusal? first = none := by
  rcases framed.comes with ⟨file, comes, -⟩
  rcases hasFile_of_comes comes with ⟨reply, replied, -⟩
  exact Carrier.refusal?_eq_none replied

theorem FrameComes.sent_pair {carrier : Carrier} {first : Request} {root : Node}
    (framed : FrameComes (carrier.reach service) settings client key first root)
    (second : Request) : carrier.sent [first, second] <+: [first, second] := by
  rw [Carrier.sent_cons_of_none framed.refusal?_eq_none]
  exact (List.prefix_cons_inj first).mpr (carrier.sent_singleton second)

theorem Way.sent_prefix {carrier : Carrier}
    (way : Way (carrier.reach service) settings asked ending) : carrier.sent asked <+: asked := by
  cases way with
  | refused defect => exact List.prefix_refl _
  | fileFailed admits asks comes => exact carrier.sent_singleton _
  | noFrame admits asks comes frameless => exact carrier.sent_singleton _
  | plain framed bare => exact carrier.sent_singleton _
  | imagesFailed framed pictured asks comes => exact framed.sent_pair _
  | illustrated framed pictured asks comes => exact framed.sent_pair _

theorem Way.exists_admits (way : Way service settings asked ending) (asks : asked ≠ []) :
    ∃ client key, settings.Admits client key := by
  cases way with
  | refused defect => exact absurd rfl asks
  | fileFailed admits _ _ => exact ⟨_, _, admits⟩
  | noFrame admits _ _ _ => exact ⟨_, _, admits⟩
  | plain framed _ => exact ⟨_, _, framed.admits⟩
  | imagesFailed framed _ _ _ => exact ⟨_, _, framed.admits⟩
  | illustrated framed _ _ _ => exact ⟨_, _, framed.admits⟩

theorem FrameComes.hasFile {first : Request} {root : Node}
    (framed : FrameComes service settings client key first root) :
    ∃ file, HasFile service first file ∧ file.Begins (.ok root) := by
  rcases framed.comes with ⟨file, comes, found⟩
  exact ⟨file, hasFile_of_comes comes, found⟩

theorem FrameComes.begins {first : Request} {root : Node} {file : DesignFile}
    (framed : FrameComes service settings client key first root)
    (has : HasFile service first file) : file.Begins (.ok root) := by
  rcases framed.comes with ⟨other, comes, found⟩
  cases eq_ok_of_hasFile has comes
  exact found

/-- Images are asked for when the first frame needs them. -/
theorem Way.asksImages_iff (way : Way service settings asked ending) :
    asked.length = 2 ↔ ∃ first file root, asked.head? = some first ∧
      HasFile service first file ∧ file.Begins (.ok root) ∧ root.imageIds ≠ [] := by
  constructor
  · intro two
    have ofFramed : ∀ {client key first second root},
        FrameComes service settings client key first root → root.imageIds ≠ [] →
          ∃ start file root, [first, second].head? = some start ∧ HasFile service start file ∧
            file.Begins (.ok root) ∧ root.imageIds ≠ [] := by
      intro client key first second root framed pictured
      rcases framed.hasFile with ⟨file, has, found⟩
      exact ⟨first, file, root, rfl, has, found, pictured⟩
    cases way with
    | imagesFailed framed pictured asks comes => exact ofFramed framed pictured
    | illustrated framed pictured asks comes => exact ofFramed framed pictured
    | _ => cases two
  · rintro ⟨first, file, root, begins, has, found, pictured⟩
    cases way with
    | refused defect => cases begins
    | fileFailed admits asks comes =>
        cases begins
        cases eq_ok_of_hasFile has comes
    | noFrame admits asks comes frameless =>
        cases begins
        cases eq_ok_of_hasFile has comes
        cases found.unique frameless
    | plain framed bare =>
        cases begins
        cases found.unique (framed.begins has)
        exact absurd bare pictured
    | imagesFailed framed asks comes => rfl
    | illustrated framed asks comes => rfl

end

section

variable {service : Service} {settings : Settings} {disk : Disk} {tree : FileTree}

/-- A defect of the settings is the end of an export before anything is asked for. -/
theorem run_of_firstDefect {error : ExportError} (defect : settings.FirstDefect error) :
    (run service settings tree disk).journal.requests = [] ∧
      (run service settings tree disk).result = .error error := by
  have traced := trace_of_course (.refused defect : Course service settings [] _)
  exact ⟨(requests_run tree disk).trans (congrArg Prod.snd traced),
    (run_of_error tree disk (congrArg Prod.fst traced)).1⟩

/-- Settings without a defect let an export ask for something. -/
theorem asks_of_admits {client : Client} {key : String} (admits : settings.Admits client key) :
    (run service settings tree disk).journal.requests ≠ [] := by
  rcases exists_course_of_admits service admits with ⟨others, outcome, course⟩
  rw [(requests_run tree disk).trans (congrArg Prod.snd (trace_of_course course))]
  exact List.cons_ne_nil _ _

/-- After a success the page is where its path leads. -/
theorem Ends.written {outcome : Outcome} {ending : Except ExportError (Node × ImageMap)}
    {path : String} (ends : Ends disk settings tree outcome ending)
    (succeeded : outcome.result = .ok path) :
    ∃ root images, ending = .ok (root, images) ∧ path = (pageOf settings root images).path ∧
      outcome.files.contentAt? path =
        some (Text.toBytes (pageOf settings root images).content.toList) := by
  cases ends with
  | failed result untouched =>
      rw [result] at succeeded
      cases succeeded
  | @delivered root images ending delivered result =>
      rw [result] at succeeded
      cases ending with
      | error error => cases succeeded
      | ok done =>
          cases succeeded
          exact ⟨root, images, rfl, rfl, delivered.contentAt?_eq⟩

end

/-- Whatever the service answers, and whatever the carrier and the disk do, an export is the
pipeline of its steps. -/
theorem run_pipeline (carrier : Carrier) (service : Service) (settings : Settings) (disk : Disk)
    (tree : FileTree) :
    Pipeline carrier service settings disk tree
      (run (carrier.reach service) settings tree disk) := by
  rcases exists_way (carrier.reach service) settings disk tree with ⟨ending, way, ends⟩
  constructor
  case goes => exact ⟨ending, way, ends⟩
  case refused => exact fun error defect => run_of_firstDefect defect
  case signed => exact way.signed
  case sent => exact way.sent_prefix
  case asks_iff =>
    intro sendsAll
    rw [Carrier.sent_eq sendsAll]
    constructor
    · exact way.exists_admits
    · rintro ⟨client, key, admits⟩
      exact asks_of_admits admits
  case asksImages_iff =>
    intro sendsAll
    rw [Carrier.sent_eq sendsAll]
    rw [Carrier.reach_eq sendsAll] at way ⊢
    exact way.asksImages_iff
  case written =>
    intro path succeeded
    rcases ends.written succeeded with ⟨root, images, rfl, named, content⟩
    exact ⟨named, root, images, way, content⟩

end Export
end Artboard
