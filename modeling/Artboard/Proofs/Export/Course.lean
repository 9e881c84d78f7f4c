import Artboard.Export.Run
import Artboard.Proofs.Json.Attempt
import Artboard.Proofs.Service.Question

/-!
# The course of an export

Up to the page an export goes one of six ways.  The settings have a defect, and the
first one in the order of the checks ends the export before anything is asked.  Or
the file is asked for, and the answer fails, has nothing to export, or has a frame.
A frame without image-like layers is all that a page needs; for any other frame the
images are asked for, and they fail or come.  Which way an export goes decides what
was asked and what the export came to.
-/

namespace Artboard

namespace Settings

/-- The settings have no defect, and they ask for the file with a key by a client. -/
structure Admits (settings : Settings) (client : Client) (key : String) : Prop where
  fileUrl : ∃ url, settings.fileUrl = some url ∧ fileKey? url = some key
  token : settings.token = some client.token
  notBlank : client.token.toList.all Text.isBlank = false
  apiBase : Url.parse settings.apiBase = .ok client.apiBase

/-- The first defect of the settings in the order of the checks: an address of the
file, its key, a token that is not blank, and the address of the service. -/
inductive FirstDefect (settings : Settings) : ExportError → Prop
  | noFileUrl (missing : settings.fileUrl = none) : FirstDefect settings .missingFileUrl
  | noKey {url : String} (given : settings.fileUrl = some url) (keyless : fileKey? url = none) :
    FirstDefect settings (.service (.invalidFileUrl url))
  | noToken {url key : String} (given : settings.fileUrl = some url)
    (keyed : fileKey? url = some key)
    (blank : ∀ token, settings.token = some token → token.toList.all Text.isBlank = true) :
    FirstDefect settings (.service .missingToken)
  | noService {url key token : String} {refusal : Url.Refusal}
    (given : settings.fileUrl = some url) (keyed : fileKey? url = some key)
    (signed : settings.token = some token) (notBlank : token.toList.all Text.isBlank = false)
    (refused : Url.parse settings.apiBase = .error refusal) :
    FirstDefect settings (.service (.invalidUrl settings.apiBase refusal))

/-- The page of a tree with the given images, as it is to be written. -/
def delivery (settings : Settings) (images : ImageMap) (root : Node) : Delivery where
  directory := settings.outputDirectory
  path := settings.outputPath
  content := (Page.ofNode images root).render settings.pageOptions

end Settings

namespace Client

theorem ofSettings_of_blank (apiBase : String) {token : Option String}
    (blank : ∀ written, token = some written → written.toList.all Text.isBlank = true) :
    ofSettings apiBase token = .error .missingToken := by
  cases token with
  | none => rfl
  | some written =>
      rw [ofSettings, Option.filter_some, blank written rfl]
      rfl

theorem ofSettings_of_not_blank (apiBase : String) {token : String}
    (notBlank : token.toList.all Text.isBlank = false) :
    ofSettings apiBase (some token) =
      match Url.parse apiBase with
      | .error refusal => .error (.invalidUrl apiBase refusal)
      | .ok url => .ok ⟨url, token⟩ := by
  rw [ofSettings, Option.filter_some, notBlank]
  rfl

end Client

namespace Export

/-! ## Orders -/

section

variable {settings : Settings}

/-- With a key, the token and the address of the service decide. -/
theorem order_of_key {url key : String} (given : settings.fileUrl = some url)
    (keyed : fileKey? url = some key) :
    order settings =
      match Client.ofSettings settings.apiBase settings.token with
      | .ok client => .ok (client, key)
      | .error error => .error (.service error) := by
  rw [order, given]
  dsimp only
  rw [keyed]
  rfl

theorem order_of_firstDefect {error : ExportError} (defect : settings.FirstDefect error) :
    order settings = .error error := by
  cases defect with
  | noFileUrl missing =>
      rw [order, missing]
      rfl
  | noKey given keyless =>
      rw [order, given]
      dsimp only
      rw [keyless]
      rfl
  | noToken given keyed blank =>
      rw [order_of_key given keyed, Client.ofSettings_of_blank _ blank]
  | noService given keyed signed notBlank refused =>
      rw [order_of_key given keyed, signed, Client.ofSettings_of_not_blank _ notBlank, refused]

theorem order_of_admits {client : Client} {key : String} (admits : settings.Admits client key) :
    order settings = .ok (client, key) := by
  rcases admits with ⟨⟨url, given, keyed⟩, signed, notBlank, parsed⟩
  rw [order_of_key given keyed, signed, Client.ofSettings_of_not_blank _ notBlank, parsed]

/-- Either the settings have a first defect, or they ask for a file by a client. -/
theorem firstDefect_or_admits (settings : Settings) :
    (∃ error, settings.FirstDefect error) ∨ ∃ client key, settings.Admits client key := by
  cases given : settings.fileUrl with
  | none => exact Or.inl ⟨_, .noFileUrl given⟩
  | some url =>
      cases keyed : fileKey? url with
      | none => exact Or.inl ⟨_, .noKey given keyed⟩
      | some key =>
          cases signed : settings.token with
          | none =>
              refine Or.inl ⟨_, .noToken given keyed ?_⟩
              intro token same
              rw [signed] at same
              cases same
          | some token =>
              cases blank : token.toList.all Text.isBlank with
              | true =>
                  refine Or.inl ⟨_, .noToken given keyed ?_⟩
                  intro other same
                  rw [signed] at same
                  cases same
                  exact blank
              | false =>
                  cases parsed : Url.parse settings.apiBase with
                  | error refusal => exact Or.inl ⟨_, .noService given keyed signed blank parsed⟩
                  | ok base =>
                      exact Or.inr ⟨⟨base, token⟩, key, ⟨url, given, keyed⟩, signed, blank, parsed⟩

end

/-! ## The six ways -/

/-- The service answers with a file, and its first frame is a tree. -/
structure Framed (service : Service) (settings : Settings) (client : Client) (key : String)
    (root : Node) : Prop where
  admits : settings.Admits client key
  answered : ∃ file, client.Answers service Wire.file (client.fileUrl key) file ∧
    file.firstFrame = .ok root

/-- The first frame of a design comes when the design is what the service replies. -/
theorem exists_framed {service : Service} {settings : Settings} {client : Client}
    {key design : String} {holds : Node → Bool} (admits : settings.Admits client key)
    (replied : service (client.request (client.fileUrl key)) =
      .ok ⟨200, Text.toBytes design.toList⟩)
    (read : ((Wire.file.parse design).toOption.bind fun file =>
      file.firstFrame.toOption).any holds = true) :
    ∃ root, Framed service settings client key root ∧ holds root = true := by
  rcases (Option.any_eq_true _ _).mp read with ⟨root, framed, held⟩
  rcases Option.bind_eq_some_iff.mp framed with ⟨file, parsed, first⟩
  have answered : client.Answers service Wire.file (client.fileUrl key) file := by
    refine ⟨⟨200, Text.toBytes design.toList⟩, replied, rfl, ?_⟩
    rw [Reply.text_of_toBytes]
    exact Json.eq_ok_iff_toOption.mpr parsed
  exact ⟨root, ⟨admits, file, answered, Json.eq_ok_iff_toOption.mpr first⟩, held⟩

/-- The requests for the file and then for the images of a tree. -/
def bothRequests (settings : Settings) (client : Client) (key : String) (root : Node) :
    List Request :=
  [client.request (client.fileUrl key),
    client.request (client.imagesUrl key root.imageIds settings.imageFormat)]

/-- How an export goes up to the page: what the service is asked, and what that comes to. -/
inductive Course (service : Service) (settings : Settings) :
    List Request → Except ExportError Delivery → Prop
  | refused {error : ExportError} (defect : settings.FirstDefect error) :
    Course service settings [] (.error error)
  | fileFailed {client : Client} {key : String} {error : ServiceError}
    (admits : settings.Admits client key)
    (failed : client.valueOf service Wire.file (client.fileUrl key) = .error error) :
    Course service settings [client.request (client.fileUrl key)] (.error (.service error))
  | noFrame {client : Client} {key : String} {file : DesignFile} {reason : NoContent}
    (admits : settings.Admits client key)
    (answered : client.Answers service Wire.file (client.fileUrl key) file)
    (frameless : file.firstFrame = .error reason) :
    Course service settings [client.request (client.fileUrl key)] (.error (.noContent reason))
  | plain {client : Client} {key : String} {root : Node}
    (framed : Framed service settings client key root) (bare : root.imageIds = []) :
    Course service settings [client.request (client.fileUrl key)]
      (.ok (settings.delivery [] root))
  | imagesFailed {client : Client} {key : String} {root : Node} {error : ServiceError}
    (framed : Framed service settings client key root) (pictured : root.imageIds ≠ [])
    (failed : client.imagesOf service key root.imageIds settings.imageFormat = .error error) :
    Course service settings (bothRequests settings client key root) (.error (.service error))
  | illustrated {client : Client} {key : String} {root : Node} {images : ImageMap}
    (framed : Framed service settings client key root) (pictured : root.imageIds ≠ [])
    (drawn : client.imagesOf service key root.imageIds settings.imageFormat = .ok images) :
    Course service settings (bothRequests settings client key root)
      (.ok (settings.delivery images root))

/-! ## Traces of the steps -/

theorem trace_notePage (service : Service) (root : Node) (page : Page) :
    Attempt.trace service (notePage root page : Attempt ε Unit) = (.ok (), []) := by
  have noted (diagnostics : List Diagnostic) :
      Attempt.trace service (diagnostics.forM fun diagnostic =>
        (Attempt.note (.diagnosed diagnostic) : Attempt ε Unit)) = (.ok (), []) := by
    induction diagnostics with
    | nil => rfl
    | cons diagnostic rest ih => exact (Attempt.trace_note_bind _ _).trans ih
  rw [notePage, Attempt.trace_bind_ok _ (noted page.diagnostics), Attempt.trace_note_bind]
  split <;> rfl

theorem trace_fetchImages (service : Service) (client : Client) (key : String)
    (format : ImageFormat) (root : Node) :
    Attempt.trace service (fetchImages client key format root) =
      if root.imageIds = [] then (.ok [], [])
      else ((client.imagesOf service key root.imageIds format).mapError .service,
        [client.request (client.imagesUrl key root.imageIds format)]) := by
  rw [fetchImages, Attempt.trace_note_bind]
  by_cases bare : root.imageIds = []
  · rw [if_pos bare, bare]
    rfl
  · rw [if_neg bare, List.isEmpty_eq_false_iff.mpr bare, if_neg Bool.false_ne_true,
      Attempt.trace_note_bind, within, Attempt.trace_adapt,
      Client.trace_getImages service client key format bare]

section

variable {service : Service} {settings : Settings} {client : Client} {key : String}

theorem trace_fetchPage_refused {error : ExportError} (refused : order settings = .error error) :
    Attempt.trace service (fetchPage settings) = (.error error, []) := by
  refine Attempt.trace_bind_error _ ?_
  rw [Attempt.trace_ofExcept, refused]

/-- Errors of an attempt within an export are named as errors of the export. -/
theorem trace_within {wrap : ε → ExportError} {attempt : Attempt ε α} {outcome : Except ε α}
    {asked : List Request} (came : Attempt.trace service attempt = (outcome, asked)) :
    Attempt.trace service (within wrap attempt) = (outcome.mapError wrap, asked) := by
  rw [within, Attempt.trace_adapt, came]

/-- With an order the file is asked for, then its first frame is looked for, and then the
images of the frame are asked for. -/
theorem trace_fetchPage (ordered : order settings = .ok (client, key)) :
    Attempt.trace service (fetchPage settings) =
      match client.valueOf service Wire.file (client.fileUrl key) with
      | .error error => (.error (.service error), [client.request (client.fileUrl key)])
      | .ok file =>
        match file.firstFrame with
        | .error reason => (.error (.noContent reason), [client.request (client.fileUrl key)])
        | .ok root =>
          let illustrated :=
            Attempt.trace service (fetchImages client key settings.imageFormat root)
          (illustrated.1.map (Page.ofNode · root),
            client.request (client.fileUrl key) :: illustrated.2) := by
  have ordering : Attempt.trace service (Attempt.ofExcept (order settings)) =
      (.ok (client, key), []) := by
    rw [Attempt.trace_ofExcept, ordered]
  rw [fetchPage, Attempt.trace_bind_ok _ ordering]
  dsimp only
  rw [Attempt.trace_note_bind, List.nil_append]
  have asked := client.trace_getFile service key
  cases came : client.valueOf service Wire.file (client.fileUrl key) with
  | error error =>
      rw [came] at asked
      exact Attempt.trace_bind_error _ (trace_within asked)
  | ok file =>
      rw [came] at asked
      refine (Attempt.trace_bind_ok _ (trace_within asked)).trans ?_
      dsimp only
      have framing := Attempt.trace_ofExcept service file.firstFrame
      cases found : file.firstFrame with
      | error reason =>
          rw [found] at framing
          rw [Attempt.trace_bind_error _ (trace_within framing)]
          exact congrArg (Prod.mk _) (List.append_nil _)
      | ok root =>
          rw [found] at framing
          rw [Attempt.trace_bind_ok _ (trace_within framing), Attempt.trace_note_bind,
            List.nil_append]
          dsimp only
          rw [Attempt.trace_bind]
          rcases Attempt.trace service (fetchImages client key settings.imageFormat root) with
            ⟨_ | images, pictures⟩
          · rfl
          · dsimp only
            rw [Attempt.trace_bind_ok _ (trace_notePage service root (Page.ofNode images root)),
              Attempt.trace_pure]
            simp only [List.append_nil]
            rfl

/-- What is asked for the page is all that is asked. -/
theorem trace_prepare :
    Attempt.trace service (prepare settings) =
      ((Attempt.trace service (fetchPage settings)).1.map fun page =>
          ⟨settings.outputDirectory, settings.outputPath, page.render settings.pageOptions⟩,
        (Attempt.trace service (fetchPage settings)).2) := by
  rw [prepare, Attempt.trace_bind]
  rcases Attempt.trace service (fetchPage settings) with ⟨_ | page, asked⟩
  · rfl
  · exact congrArg (Prod.mk _) (List.append_nil _)

/-- From the first frame on only the images are left to ask for. -/
theorem trace_prepare_of_framed {root : Node} (framed : Framed service settings client key root) :
    Attempt.trace service (prepare settings) =
      let illustrated := Attempt.trace service (fetchImages client key settings.imageFormat root)
      (illustrated.1.map (settings.delivery · root),
        client.request (client.fileUrl key) :: illustrated.2) := by
  rcases framed with ⟨admits, file, answered, found⟩
  rw [trace_prepare, trace_fetchPage (order_of_admits admits),
    (client.valueOf_eq_ok_iff service).mpr answered]
  dsimp only
  rw [found]
  dsimp only
  rcases Attempt.trace service (fetchImages client key settings.imageFormat root) with
    ⟨_ | images, asked⟩ <;> rfl

/-! ## Every export goes one way -/

/-- An export that can go some way goes it. -/
theorem trace_of_course {asked : List Request} {outcome : Except ExportError Delivery}
    (course : Course service settings asked outcome) :
    Attempt.trace service (prepare settings) = (outcome, asked) := by
  cases course with
  | refused defect =>
      rw [trace_prepare, trace_fetchPage_refused (order_of_firstDefect defect)]
      rfl
  | fileFailed admits failed =>
      rw [trace_prepare, trace_fetchPage (order_of_admits admits), failed]
      rfl
  | noFrame admits answered frameless =>
      rw [trace_prepare, trace_fetchPage (order_of_admits admits),
        (Client.valueOf_eq_ok_iff service _).mpr answered]
      dsimp only
      rw [frameless]
      rfl
  | plain framed bare =>
      rw [trace_prepare_of_framed framed, trace_fetchImages, if_pos bare]
      rfl
  | imagesFailed framed pictured failed =>
      rw [trace_prepare_of_framed framed, trace_fetchImages, if_neg pictured, failed]
      rfl
  | illustrated framed pictured drawn =>
      rw [trace_prepare_of_framed framed, trace_fetchImages, if_neg pictured, drawn]
      rfl

/-- With a frame that needs images both requests are made. -/
theorem exists_course_of_pictured {root : Node} (framed : Framed service settings client key root)
    (pictured : root.imageIds ≠ []) :
    ∃ outcome, Course service settings (bothRequests settings client key root) outcome := by
  cases drawn : client.imagesOf service key root.imageIds settings.imageFormat with
  | error error => exact ⟨_, .imagesFailed framed pictured drawn⟩
  | ok images => exact ⟨_, .illustrated framed pictured drawn⟩

/-- Settings without a defect let an export begin with the request for the file. -/
theorem exists_course_of_admits (service : Service) (admits : settings.Admits client key) :
    ∃ others outcome,
      Course service settings (client.request (client.fileUrl key) :: others) outcome := by
  cases came : client.valueOf service Wire.file (client.fileUrl key) with
  | error error => exact ⟨_, _, .fileFailed admits came⟩
  | ok file =>
      have answered := (client.valueOf_eq_ok_iff service).mp came
      cases found : file.firstFrame with
      | error reason => exact ⟨_, _, .noFrame admits answered found⟩
      | ok root =>
          have framed : Framed service settings client key root :=
            ⟨admits, file, answered, found⟩
          by_cases bare : root.imageIds = []
          · exact ⟨_, _, .plain framed bare⟩
          · rcases exists_course_of_pictured framed bare with ⟨outcome, course⟩
            exact ⟨_, outcome, course⟩

/-- Every export can go one of the six ways. -/
theorem exists_course (service : Service) (settings : Settings) :
    ∃ asked outcome, Course service settings asked outcome := by
  rcases firstDefect_or_admits settings with ⟨error, defect⟩ | ⟨client, key, admits⟩
  · exact ⟨_, _, .refused defect⟩
  · rcases exists_course_of_admits service admits with ⟨others, outcome, course⟩
    exact ⟨_, outcome, course⟩

end

end Export
end Artboard
