import Artboard.Proofs.Json.Pairs
import Artboard.Proofs.Service.Question

/-!
# What becomes of an answer

Whatever the service replies to a question, one of four things becomes of it.  A status that
is not one of success is an error with that status and the message in the body.  Otherwise a
body that cannot be read as a whole is an error, and so is one that reports a problem; any
other body gives what it holds.

What a body holds is said with all its members, as they are written: of several entries for
one id the last one decides, so that a null takes back what was said before.
-/

namespace Artboard

open Json (Codec Record lastWritten entriesOf)

variable {α β ω : Type}

/-! ## Entries that are not null -/

/-- The values that were written last for their ids and are not null, each once. -/
structure HoldsLast (pairs : List (String × Option α)) (values : List (String × α)) : Prop where
  once : (values.map Prod.fst).Nodup
  mem : ∀ id value, (id, value) ∈ values ↔ lastWritten id pairs = some (some value)

theorem mem_presentEntries_iff {entries : List (String × Option α)} {id : String} {value : α} :
    (id, value) ∈ presentEntries entries ↔ (id, some value) ∈ entries := by
  rw [presentEntries, List.mem_filterMap]
  constructor
  · rintro ⟨⟨key, entry⟩, member, same⟩
    rcases Option.map_eq_some_iff.mp same with ⟨present, rfl, pair⟩
    cases pair
    exact member
  · intro member
    exact ⟨(id, some value), member, rfl⟩

theorem sublist_presentEntries (entries : List (String × Option α)) :
    ((presentEntries entries).map Prod.fst).Sublist (entries.map Prod.fst) := by
  induction entries with
  | nil => exact List.Sublist.slnil
  | cons entry entries inductionHypothesis =>
      rcases entry with ⟨id, _ | value⟩
      · exact inductionHypothesis.cons id
      · exact inductionHypothesis.cons_cons id

theorem holdsLast_presentEntries (pairs : List (String × Option α)) :
    HoldsLast pairs (presentEntries (entriesOf pairs)) where
  once := (Json.nodup_entriesOf pairs).sublist (sublist_presentEntries _)
  mem _ _ := mem_presentEntries_iff.trans Json.mem_entriesOf_iff

/-! ## Answers as they are written -/

namespace Wire

/-- An answer about nodes with all entries in it. -/
def writtenNodes : Record NodesAnswer where
  name := "NodesResponse"
  blank := ⟨[]⟩
  fields := [
    nodeEntry.codec.nullable.pairs.field "nodes" true (·.nodes) fun v a => { a with nodes := v }]

/-- An answer about images with all entries in it. -/
def writtenImages : Record ImagesAnswer where
  name := "ImagesResponse"
  blank := ⟨none, []⟩
  fields := [
    Codec.text.nullable.field "err" false (·.problem) fun v a => { a with problem := v },
    Codec.text.nullable.pairs.field "images" false (·.images) fun v a => { a with images := v }]

/-- The nodes of an answer without entries that do not count. -/
def settledNodes (answer : NodesAnswer) : NodesAnswer :=
  { answer with nodes := entriesOf answer.nodes }

/-- The images of an answer without entries that do not count. -/
def settledImages (answer : ImagesAnswer) : ImagesAnswer :=
  { answer with images := entriesOf answer.images }

theorem parse_nodesAnswer (text : String) :
    nodesAnswer.codec.parse text = (writtenNodes.codec.parse text).map settledNodes := by
  have nodes : Record.SameField settledNodes Record.depthInside
      (nodeEntry.codec.nullable.entries.field "nodes" true (·.nodes)
        fun v a => { a with nodes := v })
      (nodeEntry.codec.nullable.pairs.field "nodes" true (·.nodes)
        fun v a => { a with nodes := v }) :=
    Record.sameField_of_alike (Json.alike_entries _ _) "nodes" true _ _ fun _ _ => rfl
  have same : Record.SameKind settledNodes Record.depthInside nodesAnswer writtenNodes :=
    ⟨rfl, rfl, .cons nodes .nil⟩
  exact Record.parse_same same text

theorem parse_imagesAnswer (text : String) :
    imagesAnswer.codec.parse text = (writtenImages.codec.parse text).map settledImages := by
  have problem : Record.SameField settledImages Record.depthInside
      (Codec.text.nullable.field "err" false (·.problem) fun v a => { a with problem := v })
      (Codec.text.nullable.field "err" false (·.problem) fun v a => { a with problem := v }) :=
    Record.sameField_of_alike (Json.alike_refl _) "err" false _ _ fun _ _ => rfl
  have images : Record.SameField settledImages Record.depthInside
      (Codec.text.nullable.entries.field "images" false (·.images)
        fun v a => { a with images := v })
      (Codec.text.nullable.pairs.field "images" false (·.images)
        fun v a => { a with images := v }) :=
    Record.sameField_of_alike (Json.alike_entries _ _) "images" false _ _ fun _ _ => rfl
  have same : Record.SameKind settledImages Record.depthInside imagesAnswer writtenImages :=
    ⟨rfl, rfl, .cons problem (.cons images .nil)⟩
  exact Record.parse_same same text

end Wire

/-! ## Messages of refusals -/

/-- A body is an object in which the member that is written last under a name is a text. -/
def Tells (body name text : String) : Prop :=
  ∃ members, Codec.any.pairs.parse body = .ok members ∧
    lastWritten name members = some (.text text)

/-- The message of a refusal: what the body says under `err`, or else under `message`, or
else the whole body without outer blanks. -/
structure IsMessage (body message : String) : Prop where
  ofErr : ∀ text, Tells body "err" text → message = text
  ofMessage : (¬∃ text, Tells body "err" text) → ∀ text, Tells body "message" text → message = text
  ofBody : (¬∃ text, Tells body "err" text) → (¬∃ text, Tells body "message" text) →
    message = String.ofList (Text.trim body.toList)

/-- What a body says under a name. -/
def told? (body name : String) : Option String :=
  (Json.parse body).toOption.bind fun value => (value.member? name).bind Json.text?

theorem told?_eq (body name : String) :
    told? body name =
      (Codec.any.pairs.parse body).toOption.bind fun members =>
        (lastWritten name members).bind Json.text? := by
  have inMembers : (fun value : Json => (value.member? name).bind Json.text?) =
      fun value => (Json.members? value).bind fun members =>
        (Json.member? name (.object members)).bind Json.text? := by
    funext value
    cases value <;> rfl
  rw [told?, inMembers, ← Option.bind_assoc, Json.toOption_parse_bind_members?, Option.bind_map]
  apply congrArg
  funext members
  exact congrArg (Option.bind · Json.text?) (Json.member?_object name members)

theorem text?_eq_some_iff {value : Json} {text : String} :
    value.text? = some text ↔ value = .text text := by
  cases value <;> simp [Json.text?]

theorem told?_eq_some_iff {body name text : String} :
    told? body name = some text ↔ Tells body name text := by
  rw [told?_eq, Option.bind_eq_some_iff]
  constructor
  · rintro ⟨members, read, told⟩
    rcases Option.bind_eq_some_iff.mp told with ⟨value, last, isText⟩
    rw [text?_eq_some_iff.mp isText] at last
    exact ⟨members, Json.eq_ok_iff_toOption.mpr read, last⟩
  · rintro ⟨members, read, last⟩
    refine ⟨members, Json.eq_ok_iff_toOption.mp read, ?_⟩
    rw [last]
    rfl

theorem told?_eq_none_iff {body name : String} :
    told? body name = none ↔ ¬∃ text, Tells body name text := by
  rw [← Option.not_isSome_iff_eq_none, Option.isSome_iff_exists]
  simp only [told?_eq_some_iff]

theorem refusalMessage_eq (body : String) :
    Reply.refusalMessage body =
      ((told? body "err").or (told? body "message")).getD
        (String.ofList (Text.trim body.toList)) := by
  unfold Reply.refusalMessage told?
  cases Json.parse body with
  | error fault => rfl
  | ok value =>
      simp only [List.findSome?_cons, List.findSome?_nil, Except.toOption, Option.bind_some]
      cases (value.member? "err").bind Json.text? with
      | some text => rfl
      | none => cases (value.member? "message").bind Json.text? <;> rfl

theorem isMessage_refusalMessage (body : String) : IsMessage body (Reply.refusalMessage body) := by
  rw [refusalMessage_eq]
  constructor
  case ofErr =>
    intro text tells
    rw [told?_eq_some_iff.mpr tells]
    rfl
  case ofMessage =>
    intro noErr text tells
    rw [told?_eq_none_iff.mpr noErr, told?_eq_some_iff.mpr tells]
    rfl
  case ofBody =>
    intro noErr noMessage
    rw [told?_eq_none_iff.mpr noErr, told?_eq_none_iff.mpr noMessage]
    rfl

/-! ## One reply -/

/-- What becomes of a reply whose body is read by a codec. `Means` says what becomes of a
body that can be read. -/
structure Classifies (reply : Reply) (codec : Codec ω) (Means : ω → Except ServiceError β → Prop)
    (outcome : Except ServiceError β) : Prop where
  refused : ¬(200 ≤ reply.status ∧ reply.status < 300) →
    ∃ message, IsMessage reply.text message ∧ outcome = .error (.status reply.status message)
  unreadable : 200 ≤ reply.status ∧ reply.status < 300 →
    ∀ fault, codec.parse reply.text = .error fault → outcome = .error (.payload reply.text fault)
  readable : 200 ≤ reply.status ∧ reply.status < 300 →
    ∀ answer, codec.parse reply.text = .ok answer → Means answer outcome
  auth : ∀ error, outcome = .error error →
    (error.isAuth = true ↔ ∃ message, error = .status 401 message ∨ error = .status 403 message)
  authStatus : (∃ error, outcome = .error error ∧ error.isAuth = true) ↔
    reply.status = 401 ∨ reply.status = 403

theorem isAuth_status {code : Nat} {message : String} :
    (ServiceError.status code message).isAuth = true ↔ code = 401 ∨ code = 403 := by
  rw [ServiceError.isAuth, Bool.or_eq_true, beq_iff_eq, beq_iff_eq]

theorem isAuth_iff {error : ServiceError} :
    error.isAuth = true ↔
      ∃ message, error = .status 401 message ∨ error = .status 403 message := by
  constructor
  · intro isAuth
    cases error with
    | status code message =>
        rcases isAuth_status.mp isAuth with rfl | rfl
        · exact ⟨message, Or.inl rfl⟩
        · exact ⟨message, Or.inr rfl⟩
    | _ => cases isAuth
  · rintro ⟨message, rfl | rfl⟩
    · rfl
    · rfl

theorem isSuccess_iff {reply : Reply} :
    reply.isSuccess = true ↔ 200 ≤ reply.status ∧ reply.status < 300 := by
  rw [Reply.isSuccess, Bool.and_eq_true, decide_eq_true_iff, decide_eq_true_iff]

theorem answer_of_refused {reply : Reply} (codec : Codec α)
    (refused : ¬(200 ≤ reply.status ∧ reply.status < 300)) :
    reply.answer codec =
      .error (.status reply.status (Reply.refusalMessage reply.text)) := by
  rw [Reply.answer, if_neg (mt isSuccess_iff.mp refused)]

theorem answer_of_success {reply : Reply} (codec : Codec α)
    (success : 200 ≤ reply.status ∧ reply.status < 300) :
    reply.answer codec = (codec.parse reply.text).mapError (.payload reply.text) := by
  rw [Reply.answer, if_pos (isSuccess_iff.mpr success)]
  cases codec.parse reply.text <;> rfl

/-- Whoever asks is refused by the status alone, if what is made of an answer never is such
an error. -/
theorem isAuth_answer_iff {reply : Reply} (codec : Codec α) {finish : α → Except ServiceError β}
    (never : ∀ value error, finish value = .error error → error.isAuth = false) :
    (∃ error, (reply.answer codec).bind finish = .error error ∧ error.isAuth = true) ↔
      reply.status = 401 ∨ reply.status = 403 := by
  by_cases success : 200 ≤ reply.status ∧ reply.status < 300
  · rw [answer_of_success codec success]
    constructor
    · rintro ⟨error, came, isAuth⟩
      cases read : codec.parse reply.text with
      | error fault =>
          rw [read] at came
          cases came
          cases isAuth
      | ok value =>
          rw [read] at came
          rw [never value error came] at isAuth
          cases isAuth
    · intro code
      omega
  · rw [answer_of_refused codec success]
    constructor
    · rintro ⟨error, came, isAuth⟩
      cases came
      exact isAuth_status.mp isAuth
    · intro code
      exact ⟨_, rfl, isAuth_status.mpr code⟩

/-- A reply is classified by the codec that sees all that is written, if the one that reads
it sees the same less what does not count. -/
theorem classifies_answer {reply : Reply} {codec : Codec α} {written : Codec ω} {view : ω → α}
    (same : codec.parse reply.text = (written.parse reply.text).map view)
    {finish : α → Except ServiceError β} {Means : ω → Except ServiceError β → Prop}
    (means : ∀ answer, Means answer (finish (view answer)))
    (never : ∀ value error, finish value = .error error → error.isAuth = false) :
    Classifies reply written Means ((reply.answer codec).bind finish) := by
  constructor
  case refused =>
    intro refused
    rw [answer_of_refused codec refused]
    exact ⟨_, isMessage_refusalMessage reply.text, rfl⟩
  case unreadable =>
    intro success fault unreadable
    rw [answer_of_success codec success, same, unreadable]
    rfl
  case readable =>
    intro success answer read
    rw [answer_of_success codec success, same, read]
    exact means answer
  case auth => exact fun _ _ => isAuth_iff
  case authStatus => exact isAuth_answer_iff codec never

/-- What a request comes to: it is lost when there is no reply to it or none with a status,
and otherwise the reply says what becomes of it. -/
structure Comes (service : Service) (request : Request) (codec : Codec ω)
    (Means : ω → Except ServiceError β → Prop) (outcome : Except ServiceError β) : Prop where
  lost : ∀ hindrance, service request = .error hindrance →
    outcome = .error (.transport request.url hindrance)
  unmarked : ∀ reply, service request = .ok reply →
    ¬(100 ≤ reply.status ∧ reply.status < 1000) →
      outcome = .error (.transport request.url .noReply)
  replied : ∀ reply, service request = .ok reply →
    100 ≤ reply.status ∧ reply.status < 1000 → Classifies reply codec Means outcome

theorem hasStatus_iff {reply : Reply} :
    reply.hasStatus = true ↔ 100 ≤ reply.status ∧ reply.status < 1000 := by
  rw [Reply.hasStatus, Bool.and_eq_true, decide_eq_true_iff, decide_eq_true_iff]

/-! ## The questions -/

namespace Client

variable (service : Service) (client : Client)

/-- The service replies to a question at an address. -/
structure Replies (url : Url) (reply : Reply) : Prop where
  replied : service (client.request url) = .ok reply
  status : reply.hasStatus = true

/-- What becomes of an answer about images that can be read. A problem that it reports
counts for more than the images in it. -/
def ImagesMean (answer : ImagesAnswer) (outcome : Except ServiceError ImageMap) : Prop :=
  match answer.problem with
  | some problem => outcome = .error (.unexpected problem)
  | none => ∃ images, outcome = .ok images ∧ HoldsLast answer.images images

/-- What becomes of each of the three questions is said by the reply. -/
structure ClassifiesReplies (key : String) (ids : List String) (format : ImageFormat) : Prop where
  file : ∀ reply, Replies service client (client.fileUrl key) reply →
    Classifies reply Wire.file (fun file outcome => outcome = .ok file)
      (Attempt.trace service (client.getFile key)).1
  nodes : ∀ reply, Replies service client (client.nodesUrl key ids) reply →
    Classifies reply Wire.writtenNodes.codec
      (fun answer outcome => ∃ nodes, outcome = .ok nodes ∧ HoldsLast answer.nodes nodes)
      (Attempt.trace service (client.getNodes key ids)).1
  images : ids ≠ [] → ∀ reply, Replies service client (client.imagesUrl key ids format) reply →
    Classifies reply Wire.writtenImages.codec ImagesMean
      (Attempt.trace service (client.getImages key ids format)).1

variable {service client}

theorem valueOf_of_replies {url : Url} {reply : Reply} (replies : Replies service client url reply)
    (codec : Codec α) : client.valueOf service codec url = reply.answer codec := by
  have came := (client.replyOf_eq_ok_iff service).mpr ⟨replies.replied, replies.status⟩
  rw [valueOf, came]
  rfl

variable (service client)

/-- A question comes to what its reply says, read by a codec that sees all that is written. -/
theorem comes_valueOf {codec : Codec α} {written : Codec ω} {view : ω → α}
    (same : ∀ text, codec.parse text = (written.parse text).map view)
    {finish : α → Except ServiceError β} {Means : ω → Except ServiceError β → Prop}
    (means : ∀ answer, Means answer (finish (view answer)))
    (never : ∀ value error, finish value = .error error → error.isAuth = false) (url : Url) :
    Comes service (client.request url) written Means
      ((client.valueOf service codec url).bind finish) := by
  constructor
  case lost =>
    intro hindrance lost
    rw [valueOf, replyOf, lost]
    rfl
  case unmarked =>
    intro reply replied noStatus
    rw [valueOf, replyOf, replied]
    dsimp only
    rw [if_neg (mt hasStatus_iff.mp noStatus)]
    rfl
  case replied =>
    intro reply replied status
    rw [valueOf_of_replies ⟨replied, hasStatus_iff.mpr status⟩]
    exact classifies_answer (same reply.text) means never

theorem comes_file (key : String) :
    Comes service (client.request (client.fileUrl key)) Wire.file
      (fun file outcome => outcome = .ok file)
      (client.valueOf service Wire.file (client.fileUrl key)) := by
  have same : ∀ text, Wire.file.parse text = (Wire.file.parse text).map id := by
    intro text
    cases Wire.file.parse text <;> rfl
  have never : ∀ (file : DesignFile) (error : ServiceError),
      Except.ok file = .error error → error.isAuth = false := nofun
  have comes : Comes service (client.request (client.fileUrl key)) Wire.file
      (fun file outcome => outcome = .ok file)
      ((client.valueOf service Wire.file (client.fileUrl key)).bind .ok) := by
    refine comes_valueOf service client same ?_ never _
    intro file
    rfl
  have whole : (client.valueOf service Wire.file (client.fileUrl key)).bind .ok =
      client.valueOf service Wire.file (client.fileUrl key) := by
    cases client.valueOf service Wire.file (client.fileUrl key) <;> rfl
  rw [whole] at comes
  exact comes

theorem comes_nodes (key : String) (ids : List String) :
    Comes service (client.request (client.nodesUrl key ids)) Wire.writtenNodes.codec
      (fun answer outcome => ∃ nodes, outcome = .ok nodes ∧ HoldsLast answer.nodes nodes)
      ((client.valueOf service Wire.nodesAnswer.codec (client.nodesUrl key ids)).map
        fun answer => presentEntries answer.nodes) := by
  have never : ∀ (answer : NodesAnswer) (error : ServiceError),
      Except.ok (presentEntries answer.nodes) = .error error → error.isAuth = false := nofun
  have finished : (client.valueOf service Wire.nodesAnswer.codec (client.nodesUrl key ids)).map
      (fun answer => presentEntries answer.nodes) =
        (client.valueOf service Wire.nodesAnswer.codec (client.nodesUrl key ids)).bind
          fun answer => .ok (presentEntries answer.nodes) := by
    cases client.valueOf service Wire.nodesAnswer.codec (client.nodesUrl key ids) <;> rfl
  rw [finished]
  exact comes_valueOf service client Wire.parse_nodesAnswer
    (fun answer => ⟨_, rfl, holdsLast_presentEntries answer.nodes⟩) never _

theorem comes_images (key : String) (ids : List String) (format : ImageFormat) :
    Comes service (client.request (client.imagesUrl key ids format)) Wire.writtenImages.codec
      ImagesMean (client.imagesOf service key ids format) := by
  have never : ∀ (answer : ImagesAnswer) (error : ServiceError),
      imagesIn answer = .error error → error.isAuth = false := by
    intro answer error reported
    unfold imagesIn at reported
    split at reported
    · cases reported
      rfl
    · cases reported
  have means : ∀ answer, ImagesMean answer (imagesIn (Wire.settledImages answer)) := by
    rintro ⟨problem, images⟩
    cases problem with
    | some problem => rfl
    | none => exact ⟨_, rfl, holdsLast_presentEntries images⟩
  exact comes_valueOf service client Wire.parse_imagesAnswer means never _

/-- Whatever the service replies is an error or what is written in it, as the status, the
body and its members decide. -/
theorem classifiesReplies (key : String) (ids : List String) (format : ImageFormat) :
    ClassifiesReplies service client key ids format := by
  constructor
  case file =>
    intro reply replies
    rw [trace_getFile]
    exact (comes_file service client key).replied reply replies.replied
      (hasStatus_iff.mp replies.status)
  case nodes =>
    intro reply replies
    rw [trace_getNodes]
    exact (comes_nodes service client key ids).replied reply replies.replied
      (hasStatus_iff.mp replies.status)
  case images =>
    intro asks reply replies
    rw [trace_getImages service client key format asks]
    exact (comes_images service client key ids format).replied reply replies.replied
      (hasStatus_iff.mp replies.status)

/-- A reply that takes back the first of two images. -/
def takenBack : Reply :=
  ⟨200, Text.toBytes "\x7b\"images\":\x7b\"1:1\":\"a\",\"1:2\":\"b\",\"1:1\":null\x7d\x7d".toList⟩

/-- A client that can be asked with. -/
def plainClient : Client :=
  ⟨⟨"https", "", "", some (.domain "api.test"), none, ["v1"], none, none⟩, "t"⟩

theorem images_takenBack :
    ∃ images,
      (Attempt.trace (fun _ => .ok takenBack)
        (plainClient.getImages "AbC1" ["1:1", "1:2"] .png)).1 = .ok images ∧
      ("1:2", "b") ∈ images ∧ ∀ url, ("1:1", url) ∉ images := by
  have replies : Replies (fun _ => .ok takenBack) plainClient
      (plainClient.imagesUrl "AbC1" ["1:1", "1:2"] .png) takenBack :=
    ⟨rfl, by decide⟩
  have read : Wire.writtenImages.codec.parse takenBack.text =
      .ok ⟨none, [("1:1", some "a"), ("1:2", some "b"), ("1:1", none)]⟩ := by
    apply Json.eq_ok_iff_toOption.mpr
    decide +kernel
  have classified := (classifiesReplies (fun _ => .ok takenBack) plainClient "AbC1"
    ["1:1", "1:2"] .png).images (by decide) takenBack replies
  rcases classified.readable (by decide) _ read with ⟨images, came, last⟩
  refine ⟨images, came, (last.mem "1:2" "b").mpr (by decide), ?_⟩
  intro url member
  have written := (last.mem "1:1" url).mp member
  have taken : lastWritten "1:1"
      [("1:1", some "a"), ("1:2", some "b"), ("1:1", (none : Option String))] = some none := by
    decide
  rw [taken] at written
  cases written

end Client
end Artboard
