import Artboard.Proofs.Service.Trace
import Artboard.Proofs.Text.Utf8
import Artboard.Service.Client

/-!
# Questions of a client

A client puts a question to the service in one request.  What comes back is the value
asked for only if the reply has a status of success and its body can be read; everything
else is an error, and no question is put twice.
-/

namespace Artboard

/-- A text that is sent as its bytes is read as it is. -/
theorem Reply.text_of_toBytes (text : String) :
    Reply.text ⟨200, Text.toBytes text.toList⟩ = text := by
  have whole : Reply.text ⟨200, Text.toBytes text.toList⟩ =
      String.ofList (Text.ofBytes (Text.toBytes text.toList)) := rfl
  rw [whole, Text.ofBytes_toBytes, String.ofList_toList]

namespace Client

variable (service : Service) (client : Client)

/-- The reply to a question at an address. -/
def replyOf (url : Url) : Except ServiceError Reply :=
  match service (client.request url) with
  | .error hindrance => .error (.transport url hindrance)
  | .ok reply => if reply.hasStatus then .ok reply else .error (.transport url .noReply)

/-- The value that the service gives for a question at an address. -/
def valueOf (codec : Json.Codec α) (url : Url) : Except ServiceError α :=
  (client.replyOf service url).bind fun reply => reply.answer codec

/-- The images that an answer tells of. -/
def imagesIn (answer : ImagesAnswer) : Except ServiceError ImageMap :=
  match answer.problem with
  | some problem => .error (.unexpected problem)
  | none => .ok (presentEntries answer.images)

/-- The images of nodes, for which at least one must be asked. -/
def imagesOf (key : String) (ids : List String) (format : ImageFormat) :
    Except ServiceError ImageMap :=
  (client.valueOf service Wire.imagesAnswer.codec (client.imagesUrl key ids format)).bind imagesIn

theorem trace_send (url : Url) :
    Attempt.trace service (client.send url) =
      (client.replyOf service url, [client.request url]) := by
  rw [send, Attempt.trace_note_bind, replyOf,
    Attempt.trace_bind_ok _ (Attempt.trace_ask service (client.request url))]
  cases service (client.request url) with
  | error hindrance => rfl
  | ok reply =>
      dsimp only
      split <;> rfl

theorem trace_get (codec : Json.Codec α) (url : Url) :
    Attempt.trace service (client.get codec url) =
      (client.valueOf service codec url, [client.request url]) := by
  rw [get, Attempt.trace_bind, trace_send, valueOf]
  cases client.replyOf service url with
  | error error => rfl
  | ok reply => exact congrArg (Prod.mk _) (List.append_nil _)

theorem trace_getFile (key : String) :
    Attempt.trace service (client.getFile key) =
      (client.valueOf service Wire.file (client.fileUrl key),
        [client.request (client.fileUrl key)]) := by
  rw [getFile, Attempt.trace_bind, trace_get]
  cases client.valueOf service Wire.file (client.fileUrl key) with
  | error error => rfl
  | ok file => exact congrArg (Prod.mk _) (List.append_nil _)

theorem trace_getNodes (key : String) (ids : List String) :
    Attempt.trace service (client.getNodes key ids) =
      ((client.valueOf service Wire.nodesAnswer.codec (client.nodesUrl key ids)).map
          fun answer => presentEntries answer.nodes,
        [client.request (client.nodesUrl key ids)]) := by
  rw [getNodes, Attempt.trace_bind, trace_get]
  cases client.valueOf service Wire.nodesAnswer.codec (client.nodesUrl key ids) with
  | error error => rfl
  | ok answer => exact congrArg (Prod.mk _) (List.append_nil _)

theorem trace_getImages {ids : List String} (key : String) (format : ImageFormat)
    (notEmpty : ids ≠ []) :
    Attempt.trace service (client.getImages key ids format) =
      (client.imagesOf service key ids format,
        [client.request (client.imagesUrl key ids format)]) := by
  have asks : ids.isEmpty = false := List.isEmpty_eq_false_iff.mpr notEmpty
  rw [getImages, asks, if_neg Bool.false_ne_true, Attempt.trace_bind, trace_get, imagesOf]
  cases client.valueOf service Wire.imagesAnswer.codec (client.imagesUrl key ids format) with
  | error error => rfl
  | ok answer =>
      rcases answer with ⟨problem, images⟩
      cases problem with
      | some problem => exact congrArg (Prod.mk _) (List.append_nil _)
      | none =>
          -- Whether images are missing is reported and changes nothing else.
          by_cases few : (presentEntries images).length < ids.length
          · simp only [few, if_true]
            exact congrArg (Prod.mk _) (List.append_nil _)
          · simp only [few, if_false]
            exact congrArg (Prod.mk _) (List.append_nil _)

/-! ## When a question is answered -/

/-- The service answers a question at an address with a value: the reply has a status of
success and a body that says the value. -/
def Answers (codec : Json.Codec α) (url : Url) (value : α) : Prop :=
  ∃ reply, service (client.request url) = .ok reply ∧ reply.isSuccess = true ∧
    codec.parse reply.text = .ok value

theorem hasStatus_of_isSuccess {reply : Reply} (success : reply.isSuccess = true) :
    reply.hasStatus = true := by
  simp only [Reply.isSuccess, Reply.hasStatus, Bool.and_eq_true, decide_eq_true_eq] at *
  omega

theorem answer_eq_ok_iff {codec : Json.Codec α} {reply : Reply} {value : α} :
    reply.answer codec = .ok value ↔ reply.isSuccess = true ∧ codec.parse reply.text = .ok value := by
  unfold Reply.answer
  split
  · next success =>
      cases codec.parse reply.text <;> simp [success]
  · next refused => simp [refused]

/-- The reply to a question is the one of the service, if it has a status. -/
theorem replyOf_eq_ok_iff {url : Url} {reply : Reply} :
    client.replyOf service url = .ok reply ↔
      service (client.request url) = .ok reply ∧ reply.hasStatus = true := by
  rw [replyOf]
  cases service (client.request url) with
  | error hindrance => simp
  | ok other =>
      by_cases status : other.hasStatus = true
      · simp only [status, if_true, Except.ok.injEq]
        constructor
        · rintro rfl
          exact ⟨rfl, status⟩
        · exact And.left
      · simp only [status, Except.ok.injEq]
        constructor
        · intro impossible
          cases impossible
        · rintro ⟨rfl, has⟩
          exact absurd has status

/-- The value of a question is the one that the service answers with. -/
theorem valueOf_eq_ok_iff {codec : Json.Codec α} {url : Url} {value : α} :
    client.valueOf service codec url = .ok value ↔ client.Answers service codec url value := by
  rw [valueOf]
  constructor
  · intro answered
    cases came : client.replyOf service url with
    | error error =>
        rw [came] at answered
        cases answered
    | ok reply =>
        rw [came] at answered
        rcases (client.replyOf_eq_ok_iff service).mp came with ⟨replied, -⟩
        exact ⟨reply, replied, answer_eq_ok_iff.mp answered⟩
  · rintro ⟨reply, replied, success, said⟩
    have came := (client.replyOf_eq_ok_iff service).mpr
      ⟨replied, hasStatus_of_isSuccess success⟩
    rw [came]
    exact answer_eq_ok_iff.mpr ⟨success, said⟩

/-- Images are those with an address in an answer that reports no problem. -/
theorem imagesOf_eq_ok_iff {key : String} {ids : List String} {format : ImageFormat}
    {images : ImageMap} :
    client.imagesOf service key ids format = .ok images ↔
      ∃ answer, client.Answers service Wire.imagesAnswer.codec (client.imagesUrl key ids format)
          answer ∧
        answer.problem = none ∧ presentEntries answer.images = images := by
  rw [imagesOf]
  constructor
  · intro drawn
    cases came : client.valueOf service Wire.imagesAnswer.codec
        (client.imagesUrl key ids format) with
    | error error =>
        rw [came] at drawn
        cases drawn
    | ok answer =>
        rw [came] at drawn
        refine ⟨answer, (client.valueOf_eq_ok_iff service).mp came, ?_⟩
        change imagesIn answer = .ok images at drawn
        unfold imagesIn at drawn
        cases told : answer.problem with
        | some problem =>
            rw [told] at drawn
            cases drawn
        | none =>
            rw [told] at drawn
            exact ⟨rfl, Except.ok.inj drawn⟩
  · rintro ⟨answer, answered, fine, rfl⟩
    rw [(client.valueOf_eq_ok_iff service).mpr answered]
    change imagesIn answer = _
    rw [imagesIn, fine]

end Client
end Artboard
