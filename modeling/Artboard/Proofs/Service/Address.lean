import Artboard.Proofs.Service.Question
import Artboard.Proofs.Url.Parser
import Artboard.Service.FileKey

/-!
# Where a client asks

The address of a question is made from that of the service: what is asked for is put behind
its path, and ids and a format are put behind its query.  Read as an address is read, it
says just that, whatever characters the ids have in them.
-/

namespace Artboard

/-! ## Keys of files -/

theorem isName_of_fileKey? {address key : String} (named : fileKey? address = some key) :
    Url.IsName key := by
  rw [fileKey?] at named
  rcases Option.bind_eq_some_iff.mp named with ⟨behind, -, taken⟩
  dsimp only at taken
  split at taken
  · cases taken
  · rename_i notEmpty
    rw [← Option.some.inj taken]
    apply Url.isName_of_all
    · intro isEmpty
      apply notEmpty
      have letters := congrArg String.toList isEmpty
      rw [String.toList_ofList] at letters
      rw [letters]
      rfl
    · rw [String.toList_ofList]
      exact List.all_takeWhile

/-! ## Addresses below that of the service -/

/-- An address asks at a base for what names in its path and pairs in its query say: it
leads to the same place, and they are read behind what the base has there. An empty name
at the end of the base makes room for the first of the names. -/
structure Asks (base url : Url) (names : List String) (added : List (String × String)) : Prop where
  scheme : url.scheme = base.scheme
  host : url.host = base.host
  port : url.port = base.port
  segments : url.segments = Url.withoutLastEmpty base.segments ++ names
  pairs : url.pairs = base.pairs ++ added

variable {base : Url} {names : List String}

theorem asks_extend (legible : base.IsLegible) (plain : ∀ name ∈ names, Url.IsName name)
    (notEmpty : names ≠ []) (roomy : base.path ≠ ["", ""]) :
    Asks base (base.extend names) names [] where
  scheme := rfl
  host := rfl
  port := rfl
  segments := Url.segments_extend legible plain notEmpty roomy
  pairs := by rw [Url.pairs_extend legible plain notEmpty roomy, List.append_nil]

theorem Asks.addPair {url : Url} {added : List (String × String)}
    (asks : Asks base url names added) (legible : url.IsLegible) (name value : String) :
    Asks base (url.addPair name value) names (added ++ [(name, value)]) where
  scheme := asks.scheme
  host := asks.host
  port := asks.port
  segments := by rw [Url.segments_addPair legible, asks.segments]
  pairs := by rw [Url.pairs_addPair legible, asks.pairs, List.append_assoc]

/-- One address is another one, whose path does not end in a slash, with a slash put behind
its path. -/
structure HasSlashBehind (slashed base : Url) : Prop where
  last : ∃ name, base.segments.getLast? = some name ∧ name ≠ ""
  others : slashed = { base with path := slashed.path }
  path : slashed.pathText = base.pathText ++ "/"

theorem path_of_hasSlashBehind {slashed : Url} (behind : HasSlashBehind slashed base)
    (legible : base.IsLegible) (legibleSlashed : slashed.IsLegible) :
    slashed.path = base.path ++ [""] := by
  have pieces := Url.splitAt_pathText legibleSlashed
  rw [behind.path, String.toList_append] at pieces
  have apart : Text.splitAt '/' (base.pathText.toList ++ "/".toList) =
      ([] :: base.path.map String.toList) ++ [[]] := by
    rw [← Url.splitAt_pathText legible]
    exact Text.splitAt_append_separator base.pathText.toList []
  rw [apart, List.cons_append, List.cons.injEq] at pieces
  have texts : (base.path ++ [""]).map String.toList = slashed.path.map String.toList := by
    rw [List.map_append]
    exact pieces.2
  exact ((List.map_inj_right fun _ _ => String.toList_inj.mp).mp texts).symm

/-- What is put behind a slash is put where the path ends without it. -/
theorem extend_eq_of_hasSlashBehind {slashed : Url} (behind : HasSlashBehind slashed base)
    (legible : base.IsLegible) (legibleSlashed : slashed.IsLegible) (names : List String) :
    slashed.extend names = base.extend names := by
  rcases behind.last with ⟨name, last, filled⟩
  rw [Url.segments_eq legible, List.getLast?_map, Option.map_eq_some_iff] at last
  rcases last with ⟨segment, last, decoded⟩
  have notEmpty : segment ≠ "" := by
    rw [← decoded] at filled
    exact mt Url.decodeSegment_eq_empty_iff.mpr filled
  have path := path_of_hasSlashBehind behind legible legibleSlashed
  have dropped : Url.dropTrailingSlash slashed.path = Url.dropTrailingSlash base.path := by
    have kept : Url.dropTrailingSlash base.path = base.path := by
      simp [Url.dropTrailingSlash, last, notEmpty]
    have notNil : base.path ≠ [] := by
      intro isNil
      rw [isNil] at last
      cases last
    have long : 1 < (base.path ++ [""]).length := by
      rw [List.length_append, List.length_singleton]
      exact Nat.lt_add_of_pos_left (List.length_pos_iff.mpr notNil)
    rw [kept, path, Url.dropTrailingSlash_of_length long, Url.withoutLastEmpty,
      if_pos List.getLast?_concat, List.dropLast_concat]
  rw [Url.extend, dropped, behind.others]
  rfl

namespace Client

variable (client : Client) (key : String) (ids : List String) (format : ImageFormat)

/-- An attempt puts questions at one address only. -/
def AsksOnlyAt (attempt : Attempt ServiceError α) (url : Url) : Prop :=
  ∀ service, ∀ request ∈ (Attempt.trace service attempt).2, request.url = url

/-- What is asked for can be read from the addresses at which a client asks. -/
structure AddressesDecode : Prop where
  file : Asks client.apiBase (client.fileUrl key) ["files", key] []
  nodes : Asks client.apiBase (client.nodesUrl key ids) ["files", key, "nodes"]
    [("ids", ",".intercalate ids)]
  images : Asks client.apiBase (client.imagesUrl key ids format) ["images", key]
    [("ids", ",".intercalate ids), ("format", format.name)]
  fileOnly : AsksOnlyAt (client.getFile key) (client.fileUrl key)
  nodesOnly : AsksOnlyAt (client.getNodes key ids) (client.nodesUrl key ids)
  imagesOnly : AsksOnlyAt (client.getImages key ids format) (client.imagesUrl key ids format)

/-- A request of a client reads what names in its path and pairs in its query ask for, below
the address of the service. -/
structure Poses (names : List String) (added : List (String × String)) (request : Request) :
    Prop where
  verb : request.verb = "GET"
  token : request.token = client.token
  address : Asks client.apiBase.opened request.url names added

/-- Another client asks at the same addresses. -/
structure SameAddresses (other : Client) : Prop where
  file : other.fileUrl key = client.fileUrl key
  nodes : other.nodesUrl key ids = client.nodesUrl key ids
  images : other.imagesUrl key ids format = client.imagesUrl key ids format

theorem isLegible_of_ofSettings {apiBase : String} {token : Option String} {client : Client}
    (accepted : ofSettings apiBase token = .ok client) : client.apiBase.IsLegible := by
  rw [ofSettings] at accepted
  split at accepted
  · cases accepted
  · split at accepted
    · cases accepted
    · rename_i parsed
      rw [← Except.ok.inj accepted]
      exact Url.isLegible_of_parse parsed

theorem asksOnlyAt_getFile : AsksOnlyAt (client.getFile key) (client.fileUrl key) := by
  intro service request member
  rw [trace_getFile] at member
  exact congrArg Request.url (List.mem_singleton.mp member)

theorem asksOnlyAt_getNodes : AsksOnlyAt (client.getNodes key ids) (client.nodesUrl key ids) := by
  intro service request member
  rw [trace_getNodes] at member
  exact congrArg Request.url (List.mem_singleton.mp member)

theorem asksOnlyAt_getImages :
    AsksOnlyAt (client.getImages key ids format) (client.imagesUrl key ids format) := by
  intro service request member
  cases ids with
  | nil => cases member
  | cons id others =>
      rw [trace_getImages service client key format (List.cons_ne_nil id others)] at member
      exact congrArg Request.url (List.mem_singleton.mp member)

variable {client key}

theorem isName_files : Url.IsName "files" := Url.isName_of_all (by decide) (by decide)

theorem isName_images : Url.IsName "images" := Url.isName_of_all (by decide) (by decide)

theorem plain_file (plain : Url.IsName key) : ∀ name ∈ ["files", key], Url.IsName name :=
  List.forall_mem_cons.mpr ⟨isName_files, List.forall_mem_singleton.mpr plain⟩

theorem plain_images (plain : Url.IsName key) : ∀ name ∈ ["images", key], Url.IsName name :=
  List.forall_mem_cons.mpr ⟨isName_images, List.forall_mem_singleton.mpr plain⟩

theorem decode_of_roomy (legible : client.apiBase.IsLegible)
    (roomy : client.apiBase.path ≠ ["", ""]) (plain : Url.IsName key) :
    client.AddressesDecode key ids format := by
  have nodes : Url.IsName "nodes" := Url.isName_of_all (by decide) (by decide)
  have plainFile := plain_file plain
  have plainImages := plain_images plain
  have plainNodes : ∀ name ∈ ["files", key, "nodes"], Url.IsName name :=
    List.forall_mem_cons.mpr
      ⟨isName_files, List.forall_mem_cons.mpr ⟨plain, List.forall_mem_singleton.mpr nodes⟩⟩
  have nodesLegible := Url.isLegible_extend legible plainNodes (List.cons_ne_nil _ _) roomy
  have imagesLegible := Url.isLegible_extend legible plainImages (List.cons_ne_nil _ _) roomy
  constructor
  case file => exact asks_extend legible plainFile (List.cons_ne_nil _ _) roomy
  case nodes =>
    exact (asks_extend legible plainNodes (List.cons_ne_nil _ _) roomy).addPair nodesLegible _ _
  case images =>
    have withIds := (asks_extend legible plainImages (List.cons_ne_nil _ _) roomy).addPair
      imagesLegible "ids" (",".intercalate ids)
    exact withIds.addPair (Url.isLegible_addPair imagesLegible _ _) "format" format.name
  case fileOnly => exact asksOnlyAt_getFile client key
  case nodesOnly => exact asksOnlyAt_getNodes client key ids
  case imagesOnly => exact asksOnlyAt_getImages client key ids format

/-- The client for the service at the opened address. -/
def opened (client : Client) : Client :=
  { client with apiBase := client.apiBase.opened }

theorem fileUrl_opened (plain : Url.IsName key) :
    client.opened.fileUrl key = client.fileUrl key :=
  Url.extend_opened (plain_file plain) (List.cons_ne_nil _ _)

theorem imagesUrl_opened (plain : Url.IsName key) (ids : List String) (format : ImageFormat) :
    client.opened.imagesUrl key ids format = client.imagesUrl key ids format := by
  have same := @Url.extend_opened client.apiBase _ (plain_images plain) (List.cons_ne_nil _ _)
  rw [imagesUrl, imagesUrl, opened, same]

/-- Behind a path of two slashes requests are made as behind no path, so they can be read for
every accepted client. -/
theorem decode_opened (legible : client.apiBase.IsLegible) (plain : Url.IsName key) :
    client.opened.AddressesDecode key ids format :=
  decode_of_roomy ids format (Url.isLegible_opened legible) (Url.path_opened_ne _) plain

theorem poses_fileUrl (legible : client.apiBase.IsLegible) (plain : Url.IsName key) :
    client.Poses ["files", key] [] (client.request (client.fileUrl key)) where
  verb := rfl
  token := rfl
  address := fileUrl_opened plain ▸ (decode_opened [] .png legible plain).file

theorem poses_imagesUrl (legible : client.apiBase.IsLegible) (plain : Url.IsName key) :
    client.Poses ["images", key] [("ids", ",".intercalate ids), ("format", format.name)]
      (client.request (client.imagesUrl key ids format)) where
  verb := rfl
  token := rfl
  address := imagesUrl_opened plain ids format ▸ (decode_opened ids format legible plain).images

theorem sameAddresses_of_slash {other : Client} (legible : client.apiBase.IsLegible)
    (legibleOther : other.apiBase.IsLegible)
    (behind : HasSlashBehind other.apiBase client.apiBase) :
    client.SameAddresses key ids format other := by
  have same := extend_eq_of_hasSlashBehind behind legible legibleOther
  constructor
  case file => exact same _
  case nodes => rw [nodesUrl, nodesUrl, same]
  case images => rw [imagesUrl, imagesUrl, same]

/-- The addresses at which an accepted client asks say what is asked for, unless the path of
the service has an empty segment in front of its last one. For a service that is named
without a slash at the end of its path, they are the same when it is named with one. -/
theorem addresses_decode {apiBase : String} {token : Option String} {client : Client}
    {address key : String} (accepted : ofSettings apiBase token = .ok client)
    (named : fileKey? address = some key) (ids : List String) (format : ImageFormat) :
    ((∀ name ∈ client.apiBase.segments.dropLast, name ≠ "") →
      client.AddressesDecode key ids format) ∧
    ∀ slashedBase otherToken other, ofSettings slashedBase otherToken = .ok other →
      HasSlashBehind other.apiBase client.apiBase → client.SameAddresses key ids format other := by
  have legible := isLegible_of_ofSettings accepted
  constructor
  · intro filled
    exact decode_of_roomy ids format legible (Url.path_ne_of_filled legible filled)
      (isName_of_fileKey? named)
  · intro slashedBase otherToken other acceptedOther behind
    exact sameAddresses_of_slash ids format legible (isLegible_of_ofSettings acceptedOther) behind

/-- A client of a service behind a proxy, which is told a team by its own query. -/
def behindProxy : Client :=
  ⟨⟨"https", "", "", some (.domain "proxy.test"), some 8443, ["design", "v1"],
    some "team=a%26b", none⟩, "t"⟩

/-- The same with a slash at the end of the path. -/
def behindSlashedProxy : Client :=
  { behindProxy with apiBase := { behindProxy.apiBase with path := ["design", "v1", ""] } }

theorem addresses_behindProxy :
    ofSettings "https://proxy.test:8443/design/v1?team=a%26b" (some "t") = .ok behindProxy ∧
    ofSettings "https://proxy.test:8443/design/v1/?team=a%26b" (some "t") =
      .ok behindSlashedProxy ∧
    behindProxy.AddressesDecode "AbC1" ["1:2", "a&b=c+d%;é"] .svg ∧
    behindProxy.SameAddresses "AbC1" ["1:2", "a&b=c+d%;é"] .svg behindSlashedProxy := by
  have accepted :
      ofSettings "https://proxy.test:8443/design/v1?team=a%26b" (some "t") = .ok behindProxy := rfl
  have acceptedSlashed :
      ofSettings "https://proxy.test:8443/design/v1/?team=a%26b" (some "t") =
        .ok behindSlashedProxy := rfl
  have named : fileKey? "https://www.figma.com/file/AbC1/Poster" = some "AbC1" := by
    decide +kernel
  have filled : ∀ name ∈ behindProxy.apiBase.segments.dropLast, name ≠ "" := by decide +kernel
  have last : behindProxy.apiBase.segments.getLast? = some "v1" := by decide +kernel
  have behind : HasSlashBehind behindSlashedProxy.apiBase behindProxy.apiBase :=
    ⟨⟨"v1", last, by decide⟩, rfl, by decide +kernel⟩
  rcases addresses_decode accepted named ["1:2", "a&b=c+d%;é"] .svg with ⟨decode, slashed⟩
  exact ⟨accepted, acceptedSlashed, decode filled, slashed _ _ _ acceptedSlashed behind⟩

end Client
end Artboard
