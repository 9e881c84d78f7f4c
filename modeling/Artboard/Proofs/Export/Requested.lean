import Artboard.Proofs.Export.Course
import Artboard.Proofs.Page.Visited
import Artboard.Proofs.Service.Classification
import Artboard.Proofs.Text.Utf8

/-!
# Images that were not asked for

The service is asked for images by id, and every address in its answer is taken as it is
given, also one for an id that was not asked for.  A page with such an address shows an
image in the place of a layer, and of everything on it, that need not be image-like.
-/

namespace Artboard

open Json (lastWritten)

namespace Client

variable (service : Service) (client : Client)

/-- The service answers a question for images with an address for an id: the answer can be
read and reports no problem, and what it writes last for the id is an address. -/
def Offers (key : String) (ids : List String) (format : ImageFormat) (id : String) : Prop :=
  ∃ answer url,
    client.Answers service Wire.writtenImages.codec (client.imagesUrl key ids format) answer ∧
      answer.problem = none ∧ lastWritten id answer.images = some (some url)

/-- Whatever images a question comes to, they are images of what was asked for. -/
def Covers (key : String) (ids : List String) (format : ImageFormat) : Prop :=
  ∀ images, (Attempt.trace service (client.getImages key ids format)).1 = .ok images →
    ∀ id url, (id, url) ∈ images → id ∈ ids

variable {service client} {key : String} {ids : List String} {format : ImageFormat}

theorem answers_images_iff {url : Url} {answer : ImagesAnswer} :
    client.Answers service Wire.imagesAnswer.codec url answer ↔
      ∃ written, client.Answers service Wire.writtenImages.codec url written ∧
        Wire.settledImages written = answer := by
  constructor
  · rintro ⟨reply, replied, success, read⟩
    rw [Wire.parse_imagesAnswer] at read
    cases seen : Wire.writtenImages.codec.parse reply.text with
    | error fault =>
        rw [seen] at read
        cases read
    | ok written =>
        rw [seen] at read
        exact ⟨written, ⟨reply, replied, success, seen⟩, Except.ok.inj read⟩
  · rintro ⟨written, ⟨reply, replied, success, seen⟩, rfl⟩
    refine ⟨reply, replied, success, ?_⟩
    rw [Wire.parse_imagesAnswer, seen]
    rfl

/-- A question has one answer. -/
theorem answers_unique {α : Type} {codec : Json.Codec α} {url : Url} {answer other : α}
    (first : client.Answers service codec url answer)
    (second : client.Answers service codec url other) : answer = other := by
  rw [← valueOf_eq_ok_iff] at first second
  rw [first] at second
  exact Except.ok.inj second

/-- What the service offers an address for is what is in the images. -/
theorem offers_iff {id : String} :
    client.Offers service key ids format id ↔
      ∃ images url, client.imagesOf service key ids format = .ok images ∧ (id, url) ∈ images := by
  constructor
  · rintro ⟨answer, url, answered, fine, last⟩
    refine ⟨presentEntries (Json.entriesOf answer.images), url, ?_, ?_⟩
    · refine (imagesOf_eq_ok_iff service client).mpr ⟨Wire.settledImages answer, ?_, fine, rfl⟩
      exact answers_images_iff.mpr ⟨answer, answered, rfl⟩
    · exact ((holdsLast_presentEntries answer.images).mem id url).mpr last
  · rintro ⟨images, url, came, member⟩
    rcases (imagesOf_eq_ok_iff service client).mp came with ⟨answer, answered, fine, rfl⟩
    rcases answers_images_iff.mp answered with ⟨written, seen, rfl⟩
    exact ⟨written, url, seen, fine,
      ((holdsLast_presentEntries written.images).mem id url).mp member⟩

/-- Images come for what was asked for only, when nothing else is offered. -/
theorem covers_iff :
    Covers service client key ids format ↔
      ids = [] ∨ ∀ id, client.Offers service key ids format id → id ∈ ids := by
  by_cases asks : ids = []
  · refine iff_of_true ?_ (Or.inl asks)
    intro images came id url member
    rw [asks] at came
    cases came
    cases member
  · rw [or_iff_right asks, Covers, trace_getImages service client key format asks]
    constructor
    · intro covers id offered
      rcases offers_iff.mp offered with ⟨images, url, came, member⟩
      exact covers images came id url member
    · intro requested images came id url member
      exact requested id (offers_iff.mpr ⟨images, url, came, member⟩)

end Client

theorem ImageMap.url?_eq_some_iff {images : ImageMap} (once : (images.map Prod.fst).Nodup)
    {id url : String} : images.url? id = some url ↔ (id, url) ∈ images := by
  rw [ImageMap.url?, List.lookup_eq_some_iff]
  constructor
  · rintro ⟨front, back, rfl, -⟩
    exact List.mem_append_right front List.mem_cons_self
  · intro member
    rcases List.append_of_mem member with ⟨front, back, rfl⟩
    refine ⟨front, back, rfl, ?_⟩
    intro entry earlier
    rw [List.map_append, List.map_cons, List.nodup_append] at once
    have apart := once.2.2 entry.1 (List.mem_map_of_mem earlier) id List.mem_cons_self
    simpa using apart.symm

/-! ## Where an image stands for a layer -/

namespace Page

open Node (TreePlace Order placesFrom placesFromAll)

mutual

/-- A place that is drawn with everything it lies on is visited, or it lies on a visited
layer whose image stands for it. -/
theorem mem_visitedFrom_or_replaced {images : ImageMap} {place : TreePlace} : (node : Node) →
    (path : List Nat) → (above : List Layer) → above.all (isOpen images) = true →
    place ∈ placesFrom .preorder path above node →
    place.layer.visible = true → (∀ below ∈ place.above, below.visible = true) →
    place ∈ visitedFrom images .preorder path above node ∨
      ∃ outer ∈ visitedFrom images .preorder path above node,
        images.url? outer.layer.id ≠ none ∧ outer.layer ∈ place.above
  | ⟨layer, children⟩, path, above, opened, member, visible, drawn => by
      rw [placesFrom, Order.mem_arrange] at member
      rcases member with rfl | member
      · left
        refine List.mem_filter.mpr ⟨?_, ?_⟩
        · rw [placesFrom]
          exact Order.mem_arrange.mpr (Or.inl rfl)
        · simp only [isVisited, visible, opened, Bool.and_self]
      · rcases Node.mem_placesFromAll children path (layer :: above) 0 member with ⟨-, onLayer⟩
        have under : layer ∈ place.above := onLayer.mem List.mem_cons_self
        have layerVisible := drawn layer under
        cases known : images.url? layer.id with
        | some url =>
            refine Or.inr ⟨⟨path, above, ⟨layer, children⟩⟩, ?_, ?_, under⟩
            · rw [visitedFrom_image children layerVisible known opened]
              exact List.mem_singleton.mpr rfl
            · rw [TreePlace.layer, known]
              exact Option.some_ne_none url
        | none =>
            rw [visitedFrom_element children layerVisible opened]
            rcases mem_visitedFromAll_or_replaced children path (layer :: above) 0
                (all_isOpen_cons layerVisible known opened) member visible drawn with
              inside | ⟨outer, outerMember, rest⟩
            · exact Or.inl (List.mem_cons_of_mem _ inside)
            · exact Or.inr ⟨outer, List.mem_cons_of_mem _ outerMember, rest⟩

theorem mem_visitedFromAll_or_replaced {images : ImageMap} {place : TreePlace} :
    (nodes : List Node) → (path : List Nat) → (above : List Layer) → (index : Nat) →
    above.all (isOpen images) = true →
    place ∈ placesFromAll .preorder path above index nodes →
    place.layer.visible = true → (∀ below ∈ place.above, below.visible = true) →
    place ∈ visitedFromAll images .preorder path above index nodes ∨
      ∃ outer ∈ visitedFromAll images .preorder path above index nodes,
        images.url? outer.layer.id ≠ none ∧ outer.layer ∈ place.above
  | [], _, _, _, _, member, _, _ => by
      simp [placesFromAll] at member
  | node :: nodes, path, above, index, opened, member, visible, drawn => by
      rw [visitedFromAll_cons]
      rw [placesFromAll] at member
      rcases List.mem_append.mp member with member | member
      · rcases mem_visitedFrom_or_replaced node (path ++ [index]) above opened member visible
            drawn with inside | ⟨outer, outerMember, rest⟩
        · exact Or.inl (List.mem_append_left _ inside)
        · exact Or.inr ⟨outer, List.mem_append_left _ outerMember, rest⟩
      · rcases mem_visitedFromAll_or_replaced nodes path above (index + 1) opened member visible
            drawn with inside | ⟨outer, outerMember, rest⟩
        · exact Or.inl (List.mem_append_right _ inside)
        · exact Or.inr ⟨outer, List.mem_append_right _ outerMember, rest⟩

end

/-- Every layer that an image stands for has an id from a list. -/
def ReplacesOnly (images : ImageMap) (root : Node) (ids : List String) : Prop :=
  ∀ place ∈ visited images .preorder root, images.url? place.layer.id ≠ none →
    place.layer.id ∈ ids

/-- A drawn layer with an image and an id that is not in the list does no harm only where
a layer below it has an image and an id from the list. -/
theorem replacesOnly_iff {images : ImageMap} {root : Node} {ids : List String} :
    ReplacesOnly images root ids ↔
      ∀ place ∈ root.places .preorder, place.layer.visible = true →
        (∀ below ∈ place.above, below.visible = true) → images.url? place.layer.id ≠ none →
          place.layer.id ∈ ids ∨
            ∃ below ∈ place.above, images.url? below.id ≠ none ∧ below.id ∈ ids := by
  constructor
  · intro only place member visible drawn known
    rcases mem_visitedFrom_or_replaced root [] [] rfl member visible drawn with
      inside | ⟨outer, outerMember, outerKnown, under⟩
    · exact Or.inl (only place inside known)
    · exact Or.inr ⟨outer.layer, under, outerKnown, only outer outerMember outerKnown⟩
  · intro covered place member known
    rcases mem_visited_iff.mp member with ⟨placed, visible, opened⟩
    rcases covered place placed visible (fun below under => (opened below under).1) known with
      listed | ⟨below, under, belowKnown, -⟩
    · exact listed
    · exact absurd (opened below under).2 belowKnown

end Page

/-! ## Exports -/

namespace Export

/-- The images of a tree: none when no layer needs one, and otherwise those to which the
service gave an address. -/
inductive Illustrated (service : Service) (settings : Settings) (client : Client)
    (key : String) (root : Node) : ImageMap → Prop
  | bare (bare : root.imageIds = []) : Illustrated service settings client key root []
  | drawn {answer : ImagesAnswer} {images : ImageMap} (pictured : root.imageIds ≠ [])
    (answered : client.Answers service Wire.writtenImages.codec
      (client.imagesUrl key root.imageIds settings.imageFormat) answer)
    (fine : answer.problem = none) (holds : HoldsLast answer.images images) :
    Illustrated service settings client key root images

/-- In whatever page an export makes, images stand only for layers with ids that were
collected. -/
def ReplacesCollected (service : Service) (settings : Settings) : Prop :=
  ∀ client key root images, Framed service settings client key root →
    Illustrated service settings client key root images →
      Page.ReplacesOnly images root root.imageIds

variable {service : Service} {settings : Settings} {client : Client} {key : String} {root : Node}

theorem offers_of_illustrated {images : ImageMap} (pictured : root.imageIds ≠ [])
    (illustrated : Illustrated service settings client key root images) (id : String) :
    images.url? id ≠ none ↔
      client.Offers service key root.imageIds settings.imageFormat id := by
  cases illustrated with
  | bare bare => exact absurd bare pictured
  | @drawn answer images _ answered fine holds =>
      constructor
      · intro known
        rcases Option.ne_none_iff_exists'.mp known with ⟨url, found⟩
        have member := (ImageMap.url?_eq_some_iff holds.once).mp found
        exact ⟨answer, url, answered, fine, (holds.mem id url).mp member⟩
      · rintro ⟨other, url, answeredSame, -, last⟩ unknown
        cases Client.answers_unique answered answeredSame
        have found := (ImageMap.url?_eq_some_iff holds.once).mpr ((holds.mem id url).mpr last)
        exact Option.some_ne_none url (found.symm.trans unknown)

theorem exists_illustrated_of_offers {id : String} (pictured : root.imageIds ≠ [])
    (offered : client.Offers service key root.imageIds settings.imageFormat id) :
    ∃ images, Illustrated service settings client key root images := by
  rcases offered with ⟨answer, url, answered, fine, -⟩
  exact ⟨_, .drawn pictured answered fine (holdsLast_presentEntries answer.images)⟩

theorem replacesCollected_iff :
    ReplacesCollected service settings ↔
      ∀ client key root, Framed service settings client key root → root.imageIds ≠ [] →
        ∀ place ∈ root.places .preorder, place.layer.visible = true →
          (∀ below ∈ place.above, below.visible = true) →
          client.Offers service key root.imageIds settings.imageFormat place.layer.id →
            place.layer.id ∈ root.imageIds ∨
              ∃ below ∈ place.above,
                client.Offers service key root.imageIds settings.imageFormat below.id ∧
                  below.id ∈ root.imageIds := by
  constructor
  · intro collected client key root framed pictured place member visible drawn offered
    rcases exists_illustrated_of_offers pictured offered with ⟨images, illustrated⟩
    have known := offers_of_illustrated pictured illustrated
    have only := Page.replacesOnly_iff.mp (collected client key root images framed illustrated)
    simp only [known] at only
    exact only place member visible drawn offered
  · intro covered client key root images framed illustrated
    by_cases pictured : root.imageIds = []
    · cases illustrated with
      | bare => exact fun _ _ known => absurd rfl known
      | drawn notBare => exact absurd pictured notBare
    · have known := offers_of_illustrated pictured illustrated
      apply Page.replacesOnly_iff.mpr
      simp only [known]
      exact covered client key root framed pictured

/-- What the service names decides alone whether only what was asked for is taken: the
images of a question are those of the ids in it exactly when the service offers no other
address; and in the pages of exports images stand only for collected ids exactly when
every drawn layer with an offered address has a collected id, or lies on a layer with a
collected id and an offered address. -/
theorem requested_iff (service : Service) :
    (∀ client key ids format,
      Client.Covers service client key ids format ↔
        ids = [] ∨ ∀ id, client.Offers service key ids format id → id ∈ ids) ∧
      ∀ settings, ReplacesCollected service settings ↔
        ∀ client key root, Framed service settings client key root → root.imageIds ≠ [] →
          ∀ place ∈ root.places .preorder, place.layer.visible = true →
            (∀ below ∈ place.above, below.visible = true) →
            client.Offers service key root.imageIds settings.imageFormat place.layer.id →
              place.layer.id ∈ root.imageIds ∨
                ∃ below ∈ place.above,
                  client.Offers service key root.imageIds settings.imageFormat below.id ∧
                    below.id ∈ root.imageIds :=
  ⟨fun _ _ _ _ => Client.covers_iff, fun _ => replacesCollected_iff⟩

/-! ## A service that names the page itself -/

/-- A design of one frame with a vector on it, as the service writes it. -/
def badgeDesign : String :=
  "\x7b\"name\":\"Badge\",\"document\":" ++
    "\x7b\"id\":\"0\",\"name\":\"\",\"type\":\"DOCUMENT\",\"children\":[" ++
    "\x7b\"id\":\"1\",\"name\":\"\",\"type\":\"CANVAS\",\"children\":[" ++
    "\x7b\"id\":\"2\",\"name\":\"\",\"type\":\"FRAME\",\"children\":[" ++
    "\x7b\"id\":\"3\",\"name\":\"\",\"type\":\"VECTOR\"\x7d]\x7d]\x7d]\x7d\x7d"

/-- An answer with an address for the vector and one for the whole frame. -/
def generousAnswer : String :=
  "\x7b\"images\":\x7b\"2\":\"a\",\"3\":\"b\"\x7d\x7d"

/-- Asked for images, the service gives the answer, and otherwise the design. -/
def generousService : Service := fun request =>
  .ok ⟨200, Text.toBytes
    (if request.url.path.contains "images" then generousAnswer else badgeDesign).toList⟩

def badgeSettings : Settings :=
  { Settings.standard with
    fileUrl := some "https://www.figma.com/design/AbC1/Badge"
    token := some "t"
    apiBase := "https://api.test/v1" }

theorem offers_frame :
    Client.Offers generousService Client.plainClient "AbC1" ["3"] .png "2" := by
  have read : Wire.writtenImages.codec.parse generousAnswer =
      .ok ⟨none, [("2", some "a"), ("3", some "b")]⟩ := by
    apply Json.eq_ok_iff_toOption.mpr
    decide +kernel
  have asked : (Client.plainClient.imagesUrl "AbC1" ["3"] .png).path.contains "images" = true := by
    decide +kernel
  refine ⟨⟨none, [("2", some "a"), ("3", some "b")]⟩, "a",
    ⟨⟨200, Text.toBytes generousAnswer.toList⟩, ?_, rfl, ?_⟩, rfl, by decide⟩
  · rw [generousService, Client.request, asked]
    rfl
  · rw [Reply.text_of_toBytes, read]

/-- The service gives a frame, and only the vector on it is to be drawn. -/
theorem exists_framed_badge :
    ∃ root, Framed generousService badgeSettings Client.plainClient "AbC1" root ∧
      root.layer.id = "2" ∧ root.layer.visible = true ∧ root.imageIds = ["3"] := by
  have read : ((Wire.file.parse badgeDesign).toOption.bind fun file =>
        file.firstFrame.toOption).any (fun root =>
          root.layer.id == "2" && root.layer.visible && root.imageIds == ["3"]) = true := by
    decide +kernel
  have located : Url.parse badgeSettings.apiBase = .ok Client.plainClient.apiBase := by
    apply Json.eq_ok_iff_toOption.mpr
    decide +kernel
  have asked : (Client.plainClient.fileUrl "AbC1").path.contains "images" = false := by
    decide +kernel
  have keyed : fileKey? "https://www.figma.com/design/AbC1/Badge" = some "AbC1" := by
    decide +kernel
  have admits : badgeSettings.Admits Client.plainClient "AbC1" :=
    ⟨⟨_, rfl, keyed⟩, rfl, by decide +kernel, located⟩
  have replied : generousService (Client.plainClient.request (Client.plainClient.fileUrl "AbC1")) =
      .ok ⟨200, Text.toBytes badgeDesign.toList⟩ := by
    rw [generousService, Client.request, asked]
    rfl
  rcases exists_framed admits replied read with ⟨root, framed, shown⟩
  simp only [Bool.and_eq_true, beq_iff_eq] at shown
  exact ⟨root, framed, shown.1.1, shown.1.2, shown.2⟩

/-- The address for the frame is taken, though nobody asked for it, and an image stands for
the whole page. -/
theorem not_requested_generous :
    ¬Client.Covers generousService Client.plainClient "AbC1" ["3"] .png ∧
      ¬ReplacesCollected generousService badgeSettings := by
  constructor
  · intro covers
    rcases Client.covers_iff.mp covers with none | only
    · cases none
    · exact absurd (only "2" offers_frame) (by decide)
  · intro collected
    rcases exists_framed_badge with ⟨root, framed, sameId, visible, asked⟩
    have pictured : root.imageIds ≠ [] := by
      rw [asked]
      decide
    have placed : (⟨[], [], root⟩ : Node.TreePlace) ∈ root.places .preorder := by
      cases root
      rw [Node.places, Node.placesFrom]
      exact Node.Order.mem_arrange.mpr (Or.inl rfl)
    have offered : Client.Offers generousService Client.plainClient "AbC1" root.imageIds
        badgeSettings.imageFormat root.layer.id := by
      rw [asked, sameId]
      exact offers_frame
    have decides := replacesCollected_iff.mp collected Client.plainClient "AbC1" root framed
      pictured ⟨[], [], root⟩ placed visible (fun _ under => absurd under List.not_mem_nil)
    rcases decides offered with listed | ⟨below, under, -⟩
    · rw [asked, Node.TreePlace.layer, sameId] at listed
      exact absurd listed (by decide)
    · cases under

end Export
end Artboard
