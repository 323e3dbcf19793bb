import Portainer.SecretProxy.Model
/-!
# The proxy of Kubernetes secrets — transparency

A request is handled if no cast fails and, where it concerns no registry
secret, the API server gets the body that was received and the client the
answer. `proxySecretRequest_iff` says of each request when it is: what is
decoded of a body that is looked at is an object with a type, and means,
encoded again, what the body means. For JSON (`passable_json_iff`) that is so
if a `float64` keeps its numbers. The decoder of YAML is a parameter, which
may refuse a body or change what it means.
-/

namespace Portainer

namespace SecretProxy

open Json (Object)

variable {yaml : Format} {cluster : Cluster} {request : Request} {namespaceName : String} {requestPath : Path}
variable {v : Json} {header : Header} {body : Option Text}

/-! ## Secrets -/

/-- A member of an object; `null` if there is none. -/
def member : Json → String → Json
  | .obj members, name => Object.get members name
  | _, _ => .null

/-- A secret of a registry: by its type and by an annotation. -/
def IsRegistrySecret (v : Json) : Prop :=
  member v "type" = .str secretTypeDockerConfigJson ∧
    ∃ labels, member (member v "metadata") "annotations" = .obj labels ∧ (lastOf labels registryIDLabel).isSome

/-- An object, or `null`. -/
def IsMap (v : Json) : Prop := v = .null ∨ ∃ members, v = .obj members

/-- **A value with the shape of a secret**: an object with a text as its
type and, if the type is that of a registry, with metadata and annotations
that are objects or missing. -/
structure Shaped (v : Json) : Prop where
  object : ∃ secret, v = .obj secret
  type : ∃ type, member v "type" = .str type
  metadata : member v "type" = .str secretTypeDockerConfigJson →
    IsMap (member v "metadata") ∧ IsMap (member (member v "metadata") "annotations")

/-- The items of a list. -/
def itemsOf (v : Json) : List Json :=
  match member v "items" with
  | .arr items => items
  | _ => []

/-- **A value with the shape of a list of secrets**: an object without items
or with a list of secrets. -/
structure ShapedList (v : Json) : Prop where
  object : ∃ body, v = .obj body
  items : member v "items" = .null ∨ ∃ items, member v "items" = .arr items
  shaped : ∀ item ∈ itemsOf v, Shaped item

/-! ## Messages -/

/-- The value of a body, as the content encoding says. -/
def valueOf (header : Header) (body : Option Text) : Option Json :=
  match body with
  | none => none
  | some text => if text.isGzip = (header.contentEncoding = "gzip" : Bool) then text.value else none

def Request.value (request : Request) : Option Json := valueOf request.header request.body

def Response.value (response : Response) : Option Json := valueOf response.header response.body

/-- What the proxy decodes of a body. -/
def decodedOf (yaml : Format) (header : Header) (body : Option Text) : Option Json :=
  (getBody yaml body header.contentType (header.contentEncoding = "gzip")).toOption

/-- **A value that is carried** by another one: encoded, that one means the
same. -/
def Carried (yaml : Format) (header : Header) (v w : Json) : Prop :=
  ∃ format, formatOf yaml header.contentType = some format ∧ (format.write w).meaning = v.meaning

/-! ## The property -/

/-- A list is asked for. -/
def AsksForList (requestPath : Path) : Prop := secretName requestPath = "secrets"

instance : Decidable (AsksForList requestPath) := inferInstanceAs (Decidable (_ = _))

/-- The request concerns a registry secret: that of its body, one that is
shown, or the one to delete. -/
def Concerned (cluster : Cluster) (request : Request) (namespaceName : String) (requestPath : Path) : Prop :=
  match request.method with
  | "POST" => ∃ v, request.value = some v ∧ IsRegistrySecret v
  | "GET" => ∃ answer v, cluster.roundTrip request = .ok answer ∧ answer.value = some v ∧
    (AsksForList requestPath → ∃ item ∈ itemsOf v, IsRegistrySecret item) ∧
    (¬ AsksForList requestPath → IsRegistrySecret v)
  | "PUT" => ∃ v, request.value = some v ∧ IsRegistrySecret v
  | "DELETE" => ∃ secret, cluster.secret namespaceName (secretName requestPath) = .ok (some secret) ∧
    secret.type = secretTypeDockerConfigJson ∧ (lastOf secret.annotations registryIDLabel).isSome
  | _ => False

/-- **The proxy is not seen**: the request is forwarded with a body of the
same meaning, and the answer is that of the API server, with its status and a
body of the same meaning. The errors are those from outside. -/
def Transparent (cluster : Cluster) (request : Request) (namespaceName : String) (outcome : Outcome) : Prop :=
  (∃ request', outcome.forwarded = some request' ∧ request' = { request with body := request'.body } ∧
    request'.value.map Json.meaning = request.value.map Json.meaning ∧
    match cluster.roundTrip request' with
    | .error text => outcome.answer = .error (.error text)
    | .ok answer =>
      (∃ response, outcome.answer = .ok response ∧ response.statusCode = answer.statusCode ∧
        response.value.map Json.meaning = answer.value.map Json.meaning) ∨
      ∃ text, request.method = "GET" ∧ request.isAdmin = .error text ∧ outcome.answer = .error (.error text)) ∨
  ∃ text, request.method = "DELETE" ∧
    (cluster.kubeClient = .error text ∨
      cluster.secret namespaceName (secretName request.requestURI) = .error text) ∧
    outcome = { answer := .error (.error text) }

/-- **The request is handled**: no cast fails, and the proxy is not seen
where no registry secret is concerned. -/
def Handles (yaml : Format) (cluster : Cluster) (request : Request) (namespaceName : String) (requestPath : Path) :
    Prop :=
  (proxySecretRequest yaml cluster request namespaceName requestPath).answer ≠ .error .typeAssertion ∧
    (¬ Concerned cluster request namespaceName requestPath →
      Transparent cluster request namespaceName
        (proxySecretRequest yaml cluster request namespaceName requestPath))

/-- **A body that can be passed on**: what is decoded of it has the shape of
a secret, and carries it unless it is one of a registry. -/
def Passable (yaml : Format) (header : Header) (body : Option Text) (v : Json) : Prop :=
  (∀ w, decodedOf yaml header body = some w → Shaped w) ∧
    (IsRegistrySecret v ∨ ∃ w, decodedOf yaml header body = some w ∧ Carried yaml header v w)

/-- **A list that can be passed on.** -/
def PassableList (yaml : Format) (header : Header) (body : Option Text) (v : Json) : Prop :=
  (∀ w, decodedOf yaml header body = some w → ShapedList w) ∧
    ((∀ item ∈ itemsOf v, ¬ IsRegistrySecret item) →
      ∃ w, decodedOf yaml header body = some w ∧ Carried yaml header v w)

/-- **The bodies that the proxy looks at are as it expects.** -/
def Expected (yaml : Format) (cluster : Cluster) (request : Request) (namespaceName : String) (requestPath : Path) :
    Prop :=
  match request.method with
  | "POST" => ∀ v, request.value = some v → Passable yaml request.header request.body v ∧
    (IsRegistrySecret v ∨ request.header.contentEncoding ≠ "gzip")
  | "GET" => request.isAdmin = .ok false → ∀ answer v, cluster.roundTrip request = .ok answer →
    answer.value = some v →
      (AsksForList requestPath → PassableList yaml answer.header answer.body v) ∧
      (¬ AsksForList requestPath → Passable yaml answer.header answer.body v)
  | "PUT" => ∀ v, request.value = some v → Passable yaml request.header request.body v ∧
    (IsRegistrySecret v ∨ request.header.contentEncoding ≠ "gzip")
  | "DELETE" => ∀ secret, cluster.kubeClient = .ok () →
    cluster.secret namespaceName (secretName request.requestURI) = .ok (some secret) →
    secret.type = secretTypeDockerConfigJson → Concerned cluster request namespaceName requestPath
  | _ => True

/-- **What is relied on of a format**: no registry secret is made of a text
that shows none, and an object is encoded as a map, in which a member may be
given its own value. -/
structure Format.Lawful (format : Format) : Prop where
  secret : ∀ {text : Text} {v w : Json}, text.value = some v → format.read text = some w →
    IsRegistrySecret w → IsRegistrySecret v
  items : ∀ {text : Text} {v w : Json}, text.value = some v → format.read text = some w →
    ∀ item ∈ itemsOf w, IsRegistrySecret item → ∃ item ∈ itemsOf v, IsRegistrySecret item
  members : ∀ {members : Object} {name : String} {u : Json}, lastOf members name = some u →
    (format.write (.obj (Object.set members name u))).meaning = (format.write (.obj members)).meaning

/-! ## Casts -/

/-- **What the cast of a property does**: it needs an object, or nothing. -/
theorem getJSONObject_spec (secret : Object) (property : String) :
    (∃ members, getJSONObject secret property = .ok members ∧
      (Object.get secret property = .null ∧ members = [] ∨ Object.get secret property = .obj members)) ∨
    getJSONObject secret property = .error .typeAssertion ∧ ¬ IsMap (Object.get secret property) := by
  unfold getJSONObject IsMap
  cases Object.get secret property with
  | null => exact .inl ⟨[], rfl, .inl ⟨rfl, rfl⟩⟩
  | obj members => exact .inl ⟨members, rfl, .inr rfl⟩
  | _ => exact .inr ⟨rfl, by rintro (h | ⟨_, h⟩) <;> nomatch h⟩

/-- What is found of a secret. -/
inductive Found (secret : Object) : Except Failure Bool → Prop
  | registry : Shaped (.obj secret) → IsRegistrySecret (.obj secret) → Found secret (.ok true)
  | other : Shaped (.obj secret) → ¬ IsRegistrySecret (.obj secret) → Found secret (.ok false)
  | misshapen : ¬ Shaped (.obj secret) → ¬ IsRegistrySecret (.obj secret) → Found secret (.error .typeAssertion)

/-- **The check of a secret** finds what it represents, or a cast fails. -/
theorem isSecretRepresentPrivateRegistry_spec (secret : Object) :
    Found secret (isSecretRepresentPrivateRegistry secret) := by
  unfold isSecretRepresentPrivateRegistry
  have hobject : ∃ members, Json.obj secret = .obj members := ⟨secret, rfl⟩
  cases htype : Object.get secret "type" with
  | str type =>
    dsimp only
    have hmember : member (.obj secret) "type" = .str type := htype
    by_cases hother : type ≠ secretTypeDockerConfigJson
    · rw [if_pos hother]
      have hnot : member (.obj secret) "type" ≠ .str secretTypeDockerConfigJson := by
        rw [hmember]
        exact fun h => hother (Json.str.inj h)
      exact .other ⟨hobject, ⟨type, hmember⟩, fun h => absurd h hnot⟩ fun h => hnot h.1
    · rw [if_neg hother]
      rw [not_not.mp hother] at hmember
      obtain ⟨metadata, hmetadata, hget⟩ | ⟨hfails, hnot⟩ := getJSONObject_spec secret "metadata"
      · rw [hmetadata]
        change Found secret ((getJSONObject metadata "annotations").bind fun labels =>
          .ok (lastOf labels registryIDLabel).isSome)
        have hmap : IsMap (member (.obj secret) "metadata") := by
          obtain ⟨hnull, -⟩ | hobj := hget
          · exact .inl hnull
          · exact .inr ⟨metadata, hobj⟩
        have hannotations : member (member (.obj secret) "metadata") "annotations" =
            Object.get metadata "annotations" := by
          obtain ⟨hnull, rfl⟩ | hobj := hget
          · rw [member, hnull]
            rfl
          · rw [member, hobj]
            rfl
        obtain ⟨labels, hlabels, hget'⟩ | ⟨hfails, hnot⟩ := getJSONObject_spec metadata "annotations"
        · rw [hlabels]
          change Found secret (.ok (lastOf labels registryIDLabel).isSome)
          have hmap' : IsMap (member (member (.obj secret) "metadata") "annotations") := by
            rw [hannotations]
            obtain ⟨hnull, -⟩ | hobj := hget'
            · exact .inl hnull
            · exact .inr ⟨labels, hobj⟩
          have hshaped : Shaped (.obj secret) := ⟨hobject, ⟨_, hmember⟩, fun _ => ⟨hmap, hmap'⟩⟩
          cases hlabel : (lastOf labels registryIDLabel).isSome with
          | true =>
            refine .registry hshaped ⟨hmember, labels, ?_, hlabel⟩
            rw [hannotations]
            obtain ⟨-, rfl⟩ | hobj := hget'
            · nomatch hlabel
            · exact hobj
          | false =>
            refine .other hshaped fun hregistry => ?_
            obtain ⟨-, labels', hlabels', hlabel'⟩ := hregistry
            rw [hannotations] at hlabels'
            obtain ⟨hnull, -⟩ | hobj := hget'
            · rw [hnull] at hlabels'
              nomatch hlabels'
            · rw [hobj] at hlabels'
              rw [← Json.obj.inj hlabels', hlabel] at hlabel'
              nomatch hlabel'
        · rw [hfails]
          rw [← hannotations] at hnot
          refine .misshapen (fun hshaped => hnot (hshaped.metadata hmember).2) fun hregistry => ?_
          obtain ⟨-, labels, hlabels, -⟩ := hregistry
          exact hnot (.inr ⟨labels, hlabels⟩)
      · rw [hfails]
        refine .misshapen (fun hshaped => hnot (hshaped.metadata hmember).1) fun hregistry => ?_
        obtain ⟨-, labels, hlabels, -⟩ := hregistry
        refine hnot ?_
        cases hmetadata : Object.get secret "metadata" with
        | obj members => exact .inr ⟨members, rfl⟩
        | _ =>
          rw [member, hmetadata] at hlabels
          nomatch hlabels
  | _ =>
    have hnot : ∀ type, member (.obj secret) "type" ≠ .str type := by
      intro type h
      rw [member, htype] at h
      nomatch h
    refine .misshapen (fun hshaped => ?_) fun hregistry => hnot _ hregistry.1
    obtain ⟨type, h⟩ := hshaped.type
    exact hnot type h

/-- **The items of a list** are all secrets, and those of no registry stay;
or a cast fails. -/
theorem filterItems_spec (items : List Json) :
    (∀ item ∈ items, Shaped item) ∧ (∃ filtered, filterItems items = .ok filtered ∧
      ((∀ item ∈ items, ¬ IsRegistrySecret item) → filtered = items)) ∨
    (¬ ∀ item ∈ items, Shaped item) ∧ filterItems items = .error .typeAssertion := by
  induction items with
  | nil => exact .inl ⟨fun item h => absurd h List.not_mem_nil, [], rfl, fun _ => rfl⟩
  | cons item items ih =>
    have hstep : filterItems (item :: items) =
        (asObject item).bind fun secret => (isSecretRepresentPrivateRegistry secret).bind fun isRegistry =>
          (filterItems items).bind fun filtered => .ok (if isRegistry then filtered else item :: filtered) := rfl
    rw [List.forall_mem_cons, List.forall_mem_cons, hstep]
    cases item with
    | obj secret =>
      change _ ∧ (∃ filtered, (isSecretRepresentPrivateRegistry secret).bind _ = _ ∧ _) ∨
        _ ∧ (isSecretRepresentPrivateRegistry secret).bind _ = _
      have hspec := isSecretRepresentPrivateRegistry_spec secret
      generalize isSecretRepresentPrivateRegistry secret = found at hspec
      obtain ⟨hitems, filtered, hfiltered, hsame⟩ | ⟨hitems, hfails⟩ := ih
      · rw [hfiltered]
        cases hspec with
        | registry hshaped hregistry =>
          exact .inl ⟨⟨hshaped, hitems⟩, filtered, rfl, fun h => absurd hregistry h.1⟩
        | other hshaped hregistry =>
          exact .inl ⟨⟨hshaped, hitems⟩, .obj secret :: filtered, rfl, fun h => by rw [hsame h.2]⟩
        | misshapen hshaped hregistry => exact .inr ⟨fun h => hshaped h.1, rfl⟩
      · rw [hfails]
        refine .inr ⟨fun h => hitems h.2, ?_⟩
        cases hspec <;> rfl
    | _ =>
      refine .inr ⟨fun h => ?_, rfl⟩
      obtain ⟨secret, hsecret⟩ := h.1.object
      nomatch hsecret

/-! ## Reading and writing -/

/-- What is made of what is decoded of a body. -/
inductive ReadAs (yaml : Format) (header : Header) (decoded : Option Json) : Except Failure Object → Prop
  | members (secret : Object) (format : Format) : decoded = some (.obj secret) →
    formatOf yaml header.contentType = some format → ReadAs yaml header decoded (.ok secret)
  | noObject (w : Json) : decoded = some w → (∀ secret, w ≠ .obj secret) →
    ReadAs yaml header decoded (.error .typeAssertion)
  | unreadable (failure : Failure) : decoded = none → failure ≠ .typeAssertion →
    ReadAs yaml header decoded (.error failure)

/-- A body is decoded in a format that is supported, or fails without a
cast. -/
theorem getBody_spec (yaml : Format) (body : Option Text) (contentType : String) (isGzip : Bool) :
    (∃ w format, getBody yaml body contentType isGzip = .ok w ∧ formatOf yaml contentType = some format) ∨
    ∃ failure, getBody yaml body contentType isGzip = .error failure ∧ failure ≠ .typeAssertion := by
  have hunmarshal : ∀ text, (∃ w format, unmarshal yaml contentType text = .ok w ∧
      formatOf yaml contentType = some format) ∨
      ∃ failure, unmarshal yaml contentType text = .error failure ∧ failure ≠ .typeAssertion := by
    intro text
    unfold unmarshal
    cases formatOf yaml contentType with
    | none => exact .inr ⟨_, rfl, fun h => (by cases h)⟩
    | some format =>
      dsimp only
      cases text.bind format.read with
      | none => exact .inr ⟨_, rfl, fun h => (by cases h)⟩
      | some w => exact .inl ⟨w, format, rfl, rfl⟩
  cases body with
  | none => exact .inr ⟨_, rfl, fun h => (by cases h)⟩
  | some text =>
    obtain ⟨value, spelling, compressed⟩ := text
    cases isGzip <;> cases compressed
    · exact hunmarshal (some _)
    · exact hunmarshal none
    · exact .inr ⟨_, rfl, fun h => (by cases h)⟩
    · exact hunmarshal (some _)

/-- **Reading a body** gives the members of an object, or fails by a cast or
without one. -/
theorem readAs (yaml : Format) (header : Header) (body : Option Text) :
    ReadAs yaml header (decodedOf yaml header body)
      ((getBody yaml body header.contentType (header.contentEncoding = "gzip")).bind asObject) := by
  unfold decodedOf
  obtain ⟨w, format, hbody, hformat⟩ | ⟨failure, hbody, hfailure⟩ :=
    getBody_spec yaml body header.contentType (header.contentEncoding = "gzip")
  · rw [hbody]
    cases w with
    | obj secret => exact .members secret format rfl hformat
    | _ => exact .noObject _ rfl fun secret h => (by cases h)
  · rw [hbody]
    exact .unreadable failure rfl hfailure

/-- A body with a value is decoded as the format reads it. -/
theorem decodedOf_eq {format : Format} (hvalue : valueOf header body = some v)
    (hformat : formatOf yaml header.contentType = some format) :
    ∃ text : Text, text.value = some v ∧ decodedOf yaml header body = format.read text := by
  cases body with
  | none => cases hvalue
  | some text =>
    by_cases hencoding : text.isGzip = (header.contentEncoding = "gzip" : Bool)
    · rw [valueOf, if_pos hencoding] at hvalue
      have hgzip : ∀ b, b = text.isGzip → getBody yaml (some text) header.contentType b =
          unmarshal yaml header.contentType (some text) := by
        rintro b rfl
        obtain ⟨value, spelling, gzip⟩ := text
        cases gzip <;> rfl
      refine ⟨text, hvalue, ?_⟩
      rw [decodedOf, hgzip _ hencoding.symm, unmarshal, hformat]
      dsimp only [Option.bind_some]
      cases format.read text <;> rfl
    · rw [valueOf, if_neg hencoding] at hvalue
      cases hvalue

theorem exists_read (hvalue : valueOf header body = some v) {w : Json}
    (hdecoded : decodedOf yaml header body = some w) :
    ∃ format text, formatOf yaml header.contentType = some format ∧ text.value = some v ∧
      format.read text = some w := by
  obtain ⟨_, format, -, hformat⟩ | ⟨failure, hbody, -⟩ :=
    getBody_spec yaml body header.contentType (header.contentEncoding = "gzip")
  · obtain ⟨text, htext, hread⟩ := decodedOf_eq hvalue hformat
    exact ⟨format, text, hformat, htext, hread ▸ hdecoded⟩
  · rw [decodedOf, hbody] at hdecoded
    cases hdecoded

/-! ### JSON -/

theorem member_map (f : ℚ → ℚ) (v : Json) (name : String) : member (v.map f) name = (member v name).map f := by
  cases v with
  | obj members => rw [Json.map_obj, member, member, Json.get_map]
  | arr elements => rw [Json.map_arr]; rfl
  | _ => rfl

theorem isMap_map_iff {f : ℚ → ℚ} : IsMap (v.map f) ↔ IsMap v := by
  unfold IsMap
  cases v with
  | null => exact iff_of_true (.inl rfl) (.inl rfl)
  | obj members => exact iff_of_true (.inr ⟨_, Json.map_obj _ _⟩) (.inr ⟨_, rfl⟩)
  | arr elements =>
    rw [Json.map_arr]
    simp
  | _ => exact iff_of_false (by rintro (h | ⟨_, h⟩) <;> cases h) (by rintro (h | ⟨_, h⟩) <;> cases h)

/-- **The numbers do not matter** for what a secret represents. -/
theorem isRegistrySecret_map_iff {f : ℚ → ℚ} : IsRegistrySecret (v.map f) ↔ IsRegistrySecret v := by
  unfold IsRegistrySecret
  rw [member_map, member_map, member_map, Json.map_eq_str_iff]
  refine and_congr_right fun _ => ⟨?_, ?_⟩
  · rintro ⟨labels, hlabels, hlabel⟩
    obtain ⟨labels', hlabels', rfl⟩ := Json.map_eq_obj hlabels
    rw [lastOf_map, Option.isSome_map] at hlabel
    exact ⟨labels', hlabels', hlabel⟩
  · rintro ⟨labels, hlabels, hlabel⟩
    refine ⟨_, by rw [hlabels, Json.map_obj], ?_⟩
    rwa [lastOf_map, Option.isSome_map]

theorem shaped_map_iff {f : ℚ → ℚ} : Shaped (v.map f) ↔ Shaped v := by
  have hobject : (∃ secret, v.map f = .obj secret) ↔ ∃ secret, v = .obj secret := by
    constructor
    · rintro ⟨secret, h⟩
      obtain ⟨secret', h', -⟩ := Json.map_eq_obj h
      exact ⟨secret', h'⟩
    · rintro ⟨secret, rfl⟩
      exact ⟨_, Json.map_obj _ _⟩
  constructor
  · rintro ⟨hobj, htype, hmetadata⟩
    simp only [member_map, Json.map_eq_str_iff, isMap_map_iff] at htype hmetadata
    exact ⟨hobject.mp hobj, htype, hmetadata⟩
  · rintro ⟨hobj, htype, hmetadata⟩
    refine ⟨hobject.mpr hobj, ?_, ?_⟩
    · simpa only [member_map, Json.map_eq_str_iff] using htype
    · simpa only [member_map, Json.map_eq_str_iff, isMap_map_iff] using hmetadata

theorem itemsOf_map (f : ℚ → ℚ) (v : Json) : itemsOf (v.map f) = (itemsOf v).map (Json.map f) := by
  unfold itemsOf
  rw [member_map]
  cases member v "items" with
  | arr elements => rw [Json.map_arr]
  | obj members => rw [Json.map_obj]; rfl
  | _ => rfl

/-- What `encoding/json` reads is the value with other numbers. -/
theorem json_read_eq_some_iff {text : Text} {w : Json} (htext : text.value = some v) :
    json.read text = some w ↔ (∀ q ∈ v.numbers, (Float64.nearest q).isSome) ∧
      w = v.toFloat64 := by
  change text.value.bind Json.decode = some w ↔ _
  rw [htext, Option.bind_some, Json.decode_eq_some_iff]

theorem lawful_json : json.Lawful where
  secret htext hread hregistry := by
    obtain ⟨-, rfl⟩ := (json_read_eq_some_iff htext).mp hread
    exact isRegistrySecret_map_iff.mp hregistry
  items htext hread item hitem hregistry := by
    obtain ⟨-, rfl⟩ := (json_read_eq_some_iff htext).mp hread
    rw [Json.toFloat64, itemsOf_map] at hitem
    obtain ⟨item', hitem', rfl⟩ := List.mem_map.mp hitem
    exact ⟨item', hitem', isRegistrySecret_map_iff.mp hregistry⟩
  members h := by
    change ((Json.obj (Object.set _ _ _)).map _).meaning = ((Json.obj _).map _).meaning
    rw [Json.map_obj, Json.map_set, Json.map_obj]
    refine Json.meaning_set_self ?_
    rw [lastOf_map, h, Option.map_some]

theorem lawful_of_formatOf (hyaml : yaml.Lawful) {contentType : String} {format : Format}
    (hformat : formatOf yaml contentType = some format) : format.Lawful := by
  unfold formatOf at hformat
  split at hformat
  · rwa [← Option.some.inj hformat]
  · split at hformat
    · rw [← Option.some.inj hformat]
      exact lawful_json
    · cases hformat

theorem isRegistrySecret_of_decoded (hyaml : yaml.Lawful) (hvalue : valueOf header body = some v) {w : Json}
    (hdecoded : decodedOf yaml header body = some w) (hregistry : IsRegistrySecret w) : IsRegistrySecret v := by
  obtain ⟨format, text, hformat, htext, hread⟩ := exists_read hvalue hdecoded
  exact (lawful_of_formatOf hyaml hformat).secret htext hread hregistry

/-! ### Bodies that can be passed on -/

section Passable

variable {secret : Object} {format : Format}

theorem carried_iff {w : Json} (hformat : formatOf yaml header.contentType = some format) :
    Carried yaml header v w ↔ (format.write w).meaning = v.meaning := by
  unfold Carried
  rw [hformat]
  simp only [Option.some.injEq, exists_eq_left']

theorem passable_of_object (hdecoded : decodedOf yaml header body = some (.obj secret))
    (hformat : formatOf yaml header.contentType = some format) :
    Passable yaml header body v ↔ Shaped (.obj secret) ∧
      (IsRegistrySecret v ∨ (format.write (.obj secret)).meaning = v.meaning) := by
  unfold Passable
  rw [hdecoded]
  simp only [Option.some.injEq, forall_eq', exists_eq_left', carried_iff hformat]

theorem passable_of_none (hdecoded : decodedOf yaml header body = none) :
    Passable yaml header body v ↔ IsRegistrySecret v := by
  unfold Passable
  rw [hdecoded]
  simp

theorem passableList_of_object (hdecoded : decodedOf yaml header body = some (.obj secret))
    (hformat : formatOf yaml header.contentType = some format) :
    PassableList yaml header body v ↔ ShapedList (.obj secret) ∧
      ((∀ item ∈ itemsOf v, ¬ IsRegistrySecret item) → (format.write (.obj secret)).meaning = v.meaning) := by
  unfold PassableList
  rw [hdecoded]
  simp only [Option.some.injEq, forall_eq', exists_eq_left', carried_iff hformat]

theorem not_passable {w : Json} (hdecoded : decodedOf yaml header body = some w)
    (hobject : ∀ secret, w ≠ .obj secret) : ¬ Passable yaml header body v := by
  intro h
  obtain ⟨secret, hsecret⟩ := (h.1 w hdecoded).object
  exact hobject secret hsecret

/-- The numbers of a value are in range, and those that count are written as
they were. -/
def Kept (v : Json) : Prop :=
  (∀ q ∈ v.numbers, (Float64.nearest q).isSome) ∧
    ∀ q, v.Counts q → (Float64.nearest q).map Float64.written = some q

/-- A registry secret has the shape of a secret. -/
theorem IsRegistrySecret.shaped (h : IsRegistrySecret v) : Shaped v := by
  obtain ⟨htype, labels, hlabels, -⟩ := h
  refine ⟨?_, ⟨_, htype⟩, fun _ => ⟨?_, .inr ⟨labels, hlabels⟩⟩⟩
  · cases v with
    | obj secret => exact ⟨secret, rfl⟩
    | _ => cases htype
  · cases hmetadata : member v "metadata" with
    | obj metadata => exact .inr ⟨metadata, rfl⟩
    | _ =>
      rw [hmetadata] at hlabels
      cases hlabels

/-- **A JSON body can be passed on** exactly if it is a registry secret, or
has the shape of a secret and numbers that a `float64` keeps. -/
theorem passable_json_iff (hformat : formatOf yaml header.contentType = some json)
    (hvalue : valueOf header body = some v) :
    Passable yaml header body v ↔ IsRegistrySecret v ∨ Shaped v ∧ Kept v := by
  obtain ⟨text, htext, hread⟩ := decodedOf_eq hvalue hformat
  unfold Passable
  simp only [hread, json_read_eq_some_iff htext, carried_iff hformat]
  constructor
  · rintro ⟨hshaped, hregistry | ⟨w, ⟨hrange, rfl⟩, hmeaning⟩⟩
    · exact .inl hregistry
    · exact .inr ⟨shaped_map_iff.mp (hshaped _ ⟨hrange, rfl⟩), hrange, (Json.meaning_encode_iff hrange).mp hmeaning⟩
  · intro h
    refine ⟨?_, h.imp_right fun hkept => ⟨_, ⟨hkept.2.1, rfl⟩, (Json.meaning_encode_iff hkept.2.1).mpr hkept.2.2⟩⟩
    rintro w ⟨-, rfl⟩
    exact shaped_map_iff.mpr (h.elim IsRegistrySecret.shaped And.left)

end Passable

theorem marshal_eq {format : Format} (hformat : formatOf yaml header.contentType = some format) (v : Json) :
    marshal yaml header.contentType v = .ok { value := some (format.write v) } := by
  rw [marshal, hformat]

theorem valueOf_plain (header : Header) (w : Json) :
    valueOf header (some { value := some w }) = if header.contentEncoding = "gzip" then none else some w := by
  unfold valueOf
  by_cases hgzip : header.contentEncoding = "gzip"
  · rw [if_pos hgzip]
    exact if_neg (by simp [hgzip])
  · rw [if_neg hgzip]
    exact if_pos (by simp [hgzip])

/-! ## Operations -/

/-- A request that is passed on is seen by its body only. -/
theorem transparent_execute {request' : Request} (hrequest : request' = { request with body := request'.body }) :
    Transparent cluster request namespaceName (executeKubernetesRequest cluster request') ↔
      request'.value.map Json.meaning = request.value.map Json.meaning := by
  constructor
  · rintro (⟨forwarded, hforwarded, -, hvalue, -⟩ | ⟨text, -, -, hfailed⟩)
    · rw [← Option.some.inj hforwarded] at hvalue
      exact hvalue
    · nomatch congrArg Outcome.forwarded hfailed
  · intro hvalue
    refine .inl ⟨request', rfl, hrequest, hvalue, ?_⟩
    cases hanswer : cluster.roundTrip request' with
    | error text =>
      change outside (cluster.roundTrip request') = _
      rw [hanswer]
      rfl
    | ok answer =>
      refine .inl ⟨answer, ?_, rfl, rfl⟩
      change outside (cluster.roundTrip request') = _
      rw [hanswer]
      rfl

theorem execute_ne_typeAssertion (request' : Request) :
    (executeKubernetesRequest cluster request').answer ≠ .error .typeAssertion := by
  change outside (cluster.roundTrip request') ≠ _
  cases cluster.roundTrip request' with
  | error text => exact fun h => nomatch h
  | ok answer => exact fun h => nomatch h

/-- An operation that forwards nothing is seen, a deletion apart. -/
theorem not_transparent {outcome : Outcome} (hmethod : request.method ≠ "DELETE") (h : outcome.forwarded = none) :
    ¬ Transparent cluster request namespaceName outcome := by
  rintro (⟨forwarded, hforwarded, -⟩ | ⟨text, hdelete, -⟩)
  · rw [h] at hforwarded
    nomatch hforwarded
  · exact hmethod hdelete

theorem writeAccessDeniedResponse_eq (yaml : Format) : ∃ response, writeAccessDeniedResponse yaml = .ok response :=
  ⟨_, rfl⟩

/-- **A creation or an update** with a JSON body. -/
theorem proxySecretWriteOperation_iff (hyaml : yaml.Lawful) (hmethod : request.method ≠ "DELETE") (hvalue : request.value = some v) :
    ((proxySecretWriteOperation yaml cluster request).answer ≠ .error .typeAssertion ∧
      (¬ IsRegistrySecret v →
        Transparent cluster request namespaceName (proxySecretWriteOperation yaml cluster request))) ↔
    Passable yaml request.header request.body v ∧
      (IsRegistrySecret v ∨ request.header.contentEncoding ≠ "gzip") := by
  have hread : ReadAs yaml request.header (decodedOf yaml request.header request.body)
      (getRequestAsMap yaml request) := readAs yaml request.header request.body
  unfold proxySecretWriteOperation
  generalize getRequestAsMap yaml request = body at hread
  cases hread with
  | noObject w hdecoded hobject =>
    exact iff_of_false (fun h => h.1 rfl) fun h => not_passable hdecoded hobject h.1
  | unreadable failure hdecoded hfailure =>
    rw [passable_of_none hdecoded]
    constructor
    · rintro ⟨-, htransparent⟩
      have hregistry : IsRegistrySecret v := by
        by_contra hnot
        exact not_transparent hmethod rfl (htransparent hnot)
      exact ⟨hregistry, .inl hregistry⟩
    · rintro ⟨hregistry, -⟩
      exact ⟨fun h => hfailure (Except.error.inj h), fun hnot => absurd hregistry hnot⟩
  | members secret format hdecoded hformat =>
    dsimp only
    rw [passable_of_object hdecoded hformat]
    have hspec := isSecretRepresentPrivateRegistry_spec secret
    generalize isSecretRepresentPrivateRegistry secret = found at hspec
    cases hspec with
    | misshapen hshaped hregistry => exact iff_of_false (fun h => h.1 rfl) fun h => hshaped h.1.1
    | registry hshaped hregistry =>
      obtain ⟨response, hresponse⟩ := writeAccessDeniedResponse_eq yaml
      dsimp only
      rw [hresponse]
      have hregistry' := isRegistrySecret_of_decoded hyaml hvalue hdecoded hregistry
      exact iff_of_true ⟨fun h => (by cases h), fun hnot => absurd hregistry' hnot⟩
        ⟨⟨hshaped, .inl hregistry'⟩, .inl hregistry'⟩
    | other hshaped hregistry =>
      have hrewrite : rewriteRequest yaml request secret =
          .ok { request with body := some { value := some (format.write (.obj secret)) } } := by
        unfold rewriteRequest
        rw [marshal_eq hformat]
        rfl
      rw [hrewrite]
      dsimp only
      rw [transparent_execute rfl]
      have hforwarded : ({ request with body := some { value := some (format.write (.obj secret)) } } :
          Request).value =
          if request.header.contentEncoding = "gzip" then none else some (format.write (.obj secret)) :=
        valueOf_plain _ _
      rw [hforwarded, hvalue]
      by_cases hregistry' : IsRegistrySecret v
      · exact iff_of_true ⟨execute_ne_typeAssertion _, fun hnot => absurd hregistry' hnot⟩
          ⟨⟨hshaped, .inl hregistry'⟩, .inl hregistry'⟩
      by_cases hgzip : request.header.contentEncoding = "gzip"
      · rw [if_pos hgzip]
        refine iff_of_false (fun h => ?_) fun h => h.2.elim hregistry' fun hnot => hnot hgzip
        have hmeaning := h.2 hregistry'
        cases hmeaning
      · rw [if_neg hgzip]
        constructor
        · rintro ⟨-, hmeaning⟩
          exact ⟨⟨hshaped, .inr (Option.some.inj (hmeaning hregistry'))⟩, .inr hgzip⟩
        · rintro ⟨⟨-, h | hmeaning⟩, -⟩
          · exact absurd h hregistry'
          · exact ⟨execute_ne_typeAssertion _, fun _ => congrArg some hmeaning⟩

/-! ## Answers -/

section Answers

variable {answer : Response}

/-- The answer to a GET, whatever is made of it. -/
theorem transparent_get (hmethod : request.method = "GET") (hanswer : cluster.roundTrip request = .ok answer)
    {isAdmin : Bool} (hadmin : request.isAdmin = .ok isAdmin) {result : Except Failure Response} :
    Transparent cluster request namespaceName { forwarded := some request, answer := result } ↔
      ∃ response, result = .ok response ∧ response.statusCode = answer.statusCode ∧
        response.value.map Json.meaning = answer.value.map Json.meaning := by
  constructor
  · rintro (⟨forwarded, hforwarded, -, -, hresult⟩ | ⟨text, hdelete, -⟩)
    · cases Option.some.inj hforwarded
      rw [hanswer] at hresult
      obtain hresponse | ⟨text, -, herror, -⟩ := hresult
      · exact hresponse
      · rw [hadmin] at herror
        nomatch herror
    · rw [hmethod] at hdelete
      exact absurd hdelete (by decide)
  · intro hresponse
    refine .inl ⟨request, rfl, rfl, rfl, ?_⟩
    rw [hanswer]
    exact .inl hresponse

/-- An error from outside is passed on. -/
theorem transparent_outside (hmethod : request.method = "GET") {text : String} {result : Except Failure Response}
    (herror : cluster.roundTrip request = .error text ∨
      (∃ answer, cluster.roundTrip request = .ok answer) ∧ request.isAdmin = .error text)
    (hresult : result = .error (.error text)) :
    Transparent cluster request namespaceName { forwarded := some request, answer := result } := by
  refine .inl ⟨request, rfl, rfl, rfl, ?_⟩
  obtain herror | ⟨⟨answer, hanswer⟩, herror⟩ := herror
  · rw [herror]
    exact hresult
  · rw [hanswer]
    exact .inr ⟨text, hmethod, herror, hresult⟩

theorem contentType_opened (header : Header) : header.opened.contentType = header.contentType := by
  unfold Header.opened
  split <;> rfl

theorem contentEncoding_opened (header : Header) : header.opened.contentEncoding ≠ "gzip" := by
  unfold Header.opened
  split
  · dsimp only
    decide
  · assumption

/-- **A response that is written again**, of a body that was read. -/
theorem rewriteResponse_eq {format : Format} (hformat : formatOf yaml answer.header.contentType = some format)
    (body : Object) : ∃ response, rewriteResponse yaml { answer with header := answer.header.opened } body
      answer.statusCode = .ok response ∧ response.statusCode = answer.statusCode ∧
      response.value = some (format.write (.obj body)) := by
  have hopened : formatOf yaml ({ answer with header := answer.header.opened } : Response).header.contentType =
      some format := by
    rw [← hformat]
    exact congrArg (formatOf yaml) (contentType_opened _)
  refine ⟨{ answer with
    header := answer.header.opened, body := some { value := some (format.write (.obj body)) } }, ?_, rfl, ?_⟩
  · unfold rewriteResponse
    rw [marshal_eq hopened]
    rfl
  · exact (valueOf_plain _ _).trans (if_neg (contentEncoding_opened _))

/-- **One secret is shown** to a user who is no administrator. -/
theorem proxySecretInspectOperation_iff (hyaml : yaml.Lawful) (hmethod : request.method = "GET")
    (hanswer : cluster.roundTrip request = .ok answer) (hadmin : request.isAdmin = .ok false)
    (hvalue : answer.value = some v) :
    ((proxySecretInspectOperation yaml cluster request).answer ≠ .error .typeAssertion ∧
      (¬ IsRegistrySecret v →
        Transparent cluster request namespaceName (proxySecretInspectOperation yaml cluster request))) ↔
    Passable yaml answer.header answer.body v := by
  have hrun : proxySecretInspectOperation yaml cluster request = {
      forwarded := some request
      answer := (getResponseAsJSONObject yaml answer).bind fun body =>
        (isSecretRepresentPrivateRegistry body).bind fun isRegistry =>
          if isRegistry then writeAccessDeniedResponse yaml
          else rewriteResponse yaml { answer with header := answer.header.opened } body answer.statusCode } := by
    unfold proxySecretInspectOperation
    rw [hanswer, hadmin]
    rfl
  have hread : ReadAs yaml answer.header (decodedOf yaml answer.header answer.body)
      (getResponseAsJSONObject yaml answer) := readAs yaml answer.header answer.body
  rw [hrun, transparent_get hmethod hanswer hadmin, hvalue]
  dsimp only
  generalize getResponseAsJSONObject yaml answer = body at hread
  cases hread with
  | noObject w hdecoded hobject => exact iff_of_false (fun h => h.1 rfl) (not_passable hdecoded hobject)
  | unreadable failure hdecoded hfailure =>
    rw [passable_of_none hdecoded]
    constructor
    · rintro ⟨-, htransparent⟩
      by_contra hnot
      obtain ⟨response, hresponse, -⟩ := htransparent hnot
      cases hresponse
    · exact fun hregistry => ⟨fun h => hfailure (Except.error.inj h), fun hnot => absurd hregistry hnot⟩
  | members secret format hdecoded hformat =>
    rw [passable_of_object hdecoded hformat]
    change ((isSecretRepresentPrivateRegistry secret).bind _ ≠ _ ∧
      (_ → ∃ response, (isSecretRepresentPrivateRegistry secret).bind _ = _ ∧ _)) ↔ _
    have hspec := isSecretRepresentPrivateRegistry_spec secret
    generalize isSecretRepresentPrivateRegistry secret = found at hspec
    cases hspec with
    | misshapen hshaped hregistry => exact iff_of_false (fun h => h.1 rfl) fun h => hshaped h.1
    | registry hshaped hregistry =>
      obtain ⟨response, hresponse⟩ := writeAccessDeniedResponse_eq yaml
      have hregistry' := isRegistrySecret_of_decoded hyaml hvalue hdecoded hregistry
      refine iff_of_true ⟨?_, fun hnot => absurd hregistry' hnot⟩ ⟨hshaped, .inl hregistry'⟩
      change writeAccessDeniedResponse yaml ≠ _
      rw [hresponse]
      exact fun h => (by cases h)
    | other hshaped hregistry =>
      obtain ⟨response, hresponse, hstatus, hwritten⟩ := rewriteResponse_eq hformat secret
      change (rewriteResponse _ _ _ _ ≠ _ ∧ (_ → ∃ response, rewriteResponse _ _ _ _ = _ ∧ _)) ↔ _
      rw [hresponse]
      constructor
      · rintro ⟨-, hsame⟩
        refine ⟨hshaped, or_iff_not_imp_left.mpr fun hnot => ?_⟩
        obtain ⟨response', heq, -, hmeaning⟩ := hsame hnot
        rw [← Except.ok.inj heq, hwritten] at hmeaning
        exact Option.some.inj hmeaning
      · rintro ⟨-, h⟩
        refine ⟨fun h => (by cases h), fun hnot => ⟨response, rfl, hstatus, ?_⟩⟩
        rw [hwritten]
        exact congrArg some (h.resolve_left hnot)

/-- **The secrets are listed** for a user who is no administrator. -/
theorem proxySecretListOperation_iff (hyaml : yaml.Lawful) (hmethod : request.method = "GET")
    (hanswer : cluster.roundTrip request = .ok answer) (hadmin : request.isAdmin = .ok false)
    (hvalue : answer.value = some v) :
    ((proxySecretListOperation yaml cluster request).answer ≠ .error .typeAssertion ∧
      ((∀ item ∈ itemsOf v, ¬ IsRegistrySecret item) →
        Transparent cluster request namespaceName (proxySecretListOperation yaml cluster request))) ↔
    PassableList yaml answer.header answer.body v := by
  have hrun : proxySecretListOperation yaml cluster request = {
      forwarded := some request
      answer := (getResponseAsJSONObject yaml answer).bind fun body =>
        (getArrayObject body "items").bind fun o =>
          o.elim (.ok (rewriteList yaml { answer with header := answer.header.opened } body)) fun items =>
            (filterItems items).bind fun filtered =>
              .ok (rewriteList yaml { answer with header := answer.header.opened }
                (Object.set body "items" (.arr filtered))) } := by
    unfold proxySecretListOperation
    rw [hanswer, hadmin]
    refine congrArg (Outcome.mk (some request)) ?_
    show (getResponseAsJSONObject yaml answer).bind _ = _
    refine congrArg (Except.bind _) (funext fun body => ?_)
    show (getArrayObject body "items").bind _ = _
    refine congrArg (Except.bind _) (funext fun o => ?_)
    cases o with
    | none => rfl
    | some items => rfl
  have hread : ReadAs yaml answer.header (decodedOf yaml answer.header answer.body)
      (getResponseAsJSONObject yaml answer) := readAs yaml answer.header answer.body
  rw [hrun, transparent_get hmethod hanswer hadmin, hvalue]
  dsimp only
  generalize getResponseAsJSONObject yaml answer = body at hread
  cases hread with
  | noObject w hdecoded hobject =>
    refine iff_of_false (fun h => h.1 rfl) fun h => ?_
    obtain ⟨body, hbody⟩ := (h.1 w hdecoded).object
    exact hobject body hbody
  | unreadable failure hdecoded hfailure =>
    constructor
    · rintro ⟨-, htransparent⟩
      refine ⟨fun w h => ?_, fun hitems => ?_⟩
      · rw [hdecoded] at h
        cases h
      · obtain ⟨response, hresponse, -⟩ := htransparent hitems
        cases hresponse
    · rintro ⟨-, hcarried⟩
      refine ⟨fun h => hfailure (Except.error.inj h), fun hitems => ?_⟩
      obtain ⟨w, h, -⟩ := hcarried hitems
      rw [hdecoded] at h
      cases h
  | members secret format hdecoded hformat =>
    rw [passableList_of_object hdecoded hformat]
    -- the response that is written, of a body that is encoded alike
    have hwritten : ∀ body : Object, (format.write (.obj body)).meaning = (format.write (.obj secret)).meaning →
        ((format.write (.obj secret)).meaning = v.meaning ↔ ∃ response,
          (Except.ok (rewriteList yaml { answer with header := answer.header.opened } body) : Except Failure _) =
              .ok response ∧
            response.statusCode = answer.statusCode ∧
            response.value.map Json.meaning = (some v).map Json.meaning) := by
      intro body hbody
      obtain ⟨response, hresponse, hstatus, hvalue'⟩ := rewriteResponse_eq hformat body
      have hlist : rewriteList yaml { answer with header := answer.header.opened } body = response := by
        unfold rewriteList
        dsimp only
        rw [hresponse]
      rw [hlist, ← hbody]
      constructor
      · intro hmeaning
        refine ⟨response, rfl, hstatus, ?_⟩
        rw [hvalue']
        exact congrArg some hmeaning
      · rintro ⟨response', heq, -, hmeaning⟩
        rw [← Except.ok.inj heq, hvalue'] at hmeaning
        exact Option.some.inj hmeaning
    change ((getArrayObject secret "items").bind _ ≠ _ ∧
      (_ → ∃ response, (getArrayObject secret "items").bind _ = _ ∧ _)) ↔ _
    cases hitems : Object.get secret "items" with
    | null =>
      have hnone : getArrayObject secret "items" = .ok none := by rw [getArrayObject, hitems]
      have hshaped : ShapedList (.obj secret) := by
        refine ⟨⟨secret, rfl⟩, .inl hitems, ?_⟩
        rw [itemsOf, member, hitems]
        exact fun item h => absurd h List.not_mem_nil
      rw [hnone]
      have hbody := hwritten secret rfl
      constructor
      · rintro ⟨-, hsame⟩
        exact ⟨hshaped, fun h => hbody.mpr (hsame h)⟩
      · rintro ⟨-, hcarried⟩
        exact ⟨fun h => (by cases h), fun h => hbody.mp (hcarried h)⟩
    | arr items =>
      have hsome : getArrayObject secret "items" = .ok (some items) := by rw [getArrayObject, hitems]
      have hof : itemsOf (.obj secret) = items := by rw [itemsOf, member, hitems]
      have hlast : lastOf secret "items" = some (.arr items) := by
        unfold Object.get at hitems
        cases hlast : lastOf secret "items" with
        | none =>
          rw [hlast] at hitems
          cases hitems
        | some items' =>
          rw [hlast] at hitems
          exact congrArg some hitems
      obtain ⟨format', text, hformat', htext, hread⟩ := exists_read hvalue hdecoded
      have hlawful : format'.Lawful := lawful_of_formatOf hyaml hformat'
      rw [hformat, Option.some.injEq] at hformat'
      subst hformat'
      rw [hsome]
      change ((filterItems items).bind _ ≠ _ ∧ (_ → ∃ response, (filterItems items).bind _ = _ ∧ _)) ↔ _
      obtain ⟨hshaped, filtered, hfiltered, hsame⟩ | ⟨hshaped, hfails⟩ := filterItems_spec items
      · rw [hfiltered]
        have hlist : ShapedList (.obj secret) := by
          refine ⟨⟨secret, rfl⟩, .inr ⟨items, hitems⟩, ?_⟩
          rwa [hof]
        by_cases hnone : ∀ item ∈ itemsOf v, ¬ IsRegistrySecret item
        · have hitems' : ∀ item ∈ items, ¬ IsRegistrySecret item := by
            intro item hitem hregistry
            rw [← hof] at hitem
            obtain ⟨item', hitem', hregistry'⟩ := hlawful.items htext hread item hitem hregistry
            exact hnone item' hitem' hregistry'
          rw [hsame hitems']
          have hbody := hwritten _ (hlawful.members hlast)
          constructor
          · rintro ⟨-, hsame⟩
            exact ⟨hlist, fun h => hbody.mpr (hsame h)⟩
          · rintro ⟨-, hcarried⟩
            exact ⟨fun h => (by cases h), fun h => hbody.mp (hcarried h)⟩
        · exact iff_of_true ⟨fun h => (by cases h), fun h => absurd h hnone⟩ ⟨hlist, fun h => absurd h hnone⟩
      · rw [hfails]
        refine iff_of_false (fun h => h.1 rfl) fun h => hshaped ?_
        have hitems' := h.1.shaped
        rwa [hof] at hitems'
    | _ =>
      have hfails : getArrayObject secret "items" = .error .typeAssertion := by rw [getArrayObject, hitems]
      rw [hfails]
      refine iff_of_false (fun h => h.1 rfl) fun h => ?_
      have hlist := h.1.items
      rw [member, hitems] at hlist
      obtain hnull | ⟨items, harr⟩ := hlist
      · cases hnull
      · cases harr

end Answers

/-! ## Deletion -/

/-- What the client says of a secret, and what becomes of its deletion. -/
theorem proxySecretDeleteOperation_eq (hclient : cluster.kubeClient = .ok ()) {isRegistry : Bool}
    (hlookup : cluster.isRegistrySecret namespaceName (secretName request.requestURI) = .ok isRegistry) :
    proxySecretDeleteOperation yaml cluster request namespaceName =
      if isRegistry then { answer := writeAccessDeniedResponse yaml } else executeKubernetesRequest cluster request := by
  unfold proxySecretDeleteOperation
  rw [hclient, hlookup]
  cases isRegistry <;> rfl

theorem isRegistrySecret_eq {stored : Option StoredSecret} {name : String}
    (hsecret : cluster.secret namespaceName name = .ok stored) :
    cluster.isRegistrySecret namespaceName name = .ok (stored.any (·.type = secretTypeDockerConfigJson)) := by
  unfold Cluster.isRegistrySecret
  rw [hsecret]
  cases stored <;> rfl

/-- **A deletion** is forwarded unless the secret that is looked up has the
type of a registry's. -/
theorem proxySecretDeleteOperation_iff (hmethod : request.method = "DELETE") {concerned : Prop} :
    ((proxySecretDeleteOperation yaml cluster request namespaceName).answer ≠ .error .typeAssertion ∧
      (¬ concerned → Transparent cluster request namespaceName
        (proxySecretDeleteOperation yaml cluster request namespaceName))) ↔
    ∀ secret, cluster.kubeClient = .ok () →
      cluster.secret namespaceName (secretName request.requestURI) = .ok (some secret) →
      secret.type = secretTypeDockerConfigJson → concerned := by
  cases hclient : cluster.kubeClient with
  | error text =>
    have hfailed : proxySecretDeleteOperation yaml cluster request namespaceName =
        { answer := .error (.error text) } := by
      unfold proxySecretDeleteOperation
      rw [hclient]
      rfl
    rw [hfailed]
    refine iff_of_true ⟨fun h => (nomatch h), fun _ => .inr ⟨text, hmethod, .inl hclient, rfl⟩⟩ ?_
    exact fun secret h => (nomatch h)
  | ok client =>
    cases hsecret : cluster.secret namespaceName (secretName request.requestURI) with
    | error text =>
      have hfailed : proxySecretDeleteOperation yaml cluster request namespaceName =
          { answer := .error (.error text) } := by
        unfold proxySecretDeleteOperation Cluster.isRegistrySecret
        rw [hclient, hsecret]
        rfl
      rw [hfailed]
      refine iff_of_true ⟨fun h => (nomatch h), fun _ => .inr ⟨text, hmethod, .inr hsecret, rfl⟩⟩ ?_
      exact fun secret _ h => (nomatch h)
    | ok stored =>
      rw [proxySecretDeleteOperation_eq hclient (isRegistrySecret_eq hsecret)]
      by_cases hregistry : stored.any (·.type = secretTypeDockerConfigJson) = true
      · rw [if_pos hregistry]
        obtain ⟨secret, rfl, htype⟩ : ∃ secret, stored = some secret ∧
            decide (secret.type = secretTypeDockerConfigJson) = true := by
          cases stored with
          | none => nomatch hregistry
          | some secret => exact ⟨secret, rfl, hregistry⟩
        obtain ⟨response, hresponse⟩ := writeAccessDeniedResponse_eq yaml
        rw [hresponse]
        constructor
        · rintro ⟨-, htransparent⟩ _ _ _ _
          by_contra hnot
          obtain ⟨forwarded, hforwarded, -⟩ | ⟨text, -, -, hfailed⟩ := htransparent hnot
          · nomatch hforwarded
          · nomatch congrArg Outcome.answer hfailed
        · intro hall
          exact ⟨fun h => (nomatch h), fun hnot => absurd (hall secret rfl rfl (of_decide_eq_true htype)) hnot⟩
      · rw [if_neg hregistry]
        refine iff_of_true ⟨execute_ne_typeAssertion _, fun _ => (transparent_execute rfl).mpr rfl⟩ ?_
        intro secret _ hstored htype
        rw [Except.ok.inj hstored] at hregistry
        exact absurd (decide_eq_true htype) hregistry

/-! ## Main result -/

/-- **A GET**: what a user who is no administrator is shown. -/
theorem handles_get_iff (hyaml : yaml.Lawful) (hmethod : request.method = "GET")
    (hanswers : ∀ r answer, cluster.roundTrip r = .ok answer → ∃ v, answer.value = some v) :
    Handles yaml cluster request namespaceName requestPath ↔
      Expected yaml cluster request namespaceName requestPath := by
  have hrun : proxySecretRequest yaml cluster request namespaceName requestPath =
      if AsksForList requestPath then proxySecretListOperation yaml cluster request
      else proxySecretInspectOperation yaml cluster request := by
    unfold proxySecretRequest
    simp only [hmethod]
    rfl
  have houtside : ∀ result : Except Failure Response, (∀ failure, result = .error failure → failure ≠ .typeAssertion) →
      proxySecretRequest yaml cluster request namespaceName requestPath =
        { forwarded := some request, answer := result } →
      Transparent cluster request namespaceName { forwarded := some request, answer := result } →
      Expected yaml cluster request namespaceName requestPath →
      (Handles yaml cluster request namespaceName requestPath ↔
        Expected yaml cluster request namespaceName requestPath) := by
    intro result hresult heq htransparent hexpected
    refine iff_of_true ⟨?_, fun _ => ?_⟩ hexpected
    · rw [heq]
      exact fun h => hresult _ h rfl
    · rw [heq]
      exact htransparent
  have hexpects : (request.isAdmin = .ok false → ∀ answer, cluster.roundTrip request ≠ .ok answer) →
      Expected yaml cluster request namespaceName requestPath := by
    intro hnot
    unfold Expected
    simp only [hmethod]
    exact fun hadmin answer v hanswer => absurd hanswer (hnot hadmin answer)
  cases hanswer : cluster.roundTrip request with
  | error text =>
    refine houtside (.error (.error text)) ?_ ?_ (transparent_outside hmethod (.inl hanswer) rfl) ?_
    · rintro failure ⟨⟩
      exact fun h => (by cases h)
    · rw [hrun]
      unfold proxySecretListOperation proxySecretInspectOperation
      rw [hanswer]
      split <;> rfl
    · refine hexpects fun _ answer h => ?_
      rw [hanswer] at h
      cases h
  | ok answer =>
    obtain ⟨v, hvalue⟩ := hanswers request answer hanswer
    cases hadmin : request.isAdmin with
    | error text =>
      refine houtside (.error (.error text)) ?_ ?_
        (transparent_outside hmethod (.inr ⟨⟨answer, hanswer⟩, hadmin⟩) rfl) ?_
      · rintro failure ⟨⟩
        exact fun h => (by cases h)
      · rw [hrun]
        unfold proxySecretListOperation proxySecretInspectOperation
        rw [hanswer, hadmin]
        split <;> rfl
      · refine hexpects fun h => ?_
        rw [hadmin] at h
        cases h
    | ok isAdmin =>
      cases isAdmin with
      | true =>
        refine houtside (.ok answer) (fun failure h => (by cases h)) ?_
          ((transparent_get hmethod hanswer hadmin).mpr ⟨answer, rfl, rfl, rfl⟩) ?_
        · rw [hrun]
          unfold proxySecretListOperation proxySecretInspectOperation
          rw [hanswer, hadmin]
          split <;> rfl
        · refine hexpects fun h => ?_
          rw [hadmin] at h
          cases h
      | false =>
        have hconcerned : Concerned cluster request namespaceName requestPath ↔
            (AsksForList requestPath → ∃ item ∈ itemsOf v, IsRegistrySecret item) ∧
              (¬ AsksForList requestPath → IsRegistrySecret v) := by
          unfold Concerned
          simp only [hmethod, hanswer, Except.ok.injEq, exists_and_left, exists_eq_left', hvalue, Option.some.injEq]
        have hexpected : Expected yaml cluster request namespaceName requestPath ↔
            (AsksForList requestPath → PassableList yaml answer.header answer.body v) ∧
            (¬ AsksForList requestPath → Passable yaml answer.header answer.body v) := by
          unfold Expected
          simp only [hmethod, hadmin, hanswer, Except.ok.injEq, forall_const]
          constructor
          · exact fun h => h answer v rfl hvalue
          · rintro h _ v' rfl hvalue'
            rw [hvalue, Option.some.injEq] at hvalue'
            rwa [← hvalue']
        unfold Handles
        rw [hconcerned, hexpected, hrun]
        by_cases hlist : AsksForList requestPath
        · simp only [hlist, if_true, forall_const, not_true_eq_false, false_imp_iff, and_true, not_exists, not_and]
          exact proxySecretListOperation_iff hyaml hmethod hanswer hadmin hvalue
        · simp only [hlist, if_false, not_false_eq_true, forall_const, false_imp_iff, true_and]
          exact proxySecretInspectOperation_iff hyaml hmethod hanswer hadmin hvalue

/-- **The proxy of secrets.** For every request with a JSON body, where it
has to have one, and every API server that answers in JSON: the request is
handled exactly if the bodies that the proxy looks at are as it expects. -/
theorem proxySecretRequest_iff (hyaml : yaml.Lawful)
    (hbody : request.method = "POST" ∨ request.method = "PUT" → ∃ v, request.value = some v)
    (hanswers : ∀ r answer, cluster.roundTrip r = .ok answer → ∃ v, answer.value = some v) :
    Handles yaml cluster request namespaceName requestPath ↔
      Expected yaml cluster request namespaceName requestPath := by
  have hwrite : request.method = "POST" ∨ request.method = "PUT" →
      (((proxySecretWriteOperation yaml cluster request).answer ≠ .error .typeAssertion ∧
        (¬ (∃ v, request.value = some v ∧ IsRegistrySecret v) →
          Transparent cluster request namespaceName (proxySecretWriteOperation yaml cluster request))) ↔
      ∀ v, request.value = some v → Passable yaml request.header request.body v ∧
        (IsRegistrySecret v ∨ request.header.contentEncoding ≠ "gzip")) := by
    intro hmethod
    obtain ⟨v, hvalue⟩ := hbody hmethod
    have hdelete : request.method ≠ "DELETE" := by
      obtain hmethod | hmethod := hmethod <;> rw [hmethod] <;> decide
    simp only [hvalue, Option.some.injEq, exists_eq_left', forall_eq']
    exact proxySecretWriteOperation_iff hyaml hdelete hvalue
  by_cases hpost : request.method = "POST"
  · unfold Handles Expected Concerned proxySecretRequest
    simp only [hpost]
    exact hwrite (.inl hpost)
  by_cases hput : request.method = "PUT"
  · unfold Handles Expected Concerned proxySecretRequest
    simp only [hput]
    exact hwrite (.inr hput)
  by_cases hdelete : request.method = "DELETE"
  · unfold Handles Expected Concerned proxySecretRequest
    simp only [hdelete]
    exact proxySecretDeleteOperation_iff hdelete
  by_cases hget : request.method = "GET"
  · exact handles_get_iff hyaml hget hanswers
  · have hother : proxySecretRequest yaml cluster request namespaceName requestPath =
        executeKubernetesRequest cluster request := by
      unfold proxySecretRequest
      split <;> first | contradiction | rfl
    have hexpected : Expected yaml cluster request namespaceName requestPath := by
      unfold Expected
      split <;> first | contradiction | trivial
    refine iff_of_true ?_ hexpected
    unfold Handles
    rw [hother]
    exact ⟨execute_ne_typeAssertion _, fun _ => (transparent_execute rfl).mpr rfl⟩

/-- A format that keeps every value. -/
def exact : Format where
  read text := text.value
  write v := v

theorem lawful_exact : exact.Lawful where
  secret htext hread hregistry := by
    obtain rfl := Option.some.inj (htext.symm.trans hread)
    exact hregistry
  items htext hread item hitem hregistry := by
    obtain rfl := Option.some.inj (htext.symm.trans hread)
    exact ⟨item, hitem, hregistry⟩
  members h := Json.meaning_set_self h

/-- An API server that gives one answer, and a cluster without secrets. -/
def answersWith (statusCode : ℕ) (v : Json) : Cluster where
  roundTrip := fun _ => .ok { statusCode := statusCode, body := some { value := some v } }
  secret := fun _ _ => .ok none

/-- A request of a user who is no administrator. -/
def sends (method : String) (v : Json) : Request where
  method := method
  requestURI := "/api/v1/namespaces/default/secrets".toList
  header := { contentType := "application/json" }
  body := some { value := some v }
  isAdmin := .ok false

/-- A secret with a type, as it is created. -/
def typedSecret : Json :=
  .obj [("kind", .str "Secret"), ("metadata", .obj [("name", .str "token"), ("annotations", .null)]),
    ("type", .str "Opaque"), ("data", .obj [("key", .str "dmFsdWU=")])]

/-- The creation of a secret with a type is handled. -/
theorem proxySecretRequest_iff_typed :
    Handles exact (answersWith 201 typedSecret) (sends "POST" typedSecret) "default" "secrets".toList := by
  refine (proxySecretRequest_iff lawful_exact (fun _ => ⟨_, rfl⟩) ?_).mpr ?_
  · rintro r answer ⟨⟩
    exact ⟨_, rfl⟩
  · intro v hvalue
    obtain rfl : typedSecret = v := Option.some.inj hvalue
    refine ⟨(passable_json_iff rfl hvalue).mpr (.inr ⟨⟨⟨_, rfl⟩, ⟨_, rfl⟩, fun h => ?_⟩, ?_, ?_⟩), .inr (by decide)⟩
    · exact absurd (Json.str.inj h) (by decide)
    · exact fun q h => absurd h List.not_mem_nil
    · exact fun q h => absurd (Json.mem_numbers h) List.not_mem_nil

/-- **A secret without a type** is a panic, and so is an error of the API
server that is shown to a user who is no administrator. -/
theorem untyped_secret_panics :
    ¬ Handles exact (answersWith 201 .null) (sends "POST" (.obj [("kind", .str "Secret")])) "default"
      "secrets".toList ∧
    ¬ Handles exact (answersWith 404 (.obj [("kind", .str "Status")])) (sends "GET" .null) "default"
      "secrets/absent".toList :=
  ⟨fun h => h.1 rfl, fun h => h.1 rfl⟩

end SecretProxy

end Portainer
