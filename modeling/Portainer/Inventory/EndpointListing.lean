import Portainer.Inventory.Matching
import Portainer.Inventory.Model.EndpointList
/-!
# The list of endpoints — what is counted and what is paged

`Selected` says which endpoints a listing is of: those the user may access
that satisfy every filter. The header counts them and the pages show them,
one after the other, unless the request panics: on the group of an endpoint
that is not there, or on the bounds of a page. `endpointList_iff` says
exactly when it does not.
-/

namespace Portainer

open Std
open Action (Returns)
open HandlerError (internalServerError)
open Paging (maxInt minInt wrap slice window)

namespace Inventory

variable {listing : Listing} {s : Server} {context : RestrictedRequestContext} {query : EndpointListQuery}
variable {endpoint : Endpoint} {endpoints : List Endpoint} {search : String}

/-! ## What is listed -/

/-- The user may access the endpoint: as an administrator, through its
group, or by the policies of its own. -/
def MayAccess (s : Server) (context : RestrictedRequestContext) (endpoint : Endpoint) : Prop :=
  context.isAdmin = true ∨
  (∃ group, s.dataStore.endpointGroup.get? endpoint.groupID = some group ∧
    authorizedAccess context.userID context.userMemberships group.userAccessPolicies
      group.teamAccessPolicies = true) ∨
  authorizedAccess context.userID context.userMemberships endpoint.userAccessPolicies
    endpoint.teamAccessPolicies = true

/-- The search finds the endpoint: by its name, its URL, its status, the
name of its group, or a tag of either. -/
def Found (listing : Listing) (s : Server) (search : String) (endpoint : Endpoint) : Prop :=
  listing.contains endpoint.name search = true ∨ listing.contains endpoint.url search = true ∨
  (endpoint.status = .up ∧ search = "up") ∨ (endpoint.status = .down ∧ search = "down") ∨
  (∃ group, s.dataStore.endpointGroup.get? endpoint.groupID = some group ∧
    listing.contains group.name search = true) ∨
  ∃ t ∈ endpointTags endpoint (associatedGroup endpoint s.dataStore.endpointGroup.all),
    ∃ tag, s.dataStore.tag.get? t = some tag ∧ listing.contains tag.name search = true

/-- The endpoint satisfies every filter that is given. -/
structure Satisfies (listing : Listing) (s : Server) (query : EndpointListQuery) (endpoint : Endpoint) :
    Prop where
  ids : ∀ ids, query.endpointIDs = some ids → endpoint.id ∈ ids
  group : retrieveNumericQueryParameter query.groupID ≠ 0 →
    endpoint.groupID = retrieveNumericQueryParameter query.groupID
  search : query.search ≠ "" → Found listing s (listing.toLower query.search) endpoint
  types : ∀ types, query.types = some types → EndpointType.number endpoint.type ∈ types
  tags : ∀ tagIDs, query.tagIDs = some tagIDs → Matches tagIDs query.tagsPartialMatch
    (endpointTags endpoint (associatedGroup endpoint s.dataStore.endpointGroup.all))

/-- **What the listing is of**, in the order of the store. -/
noncomputable def selected (listing : Listing) (s : Server) (context : RestrictedRequestContext)
    (query : EndpointListQuery) : List Endpoint :=
  open scoped Classical in
  s.dataStore.endpoint.all.filter fun endpoint =>
    MayAccess s context endpoint ∧ Satisfies listing s query endpoint

/-- Where the page starts: the parameter counts from one. -/
def startIndex (query : EndpointListQuery) : Int :=
  let start := retrieveNumericQueryParameter query.start
  if start ≠ 0 then wrap (start - 1) else start

/-- The page that the parameters ask for. -/
def requestedPage (query : EndpointListQuery) (endpoints : List Endpoint) : List Endpoint :=
  let limit := retrieveNumericQueryParameter query.limit
  if limit = 0 then endpoints else window (startIndex query).toNat limit.toNat endpoints

/-- **The request is answered**, whatever calls fail: it does not panic, and
where there is a list it comes with the count of all, and is the page of
those selected. -/
def Answers (listing : Listing) (s : Server) (context : RestrictedRequestContext)
    (query : EndpointListQuery) : Prop :=
  ∀ w r w', w.store = s → (endpointList listing context query).run w = (.ok r, w') →
    ∃ response, r = .ok response ∧ response.totalCount = (selected listing s context query).length ∧
      response.endpoints = (requestedPage query (selected listing s context query)).map
        (listing.listed s.dataStore.settings)

/-- The answer to a request, when no call fails. -/
def Shows (listing : Listing) (s : Server) (context : RestrictedRequestContext) (query : EndpointListQuery)
    (endpoints : List ListedEndpoint) : Prop :=
  ∃ response, (endpointList listing context query).run (.faultless s) = (.ok (.ok response), .faultless s) ∧
    response.endpoints = endpoints

/-- **A request without panic**: the group of every endpoint is there if it
is looked at, and the bounds of the page are in order and in range. -/
structure Safe (listing : Listing) (s : Server) (context : RestrictedRequestContext)
    (query : EndpointListQuery) : Prop where
  groups : context.isAdmin = true ∨
    ∀ endpoint ∈ s.dataStore.endpoint.all, (s.dataStore.endpointGroup.get? endpoint.groupID).isSome
  bounds : retrieveNumericQueryParameter query.limit = 0 ∨
    0 ≤ startIndex query ∧ 0 < retrieveNumericQueryParameter query.limit ∧
      min (startIndex query) (selected listing s context query).length +
        retrieveNumericQueryParameter query.limit ≤ maxInt

/-! ## Access -/

theorem getAssociatedGroup_eq : getAssociatedGroup endpoint s.dataStore.endpointGroup.all =
    s.dataStore.endpointGroup.get? endpoint.groupID :=
  Bucket.find?_all

/-- The loop of the filter stops at a group that is not there. -/
theorem filterAuthorized_eq_none : filterAuthorized s.dataStore.endpointGroup.all context endpoints = none ↔
    ¬ ∀ endpoint ∈ endpoints, (s.dataStore.endpointGroup.get? endpoint.groupID).isSome := by
  induction endpoints with
  | nil => exact iff_of_false (Option.some_ne_none _) fun h => h fun endpoint he => absurd he List.not_mem_nil
  | cons endpoint endpoints ih =>
    rw [List.forall_mem_cons, filterAuthorized, getAssociatedGroup_eq]
    cases hgroup : s.dataStore.endpointGroup.get? endpoint.groupID with
    | none => exact iff_of_true rfl fun h => Bool.false_ne_true h.1
    | some group =>
      have hhead : (some group).isSome = true := rfl
      rw [Option.map_eq_none_iff, ih, and_iff_right hhead]

theorem mayAccess_iff {group : EndpointGroup} (hadmin : context.isAdmin = false)
    (hgroup : s.dataStore.endpointGroup.get? endpoint.groupID = some group) :
    MayAccess s context endpoint ↔
      authorizedEndpointAccess endpoint group context.userID context.userMemberships = true := by
  unfold MayAccess authorizedEndpointAccess
  rw [hadmin, hgroup, Bool.or_eq_true, or_iff_right Bool.false_ne_true]
  refine or_congr_left ?_
  constructor
  · rintro ⟨g, hg, hauth⟩
    rwa [← Option.some.inj hg] at hauth
  · intro hauth
    exact ⟨group, rfl, hauth⟩

open scoped Classical in
/-- **The filter of the user** keeps what they may access, if the groups
are there. -/
theorem filterEndpoints_eq : filterEndpoints s.dataStore.endpoint.all s.dataStore.endpointGroup.all context =
    if context.isAdmin = true ∨
        ∀ endpoint ∈ s.dataStore.endpoint.all, (s.dataStore.endpointGroup.get? endpoint.groupID).isSome
    then some (s.dataStore.endpoint.all.filter (MayAccess s context ·)) else none := by
  unfold filterEndpoints
  cases hadmin : context.isAdmin with
  | true =>
    rw [if_pos rfl, if_pos (.inl rfl), List.filter_eq_self.mpr]
    intro endpoint _
    exact decide_eq_true (.inl hadmin)
  | false =>
    rw [if_neg Bool.false_ne_true]
    by_cases hthere : ∀ endpoint ∈ s.dataStore.endpoint.all,
        (s.dataStore.endpointGroup.get? endpoint.groupID).isSome
    · rw [if_pos (.inr hthere)]
      refine filterAuthorized_eq _ fun endpoint he => ?_
      obtain ⟨group, hgroup⟩ := Option.isSome_iff_exists.mp (hthere endpoint he)
      refine ⟨group, getAssociatedGroup_eq.trans hgroup, ?_⟩
      rw [Bool.eq_iff_iff, decide_eq_true_iff]
      exact mayAccess_iff hadmin hgroup
    · rw [if_neg (not_or.mpr ⟨Bool.false_ne_true, hthere⟩)]
      exact filterAuthorized_eq_none.mpr hthere

/-! ## The search -/

theorem toLower_eq_empty {t : String} : listing.toLower t = "" ↔ t = "" := by
  unfold Listing.toLower
  rw [← String.toList_inj, ← String.toList_inj, String.toList_map]
  exact List.map_eq_nil_iff

/-- Nothing is found in an empty text. -/
theorem contains_empty (hsearch : search ≠ "") : listing.contains "" search = false := by
  unfold Listing.contains
  rw [toLower_eq_empty.mpr rfl, decide_eq_false_iff_not]
  intro hinfix
  exact hsearch (String.toList_inj.mp (List.infix_nil.mp hinfix))

/-- The names of the tags. -/
theorem getElem?_tagsMap {t : TagID} :
    (Loop.tabulate Tag.id (fun tag => some tag.name) s.dataStore.tag.all)[t]? =
      (s.dataStore.tag.get? t).map Tag.name := by
  cases hget : s.dataStore.tag.get? t with
  | none =>
    refine Loop.getElem?_tabulate_of_notMem fun tag htag hid => ?_
    have hstored := Bucket.mem_all.mp htag
    have hkey : key tag = t := hid
    rw [hkey, hget] at hstored
    nomatch hstored
  | some tag =>
    have hkey : tag.id = t := Bucket.key_of_get? hget
    have hnodup : (s.dataStore.tag.all.map Tag.id).Nodup := Bucket.nodup_keys_all s.dataStore.tag
    rw [← hkey]
    exact Loop.getElem?_tabulate hnodup (Bucket.mem_all_of_get? hget)

/-- A list of tags is searched for those that are there. -/
theorem any_convertTagIDsToTags (hsearch : search ≠ "") {tagIDs : List TagID} :
    (convertTagIDsToTags (Loop.tabulate Tag.id (fun tag => some tag.name) s.dataStore.tag.all) tagIDs).any
        (listing.contains · search) = true ↔
      ∃ t ∈ tagIDs, ∃ tag, s.dataStore.tag.get? t = some tag ∧ listing.contains tag.name search = true := by
  rw [convertTagIDsToTags, List.any_map, List.any_eq_true]
  refine exists_congr fun t => and_congr_right fun _ => ?_
  rw [Function.comp_apply, getElem?_tagsMap]
  cases hget : s.dataStore.tag.get? t with
  | none =>
    rw [Option.map_none, Option.getD_none, contains_empty hsearch]
    exact iff_of_false Bool.false_ne_true fun ⟨_, htag, _⟩ => nomatch htag
  | some tag =>
    rw [Option.map_some, Option.getD_some]
    constructor
    · intro hfound
      exact ⟨tag, rfl, hfound⟩
    · rintro ⟨tag', htag, hfound⟩
      rwa [Option.some.inj htag]

/-- The tags of the store, as they are read. -/
abbrev tagNames (s : Server) : ExtTreeMap TagID String :=
  Loop.tabulate Tag.id (fun tag => some tag.name) s.dataStore.tag.all

theorem endpointMatchSearchCriteria_iff (hsearch : search ≠ "") :
    listing.endpointMatchSearchCriteria endpoint (convertTagIDsToTags (tagNames s) endpoint.tagIDs) search =
      true ↔
    listing.contains endpoint.name search = true ∨ listing.contains endpoint.url search = true ∨
    (endpoint.status = .up ∧ search = "up") ∨ (endpoint.status = .down ∧ search = "down") ∨
    ∃ t ∈ endpoint.tagIDs, ∃ tag, s.dataStore.tag.get? t = some tag ∧
      listing.contains tag.name search = true := by
  unfold Listing.endpointMatchSearchCriteria
  simp only [Bool.or_eq_true, Bool.and_eq_true, decide_eq_true_iff, any_convertTagIDsToTags hsearch, or_assoc]

/-- The loop over the groups looks at the one of the endpoint. -/
theorem any_group {P : EndpointGroup → Bool} :
    (s.dataStore.endpointGroup.all.any fun group => group.id = endpoint.groupID && P group) = true ↔
      ∃ group, s.dataStore.endpointGroup.get? endpoint.groupID = some group ∧ P group = true := by
  rw [List.any_eq_true]
  constructor
  · rintro ⟨group, hmem, hP⟩
    obtain ⟨hid, hP⟩ := Bool.and_eq_true_iff.mp hP
    have hid : key group = endpoint.groupID := of_decide_eq_true hid
    exact ⟨group, hid ▸ Bucket.mem_all.mp hmem, hP⟩
  · rintro ⟨group, hget, hP⟩
    have hid : group.id = endpoint.groupID := Bucket.key_of_get? hget
    exact ⟨group, Bucket.mem_all_of_get? hget, Bool.and_eq_true_iff.mpr ⟨decide_eq_true hid, hP⟩⟩

theorem endpointGroupMatchSearchCriteria_iff (hsearch : search ≠ "") :
    listing.endpointGroupMatchSearchCriteria endpoint s.dataStore.endpointGroup.all (tagNames s) search =
      true ↔
    (∃ group, s.dataStore.endpointGroup.get? endpoint.groupID = some group ∧
      listing.contains group.name search = true) ∨
    ∃ group, s.dataStore.endpointGroup.get? endpoint.groupID = some group ∧
      ∃ t ∈ group.tagIDs, ∃ tag, s.dataStore.tag.get? t = some tag ∧
        listing.contains tag.name search = true := by
  refine any_group.trans ?_
  simp only [Bool.or_eq_true, any_convertTagIDsToTags hsearch, and_or_left, exists_or]

/-- A tag of an endpoint is its own, or one of its group. -/
theorem exists_mem_endpointTags {P : TagID → Prop} :
    (∃ t ∈ endpointTags endpoint (associatedGroup endpoint s.dataStore.endpointGroup.all), P t) ↔
      (∃ t ∈ endpoint.tagIDs, P t) ∨
      ∃ group, s.dataStore.endpointGroup.get? endpoint.groupID = some group ∧ ∃ t ∈ group.tagIDs, P t := by
  simp only [endpointTags, Finset.mem_union, List.mem_toFinset, or_and_right, exists_or, associatedGroup_eq]
  refine or_congr_right ?_
  cases hget : s.dataStore.endpointGroup.get? endpoint.groupID with
  | none => simp
  | some group => simp

/-- **The search criteria** are those of `Found`. -/
theorem matchSearchCriteria_iff (hsearch : search ≠ "") :
    (listing.endpointMatchSearchCriteria endpoint (convertTagIDsToTags (tagNames s) endpoint.tagIDs) search ||
      listing.endpointGroupMatchSearchCriteria endpoint s.dataStore.endpointGroup.all (tagNames s) search) =
        true ↔ Found listing s search endpoint := by
  rw [Bool.or_eq_true, endpointMatchSearchCriteria_iff hsearch, endpointGroupMatchSearchCriteria_iff hsearch,
    Found, exists_mem_endpointTags, or_assoc, or_assoc, or_assoc, or_assoc]
  exact or_congr_right (or_congr_right (or_congr_right (or_congr_right or_left_comm)))

/-! ## The filters together -/

/-- What the search leaves. -/
def searched (listing : Listing) (s : Server) (search : String) (endpoints : List Endpoint) : List Endpoint :=
  if search ≠ "" then
    listing.filterEndpointsBySearchCriteria endpoints s.dataStore.endpointGroup.all (tagNames s) search
  else endpoints

/-- What the filters leave, one after the other. -/
def narrowed (listing : Listing) (s : Server) (query : EndpointListQuery) (endpoints : List Endpoint) :
    List Endpoint :=
  let endpoints := query.endpointIDs.elim endpoints (filteredEndpointsByIds endpoints)
  let endpoints :=
    if retrieveNumericQueryParameter query.groupID ≠ 0 then
      filterEndpointsByGroupID endpoints (retrieveNumericQueryParameter query.groupID)
    else endpoints
  let endpoints := searched listing s
    (if query.search ≠ "" then listing.toLower query.search else query.search) endpoints
  let endpoints := query.types.elim endpoints (filterEndpointsByTypes endpoints)
  query.tagIDs.elim endpoints fun tagIDs =>
    filteredEndpointsByTags endpoints tagIDs s.dataStore.endpointGroup.all query.tagsPartialMatch

section Classical

open scoped Classical

/-- A filter that is there only if its parameter is. -/
theorem elim_filter {β : Type} {parameter : Option β} {f : β → List Endpoint} {P : β → Endpoint → Prop}
    [∀ b, DecidablePred (P b)] (h : ∀ b, f b = endpoints.filter (P b ·)) : parameter.elim endpoints f =
      endpoints.filter fun endpoint => ∀ b, parameter = some b → P b endpoint := by
  cases parameter with
  | none =>
    rw [Option.elim_none, List.filter_eq_self.mpr]
    intro endpoint _
    exact decide_eq_true nofun
  | some b =>
    rw [Option.elim_some, h]
    refine List.filter_congr fun endpoint _ => decide_eq_decide.mpr ?_
    constructor
    · intro hb b' heq
      exact Option.some.inj heq ▸ hb
    · intro hall
      exact hall b rfl

theorem ite_filter {c : Prop} [Decidable c] {l : List Endpoint} {P : Endpoint → Prop} [DecidablePred P]
    (h : c → l = endpoints.filter (P ·)) : (if c then l else endpoints) =
      endpoints.filter fun endpoint => c → P endpoint := by
  by_cases hc : c
  · rw [if_pos hc, h hc]
    exact List.filter_congr fun endpoint _ => decide_eq_decide.mpr ⟨fun hP _ => hP, fun hP => hP hc⟩
  · rw [if_neg hc, List.filter_eq_self.mpr]
    intro endpoint _
    exact decide_eq_true fun h => absurd h hc

theorem searched_eq : searched listing s search endpoints =
    endpoints.filter fun endpoint => search ≠ "" → Found listing s search endpoint := by
  refine ite_filter fun hsearch => List.filter_congr fun endpoint _ => ?_
  rw [Bool.eq_iff_iff, decide_eq_true_iff]
  exact matchSearchCriteria_iff hsearch

/-- **The filters together** keep what satisfies each of them. -/
theorem narrowed_eq : narrowed listing s query endpoints =
    endpoints.filter (Satisfies listing s query ·) := by
  have hids : ∀ (l : List Endpoint) ids, filteredEndpointsByIds l ids = l.filter (·.id ∈ ids) := by
    intro l ids
    exact List.filter_congr fun e _ => decide_eq_decide.mpr List.mem_toFinset
  have htypes : ∀ (l : List Endpoint) types, filterEndpointsByTypes l types =
      l.filter (EndpointType.number ·.type ∈ types) := by
    intro l types
    exact List.filter_congr fun e _ => decide_eq_decide.mpr List.mem_toFinset
  have hgroup : ∀ (l : List Endpoint) (id : EndpointGroupID),
      (if id ≠ 0 then filterEndpointsByGroupID l id else l) = l.filter fun e => id ≠ 0 → e.groupID = id :=
    fun l id => ite_filter fun _ => rfl
  unfold narrowed
  simp only [elim_filter (hids endpoints), hgroup, searched_eq, elim_filter (htypes _),
    elim_filter fun _ => filteredEndpointsByTags_eq]
  simp only [List.filter_filter]
  refine List.filter_congr fun e _ => ?_
  rw [Bool.eq_iff_iff]
  simp only [Bool.and_eq_true, decide_eq_true_iff]
  have hsearch : ((if query.search ≠ "" then listing.toLower query.search else query.search) ≠ "" →
      Found listing s (if query.search ≠ "" then listing.toLower query.search else query.search) e) ↔
      (query.search ≠ "" → Found listing s (listing.toLower query.search) e) := by
    by_cases hempty : query.search = ""
    · rw [if_neg (not_not.mpr hempty)]
      exact iff_of_true (fun h => absurd hempty h) fun h => absurd hempty h
    · rw [if_pos hempty]
      have hlower : listing.toLower query.search ≠ "" := fun h => hempty (toLower_eq_empty.mp h)
      exact ⟨fun h _ => h hlower, fun h _ => h hempty⟩
  rw [hsearch]
  constructor
  · rintro ⟨htags, htypes, hsearch, hgroup, hids⟩
    exact ⟨hids, hgroup, hsearch, htypes, htags⟩
  · rintro ⟨hids, hgroup, hsearch, htypes, htags⟩
    exact ⟨htags, htypes, hsearch, hgroup, hids⟩

theorem narrowed_filter_mayAccess :
    narrowed listing s query (s.dataStore.endpoint.all.filter (MayAccess s context ·)) =
      selected listing s context query := by
  rw [narrowed_eq, List.filter_filter, selected]
  refine List.filter_congr fun e _ => ?_
  rw [Bool.eq_iff_iff]
  simp only [Bool.and_eq_true, decide_eq_true_iff]
  exact and_comm

end Classical

/-! ## The run -/

/-- What is answered when no call fails. -/
def answer (listing : Listing) (s : Server) (context : RestrictedRequestContext)
    (query : EndpointListQuery) : Except Panic EndpointListResponse :=
  match filterEndpoints s.dataStore.endpoint.all s.dataStore.endpointGroup.all context with
  | none => .error .nilDereference
  | some endpoints =>
    (paginateEndpoints (narrowed listing s query endpoints) (startIndex query)
      (retrieveNumericQueryParameter query.limit)).map fun page =>
        { totalCount := (narrowed listing s query endpoints).length
          endpoints := page.map (listing.listed s.dataStore.settings) }

theorem returns_searchEndpoints :
    Returns (listing.searchEndpoints endpoints s.dataStore.endpointGroup.all search) s
      (· = searched listing s search endpoints) := by
  unfold Listing.searchEndpoints searched
  split
  · refine Table.returns_getAll_mapError.bind ?_
    rintro tags rfl
    exact .pure rfl
  · exact .pure rfl

/-- **Where the request is not ended by a failing call**, it ends with the
answer. -/
theorem returns_endpointList : Returns (endpointList listing context query) s
    (· = answer listing s context query) := by
  unfold endpointList
  refine Table.returns_getAll_mapError.bind ?_
  rintro groups rfl
  refine Table.returns_getAll_mapError.bind ?_
  rintro endpoints rfl
  have hsettings : Returns Server.getSettings s (· = s.dataStore.settings) := .query rfl
  refine hsettings.mapError.bind ?_
  rintro settings rfl
  have hanswer : ∀ found,
      filterEndpoints s.dataStore.endpoint.all s.dataStore.endpointGroup.all context = found →
        answer listing s context query = match found with
        | none => .error .nilDereference
        | some endpoints =>
          (paginateEndpoints (narrowed listing s query endpoints) (startIndex query)
            (retrieveNumericQueryParameter query.limit)).map fun page =>
              { totalCount := (narrowed listing s query endpoints).length
                endpoints := page.map (listing.listed s.dataStore.settings) } := by
    rintro found rfl
    rfl
  split
  · rename_i hfound
    exact .pure (hanswer none hfound).symm
  · rename_i endpoints hfound
    refine returns_searchEndpoints.bind ?_
    rintro narrowed rfl
    exact .pure (hanswer (some endpoints) hfound).symm

theorem searchEndpoints_run :
    (listing.searchEndpoints endpoints s.dataStore.endpointGroup.all search).run (.faultless s) =
      (.ok (searched listing s search endpoints), .faultless s) := by
  unfold Listing.searchEndpoints searched
  split
  · exact Action.bind_run_of_ok read_run
  · rfl

theorem endpointList_run : (endpointList listing context query).run (.faultless s) =
    (.ok (answer listing s context query), .faultless s) := by
  obtain ⟨r, hrun⟩ : ∃ r, (endpointList listing context query).run (.faultless s) = (.ok r, .faultless s) := by
    unfold endpointList
    have hgroups : (Server.endpointGroup.getAll.mapError (internalServerError
        "Unable to retrieve endpoint groups from the database")).run (.faultless s) =
        (.ok s.dataStore.endpointGroup.all, .faultless s) := read_run
    have hendpoints : (Server.endpoint.getAll.mapError (internalServerError
        "Unable to retrieve endpoints from the database")).run (.faultless s) =
        (.ok s.dataStore.endpoint.all, .faultless s) := read_run
    have hsettings : (Server.getSettings.mapError (internalServerError
        "Unable to retrieve settings from the database")).run (.faultless s) =
        (.ok s.dataStore.settings, .faultless s) := read_run
    rw [Action.bind_run_of_ok hgroups, Action.bind_run_of_ok hendpoints, Action.bind_run_of_ok hsettings]
    cases filterEndpoints s.dataStore.endpoint.all s.dataStore.endpointGroup.all context with
    | none => exact ⟨_, rfl⟩
    | some endpoints => exact ⟨_, Action.bind_run_of_ok searchEndpoints_run⟩
  rw [hrun]
  exact congrArg (fun r => (Except.ok r, Sys.faultless s)) (returns_endpointList.run_ok rfl hrun).2

/-! ## The bounds of a page -/

theorem retrieveNumericQueryParameter_mem (parameter : Option Int) :
    minInt ≤ retrieveNumericQueryParameter parameter ∧
      retrieveNumericQueryParameter parameter ≤ maxInt := by
  cases parameter with
  | none => exact ⟨by decide, by decide⟩
  | some n => exact Paging.clamp_mem n

theorem startIndex_mem : minInt ≤ startIndex query ∧ startIndex query ≤ maxInt := by
  obtain ⟨hmin, hmax⟩ := retrieveNumericQueryParameter_mem query.start
  have hwrap : ∀ n, minInt ≤ wrap n ∧ wrap n ≤ maxInt := by
    intro n
    unfold wrap minInt maxInt
    have hlow := Int.le_bmod (x := n) (m := 2 ^ 64) (by decide)
    have hhigh := Int.bmod_lt (x := n) (m := 2 ^ 64) (by decide)
    omega
  unfold startIndex
  by_cases hstart : retrieveNumericQueryParameter query.start ≠ 0
  · simp only [if_pos hstart]
    exact hwrap _
  · simp only [if_neg hstart]
    exact ⟨hmin, hmax⟩

/-- **A page is returned** if its bounds are in order and in range, and it
is the window that starts there. -/
theorem paginateEndpoints_eq {start limit : Int} (hstart : minInt ≤ start ∧ start ≤ maxInt)
    (hlimit : minInt ≤ limit ∧ limit ≤ maxInt) : paginateEndpoints endpoints start limit =
      if limit = 0 ∨ 0 ≤ start ∧ 0 < limit ∧ min start endpoints.length + limit ≤ maxInt then
        .ok (if limit = 0 then endpoints else window start.toNat limit.toNat endpoints)
      else .error .sliceBounds := by
  unfold paginateEndpoints
  by_cases hzero : limit = 0
  · rw [if_pos hzero, if_pos (.inl hzero), if_pos hzero]
  · rw [if_neg hzero, if_neg hzero]
    -- the start, no further than the end of the list
    have hfirst : (if start > (endpoints.length : Int) then (endpoints.length : Int) else start) =
        min start endpoints.length := by
      split <;> omega
    have hlast : ∀ last : Int, (if last > (endpoints.length : Int) then (endpoints.length : Int) else last) =
        min last endpoints.length := by
      intro last
      split <;> omega
    simp only [hfirst, hlast]
    unfold slice
    by_cases hsafe : 0 ≤ start ∧ 0 < limit ∧ min start endpoints.length + limit ≤ maxInt
    · obtain ⟨hlow, hpos, hrange⟩ := hsafe
      have hwrap : wrap (min start endpoints.length + limit) = min start endpoints.length + limit :=
        Paging.wrap_of_mem (by unfold minInt; omega) hrange
      rw [hwrap, if_pos (by omega), if_pos (.inr ⟨hlow, hpos, hrange⟩)]
      congr 1
      rw [window, List.drop_take]
      by_cases hend : start ≤ endpoints.length
      · rw [min_eq_left hend]
        refine List.take_eq_take_iff.mpr ?_
        rw [List.length_drop]
        omega
      · have hbeyond : endpoints.drop start.toNat = [] := List.drop_eq_nil_of_le (by omega)
        have hatEnd : endpoints.drop (min start endpoints.length).toNat = [] :=
          List.drop_eq_nil_of_le (by omega)
        rw [hbeyond, hatEnd, List.take_nil, List.take_nil]
    · rw [if_neg, if_neg (not_or.mpr ⟨hzero, hsafe⟩)]
      rintro ⟨hlow, hordered, -⟩
      by_cases hpos : 0 < limit
      · -- the end of the page lies beyond the largest integer
        have hover : maxInt < min start endpoints.length + limit := by
          by_contra hle
          exact hsafe ⟨by omega, hpos, by omega⟩
        have hneg := Paging.wrap_neg_of_gt hover (by omega)
        omega
      · have hwrap : wrap (min start endpoints.length + limit) = min start endpoints.length + limit :=
          Paging.wrap_of_mem (by omega) (by omega)
        omega

/-! ## Which requests are answered -/

theorem answer_of_groups (hgroups : context.isAdmin = true ∨
      ∀ endpoint ∈ s.dataStore.endpoint.all, (s.dataStore.endpointGroup.get? endpoint.groupID).isSome) :
    answer listing s context query =
      (paginateEndpoints (selected listing s context query) (startIndex query)
        (retrieveNumericQueryParameter query.limit)).map fun page =>
          { totalCount := (selected listing s context query).length
            endpoints := page.map (listing.listed s.dataStore.settings) } := by
  unfold answer
  rw [filterEndpoints_eq, if_pos hgroups]
  simp only [narrowed_filter_mayAccess]

theorem answer_of_safe (h : Safe listing s context query) : answer listing s context query =
    .ok { totalCount := (selected listing s context query).length
          endpoints := (requestedPage query (selected listing s context query)).map
            (listing.listed s.dataStore.settings) } := by
  rw [answer_of_groups h.groups, paginateEndpoints_eq startIndex_mem
    (retrieveNumericQueryParameter_mem query.limit), if_pos h.bounds]
  rfl

theorem safe_of_answer {response : EndpointListResponse}
    (h : answer listing s context query = .ok response) : Safe listing s context query := by
  have hgroups : context.isAdmin = true ∨
      ∀ endpoint ∈ s.dataStore.endpoint.all, (s.dataStore.endpointGroup.get? endpoint.groupID).isSome := by
    by_contra hmissing
    unfold answer at h
    rw [filterEndpoints_eq, if_neg hmissing] at h
    nomatch h
  refine ⟨hgroups, ?_⟩
  by_contra hbounds
  rw [answer_of_groups hgroups, paginateEndpoints_eq startIndex_mem
    (retrieveNumericQueryParameter_mem query.limit), if_neg hbounds] at h
  nomatch h

theorem answers_iff : Answers listing s context query ↔ Safe listing s context query := by
  constructor
  · intro h
    obtain ⟨response, hok, -, -⟩ := h _ _ _ rfl endpointList_run
    exact safe_of_answer hok
  · rintro h w r w' rfl hrun
    have hr := (returns_endpointList.run_ok rfl hrun).2
    exact ⟨_, hr.trans (answer_of_safe h), rfl, rfl⟩

theorem shows_iff {l : List ListedEndpoint} : Shows listing s context query l ↔
    Safe listing s context query ∧ l = (requestedPage query (selected listing s context query)).map
      (listing.listed s.dataStore.settings) := by
  constructor
  · rintro ⟨response, hrun, rfl⟩
    have hok : answer listing s context query = .ok response :=
      Except.ok.inj (congrArg Prod.fst (endpointList_run.symm.trans hrun))
    have hsafe := safe_of_answer hok
    rw [answer_of_safe hsafe] at hok
    rw [← Except.ok.inj hok]
    exact ⟨hsafe, rfl⟩
  · rintro ⟨hsafe, rfl⟩
    have hrun : (endpointList listing context query).run (.faultless s) =
        (.ok (answer listing s context query), .faultless s) := endpointList_run
    rw [answer_of_safe hsafe] at hrun
    exact ⟨_, hrun, rfl⟩

/-! ## Page after page -/

/-- The request for the `k`-th page of `length` endpoints. -/
def EndpointListQuery.page (query : EndpointListQuery) (length k : ℕ) : EndpointListQuery :=
  { query with start := some (1 + k * length), limit := some length }

theorem selected_page {length k : ℕ} :
    selected listing s context (query.page length k) = selected listing s context query := by
  refine List.filter_congr fun endpoint _ => decide_eq_decide.mpr (and_congr_right fun _ => ?_)
  constructor
  · rintro ⟨hids, hgroup, hsearch, htypes, htags⟩
    exact ⟨hids, hgroup, hsearch, htypes, htags⟩
  · rintro ⟨hids, hgroup, hsearch, htypes, htags⟩
    exact ⟨hids, hgroup, hsearch, htypes, htags⟩

theorem requestedPage_page {length k : ℕ} (hpos : 0 < length) (hlength : (length : Int) ≤ maxInt)
    (hstart : 1 + (k : Int) * length ≤ maxInt) :
    requestedPage (query.page length k) endpoints = window (k * length) length endpoints := by
  have hmin : minInt ≤ 0 := by decide
  have hproduct : 0 ≤ (k : Int) * length := Int.mul_nonneg (by omega) (by omega)
  have hlimit : retrieveNumericQueryParameter (query.page length k).limit = length :=
    Paging.clamp_of_mem (by omega) hlength
  have hfirst : retrieveNumericQueryParameter (query.page length k).start = 1 + (k : Int) * length :=
    Paging.clamp_of_mem (by omega) hstart
  have hindex : startIndex (query.page length k) = (k : Int) * length := by
    have hshifted : 1 + (k : Int) * length - 1 = (k : Int) * length := by omega
    unfold startIndex
    simp only [hfirst, hshifted]
    rw [if_pos (by omega)]
    exact Paging.wrap_of_mem (by omega) (by omega)
  unfold requestedPage
  simp only [hlimit, hindex]
  rw [if_neg (by omega), ← Int.natCast_mul, Int.toNat_natCast, Int.toNat_natCast]

/-- **The list of endpoints.** A request is answered, with the count of the
endpoints selected and the page asked for, exactly if it is safe. The pages
of one length, one after the other, are shown exactly if each is safe, and
are then the beginning of the list of those selected, each endpoint once;
as many pages as it takes are the whole list. -/
theorem endpointList_iff (listing : Listing) (s : Server) (context : RestrictedRequestContext)
    (query : EndpointListQuery) :
    (Answers listing s context query ↔ Safe listing s context query) ∧
    ((selected listing s context query).map Endpoint.id).Nodup ∧
    ∀ length n : ℕ, 0 < length → (length : Int) ≤ maxInt → (∀ k < n, 1 + (k : Int) * length ≤ maxInt) →
      ((∃ pages : ℕ → List ListedEndpoint,
          (∀ k < n, Shows listing s context (query.page length k) (pages k)) ∧
          ((List.range n).map pages).flatten = ((selected listing s context query).take (n * length)).map
            (listing.listed s.dataStore.settings) ∧
          ((selected listing s context query).length ≤ n * length →
            ((List.range n).map pages).flatten = (selected listing s context query).map
              (listing.listed s.dataStore.settings))) ↔
        ∀ k < n, Safe listing s context (query.page length k)) := by
  refine ⟨answers_iff, ?_, fun length n hpos hlength hstart => ⟨?_, fun hsafe => ?_⟩⟩
  · have hnodup : (s.dataStore.endpoint.all.map Endpoint.id).Nodup := Bucket.nodup_keys_all s.dataStore.endpoint
    exact hnodup.sublist (List.filter_sublist.map Endpoint.id)
  · rintro ⟨pages, hshown, -⟩ k hk
    exact (shows_iff.mp (hshown k hk)).1
  · have hpages : ((List.range n).map fun k => (window (k * length) length
        (selected listing s context query)).map (listing.listed s.dataStore.settings)).flatten =
        ((selected listing s context query).take (n * length)).map (listing.listed s.dataStore.settings) := by
      rw [← Paging.flatten_windows, List.map_flatten, List.map_map]
      rfl
    refine ⟨_, fun k hk => shows_iff.mpr ⟨hsafe k hk, ?_⟩, hpages, fun hall => ?_⟩
    · rw [selected_page, requestedPage_page hpos hlength (hstart k hk)]
    · rw [hpages, List.take_of_length_le hall]

/-- Four endpoints of one group. User 7 may access three of them, one of
which is of another type. -/
def fourEndpoints : Server :=
  { newServer with dataStore := { newServer.dataStore with
      endpoint := [{ id := 1, userAccessPolicies := {(7, ⟨0⟩)} }, { id := 2 },
        { id := 3, userAccessPolicies := {(7, ⟨0⟩)} },
        { id := 4, type := .azureEnvironment, userAccessPolicies := {(7, ⟨0⟩)} }].foldl Bucket.put
          ({} : Bucket Endpoint) } }

/-- User 7. -/
def userSeven : RestrictedRequestContext := { isAdmin := false, userID := 7 }

/-- The endpoints of the first type that user 7 is shown, one on a page. -/
theorem endpointList_iff_witness : ∃ pages : ℕ → List ListedEndpoint,
    (∀ k < 2, Shows { lower := id } fourEndpoints userSeven (EndpointListQuery.page { types := some [1] } 1 k)
      (pages k)) ∧
    ((List.range 2).map pages).flatten.map (fun listed => listed.endpoint.id) = [1, 3] := by
  have hsafe : ∀ k < 2, Safe { lower := id } fourEndpoints userSeven
      (EndpointListQuery.page { types := some [1] } 1 k) := by
    have hbounds : ∀ k < 2, 0 ≤ startIndex (EndpointListQuery.page { types := some [1] } 1 k) ∧
        startIndex (EndpointListQuery.page { types := some [1] } 1 k) ≤ 1 := by decide
    have hlimit : ∀ k < 2,
        retrieveNumericQueryParameter (EndpointListQuery.page { types := some [1] } 1 k).limit = 1 := by decide
    have hmax : maxInt = 9223372036854775807 := by decide
    intro k hk
    obtain ⟨hlow, hhigh⟩ := hbounds k hk
    refine ⟨.inr (by decide), .inr ?_⟩
    rw [hlimit k hk]
    omega
  obtain ⟨pages, hshown, -⟩ := ((endpointList_iff { lower := id } fourEndpoints userSeven
    { types := some [1] }).2.2 1 2 (by decide) (by decide) (by decide)).mpr hsafe
  have hrun : ∀ k < 2, (((endpointList { lower := id } userSeven (EndpointListQuery.page { types := some [1] } 1 k)).run
      (.faultless fourEndpoints)).1.toOption.bind Except.toOption).map
        (fun response => response.endpoints.map fun listed => listed.endpoint.id) = some [2 * (k : Int) + 1] := by decide
  have hids : ∀ k < 2, (pages k).map (fun listed => listed.endpoint.id) = [2 * (k : Int) + 1] := by
    intro k hk
    obtain ⟨response, hresponse, hpages⟩ := hshown k hk
    have hlisted := hrun k hk
    rw [hresponse] at hlisted
    exact hpages ▸ Option.some.inj hlisted
  refine ⟨pages, hshown, ?_⟩
  rw [List.map_flatten, List.map_map]
  change [_, _].flatten = _
  exact congrArg₂ (fun l l' => [l, l'].flatten) (hids 0 (by decide)) (hids 1 (by decide))

/-- An administrator asks for the endpoints from the tenth before the
first. -/
theorem endpointList_negative_start :
    ¬ Answers { lower := id } newServer { isAdmin := true, userID := 1 }
      { start := some (-10), limit := some 5 } := by
  intro hanswers
  obtain ⟨response, hok, -, -⟩ := hanswers (.faultless newServer) (.error .sliceBounds) _ rfl rfl
  nomatch hok

end Inventory

end Portainer
