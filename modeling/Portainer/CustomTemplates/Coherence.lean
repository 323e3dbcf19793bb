import Portainer.Common.Leaves
import Portainer.Stacks.Model.Host
/-!
# Custom templates — one template, three answers

Each route decides on its own who may see a template: the list goes by the
creator and the resource control, the details by the creator alone, and the
file by nothing. They agree on a user's own templates, and on no other
whose file is on the disk: `coherent_iff`.
-/

namespace Portainer

namespace CustomTemplates

open HandlerError (forbidden internalServerError ofLookup badRequest)
open Path (join locate)

/-! ## Custom templates — model

`handler/customtemplates`: the routes that list templates, show one or its
file, change one and delete one. A template is its creator's; a resource
control of the kind for custom templates, named by the number of the
template, opens it to others. -/

abbrev CustomTemplateID := Int

/-- A template. The platform is 1 for Linux and 2 for Windows, the type 1
for Swarm and 2 for Compose. -/
structure CustomTemplate where
  id : CustomTemplateID
  title : String := ""
  description : String := ""
  projectPath : Path := []
  entryPoint : Path := []
  createdByUserID : UserID
  note : String := ""
  platform : Int := 1
  logo : String := ""
  type : Int := 2
  resourceControl : Option ResourceControl := none

instance : Record CustomTemplate := ⟨CustomTemplate.id⟩

/-- The database, with the bucket of the templates, and the disk. -/
structure Host where
  server : Server := {}
  customTemplate : Bucket CustomTemplate := {}
  fileSystem : Stacks.FileSystem := {}

/-- A part that works on the server alone. -/
def onServer {ε α : Type} (x : Action Callee Server ε α) : Action Callee Host ε α :=
  x.zoom Host.server fun h s => { h with server := s }

/-! ## The services -/

/-- `CustomTemplates`. -/
def customTemplates : Fallible Host (List CustomTemplate) :=
  .query .databaseRead fun h => h.customTemplate.all

/-- `CustomTemplate`, in the handlers. -/
def findCustomTemplate (id : CustomTemplateID) : Handler Host CustomTemplate :=
  (Action.lookup .databaseRead errObjectNotFound fun h => h.customTemplate.get? id).mapError
    (ofLookup "Unable to find a custom template with the specified identifier inside the database")

def updateCustomTemplate (customTemplate : CustomTemplate) : Fallible Host Unit :=
  .call .databaseWrite fun h => { h with customTemplate := h.customTemplate.put customTemplate }

def deleteCustomTemplate (id : CustomTemplateID) : Fallible Host Unit :=
  .call .databaseWrite fun h => { h with customTemplate := h.customTemplate.delete id }

/-- `GetFileContent`. -/
def getFileContent (path : Path) : Fallible Host String :=
  .lookup .fileService "no such file or directory" fun h => h.fileSystem.files (locate path)

/-- `StoreCustomTemplateFileFromBytes`. -/
def storeCustomTemplateFile (fileStorePath : Path) (identifier : String) (fileName : Path)
    (data : String) : Fallible Host Unit := do
  let customTemplateStorePath := join ["custom_templates".toList, identifier.toList]
  .call .fileService fun h => { h with
    fileSystem := h.fileSystem.mkdirAll (locate (join [fileStorePath, customTemplateStorePath])) }
  .call .fileService fun h => { h with
    fileSystem := h.fileSystem.write
      (locate (join [fileStorePath, join [customTemplateStorePath, fileName]])) data }

/-- `RemoveDirectory`. -/
def removeDirectory (directoryPath : Path) : Fallible Host Unit :=
  .call .fileService fun h => { h with fileSystem := h.fileSystem.removeAll (locate directoryPath) }

/-- The resource control of a template. -/
def findResourceControl (id : CustomTemplateID) : Handler Host (Option ResourceControl) :=
  (onServer (Server.resourceControlByResourceIDAndType (toString id) .customTemplate)).mapError
    (internalServerError "Unable to retrieve a resource control associated to the custom template")

/-! ## Access -/

/-- `userCanEditTemplate`. -/
def userCanEditTemplate (customTemplate : CustomTemplate) (context : RestrictedRequestContext) : Bool :=
  context.isAdmin || customTemplate.createdByUserID = context.userID

/-- The handlers that change a template want its creator. -/
def requireEditor (customTemplate : CustomTemplate) (context : RestrictedRequestContext) :
    Handler Host Unit :=
  .require (userCanEditTemplate customTemplate context = true)
    (forbidden "Access denied to resource" errResourceAccessDenied)

/-- `DecorateCustomTemplates`. -/
def decorateCustomTemplates (templates : List CustomTemplate)
    (resourceControls : List ResourceControl) : List CustomTemplate :=
  templates.map fun template =>
    match getResourceControlByResourceIDAndType (toString template.id) .customTemplate resourceControls with
    | some resourceControl => { template with resourceControl := some resourceControl }
    | none => template

/-- `FilterAuthorizedCustomTemplates`. -/
def filterAuthorizedCustomTemplates (customTemplates : List CustomTemplate) (user : User)
    (userTeamIDs : List TeamID) : List CustomTemplate :=
  customTemplates.filter fun customTemplate => customTemplate.createdByUserID = user.id ||
    customTemplate.resourceControl.any (userCanAccessResource user.id userTeamIDs)

/-! ## The handlers -/

/-- What `customTemplateList` shows of the templates. -/
def visibleTemplates (context : RestrictedRequestContext) (templates : List CustomTemplate) :
    Handler Host (List CustomTemplate) :=
  if context.isAdmin then pure templates
  else do
    let user ← (onServer (Server.user.getObject context.userID)).mapError
      (internalServerError "Unable to retrieve user information from the database")
    return filterAuthorizedCustomTemplates templates user
      (context.userMemberships.map TeamMembership.teamID)

def customTemplateList (context : RestrictedRequestContext) : Handler Host (List CustomTemplate) := do
  let templates ← customTemplates.mapError
    (internalServerError "Unable to retrieve custom templates from the database")
  let resourceControls ← (onServer Server.resourceControl.getAll).mapError
    (internalServerError "Unable to retrieve resource controls from the database")
  visibleTemplates context (decorateCustomTemplates templates resourceControls)

def customTemplateInspect (context : RestrictedRequestContext) (id : CustomTemplateID) :
    Handler Host CustomTemplate := do
  let customTemplate ← findCustomTemplate id
  let resourceControl ← findResourceControl id
  requireEditor customTemplate context
  return { customTemplate with resourceControl := resourceControl <|> customTemplate.resourceControl }

/-- `customTemplateFile`, which does not look at who asks. -/
def customTemplateFile (id : CustomTemplateID) : Handler Host String := do
  let customTemplate ← findCustomTemplate id
  (getFileContent (join [customTemplate.projectPath, customTemplate.entryPoint])).mapError
    (internalServerError "Unable to retrieve custom template file from disk")

/-- `customTemplateUpdatePayload`. -/
structure CustomTemplateUpdatePayload where
  logo : String := ""
  title : String
  description : String
  note : String := ""
  platform : Int
  type : Int
  fileContent : String

/-- `Validate`. -/
def CustomTemplateUpdatePayload.validate (payload : CustomTemplateUpdatePayload) : Except String Unit :=
  if payload.title = "" then .error "Invalid custom template title"
  else if payload.fileContent = "" then .error "Invalid file content"
  else if payload.platform ≠ 1 ∧ payload.platform ≠ 2 then .error "Invalid custom template platform"
  else if payload.type ≠ 2 ∧ payload.type ≠ 1 then .error "Invalid custom template type"
  else if payload.description = "" then .error "Invalid custom template description"
  else .ok ()

/-- The template after an update. -/
def CustomTemplateUpdatePayload.update (payload : CustomTemplateUpdatePayload)
    (customTemplate : CustomTemplate) : CustomTemplate :=
  { customTemplate with
    title := payload.title
    logo := payload.logo
    description := payload.description
    note := payload.note
    platform := payload.platform
    type := payload.type }

def titleNotUnique : String := "Template name must be unique"

def customTemplateUpdate (fileStorePath : Path) (context : RestrictedRequestContext)
    (id : CustomTemplateID) (payload : CustomTemplateUpdatePayload) : Handler Host CustomTemplate := do
  (Action.ofExcept payload.validate).mapError (badRequest "Invalid request payload")
  let templates ← customTemplates.mapError
    (internalServerError "Unable to retrieve custom templates from the database")
  .require (templates.any (fun existing => existing.id ≠ id && existing.title = payload.title) = false)
    (internalServerError titleNotUnique titleNotUnique)
  let customTemplate ← findCustomTemplate id
  requireEditor customTemplate context
  (storeCustomTemplateFile fileStorePath (toString id) customTemplate.entryPoint
    payload.fileContent).mapError
      (internalServerError "Unable to persist updated custom template file on disk")
  (updateCustomTemplate (payload.update customTemplate)).mapError
    (internalServerError "Unable to persist custom template changes inside the database")
  return payload.update customTemplate

/-- The resource control of a template goes with it. -/
def deleteControl : Option ResourceControl → Handler Host Unit
  | some resourceControl =>
    (onServer (Server.resourceControl.deleteObject resourceControl.id)).mapError
      (internalServerError "Unable to remove the associated resource control from the database")
  | none => pure ()

def customTemplateDelete (context : RestrictedRequestContext) (id : CustomTemplateID) :
    Handler Host Unit := do
  let customTemplate ← findCustomTemplate id
  let resourceControl ← findResourceControl id
  requireEditor customTemplate context
  (deleteCustomTemplate id).mapError
    (internalServerError "Unable to remove the custom template from the database")
  (removeDirectory customTemplate.projectPath).mapError
    (internalServerError "Unable to remove custom template files from disk")
  deleteControl resourceControl

open Action (bind_run_ok bind_run_of_ok mapError_run_ok require_bind_run_ok
  lookup_run_faultless query_run_faultless Leaves)

variable {h : Host} {context : RestrictedRequestContext} {id : CustomTemplateID} {t : CustomTemplate}

/-! ## Who sees what -/

/-- The request is answered with success, where no call fails. -/
def Obtains {α : Type} (x : Handler Host α) (h : Host) : Prop := ∃ a w, x.run (.faultless h) = (.ok a, w)

/-- The list that the user gets has the template. -/
def Listed (h : Host) (context : RestrictedRequestContext) (id : CustomTemplateID) : Prop :=
  ∃ templates w, (customTemplateList context).run (.faultless h) = (.ok templates, w) ∧
    ∃ t ∈ templates, t.id = id

/-- The resource control of a template. -/
def controlOf (h : Host) (t : CustomTemplate) : Option ResourceControl :=
  getResourceControlByResourceIDAndType (toString t.id) .customTemplate
    h.server.dataStore.resourceControl.all <|> t.resourceControl

/-- The resource control of the template opens it to the user. -/
def Granted (h : Host) (context : RestrictedRequestContext) (t : CustomTemplate) : Prop :=
  ∃ rc, controlOf h t = some rc ∧
    userCanAccessResource context.userID (context.userMemberships.map TeamMembership.teamID) rc = true

/-- The file of the template is on the disk. -/
def FileThere (h : Host) (t : CustomTemplate) : Prop :=
  ∃ content, h.fileSystem.files (locate (join [t.projectPath, t.entryPoint])) = some content

/-- **The routes agree on a template**: what is in the user's list can be
looked at, and its file read, and nothing else; the list has the templates
of the user and those opened to them; and only the user's own are changed. -/
structure Coherent (h : Host) (context : RestrictedRequestContext) (id : CustomTemplateID) : Prop where
  listed : Listed h context id ↔ ∃ t, h.customTemplate.get? id = some t ∧
    (t.createdByUserID = context.userID ∨ Granted h context t)
  inspect : Obtains (customTemplateInspect context id) h ↔ Listed h context id
  file : Obtains (customTemplateFile id) h ↔ Listed h context id
  edits : (∀ t, h.customTemplate.get? id = some t → t.createdByUserID ≠ context.userID) →
    ∀ faults fileStorePath payload,
      ((customTemplateUpdate fileStorePath context id payload).run ⟨h, faults⟩).2.store = h ∧
      ((customTemplateDelete context id).run ⟨h, faults⟩).2.store = h

/-- The template is the user's own and its file is there; or it is neither
the user's nor opened to them, and has no file to be read. -/
def OwnOrGone (h : Host) (context : RestrictedRequestContext) (id : CustomTemplateID) : Prop :=
  ∀ t, h.customTemplate.get? id = some t →
    (t.createdByUserID = context.userID ∧ FileThere h t) ∨
    (t.createdByUserID ≠ context.userID ∧ ¬ Granted h context t ∧ ¬ FileThere h t)

/-! ## The answers -/

theorem onServer_query_run {α : Type} (f : Server → α) :
    (onServer (.query .databaseRead f) : Fallible Host α).run (.faultless h) =
      (.ok (f h.server), .faultless h) := by
  have hquery : (Action.query Callee.databaseRead f).run ⟨h.server, (Sys.faultless h : Sys Callee Host).faults⟩ =
      (.ok (f h.server), .faultless h.server) := query_run_faultless Callee.databaseRead f
  have hstore : (Sys.faultless h : Sys Callee Host).store.server = h.server := rfl
  rw [onServer, Action.zoom_run, hstore, hquery]
  rfl

theorem findCustomTemplate_run (ht : h.customTemplate.get? id = some t) :
    (findCustomTemplate id).run (.faultless h) = (.ok t, .faultless h) :=
  mapError_run_ok.mpr (lookup_run_faultless ht)

theorem findCustomTemplate_run_ok {w w' : Sys Callee Host}
    (hrun : (findCustomTemplate id).run w = (.ok t, w')) :
    w.store.customTemplate.get? id = some t ∧ w'.store = w.store :=
  (Action.lookup_run_ok (mapError_run_ok.mp hrun))

/-- **The details are for the creator.** -/
theorem obtains_inspect_iff (hadmin : context.isAdmin = false) :
    Obtains (customTemplateInspect context id) h ↔
      ∃ t, h.customTemplate.get? id = some t ∧ t.createdByUserID = context.userID := by
  constructor
  · rintro ⟨a, w, hrun⟩
    obtain ⟨t, w₁, hfind, hrun⟩ := bind_run_ok.mp hrun
    obtain ⟨rc, w₂, -, hrun⟩ := bind_run_ok.mp hrun
    obtain ⟨hedit, -⟩ := require_bind_run_ok.mp hrun
    refine ⟨t, (findCustomTemplate_run_ok hfind).1, ?_⟩
    simpa [userCanEditTemplate, hadmin] using hedit
  · rintro ⟨t, ht, hcreator⟩
    have hedit : userCanEditTemplate t context = true := by
      simp [userCanEditTemplate, hcreator]
    have hcontrol : (findResourceControl id).run (.faultless h) =
        (.ok (h.server.dataStore.resourceControlByResourceIDAndType (toString id) .customTemplate),
          .faultless h) := mapError_run_ok.mpr (onServer_query_run _)
    let rc := h.server.dataStore.resourceControlByResourceIDAndType (toString id) .customTemplate
    have hrun : (customTemplateInspect context id).run (.faultless h) =
        (.ok { t with resourceControl := rc <|> t.resourceControl }, .faultless h) := by
      refine (bind_run_of_ok (findCustomTemplate_run ht)).trans ((bind_run_of_ok hcontrol).trans ?_)
      exact bind_run_of_ok (Action.require_run_of hedit)
    exact ⟨_, _, hrun⟩

/-- **The file is for everybody.** -/
theorem obtains_file_iff : Obtains (customTemplateFile id) h ↔
    ∃ t, h.customTemplate.get? id = some t ∧ FileThere h t := by
  constructor
  · rintro ⟨content, w, hrun⟩
    obtain ⟨t, w₁, hfind, hrun⟩ := bind_run_ok.mp hrun
    obtain ⟨ht, hstore⟩ := findCustomTemplate_run_ok hfind
    have hcontent := (Action.lookup_run_ok (mapError_run_ok.mp hrun)).1
    rw [hstore] at hcontent
    exact ⟨t, ht, content, hcontent⟩
  · rintro ⟨t, ht, content, hcontent⟩
    exact ⟨content, .faultless h, (bind_run_of_ok (findCustomTemplate_run ht)).trans
      (mapError_run_ok.mpr (lookup_run_faultless hcontent))⟩

/-- A template as the list shows it. -/
def decorated (h : Host) (t : CustomTemplate) : CustomTemplate :=
  { t with resourceControl := controlOf h t }

theorem decorateCustomTemplates_eq : decorateCustomTemplates h.customTemplate.all
    h.server.dataStore.resourceControl.all = h.customTemplate.all.map (decorated h) := by
  refine List.map_congr_left fun t _ => ?_
  rw [decorated, controlOf]
  cases getResourceControlByResourceIDAndType (toString t.id) .customTemplate
    h.server.dataStore.resourceControl.all <;> rfl

/-- What the list answers a user who is no administrator. -/
theorem customTemplateList_run {user : User} (hadmin : context.isAdmin = false)
    (huser : h.server.dataStore.user.get? context.userID = some user) :
    (customTemplateList context).run (.faultless h) =
      (.ok (filterAuthorizedCustomTemplates (h.customTemplate.all.map (decorated h)) user
        (context.userMemberships.map TeamMembership.teamID)), .faultless h) := by
  have htemplates : (customTemplates.mapError (HandlerError.internalServerError
      "Unable to retrieve custom templates from the database") : Handler Host _).run (.faultless h) =
        (.ok h.customTemplate.all, .faultless h) := mapError_run_ok.mpr (query_run_faultless _ _)
  have hcontrols : ((onServer Server.resourceControl.getAll).mapError (HandlerError.internalServerError
      "Unable to retrieve resource controls from the database") : Handler Host _).run (.faultless h) =
        (.ok h.server.dataStore.resourceControl.all, .faultless h) :=
    mapError_run_ok.mpr (onServer_query_run _)
  have hfound : ((onServer (Server.user.getObject context.userID)).mapError
      (HandlerError.internalServerError "Unable to retrieve user information from the database") :
        Handler Host _).run (.faultless h) = (.ok user, .faultless h) := by
    have hlookup : (Server.user.getObject context.userID).run
        ⟨h.server, (Sys.faultless h : Sys Callee Host).faults⟩ = (.ok user, .faultless h.server) :=
      lookup_run_faultless huser
    have hstore : (Sys.faultless h : Sys Callee Host).store.server = h.server := rfl
    refine mapError_run_ok.mpr ?_
    rw [onServer, Action.zoom_run, hstore, hlookup]
    rfl
  refine (bind_run_of_ok htemplates).trans ((bind_run_of_ok hcontrols).trans ?_)
  rw [decorateCustomTemplates_eq, visibleTemplates, if_neg (by simp [hadmin])]
  exact bind_run_of_ok hfound

/-- **The list goes by the creator and the resource control.** -/
theorem listed_iff {user : User} (hadmin : context.isAdmin = false)
    (huser : h.server.dataStore.user.get? context.userID = some user) :
    Listed h context id ↔ ∃ t, h.customTemplate.get? id = some t ∧
      (t.createdByUserID = context.userID ∨ Granted h context t) := by
  have hid : user.id = context.userID := Bucket.key_of_get? huser
  have hshown : ∀ t : CustomTemplate,
      ((t.createdByUserID = user.id ∨ (controlOf h t).any (userCanAccessResource user.id
        (context.userMemberships.map TeamMembership.teamID)) = true) ↔
      (t.createdByUserID = context.userID ∨ Granted h context t)) := by
    intro t
    rw [hid, Granted]
    refine or_congr_right ?_
    cases controlOf h t <;> simp
  rw [Listed, customTemplateList_run hadmin huser]
  constructor
  · rintro ⟨templates, w, hrun, t, ht, rfl⟩
    obtain ⟨hrun, -⟩ := Prod.mk.inj hrun
    obtain rfl := Except.ok.inj hrun
    obtain ⟨hmem, hpass⟩ := List.mem_filter.mp ht
    obtain ⟨t₀, ht₀, rfl⟩ := List.mem_map.mp hmem
    refine ⟨t₀, Bucket.mem_all.mp ht₀, (hshown t₀).mp ?_⟩
    rwa [Bool.or_eq_true, decide_eq_true_iff] at hpass
  · rintro ⟨t, ht, hsees⟩
    have hkey : t.id = id := Bucket.key_of_get? ht
    refine ⟨_, _, rfl, decorated h t, List.mem_filter.mpr ⟨?_, ?_⟩, hkey⟩
    · exact List.mem_map.mpr ⟨t, Bucket.mem_all_of_get? ht, rfl⟩
    · rw [Bool.or_eq_true, decide_eq_true_iff]
      exact (hshown t).mpr hsees

/-! ## Changes -/

/-- A program that leaves the host as it was, whatever fails. -/
abbrev Still {α : Type} (x : Handler Host α) (h : Host) : Prop :=
  Leaves (fun _ => False) x h (fun _ s => s = h) (· = h)

/-- Nobody but the creator gets past the check. -/
theorem still_requireEditor {α : Type} {f : Unit → Handler Host α}
    (hadmin : context.isAdmin = false) (hother : t.createdByUserID ≠ context.userID) :
    Still (requireEditor t context >>= f) h := by
  have hno : ¬ userCanEditTemplate t context = true := by
    simp [userCanEditTemplate, hadmin, hother]
  exact Leaves.require_bind rfl fun hedit => absurd hedit hno

/-- **Only the creator changes a template.** -/
theorem edits_own (hadmin : context.isAdmin = false)
    (hother : ∀ t, h.customTemplate.get? id = some t → t.createdByUserID ≠ context.userID)
    (faults : Callee → List (Option String)) (fileStorePath : Path)
    (payload : CustomTemplateUpdatePayload) :
    ((customTemplateUpdate fileStorePath context id payload).run ⟨h, faults⟩).2.store = h ∧
      ((customTemplateDelete context id).run ⟨h, faults⟩).2.store = h := by
  constructor
  · have hupdate : Still (customTemplateUpdate fileStorePath context id payload) h := by
      have hvalid : Leaves (fun _ => False) ((Action.ofExcept payload.validate).mapError
          (HandlerError.badRequest "Invalid request payload") : Handler Host Unit) h
          (fun _ s => s = h ∧ True) (· = h) :=
        Leaves.mapError (Leaves.ofExcept (fun _ _ => ⟨rfl, trivial⟩) rfl)
      refine hvalid.read_bind fun _ _ => Leaves.query_bind rfl (Leaves.require_bind rfl fun _ => ?_)
      exact Leaves.lookup_bind rfl fun t ht => still_requireEditor hadmin (hother t ht)
    exact hupdate.store rfl fun _ hk => hk.elim
  · have hdelete : Still (customTemplateDelete context id) h := by
      refine Leaves.lookup_bind rfl fun t ht => ?_
      have hcontrol : Leaves (fun _ => False) (findResourceControl id) h
          (fun _ s => s = h ∧ True) (· = h) := by
        have hquery : Leaves (fun _ => False) (Server.resourceControlByResourceIDAndType (toString id)
            .customTemplate) h.server (fun _ s => s = h.server) (· = h.server) := Leaves.query rfl rfl
        refine Leaves.mapError ((Leaves.zoom hquery).conseq ?_ ?_)
        · rintro _ _ ⟨_, rfl, rfl⟩
          exact ⟨rfl, trivial⟩
        · rintro _ ⟨_, rfl, rfl⟩
          rfl
      exact hcontrol.read_bind fun rc _ => still_requireEditor hadmin (hother t ht)
    exact hdelete.store rfl fun _ hk => hk.elim

/-- **The routes agree on the user's own templates**, and on those that are
hidden altogether; a template of somebody else gives its file away, and
where it is opened to the user, it is listed and cannot be looked at. -/
theorem coherent_iff {user : User} (hadmin : context.isAdmin = false)
    (huser : h.server.dataStore.user.get? context.userID = some user) :
    Coherent h context id ↔ OwnOrGone h context id := by
  have hlisted : Listed h context id ↔ ∃ t, h.customTemplate.get? id = some t ∧
      (t.createdByUserID = context.userID ∨ Granted h context t) := listed_iff hadmin huser
  have hsame : ∀ {t t' : CustomTemplate}, h.customTemplate.get? id = some t →
      h.customTemplate.get? id = some t' → t' = t := fun ht ht' =>
    Option.some.inj (ht'.symm.trans ht)
  constructor
  · rintro ⟨-, hinspect, hfile, -⟩ t ht
    rw [obtains_inspect_iff hadmin, hlisted] at hinspect
    rw [obtains_file_iff, hlisted] at hfile
    by_cases hcreator : t.createdByUserID = context.userID
    · obtain ⟨t', ht', hthere⟩ := hfile.mpr ⟨t, ht, .inl hcreator⟩
      exact .inl ⟨hcreator, hsame ht ht' ▸ hthere⟩
    · have hclosed : ¬ Granted h context t := by
        intro hgranted
        obtain ⟨t', ht', hcreator'⟩ := hinspect.mpr ⟨t, ht, .inr hgranted⟩
        exact hcreator (hsame ht ht' ▸ hcreator')
      refine .inr ⟨hcreator, hclosed, fun hthere => ?_⟩
      obtain ⟨t', ht', hsees⟩ := hfile.mp ⟨t, ht, hthere⟩
      obtain rfl := hsame ht ht'
      exact hsees.elim hcreator hclosed
  · intro hown
    refine ⟨hlisted, ?_, ?_, edits_own hadmin⟩
    · rw [obtains_inspect_iff hadmin, hlisted]
      constructor
      · rintro ⟨t, ht, hcreator⟩
        exact ⟨t, ht, .inl hcreator⟩
      · rintro ⟨t, ht, hsees⟩
        obtain ⟨hcreator, -⟩ | ⟨hcreator, hclosed, -⟩ := hown t ht
        · exact ⟨t, ht, hcreator⟩
        · exact (hsees.elim hcreator hclosed).elim
    · rw [obtains_file_iff, hlisted]
      constructor
      · rintro ⟨t, ht, hthere⟩
        obtain ⟨hcreator, -⟩ | ⟨-, -, hgone⟩ := hown t ht
        · exact ⟨t, ht, .inl hcreator⟩
        · exact absurd hthere hgone
      · rintro ⟨t, ht, hsees⟩
        obtain ⟨-, hthere⟩ | ⟨hcreator, hclosed, -⟩ := hown t ht
        · exact ⟨t, ht, hthere⟩
        · exact (hsees.elim hcreator hclosed).elim

/-! ## Two users -/

/-- Template 1 of user 2, on a host that user 3 uses as well. -/
def sampleHost : Host where
  server := { dataStore := {
    user := (({} : Bucket User).put { id := 2 }).put { id := 3 } } }
  customTemplate := ({} : Bucket CustomTemplate).put
    { id := 1, projectPath := "/t".toList, entryPoint := "f".toList, createdByUserID := 2 }
  fileSystem := { files := fun _ => some "services" }

/-- A user with no team. -/
def sampleContext (userID : UserID) : RestrictedRequestContext := ⟨false, userID, [], false⟩

theorem coherent_iff_creator : Coherent sampleHost (sampleContext 2) 1 := by
  have hown : OwnOrGone sampleHost (sampleContext 2) 1 := by
    intro t ht
    obtain rfl := Option.some.inj ht
    exact .inl ⟨rfl, "services", rfl⟩
  have huser : sampleHost.server.dataStore.user.get? (sampleContext 2).userID = some { id := 2 } := rfl
  exact (coherent_iff rfl huser).mpr hown

/-- **User 3 reads the file of a template of user 2**, which is not in
their list. -/
theorem not_coherent_of_stranger :
    ¬ ∀ (h : Host) (context : RestrictedRequestContext) (id : CustomTemplateID) (user : User),
      context.isAdmin = false → h.server.dataStore.user.get? context.userID = some user →
      Coherent h context id := by
  intro hall
  obtain ⟨hlisted, -, hfile, -⟩ := hall sampleHost (sampleContext 3) 1 { id := 3 } rfl rfl
  obtain ⟨t, ht, hsees⟩ := hlisted.mp (hfile.mp (obtains_file_iff.mpr ⟨_, rfl, "services", rfl⟩))
  obtain rfl := Option.some.inj ht
  obtain hcreator | ⟨rc, hcontrol, -⟩ := hsees
  · exact absurd hcreator (by decide)
  · exact absurd hcontrol (by simp [controlOf, sampleHost, getResourceControlByResourceIDAndType])

end CustomTemplates

end Portainer
