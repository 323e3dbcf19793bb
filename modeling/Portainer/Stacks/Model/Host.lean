import Portainer.Common.Location
import Portainer.Model.Bouncer
/-!
# The host — database, disk, and what is done for stacks

The handlers of stacks work on the server's database and on its disk, and
they hand stack files to the Docker binaries. What is done on the disk, and
what is handed over, is an `Act`; the host keeps a record of them, in the
order in which they happen. The operating system and the binaries can fail
at any call. Symbolic links are not modelled: a path leads where its
elements say.
-/

namespace Portainer

namespace Stacks

open Path (Location locate Inside join)

/-! ## The disk -/

/-- The files and the directories of the disk. -/
structure FileSystem where
  files : Location → Option String := fun _ => none
  directories : Location → Bool := fun _ => false

namespace FileSystem

/-- Put content into a file. -/
def write (fs : FileSystem) (l : Location) (content : String) : FileSystem :=
  { fs with files := fun k => if k = l then some content else fs.files k }

/-- `os.MkdirAll`. -/
def mkdirAll (fs : FileSystem) (l : Location) : FileSystem :=
  { fs with directories := fun k => fs.directories k || decide (Inside k l) }

/-- `os.RemoveAll`. -/
def removeAll (fs : FileSystem) (l : Location) : FileSystem where
  files k := if Inside l k then none else fs.files k
  directories k := !decide (Inside l k) && fs.directories k

/-- `os.Rename`, of a directory. -/
def rename (fs : FileSystem) (old new : Location) : FileSystem where
  files k :=
    if Inside new k then fs.files ⟨old.rooted, old.elements ++ k.elements.drop new.elements.length⟩
    else if Inside old k then none else fs.files k
  directories k :=
    if Inside new k then
      fs.directories ⟨old.rooted, old.elements ++ k.elements.drop new.elements.length⟩
    else !decide (Inside old k) && fs.directories k

/-- `os.Stat` finds something. -/
def exists? (fs : FileSystem) (l : Location) : Bool := (fs.files l).isSome || fs.directories l

end FileSystem

/-! ## Acts -/

/-- What is done on the disk, and what is handed to the manager of Compose
or of Swarm stacks: a stack to deploy on an endpoint, with the content that
its file has at that moment, or to take down there. -/
inductive Act
  | readFile (stackID : StackID) (path : Path)
  | openFile (stackID : StackID) (path : Path)
  | writeFile (stackID : StackID) (path : Path) (content : String)
  | mkdirAll (path : Path)
  | removeAll (path : Path)
  | rename (old new : Path)
  | deploy (stack : Stack) (endpoint : Endpoint) (prune : Bool) (content : String)
  | takeDown (stack : Stack) (endpoint : Endpoint)

/-- The server's database, its disk, and what was done. -/
structure Host where
  server : Server := {}
  fileSystem : FileSystem := {}
  history : List Act := []

/-- What an act does to the disk. A file that is opened for writing is
created or truncated. -/
def Act.onDisk (fs : FileSystem) : Act → FileSystem
  | .readFile _ _ => fs
  | .openFile _ path => fs.write (locate path) ""
  | .writeFile _ path content => fs.write (locate path) content
  | .mkdirAll path => fs.mkdirAll (locate path)
  | .removeAll path => fs.removeAll (locate path)
  | .rename old new => fs.rename (locate old) (locate new)
  | .deploy _ _ _ _ => fs
  | .takeDown _ _ => fs

/-- The host once an act is done. -/
def Host.perform (a : Act) (h : Host) : Host :=
  { h with fileSystem := a.onDisk h.fileSystem, history := h.history ++ [a] }

/-- A part that works on the server alone. -/
def onServer {ε α : Type} (x : Action Callee Server ε α) : Action Callee Host ε α :=
  x.zoom Host.server fun h s => { h with server := s }

/-! ## Services -/

/-- A file of a repository, by the names that lead to it. Neither Git nor
the unpacking of an archive lets a name be empty, have a slash, or be one
of the dots. -/
structure RepositoryFile where
  path : List Path
  segments : ∀ s ∈ path, Path.Segment s
  content : String
  symbolicLink : Bool := false

theorem RepositoryFile.plain_nil : ∀ file ∈ ([] : List RepositoryFile), file.symbolicLink = false :=
  List.forall_mem_nil _

/-- A service of a Compose file, as the loader reads it. -/
structure ComposeService where
  volumeTypes : List String := []
  privileged : Bool := false
  pid : String := ""
  devices : List String := []
  sysctls : List (String × String) := []
  capAdd : List String := []
  capDrop : List String := []
  deriving DecidableEq, Repr

/-- The manager of Compose stacks: the binary `docker-compose`, or the
library where the binary is missing. -/
inductive ComposeStackManager
  | dockerCompose
  | libcompose
  deriving DecidableEq, Repr

/-- What the handlers are given. -/
structure Services where
  fileStorePath : Path
  fileStorePath_ne : fileStorePath ≠ []
  composeStackManager : ComposeStackManager
  /-- `unicode.ToLower`. -/
  lower : Char → Char
  /-- The letters that `unicode.SimpleFold` leads to, by one of them. -/
  foldClass : Char → Char
  /-- `govalidator.IsURL`. -/
  isURL : String → Bool
  /-- `loader.ParseYAML` and `loader.Load`. -/
  loadCompose : String → Except String (List ComposeService)

/-- What is found outside the server while a request is handled: the clock,
what the Docker daemon lists, the repository that is cloned, which has no
symbolic links, and what the Kubernetes deployer answers. -/
structure Outside where
  now : Int := 0
  /-- The labels `com.docker.stack.namespace` of the services. -/
  serviceNamespaces : List String := []
  /-- The labels `com.docker.compose.project` of the containers. -/
  composeProjects : List String := []
  repository : List RepositoryFile := []
  plain : ∀ file ∈ repository, file.symbolicLink = false := by exact RepositoryFile.plain_nil
  convertCompose : String → String := id
  deployOutput : String → String := fun _ => ""

namespace Services

variable (services : Services)

/-- `strings.EqualFold`. -/
def equalFold (s t : String) : Bool :=
  s.toList.map services.foldClass = t.toList.map services.foldClass

/-- `NormalizeStackName`. The library keeps small letters and digits. -/
def normalizeStackName (name : String) : String :=
  match services.composeStackManager with
  | .dockerCompose => name
  | .libcompose => String.ofList ((name.toList.map services.lower).filter fun c =>
      ('a' ≤ c && c ≤ 'z') || ('0' ≤ c && c ≤ '9'))

/-- `GetStackProjectPath`. -/
def getStackProjectPath (stackIdentifier : Path) : Path :=
  join [services.fileStorePath, "compose".toList, stackIdentifier]

end Services

/-- Services that know no letters but the small ones, and a binary
`docker-compose`. -/
def plainServices : Services where
  fileStorePath := "/data".toList
  fileStorePath_ne := by decide
  composeStackManager := .dockerCompose
  lower c := c
  foldClass c := c
  isURL url := url ≠ ""
  loadCompose _ := .ok []

/-- `strconv.Itoa`. -/
def itoa (id : StackID) : Path := (toString id).toList

/-- `govalidator.IsNull`. -/
def isNull (s : String) : Bool := s = ""

/-! ## Files -/

/-- Do something on the disk. -/
def perform (a : Act) : Fallible Host Unit := .call .fileService (Host.perform a)

/-- `GetFileContent`, and the other ways to read a file. -/
def getFileContent (stackID : StackID) (path : Path) : Fallible Host String := do
  let content ← .lookup .fileService "no such file or directory" fun h =>
    h.fileSystem.files (locate path)
  .modify (Host.perform (.readFile stackID path))
  return content

/-- Open a file and write it. -/
def createFile (stackID : StackID) (path : Path) (content : String) : Fallible Host Unit := do
  perform (.openFile stackID path)
  perform (.writeFile stackID path content)

/-- `StoreStackFileFromBytes`: the path of the folder. -/
def storeStackFileFromBytes (services : Services) (stackID : StackID) (fileName : Path)
    (data : String) : Fallible Host Path := do
  let stackStorePath := join ["compose".toList, itoa stackID]
  perform (.mkdirAll (join [services.fileStorePath, stackStorePath]))
  createFile stackID (join [services.fileStorePath, join [stackStorePath, fileName]]) data
  return join [services.fileStorePath, stackStorePath]

/-- `RemoveDirectory`. -/
def removeDirectory (directoryPath : Path) : Fallible Host Unit := perform (.removeAll directoryPath)

/-- `MoveDirectory`. -/
def moveDirectory (originalPath newPath : Path) : Fallible Host Unit := do
  let found ← .query .fileService fun h => h.fileSystem.exists? (locate originalPath)
  .require (found = true) "no such file or directory"
  let alreadyExists ← .query .fileService fun h => h.fileSystem.exists? (locate newPath)
  .require (alreadyExists = false) "Target path already exists"
  perform (.rename originalPath newPath)

/-- `CloneRepository`: the directory, and the files one by one. -/
def cloneRepository (stackID : StackID) (destination : Path) (repository : List RepositoryFile) :
    Fallible Host Unit := do
  .query .gitService fun _ => ()
  perform (.mkdirAll destination)
  repository.forM fun file => createFile stackID (join (destination :: file.path)) file.content

/-- The file that a stack is deployed from. -/
def stackFilePath (stack : Stack) : Path := join [stack.projectPath, stack.entryPoint]

end Stacks

end Portainer
