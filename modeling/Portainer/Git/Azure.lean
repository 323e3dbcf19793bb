import Portainer.Common.GoUrl
/-!
# Repositories of Azure DevOps — addresses

`azure.go`. A repository of Azure DevOps is not cloned: it is downloaded, as
an archive. The organisation, the project and the repository are read from
the address for cloning, and the address of the archive is built from them.
-/

namespace Portainer

open GoUrl (parse parseQuery)
open Percent (escape)

namespace Git

def azureDevOpsHost : Bytes := lit "dev.azure.com"

def visualStudioHostSuffix : Bytes := lit ".visualstudio.com"

/-- `azureOptions`. -/
structure AzureOptions where
  organisation : Bytes
  project : Bytes
  repository : Bytes
  username : Bytes := []
  password : Bytes := []
  deriving DecidableEq, Repr

/-- The base of `NewAzureDownloader`. -/
def baseUrl : Bytes := lit "https://dev.azure.com"

def parseSshUrl (rawUrl : List Char) : Option AzureOptions :=
  match rawUrl.splitOn '/' with
  | [_, organisation, project, repository] =>
    some { organisation := utf8 organisation, project := utf8 project, repository := utf8 repository }
  | _ => none

def parseHttpUrl (rawUrl : Bytes) : Option AzureOptions := do
  let u ← parse rawUrl
  let path := u.path.text.splitOn (byte '/')
  let opt ←
    if u.host = azureDevOpsHost then
      match path with
      | [_, organisation, project, _, repository] =>
        some { organisation := organisation, project := project, repository := repository : AzureOptions }
      | _ => none
    else if visualStudioHostSuffix <:+ u.host then
      match path with
      | [_, project, _, repository] =>
        some {
          organisation := u.host.take (u.host.length - visualStudioHostSuffix.length)
          project := project
          repository := repository }
      | _ => none
    else none
  return { opt with
    username := u.user.elim [] (·.username)
    password := (u.user.bind (·.password)).getD [] }

def parseUrl (rawUrl : String) : Option AzureOptions :=
  let runes := rawUrl.toList
  if "https://".toList <+: runes ∨ "http://".toList <+: runes then parseHttpUrl (utf8 runes)
  else if "git@ssh".toList <+: runes then parseSshUrl runes
  else if "ssh://".toList <+: runes then parseSshUrl (runes.drop 6)
  else none

def branchPrefix : Bytes := lit "refs/heads/"

def tagPrefix : Bytes := lit "refs/tags/"

def formatReferenceName (name : Bytes) : Bytes :=
  if branchPrefix <+: name then name.drop branchPrefix.length
  else if tagPrefix <+: name then name.drop tagPrefix.length
  else name

def getVersionType (name : Bytes) : Bytes :=
  if branchPrefix <+: name then lit "branch"
  else if tagPrefix <+: name then lit "tag"
  else lit "commit"

def buildDownloadUrl (baseUrl : Bytes) (config : AzureOptions) (referenceName : Bytes) : Option Bytes := do
  let rawUrl := baseUrl ++ lit "/" ++ escape .pathSegment config.organisation ++ lit "/" ++
    escape .pathSegment config.project ++ lit "/_apis/git/repositories/" ++
    escape .pathSegment config.repository ++ lit "/items"
  let u ← parse rawUrl
  let q := parseQuery u.rawQuery
  let q := q.set (lit "scopePath") (lit "/")
  let q := q.set (lit "download") (lit "true")
  let q := q.set (lit "versionDescriptor.versionType") (getVersionType referenceName)
  let q := q.set (lit "versionDescriptor.version") (formatReferenceName referenceName)
  let q := q.set (lit "$format") (lit "zip")
  let q := q.set (lit "recursionLevel") (lit "full")
  let q := q.set (lit "api-version") (lit "6.0")
  return { u with rawQuery := q.encode }.string

end Git

end Portainer
