import Portainer.Common.FileTree
import Portainer.Model.DataStore
/-!
# Archives — the three extractors, and the archive of a directory

`ExtractTarGz`, `UnzipArchive` and `UnzipFile` go over the entries of an
archive and write what they hold into a directory. Each joins the names of
the entries to the directory in its own way: the first makes the parents of
every file, the second makes none, and the third makes them after a check
of the joined path.

`TarGzDir` makes an archive of a directory inside the directory. The archive
stands for the bytes that are written, and a walk lists what there is before
it comes by: plain files and directories.

The disk remembers what was made and written. A read of the archive that
fails, also half way, is a fault.
-/

namespace Portainer

open Path (join clean dir)

namespace Archive

/-- Something that was made or written, by its location. -/
inductive Act
  | mkdir (location : List Path)
  | create (location : List Path)
  | write (location : List Path)
  deriving DecidableEq, Repr

/-- The disk, and what has been done to it. -/
structure Disk where
  tree : FileTree
  acts : List Act := []

/-- Where a path leads. -/
def Disk.locate (h : Disk) (p : Path) : List Path := resolve h.tree.workingDirectory p

/-! ## The operating system -/

/-- `os.MkdirAll`. -/
def mkdirAll (p : Path) : Fallible Disk Unit := do
  let possible ← .get fun h : Disk => h.tree.canMkdirAll (h.locate p)
  .require (possible = true) "not a directory"
  .call .fileService fun h =>
    { tree := h.tree.mkdirAll (h.locate p)
      acts := h.acts ++ (h.tree.missing (h.locate p)).map .mkdir }

/-- `os.Create`, and `os.OpenFile` with the flags that create and
truncate. -/
def create (p : Path) : Fallible Disk Unit := do
  let possible ← .get fun h : Disk => h.tree.canCreate (h.locate p)
  .require (possible = true ∧ p ≠ []) "no such file or directory"
  .call .fileService fun h =>
    { tree := h.tree.withFile (h.locate p) ""
      acts := h.acts ++ [.create (h.locate p)] }

/-- `io.Copy`, into a file that was created. -/
def copy (p : Path) (content : String) : Fallible Disk Unit :=
  .call .fileService fun h =>
    { tree := h.tree.withFile (h.locate p) content
      acts := h.acts ++ [.write (h.locate p)] }

/-! ## Tar archives -/

/-- `tar.TypeReg` and `tar.TypeDir`, as bytes. -/
def typeReg : ℕ := 48

@[inherit_doc typeReg]
def typeDir : ℕ := 53

/-- An entry of a tar archive. -/
structure TarEntry where
  name : Path
  typeflag : ℕ
  content : String := ""

/-- The path that a regular entry is written to. -/
def extractedPath (outputDirPath : Path) (header : TarEntry) : Path :=
  clean (join [outputDirPath, header.name])

/-- One turn of the loop of `ExtractTarGz`. -/
def extractTarEntry (outputDirPath : Path) (header : TarEntry) : Fallible Disk Unit :=
  if header.typeflag = typeDir then pure ()
  else if header.typeflag = typeReg then do
    let p := extractedPath outputDirPath header
    (mkdirAll (dir p)).mapError fun _ => s!"Failed to extract dir {String.ofList (dir p)}"
    (create p).mapError fun _ => s!"Failed to create file {String.ofList header.name}"
    (copy p header.content).mapError fun _ => s!"Failed to extract file {String.ofList header.name}"
  else .fail s!"Tar: uknown type: {header.typeflag} in {String.ofList header.name}"

/-- The header of the next entry is read, and the entry extracted. -/
def nextTarEntry (outputDirPath : Path) (header : TarEntry) : Fallible Disk Unit := do
  .query .requestBody fun _ => ()
  extractTarEntry outputDirPath header

/-- `ExtractTarGz`. -/
def extractTarGz (archive : List TarEntry) (outputDirPath : Path) : Fallible Disk Unit := do
  .query .requestBody fun _ => ()
  archive.forM (nextTarEntry outputDirPath)

/-! ## Zip archives -/

/-- An entry of a zip archive. The mode says whether it is a directory. -/
structure ZipEntry where
  name : Path
  isDir : Bool := false
  content : String := ""

/-- `extractFileFromArchive`. -/
def extractFileFromArchive (dest : Path) (file : ZipEntry) : Fallible Disk Unit := do
  .query .requestBody fun _ => ()
  let fpath := join [dest, file.name]
  create fpath
  copy fpath file.content

/-- `UnzipArchive`. -/
def unzipArchive (archive : List ZipEntry) (dest : Path) : Fallible Disk Unit := do
  .query .requestBody fun _ => ()
  archive.forM (extractFileFromArchive dest)

/-- The check of `UnzipFile`. -/
def legalFilePath (dest p : Path) : Bool := decide (clean dest ++ ['/'] <+: p)

/-- `unzipFile`. -/
def unzipEntry (f : ZipEntry) (p : Path) : Fallible Disk Unit := do
  (mkdirAll (dir p)).mapError (s!"unzipFile: can't make a path {String.ofList p}: " ++ ·)
  (create p).mapError (s!"unzipFile: can't create file {String.ofList p}: " ++ ·)
  (Action.query .requestBody fun _ => ()).mapError
    (s!"unzipFile: can't open zip file {String.ofList f.name} in the archive: " ++ ·)
  (copy p f.content).mapError ("unzipFile: can't copy an archived file content: " ++ ·)

/-- One turn of the loop of `UnzipFile`. A directory that cannot be made is
passed over. -/
def unzipTurn (dest : Path) (f : ZipEntry) : Fallible Disk Unit := do
  let p := join [dest, f.name]
  .require (legalFilePath dest p = true) s!"{String.ofList p}: illegal file path"
  if f.isDir then do
    let _ ← (mkdirAll p).attempt
    return ()
  else unzipEntry f p

/-- `UnzipFile`, of the archive that is read from disk. -/
def unzipFile (archive : List ZipEntry) (dest : Path) : Fallible Disk Unit := do
  .query .fileService fun _ => ()
  archive.forM (unzipTurn dest)

end Archive

open Path (base trimPrefix)

namespace Archive.Packing

/-! ## The operating system -/

/-- `os.Open`, and what is read from the file. -/
def readFile (p : Path) : Fallible Disk String :=
  .lookup .fileService "no such file or directory" fun h : Disk => h.tree.content? (h.locate p)

/-- Something that a walk comes by. -/
structure Visit where
  path : Path
  node : Node

/-- What `filepath.Walk` comes by. The names are joined to the root one
after the other. -/
def visits (root : Path) (h : Disk) : List Visit :=
  (h.tree.below (h.locate root)).filterMap fun l => (h.tree.node l).map fun node =>
    ⟨(l.drop (h.locate root).length).foldl (fun p name => join [p, name]) root, node⟩

/-- The visits, one after the other. -/
def visitAll {α : Type} (visit : Visit → Fallible Disk α) : List Visit → Fallible Disk (List α)
  | [] => pure []
  | v :: vs => do
    .query .fileService fun _ => ()
    let a ← visit v
    let as ← visitAll visit vs
    pure (a :: as)

/-- `filepath.Walk`. -/
def filepathWalk {α : Type} (root : Path) (visit : Visit → Fallible Disk α) : Fallible Disk (List α) := do
  let found ← .get (visits root)
  .require (found.isEmpty = false) "no such file or directory"
  visitAll visit found

/-! ## Archives -/

/-- `addToArchive`. -/
def addToArchive (pathInArchive : Path) (v : Visit) : Fallible Disk TarEntry :=
  match v.node with
  | .directory => pure ⟨pathInArchive, typeDir, ""⟩
  | .file _ => do return ⟨pathInArchive, typeReg, ← readFile v.path⟩

/-- The archive itself is skipped. -/
def archiveVisit (absolutePath targzPath : Path) (v : Visit) : Fallible Disk (Option TarEntry) :=
  if v.path = targzPath then pure none
  else if clean (trimPrefix absolutePath v.path) = [] then pure none
  else do return some (← addToArchive (clean (trimPrefix absolutePath v.path)) v)

/-- The path of the archive of a directory. -/
def targzPath (absolutePath : Path) : Path := join [absolutePath, base absolutePath ++ ".tar.gz".toList]

/-- `TarGzDir`, with what the archive holds. -/
def tarGzDir (absolutePath : Path) : Fallible Disk (List TarEntry) := do
  create (targzPath absolutePath)
  let entries ← filepathWalk absolutePath (archiveVisit absolutePath (targzPath absolutePath))
  return entries.filterMap id

end Archive.Packing

end Portainer
