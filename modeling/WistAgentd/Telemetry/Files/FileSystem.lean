/- # Telemetry.Files.FileSystem -- what the agent sees of the disk during one tick

Names in directories point to nodes (device and inode); a node holds bytes and may refuse to be
opened. A symbolic link is a name with a target and a node of its own. Files are created, renamed
and removed, never linked twice: no two names share a node. The order of `entries` is the order in
which a directory is listed; how a file's bytes arrive in blocks is left to `Chunking`. -/
import Mathlib.Data.List.Nodup
import WistAgentd.Telemetry.Record

namespace WistAgentd.Telemetry
open List Option
set_option autoImplicit false

variable {path : Path}

structure NodeId where
  device : Nat
  inode : Nat
  deriving DecidableEq

/-- One name; `node` is what `lstat` reports, `target` the canonical target of a link. -/
structure DirEntry where
  path : Path
  node : NodeId
  target : Option Path

/-- Why a file that is there cannot be read. -/
inductive Refusal
  | permissionDenied | isADirectory

def Refusal.error : Refusal → IoError
  | .permissionDenied => .new .permissionDenied "Permission denied (os error 13)"
  | .isADirectory => .new .isADirectory "Is a directory (os error 21)"

def notFoundError : IoError := .new .notFound "No such file or directory (os error 2)"

/-- How the bytes of a file arrive: in blocks, none of them empty. -/
structure Chunking where
  cut : Bytes → List Bytes
  flatten_cut : ∀ bytes, (cut bytes).flatten = bytes
  nonempty : ∀ bytes, [] ∉ cut bytes

/-- Everything at once. -/
def Chunking.whole : Chunking where
  cut bytes := if bytes = [] then [] else [bytes]
  flatten_cut bytes := by by_cases empty : bytes = [] <;> simp [empty]
  nonempty bytes := by by_cases empty : bytes = [] <;> simp [empty, Ne.symm]

structure FileSystem where
  entries : List DirEntry
  dirs : List Path
  content : NodeId → Bytes
  refusal : NodeId → Option Refusal
  chunking : Chunking
  distinctPaths : (entries.map DirEntry.path).Nodup
  distinctNodes : (entries.map DirEntry.node).Nodup

/-- `Path::parent`. -/
def parent (path : Path) : Option Path :=
  let body := path.toList.reverse.dropWhile (· = '/')
  if body = [] then none
  else
    let up := body.dropWhile (· ≠ '/')
    let dir := up.dropWhile (· = '/')
    some (if up ≠ [] ∧ dir = [] then "/" else String.ofList dir.reverse)

example : parent "/var/log/app.log" = some "/var/log" := by decide

variable {fs : FileSystem}

namespace FileSystem

/-- A disk of plain files that can all be read at once. -/
def ofFiles (dirs : List Path) (files : List (Path × NodeId × Bytes))
    (distinctPaths : (files.map Prod.fst).Nodup)
    (distinctNodes : (files.map fun file => file.2.1).Nodup) : FileSystem where
  entries := files.map fun file => ⟨file.1, file.2.1, none⟩
  dirs
  content node := ((files.find? fun file => file.2.1 = node).map fun file => file.2.2).getD []
  refusal _ := none
  chunking := .whole
  distinctPaths := by simpa [Function.comp_def] using distinctPaths
  distinctNodes := by simpa [Function.comp_def] using distinctNodes

/-- A disk of one file. -/
def lone (content : Bytes) : FileSystem :=
  .ofFiles ["/d"] [("/d/a", ⟨1, 1⟩, content)] (nodup_singleton _) (nodup_singleton _)

section

variable (fs : FileSystem) (path : Path)

def entryAt : Option DirEntry :=
  fs.entries.find? fun entry => entry.path = path

def canonicalize : Option Path :=
  match fs.entryAt path with
  | none => none
  | some entry => match entry.target with
    | none => some path
    | some target => match fs.entryAt target with
      | some real => if real.target = none then some target else none
      | none => none

/-- The node a path leads to, through a link. -/
def nodeAt : Option NodeId :=
  match fs.canonicalize path with
  | none => none
  | some real => (fs.entryAt real).map DirEntry.node

/-- `File::open` and the first read. -/
def openNode : Except IoError NodeId :=
  match fs.nodeAt path with
  | none => .error notFoundError
  | some node => match fs.refusal node with
    | some refusal => .error refusal.error
    | none => .ok node

end

def readDir (fs : FileSystem) (dir : Path) : Except IoError (List DirEntry) :=
  if dir ∈ fs.dirs then .ok (fs.entries.filter fun entry => parent entry.path = some dir)
  else .error notFoundError

/-- `canonicalize(path)`, or the path as it was given. -/
def realPath (fs : FileSystem) (path : Path) : Path := (fs.canonicalize path).getD path

theorem entryAt_path {entry : DirEntry} (found : fs.entryAt path = some entry) :
    entry.path = path := by
  simpa using List.find?_some found

theorem entryAt_mem {entry : DirEntry} (found : fs.entryAt path = some entry) :
    entry ∈ fs.entries :=
  mem_of_find?_eq_some found

theorem entryAt_of_mem {entry : DirEntry} (mem : entry ∈ fs.entries) :
    fs.entryAt entry.path = some entry := by
  unfold entryAt
  cases found : fs.entries.find? fun other => decide (other.path = entry.path) with
  | none => simpa using List.find?_eq_none.1 found entry mem
  | some other =>
    have atPath : other.path = entry.path := entryAt_path found
    exact congrArg some (inj_on_of_nodup_map fs.distinctPaths (entryAt_mem found) mem atPath)

/-- A name that is no link. -/
def Plain (fs : FileSystem) (path : Path) : Prop :=
  (fs.entryAt path).map DirEntry.target = some none
deriving Decidable

/-- No other name leads to the path. -/
def Unlinked (fs : FileSystem) (path : Path) : Prop := ∀ link ∈ fs.entries, link.target ≠ some path
deriving Decidable

def Readable (fs : FileSystem) (path : Path) : Prop := (fs.openNode path).toOption.isSome = true
deriving Decidable

/-- `lstat`: the node of the name itself. -/
def lstat (fs : FileSystem) (path : Path) : Option NodeId := (fs.entryAt path).map DirEntry.node

theorem lstat_inj {left right : Path} {node : NodeId} (atLeft : fs.lstat left = some node)
    (atRight : fs.lstat right = some node) : left = right := by
  obtain ⟨leftEntry, foundLeft, rfl⟩ := map_eq_some_iff.1 atLeft
  obtain ⟨rightEntry, foundRight, same⟩ := map_eq_some_iff.1 atRight
  have one := inj_on_of_nodup_map fs.distinctNodes (entryAt_mem foundRight)
    (entryAt_mem foundLeft) same
  rw [← entryAt_path foundLeft, ← entryAt_path foundRight, one]

theorem canonicalize_plain (plain : fs.Plain path) : fs.canonicalize path = some path := by
  obtain ⟨entry, found, noTarget⟩ := map_eq_some_iff.1 plain
  simp [canonicalize, found, noTarget]

theorem nodeAt_plain (plain : fs.Plain path) : fs.nodeAt path = fs.lstat path := by
  rw [nodeAt, canonicalize_plain plain]
  rfl

theorem canonicalize_lands {real : Path} (led : fs.canonicalize path = some real) :
    fs.Plain real := by
  unfold canonicalize at led
  split at led
  · simp at led
  · rename_i entry found
    split at led
    · rename_i noTarget
      exact some.inj led ▸ map_eq_some_iff.2 ⟨entry, found, noTarget⟩
    · split at led
      · rename_i realEntry foundReal
        split at led
        · rename_i noTarget
          exact some.inj led ▸ map_eq_some_iff.2 ⟨realEntry, foundReal, noTarget⟩
        · simp at led
      · simp at led

theorem nodeAt_realPath (fs : FileSystem) (path : Path) :
    fs.nodeAt (fs.realPath path) = fs.nodeAt path := by
  unfold realPath
  cases led : fs.canonicalize path with
  | none => rfl
  | some real =>
    rw [getD_some, nodeAt_plain (canonicalize_lands led), nodeAt, led]
    rfl

/-- A path leads to a plain name: itself, or the target of the link it is. -/
theorem nodeAt_some {node : NodeId} (leads : fs.nodeAt path = some node) :
    ∃ real, fs.Plain real ∧ fs.lstat real = some node ∧
      (real = path ∨ ∃ link ∈ fs.entries, link.path = path ∧ link.target = some real) := by
  cases led : fs.canonicalize path with
  | none => simp [nodeAt, led] at leads
  | some real =>
    have plain := canonicalize_lands led
    refine ⟨real, plain, ?_, ?_⟩
    · rw [← nodeAt_plain plain]
      rw [nodeAt, led] at leads
      rw [nodeAt_plain plain]
      exact leads
    · unfold canonicalize at led
      split at led
      · simp at led
      · rename_i entry found
        split at led
        · exact .inl (some.inj led).symm
        · rename_i target toTarget
          refine .inr ⟨entry, entryAt_mem found, entryAt_path found, ?_⟩
          split at led
          · split at led
            · rw [toTarget, some.inj led]
            · simp at led
          · simp at led

theorem openNode_ok {node : NodeId} :
    fs.openNode path = .ok node ↔ fs.nodeAt path = some node ∧ fs.refusal node = none := by
  unfold openNode
  cases at_ : fs.nodeAt path with
  | none => simp
  | some found =>
    cases refused : fs.refusal found with
    | none =>
      simp only [refused, Except.ok.injEq, some.injEq]
      constructor
      · rintro rfl
        exact ⟨rfl, refused⟩
      · exact fun both => both.1
    | some why =>
      simp only [refused, reduceCtorEq, some.injEq, false_iff]
      rintro ⟨rfl, free⟩
      simp [refused] at free

end FileSystem

end WistAgentd.Telemetry
