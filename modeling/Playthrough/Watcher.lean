/-!
# Watching a file

A change of a file is noticed by its modification time. A look at the file consists of two separate
observations, its modification time and its content, and the file may change between them.

## Main definitions

* `FileError` — why a file cannot be used.
* `Watcher`, `Watcher.start`, `Watcher.look` — the modification time that was seen last.
* `Observations.first`, `Observations.next` — the observations of a look, in their order.
-/

namespace Playthrough

/-- Why a file cannot be used. -/
inductive FileError where
  | notFound
  | notText
  | isDirectory
  | notDirectory
  | denied
  | nameTooLong
  /-- A name with the character NUL in it names nothing. -/
  | nulInName
  deriving DecidableEq, Repr, Inhabited

/-- The wording of an error. -/
def FileError.message : FileError → String
  | .notFound => "No such file or directory (os error 2)"
  | .notText => "stream did not contain valid UTF-8"
  | .isDirectory => "Is a directory (os error 21)"
  | .notDirectory => "Not a directory (os error 20)"
  | .denied => "Permission denied (os error 13)"
  | .nameTooLong => "File name too long (os error 36)"
  | .nulInName => "nul byte found in provided data"

/-- What a look at a file shows. -/
structure Sighting where
  /-- The modification time, if the file system keeps one. -/
  modified : Except FileError (Option Nat)
  content : Except FileError String

/-- The modification time of a file that was seen last. -/
structure Watcher where
  modified : Option Nat
  deriving DecidableEq, Repr, Inhabited

namespace Watcher

/-- The first look at a file. -/
def start (seen : Sighting) : Except FileError (Watcher × String) := do
  let content ← seen.content
  let modified ← seen.modified
  return (⟨modified⟩, content)

/-- Another look at a file: its content if the modification time is another one. That time is
remembered even if the content cannot be read. -/
def look (w : Watcher) (seen : Sighting) : Watcher × Except FileError (Option String) :=
  match seen.modified with
  | .error e => (w, .error e)
  | .ok modified =>
    if modified = w.modified then (w, .ok none)
    else (⟨modified⟩, seen.content.map some)

end Watcher

/-- The two observations of a file, each made at a moment of its own. -/
structure Observations (m : Type → Type) where
  modified : m (Except FileError (Option Nat))
  content : m (Except FileError String)

namespace Observations

variable {m : Type → Type} [Monad m] (o : Observations m)

/-- What the first look at a file shows. The content is observed first, the modification time
afterwards. -/
def first : m Sighting := do
  let content ← o.content
  let modified ← match content with
    | .ok _ => o.modified
    | .error e => pure (.error e)
  return { modified, content }

/-- What another look shows. The modification time is observed first, and the content only if that
time is another one; otherwise it counts as empty. -/
def next (w : Watcher) : m Sighting := do
  let modified ← o.modified
  let content ← match modified with
    | .ok modified => if modified = w.modified then pure (.ok "") else o.content
    | .error e => pure (.error e)
  return { modified, content }

end Observations

end Playthrough
