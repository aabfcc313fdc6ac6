import DirectoryLogin.Directory.Behaviour
import DirectoryLogin.Settings.Authentication

/-!
# The registry of directories

The directories of a site, known by their ids, in the order in which the ids were first
registered. A login asks the enabled ones that the settings list, in the order of the settings; in
exclusive mode only the first of them.
-/

namespace DirectoryLogin

structure Registry where
  /-- One directory for each id. -/
  directories : List Directory

namespace Registry

def empty : Registry := ⟨[]⟩

/-- Puts a directory in the place of the one with its id, else at the end. -/
def place (d : Directory) : List Directory → List Directory
  | [] => [d]
  | x :: rest => if x.sid = d.sid then d :: rest else x :: place d rest

/-- Registers a directory, in place of one with the same id. -/
def insert (r : Registry) (d : Directory) : Registry := ⟨place d r.directories⟩

/-- The registry of a list of directories, each registered in turn. -/
def ofList (ds : List Directory) : Registry := ds.foldl insert empty

/-- The directory with an id. -/
def get? (r : Registry) (sid : String) : Option Directory := r.directories.find? (·.sid == sid)

/-- The ids in order. -/
def sids (r : Registry) : List String := r.directories.map (·.sid)

/-- The directories in the order of their ids. -/
def all (r : Registry) : List Directory := r.directories

/-- The directories that a login asks, in order. -/
def candidates (r : Registry) (c : Settings.Authentication) : List Directory :=
  let listed := (c.sids.filterMap r.get?).filter (·.definition.enabled)
  match c.mode with
  | .mixed => listed
  | .exclusive => listed.take 1

end Registry

end DirectoryLogin
