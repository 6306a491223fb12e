import Specimen.Json.Reader
import Specimen.Schema.Error
import Specimen.Yaml.Reader

/-!
# Documents by path

A schema may refer to other documents by their paths. A `Loader` says which
paths have a document and what it is; it stands for the files of a directory or
for a table of documents alike, and the sampler asks nothing else of it.
-/

namespace Specimen

/-- Which documents there are. -/
structure Loader where
  /-- Whether a document stands at a path. -/
  has : Path → Bool
  load : Path → Except SchemaError Json

/-! ## Documents in files -/

namespace Dialect

/-- The language of the document at a path, by the ending of its name. -/
def ofPath (p : Path) : Dialect :=
  match p.extension? with
  | some ending =>
    let ending := ending.map Char.toLower
    if ending = ['y', 'a', 'm', 'l'] ∨ ending = ['y', 'm', 'l'] then .yaml else .json
  | none => .json

/-- The document that a text denotes. -/
def read? : Dialect → String → Option Json
  | json, text => Json.read? text
  | yaml, text => Yaml.read? text

end Dialect

/-- The document that the text at a path denotes. -/
def parseDocument (p : Path) (text : String) : Except SchemaError Json :=
  let dialect := Dialect.ofPath p
  match dialect.read? text with
  | some d => .ok d
  | none => .error (.malformed (.unparsable p dialect))

/-- The documents in files. -/
def Loader.ofFiles (files : Files) : Loader where
  has := files.isFile
  load p :=
    match files.read p with
    | .error reason => .error (.unresolvable p.text (.unreadable reason))
    | .ok text => parseDocument p text

/-! ## Documents in a table -/

/-- Documents registered under paths, the latest first. -/
structure DocumentTable where
  entries : List (Path × Json)

namespace DocumentTable

def empty : DocumentTable := ⟨[]⟩

/-- The table with a document registered under a path, in place of any other. -/
def insert (table : DocumentTable) (p : Path) (d : Json) : DocumentTable :=
  ⟨(p, d) :: table.entries⟩

def get? (table : DocumentTable) (p : Path) : Option Json :=
  (table.entries.find? fun entry => entry.1.same p).map (·.2)

def toLoader (table : DocumentTable) : Loader where
  has p := (table.get? p).isSome
  load p :=
    match table.get? p with
    | some d => .ok d
    | none => .error (.unresolvable p.text .unregistered)

end DocumentTable

end Specimen
