import SocketDocs.Catalog.Sample
import SocketDocs.Catalog.WireOptions
import SocketDocs.Keyed
import SocketDocs.SourceFile
import SocketDocs.Text.NameStyle

/-!
# The type catalog

The records that the sources declare, each under its bare name and under its name after its
package. A later record takes over the keys of an earlier one.
-/

namespace SocketDocs

open Json (Value)

structure Record where
  name : String
  package : String
  fields : List (String × Value)
  deriving Inhabited, Repr

namespace Record

/-- A payload with the sample of every field; of two fields with one name the later holds. -/
def samplePayload (record : Record) : Value :=
  .object (Keyed.ofList record.fields)

def qualifiedName (record : Record) : String :=
  record.package ++ "." ++ record.name

def wireName (containerRule : Option String) (options : WireOptions) (declared : String) :
    String :=
  match options.rename, containerRule with
  | some name, _ => name
  | none, some rule => Text.renamed rule declared
  | none, none => declared

def ofField (comments : List Comment) (openLine : Nat) (containerRule : Option String)
    (field : Source.Field) : Option (String × Value) :=
  let options := WireOptions.ofAttributes field.attributes
  let name := wireName containerRule options (Source.unraw field.name)
  if options.skip || name.isEmpty then none
  else (Sample.ofField comments openLine field).map fun sample => (name, sample)

def ofStruct (comments : List Comment) (package : String) (declaration : Source.Struct) : Record where
  name := Source.unraw declaration.name
  package := package
  fields :=
    match declaration.body with
    | some body =>
      let rule := (WireOptions.ofAttributes declaration.attributes).renameAll
      body.fields.filterMap (ofField comments body.openLine rule)
    | none => []

mutual
def ofItem (comments : List Comment) (package : String) : Source.Item → List Record
  | .struct declaration _ =>
    if Source.isTestOnly declaration.attributes then []
    else [ofStruct comments package declaration]
  | .module attributes name _ _ _ inside =>
    if Source.isTestOnly attributes then [] else ofItems comments (Source.unraw name) inside
  | .function _ _ _ _ _ => []
  | .method _ _ _ _ _ => []
  | .implementation _ _ _ _ _ => []
  | .trait _ _ _ _ _ => []
  | .other _ => []

def ofItems (comments : List Comment) (package : String) : List Source.Item → List Record
  | [] => []
  | item :: rest => ofItem comments package item ++ ofItems comments package rest
end

def ofFile (file : SourceFile) : List Record :=
  ofItems file.comments (SourceFile.moduleName file.path) file.items

end Record

structure Catalog where
  records : List Record := []
  index : List (String × Record) := []
  deriving Inhabited

namespace Catalog

def empty : Catalog := {}

def insert (catalog : Catalog) (record : Record) : Catalog where
  records := catalog.records ++ [record]
  index :=
    Keyed.insert record.qualifiedName record (Keyed.insert record.name record catalog.index)

def ofRecords (records : List Record) : Catalog :=
  records.foldl insert empty

def ofFiles (files : List SourceFile) : Catalog :=
  ofRecords (files.flatMap Record.ofFile)

def size (catalog : Catalog) : Nat :=
  catalog.records.length

def keys (catalog : Catalog) : List String :=
  catalog.index.map (·.1)

def get? (catalog : Catalog) (key : String) : Option Record :=
  Keyed.find? key catalog.index

def dotted : List Char → List Char
  | [] => []
  | ':' :: ':' :: rest => '.' :: dotted rest
  | c :: rest => c :: dotted rest

/-- The record that a reference means: the one under exactly that key, or else the one under the
first key in order that ends in the reference after a point. -/
def resolve? (catalog : Catalog) (reference : String) : Option Record :=
  let name := dotted reference.toList
  match catalog.get? (String.ofList name) with
  | some record => some record
  | none =>
    (catalog.index.find? fun entry => ('.' :: name).isSuffixOf entry.1.toList).map (·.2)

end Catalog

end SocketDocs
