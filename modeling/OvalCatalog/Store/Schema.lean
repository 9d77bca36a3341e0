import OvalCatalog.Store.Basic
import OvalCatalog.Store.Index

namespace OvalCatalog

structure SchemaError where
  index : Index

def SchemaError.messageWith (cause : String) (e : SchemaError) : String :=
  "Failed to create index. stmt: " ++ e.index.statementStart ++ ", err: " ++ cause

def SchemaError.message (e : SchemaError) : String :=
  e.messageWith "no such table or column"

structure Database where
  store : Store := {}
  indexes : List String := []

namespace Database

def createIndexes : List Index → Database → Except SchemaError Unit × Database
  | [], d => (.ok (), d)
  | i :: rest, d =>
    match i.made? with
    | none => (.error ⟨i⟩, d)
    | some name =>
      if d.indexes.any (Sql.sameName name) then createIndexes rest d
      else createIndexes rest { d with indexes := d.indexes ++ [name] }

def migrate (extra : List Index) (d : Database) : Except SchemaError Unit × Database :=
  d.createIndexes (Index.standard ++ extra)

def migrated (extra : List Index) (d : Database) : Database :=
  (d.migrate extra).2

def fresh : Database :=
  migrated [] {}

def indexNames (d : Database) : List String :=
  d.indexes.mergeSort fun a b => !(b < a)

end Database

end OvalCatalog
