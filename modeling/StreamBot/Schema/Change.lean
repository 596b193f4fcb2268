import StreamBot.Dict
import StreamBot.Json.Basic
import StreamBot.Text.Search

/-! # Changes of the database's schema -/

namespace StreamBot.Schema

inductive ColumnType where
  | string
  | varchar
  | integer
  | boolean
  | datetime
  | float
  | oneOf (values : List String)
  deriving Repr, DecidableEq

structure Column where
  name : String
  type : ColumnType
  nullable : Bool := false
  default : Option String := none
  serverDefault : Option String := none
  deriving Repr, DecidableEq

inductive Constraint where
  | primaryKey (name : String) (columns : List String)
  | unique (name : String) (columns : List String)
  | foreignKey (name : String) (columns targets : List String) (onUpdate onDelete : Option String)
  deriving Repr, DecidableEq

inductive Part where
  | column (column : Column)
  | constraint (constraint : Constraint)
  deriving Repr, DecidableEq

inductive Alteration where
  | values (column : String) (old new : List String)
  | rename (column name : String)
  | drop (column : String)
  | add (column : Column)
  deriving Repr, DecidableEq

inductive Change where
  | createTable (name : String) (parts : List Part)
  | dropTable (name : String)
  | createIndex (name table : String) (columns : List String)
  | dropIndex (name table : String)
  | addColumn (table : String) (column : Column)
  | dropColumn (table column : String)
  | insert (table : String) (values : List (String × String))
  | statement (sql : String) (parameters : List (String × Json))
  | alterTable (table : String) (always : Bool) (parts : List Part) (alterations : List Alteration)

/-! ## As JSON -/

def ColumnType.toJson : ColumnType → Json
  | .string => .str "string"
  | .varchar => .str "varchar"
  | .integer => .str "integer"
  | .boolean => .str "boolean"
  | .datetime => .str "datetime"
  | .float => .str "float"
  | .oneOf values => .obj [("enum", Json.ofTexts values)]

def Column.toJson (c : Column) : Json := .obj (
  [("name", .str c.name), ("type", c.type.toJson), ("nullable", .bool c.nullable)] ++
  c.default.toList.map (fun value => ("default", .str value)) ++
  c.serverDefault.toList.map (fun sql => ("server_default", .str sql)))

def constraintFields (kind name : String) (columns : List String) : List (String × Json) :=
  [("constraint", .str kind), ("name", .str name), ("columns", Json.ofTexts columns)]

def Constraint.toJson : Constraint → Json
  | .primaryKey name columns => .obj (constraintFields "PrimaryKeyConstraint" name columns)
  | .unique name columns => .obj (constraintFields "UniqueConstraint" name columns)
  | .foreignKey name columns targets onUpdate onDelete => .obj (
      constraintFields "ForeignKeyConstraint" name columns ++
      [("targets", Json.ofTexts targets), ("onupdate", Json.ofText? onUpdate),
        ("ondelete", Json.ofText? onDelete)])

def Part.toJson : Part → Json
  | .column c => c.toJson
  | .constraint c => c.toJson

def alteredColumn (column : String) (old new newName : Json) : Json :=
  .obj [("alter_column", .str column), ("to", new), ("from", old), ("new_name", newName)]

def Alteration.toJson : Alteration → Json
  | .values column old new => alteredColumn column (Json.ofTexts old) (Json.ofTexts new) .null
  | .rename column name => alteredColumn column .null .null (.str name)
  | .drop column => .obj [("drop_column", .str column)]
  | .add column => .obj [("add_column", column.toJson)]

def Change.toJson : Change → Json
  | .createTable name parts => .obj [("create_table", .str name), ("parts", Json.ofList Part.toJson parts)]
  | .dropTable name => .obj [("drop_table", .str name)]
  | .createIndex name table columns => .obj [
      ("create_index", .str name), ("table", .str table), ("columns", Json.ofTexts columns),
      ("unique", .bool false)]
  | .dropIndex name table => .obj [("drop_index", .str name), ("table", .str table)]
  | .addColumn table column => .obj [("add_column", .str table), ("column", column.toJson)]
  | .dropColumn table column => .obj [("drop_column", .str table), ("column", .str column)]
  | .insert table values => .obj [
      ("insert", .str table), ("values", .obj (values.map fun (column, value) => (column, .str value)))]
  | .statement sql parameters => .obj (("sql", .str sql) ::
      if parameters.isEmpty then [] else [("parameters", .obj parameters)])
  | .alterTable table always parts alterations => .obj [
      ("batch", .str table), ("recreate", if always then .str "always" else .null),
      ("parts", Json.ofList Part.toJson parts),
      ("operations", Json.ofList Alteration.toJson alterations)]

/-! ## Migrations

A migration leads from one state of the schema to the next one and back.  What it does can hang on the rows
that are there.
-/

/-- The rows that a question finds, by what stands behind the source in it. -/
abbrev Rows := Dict String (List Json)

def Rows.found (rows : Rows) (source : String) : List Json := (Dict.get? rows source).getD []

structure Migration where
  revision : String
  previous : Option String
  upgrade : Rows → List Change
  downgrade : List Change

inductive Direction where
  | upgrade
  | downgrade
  deriving Repr, DecidableEq

def Migration.changes (m : Migration) (direction : Direction) (rows : Rows) : List Change :=
  match direction with
  | .upgrade => m.upgrade rows
  | .downgrade => m.downgrade

/-! ### What migrations do -/

def text (name : String) : Part := .column { name, type := .string }

def optionalText (name : String) : Part := .column { name, type := .string, nullable := true }

def column (name : String) (type : ColumnType) : Part := .column { name, type }

def primaryKey (table : String) (columns : List String) : Part :=
  .constraint (.primaryKey ("pk_" ++ table) columns)

def statement (sql : String) : Change := .statement sql []

def keyValue (table key value : String) : Change := .insert table [("key", key), ("value", value)]

def withKey (table key : String) : String := table ++ " WHERE key = '" ++ key ++ "'"

def insertMissing (table key value : String) (rows : Rows) : List Change :=
  statement ("SELECT COUNT(*) FROM " ++ withKey table key) ::
    if (rows.found (withKey table key)).isEmpty then [keyValue table key value] else []

def deleteKey (table key : String) : Change := statement ("DELETE FROM " ++ withKey table key)

end StreamBot.Schema
