import LamaSync.Core.Json
import LamaSync.Core.Schema

/-!
# Opening the database

`initDb` runs on every start of the server: the schema, the migrations, the rebuilds of two mobile tables, and the
conversion of the configuration that older versions kept in `app_profiles` and `dotfile_manifests`.  The schema, the
rebuilds and the conversion end it with an exception when they fail; what was done before stays in the file.
-/

namespace LamaSync

open Relational Schema

structure TableRebuild where
  table : String
  staging : String
  create : SqlTable
  columns : List String
  addedColumns : List String
  indexes : List (IndexDef String String String SqlValue)
  dropUniqueOn : String

def enrollmentsRebuild : TableRebuild where
  table := "mobile_enrollments"
  staging := "mobile_enrollments_rebuild"
  create := mobileEnrollmentsTable
  columns := ["id", "secret_hash", "host_id", "client_type", "web_admin", "status", "expires_at", "created_at",
    "consumed_at", "revoked_at"]
  addedColumns := ["kind"]
  indexes := [⟨"idx_mobile_enrollments_status_expires", "mobile_enrollments", ["status", "expires_at"], false, none⟩,
    ⟨"idx_mobile_enrollments_host_id", "mobile_enrollments", ["host_id"], false, none⟩]
  dropUniqueOn := "host_id"

def grantsRebuild : TableRebuild where
  table := "web_grants"
  staging := "web_grants_rebuild"
  create := webGrantsTable
  columns := ["id", "grant_hash", "registration_id", "admin", "created_at", "revoked_at", "revoked_reason"]
  addedColumns := []
  indexes := [⟨"idx_web_grants_registration", "web_grants", ["registration_id"], false, none⟩,
    ⟨"idx_web_grants_live_registration", "web_grants", ["registration_id"], true,
      some fun row => (row "revoked_at").isNone⟩]
  dropUniqueOn := "registration_id"

def rebuilds : List TableRebuild := [enrollmentsRebuild, grantsRebuild]

def hasLegacyUniqueIndexOn (db : SqlDb) (table column : String) : Bool :=
  (db.tables table).elim false (fun d => [column] ∈ d.uniques) ||
    db.indexes.any fun i => i.table = table && i.unique && i.covers.isNone && i.columns = [column]

def needsRebuild (db : SqlDb) (r : TableRebuild) : Bool :=
  hasLegacyUniqueIndexOn db r.table r.dropUniqueOn ||
    (r.addedColumns.any fun c => c ∉ (db.tables r.table).elim [] TableDef.names) ||
    r.indexes.any fun i => !db.indexes.any fun j => j.name = i.name && j.table = i.table

def rebuildScript (db : SqlDb) (r : TableRebuild) : List SqlStatement :=
  .createTable false r.staging r.create ::
    ((db.rows r.table).map fun row => .insert r.staging (r.columns.map fun c => (c, row c))) ++
    .dropTable r.table :: .renameTable r.staging r.table :: r.indexes.map .createIndex

def rebuildTable (db : SqlDb) (r : TableRebuild) : Option SqlDb :=
  if r.columns.all fun c => c ∈ (db.tables r.table).elim [] TableDef.names then
    match runScript db (rebuildScript db r) with
    | (db', true) => some db'
    | _ => none
  else none

def migrateMobileReconnectTables (db : SqlDb) : List TableRebuild → SqlDb × Bool
  | [] => (db, true)
  | r :: rest =>
    if (db.tables r.table).isSome && needsRebuild db r then
      let dropped := ((Statement.dropTable r.staging).exec db).getD db
      match rebuildTable dropped r with
      | none => (dropped, false)
      | some db' => migrateMobileReconnectTables db' rest
    else migrateMobileReconnectTables db rest

/-- What the conversion takes from its surroundings. -/
structure InitEnv where
  parse : String → Option Json
  stringify : Json → String
  /-- The result of the n-th call of `crypto.randomUUID`. -/
  uuid : Nat → String
  now : Int

inductive OsKey where
  | linux
  | macos
  | windows
  deriving DecidableEq

def OsKey.name : OsKey → String
  | linux => "linux"
  | macos => "macos"
  | windows => "windows"

def osKeyFor (os : Option String) : OsKey :=
  match ((os.getD "").map Char.toLower) with
  | "macos" | "darwin" | "mac" | "osx" => .macos
  | "windows" | "win32" | "win64" | "win" => .windows
  | _ => .linux

def sqlText : Option SqlValue → Option String
  | some v => some v.toText
  | none => none

def flatToSpecPath (paths : List Json) : Json :=
  .arr (paths.map fun path => .obj [("path", path), ("classification", .str "unknown")])

def profilePaths (parsed : Json) (os : OsKey) : Option Json :=
  match parsed, parsed.field os.name with
  | .null, _ => none
  | _, none | _, some .null => some (flatToSpecPath [])
  | _, some (.arr paths) => some (flatToSpecPath paths)
  | _, some _ => none

def profileSpec (env : InitEnv) (paths : String) : Option Json := do
  let parsed := (env.parse paths).getD (.obj [])
  let linux ← profilePaths parsed .linux
  let macos ← profilePaths parsed .macos
  let windows ← profilePaths parsed .windows
  return .obj [("paths", .obj [("linux", linux), ("macos", macos), ("windows", windows)]), ("excludes", .arr []),
    ("notes", .null)]

/-- The database with the number of ids drawn, and whether no exception has ended the conversion. -/
structure Conversion where
  db : SqlDb
  drawn : Nat
  ok : Bool

def Conversion.run (c : Conversion) (s : SqlStatement) : Conversion :=
  match s.exec c.db with
  | none => { c with ok := false }
  | some db => { c with db := db }

def Conversion.each {α : Type} (c : Conversion) (step : Conversion → α → Conversion) (rows : List α) : Conversion :=
  rows.foldl (fun c row => if c.ok then step c row else c) c

def convertProfile (env : InitEnv) (c : Conversion) (p : SqlRow) : Conversion :=
  match profileSpec env ((sqlText (p "paths")).getD "") with
  | none => { c with ok := false }
  | some spec =>
    if (c.db.rows "application_templates").any fun t => sqlEq (t "id") (p "id") then c
    else c.run (.insert "application_templates" [("id", p "id"), ("name", p "name"),
      ("origin", some (.text "custom")), ("description", p "description"), ("emoji", p "emoji"), ("color", p "color"),
      ("paths", some (.text (env.stringify spec))), ("install_url", p "install_url"),
      ("install_instructions", p "install_instructions"), ("restore_instructions", p "restore_instructions"),
      ("revision", some (.int 1)), ("created_at", p "created_at"), ("updated_at", p "updated_at")])

def convertProfilesToTemplates (env : InitEnv) (c : Conversion) : Conversion :=
  c.each (convertProfile env) (c.db.rows "app_profiles")

def protectionExists (db : SqlDb) (hostId templateId : Option SqlValue) : Bool :=
  (db.rows "application_protections").any fun p => sqlEq (p "host_id") hostId && sqlEq (p "template_id") templateId

def parseStrings (env : InitEnv) (raw : Option SqlValue) : List Json :=
  match (sqlText raw).bind env.parse with
  | some (.arr items) => items.filter fun | .str _ => true | _ => false
  | _ => []

def textOrNull (value : Option SqlValue) : Json := Json.ofNullableString (sqlText value)

def findTemplate (db : SqlDb) (m : SqlRow) : Option SqlRow :=
  let byProfile := if (m "profile_id").isSome && m "profile_id" ≠ some (.text "") then
      (db.rows "application_templates").find? fun t => sqlEq (t "id") (m "profile_id")
    else none
  byProfile.orElse fun _ => (db.rows "application_templates").find? fun t =>
    sqlEq (t "name") (m "app_name") && t "origin" = some (.text "custom")

def templateForManifest (env : InitEnv) (c : Conversion) (m : SqlRow) :
    Conversion × Option SqlValue × Option SqlValue × Option SqlValue :=
  match findTemplate c.db m with
  | some t => (c, t "id", t "revision", t "name")
  | none =>
    let flat := flatToSpecPath (parseStrings env (m "paths"))
    let spec := Json.obj [("paths", .obj [("linux", flat), ("macos", flat), ("windows", flat)]),
      ("excludes", .arr (parseStrings env (m "excludes"))), ("notes", textOrNull (m "instructions"))]
    let id := some (SqlValue.text (env.uuid c.drawn))
    let made := { c with drawn := c.drawn + 1 }.run (.insert "application_templates" [("id", id),
      ("name", m "app_name"), ("origin", some (.text "custom")), ("paths", some (.text (env.stringify spec))),
      ("revision", some (.int 1)), ("created_at", some (.int env.now)), ("updated_at", some (.int env.now))])
    (made, id, some (.int 1), m "app_name")

def captureSpecForManifest (env : InitEnv) (m : SqlRow) (os : OsKey) : Json :=
  .obj [("paths", .obj [(os.name, flatToSpecPath (parseStrings env (m "paths")))]),
    ("excludes", .arr (parseStrings env (m "excludes"))), ("notes", textOrNull (m "instructions"))]

def protectHost (env : InitEnv) (c : Conversion) (m host : SqlRow) : Conversion :=
  let (c, templateId, revision, name) := templateForManifest env c m
  if !c.ok || protectionExists c.db (host "id") templateId then c
  else
    let id := some (SqlValue.text (env.uuid c.drawn))
    let spec := env.stringify (captureSpecForManifest env m (osKeyFor (sqlText (host "os"))))
    { c with drawn := c.drawn + 1 }.run (.insert "application_protections" [("id", id), ("template_id", templateId),
      ("template_revision", revision), ("host_id", host "id"), ("name", name), ("enabled", some (.int 1)),
      ("schedule", m "schedule"), ("destination", some (.text "server_archive")), ("capture_spec", some (.text spec)),
      ("created_at", some (.int env.now)), ("updated_at", some (.int env.now))])

def isGlobal (m : SqlRow) : Bool := m "host_id" = some (.text "_global")

def hostManifests (db : SqlDb) : List SqlRow :=
  (db.rows "dotfile_manifests").filter fun m => (m "host_id").isSome && !isGlobal m

def convertHostManifest (env : InitEnv) (c : Conversion) (m : SqlRow) : Conversion :=
  match (c.db.rows "hosts").find? fun h => sqlEq (h "id") (m "host_id") with
  | none => c
  | some host => protectHost env c m host

def convertHostManifests (env : InitEnv) (c : Conversion) : Conversion :=
  c.each (convertHostManifest env) (hostManifests c.db)

def alreadyHostSpecific (db : SqlDb) (g host : SqlRow) : Bool :=
  (hostManifests db).any fun m => sqlEq (m "host_id") (host "id") && sqlEq (m "app_name") (g "app_name")

def convertGlobalManifest (env : InitEnv) (c : Conversion) (work : SqlRow × SqlRow) : Conversion :=
  if alreadyHostSpecific c.db work.1 work.2 then c else protectHost env c work.1 work.2

def convertGlobalManifests (env : InitEnv) (c : Conversion) : Conversion :=
  let globals := (c.db.rows "dotfile_manifests").filter isGlobal
  c.each (convertGlobalManifest env) (globals.flatMap fun g => (c.db.rows "hosts").map fun host => (g, host))

def convertLegacyAppConfig (env : InitEnv) (db : SqlDb) : Conversion :=
  let c := convertProfilesToTemplates env ⟨db, 0, true⟩
  let c := if c.ok then convertHostManifests env c else c
  if c.ok then convertGlobalManifests env c else c

def initDb (env : InitEnv) (dropLegacyS3Columns : Bool) (db : SqlDb) : SqlDb × Bool :=
  let (db, ok) := runScript db serverSchema
  if !ok then (db, false)
  else
    let db := runEach db (migrations ++ if dropLegacyS3Columns then legacyS3DropMigrations else [])
    let (db, ok) := migrateMobileReconnectTables db rebuilds
    if !ok then (db, false)
    else
      let c := convertLegacyAppConfig env db
      (c.db, c.ok)

end LamaSync
