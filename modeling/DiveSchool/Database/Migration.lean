import DiveSchool.Database.Session

/-!
# `DiveSchool.Database.Migration` — making the tables

Each migration is applied once: the database keeps a record of those it has seen. Tables that exist
without such a record stand in the way.

## Contents
- **Migrating.** `Database.migrate`.
-/

namespace DiveSchool.Database

open Session

/-- The migrations were not applied. -/
def migrationFailed (reason : String) : Failure :=
  ⟨.database, s!"Schema migration failed: {reason}", some reason⟩

/-- A statement of a migration was refused. -/
def migrationRefused (r : Refusal) : Failure := migrationFailed r.text

/-- Make the tables and put it on record. -/
def makeTables : Session Unit := fun db =>
  if db.schema.exists? then (.error (migrationRefused .tableExists), db)
  else (.ok (), { db with schema := ⟨true, true⟩ })

/-- Apply every migration that the database has not seen yet. -/
def migrate : Session Unit := fun db =>
  if !db.isOpen then (.error (migrationRefused .closed), db)
  else if db.schema.recorded then (.ok (), db)
  else
    match (do control .start migrationRefused; makeTables; control .commit migrationRefused :
        Session Unit) db with
    | (.ok (), after) => (.ok (), after)
    | (.error failure, after) => (.error failure, { after with schema := db.schema })

end DiveSchool.Database
