import ProofGutter.Json.Fields
import ProofGutter.Launch

/-!
# How the verifier is started, read from a record

Every field has a default.
-/

namespace ProofGutter

/-- Reads a record; `isNothing` says which values can stand behind the name of a trigger. -/
def Launch.ofJson? (isNothing : Json → Bool) (v : Json) : Option Launch := do
  let fields ← Json.Fields.of? 7 v
  let init : Launch := {}
  return {
    command := ← fields.withDefault? 0 "command" init.command Json.asString?
    serverPath := ←
      fields.withDefault? 1 "server_path" init.serverPath (Json.asNullable? Json.asString?)
    trigger := ← fields.withDefault? 2 "automatic_verification" init.trigger
      (Json.asCase? isNothing Trigger.ofName?)
    timeLimit := ← fields.withDefault? 3 "time_limit" init.timeLimit Json.asUInt32?
    cores := ← fields.withDefault? 4 "virtual_cores" init.cores Json.asUInt32?
    markGhosts := ← fields.withDefault? 5 "mark_ghost_statements" init.markGhosts Json.asBool?
    extra := ← fields.withDefault? 6 "args" init.extra (Json.asListOf? Json.asString?) }

end ProofGutter
