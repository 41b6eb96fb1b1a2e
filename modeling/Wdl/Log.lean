import Wdl.Binary64
import Wdl.Json.Basic

/-!
Log records.

The message of a record is a text, which may come with named fields. A record is written either as
one text or as a JSON object.
-/

namespace Wdl
namespace Log

/-- What a record says. -/
structure Message where
  text : String
  fields : List (String × Json) := []

structure Record where
  message : Message
  /-- the part of the program that writes the record -/
  source : String
  level : Int
  /-- the time, in seconds -/
  created : Float

/-- A message with its fields after it. -/
def Message.line (m : Message) : String :=
  if m.fields.isEmpty then m.text
  else m.text ++ " :: " ++ ", ".intercalate (m.fields.map fun f => f.1 ++ ": " ++ f.2.render)

/-- The names of levels. -/
def levelNames : List (Int × String) :=
  [(0, "NOTSET"), (10, "DEBUG"), (15, "VERBOSE"), (20, "INFO"), (25, "NOTICE"), (30, "WARNING"),
   (40, "ERROR"), (50, "CRITICAL")]

/-- The name of a level. -/
def levelName (level : Int) : String :=
  (levelNames.lookup level).getD ("Level " ++ toString level)

/-- A time to the nearest thousandth, a tie going to the even one. -/
def roundToMillis (x : Float) : Float :=
  match Binary64.decode x with
  | .finite neg m e =>
    if 0 ≤ e then x
    else Binary64.ofRatio neg (Binary64.roundDiv (m * 1000) (Nat.pow 2 (-e).toNat)) 1000
  | _ => x

/-- A record as data. The level and the message take precedence over fields of these names, and the
other particulars of a record over all fields. -/
def Record.json (r : Record) : Json :=
  let level := ("level", Json.str (levelName r.level))
  let stated := [level, ("message", .str r.message.text)]
  let fields := r.message.fields.filter fun f => !Assoc.contains f.1 stated
  .obj (Assoc.update (stated ++ fields)
    [("timestamp", .float (roundToMillis r.created)), ("source", .str r.source), level,
     ("levelno", .int r.level)])

end Log
end Wdl
