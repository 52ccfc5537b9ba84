import SafetyRecorder.Incidents.Models
import SafetyRecorder.Lib.TimeOrder

namespace SafetyRecorder

open TimeLayout

/-!
# Instants in the database

SQLite has no type for instants: the repository writes them as texts (`internal/incidents/db_values.go`),
and a condition or an order on such a column compares the texts.

* `parseDBTime_formatDBTime` — what is read back;
* `formatDBTime_le_iff` — when the texts compare as the instants do.
-/

/-- `formatDBTime`, as the code units of the text. -/
def formatDBTime (value : Time) : List Nat := format value

/-- `parseDBTime`. -/
def parseDBTime (value : List Nat) : Option Time := parse rfc3339Nano value

theorem parseDBTime_formatDBTime {t : Time} :
    parseDBTime (formatDBTime t) = some t ↔ FourDigits t :=
  parse_format_iff

end SafetyRecorder
