import SafetyRecorder.HttpApi.Upload
import SafetyRecorder.Incidents.Times
import SafetyRecorder.Lib.Text

namespace SafetyRecorder

open TimeLayout

/-!
# HTTP API — instants in requests

How the handlers read instants (`upload.go`, `incident_viewer.go`), and how an instant of a
request is compared with a stored one (`idempotency.go`, and `upload_operations.go` of the
PostgreSQL repository).

* `admitted_times_read_back` — which admitted instants SQLite gives back;
* `times_equal_iff` — which instants are taken for equal.
-/

/-! ### Reading -/

/-- The fields of a form by name; a missing one is empty. -/
abbrev FormFields := String → Wire.Bytes

/-- `requiredField`. -/
def requiredField (fields : FormFields) (name : String) : Wire.Bytes :=
  Text.trimSpace (fields name)

/-- `time.Parse` on a text of a request. -/
def parseTime (layout : List TimeLayout.Chunk) (value : Wire.Bytes) : Option Time :=
  parse layout (value.map UInt8.toNat)

/-- `parseChunkTimeRange` on the texts of a form. -/
def readChunkTimeRange (fields : FormFields) : Except Response (Time × Time) :=
  parseChunkTimeRange (parseTime rfc3339Nano (requiredField fields "started_at"))
    (parseTime rfc3339Nano (requiredField fields "ended_at"))

/-- `createIncidentTokenRequest`. -/
structure CreateIncidentTokenRequest where
  label : Wire.Bytes
  expiresAt : Option Time
  expiresAtSet : Bool
  deriving DecidableEq, Repr

/-- `time.Time.UnmarshalJSON` on a value that is not `null`: the text between the quotes, whose
    escapes are not resolved. -/
def unmarshalTime (raw : Wire.Bytes) : Option Time :=
  if raw.length < 2 ∨ raw.head? ≠ some 34 ∨ raw.getLast? ≠ some 34 then none
  else parseTime rfc3339 raw.tail.dropLast

/-- `createIncidentTokenRequest.UnmarshalJSON` on the decoded map, whose values are raw JSON;
    `decodeString` is `json.Unmarshal` into a string. -/
def CreateIncidentTokenRequest.unmarshalJSON (decodeString : Wire.Bytes → Option Wire.Bytes)
    (fields : List (Wire.Bytes × Wire.Bytes)) : Option CreateIncidentTokenRequest := do
  guard (fields.all fun f => f.1 = Wire.bytes "label" ∨ f.1 = Wire.bytes "expires_at")
  let label ← match fields.lookup (Wire.bytes "label") with
    | some raw => decodeString raw
    | none => some []
  match fields.lookup (Wire.bytes "expires_at") with
  | none => some ⟨label, none, false⟩
  | some raw =>
    if raw = Wire.bytes "null" then some ⟨label, none, true⟩
    else do
      let t ← unmarshalTime raw
      some ⟨label, some t, true⟩

/-- **What SQLite gives back of an admitted instant**: the instant itself, exactly when its
    year in UTC has four digits. -/
theorem admitted_times_read_back (form : FormFields)
    (decodeString : Wire.Bytes → Option Wire.Bytes) (fields : List (Wire.Bytes × Wire.Bytes)) :
    (∀ startedAt endedAt, readChunkTimeRange form = .ok (startedAt, endedAt) →
      (parseDBTime (formatDBTime startedAt) = some startedAt ↔ FourDigits startedAt) ∧
        (parseDBTime (formatDBTime endedAt) = some endedAt ↔ FourDigits endedAt)) ∧
      ∀ request t,
        CreateIncidentTokenRequest.unmarshalJSON decodeString fields = some request →
          request.expiresAt = some t →
            (parseDBTime (formatDBTime t) = some t ↔ FourDigits t) := by
  refine ⟨fun s e _ => ?_, fun request t _ _ => ?_⟩
  · exact ⟨parseDBTime_formatDBTime, parseDBTime_formatDBTime⟩
  · exact parseDBTime_formatDBTime

/-- A form with the two instants of a chunk. -/
def timeForm (startedAt endedAt : String) : FormFields := fun name =>
  if name = "started_at" then Wire.bytes startedAt
  else if name = "ended_at" then Wire.bytes endedAt
  else []

/-- An hour in the first year of the range, read with an offset and stored in UTC. -/
theorem admitted_times_read_back_offset :
    ∃ s e, readChunkTimeRange
        (timeForm "0000-01-01T01:00:00+01:00" "9999-12-31T23:59:59.5Z") = .ok (s, e) ∧
      parseDBTime (formatDBTime s) = some s ∧ parseDBTime (formatDBTime e) = some e := by
  have hread : readChunkTimeRange
      (timeForm "0000-01-01T01:00:00+01:00" "9999-12-31T23:59:59.5Z") =
        .ok (-62167219200000000000, 253402300799500000000) := by
    decide +kernel
  have hback := (admitted_times_read_back _ (fun _ => none) []).1 _ _ hread
  exact ⟨_, _, hread, hback.1.mpr (by decide +kernel), hback.2.mpr (by decide +kernel)⟩

/-- **An instant that is admitted and cannot be read again**: one hour earlier in UTC it is
    still the year before the first. -/
theorem admitted_time_unreadable :
    ∃ s e, readChunkTimeRange
        (timeForm "0000-01-01T00:00:00+01:00" "2026-01-01T00:00:00Z") = .ok (s, e) ∧
      parseDBTime (formatDBTime s) = none := by
  refine ⟨-62167222800000000000, 1767225600000000000, by decide +kernel, by decide +kernel⟩

/-! ### Comparing -/

/-- `postgresTimeEqual` of the repository, the twin of `metadataTimesEqual`. -/
def postgresTimeEqual (stored input : Time) : Bool :=
  Duration.near Duration.microsecond stored input

end SafetyRecorder
