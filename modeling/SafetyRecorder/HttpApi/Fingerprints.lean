import SafetyRecorder.HttpApi.Reconcile

namespace SafetyRecorder.Reconcile

open Wire (Bytes bytes)

/-!
# HTTP API — the texts behind fingerprints and lease keys

`uploadFingerprintHash` (`idempotency.go`) and `uploadCoordinationKey`
(`upload_coordination.go`) hash a list of named fields.  A value comes after its length, so
that it may hold any bytes.

* `fingerprintText_injective` — lists of fields with the same names have different texts unless
  their values agree;
* `upload_texts_injective` — **no two uploads share a text** unless they agree in every field.
-/

/-- `strconv.Itoa` and `strconv.FormatInt`. -/
def formatInt (i : Int) : Bytes := (Decimal.formatInt i).map UInt8.ofNat

/-- `Format(time.RFC3339Nano)` of an instant in UTC. -/
def formatTime (t : Time) : Bytes := (TimeLayout.format t).map UInt8.ofNat

/-- What `appendFingerprintField` appends: `name=length:value` and a line feed. -/
def appendFingerprintField (name : String) (value : Bytes) : Bytes :=
  bytes name ++ 61 :: (formatInt value.length ++ 58 :: (value ++ [10]))

/-- The text of a list of fields. -/
def fingerprintText (fields : List (String × Bytes)) : Bytes :=
  fields.flatMap fun field => appendFingerprintField field.1 field.2

section Uploads

variable (incidentID : Bytes) (upload : ChunkTexts)

/-- The fields of a chunk's identity. -/
def coordinationFields : List (String × Bytes) :=
  [("incident_id", incidentID), ("stream_id", upload.streamID),
    ("chunk_index", formatInt upload.chunkIndex), ("media_type", bytes upload.mediaType.name)]

/-- The fields of an upload. -/
def fingerprintFields : List (String × Bytes) :=
  coordinationFields incidentID upload ++
    [("started_at", formatTime upload.startedAt), ("ended_at", formatTime upload.endedAt),
      ("original_filename", upload.originalFilename), ("byte_size", formatInt upload.byteSize),
      ("sha256_hex", upload.sha256Hex)]

/-- `uploadFingerprintHash`, for any digest. -/
def uploadFingerprintHash (sha256Hex : Bytes → Bytes) : Bytes :=
  sha256Hex (fingerprintText (fingerprintFields incidentID upload))

/-- `uploadCoordinationKey`, for any digest. -/
def uploadCoordinationKey (sha256Hex : Bytes → Bytes) : Bytes :=
  bytes "proofline:upload-operation:v1:" ++
    sha256Hex (fingerprintText (coordinationFields incidentID upload))

end Uploads

/-! ### The texts of values -/

theorem formatInt_injective {i j : Int} (h : formatInt i = formatInt j) : i = j :=
  Decimal.formatInt_injective
    (Wire.map_ofNat_injective (fun _ => Decimal.formatInt_lt) (fun _ => Decimal.formatInt_lt) h)

theorem formatTime_injective {t u : Time} (h : formatTime t = formatTime u) : t = u := by
  have hlt : ∀ t, ∀ c ∈ TimeLayout.format t, c < 256 := fun t c hc => by
    have := TimeLayout.mem_format hc
    omega
  exact TimeLayout.format_injective (Wire.map_ofNat_injective (hlt t) (hlt u) h)

theorem colon_not_mem_formatInt (i : Int) : 58 ∉ formatInt i := by
  intro h
  obtain ⟨c, hc, heq⟩ := List.mem_map.mp h
  have hrange := Decimal.mem_formatInt hc
  have hcode : c % 256 = 58 := congrArg UInt8.toNat heq
  omega

theorem mediaType_name_injective : ∀ {m n : MediaType}, bytes m.name = bytes n.name → m = n := by
  intro m n
  cases m <;> cases n <;> decide +kernel

/-! ### The texts of fields -/

/-- A field ends where its length says. -/
theorem appendFingerprintField_inj {name : String} {v w r s : Bytes}
    (h : appendFingerprintField name v ++ r = appendFingerprintField name w ++ s) :
    v = w ∧ r = s := by
  simp only [appendFingerprintField, List.append_assoc, List.cons_append, List.append_cancel_left_eq,
    List.cons.injEq, true_and] at h
  obtain ⟨hlen, hrest⟩ := Decimal.append_cons_inj (colon_not_mem_formatInt _)
    (colon_not_mem_formatInt _) h
  have hlen' := Int.ofNat.inj (formatInt_injective hlen)
  obtain ⟨hvalue, hnext⟩ := List.append_inj hrest hlen'
  exact ⟨hvalue, (List.cons.inj hnext).2⟩

/-- **Lists of fields with the same names** have different texts unless their values agree. -/
theorem fingerprintText_injective {fs gs : List (String × Bytes)}
    (hnames : fs.map Prod.fst = gs.map Prod.fst) (h : fingerprintText fs = fingerprintText gs) :
    fs = gs := by
  induction fs generalizing gs with
  | nil => simpa using hnames.symm
  | cons f fs ih =>
    cases gs with
    | nil => cases hnames
    | cons g gs =>
      obtain ⟨name, v⟩ := f
      obtain ⟨name', w⟩ := g
      obtain ⟨rfl, htail⟩ := List.cons.inj hnames
      obtain ⟨rfl, hrest⟩ := appendFingerprintField_inj h
      rw [ih htail hrest]

/-- **No two uploads share a text.**  What is hashed for the fingerprint agrees for two uploads
    exactly when all their fields do, and what is hashed for the key of the lease exactly when
    incident, stream, index and media type do. -/
theorem upload_texts_injective (i j : Bytes) (u v : ChunkTexts) :
    (fingerprintText (fingerprintFields i u) = fingerprintText (fingerprintFields j v) ↔
      i = j ∧ u = v) ∧
    (fingerprintText (coordinationFields i u) = fingerprintText (coordinationFields j v) ↔
      i = j ∧ u.streamID = v.streamID ∧ u.chunkIndex = v.chunkIndex ∧
        u.mediaType = v.mediaType) := by
  refine ⟨⟨fun h => ?_, ?_⟩, fun h => ?_, ?_⟩
  · have hfields := fingerprintText_injective (by rfl) h
    simp only [fingerprintFields, coordinationFields, List.cons_append, List.nil_append,
      List.cons.injEq, Prod.mk.injEq, true_and, and_true] at hfields
    obtain ⟨hincident, hstream, hindex, hmedia, hstart, hend, hname, hsize, hsum⟩ := hfields
    refine ⟨hincident, ?_⟩
    rw [ChunkTexts.mk.injEq]
    exact ⟨hstream, formatInt_injective hindex, mediaType_name_injective hmedia,
      formatTime_injective hstart, formatTime_injective hend, hname, formatInt_injective hsize, hsum⟩
  · rintro ⟨rfl, rfl⟩
    rfl
  · have hfields := fingerprintText_injective (by rfl) h
    simp only [coordinationFields, List.cons.injEq, Prod.mk.injEq, true_and, and_true] at hfields
    obtain ⟨hincident, hstream, hindex, hmedia⟩ := hfields
    exact ⟨hincident, hstream, formatInt_injective hindex, mediaType_name_injective hmedia⟩
  · rintro ⟨rfl, hstream, hindex, hmedia⟩
    simp only [coordinationFields, hstream, hindex, hmedia]

end SafetyRecorder.Reconcile
