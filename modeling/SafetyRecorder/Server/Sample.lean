import Mathlib.Data.List.TakeWhile
import SafetyRecorder.Server.System

namespace SafetyRecorder

open Process

/-!
# Server — a sample environment

A concrete environment, configuration and requests on which runs of the server can
be evaluated.  Identifiers are numbered in unary, digests depend on the length of
the content only, and every frame header and capability is accepted.
-/

/-- The `k`-th identifier: `k` strokes, then the prefix of its kind. -/
def sampleID (kind : String) (k : Nat) : String :=
  String.ofList (List.replicate k 'i' ++ '_' :: kind.toList)

/-- The strokes can be counted again. -/
theorem length_takeWhile_sampleID (kind : String) (k : Nat) :
    ((sampleID kind k).toList.takeWhile (· == 'i')).length = k := by
  rw [sampleID, String.toList_ofList, List.takeWhile_append_of_pos, List.takeWhile_cons_of_neg]
  · rw [List.append_nil, List.length_replicate]
  · decide
  · intro c hc
    rw [List.eq_of_mem_replicate hc]
    rfl

/-- A digest of 64 characters that tells lengths below 64 apart. -/
def sampleDigest (b : Bytes) : String :=
  String.ofList (List.replicate b.length 'a' ++ List.replicate (64 - b.length) '0')

/-- The sample environment, with the local blob store. -/
def sampleEnv : Env where
  newID := sampleID
  newID_inj := by
    intro p q k l h
    rw [← length_takeWhile_sampleID p k, h, length_takeWhile_sampleID]
  newID_ne_empty := by
    intro p k h
    have hlist := congrArg String.toList h
    rw [sampleID, String.toList_ofList] at hlist
    simp at hlist
  dbTimeLE a b := decide (a ≤ b)
  sha256Hex := sampleDigest
  missingBlobIsError := true

/-- The sample configuration: no quota, no upload coordinator. -/
def sampleAPI : API where
  accountBlobQuotaBytes := 0
  maxUploadBytes := 1024
  uploadCoordination := false
  validatePayloadFrameHeader _ _ _ _ _ := true
  requireRelayServiceAuth _ := .ok ()
  validateCapability _ _ := .ok ⟨1024, 100, [.audio, .video, .location, .metadata]⟩
  formatTime t := toString t

/-- The request that opens an incident without an owner. -/
def openIncident : Request :=
  .write ⟨.createIncidentForAccount "" ⟨"", "", none, none, none, none⟩, rfl⟩

/-- The upload of some bytes as an unstreamed audio chunk of an incident. -/
def uploadAudio (incidentID : String) (chunkIndex : Int) (content : Bytes) : Request :=
  .uploadChunk
    { incidentID := incidentID
      principal := ⟨"admin", true⟩
      idempotencyKeyHash := .ok none
      body := .ok ⟨content,
        { chunkIndex := some chunkIndex
          mediaType := some .audio
          startedAt := some 0
          endedAt := some 1
          sha256Hex := sampleDigest content
          originalFilename := ""
          streamID := "" }⟩ }

/-- The request to delete an incident, whether it is closed or not. -/
def deleteIncident (incidentID : String) : Request :=
  .write ⟨.requestIncidentDeletion
    { incidentID := incidentID, source := .adminRequest, allowOpen := true }, rfl⟩

/-- `n` calls of a process, without faults and at time `now`. -/
def goOn (pid n : Nat) (now : Time := 0) : List (Label Request Choice) :=
  List.replicate n (.step pid { now := now })

/-- The label is no call with a fault. -/
def faultless : Label Request Choice → Bool
  | .step _ ch => ch.fault == .none
  | _ => true

end SafetyRecorder
