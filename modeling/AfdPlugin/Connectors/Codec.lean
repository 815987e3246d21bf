import AfdPlugin.Connectors.Metadata
import AfdPlugin.Lib.Json
/-!
# The control-plane codec

A payload travels as JSON. Only the counts, the maximum and the flags are
carried; stage indices become object keys, and keys are written sorted.
-/

namespace AfdPlugin

/-- `torch.tensor(value, dtype=torch.int32)`, which refuses what does not fit. -/
def toInt32 (value : Int) : Except String Int32 :=
  if -2 ^ 31 ≤ value ∧ value < 2 ^ 31 then .ok (Int32.ofInt value)
  else .error "value cannot be converted to type int without overflow"

theorem toInt32_toInt (n : Int32) : toInt32 n.toInt = .ok n := by
  have h1 := n.le_toInt
  have h2 := n.toInt_lt
  rw [toInt32, if_pos ⟨h1, h2⟩, Int32.ofInt_toInt]

/-- `stage_payload`. -/
def stagePayload (md : AFDDPMetadata) : List (String × Json) := [
  ("num_tokens_across_dp_cpu", .arr (md.counts.map .int)),
  ("max_tokens_across_dp_cpu", .int md.maxTokensAcrossDpCpu.toInt)]

/-- `wire_payload`. -/
def wirePayload (payload : AFDControlPayload) : List (String × Json) := [
  ("dp_metadata_list",
    .object (payload.dpMetadataList.entries.map fun e => (toString e.1, .object (stagePayload e.2)))),
  ("is_graph_capturing", .bool payload.isGraphCapturing),
  ("is_warmup", .bool payload.isWarmup),
  ("is_graph_replaying", .bool payload.isGraphReplaying),
  ("is_profile", .bool payload.isProfile)]

/-- `encode_control_payload`. -/
def encodeControlPayload (payload : AFDControlPayload) : Json := .object (wirePayload payload)

def decodeStage (item : String × Json) : Except String (Int × AFDDPMetadata) := do
  let stageIdx ← Json.parseInt item.1
  let counts ← (← (← item.2.field "num_tokens_across_dp_cpu").elems).mapM
    fun value => do toInt32 (← value.toInt)
  let maxTokens ← toInt32 (← (← item.2.field "max_tokens_across_dp_cpu").toInt)
  pure (stageIdx, ⟨counts, maxTokens⟩)

/-- `decode_control_payload`. -/
def decodeControlPayload (payload : Json) : Except String AFDControlPayload := do
  let stages ← (← (← payload.field "dp_metadata_list").items).mapM decodeStage
  pure {
    dpMetadataList := Dict.setAll ∅ stages
    isGraphCapturing := payload.flag "is_graph_capturing"
    isWarmup := payload.flag "is_warmup"
    isGraphReplaying := payload.flag "is_graph_replaying"
    isProfile := payload.flag "is_profile" }

theorem nodup_stagePayload (md : AFDDPMetadata) : ((stagePayload md).map Prod.fst).Nodup :=
  show (["num_tokens_across_dp_cpu", "max_tokens_across_dp_cpu"] : List String).Nodup by decide

theorem nodup_wirePayload (payload : AFDControlPayload) : ((wirePayload payload).map Prod.fst).Nodup :=
  show (["dp_metadata_list", "is_graph_capturing", "is_warmup", "is_graph_replaying", "is_profile"] :
    List String).Nodup by decide

theorem decodeStage_stagePayload (e : Int × AFDDPMetadata) :
    decodeStage (toString e.1, .object (stagePayload e.2)) = .ok e := by
  obtain ⟨stage, md⟩ := e
  have hnum := Json.field_object (nodup_stagePayload md)
    (show (stagePayload md).lookup "num_tokens_across_dp_cpu" = some (.arr (md.counts.map .int)) from rfl)
  have hmax := Json.field_object (nodup_stagePayload md)
    (show (stagePayload md).lookup "max_tokens_across_dp_cpu" =
      some (.int md.maxTokensAcrossDpCpu.toInt) from rfl)
  have hcounts : (md.counts.map Json.int).mapM (fun value => do toInt32 (← value.toInt)) =
      .ok md.numTokensAcrossDpCpu := by
    have h : (md.numTokensAcrossDpCpu.map fun n => Json.int n.toInt).mapM
      (fun value => do toInt32 (← value.toInt)) = .ok (md.numTokensAcrossDpCpu.map fun n => n) :=
      Fallible.mapM_map_ok fun n _ => toInt32_toInt n
    rw [AFDDPMetadata.counts, List.map_map]
    rwa [List.map_id'] at h
  simp only [decodeStage, Json.parseInt_toString, hnum, hmax, Fallible.ok_bind, Json.elems_arr, hcounts,
    Json.toInt_int, toInt32_toInt]
  rfl

/-- What the receiver decodes: the same stages, iterated in the order of their
decimal keys, and the same flags. -/
theorem decodeControlPayload_encode (payload : AFDControlPayload) :
    ∃ d : Dict Int AFDDPMetadata, d.entries.Perm payload.dpMetadataList.entries ∧
      decodeControlPayload (encodeControlPayload payload) = .ok { payload with dpMetadataList := d } := by
  let sorted := payload.dpMetadataList.entries.insertionSort fun a b => toString a.1 ≤ toString b.1
  have hperm : sorted.Perm payload.dpMetadataList.entries := List.perm_insertionSort _ _
  have hsorted : (payload.dpMetadataList.entries.map fun e => (toString e.1, Json.object (stagePayload e.2))
      ).insertionSort (fun a b => a.1 ≤ b.1) = sorted.map fun e =>
          (toString e.1, Json.object (stagePayload e.2)) :=
    (List.map_insertionSort (fun a b : Int × AFDDPMetadata => toString a.1 ≤ toString b.1) _
      (fun e : Int × AFDDPMetadata => (toString e.1, Json.object (stagePayload e.2))) _ fun _ _ _ _ =>
      Iff.rfl).symm
  have hstages : (sorted.map fun e => (toString e.1, Json.object (stagePayload e.2))).mapM decodeStage =
      .ok sorted :=
    (Fallible.mapM_map_ok fun e _ => decodeStage_stagePayload e).trans (by rw [List.map_id'])
  refine ⟨Dict.setAll ∅ sorted, ?_, ?_⟩
  · rw [Dict.entries_empty_setAll ((hperm.map Prod.fst).nodup_iff.2 payload.dpMetadataList.nodup)]
    exact hperm
  · have hn := nodup_wirePayload payload
    have hlist := Json.field_object hn (show (wirePayload payload).lookup "dp_metadata_list" = some (.object
      (payload.dpMetadataList.entries.map fun e => (toString e.1, .object (stagePayload e.2)))) from rfl)
    have hcapturing := Json.flag_object hn
      (show (wirePayload payload).lookup "is_graph_capturing" =
        some (.bool payload.isGraphCapturing) from rfl)
    have hwarmup := Json.flag_object hn
      (show (wirePayload payload).lookup "is_warmup" = some (.bool payload.isWarmup) from rfl)
    have hreplaying := Json.flag_object hn
      (show (wirePayload payload).lookup "is_graph_replaying" =
        some (.bool payload.isGraphReplaying) from rfl)
    have hprofile := Json.flag_object hn
      (show (wirePayload payload).lookup "is_profile" = some (.bool payload.isProfile) from rfl)
    simp only [decodeControlPayload, encodeControlPayload, hlist, Fallible.ok_bind, Json.items_object,
      hsorted, hstages, hcapturing, hwarmup, hreplaying, hprofile]
    rfl

end AfdPlugin
