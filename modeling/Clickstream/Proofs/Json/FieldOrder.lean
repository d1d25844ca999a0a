import Clickstream.Proofs.Json.Format
import Clickstream.Proofs.Json.Messages

/-!
# The order of fields

Events, destinations, failures and messages are read by the names of their fields. So it does not
matter in which order the fields stand, at the top or further inside, where among them the tag of a
message is, and what other fields there are: the value is the same. But a known field must not be
given twice, wherever the two stand.

Each type has a format, which names its fields and says which of them have fields of their own;
the fields of a message depend on its tag.

* `WireEvent.isReadBy_format` and its siblings: each type is read as its format says;
* `Format.describes_messages`: so is every text of it.
-/

namespace Clickstream

open Format

/-! ## Records -/

def WireEvent.format : Format := .record [("t", .value), ("i", .value), ("a", .value)]

def Destination.format : Format :=
  .record [("api_key", .value), ("host", .value), ("request_timeout_ms", .value)]

def DeliveryError.format : Format := .record [("kind", .value), ("message", .value)]

def Accepted.format : Format := .record [("count", .value)]

theorem WireEvent.isReadBy_format : format.IsReadBy (Codec.ofJson? (α := WireEvent)) :=
  isReadBy_record <|
    .bind (reads_value rfl) fun _ =>
    .bind (reads_value rfl) fun _ =>
    .bind (reads_optional rfl) fun _ => reads_pure _

theorem Destination.isReadBy_format : format.IsReadBy (Codec.ofJson? (α := Destination)) :=
  isReadBy_record <|
    .bind (reads_value rfl) fun _ =>
    .bind (reads_value rfl) fun _ =>
    .bind (reads_optional rfl) fun _ => reads_pure _

theorem DeliveryError.isReadBy_format : format.IsReadBy (Codec.ofJson? (α := DeliveryError)) :=
  isReadBy_record <|
    .bind (reads_value rfl) fun _ =>
    .bind (reads_value rfl) fun _ => reads_pure _

theorem Accepted.isReadBy_format : format.IsReadBy (Codec.ofJson? (α := Accepted)) :=
  isReadBy_record <|
    .bind (reads_value rfl) fun _ => reads_pure _

/-! ## Messages -/

/-- The fields of a request, besides its tag. -/
def Request.formats : String → List (String × Format)
  | "ConfigureRequest" => [("id", .value), ("config", Destination.format)]
  | "PublishRequest" => [("id", .value), ("events", .list WireEvent.format)]
  | _ => []

/-- The fields of a response, besides its tag. -/
def Response.formats : String → List (String × Format)
  | "ConfigureResult" => [("id", .value), ("configurationState", .value)]
  | "PublishResult" => [("id", .value), ("result", Accepted.format)]
  | "PublishError" => [("id", .value), ("errorType", .value), ("errorMessage", .value)]
  | _ => []

theorem Request.isReadBy_tagged :
    (tagged formats).IsReadBy (Codec.ofJson? (α := Request)) := by
  refine Format.isReadBy_tagged (fun tag => ?_) fun tag => ?_
  · unfold formats
    split <;> decide
  · unfold formats
    split
    · exact isReadBy_record <|
        .bind (reads_value rfl) fun _ =>
        .bind (reads_required rfl Destination.isReadBy_format) fun _ => reads_pure _
    · exact isReadBy_record <|
        .bind (reads_value rfl) fun _ =>
        .bind (reads_required rfl (isReadBy_list WireEvent.isReadBy_format)) fun _ =>
          reads_pure _
    · simpa [*] using isReadBy_none _

theorem Response.isReadBy_tagged :
    (tagged formats).IsReadBy (Codec.ofJson? (α := Response)) := by
  refine Format.isReadBy_tagged (fun tag => ?_) fun tag => ?_
  · unfold formats
    split <;> decide
  · unfold formats
    split
    · exact isReadBy_record <|
        .bind (reads_value rfl) fun _ =>
        .bind (reads_value rfl) fun _ => reads_pure _
    · exact isReadBy_record <|
        .bind (reads_value rfl) fun _ =>
        .bind (reads_required rfl Accepted.isReadBy_format) fun _ => reads_pure _
    · exact isReadBy_record <|
        .bind (reads_value rfl) fun _ =>
        .bind (reads_value rfl) fun _ =>
        .bind (reads_value rfl) fun _ => reads_pure _
    · simpa [*] using isReadBy_none _

/-! ## Texts -/

/-- In a text of an event, a destination, a failure or a message, the fields of every record may
    stand in any order and among further ones, and the same value is read; but a text in which a
    field of some record is given twice is none. -/
theorem Format.describes_messages :
    WireEvent.format.Describes WireEvent ∧ Destination.format.Describes Destination ∧
      DeliveryError.format.Describes DeliveryError ∧
      (tagged Request.formats).Describes Request ∧ (tagged Response.formats).Describes Response :=
  ⟨WireEvent.isReadBy_format.describes, Destination.isReadBy_format.describes,
    DeliveryError.isReadBy_format.describes, Request.isReadBy_tagged.describes,
    Response.isReadBy_tagged.describes⟩

/-- A request to publish may be written backwards, with a further field in the request and another
    one in the event. -/
theorem Format.describes_messages_backwards :
    let event : WireEvent := { kind := .visitor, id := .ofNat 2 }
    let fields : List (Quote × Json) := [(some "note", .null), (some "i", Codec.toJson event.id),
      (some "t", Codec.toJson event.kind)]
    let message : Json := .object [(some "retry", .bool true),
      (some "events", .array [.object fields]), (some "id", Codec.toJson (Id.ofNat 1)),
      (some "messageType", .text "PublishRequest")]
    decode message.render = some (Request.publish (.ofNat 1) [event]) := by
  intro event fields message
  let request : Request := .publish (.ofNat 1) [event]
  have hrequest : request.Fits := trivial
  have hplain : (Codec.toJson request).isPlain :=
    (Request.isFaithful.isWritable request hrequest).isPlain
  have hheld : (Codec.toJson request).IsHeldBy (encode request) :=
    Json.parse_eq_some_iff.1 (Json.parse_render hplain)
  have hdecode : decode (encode request) = some request :=
    Request.isFaithful.roundTrips.decode_encode request hrequest
  have hevent : WireEvent.format.Agrees (Codec.toJson event) (.object fields) := by
    refine .object (.cons (.same _) (.cons (.same _) .nil)) ?_ (List.reverse_perm [_, _, _])
    exact List.forall_mem_singleton.2 ⟨"note", rfl, by decide, .null⟩
  have hagrees : (tagged Request.formats).Agrees (Codec.toJson request) message := by
    refine ⟨by decide, "PublishRequest", ⟨_, rfl, List.mem_cons_self⟩, ?_⟩
    have hevents : (Format.list WireEvent.format).Agrees
        (.array [Codec.toJson event]) (.array [.object fields]) :=
      ⟨_, _, rfl, rfl, .cons hevent .nil⟩
    refine .object (.cons (.same _) (.cons (.same _) (.cons (.known rfl hevents) .nil))) ?_
      (List.reverse_perm [_, _, _, _])
    exact List.forall_mem_singleton.2 ⟨"retry", rfl, by decide, .bool true⟩
  obtain ⟨-, -, -, hrequests, -⟩ := describes_messages
  exact hrequests.accepted hheld hdecode hagrees (hrequests.written hheld hagrees)

end Clickstream
