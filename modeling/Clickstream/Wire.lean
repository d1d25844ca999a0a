import Clickstream.Event
import Clickstream.Json.Codec

/-!
# Events and references in JSON

A kind is written as its rank, an id in its canonical spelling. A reference is
`{"event_type":2,"id":"…"}`; an event is `{"t":2,"i":"…","a":{"parent":"…"}}`,
where `a` is left out if there are no attributes. Of two attributes with one key
the later counts.
-/

namespace Clickstream

instance : Codec Id where
  toJson id := .text id.render
  ofJson? v := do Id.parse (← v.text?)

instance : Codec Kind where
  toJson k := .nat k.rank
  ofJson? v := do Kind.ofRank? (← v.natBelow? (Nat.pow 2 8))

instance : Codec AnyReference where
  toJson r := .record [("event_type", Codec.toJson r.kind), ("id", Codec.toJson r.id)]
  ofJson? v := do
    let fields ← v.knownFields? ["event_type", "id"]
    return { kind := ← Json.required? Codec.ofJson? fields "event_type"
             id := ← Json.required? Codec.ofJson? fields "id" }

instance : Codec TextMap where
  toJson m := .record (m.entries.map fun e => (e.1, .text e.2))
  ofJson?
    | .object fields => do
      let entries ← (← Json.namedFields? fields).mapM fun (k, v) => v.text?.map fun s => (k, s)
      return TextMap.ofList entries
    | _ => none

instance : Codec WireEvent where
  toJson e := .record <| [("t", Codec.toJson e.kind), ("i", Codec.toJson e.id)] ++
    match e.attributes with
    | none => []
    | some m => [("a", Codec.toJson m)]
  ofJson? v := do
    let fields ← v.knownFields? ["t", "i", "a"]
    return { kind := ← Json.required? Codec.ofJson? fields "t"
             id := ← Json.required? Codec.ofJson? fields "i"
             attributes := ← Json.optional? Codec.ofJson? fields "a" }

end Clickstream
