import Clickstream.Event
import Clickstream.Message
import Clickstream.Proofs.Json.Records

/-!
# Messages read back

Events, references, destinations, results and messages come out of their texts as they went in.
A type has a form in JSON that can be relied on (`Codec.IsFaithful`) if what is written is read
back and can be kept for a second look, as whatever stands inside a message has to be. Such
forms are put together as the types are: a list of what can be relied on can be relied on, and a
record if its fields can.

Numbers are the only values that may not fit: a time limit and a count have 64 bits. What is
read always fits, so whatever document is accepted, also one that the program would write in
another way, its value is written as a text that stays the same from then on.

* `IsFaithful.list`, `WireEvent.isFaithful` and the like: the forms of the types;
* `IsFaithful.roundTrips`: what holds of the form holds of the text;
* `Codec.roundTrips_messages`: so it does for everything that is sent or stored.
-/

namespace Clickstream

/-! ## Forms that can be relied on -/

/-- Whether the form of a type in JSON can be relied on, for the values that fit into it: a
    value is written as a document that can be kept, at most so deep, and is read back from it;
    and what is read fits. -/
structure Codec.IsFaithful (α : Type) [Codec α] (Fits : α → Prop) (d : Nat) : Prop where
  isWritable : ∀ a, Fits a → (toJson a).IsWritable d
  ofJson?_toJson : ∀ a, Fits a → ofJson? (toJson a) = some a
  fits : ∀ v (a : α), ofJson? v = some a → Fits a

open Codec Json

@[simp] theorem Id.ofJson?_toJson (id : Id) : ofJson? (toJson id) = some id := by
  show ((text id.render).text?).bind Id.parse = some id
  rw [text?_text, Option.bind_some, id.parse_render]

theorem Id.isFaithful : IsFaithful Id (fun _ => True) 0 where
  isWritable id _ := .text id.render
  ofJson?_toJson id _ := id.ofJson?_toJson
  fits _ _ _ := trivial

theorem Kind.rank_lt (k : Kind) : k.rank < Nat.pow 2 8 := by cases k <;> decide

@[simp] theorem Kind.ofJson?_toJson (k : Kind) : ofJson? (toJson k) = some k := by
  show ((nat k.rank).natBelow? (Nat.pow 2 8)).bind Kind.ofRank? = some k
  rw [natBelow?_nat k.rank_lt, Option.bind_some, Kind.ofRank?_rank]

theorem Kind.isFaithful : IsFaithful Kind (fun _ => True) 0 where
  isWritable k _ := .nat (Nat.lt_trans k.rank_lt (by decide))
  ofJson?_toJson k _ := k.ofJson?_toJson
  fits _ _ _ := trivial

theorem TextMap.isFaithful : IsFaithful TextMap (fun _ => True) 1 where
  isWritable _ _ := .record (List.forall_mem_map.2 fun e _ => .text e.2)
  ofJson?_toJson m _ := m.ofJson?_toJson
  fits _ _ _ := trivial

theorem exists_of_mapM {α β : Type} {f : α → Option β} {as : List α} {bs : List β}
    (h : as.mapM f = some bs) {b : β} (hb : b ∈ bs) : ∃ a ∈ as, f a = some b := by
  induction as generalizing bs with
  | nil =>
    cases h
    cases hb
  | cons a as ih =>
    simp only [List.mapM_cons, Option.bind_eq_bind, Option.bind_eq_some_iff, Option.pure_def,
      Option.some.injEq] at h
    obtain ⟨c, hc, cs, hcs, rfl⟩ := h
    rcases List.mem_cons.1 hb with rfl | hb
    · exact ⟨a, List.mem_cons_self, hc⟩
    · obtain ⟨x, hx, hxb⟩ := ih hcs hb
      exact ⟨x, List.mem_cons_of_mem _ hx, hxb⟩

theorem Codec.IsFaithful.list {α : Type} [Codec α] {Fits : α → Prop} {d : Nat}
    (h : IsFaithful α Fits d) : IsFaithful (List α) (fun as => ∀ a ∈ as, Fits a) (d + 1) where
  isWritable as has := .array (List.forall_mem_map.2 fun a ha => h.isWritable a (has a ha))
  ofJson?_toJson as has := by
    show (as.map toJson).mapM ofJson? = some as
    induction as with
    | nil => rfl
    | cons a as ih =>
      obtain ⟨ha, has⟩ := List.forall_mem_cons.1 has
      rw [List.map_cons, List.mapM_cons, h.ofJson?_toJson a ha, ih has]
      rfl
  fits v as has a ha := by
    obtain ⟨items, -, hitems⟩ := Option.bind_eq_some_iff.1 has
    obtain ⟨w, -, hw⟩ := exists_of_mapM hitems ha
    exact h.fits w a hw

theorem WireEvent.isFaithful : IsFaithful WireEvent (fun _ => True) 2 where
  isWritable e _ := by
    have hkind : (toJson e.kind).IsWritable 1 :=
      (Kind.isFaithful.isWritable e.kind trivial).mono (by decide)
    have hid : (toJson e.id).IsWritable 1 :=
      (Id.isFaithful.isWritable e.id trivial).mono (by decide)
    refine .record ?_
    cases e.attributes with
    | none => simp [hkind, hid]
    | some m => simp [hkind, hid, TextMap.isFaithful.isWritable m trivial]
  ofJson?_toJson e _ := by
    obtain ⟨kind, id, attributes⟩ := e
    show (Option.bind ((record _).knownFields? _) _) = _
    cases attributes with
    | none =>
      rw [knownFields?_record _ _ (by simp) (by simp)]
      simp [required?, optional?, List.lookup_cons]
    | some m =>
      have hmap := optional?_of_lookup (ofJson? (α := TextMap))
        [("t", toJson kind), ("i", toJson id), ("a", toJson m)] "a" rfl (by rintro ⟨⟩)
      rw [knownFields?_record _ _ (by simp) (by simp)]
      simp [required?, List.lookup_cons, hmap, m.ofJson?_toJson]
  fits _ _ _ := trivial

theorem WireEvent.isFaithful_list : IsFaithful (List WireEvent) (fun _ => True) 3 where
  isWritable es _ := isFaithful.list.isWritable es fun _ _ => trivial
  ofJson?_toJson es _ := isFaithful.list.ofJson?_toJson es fun _ _ => trivial
  fits _ _ _ := trivial

theorem AnyReference.isFaithful : IsFaithful AnyReference (fun _ => True) 1 where
  isWritable r _ := by
    refine .record ?_
    simp [Kind.isFaithful.isWritable r.kind trivial, Id.isFaithful.isWritable r.id trivial]
  ofJson?_toJson r _ := by
    show (Option.bind ((record _).knownFields? _) _) = _
    rw [knownFields?_record _ _ (by simp) (by simp)]
    simp [required?, List.lookup_cons]
  fits _ _ _ := trivial

/-! ## Destinations and results -/

/-- Whether a time limit has 64 bits. -/
def Destination.Fits (d : Destination) : Prop := ∀ n ∈ d.timeout, n < timeoutBound

/-- Whether a count has 64 bits. -/
def Accepted.Fits (a : Accepted) : Prop := a.count < countBound

/-- A value that is written by its name is also found in a document that was kept. -/
theorem Json.required?_name {α : Type} {ofName? : String → Option α} {s : String} {a : α}
    (ha : ofName? s = some a) (fields : List (String × Json)) (name : String)
    (h : fields.lookup name = some (text s)) :
    required? (fun v => (v.name? true).bind ofName?) fields name = some a := by
  rw [required?_of_lookup _ _ _ h]
  exact ha

theorem Destination.isFaithful : IsFaithful Destination Fits 1 where
  isWritable d hd := by
    refine .record ?_
    cases htimeout : d.timeout with
    | none => simp [IsWritable.text]
    | some n => simp [IsWritable.text, IsWritable.nat (hd n htimeout)]
  ofJson?_toJson d hd := by
    obtain ⟨apiKey, host, timeout⟩ := d
    show (Option.bind ((record _).knownFields? _) _) = _
    cases timeout with
    | none =>
      rw [knownFields?_record _ _ (by simp) (by simp)]
      simp [required?, optional?, List.lookup_cons]
    | some n =>
      have hn := natBelow?_nat (hd n rfl)
      have hread := optional?_of_lookup (natBelow? timeoutBound)
        [("api_key", text apiKey), ("host", text host), ("request_timeout_ms", nat n)]
        "request_timeout_ms" rfl (by rintro ⟨⟩)
      rw [knownFields?_record _ _ (by simp) (by simp)]
      simp [required?, List.lookup_cons, hread, hn]
  fits v d hd n hn := by
    simp only [Codec.ofJson?, Option.bind_eq_bind, Option.bind_eq_some_iff, Option.pure_def,
      Option.some.injEq] at hd
    obtain ⟨fields, -, apiKey, -, host, -, timeout, htimeout, rfl⟩ := hd
    cases hn
    obtain ⟨w, hw⟩ := exists_of_optional? htimeout
    exact lt_of_natBelow? hw

theorem Accepted.isFaithful : IsFaithful Accepted Fits 1 where
  isWritable a ha := .record (by simpa using IsWritable.nat ha)
  ofJson?_toJson a ha := by
    have hcount := natBelow?_nat ha
    show (Option.bind ((record _).knownFields? _) _) = _
    rw [knownFields?_record _ _ (by simp) (by simp)]
    simp [required?, hcount]
  fits v a ha := by
    simp only [Codec.ofJson?, Option.bind_eq_bind, Option.bind_eq_some_iff, Option.pure_def,
      Option.some.injEq] at ha
    obtain ⟨fields, -, count, hcount, rfl⟩ := ha
    obtain ⟨w, hw⟩ := exists_of_required? hcount
    exact lt_of_natBelow? hw

theorem FailureKind.isFaithful : IsFaithful FailureKind (fun _ => True) 0 where
  isWritable k _ := .text k.name
  ofJson?_toJson k _ := k.ofName?_name
  fits _ _ _ := trivial

theorem DeliveryError.isFaithful : IsFaithful DeliveryError (fun _ => True) 1 where
  isWritable e _ := by
    refine .record ?_
    simp [FailureKind.isFaithful.isWritable e.kind trivial, IsWritable.text]
  ofJson?_toJson e _ := by
    have hkind := FailureKind.isFaithful.ofJson?_toJson e.kind trivial
    show (Option.bind ((record _).knownFields? _) _) = _
    rw [knownFields?_record _ _ (by simp) (by simp)]
    simp [required?, List.lookup_cons, hkind]
  fits _ _ _ := trivial

/-! ## Messages -/

/-- Whether every number in a request has 64 bits. -/
def Request.Fits : Request → Prop
  | configure _ d => d.Fits
  | publish _ _ => True

/-- Whether every number in a response has 64 bits. -/
def Response.Fits : Response → Prop
  | published _ a => a.Fits
  | configured _ _ | failed _ _ => True

theorem Request.isWritable_toJson {r : Request} (hr : r.Fits) : (toJson r).IsWritable 4 := by
  have hid : (toJson r.id).IsWritable 3 :=
    (Id.isFaithful.isWritable r.id trivial).mono (by decide)
  cases r with
  | configure id d =>
    have hd : (toJson d).IsWritable 3 := (Destination.isFaithful.isWritable d hr).mono (by decide)
    exact .record (by simpa [IsWritable.text] using ⟨hid, hd⟩)
  | publish id batch =>
    have hbatch := WireEvent.isFaithful_list.isWritable batch trivial
    exact .record (by simpa [IsWritable.text] using ⟨hid, hbatch⟩)

theorem Request.isFaithful : IsFaithful Request Fits 4 where
  isWritable _ hr := isWritable_toJson hr
  ofJson?_toJson r hr := by
    have hkept : (toJson r).IsWritable maxDepth := (isWritable_toJson hr).mono (by decide)
    cases r with
    | configure id d =>
      have hd := Destination.isFaithful.ofJson?_toJson d hr
      obtain ⟨htagged, hknown⟩ :=
        tagged?_and_knownFields? hkept ["id", "config"] (by simp) (by simp) (by simp [tagName])
      show (Option.bind ((withTag _ _).tagged?) _) = _
      rw [htagged]
      simp [hknown, required?, List.lookup_cons, hd]
    | publish id batch =>
      have hbatch := WireEvent.isFaithful_list.ofJson?_toJson batch trivial
      obtain ⟨htagged, hknown⟩ :=
        tagged?_and_knownFields? hkept ["id", "events"] (by simp) (by simp) (by simp [tagName])
      show (Option.bind ((withTag _ _).tagged?) _) = _
      rw [htagged]
      simp [hknown, required?, List.lookup_cons, hbatch]
  fits v r hr := by
    obtain ⟨⟨tag, body⟩, -, hr⟩ := Option.bind_eq_some_iff.1 hr
    dsimp only at hr
    split at hr
    · obtain ⟨fields, -, hr⟩ := Option.bind_eq_some_iff.1 hr
      obtain ⟨id, -, hr⟩ := Option.bind_eq_some_iff.1 hr
      obtain ⟨d, hd, hr⟩ := Option.bind_eq_some_iff.1 hr
      cases hr
      obtain ⟨w, hw⟩ := exists_of_required? hd
      exact Destination.isFaithful.fits w d hw
    · obtain ⟨fields, -, hr⟩ := Option.bind_eq_some_iff.1 hr
      obtain ⟨id, -, hr⟩ := Option.bind_eq_some_iff.1 hr
      obtain ⟨batch, -, hr⟩ := Option.bind_eq_some_iff.1 hr
      cases hr
      trivial
    · cases hr

theorem Response.isWritable_toJson {r : Response} (hr : r.Fits) : (toJson r).IsWritable 2 := by
  have hid : (toJson r.id).IsWritable 1 :=
    (Id.isFaithful.isWritable r.id trivial).mono (by decide)
  cases r with
  | configured id v => exact .record (by simpa [IsWritable.text] using ⟨hid, .text v.name⟩)
  | published id a =>
    have ha := Accepted.isFaithful.isWritable a hr
    exact .record (by simpa [IsWritable.text] using ⟨hid, ha⟩)
  | failed id e =>
    exact .record (by simpa [IsWritable.text] using ⟨hid, .text e.kind.name⟩)

theorem Response.isFaithful : IsFaithful Response Fits 2 where
  isWritable _ hr := isWritable_toJson hr
  ofJson?_toJson r hr := by
    have hkept : (toJson r).IsWritable maxDepth := (isWritable_toJson hr).mono (by decide)
    cases r with
    | configured id v =>
      have hv := required?_name v.ofName?_name
        [("id", toJson id), ("configurationState", toJson v)] "configurationState" rfl
      obtain ⟨htagged, hknown⟩ :=
        tagged?_and_knownFields? hkept ["id", "configurationState"] (by simp) (by simp)
          (by simp [tagName])
      show (Option.bind ((withTag _ _).tagged?) _) = _
      rw [htagged]
      simp only [Option.bind_eq_bind, Option.bind_some, hknown, hv]
      simp [required?]
    | published id a =>
      have ha := Accepted.isFaithful.ofJson?_toJson a hr
      obtain ⟨htagged, hknown⟩ :=
        tagged?_and_knownFields? hkept ["id", "result"] (by simp) (by simp) (by simp [tagName])
      show (Option.bind ((withTag _ _).tagged?) _) = _
      rw [htagged]
      simp [hknown, required?, List.lookup_cons, ha]
    | failed id e =>
      have hkind := required?_name e.kind.ofName?_name
        [("id", toJson id), ("errorType", toJson e.kind), ("errorMessage", text e.detail)]
        "errorType" rfl
      obtain ⟨htagged, hknown⟩ :=
        tagged?_and_knownFields? hkept ["id", "errorType", "errorMessage"] (by simp) (by simp)
          (by simp [tagName])
      show (Option.bind ((withTag _ _).tagged?) _) = _
      rw [htagged]
      simp only [Option.bind_eq_bind, Option.bind_some, hknown, hkind]
      simp [required?, List.lookup_cons]
  fits v r hr := by
    obtain ⟨⟨tag, body⟩, -, hr⟩ := Option.bind_eq_some_iff.1 hr
    dsimp only at hr
    split at hr
    · obtain ⟨fields, -, hr⟩ := Option.bind_eq_some_iff.1 hr
      obtain ⟨id, -, hr⟩ := Option.bind_eq_some_iff.1 hr
      obtain ⟨v, -, hr⟩ := Option.bind_eq_some_iff.1 hr
      cases hr
      trivial
    · obtain ⟨fields, -, hr⟩ := Option.bind_eq_some_iff.1 hr
      obtain ⟨id, -, hr⟩ := Option.bind_eq_some_iff.1 hr
      obtain ⟨a, ha, hr⟩ := Option.bind_eq_some_iff.1 hr
      cases hr
      obtain ⟨w, hw⟩ := exists_of_required? ha
      exact Accepted.isFaithful.fits w a hw
    · obtain ⟨fields, -, hr⟩ := Option.bind_eq_some_iff.1 hr
      obtain ⟨id, -, hr⟩ := Option.bind_eq_some_iff.1 hr
      obtain ⟨k, -, hr⟩ := Option.bind_eq_some_iff.1 hr
      obtain ⟨detail, -, hr⟩ := Option.bind_eq_some_iff.1 hr
      cases hr
      trivial
    · cases hr

/-! ## Texts -/

/-- Whether a type survives its text: what is written of a value that fits is read as this value,
    and what is read fits and, written anew, is a text that is read and written as itself. -/
structure Codec.RoundTrips (α : Type) [Codec α] (Fits : α → Prop) : Prop where
  decode_encode : ∀ a, Fits a → decode (encode a) = some a
  fits : ∀ s (a : α), decode s = some a → Fits a
  rewritten : ∀ s (a : α), decode s = some a →
    decode (encode a) = some a ∧ (decode (encode a)).map (encode (α := α)) = some (encode a)

theorem Codec.IsFaithful.roundTrips {α : Type} [Codec α] {Fits : α → Prop} {d : Nat}
    (h : IsFaithful α Fits d) : RoundTrips α Fits := by
  have hdecode (a : α) (ha : Fits a) : decode (encode a) = some a := by
    rw [decode, encode, parse_render (h.isWritable a ha).isPlain]
    exact h.ofJson?_toJson a ha
  have hfits (s : String) (a : α) (ha : decode s = some a) : Fits a := by
    obtain ⟨v, -, hv⟩ := Option.bind_eq_some_iff.1 ha
    exact h.fits v a hv
  refine ⟨hdecode, hfits, fun s a ha => ?_⟩
  have hagain := hdecode a (hfits s a ha)
  exact ⟨hagain, by rw [hagain, Option.map_some]⟩

/-- Everything that is sent or stored survives its text, with any texts and ids in it and any
    number of events; and an event that was sent says what it is and what it hangs on. -/
theorem Codec.roundTrips_messages :
    RoundTrips WireEvent (fun _ => True) ∧ RoundTrips (List WireEvent) (fun _ => True) ∧
      RoundTrips AnyReference (fun _ => True) ∧ RoundTrips Destination Destination.Fits ∧
      RoundTrips Accepted Accepted.Fits ∧ RoundTrips DeliveryError (fun _ => True) ∧
      RoundTrips Request Request.Fits ∧ RoundTrips Response Response.Fits ∧
      ∀ es : List Event,
        (decode (α := List WireEvent) (encode (es.map Event.toWire))).map
            (·.map fun e => (e.kind, e.id, e.parentId?)) =
          some (es.map fun e => (e.kind, e.id, e.parentId?)) := by
  refine ⟨WireEvent.isFaithful.roundTrips, WireEvent.isFaithful_list.roundTrips,
    AnyReference.isFaithful.roundTrips, Destination.isFaithful.roundTrips,
    Accepted.isFaithful.roundTrips, DeliveryError.isFaithful.roundTrips,
    Request.isFaithful.roundTrips, Response.isFaithful.roundTrips, fun es => ?_⟩
  rw [WireEvent.isFaithful_list.roundTrips.decode_encode _ trivial, Option.map_some, List.map_map]
  refine congrArg some (List.map_congr_left fun e _ => ?_)
  simp only [Function.comp_apply, e.parentId?_toWire]
  rfl

end Clickstream
