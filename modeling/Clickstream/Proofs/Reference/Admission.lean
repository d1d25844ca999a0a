import Clickstream.Proofs.Reference.Spelling
import Clickstream.Proofs.Store.Content

/-!
# What becomes a reference

There are three ways to a reference: from an id, from text, and from an untyped reference. They
check the spelling, the version and the kind in different orders, and yet agree, because each
ends with the id. So a text is a reference exactly if it spells an id of version 7, whichever way
it goes (`Reference.IsReadAlike`).

A store reads texts that anybody may have put under its keys. It reads the visitor first, and
the session only if there is a visitor. So it shows references that are spelled there and nothing
else, and calls the state malformed exactly if the first text that it cannot take as a reference
is one that it has to read (`SplitStore.ShowsSpelled`).

* `Reference.parse_of_isSpelledBy`, `Reference.parse_of_not_isSpelledBy`: what a text is read as;
* `SplitStore.readText_eq_some_iff`, `SplitStore.readText_eq_error_iff`: what is stored is read
  as;
* `Reference.only_spelled`: all of this, for every text, kind and store;
* `Reference.not_only_lowercase_urn`: the opening of a resource name is read in either case, as
  its digits are.
-/

namespace Clickstream

namespace Reference

variable {k : Kind} {text : String}

/-! ## Texts -/

/-- Whether a text spells an id of version 7. -/
def IsSpelled (text : String) : Prop := ∃ id : Id, id.IsSpelledBy text ∧ id.version = 7

theorem parse_of_isSpelledBy {id : Id} (h : id.IsSpelledBy text) :
    parse (k := k) text = ofId id := by
  rw [parse, Id.parse_eq_some_iff.2 h]

theorem parse_of_not_isSpelledBy (h : ∀ id : Id, ¬ id.IsSpelledBy text) :
    parse (k := k) text = .error (.notAnId text) := by
  have hnone : Id.parse text = none :=
    Option.eq_none_iff_forall_ne_some.2 fun id hid => h id (Id.parse_eq_some_iff.1 hid)
  rw [parse, hnone]

theorem ofId_eq_ok_iff {id : Id} {r : Reference k} : ofId id = .ok r ↔ r.id = id := by
  constructor
  · intro h
    rw [ofId] at h
    split at h
    · cases h
      rfl
    · cases h
  · rintro rfl
    exact ofId_id r

theorem exists_ofId_iff {id : Id} : (∃ r : Reference k, ofId id = .ok r) ↔ id.version = 7 := by
  constructor
  · rintro ⟨r, hr⟩
    rw [← ofId_eq_ok_iff.1 hr]
    exact r.isV7
  · intro h
    exact ⟨⟨id, h⟩, ofId_eq_ok_iff.2 rfl⟩

/-- Exactly the spellings of its id are read as a reference. -/
theorem parse_eq_ok_iff {r : Reference k} : parse text = .ok r ↔ r.id.IsSpelledBy text := by
  constructor
  · intro h
    by_cases hex : ∃ id : Id, id.IsSpelledBy text
    · obtain ⟨id, hid⟩ := hex
      rw [parse_of_isSpelledBy hid] at h
      rwa [ofId_eq_ok_iff.1 h]
    · rw [parse_of_not_isSpelledBy (not_exists.1 hex)] at h
      cases h
  · intro h
    rw [parse_of_isSpelledBy h, ofId_id]

theorem exists_parse_iff : (∃ r : Reference k, parse text = .ok r) ↔ IsSpelled text := by
  constructor
  · rintro ⟨r, hr⟩
    exact ⟨r.id, parse_eq_ok_iff.1 hr, r.isV7⟩
  · rintro ⟨id, hid, h7⟩
    exact ⟨⟨id, h7⟩, parse_eq_ok_iff.2 hid⟩

/-- What spells no id is refused as such, and an id of another version for its version. -/
theorem parse_eq_error_iff {e : ReferenceError} : parse (k := k) text = .error e ↔
    e = .notAnId text ∧ (∀ id : Id, ¬ id.IsSpelledBy text) ∨
      ∃ id : Id, e = .wrongVersion id ∧ id.IsSpelledBy text ∧ id.version ≠ 7 := by
  constructor
  · intro h
    by_cases hex : ∃ id : Id, id.IsSpelledBy text
    · obtain ⟨id, hid⟩ := hex
      rw [parse_of_isSpelledBy hid, ofId] at h
      split at h
      · cases h
      · rename_i h7
        cases h
        exact .inr ⟨id, rfl, hid, h7⟩
    · rw [parse_of_not_isSpelledBy (not_exists.1 hex)] at h
      cases h
      exact .inl ⟨rfl, not_exists.1 hex⟩
  · rintro (⟨rfl, hnone⟩ | ⟨id, rfl, hid, h7⟩)
    · exact parse_of_not_isSpelledBy hnone
    · rw [parse_of_isSpelledBy hid, ofId, dif_neg h7]

theorem ofAny_of_kind_ne {a : AnyReference} (h : a.kind ≠ k) :
    ofAny (k := k) a = .error (.wrongKind k a.kind) := if_neg h

theorem ofAny_of_kind_eq {a : AnyReference} (h : a.kind = k) : ofAny (k := k) a = ofId a.id :=
  if_pos h

/-- By way of an untyped reference, the version is looked at twice and the kind in between. -/
theorem parse_eq_ofAny : parse (k := k) text = AnyReference.parse k text >>= ofAny := by
  rw [parse, AnyReference.parse]
  cases Id.parse text with
  | none => rfl
  | some id =>
    by_cases h7 : id.version = 7
    · simp only [if_pos h7]
      exact (ofAny_of_kind_eq (a := ⟨k, id⟩) rfl).symm
    · simp only [if_neg h7, ofId, dif_neg h7]
      rfl

/-- How a text is read as a reference of a kind, and that it does not matter how it is. -/
structure IsReadAlike (k : Kind) (text : String) : Prop where
  /-- Exactly the spellings of ids of version 7 are read. -/
  succeeds : (∃ r : Reference k, parse text = .ok r) ↔ IsSpelled text
  /-- What is read is the reference whose id is spelled. -/
  spelled : ∀ r : Reference k, parse text = .ok r ↔ r.id.IsSpelledBy text
  /-- The canonical spelling is read as the same reference. -/
  canonical : ∀ r : Reference k, parse text = .ok r → parse r.id.render = .ok r
  /-- So is every spelling, and all of them are refused for the same reason if the id has
      another version. -/
  spellings : ∀ (id : Id) (other : String), id.IsSpelledBy text → id.IsSpelledBy other →
    parse (k := k) other = parse text
  /-- The id is read, and then taken. -/
  byId : parse (k := k) text = match Id.parse text with
    | some id => ofId id
    | none => .error (.notAnId text)
  /-- An untyped reference is read, and then converted. -/
  byConversion : parse (k := k) text = AnyReference.parse k text >>= ofAny
  refused : ∀ e, parse (k := k) text = .error e ↔
    e = .notAnId text ∧ (∀ id : Id, ¬ id.IsSpelledBy text) ∨
      ∃ id : Id, e = .wrongVersion id ∧ id.IsSpelledBy text ∧ id.version ≠ 7

theorem isReadAlike (k : Kind) (text : String) : IsReadAlike k text where
  succeeds := exists_parse_iff
  spelled r := parse_eq_ok_iff
  canonical r _ := parse_render r
  spellings id other htext hother := by
    rw [parse_of_isSpelledBy htext, parse_of_isSpelledBy hother]
  byId := by
    rw [parse]
    cases Id.parse text <;> rfl
  byConversion := parse_eq_ofAny
  refused e := parse_eq_error_iff

/-- What becomes of untyped references. -/
structure IsConverted (k : Kind) (a : AnyReference) : Prop where
  /-- One of another kind is refused, whatever its id. -/
  otherKind : a.kind ≠ k → ofAny (k := k) a = .error (.wrongKind k a.kind)
  /-- One of the kind is what its id is. -/
  sameKind : a.kind = k → ofAny (k := k) a = ofId a.id
  succeeds : a.kind = k → ((∃ r : Reference k, ofAny a = .ok r) ↔ a.id.version = 7)

theorem isConverted (k : Kind) (a : AnyReference) : IsConverted k a where
  otherKind := ofAny_of_kind_ne
  sameKind := ofAny_of_kind_eq
  succeeds h := by
    simp only [ofAny_of_kind_eq h]
    exact exists_ofId_iff

end Reference

/-! ## Stored texts -/

namespace SplitStore

variable {k : Kind} {o : Option String} {w : SplitStore × Shelf}

theorem readText_eq_some_iff {r : Reference k} :
    readText k o = .ok (some r) ↔ ∃ text, o = some text ∧ r.id.IsSpelledBy text := by
  cases o with
  | none => exact ⟨nofun, nofun⟩
  | some text =>
    simp only [readText, Option.some.injEq, exists_eq_left', ← Reference.parse_eq_ok_iff]
    rcases Reference.parse text with e | r' <;> simp

/-- What cannot be read is malformed, and this is all that can go wrong. -/
theorem readText_eq_error_iff {e : SiteStateError} :
    readText k o = .error e ↔
      ∃ text, o = some text ∧ ∃ e' : ReferenceError,
        Reference.parse (k := k) text = .error e' ∧ e = e'.toSiteStateError := by
  cases o with
  | none => exact ⟨nofun, nofun⟩
  | some text =>
    simp only [readText, Option.some.injEq, exists_eq_left']
    rcases Reference.parse text with e' | r <;> simp [eq_comm]

theorem readText_eq_malformed_iff : (∃ d, readText k o = .error (.malformed d)) ↔
    ∃ text, o = some text ∧ ¬ Reference.IsSpelled text := by
  constructor
  · rintro ⟨d, hd⟩
    obtain ⟨text, rfl, e, he, -⟩ := readText_eq_error_iff.1 hd
    refine ⟨text, rfl, fun hspelling => ?_⟩
    obtain ⟨r, hr⟩ := Reference.exists_parse_iff.2 hspelling
    rw [he] at hr
    cases hr
  · rintro ⟨text, rfl, hnot⟩
    cases he : Reference.parse (k := k) text with
    | ok r => exact absurd (Reference.exists_parse_iff.1 ⟨r, he⟩) hnot
    | error e => exact ⟨e.message, readText_eq_error_iff.2 ⟨text, rfl, e, he, rfl⟩⟩

/-- What stands under the visitor's key, if the durable storage answers. -/
def visitorText (w : SplitStore × Shelf) : Except StorageError (Option String) :=
  w.2.durable.getItem w.1.visitorKey

/-- What stands under the session's key, if its storage answers. -/
def sessionText (w : SplitStore × Shelf) : Except StorageError (Option String) :=
  (w.2.backend w.1.sessionPlace).getItem w.1.sessionKey

/-- That a store shows what is spelled under its keys, and nothing else. -/
structure ShowsSpelled (w : SplitStore × Shelf) : Prop where
  /-- What is shown has a visitor, and this is spelled under its key. -/
  visitor : ∀ s, (get w).result = .ok s → ∃ v text, s.visitor = some v ∧ v.id.version = 7 ∧
    visitorText w = .ok (some text) ∧ v.id.IsSpelledBy text
  /-- So is the session, if one is shown. -/
  session : ∀ s r, (get w).result = .ok s → s.session = some r → ∃ text, r.id.version = 7 ∧
    sessionText w = .ok (some text) ∧ r.id.IsSpelledBy text
  /-- The area that is shown is the one in the variable. -/
  area : ∀ s a, (get w).result = .ok s → s.area = some a → a.id.version = 7 ∧ w.1.area = some a
  /-- The state is malformed exactly if the visitor's text is no reference, or it is one and the
      session's is none. -/
  malformed : (∃ d, (get w).result = .error (.malformed d)) ↔
    ∃ text, visitorText w = .ok (some text) ∧
      (¬ Reference.IsSpelled text ∨ Reference.IsSpelled text ∧
        ∃ text', sessionText w = .ok (some text') ∧ ¬ Reference.IsSpelled text')

/-- What a store shows, by what its storages answer. -/
theorem get_result (w : SplitStore × Shelf) : (get w).result =
    match visitorText w with
    | .error e => .error (.storage e.message)
    | .ok v => match readText .visitor v with
      | .error e => .error e
      | .ok none => .error .absent
      | .ok (some visitor) => match sessionText w with
        | .error e => .error (.storage e.message)
        | .ok r => match readText .session r with
          | .error e => .error e
          | .ok none => .ok { visitor := some visitor }
          | .ok (some session) =>
            .ok { visitor := some visitor, session := some session, area := w.1.area } := by
  simp only [get, SplitStore.read, readReference_eq, visitorText, sessionText]
  rcases w.2.durable.getItem w.1.visitorKey with e | v
  · rfl
  rcases hv : readText .visitor v with e | _ | visitor <;> simp only [hv]
  rcases (w.2.backend w.1.sessionPlace).getItem w.1.sessionKey with e | r
  · rfl
  rcases hr : readText .session r with e | _ | session <;> simp only [hr]

/-- What is shown has been read from its places. -/
theorem exists_readText_of_get {s : SiteState} (h : (get w).result = .ok s) :
    ∃ o v o', visitorText w = .ok o ∧ readText .visitor o = .ok (some v) ∧
      sessionText w = .ok o' ∧ readText .session o' = .ok s.session ∧
      s.visitor = some v ∧ s.area = if s.session.isSome then w.1.area else none := by
  rw [get_result] at h
  split at h
  · cases h
  rename_i o hvisitor
  split at h
  · cases h
  · cases h
  rename_i v hv
  split at h
  · cases h
  rename_i o' hsession
  split at h
  · cases h
  all_goals
    rename_i hr
    cases h
    exact ⟨o, v, o', hvisitor, hv, hsession, hr, rfl, rfl⟩

/-- The session is called malformed only if the visitor could be read. -/
theorem get_eq_malformed_iff : (∃ d, (get w).result = .error (.malformed d)) ↔
    ∃ o, visitorText w = .ok o ∧ ((∃ d, readText .visitor o = .error (.malformed d)) ∨
      (∃ v, readText .visitor o = .ok (some v)) ∧
        ∃ o', sessionText w = .ok o' ∧ ∃ d, readText .session o' = .error (.malformed d)) := by
  rw [get_result]
  rcases visitorText w with e | o
  · simp
  rcases hv : readText .visitor o with e | _ | v
  · simp [hv]
  · simp [hv]
  rcases sessionText w with e | o'
  · simp [hv]
  rcases hr : readText .session o' with e | _ | r <;> simp [hv, hr]

theorem showsSpelled (w : SplitStore × Shelf) : ShowsSpelled w where
  visitor s h := by
    obtain ⟨o, v, -, hvisitor, hv, -, -, hs, -⟩ := exists_readText_of_get h
    obtain ⟨text, rfl, hspelled⟩ := readText_eq_some_iff.1 hv
    exact ⟨v, text, hs, v.isV7, hvisitor, hspelled⟩
  session s r h hs := by
    obtain ⟨-, -, o', -, -, hsession, hr, -, -⟩ := exists_readText_of_get h
    rw [hs] at hr
    obtain ⟨text, rfl, hspelled⟩ := readText_eq_some_iff.1 hr
    exact ⟨text, r.isV7, hsession, hspelled⟩
  area s a h hs := by
    obtain ⟨-, -, -, -, -, -, -, -, harea⟩ := exists_readText_of_get h
    refine ⟨a.isV7, ?_⟩
    rw [hs] at harea
    split at harea
    · exact harea.symm
    · cases harea
  malformed := by
    have hspelled (text : String) : Reference.IsSpelled text ↔
        ∃ v, readText .visitor (some text) = .ok (some v) := by
      simp only [readText_eq_some_iff, Option.some.injEq, exists_eq_left',
        ← Reference.parse_eq_ok_iff, Reference.exists_parse_iff]
    simp only [get_eq_malformed_iff, readText_eq_malformed_iff]
    constructor
    · rintro ⟨o, hvisitor, ⟨text, rfl, hnot⟩ | ⟨⟨v, hv⟩, o', hsession, text', rfl, hnot⟩⟩
      · exact ⟨text, hvisitor, .inl hnot⟩
      · obtain ⟨text, rfl, -⟩ := readText_eq_some_iff.1 hv
        exact ⟨text, hvisitor, .inr ⟨(hspelled text).2 ⟨v, hv⟩, text', hsession, hnot⟩⟩
    · rintro ⟨text, hvisitor, hnot | ⟨hyes, text', hsession, hnot⟩⟩
      · exact ⟨_, hvisitor, .inl ⟨text, rfl, hnot⟩⟩
      · exact ⟨_, hvisitor, .inr ⟨(hspelled text).1 hyes, _, hsession, text', rfl, hnot⟩⟩

end SplitStore

/-- Exactly the texts that spell an id of version 7 are references, however they are read; an
    untyped reference becomes one of its own kind, if its id has version 7, and of no other kind;
    and a store shows the references that are spelled under its keys, and calls the state
    malformed exactly if a text that it has to read spells none. -/
theorem Reference.only_spelled (k : Kind) (text : String) (a : AnyReference)
    (w : SplitStore × Shelf) :
    IsReadAlike k text ∧ IsConverted k a ∧ SplitStore.ShowsSpelled w :=
  ⟨isReadAlike k text, isConverted k a, SplitStore.showsSpelled w⟩

/-- Not only a resource name that is opened in lowercase is read. -/
theorem Reference.not_only_lowercase_urn :
    ¬ ∀ (k : Kind) (text : String), (∃ r : Reference k, parse text = .ok r) ↔
      ∃ id : Id, Id.IsSpelling (· = Id.urn) id text.toList ∧ id.version = 7 := by
  intro h
  let text := "URN:UUID:018d0bf1-fb5a-73da-b7fc-5a713bec5519"
  have hread : ∃ r : Reference .session, parse text = .ok r := by
    have hsome : (parse (k := .session) text).toOption.isSome := by decide +kernel
    rcases hparse : parse (k := .session) text with e | r
    · rw [hparse] at hsome
      cases hsome
    · exact ⟨r, rfl⟩
  obtain ⟨id, hspelling, -⟩ := (h .session text).1 hread
  have hlength : text.toList.length = 45 := by decide +kernel
  have hopening : text.toList.take 9 ≠ Id.urn := by decide +kernel
  generalize text.toList = cs at hspelling hlength hopening
  -- Only the last spelling has this length, and it is opened by nine other characters.
  cases hspelling with
  | digits hcs =>
    rw [← length_lower, hcs, Id.length_hex] at hlength
    cases hlength
  | grouped hcs =>
    rw [← length_lower, hcs, Id.length_chars] at hlength
    cases hlength
  | @braced cs hcs =>
    rw [List.length_append, List.length_cons, ← length_lower, hcs, Id.length_chars] at hlength
    cases hlength
  | @named opening cs hurn hcs =>
    subst hurn
    exact hopening (show (Id.urn ++ cs).take Id.urn.length = Id.urn from List.take_left)

end Clickstream
