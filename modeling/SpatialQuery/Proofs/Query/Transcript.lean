import SpatialQuery.Proofs.Query.Layout
import SpatialQuery.Proofs.Query.Record

/-!
# What is recorded of a query

`NotesModifiers` and `NotesQuery` say, by what came of reading a query and by its text alone, which
records are made of it: one of the modifiers if the shape was read and not all behind it is blank,
and one of the query if all of it was read. `exists_notes_transcript` says that these are the
records of a transcript, the ones of the modifiers first.
-/

namespace SpatialQuery

namespace Query

open Modifiers

variable {ε S : Type} {reader : Reader ε S} {query : Text}
  {result : Except (ParseError ε) (Query S)}

/-- What comes of reading a query whose shape was read: only its modifiers can still be at fault. -/
inductive PastShape : Except (ParseError ε) (Query S) → Prop
  | ok (q) : PastShape (.ok q)
  | invalidNumber (bound value cause) : PastShape (.error (.invalidNumber bound value cause))
  | unknownParameters (keys) : PastShape (.error (.unknownParameters keys))

/-- The records of the modifiers of a query. There is one if the shape was read and not all behind
the last parenthesis is blank, whatever came of the query; it holds the operation and what the last
token of each key binds. -/
inductive NotesModifiers (query : Text) (result : Except (ParseError ε) (Query S)) :
    List Record → Prop
  | noted {parts : Parts} {operation tokens m c} (hpast : PastShape result)
      (hparts : parts.Splits query) (hname : operation.name = parts.name.trim)
      (hc : c ∈ parts.tail) (hblank : Text.isBlank c = false)
      (htokens : Text.Spaced isSeparator parts.tail.trim tokens) (hm : m.Collects tokens) :
      NotesModifiers query result [.modifiers operation m]
  | early (h : ¬PastShape result) : NotesModifiers query result []
  | blank {parts : Parts} (hparts : parts.Splits query)
      (hblank : ∀ c ∈ parts.tail, Text.isBlank c = true) : NotesModifiers query result []

/-- The records of a query as a whole. There is one if the query was read, and it holds the
query. -/
inductive NotesQuery (query : Text) : Except (ParseError ε) (Query S) → List Record → Prop
  | parsed (q) : NotesQuery query (.ok q) [.parsed query q.operation]
  | refused (cause) : NotesQuery query (.error cause) []

theorem NotesModifiers.unique {records others : List Record}
    (h : NotesModifiers query result records) (h' : NotesModifiers query result others) :
    records = others := by
  cases h with
  | noted hpast hparts hname hc hblank htokens hm =>
      cases h' with
      | noted _ hparts' hname' _ _ htokens' hm' =>
          obtain rfl := hparts.unique hparts'
          obtain rfl := Operation.name_injective (hname.trans hname'.symm)
          rw [(collects_ofText_iff htokens).1 hm, (collects_ofText_iff htokens').1 hm']
      | early hearly => exact absurd hpast hearly
      | blank hparts' hall =>
          obtain rfl := hparts.unique hparts'
          cases hblank.symm.trans (hall _ hc)
  | early hearly =>
      cases h' with
      | noted hpast _ _ _ _ _ _ => exact absurd hpast hearly
      | early _ => rfl
      | blank _ _ => rfl
  | blank hparts hall =>
      cases h' with
      | noted _ hparts' _ hc hblank _ _ =>
          obtain rfl := hparts.unique hparts'
          cases hblank.symm.trans (hall _ hc)
      | early _ => rfl
      | blank _ _ => rfl

theorem NotesQuery.unique {records others : List Record} (h : NotesQuery query result records)
    (h' : NotesQuery query result others) : records = others := by
  cases h with
  | parsed q =>
      cases h' with
      | parsed _ => rfl
  | refused cause =>
      cases h' with
      | refused _ => rfl

theorem pastShape_of_modified {m : Modifiers} {q : Query S} (h : Modified m q result) :
    PastShape result := by
  cases h with
  | invalidMin _ _ => exact .invalidNumber _ _ _
  | invalidMax _ _ _ => exact .invalidNumber _ _ _
  | unknownParameters _ _ _ _ _ => exact .unknownParameters _
  | ok _ _ _ _ _ => exact .ok _

theorem notesModifiers_noted {parts : Parts} {operation : Operation} (hpast : PastShape result)
    (hparts : parts.Splits query) (hname : operation.name = parts.name.trim) :
    NotesModifiers query result (noted operation parts.tail.trim) := by
  have hempty : parts.tail.trim.isEmpty = true ↔ ∀ c ∈ parts.tail, Text.isBlank c = true := by
    rw [List.isEmpty_iff, Text.trim_eq_nil_iff]
    exact List.all_eq_true
  unfold noted
  split
  · next hnone => exact .blank hparts (hempty.1 hnone)
  · next hsome =>
      have hnotBlank : ¬∀ c ∈ parts.tail, Text.isBlank c = true := fun h => hsome (hempty.2 h)
      push Not at hnotBlank
      obtain ⟨c, hc, hblank⟩ := hnotBlank
      exact .noted hpast hparts hname hc (Bool.eq_false_iff.2 hblank) (Text.spaced_fields _)
        (collects_ofTokens _)

theorem exists_splits_of_header {header : Header}
    (h : Header.ofText query = (.ok header : Except (ParseError ε) Header)) :
    ∃ parts : Parts, parts.Splits query ∧ header.operation.name = parts.name.trim ∧
      header.tail = parts.tail.trim := by
  unfold Header.ofText at h
  split at h
  · cases h
  · next parts hparts =>
      dsimp only at h
      split at h
      · cases h
      · split at h
        · cases h
        · next operation hname =>
            split at h
            · cases h
            · obtain rfl := Except.ok.inj h
              have hsplits := Parts.ofText?_eq_some_iff.1 hparts
              exact ⟨parts, hsplits, Operation.name_of_ofName? hname, rfl⟩

theorem not_pastShape_of_header {cause : ParseError ε}
    (h : (Header.ofText query : Except (ParseError ε) Header) = .error cause) :
    ¬PastShape (.error cause : Except (ParseError ε) (Query S)) := by
  intro hpast
  unfold Header.ofText at h
  split at h
  · cases h
    cases hpast
  · dsimp only at h
    split at h
    · cases h
      cases hpast
    · split at h
      · cases h
        cases hpast
      · split at h
        · cases h
          cases hpast
        · cases h

/-- A query is refused before its modifiers are looked at, or what is looked at next is what stands
behind its last parenthesis. -/
theorem readUnmodified_cases (reader : Reader ε S) (query : Text) :
    (∃ cause, readUnmodified reader query = .error cause ∧
      ¬PastShape (.error cause : Except (ParseError ε) (Query S))) ∨
    ∃ (parts : Parts) (operation : Operation) (shape : S), parts.Splits query ∧
      operation.name = parts.name.trim ∧
      readUnmodified reader query = .ok (new operation shape, parts.tail.trim) := by
  unfold readUnmodified
  cases hheader : (Header.ofText query : Except (ParseError ε) Header) with
  | error cause => exact .inl ⟨cause, rfl, not_pastShape_of_header hheader⟩
  | ok header =>
      obtain ⟨parts, hparts, hname, htail⟩ := exists_splits_of_header hheader
      rw [ok_bind]
      cases hread : reader header.body with
      | error cause =>
          left
          refine ⟨.invalidShape cause, rfl, ?_⟩
          intro hpast
          cases hpast
      | ok shape =>
          right
          refine ⟨parts, header.operation, shape, hparts, hname, ?_⟩
          rw [← htail]
          rfl

theorem exists_notes_transcript (reader : Reader ε S) (query : Text) :
    ∃ first last, (transcript reader query).records = first ++ last ∧
      NotesModifiers query (parse reader query) first ∧
      NotesQuery query (parse reader query) last := by
  unfold transcript parse
  rcases readUnmodified_cases reader query with ⟨cause, hread, hearly⟩ |
    ⟨parts, operation, shape, hparts, hname, hread⟩
  · rw [hread]
    exact ⟨[], [], rfl, .early hearly, .refused cause⟩
  · rw [hread, ok_bind]
    have hpast : PastShape ((new operation shape).modify parts.tail.trim :
        Except (ParseError ε) _) :=
      pastShape_of_modified (modified_modify operation shape _)
    have hnoted := notesModifiers_noted hpast hparts hname
    dsimp only
    cases hmodify : ((new operation shape).modify parts.tail.trim : Except (ParseError ε) _) with
    | error cause =>
        rw [hmodify] at hnoted
        exact ⟨_, [], (List.append_nil _).symm, hnoted, .refused cause⟩
    | ok r =>
        rw [hmodify] at hnoted
        exact ⟨_, _, rfl, hnoted, .parsed r⟩

/-- Keeping the records does not change what comes of reading a query. They are those of its
modifiers and behind them that of the query, and no others. Each is a line without control
characters that no other record has. -/
theorem records_transcript_eq_iff_and_isPlain (reader : Reader ε S) (query : Text) :
    (transcript reader query).result = parse reader query ∧
      (∀ records, (transcript reader query).records = records ↔
        ∃ first last, records = first ++ last ∧ NotesModifiers query (parse reader query) first ∧
          NotesQuery query (parse reader query) last) ∧
      ∀ record ∈ (transcript reader query).records,
        record.text.IsPlain ∧ ∀ other : Record, other.text = record.text → other = record := by
  refine ⟨result_transcript reader query, ?_, ?_⟩
  · intro records
    obtain ⟨first, last, hrecords, hfirst, hlast⟩ := exists_notes_transcript reader query
    constructor
    · rintro rfl
      exact ⟨first, last, hrecords, hfirst, hlast⟩
    · rintro ⟨first', last', rfl, hfirst', hlast'⟩
      rw [hrecords, hfirst.unique hfirst', hlast.unique hlast']
  · intro record _
    exact ⟨record.isPlain_text, fun _ h => Record.text_injective h⟩

theorem records_transcript_of_carriageReturn :
    let reader : Reader Empty Text := .ok
    let query := "Contains(()) a=1 b=\r\u0085 a=2\r".toList
    let record := Record.modifiers .contains (ofText "a=2 b=\r\u0085".toList)
    (transcript reader query).records = [record] ∧ record.text.IsPlain := by
  intro reader query record
  have hrecords : (transcript reader query).records = [record] := by decide
  have hmem : record ∈ (transcript reader query).records := by simp [hrecords]
  exact ⟨hrecords, ((records_transcript_eq_iff_and_isPlain reader query).2.2 record hmem).1⟩

end Query

end SpatialQuery
