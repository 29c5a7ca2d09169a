import SpatialQuery.Proofs.Query.Modified

/-!
# The grammar of queries

A query has at most one decomposition around its first opening and its last closing parenthesis.
`Outcome` says for every text what comes of reading it, each fault under the condition that none
of the earlier ones is there, and without a word about how the text is searched.
`parse_eq_iff_outcome` says that this is exactly what `parse` answers.
-/

namespace SpatialQuery

variable {ε S : Type}

/-- A query falls into the texts around its first opening and its last closing parenthesis. -/
structure Parts.Splits (parts : Parts) (query : Text) : Prop where
  query_eq : query = parts.name ++ '(' :: (parts.body ++ ')' :: parts.tail)
  open_not_mem : '(' ∉ parts.name
  close_not_mem : ')' ∉ parts.tail

theorem Parts.ofText?_eq_some_iff {query : Text} {parts : Parts} :
    Parts.ofText? query = some parts ↔ parts.Splits query := by
  obtain ⟨name, body, tail⟩ := parts
  constructor
  · intro h
    obtain ⟨⟨_, rest⟩, hopen, h⟩ := Option.bind_eq_some_iff.1 h
    obtain ⟨⟨_, _⟩, hclose, h⟩ := Option.bind_eq_some_iff.1 h
    cases h
    obtain ⟨rfl, hname⟩ := Text.cutFirst_eq_some_iff.1 hopen
    obtain ⟨rfl, htail⟩ := Text.cutLast_eq_some_iff.1 hclose
    exact ⟨rfl, hname, htail⟩
  · rintro ⟨rfl, hname, htail⟩
    have hopen : Text.cutFirst '(' (name ++ '(' :: (body ++ ')' :: tail)) =
        some (name, body ++ ')' :: tail) := Text.cutFirst_eq_some_iff.2 ⟨rfl, hname⟩
    have hclose : Text.cutLast ')' (body ++ ')' :: tail) = some (body, tail) :=
      Text.cutLast_eq_some_iff.2 ⟨rfl, htail⟩
    simp [Parts.ofText?, hopen, hclose]

theorem Parts.Splits.unique {query : Text} {parts parts' : Parts} (h : parts.Splits query)
    (h' : parts'.Splits query) : parts = parts' :=
  Option.some.inj ((Parts.ofText?_eq_some_iff.2 h).symm.trans (Parts.ofText?_eq_some_iff.2 h'))

theorem Operation.isBlank_of_mem_name {operation : Operation} {c : Char}
    (h : c ∈ operation.name) : Text.isBlank c = false := by
  have hall : operation.name.all (!Text.isBlank ·) = true := by cases operation <;> decide
  simpa using List.all_eq_true.1 hall c h

theorem Operation.open_not_mem_name (operation : Operation) : '(' ∉ operation.name := by
  cases operation <;> decide

theorem Operation.ofName?_eq_none_iff {name : Text} :
    Operation.ofName? name = none ↔ ∀ operation : Operation, operation.name ≠ name := by
  constructor
  · rintro h operation rfl
    rw [Operation.ofName?_name] at h
    cases h
  · intro h
    cases hname : Operation.ofName? name with
    | none => rfl
    | some operation => exact absurd (Operation.name_of_ofName? hname) (h operation)

namespace Query

/-- What comes of reading a text as a query, given what a reader of geometries makes of its
body. -/
inductive Outcome (reader : Reader ε S) (query : Text) : Except (ParseError ε) (Query S) → Prop
  | unsplit (hparts : ∀ parts : Parts, ¬parts.Splits query) :
      Outcome reader query (.error (.malformed query))
  | blankInName {parts : Parts} {c} (hparts : parts.Splits query) (hc : c ∈ parts.name.trim)
      (hblank : Text.isBlank c = true) : Outcome reader query (.error (.malformed query))
  | unknownOperation {parts : Parts} (hparts : parts.Splits query)
      (hname : ∀ c ∈ parts.name.trim, Text.isBlank c = false)
      (hunknown : ∀ operation : Operation, operation.name ≠ parts.name.trim) :
      Outcome reader query (.error (.unknownOperation parts.name.trim))
  | missingBody {parts : Parts} {operation : Operation} (hparts : parts.Splits query)
      (hname : operation.name = parts.name.trim) (hbody : parts.body.trim = []) :
      Outcome reader query (.error (.missingBody query))
  | invalidShape {parts : Parts} {operation : Operation} {cause} (hparts : parts.Splits query)
      (hname : operation.name = parts.name.trim) (hbody : parts.body.trim ≠ [])
      (hread : reader parts.body.trim = .error cause) :
      Outcome reader query (.error (.invalidShape cause))
  | modified {parts : Parts} {operation : Operation} {shape tokens m result}
      (hparts : parts.Splits query) (hname : operation.name = parts.name.trim)
      (hbody : parts.body.trim ≠ []) (hread : reader parts.body.trim = .ok shape)
      (htokens : Text.Spaced Modifiers.isSeparator parts.tail.trim tokens)
      (hm : m.Collects tokens) (hresult : Modified m (new operation shape) result) :
      Outcome reader query result

section Steps

variable {reader : Reader ε S} {query : Text} {parts : Parts} {operation : Operation}

theorem parse_of_header_error {cause : ParseError ε} (h : Header.ofText query = .error cause) :
    parse reader query = .error cause := by
  unfold parse readUnmodified
  rw [h]
  rfl

theorem parse_of_unsplit (h : ∀ parts : Parts, ¬parts.Splits query) :
    parse reader query = .error (.malformed query) := by
  apply parse_of_header_error
  unfold Header.ofText
  cases hparts : Parts.ofText? query with
  | none => rfl
  | some parts => exact absurd (Parts.ofText?_eq_some_iff.1 hparts) (h parts)

theorem parse_of_blankInName (hparts : parts.Splits query) {c : Char}
    (hc : c ∈ parts.name.trim) (hblank : Text.isBlank c = true) :
    parse reader query = .error (.malformed query) := by
  have hany : parts.name.trim.any Text.isBlank = true := List.any_eq_true.2 ⟨c, hc, hblank⟩
  apply parse_of_header_error
  unfold Header.ofText
  simp only [Parts.ofText?_eq_some_iff.2 hparts]
  rw [if_pos hany]

theorem any_isBlank_eq_false {t : Text} (h : ∀ c ∈ t, Text.isBlank c = false) :
    ¬t.any Text.isBlank = true := by
  intro hany
  obtain ⟨c, hc, hblank⟩ := List.any_eq_true.1 hany
  rw [h c hc] at hblank
  cases hblank

theorem parse_of_unknownOperation (hparts : parts.Splits query)
    (hname : ∀ c ∈ parts.name.trim, Text.isBlank c = false)
    (hunknown : ∀ operation : Operation, operation.name ≠ parts.name.trim) :
    parse reader query = .error (.unknownOperation parts.name.trim) := by
  apply parse_of_header_error
  unfold Header.ofText
  simp only [Parts.ofText?_eq_some_iff.2 hparts]
  rw [if_neg (any_isBlank_eq_false hname), Operation.ofName?_eq_none_iff.2 hunknown]

theorem header_of_name (hparts : parts.Splits query) (hname : operation.name = parts.name.trim) :
    Header.ofText query =
      if parts.body.trim.isEmpty then (.error (.missingBody query) : Except (ParseError ε) _)
      else .ok ⟨operation, parts.body.trim, parts.tail.trim⟩ := by
  have hblank : ∀ c ∈ parts.name.trim, Text.isBlank c = false := by
    rw [← hname]
    exact fun c hc => Operation.isBlank_of_mem_name hc
  unfold Header.ofText
  simp only [Parts.ofText?_eq_some_iff.2 hparts]
  rw [if_neg (any_isBlank_eq_false hblank), ← hname, Operation.ofName?_name]

theorem parse_of_missingBody (hparts : parts.Splits query)
    (hname : operation.name = parts.name.trim) (hbody : parts.body.trim = []) :
    parse reader query = .error (.missingBody query) := by
  apply parse_of_header_error
  rw [header_of_name hparts hname, hbody]
  rfl

theorem header_of_body (hparts : parts.Splits query) (hname : operation.name = parts.name.trim)
    (hbody : parts.body.trim ≠ []) :
    Header.ofText query =
      (.ok ⟨operation, parts.body.trim, parts.tail.trim⟩ : Except (ParseError ε) Header) := by
  rw [header_of_name hparts hname, if_neg (by simpa using hbody)]

theorem parse_of_invalidShape {cause : ε} (hparts : parts.Splits query)
    (hname : operation.name = parts.name.trim) (hbody : parts.body.trim ≠ [])
    (hread : reader parts.body.trim = .error cause) :
    parse reader query = .error (.invalidShape cause) := by
  unfold parse readUnmodified
  rw [header_of_body hparts hname hbody, ok_bind]
  simp only [hread]
  rfl

/-- A query whose shape was read is changed by the text behind it, whatever that is. -/
theorem parse_of_shape {shape : S} (hparts : parts.Splits query)
    (hname : operation.name = parts.name.trim) (hbody : parts.body.trim ≠ [])
    (hread : reader parts.body.trim = .ok shape) :
    parse reader query = (new operation shape).modify parts.tail.trim := by
  unfold parse readUnmodified
  rw [header_of_body hparts hname hbody, ok_bind]
  simp only [hread]
  rfl

end Steps

theorem collects_ofText_iff {t : Text} {m : Modifiers} {tokens : List Text}
    (htokens : Text.Spaced Modifiers.isSeparator t tokens) :
    m.Collects tokens ↔ m = .ofText t := by
  rw [Modifiers.collects_iff, ← Text.fields_eq_of_spaced htokens]
  rfl

theorem outcome_parse (reader : Reader ε S) (query : Text) :
    Outcome reader query (parse reader query) := by
  by_cases hsplit : ∃ parts : Parts, parts.Splits query
  · obtain ⟨parts, hparts⟩ := hsplit
    by_cases hblank : ∃ c ∈ parts.name.trim, Text.isBlank c = true
    · obtain ⟨c, hc, hblank⟩ := hblank
      rw [parse_of_blankInName hparts hc hblank]
      exact .blankInName hparts hc hblank
    · have hname : ∀ c ∈ parts.name.trim, Text.isBlank c = false := fun c hc =>
        Bool.eq_false_iff.2 fun h => hblank ⟨c, hc, h⟩
      by_cases hknown : ∃ operation : Operation, operation.name = parts.name.trim
      · obtain ⟨operation, hoperation⟩ := hknown
        by_cases hbody : parts.body.trim = []
        · rw [parse_of_missingBody hparts hoperation hbody]
          exact .missingBody hparts hoperation hbody
        · cases hread : reader parts.body.trim with
          | error cause =>
              rw [parse_of_invalidShape hparts hoperation hbody hread]
              exact .invalidShape hparts hoperation hbody hread
          | ok shape =>
              have htokens : Text.Spaced Modifiers.isSeparator parts.tail.trim _ :=
                Text.spaced_fields _
              rw [parse_of_shape hparts hoperation hbody hread]
              exact .modified hparts hoperation hbody hread htokens
                ((collects_ofText_iff htokens).2 rfl)
                (modified_modify operation shape _)
      · have hunknown : ∀ operation : Operation, operation.name ≠ parts.name.trim :=
          fun operation h => hknown ⟨operation, h⟩
        rw [parse_of_unknownOperation hparts hname hunknown]
        exact .unknownOperation hparts hname hunknown
  · have hparts : ∀ parts : Parts, ¬parts.Splits query := fun parts h => hsplit ⟨parts, h⟩
    rw [parse_of_unsplit hparts]
    exact .unsplit hparts

theorem parse_eq_of_outcome {reader : Reader ε S} {query : Text}
    {result : Except (ParseError ε) (Query S)} (h : Outcome reader query result) :
    parse reader query = result := by
  cases h with
  | unsplit hparts => exact parse_of_unsplit hparts
  | blankInName hparts hc hblank => exact parse_of_blankInName hparts hc hblank
  | unknownOperation hparts hname hunknown => exact parse_of_unknownOperation hparts hname hunknown
  | missingBody hparts hname hbody => exact parse_of_missingBody hparts hname hbody
  | invalidShape hparts hname hbody hread => exact parse_of_invalidShape hparts hname hbody hread
  | modified hparts hname hbody hread htokens hm hresult =>
      obtain rfl := (collects_ofText_iff htokens).1 hm
      rw [parse_of_shape hparts hname hbody hread]
      exact modify_of_modified hresult

/-- A text has at most one decomposition, and reading it with any reader of geometries gives
exactly what the rules say. A query that is read is what the builders make of a new one, being
called for the fields that its modifiers speak of. -/
theorem parse_eq_iff_outcome (reader : Reader ε S) (query : Text) :
    (∀ parts parts' : Parts, parts.Splits query → parts'.Splits query → parts = parts') ∧
      (∀ result, parse reader query = result ↔ Outcome reader query result) ∧
      ∀ q, parse reader query = .ok q →
        ∃ (parts : Parts) (tokens : List Text) (m : Modifiers), parts.Splits query ∧
          Text.Spaced Modifiers.isSeparator parts.tail.trim tokens ∧ m.Collects tokens ∧
          UpdatedBy m (new q.operation q.shape) q := by
  refine ⟨fun parts parts' h h' => h.unique h', fun result => ⟨?_, parse_eq_of_outcome⟩, ?_⟩
  · rintro rfl
    exact outcome_parse reader query
  · intro q hq
    have h := outcome_parse reader query
    rw [hq] at h
    cases h with
    | modified hparts hname hbody hread htokens hm hresult =>
        have hupdated := updatedBy_of_modified hresult
        cases hresult
        exact ⟨_, _, _, hparts, htokens, hm, hupdated⟩

end Query

end SpatialQuery
