import SpatialQuery.Proofs.Query.Grammar
import SpatialQuery.Proofs.Shape.Scanner

/-!
# Reading queries by offsets

A query, its modifiers and its shape can be read with every cut made at a number of bytes. Such a
cut is partial, and the offsets come from different searches: for the first opening and the last
closing parenthesis, for the first equals sign of a token, and for the ends of runs. All of them
are boundaries, so every cut has an answer, and what is read is what the cuts at characters give.
-/

namespace SpatialQuery

namespace Binding

/-- The binding that a token writes, with the token cut by offsets. -/
def byOffsets? (token : Text) : Option Binding :=
  match token.offset? '=' with
  | none => some (token, token)
  | some index =>
    if index = 0 then some (token, token)
    else do
      let key ← token.slice? 0 index
      let value ← token.slice? (index + 1) token.utf8.size
      return (key, value)

theorem byOffsets?_eq (token : Text) : byOffsets? token = some (ofToken token) := by
  have hmark : '='.utf8Size = 1 := rfl
  unfold byOffsets? ofToken
  cases hcut : token.cutFirst '=' with
  | none =>
      have hnone : token.offset? '=' = none := by
        apply Option.eq_none_iff_forall_not_mem.2
        intro index hindex
        obtain ⟨before, after, rfl, _⟩ := Text.offset?_eq_some_iff.1 hindex
        exact Text.cutFirst_eq_none_iff.1 hcut (by simp)
      rw [hnone]
  | some cut =>
      obtain ⟨key, value⟩ := cut
      obtain ⟨rfl, hkey⟩ := Text.cutFirst_eq_some_iff.1 hcut
      have hindex : Text.offset? '=' (key ++ '=' :: value) = some key.byteLength :=
        Text.offset?_eq_some_iff.2 ⟨key, value, rfl, hkey, rfl⟩
      simp only [hindex, Text.byteLength_eq_zero_iff, Text.slice?_left, Text.slice?_right hmark,
        List.isEmpty_iff]
      split
      · rfl
      · rfl

end Binding

namespace Modifiers

/-- The bindings that a text writes, with its tokens cut by offsets. -/
def byOffsets? (t : Text) : Option Modifiers := do
  let bindings ← (t.fields isSeparator).mapM Binding.byOffsets?
  return bindings.foldl insert empty

theorem byOffsets?_eq (t : Text) : byOffsets? t = some (.ofText t) := by
  have hbindings : Binding.byOffsets? = fun token => pure (Binding.ofToken token) :=
    funext Binding.byOffsets?_eq
  unfold byOffsets? ofText ofTokens
  rw [hbindings, List.mapM_pure]
  exact congrArg some List.foldl_map

end Modifiers

/-- The opening parenthesis is one byte. -/
theorem Parts.byteLength_upToClose (parts : Parts) :
    Text.byteLength (parts.name ++ '(' :: parts.body) =
      parts.name.byteLength + 1 + parts.body.byteLength := by
  have hmark : '('.utf8Size = 1 := rfl
  rw [Text.byteLength_append, Text.byteLength_cons, hmark, Nat.add_assoc]

namespace Parts.Splits

variable {parts : Parts} {query : Text}

theorem offset?_eq (h : parts.Splits query) :
    query.offset? '(' = some parts.name.byteLength :=
  Text.offset?_eq_some_iff.2 ⟨parts.name, _, h.query_eq, h.open_not_mem, rfl⟩

theorem query_eq_upToClose (h : parts.Splits query) :
    query = (parts.name ++ '(' :: parts.body) ++ ')' :: parts.tail := by
  rw [h.query_eq]
  simp

theorem lastOffset?_eq (h : parts.Splits query) :
    query.lastOffset? ')' = some (parts.name.byteLength + 1 + parts.body.byteLength) :=
  Text.lastOffset?_eq_some_iff.2
    ⟨_, _, h.query_eq_upToClose, h.close_not_mem, parts.byteLength_upToClose.symm⟩

theorem slice_name (h : parts.Splits query) :
    query.slice? 0 parts.name.byteLength = some parts.name := by
  rw [h.query_eq]
  exact Text.slice?_left _ _

theorem slice_body (h : parts.Splits query) :
    query.slice? (parts.name.byteLength + 1)
      (parts.name.byteLength + 1 + parts.body.byteLength) = some parts.body := by
  have hmark : Text.byteLength (parts.name ++ ['(']) = parts.name.byteLength + 1 :=
    Text.byteLength_append _ _
  apply Text.slice?_eq_some_iff.2
  refine ⟨parts.name ++ ['('], ')' :: parts.tail, ?_, hmark.symm, by rw [hmark]⟩
  rw [h.query_eq]
  simp

theorem slice_tail (h : parts.Splits query) :
    query.slice? (parts.name.byteLength + 1 + parts.body.byteLength + 1) query.utf8.size =
      some parts.tail := by
  have hmark : ')'.utf8Size = 1 := rfl
  have hslice := Text.slice?_right hmark (parts.name ++ '(' :: parts.body) parts.tail
  rwa [← h.query_eq_upToClose, Parts.byteLength_upToClose] at hslice

end Parts.Splits

namespace Query

/-- Changes a query as the text behind its shape says, with the tokens of that cut by offsets. -/
def modifyByOffsets? (q : Query Shape) (tail : Text) :
    Option (Except (ParseError ShapeError) (Query Shape)) :=
  if tail.isEmpty then some (.ok q.resetScore)
  else do
    let modifiers ← Modifiers.byOffsets? tail
    return (q.setFields modifiers).map resetScore

theorem modifyByOffsets?_eq (q : Query Shape) (tail : Text) :
    q.modifyByOffsets? tail = some (q.modify tail) := by
  unfold modifyByOffsets? modify
  rw [Modifiers.byOffsets?_eq]
  split
  · rfl
  · rfl

/-- Reads a query over simple shapes, with every text cut by offsets. -/
def parseByOffsets (query : Text) : Option (Except (ParseError ShapeError) (Query Shape)) :=
  match query.offset? '(', query.lastOffset? ')' with
  | some opening, some closing =>
    if opening < closing then do
      let name ← query.slice? 0 opening
      if name.trim.any Text.isBlank then return .error (.malformed query)
      match Operation.ofName? name.trim with
      | none => return .error (.unknownOperation name.trim)
      | some operation =>
        let body ← query.slice? (opening + 1) closing
        if body.trim.isEmpty then return .error (.missingBody query)
        match ← Shape.readByOffsets body.trim with
        | .error cause => return .error (.invalidShape cause)
        | .ok shape =>
          let tail ← query.slice? (closing + 1) query.utf8.size
          (new operation shape).modifyByOffsets? tail.trim
    else some (.error (.malformed query))
  | _, _ => some (.error (.malformed query))

variable {parts : Parts} {query : Text}

/-- Where a query falls into its parts, the cuts give the parts. -/
theorem parseByOffsets_of_splits (h : parts.Splits query) :
    parseByOffsets query =
      if parts.name.trim.any Text.isBlank then some (.error (.malformed query))
      else
        match Operation.ofName? parts.name.trim with
        | none => some (.error (.unknownOperation parts.name.trim))
        | some operation =>
          if parts.body.trim.isEmpty then some (.error (.missingBody query))
          else
            match Shape.read parts.body.trim with
            | .error cause => some (.error (.invalidShape cause))
            | .ok shape => some ((new operation shape).modify parts.tail.trim) := by
  have hlt : parts.name.byteLength < parts.name.byteLength + 1 + parts.body.byteLength := by omega
  unfold parseByOffsets
  simp only [h.offset?_eq, h.lastOffset?_eq, if_pos hlt, h.slice_name, h.slice_body, h.slice_tail,
    Shape.readByOffsets_eq, modifyByOffsets?_eq, Option.bind_eq_bind, Option.bind_some]
  rfl

theorem parseByOffsets_of_name {operation : Operation} (hparts : parts.Splits query)
    (hname : operation.name = parts.name.trim) :
    parseByOffsets query =
      if parts.body.trim.isEmpty then some (.error (.missingBody query))
      else
        match Shape.read parts.body.trim with
        | .error cause => some (.error (.invalidShape cause))
        | .ok shape => some ((new operation shape).modify parts.tail.trim) := by
  have hblank : ∀ c ∈ parts.name.trim, Text.isBlank c = false := by
    rw [← hname]
    exact fun c hc => Operation.isBlank_of_mem_name hc
  rw [parseByOffsets_of_splits hparts, if_neg (any_isBlank_eq_false hblank), ← hname,
    Operation.ofName?_name]

/-- Offsets in their order are those of two parentheses with the parts around them. -/
theorem exists_splits_of_lt {opening closing : Nat} (hopening : query.offset? '(' = some opening)
    (hclosing : query.lastOffset? ')' = some closing) (hlt : opening < closing) :
    ∃ parts : Parts, parts.Splits query := by
  obtain ⟨name, rest, hquery, hname, rfl⟩ := Text.offset?_eq_some_iff.1 hopening
  obtain ⟨upTo, tail, hquery', htail, rfl⟩ := Text.lastOffset?_eq_some_iff.1 hclosing
  rcases List.append_eq_append_iff.1 (hquery.symm.trans hquery') with
    ⟨between, rfl, hrest⟩ | ⟨between, rfl, _⟩
  · cases between with
    -- No character is both parentheses, so the closing one stands behind the opening one.
    | nil => cases hrest
    | cons c body =>
        obtain ⟨rfl, rfl⟩ := List.cons.inj hrest
        exact ⟨⟨name, body, tail⟩, by simpa using hquery, hname, htail⟩
  · rw [Text.byteLength_append] at hlt
    omega

theorem parseByOffsets_of_unsplit (h : ∀ parts : Parts, ¬parts.Splits query) :
    parseByOffsets query = some (.error (.malformed query)) := by
  unfold parseByOffsets
  split
  · next opening closing hopening hclosing =>
      split
      · next hlt =>
          obtain ⟨parts, hparts⟩ := exists_splits_of_lt hopening hclosing hlt
          exact absurd hparts (h parts)
      · rfl
  · rfl

/-- What comes of reading a query also comes of reading it by offsets. -/
theorem parseByOffsets_of_outcome {result : Except (ParseError ShapeError) (Query Shape)}
    (h : Outcome Shape.read query result) : parseByOffsets query = some result := by
  cases h with
  | unsplit hparts => exact parseByOffsets_of_unsplit hparts
  | blankInName hparts hc hblank =>
      rw [parseByOffsets_of_splits hparts, if_pos (List.any_eq_true.2 ⟨_, hc, hblank⟩)]
  | unknownOperation hparts hname hunknown =>
      rw [parseByOffsets_of_splits hparts, if_neg (any_isBlank_eq_false hname),
        Operation.ofName?_eq_none_iff.2 hunknown]
  | missingBody hparts hname hbody =>
      rw [parseByOffsets_of_name hparts hname, hbody]
      rfl
  | invalidShape hparts hname hbody hread =>
      rw [parseByOffsets_of_name hparts hname, if_neg (by simpa using hbody), hread]
  | modified hparts hname hbody hread htokens hm hresult =>
      obtain rfl := (collects_ofText_iff htokens).1 hm
      rw [parseByOffsets_of_name hparts hname, if_neg (by simpa using hbody), hread]
      exact congrArg some (modify_of_modified hresult)

theorem parseByOffsets_eq (query : Text) :
    parseByOffsets query = some (parse Shape.read query) :=
  parseByOffsets_of_outcome (outcome_parse Shape.read query)

end Query

/-- A cut by offsets has an answer exactly when the offsets are in their order, inside the text and
on boundaries of its characters. Every cut that is made when a query, modifiers or a shape is read
by offsets has an answer, and what is read is what is read by cuts at characters. -/
theorem byOffsets_eq_some :
    (∀ (t : Text) (start stop : Nat), (t.slice? start stop).isSome = true ↔
      start ≤ stop ∧ stop ≤ t.utf8.size ∧
        Text.IsBoundary t.utf8 start ∧ Text.IsBoundary t.utf8 stop) ∧
    (∀ query, Query.parseByOffsets query = some (Query.parse Shape.read query)) ∧
    (∀ t, Modifiers.byOffsets? t = some (.ofText t)) ∧
    ∀ t, Shape.readByOffsets t = some (Shape.read t) :=
  ⟨fun _ _ _ => Text.isSome_slice?_iff, Query.parseByOffsets_eq, Modifiers.byOffsets?_eq,
    Shape.readByOffsets_eq⟩

end SpatialQuery
