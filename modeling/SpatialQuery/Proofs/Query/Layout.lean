import SpatialQuery.Proofs.Modifiers.Order
import SpatialQuery.Proofs.Query.Printed

/-!
# How modifiers may be laid out

`LaidOut` says how tokens can stand behind the closing parenthesis of a query: with separators
between neighbours, and with any blanks around them. What comes of the query depends only on the
last token of each key; `parse_eq_of_laidOut` says so of two queries whose tokens differ in order
and spacing, or by a token whose key is written again.
-/

namespace SpatialQuery

namespace Modifiers

/-- A text that can be put behind a query as one modifier. -/
structure IsToken (token : Text) : Prop where
  ne_nil : token ≠ []
  close_not_mem : ')' ∉ token
  not_isBlank : ∀ c ∈ token, Text.isBlank c = false

instance (token : Text) : Decidable (IsToken token) :=
  decidable_of_iff (token ≠ [] ∧ ')' ∉ token ∧ token.all (!Text.isBlank ·) = true)
    ⟨fun h => ⟨h.1, h.2.1, by simpa using h.2.2⟩,
      fun h => ⟨h.ne_nil, h.close_not_mem, by simpa using h.not_isBlank⟩⟩

/-- A text is tokens in their order with at least one separator between neighbours. -/
inductive Joined : Text → List Text → Prop
  | nil : Joined [] []
  | last (token) : Joined token [token]
  | cons {gap rest next tokens} (token) (hne : gap ≠ [])
      (hgap : ∀ c ∈ gap, isSeparator c = true) (tail : Joined rest (next :: tokens)) :
      Joined (token ++ (gap ++ rest)) (token :: next :: tokens)

/-- A text is tokens in their order with separators between neighbours and blanks around all. -/
def LaidOut (t : Text) (tokens : List Text) : Prop :=
  ∃ before joined after, t = before ++ joined ++ after ∧
    (∀ c ∈ before, Text.isBlank c = true) ∧ (∀ c ∈ after, Text.isBlank c = true) ∧
    Joined joined tokens

theorem isBlank_of_isSeparator {c : Char} (h : isSeparator c = true) : Text.isBlank c = true := by
  have hc : c = ' ' ∨ c = '\t' ∨ c = '\n' := by simpa using isSeparator_iff_mem.1 h
  rcases hc with rfl | rfl | rfl
  all_goals decide

section Joined

variable {t : Text} {tokens : List Text}

theorem mem_of_joined (h : Joined t tokens) :
    ∀ c ∈ t, isSeparator c = true ∨ ∃ token ∈ tokens, c ∈ token := by
  induction h with
  | nil =>
      intro c hc
      cases hc
  | last token =>
      intro c hc
      exact .inr ⟨token, List.mem_cons_self, hc⟩
  | cons token _ hgap _ ih =>
      intro c hc
      rcases List.mem_append.1 hc with hc | hc
      · exact .inr ⟨token, List.mem_cons_self, hc⟩
      · rcases List.mem_append.1 hc with hc | hc
        · exact .inl (hgap c hc)
        · exact (ih c hc).imp_right fun ⟨other, hother, hmem⟩ =>
            ⟨other, List.mem_cons_of_mem _ hother, hmem⟩

theorem IsToken.not_isSeparator {token : Text} (h : IsToken token) :
    ∀ c ∈ token, isSeparator c = false := by
  intro c hc
  by_contra hseparator
  have hblank := isBlank_of_isSeparator (Bool.not_eq_false _ ▸ hseparator)
  rw [h.not_isBlank c hc] at hblank
  cases hblank

theorem fields_of_joined (h : Joined t tokens) (htokens : ∀ token ∈ tokens, IsToken token) :
    t.fields isSeparator = tokens := by
  induction h with
  | nil => rfl
  | last token =>
      have htoken := htokens token List.mem_cons_self
      exact Text.fields_of_piece htoken.ne_nil htoken.not_isSeparator
  | @cons gap rest next tokens token hne hgap _ ih =>
      obtain ⟨htoken, hrest⟩ := List.forall_mem_cons.1 htokens
      have hapart : Text.StartsApart isSeparator (gap ++ rest) := by
        obtain ⟨c, gap, rfl⟩ := List.exists_cons_of_ne_nil hne
        exact Text.startsApart_cons (hgap c List.mem_cons_self) _
      rw [Text.fields_piece_append htoken.ne_nil htoken.not_isSeparator hapart,
        Text.fields_append_of_forall hgap, ih hrest]

/-- Blanks inside a text of tokens are separators, so only trimming meets any others. -/
theorem ofText_trim_of_laidOut (h : LaidOut t tokens) (htokens : ∀ token ∈ tokens, IsToken token) :
    ofText t.trim = ofTokens tokens := by
  obtain ⟨before, joined, after, rfl, hbefore, hafter, hjoined⟩ := h
  have hseparates : ∀ c ∈ joined, Text.isBlank c = true → isSeparator c = true := by
    intro c hc hblank
    rcases mem_of_joined hjoined c hc with hseparator | ⟨token, htoken, hmem⟩
    · exact hseparator
    · rw [(htokens token htoken).not_isBlank c hmem] at hblank
      cases hblank
  unfold ofText
  rw [Text.trim_pad hbefore hafter, Text.fields_trim hseparates, fields_of_joined hjoined htokens]

theorem close_not_mem_of_laidOut (h : LaidOut t tokens)
    (htokens : ∀ token ∈ tokens, IsToken token) : ')' ∉ t := by
  obtain ⟨before, joined, after, rfl, hbefore, hafter, hjoined⟩ := h
  have hclose : Text.isBlank ')' = false := by decide
  intro hmem
  rcases List.mem_append.1 hmem with hmem | hmem
  · rcases List.mem_append.1 hmem with hmem | hmem
    · cases hclose.symm.trans (hbefore _ hmem)
    · rcases mem_of_joined hjoined _ hmem with hseparator | ⟨token, htoken, hmem⟩
      · cases hclose.symm.trans (isBlank_of_isSeparator hseparator)
      · exact (htokens token htoken).close_not_mem hmem
  · cases hclose.symm.trans (hafter _ hmem)

end Joined

end Modifiers

namespace Query

open Modifiers

variable {ε S : Type}

/-- The name of an operation, a body in parentheses, and what stands behind them. -/
def written (operation : Operation) (body tail : Text) : Text :=
  operation.name ++ '(' :: (body ++ ')' :: tail)

theorem splits_written (operation : Operation) (body : Text) {tail : Text} (htail : ')' ∉ tail) :
    Parts.Splits ⟨operation.name, body, tail⟩ (written operation body tail) :=
  ⟨rfl, operation.open_not_mem_name, htail⟩

/-- Two queries with the same operation and body have the same result if their modifiers are the
same, even if it is a refusal: no fault that can come up behind them quotes the query. -/
theorem parse_written_congr (reader : Reader ε S) (operation : Operation) {body tail tail' : Text}
    (hbody : body.isAllBlank = false) (hclose : ')' ∉ tail) (hclose' : ')' ∉ tail')
    (h : ofText tail.trim = ofText tail'.trim) :
    parse reader (written operation body tail) = parse reader (written operation body tail') := by
  have hname : operation.name = operation.name.trim := (trim_name operation).symm
  have hne : body.trim ≠ [] := by
    intro hnil
    rw [Text.trim_eq_nil_iff.1 hnil] at hbody
    cases hbody
  have hsplits := splits_written operation body hclose
  have hsplits' := splits_written operation body hclose'
  cases hread : reader body.trim with
  | error cause =>
      rw [parse_of_invalidShape hsplits hname hne hread,
        parse_of_invalidShape hsplits' hname hne hread]
  | ok shape =>
      rw [parse_of_shape hsplits hname hne hread, parse_of_shape hsplits' hname hne hread,
        modify_new, modify_new, h]

/-- Tokens with keys of their own may stand in any order, and a token whose key is written again
may be left out; in neither case does the spacing matter, nor what the token that is left out
writes. -/
theorem parse_eq_of_laidOut (reader : Reader ε S) (operation : Operation) {body tail : Text}
    {tokens : List Text} (hbody : body.isAllBlank = false)
    (htokens : ∀ token ∈ tokens, IsToken token) (htail : LaidOut tail tokens) :
    (tokens.Pairwise (fun s t => ¬Binding.SharesKey s t) →
      ∀ others tail', others.Perm tokens → LaidOut tail' others →
        parse reader (written operation body tail') =
          parse reader (written operation body tail)) ∧
      ∀ before token after tail', tokens = before ++ token :: after →
        (∃ later ∈ after, Binding.SharesKey token later) → LaidOut tail' (before ++ after) →
          parse reader (written operation body tail') =
            parse reader (written operation body tail) := by
  have hcongr : ∀ others tail', (∀ token ∈ others, token ∈ tokens) → LaidOut tail' others →
      ofTokens others = ofTokens tokens →
        parse reader (written operation body tail') =
          parse reader (written operation body tail) := by
    intro others tail' hsub htail' hsame
    have hothers : ∀ token ∈ others, IsToken token := fun token h => htokens token (hsub token h)
    apply parse_written_congr reader operation hbody
    · exact close_not_mem_of_laidOut htail' hothers
    · exact close_not_mem_of_laidOut htail htokens
    · rw [ofText_trim_of_laidOut htail' hothers, ofText_trim_of_laidOut htail htokens, hsame]
  constructor
  · intro hdistinct others tail' hperm htail'
    exact hcongr others tail' (fun token h => hperm.mem_iff.1 h) htail'
      (ofTokens_eq_of_perm hdistinct hperm)
  · rintro before token after tail' rfl hshares htail'
    have hsub := ((List.sublist_cons_self token after).append_left before).subset
    exact hcongr _ tail' (fun _ h => hsub h) htail' (ofTokens_eq_of_sharesKey hshares).symm

theorem parse_eq_of_laidOut_of_min :
    parse Shape.read "Overlaps(0 0)\n x \tmin=0\u00a0".toList =
        parse Shape.read "Overlaps(0 0)min=0 x".toList ∧
      parse Shape.read "Overlaps(0 0) x min=0".toList =
        parse Shape.read "Overlaps(0 0)min=? x min=0".toList := by
  let min := "min=0".toList
  let wrong := "min=?".toList
  let x := "x".toList
  have hspace : ∀ c ∈ [' '], isSeparator c = true := List.all_eq_true.1 (by decide)
  have hgap : ∀ c ∈ " \t".toList, isSeparator c = true := List.all_eq_true.1 (by decide)
  have hbefore : ∀ c ∈ "\n ".toList, Text.isBlank c = true := List.all_eq_true.1 (by decide)
  have hafter : ∀ c ∈ ['\u00a0'], Text.isBlank c = true := List.all_eq_true.1 (by decide)
  have hnone : ∀ c ∈ ([] : Text), Text.isBlank c = true := List.all_eq_true.1 (by decide)
  have hblank : ∀ c ∈ [' '], Text.isBlank c = true := List.all_eq_true.1 (by decide)
  have hjoined : Joined (x ++ ([' '] ++ min)) [x, min] := .cons x (by decide) hspace (.last min)
  have hminX : LaidOut "min=0 x".toList [min, x] :=
    ⟨[], _, [], rfl, hnone, hnone, .cons min (by decide) hspace (.last x)⟩
  have hxMin : LaidOut "\n x \tmin=0\u00a0".toList [x, min] :=
    ⟨_, _, _, rfl, hbefore, hafter, .cons x (by decide) hgap (.last min)⟩
  have hrepeated : LaidOut "min=? x min=0".toList [wrong, x, min] :=
    ⟨[], _, [], rfl, hnone, hnone, .cons wrong (by decide) hspace hjoined⟩
  have hleft : LaidOut " x min=0".toList [x, min] := ⟨_, _, [], rfl, hblank, hnone, hjoined⟩
  have hbody : Text.isAllBlank "0 0".toList = false := by decide
  constructor
  · exact (parse_eq_of_laidOut Shape.read .overlaps hbody (by decide) hminX).1
      (by decide) [x, min] _ (.swap min x []) hxMin
  · exact (parse_eq_of_laidOut Shape.read .overlaps hbody (by decide) hrepeated).2
      [] wrong [x, min] _ rfl (by decide) hleft

end Query

end SpatialQuery
