import SpatialQuery.Proofs.Shape.Grammar
import SpatialQuery.Proofs.Shape.Pieces
import SpatialQuery.Proofs.Text.Spacing

/-!
# The layout of the text of a shape

`Edit` lists the changes of a text that touch its layout only: of blanks where no run depends on
them, and of commas among numbers. An edit leaves the tokens as they are but for one comma, which is
taken away, or put behind a number, and neither changes what the tokens are accepted as. So a text
that is read is read as the same shape after any number of edits (`read_of_edits`).
-/

namespace SpatialQuery

/-- Blanks between two texts have no effect: one of them is empty, or a mark stands beside them. -/
def IsSeam (before after : Text) : Prop :=
  before = [] ∨ after = [] ∨ (∃ c ∈ before.getLast?, isMark c = true) ∨
    ∃ c ∈ after.head?, isMark c = true

/-- A change of the layout of a text. -/
inductive Edit : Text → Text → Prop
  /-- Blanks become other blanks. -/
  | respace {before gap gap' after} (hne : gap ≠ []) (hne' : gap' ≠ [])
      (hgap : ∀ c ∈ gap, Text.isBlank c = true) (hgap' : ∀ c ∈ gap', Text.isBlank c = true) :
      Edit (before ++ (gap ++ after)) (before ++ (gap' ++ after))
  /-- Blanks are put at an end of the text or beside a mark. -/
  | insert {before gap after} (h : IsSeam before after)
      (hgap : ∀ c ∈ gap, Text.isBlank c = true) :
      Edit (before ++ after) (before ++ (gap ++ after))
  /-- Blanks are taken away at an end of the text or beside a mark. -/
  | remove {before gap after} (h : IsSeam before after)
      (hgap : ∀ c ∈ gap, Text.isBlank c = true) :
      Edit (before ++ (gap ++ after)) (before ++ after)
  /-- A comma becomes a space. -/
  | uncomma {before after} : Edit (before ++ ',' :: after) (before ++ ' ' :: after)
  /-- Blanks behind a number, such as those between two numbers, become a comma with any blanks
  around it. -/
  | comma {before number x gap left right after} (hbefore : Apart before number)
      (hnumber : Token.Lexed number [.number x]) (hne : gap ≠ [])
      (hgap : ∀ c ∈ gap, Text.isBlank c = true) (hleft : ∀ c ∈ left, Text.isBlank c = true)
      (hright : ∀ c ∈ right, Text.isBlank c = true) :
      Edit (before ++ (number ++ (gap ++ after)))
        (before ++ (number ++ (left ++ ',' :: (right ++ after))))

namespace Token

variable {s t before gap after : Text} {tokens others : List Token}

theorem ofLexemes_append_eq_ok_iff {ls ms : List Lexeme} :
    ofLexemes (ls ++ ms) = .ok tokens ↔
      ∃ a b, tokens = a ++ b ∧ ofLexemes ls = .ok a ∧ ofLexemes ms = .ok b := by
  induction ls generalizing tokens with
  | nil => simp [ofLexemes]
  | cons l ls ih =>
      rw [List.cons_append, ofLexemes_cons_eq_ok_iff]
      constructor
      · rintro ⟨token, rest, rfl, htoken, hrest⟩
        obtain ⟨a, b, rfl, ha, hb⟩ := ih.1 hrest
        exact ⟨token :: a, b, rfl, ofLexemes_cons_eq_ok_iff.2 ⟨token, a, rfl, htoken, ha⟩, hb⟩
      · rintro ⟨a, b, rfl, ha, hb⟩
        obtain ⟨token, a, rfl, htoken, ha⟩ := ofLexemes_cons_eq_ok_iff.1 ha
        exact ⟨token, a ++ b, rfl, htoken, ih.2 ⟨a, b, rfl, ha, hb⟩⟩

/-- Two texts with no run across their border fall into the tokens of both. -/
theorem lexed_append_iff (h : Apart s t) :
    Lexed (s ++ t) tokens ↔ ∃ a b, tokens = a ++ b ∧ Lexed s a ∧ Lexed t b := by
  have hlexed : ∀ n (u : Text) us, Lexed u us ↔ ofLexemes (lexemes n u) = .ok us :=
    fun n u us => ⟨fun h => ofLexemes_of_lexed h n, lexed_of_ofLexemes n u us⟩
  rw [hlexed 0 (s ++ t), lexemes_append 0 h, ofLexemes_append_eq_ok_iff]
  simp only [← hlexed]

/-- Blanks in front of a text do not matter to its tokens. -/
theorem lexed_pad_iff (hgap : ∀ c ∈ gap, Text.isBlank c = true) :
    Lexed (gap ++ t) tokens ↔ Lexed t tokens := by
  induction gap with
  | nil => exact Iff.rfl
  | cons c gap ih =>
      obtain ⟨hc, hgap⟩ := List.forall_mem_cons.1 hgap
      exact ⟨fun h => (ih hgap).1 (h.of_blank hc), fun h => .blank hc ((ih hgap).2 h)⟩

theorem endsRun_pad (hgap : ∀ c ∈ gap, Text.isBlank c = true) (h : gap = [] → EndsRun t) :
    EndsRun (gap ++ t) := by
  cases gap with
  | nil => exact h rfl
  | cons c gap => exact endsRun_cons (by simp [isRunChar, hgap c List.mem_cons_self])

/-- Blanks do not matter where there are some already, or where they divide no run. -/
theorem lexed_gap_iff (h : gap ≠ [] ∨ Apart before after)
    (hgap : ∀ c ∈ gap, Text.isBlank c = true) :
    Lexed (before ++ (gap ++ after)) tokens ↔
      ∃ a b, tokens = a ++ b ∧ Lexed before a ∧ Lexed after b := by
  have hapart : Apart before (gap ++ after) := by
    by_cases hne : gap = []
    · subst hne
      exact h.resolve_left fun hne => hne rfl
    · exact apart_of_endsRun before (endsRun_pad hgap fun hnil => absurd hnil hne)
  rw [lexed_append_iff hapart]
  simp only [lexed_pad_iff hgap]

/-- A comma is a token wherever it stands. -/
theorem lexed_comma_iff :
    Lexed (before ++ ',' :: after) tokens ↔
      ∃ a b, tokens = a ++ .comma :: b ∧ Lexed before a ∧ Lexed after b := by
  rw [lexed_append_iff (apart_of_endsRun before (endsRun_cons rfl))]
  constructor
  · rintro ⟨a, b, rfl, ha, hb⟩
    obtain ⟨rest, rfl, hrest⟩ := hb.exists_of_mark rfl
    exact ⟨a, rest, rfl, ha, hrest⟩
  · rintro ⟨a, b, rfl, ha, hb⟩
    exact ⟨a, .comma :: b, rfl, ha, .mark rfl hb⟩

end Token

theorem IsSeam.apart {before after : Text} (h : IsSeam before after) : Apart before after := by
  have hmark : ∀ {c}, isMark c = true → isRunChar c = false := fun h => by simp [isRunChar, h]
  rcases h with rfl | rfl | ⟨c, hc, h⟩ | ⟨c, hc, h⟩
  · exact apart_of_last (by simp) after
  · exact apart_of_endsRun before (by simp [Token.EndsRun])
  · refine apart_of_last (fun d hd => ?_) after
    obtain rfl := Option.some.inj (hc.symm.trans hd)
    exact hmark h
  · refine apart_of_endsRun before fun d hd => ?_
    obtain rfl := Option.some.inj (hc.symm.trans hd)
    exact hmark h

namespace Token

/-- One comma is taken away, or put behind a number. -/
inductive CommaStep : List Token → List Token → Prop
  | take {rest} : CommaStep (.comma :: rest) rest
  | put {x rest} : CommaStep (.number x :: rest) (.number x :: .comma :: rest)
  | skip {token tokens others} (h : CommaStep tokens others) :
      CommaStep (token :: tokens) (token :: others)

variable {tokens others body : List Token} {xs rs : List Binary64}

theorem CommaStep.append_left (h : CommaStep tokens others) (a : List Token) :
    CommaStep (a ++ tokens) (a ++ others) := by
  induction a with
  | nil => exact h
  | cons token a ih => exact ih.skip

/-- A step in front of a closing parenthesis leaves that where it is. -/
theorem CommaStep.exists_of_close (h : CommaStep (body ++ [.closeParen]) others) :
    ∃ body', others = body' ++ [.closeParen] ∧ CommaStep body body' := by
  induction body generalizing others with
  | nil =>
      cases h with
      | skip h => cases h
  | cons token body ih =>
      cases h with
      | take => exact ⟨body, rfl, .take⟩
      | @put x _ => exact ⟨.number x :: .comma :: body, rfl, .put⟩
      | skip h =>
          obtain ⟨body', rfl, hbody⟩ := ih h
          exact ⟨token :: body', rfl, hbody.skip⟩

/-- Between a keyword and its parenthesis there is no room for a comma. -/
theorem CommaStep.exists_of_keyword {k : Text}
    (h : CommaStep (.word k :: .openParen :: (body ++ [.closeParen])) others) :
    ∃ body', others = .word k :: .openParen :: (body' ++ [.closeParen]) ∧ CommaStep body body' := by
  cases h with
  | skip h =>
      cases h with
      | skip h =>
          obtain ⟨body', rfl, hbody⟩ := h.exists_of_close
          exact ⟨body', rfl, hbody⟩

/-- Commas among items do not matter. -/
theorem Holds.of_commaStep (h : Holds tokens xs rs) (hstep : CommaStep tokens others) :
    Holds others xs rs := by
  induction h generalizing others with
  | nil => cases hstep
  | number tail ih =>
      cases hstep with
      | put => exact .number (.comma tail)
      | skip hstep => exact .number (ih hstep)
  | comma tail ih =>
      cases hstep with
      | take => exact tail
      | skip hstep => exact .comma (ih hstep)
  | group hd tail ih =>
      -- The word and the equals sign of a group stay where they are.
      cases hstep with
      | skip hstep =>
          cases hstep with
          | skip hstep =>
              cases hstep with
              | put => exact .group hd (.comma tail)
              | skip hstep => exact .group hd (ih hstep)

end Token

namespace Edit

variable {t t' : Text} {tokens : List Token}

/-- An edit keeps all tokens, or takes away one comma, or puts one behind a number. -/
theorem exists_lexed (h : Edit t t') (htokens : Token.Lexed t tokens) :
    ∃ others, Token.Lexed t' others ∧ (others = tokens ∨ Token.CommaStep tokens others) := by
  cases h with
  | respace hne hne' hgap hgap' =>
      have hparts := (Token.lexed_gap_iff (.inl hne) hgap).1 htokens
      exact ⟨tokens, (Token.lexed_gap_iff (.inl hne') hgap').2 hparts, .inl rfl⟩
  | insert hseam hgap =>
      have hparts := (Token.lexed_append_iff hseam.apart).1 htokens
      exact ⟨tokens, (Token.lexed_gap_iff (.inr hseam.apart) hgap).2 hparts, .inl rfl⟩
  | remove hseam hgap =>
      have hparts := (Token.lexed_gap_iff (.inr hseam.apart) hgap).1 htokens
      exact ⟨tokens, (Token.lexed_append_iff hseam.apart).2 hparts, .inl rfl⟩
  | @uncomma before after =>
      obtain ⟨a, b, rfl, ha, hb⟩ := Token.lexed_comma_iff.1 htokens
      have hspace : ∀ c ∈ [' '], Text.isBlank c = true := List.all_eq_true.1 (by decide)
      have hlexed : Token.Lexed (before ++ ([' '] ++ after)) (a ++ b) :=
        (Token.lexed_gap_iff (.inl (by simp)) hspace).2 ⟨a, b, rfl, ha, hb⟩
      exact ⟨a ++ b, hlexed, .inr (Token.CommaStep.take.append_left a)⟩
  | @comma before number x gap left right after hbefore hnumber hne hgap hleft hright =>
      have hnonempty : number ≠ [] := by
        rintro rfl
        cases hnumber.unique .nil
      obtain ⟨a, inner, rfl, ha, hinner⟩ :=
        (Token.lexed_append_iff (hbefore.append_right hnonempty _)).1 htokens
      obtain ⟨_, b, rfl, hx, hb⟩ := (Token.lexed_gap_iff (.inl hne) hgap).1 hinner
      obtain rfl := hx.unique hnumber
      have hcomma : Token.Lexed (left ++ ',' :: (right ++ after)) (.comma :: b) :=
        (Token.lexed_pad_iff hleft).2 (.mark rfl ((Token.lexed_pad_iff hright).2 hb))
      have hend : Token.EndsRun (left ++ ',' :: (right ++ after)) :=
        Token.endsRun_pad hleft fun _ => Token.endsRun_cons rfl
      have hlexed : Token.Lexed (number ++ (left ++ ',' :: (right ++ after)))
          ([.number x] ++ .comma :: b) :=
        (Token.lexed_append_iff (apart_of_endsRun number hend)).2 ⟨_, _, rfl, hnumber, hcomma⟩
      have hstep : Token.CommaStep (a ++ ([.number x] ++ b)) (a ++ ([.number x] ++ .comma :: b)) :=
        Token.CommaStep.put.append_left a
      refine ⟨_, ?_, .inr hstep⟩
      exact (Token.lexed_append_iff (hbefore.append_right hnonempty _)).2 ⟨_, _, rfl, ha, hlexed⟩

/-- Blanks around a text can be taken away and put back. -/
theorem reflTransGen_pad {before after : Text} (hbefore : ∀ c ∈ before, Text.isBlank c = true)
    (hafter : ∀ c ∈ after, Text.isBlank c = true) (t : Text) :
    Relation.ReflTransGen Edit (before ++ t ++ after) t ∧
      Relation.ReflTransGen Edit t (before ++ t ++ after) := by
  have hstart : IsSeam [] (t ++ after) := .inl rfl
  have hstop : IsSeam t [] := .inr (.inl rfl)
  have hremove := remove hstop hafter
  have hinsert := insert hstop hafter
  rw [List.append_nil, List.append_nil] at hremove hinsert
  rw [List.append_assoc]
  exact ⟨(Relation.ReflTransGen.single (remove hstart hbefore)).tail hremove,
    (Relation.ReflTransGen.single hinsert).tail (insert hstart hbefore)⟩

end Edit

namespace Shape

variable {s : Shape} {tokens others : List Token}

/-- Tokens are accepted as the same shape with a comma less, or with one more behind a number. -/
theorem Accepted.of_commaStep (h : Accepted tokens s) (hstep : Token.CommaStep tokens others) :
    Accepted others s := by
  cases h with
  | barePoint h => exact .barePoint (h.of_commaStep hstep)
  | bareRectangle h hx hy => exact .bareRectangle (h.of_commaStep hstep) hx hy
  | point hk h =>
      obtain ⟨body', rfl, hbody⟩ := hstep.exists_of_keyword
      exact .point hk (h.of_commaStep hbody)
  | rectangle hk h hx hy =>
      obtain ⟨body', rfl, hbody⟩ := hstep.exists_of_keyword
      exact .rectangle hk (h.of_commaStep hbody) hx hy
  | circle hk h hr hradius =>
      obtain ⟨body', rfl, hbody⟩ := hstep.exists_of_keyword
      exact .circle hk (h.of_commaStep hbody) hr hradius
  | thirdNumber hk h hradius =>
      obtain ⟨body', rfl, hbody⟩ := hstep.exists_of_keyword
      exact .thirdNumber hk (h.of_commaStep hbody) hradius

theorem read_of_edit {t t' : Text} (h : Edit t t') (hread : read t = .ok s) : read t' = .ok s := by
  obtain ⟨tokens, htokens, haccepted⟩ := read_eq_ok_iff_exists_accepted.1 hread
  obtain ⟨others, hothers, hsame⟩ := h.exists_lexed htokens
  refine read_eq_ok_iff_exists_accepted.2 ⟨others, hothers, ?_⟩
  rcases hsame with rfl | hstep
  · exact haccepted
  · exact haccepted.of_commaStep hstep

/-- A text that is read is read as the same shape after any number of edits, so also with the blanks
at its ends trimmed off or put back. -/
theorem read_of_edits (t : Text) (s : Shape) :
    (∀ t', Relation.ReflTransGen Edit t t' → read t = .ok s → read t' = .ok s) ∧
      (read t = .ok s ↔ read t.trim = .ok s) := by
  have hedits : ∀ {u u'}, Relation.ReflTransGen Edit u u' → read u = .ok s → read u' = .ok s := by
    intro u u' h hread
    induction h with
    | refl => exact hread
    | tail _ hedit ih => exact read_of_edit hedit ih
  obtain ⟨before, after, ht, hbefore, hafter⟩ := Text.exists_eq_trim t
  obtain ⟨hoff, hon⟩ := Edit.reflTransGen_pad hbefore hafter t.trim
  rw [← ht] at hoff hon
  exact ⟨fun t' h => hedits h, hedits hoff, hedits hon⟩

theorem read_of_edits_of_comma :
    read "POINT (0,\n0)".toList = .ok (point ⟨.zero, .zero⟩) := by
  have hread : read "POINT(0 0)".toList = .ok (point ⟨.zero, .zero⟩) := by decide +kernel
  have hnumber : Token.Lexed ['0'] [.number .zero] :=
    Token.ofText_eq_ok_iff.1 (by decide +kernel)
  have hapart : Apart "POINT(".toList ['0'] := apart_concat (by decide) "POINT".toList _
  have hspace : ∀ c ∈ [' '], Text.isBlank c = true := List.all_eq_true.1 (by decide)
  have hnone : ∀ c ∈ ([] : Text), Text.isBlank c = true := List.all_eq_true.1 (by decide)
  have hfeed : ∀ c ∈ ['\n'], Text.isBlank c = true := List.all_eq_true.1 (by decide)
  have hcomma : Edit "POINT(0 0)".toList "POINT(0,\n0)".toList :=
    .comma hapart hnumber (List.cons_ne_nil ' ' []) hspace hnone hfeed
  have hseam : IsSeam "POINT".toList "(0,\n0)".toList := .inr (.inr (.inr ⟨'(', rfl, by decide⟩))
  have hinsert : Edit "POINT(0,\n0)".toList "POINT (0,\n0)".toList := .insert hseam hspace
  exact (read_of_edits _ _).1 _ ((Relation.ReflTransGen.single hcomma).tail hinsert) hread

end Shape

end SpatialQuery
