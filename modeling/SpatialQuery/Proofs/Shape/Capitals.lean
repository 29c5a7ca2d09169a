import SpatialQuery.Proofs.Shape.ReadBack
import SpatialQuery.Proofs.Shape.Refused
import SpatialQuery.Proofs.Text.Capitals

/-!
# Shapes in any case

Every step of reading commutes with capitals: a text in capitals has the lexemes, the tokens and the
form of the text in capitals, and the same shape. Where a step fails, it fails with the same cause,
and only the words that the cause quotes are in capitals. So texts that differ in nothing but the
case of ASCII letters are read as the same shape or refused alike, and no way to write an infinity
or a number that is not a number is ever read.
-/

namespace SpatialQuery

theorem Token.ofMark?_toUpper (c : Char) : ofMark? c.toUpper = ofMark? c :=
  Text.apply_toUpper (by decide) c

theorem isMark_toUpper (c : Char) : isMark c.toUpper = isMark c := Text.apply_toUpper (by decide) c

theorem isRunChar_toUpper (c : Char) : isRunChar c.toUpper = isRunChar c :=
  Text.apply_toUpper (by decide) c

theorem Text.isBlank_toUpper (c : Char) : isBlank c.toUpper = isBlank c :=
  apply_toUpper (by decide) c

theorem Text.isLetter_toUpper (c : Char) : isLetter c.toUpper = isLetter c :=
  apply_toUpper (by decide) c

/-- A lexeme in capitals, at its place. -/
def Lexeme.upper (lexeme : Lexeme) : Lexeme := ⟨lexeme.offset, lexeme.text.upper⟩

/-- A token with its word in capitals. -/
def Token.upper : Token → Token
  | word w => word w.upper
  | token => token

/-- A cause with the text it quotes in capitals. -/
def ShapeError.upper : ShapeError → ShapeError
  | invalidCoordinate text offset => invalidCoordinate text.upper offset
  | missingOpen word => missingOpen word.upper
  | unexpected token => unexpected token.upper
  | trailing token => trailing token.upper
  | unknownShape word => unknownShape word.upper
  | e => e

/-- A form with its word in capitals. -/
def Form.upper (form : Form) : Form := ⟨form.word.map Text.upper, form.items⟩

theorem lexemes_upper (offset : Nat) (t : Text) :
    lexemes offset t.upper = (lexemes offset t).map Lexeme.upper := by
  fun_induction lexemes offset t with
  | case1 =>
      rw [lexemes.eq_def]
      rfl
  | case2 offset c rest hb ih =>
      rw [Text.upper_cons, lexemes_of_isBlank ((Text.isBlank_toUpper c).trans hb),
        Text.utf8Size_toUpper, ih]
  | case3 offset c rest hb hm ih =>
      rw [Text.upper_cons, lexemes_of_isMark ((isMark_toUpper c).trans hm),
        Text.utf8Size_toUpper, ih]
      rfl
  | case4 offset c rest hb hm run ih =>
      have hc : isRunChar c.toUpper = true :=
        (isRunChar_toUpper c).trans (isRunChar_of_not hb hm)
      have hrun : c.toUpper :: Text.upper (rest.takeWhile isRunChar) = Text.upper run := rfl
      rw [Text.upper_cons, lexemes_of_isRunChar hc, Text.takeWhile_upper isRunChar_toUpper,
        Text.dropWhile_upper isRunChar_toUpper, hrun, Text.byteLength_upper, ih]
      rfl

namespace Token

theorem ofRun?_upper (c : Char) (run : Text) :
    ofRun? c.toUpper run.upper = (ofRun? c run).map upper := by
  unfold ofRun?
  rw [Text.isLetter_toUpper, Binary64.read_upper]
  split
  · rfl
  · cases Binary64.read run with
    | error e => rfl
    | ok x => cases hfinite : x.isFinite <;> simp [hfinite, upper]

theorem upper_of_ofMark? {c : Char} {token : Token} (h : ofMark? c = some token) :
    token.upper = token := by
  unfold ofMark? at h
  repeat' split at h
  all_goals cases h
  all_goals rfl

theorem ofText?_upper (t : Text) : ofText? t.upper = (ofText? t).map upper := by
  cases t with
  | nil => rfl
  | cons c t =>
      change (ofMark? c.toUpper).or (ofRun? c.toUpper (Text.upper (c :: t))) =
        ((ofMark? c).or (ofRun? c (c :: t))).map upper
      rw [ofMark?_toUpper, ofRun?_upper]
      cases hmark : ofMark? c with
      | none => rfl
      | some token => exact congrArg some (upper_of_ofMark? hmark).symm

theorem ofLexeme_upper (lexeme : Lexeme) :
    ofLexeme lexeme.upper = ((ofLexeme lexeme).map upper).mapError ShapeError.upper := by
  have htext : ofText? lexeme.upper.text = (ofText? lexeme.text).map upper :=
    ofText?_upper lexeme.text
  unfold ofLexeme
  rw [htext]
  cases ofText? lexeme.text <;> rfl

theorem ofLexemes_upper (lexemes : List Lexeme) :
    ofLexemes (lexemes.map Lexeme.upper) =
      ((ofLexemes lexemes).map (List.map upper)).mapError ShapeError.upper := by
  induction lexemes with
  | nil => rfl
  | cons lexeme rest ih =>
      rw [List.map_cons, ofLexemes, ofLexemes, ofLexeme_upper, ih]
      cases ofLexeme lexeme with
      | error e => rfl
      | ok token => cases ofLexemes rest <;> rfl

theorem ofText_upper (t : Text) :
    ofText t.upper = ((ofText t).map (List.map upper)).mapError ShapeError.upper := by
  unfold ofText
  rw [lexemes_upper, ofLexemes_upper]

end Token

/-- Capitals put no number behind an equals sign. -/
theorem Token.map_upper_ne {rest : List Token}
    (h : ∀ r others, rest ≠ .equals :: .number r :: others) (r : Binary64) (others : List Token) :
    rest.map upper ≠ .equals :: .number r :: others := by
  intro heq
  obtain ⟨first, rest, rfl, hfirst, heq⟩ := List.map_eq_cons_iff.1 heq
  obtain ⟨second, tail, rfl, hsecond, _⟩ := List.map_eq_cons_iff.1 heq
  cases first <;> cases hfirst
  cases second <;> cases hsecond
  exact h r tail rfl

theorem Item.readAll_upper (awaitsClose : Bool) (tokens : List Token) :
    readAll awaitsClose (tokens.map Token.upper) =
      ((readAll awaitsClose tokens).map (Prod.map id (List.map Token.upper))).mapError
        ShapeError.upper := by
  fun_induction readAll awaitsClose tokens with
  | case1 awaits =>
      rw [List.map_nil, readAll, if_pos awaits]
      rfl
  | case2 awaits =>
      rw [List.map_nil, readAll, if_neg awaits]
      rfl
  | case3 x rest ih =>
      rw [List.map_cons, Token.upper, readAll, ih]
      · cases readAll awaitsClose rest <;> rfl
      · simp
  | case4 rest ih => exact ih
  | case5 rest awaits =>
      rw [List.map_cons, Token.upper, readAll, if_pos awaits]
      · rfl
      · simp
  | case6 rest awaits =>
      rw [List.map_cons, Token.upper, readAll, if_neg awaits]
      · rfl
      · simp
  | case7 w r rest hd ih =>
      simp only [List.map_cons, Token.upper, readAll, Text.agreesUpToCase_upper, if_pos hd, ih]
      cases readAll awaitsClose rest <;> rfl
  | case8 w r rest hd =>
      simp only [List.map_cons, Token.upper, readAll, Text.agreesUpToCase_upper, if_neg hd]
      rfl
  -- Behind these words no number follows, in capitals or not.
  | case9 w rest hrest hd =>
      rw [List.map_cons, Token.upper, readAll, Text.agreesUpToCase_upper, if_pos hd]
      · rfl
      · exact Token.map_upper_ne hrest
  | case10 w rest hrest hd =>
      rw [List.map_cons, Token.upper, readAll, Text.agreesUpToCase_upper, if_neg hd]
      · rfl
      · exact Token.map_upper_ne hrest
  | case11 token rest hn hc hp hw hw' =>
      cases token with
      | number x => exact absurd rfl (hn x)
      | comma => exact absurd rfl hc
      | closeParen => exact absurd rfl hp
      | word w => exact absurd rfl (hw' w)
      | openParen => rfl
      | equals => rfl

theorem Form.ofTokens_upper (tokens : List Token) :
    ofTokens (tokens.map Token.upper) =
      ((ofTokens tokens).map upper).mapError ShapeError.upper := by
  cases tokens with
  | nil => rfl
  | cons token rest =>
      cases token with
      | word w =>
          cases rest with
          | nil => rfl
          | cons next rest =>
              cases next with
              | openParen =>
                  simp only [List.map_cons, Token.upper, ofTokens, Item.readAll_upper]
                  cases Item.readAll true rest with
                  | error e => rfl
                  | ok read =>
                      obtain ⟨items, after⟩ := read
                      cases after <;> rfl
              | _ => rfl
      | _ =>
          rw [ofTokens_of_bare (by simp) (by simp [Token.upper]),
            ofTokens_of_bare (by simp) (by simp), Item.readAll_upper]
          generalize Item.readAll false _ = read
          cases read <;> rfl

theorem Keyword.ofWord?_upper (w : Text) : ofWord? w.upper = ofWord? w := by
  unfold ofWord?
  rw [Text.upper_upper]

namespace Shape

theorem ofForm_upper (form : Form) : ofForm form.upper = ofForm form := by
  obtain ⟨word, items⟩ := form
  cases word with
  | none => rfl
  | some w =>
      cases hk : Keyword.ofWord? w with
      | some keyword =>
          have hupper : ofForm ⟨some w.upper, items⟩ = _ :=
            ofForm_of_keyword rfl ((Keyword.ofWord?_upper w).trans hk)
          have hform : ofForm ⟨some w, items⟩ = _ := ofForm_of_keyword rfl hk
          exact hupper.trans hform.symm
      | none =>
          have hrefused : ofForm ⟨some w, items⟩ = .error (.unknownShape w.upper) :=
            ofForm_of_refusedFor (.unknownShape rfl hk)
          have hupper : ofForm ⟨some w.upper, items⟩ = .error (.unknownShape w.upper.upper) :=
            ofForm_of_refusedFor (.unknownShape rfl ((Keyword.ofWord?_upper w).trans hk))
          rw [Text.upper_upper] at hupper
          exact hupper.trans hrefused.symm

theorem upper_of_refusedFor {form : Form} {e : ShapeError} (h : RefusedFor form e) :
    e.upper = e := by
  cases h with
  | unknownShape _ _ => exact congrArg ShapeError.unknownShape (Text.upper_upper _)
  | _ => rfl

theorem read_upper (t : Text) : read t.upper = (read t).mapError ShapeError.upper := by
  unfold read
  rw [Token.ofText_upper]
  cases Token.ofText t with
  | error e => rfl
  | ok tokens =>
      change (Form.ofTokens (tokens.map Token.upper) >>= ofForm) =
        (Form.ofTokens tokens >>= ofForm).mapError ShapeError.upper
      rw [Form.ofTokens_upper]
      cases Form.ofTokens tokens with
      | error e => rfl
      | ok form =>
          change ofForm form.upper = (ofForm form).mapError ShapeError.upper
          rw [ofForm_upper]
          cases hform : ofForm form with
          | error e =>
              rw [Except.mapError, upper_of_refusedFor (refusedFor_of_ofForm hform)]
          | ok s => rfl

end Shape

theorem Token.text_upper (token : Token) : Text.upper token.upper.text = Text.upper token.text := by
  cases token with
  | word w => exact Text.upper_append_congr (congrArg (List.cons _) (Text.upper_upper w)) rfl
  | _ => rfl

/-- A cause in capitals is worded the same but for the case of letters. -/
theorem ShapeError.message_upper (e : ShapeError) :
    Text.upper e.upper.message = Text.upper e.message := by
  cases e with
  | invalidCoordinate text offset =>
      exact Text.upper_append_congr (Text.upper_append_congr
        (Text.upper_append_congr rfl (Text.upper_upper text)) rfl) rfl
  | missingOpen word => exact Text.upper_append_congr rfl (Text.upper_upper word)
  | unexpected token => exact Text.upper_append_congr rfl token.text_upper
  | trailing token =>
      exact Text.upper_append_congr (Text.upper_append_congr rfl token.text_upper) rfl
  | unknownShape word => exact Text.upper_append_congr rfl (Text.upper_upper word)
  | _ => rfl

section NotFinite

/-- A text that spells an infinity or a number that is not a number, with a sign or without one. -/
def Literal.SpellsNotFinite (t : Text) : Prop :=
  ∃ sign ∈ [[], ['+'], ['-']], ∃ w ∈ ["inf".toList, "infinity".toList, "nan".toList],
    t.agreesUpToCase (sign ++ w) = true

/-- A word that is neither a keyword nor the `d` of a radius. -/
def Token.isStray : Token → Bool
  | word w => !w.agreesUpToCase ['d'] && (Keyword.ofWord? w).isNone
  | _ => false

theorem Token.isStray_upper (token : Token) : token.upper.isStray = token.isStray := by
  cases token with
  | word w =>
      change (!w.upper.agreesUpToCase ['d'] && (Keyword.ofWord? w.upper).isNone) = _
      rw [Text.agreesUpToCase_upper, Keyword.ofWord?_upper]
      rfl
  | _ => rfl

theorem Token.isStray_of_ofText? {t : Text} {token : Token} (ht : Literal.SpellsNotFinite t)
    (h : ofText? t = some token) : token.isStray = true := by
  obtain ⟨sign, hsign, w, hw, hagrees⟩ := ht
  have hall : [[], ['+'], ['-']].all (fun sign =>
      ["inf".toList, "infinity".toList, "nan".toList].all fun w =>
        (ofText? (Text.upper (sign ++ w))).all isStray) = true := by decide +kernel
  have hspelled := List.all_eq_true.1 (List.all_eq_true.1 hall sign hsign) w hw
  rw [← Text.agreesUpToCase_iff.1 hagrees, ofText?_upper, h] at hspelled
  exact (isStray_upper token).symm.trans hspelled

theorem Token.exists_of_mem_lexemes {lexemes : List Lexeme} {tokens : List Token}
    (h : ofLexemes lexemes = .ok tokens) :
    ∀ lexeme ∈ lexemes, ∃ token ∈ tokens, ofText? lexeme.text = some token := by
  induction lexemes generalizing tokens with
  | nil =>
      intro lexeme hlexeme
      cases hlexeme
  | cons first rest ih =>
      obtain ⟨token, others, rfl, hfirst, hrest⟩ := ofLexemes_cons_eq_ok_iff.1 h
      intro lexeme hlexeme
      rcases List.mem_cons.1 hlexeme with rfl | hlexeme
      · exact ⟨token, List.mem_cons_self, hfirst⟩
      · obtain ⟨other, hother, htext⟩ := ih hrest lexeme hlexeme
        exact ⟨other, List.mem_cons_of_mem _ hother, htext⟩

namespace Shape

theorem isStray_of_written {tokens : List Token} {form : Form} {s : Shape}
    (h : Form.Written tokens form) (hword : s.HasWord form.word) :
    ∀ token ∈ tokens, token.isStray = false := by
  intro token htoken
  cases token with
  | word w =>
      by_contra hstray
      have ⟨hd, hnone⟩ := Bool.and_eq_true_iff.1 (Bool.eq_true_of_not_eq_false hstray)
      have hforeign : Text.agreesUpToCase w ['d'] = false := by simpa using hd
      cases h with
      | bare _ _ hitems =>
          exact Item.not_holdsForeign_of_written hitems
            ⟨w, List.mem_append_left _ htoken, hforeign⟩
      | keyword hitems =>
          rcases List.mem_cons.1 htoken with heq | htoken
          · obtain rfl := Token.word.inj heq
            obtain ⟨keyword, _, hkeyword⟩ := hword
            rw [hkeyword] at hnone
            cases hnone
          · have hbody := (List.mem_cons.1 htoken).resolve_left (by simp)
            exact Item.not_holdsForeign_of_written hitems ⟨w, hbody, hforeign⟩
  | _ => rfl

/-- No text with an infinity or a number that is not a number among its lexemes is read. -/
theorem exists_read_eq_error_of_spellsNotFinite {t : Text} {lexeme : Lexeme}
    (hlexeme : lexeme ∈ lexemes 0 t) (h : Literal.SpellsNotFinite lexeme.text) :
    ∃ e, read t = .error e := by
  cases hread : read t with
  | error e => exact ⟨e, rfl⟩
  | ok s =>
      obtain ⟨tokens, form, htokens, hform, hword, _⟩ := read_eq_ok_iff.1 hread
      obtain ⟨token, htoken, htext⟩ :=
        Token.exists_of_mem_lexemes (Token.ofText_eq_ok_iff.2 htokens) lexeme hlexeme
      have hstray := (isStray_of_written hform hword token htoken).symm.trans
        (Token.isStray_of_ofText? h htext)
      cases hstray

/-- Texts that differ in nothing but the case of ASCII letters are read as the same shape, or both
are refused, with messages that differ in nothing else either. A text that spells an infinity or a
number that is not a number, in any case and with a sign or without one, is refused. -/
theorem read_of_agreesUpToCase {t u : Text} (h : t.agreesUpToCase u = true) :
    ((∃ s, read t = .ok s ∧ read u = .ok s) ∨
      ∃ e e', read t = .error e ∧ read u = .error e' ∧
        e.message.agreesUpToCase e'.message = true) ∧
      ∀ lexeme ∈ lexemes 0 t, Literal.SpellsNotFinite lexeme.text →
        ∃ e e', read t = .error e ∧ read u = .error e' := by
  have hupper : (read t).mapError ShapeError.upper = (read u).mapError ShapeError.upper := by
    rw [← read_upper, ← read_upper, Text.agreesUpToCase_iff.1 h]
  have hsame : (∃ s, read t = .ok s ∧ read u = .ok s) ∨
      ∃ e e', read t = .error e ∧ read u = .error e' ∧
        e.message.agreesUpToCase e'.message = true := by
    cases ht : read t with
    | ok s =>
        cases hu : read u with
        | ok r =>
            rw [ht, hu] at hupper
            exact .inl ⟨s, rfl, by rw [Except.ok.inj hupper]⟩
        | error e =>
            rw [ht, hu] at hupper
            cases hupper
    | error e =>
        cases hu : read u with
        | ok r =>
            rw [ht, hu] at hupper
            cases hupper
        | error e' =>
            rw [ht, hu] at hupper
            refine .inr ⟨e, e', rfl, rfl, Text.agreesUpToCase_iff.2 ?_⟩
            rw [← e.message_upper, ← e'.message_upper, Except.error.inj hupper]
  refine ⟨hsame, ?_⟩
  intro lexeme hlexeme hspells
  obtain ⟨e, he⟩ := exists_read_eq_error_of_spellsNotFinite hlexeme hspells
  rcases hsame with ⟨s, hs, _⟩ | ⟨_, e', _, he', _⟩
  · rw [he] at hs
    cases hs
  · exact ⟨e, e', he, he'⟩

theorem read_of_agreesUpToCase_of_exponent :
    (∃ s, read "cIrcle(1E0 0, d=1)".toList = .ok s ∧
      read "CIRCLE(1e0 0, D=1)".toList = .ok s) ∧
      ∃ e e', read "POINT(1 -InF)".toList = .error e ∧
        read "Point(1 -iNf)".toList = .error e' := by
  have hread : ∀ e, read "cIrcle(1E0 0, d=1)".toList ≠ .error e := by
    have hok : (read "cIrcle(1E0 0, d=1)".toList).isOk = true := by decide +kernel
    intro e he
    rw [he] at hok
    cases hok
  have hspells : Literal.SpellsNotFinite "-InF".toList :=
    ⟨['-'], by decide, "inf".toList, by decide, by decide⟩
  refine ⟨(read_of_agreesUpToCase (by decide)).1.resolve_right ?_, ?_⟩
  · rintro ⟨e, _, he, _⟩
    exact hread e he
  · exact (read_of_agreesUpToCase (by decide)).2 ⟨8, "-InF".toList⟩ (by decide +kernel) hspells

end Shape

end NotFinite

end SpatialQuery
