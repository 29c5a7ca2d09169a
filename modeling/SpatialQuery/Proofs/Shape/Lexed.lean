import SpatialQuery.Proofs.Result
import SpatialQuery.Shape.Lexeme

/-!
# Texts that fall into tokens

`Lexed` says how a text falls into tokens without counting bytes: blanks are dropped, a mark is a
token, and a run of other characters that is not followed by a further one is a word or a finite
number. `ofText_eq_ok_iff` says that these are exactly the texts whose tokens are found.
-/

namespace SpatialQuery

theorem lexemes_of_isBlank {c : Char} (h : Text.isBlank c = true) (offset : Nat) (rest : Text) :
    lexemes offset (c :: rest) = lexemes (offset + c.utf8Size) rest := by
  rw [lexemes.eq_def]
  exact if_pos h

theorem lexemes_of_isMark {c : Char} (h : isMark c = true) (offset : Nat) (rest : Text) :
    lexemes offset (c :: rest) = ⟨offset, [c]⟩ :: lexemes (offset + c.utf8Size) rest := by
  have hblank : ¬Text.isBlank c = true := by simp [isBlank_of_isMark h]
  rw [lexemes.eq_def]
  exact (if_neg hblank).trans (if_pos h)

theorem lexemes_of_isRunChar {c : Char} (h : isRunChar c = true) (offset : Nat) (rest : Text) :
    lexemes offset (c :: rest) =
      ⟨offset, c :: rest.takeWhile isRunChar⟩ ::
        lexemes (offset + Text.byteLength (c :: rest.takeWhile isRunChar))
          (rest.dropWhile isRunChar) := by
  obtain ⟨hmark, hblank⟩ := isRunChar_iff.1 h
  rw [lexemes.eq_def]
  exact (if_neg (by simp [hblank])).trans (if_neg (by simp [hmark]))

theorem isRunChar_of_not {c : Char} (hblank : ¬Text.isBlank c = true) (hmark : ¬isMark c = true) :
    isRunChar c = true :=
  isRunChar_iff.2 ⟨Bool.eq_false_iff.2 hmark, Bool.eq_false_iff.2 hblank⟩

namespace Token

/-- A text with which a run in front of it comes to its end. -/
def EndsRun (t : Text) : Prop := ∀ c ∈ t.head?, isRunChar c = false

theorem endsRun_cons {c : Char} {t : Text} (h : isRunChar c = false) : EndsRun (c :: t) := by
  intro d hd
  obtain rfl := Option.some.inj hd
  exact h

/-- The text behind a run that is taken whole. -/
theorem endsRun_dropWhile (t : Text) : EndsRun (t.dropWhile isRunChar) := by
  intro d hd
  have hhead := List.head?_dropWhile_not isRunChar t
  rw [hd] at hhead
  simpa using hhead

theorem isRunChar_of_mem_run {c : Char} (hc : isRunChar c = true) (t : Text) :
    ∀ d ∈ c :: t.takeWhile isRunChar, isRunChar d = true := by
  intro d hd
  rcases List.mem_cons.1 hd with rfl | hd
  · exact hc
  · exact List.mem_takeWhile_imp hd

theorem run_append_dropWhile (c : Char) (t : Text) :
    c :: t.takeWhile isRunChar ++ t.dropWhile isRunChar = c :: t := by
  rw [List.cons_append, List.takeWhile_append_dropWhile]

/-- A run that comes to its end is one lexeme. -/
theorem lexemes_of_run {c : Char} {run rest : Text} (hrun : ∀ d ∈ c :: run, isRunChar d = true)
    (hrest : EndsRun rest) (offset : Nat) :
    lexemes offset (c :: run ++ rest) =
      ⟨offset, c :: run⟩ :: lexemes (offset + Text.byteLength (c :: run)) rest := by
  have hall : ∀ d ∈ run, isRunChar d = true := fun d hd => hrun d (List.mem_cons_of_mem _ hd)
  have hstop : rest.takeWhile isRunChar = [] ∧ rest.dropWhile isRunChar = rest := by
    cases rest with
    | nil => exact ⟨rfl, rfl⟩
    | cons d rest => simp [hrest d rfl]
  rw [List.cons_append, lexemes_of_isRunChar (hrun c List.mem_cons_self),
    List.takeWhile_append_of_pos hall, List.dropWhile_append_of_pos hall, hstop.1, hstop.2,
    List.append_nil]

/-- A text falls into blanks and the given tokens. -/
inductive Lexed : Text → List Token → Prop
  | nil : Lexed [] []
  | blank {c t tokens} (hc : Text.isBlank c = true) (tail : Lexed t tokens) : Lexed (c :: t) tokens
  | mark {c t token tokens} (hc : ofMark? c = some token) (tail : Lexed t tokens) :
      Lexed (c :: t) (token :: tokens)
  | run {c run rest token tokens} (hrun : ∀ d ∈ c :: run, isRunChar d = true)
      (hrest : EndsRun rest) (htoken : ofRun? c (c :: run) = some token)
      (tail : Lexed rest tokens) : Lexed (c :: run ++ rest) (token :: tokens)

theorem ofMark?_of_isRunChar {c : Char} (h : isRunChar c = true) : ofMark? c = none := by
  simp only [isRunChar, isMark, Bool.and_eq_true, Bool.not_eq_true', Option.isSome_eq_false_iff,
    Option.isNone_iff_eq_none] at h
  exact h.1

theorem ofText?_of_mark {c : Char} {token : Token} (h : ofMark? c = some token) (rest : Text) :
    ofText? (c :: rest) = some token := by
  show (ofMark? c).or _ = _
  rw [h]
  rfl

theorem ofText?_of_isRunChar {c : Char} (h : isRunChar c = true) (run : Text) :
    ofText? (c :: run) = ofRun? c (c :: run) := by
  show (ofMark? c).or _ = _
  rw [ofMark?_of_isRunChar h]
  rfl

theorem ofLexemes_cons_eq_ok_iff {lexeme : Lexeme} {rest : List Lexeme} {tokens : List Token} :
    ofLexemes (lexeme :: rest) = .ok tokens ↔
      ∃ token others, tokens = token :: others ∧ ofText? lexeme.text = some token ∧
        ofLexemes rest = .ok others := by
  have hlexeme : ∀ token, ofLexeme lexeme = .ok token ↔ ofText? lexeme.text = some token := by
    intro token
    unfold ofLexeme
    cases ofText? lexeme.text <;> simp
  constructor
  · intro h
    obtain ⟨token, htoken, h⟩ := bind_eq_ok_iff.1 h
    obtain ⟨others, hothers, h⟩ := bind_eq_ok_iff.1 h
    exact ⟨token, others, (Except.ok.inj h).symm, (hlexeme token).1 htoken, hothers⟩
  · rintro ⟨token, others, rfl, htoken, hothers⟩
    exact bind_eq_ok_iff.2 ⟨token, (hlexeme token).2 htoken,
      bind_eq_ok_iff.2 ⟨others, hothers, rfl⟩⟩

/-- The offset at which a text starts does not matter to its tokens. -/
theorem ofLexemes_of_lexed {t : Text} {tokens : List Token} (h : Lexed t tokens) (offset : Nat) :
    ofLexemes (lexemes offset t) = .ok tokens := by
  induction h generalizing offset with
  | nil =>
      rw [lexemes.eq_def]
      rfl
  | blank hc _ ih =>
      rw [lexemes_of_isBlank hc]
      exact ih _
  | @mark c t token tokens hc _ ih =>
      have hmark : isMark c = true := by
        unfold isMark
        rw [hc]
        rfl
      rw [lexemes_of_isMark hmark]
      apply ofLexemes_cons_eq_ok_iff.2
      exact ⟨token, tokens, rfl, ofText?_of_mark hc [], ih _⟩
  | @run c run rest token tokens hrun hrest htoken _ ih =>
      rw [lexemes_of_run hrun hrest]
      apply ofLexemes_cons_eq_ok_iff.2
      refine ⟨token, tokens, rfl, ?_, ih _⟩
      rw [ofText?_of_isRunChar (hrun c List.mem_cons_self)]
      exact htoken

theorem lexed_of_ofLexemes (offset : Nat) (t : Text) :
    ∀ tokens, ofLexemes (lexemes offset t) = .ok tokens → Lexed t tokens := by
  fun_induction lexemes offset t with
  | case1 =>
      intro tokens h
      obtain rfl := Except.ok.inj h
      exact .nil
  | case2 offset c rest hb ih =>
      intro tokens h
      exact .blank hb (ih tokens h)
  | case3 offset c rest hb hm ih =>
      intro tokens h
      obtain ⟨token, others, rfl, htoken, hothers⟩ := ofLexemes_cons_eq_ok_iff.1 h
      obtain ⟨mark, hmark⟩ := Option.isSome_iff_exists.1 hm
      obtain rfl := Option.some.inj ((ofText?_of_mark hmark []).symm.trans htoken)
      exact .mark hmark (ih others hothers)
  | case4 offset c rest hb hm run ih =>
      intro tokens h
      obtain ⟨token, others, rfl, htoken, hothers⟩ := ofLexemes_cons_eq_ok_iff.1 h
      have hc : isRunChar c = true := isRunChar_of_not hb hm
      have heq := (ofText?_of_isRunChar hc _).symm.trans htoken
      have hlexed := Lexed.run (isRunChar_of_mem_run hc rest) (endsRun_dropWhile rest) heq
        (ih others hothers)
      rwa [run_append_dropWhile] at hlexed

theorem ofText_eq_ok_iff {t : Text} {tokens : List Token} :
    ofText t = .ok tokens ↔ Lexed t tokens := by
  constructor
  · exact lexed_of_ofLexemes 0 t tokens
  · intro h
    exact ofLexemes_of_lexed h 0

section Inversion

variable {c : Char} {t run rest : Text} {tokens : List Token}

/-- A text falls into tokens in one way only. -/
theorem Lexed.unique {others : List Token} (h : Lexed t tokens) (h' : Lexed t others) :
    tokens = others :=
  Except.ok.inj ((ofText_eq_ok_iff.2 h).symm.trans (ofText_eq_ok_iff.2 h'))

theorem Lexed.of_blank (hc : Text.isBlank c = true) (h : Lexed (c :: t) tokens) :
    Lexed t tokens := by
  have htokens := ofLexemes_of_lexed h 0
  rw [lexemes_of_isBlank hc] at htokens
  exact lexed_of_ofLexemes _ t tokens htokens

theorem Lexed.exists_of_mark {token : Token} (hc : ofMark? c = some token)
    (h : Lexed (c :: t) tokens) : ∃ others, tokens = token :: others ∧ Lexed t others := by
  have hmark : isMark c = true := Option.isSome_iff_exists.2 ⟨token, hc⟩
  have htokens := ofLexemes_of_lexed h 0
  rw [lexemes_of_isMark hmark] at htokens
  obtain ⟨first, others, rfl, hfirst, hothers⟩ := ofLexemes_cons_eq_ok_iff.1 htokens
  obtain rfl := Option.some.inj ((ofText?_of_mark hc []).symm.trans hfirst)
  exact ⟨others, rfl, lexed_of_ofLexemes _ t others hothers⟩

theorem Lexed.exists_of_run (hrun : ∀ d ∈ c :: run, isRunChar d = true) (hrest : EndsRun rest)
    (h : Lexed (c :: run ++ rest) tokens) :
    ∃ token others, tokens = token :: others ∧ ofRun? c (c :: run) = some token ∧
      Lexed rest others := by
  have htokens := ofLexemes_of_lexed h 0
  rw [lexemes_of_run hrun hrest] at htokens
  obtain ⟨token, others, rfl, htoken, hothers⟩ := ofLexemes_cons_eq_ok_iff.1 htokens
  change ofText? (c :: run) = some token at htoken
  rw [ofText?_of_isRunChar (hrun c List.mem_cons_self)] at htoken
  exact ⟨token, others, rfl, htoken, lexed_of_ofLexemes _ rest others hothers⟩

end Inversion

/-- No number among tokens is infinite or not a number. -/
theorem isFinite_of_mem_lexed {t : Text} {tokens : List Token} (h : Lexed t tokens)
    {x : Binary64} (hx : number x ∈ tokens) : x.isFinite = true := by
  induction h with
  | nil => cases hx
  | blank _ _ ih => exact ih hx
  | mark hc _ ih =>
      rcases List.mem_cons.1 hx with rfl | hx
      · unfold ofMark? at hc
        repeat' split at hc
        all_goals cases hc
      · exact ih hx
  | run _ _ htoken _ ih =>
      rcases List.mem_cons.1 hx with rfl | hx
      · unfold ofRun? at htoken
        split at htoken
        · cases htoken
        · split at htoken
          · next y _ =>
              split at htoken
              · next hfinite =>
                  obtain rfl := number.inj (Option.some.inj htoken)
                  exact hfinite
              · cases htoken
          · cases htoken
      · exact ih hx

end Token

end SpatialQuery
