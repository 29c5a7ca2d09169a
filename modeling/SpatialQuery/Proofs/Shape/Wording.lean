import SpatialQuery.Proofs.Number.Characters
import SpatialQuery.Proofs.Shape.Printed
import SpatialQuery.Proofs.Shape.Refused
import SpatialQuery.Proofs.Text.Capitals

/-!
# What the causes of refused shapes quote

A message may quote the text that is refused, and beside that it holds only fixed words and
numbers. So the message is one line if the text is. The same is true of the text of a shape, which
quotes nothing.
-/

namespace SpatialQuery

/-- The word of a token is taken from a text. -/
def Token.ComesFrom (t : Text) : Token → Prop
  | word w => w ⊆ t
  | _ => True

/-- What a cause quotes is taken from a text; the word of an unknown shape is in capitals. -/
def ShapeError.ComesFrom (t : Text) : ShapeError → Prop
  | invalidCoordinate run _ => run ⊆ t
  | missingOpen word => word ⊆ t
  | unexpected token => token.ComesFrom t
  | trailing token => token.ComesFrom t
  | unknownShape word => ∃ w : Text, word = w.upper ∧ w ⊆ t
  | _ => True

section Origin

variable {t : Text} {tokens : List Token}

theorem text_subset_of_mem_lexemes {offset : Nat} {lexeme : Lexeme}
    (h : lexeme ∈ lexemes offset t) : lexeme.text ⊆ t := by
  intro c hc
  have hmem : c ∈ (lexemes offset t).flatMap Lexeme.text := List.mem_flatMap.2 ⟨lexeme, h, hc⟩
  rw [flatMap_text_lexemes] at hmem
  exact List.mem_of_mem_filter hmem

namespace Token

theorem ComesFrom.mono {s : Text} {token : Token} (h : token.ComesFrom s) (hst : s ⊆ t) :
    token.ComesFrom t := by
  cases token with
  | word w => exact List.Subset.trans h hst
  | _ => trivial

theorem comesFrom_of_ofMark? {c : Char} {token : Token} (h : ofMark? c = some token) :
    token.ComesFrom t := by
  cases token with
  | word w =>
      -- No mark is a word.
      unfold ofMark? at h
      repeat' split at h
      all_goals cases h
  | _ => trivial

theorem comesFrom_of_ofRun? {c : Char} {run : Text} {token : Token}
    (h : ofRun? c run = some token) : token.ComesFrom run := by
  cases token with
  | word w =>
      unfold ofRun? at h
      split at h
      · obtain rfl := word.inj (Option.some.inj h)
        exact List.Subset.refl _
      · split at h
        · split at h
          · cases h
          · cases h
        · cases h
  | _ => trivial

theorem comesFrom_of_lexed (h : Lexed t tokens) : ∀ token ∈ tokens, token.ComesFrom t := by
  induction h with
  | nil =>
      intro token htoken
      cases htoken
  | blank _ _ ih =>
      intro token htoken
      exact (ih token htoken).mono (List.subset_cons_self _ _)
  | mark hc _ ih =>
      intro token htoken
      rcases List.mem_cons.1 htoken with rfl | htoken
      · exact comesFrom_of_ofMark? hc
      · exact (ih token htoken).mono (List.subset_cons_self _ _)
  | run _ _ hrun _ ih =>
      intro token htoken
      rcases List.mem_cons.1 htoken with rfl | htoken
      · exact (comesFrom_of_ofRun? hrun).mono (List.subset_append_left _ _)
      · exact (ih token htoken).mono (List.subset_append_right _ _)

end Token

theorem Form.comesFrom_of_refusedFor {e : ShapeError}
    (htokens : ∀ token ∈ tokens, token.ComesFrom t) (h : RefusedFor tokens e) : e.ComesFrom t := by
  cases h with
  | missingOpen hw => exact htokens (.word _) hw
  | unexpected htoken => exact htokens _ htoken
  | trailing htoken => exact htokens _ htoken
  | _ => trivial

/-- Of a form that makes no shape only the word is quoted, and only if it is no keyword. -/
theorem Shape.comesFrom_of_refusedFor {form : Form} (hword : ∀ w ∈ form.word, w ⊆ t)
    {e : ShapeError} (h : RefusedFor form e) : e.ComesFrom t := by
  cases h with
  | unknownShape hw _ => exact ⟨_, rfl, hword _ hw⟩
  | _ => trivial

theorem Shape.comesFrom_of_read_error {e : ShapeError} (h : read t = .error e) :
    e.ComesFrom t := by
  rcases read_eq_error_iff.1 h with h | ⟨tokens, htokens, h⟩ | ⟨tokens, form, htokens, hform, h⟩
  · obtain ⟨lexeme, hlexeme, rfl⟩ := Token.exists_of_ofLexemes_error h
    exact text_subset_of_mem_lexemes hlexeme
  · exact Form.comesFrom_of_refusedFor (Token.comesFrom_of_lexed htokens)
      (Form.refusedFor_of_ofTokens h)
  · refine comesFrom_of_refusedFor (fun w hw => ?_) h
    cases hform with
    | bare _ _ _ => cases hw
    | keyword _ =>
        obtain rfl := Option.some.inj hw
        exact Token.comesFrom_of_lexed htokens (.word _) List.mem_cons_self

end Origin

section OneLine

theorem Text.lineFeed_not_mem_upper {t : Text} (h : '\n' ∉ t) : '\n' ∉ t.upper := by
  intro hmem
  obtain ⟨c, hc, hupper⟩ := List.mem_map.1 hmem
  exact h ((Text.toUpper_eq_iff (by decide) c).1 hupper ▸ hc)

theorem Text.lineFeed_not_mem_ofNat (n : Nat) : '\n' ∉ Text.ofNat n := by
  intro h
  have hdigit := Literal.isDigit_of_mem_ofNat h
  cases hdigit

theorem Binary64.lineFeed_not_mem_text (x : Binary64) : '\n' ∉ x.text := by
  intro h
  have hrun := Binary64.isRunChar_of_mem_text h
  cases hrun

theorem Keyword.lineFeed_not_mem_name (keyword : Keyword) : '\n' ∉ keyword.name := by
  cases keyword <;> decide

theorem Token.lineFeed_not_mem_text {t : Text} {token : Token} (h : token.ComesFrom t)
    (ht : '\n' ∉ t) : '\n' ∉ token.text := by
  cases token with
  | word w =>
      have hw : '\n' ∉ w := fun hmem => ht (h hmem)
      exact List.not_mem_append (List.not_mem_cons_of_ne_of_not_mem (by decide) hw) (by decide)
  | number x => exact List.not_mem_append (by decide) x.lineFeed_not_mem_text
  | _ => decide

/-- A message on a text of one line is one line. -/
theorem ShapeError.lineFeed_not_mem_message {t : Text} {e : ShapeError} (h : e.ComesFrom t)
    (ht : '\n' ∉ t) : '\n' ∉ e.message := by
  cases e with
  | invalidCoordinate run offset =>
      have hrun : '\n' ∉ run := fun hmem => ht (h hmem)
      exact List.not_mem_append (List.not_mem_append (List.not_mem_append (by decide) hrun)
        (by decide)) (Text.lineFeed_not_mem_ofNat offset)
  | missingOpen word =>
      have hword : '\n' ∉ word := fun hmem => ht (h hmem)
      exact List.not_mem_append (by decide) hword
  | unexpected token =>
      exact List.not_mem_append (by decide) (Token.lineFeed_not_mem_text h ht)
  | trailing token =>
      exact List.not_mem_append (List.not_mem_append (by decide)
        (Token.lineFeed_not_mem_text h ht)) (by decide)
  | wrongCount keyword count =>
      exact List.not_mem_append (List.not_mem_append (List.not_mem_append (by decide)
        keyword.lineFeed_not_mem_name) (by decide)) (Text.lineFeed_not_mem_ofNat count)
  | unknownShape word =>
      obtain ⟨w, rfl, hw⟩ := h
      exact List.not_mem_append (by decide)
        (Text.lineFeed_not_mem_upper fun hmem => ht (hw hmem))
  | wrongBareCount count =>
      exact List.not_mem_append (by decide) (Text.lineFeed_not_mem_ofNat count)
  | _ => decide

end OneLine

section Blanks

variable {c : Char}

theorem Keyword.isBlank_of_mem_name {keyword : Keyword} (h : c ∈ keyword.name) :
    Text.isBlank c = false := by
  obtain ⟨first, run, hname, _, hrun⟩ := keyword.exists_name_eq_cons
  rw [hname] at h
  exact (isRunChar_iff.1 (hrun c h)).2

theorem Item.isBlank_of_mem_text {item : Item} (h : c ∈ item.text) : Text.isBlank c = false := by
  have hnumber : ∀ x : Binary64, c ∈ x.text → Text.isBlank c = false :=
    fun x hx => (isRunChar_iff.1 (Binary64.isRunChar_of_mem_text hx)).2
  cases item with
  | coordinate x => exact hnumber x h
  | radius r =>
      have hkey : ∀ d ∈ "d=".toList, (!Text.isBlank d) = true := List.all_eq_true.1 (by decide)
      rcases List.mem_append.1 h with h | h
      · simpa using hkey c h
      · exact hnumber r h

/-- The only blanks of a printed shape are the spaces between its items. -/
theorem Shape.blank_not_mem_text (s : Shape) (hblank : Text.isBlank c = true)
    (hspace : c ≠ ' ') : c ∉ s.text := by
  have hne : ∀ d, Text.isBlank d = false → c ≠ d := by
    rintro d hd rfl
    rw [hd] at hblank
    cases hblank
  have hname : c ∉ s.keyword.name := fun h => hne c (Keyword.isBlank_of_mem_name h) rfl
  have hitems : c ∉ [' '].intercalate (s.items.map Item.text) := by
    apply Text.not_mem_intercalate (by simpa using hspace)
    intro piece hpiece h
    obtain ⟨item, _, rfl⟩ := List.mem_map.1 hpiece
    exact hne c (Item.isBlank_of_mem_text h) rfl
  rw [text_eq]
  refine List.not_mem_append hname (List.not_mem_cons_of_ne_of_not_mem (hne '(' (by decide)) ?_)
  exact List.not_mem_append hitems (by simpa using hne ')' (by decide))

end Blanks

end SpatialQuery
