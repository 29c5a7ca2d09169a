import SpatialQuery.Proofs.Number.Characters
import SpatialQuery.Proofs.Shape.WellFormed
import SpatialQuery.Proofs.Text.Spacing

/-!
# Shapes as they are printed

The text of a shape is its keyword and the texts of its items, with a blank between neighbours.
The text of each item with a finite number falls into the tokens of that item, whatever stands
behind it; so the text of a well-formed shape is read back.
-/

namespace SpatialQuery

namespace Token

variable {c : Char} {rest : Text} {tokens : List Token}

theorem lexed_number {x : Binary64} (hx : x.isFinite = true)
    (hrest : EndsRun rest) (h : Lexed rest tokens) :
    Lexed (x.text ++ rest) (number x :: tokens) := by
  obtain ⟨c, run, htext, hletter⟩ := Binary64.exists_text_eq_cons hx
  have hrun : ∀ d ∈ c :: run, isRunChar d = true := by
    intro d hd
    rw [← htext] at hd
    exact Binary64.isRunChar_of_mem_text hd
  have htoken : ofRun? c (c :: run) = some (number x) := by
    rw [← htext]
    simp [ofRun?, hletter, Binary64.read_text, hx]
  rw [htext]
  exact .run hrun hrest htoken h

theorem lexed_word {run : Text} (hletter : Text.isLetter c = true)
    (hrun : ∀ d ∈ c :: run, isRunChar d = true)
    (hrest : EndsRun rest) (h : Lexed rest tokens) :
    Lexed (c :: run ++ rest) (word (c :: run) :: tokens) :=
  .run hrun hrest (if_pos hletter) h

end Token

namespace Item

/-- The text of an item. -/
def text : Item → Text
  | coordinate x => x.text
  | radius r => "d=".toList ++ r.text

/-- The tokens of the text of an item. -/
def tokens : Item → List Token
  | coordinate x => [.number x]
  | radius r => [.word ['d'], .equals, .number r]

theorem lexed_text {item : Item} {rest : Text} {others : List Token}
    (hitem : item.value.isFinite = true) (hrest : Token.EndsRun rest)
    (h : Token.Lexed rest others) : Token.Lexed (item.text ++ rest) (item.tokens ++ others) := by
  cases item with
  | coordinate x => exact Token.lexed_number hitem hrest h
  | radius r =>
      have hnumber := Token.lexed_number hitem hrest h
      have hequals : Token.Lexed ('=' :: (r.text ++ rest)) _ := .mark rfl hnumber
      have hletter : Text.isLetter 'd' = true := by decide
      have hrun : ∀ c ∈ ['d'], isRunChar c = true := List.all_eq_true.1 (by decide)
      exact Token.lexed_word hletter hrun (Token.endsRun_cons rfl) hequals

/-- Items with a blank between neighbours fall into the tokens of the items. -/
theorem lexed_intercalate {items : List Item} {rest : Text} {others : List Token}
    (hitems : ∀ item ∈ items, item.value.isFinite = true)
    (hrest : Token.EndsRun rest) (h : Token.Lexed rest others) :
    Token.Lexed ([' '].intercalate (items.map text) ++ rest) (items.flatMap tokens ++ others) := by
  induction items with
  | nil => exact h
  | cons item items ih =>
      have hitem := hitems item List.mem_cons_self
      have htail := ih fun other hother => hitems other (List.mem_cons_of_mem _ hother)
      cases items with
      | nil =>
          rw [List.map_singleton, List.intercalate_singleton, List.flatMap_singleton]
          exact lexed_text hitem hrest h
      | cons next items =>
          have hgap : Token.Lexed (' ' :: _) _ := .blank (by decide) htail
          have hlexed := lexed_text hitem (Token.endsRun_cons rfl) hgap
          simpa using hlexed

theorem written_tokens (items : List Item) : Written (items.flatMap tokens) items := by
  induction items with
  | nil => exact .nil
  | cons item items ih =>
      cases item with
      | coordinate x => exact .coordinate ih
      | radius r => exact .radius (by decide) ih

end Item

namespace Keyword

theorem ofWord?_name (keyword : Keyword) : ofWord? keyword.name = some keyword := by
  cases keyword <;> decide +kernel

theorem exists_name_eq_cons (keyword : Keyword) :
    ∃ c run, keyword.name = c :: run ∧ Text.isLetter c = true ∧
      ∀ d ∈ c :: run, isRunChar d = true := by
  cases keyword with
  | point => exact ⟨'P', "OINT".toList, rfl, by decide, List.all_eq_true.1 (by decide)⟩
  | envelope => exact ⟨'E', "NVELOPE".toList, rfl, by decide, List.all_eq_true.1 (by decide)⟩
  | rect => exact ⟨'R', "ECT".toList, rfl, by decide, List.all_eq_true.1 (by decide)⟩
  | circle => exact ⟨'C', "IRCLE".toList, rfl, by decide, List.all_eq_true.1 (by decide)⟩

end Keyword

namespace Shape

/-- The keyword that a shape is printed with. -/
def keyword : Shape → Keyword
  | point _ => .point
  | rectangle _ => .envelope
  | circle _ => .circle

theorem text_eq (s : Shape) :
    s.text = s.keyword.name ++ '(' :: ([' '].intercalate (s.items.map Item.text) ++ [')']) := by
  cases s with
  | point p =>
      have hopen : "POINT(".toList = Keyword.point.name ++ ['('] := rfl
      change "POINT(".toList ++ numbersText [p.x, p.y] ++ [')'] = Keyword.point.name ++ _
      rw [hopen]
      simp [items, Item.text, numbersText]
  | rectangle r =>
      have hopen : "ENVELOPE(".toList = Keyword.envelope.name ++ ['('] := rfl
      change "ENVELOPE(".toList ++ numbersText [r.minX, r.minY, r.maxX, r.maxY] ++ [')'] =
        Keyword.envelope.name ++ _
      rw [hopen]
      simp [items, Item.text, numbersText]
  | circle c =>
      have hopen : "CIRCLE(".toList = Keyword.circle.name ++ ['('] := rfl
      have hradius : " d=".toList = ' ' :: "d=".toList := rfl
      change "CIRCLE(".toList ++ numbersText [c.center.x, c.center.y] ++ " d=".toList ++
        c.radius.text ++ [')'] = Keyword.circle.name ++ _
      rw [hopen, hradius]
      simp [items, Item.text, numbersText]

theorem hasWord_keyword (s : Shape) : s.HasWord (some s.keyword.name) := by
  refine ⟨s.keyword, ?_, Keyword.ofWord?_name s.keyword⟩
  cases s <;> simp [keyword, keywords]

/-- The tokens that a shape is printed as. -/
def tokens (s : Shape) : List Token :=
  .word s.keyword.name :: .openParen :: (s.items.flatMap Item.tokens ++ [.closeParen])

theorem written_tokens (s : Shape) : Form.Written s.tokens ⟨some s.keyword.name, s.items⟩ :=
  .keyword (Item.written_tokens s.items)

/-- The text of a shape with finite numbers falls into its tokens, even when its corners or its
radius are out of order. -/
theorem lexed_text {s : Shape} (h : ∀ x ∈ s.numbers, x.isFinite = true) :
    Token.Lexed s.text s.tokens := by
  obtain ⟨c, run, hword, hletter, hrun⟩ := s.keyword.exists_name_eq_cons
  have hclose : Token.Lexed [')'] [.closeParen] := .mark rfl .nil
  have hvalues : ∀ item ∈ s.items, item.value.isFinite = true :=
    fun item hitem => h _ (List.mem_map_of_mem hitem)
  have hitems := Item.lexed_intercalate hvalues (Token.endsRun_cons rfl) hclose
  have hopen : Token.Lexed ('(' :: _) _ := .mark rfl hitems
  have hlexed := Token.lexed_word hletter hrun (Token.endsRun_cons rfl) hopen
  rwa [← hword, ← text_eq] at hlexed

/-- The text of a well-formed shape is read back, the signs of zeros included. -/
theorem read_text {s : Shape} (h : s.WellFormed) : read s.text = .ok s :=
  read_eq_ok_iff.2 ⟨s.tokens, ⟨some s.keyword.name, s.items⟩, lexed_text h.finite,
    s.written_tokens, s.hasWord_keyword, h.hasNumbers⟩

theorem text_ne_nil (s : Shape) : s.text ≠ [] := by
  rw [text_eq]
  simp

/-- The text of a shape begins with a letter and ends with a parenthesis. -/
theorem trim_text (s : Shape) : s.text.trim = s.text := by
  obtain ⟨c, run, hword, _, hrun⟩ := s.keyword.exists_name_eq_cons
  apply Text.trim_eq_self
  constructor
  · intro d hd
    rw [text_eq, hword] at hd
    obtain rfl := Option.some.inj hd
    exact (isRunChar_iff.1 (hrun c List.mem_cons_self)).2
  · intro d hd
    rw [text_eq, ← List.cons_append, ← List.append_assoc, List.getLast?_concat] at hd
    obtain rfl := Option.some.inj hd
    decide

end Shape

end SpatialQuery
