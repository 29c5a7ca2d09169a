import SpatialQuery.Proofs.Shape.Lexed
import SpatialQuery.Proofs.Text.Offset

/-!
# The pieces of a text

The lexemes of a text are found from its front. Here they are described by where they stand: a
lexeme is a mark or a run that cannot be made longer on either side, its offset counts the bytes in
front of it, and every such run of the text is a lexeme. What carries this is that a text can be cut
wherever no run goes on across the cut (`lexemes_append`).
-/

namespace SpatialQuery

open Token

/-- No run goes on from the end of one text into the next one. -/
def Apart (s t : Text) : Prop :=
  ∀ c ∈ s.getLast?, ∀ d ∈ t.head?, isRunChar c = false ∨ isRunChar d = false

section Apart

variable {s t u : Text} {c : Char}

theorem apart_of_endsRun (s : Text) (h : EndsRun t) : Apart s t := by
  intro c _ d hd
  exact .inr (h d hd)

theorem apart_of_last (h : ∀ c ∈ s.getLast?, isRunChar c = false) (t : Text) : Apart s t := by
  intro c hc d _
  exact .inl (h c hc)

theorem apart_concat (h : isRunChar c = false) (s t : Text) : Apart (s ++ [c]) t := by
  apply apart_of_last
  intro d hd
  rw [List.getLast?_concat] at hd
  obtain rfl := Option.some.inj hd
  exact h

theorem Apart.of_append (h : Apart (u ++ s) t) : Apart s t := by
  intro c hc
  apply h c
  rw [List.getLast?_append, Option.mem_def.1 hc]
  rfl

theorem Apart.append_right (h : Apart s t) (hne : t ≠ []) (u : Text) : Apart s (t ++ u) := by
  intro c hc d hd
  rw [List.head?_append_of_ne_nil t hne] at hd
  exact h c hc d hd

/-- A run that is cut off from what follows comes to its end in front of that. -/
theorem Apart.endsRun_append {run : Text} (h : Apart (run ++ s) t) (hne : run ≠ [])
    (hrun : ∀ c ∈ run, isRunChar c = true) (hs : EndsRun s) : EndsRun (s ++ t) := by
  cases s with
  | nil =>
      rw [List.append_nil] at h
      intro d hd
      have hlast := hrun _ (List.getLast_mem hne)
      rcases h _ (List.getLast_mem_getLast? hne) d hd with hlast' | hd
      · cases hlast.symm.trans hlast'
      · exact hd
  | cons c s => exact fun d hd => hs d hd

end Apart

/-- A text falls into the lexemes of its parts if it is cut where no run goes on. -/
theorem lexemes_append {s t : Text} (n : Nat) (h : Apart s t) :
    lexemes n (s ++ t) = lexemes n s ++ lexemes (n + s.byteLength) t := by
  fun_induction lexemes n s with
  | case1 n => rfl
  | case2 n c rest hblank ih =>
      have hrest : Apart rest t := h.of_append (u := [c])
      rw [List.cons_append, lexemes_of_isBlank hblank, ih hrest, Text.byteLength_cons,
        Nat.add_assoc]
  | case3 n c rest hblank hmark ih =>
      have hrest : Apart rest t := h.of_append (u := [c])
      rw [List.cons_append, lexemes_of_isMark hmark, ih hrest, Text.byteLength_cons,
        Nat.add_assoc, List.cons_append]
  | case4 n c rest hblank hmark run ih =>
      have hc : isRunChar c = true := isRunChar_of_not hblank hmark
      have hrun := isRunChar_of_mem_run hc rest
      have hsplit : c :: rest = run ++ rest.dropWhile isRunChar :=
        (run_append_dropWhile c rest).symm
      rw [hsplit] at h
      have hend := h.endsRun_append (List.cons_ne_nil _ _) hrun (endsRun_dropWhile rest)
      rw [hsplit, List.append_assoc, lexemes_of_run hrun hend, ih h.of_append,
        Text.byteLength_append, Nat.add_assoc, List.cons_append]

/-- A run that cannot be made longer on either side. -/
structure IsMaximalRun (before run after : Text) : Prop where
  ne_nil : run ≠ []
  isRunChar_of_mem : ∀ c ∈ run, isRunChar c = true
  start : ∀ c ∈ before.getLast?, isRunChar c = false
  stop : EndsRun after

namespace Lexeme

/-- A lexeme is the piece of a text that follows the bytes counted by its offset. -/
def Stands (before after t : Text) (lexeme : Lexeme) : Prop :=
  t = before ++ (lexeme.text ++ after) ∧ lexeme.offset = before.byteLength

/-- A lexeme is a run of a text that cannot be made longer. -/
def IsRunOf (t : Text) (lexeme : Lexeme) : Prop :=
  ∃ before after, lexeme.Stands before after t ∧ IsMaximalRun before lexeme.text after

theorem IsRunOf.exists_cons {t : Text} {lexeme : Lexeme} (h : lexeme.IsRunOf t) :
    ∃ c run, lexeme.text = c :: run ∧ isRunChar c = true := by
  obtain ⟨_, _, _, hrun⟩ := h
  obtain ⟨c, run, htext⟩ := List.exists_cons_of_ne_nil hrun.ne_nil
  exact ⟨c, run, htext, hrun.isRunChar_of_mem c (by simp [htext])⟩

end Lexeme

end SpatialQuery
