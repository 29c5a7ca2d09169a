import SpatialQuery.Proofs.Query.Faithful
import SpatialQuery.Proofs.Text.Quoted
import SpatialQuery.Query.Transcript

/-!
# The lines of records

A record is one line without control characters, and no other record has the same line: the level,
the operation, the query and every binding of the modifiers can be read off it. So what a query
holds can make one record look neither like another one nor like several.
-/

namespace SpatialQuery

open Text (IsPlain)

namespace Binding

/-- The quoted key and the quoted value of a binding. -/
def quoted (b : Binding) : Text := b.1.quoted ++ ": ".toList ++ b.2.quoted

theorem isPlain_quoted (b : Binding) : b.quoted.IsPlain :=
  ((Text.isPlain_quoted b.1).append (by decide)).append (Text.isPlain_quoted b.2)

theorem quoted_append_inj {a b : Binding} {u v : Text} (h : a.quoted ++ u = b.quoted ++ v) :
    a = b ∧ u = v := by
  obtain ⟨key, value⟩ := a
  obtain ⟨key', value'⟩ := b
  unfold quoted at h
  simp only [List.append_assoc] at h
  obtain ⟨rfl, hvalue⟩ := Text.quoted_append_inj h
  obtain ⟨rfl, hbehind⟩ := Text.quoted_append_inj (List.append_cancel_left hvalue)
  exact ⟨rfl, hbehind⟩

end Binding

namespace Modifiers

/-- What stands behind a quoted binding that others may follow. -/
def textBehind : List Binding → Text
  | [] => ['\x7d']
  | b :: bindings => ", ".toList ++ (b.quoted ++ textBehind bindings)

theorem text_eq (m : Modifiers) :
    m.text = '\x7b' :: (", ".toList.intercalate (m.bindings.map Binding.quoted) ++ ['\x7d']) := rfl

theorem intercalate_quoted_cons (b : Binding) (bindings : List Binding) :
    ", ".toList.intercalate ((b :: bindings).map Binding.quoted) ++ ['\x7d'] =
      b.quoted ++ textBehind bindings := by
  induction bindings generalizing b with
  | nil =>
      rw [List.map_singleton, List.intercalate_singleton]
      rfl
  | cons next bindings ih =>
      rw [List.map_cons, List.map_cons, List.intercalate_cons_cons, ← List.map_cons,
        List.append_assoc, List.append_assoc, ih]
      rfl

theorem textBehind_injective : Function.Injective textBehind := by
  intro bindings others h
  induction bindings generalizing others with
  | nil =>
      cases others with
      | nil => rfl
      | cons _ _ => cases (List.cons.inj h).1
  | cons b bindings ih =>
      cases others with
      | nil => cases (List.cons.inj h).1
      | cons other others =>
          obtain ⟨rfl, hbehind⟩ := Binding.quoted_append_inj (List.append_cancel_left h)
          rw [ih hbehind]

theorem eq_of_intercalate_quoted {bindings others : List Binding}
    (h : ", ".toList.intercalate (bindings.map Binding.quoted) ++ ['\x7d'] =
      ", ".toList.intercalate (others.map Binding.quoted) ++ ['\x7d']) : bindings = others := by
  cases bindings with
  | nil =>
      cases others with
      | nil => rfl
      | cons other others =>
          rw [intercalate_quoted_cons] at h
          cases (List.cons.inj h).1
  | cons b bindings =>
      cases others with
      | nil =>
          rw [intercalate_quoted_cons] at h
          cases (List.cons.inj h).1
      | cons other others =>
          rw [intercalate_quoted_cons, intercalate_quoted_cons] at h
          obtain ⟨rfl, hbehind⟩ := Binding.quoted_append_inj h
          rw [textBehind_injective hbehind]

theorem text_injective : Function.Injective text := by
  intro m n h
  rw [text_eq, text_eq] at h
  have hbindings := eq_of_intercalate_quoted (List.cons.inj h).2
  cases m
  cases n
  simpa using hbindings

theorem isPlain_text (m : Modifiers) : m.text.IsPlain := by
  have hbindings : IsPlain (", ".toList.intercalate (m.bindings.map Binding.quoted)) := by
    apply Text.isPlain_intercalate (by decide)
    intro piece hpiece
    obtain ⟨b, _, rfl⟩ := List.mem_map.1 hpiece
    exact b.isPlain_quoted
  have hopen : IsPlain ['\x7b'] := by decide
  rw [text_eq]
  exact hopen.append (hbindings.append (by decide))

end Modifiers

theorem Operation.isPlain_name (operation : Operation) : operation.name.IsPlain := by
  cases operation <;> decide

namespace Record

theorem isPlain_text (record : Record) : record.text.IsPlain := by
  have hlevel : IsPlain "TRACE ".toList := by decide
  have hparsed : IsPlain "DEBUG parsed ".toList := by decide
  cases record with
  | modifiers operation m =>
      exact ((hlevel.append operation.isPlain_name).append (by decide)).append m.isPlain_text
  | parsed query operation =>
      exact ((hparsed.append (Text.isPlain_quoted query)).append (by decide)).append
        operation.isPlain_name

/-- The name of an operation has no blank, so it ends where the next word begins. -/
theorem eq_of_text_modifiers {operation operation' : Operation} {m m' : Modifiers}
    (h : (modifiers operation m).text = (modifiers operation' m').text) :
    operation = operation' ∧ m = m' := by
  have hblank : ∀ op : Operation, ' ' ∉ op.name := by
    intro op hmem
    cases Operation.isBlank_of_mem_name hmem
  have hcut : ∀ (op : Operation) (n : Modifiers),
      Text.cutFirst ' ' ((modifiers op n).text.drop 6) =
        some (op.name, "modifiers: ".toList ++ n.text) := by
    intro op n
    refine Text.cutFirst_eq_some_iff.2 ⟨?_, hblank op⟩
    change op.name ++ " modifiers: ".toList ++ n.text = _
    rw [List.append_assoc]
    rfl
  have hparts := (hcut operation m).symm.trans (h ▸ hcut operation' m')
  obtain ⟨hname, hm⟩ := Prod.mk.inj (Option.some.inj hparts)
  exact ⟨Operation.name_injective hname, Modifiers.text_injective (List.append_cancel_left hm)⟩

theorem eq_of_text_parsed {query query' : Text} {operation operation' : Operation}
    (h : (parsed query operation).text = (parsed query' operation').text) :
    query = query' ∧ operation = operation' := by
  have h : "DEBUG parsed ".toList ++ query.quoted ++ " as ".toList ++ operation.name =
      "DEBUG parsed ".toList ++ query'.quoted ++ " as ".toList ++ operation'.name := h
  simp only [List.append_assoc] at h
  obtain ⟨hquery, h⟩ := Text.quoted_append_inj (List.append_cancel_left h)
  exact ⟨hquery, Operation.name_injective (List.append_cancel_left h)⟩

theorem text_injective : Function.Injective text := by
  intro record other h
  cases record with
  | modifiers operation m =>
      cases other with
      | modifiers operation' m' =>
          obtain ⟨rfl, rfl⟩ := eq_of_text_modifiers h
          rfl
      | parsed _ _ => cases (List.cons.inj h).1
  | parsed query operation =>
      cases other with
      | modifiers _ _ => cases (List.cons.inj h).1
      | parsed query' operation' =>
          obtain ⟨rfl, rfl⟩ := eq_of_text_parsed h
          rfl

end Record

end SpatialQuery
