import Mathlib.Data.List.DropRight
import Mathlib.Data.List.TakeDrop
import Mathlib.Data.List.TakeWhile
import Chart.Text.Lines

/-!
# Proofs/Text/Pieces — cutting at separators

A text without separators is one piece, and the text before a separator is the first of the pieces
(`pieces_append_cons`); no piece holds a separator (`of_mem_pieces`).  A character that is no blank keeps
apart what is stripped before it and behind it (`strip_append_cons`).
-/

namespace Chart.Text

variable {t rest piece : Text} {c : Char} {isSeparator p : Char → Bool}

/-- **The text before a separator is a piece.** -/
theorem pieces_append_cons (ht : ∀ d ∈ t, isSeparator d = false) (hc : isSeparator c = true) :
    pieces isSeparator (t ++ c :: rest) = t :: pieces isSeparator rest := by
  induction t with
  | nil => exact if_pos hc
  | cons d t ih =>
    have hd : isSeparator d = false := ht d List.mem_cons_self
    rw [List.cons_append, pieces, hd, ih fun e he => ht e (List.mem_cons_of_mem d he)]
    rfl

/-- A text without separators is a single piece. -/
theorem pieces_eq_singleton (ht : ∀ d ∈ t, isSeparator d = false) : pieces isSeparator t = [t] := by
  induction t with
  | nil => rfl
  | cons d t ih =>
    have hd : isSeparator d = false := ht d List.mem_cons_self
    rw [pieces, hd, ih fun e he => ht e (List.mem_cons_of_mem d he)]
    rfl

/-- **No piece holds a separator**, and its characters are characters of the text. -/
theorem of_mem_pieces (hpiece : piece ∈ pieces isSeparator t) (hc : c ∈ piece) :
    isSeparator c = false ∧ c ∈ t := by
  fun_induction pieces isSeparator t generalizing piece with
  | case1 =>
    rw [List.mem_singleton.1 hpiece] at hc
    exact absurd hc List.not_mem_nil
  | case2 d rest _ ih =>
    rcases List.mem_cons.1 hpiece with rfl | hpiece
    · exact absurd hc List.not_mem_nil
    · simp [ih hpiece hc]
  | case3 d rest _ hnil => exact absurd hnil (pieces_ne_nil isSeparator rest)
  | case4 d rest hd first others hpieces ih =>
    rw [hpieces] at ih
    rcases List.mem_cons.1 hpiece with rfl | hpiece
    · rcases List.mem_cons.1 hc with rfl | hc
      · simpa using hd
      · simp [ih List.mem_cons_self hc]
    · simp [ih (List.mem_cons_of_mem _ hpiece) hc]

/-- The longest first part of a text ends where the text goes on with another kind of character. -/
theorem span_append_cons (ht : ∀ d ∈ t, p d = true) (hc : p c = false) :
    (t ++ c :: rest).span p = (t, c :: rest) := by
  rw [List.span_eq_takeWhile_dropWhile, List.takeWhile_append_of_pos ht,
    List.dropWhile_append_of_pos ht, List.takeWhile_cons_of_neg (Bool.not_eq_true _ ▸ hc),
    List.dropWhile_cons_of_neg (Bool.not_eq_true _ ▸ hc), List.append_nil]

/-- Where the longest first part ends before a character, the text goes on with it. -/
theorem eq_append_cons_of_span {first : Text} (h : t.span p = (first, c :: rest)) :
    t = first ++ c :: rest ∧ (∀ d ∈ first, p d = true) ∧ p c = false := by
  rw [List.span_eq_takeWhile_dropWhile] at h
  obtain ⟨hfirst, hrest⟩ := Prod.mk.inj h
  refine ⟨?_, ?_, ?_⟩
  · rw [← hfirst, ← hrest, List.takeWhile_append_dropWhile]
  · intro d hd
    exact List.mem_takeWhile_imp (hfirst ▸ hd)
  · have hhead := List.head?_dropWhile_not p t
    rw [hrest] at hhead
    simpa using hhead

theorem dropWhile_eq_self_iff : t.dropWhile p = t ↔ ∀ d ∈ t.head?, p d = false := by
  cases t <;> simp

theorem rdropWhile_eq_self_iff : t.rdropWhile p = t ↔ ∀ d ∈ t.getLast?, p d = false := by
  rw [List.rdropWhile, List.reverse_eq_iff, dropWhile_eq_self_iff, List.head?_reverse]

theorem dropWhile_append_cons (hc : p c = false) (t rest : Text) :
    (t ++ c :: rest).dropWhile p = t.dropWhile p ++ c :: rest := by
  induction t with
  | nil => simp [hc]
  | cons d t ih => by_cases hd : p d = true <;> simp [hd, ih]

theorem rdropWhile_append_cons (hc : p c = false) (t rest : Text) :
    (t ++ c :: rest).rdropWhile p = t ++ c :: rest.rdropWhile p := by
  rw [List.rdropWhile, List.reverse_append, List.reverse_cons, List.append_assoc,
    List.singleton_append, dropWhile_append_cons hc]
  simp [List.rdropWhile]

/-- **Stripping works on both sides of a character that is no blank.** -/
theorem strip_append_cons (hc : isBlank c = false) (t rest : Text) :
    (t ++ c :: rest).strip = t.dropWhile isBlank ++ c :: rest.rdropWhile isBlank := by
  rw [strip, dropWhile_append_cons hc]
  exact rdropWhile_append_cons hc _ rest

theorem mem_of_mem_strip (hc : c ∈ t.strip) : c ∈ t :=
  (List.dropWhile_suffix isBlank).subset ((List.rdropWhile_prefix isBlank _).subset hc)

end Chart.Text
