import Chart.Proofs.Grammar.Construction
import Chart.Proofs.Grammar.Parsed

/-!
# Proofs/Grammar/Writable — which rules some text writes

Stripping takes the blanks at the ends of a line, so a symbol there may lose some.  But separators may stand
at the ends of a line as well, for the pieces beside them are empty and are dropped: **between separators
every token is kept**, even one of blanks alone (`Row.parse_fenced`).  So the parser returns whatever makes a
grammar and consists of tokens, and nothing else: `Grammar.exists_text_iff`.
-/

namespace Chart

namespace Row

variable {row : Row} {x : Symbol}

/-- **The line of a row between separators**: one at the start, and one behind every symbol. -/
def fenced (row : Row) : Text := ':' :: row.flatMap fun x => x ++ [':']

/-- The symbols are the pieces between the separators. -/
theorem pieces_fenced (hrow : ∀ x ∈ row, IsToken x) :
    Text.pieces isSeparator (fenced row) = [] :: (row ++ [[]]) := by
  have hpieces : Text.pieces isSeparator (row.flatMap fun x => x ++ [':']) = row ++ [[]] := by
    induction row with
    | nil => rfl
    | cons x row ih =>
      have hx : ∀ c ∈ x, isSeparator c = false := (hrow x List.mem_cons_self).isSeparator_eq_false
      rw [List.flatMap_cons, List.append_assoc, List.singleton_append, Text.pieces_append_cons hx rfl,
        ih fun y hy => hrow y (List.mem_cons_of_mem x hy)]
      rfl
  rw [← hpieces]
  rfl

/-- A line with separators at its ends loses nothing when it is stripped. -/
theorem strip_fenced (row : Row) : (fenced row).strip = fenced row := by
  have hcolon : Text.isBlank ':' = false := by decide
  obtain rfl | ⟨others, x, rfl⟩ := row.eq_nil_or_concat'
  · rfl
  · have hends : fenced (others ++ [x]) =
        (':' :: (others.flatMap fun y => y ++ [':']) ++ x) ++ ':' :: [] := by
      simp [fenced]
    rw [hends, Text.strip_append_cons hcolon]
    rfl

/-- **A row of tokens is read back from its line between separators.** -/
theorem parse_fenced (hne : row ≠ []) (hrow : ∀ x ∈ row, IsToken x) : parse (fenced row) = .ok row := by
  have hkept : row.filter isKept = row := List.filter_eq_self.2 fun x hx => (hrow x hx).isKept
  rw [parse_eq_ok_iff hne, strip_fenced, pieces_fenced hrow, List.filter_cons_of_neg (by decide),
    List.filter_append, hkept]
  exact List.append_nil row

/-- A symbol of blanks alone is kept between separators. -/
example : parse (fenced [[' ', ' '], ['a', ' ']]) = .ok [[' ', ' '], ['a', ' ']] := rfl

theorem fenced_ne_nil (row : Row) : fenced row ≠ [] := List.cons_ne_nil _ _

theorem isLineBreak_of_mem_fenced (hrow : ∀ x ∈ row, IsToken x) :
    ∀ c ∈ fenced row, Text.isLineBreak c = false := by
  intro c hc
  obtain rfl | hc := List.mem_cons.1 hc
  · rfl
  obtain ⟨x, hx, hc⟩ := List.mem_flatMap.1 hc
  obtain hc | hc := List.mem_append.1 hc
  · exact (hrow x hx).no_break c hc
  · rw [List.mem_singleton.1 hc]
    rfl

/-- **Rows of tokens are read back from their lines.** -/
theorem parseAll_fenced {rows : List Row} (hne : [] ∉ rows) (hrows : ∀ row ∈ rows, ∀ x ∈ row, IsToken x) :
    parseAll (['\n'].intercalate (rows.map fenced)) = .ok rows := by
  have hlines : Text.lines (['\n'].intercalate (rows.map fenced)) = rows.map fenced := by
    refine Text.lines_intercalate ?_ ?_
    · exact List.forall_mem_map.2 fun row _ => fenced_ne_nil row
    · exact List.forall_mem_map.2 fun row hrow => isLineBreak_of_mem_fenced (hrows row hrow)
  have hblank : ∀ line ∈ rows.map fenced, line.strip ≠ [] := by
    refine List.forall_mem_map.2 fun row _ => ?_
    rw [strip_fenced]
    exact fenced_ne_nil row
  rw [parseAll_eq_ok_iff hlines hblank, List.forall₂_map_left_iff, List.forall₂_same]
  exact fun row hrow => parse_fenced (fun h => hne (h ▸ hrow)) (hrows row hrow)

end Row

namespace Grammar

/-- **The parser returns exactly the rules of tokens that make a grammar.**  A token is a text that is not
empty, is not the token for an absent symbol, and holds neither a separator nor a line break; blanks may stand
anywhere in it. -/
theorem exists_text_iff (rows : List Row) (form : NormalForm) :
    (∃ text g, parse text form = .ok g ∧ g.rows = rows) ↔
      (∃ g, ofRows rows form = .ok g) ∧ ∀ row ∈ rows, ∀ x ∈ row, Row.IsToken x := by
  constructor
  · rintro ⟨text, g, hparse, rfl⟩
    refine ⟨⟨g, ofRows_rows_of_parse hparse⟩, ?_⟩
    exact List.forall_mem_map.2 (hasTokens_of_parse hparse)
  · rintro ⟨⟨g, hg⟩, htokens⟩
    obtain rfl := (rows_ofRows hg).1
    refine ⟨['\n'].intercalate (g.rows.map Row.fenced), g, ?_, rfl⟩
    rw [parse, Row.parseAll_fenced g.nil_not_mem_rows htokens]
    exact hg

end Grammar

end Chart
