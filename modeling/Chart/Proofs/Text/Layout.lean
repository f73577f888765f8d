import Mathlib.Data.List.DropRight
import Chart.Proofs.Text.Lines

/-!
# Proofs/Text/Layout — the same lines, laid out freely

What a text **says** line by line is in its lines that are not blank, without the blanks at their ends
(`Text.content`).  A text **lays out** lines if there is nothing but blanks around them, and some line break
between one line and the next (`Text.LaysOut`).  Every line break is a blank, so a break that is added only
ends blank lines (`content_cons_of_isBlank`), and a text says what the lines say that it lays out:
`LaysOut.content_eq`.
-/

namespace Chart.Text

variable {t t' line gap rest : Text} {texts : List Text} {c : Char}

/-! ## Stripping -/

theorem strip_cons_of_isBlank (hc : isBlank c = true) (t : Text) : strip (c :: t) = strip t := by
  rw [strip, strip, List.dropWhile_cons_of_pos hc]

theorem strip_append_of_isBlank (hgap : ∀ c ∈ gap, isBlank c = true) (t : Text) :
    strip (t ++ gap) = strip t := by
  have hdrop : gap.dropWhile isBlank = [] := List.dropWhile_eq_nil_iff.2 hgap
  rw [strip, strip, List.dropWhile_append]
  split
  · next h => rw [hdrop, List.isEmpty_iff.1 h]
  · rw [List.reverse_append, List.dropWhile_append_of_pos fun c hc => hgap c (List.mem_reverse.1 hc)]

/-! ## What lines say -/

/-- The lines that are not blank, without the blanks at their ends. -/
def said (texts : List Text) : List Text := (texts.map strip).filter (· != [])

/-- **What a text says line by line.** -/
def content (t : Text) : List Text := said t.lines

theorem said_cons (t : Text) (texts : List Text) : said (t :: texts) = said [t] ++ said texts := by
  rw [said, said, said, ← List.filter_append, ← List.map_append, List.singleton_append]

theorem said_cons_congr (h : strip t = strip t') (texts : List Text) :
    said (t :: texts) = said (t' :: texts) := by
  rw [said, said, List.map_cons, List.map_cons, h]

/-- **The text before a line break is a line**, and what is behind the break is said by the others: a line
feed that belongs to the break is a blank line less. -/
theorem exists_lines_append_break (ht : ∀ d ∈ t, isLineBreak d = false) (hc : isLineBreak c = true)
    (rest : Text) : ∃ others, lines (t ++ c :: rest) = t :: others ∧ said others = content rest := by
  by_cases hlong : c = '\r' ∧ rest.head? = some '\n'
  · obtain ⟨rfl, hhead⟩ := hlong
    obtain ⟨rest, rfl⟩ := List.head?_eq_some_iff.1 hhead
    refine ⟨lines rest, lines_append ht rfl, ?_⟩
    rw [content, lines_cons_break rfl (by simp)]
    rfl
  · have hbreak : lines (c :: rest) = [] :: lines rest :=
      lines_cons_break hc fun hcr hhead => hlong ⟨hcr, hhead⟩
    exact ⟨lines rest, lines_append ht hbreak, rfl⟩

theorem content_append_break (ht : ∀ d ∈ t, isLineBreak d = false) (hc : isLineBreak c = true)
    (rest : Text) : content (t ++ c :: rest) = said [t] ++ content rest := by
  obtain ⟨others, hlines, hsaid⟩ := exists_lines_append_break ht hc rest
  rw [content, hlines, said_cons, hsaid]

/-- A text without line breaks says what it says as a line. -/
theorem content_eq_said (ht : ∀ d ∈ t, isLineBreak d = false) : content t = said [t] := by
  by_cases hne : t = []
  · rw [hne]
    rfl
  · rw [content, lines_eq_singleton hne ht]

/-- **A blank at the start says nothing**, whether it ends a line or not. -/
theorem content_cons_of_isBlank (hc : isBlank c = true) (t : Text) : content (c :: t) = content t := by
  by_cases hbreak : isLineBreak c = true
  · exact content_append_break (t := []) nofun hbreak t
  · rw [content, content, lines_cons (Bool.not_eq_true _ ▸ hbreak)]
    cases lines t with
    | nil => exact said_cons_congr (strip_cons_of_isBlank hc []) []
    | cons line others => exact said_cons_congr (strip_cons_of_isBlank hc line) others

theorem content_append_of_isBlank (hgap : ∀ c ∈ gap, isBlank c = true) (t : Text) :
    content (gap ++ t) = content t := by
  induction gap with
  | nil => rfl
  | cons c gap ih =>
    rw [List.cons_append, content_cons_of_isBlank (hgap c List.mem_cons_self),
      ih fun d hd => hgap d (List.mem_cons_of_mem c hd)]

/-- **A line and blanks behind it say what the line says**, apart from what follows a break among them. -/
theorem content_append_gap (hline : ∀ d ∈ line, isLineBreak d = false)
    (hgap : ∀ c ∈ gap, isBlank c = true) (hend : (∃ c ∈ gap, isLineBreak c = true) ∨ rest = []) :
    content (line ++ (gap ++ rest)) = said [line] ++ content rest := by
  -- blanks before the first break are read as part of the line, those behind it as part of what follows
  induction gap generalizing line with
  | nil =>
    obtain rfl : rest = [] := hend.resolve_left (by simp)
    rw [List.nil_append, List.append_nil, content_eq_said hline]
    exact (List.append_nil _).symm
  | cons c gap ih =>
    have hblank : ∀ d ∈ gap, isBlank d = true := fun d hd => hgap d (List.mem_cons_of_mem c hd)
    by_cases hc : isLineBreak c = true
    · rw [List.cons_append, content_append_break hline hc, content_append_of_isBlank hblank]
    · have hlonger : ∀ d ∈ line ++ [c], isLineBreak d = false :=
        List.forall_mem_append.2 ⟨hline, List.forall_mem_singleton.2 (Bool.not_eq_true _ ▸ hc)⟩
      have hstrip : strip (line ++ [c]) = strip line :=
        strip_append_of_isBlank (List.forall_mem_singleton.2 (hgap c List.mem_cons_self)) line
      rw [List.cons_append, List.append_cons, ih hlonger hblank ?_, said_cons_congr hstrip]
      refine hend.imp_left ?_
      rintro ⟨d, hd, hbreak⟩
      obtain rfl | hd := List.mem_cons.1 hd
      · exact absurd hbreak hc
      · exact ⟨d, hd, hbreak⟩

/-! ## Laying out -/

/-- **A text lays out lines**: blanks stand before and behind each of them, and between one line and the
next there is at least one line break. -/
inductive LaysOut : List Text → Text → Prop
  | nil : LaysOut [] []
  | last {line before behind : Text} (hbefore : ∀ c ∈ before, isBlank c = true)
      (hbehind : ∀ c ∈ behind, isBlank c = true) : LaysOut [line] (before ++ (line ++ behind))
  | cons {line before behind rest : Text} {c : Char} {texts : List Text}
      (hbefore : ∀ c ∈ before, isBlank c = true) (hbehind : ∀ c ∈ behind, isBlank c = true)
      (hc : isLineBreak c = true) (h : LaysOut texts rest) :
      LaysOut (line :: texts) (before ++ (line ++ (behind ++ c :: rest)))

/-- **A text says what the lines say that it lays out.** -/
theorem LaysOut.content_eq (h : LaysOut texts t)
    (htexts : ∀ line ∈ texts, ∀ c ∈ line, isLineBreak c = false) : content t = said texts := by
  induction h with
  | nil => rfl
  | @last line before behind hbefore hbehind =>
    rw [content_append_of_isBlank hbefore, ← List.append_nil behind,
      content_append_gap (htexts line List.mem_cons_self) hbehind (Or.inr rfl)]
    exact List.append_nil _
  | @cons line before behind rest c texts hbefore hbehind hc _ ih =>
    have hgap : ∀ d ∈ behind ++ [c], isBlank d = true :=
      List.forall_mem_append.2 ⟨hbehind, List.forall_mem_singleton.2 (isBlank_of_isLineBreak hc)⟩
    rw [content_append_of_isBlank hbefore, List.append_cons,
      content_append_gap (htexts line List.mem_cons_self) hgap (Or.inl ⟨c, by simp, hc⟩),
      ih fun line hline => htexts line (List.mem_cons_of_mem _ hline), ← said_cons]

/-- Lines that are joined by line feeds are laid out. -/
theorem laysOut_intercalate : ∀ texts : List Text, LaysOut texts (['\n'].intercalate texts)
  | [] => .nil
  | [t] => by
    have h : LaysOut [t] ([] ++ (t ++ [])) := .last nofun nofun
    simpa using h
  | t :: t' :: texts => by
    have h : LaysOut (t :: t' :: texts)
        ([] ++ (t ++ ([] ++ '\n' :: ['\n'].intercalate (t' :: texts)))) :=
      .cons nofun nofun rfl (laysOut_intercalate (t' :: texts))
    rwa [intercalate_cons_cons]

end Chart.Text
