import Chart.Text.Lines

/-!
# Proofs/Text/Lines — lines and the texts they make up

Cutting into lines and joining by line feeds undo each other where no line holds a line break, whether a
last line feed follows or not: `lines_intercalate`, `lines_intercalate_append`.  No line that was cut
holds one (`of_mem_lines`).  What joined texts begin with and what they hold does not depend on where they
are joined (`intercalate_append_cons`, `not_mem_intercalate`).  Unified line breaks, as a file is read, cut a
text into the same lines (`lines_unifyBreaks`).
-/

namespace Chart.Text

variable {t line rest : Text} {texts : List Text} {c : Char}

/-! ## Cutting -/

/-- **No line holds a line break**, and its characters are characters of the text. -/
theorem of_mem_lines (hline : line ∈ lines t) (hc : c ∈ line) : isLineBreak c = false ∧ c ∈ t := by
  fun_induction lines t generalizing line with
  | case1 => exact absurd hline List.not_mem_nil
  | case2 rest ih =>
    rcases List.mem_cons.1 hline with rfl | hline
    · exact absurd hc List.not_mem_nil
    · simp [ih hline hc]
  | case3 d rest _ _ ih =>
    rcases List.mem_cons.1 hline with rfl | hline
    · exact absurd hc List.not_mem_nil
    · simp [ih hline hc]
  | case4 d rest _ hd hlines _ =>
    obtain rfl := List.mem_singleton.1 hline
    obtain rfl := List.mem_singleton.1 hc
    simpa using hd
  | case5 d rest _ hd first others hlines ih =>
    rw [hlines] at ih
    rcases List.mem_cons.1 hline with rfl | hline
    · rcases List.mem_cons.1 hc with rfl | hc
      · simpa using hd
      · simp [ih List.mem_cons_self hc]
    · simp [ih (List.mem_cons_of_mem _ hline) hc]

/-- A character that is no line break begins a line or continues the first one. -/
theorem lines_cons (hc : isLineBreak c = false) (rest : Text) :
    lines (c :: rest) = match lines rest with
      | [] => [[c]]
      | line :: others => (c :: line) :: others := by
  rw [lines, hc]
  · rfl
  · rintro _ rfl
    exact absurd hc (by decide)

/-- A line break that is not the first half of a longer one ends a line. -/
theorem lines_cons_break (hc : isLineBreak c = true) (hr : c = '\r' → rest.head? ≠ some '\n') :
    lines (c :: rest) = [] :: lines rest := by
  rw [lines, if_pos hc]
  rintro rest rfl rfl
  exact hr rfl rfl

/-- **A text is a line of its own before a line that has ended.** -/
theorem lines_append (ht : ∀ d ∈ t, isLineBreak d = false) (hrest : lines rest = [] :: texts) :
    lines (t ++ rest) = t :: texts := by
  induction t with
  | nil => exact hrest
  | cons d t ih =>
    rw [List.cons_append, lines_cons (ht d List.mem_cons_self),
      ih fun e he => ht e (List.mem_cons_of_mem d he)]

/-- **The text before a line feed is a line.** -/
theorem lines_append_cons (ht : ∀ d ∈ t, isLineBreak d = false) :
    lines (t ++ '\n' :: rest) = t :: lines rest :=
  lines_append ht (lines_cons_break rfl (by simp))

/-- A text without line breaks is a single line, unless it is empty. -/
theorem lines_eq_singleton (hne : t ≠ []) (ht : ∀ d ∈ t, isLineBreak d = false) : lines t = [t] := by
  induction t with
  | nil => exact absurd rfl hne
  | cons d t ih =>
    rw [lines_cons (ht d List.mem_cons_self)]
    cases t with
    | nil => rfl
    | cons e t => rw [ih (List.cons_ne_nil e t) fun f hf => ht f (List.mem_cons_of_mem d hf)]

/-! ## Joining -/

theorem intercalate_cons_cons (c : Char) (t t' : Text) (texts : List Text) :
    [c].intercalate (t :: t' :: texts) = t ++ c :: [c].intercalate (t' :: texts) := by
  rw [List.intercalate_cons_cons, List.append_assoc, List.singleton_append]

/-- What stands before the first text stands before the texts joined. -/
theorem intercalate_append_cons (separator : Text) (before t : Text) (texts : List Text) :
    separator.intercalate ((before ++ t) :: texts) = before ++ separator.intercalate (t :: texts) := by
  cases texts with
  | nil => simp
  | cons u texts => simp [List.intercalate_cons_cons]

theorem not_mem_intercalate {separator : Text} {texts : List Text} {c : Char} (hc : c ∉ separator)
    (htexts : ∀ t ∈ texts, c ∉ t) : c ∉ separator.intercalate texts := by
  induction texts with
  | nil => simp
  | cons t texts ih =>
    obtain ⟨ht, htexts⟩ := List.forall_mem_cons.1 htexts
    cases texts with
    | nil => simpa using ht
    | cons u texts => simpa [List.intercalate_cons_cons, ht, hc] using ih htexts

/-- Texts joined by a longer separator are joined by its first character, with the rest before all but the
first of them. -/
theorem intercalate_cons (c : Char) (separator t : Text) (texts : List Text) :
    (c :: separator).intercalate (t :: texts) = [c].intercalate (t :: texts.map (separator ++ ·)) := by
  induction texts generalizing t with
  | nil => simp
  | cons u texts ih =>
    rw [List.intercalate_cons_cons, ih, List.map_cons, intercalate_cons_cons, intercalate_append_cons]
    simp

/-- Texts that are not empty make up a text that is not empty. -/
theorem intercalate_eq_nil_iff (hne : ∀ t ∈ texts, t ≠ []) :
    [c].intercalate texts = [] ↔ texts = [] := by
  match texts, hne with
  | [], _ => simp
  | [t], hne => simpa using hne t List.mem_cons_self
  | t :: t' :: texts, _ => simp [List.intercalate_cons_cons]

/-- **Joining by line feeds is undone by cutting**, if no text is empty or holds a line break. -/
theorem lines_intercalate : ∀ {texts : List Text}, (∀ t ∈ texts, t ≠ []) →
    (∀ t ∈ texts, ∀ c ∈ t, isLineBreak c = false) → lines (['\n'].intercalate texts) = texts
  | [], _, _ => rfl
  | [t], hne, hbreak => by
    rw [List.intercalate_singleton]
    exact lines_eq_singleton (hne t List.mem_cons_self) (hbreak t List.mem_cons_self)
  | t :: t' :: texts, hne, hbreak => by
    rw [intercalate_cons_cons, lines_append_cons (hbreak t List.mem_cons_self), lines_intercalate
      (fun u hu => hne u (List.mem_cons_of_mem t hu)) fun u hu => hbreak u (List.mem_cons_of_mem t hu)]

/-- With a line feed behind them the texts may be empty. -/
theorem lines_intercalate_append : ∀ {texts : List Text}, texts ≠ [] →
    (∀ t ∈ texts, ∀ c ∈ t, isLineBreak c = false) →
    lines (['\n'].intercalate texts ++ '\n' :: rest) = texts ++ lines rest
  | [t], _, hbreak => by
    rw [List.intercalate_singleton]
    exact lines_append_cons (hbreak t List.mem_cons_self)
  | t :: t' :: texts, _, hbreak => by
    rw [intercalate_cons_cons, List.append_assoc, List.cons_append,
      lines_append_cons (hbreak t List.mem_cons_self),
      lines_intercalate_append (List.cons_ne_nil t' texts)
        fun u hu => hbreak u (List.mem_cons_of_mem t hu)]
    rfl

/-! ## Unified breaks -/

/-- **Unified line breaks cut a text into the same lines.** -/
theorem lines_unifyBreaks (t : Text) : lines (unifyBreaks t) = lines t := by
  have hfeed (rest : Text) : lines ('\n' :: rest) = [] :: lines rest := lines_append_cons (t := []) nofun
  fun_induction unifyBreaks t with
  | case1 => rfl
  | case2 rest ih => rw [hfeed, ih, lines]
  | case3 c rest hcr ih =>
    by_cases hc : isLineBreak c = true
    · have hrest : c = '\r' → rest.head? ≠ some '\n' := by
        intro hcr' hhead
        cases rest with
        | nil => exact nomatch hhead
        | cons d rest => exact hcr rest hcr' (by rw [Option.some.inj hhead])
      rw [lines_cons_break hc hrest, ← ih]
      split
      · exact hfeed _
      · exact lines_cons_break hc fun hcr' => absurd hcr' ‹_›
    · rw [Bool.not_eq_true] at hc
      have hne : c ≠ '\r' := by
        rintro rfl
        exact absurd hc (by decide)
      rw [if_neg hne, lines_cons hc, lines_cons hc, ih]

end Chart.Text
