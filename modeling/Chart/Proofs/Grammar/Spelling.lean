import Chart.Grammar.Derivation

/-!
# Proofs/Grammar/Spelling — rewriting, read as trees

Rewriting replaces one variable after the other, in any order.  A **spelling** has no order: a terminal
spells its text, and a variable what the right-hand side of one of its rules spells, symbol by symbol.

* `SpellsAll.of_derives` — a step backwards keeps what a list of symbols spells.
* `Spells.derives` — the replacements inside each symbol can be carried out one symbol after the other.
* `generates_iff_spells` — so the two say the same of the start variable.
-/

namespace Chart.Grammar

/-- **The words that a symbol spells.** -/
inductive Spells (g : Grammar) : Symbol → Text → Prop where
  | terminal {a : Symbol} : g.isVariable a = false → Spells g a a
  | epsilon {a : Symbol} : Rule.epsilon a ∈ g.rules → Spells g a []
  | unit {a x : Symbol} {w : Text} : Rule.unit a x ∈ g.rules → Spells g x w → Spells g a w
  | binary {a x y : Symbol} {u v : Text} : Rule.binary a x y ∈ g.rules →
    Spells g x u → Spells g y v → Spells g a (u ++ v)

/-- The words that a list of symbols spells, one symbol after the other. -/
inductive SpellsAll (g : Grammar) : List Symbol → Text → Prop where
  | nil : SpellsAll g [] []
  | cons {a : Symbol} {form : List Symbol} {u v : Text} :
    Spells g a u → SpellsAll g form v → SpellsAll g (a :: form) (u ++ v)

variable {g : Grammar} {a : Symbol} {form next : List Symbol} {w : Text}

/-! ## From rewriting to spelling -/

theorem SpellsAll.append {before behind : List Symbol} {u v : Text} (hu : SpellsAll g before u)
    (hv : SpellsAll g behind v) : SpellsAll g (before ++ behind) (u ++ v) := by
  induction hu with
  | nil => exact hv
  | cons ha _ ih =>
    rw [List.append_assoc]
    exact SpellsAll.cons ha ih

theorem SpellsAll.exists_of_append {before behind : List Symbol}
    (h : SpellsAll g (before ++ behind) w) :
    ∃ u v, w = u ++ v ∧ SpellsAll g before u ∧ SpellsAll g behind v := by
  induction before generalizing w with
  | nil => exact ⟨[], w, rfl, SpellsAll.nil, h⟩
  | cons b before ih =>
    cases h with
    | @cons _ _ first rest hb hrest =>
      obtain ⟨u, v, rfl, hu, hv⟩ := ih hrest
      exact ⟨first ++ u, v, (List.append_assoc ..).symm, SpellsAll.cons hb hu, hv⟩

theorem SpellsAll.spells_of_singleton (h : SpellsAll g [a] w) : g.Spells a w := by
  obtain _ | ⟨ha, hnil⟩ := h
  cases hnil
  rwa [List.append_nil]

/-- A variable spells what the right-hand side of one of its rules spells. -/
theorem SpellsAll.of_rhs {r : Rule} (hr : r ∈ g.rules) (h : SpellsAll g r.rhs w) :
    g.Spells r.lhs w := by
  cases r with
  | epsilon a => cases h; exact Spells.epsilon hr
  | unit a x => exact Spells.unit hr h.spells_of_singleton
  | binary a x y =>
    obtain _ | ⟨hx, hrest⟩ := h
    exact Spells.binary hr hx hrest.spells_of_singleton

theorem SpellsAll.of_rewrites (hstep : g.Rewrites form next) (h : SpellsAll g next w) :
    SpellsAll g form w := by
  obtain ⟨before, behind, hr⟩ := hstep
  rw [List.append_assoc] at h
  obtain ⟨u, rest, rfl, hu, hrest⟩ := h.exists_of_append
  obtain ⟨v, w, rfl, hv, hw⟩ := hrest.exists_of_append
  exact hu.append (SpellsAll.cons (hv.of_rhs hr) hw)

theorem SpellsAll.of_derives (hder : g.Derives form next) (h : SpellsAll g next w) :
    SpellsAll g form w := by
  induction hder generalizing w with
  | refl => exact h
  | step _ hstep ih => exact ih (h.of_rewrites hstep)

theorem SpellsAll.of_terminals (h : ∀ b ∈ form, g.isVariable b = false) :
    SpellsAll g form form.flatten := by
  induction form with
  | nil => exact SpellsAll.nil
  | cons b form ih =>
    exact SpellsAll.cons (Spells.terminal (h b List.mem_cons_self))
      (ih fun c hc => h c (List.mem_cons_of_mem b hc))

/-! ## From spelling to rewriting -/

theorem Rewrites.context (before behind : List Symbol) (h : g.Rewrites form next) :
    g.Rewrites (before ++ form ++ behind) (before ++ next ++ behind) := by
  obtain ⟨left, right, hr⟩ := h
  have hstep := Rewrites.replace (before ++ left) (right ++ behind) hr
  simpa only [List.append_assoc, List.cons_append] using hstep

theorem Derives.context (before behind : List Symbol) (h : g.Derives form next) :
    g.Derives (before ++ form ++ behind) (before ++ next ++ behind) := by
  induction h with
  | refl => exact Derives.refl
  | step _ hstep ih => exact ih.step (hstep.context before behind)

/-- Two parts of a list are rewritten one after the other. -/
theorem Derives.append {before before' behind behind' : List Symbol}
    (h : g.Derives before before') (h' : g.Derives behind behind') :
    g.Derives (before ++ behind) (before' ++ behind') := by
  have hfirst := h.context [] behind
  have hsecond := h'.context before' []
  rw [List.append_nil, List.append_nil] at hsecond
  exact hfirst.trans hsecond

/-- A rule is a derivation. -/
theorem Derives.of_rule {r : Rule} (hr : r ∈ g.rules) : g.Derives [r.lhs] r.rhs := by
  have hstep := Rewrites.replace [] [] hr
  rw [List.append_nil] at hstep
  exact Derives.refl.step hstep

/-- **What a symbol spells is made up of terminals that it derives.** -/
theorem Spells.derives (h : g.Spells a w) :
    ∃ form, g.Derives [a] form ∧ (∀ b ∈ form, g.isVariable b = false) ∧ form.flatten = w := by
  induction h with
  | @terminal a ha =>
    refine ⟨[a], Derives.refl, ?_, List.append_nil a⟩
    intro b hb
    rwa [List.mem_singleton.1 hb]
  | epsilon hr => exact ⟨[], Derives.of_rule hr, fun b hb => absurd hb List.not_mem_nil, rfl⟩
  | unit hr _ ih =>
    obtain ⟨form, hder, hform, hw⟩ := ih
    exact ⟨form, (Derives.of_rule hr).trans hder, hform, hw⟩
  | @binary a x y u v hr _ _ ihx ihy =>
    obtain ⟨left, hleft, hterminal, rfl⟩ := ihx
    obtain ⟨right, hright, hterminal', rfl⟩ := ihy
    refine ⟨left ++ right, (Derives.of_rule hr).trans (hleft.append hright), ?_,
      List.flatten_append⟩
    intro b hb
    exact (List.mem_append.1 hb).elim (hterminal b) (hterminal' b)

/-- **A word is generated exactly if the start variable spells it.** -/
theorem generates_iff_spells : g.Generates w ↔ g.Spells g.start w := by
  constructor
  · rintro ⟨form, hder, hform, rfl⟩
    exact ((SpellsAll.of_terminals hform).of_derives hder).spells_of_singleton
  · exact Spells.derives

end Chart.Grammar
