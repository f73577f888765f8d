import Chart.Proofs.Table.Exact

/-!
# Proofs/Table/TimeLimit — a time limit ends recognition or changes nothing

The time is asked for before the spans of each length are begun, and **the first length that is begun too
late ends recognition**, whatever was filled before it.  If there is none, every step is one that is taken
without a limit.

* `IsOverdue` — which lengths are begun too late; `firstLate?_eq_some_iff` — the first of them.
* `table_eq_unlessLate`, `accepts_eq_unlessLate` — the table and the verdict under a limit; what that says
  of them is `EndsOrAgrees`.
* `exists_isOverdue_iff_of_steady` — on a clock that goes steadily the last length decides.
-/

namespace Chart.Grammar

variable {word : Text} {seconds more : Rat} {limit : Option Rat} {clock : Clock} {length : Nat}

/-! ## Late lengths -/

/-- **A length of a word is overdue** if more time than the limit has passed when it is begun. -/
def IsOverdue (word : Text) (seconds : Rat) (clock : Clock) (length : Nat) : Prop :=
  1 ≤ length ∧ length ≤ word.length ∧ seconds < clock length - clock 0

/-- The first length whose spans are begun too late. -/
def firstLate? (word : Text) (limit : Option Rat) (clock : Clock) : Option Nat :=
  (lengths word).find? (isLate limit clock)

theorem isLate_iff : isLate (some seconds) clock length = true ↔ seconds < clock length - clock 0 :=
  decide_eq_true_iff

/-- **The first late length is overdue, and no shorter one is.** -/
theorem firstLate?_eq_some_iff :
    firstLate? word (some seconds) clock = some length ↔
      IsOverdue word seconds clock length ∧ ∀ m < length, ¬ IsOverdue word seconds clock m := by
  simp only [firstLate?, lengths, List.find?_range'_eq_some, List.mem_range'_1, Bool.not_eq_true',
    ← Bool.not_eq_true, isLate_iff, IsOverdue]
  constructor
  · rintro ⟨hlate, ⟨hpos, hle⟩, hfirst⟩
    exact ⟨⟨hpos, by omega, hlate⟩, fun m hm h => hfirst m h.1 hm h.2.2⟩
  · rintro ⟨⟨hpos, hle, hlate⟩, hfirst⟩
    exact ⟨hlate, ⟨hpos, by omega⟩, fun m hpos' hm h => hfirst m hm ⟨hpos', by omega, h⟩⟩

theorem firstLate?_eq_none_iff :
    firstLate? word (some seconds) clock = none ↔ ∀ m, ¬ IsOverdue word seconds clock m := by
  simp only [firstLate?, lengths, List.find?_range'_eq_none, Bool.not_eq_true', ← Bool.not_eq_true,
    isLate_iff, IsOverdue]
  constructor
  · exact fun h m hm => h m hm.1 (by omega) hm.2.2
  · exact fun h m hpos hm hlate => h m ⟨hpos, by omega, hlate⟩

/-- What is overdue for a limit is overdue for a smaller one. -/
theorem IsOverdue.of_le (hle : seconds ≤ more) (h : IsOverdue word more clock length) :
    IsOverdue word seconds clock length :=
  ⟨h.1, h.2.1, Std.lt_of_le_of_lt hle h.2.2⟩

/-- The time that has passed on a steady clock. -/
theorem clock_sub_of_steady {step : Rat} (hsteady : ∀ m, clock (m + 1) = clock m + step) (m : Nat) :
    clock m - clock 0 = m * step := by
  induction m with
  | zero => grind
  | succ m ih =>
    rw [hsteady]
    grind

/-- **On a steady clock some length is overdue exactly if the last one is.** -/
theorem exists_isOverdue_iff_of_steady {step : Rat} (hstep : 0 ≤ step)
    (hsteady : ∀ m, clock (m + 1) = clock m + step) :
    (∃ length, IsOverdue word seconds clock length) ↔
      1 ≤ word.length ∧ seconds < word.length * step := by
  constructor
  · rintro ⟨length, hpos, hle, hlate⟩
    rw [clock_sub_of_steady hsteady] at hlate
    refine ⟨by omega, Std.lt_of_lt_of_le hlate ?_⟩
    exact Rat.mul_le_mul_of_nonneg_right (Rat.natCast_le_natCast.2 hle) hstep
  · rintro ⟨hpos, hlate⟩
    refine ⟨word.length, hpos, Nat.le_refl _, ?_⟩
    rwa [clock_sub_of_steady hsteady]

/-! ## The table and the verdict under a limit -/

/-- What recognition comes to, unless a length is late. -/
def unlessLate {α : Type} (word : Text) (limit : Option Rat) (clock : Clock) (result : α) :
    Except TimedOut α :=
  match firstLate? word limit clock with
  | some length => .error ⟨length⟩
  | none => .ok result

/-- **Lengths are filled one after the other up to the first that is late**, which ends the filling. -/
theorem fillLengths_eq (g : Grammar) (word : Text) (late : Nat → Bool) (lengths : List Nat)
    (t : Table) :
    g.fillLengths word late lengths t =
      match lengths.find? late with
      | some length => .error ⟨length⟩
      | none => .ok (lengths.foldl (g.fillLength word) t) := by
  induction lengths generalizing t with
  | nil => rfl
  | cons length rest ih =>
    rw [fillLengths, ih, List.find?_cons]
    cases late length <;> rfl

/-- **The table under a limit** is the filled table, unless a length is late. -/
theorem table_eq_unlessLate (g : Grammar) (word : Text) (limit : Option Rat) (clock : Clock) :
    g.table word limit clock = unlessLate word limit clock (g.filled word) := by
  rw [table, fillLengths_eq, lengths, foldl_fillLength_eq_filledTo]
  rfl

/-- **The verdict under a limit** is the verdict, unless a length is late. -/
theorem accepts_eq_unlessLate (g : Grammar) (word : Text) (limit : Option Rat) (clock : Clock) :
    g.accepts word limit clock = unlessLate word limit clock (g.verdict word) := by
  cases word with
  | nil => rfl
  | cons c word =>
    rw [accepts_of_ne_nil (List.cons_ne_nil c word), table_eq_unlessLate, unlessLate, unlessLate]
    cases firstLate? (c :: word) limit clock <;> rfl

/-- **A limit ends recognition or changes nothing**: it ends at the first length that is overdue, and
without one it comes to what it comes to if there is no limit. -/
structure EndsOrAgrees {α : Type} (word : Text) (seconds : Rat) (clock : Clock)
    (limited unlimited : Except TimedOut α) : Prop where
  /-- The first overdue length ends recognition. -/
  ends_at : ∀ length, limited = .error ⟨length⟩ ↔
    IsOverdue word seconds clock length ∧ ∀ m < length, ¬ IsOverdue word seconds clock m
  /-- Some overdue length ends it. -/
  ends_iff : (∃ late, limited = .error late) ↔ ∃ length, IsOverdue word seconds clock length
  /-- Nothing else makes a difference. -/
  agrees : (∀ length, ¬ IsOverdue word seconds clock length) → limited = unlimited

theorem endsOrAgrees_unlessLate {α : Type} (word : Text) (seconds : Rat) (clock : Clock) (result : α) :
    EndsOrAgrees word seconds clock (unlessLate word (some seconds) clock result) (.ok result) where
  ends_at length := by
    rw [← firstLate?_eq_some_iff, unlessLate]
    cases firstLate? word (some seconds) clock <;> simp
  ends_iff := by
    rw [unlessLate]
    cases hfirst : firstLate? word (some seconds) clock with
    | none => simpa using firstLate?_eq_none_iff.1 hfirst
    | some length => exact iff_of_true ⟨_, rfl⟩ ⟨length, (firstLate?_eq_some_iff.1 hfirst).1⟩
  agrees h := by rw [unlessLate, firstLate?_eq_none_iff.2 h]

theorem endsOrAgrees_table (g : Grammar) (word : Text) (seconds : Rat) (clock : Clock) :
    EndsOrAgrees word seconds clock (g.table word (some seconds) clock) (g.table word none clock) := by
  rw [table_eq_unlessLate, table_none]
  exact endsOrAgrees_unlessLate word seconds clock _

theorem endsOrAgrees_accepts (g : Grammar) (word : Text) (seconds : Rat) (clock : Clock) :
    EndsOrAgrees word seconds clock (g.accepts word (some seconds) clock)
      (g.accepts word none clock) := by
  rw [accepts_eq_unlessLate, accepts_none]
  exact endsOrAgrees_unlessLate word seconds clock _

end Chart.Grammar
