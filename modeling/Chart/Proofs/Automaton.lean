import Mathlib.Data.List.Infix
import Chart.Proofs.Command.Check

/-!
# Proofs/Automaton — the automaton of the words without two consecutive `a` is exact

What an automaton has read is a word that grows by one character with each move, so **a relation between
the word read and the state that every move keeps** holds along a whole run (`runFrom?_of_moves`).  For
`doubleA` this relation has one case for each state, and the case of a single `a` has to speak about the
last character, since the next one may complete a pair: `DoubleA.Remembers`.

* `run?_doubleA` — every word leads to the state that remembers it.
* `automaton_is_exact` — the three states, the verdict, and the outcome of the command.
-/

namespace Chart

/-- **What every move keeps holds along a run**, and no move of it is undefined. -/
theorem Automaton.runFrom?_of_moves {m : Automaton} {P : Text → Int → Prop}
    (hmove : ∀ read state c, P read state → ∃ next, m.next? state c = some next ∧ P (read ++ [c]) next)
    {read : Text} {state : Int} (h : P read state) (rest : Text) :
    ∃ last, m.runFrom? state rest = some last ∧ P (read ++ rest) last := by
  induction rest generalizing read state with
  | nil => exact ⟨state, rfl, (List.append_nil read).symm ▸ h⟩
  | cons c rest ih =>
    obtain ⟨next, hnext, hread⟩ := hmove read state c h
    obtain ⟨last, hlast, hall⟩ := ih hread
    refine ⟨last, ?_, ?_⟩
    · rw [runFrom?, hnext]
      exact hlast
    · rwa [List.append_assoc, List.singleton_append] at hall

namespace DoubleA

/-- A word with two consecutive `a`. -/
def HasPair (word : Text) : Prop := ['a', 'a'] <:+: word

/-- A word whose last character is an `a`. -/
def EndsInA (word : Text) : Prop := ['a'] <:+ word

/-- **What a state says about the word read.** -/
inductive Remembers (read : Text) : Int → Prop where
  | pair (hpair : HasPair read) : Remembers read 2
  | single (hpair : ¬ HasPair read) (hlast : EndsInA read) : Remembers read 1
  | none (hpair : ¬ HasPair read) (hlast : ¬ EndsInA read) : Remembers read 0

variable {read word : Text} {state : Int} {c : Char}

theorem endsInA_concat_iff : EndsInA (read ++ [c]) ↔ c = 'a' := by
  rw [EndsInA, List.suffix_concat_iff]
  constructor
  · rintro (h | ⟨before, h, -⟩)
    · cases h
    · have hends : [] ++ ['a'] = before ++ [c] := h
      exact (List.singleton_inj.1 (List.append_inj' hends rfl).2).symm
  · rintro rfl
    exact Or.inr ⟨[], rfl, List.nil_suffix⟩

/-- **A pair is completed by an `a` behind an `a`.** -/
theorem hasPair_concat_iff : HasPair (read ++ [c]) ↔ HasPair read ∨ (c = 'a' ∧ EndsInA read) := by
  rw [HasPair, List.infix_concat_iff, List.suffix_concat_iff, or_comm]
  refine or_congr_right ⟨?_, ?_⟩
  · rintro (h | ⟨before, h, hread⟩)
    · cases h
    · have hends : ['a'] ++ ['a'] = before ++ [c] := h
      obtain ⟨rfl, hlast⟩ := List.append_inj' hends rfl
      exact ⟨(List.singleton_inj.1 hlast).symm, hread⟩
  · rintro ⟨rfl, hread⟩
    exact Or.inr ⟨['a'], rfl, hread⟩

/-- **Every move keeps what the state remembers.** -/
theorem Remembers.move (h : Remembers read state) (c : Char) :
    Remembers (read ++ [c]) (doubleAStep state [c]) := by
  by_cases hc : c = 'a'
  · subst hc
    cases h with
    | pair hpair => exact .pair (hasPair_concat_iff.2 (Or.inl hpair))
    | single hpair hlast => exact .pair (hasPair_concat_iff.2 (Or.inr ⟨rfl, hlast⟩))
    | none hpair hlast =>
      refine .single (fun h => ?_) (endsInA_concat_iff.2 rfl)
      exact (hasPair_concat_iff.1 h).elim hpair fun h => hlast h.2
  · have hpair : ¬ HasPair read → ¬ HasPair (read ++ [c]) :=
      fun hpair h => (hasPair_concat_iff.1 h).elim hpair fun h => hc h.1
    have hlast : ¬ EndsInA (read ++ [c]) := fun h => hc (endsInA_concat_iff.1 h)
    cases h with
    | pair h => exact .pair (hasPair_concat_iff.2 (Or.inl h))
    | single h _ =>
      have hstep : doubleAStep 1 [c] = 0 := by simp [doubleAStep, hc]
      rw [hstep]
      exact .none (hpair h) hlast
    | none h _ =>
      have hstep : doubleAStep 0 [c] = 0 := by simp [doubleAStep, hc]
      rw [hstep]
      exact .none (hpair h) hlast

theorem remembers_nil : Remembers [] 0 :=
  .none (fun h => nomatch List.infix_nil.1 h) (fun h => nomatch List.suffix_nil.1 h)

/-- **Every word leads to the state that remembers it.** -/
theorem run?_doubleA (word : Text) : ∃ state, doubleA.run? word = some state ∧ Remembers word state := by
  have hmove : ∀ read state c, Remembers read state →
      ∃ next, doubleA.next? state c = some next ∧ Remembers (read ++ [c]) next :=
    fun read state c h => ⟨_, rfl, h.move c⟩
  exact Automaton.runFrom?_of_moves hmove remembers_nil word

theorem Remembers.eq_two_iff (h : Remembers word state) : state = 2 ↔ HasPair word := by
  cases h with
  | pair hpair => exact iff_of_true rfl hpair
  | single hpair _ => exact iff_of_false (by decide) hpair
  | none hpair _ => exact iff_of_false (by decide) hpair

theorem Remembers.eq_one_iff (h : Remembers word state) :
    state = 1 ↔ ¬ HasPair word ∧ EndsInA word := by
  cases h with
  | pair hpair => exact iff_of_false (by decide) fun h => h.1 hpair
  | single hpair hlast => exact iff_of_true rfl ⟨hpair, hlast⟩
  | none _ hlast => exact iff_of_false (by decide) fun h => hlast h.2

theorem Remembers.eq_zero_iff (h : Remembers word state) :
    state = 0 ↔ ¬ HasPair word ∧ ¬ EndsInA word := by
  cases h with
  | pair hpair => exact iff_of_false (by decide) fun h => h.1 hpair
  | single _ hlast => exact iff_of_false (by decide) fun h => h.2 hlast
  | none hpair hlast => exact iff_of_true rfl ⟨hpair, hlast⟩

/-- **The words without a pair are accepted.** -/
theorem accepts?_doubleA (word : Text) :
    ∃ isIn, doubleA.accepts? word = some isIn ∧ (isIn = true ↔ ¬ HasPair word) := by
  obtain ⟨state, hrun, hstate⟩ := run?_doubleA word
  refine ⟨doubleA.isFinal state, by rw [Automaton.accepts?, hrun, Option.map_some], ?_⟩
  cases hstate with
  | pair hpair => exact iff_of_false (by decide) fun h => h hpair
  | single hpair _ => exact iff_of_true rfl hpair
  | none hpair _ => exact iff_of_true rfl hpair

theorem isOverAB_iff : isOverAB word = true ↔ ∀ c ∈ word, c = 'a' ∨ c = 'b' := by
  simp only [isOverAB, List.all_eq_true, Bool.or_eq_true, beq_iff_eq]

/-- Behind two hyphens every word is the input of the command. -/
theorem plan_automaton {d : Defaults} {level : LogLevel}
    (hlevel : LogLevel.ofSetting (Command.automaton.default? d .logLevel) = .ok level) (word : Text) :
    CommandLine.plan d [Command.automaton.name, "--".toList, word] = .ok (.automaton word, level) := by
  have hinvocation : Invocation.ofArguments d [Command.automaton.name, "--".toList, word] =
      .ok (.run (.automaton word) (LogLevel.ofSetting (Command.automaton.default? d .logLevel))) := rfl
  rw [CommandLine.plan, hinvocation, hlevel]

/-- **The automaton of the words without two consecutive `a` is exact.**  Whatever characters a word has, it
leads to the state that says whether two consecutive `a` were read and, if not, whether the last character is
one; so it is accepted exactly if it has no such pair.  The command answers `YES` or `NO` accordingly to the
words over the alphabet, and reports every other word; it leaves the files as they are, and every word can
be given to it. -/
theorem automaton_is_exact (word : Text) :
    (∃ state, doubleA.run? word = some state ∧ (state = 2 ↔ HasPair word) ∧
      (state = 1 ↔ ¬ HasPair word ∧ EndsInA word) ∧ (state = 0 ↔ ¬ HasPair word ∧ ¬ EndsInA word)) ∧
    (∃ isIn, doubleA.accepts? word = some isIn ∧ (isIn = true ↔ ¬ HasPair word)) ∧
    ∃ o : Outcome, (∀ level clock fs, (Request.automaton word).run level clock fs = (o, fs)) ∧
      (∀ reader snapshots arguments d snapshots' level clock (fs : FileSystem),
        CommandLine.defaults reader snapshots fs.configFiles arguments = (.ok d, snapshots') →
        CommandLine.plan d arguments = .ok (.automaton word, level) →
        CommandLine.run reader snapshots clock arguments fs = (o, fs, snapshots')) ∧
      (∀ d level, LogLevel.ofSetting (Command.automaton.default? d .logLevel) = .ok level →
        CommandLine.plan d [Command.automaton.name, "--".toList, word] = .ok (.automaton word, level)) ∧
      (o = ⟨"YES\n".toList, [], .exit 0⟩ ↔ (∀ c ∈ word, c = 'a' ∨ c = 'b') ∧ ¬ HasPair word) ∧
      (o = ⟨"NO\n".toList, [], .exit 0⟩ ↔ (∀ c ∈ word, c = 'a' ∨ c = 'b') ∧ HasPair word) ∧
      (o = ⟨"Only expected a or b.\n".toList, [], .exit 1⟩ ↔ ¬ ∀ c ∈ word, c = 'a' ∨ c = 'b') := by
  obtain ⟨state, hrun, hstate⟩ := run?_doubleA word
  obtain ⟨isIn, haccepts, hisIn⟩ := accepts?_doubleA word
  refine ⟨⟨state, hrun, hstate.eq_two_iff, hstate.eq_one_iff, hstate.eq_zero_iff⟩,
    ⟨isIn, haccepts, hisIn⟩, DoubleA.run word, fun _ _ _ => rfl, ?_, fun d level hlevel =>
    plan_automaton hlevel word, ?_⟩
  · intro reader snapshots arguments d snapshots' level clock fs hdefaults hplan
    exact CommandLine.run_of_plan hdefaults hplan clock
  rw [← isOverAB_iff]
  cases hover : isOverAB word with
  | false =>
    rw [DoubleA.run, hover, if_neg Bool.false_ne_true]
    exact ⟨iff_of_false (by decide) (by simp), iff_of_false (by decide) (by simp),
      iff_of_true rfl (by simp)⟩
  | true =>
    rw [DoubleA.run, hover, if_pos rfl, haccepts]
    cases isIn with
    | true =>
      have hpair : ¬ HasPair word := hisIn.1 rfl
      exact ⟨iff_of_true rfl ⟨rfl, hpair⟩, iff_of_false (by decide) fun h => hpair h.2,
        iff_of_false (by decide) (by simp)⟩
    | false =>
      have hpair : HasPair word := not_not.1 fun h => Bool.noConfusion (hisIn.2 h)
      exact ⟨iff_of_false (by decide) fun h => h.2 hpair, iff_of_true rfl ⟨rfl, hpair⟩,
        iff_of_false (by decide) (by simp)⟩

end DoubleA

end Chart
