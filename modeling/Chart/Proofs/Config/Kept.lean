import Chart.Config.Snapshots
import Mathlib.Data.List.Perm.Subperm

/-!
# Proofs/Config/Kept — the first answer to a question is its answer

A question is answered from the snapshots or from the files.  As long as no more questions are asked than
answers can be kept, **no answer is ever given up**: the snapshots hold for each question the first
configuration that it was answered with (`Remembers`), so that one is also its last
(`answer_eq_of_first?`).  A question that has never been answered with a configuration is put to
the files as they are then.  So it is for every reader of documents.
-/

namespace Chart

/-- **A question that was asked**: the files at that time, and the answer. -/
structure Inquiry where
  question : ConfigQuestion
  files : ConfigFiles
  answer : Except ConfigFault Defaults

namespace Inquiry

/-- The first configuration that a question was answered with. -/
def first? (past : List Inquiry) (question : ConfigQuestion) : Option Defaults :=
  past.findSome? fun i => if i.question = question then i.answer.toOption else none

/-- **An inquiry is answered after others** with the first configuration that they got for its question,
or else with what the files say. -/
def IsAnsweredAfter (reader : DocumentReader) (past : List Inquiry) (i : Inquiry) : Prop :=
  i.answer =
    match first? past i.question with
    | some d => .ok d
    | none => i.files.resolve reader i.question.content

/-- **Each of several inquiries is answered** after those of the past and those before it. -/
def AllAnswered (reader : DocumentReader) (past : List Inquiry) : List Inquiry → Prop
  | [] => True
  | i :: rest => i.IsAnsweredAfter reader past ∧ AllAnswered reader (past ++ [i]) rest

variable {reader : DocumentReader}

theorem first?_append (past later : List Inquiry) (question : ConfigQuestion) :
    first? (past ++ later) question = (first? past question).or (first? later question) := by
  simp only [first?, List.findSome?_append]

theorem first?_singleton (i : Inquiry) (question : ConfigQuestion) :
    first? [i] question = if i.question = question then i.answer.toOption else none := by
  rw [first?, List.findSome?_singleton]

theorem allAnswered_append {past before later : List Inquiry} :
    AllAnswered reader past (before ++ later) ↔
      AllAnswered reader past before ∧ AllAnswered reader (past ++ before) later := by
  induction before generalizing past with
  | nil => simp [AllAnswered]
  | cons i rest ih => simp only [List.cons_append, AllAnswered, ih, List.append_assoc, and_assoc]; rfl

/-- A question was never answered with a configuration if there is no first one. -/
theorem first?_eq_none_iff {past : List Inquiry} {question : ConfigQuestion} :
    first? past question = none ↔ ∀ i ∈ past, i.question = question → ∀ d, i.answer ≠ .ok d := by
  simp only [first?, List.findSome?_eq_none_iff]
  refine forall₂_congr fun i _ => ?_
  cases i.answer <;> simp [Except.toOption]

/-- **What a question was answered with first is its answer from then on.** -/
theorem answer_eq_of_first? {past inquiries : List Inquiry} {question : ConfigQuestion} {d : Defaults}
    (hfirst : first? past question = some d) (hanswered : AllAnswered reader past inquiries) :
    ∀ i ∈ inquiries, i.question = question → i.answer = .ok d := by
  induction inquiries generalizing past with
  | nil => nofun
  | cons first rest ih =>
    refine List.forall_mem_cons.2 ⟨fun hquestion => ?_, ih ?_ hanswered.2⟩
    · have hanswer := hanswered.1
      rwa [IsAnsweredAfter, hquestion, hfirst] at hanswer
    · rw [first?_append, hfirst, Option.some_or]

end Inquiry

namespace Snapshots

open Inquiry

variable {reader : DocumentReader} {s s' : Snapshots} {question : ConfigQuestion}
  {questions : List ConfigQuestion} {past inquiries : List Inquiry} {files : ConfigFiles}

/-! ## One inquiry -/

theorem ask_of_lookup {d : Defaults} (h : s.kept.lookup question = some d) :
    s.ask reader question files = (.ok d, s.use question d) := by
  simp only [ask, h]

theorem ask_of_resolve {d : Defaults} (h : s.kept.lookup question = .none)
    (hd : files.resolve reader question.content = .ok d) :
    s.ask reader question files = (.ok d, s.use question d) := by
  simp only [ask, h, hd]

theorem ask_of_fault {fault : ConfigFault} (h : s.kept.lookup question = .none)
    (hfault : files.resolve reader question.content = .error fault) :
    s.ask reader question files = (.error fault, s) := by
  simp only [ask, h, hfault]

/-- **Snapshots remember the past**: they keep one answer for each question that was answered, the first
one. -/
structure Remembers (questions : List ConfigQuestion) (s : Snapshots) (past : List Inquiry) : Prop where
  nodup : (s.kept.map Prod.fst).Nodup
  subset : s.kept.map Prod.fst ⊆ questions
  lookup : ∀ question, s.kept.lookup question = first? past question

theorem remembers_none (questions : List ConfigQuestion) : Remembers questions none [] where
  nodup := List.nodup_nil
  subset := List.nil_subset _
  lookup _ := rfl

/-- What is kept for other questions stays. -/
theorem lookup_filter_ne (kept : List (ConfigQuestion × Defaults)) {question other : ConfigQuestion}
    (hother : other ≠ question) :
    (kept.filter fun e => e.1 != question).lookup other = kept.lookup other := by
  induction kept with
  | nil => rfl
  | cons head rest ih =>
    by_cases hhead : head.1 = question
    · have hne : head.1 ≠ other := fun h => hother (h.symm.trans hhead)
      rw [List.filter_cons_of_neg (by simp [hhead]), ih, lookup_cons_eq_ite, if_neg hne]
    · rw [List.filter_cons_of_pos (by simp [hhead]), lookup_cons_eq_ite, lookup_cons_eq_ite, ih]

/-- What is kept after an answer was used, if there is room for all of it. -/
def used (kept : List (ConfigQuestion × Defaults)) (question : ConfigQuestion) (answer : Defaults) :
    List (ConfigQuestion × Defaults) :=
  (question, answer) :: kept.filter fun e => e.1 != question

theorem nodup_used {kept : List (ConfigQuestion × Defaults)} (h : (kept.map Prod.fst).Nodup)
    (question : ConfigQuestion) (answer : Defaults) :
    ((used kept question answer).map Prod.fst).Nodup := by
  refine List.nodup_cons.2 ⟨?_, h.sublist (List.filter_sublist.map _)⟩
  simp

theorem used_subset {kept : List (ConfigQuestion × Defaults)} (h : kept.map Prod.fst ⊆ questions)
    (hquestion : question ∈ questions) (answer : Defaults) :
    (used kept question answer).map Prod.fst ⊆ questions := by
  refine List.cons_subset.2 ⟨hquestion, fun other hother => h ?_⟩
  exact (List.filter_sublist.map _).subset hother

/-- **While there is room, nothing is given up.** -/
theorem kept_use (hs : Remembers questions s past) (hquestion : question ∈ questions)
    (hcapacity : questions.length ≤ capacity) (answer : Defaults) :
    (s.use question answer).kept = used s.kept question answer := by
  have hlength := (List.subperm_of_subset (nodup_used hs.nodup question answer)
    (used_subset hs.subset hquestion answer)).length_le
  rw [List.length_map] at hlength
  exact List.take_of_length_le (Nat.le_trans hlength hcapacity)

/-- **Using an answer is remembered**, be it the kept one or a new one. -/
theorem remembers_use (hs : Remembers questions s past) (hquestion : question ∈ questions)
    (hcapacity : questions.length ≤ capacity) {answer : Defaults}
    (hfirst : ∀ d, first? past question = some d → d = answer) :
    Remembers questions (s.use question answer) (past ++ [⟨question, files, .ok answer⟩]) := by
  have hkept := kept_use hs hquestion hcapacity answer
  refine ⟨?_, ?_, fun other => ?_⟩
  · rw [hkept]
    exact nodup_used hs.nodup question answer
  · rw [hkept]
    exact used_subset hs.subset hquestion answer
  · rw [hkept, used, lookup_cons_eq_ite, first?_append, first?_singleton]
    by_cases hother : question = other
    · subst hother
      rw [if_pos rfl, if_pos rfl]
      cases hpast : first? past question with
      | none => rfl
      | some d => rw [hfirst d hpast, Option.some_or]
    · rw [if_neg hother, if_neg hother, Option.or_none, lookup_filter_ne _ (Ne.symm hother), hs.lookup]

/-- **An inquiry is answered as the past says**, and then belongs to the past. -/
theorem ask_of_remembers (hs : Remembers questions s past) (hquestion : question ∈ questions)
    (hcapacity : questions.length ≤ capacity) {answer : Except ConfigFault Defaults}
    (hask : s.ask reader question files = (answer, s')) :
    IsAnsweredAfter reader past ⟨question, files, answer⟩ ∧
      Remembers questions s' (past ++ [⟨question, files, answer⟩]) := by
  have hlookup := hs.lookup question
  unfold IsAnsweredAfter
  -- what is kept is the first answer, so the snapshots and the past agree on which case this is
  cases hkept : s.kept.lookup question with
  | some d =>
    rw [hkept] at hlookup
    cases hask.symm.trans (ask_of_lookup hkept)
    refine ⟨by rw [← hlookup], remembers_use hs hquestion hcapacity fun d' hd' => ?_⟩
    exact Option.some.inj (hd'.symm.trans hlookup.symm)
  | none =>
    rw [hkept] at hlookup
    cases hresolve : files.resolve reader question.content with
    | ok d =>
      cases hask.symm.trans (ask_of_resolve hkept hresolve)
      refine ⟨by rw [← hlookup], remembers_use hs hquestion hcapacity fun d' hd' => ?_⟩
      exact nomatch hd'.symm.trans hlookup.symm
    | error fault =>
      -- a failure changes neither what is kept nor what was answered first
      cases hask.symm.trans (ask_of_fault hkept hresolve)
      refine ⟨by rw [← hlookup], hs.nodup, hs.subset, fun other => ?_⟩
      rw [hs.lookup, first?_append, first?_singleton]
      split <;> simp [Except.toOption]

/-! ## Many inquiries -/

/-- **Snapshots answer inquiries one after the other.** -/
inductive Serves (reader : DocumentReader) : Snapshots → List Inquiry → Snapshots → Prop
  | nil (s : Snapshots) : Serves reader s [] s
  | cons {s s' s'' : Snapshots} {question : ConfigQuestion} {files : ConfigFiles}
      {answer : Except ConfigFault Defaults} {rest : List Inquiry}
      (hask : s.ask reader question files = (answer, s')) (hrest : Serves reader s' rest s'') :
      Serves reader s (⟨question, files, answer⟩ :: rest) s''

/-- **Many inquiries**: each of them is answered as those before it say. -/
theorem allAnswered_of_serves (hserves : Serves reader s inquiries s') (hs : Remembers questions s past)
    (hasked : ∀ i ∈ inquiries, i.question ∈ questions) (hcapacity : questions.length ≤ capacity) :
    AllAnswered reader past inquiries := by
  induction hserves generalizing past with
  | nil => trivial
  | cons hask _ ih =>
    obtain ⟨hquestion, hlater⟩ := List.forall_mem_cons.1 hasked
    obtain ⟨hanswer, hs'⟩ := ask_of_remembers hs hquestion hcapacity hask
    exact ⟨hanswer, ih hs' hlater⟩

theorem Serves.append {s'' : Snapshots} {later : List Inquiry} (h : Serves reader s inquiries s')
    (h' : Serves reader s' later s'') : Serves reader s (inquiries ++ later) s'' := by
  induction h with
  | nil => exact h'
  | cons hask _ ih => exact .cons hask (ih h')

end Snapshots

end Chart
