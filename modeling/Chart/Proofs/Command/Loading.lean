import Chart.Command.Loading

/-!
# Proofs/Command/Loading — the failures of loading

Parsing fails in one way, and reading in several, of which one is about the file.  So it makes no difference
for a text whether the failures of the file are caught as well, and **loading a file is reading it and then
parsing what was read**, except that a failure of the file has become a result: `loadGrammar_eq`.

What is caught is what the commands can report: `grammarOrExit_of_caught`.
-/

namespace Chart

/-- What becomes a result is what was to be caught. -/
theorem Result.isCaught_of_catching {α : Type} {isCaught : Failure → Bool} {x : Except Failure α}
    {f : Failure} (h : catching isCaught x = .ok (.failure f)) : isCaught f = true := by
  cases x with
  | ok a => cases h
  | error f' =>
    rw [catching] at h
    split at h
    · next hcaught =>
      cases h
      exact hcaught
    · cases h

namespace Loading

variable {path text : Text} {form : NormalForm} {g : Grammar} {e : GrammarError}

/-! ## Texts -/

theorem grammarFromText_of_ok (hg : Grammar.parse text form = .ok g) :
    grammarFromText text form = ([parsed g], .ok (.success g)) := by
  rw [grammarFromText, parseGrammar, hg]
  rfl

theorem grammarFromText_of_error (hg : Grammar.parse text form = .error e) :
    grammarFromText text form = ([], .ok (.failure (.invalidGrammar e))) := by
  rw [grammarFromText, parseGrammar, hg]
  rfl

/-- A text always comes to a result. -/
theorem grammarFromText_cases (text : Text) (form : NormalForm) :
    (∃ g, Grammar.parse text form = .ok g ∧
      grammarFromText text form = ([parsed g], .ok (.success g))) ∨
    ∃ e, Grammar.parse text form = .error e ∧
      grammarFromText text form = ([], .ok (.failure (.invalidGrammar e))) := by
  cases hg : Grammar.parse text form with
  | ok g => exact .inl ⟨g, rfl, grammarFromText_of_ok hg⟩
  | error e => exact .inr ⟨e, rfl, grammarFromText_of_error hg⟩

/-! ## Files -/

/-- **Loading a file is reading it and then parsing what was read.**  A failure of the file is caught and
becomes a result, any other failure to read it passes. -/
theorem loadGrammar_eq (path : Text) (read : ReadResult) (form : NormalForm) :
    loadGrammar path read form =
      match readGrammarFile path read with
      | .ok text => (opening path :: (grammarFromText text form).1, (grammarFromText text form).2)
      | .error f => ([opening path], if f.isGrammarFile then .ok (.failure f) else .error f) := by
  rw [loadGrammar, readAndParse]
  cases read with
  | text text =>
    obtain ⟨g, hg, hresult⟩ | ⟨e, hg, hresult⟩ := grammarFromText_cases text form <;>
      simp only [readGrammarFile, hresult, parseGrammar, hg] <;> rfl
  | fault fault => rfl
  | notUtf8 => rfl
  | nullCharacter => rfl

theorem loadGrammar_text (path text : Text) (form : NormalForm) :
    loadGrammar path (.text text) form =
      (opening path :: (grammarFromText text form).1, (grammarFromText text form).2) :=
  loadGrammar_eq path (.text text) form

theorem loadGrammar_fault (path : Text) (fault : FileFault) (form : NormalForm) :
    loadGrammar path (.fault fault) form = ([opening path], .ok (.failure (.grammarFile path fault))) :=
  loadGrammar_eq path (.fault fault) form

/-- Loading logs for debugging only. -/
theorem level_of_mem_loadGrammar (read : ReadResult) :
    ∀ r ∈ (loadGrammar path read form).1, r.level = .debug := by
  rw [loadGrammar_eq]
  cases readGrammarFile path read with
  | error f => exact List.forall_mem_singleton.2 rfl
  | ok text =>
    obtain ⟨g, -, hresult⟩ | ⟨e, -, hresult⟩ := grammarFromText_cases text form <;>
      simp [hresult, opening, parsed]

/-! ## Reports -/

/-- **Whatever is caught is reported**: no command meets a result that it does not expect. -/
theorem grammarOrExit_of_caught (command : Text) {read : ReadResult} {records : List LogRecord}
    {f : Failure}
    (h : grammarFromText text form = (records, .ok (.failure f)) ∨
      loadGrammar path read form = (records, .ok (.failure f))) :
    ∃ code words, (code = 1 ∨ code = 65) ∧
      grammarOrExit command (.failure f) = .error (.failed code (report command words)) := by
  have hcaught : f.isOfLoading = true := by
    obtain h | h := h
    · exact Bool.or_eq_true_iff.2 (Or.inr (Result.isCaught_of_catching (Prod.ext_iff.1 h).2))
    · exact Result.isCaught_of_catching (Prod.ext_iff.1 h).2
  cases f with
  | grammarFile path fault => exact ⟨1, _, Or.inl rfl, rfl⟩
  | invalidGrammar e => exact ⟨65, _, Or.inr rfl, rfl⟩
  | _ => cases hcaught

end Loading

end Chart
