import Mathlib.Data.List.Perm.Basic
import Chart.Text.Basic

/-!
# Proofs/Text/Order — texts by code point

The order of texts is total and decides equality, so **listing texts by code point forgets their order and
nothing else**: two lists without repetitions are listed alike exactly if they have the same members
(`sorted_eq_sorted_iff`).
-/

namespace Chart.Text

theorem isAtMost_cons_iff {a b : Char} {s t : Text} :
    isAtMost (a :: s) (b :: t) = true ↔ a.toNat < b.toNat ∨ a = b ∧ isAtMost s t = true := by
  simp [isAtMost]

theorem isAtMost_total : ∀ s t : Text, (isAtMost s t || isAtMost t s) = true
  | [], _ => rfl
  | _ :: _, [] => rfl
  | a :: s, b :: t => by
    have ih := isAtMost_total s t
    rw [Bool.or_eq_true] at ih ⊢
    rw [isAtMost_cons_iff, isAtMost_cons_iff]
    rcases Nat.lt_trichotomy a.toNat b.toNat with hlt | heq | hlt
    · exact Or.inl (Or.inl hlt)
    · obtain rfl := Char.toNat_inj.1 heq
      exact ih.imp (fun h => Or.inr ⟨rfl, h⟩) fun h => Or.inr ⟨rfl, h⟩
    · exact Or.inr (Or.inl hlt)

theorem isAtMost_trans : ∀ s t u : Text, isAtMost s t = true → isAtMost t u = true → isAtMost s u = true
  | [], _, _, _, _ => rfl
  | a :: s, b :: t, c :: u, hst, htu => by
    rw [isAtMost_cons_iff] at hst htu ⊢
    rcases hst with hlt | ⟨rfl, hst⟩
    · rcases htu with hlt' | ⟨rfl, -⟩
      · exact Or.inl (Nat.lt_trans hlt hlt')
      · exact Or.inl hlt
    · exact htu.imp_right fun h => ⟨h.1, isAtMost_trans s t u hst h.2⟩

theorem isAtMost_antisymm : ∀ s t : Text, isAtMost s t = true → isAtMost t s = true → s = t
  | [], [], _, _ => rfl
  | a :: s, b :: t, hst, hts => by
    rw [isAtMost_cons_iff] at hst hts
    rcases hst with hlt | ⟨rfl, hst⟩
    · rcases hts with hlt' | ⟨rfl, -⟩ <;> omega
    · rcases hts with hlt | ⟨-, hts⟩
      · omega
      · rw [isAtMost_antisymm s t hst hts]

theorem sorted_perm (texts : List Text) : (sorted texts).Perm texts := List.mergeSort_perm texts _

theorem pairwise_sorted (texts : List Text) :
    (sorted texts).Pairwise fun s t => isAtMost s t = true :=
  List.pairwise_mergeSort isAtMost_trans isAtMost_total texts

/-- **Lists without repetitions are listed alike exactly if they have the same members.** -/
theorem sorted_eq_sorted_iff {texts texts' : List Text} (h : texts.Nodup) (h' : texts'.Nodup) :
    sorted texts = sorted texts' ↔ ∀ t, t ∈ texts ↔ t ∈ texts' := by
  constructor
  · intro heq t
    rw [← mem_sorted, heq, mem_sorted]
  · intro hsame
    have hperm : (sorted texts).Perm (sorted texts') :=
      (sorted_perm texts).trans
        (((List.perm_ext_iff_of_nodup h h').2 hsame).trans (sorted_perm texts').symm)
    exact hperm.eq_of_pairwise (fun s t _ _ => isAtMost_antisymm s t) (pairwise_sorted texts)
      (pairwise_sorted texts')

end Chart.Text
