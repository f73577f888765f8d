import Chart.Table.Filling

/-!
# Proofs/Text/Slice — cutting a span of a word in two

The span from `i` to `j` is cut behind any of its positions (`slice_append`), and every way to write it
as two non-empty texts is such a cut (`eq_slice_of_append`).  A text at an end of the span leaves the
rest of the span: `prefix_slice_iff`, `suffix_slice_iff`.  Read backwards, a span is a span of the word
read backwards: `slice_reverse`.
-/

namespace Chart.Text

variable {w : Text} {i j : Nat}

theorem length_slice (hj : j < w.length) (hij : i ≤ j) : (w.slice i j).length = j + 1 - i := by
  rw [slice, List.length_take, List.length_drop]
  omega

/-- **A span is cut behind any of its positions.** -/
theorem slice_append {k : Nat} (hik : i ≤ k) (hkj : k ≤ j) :
    w.slice i k ++ w.slice (k + 1) j = w.slice i j := by
  have hdrop : w.drop (k + 1) = (w.drop i).drop (k + 1 - i) := by
    rw [List.drop_drop]
    exact congrArg (List.drop · w) (by omega)
  rw [slice, slice, slice, hdrop, ← List.take_add]
  exact congrArg (List.take · _) (by omega)

theorem slice_whole (hw : w ≠ []) : w.slice 0 (w.length - 1) = w := by
  have hpos : 0 < w.length := List.length_pos_iff.2 hw
  rw [slice, List.drop_zero]
  exact List.take_of_length_le (by omega)

/-- A span of one position is the character there. -/
theorem slice_self_eq_iff {c : Char} : w.slice i i = [c] ↔ w[i]? = some c := by
  have hlen : i + 1 - i = 1 := by omega
  rw [slice, hlen, ← List.head?_drop]
  cases w.drop i <;> simp

theorem drop_slice (m : Nat) : (w.slice i j).drop m = w.slice (i + m) j := by
  rw [slice, slice, List.drop_take, List.drop_drop]
  exact congrArg (List.take · _) (by omega)

/-- **A span of a span is a span of the word.** -/
theorem slice_slice {k m : Nat} (hm : i + m ≤ j) :
    (w.slice i j).slice k m = w.slice (i + k) (i + m) := by
  rw [slice, drop_slice, slice, slice, List.take_take]
  exact congrArg (List.take · _) (by omega)

/-- **A span read backwards** is the span of the word read backwards that has its places counted from the
other end. -/
theorem slice_reverse {i' j' : Nat} (hij : i ≤ j) (hi : i + i' + 1 = w.length)
    (hj : j + j' + 1 = w.length) : Text.slice w.reverse j' i' = (w.slice i j).reverse := by
  have htake : w.length - j' = j + 1 := by omega
  have hlength : (w.take (j + 1)).length - (i' + 1 - j') = i := by
    rw [List.length_take]
    omega
  rw [slice, slice, List.drop_reverse, List.take_reverse, htake, hlength, List.drop_take]

/-- Where two words have the same text, they have the same spans within it. -/
theorem slice_eq_of_within {w' : Text} {i' len k m : Nat}
    (h : w.slice i (i + len) = w'.slice i' (i' + len)) (hm : m ≤ len) :
    w.slice (i + k) (i + m) = w'.slice (i' + k) (i' + m) := by
  rw [← slice_slice (Nat.add_le_add_left hm i), h, slice_slice (Nat.add_le_add_left hm i')]

/-- **A text begins a span if the span is the text and the rest of the span.** -/
theorem prefix_slice_iff {x : Text} :
    x <+: w.slice i j ↔ w.slice i j = x ++ w.slice (i + x.length) j := by
  rw [List.prefix_iff_eq_append, drop_slice, eq_comm]

/-- **A text ends a span if the span is the rest of the span and the text.** -/
theorem suffix_slice_iff {y : Text} (hj : j < w.length) (hy : i + y.length ≤ j) :
    y <:+ w.slice i j ↔ w.slice i j = w.slice i (j - y.length) ++ y := by
  have htake : (w.slice i j).take ((w.slice i j).length - y.length) = w.slice i (j - y.length) := by
    rw [length_slice hj (by omega), slice, slice, List.take_take]
    exact congrArg (List.take · _) (by omega)
  rw [List.suffix_iff_eq_append, htake, eq_comm]

/-- **Two non-empty texts that make up a span are its parts before and behind a cut.** -/
theorem eq_slice_of_append {u v : Text} (hj : j < w.length) (hij : i ≤ j)
    (h : w.slice i j = u ++ v) (hu : u ≠ []) (hv : v ≠ []) :
    i + u.length ≤ j ∧ u = w.slice i (i + u.length - 1) ∧ v = w.slice (i + u.length) j := by
  have hupos : 0 < u.length := List.length_pos_iff.2 hu
  have hvpos : 0 < v.length := List.length_pos_iff.2 hv
  have hlen : u.length + v.length = j + 1 - i := by
    rw [← length_slice hj hij, h, List.length_append]
  have hcut : w.slice i (i + u.length - 1) ++ w.slice (i + u.length) j = u ++ v := by
    have happend := slice_append (w := w) (i := i) (j := j) (k := i + u.length - 1)
      (by omega) (by omega)
    rwa [Nat.sub_add_cancel (by omega), h] at happend
  have hulen : (w.slice i (i + u.length - 1)).length = u.length := by
    rw [length_slice (by omega) (by omega)]
    omega
  obtain ⟨hfirst, hsecond⟩ := List.append_inj hcut hulen
  exact ⟨by omega, hfirst.symm, hsecond.symm⟩

/-- What two texts make up occurs in a word only if both of them do. -/
theorem infix_of_append {u v : Text} (h : u ++ v <:+: w) : u <:+: w ∧ v <:+: w :=
  ⟨(List.prefix_append u v).isInfix.trans h, (List.suffix_append u v).isInfix.trans h⟩

end Chart.Text
