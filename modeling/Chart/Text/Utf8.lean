import Chart.Text.Lines

/-!
# Text/Utf8 — texts as bytes

Files hold bytes, and the bytes of a text are those of **UTF-8**.  Bytes that are not UTF-8 hold no
text; a mark at their start is a character like any other.

* `Text.ofUtf8?`, `Text.toUtf8` — `ofUtf8?_toUtf8` says that every text is read back.
* `Text.ofFile?` — the text of a file, with its line breaks unified.
-/

namespace Chart.Text

/-- The bytes of a text. -/
def toUtf8 (t : Text) : ByteArray := (String.ofList t).toUTF8

/-- The text that bytes hold, if they are UTF-8. -/
def ofUtf8? (data : ByteArray) : Option Text := data.utf8Decode?.map Array.toList

/-- The text of a file that holds the given bytes. -/
def ofFile? (data : ByteArray) : Option Text := (ofUtf8? data).map unifyBreaks

/-- **Every text is read back from its bytes.** -/
theorem ofUtf8?_toUtf8 (t : Text) : ofUtf8? (toUtf8 t) = some t := by
  induction t with
  | nil => rfl
  | cons c rest ih =>
    have h : toUtf8 (c :: rest) = [c].utf8Encode ++ toUtf8 rest := by
      change (c :: rest).utf8Encode = [c].utf8Encode ++ rest.utf8Encode
      rw [← List.utf8Encode_append, List.singleton_append]
    rw [ofUtf8?, Option.map_eq_some_iff] at ih ⊢
    obtain ⟨a, ha, harest⟩ := ih
    rw [h, ByteArray.utf8Decode?_utf8Encode_singleton_append, ha]
    exact ⟨_, rfl, by simp [harest]⟩

end Chart.Text
