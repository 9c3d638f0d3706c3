import ClassStub.Proofs.Settings.Redaction
import ClassStub.Proofs.Text.Pattern

/-!
# Messages that hide values

Redaction replaces what two patterns match (`quotedText`): texts in double quotes first, then texts in single quotes.
In a message that shows values in quotes, the first pattern matches each value from its quote to its quote, although a
value can hold quotes and backslashes itself. So the redacted message depends on the texts around the values only.
-/

namespace ClassStub.Settings

open Text (Pattern)

/-! ### The pattern of a quoted text -/

/-- A part of a text in quotes: a backslash and a character that does not end the line, or another character. -/
def quotedItem (quote : Char) : Pattern :=
  .alt (.seq (.char (· == '\\')) (.char (· != '\n'))) (.char fun c => c != quote && c != '\\')

/-- A text in quotes. -/
def quotedText (quote : Char) : Pattern :=
  .seq (.char (· == quote)) (.seq (.star (quotedItem quote)) (.char (· == quote)))

section

variable {quote c : Char} {cs : List Char}

/-- A backslash hides the character behind it, unless that ends the line. -/
lemma rests_quotedItem_escape (h : c ≠ '\n') : (quotedItem quote).rests ('\\' :: c :: cs) = [cs] := by
  simp [quotedItem, h]

/-- Any character but the quote and the backslash is a part by itself. -/
lemma rests_quotedItem_plain (hquote : c ≠ quote) (hslash : c ≠ '\\') : (quotedItem quote).rests (c :: cs) = [cs] := by
  simp [quotedItem, hquote, hslash]

/-- No part begins with a quote. -/
lemma rests_quotedItem_quote (hquote : quote ≠ '\\') : (quotedItem quote).rests (quote :: cs) = [] := by
  simp [quotedItem, hquote]

/-- No part begins with a backslash at the end of the text or of a line. -/
lemma rests_quotedItem_slash (h : ∀ d ∈ cs.head?, d = '\n') : (quotedItem quote).rests ('\\' :: cs) = [] := by
  cases cs with
  | nil => simp [quotedItem]
  | cons d cs => simp [quotedItem, h d rfl]

/-- Of the matches for parts in a row, at most one is followed by a quote: the one up to the quote that closes. -/
lemma flatMap_repeated_quotedItem (hquote : quote ≠ '\\') {bound : Nat} (hbound : cs.length ≤ bound) :
    (Pattern.repeated (quotedItem quote).rests bound cs).flatMap (Pattern.char (· == quote)).rests =
      (afterQuoted? quote cs).toList := by
  -- At each place there is one part or none, so that giving parts back never leads to another quote.
  fun_induction afterQuoted? quote cs generalizing bound with
  | case1 =>
    rw [Pattern.repeated_of_eq_nil (by simp [quotedItem])]
    rfl
  | case2 cs =>
    rw [Pattern.repeated_of_eq_nil (rests_quotedItem_quote hquote)]
    simp
  | case3 hslash =>
    rw [Pattern.repeated_of_eq_nil (rests_quotedItem_slash (by simp))]
    simp [hslash]
  | case4 cs hslash =>
    rw [Pattern.repeated_of_eq_nil (rests_quotedItem_slash (by simp))]
    simp [hslash]
  | case5 d cs hd hslash ih =>
    rw [List.length_cons, List.length_cons] at hbound
    obtain ⟨bound, rfl⟩ := Nat.exists_eq_add_of_le' (Nat.le_of_succ_le hbound)
    have hshorter : cs.length < ('\\' :: d :: cs).length := Nat.lt_add_of_pos_right Nat.two_pos
    rw [← Nat.add_assoc, Pattern.repeated_of_eq_singleton (rests_quotedItem_escape hd) hshorter,
      List.flatMap_append, ih (by omega)]
    simp [hslash]
  | case6 c cs hc hslash ih =>
    rw [List.length_cons] at hbound
    obtain ⟨bound, rfl⟩ := Nat.exists_eq_add_of_le' hbound
    rw [← Nat.add_assoc, Pattern.repeated_of_eq_singleton (rests_quotedItem_plain hc hslash) (by simp),
      List.flatMap_append, ih (by omega)]
    simp [hc]

/-- From a quote on, a text in quotes matches up to the quote that closes. -/
lemma rests_quotedText_quote (hquote : quote ≠ '\\') :
    (quotedText quote).rests (quote :: cs) = (afterQuoted? quote cs).toList := by
  rw [← flatMap_repeated_quotedItem hquote (Nat.le_refl cs.length)]
  simp [quotedText]

/-- A text in quotes begins with a quote. -/
lemma rests_quotedText_ne (hc : c ≠ quote) : (quotedText quote).rests (c :: cs) = [] := by
  simp [quotedText, hc]

/-- Replacing quoted texts is replacing what the pattern of a quoted text matches. -/
lemma redactQuoted_eq_replaceAll (hquote : quote ≠ '\\') (cs : List Char) :
    redactQuoted quote cs = (quotedText quote).replaceAll (quote :: redacted ++ [quote]) cs := by
  fun_induction redactQuoted quote cs with
  | case1 => rw [Pattern.replaceAll]
  | case2 cs rest h hlt ih =>
    have hle : rest.length ≤ cs.length := Nat.le_of_lt hlt
    rw [Pattern.replaceAll, rests_quotedText_quote hquote, h, ih]
    simp [hle]
  | case3 cs h ih =>
    rw [Pattern.replaceAll, rests_quotedText_quote hquote, h, ih]
    rfl
  | case4 c cs hc ih =>
    rw [Pattern.replaceAll, rests_quotedText_ne hc, ih]
    rfl

end

/-- Redacting replaces what the patterns match, for double quotes first and then for single ones. -/
lemma toList_redact (s : String) :
    (redact s).toList = (quotedText '\'').replaceAll "'<redacted>'".toList
      ((quotedText '"').replaceAll "\"<redacted>\"".toList s.toList) := by
  have hdouble : "\"<redacted>\"".toList = '"' :: redacted ++ ['"'] := by decide
  have hsingle : "'<redacted>'".toList = '\'' :: redacted ++ ['\''] := by decide
  rw [redact, String.toList_ofList, hdouble, hsingle, ← redactQuoted_eq_replaceAll (by decide),
    ← redactQuoted_eq_replaceAll (by decide)]

/-- A message that shows values in quotes, between texts without double quotes, is redacted in the same way whatever the
values are. If the texts have no single quotes either, they are all that is left, with a mark for each value. Redaction
itself replaces the leftmost matches of a pattern for texts in double quotes, then those for texts in single quotes. -/
theorem redacted_messages_hide_values (m : Message) (h : ∀ t ∈ m.texts, '"' ∉ t.toList) :
    (∀ m' : Message, m'.texts = m.texts → redact m'.text = redact m.text) ∧
      ((∀ t ∈ m.texts, '\'' ∉ t.toList) → redact m.text = "\"<redacted>\"".intercalate m.texts) ∧
      ∀ s : String, (redact s).toList = (quotedText '\'').replaceAll "'<redacted>'".toList
        ((quotedText '"').replaceAll "\"<redacted>\"".toList s.toList) := by
  refine ⟨?_, Message.redact_text h, toList_redact⟩
  intro m' htexts
  have h' : ∀ t ∈ m'.texts, '"' ∉ t.toList := htexts ▸ h
  rw [redact, redact, m'.redactQuoted_text h', m.redactQuoted_text h, htexts]

/-- Values with quotes of both kinds and with backslashes at their ends, between texts with single quotes, the first of
which ends with a backslash. -/
def awkwardMessage : Message := ⟨"key 'a\\", [("b\"c'\\", "\n'd"), ("\\", "")]⟩

/-- The same texts around other values. -/
def plainMessage : Message := ⟨"key 'a\\", [("e", "\n'd"), ("", "")]⟩

/-- A value with quotes of both kinds between texts without. -/
def typeMessage : Message := ⟨"invalid type: string ", [("it's\"", ", expected usize")]⟩

/-- The message with quotes and backslashes in its texts and values hides the values, and so does one about a type. -/
theorem awkwardMessage_hides_values :
    awkwardMessage.text = "key 'a\\\"b\\\"c'\\\\\"\n'd\"\\\\\"" ∧
      (∀ t ∈ awkwardMessage.texts, '"' ∉ t.toList) ∧ plainMessage.texts = awkwardMessage.texts ∧
      redact plainMessage.text = redact awkwardMessage.text ∧
      typeMessage.text = "invalid type: string \"it's\\\"\", expected usize" ∧
      (∀ t ∈ typeMessage.texts, '"' ∉ t.toList) ∧ (∀ t ∈ typeMessage.texts, '\'' ∉ t.toList) ∧
      redact typeMessage.text = "invalid type: string \"<redacted>\", expected usize" := by
  have hawkward : ∀ t ∈ awkwardMessage.texts, '"' ∉ t.toList := by decide
  have htype : ∀ t ∈ typeMessage.texts, '"' ∉ t.toList := by decide
  have hsingle : ∀ t ∈ typeMessage.texts, '\'' ∉ t.toList := by decide
  obtain ⟨hsame, -⟩ := redacted_messages_hide_values awkwardMessage hawkward
  obtain ⟨-, hmasked, -⟩ := redacted_messages_hide_values typeMessage htype
  refine ⟨by decide, hawkward, rfl, hsame plainMessage rfl, by decide, htype, hsingle, ?_⟩
  rw [hmasked hsingle]
  decide

end ClassStub.Settings
