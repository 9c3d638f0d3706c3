import ClassStub.Proofs.Text.Digits
import ClassStub.Proofs.Text.Joining
import ClassStub.Settings.Redact
import ClassStub.Text.Quoted

/-!
# What redaction takes out

A text without quotes is left as it is. Of a text that shows a value in quotes nothing of the value is left: the first
quote that is not escaped is the one that the value was put in, since inside it every quote has a backslash in front,
and every backslash hides the character after it.
-/

namespace ClassStub.Settings

/-! ### Quoted texts -/

section

variable {quote c : Char} {cs front rest : List Char}

/-- A quote closes. -/
lemma afterQuoted?_quote (cs : List Char) : afterQuoted? quote (quote :: cs) = some cs := by
  rw [afterQuoted?.eq_def]
  exact if_pos rfl

/-- Any character but the quote and the backslash is passed over. -/
lemma afterQuoted?_cons (hquote : c ≠ quote) (hslash : c ≠ '\\') :
    afterQuoted? quote (c :: cs) = afterQuoted? quote cs := by
  rw [afterQuoted?.eq_def]
  exact (if_neg hquote).trans (if_neg hslash)

/-- A backslash hides the character behind it, unless that ends the line. -/
lemma afterQuoted?_escape (hquote : quote ≠ '\\') (hc : c ≠ '\n') :
    afterQuoted? quote ('\\' :: c :: cs) = afterQuoted? quote cs := by
  rw [afterQuoted?.eq_def]
  exact (if_neg hquote.symm).trans ((if_pos rfl).trans (if_neg hc))

/-- A text without quotes and backslashes is passed over. -/
lemma afterQuoted?_append (h : ∀ c ∈ front, c ≠ quote ∧ c ≠ '\\') :
    afterQuoted? quote (front ++ rest) = afterQuoted? quote rest := by
  induction front with
  | nil => rfl
  | cons c front ih =>
    rw [List.forall_mem_cons] at h
    rw [List.cons_append, afterQuoted?_cons h.1.1 h.1.2, ih h.2]

/-- A character of a quoted text closes nothing. -/
lemma afterQuoted?_quoteChar (c : Char) (rest : List Char) :
    afterQuoted? '"' (Text.quoteChar c ++ rest) = afterQuoted? '"' rest := by
  have hescape : ∀ d : Char, d ≠ '\n' → afterQuoted? '"' (['\\', d] ++ rest) = afterQuoted? '"' rest :=
    fun d hd => afterQuoted?_escape (by decide) hd
  rw [Text.quoteChar]
  split_ifs with hquote hslash
  iterate 6 exact hescape _ (by decide)
  · -- Behind the backslash and its letter there are braces and digits only.
    have hplain : ∀ d ∈ '\x7b' :: (Text.hex c.toNat).toList ++ ['\x7d'], d ≠ '"' ∧ d ≠ '\\' := by
      intro d hd
      simp only [List.cons_append, List.mem_cons, List.mem_append, List.not_mem_nil, or_false] at hd
      rcases hd with rfl | hd | rfl
      · decide
      · have hdigit := Text.isAlphanum_of_mem_hex hd
        constructor
        · rintro rfl
          exact absurd hdigit (by decide)
        · rintro rfl
          exact absurd hdigit (by decide)
      · decide
    have htext : "\\u\x7b".toList ++ (Text.hex c.toNat).toList ++ "\x7d".toList ++ rest =
        '\\' :: 'u' :: ('\x7b' :: (Text.hex c.toNat).toList ++ ['\x7d'] ++ rest) := by
      simp
    rw [htext, afterQuoted?_escape (by decide) (by decide), afterQuoted?_append hplain]
  · rw [List.singleton_append, afterQuoted?_cons hquote hslash]

/-- A value in double quotes is closed by the quote behind it. -/
lemma afterQuoted?_quoted (s rest : List Char) :
    afterQuoted? '"' (s.flatMap Text.quoteChar ++ '"' :: rest) = some rest := by
  induction s with
  | nil => rw [List.flatMap_nil, List.nil_append, afterQuoted?_quote]
  | cons c s ih => rw [List.flatMap_cons, List.append_assoc, afterQuoted?_quoteChar, ih]

/-! ### Texts in a message -/

/-- A pass leaves the empty text empty. -/
@[simp]
lemma redactQuoted_nil (quote : Char) : redactQuoted quote [] = [] := by
  rw [redactQuoted]

/-- A pass leaves any character but the quote as it is. -/
lemma redactQuoted_cons (h : c ≠ quote) : redactQuoted quote (c :: cs) = c :: redactQuoted quote cs := by
  rw [redactQuoted, if_neg h]

/-- A pass leaves a text without quotes as it is, and goes on behind it. -/
lemma redactQuoted_append (h : quote ∉ front) :
    redactQuoted quote (front ++ rest) = front ++ redactQuoted quote rest := by
  induction front with
  | nil => rfl
  | cons c front ih =>
    obtain ⟨hc, hfront⟩ := not_or.1 (List.mem_cons.not.1 h)
    rw [List.cons_append, redactQuoted_cons (Ne.symm hc), ih hfront, List.cons_append]

/-- A pass leaves a text without quotes as it is. -/
lemma redactQuoted_eq_self (h : quote ∉ cs) : redactQuoted quote cs = cs := by
  have happend : redactQuoted quote (cs ++ []) = cs ++ redactQuoted quote [] := redactQuoted_append h
  rwa [redactQuoted_nil, List.append_nil] at happend

/-- At a quote, a pass goes by what follows the quote that closes. -/
lemma redactQuoted_open (quote : Char) (cs : List Char) :
    redactQuoted quote (quote :: cs) = match afterQuoted? quote cs with
      | some rest => quote :: (redacted ++ quote :: redactQuoted quote rest)
      | none => quote :: redactQuoted quote cs := by
  rw [redactQuoted, if_pos rfl]
  split <;> simp [*]

/-- A pass replaces the text behind a quote up to the quote that closes. -/
lemma redactQuoted_quote (h : afterQuoted? quote cs = some rest) :
    redactQuoted quote (quote :: cs) = quote :: (redacted ++ quote :: redactQuoted quote rest) := by
  rw [redactQuoted_open, h]

/-- A pass leaves a quote that nothing closes as it is. -/
lemma redactQuoted_lone (h : afterQuoted? quote cs = none) :
    redactQuoted quote (quote :: cs) = quote :: redactQuoted quote cs := by
  rw [redactQuoted_open, h]

end

/-- A text that has quotes of neither kind. -/
def Quoteless (cs : List Char) : Prop := ∀ c ∈ cs, c ≠ '"' ∧ c ≠ '\''

/-- Whether a text has no quotes is decided character by character. -/
instance (cs : List Char) : Decidable (Quoteless cs) := List.decidableBAll _ cs

section

variable {s t : List Char}

/-- A text without quotes behind another one has none. -/
lemma Quoteless.append (hs : Quoteless s) (ht : Quoteless t) : Quoteless (s ++ t) := by
  intro c hc
  rcases List.mem_append.1 hc with hc | hc
  · exact hs c hc
  · exact ht c hc

/-- A string without quotes behind another one has none. -/
lemma Quoteless.append_text {s t : String} (hs : Quoteless s.toList) (ht : Quoteless t.toList) :
    Quoteless (s ++ t).toList := by
  rw [String.toList_append]
  exact hs.append ht

/-- A text without quotes has no double ones. -/
lemma Quoteless.not_mem_double (h : Quoteless s) : '"' ∉ s := fun hmem => (h _ hmem).1 rfl

/-- A text without quotes has no single ones. -/
lemma Quoteless.not_mem_single (h : Quoteless s) : '\'' ∉ s := fun hmem => (h _ hmem).2 rfl

end

/-- A message without quotes is left as it is. -/
lemma redact_eq_self {s : String} (h : Quoteless s.toList) : redact s = s := by
  rw [redact, redactQuoted_eq_self h.not_mem_double, redactQuoted_eq_self h.not_mem_single, String.ofList_toList]

/-! ### Values in a message -/

/-- A message that shows values: a text, and behind it each value in quotes with the text that follows. -/
structure Message where
  front : String
  shown : List (String × String)

namespace Message

/-- The texts around the values. -/
def texts (m : Message) : List String := m.front :: m.shown.map Prod.snd

/-- The message as a whole. -/
def text (m : Message) : String := m.front ++ String.join (m.shown.map fun (value, back) => Text.quoted value ++ back)

/-- A message with a value is the text in front of it, the value in quotes and the message behind it. -/
lemma text_cons (front value back : String) (shown : List (String × String)) :
    (text ⟨front, (value, back) :: shown⟩).toList =
      front.toList ++ '"' :: (value.toList.flatMap Text.quoteChar ++ '"' :: (text ⟨back, shown⟩).toList) := by
  simp [text, Text.quoted]

/-- Each value goes up to the quote that closes it, whatever it holds: only the texts around it are left. -/
lemma redactQuoted_text (m : Message) (h : ∀ t ∈ m.texts, '"' ∉ t.toList) :
    redactQuoted '"' m.text.toList = ("\"<redacted>\"".intercalate m.texts).toList := by
  have hshown : "\"<redacted>\"".toList = '"' :: (redacted ++ ['"']) := by decide
  obtain ⟨front, shown⟩ := m
  induction shown generalizing front with
  | nil =>
    have hfront : '"' ∉ front.toList := h front List.mem_cons_self
    simpa [text, texts] using redactQuoted_eq_self hfront
  | cons pair shown ih =>
    obtain ⟨value, back⟩ := pair
    obtain ⟨hfront, hothers⟩ := List.forall_mem_cons.1 h
    have hback := ih back hothers
    rw [text_cons, redactQuoted_append hfront, redactQuoted_quote (afterQuoted?_quoted _ _), hback]
    simp only [texts, List.map_cons]
    rw [String.intercalate_cons_cons, String.toList_append, String.toList_append, hshown]
    simp

/-- The redacted message is the texts of the message with marks between them. -/
lemma redact_text {m : Message} (hdouble : ∀ t ∈ m.texts, '"' ∉ t.toList) (hsingle : ∀ t ∈ m.texts, '\'' ∉ t.toList) :
    redact m.text = "\"<redacted>\"".intercalate m.texts := by
  have hmask : '\'' ∉ "\"<redacted>\"".toList := by decide
  rw [redact, m.redactQuoted_text hdouble, redactQuoted_eq_self (Text.not_mem_intercalate hmask hsingle),
    String.ofList_toList]

end Message

/-- Nothing is left of a value in quotes. -/
lemma redact_quoted {front back : String} (hfront : Quoteless front.toList) (hback : Quoteless back.toList)
    (value : String) : redact (front ++ Text.quoted value ++ back) = front ++ "\"<redacted>\"" ++ back := by
  have htexts : ∀ t ∈ Message.texts ⟨front, [(value, back)]⟩, Quoteless t.toList :=
    List.forall_mem_cons.2 ⟨hfront, List.forall_mem_singleton.2 hback⟩
  have hredact := Message.redact_text (fun t ht => (htexts t ht).not_mem_double)
    (fun t ht => (htexts t ht).not_mem_single)
  simpa [Message.text, Message.texts, String.append_assoc] using hredact

end ClassStub.Settings
