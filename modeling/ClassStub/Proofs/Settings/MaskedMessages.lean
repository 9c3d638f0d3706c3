import ClassStub.Proofs.Settings.HiddenValues

/-!
# Messages that were redacted before

A text is `Masked` for a kind of quote when, from its start on, the pattern of a quoted text matches nothing in it but
marks. A redaction pass leaves such a text as it is, and every pass makes its text masked. The pass for single quotes
comes second. It can take out marks, double quotes and backslashes, but no new match comes up by that: where nothing
closed a double quote, nothing closes it afterwards (`afterQuoted?_redactQuoted`). For whether a backslash hides a
character depends on the backslashes right in front of the character, neither on where a match begins nor on what was
taken out further in front. So redacting a message again changes nothing.
-/

namespace ClassStub.Settings

/-- The kinds of quotes in messages. -/
inductive IsQuote : Char → Prop where
  | double : IsQuote '"'
  | single : IsQuote '\''

/-- From the start of the text on, quoted texts begin only at the marks of values. -/
inductive Masked (quote : Char) : List Char → Prop where
  | nil : Masked quote []
  | plain {c cs} :
    c ≠ quote →
    Masked quote cs →
    Masked quote (c :: cs)
  | lone {cs} :
    (quotedText quote).rests (quote :: cs) = [] →
    Masked quote cs →
    Masked quote (quote :: cs)
  | mark {cs} :
    Masked quote cs →
    Masked quote (quote :: (redacted ++ quote :: cs))

section

variable {quote other c : Char} {cs front rest : List Char}

/-- A quote is no backslash. -/
lemma IsQuote.ne_slash (h : IsQuote quote) : quote ≠ '\\' := by
  cases h <;> decide

/-- A quote does not end a line. -/
lemma IsQuote.ne_newline (h : IsQuote quote) : quote ≠ '\n' := by
  cases h <;> decide

/-- There are no quotes in what stands for a value. -/
lemma IsQuote.not_mem_redacted (h : IsQuote quote) : quote ∉ redacted := by
  cases h <;> decide

/-- There are no quotes of the other kind in a mark. -/
lemma IsQuote.not_mem_mark (h : IsQuote other) (hne : other ≠ quote) : other ∉ quote :: redacted ++ [quote] := by
  simp [hne, h.not_mem_redacted]

/-- Nothing matches at a quote exactly if nothing closes it. -/
lemma IsQuote.rests_eq_nil_iff (h : IsQuote quote) :
    (quotedText quote).rests (quote :: cs) = [] ↔ afterQuoted? quote cs = none := by
  rw [rests_quotedText_quote h.ne_slash, Option.toList_eq_nil_iff]

/-! ### Where nothing closes a quote -/

/-- What stands for a value closes no quote and hides none. -/
lemma IsQuote.afterQuoted?_redacted_append (h : IsQuote quote) (rest : List Char) :
    afterQuoted? quote (redacted ++ rest) = afterQuoted? quote rest := by
  have hslash : '\\' ∉ redacted := by decide
  exact afterQuoted?_append fun c hc => ⟨fun he => h.not_mem_redacted (he ▸ hc), fun he => hslash (he ▸ hc)⟩

/-- A backslash at the end of a line closes the search for a quote. -/
lemma IsQuote.afterQuoted?_line (h : IsQuote quote) (cs : List Char) :
    afterQuoted? quote ('\\' :: '\n' :: cs) = none := by
  rw [afterQuoted?.eq_def]
  exact (if_neg h.ne_slash.symm).trans ((if_pos rfl).trans (if_pos rfl))

/-- Unless it is a backslash, a character can be left out in front of a text that closes no quote. -/
lemma afterQuoted?_eq_none_of_cons (h : afterQuoted? quote (c :: cs) = none) (hslash : c ≠ '\\') :
    c ≠ quote ∧ afterQuoted? quote cs = none := by
  have hc : c ≠ quote := by
    rintro rfl
    rw [afterQuoted?_quote] at h
    cases h
  exact ⟨hc, afterQuoted?_cons hc hslash ▸ h⟩

/-- Where nothing closes a quote, nothing does behind a text in quotes of another kind. -/
lemma afterQuoted?_eq_none_of_some (hother : IsQuote other) (hquote : IsQuote quote)
    (h : afterQuoted? quote cs = none) (hrest : afterQuoted? other cs = some rest) : afterQuoted? quote rest = none := by
  -- Both kinds read the same backslashes, so behind each character they hide the same characters.
  fun_induction afterQuoted? other cs with
  | case1 => cases hrest
  | case2 cs =>
    cases hrest
    exact (afterQuoted?_eq_none_of_cons h hother.ne_slash).2
  | case3 => cases hrest
  | case4 => cases hrest
  | case5 d cs hd _ ih =>
    rw [afterQuoted?_escape hquote.ne_slash hd] at h
    exact ih h hrest
  | case6 c cs _ hslash ih => exact ih (afterQuoted?_eq_none_of_cons h hslash).2 hrest

/-! ### Passes over a text -/

/-- A pass keeps the first character, and nothing closes a quote behind it if that holds of every shorter text. -/
lemma exists_redactQuoted_cons (hother : IsQuote other) (hquote : IsQuote quote) (h : afterQuoted? quote cs = none)
    (hshorter : ∀ ds : List Char, ds.length ≤ cs.length → afterQuoted? quote ds = none →
      afterQuoted? quote (redactQuoted other ds) = none) :
    ∃ ds, redactQuoted other (c :: cs) = c :: ds ∧ afterQuoted? quote ds = none := by
  by_cases hc : c = other
  · subst hc
    cases hrest : afterQuoted? c cs with
    | none => exact ⟨_, redactQuoted_lone hrest, hshorter cs (Nat.le_refl _) h⟩
    | some rest =>
      refine ⟨_, redactQuoted_quote hrest, ?_⟩
      have hne : c ≠ quote := by
        rintro rfl
        cases h.symm.trans hrest
      rw [hquote.afterQuoted?_redacted_append, afterQuoted?_cons hne hother.ne_slash]
      have hlt := length_afterQuoted? hrest
      exact hshorter rest (Nat.le_of_lt hlt) (afterQuoted?_eq_none_of_some hother hquote h hrest)
  · exact ⟨_, redactQuoted_cons hc, hshorter cs (Nat.le_refl _) h⟩

/-- Where nothing closes a quote, nothing does after a pass, for quotes of the same kind or of another one. -/
lemma afterQuoted?_redactQuoted (hother : IsQuote other) (hquote : IsQuote quote) (h : afterQuoted? quote cs = none) :
    afterQuoted? quote (redactQuoted other cs) = none := by
  induction hn : cs.length using Nat.strongRecOn generalizing cs with
  | _ n ih =>
    subst hn
    have hshorter (ds : List Char) (hds : ds.length < cs.length) (hnone : afterQuoted? quote ds = none) :
        afterQuoted? quote (redactQuoted other ds) = none := ih ds.length hds hnone rfl
    cases cs with
    | nil => rwa [redactQuoted_nil]
    | cons c cs =>
      by_cases hslash : c = '\\'
      · -- The pass leaves a backslash and the character that it hides, where a quoted text can begin.
        subst hslash
        rw [redactQuoted_cons hother.ne_slash.symm]
        cases cs with
        | nil => rwa [redactQuoted_nil]
        | cons d cs =>
          by_cases hd : d = '\n'
          · subst hd
            rw [redactQuoted_cons hother.ne_newline.symm, hquote.afterQuoted?_line]
          · rw [afterQuoted?_escape hquote.ne_slash hd] at h
            obtain ⟨ds, hds, hnone⟩ := exists_redactQuoted_cons (c := d) hother hquote h
              fun ds hlen => hshorter ds (by simp only [List.length_cons]; omega)
            rwa [hds, afterQuoted?_escape hquote.ne_slash hd]
      · obtain ⟨hc, hcs⟩ := afterQuoted?_eq_none_of_cons h hslash
        obtain ⟨ds, hds, hnone⟩ := exists_redactQuoted_cons (c := c) hother hquote hcs
          fun ds hlen => hshorter ds (Nat.lt_succ_of_le hlen)
        rwa [hds, afterQuoted?_cons hc hslash]

/-- A pass leaves nothing but marks in quotes of its kind. -/
lemma masked_redactQuoted (hquote : IsQuote quote) (cs : List Char) : Masked quote (redactQuoted quote cs) := by
  fun_induction redactQuoted quote cs with
  | case1 => exact .nil
  | case2 cs rest _ _ ih => exact .mark ih
  | case3 cs h ih => exact .lone (hquote.rests_eq_nil_iff.2 (afterQuoted?_redactQuoted hquote hquote h)) ih
  | case4 c cs hc ih => exact .plain hc ih

/-- A pass has nothing to do in a masked text. -/
lemma Masked.redactQuoted_eq_self (hquote : IsQuote quote) (h : Masked quote cs) : redactQuoted quote cs = cs := by
  induction h with
  | nil => rw [redactQuoted_nil]
  | plain hc _ ih => rw [redactQuoted_cons hc, ih]
  | lone hnone _ ih => rw [redactQuoted_lone (hquote.rests_eq_nil_iff.1 hnone), ih]
  | @mark cs _ ih =>
    have hmark : afterQuoted? quote (redacted ++ quote :: cs) = some cs := by
      rw [hquote.afterQuoted?_redacted_append, afterQuoted?_quote]
    rw [redactQuoted_quote hmark, ih]

/-! ### Passes for the other kind of quotes -/

/-- A text without quotes in front of a masked one leaves it masked. -/
lemma Masked.append_of_not_mem (hfront : quote ∉ front) (h : Masked quote rest) : Masked quote (front ++ rest) := by
  induction front with
  | nil => exact h
  | cons c front ih =>
    obtain ⟨hc, hfront⟩ := not_or.1 (List.mem_cons.not.1 hfront)
    exact .plain (Ne.symm hc) (ih hfront)

/-- A place behind the first character of a text is a place in the rest. -/
lemma eq_or_exists_append_of_append_eq_cons (h : front ++ other :: rest = c :: cs) :
    rest = cs ∨ ∃ back, back ++ other :: rest = cs := by
  cases front with
  | nil => exact .inl (List.cons.inj h).2
  | cons d front => exact .inr ⟨front, (List.cons.inj h).2⟩

/-- A place behind the front of a text is a place in the rest, if the character does not stand in the front. -/
lemma exists_append_of_append_eq_append {before : List Char} (h : front ++ other :: rest = before ++ cs)
    (hbefore : other ∉ before) : ∃ back, back ++ other :: rest = cs := by
  induction before generalizing front with
  | nil => exact ⟨front, h⟩
  | cons d before ih =>
    obtain ⟨hd, hbefore⟩ := not_or.1 (List.mem_cons.not.1 hbefore)
    cases front with
    | nil => exact absurd (List.cons.inj h).1 hd
    | cons e front => exact ih (List.cons.inj h).2 hbefore

/-- A masked text can be cut behind a quote of another kind, since marks hold no quotes. -/
lemma Masked.of_append (hother : IsQuote other) (hne : other ≠ quote)
    (h : Masked quote (front ++ other :: rest)) : Masked quote rest := by
  generalize hcs : front ++ other :: rest = cs at h
  induction h generalizing front with
  | nil => simp at hcs
  | plain _ htail ih =>
    rcases eq_or_exists_append_of_append_eq_cons hcs with rfl | ⟨back, hback⟩
    · exact htail
    · exact ih hback
  | lone _ htail ih =>
    rcases eq_or_exists_append_of_append_eq_cons hcs with rfl | ⟨back, hback⟩
    · exact htail
    · exact ih hback
  | @mark cs _ ih =>
    have hmark : front ++ other :: rest = (quote :: redacted ++ [quote]) ++ cs := by simpa using hcs
    obtain ⟨back, hback⟩ := exists_append_of_append_eq_append hmark (hother.not_mem_mark hne)
    exact ih hback

/-- Where a quote is closed, the rest stands behind a quote. -/
lemma exists_append_of_afterQuoted? (h : afterQuoted? other cs = some rest) : ∃ front, cs = front ++ other :: rest := by
  fun_induction afterQuoted? other cs with
  | case1 => cases h
  | case2 cs =>
    cases h
    exact ⟨[], rfl⟩
  | case3 => cases h
  | case4 => cases h
  | case5 d cs _ _ ih =>
    obtain ⟨front, rfl⟩ := ih h
    exact ⟨'\\' :: d :: front, rfl⟩
  | case6 c cs _ _ ih =>
    obtain ⟨front, rfl⟩ := ih h
    exact ⟨c :: front, rfl⟩

/-- A pass for quotes of another kind keeps a text masked: it takes marks out as a whole, or not at all. -/
lemma Masked.redactQuoted (hother : IsQuote other) (hquote : IsQuote quote) (hne : other ≠ quote)
    (h : Masked quote cs) : Masked quote (redactQuoted other cs) := by
  induction hn : cs.length using Nat.strongRecOn generalizing cs with
  | _ n ih =>
    subst hn
    cases h with
    | nil =>
      rw [redactQuoted_nil]
      exact .nil
    | @plain c cs hc htail =>
      by_cases hopen : c = other
      · subst hopen
        cases hrest : afterQuoted? c cs with
        | none =>
          rw [redactQuoted_lone hrest]
          exact .plain hc (ih _ (by simp) htail rfl)
        | some rest =>
          obtain ⟨front, rfl⟩ := exists_append_of_afterQuoted? hrest
          have hlt : rest.length < (c :: (front ++ c :: rest)).length := by simp; omega
          rw [redactQuoted_quote hrest]
          simpa using (ih _ hlt (htail.of_append hother hne) rfl).append_of_not_mem (hquote.not_mem_mark hne.symm)
      · rw [redactQuoted_cons hopen]
        exact .plain hc (ih _ (by simp) htail rfl)
    | @lone cs hnone htail =>
      have hclosed := afterQuoted?_redactQuoted hother hquote (hquote.rests_eq_nil_iff.1 hnone)
      rw [redactQuoted_cons hne.symm]
      exact .lone (hquote.rests_eq_nil_iff.2 hclosed) (ih _ (by simp) htail rfl)
    | @mark cs htail =>
      have hkept : Settings.redactQuoted other ((quote :: redacted ++ [quote]) ++ cs) = _ :=
        redactQuoted_append (hother.not_mem_mark hne)
      simp only [List.cons_append, List.append_assoc, List.nil_append] at hkept
      rw [hkept]
      exact .mark (ih _ (by simp; omega) htail rfl)

end

/-- A redacted message is masked for both kinds of quotes. -/
lemma masked_redact (s : String) : Masked '"' (redact s).toList ∧ Masked '\'' (redact s).toList := by
  rw [redact, String.toList_ofList]
  exact ⟨(masked_redactQuoted .double _).redactQuoted .single .double (by decide), masked_redactQuoted .single _⟩

/-- A message that is masked for both kinds of quotes is redacted already. -/
lemma redact_eq_self_of_masked {s : String} (hdouble : Masked '"' s.toList) (hsingle : Masked '\'' s.toList) :
    redact s = s := by
  rw [redact, hdouble.redactQuoted_eq_self .double, hsingle.redactQuoted_eq_self .single, String.ofList_toList]

/-- Redaction leaves exactly the messages as they are in which the patterns of quoted texts match nothing but marks,
and a redacted message is one of these, so redacting it again changes nothing. -/
theorem redact_redact (s : String) :
    redact (redact s) = redact s ∧ (redact s = s ↔ Masked '"' s.toList ∧ Masked '\'' s.toList) := by
  refine ⟨redact_eq_self_of_masked (masked_redact s).1 (masked_redact s).2, ?_, ?_⟩
  · intro h
    exact h ▸ masked_redact s
  · intro h
    exact redact_eq_self_of_masked h.1 h.2

/-- Text in single quotes takes a mark out again, and the last quote has nothing to close it. -/
example : redact "it's \"a\" '\"b" = "it'<redacted>'\"b" := by cbv

end ClassStub.Settings
