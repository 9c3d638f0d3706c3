import Mathlib
import ClassStub.Proofs.Settings.Redaction
import ClassStub.Proofs.Settings.Sections
import ClassStub.Settings.Load

/-!
# What a message tells about a misfit

A document has a value of the wrong type in one place. It is not loaded whatever the value is, and the message is about
this value unless something is wrong before it. Texts are shown in quotes and taken out again, so that the message does
not depend on them. Numbers and truth values are shown between backticks, where nothing takes them out: two messages
are the same only if the values look the same.
-/

namespace ClassStub

/-! ### Values without parts -/

namespace Toml

/-- The types of values without parts. -/
inductive ScalarKind where
  | string
  | integer
  | float
  | boolean
  deriving DecidableEq

/-- The type of a value without parts. -/
def Value.scalarKind? : Value → Option ScalarKind
  | .string _ => some .string
  | .integer _ => some .integer
  | .float _ => some .float
  | .boolean _ => some .boolean
  | _ => none

/-- Two values of one type that are written alike. -/
def Value.LooksLike : Value → Value → Prop
  | .float x, .float y => x.display = y.display
  | v, w => v = w

end Toml

namespace Settings

open Toml (ScalarKind)

/-! ### What messages show -/

section

variable {v w : Toml.Value} {kind : ScalarKind}

/-- Digits are no quotes. -/
lemma quoteless_of_isDigit {cs : List Char} (h : ∀ c ∈ cs, c.isDigit = true) : Quoteless cs := by
  intro c hc
  have hdigit := h c hc
  constructor
  · rintro rfl
    exact absurd hdigit (by decide)
  · rintro rfl
    exact absurd hdigit (by decide)

/-- A number is written without quotes. -/
lemma quoteless_decimal (n : Nat) : Quoteless (Text.decimal n).toList :=
  quoteless_of_isDigit fun _ hc => Text.isDigit_of_mem_decimal hc

/-- A number with a sign is written without quotes. -/
lemma quoteless_signedDecimal (n : Int) : Quoteless (Text.signedDecimal n).toList := by
  cases n with
  | ofNat n => exact quoteless_decimal n
  | negSucc n =>
    have hminus : Quoteless "-".toList := by decide
    exact hminus.append_text (quoteless_decimal (n + 1))

/-- A number with a point is written without quotes. -/
lemma quoteless_positional (d : Decimal.Shortest) : Quoteless d.positional.toList := by
  have hdigits : ∀ c ∈ Nat.toDigits 10 d.digits, c.isDigit = true :=
    fun c hc => Nat.isDigit_of_mem_toDigits (by decide) (by decide) hc
  have hzeros : ∀ (k : Nat), ∀ c ∈ List.replicate k '0', c.isDigit = true := by
    intro k c hc
    rw [List.eq_of_mem_replicate hc]
    decide
  rw [Decimal.Shortest.positional]
  cases d.exponent with
  | ofNat k =>
    have hend : Quoteless ".0".toList := by decide
    refine Quoteless.append_text ?_ hend
    rw [String.toList_ofList]
    refine Quoteless.append (quoteless_of_isDigit hdigits) ?_
    split
    · exact nofun
    · exact quoteless_of_isDigit (hzeros k)
  | negSucc k =>
    dsimp only
    rw [String.toList_ofList]
    have hpadded : ∀ c ∈ List.replicate (k + 1 + 1 - (Nat.toDigits 10 d.digits).length) '0' ++
        Nat.toDigits 10 d.digits, c.isDigit = true := by
      intro c hc
      rcases List.mem_append.1 hc with hc | hc
      · exact hzeros _ c hc
      · exact hdigits c hc
    have hpoint : Quoteless ['.'] := by decide
    refine Quoteless.append (quoteless_of_isDigit fun c hc => hpadded c (List.mem_of_mem_take hc)) ?_
    rw [← List.singleton_append]
    exact hpoint.append (quoteless_of_isDigit fun c hc => hpadded c (List.mem_of_mem_drop hc))

/-- A floating-point number is shown without quotes. -/
lemma quoteless_display (x : Toml.Number) : Quoteless x.display.toList := by
  cases x with
  | finite negative value =>
    refine Quoteless.append_text ?_ (quoteless_positional _)
    cases negative <;> decide
  | infinite negative => cases negative <;> decide
  | undefined => decide

/-- What stands between backticks has no quotes around it or in it. -/
lemma quoteless_describe (h : v.scalarKind? = some kind) (hkind : kind ≠ .string) : Quoteless (describe v).toList := by
  have htick : Quoteless "`".toList := by decide
  cases v with
  | string s =>
    cases h
    contradiction
  | integer n =>
    have hfront : Quoteless "integer `".toList := by decide
    exact (hfront.append_text (quoteless_signedDecimal n)).append_text htick
  | float x =>
    have hfront : Quoteless "floating point `".toList := by decide
    exact (hfront.append_text (quoteless_display x)).append_text htick
  | boolean b => cases b <;> decide
  | datetime => cases h
  | array items => cases h
  | table origin entries => cases h
  | tables items => cases h

/-- What a message shows of a number or truth value tells it from others. -/
lemma describe_eq_iff (hv : v.scalarKind? = some kind) (hw : w.scalarKind? = some kind) (hkind : kind ≠ .string) :
    describe v = describe w ↔ v.LooksLike w := by
  have hticks : ∀ front s t : String, front ++ s ++ "`" = front ++ t ++ "`" ↔ s = t := by
    intro front s t
    rw [String.append_left_inj, String.append_right_inj]
  cases v with
  | string s =>
    cases hv
    contradiction
  | integer m =>
    cases hv
    cases w with
    | integer n =>
      refine (hticks _ _ _).trans (Text.signedDecimal_injective.eq_iff.trans ?_)
      exact (Toml.Value.integer.injEq m n).symm.to_iff
    | _ => cases hw
  | float x =>
    cases hv
    cases w with
    | float y => exact hticks _ _ _
    | _ => cases hw
  | boolean b =>
    cases hv
    cases w with
    | boolean c =>
      refine (hticks _ _ _).trans ?_
      cases b <;> cases c <;> simp [Toml.Value.LooksLike]
    | _ => cases hw
  | datetime => cases hv
  | array items => cases hv
  | table origin entries => cases hv
  | tables items => cases hv

/-- What is expected is called by words without quotes. -/
lemma quoteless_label (expected : Expected) : Quoteless (", expected " ++ expected.label).toList := by
  cases expected <;> decide

/-- The message about a value of the wrong type, with quoted texts taken out. -/
lemma redact_message (h : v.scalarKind? = some kind) (expected : Expected) :
    redact (Misfit.type v expected).message =
      "invalid type: " ++ (if kind = .string then "string \"<redacted>\"" else describe v) ++
        (", expected " ++ expected.label) := by
  have hback := quoteless_label expected
  have hmessage : (Misfit.type v expected).message =
      "invalid type: " ++ describe v ++ (", expected " ++ expected.label) := String.append_assoc
  rw [hmessage]
  split
  · rename_i hstring
    subst hstring
    cases v with
    | string s =>
      have hfront : Quoteless "invalid type: string ".toList := by decide
      exact redact_quoted hfront hback s
    | _ => cases h
  · rename_i hstring
    have hfront : Quoteless "invalid type: ".toList := by decide
    exact redact_eq_self ((hfront.append_text (quoteless_describe h hstring)).append_text hback)

/-- Two messages about values of one type are the same exactly if the values are texts, or look the same. -/
lemma message_eq_iff (hv : v.scalarKind? = some kind) (hw : w.scalarKind? = some kind) (expected : Expected) :
    (TextError.misfit (.type v expected)).message = (TextError.misfit (.type w expected)).message ↔
      kind = .string ∨ v.LooksLike w := by
  have hcancel : ∀ a b c s t : String, a ++ (b ++ s ++ c) = a ++ (b ++ t ++ c) ↔ s = t := by
    intro a b c s t
    rw [String.append_right_inj, String.append_left_inj, String.append_right_inj]
  have hmessage : ∀ misfit : Misfit,
      (TextError.misfit misfit).message = "failed to parse toml config: " ++ redact misfit.message := fun _ => rfl
  rw [hmessage, hmessage, redact_message hv, redact_message hw]
  refine (hcancel _ _ _ _ _).trans ?_
  by_cases hkind : kind = .string
  · rw [if_pos hkind, if_pos hkind]
    exact iff_of_true rfl (.inl hkind)
  · rw [if_neg hkind, if_neg hkind, or_iff_right hkind]
    exact describe_eq_iff hv hw hkind

end

/-! ### Values of the wrong type -/

/-- A setting can have values of a type. -/
def Expected.takes : Expected → ScalarKind → Bool
  | .boolean, .boolean | .string, .string | .path, .string | .size, .integer => true
  | _, _ => false

/-- What the settings of logging want. -/
def logWants : List (String × Expected) :=
  [("level", .string), ("json", .boolean), ("stderr", .boolean), ("file", .path), ("buffer_lines", .size)]

/-- What the settings of stubs want. -/
def stubWants : List (String × Expected) := [("include_nested", .boolean), ("exclude", .sequence)]

/-- What a setting of a section wants. -/
inductive Wants : String → String → Expected → Prop where
  | logging {key expected} : (key, expected) ∈ logWants → Wants logSection key expected
  | stubs {key expected} : (key, expected) ∈ stubWants → Wants stubSection key expected

/-- The setting of a name takes no values like this one. -/
def Refuses {σ : Type} (fields : List (Field σ)) (key : String) (v : Toml.Value) (expected : Expected) : Prop :=
  ∃ field, (fields.find? fun f => f.name == key) = some field ∧ ∀ s, field.apply v s = .error (.type v expected)

section

variable {v : Toml.Value} {kind : ScalarKind} {expected : Expected} {key : String}

/-- A truth value is not read from a value of another type. -/
lemma readBool_eq_error (h : v.scalarKind? = some kind) (hne : Expected.boolean.takes kind = false) :
    readBool v = .error (.type v .boolean) := by
  cases v with
  | boolean b =>
    cases h
    cases hne
  | _ => rfl

/-- A text is not read from a value of another type. -/
lemma readText_eq_error (h : v.scalarKind? = some kind) (hne : Expected.string.takes kind = false) :
    readText v = .error (.type v .string) := by
  cases v with
  | string s =>
    cases h
    cases hne
  | _ => rfl

/-- A path is not read from a value of another type. -/
lemma readPath_eq_error (h : v.scalarKind? = some kind) (hne : Expected.path.takes kind = false) :
    readPath v = .error (.type v .path) := by
  cases v with
  | string s =>
    cases h
    cases hne
  | _ => rfl

/-- A size is not read from a value of another type. -/
lemma readSize_eq_error (h : v.scalarKind? = some kind) (hne : Expected.size.takes kind = false) :
    readSize v = .error (.type v .size) := by
  cases v with
  | integer n =>
    cases h
    cases hne
  | _ => rfl

/-- A list is not read from a value without parts. -/
lemma readTexts_eq_error (h : v.scalarKind? = some kind) : readTexts v = .error (.type v .sequence) := by
  cases v with
  | array items => cases h
  | tables items => cases h
  | _ => rfl

/-- The settings of logging refuse values of types that they do not want. -/
lemma refuses_logFields (hwants : (key, expected) ∈ logWants) (h : v.scalarKind? = some kind)
    (hne : expected.takes kind = false) : Refuses logFields key v expected := by
  simp only [logWants, List.mem_cons, Prod.mk.injEq, List.not_mem_nil, or_false] at hwants
  rcases hwants with ⟨rfl, rfl⟩ | ⟨rfl, rfl⟩ | ⟨rfl, rfl⟩ | ⟨rfl, rfl⟩ | ⟨rfl, rfl⟩
  · exact ⟨_, rfl, fun _ => bind_of_eq_error (readText_eq_error h hne)⟩
  · exact ⟨_, rfl, fun _ => bind_of_eq_error (readBool_eq_error h hne)⟩
  · exact ⟨_, rfl, fun _ => bind_of_eq_error (readBool_eq_error h hne)⟩
  · exact ⟨_, rfl, fun _ => bind_of_eq_error (readPath_eq_error h hne)⟩
  · exact ⟨_, rfl, fun _ => bind_of_eq_error (readSize_eq_error h hne)⟩

/-- The settings of stubs refuse values of types that they do not want. -/
lemma refuses_stubFields (hwants : (key, expected) ∈ stubWants) (h : v.scalarKind? = some kind)
    (hne : expected.takes kind = false) : Refuses stubFields key v expected := by
  simp only [stubWants, List.mem_cons, Prod.mk.injEq, List.not_mem_nil, or_false] at hwants
  rcases hwants with ⟨rfl, rfl⟩ | ⟨rfl, rfl⟩
  · exact ⟨_, rfl, fun _ => bind_of_eq_error (readBool_eq_error h hne)⟩
  · exact ⟨_, rfl, fun _ => bind_of_eq_error (readTexts_eq_error h)⟩

end

/-! ### Documents with a place for a value -/

/-- A document without the value of one key in one of its tables. -/
structure Slot where
  front : Toml.Entries
  part : String
  origin : Toml.Origin
  before : Toml.Entries
  key : String
  after : Toml.Entries
  back : Toml.Entries

/-- The document with a value in the place. -/
def Slot.fill (slot : Slot) (v : Toml.Value) : Toml.Entries :=
  slot.front ++ (slot.part, .table slot.origin (slot.before ++ (slot.key, v) :: slot.after)) :: slot.back

/-- What is read before the value. -/
def Slot.earlier (slot : Slot) : Toml.Entries := slot.front ++ [(slot.part, .table slot.origin slot.before)]

section

variable {v : Toml.Value} {kind : ScalarKind} {expected : Expected}

/-- A section is read up to the value that its setting does not want. -/
lemma readEntry_of_wants {part key : String} (hwants : Wants part key expected) (h : v.scalarKind? = some kind)
    (hne : expected.takes kind = false) (state : Settings × List String) (origin : Toml.Origin)
    (before after : Toml.Entries) :
    readEntry state (part, .table origin (before ++ (key, v) :: after)) =
      readEntry state (part, .table origin before) >>= fun _ => .error (.type v expected) := by
  cases hwants with
  | logging hmem =>
    obtain ⟨field, hfield, happly⟩ := refuses_logFields hmem h hne
    rw [readEntry_logging, readEntry_logging, readSection_of_refuses hfield happly, bind_assoc, bind_assoc]
    rfl
  | stubs hmem =>
    obtain ⟨field, hfield, happly⟩ := refuses_stubFields hmem h hne
    rw [readEntry_stubs, readEntry_stubs, readSection_of_refuses hfield happly, bind_assoc, bind_assoc]
    rfl

/-- A document is read up to the value that is refused. -/
lemma ofEntries_fill (slot : Slot) (hwants : Wants slot.part slot.key expected) (h : v.scalarKind? = some kind)
    (hne : expected.takes kind = false) :
    ofEntries (slot.fill v) = ofEntries slot.earlier >>= fun _ => .error (.type v expected) := by
  rw [ofEntries, ofEntries, Slot.fill, Slot.earlier, List.foldlM_append, List.foldlM_append, bind_assoc]
  refine congrArg _ (funext fun state => ?_)
  rw [List.foldlM_cons, List.foldlM_cons, readEntry_of_wants hwants h hne, bind_assoc, bind_assoc]
  rfl

/-- A text with a value that its setting does not want has the misfit of that value, unless there is one before it. -/
lemma ofText_fill {text : String} {slot : Slot} (hparse : Toml.parse? text = some (slot.fill v))
    (hwants : Wants slot.part slot.key expected) (h : v.scalarKind? = some kind)
    (hne : expected.takes kind = false) :
    (∃ misfit, ofEntries slot.earlier = .error misfit ∧ ofText text = .error (.misfit misfit)) ∨
      (∃ found, ofEntries slot.earlier = .ok found) ∧ ofText text = .error (.misfit (.type v expected)) := by
  have hfill := ofEntries_fill slot hwants h hne
  cases hearlier : ofEntries slot.earlier with
  | error misfit =>
    rw [hearlier] at hfill
    refine .inl ⟨misfit, rfl, ?_⟩
    rw [ofText, hparse]
    dsimp only
    rw [hfill]
    rfl
  | ok found =>
    rw [hearlier] at hfill
    refine .inr ⟨⟨found, rfl⟩, ?_⟩
    rw [ofText, hparse]
    dsimp only
    rw [hfill]
    rfl

end

/--
Two texts that have values of one wrong type in the same place both give no settings. The messages are the same
exactly if something is wrong before the value, or the values are texts, or they look the same.
-/
theorem misfit_messages_eq_iff {text₁ text₂ : String} {slot : Slot} {v₁ v₂ : Toml.Value} {kind : ScalarKind}
    {expected : Expected} (h₁ : Toml.parse? text₁ = some (slot.fill v₁))
    (h₂ : Toml.parse? text₂ = some (slot.fill v₂)) (hkind₁ : v₁.scalarKind? = some kind)
    (hkind₂ : v₂.scalarKind? = some kind) (hwants : Wants slot.part slot.key expected)
    (hne : expected.takes kind = false) :
    ∃ error₁ error₂, ofText text₁ = .error error₁ ∧ ofText text₂ = .error error₂ ∧
      (error₁.message = error₂.message ↔
        (∃ misfit, ofEntries slot.earlier = .error misfit) ∨ kind = .string ∨ v₁.LooksLike v₂) := by
  rcases ofText_fill h₁ hwants hkind₁ hne with ⟨misfit, hearlier, htext₁⟩ | ⟨⟨found, hearlier⟩, htext₁⟩
  · rcases ofText_fill h₂ hwants hkind₂ hne with ⟨misfit', hearlier', htext₂⟩ | ⟨⟨found, hearlier'⟩, -⟩
    · cases hearlier.symm.trans hearlier'
      exact ⟨_, _, htext₁, htext₂, iff_of_true rfl (.inl ⟨misfit, hearlier⟩)⟩
    · cases hearlier.symm.trans hearlier'
  · rcases ofText_fill h₂ hwants hkind₂ hne with ⟨misfit, hearlier', -⟩ | ⟨-, htext₂⟩
    · cases hearlier.symm.trans hearlier'
    · refine ⟨_, _, htext₁, htext₂, ?_⟩
      have hearly : ¬ ∃ misfit, ofEntries slot.earlier = .error misfit := by
        rintro ⟨misfit, hmisfit⟩
        cases hearlier.symm.trans hmisfit
      rw [or_iff_right hearly]
      exact message_eq_iff hkind₁ hkind₂ expected

/-- A number in the place of a text is in the message. -/
theorem number_for_level_in_message :
    (∃ error, ofText "[logging]\nlevel = 42\n" = .error error ∧
      error.message = "failed to parse toml config: invalid type: integer `42`, expected a string") ∧
    ∃ error, ofText "[logging]\nlevel = 43\n" = .error error ∧
      error.message = "failed to parse toml config: invalid type: integer `43`, expected a string" := by
  have hmessage : ∀ n : Int, (TextError.misfit (.type (.integer n) .string)).message =
      "failed to parse toml config: " ++
        ("invalid type: " ++ describe (.integer n) ++ (", expected " ++ Expected.string.label)) := by
    intro n
    exact congrArg ("failed to parse toml config: " ++ ·) (redact_message (v := .integer n) rfl .string)
  refine ⟨⟨.misfit (.type (.integer 42) .string), by cbv, ?_⟩, .misfit (.type (.integer 43) .string), by cbv, ?_⟩
  · rw [hmessage]
    decide
  · rw [hmessage]
    decide

/-- Two numbers in place of a text show in the messages, two texts in place of a truth value do not. -/
theorem messages_about_numbers_and_texts :
    (∃ error₁ error₂, ofText "[logging]\nlevel = 42\n" = .error error₁ ∧
      ofText "[logging]\nlevel = 43\n" = .error error₂ ∧ error₁.message ≠ error₂.message) ∧
    ∃ error₁ error₂, ofText "[logging]\njson = 'a'\n" = .error error₁ ∧
      ofText "[logging]\njson = 'b\"c'\n" = .error error₂ ∧ error₁.message = error₂.message := by
  constructor
  · have h₁ : Toml.parse? "[logging]\nlevel = 42\n" =
        some (Slot.fill ⟨[], logSection, .header, [], "level", [], []⟩ (.integer 42)) := by cbv
    have h₂ : Toml.parse? "[logging]\nlevel = 43\n" =
        some (Slot.fill ⟨[], logSection, .header, [], "level", [], []⟩ (.integer 43)) := by cbv
    have hwants : Wants logSection "level" .string := .logging (by decide)
    obtain ⟨error₁, error₂, htext₁, htext₂, hiff⟩ :=
      misfit_messages_eq_iff h₁ h₂ rfl rfl hwants rfl
    refine ⟨error₁, error₂, htext₁, htext₂, ?_⟩
    intro heq
    rcases hiff.1 heq with ⟨misfit, hmisfit⟩ | hstring | hlooks
    · cases hmisfit
    · cases hstring
    · cases hlooks
  · have h₁ : Toml.parse? "[logging]\njson = 'a'\n" =
        some (Slot.fill ⟨[], logSection, .header, [], "json", [], []⟩ (.string "a")) := by cbv
    have h₂ : Toml.parse? "[logging]\njson = 'b\"c'\n" =
        some (Slot.fill ⟨[], logSection, .header, [], "json", [], []⟩ (.string "b\"c")) := by cbv
    have hwants : Wants logSection "json" .boolean := .logging (by decide)
    obtain ⟨error₁, error₂, htext₁, htext₂, hiff⟩ :=
      misfit_messages_eq_iff h₁ h₂ rfl rfl hwants rfl
    exact ⟨error₁, error₂, htext₁, htext₂, hiff.2 (.inr (.inl rfl))⟩

end Settings

end ClassStub
