import AnnotatedSql.Json.Value
import AnnotatedSql.Proofs.Json.Spelling

/-!
# Well-formed JSON values

The grammar of JSON: numbers, strings, and containers of values to any depth.  A value that is not kept is passed
over without being built, with the open containers on a stack; what is passed over is the value and nothing else.

* `Numeral.read_append`: a number is read to its end;
* `skipString_append`: so is a string;
* `skipValue_append`: and so is a value.
-/

namespace AnnotatedSql.Json

/-- What may stand between the parts of a text: spaces, tabs, line feeds and carriage returns. -/
def IsPadding (text : List Char) : Prop := ∀ c ∈ text, c ∈ [' ', '\t', '\n', '\r']

/-- A value ends in front of the text: nothing follows, or a gap, a comma or a closing bracket. -/
def EndsValue (text : List Char) : Prop := ∀ c ∈ text.head?, c ∈ [' ', '\t', '\n', '\r', ',', ']', '}']

instance (text : List Char) : Decidable (IsPadding text) := List.decidableBAll _ text

theorem isPadding_nil : IsPadding [] := fun _ h => absurd h List.not_mem_nil

theorem IsPadding.isGap {pad : List Char} (h : IsPadding pad) : ∀ c ∈ pad, isGap c = true := by
  intro c hc
  have := h c hc
  simp only [List.mem_cons, List.not_mem_nil, or_false] at this
  rcases this with rfl | rfl | rfl | rfl <;> rfl

theorem skipGap_append {pad : List Char} (h : IsPadding pad) (text : List Char) :
    skipGap (pad ++ text) = skipGap text :=
  List.dropWhile_append_of_pos h.isGap

theorem skipGap_cons {c : Char} (h : isGap c = false) (text : List Char) : skipGap (c :: text) = c :: text :=
  List.dropWhile_cons_of_neg (by simp [h])

theorem endsValue_append {pad text : List Char} (h : IsPadding pad) (he : EndsValue text) :
    EndsValue (pad ++ text) := by
  cases pad with
  | nil => exact he
  | cons c pad =>
    intro d hd
    cases hd
    exact List.mem_append_left [',', ']', '}'] (h c (by simp))

theorem endsValue_cons {c : Char} (h : c ∈ [',', ']', '}']) (text : List Char) : EndsValue (c :: text) := by
  intro d hd
  cases hd
  exact List.mem_append_right [' ', '\t', '\n', '\r'] h

/-! ### Numbers -/

def IsDigits (text : List Char) : Prop := text ≠ [] ∧ ∀ c ∈ text, c.isDigit = true

/-- Digits without a leading zero. -/
def IsWhole (text : List Char) : Prop := IsDigits text ∧ (text.head? = some '0' → text = ['0'])

instance (text : List Char) : Decidable (IsDigits text) :=
  @instDecidableAnd _ _ inferInstance (List.decidableBAll _ text)

instance (text : List Char) : Decidable (IsWhole text) := inferInstanceAs (Decidable (_ ∧ _))

inductive IsFraction : List Char → Prop
  | none : IsFraction []
  | some {digits : List Char} : IsDigits digits → IsFraction ('.' :: digits)

inductive IsExponent : List Char → Prop
  | none : IsExponent []
  | some {e : Char} {sign digits : List Char} : e = 'e' ∨ e = 'E' → sign = [] ∨ sign = ['+'] ∨ sign = ['-'] →
      IsDigits digits → IsExponent (e :: (sign ++ digits))

inductive IsNumber : List Char → Prop
  | mk {sign whole fraction exponent : List Char} : sign = [] ∨ sign = ['-'] → IsWhole whole →
      IsFraction fraction → IsExponent exponent → IsNumber (sign ++ (whole ++ (fraction ++ exponent)))

namespace Numeral

/-- A run of digits ends in front of the text. -/
def EndsDigits (text : List Char) : Prop := ∀ c ∈ text.head?, c.isDigit = false

/-- A number ends in front of the text: none of its parts goes on there. -/
def EndsNumber (text : List Char) : Prop := ∀ c ∈ text.head?, c.isDigit = false ∧ c ≠ '.' ∧ c ≠ 'e' ∧ c ≠ 'E'

theorem endsNumber_of_endsValue {text : List Char} (h : EndsValue text) : EndsNumber text := by
  intro c hc
  have := h c hc
  simp only [List.mem_cons, List.not_mem_nil, or_false] at this
  rcases this with rfl | rfl | rfl | rfl | rfl | rfl | rfl <;> decide

theorem EndsNumber.endsDigits {text : List Char} (h : EndsNumber text) : EndsDigits text := fun c hc => (h c hc).1

theorem readDigits_append {digits text : List Char} (h : IsDigits digits) (he : EndsDigits text) (atEnd : Cause) :
    readDigits atEnd (digits ++ text) = .ok (digits, text) := by
  have stops : text.takeWhile Char.isDigit = [] ∧ text.dropWhile Char.isDigit = text := by
    cases text with
    | nil => exact ⟨rfl, rfl⟩
    | cons c text => simp [he c rfl]
  rw [readDigits, List.takeWhile_append_of_pos h.2, List.dropWhile_append_of_pos h.2, stops.1, stops.2,
    List.append_nil]
  split
  · exact absurd rfl h.1
  · rfl

theorem readWhole_append {whole text : List Char} (h : IsWhole whole) (he : EndsDigits text) (atEnd : Cause) :
    readWhole atEnd (whole ++ text) = .ok (whole, text) := by
  have single : ¬(whole.head? = some '0' ∧ whole.length ≠ 1) := by
    rintro ⟨zero, long⟩
    rw [h.2 zero] at long
    exact long rfl
  simp only [readWhole, readDigits_append h.1 he, bind, Except.bind, if_neg single]

theorem readFraction_append {fraction text : List Char} (h : IsFraction fraction) (he : EndsDigits text)
    (point : ∀ c ∈ text.head?, c ≠ '.') (atEnd : Cause) :
    ∃ digits, readFraction atEnd (fraction ++ text) = .ok (digits, text) := by
  cases h with
  | @some digits h => exact ⟨digits, readDigits_append h he atEnd⟩
  | none =>
    refine ⟨[], ?_⟩
    rw [List.nil_append]
    unfold readFraction
    split
    · exact absurd rfl (point _ rfl)
    · rfl

theorem readExponent?_append {exponent text : List Char} (h : IsExponent exponent) (he : EndsNumber text)
    (atEnd : Cause) : ∃ exponent?, readExponent? atEnd (exponent ++ text) = .ok (exponent?, text) := by
  cases h with
  | none =>
    refine ⟨Option.none, ?_⟩
    cases text with
    | nil => rfl
    | cons c text =>
      obtain ⟨-, -, lower, upper⟩ := he c rfl
      simp [readExponent?, lower, upper]
  | @some e sign digits he' hs hd =>
    have read := readDigits_append hd he.endsDigits atEnd
    -- without a sign the digits stand first, and a digit is no sign
    have unsigned : readSign (digits ++ text) = (false, digits ++ text) := by
      obtain ⟨hne, hd⟩ := hd
      cases digits with
      | nil => exact absurd rfl hne
      | cons d digits =>
        have : d.isDigit = true := hd d (by simp)
        unfold readSign
        split
        · rename_i e; cases e; exact absurd this (by decide)
        · rename_i e; cases e; exact absurd this (by decide)
        · rfl
    rcases hs with rfl | rfl | rfl
    · exact ⟨_, by simp only [readExponent?, List.cons_append, List.nil_append, if_pos he', unsigned, read]; rfl⟩
    · exact ⟨_, by simp only [readExponent?, List.cons_append, List.nil_append, if_pos he', readSign, read]; rfl⟩
    · exact ⟨_, by simp only [readExponent?, List.cons_append, List.nil_append, if_pos he', readSign, read]; rfl⟩

/-- A number is read up to where it ends. -/
theorem read_append {number text : List Char} (h : IsNumber number) (he : EndsNumber text) (atEnd : Cause) :
    ∃ n, read atEnd (number ++ text) = .ok (n, text) := by
  obtain ⟨hs, hw, hf, hx⟩ := h
  rename_i sign whole fraction exponent
  have behindFraction : ∀ c ∈ (exponent ++ text).head?, c.isDigit = false ∧ c ≠ '.' := by
    cases hx with
    | none => exact fun c hc => ⟨(he c hc).1, (he c hc).2.1⟩
    | some he' =>
      intro c hc
      cases hc
      rcases he' with rfl | rfl <;> decide
  have behindWhole : EndsDigits (fraction ++ (exponent ++ text)) := by
    cases hf with
    | none => exact fun c hc => (behindFraction c hc).1
    | some =>
      intro c hc
      cases hc
      rfl
  have wholeRead := readWhole_append hw behindWhole atEnd
  obtain ⟨digits, fractionRead⟩ :=
    readFraction_append hf (fun c hc => (behindFraction c hc).1) (fun c hc => (behindFraction c hc).2) atEnd
  obtain ⟨exponent?, exponentRead⟩ := readExponent?_append hx he atEnd
  have unsigned : (whole ++ (fraction ++ (exponent ++ text))).head? ≠ some '-' := by
    obtain ⟨⟨hne, hd⟩, -⟩ := hw
    cases whole with
    | nil => exact absurd rfl hne
    | cons d whole =>
      intro e
      cases e
      exact absurd (hd '-' (by simp)) (by decide)
  simp only [List.append_assoc]
  rcases hs with rfl | rfl
  · refine ⟨⟨false, whole, digits, exponent?⟩, ?_⟩
    simp only [read, List.nil_append, unsigned, if_false, wholeRead, fractionRead, exponentRead, bind, Except.bind]
    rfl
  · refine ⟨⟨true, whole, digits, exponent?⟩, ?_⟩
    simp only [read, List.cons_append, List.nil_append, List.head?_cons, if_true, List.tail_cons, wholeRead,
      fractionRead, exponentRead, bind, Except.bind]
    rfl

end Numeral

/-! ### Strings -/

/-- A character or an escape between the quotes of a string.  Halves of surrogate pairs may stand alone. -/
inductive IsStringPiece : List Char → Prop
  | raw {c : Char} : c ≠ '"' → c ≠ '\\' → 0x20 ≤ c.toNat → IsStringPiece [c]
  | letter {c letter : Char} : (letter, c) ∈ letterEscapes → IsStringPiece ['\\', letter]
  | unit {unit : Nat} {digits : List Char} : IsHex unit digits → IsStringPiece ('\\' :: 'u' :: digits)

inductive IsStringText : List Char → Prop
  | nil : IsStringText []
  | cons {piece text : List Char} : IsStringPiece piece → IsStringText text → IsStringText (piece ++ text)

theorem skipString_piece {piece : List Char} (h : IsStringPiece piece) (text : List Char) :
    skipString (piece ++ text) = skipString text := by
  cases h with
  | raw quote backslash control =>
    rw [List.singleton_append, skipString.eq_def]
    split
    · simp_all
    · simp_all
    · simp_all
    · rename_i e
      cases e
      rw [if_neg (Nat.not_lt.2 control)]
  | letter h =>
    rw [List.cons_append, List.singleton_append, skipString_backslash, skipEscape_letter h]
    rfl
  | unit h =>
    rw [List.cons_append, List.cons_append, skipString_backslash, skipEscape, readUnit_append h]
    rfl

theorem skipString_append {text : List Char} (h : IsStringText text) (rest : List Char) :
    skipString (text ++ '"' :: rest) = .ok rest := by
  induction h with
  | nil => simp [skipString]
  | cons piece _ ih => rw [List.append_assoc, skipString_piece piece, ih]

/-! ### Values -/

/-- What stands in front of a value in the container, behind the gap there: in an object, a key and a colon. -/
inductive IsLabel : Container → List Char → Prop
  | array : IsLabel .array []
  | object {key gap gap' : List Char} : IsStringText key → IsPadding gap → IsPadding gap' →
      IsLabel .object ('"' :: (key ++ '"' :: (gap ++ ':' :: gap')))

/-- The phrases of the grammar: a value, or the items of a container, of which there is at least one. -/
inductive Phrase where
  | value
  | items (c : Container)

inductive Wellformed : Phrase → List Char → Prop
  | word {text : List Char} : text ∈ [['n', 'u', 'l', 'l'], ['t', 'r', 'u', 'e'], ['f', 'a', 'l', 's', 'e']] →
      Wellformed .value text
  | number {text : List Char} : IsNumber text → Wellformed .value text
  | string {text : List Char} : IsStringText text → Wellformed .value ('"' :: (text ++ ['"']))
  | emptyArray {pad : List Char} : IsPadding pad → Wellformed .value ('[' :: (pad ++ [']']))
  | emptyObject {pad : List Char} : IsPadding pad → Wellformed .value ('{' :: (pad ++ ['}']))
  | array {items : List Char} : Wellformed (.items .array) items → Wellformed .value ('[' :: (items ++ [']']))
  | object {items : List Char} : Wellformed (.items .object) items → Wellformed .value ('{' :: (items ++ ['}']))
  | last {c : Container} {pad label value pad' : List Char} : IsPadding pad → IsLabel c label →
      Wellformed .value value → IsPadding pad' → Wellformed (.items c) (pad ++ (label ++ (value ++ pad')))
  | more {c : Container} {pad label value pad' items : List Char} : IsPadding pad → IsLabel c label →
      Wellformed .value value → IsPadding pad' → Wellformed (.items c) items →
      Wellformed (.items c) (pad ++ (label ++ (value ++ (pad' ++ ',' :: items))))

theorem IsNumber.head {text : List Char} (h : IsNumber text) :
    ∃ d more, text = d :: more ∧ (d = '-' ∨ d.isDigit = true) := by
  obtain ⟨hs, ⟨⟨hne, hd⟩, -⟩, -, -⟩ := h
  rename_i sign whole fraction exponent
  rcases hs with rfl | rfl
  · cases whole with
    | nil => exact absurd rfl hne
    | cons d whole => exact ⟨d, _, rfl, .inr (hd d (by simp))⟩
  · exact ⟨'-', _, rfl, .inl rfl⟩

/-- A value opens with a character that is neither a gap nor a closing bracket. -/
theorem Wellformed.value_head {text : List Char} (h : Wellformed .value text) :
    ∃ d more, text = d :: more ∧ isGap d = false ∧ d ≠ ']' := by
  cases h with
  | word h =>
    simp only [List.mem_cons, List.not_mem_nil, or_false] at h
    rcases h with rfl | rfl | rfl <;> exact ⟨_, _, rfl, by decide, by decide⟩
  | string | emptyArray | emptyObject | array | object => exact ⟨_, _, rfl, by decide, by decide⟩
  | number h =>
    obtain ⟨d, more, rfl, hd⟩ := h.head
    refine ⟨d, more, rfl, ?_, ?_⟩
    · rcases hd with rfl | hd
      · decide
      · simp only [isGap, Bool.or_eq_false_iff, decide_eq_false_iff_not]
        refine ⟨⟨⟨?_, ?_⟩, ?_⟩, ?_⟩ <;> (rintro rfl; exact absurd hd (by decide))
    · rintro rfl
      exact absurd hd (by decide)

/-- The items of a container open with a character that does not close it, perhaps behind a gap. -/
theorem Wellformed.items_head {c : Container} {text : List Char} (h : Wellformed (.items c) text) :
    ∃ pad d more, text = pad ++ d :: more ∧ IsPadding pad ∧ isGap d = false ∧ d ≠ c.close := by
  have labelled {label value : List Char} (hl : IsLabel c label) (hv : Wellformed .value value) (text : List Char) :
      ∃ d more, label ++ (value ++ text) = d :: more ∧ isGap d = false ∧ d ≠ c.close := by
    cases hl with
    | array =>
      obtain ⟨d, more, rfl, hg, hd⟩ := hv.value_head
      exact ⟨d, _, rfl, hg, hd⟩
    | object => exact ⟨'"', _, rfl, by decide, by decide⟩
  cases h with
  | last hp hl hv _ | more hp hl hv _ _ =>
    obtain ⟨d, more, e, hg, hd⟩ := labelled hl hv _
    exact ⟨_, d, more, by rw [e], hp, hg, hd⟩

/-! ### Values are passed over -/

/-- Passes over all that is due in the open containers. -/
def skipDue : Pending → Except Stop (List Char)
  | ([], rest) => .ok rest
  | (c :: containers, rest) => skipPending (c :: containers) rest

theorem skipPending_eq_bind (containers : List Container) (text : List Char) :
    skipPending containers text = skipItem containers text >>= skipDue := by
  rw [skipPending_eq]
  rfl

theorem skipItem_padding {pad : List Char} (h : IsPadding pad) (containers : List Container) (text : List Char) :
    skipItem containers (pad ++ text) = skipItem containers text := by
  rw [skipItem, skipItem, skipGap_append h]

theorem skipItem_number {number text : List Char} (h : IsNumber number) (he : EndsValue text)
    (containers : List Container) : skipItem containers (number ++ text) = afterValue containers text := by
  obtain ⟨n, read⟩ := Numeral.read_append h (Numeral.endsNumber_of_endsValue he) .invalidNumber
  obtain ⟨d, more, rfl, hd⟩ := h.head
  obtain ⟨_, _, e, hg, -⟩ := (Wellformed.number h).value_head
  cases e
  rw [List.cons_append] at read ⊢
  unfold skipItem
  rw [skipGap_cons hg]
  -- no other value opens with a sign or a digit
  split
  case h_7 =>
    have digit : (d :: (more ++ text)).head?.any fun c => c = '-' || c.isDigit := by simpa using hd
    rw [if_pos digit, read]
    rfl
  all_goals
    rename_i e
    cases e
    exact absurd hd (by decide)

theorem skipItem_string {text : List Char} (h : IsStringText text) (rest : List Char)
    (containers : List Container) :
    skipItem containers ('"' :: (text ++ '"' :: rest)) = afterValue containers rest := by
  unfold skipItem
  rw [skipGap_cons (by decide)]
  simp only [skipString_append h, bind, Except.bind]

/-- The bracket that opens the container. -/
def Container.opening : Container → Char
  | array => '['
  | object => '{'

theorem skipItem_opening (c : Container) (text : List Char) (containers : List Container) :
    skipItem containers (c.opening :: text) = afterOpen c containers text := by
  unfold skipItem
  rw [skipGap_cons (by cases c <;> decide)]
  cases c <;> rfl

theorem isGap_close (c : Container) : isGap c.close = false := by
  cases c <;> decide

theorem afterValue_close {pad : List Char} (h : IsPadding pad) (c : Container) (outer : List Container)
    (text : List Char) : afterValue (c :: outer) (pad ++ c.close :: text) = afterValue outer text := by
  have : c.close ≠ ',' := by cases c <;> decide
  rw [afterValue, skipGap_append h, skipGap_cons (isGap_close c)]
  simp only [if_neg this, if_true]

theorem afterValue_comma {pad : List Char} (h : IsPadding pad) (c : Container) (outer : List Container)
    (text : List Char) :
    afterValue (c :: outer) (pad ++ ',' :: text) = (do .ok (c :: outer, ← c.skipKey text)) := by
  rw [afterValue, skipGap_append h, skipGap_cons (by decide)]
  rfl

/-- The key of an item is passed over, and the gap behind it is left to the value. -/
theorem skipKey_label {c : Container} {pad label : List Char} (hp : IsPadding pad) (hl : IsLabel c label)
    (text : List Char) : ∃ pad', IsPadding pad' ∧ c.skipKey (pad ++ (label ++ text)) = .ok (pad' ++ text) := by
  cases hl with
  | array => exact ⟨pad, hp, rfl⟩
  | @object key gap gap' hk hg hg' =>
    refine ⟨gap', hg', ?_⟩
    simp only [List.cons_append, List.append_assoc]
    rw [Container.skipKey, skipGap_append hp, skipGap_cons (by decide)]
    simp only [skipString_append hk, bind, Except.bind]
    rw [skipGap_append hg, skipGap_cons (by decide)]
    rfl

/-- Whether the gap in front of an item is passed over early does not matter. -/
theorem skipKey_padding {pad : List Char} (h : IsPadding pad) (c : Container) (outer : List Container)
    (text : List Char) :
    (c.skipKey (pad ++ text) >>= fun rest => skipPending (c :: outer) rest) =
      c.skipKey text >>= fun rest => skipPending (c :: outer) rest := by
  cases c with
  | array =>
    show skipPending (.array :: outer) (pad ++ text) = skipPending (.array :: outer) text
    rw [skipPending_eq_bind, skipPending_eq_bind, skipItem_padding h]
  | object => rw [Container.skipKey, Container.skipKey, skipGap_append h]

/-- Passing over the text, as a phrase of the given kind, leads to what follows it. -/
def Skips : Phrase → List Char → Prop
  | .value, text => ∀ containers pad rest, IsPadding pad → EndsValue rest →
      skipPending containers (pad ++ (text ++ rest)) = afterValue containers rest >>= skipDue
  | .items c, text => ∀ outer rest,
      (c.skipKey (text ++ c.close :: rest) >>= fun rest => skipPending (c :: outer) rest) =
        afterValue outer rest >>= skipDue

/-- An item leads to what follows its value. -/
theorem skipKey_item {c : Container} {pad label value : List Char} (hp : IsPadding pad) (hl : IsLabel c label)
    (hv : Skips .value value) (outer : List Container) {text : List Char} (he : EndsValue text) :
    (c.skipKey (pad ++ (label ++ (value ++ text))) >>= fun rest => skipPending (c :: outer) rest) =
      afterValue (c :: outer) text >>= skipDue := by
  obtain ⟨pad', hp', key⟩ := skipKey_label hp hl (value ++ text)
  rw [key]
  exact hv (c :: outer) pad' text hp' he

/-- A value is passed over when its first item, or the value itself, leads to what follows. -/
theorem skips_value {text : List Char} (h : ∀ containers rest, EndsValue rest →
    skipItem containers (text ++ rest) >>= skipDue = afterValue containers rest >>= skipDue) :
    Skips .value text := by
  intro containers pad rest hp he
  rw [skipPending_eq_bind, skipItem_padding hp, h containers rest he]

theorem skips_empty (c : Container) {pad : List Char} (h : IsPadding pad) :
    Skips .value (c.opening :: (pad ++ [c.close])) := by
  apply skips_value
  intro containers rest _
  rw [List.cons_append, List.append_assoc, List.singleton_append, skipItem_opening, afterOpen, skipGap_append h,
    skipGap_cons (isGap_close c)]
  simp only [if_true]

theorem skips_container {c : Container} {items : List Char} (h : Wellformed (.items c) items)
    (ih : Skips (.items c) items) : Skips .value (c.opening :: (items ++ [c.close])) := by
  apply skips_value
  intro containers rest _
  obtain ⟨pad, d, more, rfl, hp, hg, hd⟩ := h.items_head
  have skipped := ih containers rest
  rw [List.append_assoc, skipKey_padding hp] at skipped
  rw [List.cons_append, List.append_assoc, List.singleton_append, skipItem_opening, afterOpen, List.append_assoc,
    skipGap_append hp, List.cons_append, skipGap_cons hg]
  simp only [if_neg hd]
  rw [← skipped, List.cons_append]
  cases c.skipKey (d :: (more ++ c.close :: rest)) <;> rfl

theorem Wellformed.skips {phrase : Phrase} {text : List Char} (h : Wellformed phrase text) : Skips phrase text := by
  induction h with
  | word h =>
    apply skips_value
    intro containers rest _
    simp only [List.mem_cons, List.not_mem_nil, or_false] at h
    rcases h with rfl | rfl | rfl <;> rfl
  | number h =>
    apply skips_value
    intro containers rest he
    rw [skipItem_number h he]
  | string h =>
    apply skips_value
    intro containers rest _
    rw [List.cons_append, List.append_assoc, List.singleton_append, skipItem_string h]
  | emptyArray h => exact skips_empty .array h
  | emptyObject h => exact skips_empty .object h
  | array h ih => exact skips_container h ih
  | object h ih => exact skips_container h ih
  | @last c pad label value pad' hp hl _ hp' ih =>
    intro outer rest
    simp only [List.append_assoc]
    have he : EndsValue (pad' ++ c.close :: rest) :=
      endsValue_append hp' (endsValue_cons (by cases c <;> decide) rest)
    rw [skipKey_item hp hl ih outer he, afterValue_close hp']
  | @more c pad label value pad' items hp hl _ hp' _ ih ihItems =>
    intro outer rest
    simp only [List.append_assoc, List.cons_append]
    have he : EndsValue (pad' ++ ',' :: (items ++ c.close :: rest)) :=
      endsValue_append hp' (endsValue_cons (by decide) _)
    rw [skipKey_item hp hl ih outer he, afterValue_comma hp', ← ihItems outer rest]
    cases c.skipKey (items ++ c.close :: rest) <;> rfl

/-- A value is passed over to its end, and no further. -/
theorem skipValue_append {pad value text : List Char} (hp : IsPadding pad) (h : Wellformed .value value)
    (he : EndsValue text) : skipValue (pad ++ (value ++ text)) = .ok text :=
  h.skips [] pad text hp he

end AnnotatedSql.Json
