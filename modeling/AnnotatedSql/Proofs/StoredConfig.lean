import AnnotatedSql.Config.Stored
import AnnotatedSql.Proofs.Json.Wellformed

/-!
# Stored configurations by their members

What a stored configuration says is the list of its members: the values of its fields, among others that are not
looked at.  How the members are spelled, what stands between them and in which order they come does not matter.

* `readMembers_agrees`: reading an object is noting its members in turn, up to the first repeated field;
* `foldlM_note_eq_ok`, `foldlM_note_eq_error`: what the notes amount to;
* `ofStored_of_storedAs`: a stored configuration gives what its members say, and an error if a field is repeated;
* `ofStored_stored`: a configuration that was stored is read back and checked.
-/

namespace AnnotatedSql.Config

open Json

/-- What a member of a stored configuration says. -/
inductive Member where
  | marker (text : String)
  | sigil (c : Char)
  /-- A value of any kind under a key that names no field. -/
  | other (key : String)

namespace Member

def key : Member → String
  | marker _ => "comment_marker"
  | sigil _ => "directive_prefix"
  | other key => key

def field? : Member → Option Field
  | marker _ => some .marker
  | sigil _ => some .sigil
  | other _ => none

def marker? : Member → Option String
  | marker text => some text
  | _ => none

def sigil? : Member → Option Char
  | sigil c => some c
  | _ => none

/-- Number of members that give the field. -/
def count (f : Field) (members : List Member) : Nat := members.countP fun m => m.field? = some f

/-- The value of the member is written as the given text. -/
inductive HasValue : Member → List Char → Prop
  | marker {m : String} {text : List Char} : IsString m.toList text → HasValue (.marker m) text
  | sigil {c : Char} {text : List Char} : IsString [c] text → HasValue (.sigil c) text
  | other {key : String} {text : List Char} : key ≠ "comment_marker" → key ≠ "directive_prefix" →
      Wellformed .value text → HasValue (.other key) text

/-- The member is written as the given text, with the gaps around it. -/
inductive Written : Member → List Char → Prop
  | mk {m : Member} {pad key gap gap' value pad' : List Char} : IsPadding pad → IsString m.key.toList key →
      IsPadding gap → IsPadding gap' → HasValue m value → IsPadding pad' →
      Written m (pad ++ (key ++ (gap ++ ':' :: (gap' ++ (value ++ pad')))))

/-- The members are written one behind the other, with commas between them. -/
inductive Listed : List Member → List Char → Prop
  | last {m : Member} {text : List Char} : m.Written text → Listed [m] text
  | more {m : Member} {text : List Char} {members : List Member} {rest : List Char} : m.Written text →
      Listed members rest → Listed (m :: members) (text ++ ',' :: rest)

/-- The text stores the members: as an object, or as an array with the values of the first fields. -/
inductive StoredAs : List Member → List Char → Prop
  | emptyObject {pad : List Char} : IsPadding pad → StoredAs [] ('{' :: (pad ++ ['}']))
  | object {members : List Member} {text : List Char} : Listed members text →
      StoredAs members ('{' :: (text ++ ['}']))
  | emptyArray {pad : List Char} : IsPadding pad → StoredAs [] ('[' :: (pad ++ [']']))
  | markerArray {m : String} {pad text pad' : List Char} : IsPadding pad → IsString m.toList text →
      IsPadding pad' → StoredAs [.marker m] ('[' :: (pad ++ (text ++ (pad' ++ [']']))))
  | fullArray {m : String} {c : Char} {pad text pad' gap text' gap' : List Char} : IsPadding pad →
      IsString m.toList text → IsPadding pad' → IsPadding gap → IsString [c] text' → IsPadding gap' →
      StoredAs [.marker m, .sigil c] ('[' :: (pad ++ (text ++ (pad' ++ ',' :: (gap ++ (text' ++ (gap' ++ [']'])))))))

theorem ofKey?_key {m : Member} {text : List Char} (h : HasValue m text) : Field.ofKey? m.key = m.field? := by
  cases h with
  | marker | sigil => rfl
  | other marker sigil => rw [key, field?, Field.ofKey?, Field.key, if_neg marker, Field.key, if_neg sigil]

end Member

/-! ### Members are noted in turn -/

/-- The draft with what the member says. -/
def Draft.add (d : Draft) : Member → Draft
  | .marker text => { d with marker? := some text }
  | .sigil c => { d with sigil? := some c }
  | .other _ => d

/-- The draft with what the member says, or the field that the member repeats. -/
def Draft.note (d : Draft) (m : Member) : Except Field Draft :=
  match m.field? with
  | none => .ok (d.add m)
  | some f => if d.has f then .error f else .ok (d.add m)

theorem eq_add_of_note {d d' : Draft} {m : Member} (h : d.note m = .ok d') :
    d' = d.add m ∧ ∀ f, m.field? = some f → d.has f = false := by
  unfold Draft.note at h
  split at h
  · rename_i other
    cases h
    refine ⟨rfl, ?_⟩
    intro f hf
    rw [other] at hf
    cases hf
  · rename_i f field
    split at h
    · cases h
    · rename_i new
      cases h
      refine ⟨rfl, ?_⟩
      intro f' hf
      rw [field] at hf
      cases hf
      simpa using new

theorem has_of_note {d : Draft} {m : Member} {f : Field} (h : d.note m = .error f) :
    m.field? = some f ∧ d.has f = true := by
  unfold Draft.note at h
  split at h
  · cases h
  · rename_i field
    split at h
    · rename_i has
      cases h
      exact ⟨field, has⟩
    · cases h

theorem Draft.has_add (d : Draft) (m : Member) (f : Field) :
    (d.add m).has f = (decide (m.field? = some f) || d.has f) := by
  cases m <;> cases f <;> rfl

theorem Draft.marker?_add {d : Draft} {m : Member} (new : m.field? = some .marker → d.has .marker = false) :
    (d.add m).marker? = d.marker?.or m.marker? := by
  cases m with
  | sigil | other => exact (Option.or_none).symm
  | marker text =>
    have : d.marker? = none := by simpa [has] using new rfl
    rw [this]
    rfl

theorem Draft.sigil?_add {d : Draft} {m : Member} (new : m.field? = some .sigil → d.has .sigil = false) :
    (d.add m).sigil? = d.sigil?.or m.sigil? := by
  cases m with
  | marker | other => exact (Option.or_none).symm
  | sigil c =>
    have : d.sigil? = none := by simpa [has] using new rfl
    rw [this]
    rfl

theorem Member.count_cons (f : Field) (m : Member) (members : List Member) :
    count f (m :: members) = (decide (m.field? = some f)).toNat + count f members := by
  rw [count, List.countP_cons, count, Nat.add_comm]
  by_cases h : m.field? = some f <;> simp [h]

/-- When no field is given twice the notes hold the values of the fields. -/
theorem foldlM_note_eq_ok {d d' : Draft} {members : List Member} (h : members.foldlM Draft.note d = .ok d') :
    d'.marker? = d.marker?.or (members.findSome? Member.marker?) ∧
      d'.sigil? = d.sigil?.or (members.findSome? Member.sigil?) ∧
      ∀ f, (d.has f).toNat + Member.count f members ≤ 1 := by
  induction members generalizing d with
  | nil =>
    cases h
    exact ⟨by simp, by simp, fun f => Bool.toNat_le _⟩
  | cons m members ih =>
    rw [List.foldlM_cons] at h
    cases first : d.note m with
    | error f => rw [first] at h; cases h
    | ok d₁ =>
      rw [first] at h
      obtain ⟨marker, sigil, counts⟩ := ih h
      obtain ⟨rfl, new⟩ := eq_add_of_note first
      refine ⟨?_, ?_, ?_⟩
      · rw [marker, Draft.marker?_add (new .marker), Option.or_assoc, List.findSome?_cons]
        cases m.marker? <;> rfl
      · rw [sigil, Draft.sigil?_add (new .sigil), Option.or_assoc, List.findSome?_cons]
        cases m.sigil? <;> rfl
      · intro f
        have := counts f
        rw [Draft.has_add] at this
        rw [Member.count_cons]
        by_cases field : m.field? = some f
        · simpa [field, new f field] using this
        · simpa [field] using this

/-- Otherwise they stop at a field that is. -/
theorem foldlM_note_eq_error {d : Draft} {members : List Member} {f : Field}
    (h : members.foldlM Draft.note d = .error f) : 2 ≤ (d.has f).toNat + Member.count f members := by
  induction members generalizing d with
  | nil => cases h
  | cons m members ih =>
    rw [List.foldlM_cons] at h
    rw [Member.count_cons]
    cases first : d.note m with
    | error f' =>
      rw [first] at h
      cases h
      obtain ⟨field, has⟩ := has_of_note first
      simp only [field, has, decide_true, Bool.toNat_true]
      omega
    | ok d₁ =>
      rw [first] at h
      have := ih h
      rw [(eq_add_of_note first).1, Draft.has_add] at this
      by_cases field : m.field? = some f
      · simp only [field, decide_true, Bool.true_or, Bool.toNat_true] at this ⊢
        omega
      · simpa [field] using this

/-! ### Reading is noting -/

/-- Reading went as noting did: it gives what is made of the draft, or stops at the field that is repeated. -/
def Agrees {α : Type} (noted : Except Field Draft) (give : Draft → α) (read : Except Stop α) : Prop :=
  match noted with
  | .ok d => read = .ok (give d)
  | .error f => ∃ unread, read = .error (repeatedField f unread)

/-- What is noted and read in two parts. -/
theorem Agrees.bind {α β : Type} {noted : Except Field Draft} {give : Draft → α} {read : Except Stop α}
    (h : Agrees noted give read) {note : Draft → Except Field Draft} {give' : Draft → β} {next : α → Except Stop β}
    (h' : ∀ d, Agrees (note d) give' (next (give d))) : Agrees (noted >>= note) give' (read >>= next) := by
  cases noted with
  | ok d =>
    rw [show read = .ok (give d) from h]
    exact h' d
  | error f =>
    obtain ⟨unread, rfl⟩ := h
    exact ⟨unread, rfl⟩

/-- What is noted at once and read in two parts. -/
theorem Agrees.map {α β : Type} {noted : Except Field Draft} {give : Draft → α} {read : Except Stop α}
    (h : Agrees noted give read) {give' : Draft → β} {next : α → Except Stop β}
    (h' : ∀ d, next (give d) = .ok (give' d)) : Agrees noted give' (read >>= next) := by
  have := @Agrees.bind α β noted give read h .ok give' next h'
  cases noted <;> exact this

theorem readText_append {pad content text : List Char} (hp : IsPadding pad) (h : IsString content text)
    (expected : String) (rest : List Char) : readText expected (pad ++ (text ++ rest)) = .ok (content, rest) := by
  obtain ⟨h⟩ := h
  rw [readText, skipGap_append hp, List.cons_append, skipGap_cons (by decide)]
  simp only [List.append_assoc, List.singleton_append]
  exact readString_spelled h rest

theorem readField_append {m : Member} {f : Field} {pad text : List Char} (hp : IsPadding pad)
    (h : m.HasValue text) (field : m.field? = some f) (d : Draft) (rest : List Char) :
    readField d f (pad ++ (text ++ rest)) = .ok (d.add m, rest) := by
  cases h with
  | other => cases field
  | marker h =>
    cases field
    simp only [readField, readText_append hp h, bind, Except.bind, String.ofList_toList]
    rfl
  | sigil h =>
    cases field
    simp only [readField, readText_append hp h, bind, Except.bind]
    rfl

theorem readColon_append {gap : List Char} (h : IsPadding gap) (text : List Char) :
    readColon (gap ++ ':' :: text) = .ok text := by
  rw [readColon, skipGap_append h, skipGap_cons (by decide)]
  rfl

/-- Reading a member, behind the opening quote of its key, is noting it. -/
theorem readMember_agrees {m : Member} {key gap gap' value text : List Char} (hk : Spelled m.key.toList key)
    (hg : IsPadding gap) (hg' : IsPadding gap') (hv : m.HasValue value) (he : EndsValue text) (d : Draft) :
    Agrees (d.note m) (·, text) (readMember d (key ++ '"' :: (gap ++ ':' :: (gap' ++ (value ++ text))))) := by
  simp only [readMember, readString_spelled hk, bind, Except.bind, String.ofList_toList, Member.ofKey?_key hv,
    readColon_append hg]
  rw [Draft.note]
  cases field : m.field? with
  | some f =>
    by_cases has : d.has f
    · simp only [if_pos has]
      exact ⟨_, rfl⟩
    · simp only [if_neg has]
      exact readField_append hg' hv field d text
  | none =>
    cases hv with
    | marker | sigil => cases field
    | other _ _ hv =>
      simp only [skipValue_append hg' hv he]
      rfl

/-- What stands in front of a member, behind the gap before it: a comma, if there was a member before. -/
inductive Lead : Bool → List Char → Prop
  | first : Lead true []
  | next {pad : List Char} : IsPadding pad → Lead false (pad ++ [','])

theorem readNext_quote {first : Bool} {lead pad : List Char} (hl : Lead first lead) (hp : IsPadding pad)
    (text : List Char) : readNext first (lead ++ (pad ++ '"' :: text)) = .ok (true, text) := by
  cases hl with
  | first =>
    rw [List.nil_append, readNext, skipGap_append hp, skipGap_cons (by decide)]
    rfl
  | next hp' =>
    have quote : readQuote (pad ++ '"' :: text) = .ok text := by
      rw [readQuote, skipGap_append hp, skipGap_cons (by decide)]
      rfl
    rw [List.append_assoc, List.singleton_append, readNext, skipGap_append hp', skipGap_cons (by decide)]
    simp only [quote]
    rfl

theorem readMembers_close {pad : List Char} (hp : IsPadding pad) (first : Bool) (d : Draft) (text : List Char) :
    readMembers first d (pad ++ '}' :: text) = .ok (d, text) := by
  rw [readMembers_eq, readNext, skipGap_append hp, skipGap_cons (by decide)]
  rfl

/-- One round of reading members notes one of them, and goes on in front of the gap behind it. -/
theorem readMembers_item {m : Member} {item : List Char} (h : m.Written item) : ∃ pad, IsPadding pad ∧
    ∀ {first : Bool} {lead : List Char}, Lead first lead → ∀ (d : Draft) {text : List Char}, EndsValue text →
      ∃ read, Agrees (d.note m) (·, pad ++ text) read ∧
        readMembers first d (lead ++ (item ++ text)) = read >>= fun (d, rest) => readMembers false d rest := by
  obtain ⟨hp, ⟨hk⟩, hg, hg', hv, hp'⟩ := h
  refine ⟨_, hp', ?_⟩
  intro first lead hl d text he
  refine ⟨_, readMember_agrees hk hg hg' hv (endsValue_append hp' he) d, ?_⟩
  simp only [List.append_assoc, List.cons_append, List.nil_append]
  rw [readMembers_eq, readNext_quote hl hp]
  rfl

/-- Reading the members of an object is noting them in turn. -/
theorem readMembers_agrees {members : List Member} {items : List Char} (h : Member.Listed members items)
    {first : Bool} {lead : List Char} (hl : Lead first lead) (d : Draft) (text : List Char) :
    Agrees (members.foldlM Draft.note d) (·, text) (readMembers first d (lead ++ (items ++ '}' :: text))) := by
  induction h generalizing first lead d with
  | last hm =>
    obtain ⟨pad, hp, item⟩ := readMembers_item hm
    obtain ⟨read, agrees, e⟩ := item hl d (endsValue_cons (c := '}') (by decide) text)
    rw [e, List.foldlM_cons]
    refine agrees.bind ?_
    intro d
    exact readMembers_close hp false d text
  | @more m item members items hm _ ih =>
    obtain ⟨pad, hp, item⟩ := readMembers_item hm
    obtain ⟨read, agrees, e⟩ := item hl d (endsValue_cons (c := ',') (by decide) (items ++ '}' :: text))
    rw [List.append_assoc, List.cons_append, e, List.foldlM_cons]
    refine agrees.bind ?_
    intro d
    have := ih (.next hp) d
    rwa [List.append_assoc, List.singleton_append] at this

/-- Behind the first value an array ends. -/
theorem readSecond_close {pad : List Char} (hp : IsPadding pad) (d : Draft) (rest : List Char) :
    readSecond d (pad ++ ']' :: rest) = .ok (d, rest) := by
  rw [readSecond, skipGap_append hp, skipGap_cons (by decide)]
  rfl

/-- Behind the first value of an array stands a second one, and the array ends. -/
theorem readSecond_sigil {c : Char} {pad gap text gap' : List Char} (hp : IsPadding pad) (hg : IsPadding gap)
    (ht : IsString [c] text) (hg' : IsPadding gap') (d : Draft) (rest : List Char) :
    readSecond d (pad ++ ',' :: (gap ++ (text ++ (gap' ++ ']' :: rest)))) = .ok (d.add (.sigil c), rest) := by
  have field := readField_append isPadding_nil (.sigil ht) rfl d (gap' ++ ']' :: rest)
  have close : readArrayEnd (gap' ++ ']' :: rest) = .ok rest := by
    rw [readArrayEnd, skipGap_append hg', skipGap_cons (by decide)]
    rfl
  rw [readSecond, skipGap_append hp, skipGap_cons (by decide)]
  simp only [skipGap_append hg]
  obtain ⟨ht⟩ := ht
  rw [List.nil_append, List.cons_append] at field
  rw [List.cons_append, skipGap_cons (by decide)]
  -- a value opens with a quote, which no other case of the reader takes
  show (readField d .sigil ('"' :: _) >>= fun (d, rest) => do .ok (d, ← readArrayEnd rest)) = _
  simp only [field, close, bind, Except.bind]

theorem readItems_close {pad : List Char} (hp : IsPadding pad) (rest : List Char) :
    readItems (pad ++ ']' :: rest) = .ok ({}, rest) := by
  rw [readItems, skipGap_append hp, skipGap_cons (by decide)]
  rfl

theorem readItems_marker {m : String} {pad text : List Char} (hp : IsPadding pad) (ht : IsString m.toList text)
    (rest : List Char) :
    readItems (pad ++ (text ++ rest)) = readSecond (Draft.add {} (.marker m)) rest := by
  have field := readField_append isPadding_nil (.marker ht) rfl {} rest
  obtain ⟨ht⟩ := ht
  rw [List.nil_append, List.cons_append] at field
  rw [readItems, skipGap_append hp, List.cons_append, skipGap_cons (by decide)]
  show (readField {} .marker ('"' :: _) >>= fun (d, rest) => readSecond d rest) = _
  simp only [field, bind, Except.bind]

/-- Reading a stored configuration is noting its members in turn. -/
theorem readDraft_agrees {members : List Member} {pad text pad' : List Char} (hp : IsPadding pad)
    (h : Member.StoredAs members text) (hp' : IsPadding pad') :
    Agrees (members.foldlM Draft.note {}) id (readDraft (pad ++ (text ++ pad'))) := by
  -- nothing but a gap may follow
  have done : skipGap pad' = [] := by
    rw [← List.append_nil pad', skipGap_append hp']
    rfl
  rw [readDraft, skipGap_append hp]
  cases h with
  | emptyObject hg =>
    rw [List.cons_append, List.append_assoc, List.singleton_append, skipGap_cons (by decide)]
    simp only [readMembers_close hg, bind, Except.bind, done]
    rfl
  | object h =>
    rw [List.cons_append, List.append_assoc, List.singleton_append, skipGap_cons (by decide)]
    refine (readMembers_agrees h .first {} pad').map ?_
    intro d
    simp only [done, id]
  | emptyArray hg =>
    rw [List.cons_append, List.append_assoc, List.singleton_append, skipGap_cons (by decide)]
    simp only [readItems_close hg, bind, Except.bind, done]
    rfl
  | markerArray hg ht hg' =>
    simp only [List.cons_append, List.append_assoc, List.nil_append]
    rw [skipGap_cons (by decide)]
    simp only [readItems_marker hg ht, readSecond_close hg', bind, Except.bind, done]
    rfl
  | fullArray hg ht hg' hg₂ ht' hg₃ =>
    simp only [List.cons_append, List.append_assoc, List.nil_append]
    rw [skipGap_cons (by decide)]
    simp only [readItems_marker hg ht, readSecond_sigil hg' hg₂ ht' hg₃, bind, Except.bind, done]
    rfl

/-! ### Stored configurations -/

/-- What the members say, with the defaults for the fields that are missing. -/
def ofMembers (members : List Member) : Config :=
  ⟨(members.findSome? Member.marker?).getD "--", (members.findSome? Member.sigil?).getD ':'⟩

theorem toConfig_of_foldlM_note {members : List Member} {d : Draft} (h : members.foldlM Draft.note {} = .ok d) :
    d.toConfig = ofMembers members := by
  obtain ⟨marker, sigil, -⟩ := foldlM_note_eq_ok h
  rw [Draft.toConfig, marker, sigil]
  rfl

/-- Whether a stored configuration is read depends on what noting its members finds. -/
theorem ofStored_of_foldlM_note {members : List Member} {text : String} {pad body pad' : List Char}
    (written : text.toList = pad ++ (body ++ pad')) (hp : IsPadding pad) (stored : Member.StoredAs members body)
    (hp' : IsPadding pad') :
    match members.foldlM Draft.note {} with
    | .ok _ => ofStored text = (ofMembers members).check
    | .error f => ∃ place, ofStored text = .error (.json ⟨.repeatedField f.key, place⟩) := by
  have agrees := readDraft_agrees hp stored hp'
  rw [← written] at agrees
  cases noted : members.foldlM Draft.note {} with
  | ok d =>
    rw [noted] at agrees
    rw [← toConfig_of_foldlM_note noted, ofStored, show readDraft text.toList = .ok d from agrees]
  | error f =>
    rw [noted] at agrees
    obtain ⟨unread, e⟩ := agrees
    rw [ofStored, e]
    exact ⟨_, rfl⟩

/-- A stored configuration is what its members say, and has to make sense; of what is stored, nothing but the
values of the fields matters.  If a field is given twice there is an error, which names a field that is. -/
theorem ofStored_of_storedAs {members : List Member} {text : String} {pad body pad' : List Char}
    (written : text.toList = pad ++ (body ++ pad')) (hp : IsPadding pad) (stored : Member.StoredAs members body)
    (hp' : IsPadding pad') :
    ((∀ f, Member.count f members ≤ 1) → ofStored text = (ofMembers members).check) ∧
      ((∃ f, 2 ≤ Member.count f members) →
        ∃ f place, 2 ≤ Member.count f members ∧ ofStored text = .error (.json ⟨.repeatedField f.key, place⟩)) := by
  have read := ofStored_of_foldlM_note written hp stored hp'
  cases noted : members.foldlM Draft.note {} with
  | ok d =>
    rw [noted] at read
    refine ⟨fun _ => read, ?_⟩
    rintro ⟨f, twice⟩
    have := (foldlM_note_eq_ok noted).2.2 f
    omega
  | error f =>
    rw [noted] at read
    obtain ⟨place, read⟩ := read
    have twice : 2 ≤ Member.count f members := by
      have := foldlM_note_eq_error noted
      have empty : Draft.has {} f = false := by cases f <;> rfl
      simpa [empty] using this
    refine ⟨?_, fun _ => ⟨f, place, twice, read⟩⟩
    intro once
    have := once f
    omega

/-- A field under an escaped key, with a surrogate pair in its value, behind nested values that are skipped; and a
field that is given twice. -/
theorem ofStored_of_storedAs_nested :
    let nested := "[-0.5e+3,\x7b\"\":[\"\\ud800\",\x7b \x7d]\x7d ]"
    let stored := "\n\x7b\"k\\/\" :" ++ nested ++ ", \"\\u0063omment_marker\":\"\\u00e9\\uD83d\\uDE00\"\x7d"
    let repeated := "\x7b\"directive_prefix\":\"@\",\"directive_prefix\":\"@\"\x7d"
    ofStored stored = .ok ⟨"é😀", ':'⟩ ∧
      ∃ place, ofStored repeated = .error (.json ⟨.repeatedField "directive_prefix", place⟩) := by
  intro nested stored repeated
  have none := isPadding_nil
  have space : IsPadding [' '] := by decide
  have hex {i j k l : Nat} {a b c d : Char} (h : IsHexDigit i a ∧ IsHexDigit j b ∧ IsHexDigit k c ∧ IsHexDigit l d) :
      IsHex (((i * 16 + j) * 16 + k) * 16 + l) [a, b, c, d] := .mk h.1 h.2.1 h.2.2.1 h.2.2.2
  -- the nested value that is skipped
  have number : Wellformed .value ['-', '0', '.', '5', 'e', '+', '3'] :=
    .number (@IsNumber.mk ['-'] ['0'] ['.', '5'] ['e', '+', '3'] (.inr rfl) (by decide) (.some (by decide))
      (@IsExponent.some 'e' ['+'] ['3'] (.inl rfl) (.inr (.inl rfl)) (by decide)))
  have d800 : IsHex 0xd800 ['d', '8', '0', '0'] := @hex 13 8 0 0 _ _ _ _ (by decide)
  have half := Wellformed.string (.cons (.unit d800) .nil)
  have array := Wellformed.array (.more none .array half none (.last none .array (.emptyObject space) none))
  have object := Wellformed.object (.last none (.object .nil none none) array none)
  have value := Wellformed.array (.more none .array number none (.last none .array object space))
  -- the members of the first text
  have slash : Spelling '/' ['\\', '/'] := .letter (by decide)
  have other : (Member.other "k/").Written _ := .mk none
    (.mk (.cons (.raw (by decide) (by decide) (by decide)) (.cons slash .nil)))
    space none (.other (by decide) (by decide) value) none
  have c : IsHex 'c'.toNat ['0', '0', '6', '3'] := @hex 0 0 6 3 _ _ _ _ (by decide)
  have key : IsString "comment_marker".toList _ := .mk (.cons (.unit c) (spelled_encode "omment_marker".toList))
  have e9 : IsHex 'é'.toNat ['0', '0', 'e', '9'] := @hex 0 0 14 9 _ _ _ _ (by decide)
  have lead : IsHex 0xd83d ['D', '8', '3', 'd'] := @hex 13 8 3 13 _ _ _ _ (by decide)
  have trail : IsHex 0xde00 ['D', 'E', '0', '0'] := @hex 13 14 0 0 _ _ _ _ (by decide)
  have text : IsString "é😀".toList _ := .mk (.cons (.unit e9) (.cons (.pair (by decide) lead trail) .nil))
  have marker : (Member.marker "é😀").Written _ := .mk space key none none (.marker text) none
  -- the member that the second text repeats
  have sigil : (Member.sigil '@').Written _ :=
    .mk none (isString_encode _) none none (.sigil (isString_encode ['@'])) none
  constructor
  · have newline : IsPadding ['\n'] := by decide
    have read := @ofStored_of_storedAs _ stored _ _ _ (by decide) newline (.object (.more other (.last marker))) none
    exact read.1 (by rintro (_ | _) <;> decide)
  · have read := @ofStored_of_storedAs _ repeated _ _ _ (by decide) none (.object (.more sigil (.last sigil))) none
    obtain ⟨f, place, twice, e⟩ := read.2 ⟨.sigil, by decide⟩
    cases f with
    | marker => exact absurd twice (by decide)
    | sigil => exact ⟨place, e⟩

/-- The stored form of a configuration says what the configuration is. -/
theorem storedAs_stored (c : Config) : Member.StoredAs [.marker c.marker, .sigil c.sigil] c.stored.toList := by
  have none := isPadding_nil
  have marker : (Member.marker c.marker).Written _ :=
    .mk none (isString_encode _) none none (.marker (isString_encode _)) none
  have sigil : (Member.sigil c.sigil).Written _ :=
    .mk none (isString_encode _) none none (.sigil (isString_encode _)) none
  have := Member.StoredAs.object (.more marker (.last sigil))
  simpa [stored, toJson, Json.compact, Json.render, Json.renderMembers, Json.Layout.compact, Field.key, Member.key]
    using this

/-- A configuration that was stored is read back and checked: it comes back as it was when it makes sense, and
otherwise the error says which rule it breaks.  The stored form itself is always readable. -/
theorem ofStored_stored (c : Config) :
    ofStored c.stored = c.check ∧
      (ofStored c.stored = .ok c ↔ c.validate = .ok c) ∧
      (∀ e, c.validate = .error e → ofStored c.stored = .error (.config e)) ∧
      ∀ fault, ofStored c.stored ≠ .error (.json fault) := by
  have none := isPadding_nil
  have read : ofStored c.stored = c.check :=
    ofStored_of_foldlM_note (by simp) none c.storedAs_stored none
  refine ⟨read, ?_⟩
  cases valid : c.validate with
  | ok d =>
    have accepted : ofStored c.stored = .ok d := by
      rw [read, check, valid]
      rfl
    rw [accepted]
    exact ⟨by simp, by simp, by simp⟩
  | error e =>
    have rejected : ofStored c.stored = .error (.config e) := by
      rw [read, check, valid]
      rfl
    rw [rejected]
    exact ⟨by simp, by simp, by simp⟩

end AnnotatedSql.Config
