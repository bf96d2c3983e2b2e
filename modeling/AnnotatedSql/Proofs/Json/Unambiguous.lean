import AnnotatedSql.Json
import AnnotatedSql.Proofs.Delimited
import AnnotatedSql.Proofs.Json.Wellformed

/-!
# Written JSON is read in one way

A value that is written in a layout can be told from what stands behind it.  Its kind shows in its first character;
a string ends at the first quote that is not escaped, a number in front of a gap, a comma or a closing bracket, and
a container at the bracket that stands where an item or a comma would be.

* `enclosed_append_inj`: items that are known by what is written for them are known by the list that is written;
* `render_append_inj`: a value is known by what is written for it, in every layout whose line breaks are blank;
* `array_append_inj`: an array is, whatever stands behind it;
* `render_array_around`, `render_object_around`: the text around an item does not depend on the item.
-/

namespace AnnotatedSql.Json

/-- Induction on a value: what holds of all items of a container holds of the container. -/
theorem inductionOn {P : Json → Prop} (null : P .null) (number : ∀ n, P (.number n))
    (string : ∀ text, P (.string text)) (array : ∀ items : List Json, (∀ item ∈ items, P item) → P (.array items))
    (object : ∀ members : List (String × Json), (∀ member ∈ members, P member.2) → P (.object members))
    (v : Json) : P v := by
  refine @Json.rec P (fun items => ∀ item ∈ items, P item) (fun members => ∀ member ∈ members, P member.2)
    (fun member => P member.2) null number string array object ?_ ?_ ?_ ?_ ?_ v
  · simp
  · exact fun item items first rest => List.forall_mem_cons.2 ⟨first, rest⟩
  · simp
  · exact fun member members first rest => List.forall_mem_cons.2 ⟨first, rest⟩
  · exact fun _ _ value => value

/-! ### The first character -/

/-- The character that a value opens with; all digits count as one. -/
def kind : Json → Char
  | null => 'n'
  | number _ => '0'
  | string _ => '"'
  | array _ => '['
  | object _ => '{'

def kindOf (c : Char) : Char := if c.isDigit then '0' else c

theorem render_eq_cons (l : Layout) (depth : Nat) (v : Json) :
    ∃ c more, v.render l depth = c :: more ∧ kindOf c = v.kind := by
  cases v with
  | null => exact ⟨_, _, rfl, by decide⟩
  | number n =>
    rw [render]
    cases h : Nat.toDigits 10 n with
    | nil => exact absurd h Nat.toDigits_ne_nil
    | cons c more =>
      have digit : c.isDigit = true :=
        Nat.isDigit_of_mem_toDigits (b := 10) (n := n) (by decide) (by decide) (by rw [h]; simp)
      exact ⟨c, more, rfl, by rw [kindOf, if_pos digit, kind]⟩
  | string text => exact ⟨_, _, rfl, rfl⟩
  | array items => cases items <;> exact ⟨_, _, rfl, rfl⟩
  | object members => cases members <;> exact ⟨_, _, rfl, rfl⟩

theorem kind_eq_of_render {l : Layout} {depth : Nat} {v w : Json} {more more' : List Char}
    (h : v.render l depth ++ more = w.render l depth ++ more') : v.kind = w.kind := by
  obtain ⟨c, text, e, hc⟩ := v.render_eq_cons l depth
  obtain ⟨c', text', e', hc'⟩ := w.render_eq_cons l depth
  rw [e, e', List.cons_append, List.cons_append, List.cons.injEq] at h
  rw [← hc, ← hc', h.1]

/-! ### Strings -/

/-- A string ends at its closing quote, whatever its content and whatever stands behind it. -/
theorem encode_append_inj {text text' more more' : List Char} (h : encode text ++ more = encode text' ++ more') :
    text = text' ∧ more = more' := by
  simp only [encode, List.cons_append, List.append_assoc, List.nil_append, List.cons.injEq, true_and] at h
  have read := readString_encode text more
  rw [h, readString_encode] at read
  cases read
  exact ⟨rfl, rfl⟩

/-! ### Numbers -/

theorem EndsValue.not_isNumeral {text : List Char} (h : EndsValue text) : ∀ c ∈ text.head?, ¬IsNumeral c := by
  rintro c hc ⟨k, rfl⟩
  have := h _ hc
  simp at this

/-! ### Items between brackets -/

section Enclosed

variable {α : Type} (write : α → List Char) (pad : List Char) (close : Char)

/-- What is written behind an item: the other items, each behind a comma, and the closing bracket. -/
def following : List α → List Char
  | [] => pad ++ [close]
  | a :: others => ',' :: (write a ++ following others)

/-- What is written behind the opening bracket. -/
def enclosed : List α → List Char
  | [] => [close]
  | a :: others => write a ++ following write pad close others

variable {write pad close}

theorem endsValue_following (hp : IsPadding pad) (hc : close ∈ [']', '}']) (others : List α) (more : List Char) :
    EndsValue (following write pad close others ++ more) := by
  cases others with
  | nil =>
    rw [following, List.append_assoc]
    exact endsValue_append hp (endsValue_cons (List.mem_cons_of_mem _ hc) more)
  | cons a others => exact endsValue_cons (by decide) _

private theorem padding_ne : ∀ c ∈ [' ', '\t', '\n', '\r'], c ∉ [']', '}', ','] := by simp

/-- The closing bracket, behind a gap, is not the comma in front of another item. -/
private theorem close_ne_comma (hp : IsPadding pad) (hc : close ∈ [']', '}']) {more text : List Char} :
    pad ++ close :: more ≠ ',' :: text := by
  intro h
  cases pad with
  | nil =>
    rw [List.nil_append, List.cons.injEq] at h
    rw [h.1] at hc
    exact absurd hc (by decide)
  | cons c pad =>
    rw [List.cons_append, List.cons.injEq] at h
    exact padding_ne c (hp c (by simp)) (by simp [h.1])

/-- The value is known by what is written for it, in front of a text that can stand behind a value. -/
def Known (write : α → List Char) (a : α) : Prop :=
  ∀ ⦃b more more'⦄, EndsValue more → EndsValue more' → write a ++ more = write b ++ more' → a = b ∧ more = more'

theorem following_append_inj (hp : IsPadding pad) (hc : close ∈ [']', '}']) {others others' : List α}
    (known : ∀ a ∈ others, Known write a) {more more' : List Char}
    (h : following write pad close others ++ more = following write pad close others' ++ more') :
    others = others' ∧ more = more' := by
  induction others generalizing others' with
  | nil =>
    cases others' with
    | nil => exact ⟨rfl, List.append_cancel_left h⟩
    | cons b others' =>
      rw [following, following, List.append_assoc, List.singleton_append, List.cons_append] at h
      exact absurd h (close_ne_comma hp hc)
  | cons a others ih =>
    cases others' with
    | nil =>
      rw [following, following, List.append_assoc, List.singleton_append, List.cons_append] at h
      exact absurd h.symm (close_ne_comma hp hc)
    | cons b others' =>
      rw [following, following, List.cons_append, List.cons_append, List.cons.injEq, List.append_assoc,
        List.append_assoc] at h
      obtain ⟨first, others_known⟩ := List.forall_mem_cons.1 known
      obtain ⟨rfl, rest⟩ := first (endsValue_following hp hc _ _) (endsValue_following hp hc _ _) h.2
      obtain ⟨rfl, rfl⟩ := ih others_known rest
      exact ⟨rfl, rfl⟩

/-- Items that do not open with the closing bracket are known by what is written between the brackets. -/
theorem enclosed_append_inj (hp : IsPadding pad) (hc : close ∈ [']', '}'])
    (opens : ∀ a, ∃ c more, write a = c :: more ∧ c ≠ close) {items items' : List α}
    (known : ∀ a ∈ items, Known write a) {more more' : List Char}
    (h : enclosed write pad close items ++ more = enclosed write pad close items' ++ more') :
    items = items' ∧ more = more' := by
  cases items with
  | nil =>
    cases items' with
    | nil => exact ⟨rfl, List.append_cancel_left h⟩
    | cons b items' =>
      obtain ⟨c, text, e, hb⟩ := opens b
      rw [enclosed, enclosed, e, List.singleton_append, List.append_assoc, List.cons_append, List.cons.injEq] at h
      exact absurd h.1.symm hb
  | cons a items =>
    cases items' with
    | nil =>
      obtain ⟨c, text, e, ha⟩ := opens a
      rw [enclosed, enclosed, e, List.singleton_append, List.append_assoc, List.cons_append, List.cons.injEq] at h
      exact absurd h.1 ha
    | cons b items' =>
      rw [enclosed, enclosed, List.append_assoc, List.append_assoc] at h
      obtain ⟨first, others_known⟩ := List.forall_mem_cons.1 known
      obtain ⟨rfl, rest⟩ := first (endsValue_following hp hc _ _) (endsValue_following hp hc _ _) h
      obtain ⟨rfl, rfl⟩ := following_append_inj hp hc others_known rest
      exact ⟨rfl, rfl⟩

private theorem following_around (write : α → List Char) (pad : List Char) (close : Char) (before after : List α) :
    ∃ front back, ∀ a, following write pad close (before ++ a :: after) = front ++ (write a ++ back) := by
  induction before with
  | nil => exact ⟨[','], following write pad close after, fun a => rfl⟩
  | cons b before ih =>
    obtain ⟨front, back, e⟩ := ih
    exact ⟨',' :: (write b ++ front), back, fun a => by simp [following, e]⟩

/-- What stands around an item between the brackets does not depend on the item. -/
theorem enclosed_around (before after : List α) :
    ∃ front back, ∀ a, enclosed write pad close (before ++ a :: after) = front ++ (write a ++ back) := by
  cases before with
  | nil => exact ⟨[], following write pad close after, fun a => rfl⟩
  | cons b before =>
    obtain ⟨front, back, e⟩ := following_around write pad close before after
    exact ⟨write b ++ front, back, fun a => by simp [enclosed, e]⟩

end Enclosed

/-! ### Containers -/

/-- An item of an array, with what stands in front of it. -/
def itemText (l : Layout) (depth : Nat) (item : Json) : List Char := l.lead depth ++ item.render l depth

/-- A member of an object, with what stands in front of it. -/
def memberText (l : Layout) (depth : Nat) (member : String × Json) : List Char :=
  l.lead depth ++ encode member.1.toList ++ l.colon ++ member.2.render l depth

private theorem renderItems_append (l : Layout) (depth : Nat) (pad : List Char) (item : Json) (items : List Json) :
    renderItems l depth (item :: items) ++ (pad ++ [']']) =
      itemText l depth item ++ following (itemText l depth) pad ']' items := by
  induction items generalizing item with
  | nil => rfl
  | cons second items ih => simp only [renderItems, List.append_assoc, List.cons_append, ih, itemText, following]

private theorem renderMembers_append (l : Layout) (depth : Nat) (pad : List Char) (member : String × Json)
    (members : List (String × Json)) :
    renderMembers l depth (member :: members) ++ (pad ++ ['}']) =
      memberText l depth member ++ following (memberText l depth) pad '}' members := by
  induction members generalizing member with
  | nil => rfl
  | cons second members ih => simp only [renderMembers, List.append_assoc, List.cons_append, ih, memberText, following]

theorem render_array (l : Layout) (depth : Nat) (items : List Json) :
    render l depth (.array items) = '[' :: enclosed (itemText l (depth + 1)) (l.lead depth) ']' items := by
  cases items with
  | nil => rfl
  | cons item items =>
    rw [render, List.append_assoc, renderItems_append, enclosed]
    simp

theorem render_object (l : Layout) (depth : Nat) (members : List (String × Json)) :
    render l depth (.object members) = '{' :: enclosed (memberText l (depth + 1)) (l.lead depth) '}' members := by
  cases members with
  | nil => rfl
  | cons member members =>
    rw [render, List.append_assoc, renderMembers_append, enclosed]
    simp

theorem render_array_around (l : Layout) (depth : Nat) (before after : List Json) :
    ∃ front back, ∀ item : Json,
      render l depth (.array (before ++ item :: after)) = front ++ (item.render l (depth + 1) ++ back) := by
  obtain ⟨front, back, e⟩ := enclosed_around before after
  refine ⟨'[' :: (front ++ l.lead (depth + 1)), back, ?_⟩
  intro item
  rw [render_array, e]
  simp [itemText]

theorem render_object_around (l : Layout) (depth : Nat) (before after : List (String × Json)) (key : String) :
    ∃ front back, ∀ value : Json,
      render l depth (.object (before ++ (key, value) :: after)) = front ++ (value.render l (depth + 1) ++ back) := by
  obtain ⟨front, back, e⟩ := enclosed_around before after
  refine ⟨'{' :: (front ++ (l.lead (depth + 1) ++ encode key.toList ++ l.colon)), back, ?_⟩
  intro value
  rw [render_object, e]
  simp [memberText]

/-- A text that is not the closing bracket, behind a gap. -/
private theorem opens_behind {pad text : List Char} {close : Char} (hp : IsPadding pad) (hc : close ∈ [']', '}'])
    (ht : ∃ c more, text = c :: more ∧ c ≠ close) (after : List Char) :
    ∃ c more, pad ++ (text ++ after) = c :: more ∧ c ≠ close := by
  cases pad with
  | nil =>
    obtain ⟨c, more, rfl, hne⟩ := ht
    exact ⟨c, more ++ after, rfl, hne⟩
  | cons c pad =>
    refine ⟨c, pad ++ (text ++ after), rfl, ?_⟩
    rintro rfl
    exact padding_ne c (hp c (by simp)) (List.mem_append_left [','] hc)

section Layout

variable {l : Layout} (hl : ∀ depth, IsPadding (l.lead depth))
include hl

theorem itemText_eq_cons (depth : Nat) (item : Json) :
    ∃ c more, itemText l depth item = c :: more ∧ c ≠ ']' := by
  have opens : ∃ c more, item.render l depth = c :: more ∧ c ≠ ']' := by
    obtain ⟨c, more, e, hc⟩ := item.render_eq_cons l depth
    refine ⟨c, more, e, ?_⟩
    rintro rfl
    cases item <;> simp [kindOf, kind] at hc
  simpa [itemText] using opens_behind (hl depth) (by decide) opens []

theorem memberText_eq_cons (depth : Nat) (member : String × Json) :
    ∃ c more, memberText l depth member = c :: more ∧ c ≠ '}' := by
  have opens : ∃ c more, encode member.1.toList = c :: more ∧ c ≠ '}' := ⟨_, _, rfl, by decide⟩
  simpa [memberText] using opens_behind (hl depth) (by decide) opens (l.colon ++ member.2.render l depth)

theorem array_append_inj_of_known {depth : Nat} {items items' : List Json}
    (known : ∀ item ∈ items, Known (render l (depth + 1)) item) {more more' : List Char}
    (h : render l depth (.array items) ++ more = render l depth (.array items') ++ more') :
    items = items' ∧ more = more' := by
  rw [render_array, render_array, List.cons_append, List.cons_append, List.cons.injEq] at h
  refine enclosed_append_inj (hl depth) (by decide) (itemText_eq_cons hl (depth + 1)) ?_ h.2
  intro item hi item' text text' ht ht' e
  rw [itemText, itemText, List.append_assoc, List.append_assoc] at e
  exact known item hi ht ht' (List.append_cancel_left e)

theorem object_append_inj_of_known {depth : Nat} {members members' : List (String × Json)}
    (known : ∀ member ∈ members, Known (render l (depth + 1)) member.2) {more more' : List Char}
    (h : render l depth (.object members) ++ more = render l depth (.object members') ++ more') :
    members = members' ∧ more = more' := by
  rw [render_object, render_object, List.cons_append, List.cons_append, List.cons.injEq] at h
  refine enclosed_append_inj (hl depth) (by decide) (memberText_eq_cons hl (depth + 1)) ?_ h.2
  rintro ⟨key, value⟩ hm ⟨key', value'⟩ text text' ht ht' e
  simp only [memberText, List.append_assoc] at e
  obtain ⟨same, behind⟩ := encode_append_inj (List.append_cancel_left e)
  obtain rfl : key = key' := String.toList_inj.1 same
  obtain ⟨rfl, rfl⟩ := known _ hm ht ht' (List.append_cancel_left behind)
  exact ⟨rfl, rfl⟩

/-- A value is known by what is written for it. -/
theorem render_append_inj (v : Json) (depth : Nat) : Known (render l depth) v := by
  induction v using inductionOn generalizing depth with
  | null =>
    intro w more more' _ _ h
    have hk := kind_eq_of_render h
    cases w with
    | null => exact ⟨rfl, List.append_cancel_left h⟩
    | number | string | array | object => simp [kind] at hk
  | number n =>
    intro w more more' hm hm' h
    have hk := kind_eq_of_render h
    cases w with
    | number n' =>
      obtain ⟨rfl, rest⟩ := toDigits_append_inj (by decide) (by decide) hm.not_isNumeral hm'.not_isNumeral h
      exact ⟨rfl, rest⟩
    | null | string | array | object => simp [kind] at hk
  | string text =>
    intro w more more' _ _ h
    have hk := kind_eq_of_render h
    cases w with
    | string text' =>
      obtain ⟨same, rest⟩ := encode_append_inj h
      obtain rfl : text = text' := String.toList_inj.1 same
      exact ⟨rfl, rest⟩
    | null | number | array | object => simp [kind] at hk
  | array items ih =>
    intro w more more' _ _ h
    have hk := kind_eq_of_render h
    cases w with
    | array items' =>
      obtain ⟨rfl, rest⟩ := array_append_inj_of_known hl (fun item hi => ih item hi (depth + 1)) h
      exact ⟨rfl, rest⟩
    | null | number | string | object => simp [kind] at hk
  | object members ih =>
    intro w more more' _ _ h
    have hk := kind_eq_of_render h
    cases w with
    | object members' =>
      obtain ⟨rfl, rest⟩ := object_append_inj_of_known hl (fun member hm => ih member hm (depth + 1)) h
      exact ⟨rfl, rest⟩
    | null | number | string | array => simp [kind] at hk

/-- An array is known by what is written for it, whatever stands behind it. -/
theorem array_append_inj {depth : Nat} {items items' : List Json} {more more' : List Char}
    (h : render l depth (.array items) ++ more = render l depth (.array items') ++ more') :
    items = items' ∧ more = more' :=
  array_append_inj_of_known hl (fun item _ => render_append_inj hl item (depth + 1)) h

end Layout

theorem isPadding_lead_indented (depth : Nat) : IsPadding (Layout.indented.lead depth) := by
  intro c hc
  simp only [Layout.indented, List.mem_cons, List.mem_replicate] at hc
  rcases hc with rfl | ⟨-, rfl⟩ <;> decide

end AnnotatedSql.Json
