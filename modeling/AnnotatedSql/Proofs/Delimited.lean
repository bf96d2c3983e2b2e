/-!
# Writing that shows where it ends

What is written for a value often stands in front of other text.  It can be told apart from that text when it shows
by itself where it ends, or when the text behind it cannot go on with it.

* `append_inj_of_run`: a run of characters of one kind, in front of a character that is not of that kind;
* `toDigits_append_inj`, `append_toDigits_inj`: a number in digits, in front of or behind a character that is no digit;
* `SelfDelimiting.flatMap`: a list of values, each of which shows where it ends, in front of a closing character.
-/

namespace AnnotatedSql

/-! ### Runs -/

/-- A text is cut in one way into a run of characters of one kind and a text that does not open with such a
character. -/
theorem append_inj_of_run {kind : Char → Prop} {run run' more more' : List Char} (hr : ∀ c ∈ run, kind c)
    (hr' : ∀ c ∈ run', kind c) (hm : ∀ c ∈ more.head?, ¬kind c) (hm' : ∀ c ∈ more'.head?, ¬kind c)
    (h : run ++ more = run' ++ more') : run = run' ∧ more = more' := by
  induction run generalizing run' with
  | nil =>
    cases run' with
    | nil => exact ⟨rfl, h⟩
    | cons c run' =>
      have hc : c ∈ more.head? := by rw [show more = c :: (run' ++ more') from h]; rfl
      exact absurd (hr' c (by simp)) (hm c hc)
  | cons c run ih =>
    cases run' with
    | nil =>
      have hc : c ∈ more'.head? := by rw [← show c :: (run ++ more) = more' from h]; rfl
      exact absurd (hr c (by simp)) (hm' c hc)
    | cons c' run' =>
      simp only [List.cons_append, List.cons.injEq] at h
      obtain ⟨rfl, h⟩ := h
      obtain ⟨rfl, rfl⟩ := ih (fun d hd => hr d (by simp [hd])) (fun d hd => hr' d (by simp [hd])) h
      exact ⟨rfl, rfl⟩

/-! ### Numbers -/

/-- A digit in some base. -/
def IsNumeral (c : Char) : Prop := ∃ k, c = Nat.digitChar k

theorem isNumeral_of_mem_toDigits {base n : Nat} (hb : 1 < base) : ∀ c ∈ Nat.toDigits base n, IsNumeral c := by
  induction n using Nat.strongRecOn with
  | ind n ih =>
    intro c hc
    rw [Nat.toDigits_eq_if hb] at hc
    split at hc
    · exact ⟨n, List.mem_singleton.1 hc⟩
    · rw [List.mem_append, List.mem_singleton] at hc
      rcases hc with hc | hc
      · exact ih (n / base) (Nat.div_lt_self (by omega) hb) c hc
      · exact ⟨n % base, hc⟩

theorem newline_not_mem_toDigits {base : Nat} (hb : 1 < base) (n : Nat) : '\n' ∉ Nat.toDigits base n := by
  intro hn
  obtain ⟨k, hk⟩ := isNumeral_of_mem_toDigits hb _ hn
  simp at hk

private theorem digitChar_inj : ∀ m < 16, ∀ n < 16, Nat.digitChar m = Nat.digitChar n → m = n := by decide

theorem toDigits_inj {base m n : Nat} (hb : 1 < base) (hb' : base ≤ 16)
    (h : Nat.toDigits base m = Nat.toDigits base n) : m = n := by
  induction m using Nat.strongRecOn generalizing n with
  | ind m ih =>
    rw [Nat.toDigits_eq_if hb, Nat.toDigits_eq_if (n := n) hb] at h
    -- numbers of several digits agree in the last one and in those before it
    by_cases hm : m < base <;> by_cases hn : n < base <;> simp only [hm, hn, if_true, if_false] at h
    · exact digitChar_inj m (by omega) n (by omega) (List.singleton_inj.1 h)
    · have := congrArg List.length h
      have := @Nat.length_toDigits_pos base (n / base)
      simp only [List.length_append, List.length_singleton] at *
      omega
    · have := congrArg List.length h
      have := @Nat.length_toDigits_pos base (m / base)
      simp only [List.length_append, List.length_singleton] at *
      omega
    · obtain ⟨front, last⟩ := List.append_inj' h rfl
      have hq : m / base = n / base := ih (m / base) (Nat.div_lt_self (by omega) hb) front
      have hlt : m % base < base := Nat.mod_lt m (by omega)
      have hlt' : n % base < base := Nat.mod_lt n (by omega)
      have hr : m % base = n % base := digitChar_inj _ (by omega) _ (by omega) (List.singleton_inj.1 last)
      rw [← Nat.div_add_mod m base, hq, hr, Nat.div_add_mod]

theorem toDigits_append_inj {base m n : Nat} {more more' : List Char} (hb : 1 < base) (hb' : base ≤ 16)
    (hm : ∀ c ∈ more.head?, ¬IsNumeral c) (hm' : ∀ c ∈ more'.head?, ¬IsNumeral c)
    (h : Nat.toDigits base m ++ more = Nat.toDigits base n ++ more') : m = n ∧ more = more' := by
  obtain ⟨digits, rest⟩ :=
    append_inj_of_run (isNumeral_of_mem_toDigits hb) (isNumeral_of_mem_toDigits hb) hm hm' h
  exact ⟨toDigits_inj hb hb' digits, rest⟩

/-- A number at the end of a text is read from the right. -/
theorem append_toDigits_inj {base m n : Nat} {front front' : List Char} {mark : Char} (hb : 1 < base)
    (hb' : base ≤ 16) (hm : ¬IsNumeral mark)
    (h : front ++ mark :: Nat.toDigits base m = front' ++ mark :: Nat.toDigits base n) :
    front = front' ∧ m = n := by
  have digits (n : Nat) : ∀ c ∈ (Nat.toDigits base n).reverse, IsNumeral c := fun c hc =>
    isNumeral_of_mem_toDigits hb c (List.mem_reverse.1 hc)
  have behind (text : List Char) : ∀ c ∈ (mark :: text).head?, ¬IsNumeral c := by
    intro c hc
    cases hc
    exact hm
  have reversed : (Nat.toDigits base m).reverse ++ mark :: front.reverse =
      (Nat.toDigits base n).reverse ++ mark :: front'.reverse := by
    simpa using congrArg List.reverse h
  obtain ⟨number, rest⟩ := append_inj_of_run (digits m) (digits n) (behind _) (behind _) reversed
  exact ⟨List.reverse_inj.1 (List.cons.inj rest).2, toDigits_inj hb hb' (List.reverse_inj.1 number)⟩

/-! ### Values one behind the other -/

/-- What is written for a value shows where it ends, whatever stands behind it. -/
def SelfDelimiting {α : Type} (write : α → List Char) : Prop :=
  ∀ ⦃a b : α⦄ ⦃more more' : List Char⦄, write a ++ more = write b ++ more' → a = b ∧ more = more'

/-- A list of values shows where it ends when a character stands behind it that opens no value. -/
theorem SelfDelimiting.flatMap {α : Type} {write : α → List Char} (h : SelfDelimiting write) {close : Char}
    (opens : ∀ a, ∃ c more, write a = c :: more ∧ c ≠ close) :
    SelfDelimiting fun values : List α => values.flatMap write ++ [close] := by
  intro values values' more more' e
  induction values generalizing values' with
  | nil =>
    cases values' with
    | nil => exact ⟨rfl, by simpa using e⟩
    | cons a values' =>
      obtain ⟨c, text, ha, hc⟩ := opens a
      simp only [List.flatMap_nil, List.flatMap_cons, ha, List.nil_append, List.cons_append, List.cons.injEq] at e
      exact absurd e.1.symm hc
  | cons a values ih =>
    cases values' with
    | nil =>
      obtain ⟨c, text, ha, hc⟩ := opens a
      simp only [List.flatMap_nil, List.flatMap_cons, ha, List.nil_append, List.cons_append, List.cons.injEq] at e
      exact absurd e.1 hc
    | cons b values' =>
      simp only [List.flatMap_cons, List.append_assoc] at e
      obtain ⟨rfl, rest⟩ := h e
      obtain ⟨rfl, rfl⟩ := ih (by simpa only [List.append_assoc] using rest)
      exact ⟨rfl, rfl⟩

end AnnotatedSql
