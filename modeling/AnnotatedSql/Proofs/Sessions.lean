import AnnotatedSql.Lexer.Session

/-!
# Sessions against the whole list

The steps of a session take the tokens of a source off one after the other.  What is left for a step follows from
how many tokens the steps before it took (`taken`), and everything that the step answers and records is a slice of
what is left.

* `reply_eq`: one step, from any state of the lexer;
* `value_session`, `events_session`: a run of steps, from any state;
* `session_slices`: a session from the start of a source, against the tokens of the whole source.
-/

namespace AnnotatedSql.Lexer

namespace Step

/-- Number of tokens that the step takes when `remaining` are left. -/
def count (remaining : Nat) : Step → Nat
  | next => min 1 remaining
  | nth n => min (n + 1) remaining
  | take n => min n remaining
  | rest | collect => remaining

/-- What the step hands out when the given tokens are left. -/
def answer (left : List Token) : Step → Reply
  | next => .one left.head?
  | nth n => .one left[n]?
  | take n => .many (left.take n)
  | rest | collect => .many left

/-- Number of tokens that the steps take in turn when `remaining` are left. -/
def taken (remaining : Nat) : List Step → Nat
  | [] => 0
  | step :: steps => step.count remaining + taken (remaining - step.count remaining) steps

theorem count_le (remaining : Nat) (step : Step) : step.count remaining ≤ remaining := by
  cases step with
  | next | nth | take => exact Nat.min_le_right _ _
  | rest | collect => exact Nat.le_refl _

theorem taken_le (remaining : Nat) (steps : List Step) : taken remaining steps ≤ remaining := by
  induction steps generalizing remaining with
  | nil => exact Nat.zero_le _
  | cons step steps ih =>
    have := step.count_le remaining
    have := ih (remaining - step.count remaining)
    rw [taken]
    omega

theorem taken_append (remaining : Nat) (steps more : List Step) :
    taken remaining (steps ++ more) = taken remaining steps + taken (remaining - taken remaining steps) more := by
  induction steps generalizing remaining with
  | nil => simp [taken]
  | cons step steps ih =>
    rw [List.cons_append, taken, taken, ih]
    rw [Nat.sub_sub, Nat.add_assoc]

/-- A step that finds nothing left hands out nothing. -/
theorem answer_nil (step : Step) : step.answer [] = .one none ∨ step.answer [] = .many [] := by
  cases step <;> simp [answer]

end Step

/-! ### One step -/

theorem next_eq (l : Lexer) :
    l.next.value.1 = l.tokens.head? ∧ l.next.value.2.tokens = l.tokens.drop 1 ∧
      l.next.events = (l.tokens.take 1).map .lexed := by
  cases h : l.next? with
  | none => simp [next, h, next?_eq_none_iff.1 h]
  | some read => simp [next, h, tokens_eq_cons_of_next? h, Logged.record]

theorem nth_eq (l : Lexer) (n : Nat) :
    (l.nth n).value.1 = l.tokens[n]? ∧ (l.nth n).value.2.tokens = l.tokens.drop (n + 1) ∧
      (l.nth n).events = (l.tokens.take (n + 1)).map .lexed := by
  obtain ⟨answer, left, events⟩ := (l.take n).value.2.next_eq
  have skipped := (value_take n l).2
  rw [skipped] at answer left events
  refine ⟨?_, ?_, ?_⟩
  · rw [nth, Logged.value_bind, answer, List.head?_drop]
  · rw [nth, Logged.value_bind, left, List.drop_drop]
  · rw [nth, Logged.events_bind, events, events_take, List.take_add, List.map_append]

/-- A step answers with a slice of the tokens that are left, takes them off, and records each token that it takes
once. -/
theorem reply_eq (l : Lexer) (step : Step) :
    (l.reply step).value.1 = step.answer l.tokens ∧
      (l.reply step).value.2.tokens = l.tokens.drop (step.count l.tokens.length) ∧
      (l.reply step).events = (l.tokens.take (step.count l.tokens.length)).map .lexed := by
  -- a number of tokens counts up to the end of the list
  have cut (n : Nat) : l.tokens.drop (min n l.tokens.length) = l.tokens.drop n ∧
      l.tokens.take (min n l.tokens.length) = l.tokens.take n := by
    constructor
    · rw [List.drop_eq_drop_iff, Nat.min_assoc, Nat.min_self]
    · rw [List.take_eq_take_iff, Nat.min_assoc, Nat.min_self]
  cases step with
  | next =>
    obtain ⟨answer, left, events⟩ := l.next_eq
    simp only [reply, Logged.value_map, Logged.events_map, Prod.map, id, Step.answer, Step.count, cut]
    exact ⟨congrArg Reply.one answer, left, events⟩
  | nth n =>
    obtain ⟨answer, left, events⟩ := l.nth_eq n
    simp only [reply, Logged.value_map, Logged.events_map, Prod.map, id, Step.answer, Step.count, cut]
    exact ⟨congrArg Reply.one answer, left, events⟩
  | take n =>
    obtain ⟨answer, left⟩ := value_take n l
    simp only [reply, Logged.value_map, Logged.events_map, Prod.map, id, Step.answer, Step.count, cut]
    exact ⟨congrArg Reply.many answer, left, events_take n l⟩
  | rest | collect =>
    obtain ⟨answer, left⟩ := l.value_rest
    simp only [reply, Logged.value_map, Logged.events_map, Prod.map, id, Step.answer, Step.count,
      List.drop_length, List.take_length]
    exact ⟨congrArg Reply.many answer, next?_eq_none_iff.1 left, l.events_rest⟩

/-! ### Runs of steps -/

/-- A session answers its first step and goes on with what that leaves. -/
theorem session_cons {step : Step} {steps : List Step} (h : step = .collect → steps = []) (l : Lexer) :
    (l.session (step :: steps)).value =
        (l.reply step).value.1 :: ((l.reply step).value.2.session steps).value ∧
      (l.session (step :: steps)).events =
        (l.reply step).events ++ ((l.reply step).value.2.session steps).events := by
  cases step with
  | next | nth | take | rest => exact ⟨rfl, rfl⟩
  | collect =>
    rw [h rfl]
    exact ⟨rfl, (List.append_nil _).symm⟩

private theorem ends_cons {step : Step} {steps : List Step} (h : .collect ∉ (step :: steps).dropLast) :
    (step = .collect → steps = []) ∧ .collect ∉ steps.dropLast := by
  cases steps with
  | nil => exact ⟨fun _ => rfl, List.not_mem_nil⟩
  | cons second steps =>
    rw [List.dropLast_cons_of_ne_nil (List.cons_ne_nil _ _), List.mem_cons, not_or] at h
    exact ⟨fun e => absurd e.symm h.1, h.2⟩

/-- Each step of a session answers with a slice of what the steps before it left. -/
theorem value_session {steps : List Step} (ends : .collect ∉ steps.dropLast) (l : Lexer) (j : Nat) :
    (l.session steps).value[j]? =
      steps[j]?.map fun step => step.answer (l.tokens.drop (Step.taken l.tokens.length (steps.take j))) := by
  induction steps generalizing l j with
  | nil => rfl
  | cons step steps ih =>
    obtain ⟨last, ends⟩ := ends_cons ends
    obtain ⟨answer, left, -⟩ := l.reply_eq step
    rw [(session_cons last l).1]
    cases j with
    | zero => simp [answer, Step.taken]
    | succ j =>
      rw [List.getElem?_cons_succ, List.getElem?_cons_succ, ih ends, left, List.length_drop, List.take_succ_cons,
        Step.taken]
      simp only [List.drop_drop]

/-- A session records the tokens that its steps take, each once and in order. -/
theorem events_session {steps : List Step} (ends : .collect ∉ steps.dropLast) (l : Lexer) :
    (l.session steps).events = (l.tokens.take (Step.taken l.tokens.length steps)).map .lexed := by
  induction steps generalizing l with
  | nil => rfl
  | cons step steps ih =>
    obtain ⟨last, ends⟩ := ends_cons ends
    obtain ⟨-, left, events⟩ := l.reply_eq step
    rw [(session_cons last l).2, events, ih ends, left, List.length_drop, Step.taken, List.take_add, List.map_append]

private theorem ends_take {steps : List Step} (h : .collect ∉ steps.dropLast) (j : Nat) :
    .collect ∉ (steps.take j).dropLast := by
  intro hm
  rw [List.dropLast_eq_take, List.take_take, List.length_take] at hm
  rw [List.dropLast_eq_take] at h
  exact h (List.take_subset_take_left steps (by omega) hm)

/-- A session hands out and records the tokens of a source as if they had been read all at once.  Its steps take
them off the front of the list, one step behind the other: a step answers with the slice that starts where the step
before it ended, and leaves one record for each token that it takes.  When all tokens are taken a step hands out
nothing and leaves no record. -/
theorem session_slices {steps : List Step} (ends : .collect ∉ steps.dropLast) (source : String) (start : Position)
    (config : Config) :
    let tokens := (lex source start config).value
    let run (steps : List Step) := (ofSource source start config).session steps
    let before (j : Nat) := Step.taken tokens.length (steps.take j)
    (run steps).value.length = steps.length ∧
      before steps.length ≤ tokens.length ∧
      (run steps).events.map (fun e => (e.level, e.message)) =
        (tokens.take (before steps.length)).map (fun t => (.trace, "lexed " ++ t.toText)) ∧
      ∀ j step, steps[j]? = some step →
        let left := tokens.drop (before j)
        before (j + 1) = before j + step.count left.length ∧
          (run steps).value[j]? = some (step.answer left) ∧
          (run (steps.take (j + 1))).events =
            (run (steps.take j)).events ++ (left.take (step.count left.length)).map .lexed ∧
          (before j = tokens.length →
            ((run steps).value[j]? = some (.one none) ∨ (run steps).value[j]? = some (.many [])) ∧
              (run (steps.take (j + 1))).events = (run (steps.take j)).events) := by
  intro tokens run before
  have whole : (ofSource source start config).tokens = tokens := (value_lex source start config).symm
  have value (j : Nat) : (run steps).value[j]? = steps[j]?.map fun step => step.answer (tokens.drop (before j)) := by
    simpa only [whole] using value_session ends (ofSource source start config) j
  have events (j : Nat) : (run (steps.take j)).events = (tokens.take (before j)).map .lexed := by
    simpa only [whole] using events_session (ends_take ends j) (ofSource source start config)
  refine ⟨?_, Step.taken_le _ _, ?_, ?_⟩
  · -- both lists end at the same index
    have ends_together (j : Nat) : (run steps).value.length ≤ j ↔ steps.length ≤ j := by
      rw [← List.getElem?_eq_none_iff, ← List.getElem?_eq_none_iff, value, Option.map_eq_none_iff]
    have := (ends_together (run steps).value.length).1 (Nat.le_refl _)
    have := (ends_together steps.length).2 (Nat.le_refl _)
    omega
  · have all := events steps.length
    rw [List.take_length] at all
    rw [all, List.map_map]
    rfl
  · intro j step hj left
    have moved : before (j + 1) = before j + step.count left.length := by
      have : steps.take (j + 1) = steps.take j ++ [step] := by rw [List.take_add_one, hj, Option.toList_some]
      simp only [before, left, this, Step.taken_append, Step.taken, List.length_drop, Nat.add_zero]
    have answer : (run steps).value[j]? = some (step.answer left) := by rw [value, hj, Option.map_some]
    have record : (run (steps.take (j + 1))).events =
        (run (steps.take j)).events ++ (left.take (step.count left.length)).map .lexed := by
      rw [events, events, moved, List.take_add, List.map_append]
    refine ⟨moved, answer, record, ?_⟩
    intro exhausted
    have nothing : left = [] := List.drop_eq_nil_iff.2 (Nat.le_of_eq exhausted.symm)
    rw [nothing] at answer record
    refine ⟨?_, by simpa using record⟩
    rw [answer]
    exact step.answer_nil.imp (congrArg some) (congrArg some)

/-- Steps of all kinds, two of which come after the last token. -/
theorem session_slices_of_mixed :
    let steps : List Step := [.next, .nth 1, .take 0, .rest, .nth 0, .collect]
    let run := (ofSource "a\n\n --é\nb\n" .literal {}).session steps
    .collect ∉ steps.dropLast ∧
      run.value[1]? = some (.one (some ⟨.comment, some "--é", ⟨"<literal>", 3, 1⟩⟩)) ∧
      run.value[3]? = some (.many [⟨.query, some "b", ⟨"<literal>", 4, 0⟩⟩, ⟨.query, some "", ⟨"<literal>", 5, 0⟩⟩]) ∧
      run.value[5]? = some (.many []) ∧ run.events.length = 5 := by
  have ends : Step.collect ∉ [Step.next, .nth 1, .take 0, .rest, .nth 0, .collect].dropLast := by decide
  obtain ⟨-, -, messages, slices⟩ := session_slices ends "a\n\n --é\nb\n" .literal {}
  rw [value_lex] at messages slices
  refine ⟨ends, (slices 1 _ rfl).2.1.trans (by decide), (slices 3 _ rfl).2.1.trans (by decide),
    (slices 5 _ rfl).2.1.trans (by decide), ?_⟩
  have count := congrArg List.length messages
  rw [List.length_map, List.length_map] at count
  exact count.trans (by decide)

end AnnotatedSql.Lexer
