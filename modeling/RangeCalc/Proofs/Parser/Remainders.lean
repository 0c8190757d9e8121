import RangeCalc.Proofs.Parser.Failures

/-! Where runs end. A parser moves on over the elements it was given or stays where it is, whether
it comes to a result or fails. -/

namespace RangeCalc

namespace Cursor

variable {σ : Type} {start middle stop : Cursor σ}

/-- The second cursor is over the same elements, where the first one is or behind it. -/
def LeadsTo (start stop : Cursor σ) : Prop :=
  ∃ passed, start.remaining = passed ++ stop.remaining ∧
    stop.position = start.position + passed.length

theorem LeadsTo.refl (start : Cursor σ) : start.LeadsTo start :=
  ⟨[], rfl, rfl⟩

theorem LeadsTo.trans (hfirst : start.LeadsTo middle) (hlater : middle.LeadsTo stop) :
    start.LeadsTo stop := by
  obtain ⟨passed, hremaining, hposition⟩ := hfirst
  obtain ⟨further, hremaining', hposition'⟩ := hlater
  refine ⟨passed ++ further, ?_, ?_⟩
  · rw [hremaining, hremaining', List.append_assoc]
  · rw [hposition', hposition, List.length_append, Nat.add_assoc]

theorem LeadsTo.position_le (h : start.LeadsTo stop) : start.position ≤ stop.position := by
  obtain ⟨passed, -, hposition⟩ := h
  omega

/-- What a cursor leads to is reached by moving on over the elements ahead of it. -/
theorem LeadsTo.exists_advance (h : start.LeadsTo stop) :
    ∃ count ≤ start.remaining.length, stop = start.advance count := by
  obtain ⟨position, items⟩ := start
  obtain ⟨place, rest⟩ := stop
  obtain ⟨passed, hremaining, hposition⟩ := h
  simp only at hremaining hposition
  subst hremaining hposition
  exact ⟨passed.length, by simp, by simp [advance]⟩

theorem leadsTo_advance {count : Nat} (hcount : count ≤ start.remaining.length) :
    start.LeadsTo (start.advance count) := by
  refine ⟨start.remaining.take count, ?_, ?_⟩
  · rw [remaining_advance, List.take_append_drop]
  · rw [position_advance, List.length_take, Nat.min_eq_left hcount]

theorem leadsTo_of_next {item : σ} (hnext : start.next = some (item, stop)) :
    start.LeadsTo stop := by
  obtain ⟨position, items⟩ := start
  cases items with
  | nil => contradiction
  | cons first others =>
      cases hnext
      exact ⟨[item], rfl, rfl⟩

end Cursor

namespace Parser

variable {σ α β : Type} {p : Parser σ α} {cursor rest : Cursor σ}

/-- The run from `cursor` comes to an end at `rest`, with a result or without. -/
def EndsAt (p : Parser σ α) (cursor rest : Cursor σ) : Prop :=
  (∃ value, p.run cursor = .done value rest) ∨ ∃ message, p.run cursor = .failed message rest

theorem endsAt_map_iff {f : α → β} : (p.map f).EndsAt cursor rest ↔ p.EndsAt cursor rest := by
  simp only [EndsAt, run_map]
  cases p.run cursor <;> simp

theorem endsAt_label_iff {text : Cursor σ → String} :
    (p.label text).EndsAt cursor rest ↔ p.EndsAt cursor rest := by
  simp only [EndsAt, label]
  cases p.run cursor with
  | done value stop => rfl
  | failed message stop => simp only; split <;> simp
  | diverges => rfl

theorem endsAt_mapMessage_iff {f : String → String} :
    (p.mapMessage f).EndsAt cursor rest ↔ p.EndsAt cursor rest := by
  simp only [EndsAt, mapMessage]
  cases p.run cursor <;> simp

theorem endsAt_filter_iff {accepts : α → Bool} {message : α → String} :
    (p.filter accepts message).EndsAt cursor rest ↔ p.EndsAt cursor rest := by
  simp only [EndsAt, filter]
  cases p.run cursor with
  | done value stop => simp only; split <;> simp
  | failed message stop => rfl
  | diverges => rfl

theorem endsAt_bind_iff {next : α → Parser σ β} :
    (p.bind next).EndsAt cursor rest ↔
      (∃ message, p.run cursor = .failed message rest) ∨
        ∃ found middle, p.run cursor = .done found middle ∧ (next found).EndsAt middle rest := by
  simp only [EndsAt, bind]
  cases p.run cursor with
  | done found middle =>
      simp only [reduceCtorEq, exists_false, false_or, Outcome.done.injEq]
      constructor
      · exact fun hnext => ⟨found, middle, ⟨rfl, rfl⟩, hnext⟩
      · intro hparts
        obtain ⟨_, _, ⟨rfl, rfl⟩, hnext⟩ := hparts
        exact hnext
  | failed message stop => simp
  | diverges => simp

theorem endsAt_of_orElse {q : Parser σ α} (hends : (p.orElse q).EndsAt cursor rest) :
    p.EndsAt cursor rest ∨ q.EndsAt cursor rest := by
  simp only [EndsAt, orElse] at hends ⊢
  cases hrun : p.run cursor with
  | done value stop => exact .inl (by simpa [hrun] using hends)
  | failed message stop => exact .inr (by simpa [hrun] using hends)
  | diverges => simp [hrun] at hends

theorem endsAt_of_rewind (hends : p.rewind.EndsAt cursor rest) :
    p.EndsAt cursor rest ∨ rest = cursor := by
  simp only [EndsAt, rewind] at hends ⊢
  cases hrun : p.run cursor with
  | done value stop => exact .inl (by simpa [hrun] using hends)
  | failed message stop => exact .inr (by simpa [hrun, eq_comm] using hends)
  | diverges => simp [hrun] at hends

/-- No run of `p` ends before its start or over other elements. -/
def Forward (p : Parser σ α) : Prop :=
  ∀ ⦃cursor rest⦄, p.EndsAt cursor rest → cursor.LeadsTo rest

theorem forward_succeed (value : α) : (succeed value : Parser σ α).Forward := by
  intro cursor rest hends
  rcases hends with ⟨_, hrun⟩ | ⟨_, hrun⟩ <;> cases hrun
  exact .refl cursor

theorem forward_fail (message : String) : (fail message : Parser σ α).Forward := by
  intro cursor rest hends
  rcases hends with ⟨_, hrun⟩ | ⟨_, hrun⟩ <;> cases hrun
  exact .refl cursor

theorem forward_diverge : (diverge : Parser σ α).Forward := by
  intro cursor rest hends
  rcases hends with ⟨_, hrun⟩ | ⟨_, hrun⟩ <;> cases hrun

theorem forward_position : (position : Parser σ Nat).Forward := by
  intro cursor rest hends
  rcases hends with ⟨_, hrun⟩ | ⟨_, hrun⟩ <;> cases hrun
  exact .refl cursor

theorem forward_satisfy (accepts : σ → Bool) (message : σ → String) :
    (satisfy accepts message).Forward := by
  intro cursor rest hends
  rcases hends with ⟨item, hrun⟩ | ⟨text, hrun⟩
  · exact Cursor.leadsTo_of_next (run_satisfy_eq_done_iff.mp hrun).1
  · have hrefused := failsAt_satisfy_iff.mp ⟨text, rest, hrun⟩
    have hfails : (satisfy accepts message).FailsHere cursor := failsHere_satisfy hrefused
    obtain ⟨reason, hhere⟩ := hfails
    rw [hhere] at hrun
    cases hrun
    exact .refl cursor

theorem forward_take (count : Nat) : (take count : Parser σ (List σ)).Forward := by
  intro cursor rest hends
  simp only [EndsAt, run_take] at hends
  split at hends
  · simp only [reduceCtorEq, exists_false, false_or, Outcome.failed.injEq] at hends
    obtain ⟨_, -, rfl⟩ := hends
    exact .refl cursor
  · simp only [reduceCtorEq, exists_false, or_false, Outcome.done.injEq] at hends
    obtain ⟨_, -, rfl⟩ := hends
    exact Cursor.leadsTo_advance (by omega)

theorem forward_endOfInput : (endOfInput : Parser σ Unit).Forward := by
  intro cursor rest hends
  rcases hends with ⟨value, hrun⟩ | ⟨message, hrun⟩
  · obtain ⟨-, rfl⟩ := run_endOfInput_eq_done_iff.mp hrun
    exact .refl rest
  · simp only [endOfInput] at hrun
    split at hrun <;> cases hrun
    exact .refl cursor

theorem Forward.map (hp : p.Forward) (f : α → β) : (p.map f).Forward :=
  fun _ _ hends => hp (endsAt_map_iff.mp hends)

theorem Forward.label (hp : p.Forward) (text : Cursor σ → String) : (p.label text).Forward :=
  fun _ _ hends => hp (endsAt_label_iff.mp hends)

theorem Forward.mapMessage (hp : p.Forward) (f : String → String) : (p.mapMessage f).Forward :=
  fun _ _ hends => hp (endsAt_mapMessage_iff.mp hends)

theorem Forward.filter (hp : p.Forward) (accepts : α → Bool) (message : α → String) :
    (p.filter accepts message).Forward :=
  fun _ _ hends => hp (endsAt_filter_iff.mp hends)

theorem forward_exactlyList [DecidableEq σ] [Quoted σ] (expected : List σ) :
    (exactlyList expected).Forward :=
  ((forward_take _).mapMessage _).filter _ _

theorem Forward.bind {next : α → Parser σ β} (hp : p.Forward)
    (hnext : ∀ value, (next value).Forward) : (p.bind next).Forward := by
  intro cursor rest hends
  rcases endsAt_bind_iff.mp hends with hfailed | ⟨found, middle, hfound, hlater⟩
  · exact hp (.inr hfailed)
  · exact (hp (.inl ⟨found, hfound⟩)).trans (hnext found hlater)

theorem Forward.pair {q : Parser σ β} (hp : p.Forward) (hq : q.Forward) : (p.pair q).Forward := by
  have hbind : p.pair q = p.bind fun found => q.map fun other => (found, other) := rfl
  rw [hbind]
  exact hp.bind fun _ => hq.map _

theorem Forward.keepRight {q : Parser σ β} (hp : p.Forward) (hq : q.Forward) :
    (p.keepRight q).Forward :=
  (hp.pair hq).map _

theorem Forward.keepLeft {q : Parser σ β} (hp : p.Forward) (hq : q.Forward) :
    (p.keepLeft q).Forward :=
  (hp.pair hq).map _

theorem Forward.orElse {q : Parser σ α} (hp : p.Forward) (hq : q.Forward) :
    (p.orElse q).Forward := by
  intro cursor rest hends
  rcases endsAt_of_orElse hends with hfirst | hsecond
  · exact hp hfirst
  · exact hq hsecond

theorem Forward.optional (hp : p.Forward) : p.optional.Forward :=
  (hp.map some).orElse (forward_succeed none)

theorem Forward.rewind (hp : p.Forward) : p.rewind.Forward := by
  intro cursor rest hends
  rcases endsAt_of_rewind hends with hreached | rfl
  · exact hp hreached
  · exact .refl rest

theorem Repeats.leadsTo (hp : p.Forward) {values : List α} {finish : Cursor σ}
    (hrepeats : Repeats p cursor values finish) : cursor.LeadsTo finish := by
  induction hrepeats with
  | stop => exact .refl _
  | step hrun _ ih => exact (hp (.inl ⟨_, hrun⟩)).trans ih

theorem Forward.many (hp : p.Forward) : p.many.Forward := by
  intro cursor rest hends
  rcases hends with ⟨values, hrun⟩ | ⟨message, hrun⟩
  · exact (run_many_eq_done_iff.mp hrun).leadsTo hp
  · exact absurd ⟨message, rest, hrun⟩ not_failsAt_many

theorem Forward.many1 (hp : p.Forward) : p.many1.Forward :=
  (hp.pair hp.many).map _

/-- The failures met before these alternatives lie ahead too: one of them may end the run. -/
private theorem leadsTo_of_choiceFrom {alternatives : List (Parser σ α)}
    {failures : List (Failure σ)} (hforward : ∀ p ∈ alternatives, p.Forward)
    (hfailures : ∀ failure ∈ failures, cursor.LeadsTo failure.rest)
    (hends : (∃ value, choiceFrom cursor failures alternatives = .done value rest) ∨
      ∃ message, choiceFrom cursor failures alternatives = .failed message rest) :
    cursor.LeadsTo rest := by
  induction alternatives generalizing failures with
  | nil =>
      have hrest : (Failure.merge cursor failures.reverse).rest = rest := by
        simpa [choiceFrom] using hends
      rcases Failure.rest_merge cursor failures.reverse with hmerge | ⟨failure, hmem, hmerge⟩
      · rw [← hrest, hmerge]
        exact .refl cursor
      · rw [← hrest, hmerge]
        exact hfailures failure (List.mem_reverse.mp hmem)
  | cons p alternatives ih =>
      obtain ⟨hp, hlater⟩ := List.forall_mem_cons.mp hforward
      simp only [choiceFrom] at hends
      cases hrun : p.run cursor with
      | done value stop =>
          simp only [hrun, Outcome.done.injEq, reduceCtorEq, exists_false, or_false] at hends
          obtain ⟨_, -, rfl⟩ := hends
          exact hp (.inl ⟨value, hrun⟩)
      | failed message stop =>
          simp only [hrun] at hends
          refine ih hlater ?_ hends
          exact List.forall_mem_cons.mpr ⟨hp (.inr ⟨message, hrun⟩), hfailures⟩
      | diverges => simp [hrun] at hends

theorem forward_choice {alternatives : List (Parser σ α)}
    (hforward : ∀ p ∈ alternatives, p.Forward) : (choice alternatives).Forward :=
  fun _ _ hends => leadsTo_of_choiceFrom hforward (by simp) hends

end Parser

end RangeCalc
