import RangeCalc.Proofs.Parser.Remainders

/-! Parsers that consume something whenever they succeed. To repeat one ends, after no more attempts
than one for each element ahead and a last one that fails. -/

namespace RangeCalc

theorem Cursor.LeadsTo.position_lt_iff {σ : Type} {start stop : Cursor σ}
    (h : start.LeadsTo stop) :
    start.position < stop.position ↔ stop.remaining.length < start.remaining.length := by
  obtain ⟨passed, hremaining, hposition⟩ := h
  rw [hremaining, hposition, List.length_append]
  omega

namespace Parser

variable {σ α β : Type} {p : Parser σ α} {q : Parser σ β} {cursor rest finish : Cursor σ}

/-- Every success of `p` leaves a part of the input that starts strictly further on. -/
def Progresses (p : Parser σ α) : Prop :=
  ∀ ⦃cursor value rest⦄, p.run cursor = .done value rest →
    cursor.LeadsTo rest ∧ cursor.position < rest.position

theorem Progresses.advances (hp : p.Progresses) : p.Advances := by
  intro cursor value rest hrun
  obtain ⟨hleads, hposition⟩ := hp hrun
  exact hleads.position_lt_iff.mp hposition

theorem Forward.progresses (hp : p.Forward) (hadvances : p.Advances) : p.Progresses := by
  intro cursor value rest hrun
  have hleads := hp (.inl ⟨value, hrun⟩)
  exact ⟨hleads, hleads.position_lt_iff.mpr (hadvances hrun)⟩

section Combinators

theorem progresses_satisfy (accepts : σ → Bool) (message : σ → String) :
    (satisfy accepts message).Progresses := by
  intro cursor item rest hrun
  have hnext := (run_satisfy_eq_done_iff.mp hrun).1
  refine ⟨Cursor.leadsTo_of_next hnext, ?_⟩
  rw [Cursor.next_eq_some_advance hnext, Cursor.position_advance]
  exact Nat.lt_succ_self cursor.position

theorem Progresses.map (hp : p.Progresses) (f : α → β) : (p.map f).Progresses := by
  intro cursor value rest hrun
  obtain ⟨_, hrun, -⟩ := run_map_eq_done_iff.mp hrun
  exact hp hrun

theorem Progresses.label (hp : p.Progresses) (text : Cursor σ → String) :
    (p.label text).Progresses :=
  fun _ _ _ hrun => hp (run_label_eq_done_iff.mp hrun)

/-- What the first part consumed, the others do not give back. -/
theorem Progresses.bind {next : α → Parser σ β} (hp : p.Progresses)
    (hnext : ∀ value, (next value).Forward) : (p.bind next).Progresses := by
  intro cursor value rest hrun
  obtain ⟨found, middle, hfound, hlater⟩ := run_bind_eq_done_iff.mp hrun
  obtain ⟨hfirst, hbeyond⟩ := hp hfound
  have hlater := hnext found (.inl ⟨value, hlater⟩)
  exact ⟨hfirst.trans hlater, Nat.lt_of_lt_of_le hbeyond hlater.position_le⟩

theorem Progresses.pair (hp : p.Progresses) (hq : q.Forward) : (p.pair q).Progresses := by
  have hbind : p.pair q = p.bind fun found => q.map fun other => (found, other) := rfl
  rw [hbind]
  exact hp.bind fun _ => hq.map _

theorem Progresses.keepRight (hp : p.Progresses) (hq : q.Forward) : (p.keepRight q).Progresses :=
  (hp.pair hq).map _

theorem Progresses.keepLeft (hp : p.Progresses) (hq : q.Forward) : (p.keepLeft q).Progresses :=
  (hp.pair hq).map _

theorem progresses_choice {alternatives : List (Parser σ α)}
    (hall : ∀ p ∈ alternatives, p.Progresses) : (choice alternatives).Progresses := by
  intro cursor value rest hrun
  induction alternatives with
  | nil => exact absurd hrun run_choice_nil_ne_done
  | cons p alternatives ih =>
      obtain ⟨hp, hlater⟩ := List.forall_mem_cons.mp hall
      rcases run_choice_cons_eq_done_iff.mp hrun with hfirst | ⟨-, hothers⟩
      · exact hp hfirst
      · exact ih hlater hothers

end Combinators

/-- A repetition of `p` from the cursor runs it so many times. The last time it fails. -/
inductive Attempts (p : Parser σ α) : Cursor σ → Nat → Prop where
  | last {cursor : Cursor σ} (hfails : p.FailsAt cursor) : Attempts p cursor 1
  | again {cursor rest : Cursor σ} {value : α} {count : Nat}
      (hrun : p.run cursor = .done value rest) (hlater : Attempts p rest count) :
      Attempts p cursor (count + 1)

theorem Repeats.attempts {values : List α} (h : Repeats p cursor values finish) :
    p.Attempts cursor (values.length + 1) := by
  induction h with
  | stop hfails => exact .last hfails
  | step hrun _ ih => exact .again hrun ih

/-- Every repetition of `p` ends. It makes one attempt for each of the values that it comes to and
one that fails, at most one more than there are elements ahead. -/
def RepeatsBriefly (p : Parser σ α) : Prop :=
  ∀ cursor, ∃ values finish, p.many.run cursor = .done values finish ∧
    p.Attempts cursor (values.length + 1) ∧ values.length + 1 ≤ cursor.remaining.length + 1

theorem Progresses.repeatsBriefly (hp : p.Progresses) (hreturns : p.Returns) :
    p.RepeatsBriefly := by
  intro cursor
  rcases (hreturns.many hp.advances).done_or_failsAt cursor with ⟨values, finish, hrun⟩ | hfails
  · have hrepeats := run_many_eq_done_iff.mp hrun
    have hlength := hrepeats.length_le hp.advances
    exact ⟨values, finish, hrun, hrepeats.attempts, by omega⟩
  · exact absurd hfails not_failsAt_many

end Parser

end RangeCalc
