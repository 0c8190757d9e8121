import RangeCalc.Proofs.Evaluation.Requests
import RangeCalc.Proofs.Input.Dialogue

/-! A limit to what can be written. A run under a limit does what the run without one does, up to
the byte at which there is no more room, and there it fails. -/

namespace RangeCalc

open RangeCalc.Text

namespace Exchange

def prompt (exchange : Exchange) : List UInt8 :=
  encode (Console.prompt exchange.lower exchange.upper)

/-- The prompts of the first `count` exchanges are among the first `room` bytes of the dialogue. -/
def PromptsWithin (room count : Nat) (exchanges : List Exchange) : Prop :=
  ∀ number < count, ∃ exchange, exchanges[number]? = some exchange ∧
    (transcript (exchanges.take number) ++ exchange.prompt).length ≤ room

variable {room count : Nat} {exchanges : List Exchange}

theorem transcript_cons (exchange : Exchange) (later : List Exchange) :
    transcript (exchange :: later) = encode exchange.text ++ transcript later :=
  List.flatMap_cons

theorem prompt_prefix_text (exchange : Exchange) : exchange.prompt <+: encode exchange.text := by
  rw [text, encode_append]
  exact List.prefix_append _ _

theorem length_prompt_le {number : Nat} {exchange : Exchange}
    (hexchange : exchanges[number]? = some exchange) :
    (transcript (exchanges.take number) ++ exchange.prompt).length ≤
      (transcript exchanges).length := by
  obtain ⟨hnumber, rfl⟩ := List.getElem?_eq_some_iff.mp hexchange
  have hsplit : exchanges.take number ++ exchanges[number] :: exchanges.drop (number + 1) =
      exchanges := by
    rw [← List.drop_eq_getElem_cons hnumber, List.take_append_drop]
  have htranscript := congrArg (List.length ∘ transcript) hsplit
  simp only [Function.comp_apply, transcript_append, transcript_cons, List.length_append]
    at htranscript
  have hprompt := (prompt_prefix_text exchanges[number]).length_le
  rw [List.length_append]
  omega

theorem promptsWithin_zero (room : Nat) (exchanges : List Exchange) :
    PromptsWithin room 0 exchanges :=
  fun _ hnumber => absurd hnumber (Nat.not_lt_zero _)

theorem PromptsWithin.append (h : PromptsWithin room count exchanges) (later : List Exchange) :
    PromptsWithin room count (exchanges ++ later) := by
  intro number hnumber
  obtain ⟨exchange, hexchange, hprompt⟩ := h number hnumber
  obtain ⟨hlength, -⟩ := List.getElem?_eq_some_iff.mp hexchange
  refine ⟨exchange, ?_, ?_⟩
  · rwa [List.getElem?_append_left hlength]
  · rwa [List.take_append_of_le_length (Nat.le_of_lt hlength)]

/-- Behind a dialogue for which there is room come the prompts for which room is left. -/
theorem PromptsWithin.behind {later : List Exchange} (hfits : (transcript exchanges).length ≤ room)
    (h : PromptsWithin (room - (transcript exchanges).length) count later) :
    PromptsWithin room (exchanges.length + count) (exchanges ++ later) := by
  intro number hnumber
  rcases Nat.lt_or_ge number exchanges.length with hfirst | hbeyond
  · have hexchange := List.getElem?_eq_getElem hfirst
    refine ⟨exchanges[number], ?_, ?_⟩
    · rw [List.getElem?_append_left hfirst, hexchange]
    · rw [List.take_append_of_le_length (Nat.le_of_lt hfirst)]
      exact Nat.le_trans (length_prompt_le hexchange) hfits
  · obtain ⟨exchange, hexchange, hprompt⟩ := h (number - exchanges.length) (by omega)
    refine ⟨exchange, ?_, ?_⟩
    · rw [List.getElem?_append_right hbeyond, hexchange]
    · rw [List.take_append, List.take_of_length_le hbeyond, transcript_append]
      simp only [List.length_append] at hprompt ⊢
      omega

end Exchange

namespace Console

variable {start middle final cut : Console} {exchanges later : List Exchange} {room : Nat}

def limit (console : Console) (room : Nat) : Console :=
  { console with room := some room }

/-- The exchanges were written, and a line was read for each, as long as there were lines. -/
structure Extends (start : Console) (exchanges : List Exchange) (final : Console) : Prop
    extends Continues start exchanges final where
  lines : final.lines = start.lines.drop exchanges.length

/-- Of the exchanges that were to be written there was room for the first bytes. A line was read
only behind its prompt. -/
structure CutShort (start : Console) (exchanges : List Exchange) (room : Nat) (cut : Console) :
    Prop where
  output : cut.output = start.output ++ (Exchange.transcript exchanges).take room
  lines : ∃ count, Exchange.PromptsWithin room count exchanges ∧
    cut.lines = start.lines.drop count

theorem Extends.refl (hroom : start.room = none) : start.Extends [] start where
  toContinues := .refl hroom
  lines := rfl

theorem Extends.trans (hfirst : start.Extends exchanges middle)
    (hlater : middle.Extends later final) :
    start.Extends (exchanges ++ later) final where
  toContinues := hfirst.toContinues.trans hlater.toContinues
  lines := by rw [hlater.lines, hfirst.lines, List.drop_drop, List.length_append]

theorem CutShort.append (h : start.CutShort exchanges room cut)
    (hfull : room < (Exchange.transcript exchanges).length) (later : List Exchange) :
    start.CutShort (exchanges ++ later) room cut where
  output := by
    rw [h.output, Exchange.transcript_append, List.take_append_of_le_length (Nat.le_of_lt hfull)]
  lines := by
    obtain ⟨count, hprompts, hlines⟩ := h.lines
    exact ⟨count, hprompts.append later, hlines⟩

theorem CutShort.behind (hfirst : start.Extends exchanges middle)
    (hfits : (Exchange.transcript exchanges).length ≤ room)
    (h : middle.CutShort later (room - (Exchange.transcript exchanges).length) cut) :
    start.CutShort (exchanges ++ later) room cut where
  output := by
    rw [h.output, hfirst.output, Exchange.transcript_append, List.take_append,
      List.take_of_length_le hfits, List.append_assoc]
  lines := by
    obtain ⟨count, hprompts, hlines⟩ := h.lines
    refine ⟨exchanges.length + count, hprompts.behind hfits, ?_⟩
    rw [hlines, hfirst.lines, List.drop_drop]

end Console

/-- A state with a console in it, and what shows of the requests that were made. -/
structure Setting (τ : Type) where
  console : τ → Console
  /-- The same state with room for no more than so many bytes. -/
  limit : τ → Nat → τ
  requests : τ → List (Int64 × Int64)

namespace Setting

variable {τ α β γ δ : Type} {setting : Setting τ} {R : α → β → Prop} {S : γ → δ → Prop}
  {start : τ} {x : Eval τ α} {y : Eval τ β}

def plain : Setting Console where
  console console := console
  limit := Console.limit
  requests _ := []

def recorded : Setting (Recorded Console) where
  console := Recorded.state
  limit recorded room := { recorded with state := recorded.state.limit room }
  requests := Recorded.requests

/-- The run from `start` to `final` writes the exchanges. From the same start, with no more than
`room`, a run comes to this outcome: to what is found without a limit, if there is room for all, and
otherwise to the failure where there is none. -/
inductive Limits (setting : Setting τ) (start : τ) (exchanges : List Exchange) (final : τ)
    (found : Except EvalError β) (room : Nat) : Except EvalError β × τ → Prop where
  | whole (hfits : (Exchange.transcript exchanges).length ≤ room) :
      Limits setting start exchanges final found room
        (found, setting.limit final (room - (Exchange.transcript exchanges).length))
  | cut {cut : τ} (hfull : room < (Exchange.transcript exchanges).length)
      (hcut : (setting.console start).CutShort exchanges room (setting.console cut))
      (hrequests : setting.requests cut <+: setting.requests final) :
      Limits setting start exchanges final found room (.error (.noInput "writer full"), cut)

/-- Where the first computation has no limit, the second, under any limit, does the same or is cut
short. -/
def Truncates (setting : Setting τ) (R : α → β → Prop) (start : τ) (x : Eval τ α)
    (y : Eval τ β) : Prop :=
  ∀ room, ∃ result found final exchanges, x.run.run start = (result, final) ∧
    (setting.console start).Extends exchanges (setting.console final) ∧
    setting.requests start <+: setting.requests final ∧ Result.Related R result found ∧
    setting.Limits start exchanges final found room (y.run.run (setting.limit start room))

theorem truncates_of_quiet {result : Except EvalError α} {found : Except EvalError β}
    (hroom : (setting.console start).room = none) (hresult : Result.Related R result found)
    (hx : x.run.run start = (result, start))
    (hy : ∀ room, y.run.run (setting.limit start room) = (found, setting.limit start room)) :
    setting.Truncates R start x y := by
  intro room
  refine ⟨result, found, start, [], hx, .refl hroom, List.prefix_rfl, hresult, ?_⟩
  rw [hy]
  exact .whole (Nat.zero_le room)

theorem Truncates.bind {next : α → Eval τ γ} {next' : β → Eval τ δ}
    (hfirst : setting.Truncates R start x y)
    (hnext : ∀ value found middle, x.run.run start = (.ok value, middle) →
      (setting.console middle).room = none → R value found →
      setting.Truncates S middle (next value) (next' found)) :
    setting.Truncates S start (x >>= next) (y >>= next') := by
  intro room
  obtain ⟨result, found, middle, exchanges, hx, hextends, hrequests, hrelated, hlimits⟩ :=
    hfirst room
  generalize hy : y.run.run (setting.limit start room) = outcome at hlimits
  cases hrelated with
  | error problem =>
      refine ⟨.error problem, .error problem, middle, exchanges, Eval.run_bind_of_error hx,
        hextends, hrequests, .error problem, ?_⟩
      cases hlimits with
      | whole hfits =>
          rw [Eval.run_bind_of_error hy]
          exact .whole hfits
      | cut hfull hcut hbefore =>
          rw [Eval.run_bind_of_error hy]
          exact .cut hfull hcut hbefore
  | @ok value found hvalue =>
      obtain ⟨last, last', final, later, hlast, hlater, hrequests', hrelated', hlimits'⟩ :=
        hnext value found middle hx hextends.room hvalue
          (room - (Exchange.transcript exchanges).length)
      refine ⟨last, last', final, exchanges ++ later, (Eval.run_bind_of_ok hx).trans hlast,
        hextends.trans hlater, hrequests.trans hrequests', hrelated', ?_⟩
      have hlength : (Exchange.transcript (exchanges ++ later)).length =
          (Exchange.transcript exchanges).length + (Exchange.transcript later).length := by
        rw [Exchange.transcript_append, List.length_append]
      cases hlimits with
      -- The first part left some room, and the later one is cut where that ends.
      | whole hfits =>
          rw [Eval.run_bind_of_ok hy]
          generalize (next' found).run.run _ = outcome' at hlimits'
          cases hlimits' with
          | whole hfits' =>
              rw [Nat.sub_sub, ← hlength]
              exact .whole (by omega)
          | cut hfull hcut hbefore =>
              exact .cut (by omega) (hcut.behind hextends hfits) hbefore
      | cut hfull hcut hbefore =>
          rw [Eval.run_bind_of_error hy]
          exact .cut (by omega) (hcut.append hfull later) (hbefore.trans hrequests')

end Setting

namespace Console

variable {lower upper : Int64} {lines : List Line} {written : List UInt8} {room : Nat}

theorem append_limit_unlimited (bytes : List UInt8) :
    (limit (unlimited lines written) room).append bytes =
      limit (unlimited lines ((bytes.take room).reverse ++ written)) (room - bytes.length) :=
  rfl

theorem run_write_limited (text : String) :
    (write text).run.run (limit (unlimited lines written) room) =
      (if (encode text).length ≤ room then .ok () else .error (.noInput "writer full"),
        limit (unlimited lines (((encode text).take room).reverse ++ written))
          (room - (encode text).length)) := by
  have hwrite : (write text).run.run (limit (unlimited lines written) room) =
      (if decide ((encode text).length ≤ room) = true then pure () else
        throw (.noInput "writer full") : Eval Console Unit).run.run
          ((limit (unlimited lines written) room).append (encode text)) :=
    rfl
  rw [hwrite, append_limit_unlimited]
  by_cases hfits : (encode text).length ≤ room
  · rw [if_pos (decide_eq_true hfits), if_pos hfits]
    rfl
  · rw [if_neg (by simpa using hfits), if_neg hfits]
    rfl

theorem run_write_of_fits {text : String} (hfits : (encode text).length ≤ room) :
    (write text).run.run (limit (unlimited lines written) room) =
      (.ok (), limit (unlimited lines ((encode text).reverse ++ written))
        (room - (encode text).length)) := by
  rw [run_write_limited, if_pos hfits, List.take_of_length_le hfits]

theorem run_write_of_full {text : String} (hfull : room < (encode text).length) :
    (write text).run.run (limit (unlimited lines written) room) =
      (.error (.noInput "writer full"),
        limit (unlimited lines (((encode text).take room).reverse ++ written))
          (room - (encode text).length)) := by
  rw [run_write_limited, if_neg (Nat.not_le_of_lt hfull)]

theorem extends_unlimited {exchanges : List Exchange} {later : List Line} {bytes : List UInt8}
    (hbytes : Exchange.transcript exchanges = bytes)
    (hlines : later = lines.drop exchanges.length) :
    (unlimited lines written).Extends exchanges (unlimited later (bytes.reverse ++ written)) where
  output := by simp [output, unlimited, hbytes]
  room := rfl
  lines := hlines

theorem cutShort_limit_unlimited {exchanges : List Exchange} {later : List Line} {count : Nat}
    {bytes : List UInt8} (left : Nat) (hbytes : (Exchange.transcript exchanges).take room = bytes)
    (hprompts : Exchange.PromptsWithin room count exchanges) (hlines : later = lines.drop count) :
    (unlimited lines written).CutShort exchanges room
      (limit (unlimited later (bytes.reverse ++ written)) left) where
  output := by simp [output, unlimited, limit, hbytes]
  lines := ⟨count, hprompts, hlines⟩

/-- A prompt behind which no more is written. Of the lines, one may be read. -/
theorem truncates_prompt {α : Type} {later : Eval Console α} {result : Except EvalError α}
    (hlater : ∀ written room,
      later.run.run ⟨lines, written, room⟩ = (result, ⟨lines.tail, written, room⟩)) :
    Setting.plain.Truncates Eq (unlimited lines written)
      (write (prompt lower upper) >>= fun _ => later)
      (write (prompt lower upper) >>= fun _ => later) := by
  intro room
  have htranscript := transcript_prompt lower upper
  refine ⟨result, result, _, [⟨lower, upper, none⟩],
    (Eval.run_bind_of_ok (run_write_unlimited _)).trans (hlater _ _),
    extends_unlimited htranscript List.drop_one.symm, List.prefix_rfl, .refl result, ?_⟩
  rcases Nat.lt_or_ge room (encode (prompt lower upper)).length with hfull | hfits
  · have hrun : (write (prompt lower upper) >>= fun _ => later).run.run
        (Setting.plain.limit (unlimited lines written) room) = _ :=
      Eval.run_bind_of_error (run_write_of_full hfull)
    rw [hrun]
    refine .cut (htranscript ▸ hfull) ?_ List.prefix_rfl
    exact cutShort_limit_unlimited _ (by rw [htranscript]) (Exchange.promptsWithin_zero _ _) rfl
  · have hrun : (write (prompt lower upper) >>= fun _ => later).run.run
        (Setting.plain.limit (unlimited lines written) room) =
        (result, limit (unlimited lines.tail ((encode (prompt lower upper)).reverse ++ written))
          (room - (Exchange.transcript [⟨lower, upper, none⟩]).length)) := by
      rw [htranscript]
      exact (Eval.run_bind_of_ok (run_write_of_fits hfits)).trans (hlater _ _)
    rw [hrun]
    exact .whole (htranscript ▸ hfits)

theorem run_dropLine_limited (line : Line) :
    dropLine.run.run (limit (unlimited (line :: lines) written) room) =
      (.ok (), limit (unlimited lines written) room) :=
  rfl

theorem truncates_refuse (answer : List Char) (line : Line) :
    Setting.plain.Truncates Eq (unlimited (line :: lines) written) (refuse lower upper answer)
      (refuse lower upper answer) := by
  intro room
  have htranscript := transcript_refusal lower upper answer
  have hlength := congrArg List.length htranscript
  rw [List.length_append] at hlength
  refine ⟨.ok (), .ok (), _, [⟨lower, upper, some answer⟩], run_refuse_unlimited answer line,
    extends_unlimited rfl rfl, List.prefix_rfl, .ok rfl, ?_⟩
  rcases Nat.lt_or_ge room (encode (prompt lower upper)).length with hfull | hprompt
  · have hrun : (refuse lower upper answer).run.run
        (Setting.plain.limit (unlimited (line :: lines) written) room) = _ :=
      Eval.run_bind_of_error (run_write_of_full hfull)
    rw [hrun]
    refine .cut (by omega) ?_ List.prefix_rfl
    refine cutShort_limit_unlimited _ ?_ (Exchange.promptsWithin_zero _ _) rfl
    rw [htranscript, List.take_append_of_le_length (Nat.le_of_lt hfull)]
  -- The prompt was written and the line read; it is the refusal that may find no room.
  have hasked : (refuse lower upper answer).run.run
      (Setting.plain.limit (unlimited (line :: lines) written) room) =
      (write (refusal answer lower upper)).run.run
        (limit (unlimited lines ((encode (prompt lower upper)).reverse ++ written))
          (room - (encode (prompt lower upper)).length)) := by
    rw [refuse]
    exact (Eval.run_bind_of_ok (run_write_of_fits hprompt)).trans
      (Eval.run_bind_of_ok (run_dropLine_limited _))
  rw [hasked]
  rcases Nat.lt_or_ge (room - (encode (prompt lower upper)).length)
    (encode (refusal answer lower upper)).length with hfull | hfits
  · rw [run_write_of_full hfull]
    refine .cut (by omega) ?_ List.prefix_rfl
    rw [← List.append_assoc, ← List.reverse_append]
    have hasked : Exchange.PromptsWithin room 1 [⟨lower, upper, some answer⟩] := by
      intro number hnumber
      obtain rfl : number = 0 := by omega
      exact ⟨_, rfl, hprompt⟩
    refine cutShort_limit_unlimited _ ?_ hasked rfl
    rw [htranscript, List.take_append, List.take_of_length_le hprompt]
  · rw [run_write_of_fits hfits, Nat.sub_sub, ← hlength, ← List.append_assoc,
      ← List.reverse_append, ← htranscript]
    exact .whole (by omega)

theorem truncates_ask (lower upper : Int64) (lines : List Line) (written : List UInt8) :
    Setting.plain.Truncates Eq (unlimited lines written) (ask lower upper lines)
      (ask lower upper lines) := by
  induction lines generalizing written with
  | nil => exact truncates_prompt fun _ _ => rfl
  | cons line later ih =>
      cases hdecode : decode? line with
      | none =>
          apply truncates_prompt
          intro written room
          simp only [hdecode]
          rfl
      | some text =>
          cases haccept : accept? lower upper (trim text.toList) with
          | some value =>
              apply truncates_prompt
              intro written room
              simp only [hdecode, haccept]
              rfl
          | none =>
              rw [ask_of_refused later hdecode haccept]
              apply (truncates_refuse _ _).bind
              intro _ _ middle hrefuse _ _
              rw [run_refuse_unlimited] at hrefuse
              cases hrefuse
              exact ih _

end Console

namespace Semantics

/-- A request is put on record whether or not there is room for its prompt. -/
theorem truncates_input {lower upper : Int64} (hordered : lower ≤ upper) {start : Recorded Console}
    (hroom : start.state.room = none) :
    Setting.recorded.Truncates Eq start
      ((concrete Provider.prompting.recorded).input lower upper)
      ((concrete Provider.prompting.recorded).input lower upper) := by
  obtain ⟨⟨lines, written, _⟩, asked⟩ := start
  obtain rfl : _ = none := hroom
  have hrecorded {console final : Console} {answer : Except EvalError Int64}
      (hask : (Console.ask lower upper console.lines).run.run console = (answer, final)) :
      (checkedInput Provider.prompting.recorded lower upper).run.run ⟨console, asked⟩ =
        (Provider.accepted lower upper answer, ⟨final, (lower, upper) :: asked⟩) := by
    rw [← Console.run_prompting hordered] at hask
    have hrecorded : (Provider.prompting.recorded lower upper).run.run ⟨console, asked⟩ = _ :=
      Provider.run_recorded hask
    exact Provider.run_checkedInput hrecorded
  intro room
  obtain ⟨answer, _, final, exchanges, hask, hextends, -, hrelated, hlimits⟩ :=
    Console.truncates_ask lower upper lines written room
  obtain rfl := hrelated.eq
  refine ⟨_, _, _, exchanges, hrecorded hask, hextends, ?_, .refl _, ?_⟩
  · simp [Setting.recorded, Recorded.requests]
  generalize houtcome : (Console.ask lower upper lines).run.run
    (Setting.plain.limit (Console.unlimited lines written) room) = outcome at hlimits
  change Setting.Limits _ _ _ _ _ _ ((checkedInput Provider.prompting.recorded lower upper).run.run
    ⟨Setting.plain.limit (Console.unlimited lines written) room, asked⟩)
  cases hlimits with
  | whole hfits =>
      rw [hrecorded houtcome]
      exact .whole hfits
  | cut hfull hcut _ =>
      rw [hrecorded houtcome]
      exact .cut hfull hcut List.prefix_rfl

end Semantics

def Eval.truncating : Eval.Comparison (Recorded Console) (Recorded Console) where
  Holds R x y := ∀ start : Recorded Console, start.state.room = none →
    Setting.recorded.Truncates R start x y
  of_pure hvalue _ hroom := Setting.truncates_of_quiet hroom (.ok hvalue) rfl fun _ => rfl
  of_throw _ problem _ hroom := Setting.truncates_of_quiet hroom (.error problem) rfl fun _ => rfl
  of_bind hfirst hnext start hroom :=
    (hfirst start hroom).bind fun value found middle _ hmiddle hvalue =>
      hnext value found hvalue middle hmiddle

namespace Semantics

/-- Only inputs write. -/
theorem concrete_corresponds_truncated :
    (concrete Provider.prompting.recorded).Corresponds Eval.truncating
      (concrete Provider.prompting.recorded) Eq where
  literal value := Eval.truncating.of_pure rfl
  combine op left right _ _ hleft hright := by
    subst hleft hright
    obtain ⟨result, hrun⟩ := Arithmetic.exists_run_combine op left right
    exact fun start hroom =>
      Setting.truncates_of_quiet hroom (.refl result) (hrun _ start) fun _ => hrun _ _
  negate := by
    rintro value _ rfl
    obtain ⟨result, hrun⟩ := Arithmetic.exists_run_checked .negation (-value.toInt)
    exact fun start hroom =>
      Setting.truncates_of_quiet hroom (.refl result) (hrun _ start) fun _ => hrun _ _
  input hordered _ hroom := truncates_input hordered hroom

end Semantics

/-- The evaluation on the console comes to the result, leaves the console so and asks for the
ranges. -/
structure Expr.RunsOn (e : Expr) (env : Env Int64) (console : Console)
    (result : Except EvalError Int64) (final : Recorded Console) : Prop where
  plain : ((Semantics.concrete .prompting).evaluate e env).run.run console = (result, final.state)
  recorded : ((Semantics.concrete Provider.prompting.recorded).evaluate e env).run.run
    (.start console) = (result, final)

/-- Where there is room for all that a run writes, a limit changes nothing. Otherwise the run fails
where there is no more room. What it wrote and asked for until then is what comes first without a
limit, and it read no line but those whose prompts it wrote. -/
theorem Expr.full_writer_truncates (e : Expr) (env : Env Int64) (input : List UInt8) (room : Nat) :
    ∃ result found whole cut exchanges,
      e.RunsOn env (.ofInput input none) result whole ∧
        e.RunsOn env (.ofInput input (some room)) found cut ∧
        whole.state.output = Exchange.transcript exchanges ∧
        whole.state.lines = (Line.split input).drop exchanges.length ∧
        (whole.state.output.length ≤ room →
          found = result ∧ cut.state.output = whole.state.output ∧
            cut.state.lines = whole.state.lines ∧ cut.requests = whole.requests) ∧
        (room < whole.state.output.length →
          found = .error (.noInput "writer full") ∧
            cut.state.output = whole.state.output.take room ∧
            cut.requests <+: whole.requests ∧
            ∃ count, Exchange.PromptsWithin room count exchanges ∧
              cut.state.lines = (Line.split input).drop count) := by
  have hevaluate := Semantics.concrete_corresponds_truncated.evaluate e (Env.Related.refl env)
  obtain ⟨result, _, whole, exchanges, hwhole, hextends, -, hrelated, hlimits⟩ :=
    hevaluate (.start (.ofInput input none)) rfl room
  obtain rfl := hrelated.eq
  have houtput : whole.state.output = Exchange.transcript exchanges := hextends.output
  have runsOn {console found final}
      (hrun : ((Semantics.concrete Provider.prompting.recorded).evaluate e env).run.run
        (.start console) = (found, final)) : e.RunsOn env console found final :=
    ⟨Semantics.run_concrete_of_recorded _ hrun, hrun⟩
  generalize hcut : ((Semantics.concrete Provider.prompting.recorded).evaluate e env).run.run
    (Setting.recorded.limit (.start (.ofInput input none)) room) = outcome at hlimits
  cases hlimits with
  | whole hfits =>
      rw [← houtput] at hfits
      exact ⟨result, result, whole, _, exchanges, runsOn hwhole, runsOn hcut, houtput,
        hextends.lines, fun _ => ⟨rfl, rfl, rfl, rfl⟩,
        fun hfull => absurd hfits (Nat.not_le_of_lt hfull)⟩
  | @cut cut hfull hshort hrequests =>
      have hwritten : cut.state.output = whole.state.output.take room :=
        houtput ▸ hshort.output
      rw [← houtput] at hfull
      exact ⟨result, _, whole, cut, exchanges, runsOn hwhole, runsOn hcut, houtput,
        hextends.lines, fun hfits => absurd hfits (Nat.not_le_of_lt hfull),
        fun _ => ⟨rfl, hwritten, hrequests, hshort.lines⟩⟩

end RangeCalc
