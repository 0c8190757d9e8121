import RangeCalc.Evaluation.Meanings
import RangeCalc.Input.Console
import RangeCalc.Proofs.Evaluation.Simulation
import RangeCalc.Text.Lines

/-! What an evaluation writes while it asks for inputs: prompts, with a refusal behind each answer
that is not a number in the range, and nothing else, however it ends. -/

namespace RangeCalc

open RangeCalc.Text

/-- A prompt for a number in a range, and the answer that was refused, if one was. -/
structure Exchange where
  lower : Int64
  upper : Int64
  refused : Option (List Char)
deriving DecidableEq

namespace Exchange

def text (exchange : Exchange) : String :=
  Console.prompt exchange.lower exchange.upper ++
    match exchange.refused with
    | none => ""
    | some answer => Console.refusal answer exchange.lower exchange.upper

def transcript (exchanges : List Exchange) : List UInt8 :=
  exchanges.flatMap fun exchange => encode exchange.text

@[simp] theorem transcript_nil : transcript [] = [] := rfl

@[simp] theorem transcript_append (exchanges later : List Exchange) :
    transcript (exchanges ++ later) = transcript exchanges ++ transcript later :=
  List.flatMap_append

end Exchange

/-- The evaluation of an expression that asks for its inputs and reads them from the bytes. Whatever
it writes finds room. -/
def Expr.dialogue (e : Expr) (input : List UInt8) : Except EvalError Int64 × Console :=
  ((Semantics.concrete .prompting).evaluateClosed e).run.run (.ofInput input none)

namespace Console

variable {console middle final : Console} {lower upper : Int64}

theorem output_ofInput (input : List UInt8) (room : Option Nat) :
    (ofInput input room).output = [] := rfl

theorem output_append (hroom : console.room = none) (bytes : List UInt8) :
    (console.append bytes).output = console.output ++ bytes := by
  simp [append, hroom, output]

theorem room_append (hroom : console.room = none) (bytes : List UInt8) :
    (console.append bytes).room = none := by
  simp [append, hroom]

theorem run_write (hroom : console.room = none) (text : String) :
    (write text).run.run console = (.ok (), console.append (encode text)) := by
  have hfits : console.hasRoom (encode text) = true := by rw [hasRoom, hroom]
  have hwrite : (write text).run.run console =
      (if console.hasRoom (encode text) then pure () else
        throw (.noInput "writer full") : Eval Console Unit).run.run
          (console.append (encode text)) :=
    rfl
  rw [hwrite, if_pos hfits]
  rfl

/-- A console on which whatever is written finds room. -/
def unlimited (lines : List Line) (written : List UInt8) : Console :=
  ⟨lines, written, none⟩

section Unlimited

variable {lines : List Line} {written : List UInt8}

theorem run_write_unlimited (text : String) :
    (write text).run.run (unlimited lines written) =
      (.ok (), unlimited lines ((encode text).reverse ++ written)) :=
  run_write rfl text

theorem run_dropLine_unlimited (line : Line) :
    dropLine.run.run (unlimited (line :: lines) written) = (.ok (), unlimited lines written) :=
  rfl

theorem transcript_prompt (lower upper : Int64) :
    Exchange.transcript [⟨lower, upper, none⟩] = encode (prompt lower upper) := by
  simp [Exchange.transcript, Exchange.text]

theorem transcript_refusal (lower upper : Int64) (answer : List Char) :
    Exchange.transcript [⟨lower, upper, some answer⟩] =
      encode (prompt lower upper) ++ encode (refusal answer lower upper) := by
  simp [Exchange.transcript, Exchange.text]

/-- Asks, reads an answer and refuses it. -/
def refuse (lower upper : Int64) (answer : List Char) : Eval Console Unit := do
  write (prompt lower upper)
  dropLine
  write (refusal answer lower upper)

theorem ask_of_refused {line : Line} {text : String} (later : List Line)
    (hdecode : decode? line = some text)
    (hrefused : accept? lower upper (trim text.toList) = none) :
    ask lower upper (line :: later) =
      refuse lower upper (trim text.toList) >>= fun _ => ask lower upper later := by
  simp only [ask, refuse, hdecode, hrefused, bind_assoc]

theorem run_refuse_unlimited (answer : List Char) (line : Line) :
    (refuse lower upper answer).run.run (unlimited (line :: lines) written) =
      (.ok (), unlimited lines
        ((Exchange.transcript [⟨lower, upper, some answer⟩]).reverse ++ written)) := by
  rw [refuse, Eval.run_bind_of_ok (run_write_unlimited _),
    Eval.run_bind_of_ok (run_dropLine_unlimited _), run_write_unlimited, transcript_refusal,
    List.reverse_append, List.append_assoc]

theorem run_prompting (hordered : lower ≤ upper) (console : Console) :
    (Provider.prompting lower upper).run.run console =
      (ask lower upper console.lines).run.run console := by
  rw [Provider.prompting, if_neg (Int64.not_lt.mpr hordered)]
  rfl

end Unlimited

/-- Behind what had been written, the exchanges were written, and there is room for more. -/
structure Continues (console : Console) (exchanges : List Exchange) (final : Console) : Prop where
  output : final.output = console.output ++ Exchange.transcript exchanges
  room : final.room = none

namespace Continues

variable {exchanges later : List Exchange}

theorem refl (hroom : console.room = none) : console.Continues [] console where
  output := by rw [Exchange.transcript_nil, List.append_nil]
  room := hroom

theorem trans (hfirst : console.Continues exchanges middle)
    (hlater : middle.Continues later final) : console.Continues (exchanges ++ later) final where
  output := by
    rw [hlater.output, hfirst.output, Exchange.transcript_append, List.append_assoc]
  room := hlater.room

end Continues

/-- Whatever the computation comes to, what it writes is a dialogue, where there is no limit to what
can be written. -/
def Converses {α : Type} (x : Eval Console α) : Prop :=
  ∀ ⦃console : Console⦄, console.room = none →
    ∃ exchanges, console.Continues exchanges (x.run.run console).2

section Steps

variable {α β : Type}

theorem converses_pure (value : α) : Converses (pure value : Eval Console α) :=
  fun _ hroom => ⟨[], .refl hroom⟩

theorem converses_throw (problem : EvalError) : Converses (throw problem : Eval Console α) :=
  fun _ hroom => ⟨[], .refl hroom⟩

theorem Converses.bind {x : Eval Console α} {next : α → Eval Console β} (hfirst : Converses x)
    (hnext : ∀ value, Converses (next value)) : Converses (x >>= next) := by
  intro console hroom
  obtain ⟨exchanges, hcontinues⟩ := hfirst hroom
  cases hrun : x.run.run console with
  | mk result middle =>
      rw [hrun] at hcontinues
      cases result with
      | ok value =>
          obtain ⟨later, hlater⟩ := hnext value hcontinues.room
          rw [Eval.run_bind_of_ok hrun]
          exact ⟨exchanges ++ later, hcontinues.trans hlater⟩
      | error problem =>
          rw [Eval.run_bind_of_error hrun]
          exact ⟨exchanges, hcontinues⟩

end Steps

section Ask

private def withoutLine (console : Console) : Console :=
  { console with lines := console.lines.tail }

private theorem run_dropLine (console : Console) :
    dropLine.run.run console = (.ok (), console.withoutLine) := rfl

private theorem continues_prompt (hroom : console.room = none) :
    console.Continues [⟨lower, upper, none⟩] (console.append (encode (prompt lower upper))) where
  output := by
    rw [output_append hroom]
    simp [Exchange.transcript, Exchange.text]
  room := room_append hroom _

private theorem continues_answer (hroom : console.room = none) :
    console.Continues [⟨lower, upper, none⟩]
      (console.append (encode (prompt lower upper))).withoutLine where
  output := (continues_prompt hroom).output
  room := (continues_prompt hroom).room

private theorem continues_refusal (hroom : console.room = none) (answer : List Char) :
    console.Continues [⟨lower, upper, some answer⟩]
      ((console.append (encode (prompt lower upper))).withoutLine.append
        (encode (refusal answer lower upper))) where
  output := by
    rw [output_append (continues_answer hroom).room, (continues_answer hroom).output]
    simp [Exchange.transcript, Exchange.text]
  room := room_append (continues_answer hroom).room _

/-- An answer that is refused leads to the next prompt. -/
theorem ask_converses (lower upper : Int64) (lines : List Line) :
    Converses (ask lower upper lines) := by
  induction lines with
  | nil =>
      intro console hroom
      refine ⟨[⟨lower, upper, none⟩], ?_⟩
      rw [ask, Eval.run_bind_of_ok (run_write hroom _)]
      exact continues_prompt hroom
  | cons line later ih =>
      intro console hroom
      rw [ask, Eval.run_bind_of_ok (run_write hroom _), Eval.run_bind_of_ok (run_dropLine _)]
      cases hdecode : decode? line with
      | none => exact ⟨[⟨lower, upper, none⟩], continues_answer hroom⟩
      | some text =>
          dsimp only
          cases haccept : accept? lower upper (trim text.toList) with
          | some value => exact ⟨[⟨lower, upper, none⟩], continues_answer hroom⟩
          | none =>
              have hrefusal : console.Continues [⟨lower, upper, some (trim text.toList)⟩] _ :=
                continues_refusal hroom _
              obtain ⟨exchanges, hlater⟩ := ih hrefusal.room
              refine ⟨⟨lower, upper, some (trim text.toList)⟩ :: exchanges, ?_⟩
              dsimp only
              rw [Eval.run_bind_of_ok (run_write (continues_answer hroom).room _)]
              exact hrefusal.trans hlater

end Ask

theorem prompting_converses (lower upper : Int64) :
    Converses (Provider.prompting lower upper) := by
  rw [Provider.prompting]
  split
  · exact converses_throw _
  · exact fun console hroom => ask_converses lower upper console.lines hroom

section Evaluation

theorem checked_converses (operation : Arithmetic) (exact : Int) :
    Converses (operation.checked exact) := by
  unfold Arithmetic.checked
  split
  · exact converses_pure _
  · exact converses_throw _

theorem combine_converses (op : Operator) (left right : Int64) :
    Converses (Arithmetic.combine op left right) := by
  cases op with
  | plus => exact checked_converses _ _
  | times => exact checked_converses _ _

theorem request_converses (lower upper : Int64) :
    Converses ((Semantics.concrete .prompting).request lower upper) := by
  rw [Semantics.request]
  split
  · exact converses_throw _
  · apply (prompting_converses lower upper).bind
    intro value
    split
    · exact converses_pure value
    · exact converses_throw _

theorem resolve_converses (env : Env Int64) (name : String) :
    Converses (Semantics.resolve env name) := by
  rw [Semantics.resolve]
  split
  · exact converses_pure _
  · exact converses_throw _

/-- Only inputs write, and they write what they ask. -/
theorem evaluate_converses (e : Expr) (env : Env Int64) :
    Converses ((Semantics.concrete .prompting).evaluate e env) := by
  induction e generalizing env with
  | literal value =>
      rw [Semantics.evaluate_literal]
      exact converses_pure value
  | input lower upper =>
      rw [Semantics.evaluate_input]
      exact request_converses lower upper
  | var name =>
      rw [Semantics.evaluate_var]
      exact resolve_converses env name
  | negate operand ih =>
      rw [Semantics.evaluate_negate]
      exact (ih env).bind fun _ => checked_converses _ _
  | binary op left right ihLeft ihRight =>
      rw [Semantics.evaluate_binary]
      apply (ihLeft env).bind
      intro leftValue
      exact (ihRight env).bind fun rightValue => combine_converses op leftValue rightValue
  | letIn name bound body ihBound ihBody =>
      rw [Semantics.evaluate_letIn]
      exact (ihBound env).bind fun value => ihBody (env.bind name value)

theorem exists_transcript {e : Expr} {input : List UInt8} {result : Except EvalError Int64}
    {final : Console} (hrun : e.dialogue input = (result, final)) :
    ∃ exchanges, final.output = Exchange.transcript exchanges := by
  obtain ⟨exchanges, hcontinues⟩ :=
    evaluate_converses e .empty (show (ofInput input none).room = none from rfl)
  refine ⟨exchanges, ?_⟩
  have houtput := hcontinues.output
  rwa [← Semantics.evaluateClosed, ← Expr.dialogue, hrun, output_ofInput, List.nil_append]
    at houtput

end Evaluation

end Console

end RangeCalc
