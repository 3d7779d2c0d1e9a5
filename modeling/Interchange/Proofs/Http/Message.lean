import Interchange.Http.Failure
/-!
# The message of a failed reply

A body may tell what went wrong in three places.  They are searched in order, and the search ends at
the first place that holds anything; only then is it asked whether that is a text.  So a text is
found exactly if no earlier place holds something else, be it null.

* `HttpFailure.held` — what a body holds in the three places.
* `HttpFailure.bestText?` — the first text among it.
* `HttpFailure.message_eq_best_iff` — when this becomes the message.
-/

namespace Interchange.HttpFailure

variable {body : Value} {text m : String} {details : Option Value}

/-- What a body holds in the places for messages, in the order in which they are searched. -/
def held (body : Value) : List Value :=
  [(body.member? "error").bind fun e => e.member? "message", body.member? "message",
    body.member? "error"].filterMap id

/-- **The best message of a body**: the first text in the places for messages. -/
def bestText? (body : Value) : Option String := (held body).findSome? Value.text?

/-- Only the first of what a body holds can become the message. -/
theorem jsonMessage?_eq (body : Value) :
    jsonMessage? body = (held body).head?.bind Value.text? := by
  unfold jsonMessage? held
  cases (body.member? "error").bind fun e => e.member? "message" with
  | some v => rfl
  | none =>
      cases body.member? "message" with
      | some v => rfl
      | none => cases body.member? "error" <;> rfl

/-- The message of a body that offers none is a fault text, or the body itself. -/
theorem messageOf_eq (details : Option Value) (text : String) :
    messageOf details text = ((details.bind jsonMessage?).getD (messageOf none text)) := by
  unfold messageOf
  cases details.bind jsonMessage? with
  | some m => rfl
  | none => rfl

theorem message_ofReply (status : Nat) (text : String) (retryAfter : Option Nat) (body : Value)
    (json : Value.parse? text = some body) : (ofReply status text retryAfter).message =
      ((held body).head?.bind Value.text?).getD (messageOf none text) := by
  have message : (ofReply status text retryAfter).message = messageOf (some body) text := by
    rw [ofReply, json]
  rw [message, messageOf_eq, Option.bind_some, jsonMessage?_eq]

theorem text?_eq_some_iff {v : Value} : v.text? = some m ↔ v = .str m := by
  cases v with
  | str s => simp [Value.text?]
  | _ => simp [Value.text?]

/-- **The best message is kept exactly if nothing is held before it**, unless what is taken in its
place is the same by chance: the fault text, or the body itself. -/
theorem message_eq_best_iff (status : Nat) (retryAfter : Option Nat)
    (json : Value.parse? text = some body) (best : bestText? body = some m) :
    (ofReply status text retryAfter).message = m ↔
      (held body).head? = some (.str m) ∨ messageOf none text = m := by
  rw [message_ofReply status text retryAfter body json]
  unfold bestText? at best
  generalize held body = places at best ⊢
  cases places with
  | nil => cases best
  | cons v vs =>
      rw [List.findSome?_cons] at best
      rw [List.head?_cons, Option.bind_some, Option.some.injEq]
      cases isText : v.text? with
      | some k =>
          rw [isText, Option.some.injEq] at best
          have first : v = .str m := text?_eq_some_iff.mp (best ▸ isText)
          exact iff_of_true best (.inl first)
      | none =>
          have other : v ≠ .str m := fun same =>
            absurd (isText.symm.trans (text?_eq_some_iff.mpr same)) (by simp)
          rw [Option.getD_none]
          exact ⟨.inr, fun either => either.resolve_left other⟩

/-- The message in `error` is found whatever `message` holds. -/
def stateCodeBody : Value :=
  .obj [("error", .obj [("message", .str "bad state code")]), ("message", .bool false)]

theorem message_stateCode :
    bestText? stateCodeBody = some "bad state code" ∧
      (ofReply 400 stateCodeBody.render none).message = "bad state code" := by
  have json : Value.parse? stateCodeBody.render = some stateCodeBody := by decide +kernel
  have best : bestText? stateCodeBody = some "bad state code" := by decide +kernel
  exact ⟨best, (message_eq_best_iff 400 none json best).mpr (.inl (by decide +kernel))⟩

/-- A null in `error` hides the text in `message`. -/
def maskedBody : Value := .obj [("error", .obj [("message", .null)]), ("message", .str "bad state")]

theorem message_masked :
    Value.parse? maskedBody.render = some maskedBody ∧ bestText? maskedBody = some "bad state" ∧
      (ofReply 400 maskedBody.render none).message = maskedBody.render ∧
      (ofReply 400 maskedBody.render none).message ≠ "bad state" := by
  decide +kernel

end Interchange.HttpFailure
