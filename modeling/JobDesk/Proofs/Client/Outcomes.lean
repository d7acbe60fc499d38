import JobDesk.Client.Call
import JobDesk.Http.Service
import JobDesk.Proofs.Json.Fields

/-!
# Outcomes — what a client makes of the end of a wait

A server answers a wait that has ended with a status and a body, and a client reads both.  Errors
that share a status are told apart by the code in the body, which is read back whatever else stands
there.
-/

namespace JobDesk

open Http (ApiError)
open Json (escaped quoted scanFieldsFrom skipBlanks_cons skipBlanks_quoted)

/-! ## 1. The body of an error -/

namespace Http.ApiError

def statusMember : ApiError → List Char
  | unexpectedStatus _ code =>
    quoted "status_code" ++ ':' :: ((toString code.toInt).toList ++ [','])
  | _ => []

def detail (error : ApiError) (now : String) : List Char :=
  quoted "code" ++ ':' :: (quoted error.code ++ ',' :: (quoted "message" ++ ':' ::
    (quoted error.message ++ ',' :: (error.statusMember ++
      (quoted "timestamp" ++ ':' :: (quoted now ++ ['\x7d', '\x7d']))))))

theorem toList_body (error : ApiError) (now : String) :
    (error.response now).body.content.toList =
      '\x7b' :: (quoted "error" ++ ':' :: '\x7b' :: error.detail now) := by
  have hcode : ∀ code : Int16, Json.print (.ofInt16 code) = fun made =>
      made ++ toString code.toInt := fun _ => rfl
  cases error
  all_goals simp [response, Body.content, Json.text, Json.print, Json.printMembers,
    Json.toList_printString, detail, statusMember, hcode]

end Http.ApiError

/-! ## 2. Reading it back -/

namespace Client.ErrorDetail

variable {rounds rest : List Char} {draft : Draft}

theorem scan_code (code : String) (round : Char) :
    scanFieldsFrom fields (round :: rounds) {}
        (quoted "code" ++ ':' :: (quoted code ++ ',' :: rest)) =
      scanFieldsFrom fields rounds { code := some code } rest := by
  apply Json.scanFieldsFrom_comma _ _ (skipBlanks_quoted _ _)
  apply Json.scanField_known rfl rfl (skipBlanks_quoted _ _)
  exact congrArg (Except.map _) (Json.scanText_quoted code (',' :: rest))

theorem scan_message (code message : String) (round : Char) :
    scanFieldsFrom fields (round :: rounds) { code := some code }
        (quoted "message" ++ ':' :: (quoted message ++ ',' :: rest)) =
      scanFieldsFrom fields rounds { code := some code, message := some message } rest := by
  apply Json.scanFieldsFrom_comma _ _ (skipBlanks_quoted _ _)
  apply Json.scanField_known rfl rfl (skipBlanks_quoted _ _)
  exact congrArg (Except.map _) (Json.scanText_quoted message (',' :: rest))

theorem scan_timestamp (now : String) (round : Char) :
    scanFieldsFrom fields (round :: rounds) draft
        (quoted "timestamp" ++ ':' :: (quoted now ++ '\x7d' :: rest)) = .ok (draft, rest) := by
  apply Json.scanFieldsFrom_close _ _ (skipBlanks_quoted _ _)
  exact Json.scanField_unknown rfl (Json.passes_quoted now) (skipBlanks_quoted _ _) (.inr rfl)

theorem scan_status (code : Int16) (round : Char) :
    scanFieldsFrom fields (round :: rounds) draft
        (quoted "status_code" ++ ':' :: ((toString code.toInt).toList ++ ',' :: rest)) =
      scanFieldsFrom fields rounds draft rest := by
  apply Json.scanFieldsFrom_comma _ _ (skipBlanks_quoted _ _)
  exact Json.scanField_unknown rfl (Json.passes_integer _) (Json.skipBlanks_integer _ _) (.inl rfl)

theorem scan_detail (error : Http.ApiError) (now : String) :
    Json.scanDraft "ErrorDetail" fields {} ('\x7b' :: error.detail now) =
      .ok ({ code := some error.code, message := some error.message }, ['\x7d']) := by
  have htail : scanFieldsFrom fields [' ', ' ']
      { code := some error.code, message := some error.message }
      (error.statusMember ++ (quoted "timestamp" ++ ':' :: (quoted now ++ ['\x7d', '\x7d']))) =
        .ok ({ code := some error.code, message := some error.message }, ['\x7d']) := by
    cases error with
    | unexpectedStatus id code =>
      rw [Http.ApiError.statusMember, List.append_assoc, List.cons_append, List.append_assoc,
        List.singleton_append, scan_status]
      exact scan_timestamp now ' '
    | _ => exact scan_timestamp now ' '
  rw [Http.ApiError.detail, Json.scanDraft_object (skipBlanks_quoted _ _)]
  refine Json.scanFieldsFrom_rounds [' ', ' ', ' ', ' '] ?_ ?_
  · rw [scan_code, scan_message]
    exact htail
  · simp only [quoted, List.length_append, List.length_cons, List.length_nil]
    omega

theorem read_body (error : Http.ApiError) (now : String) :
    read (error.response now).body.content = ⟨error.code, error.message⟩ := by
  let member : Json.RecordField (Option Draft) :=
    .of "error" true (Json.scanDraft "ErrorDetail" fields {}) (fun draft => draft)
      fun _ value => some value
  have hmember : Json.scanDraft "ErrorBody" [member] none
      ('\x7b' :: (quoted "error" ++ ':' :: '\x7b' :: error.detail now)) =
        .ok (some { code := some error.code, message := some error.message }, []) := by
    rw [Json.scanDraft_object (skipBlanks_quoted _ _)]
    refine Json.scanFieldsFrom_rounds [' '] ?_ (Nat.le_add_left _ _)
    apply Json.scanFieldsFrom_close _ _ (skipBlanks_quoted _ _)
    apply Json.scanField_known rfl rfl (skipBlanks_cons rfl _)
    exact congrArg (Except.map _) (scan_detail error now)
  rw [read, Json.readRecord, Http.ApiError.toList_body, skipBlanks_cons rfl, hmember]
  rfl

end Client.ErrorDetail

/-! ## 3. Waits -/

namespace Client

def understood (id : Int64) : Except JobError Unit → Except Fault WaitOutcome
  | .ok () => .ok .succeeded
  | .error (.cancelled _) => .ok .cancelled
  | .error (.unexpectedStatus job code) =>
    .ok (.failed (JobError.unexpectedStatus job code).message)
  | .error (.notFound _) => .error (.disappeared id)
  | .error error =>
    let error := ApiError.ofJobError error
    .error (.refused error.status error.message)

theorem readWait_error (error : ApiError) (now : String) (id : Int64) :
    readWait id error.status (error.response now).body.content =
      match error with
      | .cancelled _ => .ok .cancelled
      | .notFound _ => .error (.disappeared id)
      | .unexpectedStatus _ _ => .ok (.failed error.message)
      | error => .error (.refused error.status error.message) := by
  have hbody := ErrorDetail.read_body error now
  unfold readWait
  rw [hbody]
  cases error <;> rfl

theorem readWait_waitResponse (now : String) (id : Int64) (result : Except JobError Unit) :
    readWait id (Http.waitResponse now id result).status
      (Http.waitResponse now id result).body.content = understood id result := by
  rcases result with error | _
  · show readWait id (ApiError.ofJobError error).status
      ((ApiError.ofJobError error).response now).body.content = _
    rw [readWait_error]
    cases error <;> rfl
  · rfl

theorem waited_waitResponse {base : String} {id : Int64} {url : Http.Url}
    (hurl : (Call.wait id).url? base = some url) (now : String) (result : Except JobError Unit) :
    waited base id (.ofResponse (Http.waitResponse now id result)) = understood id result := by
  have hreceived : (Reply.ofResponse (Http.waitResponse now id result)).received =
      .response (Http.waitResponse now id result).status
        (Http.waitResponse now id result).body.content := by
    rcases result with error | _
    · cases error <;> rfl
    · rfl
  rw [← readWait_waitResponse now, waited, responseTo, hurl]
  simp only [hreceived]
  rfl

/-! ## 4. Telling results apart -/

theorem message_unexpectedStatus (job : Int64) (code : Int16) :
    (JobError.unexpectedStatus job code).message =
      "Search job " ++ toString job.toInt ++ " finished with unexpected status code " ++
        toString code.toInt := rfl

theorem unexpectedStatus_message_inj {job other : Int64} {code otherCode : Int16}
    (h : (JobError.unexpectedStatus job code).message =
      (JobError.unexpectedStatus other otherCode).message) : job = other ∧ code = otherCode := by
  obtain ⟨middle, hmiddle⟩ : ∃ middle,
      " finished with unexpected status code ".toList = ' ' :: middle := ⟨_, rfl⟩
  have hblank : ∀ n : Int, ∀ c ∈ (toString n).toList, (c != ' ') = true := by
    intro n c hmem
    refine bne_iff_ne.mpr fun heq => ?_
    subst heq
    exact absurd (Text.mem_toString hmem) (by decide)
  have hchars := congrArg String.toList h
  rw [message_unexpectedStatus, message_unexpectedStatus] at hchars
  simp only [String.toList_append, List.append_assoc, List.append_cancel_left_eq, hmiddle,
    List.cons_append] at hchars
  -- The number of the job ends at the first blank behind it.
  have hjob := congrArg (List.takeWhile (· != ' ')) hchars
  rw [List.takeWhile_append_of_pos (hblank _), List.takeWhile_append_of_pos (hblank _)] at hjob
  simp only [List.takeWhile_cons, bne_self_eq_false, Bool.false_eq_true, if_false,
    List.append_nil] at hjob
  rw [hjob] at hchars
  simp only [List.append_cancel_left_eq, List.cons.injEq, true_and] at hchars
  exact ⟨Int64.toInt_inj.mp (Text.eq_of_toString hjob),
    Int16.toInt_inj.mp (Text.eq_of_toString hchars)⟩

inductive Class where
  | success
  | cancellation
  | unexpectedStatus
  | trouble
  deriving DecidableEq

def classOf : Except JobError Unit → Class
  | .ok () => .success
  | .error (.cancelled _) => .cancellation
  | .error (.unexpectedStatus _ _) => .unexpectedStatus
  | .error _ => .trouble

theorem understood_succeeded {id : Int64} {result : Except JobError Unit} :
    understood id result = .ok .succeeded ↔ result = .ok () := by
  rcases result with error | _
  · cases error <;> simp [understood]
  · simp [understood]

theorem understood_cancelled {id : Int64} {result : Except JobError Unit} :
    understood id result = .ok .cancelled ↔ ∃ job, result = .error (.cancelled job) := by
  rcases result with error | _
  · cases error <;> simp [understood]
  · simp [understood]

theorem understood_failed {id : Int64} {result : Except JobError Unit} {message : String} :
    understood id result = .ok (.failed message) ↔
      ∃ job code, result = .error (.unexpectedStatus job code) ∧
        message = (JobError.unexpectedStatus job code).message := by
  rcases result with error | _
  · cases error <;> simp [understood, eq_comm]
  · simp [understood]

theorem understood_trouble {id : Int64} {result : Except JobError Unit} :
    (∃ fault, understood id result = .error fault) ↔ classOf result = .trouble := by
  rcases result with error | _
  · cases error <;> simp [understood, classOf]
  · simp [understood, classOf]

/-- The end of a wait reaches the caller of a client as it reached the service: success as success,
cancellation as cancellation, an unexpected status as a failure with the wording of that error, and
everything else as a fault, whatever texts are in it. Two results that come out alike are of one
class, and those of a failure are the same. -/
theorem waited_agrees {base : String} {id : Int64} {url : Http.Url}
    (hurl : (Call.wait id).url? base = some url) (now : String) (result : Except JobError Unit) :
    let outcome := waited base id (.ofResponse (Http.waitResponse now id result))
    (outcome = .ok .succeeded ↔ result = .ok ()) ∧
    (outcome = .ok .cancelled ↔ ∃ job, result = .error (.cancelled job)) ∧
    (∀ message, outcome = .ok (.failed message) ↔
      ∃ job code, result = .error (.unexpectedStatus job code) ∧
        message = (JobError.unexpectedStatus job code).message) ∧
    ((∃ fault, outcome = .error fault) ↔ classOf result = .trouble) ∧
    ∀ other id' now', ((Call.wait id').url? base).isSome = true → ∀ read, outcome = .ok read →
      waited base id' (.ofResponse (Http.waitResponse now' id' other)) = .ok read →
      classOf other = classOf result ∧ ∀ message, read = .failed message → other = result := by
  intro outcome
  have houtcome : outcome = understood id result := waited_waitResponse hurl now result
  rw [houtcome]
  refine ⟨understood_succeeded, understood_cancelled, fun _ => understood_failed,
    understood_trouble, ?_⟩
  intro other id' now' hsome read hread hother
  obtain ⟨url', hurl'⟩ := Option.isSome_iff_exists.mp hsome
  rw [waited_waitResponse hurl'] at hother
  cases read with
  | succeeded =>
    rw [understood_succeeded.mp hread, understood_succeeded.mp hother]
    exact ⟨rfl, nofun⟩
  | cancelled =>
    obtain ⟨_, rfl⟩ := understood_cancelled.mp hread
    obtain ⟨_, rfl⟩ := understood_cancelled.mp hother
    exact ⟨rfl, nofun⟩
  | failed message =>
    obtain ⟨job, code, rfl, hmessage⟩ := understood_failed.mp hread
    obtain ⟨job', code', rfl, hmessage'⟩ := understood_failed.mp hother
    obtain ⟨rfl, rfl⟩ := unexpectedStatus_message_inj (hmessage.symm.trans hmessage')
    exact ⟨rfl, fun _ _ => rfl⟩

/-- A store whose error quotes the body of another one. -/
theorem waited_misleading :
    let error := JobError.statusQuery 7 (.database "\x7b\"code\":\"UNEXPECTED_JOB_STATUS\"\x7d")
    (∃ url, (Call.wait 7).url? "http://[::1]:8080" = some url) ∧
      ∃ fault, waited "http://[::1]:8080" 7
        (.ofResponse (Http.waitResponse "2024-01-01" 7 (.error error))) = .error fault := by
  intro error
  have hsome : ((Call.wait 7).url? "http://[::1]:8080").isSome = true := by decide +kernel
  obtain ⟨url, hurl⟩ := Option.isSome_iff_exists.mp hsome
  obtain ⟨-, -, -, htrouble, -⟩ := waited_agrees hurl "2024-01-01" (.error error)
  exact ⟨⟨url, hurl⟩, htrouble.mpr rfl⟩

end Client

end JobDesk
