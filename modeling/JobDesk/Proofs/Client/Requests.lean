import JobDesk.Client.Call
import JobDesk.Proofs.Http.Task
import JobDesk.Proofs.Http.Visits

/-!
# Requests — what a service reads of the calls of a client

A service reads each call as what the client means by it: the health check as one that touches no
job, a wait and a cancellation as ones for the same job, and the cancellation as one on condition.
-/

namespace JobDesk

open Http (IsPlain Refusal Request Task mem_id readId_toString segments)

/-! ## 1. Targets with a query -/

namespace Http

variable {request : Request} {path query : String}

theorem path_of_query (htarget : request.target = path ++ "?" ++ query) {rest : List Char}
    (hslash : path.toList = '/' :: rest) (hplain : ∀ c ∈ path.toList, IsPlain c)
    (hquery : ∀ c ∈ query.toList, c ≠ '#') :
    routedPath request.path = path ∧ request.query = query := by
  have hchars : request.target.toList = path.toList ++ '?' :: query.toList := by
    rw [htarget, String.toList_append, String.toList_append, List.append_assoc]
    rfl
  have hresource : request.resource = path.toList ++ '?' :: query.toList := by
    have hhash : request.target.toList.takeWhile (· != '#') = request.target.toList := by
      refine takeWhile_of_forall fun c hc => ?_
      rw [hchars, List.mem_append, List.mem_cons] at hc
      rcases hc with hpath | rfl | hrest
      · simpa using (hplain c hpath).2.2.1
      · rfl
      · simpa using hquery c hrest
    simp only [Request.resource, hhash]
    rw [hchars, hslash]
    rfl
  -- The path ends at the question mark, which is not in it.
  have hpath : ∀ c ∈ path.toList, (c != '?') = true := fun c hc => by
    simpa using (hplain c hc).2.2.2
  have hcut := @List.takeWhile_append_of_pos _ (· != '?') _ ('?' :: query.toList) hpath
  have hleft := @List.dropWhile_append_of_pos _ (· != '?') _ ('?' :: query.toList) hpath
  constructor
  · rw [Request.path, hresource, hcut]
    simp only [List.takeWhile_cons, bne_self_eq_false, Bool.false_eq_true, if_false,
      List.append_nil, String.ofList_toList]
    exact lossy_unescape fun c hc => ⟨(hplain c hc).1, (hplain c hc).2.1⟩
  · rw [Request.query, hresource, hleft]
    simp only [List.dropWhile_cons, bne_self_eq_false, Bool.false_eq_true, if_false,
      List.drop_succ_cons, List.drop_zero, String.ofList_toList]

/-! ## 2. Paths of jobs -/

def jobPath (id : Int64) (word : String) : String := "/jobs/" ++ toString id.toInt ++ "/" ++ word

theorem toList_jobPath (id : Int64) (word : String) :
    (jobPath id word).toList =
      '/' :: ("jobs".toList ++ '/' :: ((toString id.toInt).toList ++ '/' :: word.toList)) := by
  simp only [jobPath, String.toList_append, List.append_assoc]
  rfl

theorem isPlain_jobPath {id : Int64} {word : String} (hword : ∀ c ∈ word.toList, IsPlain c) :
    ∀ c ∈ (jobPath id word).toList, IsPlain c := by
  have hslash : IsPlain '/' := by decide
  have hjobs : ∀ c ∈ "jobs".toList, IsPlain c := by simp [IsPlain]
  intro c hc
  rw [toList_jobPath] at hc
  simp only [List.mem_cons, List.mem_append] at hc
  rcases hc with rfl | hc | rfl | hc | rfl | hc
  · exact hslash
  · exact hjobs c hc
  · exact hslash
  · exact (mem_id hc).1
  · exact hslash
  · exact hword c hc

theorem segments_jobPath {id : Int64} {word : String} (hword : ∀ c ∈ word.toList, c ≠ '/') :
    segments (jobPath id word) = ["jobs", toString id.toInt, word] := by
  have hlast : word.toList.splitOn '/' = [word.toList] :=
    List.splitOnP_eq_singleton fun c hc => by simpa using hword c hc
  have hparts : (jobPath id word).toList.splitOn '/' =
      [[], "jobs".toList, (toString id.toInt).toList, word.toList] := by
    rw [toList_jobPath]
    show List.splitOnP _ ([] ++ '/' :: _) = _
    rw [List.splitOnP_append_cons_of_forall_mem (by simp) '/' (by decide),
      List.splitOnP_append_cons_of_forall_mem (by simp) '/' (by decide),
      List.splitOnP_append_cons_of_forall_mem (fun c hc => by simpa using (mem_id hc).2) '/'
        (by decide)]
    exact congrArg ([[], "jobs".toList, (toString id.toInt).toList] ++ ·) hlast
  simp only [segments, hparts, List.map_cons, List.map_nil, String.ofList_toList]

end Http

/-! ## 3. Calls -/

namespace Client.Call

theorem task_health : health.request.task = .ok .health := by
  have hplain : ∀ c ∈ "/health".toList, IsPlain c := by simp [IsPlain]
  have hrouted : Http.routedPath health.request.path = "/health" :=
    @Http.routedPath_of_plain health.request "health".toList rfl hplain
  have hsegments : segments "/health" = ["health"] := rfl
  unfold Request.task
  rw [hrouted, hsegments]
  rfl

theorem task_submit (config : Json) :
    (submit config).request.task = (submit config).request.json.map Task.submit := by
  have hplain : ∀ c ∈ "/jobs".toList, IsPlain c := by simp [IsPlain]
  have hslash : "/jobs".toList = '/' :: "jobs".toList := by decide
  have hrouted : Http.routedPath (submit config).request.path = "/jobs" :=
    @Http.routedPath_of_plain (submit config).request "jobs".toList hslash hplain
  have hsegments : segments "/jobs" = ["jobs"] := rfl
  unfold Request.task
  rw [hrouted, hsegments]
  rfl

theorem task_wait (id : Int64) : (wait id).request.task = .ok (.wait id) := by
  have hword : ∀ c ∈ "wait".toList, IsPlain c ∧ c ≠ '/' := by simp [IsPlain]
  have htarget : (wait id).request.target = Http.jobPath id "wait" := by
    rw [Http.jobPath, String.append_assoc]
    rfl
  have hplain : ∀ c ∈ (wait id).request.target.toList, IsPlain c := by
    rw [htarget]
    exact Http.isPlain_jobPath fun c hc => (hword c hc).1
  have hrouted := Http.routedPath_of_plain (htarget ▸ Http.toList_jobPath id "wait") hplain
  unfold Request.task
  rw [hrouted, htarget, Http.segments_jobPath fun c hc => (hword c hc).2]
  show (if toString id.toInt = "" then _ else _) = _
  rw [if_neg (Text.toString_ne_empty id.toInt), readId_toString]
  rfl

theorem task_cancelIfPending (id : Int64) :
    (cancelIfPending id).request.task = .ok (.cancel id true) := by
  have hword : ∀ c ∈ "cancel".toList, IsPlain c ∧ c ≠ '/' := by simp [IsPlain]
  have htarget : (cancelIfPending id).request.target =
      Http.jobPath id "cancel" ++ "?" ++ "only_pending=true" := by
    simp only [Http.jobPath, String.append_assoc]
    rfl
  obtain ⟨hrouted, hquery⟩ := Http.path_of_query htarget (Http.toList_jobPath id "cancel")
    (Http.isPlain_jobPath fun c hc => (hword c hc).1) (by simp)
  have hflag : (cancelIfPending id).request.cancelQuery = .ok ⟨true⟩ := by
    have hpairs : Http.formPairs "only_pending=true" = [("only_pending", "true")] := by
      decide +kernel
    rw [Request.cancelQuery, hquery, hpairs]
    rfl
  unfold Request.task
  rw [hrouted, Http.segments_jobPath fun c hc => (hword c hc).2]
  show (if toString id.toInt = "" then _ else _) = _
  rw [if_neg (Text.toString_ne_empty id.toInt), readId_toString, hflag]
  rfl

theorem task_eq_cancel_iff {call : Call} {id : Int64} {onlyPending : Bool} :
    call.request.task = .ok (.cancel id onlyPending) ↔
      call = .cancelIfPending id ∧ onlyPending = true := by
  cases call with
  | health =>
    rw [task_health]
    exact iff_of_false nofun nofun
  | submit config =>
    rw [task_submit]
    cases (submit config).request.json with
    | error refusal => exact iff_of_false nofun nofun
    | ok read => exact iff_of_false nofun nofun
  | wait key =>
    rw [task_wait]
    exact iff_of_false nofun nofun
  | cancelIfPending key =>
    rw [task_cancelIfPending]
    simp [eq_comm]

/-! ## 4. What calls ask of a desk -/

theorem event?_health (name : String) : health.request.event? name = none := by
  rw [Request.event?, task_health]

theorem event?_wait (name : String) (id : Int64) :
    (wait id).request.event? name = some (.wait name id none) := by
  rw [Request.event?, task_wait]

theorem event?_cancelIfPending (name : String) (id : Int64) :
    (cancelIfPending id).request.event? name = some (.cancelIfPending id) := by
  rw [Request.event?, task_cancelIfPending]
  rfl

theorem event?_submit {name : String} {config : Json} {event : Event}
    (h : (submit config).request.event? name = some event) : ∃ read, event = .submit read := by
  rw [Request.event?, task_submit] at h
  cases hjson : (submit config).request.json with
  | error refusal =>
    rw [hjson] at h
    cases h
  | ok read =>
    rw [hjson] at h
    cases read with
    | object members => exact ⟨_, (Option.some.inj h).symm⟩
    | null | bool | integer | float | string | array => cases h

end Client.Call

end JobDesk
