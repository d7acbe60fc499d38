import JobDesk.Proofs.Http.Task
import JobDesk.Proofs.Http.Visits
import JobDesk.Proofs.Payload.RoundTrip
import Mathlib

/-!
# Posting — a config that was taken is read back

A submission is answered with status 201 only when it has put its payload into a new row.  Such a
row keeps its payload through every run that does not remove it, and a request for the job is then
answered with the config of the submission.
-/

namespace JobDesk

open MemoryStore (Sound Keeps)

/-! ## 1. Submissions -/

/-- A submission succeeds only where it puts the payload of its config into a new row. -/
theorem Coordinator.submit_ok {c : Coordinator} {store : MemoryStore} {config : Json} {id : Int64}
    (h : (c.submit store config).result = .ok id) :
    id = store.lastId + 1 ∧ ∃ payload, Payload.encode config = .ok payload ∧
      (c.submit store config).store = store.append payload := by
  unfold Coordinator.submit Coordinator.whenRunning at h ⊢
  split at h
  · cases h
  rename_i hrunning
  rw [if_neg hrunning]
  cases hencode : Payload.encode config with
  | error fault =>
    simp only [hencode] at h
    cases h
  | ok payload =>
    simp only [hencode, JobStore.insert] at h
    -- A closed table gives an error, so the table is open where there is an id.
    rw [Coordinator.store_ofStore]
    simp only [JobStore.insert]
    rcases store.whenOpen_spec (store.lastId + 1, store.append payload) with ⟨heq, -⟩ | ⟨heq, -⟩
    · rw [heq] at h
      cases h
    · rw [heq] at h ⊢
      exact ⟨(Except.ok.inj h).symm, payload, rfl, rfl⟩

namespace Http

def created (id : Int64) : Response := ⟨201, .json (SubmitReport.mk id).toJson⟩

theorem created_injective {id other : Int64} (h : created id = created other) : id = other := by
  simp only [created, SubmitReport.toJson, Json.ofInt64, Response.mk.injEq, Body.json.injEq,
    Json.object.injEq, List.cons.injEq, Prod.mk.injEq, Json.integer.injEq, Subtype.mk.injEq] at h
  exact Int64.toInt_inj.mp h.2.1.2

/-! ## 2. Responses with status 201 -/

theorem ApiError.status_ne_created (error : ApiError) (now : String) :
    (error.response now).status ≠ 201 := by
  cases error <;> simp [ApiError.response, ApiError.status]

theorem Refusal.status_ne_created (refusal : Refusal) : refusal.response.status ≠ 201 := by
  cases refusal <;> simp [Refusal.response]

theorem respond_created {α : Type} {now : String} {render : α → Response}
    {result : Except ApiError α} (h : (respond now render result).status = 201) :
    ∃ value, result = .ok value ∧ (render value).status = 201 := by
  cases result with
  | ok value => exact ⟨value, rfl, h⟩
  | error error => exact absurd h (error.status_ne_created now)

theorem waitResponse_status_ne_created (now : String) (id : Int64) (result : Except JobError Unit) :
    (waitResponse now id result).status ≠ 201 := by
  intro h
  obtain ⟨_, -, hstatus⟩ := respond_created h
  cases hstatus

variable {c : Coordinator} {store : MemoryStore} {now : String}

theorem submit_created {config : Json} (h : (submit c store now config).response.status = 201) :
    ∃ members payload, config = .object members ∧ Payload.encode config = .ok payload ∧
      (submit c store now config).response = created (store.lastId + 1) ∧
      (submit c store now config).store = store.append payload := by
  cases config with
  | object members =>
    obtain ⟨id, hapi, -⟩ := respond_created h
    obtain ⟨rfl, payload, hencode, hstore⟩ := Coordinator.submit_ok (ok_of_mapError hapi)
    refine ⟨members, payload, rfl, hencode, ?_, hstore⟩
    simp only [submit, hapi]
    rfl
  | null | bool | integer | float | string | array =>
    exact absurd h (ApiError.status_ne_created _ now)

theorem perform_created {task : Task} {handled : Handled MemoryStore}
    (hperform : perform c store now task = .answered handled)
    (hstatus : handled.response.status = 201) :
    ∃ members payload, task = .submit (.object members) ∧
      Payload.encode (.object members) = .ok payload ∧
      handled.response = created (store.lastId + 1) ∧ handled.store = store.append payload := by
  cases task with
  | health =>
    obtain rfl := Reaction.answered.inj hperform
    unfold health at hstatus
    split at hstatus <;> cases hstatus
  | submit config =>
    obtain rfl := Reaction.answered.inj hperform
    obtain ⟨members, payload, rfl, hencode, hresponse, hstore⟩ := submit_created hstatus
    exact ⟨members, payload, rfl, hencode, hresponse, hstore⟩
  | fetch id =>
    obtain rfl := Reaction.answered.inj hperform
    obtain ⟨_, -, hbad⟩ := respond_created hstatus
    cases hbad
  | status id =>
    obtain rfl := Reaction.answered.inj hperform
    obtain ⟨_, -, hbad⟩ := respond_created hstatus
    cases hbad
  | cancel id onlyPending =>
    obtain rfl := Reaction.answered.inj hperform
    cases onlyPending <;>
      (obtain ⟨_, -, hbad⟩ := respond_created hstatus; cases hbad)
  | wait id => cases hperform

variable {clock : Clock} {visit : Visit} {response : Response}

theorem ending?_status_ne_created {name : String} {ended : List EndedWait}
    (h : Exchange.ending? name now ended = some response) : response.status ≠ 201 := by
  obtain ⟨wait, -, rfl⟩ := Option.map_eq_some_iff.mp h
  exact waitResponse_status_ne_created now wait.id wait.result

/-- Status 201 is given only to a submission of an object, which has put one row into the table. -/
theorem response_created (hresponse : visit.response? clock = some response)
    (hstatus : response.status = 201) :
    ∃ name now request members payload, visit = .send name now request ∧
      request.task = .ok (.submit (.object members)) ∧
      Payload.encode (.object members) = .ok payload ∧
      response = created (clock.desk.store.lastId + 1) ∧
      (visit.next clock).desk.store = clock.desk.store.append payload := by
  cases visit with
  | act event => cases hresponse
  | pass span => cases hresponse
  | send name now request =>
    unfold Visit.response? Exchange.begin serve at hresponse
    unfold Visit.next Exchange.begin serve
    cases htask : request.task with
    | error refusal =>
      simp only [htask] at hresponse
      obtain rfl := Option.some.inj hresponse
      exact absurd hstatus refusal.status_ne_created
    | ok task =>
      simp only [htask] at hresponse ⊢
      cases hperform : perform clock.desk.coordinator clock.desk.store now task with
      | answered handled =>
        simp only [hperform] at hresponse ⊢
        obtain rfl := Option.some.inj hresponse
        obtain ⟨members, payload, rfl, hencode, hcreated, hstore⟩ :=
          perform_created hperform hstatus
        exact ⟨name, now, request, members, payload, rfl, htask, hencode, hcreated, hstore⟩
      -- A wait can end at once, with any status but this one.
      | waits id =>
        simp only [hperform, Exchange.follow, Option.none_or] at hresponse
        exact absurd hstatus (ending?_status_ne_created hresponse)

/-! ## 3. Ids of a run -/

theorem countP_send_submit {name now : String} {request : Request} {config : Json}
    (htask : request.task = .ok (.submit config)) :
    [Visit.send name now request].countP Visit.isSubmission = 1 := by
  rw [List.countP_singleton]
  simp only [Visit.isSubmission, htask]
  rfl

theorem sound_of_append {store after : MemoryStore} {payload : Bytes} {issued : Nat}
    (h : Sound store issued) (hroom : issued + 1 < 0x8000000000000000)
    (hstore : after = store.append payload) :
    (store.lastId + 1).toInt = (issued + 1 : Nat) ∧ Sound after (issued + 1) := by
  rw [hstore]
  exact ⟨MemoryStore.toInt_succ h.lastId hroom, h.append hroom payload⟩

/-- The ids that a run hands out are above those from before it, and not above its last one. -/
theorem created_bounds {visits : List Visit} {issued : Nat} (h : Sound clock.desk.store issued)
    (hroom : issued + visits.countP Visit.isSubmission < 0x8000000000000000) {id : Int64}
    (hmem : some (created id) ∈ responses clock visits) :
    issued < id.toInt ∧ id.toInt ≤ (run clock visits).desk.store.lastId.toInt := by
  induction visits generalizing clock issued with
  | nil => cases hmem
  | cons visit rest ih =>
    rw [← List.singleton_append, List.countP_append] at hroom
    rcases List.mem_cons.mp hmem with hfirst | hrest
    -- The id is the next one when the run begins, and the last one only grows.
    · obtain ⟨_, _, _, _, payload, rfl, htask, -, hcreated, hstore⟩ :=
        response_created hfirst.symm rfl
      rw [countP_send_submit htask] at hroom
      obtain ⟨hid, hleft⟩ := sound_of_append h (by omega) hstore
      obtain ⟨last, hlast, -, hsound⟩ := @run_sound _ rest _ hleft (by omega)
      have hend : (run clock (_ :: rest)).desk.store.lastId.toInt = last := hsound.lastId
      rw [created_injective hcreated, hid, hend]
      omega
    · obtain ⟨middle, hlow, hhigh, hmiddle⟩ := @next_sound clock visit issued h (by omega)
      obtain ⟨habove, hbelow⟩ := ih hmiddle (by omega) hrest
      exact ⟨by omega, hbelow⟩

/-! ## 4. Reading back -/

/-- One row has been put behind the others, with a payload and status zero, under an id that was
under no row. -/
structure Posted (before after : Clock) (id : Int64) (payload : Bytes) : Prop where
  rows : after.desk.store.rows =
    before.desk.store.rows ++ [(id, ⟨id, 0, payload, before.desk.store.now⟩)]
  free : before.desk.store.job? id = none

/-- The job with a given id is there, and its report has a given config and the status of its row; a
request for it is answered with the report while the coordinator runs and the table is open. -/
def ReadsBack (clock : Clock) (id : Int64) (config : Json) : Prop :=
  ∃ job, clock.desk.store.job? id = some job ∧
    let report : JobReport := ⟨id, Status.label job.status, job.status, config, job.created⟩
    job.report = .ok report ∧
    (clock.desk.coordinator.isShutDown = false → clock.desk.store.isClosed = false →
      ∀ name now request, request.task = .ok (.fetch id) →
        (Visit.send name now request).response? clock = some ⟨200, .json report.toJson⟩)

/-- A job with a payload that can be read is reported to whoever asks for it. -/
theorem response_fetch {id : Int64} {job : Job} {report : JobReport}
    (hjob : clock.desk.store.job? id = some job) (hreport : job.report = .ok report)
    (hrunning : clock.desk.coordinator.isShutDown = false)
    (hopen : clock.desk.store.isClosed = false) {request : Request}
    (htask : request.task = .ok (.fetch id)) (name now : String) :
    (Visit.send name now request).response? clock = some ⟨200, .json report.toJson⟩ := by
  have hfetch : clock.desk.coordinator.fetch clock.desk.store id =
      ⟨.ok (some job), clock.desk.store, []⟩ := by
    simp only [Coordinator.fetch, Coordinator.whenRunning, hrunning, JobStore.fetchJob,
      MemoryStore.whenOpen, hopen, hjob]
    rfl
  simp only [Visit.response?, Exchange.begin, serve, htask, perform, fetch, hfetch]
  simp only [toApi, found, Except.mapError, Except.bind, hreport]
  rfl

theorem response_submit {request : Request} {members : List (String × Json)} {payload : Bytes}
    (hrunning : clock.desk.coordinator.isShutDown = false)
    (hopen : clock.desk.store.isClosed = false)
    (htask : request.task = .ok (.submit (.object members)))
    (hencode : Payload.encode (.object members) = .ok payload) (name now : String) :
    (Visit.send name now request).response? clock =
      some (created (clock.desk.store.lastId + 1)) := by
  have hsubmit : (clock.desk.coordinator.submit clock.desk.store (.object members)).result =
      .ok (clock.desk.store.lastId + 1) := by
    simp only [Coordinator.submit, Coordinator.whenRunning, hrunning, hencode, JobStore.insert,
      MemoryStore.whenOpen, hopen]
    rfl
  simp only [Visit.response?, Exchange.begin, serve, htask, perform, submit, hsubmit]
  rfl

theorem readsBack_of_keeps {id : Int64} {config : Json} {payload : Bytes} {created : Moment}
    (hdecode : Payload.decode payload = .ok config)
    (hkeeps : clock.desk.store.Keeps id payload created) : ReadsBack clock id config := by
  obtain ⟨code, hjob⟩ := hkeeps
  have hreport : Job.report ⟨id, code, payload, created⟩ =
      .ok ⟨id, Status.label code, code, config, created⟩ := by
    simp only [Job.report, hdecode]
  exact ⟨_, hjob, hreport, fun hrunning hopen name now request htask =>
    response_fetch hjob hreport hrunning hopen htask name now⟩

def opening (settings : CoordinatorSettings) (moment : Moment) : Clock :=
  { desk := { coordinator := { settings := settings }, store := { now := moment } } }

/-- Whatever happens before and after, status 201 says that one new job is there, under an id that
no other submission of the run is given; and while nobody removes its row, it is read back with the
config that was sent and the status that its row has. -/
theorem posted_config_read_back (settings : CoordinatorSettings) (moment : Moment)
    (before after : List Visit) (visit : Visit) (response : Response)
    (hroom : (before ++ visit :: after).countP Visit.isSubmission < 0x7fffffffffffffff)
    (hresponse : visit.response? (run (opening settings moment) before) = some response)
    (hstatus : response.status = 201) :
    let found := run (opening settings moment) before
    let left := visit.next found
    ∃ name now request members id payload,
      visit = .send name now request ∧ request.task = .ok (.submit (.object members)) ∧
      response = created id ∧ Posted found left id payload ∧
      (∀ other, some (created other) ∈ responses (opening settings moment) before ∨
        some (created other) ∈ responses left after → other ≠ id) ∧
      (.act (.table (.delete id)) ∉ after → ReadsBack (run left after) id (.object members)) := by
  intro found left
  rw [List.countP_append, ← List.singleton_append, List.countP_append] at hroom
  have hempty : Sound (opening settings moment).desk.store 0 := MemoryStore.sound_empty moment
  obtain ⟨issued, -, hissued, hsound⟩ := @run_sound _ before _ hempty (by omega)
  obtain ⟨name, now, request, members, payload, rfl, htask, hencode, rfl, hstore⟩ :=
    response_created hresponse hstatus
  rw [countP_send_submit htask] at hroom
  have hfree := hsound.job?_next (by omega)
  obtain ⟨hid, hleft⟩ := sound_of_append hsound (by omega) hstore
  refine ⟨name, now, request, members, _, payload, rfl, htask, rfl, ⟨?_, hfree⟩, ?_, ?_⟩
  · exact congrArg MemoryStore.rows hstore
  · rintro other (hearlier | hlater) rfl
    -- Ids from before are not above the last one, and the new id is; ids from later are above it.
    · have hbelow := (created_bounds hempty (by omega) hearlier).2
      rw [hid, hsound.lastId] at hbelow
      omega
    · have habove := (created_bounds hleft (by omega) hlater).1
      rw [hid] at habove
      omega
  · intro hkept
    -- What a body can hold is light, so its payload is short enough to be read.
    obtain ⟨hordered, hweight⟩ := Request.json_spec (Request.json_of_task htask)
    have hdecode := Payload.decode_of_weight_le hordered hencode
      (Nat.le_trans hweight (by decide))
    have hkeeps : left.desk.store.Keeps _ payload found.desk.store.now :=
      hstore ▸ MemoryStore.keeps_append hfree
    exact readsBack_of_keeps hdecode (run_keeps hkeeps hkept)

/-- The code that is written to a job is reported to the next one who asks. -/
theorem ReadsBack.report_code {id : Int64} {code : Int16} {config : Json}
    (h : ReadsBack (run clock [.act (.table (.setCode id code))]) id config)
    (hrunning : clock.desk.coordinator.isShutDown = false)
    (hopen : clock.desk.store.isClosed = false) (name now : String) :
    ∃ report : JobReport, report.code = code ∧ report.config = config ∧
      (Visit.send name now (getJob id)).response?
        (run clock [.act (.table (.setCode id code))]) = some ⟨200, .json report.toJson⟩ := by
  have hdesk : (run clock [.act (.table (.setCode id code))]).desk =
      { clock.desk with store := clock.desk.store.setCode id code } :=
    clock.apply_desk (.table (.setCode id code))
  obtain ⟨job, hjob, -, hget⟩ := h
  rw [hdesk] at hjob hget
  rw [MemoryStore.job?_setCode] at hjob
  obtain ⟨row, -, rfl⟩ := Option.map_eq_some_iff.mp hjob
  refine ⟨_, ?_, rfl, hget hrunning hopen name now _ (task_getJob id)⟩
  simp

def smallConfig : Json := .object [("a", .integer ⟨1, by decide⟩)]

def smallPost : Visit := .send "post" "noon" (postJob "\x7b\"a\":1\x7d")

theorem posted_then_written :
    smallPost.response? (opening {} ⟨0, 0⟩) = some (created 1) ∧
      ∃ report : JobReport, report.code = 7 ∧ report.config = smallConfig ∧
        (Visit.send "get" "night" (getJob 1)).response?
          (run (smallPost.next (opening {} ⟨0, 0⟩)) [.act (.table (.setCode 1 7))]) =
            some ⟨200, .json report.toJson⟩ := by
  have htext : Json.read? "\x7b\"a\":1\x7d" = some smallConfig := by
    cbv
  have htask := task_postJob (by decide) htext
  -- No key of the config holds a zero, so that it has a payload.
  have hzero : Payload.zeroKey? smallConfig = none := by
    simp [smallConfig, Payload.zeroKey?, Payload.zeroKeyOfMembers?,
      Payload.holdsZero_eq_any]
  have hresponse : smallPost.response? (opening {} ⟨0, 0⟩) = some (created 1) :=
    response_submit rfl rfl htask (Payload.encode_eq_ok_iff.mpr ⟨hzero, rfl⟩) "post" "noon"
  obtain ⟨_, _, _, members, id, payload, hvisit, hmembers, hcreated, -, -, hread⟩ :=
    posted_config_read_back {} ⟨0, 0⟩ [] [.act (.table (.setCode 1 7))] smallPost _
      (Nat.lt_of_le_of_lt List.countP_le_length (by decide)) hresponse rfl
  obtain rfl := created_injective hcreated
  obtain ⟨rfl, rfl, rfl⟩ := Visit.send.inj hvisit
  rw [htask] at hmembers
  have hconfig : smallConfig = .object members := Task.submit.inj (Except.ok.inj hmembers)
  have hnil : run (opening {} ⟨0, 0⟩) [] = opening {} ⟨0, 0⟩ := rfl
  rw [← hconfig, hnil] at hread
  have hrunning : (smallPost.next (opening {} ⟨0, 0⟩)).desk.coordinator.isShutDown = false := by
    simp only [smallPost, Visit.next, begin_desk, Request.event?, htask, smallConfig]
    rfl
  obtain ⟨_, _, _, _, _, -, -, -, -, hstore⟩ := response_created hresponse rfl
  have hopen : (smallPost.next (opening {} ⟨0, 0⟩)).desk.store.isClosed = false := by
    rw [hstore]
    rfl
  exact ⟨hresponse, (hread (by simp)).report_code hrunning hopen "get" "night"⟩

end Http

end JobDesk
