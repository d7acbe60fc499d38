import JobDesk.Http.Request
import JobDesk.Proofs.Json.Reading
import JobDesk.Proofs.Outcome
import JobDesk.Proofs.Text.Decimal
import JobDesk.Proofs.Text.Utf8

/-!
# Tasks — what requests are known to ask for

A submission carries the config in its body, which has no more characters than the body may have
bytes, and so is light.  The path with the id of a job asks for that job.
-/

namespace JobDesk.Http

/-! ## 1. Submissions -/

/-- A value is read from a body only after the checks of its media type and its size. -/
theorem Request.read_of_json {request : Request} {config : Json} (h : request.json = .ok config) :
    ∃ body text, request.coding.decode request.body = .ok body ∧
      body.content.size ≤ bodyLimit ∧ body.fault? = none ∧
      Bytes.toText? body.content = some text ∧ Json.read? text = some config := by
  unfold Request.json at h
  extract_lets readBody checkSize at h
  -- The checks stand one in the other: the media type, the stated size, the body, its size, its
  -- fault, its text.
  have htype : checkSize () = .ok config := by
    split at h
    · cases h
    · exact h
  have hsize : readBody () = .ok config := by
    unfold checkSize at htype
    split at htype
    · split at htype
      · cases htype
      · exact htype
    · exact htype
  obtain ⟨body, hbody, hlimit⟩ := ok_of_bind hsize
  extract_lets readText checkFault at hlimit
  split at hlimit
  · cases hlimit
  rename_i hsmall
  have hfault : body.fault? = none := by
    cases hfault : body.fault? with
    | none => rfl
    | some fault =>
      simp only [checkFault, hfault] at hlimit
      cases hlimit
  simp only [checkFault, hfault, readText] at hlimit
  cases htext : Bytes.toText? body.content with
  | none =>
    simp only [htext] at hlimit
    cases hlimit
  | some text =>
    simp only [htext, Option.bind_some] at hlimit
    split at hlimit
    · rename_i value hvalue
      obtain rfl := Except.ok.inj hlimit
      exact ⟨body, text, ok_of_mapError hbody, Nat.not_lt.mp hsmall, hfault, htext, hvalue⟩
    · cases hlimit

/-- A value that a body stands for is ordered, and not heavier than a body may be. -/
theorem Request.json_spec {request : Request} {config : Json} (h : request.json = .ok config) :
    config.Ordered ∧ config.weight ≤ bodyLimit := by
  obtain ⟨body, text, -, hlimit, -, htext, hread⟩ := Request.read_of_json h
  obtain ⟨hordered, hweight⟩ := Json.read?_spec hread
  have hlength := Bytes.length_le_size_ofText text
  rw [Bytes.ofText_of_toText? htext] at hlength
  exact ⟨hordered, by omega⟩

theorem not_submit_of_map {result : Except Refusal Int64} {task : Int64 → Task} {config : Json}
    (htask : ∀ id, task id ≠ .submit config) : result.map task ≠ .ok (.submit config) := by
  intro h
  obtain ⟨id, -, heq⟩ := ok_of_map h
  exact htask id heq

theorem Request.json_of_task {request : Request} {config : Json}
    (h : request.task = .ok (.submit config)) : request.json = .ok config := by
  unfold Request.task at h
  split at h
  · cases h
  · obtain ⟨value, hjson, heq⟩ := ok_of_map h
    obtain rfl := Task.submit.inj heq
    exact hjson
  -- The other paths ask for something about one job, whose id they hold.
  · split at h
    · cases h
    · exact absurd h (not_submit_of_map fun id => by simp)
  · split at h
    · cases h
    · exact absurd h (not_submit_of_map fun id => by simp)
  · split at h
    · cases h
    · exact absurd h (not_submit_of_map fun id => by simp)
  · split at h
    · cases h
    · obtain ⟨_, -, hquery⟩ := ok_of_bind h
      obtain ⟨_, -, heq⟩ := ok_of_bind hquery
      cases heq
  · cases h

/-! ## 2. Plain paths -/

theorem unescape_of_notMem {isKept : UInt8 → Bool} {bytes : List UInt8} (h : 0x25 ∉ bytes) :
    unescape isKept bytes = bytes := by
  fun_induction unescape isKept bytes with
  | case1 => exact absurd List.mem_cons_self h
  | case2 => exact absurd List.mem_cons_self h
  | case3 => exact absurd List.mem_cons_self h
  | case4 c a b rest hc ih => rw [ih fun hmem => h (List.mem_cons_of_mem c hmem)]
  | case5 => rfl

/-- A text without escapes and with no characters beyond ASCII is read as it stands. -/
theorem lossy_unescape {isKept : UInt8 → Bool} {s : String}
    (h : ∀ c ∈ s.toList, c.toNat < 0x80 ∧ c ≠ '%') :
    Text.lossy (unescape isKept (Bytes.ofText s).toList) = s := by
  have hascii : ∀ c ∈ s.toList, c.toNat < 0x80 := fun c hc => (h c hc).1
  rw [unescape_of_notMem, Text.lossy_ofText hascii]
  rw [toList_ofText_ascii hascii]
  intro hmem
  obtain ⟨c, hc, heq⟩ := List.mem_map.mp hmem
  have hnat := congrArg UInt8.toNat heq
  rw [UInt8.toNat_ofNat_of_lt' (by have := (h c hc).1; show _ < 256; omega)] at hnat
  exact (h c hc).2 (Char.toNat_inj.mp hnat)

theorem takeWhile_of_forall {p : Char → Bool} {cs : List Char} (h : ∀ c ∈ cs, p c = true) :
    cs.takeWhile p = cs := by
  simpa using @List.takeWhile_append_of_pos _ p cs [] h

def IsPlain (c : Char) : Prop := c.toNat < 0x80 ∧ c ≠ '%' ∧ c ≠ '#' ∧ c ≠ '?'

instance (c : Char) : Decidable (IsPlain c) :=
  inferInstanceAs (Decidable (c.toNat < 0x80 ∧ c ≠ '%' ∧ c ≠ '#' ∧ c ≠ '?'))

theorem resource_of_plain {request : Request} {rest : List Char}
    (hslash : request.target.toList = '/' :: rest)
    (hplain : ∀ c ∈ request.target.toList, IsPlain c) :
    request.resource = request.target.toList := by
  have hhash : request.target.toList.takeWhile (· != '#') = request.target.toList :=
    takeWhile_of_forall fun c hc => by simpa using (hplain c hc).2.2.1
  simp only [Request.resource, hhash]
  rw [hslash]
  rfl

/-- A target of plain characters behind a slash is routed as it stands. -/
theorem routedPath_of_plain {request : Request} {rest : List Char}
    (hslash : request.target.toList = '/' :: rest)
    (hplain : ∀ c ∈ request.target.toList, IsPlain c) :
    routedPath request.path = request.target := by
  have hquery : request.target.toList.takeWhile (· != '?') = request.target.toList :=
    takeWhile_of_forall fun c hc => by simpa using (hplain c hc).2.2.2
  have hpath : request.path = request.target := by
    rw [Request.path, resource_of_plain hslash hplain, hquery, String.ofList_toList]
  rw [hpath]
  exact lossy_unescape fun c hc => ⟨(hplain c hc).1, (hplain c hc).2.1⟩

theorem query_of_plain {request : Request} {rest : List Char}
    (hslash : request.target.toList = '/' :: rest)
    (hplain : ∀ c ∈ request.target.toList, IsPlain c) : request.query = "" := by
  have hquery : request.target.toList.dropWhile (· != '?') = [] := by
    have hall : ∀ c ∈ request.target.toList, (c != '?') = true := fun c hc => by
      simpa using (hplain c hc).2.2.2
    simpa using @List.dropWhile_append_of_pos _ (· != '?') _ [] hall
  rw [Request.query, resource_of_plain hslash hplain, hquery]
  rfl

/-! ## 3. Requests for jobs -/

def postJob (text : String) : Request where
  method := "POST"
  target := "/jobs"
  headers := [("content-type", "application/json")]
  body := Bytes.ofText text

theorem json_postJob {text : String} {config : Json}
    (hlimit : (Bytes.ofText text).size ≤ bodyLimit) (hread : Json.read? text = some config) :
    (postJob text).json = .ok config := by
  have htype : ((postJob text).header? "content-type").bind MediaType.read? =
      MediaType.read? "application/json" := rfl
  have hjson : (MediaType.read? "application/json").any MediaType.isJson = true := rfl
  have hsize : (postJob text).statedSize? = none := rfl
  have hdecode : (postJob text).coding.decode (postJob text).body =
      .ok ⟨Bytes.ofText text, none⟩ := rfl
  have hsmall : ¬ bodyLimit < (Bytes.ofText text).size := Nat.not_lt.mpr hlimit
  unfold Request.json
  simp only [htype, hjson, hsize, hdecode, Bool.not_true, Bool.false_eq_true, if_false,
    Except.mapError, bind, Except.bind, if_neg hsmall, Bytes.toText?_ofText, Option.bind_some,
    hread]
  rfl

theorem task_postJob {text : String} {config : Json}
    (hlimit : (Bytes.ofText text).size ≤ bodyLimit) (hread : Json.read? text = some config) :
    (postJob text).task = .ok (.submit config) := by
  have hslash : "/jobs".toList = '/' :: "jobs".toList := by decide
  have hplain : ∀ c ∈ "/jobs".toList, IsPlain c := by simp [IsPlain]
  have hrouted : routedPath (postJob text).path = "/jobs" :=
    @routedPath_of_plain (postJob text) "jobs".toList hslash hplain
  have hsegments : segments "/jobs" = ["jobs"] := rfl
  unfold Request.task
  rw [hrouted, hsegments]
  show (postJob text).json.map Task.submit = _
  rw [json_postJob hlimit hread]
  rfl

def getJob (id : Int64) : Request := { method := "GET", target := "/jobs/" ++ toString id.toInt }

theorem mem_id {id : Int64} {c : Char} (h : c ∈ (toString id.toInt).toList) :
    IsPlain c ∧ c ≠ '/' := by
  rcases Text.mem_toString h with rfl | hdigit
  · decide
  · have hbound : c.toNat < 0x80 := by
      have hhigh : c ≤ '9' := (by simpa [Text.isDigit] using hdigit : '0' ≤ c ∧ c ≤ '9').2
      exact Nat.lt_of_le_of_lt hhigh (by decide)
    refine ⟨⟨hbound, ?_, ?_, ?_⟩, ?_⟩ <;> (rintro rfl; exact absurd hdigit (by decide))

theorem toList_target_getJob (id : Int64) :
    (getJob id).target.toList = '/' :: ("jobs".toList ++ '/' :: (toString id.toInt).toList) := by
  rw [getJob, String.toList_append]
  rfl

theorem segments_getJob (id : Int64) :
    segments (getJob id).target = ["jobs", toString id.toInt] := by
  -- The id has no slash in it, so the path has as many parts as it is written with.
  have hid : (toString id.toInt).toList.splitOn '/' = [(toString id.toInt).toList] :=
    List.splitOnP_eq_singleton fun c hc => by simpa using (mem_id hc).2
  have hparts : (getJob id).target.toList.splitOn '/' =
      [[], "jobs".toList, (toString id.toInt).toList] := by
    rw [toList_target_getJob]
    show List.splitOnP _ ([] ++ '/' :: ("jobs".toList ++ '/' :: (toString id.toInt).toList)) = _
    rw [List.splitOnP_append_cons_of_forall_mem (by simp) '/' (by decide),
      List.splitOnP_append_cons_of_forall_mem (by simp) '/' (by decide)]
    exact congrArg ([[], "jobs".toList] ++ ·) hid
  simp only [segments, hparts, List.map_cons, List.map_nil, String.ofList_toList]

theorem readId_toString (id : Int64) : readId (toString id.toInt) = .ok id := by
  have hsegment : segmentText (toString id.toInt) = toString id.toInt :=
    lossy_unescape fun c hc => ⟨(mem_id hc).1.1, (mem_id hc).1.2.1⟩
  rw [readId, hsegment, Text.readInt64?_toString]

theorem task_getJob (id : Int64) : (getJob id).task = .ok (.fetch id) := by
  have hprefix : ∀ c ∈ "/jobs/".toList, IsPlain c := by simp [IsPlain]
  have hplain : ∀ c ∈ (getJob id).target.toList, IsPlain c := by
    intro c hc
    rw [getJob, String.toList_append] at hc
    rcases List.mem_append.mp hc with hfirst | hid
    · exact hprefix c hfirst
    · exact (mem_id hid).1
  unfold Request.task
  rw [routedPath_of_plain (toList_target_getJob id) hplain, segments_getJob]
  show (if toString id.toInt = "" then _ else _) = _
  rw [if_neg (Text.toString_ne_empty id.toInt), readId_toString]
  rfl

end JobDesk.Http
