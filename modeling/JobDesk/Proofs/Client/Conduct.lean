import JobDesk.Client.Session
import JobDesk.Proofs.Outcome

/-!
# Conduct — the calls of a session, whatever it takes in

Servers answer as they please and an interrupt comes at any time.  `Led` says which calls lead to
which phase, `Session.sent_spec` that every session is where its calls have led it, and `Conduct`
what follows of the calls that it makes and of its exit code.
-/

namespace JobDesk.Client

/-! ## 1. Calls and what comes of them -/

namespace Call

def isSubmission : Call → Bool
  | submit _ => true
  | _ => false

def isWait : Call → Bool
  | wait _ => true
  | _ => false

def isCancellation : Call → Bool
  | cancelIfPending _ => true
  | _ => false

end Call

inductive Fate where
  | underWay
  | replied (reply : Reply)
  /-- The client has stopped listening. -/
  | dropped

structure Sent where
  call : Call
  fate : Fate

namespace Session

def ended? (session : Session) : Input → Option Sent
  | .reply reply _ => session.call?.map fun call => ⟨call, .replied reply⟩
  | .interrupt =>
    match session.phase with
    | .waiting id false => some ⟨.wait id, .dropped⟩
    | _ => none

def underWay (session : Session) : List Sent :=
  session.call?.toList.map fun call => ⟨call, .underWay⟩

def sent (session : Session) : List Input → List Sent
  | [] => session.underWay
  | input :: rest => (session.ended? input).toList ++ sent (session.take input).session rest

theorem call_onReply (session : Session) (reply : Reply) (elapsed : Span) :
    (session.onReply reply elapsed).call = (session.onReply reply elapsed).session.call? := by
  obtain ⟨base, config, phase⟩ := session
  cases phase with
  | checking =>
    unfold onReply
    simp only
    split <;> rfl
  | submitting =>
    unfold onReply
    simp only
    split <;> rfl
  | waiting id isSecond =>
    unfold onReply
    simp only
    split
    · rename_i outcome _
      cases outcome <;> rfl
    · rfl
  | cancelling id =>
    unfold onReply
    simp only
    split <;> rfl
  | ended exit => rfl

theorem calls_take (session : Session) (input : Input) :
    session.call?.toList ++ (session.take input).call.toList =
      (session.ended? input).toList.map (·.call) ++ (session.take input).session.call?.toList := by
  cases input with
  | reply reply elapsed =>
    rw [take, call_onReply, ended?]
    cases session.call? <;> rfl
  | interrupt =>
    obtain ⟨base, config, phase⟩ := session
    cases phase with
    | waiting id isSecond => cases isSecond <;> rfl
    | checking | submitting | cancelling | ended => rfl

theorem calls_run (session : Session) (inputs : List Input) :
    (session.run inputs).calls = (session.sent inputs).map (·.call) := by
  induction inputs generalizing session with
  | nil =>
    simp only [run, follow, sent, underWay, List.append_nil, List.map_map]
    exact (List.map_id _).symm
  | cons input rest ih =>
    have hrest := ih (session.take input).session
    have htake := session.calls_take input
    rw [run] at hrest
    rw [run, follow, sent, List.map_append, ← hrest, ← List.append_assoc, htake, List.append_assoc]

theorem mem_calls_of_call? {session : Session} {inputs : List Input} {call : Call}
    (h : (session.run inputs).session.call? = some call) :
    call ∈ (session.run inputs).calls := by
  rw [calls_run]
  induction inputs generalizing session with
  | nil =>
    have hcall : session.call? = some call := h
    rw [sent, underWay, hcall]
    exact List.mem_singleton_self call
  | cons input rest ih =>
    rw [sent, List.map_append]
    exact List.mem_append_right _ (ih h)

theorem interrupt_of_dropped {session : Session} {inputs : List Input} {call : Call}
    (h : ⟨call, .dropped⟩ ∈ session.sent inputs) : .interrupt ∈ inputs := by
  induction inputs generalizing session with
  | nil =>
    obtain ⟨other, -, heq⟩ := List.mem_map.mp h
    cases heq
  | cons input rest ih =>
    rcases List.mem_append.mp h with hfirst | hrest
    · cases input with
      | reply reply elapsed =>
        obtain ⟨other, -, heq⟩ := Option.map_eq_some_iff.mp (Option.mem_toList.mp hfirst)
        cases heq
      | interrupt => exact List.mem_cons_self
    · exact List.mem_cons_of_mem input (ih hrest)

end Session

/-! ## 2. What replies say -/

def IsWell (base : String) (call : Call) (reply : Reply) : Prop :=
  ∃ url status body, responseTo base call reply = .ok (url, status, body) ∧
    Http.isSuccess status = true

def Names (base : String) (config : Json) (reply : Reply) (id : Int64) : Prop :=
  ∃ url status body report, responseTo base (.submit config) reply = .ok (url, status, body) ∧
    Http.isSuccess status = true ∧ SubmitReport.read body = .ok report ∧ report.id = id

def Grants (base : String) (id : Int64) (reply : Reply) : Prop :=
  ∃ url status body, responseTo base (.cancelIfPending id) reply = .ok (url, status, body) ∧
    readRequested body = .ok true

variable {base : String} {config : Json} {id : Int64} {reply : Reply} {call : Call}

theorem isWell_iff_of_ok {url body : String} {status : Nat}
    (h : responseTo base call reply = .ok (url, status, body)) :
    IsWell base call reply ↔ Http.isSuccess status = true := by
  constructor
  · rintro ⟨_, _, _, hresponse, hsuccess⟩
    rw [h] at hresponse
    cases hresponse
    exact hsuccess
  · exact fun hsuccess => ⟨url, status, body, h, hsuccess⟩

theorem not_isWell_of_error {fault : Fault} (h : responseTo base call reply = .error fault) :
    ¬IsWell base call reply := by
  rintro ⟨_, _, _, hresponse, -⟩
  rw [h] at hresponse
  cases hresponse

theorem isHealthy_iff : isHealthy base reply = true ↔ IsWell base .health reply := by
  unfold isHealthy
  cases hresponse : responseTo base .health reply with
  | error fault => exact iff_of_false nofun (not_isWell_of_error hresponse)
  | ok response => exact (isWell_iff_of_ok hresponse).symm

theorem names_of_submitted (h : submitted base config reply = .ok id) :
    Names base config reply id := by
  obtain ⟨⟨url, status, body⟩, hresponse, hrest⟩ := ok_of_bind h
  dsimp only at hrest
  cases hsuccess : Http.isSuccess status with
  | false =>
    rw [hsuccess] at hrest
    cases hrest
  | true =>
    rw [hsuccess] at hrest
    cases hread : SubmitReport.read body with
    | error fault =>
      rw [hread] at hrest
      cases hrest
    | ok report =>
      rw [hread] at hrest
      exact ⟨url, status, body, report, hresponse, hsuccess, hread, Except.ok.inj hrest⟩

theorem readWait_succeeded_iff {status : Nat} {body : String} :
    readWait id status body = .ok .succeeded ↔ Http.isSuccess status = true := by
  unfold readWait
  cases Http.isSuccess status with
  | true => exact iff_of_true rfl rfl
  | false =>
    refine iff_of_false ?_ nofun
    simp only [Bool.false_eq_true, if_false]
    repeat' split
    all_goals nofun

theorem waited_succeeded_iff :
    waited base id reply = .ok .succeeded ↔ IsWell base (.wait id) reply := by
  unfold waited
  cases hresponse : responseTo base (.wait id) reply with
  | error fault => exact iff_of_false nofun (not_isWell_of_error hresponse)
  | ok response => exact readWait_succeeded_iff.trans (isWell_iff_of_ok hresponse).symm

theorem grants_of_cancelled (h : cancelled base id reply = .ok true) : Grants base id reply := by
  obtain ⟨⟨url, status, body⟩, hresponse, hrest⟩ := ok_of_bind h
  by_cases herror : 400 ≤ status ∧ status < 600
  · simp only [if_pos herror] at hrest
    cases hrest
  · simp only [if_neg herror] at hrest
    cases hread : readRequested body with
    | error fault =>
      rw [hread] at hrest
      cases hrest
    | ok requested =>
      rw [hread] at hrest
      obtain rfl : requested = true := Except.ok.inj hrest
      exact ⟨url, status, body, hresponse, hread⟩

/-! ## 3. What a session does with what it takes in -/

variable {phase next : Phase} {sent : Sent}

inductive Leads (base : String) (config : Json) : Phase → Sent → Phase → Prop
  | greeted {reply : Reply} (hwell : IsWell base .health reply) :
      Leads base config .checking ⟨.health, .replied reply⟩ .submitting
  | accepted {reply : Reply} {id : Int64} (hnames : Names base config reply id) :
      Leads base config .submitting ⟨.submit config, .replied reply⟩ (.waiting id false)
  | interrupted {id : Int64} :
      Leads base config (.waiting id false) ⟨.wait id, .dropped⟩ (.cancelling id)
  | granted {id : Int64} {reply : Reply} (hgrants : Grants base id reply) :
      Leads base config (.cancelling id) ⟨.cancelIfPending id, .replied reply⟩ (.waiting id true)

structure Settles (base : String) (call : Call) (reply : Reply) (exit : UInt32) : Prop where
  unwell : call = .health → ¬IsWell base call reply
  code : exit = 0 ∨ exit = 1
  zero_iff : exit = 0 ↔ call.isWait = true ∧ IsWell base call reply

theorem settles_one (hcall : call.isWait = false)
    (hwell : call = .health → ¬IsWell base call reply) : Settles base call reply 1 where
  unwell := hwell
  code := .inr rfl
  zero_iff := by
    rw [hcall]
    exact iff_of_false (by decide) fun h => Bool.noConfusion h.1

theorem settles_wait {exit : UInt32} (hexit : exit = 0 ∨ exit = 1)
    (h : exit = 0 ↔ waited base id reply = .ok .succeeded) :
    Settles base (.wait id) reply exit where
  unwell := nofun
  code := hexit
  zero_iff := h.trans (waited_succeeded_iff.trans (and_iff_right rfl).symm)

namespace Session

/-- What becomes of a session: it stays as it is, or the call under way leads on or ends it. -/
inductive Becomes (base : String) (config : Json) (phase : Phase) : Option Sent → Session → Prop
  | stays : Becomes base config phase none ⟨base, config, phase⟩
  | goesOn {sent : Sent} {next : Phase} (hleads : Leads base config phase sent next) :
      Becomes base config phase (some sent) ⟨base, config, next⟩
  | ends {call : Call} {reply : Reply} {exit : UInt32}
      (hcall : (⟨base, config, phase⟩ : Session).call? = some call)
      (hsettles : Settles base call reply exit) :
      Becomes base config phase (some ⟨call, .replied reply⟩) ⟨base, config, .ended exit⟩

theorem becomes_onReply (base : String) (config : Json) (phase : Phase) (reply : Reply)
    (elapsed : Span) :
    let session : Session := ⟨base, config, phase⟩
    Becomes base config phase (session.call?.map (⟨·, .replied reply⟩))
      (session.onReply reply elapsed).session := by
  intro session
  -- In each phase the reply either has what the next phase asks for, or settles the exit.
  cases phase with
  | checking =>
    cases hhealthy : isHealthy base reply with
    | true =>
      simp only [session, onReply, hhealthy, if_true]
      exact .goesOn (.greeted (isHealthy_iff.mp hhealthy))
    | false =>
      simp only [session, onReply, hhealthy, Bool.false_eq_true, if_false]
      exact .ends rfl (settles_one rfl fun _ hwell =>
        Bool.false_ne_true (hhealthy.symm.trans (isHealthy_iff.mpr hwell)))
  | submitting =>
    cases hsubmitted : submitted base config reply with
    | ok id =>
      simp only [session, onReply, hsubmitted]
      exact .goesOn (.accepted (names_of_submitted hsubmitted))
    | error fault =>
      simp only [session, onReply, hsubmitted]
      exact .ends rfl (settles_one rfl nofun)
  | waiting id isSecond =>
    cases hwaited : waited base id reply with
    | ok outcome =>
      simp only [session, onReply, hwaited]
      cases outcome with
      | succeeded => exact .ends rfl (settles_wait (.inl rfl) (iff_of_true rfl hwaited))
      | cancelled | failed =>
        exact .ends rfl (settles_wait (.inr rfl) (iff_of_false (by decide) (by simp [hwaited])))
    | error fault =>
      simp only [session, onReply, hwaited]
      exact .ends rfl (settles_wait (.inr rfl) (iff_of_false (by decide) (by simp [hwaited])))
  | cancelling id =>
    cases hcancelled : cancelled base id reply with
    | ok requested =>
      simp only [session, onReply, hcancelled]
      cases requested with
      | true => exact .goesOn (.granted (grants_of_cancelled hcancelled))
      | false => exact .ends rfl (settles_one rfl nofun)
    | error fault =>
      simp only [session, onReply, hcancelled]
      exact .ends rfl (settles_one rfl nofun)
  | ended exit => exact .stays

theorem becomes (base : String) (config : Json) (phase : Phase) (input : Input) :
    let session : Session := ⟨base, config, phase⟩
    Becomes base config phase (session.ended? input) (session.take input).session := by
  cases input with
  | reply reply elapsed => exact becomes_onReply base config phase reply elapsed
  | interrupt =>
    cases phase with
    | waiting id isSecond =>
      cases isSecond with
      | false => exact .goesOn .interrupted
      | true => exact .stays
    | checking | submitting | cancelling | ended => exact .stays

end Session

/-! ## 4. Where its calls lead a session -/

/-- The calls that lead a session to a phase, with what has come of each. -/
inductive Led (base : String) (config : Json) : List Sent → Phase → Prop
  | checking : Led base config [] .checking
  | submitting {greeting : Reply} (hwell : IsWell base .health greeting) :
      Led base config [⟨.health, .replied greeting⟩] .submitting
  | waiting {greeting receipt : Reply} {id : Int64} (hwell : IsWell base .health greeting)
      (hnames : Names base config receipt id) :
      Led base config [⟨.health, .replied greeting⟩, ⟨.submit config, .replied receipt⟩]
        (.waiting id false)
  | cancelling {greeting receipt : Reply} {id : Int64} (hwell : IsWell base .health greeting)
      (hnames : Names base config receipt id) :
      Led base config [⟨.health, .replied greeting⟩, ⟨.submit config, .replied receipt⟩,
        ⟨.wait id, .dropped⟩] (.cancelling id)
  | again {greeting receipt answer : Reply} {id : Int64} (hwell : IsWell base .health greeting)
      (hnames : Names base config receipt id) (hgrants : Grants base id answer) :
      Led base config [⟨.health, .replied greeting⟩, ⟨.submit config, .replied receipt⟩,
        ⟨.wait id, .dropped⟩, ⟨.cancelIfPending id, .replied answer⟩] (.waiting id true)

inductive Rests (base : String) (call : Call) : Fate → Option UInt32 → Prop
  | underWay : Rests base call .underWay none
  | settled {reply : Reply} {exit : UInt32} (hsettles : Settles base call reply exit) :
      Rests base call (.replied reply) (some exit)

inductive Stands (base : String) (config : Json) : List Sent → Option UInt32 → Prop
  | mk {before : List Sent} {phase : Phase} {call : Call} {fate : Fate} {exit? : Option UInt32}
      (hled : Led base config before phase)
      (hcall : (⟨base, config, phase⟩ : Session).call? = some call)
      (hrests : Rests base call fate exit?) : Stands base config (before ++ [⟨call, fate⟩]) exit?

theorem Led.leads {before : List Sent} (h : Led base config before phase)
    (hleads : Leads base config phase sent next) : Led base config (before ++ [sent]) next := by
  cases hleads with
  | greeted hwell =>
    cases h with
    | checking => exact .submitting hwell
  | accepted hnames =>
    cases h with
    | submitting hwell => exact .waiting hwell hnames
  | interrupted =>
    cases h with
    | waiting hwell hnames => exact .cancelling hwell hnames
  | granted hgrants =>
    cases h with
    | cancelling hwell hnames => exact .again hwell hnames hgrants

theorem Led.underWay {before : List Sent} (h : Led base config before phase) :
    ∃ call, (⟨base, config, phase⟩ : Session).call? = some call := by
  cases h <;> exact ⟨_, rfl⟩

theorem Session.follow_ended (base : String) (config : Json) (exit : UInt32)
    (inputs : List Input) :
    let session : Session := ⟨base, config, .ended exit⟩
    session.sent inputs = [] ∧ (session.follow inputs).session = session := by
  induction inputs with
  | nil => exact ⟨rfl, rfl⟩
  | cons input rest ih => cases input <;> exact ih

theorem Session.sent_spec {before : List Sent} (hled : Led base config before phase)
    (inputs : List Input) :
    let session : Session := ⟨base, config, phase⟩
    Stands base config (before ++ session.sent inputs) (session.run inputs).session.exit? := by
  -- A call that comes to an end leads on, and then belongs to those before, or it is the last one.
  induction inputs generalizing before phase with
  | nil =>
    intro session
    obtain ⟨call, hcall⟩ := hled.underWay
    have hsent : session.sent [] = [⟨call, .underWay⟩] := by
      rw [sent, Session.underWay, hcall]
      rfl
    have hexit : (session.run []).session.exit? = none := by
      cases hled <;> rfl
    rw [hsent, hexit]
    exact .mk hled hcall .underWay
  | cons input rest ih =>
    intro session
    have hsent : session.sent (input :: rest) =
      (session.ended? input).toList ++ (session.take input).session.sent rest := rfl
    have hexit : (session.run (input :: rest)).session =
      ((session.take input).session.follow rest).session := rfl
    have hbecomes : Becomes base config phase (session.ended? input)
        (session.take input).session := becomes base config phase input
    rw [hsent, hexit]
    generalize session.ended? input = ended, (session.take input).session = after at hbecomes
    cases hbecomes with
    | stays => exact ih hled
    | goesOn hleads =>
      rw [← List.append_assoc]
      exact ih (hled.leads hleads)
    | ends hcall hsettles =>
      obtain ⟨hnone, hsame⟩ := follow_ended base config _ rest
      rw [hnone, hsame]
      exact .mk hled hcall (.settled hsettles)

/-! ## 5. Conduct -/

variable {before : List Sent} {fate : Fate} {exit? : Option UInt32}

/-- A session ends well by a wait that is answered well, and by nothing else. -/
theorem Rests.zero_iff (h : Rests base call fate exit?) :
    exit? = some 0 ↔
      call.isWait = true ∧ ∃ reply, fate = .replied reply ∧ IsWell base call reply := by
  cases h with
  | underWay => simp
  | settled hsettles => simp [hsettles.zero_iff]

/-- What can be said of the calls of a session and of its end, whatever it takes in. -/
structure Conduct (base : String) (config : Json) (inputs : List Input) (sent : List Sent)
    (exit? : Option UInt32) : Prop where
  health_first : ∃ fate rest, sent = ⟨.health, fate⟩ :: rest ∧
    (rest ≠ [] → ∃ greeting, fate = .replied greeting ∧ IsWell base .health greeting)
  submits_once : ∀ greeting rest, sent = ⟨.health, .replied greeting⟩ :: rest →
    IsWell base .health greeting → ∃ fate more, rest = ⟨.submit config, fate⟩ :: more ∧
      ∀ later ∈ more, later.call.isSubmission = false
  cancels_interrupted : ∀ id fate, ⟨.cancelIfPending id, fate⟩ ∈ sent →
    .interrupt ∈ inputs ∧ ∃ greeting receipt, Names base config receipt id ∧
      [⟨.health, .replied greeting⟩, ⟨.submit config, .replied receipt⟩, ⟨.wait id, .dropped⟩,
        ⟨.cancelIfPending id, fate⟩] <+: sent
  cancels_once : sent.countP (·.call.isCancellation) ≤ 1
  waits_submitted : ∀ id fate, ⟨.wait id, fate⟩ ∈ sent →
    ∃ receipt, ⟨.submit config, .replied receipt⟩ ∈ sent ∧ Names base config receipt id
  waits_again : 1 < sent.countP (·.call.isWait) →
    ∃ greeting receipt answer id fate, Names base config receipt id ∧ Grants base id answer ∧
      sent = [⟨.health, .replied greeting⟩, ⟨.submit config, .replied receipt⟩,
        ⟨.wait id, .dropped⟩, ⟨.cancelIfPending id, .replied answer⟩, ⟨.wait id, fate⟩]
  exit_zero_iff : exit? = some 0 ↔ ∃ id reply,
    (sent.filter (·.call.isWait)).getLast? = some ⟨.wait id, .replied reply⟩ ∧
      IsWell base (.wait id) reply
  exit_code : ∀ exit, exit? = some exit → exit = 0 ∨ exit = 1

variable {sent : List Sent}

theorem Stands.health_first (h : Stands base config sent exit?) :
    ∃ fate rest, sent = ⟨.health, fate⟩ :: rest ∧
      (rest ≠ [] → ∃ greeting, fate = .replied greeting ∧ IsWell base .health greeting) := by
  obtain ⟨hled, hcall, -⟩ := h
  cases hled with
  | checking =>
    cases hcall
    exact ⟨_, [], rfl, fun h => absurd rfl h⟩
  | submitting hwell | waiting hwell | cancelling hwell | again hwell =>
    exact ⟨_, _, rfl, fun _ => ⟨_, rfl, hwell⟩⟩

theorem Stands.submits_once {greeting : Reply} {rest : List Sent}
    (h : Stands base config (⟨.health, .replied greeting⟩ :: rest) exit?)
    (hwell : IsWell base .health greeting) :
    ∃ fate more, rest = ⟨.submit config, fate⟩ :: more ∧
      ∀ later ∈ more, later.call.isSubmission = false := by
  generalize hsent : Sent.mk .health (.replied greeting) :: rest = sent at h
  obtain ⟨hled, hcall, hrests⟩ := h
  cases hled with
  | checking =>
    cases hcall
    cases hsent
    cases hrests with
    | settled hsettles => exact absurd hwell (hsettles.unwell rfl)
  | submitting | waiting | cancelling | again =>
    cases hcall
    cases hsent
    exact ⟨_, _, rfl, by simp [Call.isSubmission]⟩

theorem Stands.cancels {key : Int64} (h : Stands base config sent exit?)
    (hcancel : ⟨.cancelIfPending key, fate⟩ ∈ sent) :
    ∃ greeting receipt, Names base config receipt key ∧
      [⟨.health, .replied greeting⟩, ⟨.submit config, .replied receipt⟩, ⟨.wait key, .dropped⟩,
        ⟨.cancelIfPending key, fate⟩] <+: sent := by
  obtain ⟨hled, hcall, -⟩ := h
  cases hled with
  | checking | submitting | waiting =>
    cases hcall
    simp at hcancel
  | cancelling hwell hnames =>
    cases hcall
    obtain ⟨rfl, rfl⟩ : key = _ ∧ fate = _ := by simpa using hcancel
    exact ⟨_, _, hnames, List.prefix_rfl⟩
  -- The second wait stands behind the cancellation.
  | again hwell hnames =>
    cases hcall
    obtain ⟨rfl, rfl⟩ : key = _ ∧ fate = _ := by simpa using hcancel
    exact ⟨_, _, hnames, List.prefix_append _ [_]⟩

theorem Stands.cancels_once (h : Stands base config sent exit?) :
    sent.countP (·.call.isCancellation) ≤ 1 := by
  obtain ⟨hled, hcall, -⟩ := h
  cases hled <;> cases hcall <;> simp [Call.isCancellation]

theorem Stands.waits_submitted {key : Int64} (h : Stands base config sent exit?)
    (hwait : ⟨.wait key, fate⟩ ∈ sent) :
    ∃ receipt, ⟨.submit config, .replied receipt⟩ ∈ sent ∧ Names base config receipt key := by
  obtain ⟨hled, hcall, -⟩ := h
  cases hled with
  | checking | submitting =>
    cases hcall
    simp at hwait
  | waiting hwell hnames =>
    cases hcall
    obtain ⟨rfl, -⟩ : key = _ ∧ fate = _ := by simpa using hwait
    exact ⟨_, by simp, hnames⟩
  | cancelling hwell hnames =>
    cases hcall
    obtain ⟨rfl, -⟩ : key = _ ∧ fate = _ := by simpa using hwait
    exact ⟨_, by simp, hnames⟩
  | again hwell hnames =>
    cases hcall
    obtain ⟨rfl, -⟩ | ⟨rfl, -⟩ : (key = _ ∧ fate = _) ∨ (key = _ ∧ fate = _) := by
      simpa using hwait
    all_goals exact ⟨_, by simp, hnames⟩

theorem Stands.waits_again (h : Stands base config sent exit?)
    (hwaits : 1 < sent.countP (·.call.isWait)) :
    ∃ greeting receipt answer id fate, Names base config receipt id ∧ Grants base id answer ∧
      sent = [⟨.health, .replied greeting⟩, ⟨.submit config, .replied receipt⟩,
        ⟨.wait id, .dropped⟩, ⟨.cancelIfPending id, .replied answer⟩, ⟨.wait id, fate⟩] := by
  obtain ⟨hled, hcall, -⟩ := h
  cases hled with
  | checking | submitting | waiting | cancelling =>
    cases hcall
    simp [Call.isWait] at hwaits
  | again hwell hnames hgrants =>
    cases hcall
    exact ⟨_, _, _, _, _, hnames, hgrants, rfl⟩

/-- The last wait of those that have led a session somewhere is not answered, if there is one. -/
theorem Led.last_wait {before : List Sent} {reply : Reply} (h : Led base config before phase) :
    (before.filter (·.call.isWait)).getLast? ≠ some ⟨call, .replied reply⟩ := by
  cases h <;> simp [Call.isWait]

theorem Stands.exit_zero_iff (h : Stands base config sent exit?) :
    exit? = some 0 ↔ ∃ id reply,
      (sent.filter (·.call.isWait)).getLast? = some ⟨.wait id, .replied reply⟩ ∧
        IsWell base (.wait id) reply := by
  obtain ⟨hled, -, hrests⟩ := h
  rename_i before phase call fate
  rw [hrests.zero_iff, List.filter_append]
  cases hwait : call.isWait with
  | false =>
    -- The last call is no wait, so the last wait is one of those before it.
    simp only [List.filter_cons, hwait, Bool.false_eq_true, if_false, List.filter_nil,
      List.append_nil, false_and, false_iff, not_exists, not_and]
    exact fun id reply hlast => absurd hlast hled.last_wait
  | true =>
    cases call with
    | health | submit | cancelIfPending => cases hwait
    | wait id =>
      simp only [List.filter_cons, hwait, if_true, List.filter_nil, List.getLast?_concat, true_and,
        Option.some.injEq, Sent.mk.injEq, Call.wait.injEq]
      constructor
      · rintro ⟨reply, rfl, hwell⟩
        exact ⟨id, reply, ⟨rfl, rfl⟩, hwell⟩
      · rintro ⟨_, reply, ⟨rfl, rfl⟩, hwell⟩
        exact ⟨reply, rfl, hwell⟩

theorem Stands.exit_code {exit : UInt32} (h : Stands base config sent (some exit)) :
    exit = 0 ∨ exit = 1 := by
  generalize hexit : some exit = exit? at h
  obtain ⟨-, -, hrests⟩ := h
  cases hrests with
  | underWay => cases hexit
  | settled hsettles =>
    cases hexit
    exact hsettles.code

theorem Session.conduct (base : String) (config : Json) (inputs : List Input) :
    let session : Session := { base := base, config := config }
    Conduct base config inputs (session.sent inputs) (session.run inputs).session.exit? := by
  intro session
  have hstands : Stands base config (session.sent inputs) (session.run inputs).session.exit? :=
    sent_spec .checking inputs
  refine ⟨hstands.health_first, ?_, ?_, hstands.cancels_once, ?_, hstands.waits_again,
    hstands.exit_zero_iff, ?_⟩
  · intro greeting rest hsent
    rw [hsent] at hstands
    exact hstands.submits_once
  · intro id fate hcancel
    obtain ⟨greeting, receipt, hnames, hfirst⟩ := hstands.cancels hcancel
    have hdropped : ⟨.wait id, .dropped⟩ ∈ session.sent inputs := hfirst.subset (by simp)
    exact ⟨interrupt_of_dropped hdropped, greeting, receipt, hnames, hfirst⟩
  · exact fun id fate hwait => hstands.waits_submitted hwait
  · intro exit hexit
    rw [hexit] at hstands
    exact hstands.exit_code

end JobDesk.Client
