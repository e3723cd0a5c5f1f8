import SafeSignalTrader.DemoApi
import SafeSignalTrader.QueueInvariant

/-!
# Jobs behind the demo API

Whatever is asked of the demo API, its queue is one that its calls lead to from
the empty queue, so everything known of the reachable queues holds of it.  A job
id that an endpoint has shown keeps naming its job: sent back as text it is read
as the id it was written from.
-/

namespace SafeSignalTrader

open RunSemantics

/-- The job ids in an answer. -/
def DemoResponse.jobIds : DemoResponse → List String
  | .queueStatus status => status.jobs.map fun listed => listed.1.jobId
  | .enqueued jobId _ _ => [jobId]
  | .claimed job => job.toList.map JobSummary.jobId
  | _ => []

namespace DemoApp

/-- A text names a stored job. -/
def Names (queue : InMemoryJobQueue Bool) (text : String) : Prop :=
  ∃ uuid, (queue.get uuid).isSome = true ∧ uuid.text = text

variable {computeHash : String → String}
variable {str : PyException → String}
variable {digest : String → String}
variable {render : Decimal → String}
variable {repr : String → String}
variable {app : DemoApp}
variable {jobId : String}
variable {act : UUID → InMemoryJobQueue Bool × Bool}
variable {command : UUID → QueueOp Bool}

/-- On a text that is a job id the endpoint makes its call. -/
theorem onJob_call
    (acts : ∀ uuid,
      (act uuid).1 = (queueMachine.step app.queue (command uuid)).1)
    {call : QueueOp Bool}
    (isCall : (UUID.ofText repr jobId).toOption.map command = some call) :
    (app.onJob repr jobId act).1.queue =
      (queueMachine.step app.queue call).1 := by
  cases read : UUID.ofText repr jobId with
  | error raised =>
      simp [read, Except.toOption] at isCall
  | ok uuid =>
      simp only [read, Except.toOption, Option.map_some,
        Option.some.injEq] at isCall
      subst isCall
      simp only [onJob, read]
      exact acts uuid

/-- On any other text the endpoint leaves everything alone. -/
theorem onJob_no_call
    (noCall : (UUID.ofText repr jobId).toOption.map command = none) :
    (app.onJob repr jobId act).1 = app := by
  cases read : UUID.ofText repr jobId with
  | error raised =>
      simp only [onJob, read]
  | ok uuid =>
      simp [read, Except.toOption] at noCall

variable (computeHash str digest render repr) in
/-- The demo API drives its queue. -/
def queueProjection :
    Machine.Projection (demoMachine computeHash str digest render repr)
      (queueMachine : Machine _ (QueueOp Bool) _) where
  view := DemoApp.queue
  command? := queueCall? repr
  admitted := fun _ _ call isCall admitted => admitted call isCall
  moved := by
    intro app request call isCall
    cases request with
    | enqueue body draws =>
        cases isCall
        rfl
    | claim owner now =>
        cases isCall
        rfl
    | complete jobId owner now =>
        have made :
            (app.onJob repr jobId fun uuid =>
              app.queue.complete uuid owner now).1.queue =
              (queueMachine.step app.queue call).1 :=
          onJob_call (fun _ => rfl) isCall
        exact made
    | fail jobId owner error now =>
        have made :
            (app.onJob repr jobId fun uuid =>
              app.queue.fail uuid owner error now).1.queue =
              (queueMachine.step app.queue call).1 :=
          onJob_call (fun _ => rfl) isCall
        exact made
    | _ =>
        cases isCall
  unmoved := by
    intro app request noCall
    cases request with
    | enqueue body draws =>
        cases noCall
    | claim owner now =>
        cases noCall
    | complete jobId owner now =>
        have unchanged :
            (app.onJob repr jobId fun uuid =>
              app.queue.complete uuid owner now).1 = app :=
          onJob_no_call noCall
        exact congrArg DemoApp.queue unchanged
    | fail jobId owner error now =>
        have unchanged :
            (app.onJob repr jobId fun uuid =>
              app.queue.fail uuid owner error now).1 = app :=
          onJob_no_call noCall
        exact congrArg DemoApp.queue unchanged
    | parse body signalId =>
        simp only [demoMachine, step, parseSignal]
        split
        · rfl
        · split <;> rfl
    | _ =>
        rfl

/-- A stored job is named by its own text. -/
theorem names_of_get
    {queue : InMemoryJobQueue Bool}
    {uuid : UUID}
    {job : OrderJob Bool}
    (found : queue.get uuid = some job) :
    Names queue job.jobId.text := by
  refine ⟨uuid, by rw [found]; rfl, ?_⟩
  rw [InMemoryJobQueue.jobId_of_get found]

/-- A claimed job is stored behind the claim. -/
theorem names_of_claim
    {queue : InMemoryJobQueue Bool}
    {owner : String}
    {now : Instant}
    {job : OrderJob Bool}
    (handedOut : (queue.claim owner now 60).2 = .ok (some job)) :
    Names (queue.claim owner now 60).1 job.jobId.text := by
  unfold InMemoryJobQueue.claim at handedOut ⊢
  cases scan : queue.scan? now with
  | none =>
      rw [scan] at handedOut
      cases handedOut
  | some entry =>
      obtain ⟨found, -⟩ := OrderedDict.get?_of_firstWhere? scan
      have stored : queue.get entry.1 = some entry.2 := found
      rw [scan] at handedOut
      dsimp only at handedOut ⊢
      split at handedOut
      · next ends =>
          cases handedOut
          rw [if_pos ends]
          refine @names_of_get _ entry.1 _ ?_
          rw [InMemoryJobQueue.get_mutate, if_pos rfl, stored]
          rfl
      · cases handedOut

/-- The answer of an analysis shows no job. -/
theorem jobIds_of_analysis
    {reply : Except ApiError AnalyzeResponse}
    {response : DemoResponse}
    (answered : reply.map .analyzed = .ok response) :
    response.jobIds = [] := by
  cases reply with
  | error raised => cases answered
  | ok analysis =>
      cases answered
      rfl

/-- The job ids in an answer name jobs that are stored behind it. -/
theorem names_of_answer
    {request : DemoRequest}
    {response : DemoResponse}
    (answered :
      (step computeHash str digest render repr app request).2 =
        .ok response)
    {text : String}
    (shown : text ∈ response.jobIds) :
    Names (step computeHash str digest render repr app request).1.queue
      text := by
  cases request with
  | queueStatus =>
      cases answered
      obtain ⟨listed, inListing, rfl⟩ := List.mem_map.mp shown
      obtain ⟨job, inDropped, rfl⟩ := List.mem_map.mp inListing
      obtain ⟨uuid, found⟩ :=
        app.queue.jobs.mem_values_iff.mp (List.mem_of_mem_drop inDropped)
      exact names_of_get found
  | enqueue body draws =>
      cases answered
      rw [DemoResponse.jobIds, List.mem_singleton] at shown
      subst shown
      change Names (app.queue.enqueue (body.request draws) draws.job).1 _
      cases scan : app.queue.findClientOrder (body.request draws) with
      | some job =>
          obtain ⟨clientOrderId, -, found, -⟩ :=
            InMemoryJobQueue.findClientOrder_eq_some scan
          rw [InMemoryJobQueue.enqueue_of_found draws.job scan]
          exact names_of_get found
      | none =>
          rw [InMemoryJobQueue.enqueue_of_not_found draws.job scan]
          apply names_of_get
          rw [InMemoryJobQueue.get_store, if_pos rfl]
  | claim owner now =>
      simp only [step, queueClaim] at answered
      change Names (app.queue.claim owner now 60).1 _
      split at answered
      · cases answered
      · next claimed returned =>
          cases answered
          obtain ⟨summary, inReply, rfl⟩ := List.mem_map.mp shown
          obtain ⟨job, rfl, rfl⟩ :=
            Option.map_eq_some_iff.mp (Option.mem_toList.mp inReply)
          exact names_of_claim returned
  | parse body signalId =>
      simp only [step, parseSignal] at answered
      split at answered
      · cases answered
      · split at answered
        · cases answered
        · cases answered
          cases shown
  | analyze body signalId tradeId =>
      have noJobs := jobIds_of_analysis answered
      rw [noJobs] at shown
      cases shown
  | complete jobId owner now =>
      simp only [step, queueComplete, onJob] at answered
      split at answered
      · cases answered
      · cases answered
        cases shown
  | fail jobId owner error now =>
      simp only [step, queueFail, onJob] at answered
      split at answered
      · cases answered
      · cases answered
        cases shown
  | _ =>
      cases answered
      cases shown

/-- A job id stays the name of its job. -/
theorem names_final
    {requests : List DemoRequest}
    (admitted :
      (demoMachine computeHash str digest render repr).Admitted app requests)
    {text : String}
    (named : Names app.queue text) :
    Names
      ((demoMachine computeHash str digest render repr).final app
        requests).queue text := by
  obtain ⟨uuid, stored, written⟩ := named
  obtain ⟨callsAdmitted, sameQueue⟩ :=
    (queueProjection computeHash str digest render repr).run admitted
  refine ⟨uuid, ?_, written⟩
  change ((queueProjection computeHash str digest render repr).view
    _).get uuid |>.isSome
  rw [← sameQueue]
  exact stored_final callsAdmitted stored

/-- What any answer of a run has shown still names a job at its end. -/
theorem names_of_shown
    {requests : List DemoRequest}
    (admitted :
      (demoMachine computeHash str digest render repr).Admitted app requests)
    {executed : Executed DemoApp DemoRequest (Except ApiError DemoResponse)}
    (member :
      executed ∈
        (demoMachine computeHash str digest render repr).trace app requests)
    {response : DemoResponse}
    (answered : executed.reply = .ok response)
    {text : String}
    (shown : text ∈ response.jobIds) :
    Names
      ((demoMachine computeHash str digest render repr).final app
        requests).queue text := by
  obtain ⟨earlier, request, later, rfl, rfl⟩ :=
    (demoMachine computeHash str digest render repr).exists_split_of_mem_trace
      member
  obtain ⟨-, -, laterAdmitted⟩ :=
    (Machine.admitted_append _ _ earlier (request :: later)).mp admitted
  rw [Machine.final_append, Machine.final_cons]
  exact names_final laterAdmitted (names_of_answer answered shown)

/-- A job carries a client order id that is not empty. -/
def Identified (job : OrderJob Bool) : Prop :=
  ∃ clientOrderId, job.clientOrderId = some clientOrderId ∧
    clientOrderId ≠ ""

/-- The id of an enqueue request is never empty. -/
theorem clientId_ne_empty
    (body : QueueEnqueueRequest)
    (drawn : UUID) :
    body.clientId drawn ≠ "" := by
  unfold QueueEnqueueRequest.clientId
  cases kept :
      body.clientOrderId.filter fun clientOrderId => clientOrderId ≠ "" with
  | none =>
      simp
  | some clientOrderId =>
      obtain ⟨-, nonempty⟩ := Option.filter_eq_some_iff.mp kept
      simpa using nonempty

/-- What the demo API enqueues carries an id. -/
theorem identified_newJob
    {request : DemoRequest}
    {enqueued : EnqueueRequest Bool}
    {draw : EnqueueDraw}
    (isCall :
      queueCall? repr request = some (.enqueue enqueued draw)) :
    Identified (enqueued.newJob draw) := by
  cases request with
  | enqueue body draws =>
      cases isCall
      exact ⟨body.clientId draws.clientId, rfl, clientId_ne_empty _ _⟩
  | complete jobId owner now =>
      obtain ⟨uuid, -, impossible⟩ := Option.map_eq_some_iff.mp isCall
      cases impossible
  | fail jobId owner error now =>
      obtain ⟨uuid, -, impossible⟩ := Option.map_eq_some_iff.mp isCall
      cases impossible
  | _ =>
      cases isCall

/-- A move leaves a job identified if it creates only identified ones. -/
theorem identified_of_move
    {uuid : UUID}
    {call : QueueOp Bool}
    {reply : QueueReply Bool}
    {before : Option (OrderJob Bool)}
    {job : OrderJob Bool}
    (move : JobMove uuid call reply before (some job))
    (created : ∀ enqueued draw, call = .enqueue enqueued draw →
      Identified (enqueued.newJob draw))
    (earlier : ∀ old, before = some old → Identified old) :
    Identified job := by
  cases move with
  | untouched _ _ =>
      exact earlier job rfl
  | created enqueued draw drawn =>
      exact created enqueued draw rfl
  | taken old _ _ _ _ _ _ =>
      exact earlier old rfl
  | seized old _ _ _ _ _ =>
      exact earlier old rfl
  | extended old _ _ _ _ _ _ _ =>
      exact earlier old rfl
  | unextended _ _ _ _ _ _ _ _ =>
      exact earlier job rfl
  | finished old _ _ _ =>
      exact earlier old rfl
  | failed old _ _ _ _ =>
      exact earlier old rfl
  | reviewed old _ _ _ _ =>
      exact earlier old rfl
  | released old _ _ _ =>
      exact earlier old rfl

/-- In every run of the demo API all stored jobs are identified. -/
theorem identified_after
    {requests : List DemoRequest}
    (admitted :
      (demoMachine computeHash str digest render repr).Admitted .initial
        requests)
    {uuid : UUID}
    {job : OrderJob Bool}
    (found :
      (after computeHash str digest render repr requests).queue.get uuid =
        some job) :
    Identified job := by
  have everywhere :
      ∀ uuid job,
        (after computeHash str digest render repr requests).queue.get uuid =
          some job → Identified job := by
    refine (demoMachine computeHash str digest render repr).invariant
      (fun app => ∀ uuid job, app.queue.get uuid = some job →
        Identified job) ?_ ?_ admitted
    · intro app request identified fresh uuid job located
      cases isCall : queueCall? repr request with
      | none =>
          have unmoved :=
            (queueProjection computeHash str digest render repr).unmoved
              app request isCall
          change DemoApp.queue _ = DemoApp.queue app at unmoved
          rw [unmoved] at located
          exact identified uuid job located
      | some call =>
          have moved :=
            (queueProjection computeHash str digest render repr).moved
              app request call isCall
          change DemoApp.queue _ = _ at moved
          rw [moved] at located
          have move := queueMachine_moves (fresh call isCall) uuid
          change JobMove uuid call _ (app.queue.get uuid) _ at move
          have landed :
              ((queueMachine.step app.queue call).1).get uuid = some job :=
            located
          rw [landed] at move
          refine identified_of_move move ?_ (identified uuid)
          intro enqueued draw same
          subst same
          exact identified_newJob isCall
    · intro uuid job impossible
      cases impossible
  exact everywhere uuid job found

/-- The queue of the demo API is one its calls lead to. -/
theorem queue_after
    {requests : List DemoRequest}
    (admitted :
      (demoMachine computeHash str digest render repr).Admitted .initial
        requests) :
    queueMachine.Admitted .empty (requests.filterMap (queueCall? repr)) ∧
      queueMachine.final .empty (requests.filterMap (queueCall? repr)) =
        (after computeHash str digest render repr requests).queue :=
  (queueProjection computeHash str digest render repr).run admitted

/-- An endpoint on a job id acts exactly as its queue call does. -/
theorem onJob_acted_iff :
    (app.onJob repr jobId act).2 = .ok (.acted true) ↔
      ∃ uuid, UUID.ofText repr jobId = .ok uuid ∧ (act uuid).2 = true := by
  unfold onJob
  cases UUID.ofText repr jobId with
  | error raised => simp
  | ok uuid => simp

/-- Where such an endpoint does not act it changes nothing. -/
theorem onJob_of_not_acted
    (refuses : ∀ uuid, (act uuid).2 = false → (act uuid).1 = app.queue)
    (notActed : (app.onJob repr jobId act).2 ≠ .ok (.acted true)) :
    (app.onJob repr jobId act).1 = app := by
  unfold onJob at notActed ⊢
  cases read : UUID.ofText repr jobId with
  | error raised =>
      rfl
  | ok uuid =>
      have refused : (act uuid).2 = false := by
        simpa [read] using notActed
      simp only
      rw [refuses uuid refused]

/--
The owner calls of the demo API: they succeed exactly for the owner of the
claimed job that the text names, and otherwise they change nothing.
-/
theorem ownedCall_acted
    (consistent : ∀ uuid job, app.queue.get uuid = some job →
      job.Consistent)
    (owner : String)
    (change : OrderJob Bool → OrderJob Bool)
    (keepsId : ∀ job, (change job).jobId = job.jobId)
    (isOwnerCall : ∀ uuid,
      act uuid = app.queue.ownerCall uuid
        (fun job => decide (job.leaseOwner = some owner)) change keepsId) :
    ((app.onJob repr jobId act).2 = .ok (.acted true) ↔
        ∃ job, app.queue.get job.jobId = some job ∧
          UUID.ofText repr jobId = .ok job.jobId ∧
          job.status = .claimed ∧ job.leaseOwner = some owner) ∧
      ((app.onJob repr jobId act).2 ≠ .ok (.acted true) →
        (app.onJob repr jobId act).1 = app) := by
  constructor
  · rw [onJob_acted_iff]
    simp only [isOwnerCall, InMemoryJobQueue.ownerCall_accepted_iff]
    constructor
    · rintro ⟨uuid, read, job, found, owned⟩
      have filed := InMemoryJobQueue.jobId_of_get found
      subst filed
      have holds := of_decide_eq_true owned
      exact ⟨job, found, read,
        (consistent _ job found).claimed_of_owner holds, holds⟩
    · rintro ⟨job, found, read, -, owned⟩
      exact ⟨job.jobId, read, job, found, decide_eq_true owned⟩
  · apply onJob_of_not_acted
    intro uuid refused
    rw [isOwnerCall] at refused ⊢
    exact InMemoryJobQueue.ownerCall_refused refused

/--
The queue of the demo API over whole runs.  It is the queue that the calls of
the requests lead to from the empty one; every job carries an id of its own;
every job id an answer has shown is still read as the id of a stored job; and
completing or failing a job succeeds exactly for the owner of the claimed job
that the text names, and otherwise changes nothing.
-/
theorem demoQueue
    (computeHash : String → String)
    (str : PyException → String)
    (digest : String → String)
    (render : Decimal → String)
    (repr : String → String)
    (requests : List DemoRequest)
    (admitted :
      (demoMachine computeHash str digest render repr).Admitted .initial
        requests)
    (app : DemoApp)
    (reached : after computeHash str digest render repr requests = app) :
    (queueMachine.Admitted .empty (requests.filterMap (queueCall? repr)) ∧
        queueMachine.final .empty (requests.filterMap (queueCall? repr)) =
          app.queue) ∧
      (∀ uuid job, app.queue.get uuid = some job →
        ∃ clientOrderId,
          job.clientOrderId = some clientOrderId ∧ clientOrderId ≠ "" ∧
            ∀ other otherJob, app.queue.get other = some otherJob →
              otherJob.clientOrderId = some clientOrderId →
                other = uuid) ∧
      (∀ executed ∈
          (demoMachine computeHash str digest render repr).trace .initial
            requests,
        ∀ response, executed.reply = .ok response →
          ∀ text ∈ response.jobIds,
            ∃ job, app.queue.get job.jobId = some job ∧
              job.jobId.text = text ∧
                UUID.ofText repr text = .ok job.jobId) ∧
      ∀ text owner error now,
        ∀ request ∈
            [DemoRequest.complete text owner now,
              DemoRequest.fail text owner error now],
          ((step computeHash str digest render repr app request).2 =
              .ok (.acted true) ↔
            ∃ job, app.queue.get job.jobId = some job ∧
              UUID.ofText repr text = .ok job.jobId ∧
              job.status = .claimed ∧ job.leaseOwner = some owner) ∧
            ((step computeHash str digest render repr app request).2 ≠
                .ok (.acted true) →
              (step computeHash str digest render repr app request).1 =
                app) := by
  subst reached
  obtain ⟨callsAdmitted, sameQueue⟩ := queue_after admitted
  refine ⟨⟨callsAdmitted, sameQueue⟩, ?_, ?_, ?_⟩
  · intro uuid job found
    obtain ⟨clientOrderId, carries, nonempty⟩ := identified_after admitted found
    refine ⟨clientOrderId, carries, nonempty, ?_⟩
    intro other otherJob otherFound otherCarries
    have ledger := Ledger.of_run callsAdmitted
    rw [sameQueue] at ledger
    exact ledger.unique other uuid clientOrderId nonempty
      (Option.bind_eq_some_iff.mpr ⟨otherJob, otherFound, otherCarries⟩)
      (Option.bind_eq_some_iff.mpr ⟨job, found, carries⟩)
  · intro executed member response answered text shown
    obtain ⟨uuid, stored, written⟩ :=
      names_of_shown admitted member answered shown
    obtain ⟨job, found⟩ := Option.isSome_iff_exists.mp stored
    have filed := InMemoryJobQueue.jobId_of_get found
    subst filed
    exact ⟨job, found, written, written ▸ UuidText.ofText_text repr job.jobId⟩
  · intro text owner error now request isEndpoint
    have reachable :
        QueueReachable
          (after computeHash str digest render repr requests).queue :=
      ⟨_, callsAdmitted, sameQueue⟩
    have consistent := fun uuid job found =>
      @QueueReachable.consistent _ _ reachable uuid job found
    simp only [List.mem_cons, List.not_mem_nil, or_false] at isEndpoint
    rcases isEndpoint with rfl | rfl
    · exact ownedCall_acted consistent owner _ _ fun _ => rfl
    · exact ownedCall_acted consistent owner _ _ fun _ => rfl

/-- An entry job is enqueued and claimed. -/
def claimRequests : List DemoRequest :=
  [.enqueue ⟨"entry", none⟩ ⟨7, 8, ⟨1, 0, 0⟩⟩, .claim "demo-worker" 5]

/-- The claimed job is completed by the text of its id. -/
theorem demoQueue_completed :
    (step (fun text => text) (fun _ => "") (fun text => text)
        PythonText.fractionText (fun text => text)
        (after (fun text => text) (fun _ => "") (fun text => text)
          PythonText.fractionText (fun text => text) claimRequests)
        (.complete "00000000-0000-0000-0000-000000000001" "demo-worker"
          6)).2 =
      .ok (.acted true) := by
  refine ((demoQueue (fun text => text) (fun _ => "") (fun text => text)
    PythonText.fractionText (fun text => text) claimRequests ?_ _
    rfl).2.2.2 "00000000-0000-0000-0000-000000000001" "demo-worker" "" 6
    _ List.mem_cons_self).1.mpr ?_
  · refine ⟨?_, ?_, trivial⟩
    · rintro call isCall
      cases isCall
      exact fun _ => rfl
    · rintro call isCall
      cases isCall
      trivial
  · exact ⟨((((⟨"entry", some "demo-0000000000"⟩ :
      QueueEnqueueRequest).request ⟨7, 8, ⟨1, 0, 0⟩⟩).newJob
        ⟨1, 0, 0⟩).taken "demo-worker" 60 5), rfl,
      UuidText.ofText_text _ 1, rfl, rfl⟩

end DemoApp

end SafeSignalTrader
