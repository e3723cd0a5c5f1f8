import SafeSignalTrader.EntryPlanner
import SafeSignalTrader.QueueSubmission

/-!
# Client order ids of trades and attempts

The planner cuts the trade id after 16 of its 32 hexadecimal digits and the
whole client order id after 36 characters.  What two ids share, and when the
queue keeps the entry jobs of different trades and attempts apart.
-/

namespace SafeSignalTrader

open PositionalNumerals RunSemantics

/-- A trade and one attempt to enter it. -/
abbrev EntryAttempt := UUID × Nat

namespace EntryPlanner

/-- The client order id of a trade and an attempt that can be written out. -/
def entryId (entry : EntryAttempt) : String :=
  clientOrderIdText entry.1 (toString (entry.2 : Int))

/-- A client order id spelt out: half a trade id and a cut attempt. -/
theorem entryId_toList (entry : EntryAttempt) :
    (entryId entry).toList =
      ['s', 's', 't', '-'] ++
        (fixedDigits 16 16 (entry.1.toNat / 16 ^ 16) ++
          (['-', 'a'] ++ (Nat.toDigits 10 entry.2).take 14)) := by
  have numeral :
      (toString (entry.2 : Int)).toList = Nat.toDigits 10 entry.2 := by
    change (Nat.repr entry.2).toList = _
    exact Nat.toList_repr
  have half :
      (fixedDigits 16 32 entry.1.toNat).take 16 =
        fixedDigits 16 16 (entry.1.toNat / 16 ^ 16) :=
    take_fixedDigits 16 16 entry.1.toNat
  simp only [entryId, clientOrderIdText, UUID.hex, String.toList_append,
    String.toList_ofList, numeral, half]
  simp [List.take_append]

/-- Two client order ids are one exactly if both cut parts agree. -/
theorem entryId_eq_iff {first second : EntryAttempt} :
    entryId first = entryId second ↔
      first.1.toNat / 2 ^ 64 = second.1.toNat / 2 ^ 64 ∧
        leadingNumber 10 14 first.2 = leadingNumber 10 14 second.2 := by
  have fits :
      ∀ tradeId : UUID, tradeId.toNat / 16 ^ 16 < 16 ^ 16 := by
    intro tradeId
    exact Nat.div_lt_of_lt_mul (lt_of_lt_of_eq tradeId.isLt (by norm_num))
  rw [← String.toList_inj, entryId_toList, entryId_toList,
    List.append_cancel_left_eq]
  constructor
  · intro same
    obtain ⟨sameHalf, sameRest⟩ := List.append_inj same (by simp)
    have samePrefix := List.append_cancel_left sameRest
    exact ⟨fixedDigits_injective (by norm_num) le_rfl (fits _) (fits _)
      sameHalf,
      (take_toDigits_eq_iff (by norm_num) le_rfl (by norm_num)).mp
        samePrefix⟩
  · intro same
    have samePrefix :
        (Nat.toDigits 10 first.2).take 14 =
          (Nat.toDigits 10 second.2).take 14 :=
      (take_toDigits_eq_iff (by norm_num) le_rfl (by norm_num)).mpr same.2
    have sameHalf :
        first.1.toNat / 16 ^ 16 = second.1.toNat / 16 ^ 16 := same.1
    rw [sameHalf, samePrefix]

/-- A plan for a trade and an attempt, from any signal and decision. -/
def IsPlanOf (entry : EntryAttempt) (planned : EntryPlan RiskReason) : Prop :=
  ∃ signal snapshot risk markPrice,
    plan contextArithmetic entry.1 signal snapshot risk entry.2 markPrice =
      .ok planned

/-- A plan of an approved market entry, for a trade and an attempt. -/
def examplePlan (entry : EntryAttempt) : EntryPlan RiskReason :=
  draft entry.1
    (.default 1 "tg" "generic_structured" "1.0.0" "BTCUSDT" .long)
    (.default "tg" "acc" "p" "1")
    { allowed := true
      reason := .ok
      leverage := 1
      notionalUsdt := 10
      quantity := some (1 / 1000)
      maxLossUsdt := some 10 }
    ⟨1 / 1000, none, none⟩ (entryId entry)

theorem isPlanOf_example
    {entry : EntryAttempt}
    (printable : PrintableInt entry.2) :
    IsPlanOf entry (examplePlan entry) := by
  refine ⟨_, _, _, none, plan_eq_ok_iff.mpr ⟨_, ?_, printable, rfl⟩⟩
  exact toOption_eq_some_iff.mp (by decide +kernel)

/-- A trade and an attempt are planned exactly if the attempt is printable. -/
theorem exists_isPlanOf_iff {entry : EntryAttempt} :
    (∃ planned, IsPlanOf entry planned) ↔ PrintableInt entry.2 := by
  constructor
  · intro planned
    obtain ⟨_, _, _, _, _, returned⟩ := planned
    obtain ⟨_, _, printable, _⟩ := plan_eq_ok_iff.mp returned
    exact printable
  · intro printable
    exact ⟨_, isPlanOf_example printable⟩

theorem IsPlanOf.clientOrderId
    {entry : EntryAttempt}
    {planned : EntryPlan RiskReason}
    (isPlan : IsPlanOf entry planned) :
    planned.clientOrderId = entryId entry := by
  obtain ⟨_, _, _, _, returned⟩ := isPlan
  obtain ⟨_, _, _, rfl⟩ := plan_eq_ok_iff.mp returned
  rfl

theorem entryId_ne_empty (entry : EntryAttempt) : entryId entry ≠ "" := by
  intro empty
  have noCharacters := congrArg String.toList empty
  rw [entryId_toList] at noCharacters
  cases noCharacters

/--
A client order id tells two attempts apart: the trade ids differ in their
first 64 bits, or the attempts in their first 14 digits.
-/
def ToldApart (first second : EntryAttempt) : Prop :=
  first.1.toNat / 2 ^ 64 ≠ second.1.toNat / 2 ^ 64 ∨
    leadingNumber 10 14 first.2 ≠ leadingNumber 10 14 second.2

instance decidableToldApart (first second : EntryAttempt) :
    Decidable (ToldApart first second) :=
  inferInstanceAs (Decidable (_ ∨ _))

theorem entryId_ne_iff {first second : EntryAttempt} :
    entryId first ≠ entryId second ↔ ToldApart first second := by
  rw [ne_eq, entryId_eq_iff, not_and_or]
  rfl

end EntryPlanner

open EntryPlanner

variable {Value : Type}

/-- A request for the entry job of a trade and an attempt. -/
structure IsEntryRequest
    (entry : EntryAttempt)
    (request : EnqueueRequest Value) : Prop where
  tradeId : request.tradeId = entry.1
  planned :
    ∃ planned, IsPlanOf entry planned ∧
      request.clientOrderId = some planned.clientOrderId

/-- The enqueues of a run are the entry jobs of a list of attempts. -/
def EnqueuesEntries
    (entries : List EntryAttempt)
    (ops : List (QueueOp Value)) : Prop :=
  List.Forall₂ IsEntryRequest entries (ops.filterMap QueueOp.request?)

section Requests

variable {entry : EntryAttempt}
variable {entries : List EntryAttempt}
variable {request : EnqueueRequest Value}
variable {requests : List (EnqueueRequest Value)}
variable {ops : List (QueueOp Value)}

theorem IsEntryRequest.clientOrderId
    (isEntry : IsEntryRequest entry request) :
    request.clientOrderId = some (entryId entry) := by
  obtain ⟨planned, isPlan, supplied⟩ := isEntry.planned
  rw [supplied, isPlan.clientOrderId]

theorem IsEntryRequest.dedupId?
    (isEntry : IsEntryRequest entry request) :
    request.dedupId? = some (entryId entry) :=
  EnqueueRequest.dedupId?_eq_some_iff.mpr
    ⟨isEntry.clientOrderId, entryId_ne_empty entry⟩

/-- Every request among entry requests is for some attempt. -/
theorem exists_entry_of_request
    (aligned : List.Forall₂ IsEntryRequest entries requests)
    (member : request ∈ requests) :
    ∃ entry ∈ entries, IsEntryRequest entry request := by
  induction aligned with
  | nil => cases member
  | cons isEntry _ inductionHypothesis =>
      rcases List.mem_cons.mp member with isHead | inRest
      · rw [isHead]
        exact ⟨_, List.mem_cons_self, isEntry⟩
      · obtain ⟨other, listed, isOther⟩ := inductionHypothesis inRest
        exact ⟨other, List.mem_cons_of_mem _ listed, isOther⟩

/-- Entry requests supply the ids of their attempts. -/
theorem submittedIds_of_entries (enqueues : EnqueuesEntries entries ops) :
    submittedIds ops = entries.map entryId := by
  unfold EnqueuesEntries at enqueues
  unfold submittedIds
  generalize ops.filterMap QueueOp.request? = requests at enqueues ⊢
  induction enqueues with
  | nil => rfl
  | cons isEntry _ inductionHypothesis =>
      rw [List.filterMap_cons_some isEntry.dedupId?, List.map_cons,
        inductionHypothesis]

/-- No entry request lacks an id. -/
theorem idlessEnqueues_of_entries (enqueues : EnqueuesEntries entries ops) :
    idlessEnqueues ops = 0 := by
  unfold idlessEnqueues
  rw [List.countP_eq_zero]
  intro request member
  obtain ⟨entry, _, isEntry⟩ := exists_entry_of_request enqueues member
  simp [isEntry.dedupId?]

end Requests

/-- Every stored job was asked for, with its trade and client order id. -/
def Requested
    (queue : InMemoryJobQueue Value)
    (past : List (QueueRecord Value)) : Prop :=
  ∀ jobId job, queue.get jobId = some job →
    ∃ request ∈ (past.map Executed.op).filterMap QueueOp.request?,
      request.tradeId = job.tradeId ∧
        request.clientOrderId = job.clientOrderId

namespace Requested

variable {queue : InMemoryJobQueue Value}
variable {past : List (QueueRecord Value)}

theorem initially : Requested (.empty : InMemoryJobQueue Value) [] := by
  intro jobId job found
  cases found

/-- A call keeps every job that was asked for, and creates none unasked. -/
theorem step
    {op : QueueOp Value}
    (requested : Requested queue past)
    (fresh : queueMachine.admits queue op) :
    Requested (queueMachine.step queue op).1
      (past ++ [queueMachine.execute queue op]) := by
  intro jobId job found
  have move := queueMachine_moves fresh jobId
  rw [List.map_append, List.filterMap_append]
  cases before : queue.get jobId with
  | some known =>
      have kept := move.identity before
      rw [found, Option.map_some, Option.some.injEq] at kept
      obtain ⟨request, member, sameTrade, sameId⟩ :=
        requested jobId known before
      refine ⟨request, List.mem_append_left _ member, ?_, ?_⟩
      · rw [sameTrade]
        exact (congrArg JobIdentity.tradeId kept).symm
      · rw [sameId]
        exact (congrArg JobIdentity.clientOrderId kept).symm
  | none =>
      rw [before, found] at move
      generalize (queueMachine.step queue op).2 = reply at move
      cases move with
      | created request draw drawn =>
          refine ⟨request, List.mem_append_right _ ?_, rfl, rfl⟩
          exact List.mem_singleton.mpr rfl

/-- After a run every job was asked for by one of its enqueues. -/
theorem of_run
    {ops : List (QueueOp Value)}
    (admitted : queueMachine.Admitted .empty ops) :
    Requested (queueMachine.final .empty ops)
      (queueMachine.trace .empty ops) :=
  queueMachine.historyInvariant Requested initially
    (fun _ _ _ requested fresh => requested.step fresh) admitted

end Requested

/-- What a run makes of the entry jobs of a list of attempts. -/
structure OneJobEach
    (entries : List EntryAttempt)
    (ops : List (QueueOp Value)) : Prop where
  size : (queueMachine.final .empty ops).size = entries.length
  held :
    ∀ entry ∈ entries, ∃ jobId job,
      (queueMachine.final .empty ops).get jobId = some job ∧
        job.tradeId = entry.1 ∧ job.clientOrderId = some (entryId entry)
  answered :
    ∀ executed ∈ queueMachine.trace .empty ops, ∀ request draw,
      executed.op = .enqueue request draw →
        ∃ job, executed.reply = .enqueued job ∧
          job.tradeId = request.tradeId

section Runs

variable {entries : List EntryAttempt}
variable {ops : List (QueueOp Value)}

/-- The client order id of a stored entry job determines its trade. -/
theorem tradeId_of_entryId
    (injective :
      ∀ first ∈ entries, ∀ second ∈ entries,
        entryId first = entryId second → first = second)
    (enqueues : EnqueuesEntries entries ops)
    {earlier later : List (QueueOp Value)}
    (shape : ops = earlier ++ later)
    (admitted : queueMachine.Admitted .empty earlier)
    {jobId : UUID}
    {job : OrderJob Value}
    (found : (queueMachine.final .empty earlier).get jobId = some job)
    {entry : EntryAttempt}
    (listed : entry ∈ entries)
    (carries : job.clientOrderId = some (entryId entry)) :
    job.tradeId = entry.1 := by
  obtain ⟨request, member, sameTrade, sameId⟩ :=
    Requested.of_run admitted jobId job found
  rw [queueMachine.trace_map_op] at member
  have inRun : request ∈ ops.filterMap QueueOp.request? := by
    rw [shape, List.filterMap_append]
    exact List.mem_append_left _ member
  obtain ⟨asked, askedListed, isEntry⟩ :=
    exists_entry_of_request enqueues inRun
  have sameEntryId : entryId asked = entryId entry := by
    apply Option.some.inj
    rw [← isEntry.clientOrderId, sameId, carries]
  rw [← sameTrade, isEntry.tradeId,
    injective asked askedListed entry listed sameEntryId]

/-- With ids of their own, the attempts have one job each. -/
theorem oneJobEach_of_injective
    (distinct : entries.Nodup)
    (injective :
      ∀ first ∈ entries, ∀ second ∈ entries,
        entryId first = entryId second → first = second)
    (enqueues : EnqueuesEntries entries ops)
    (admitted : queueMachine.Admitted .empty ops) :
    OneJobEach entries ops where
  size := by
    have idsDistinct : (entries.map entryId).Nodup :=
      List.Nodup.map_on
        (fun first firstListed second secondListed =>
          injective first firstListed second secondListed) distinct
    have counted := (Ledger.of_run admitted).counted
    rw [queueMachine.trace_map_op, submittedIds_of_entries enqueues,
      idlessEnqueues_of_entries enqueues,
      List.toFinset_card_of_nodup idsDistinct, List.length_map] at counted
    exact counted
  held := by
    intro entry listed
    have submitted :=
      ((Ledger.of_run admitted).submitted (entryId entry)).mp (by
        rw [queueMachine.trace_map_op, submittedIds_of_entries enqueues]
        exact List.mem_map_of_mem listed)
    obtain ⟨_, jobId, carried⟩ := submitted
    obtain ⟨job, found, carries⟩ := Option.bind_eq_some_iff.mp carried
    exact ⟨jobId, job, found,
      tradeId_of_entryId injective enqueues (List.append_nil ops).symm
        admitted found listed carries,
      carries⟩
  answered := by
    intro executed member request draw called
    obtain ⟨earlier, op, later, shape, made⟩ :=
      queueMachine.exists_split_of_mem_trace member
    rw [made, Machine.execute_op] at called
    subst called
    refine ⟨_, by rw [made]; rfl, ?_⟩
    have inRun : request ∈ ops.filterMap QueueOp.request? := by
      rw [shape, List.filterMap_append]
      exact List.mem_append_right _ List.mem_cons_self
    obtain ⟨entry, listed, isEntry⟩ :=
      exists_entry_of_request enqueues inRun
    cases scan :
        (queueMachine.final .empty earlier).findClientOrder request with
    | none =>
        rw [InMemoryJobQueue.enqueue_of_not_found draw scan]
        rfl
    | some job =>
        rw [InMemoryJobQueue.enqueue_of_found draw scan]
        obtain ⟨clientOrderId, supplied, found, carries⟩ :=
          InMemoryJobQueue.findClientOrder_eq_some scan
        rw [isEntry.dedupId?, Option.some.injEq] at supplied
        subst supplied
        rw [shape] at admitted
        have earlierAdmitted :=
          ((queueMachine.admitted_append .empty earlier _).mp admitted).1
        rw [isEntry.tradeId]
        exact tradeId_of_entryId injective enqueues shape earlierAdmitted
          found listed carries

end Runs

/-- An entry job whose id is taken is answered with the job that took it. -/
theorem enqueue_collision
    {first second : EntryAttempt}
    (collides : ¬ ToldApart first second)
    {firstRequest secondRequest : EnqueueRequest Value}
    (isFirst : IsEntryRequest first firstRequest)
    (isSecond : IsEntryRequest second secondRequest)
    (firstDraw secondDraw : EnqueueDraw) :
    ((InMemoryJobQueue.empty.enqueue firstRequest firstDraw).1.enqueue
        secondRequest secondDraw) =
      InMemoryJobQueue.empty.enqueue firstRequest firstDraw := by
  have sameId : entryId first = entryId second := by
    rw [← entryId_ne_iff, not_not] at collides
    exact collides
  have stored :
      (.empty : InMemoryJobQueue Value).enqueue firstRequest firstDraw =
        (InMemoryJobQueue.empty.store (firstRequest.newJob firstDraw),
          firstRequest.newJob firstDraw) :=
    InMemoryJobQueue.enqueue_of_not_found firstDraw
      (InMemoryJobQueue.findClientOrder_eq_none_iff.mpr
        (fun _ _ _ _ impossible => nomatch impossible))
  have run :
      queueMachine.Admitted (.empty : InMemoryJobQueue Value)
        [.enqueue firstRequest firstDraw] :=
    ⟨fun _ => rfl, trivial⟩
  have ledger := Ledger.of_run run
  have final :
      queueMachine.final (.empty : InMemoryJobQueue Value)
          [.enqueue firstRequest firstDraw] =
        InMemoryJobQueue.empty.store (firstRequest.newJob firstDraw) :=
    congrArg Prod.fst stored
  rw [final] at ledger
  have carried :
      (InMemoryJobQueue.empty.store
          (firstRequest.newJob firstDraw)).carriedId? firstDraw.jobId =
        some (entryId second) := by
    rw [InMemoryJobQueue.carriedId?_store, if_pos rfl, ← sameId]
    exact isFirst.clientOrderId
  obtain ⟨job, found, answered⟩ :=
    ledger.enqueue_carried carried (entryId_ne_empty second)
      isSecond.clientOrderId secondDraw
  have isFirstJob : firstRequest.newJob firstDraw = job := by
    have filed :
        firstDraw.jobId = (firstRequest.newJob firstDraw).jobId := rfl
    rw [InMemoryJobQueue.get_store, if_pos filed] at found
    exact Option.some.inj found
  rw [← isFirstJob] at answered
  rw [stored]
  exact answered

/--
A list of attempts is planned under unique client order ids, and every run that
enqueues their entry jobs creates one job for each, exactly if the attempts can
be written out and the ids tell all of them apart.
-/
theorem clientOrderIds_unique_iff
    (entries : List EntryAttempt)
    (distinct : entries.Nodup) :
    ((∀ entry ∈ entries, ∃ planned, IsPlanOf entry planned) ∧
        (∀ first ∈ entries, ∀ second ∈ entries, first ≠ second →
          ∀ firstPlan secondPlan, IsPlanOf first firstPlan →
            IsPlanOf second secondPlan →
              firstPlan.clientOrderId ≠ secondPlan.clientOrderId) ∧
          ∀ ops : List (QueueOp Value), EnqueuesEntries entries ops →
            queueMachine.Admitted .empty ops → OneJobEach entries ops) ↔
      (∀ entry ∈ entries, PrintableInt entry.2) ∧
        ∀ first ∈ entries, ∀ second ∈ entries, first ≠ second →
          ToldApart first second := by
  constructor
  · intro unique
    obtain ⟨planned, different, _⟩ := unique
    refine ⟨fun entry listed =>
      exists_isPlanOf_iff.mp (planned entry listed), ?_⟩
    intro first firstListed second secondListed distinctPair
    obtain ⟨firstPlan, isFirst⟩ := planned first firstListed
    obtain ⟨secondPlan, isSecond⟩ := planned second secondListed
    rw [← entryId_ne_iff, ← isFirst.clientOrderId,
      ← isSecond.clientOrderId]
    exact different first firstListed second secondListed distinctPair
      firstPlan secondPlan isFirst isSecond
  · intro apart
    obtain ⟨printable, toldApart⟩ := apart
    have idsDiffer :
        ∀ first ∈ entries, ∀ second ∈ entries, first ≠ second →
          entryId first ≠ entryId second := by
      intro first firstListed second secondListed different
      exact entryId_ne_iff.mpr
        (toldApart first firstListed second secondListed different)
    refine ⟨fun entry listed =>
      exists_isPlanOf_iff.mpr (printable entry listed), ?_, ?_⟩
    · intro first firstListed second secondListed different firstPlan
        secondPlan isFirst isSecond
      rw [isFirst.clientOrderId, isSecond.clientOrderId]
      exact idsDiffer first firstListed second secondListed different
    · intro ops enqueues admitted
      apply oneJobEach_of_injective distinct _ enqueues admitted
      intro first firstListed second secondListed same
      by_contra different
      exact idsDiffer first firstListed second secondListed different same

section Sample

/-- The entry job of an example plan. -/
def examplePlanRequest (entry : EntryAttempt) : EnqueueRequest Unit :=
  { EnqueueRequest.default entry.1 "entry" with
    clientOrderId := some (examplePlan entry).clientOrderId }

theorem isEntryRequest_example
    {entry : EntryAttempt}
    (printable : PrintableInt entry.2) :
    IsEntryRequest entry (examplePlanRequest entry) where
  tradeId := rfl
  planned := ⟨examplePlan entry, isPlanOf_example printable, rfl⟩

/-- Two enqueues for two attempts of one trade, with a claim between. -/
def retryRun : List (QueueOp Unit) :=
  [.enqueue (examplePlanRequest (0x12345678123442348000000000000000, 0))
      ⟨7, 0, 0⟩,
    .claim "worker" 30 1,
    .enqueue (examplePlanRequest (0x12345678123442348000000000000000, 1))
      ⟨8, 2, 2⟩]

/-- Two attempts of one trade have a job each. -/
theorem clientOrderIds_unique_retry :
    OneJobEach
      [(0x12345678123442348000000000000000, 0),
        (0x12345678123442348000000000000000, 1)] retryRun :=
  ((clientOrderIds_unique_iff
    [(0x12345678123442348000000000000000, 0),
      (0x12345678123442348000000000000000, 1)]
    (by decide)).mpr ⟨by decide, by decide⟩).2.2 retryRun
      (.cons (isEntryRequest_example (by decide))
        (.cons (isEntryRequest_example (by decide)) .nil))
      (by decide +kernel)

/-- Two trade ids that share their first 64 bits share a client order id. -/
theorem clientOrderId_collision :
    ¬ ∀ (first second : EntryAttempt), first ≠ second →
        ∀ firstPlan secondPlan, IsPlanOf first firstPlan →
          IsPlanOf second secondPlan →
            firstPlan.clientOrderId ≠ secondPlan.clientOrderId := by
  intro unique
  have differ :=
    unique (0x12345678123442348000000000000000, 0)
      (0x12345678123442348000000000000001, 0) (by decide) (examplePlan _)
      (examplePlan _) (isPlanOf_example (by decide))
      (isPlanOf_example (by decide))
  exact differ (by decide +kernel)

end Sample

end SafeSignalTrader
