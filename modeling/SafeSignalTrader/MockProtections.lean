import SafeSignalTrader.MockRuns

/-!
# Protections and live stops

The protection entries of the adapter and its live stop orders are two stores
that have to agree.  As long as they do, one call keeps them in agreement
exactly under a condition on its arguments, stated here for each method.
-/

namespace SafeSignalTrader

open PythonText
open RunSemantics

namespace MockOrder

/-- Whether an order is a stop that is still open. -/
def isLiveStop (order : MockOrder) : Bool :=
  match order.terms with
  | .stop _ => order.status = .new
  | .order _ _ _ => false

/-- A live stop is a new order. -/
theorem status_of_isLiveStop
    {order : MockOrder}
    (live : order.isLiveStop = true) :
    order.status = .new := by
  unfold isLiveStop at live
  split at live
  · exact of_decide_eq_true live
  · cases live

end MockOrder

namespace MockBinanceAdapter

/-- An open stop order of a symbol. -/
def LiveStop (adapter : MockBinanceAdapter) (symbol orderId : String) : Prop :=
  ∃ order,
    adapter.orders.get? orderId = some order ∧
      order.isLiveStop = true ∧ order.symbol = symbol

/--
Protection bookkeeping: a symbol has an entry iff exactly one stop order of it
is live, and the entry is that order.
-/
def Bookkept (adapter : MockBinanceAdapter) : Prop :=
  ∀ symbol,
    ((adapter.protections.get? symbol).isSome = true ↔
        ∃! orderId, adapter.LiveStop symbol orderId) ∧
      ∀ orderId, adapter.protections.get? symbol = some orderId →
        adapter.LiveStop symbol orderId

/-- The entries are exactly the live stops. -/
def Matched (adapter : MockBinanceAdapter) : Prop :=
  ∀ symbol orderId,
    adapter.protections.get? symbol = some orderId ↔
      adapter.LiveStop symbol orderId

/-- The arguments on which a call keeps entries and live stops together. -/
def KeepsProtections (adapter : MockBinanceAdapter) : MockOp → Prop
  | .placeOrder _ _ => True
  | .setMarkPrice _ _ => True
  | .cancelOrder query _ =>
      ∀ orderId order, adapter.resolve? query = some (orderId, order) →
        order.isLiveStop = false
  | .placeStop request _ =>
      ∀ orderId, ¬ adapter.LiveStop (upperText request.symbol) orderId
  | .replaceStop replacement _ =>
      (∀ symbol,
          adapter.LiveStop symbol replacement.existingOrderId →
            symbol = upperText replacement.symbol) ∧
        ∀ orderId,
          adapter.LiveStop (upperText replacement.symbol) orderId →
            orderId = replacement.existingOrderId
  | .cancelProtection query _ =>
      (∀ orderId, adapter.LiveStop (upperText query.symbol) orderId →
          ∃ order, adapter.resolve? query = some (orderId, order)) ∧
        ∀ orderId order, adapter.resolve? query = some (orderId, order) →
          order.isLiveStop = true →
            order.symbol = upperText query.symbol

variable {adapter : MockBinanceAdapter}
variable {symbol orderId : String}

/-- Entries that are exactly the live stops are kept right. -/
theorem Matched.bookkept (matched : adapter.Matched) : adapter.Bookkept := by
  intro symbol
  constructor
  · constructor
    · intro hasEntry
      obtain ⟨orderId, entry⟩ := Option.isSome_iff_exists.mp hasEntry
      refine ⟨orderId, (matched symbol orderId).mp entry, ?_⟩
      intro other live
      have otherEntry := (matched symbol other).mpr live
      rw [entry] at otherEntry
      exact (Option.some.inj otherEntry).symm
    · intro unique
      obtain ⟨orderId, live, _⟩ := unique
      rw [(matched symbol orderId).mpr live]
      rfl
  · intro orderId entry
    exact (matched symbol orderId).mp entry

section Live

/-- A new order that is no live stop leaves the live stops as they were. -/
theorem liveStop_record_order
    (consistent : adapter.Consistent)
    {order : MockOrder}
    (nextId : order.orderId = adapter.nextOrderId)
    (notLive : order.isLiveStop = false) :
    (adapter.record order).LiveStop symbol orderId ↔
      adapter.LiveStop symbol orderId := by
  unfold LiveStop
  simp only [record, OrderedDict.get?_set, nextId]
  split
  · next isNext =>
      subst isNext
      rw [consistent.fresh]
      simp [notLive]
  · exact Iff.rfl

/-- A new stop is live next to the ones before. -/
theorem liveStop_placeStop
    (consistent : adapter.Consistent)
    (request : StopRequest)
    (now : Int) :
    (adapter.placeStop request now).1.LiveStop symbol orderId ↔
      adapter.LiveStop symbol orderId ∨
        orderId = adapter.nextOrderId ∧ symbol = upperText request.symbol := by
  have sameOrders :
      (adapter.placeStop request now).1.orders =
        adapter.orders.set adapter.nextOrderId
          (adapter.stopOf request now) :=
    rfl
  unfold LiveStop
  simp only [sameOrders, OrderedDict.get?_set]
  split
  · next isNext =>
      subst isNext
      rw [consistent.fresh]
      constructor
      · intro live
        obtain ⟨order, isNew, _, onSymbol⟩ := live
        cases isNew
        exact Or.inr ⟨rfl, onSymbol.symm⟩
      · intro live
        rcases live with impossible | isNew
        · obtain ⟨order, stored, _⟩ := impossible
          cases stored
        · exact ⟨_, rfl, rfl, isNew.2.symm⟩
  · next different =>
      simp [different]

/-- Canceling an order ends it as a live stop, and no other one. -/
theorem liveStop_amend
    (canceledId : String)
    {change : MockOrder → MockOrder}
    (cancels : ∀ order, (change order).isLiveStop = false) :
    ({ adapter with
          orders := adapter.orders.modify canceledId change } :
        MockBinanceAdapter).LiveStop symbol orderId ↔
      adapter.LiveStop symbol orderId ∧ orderId ≠ canceledId := by
  unfold LiveStop
  simp only [OrderedDict.get?_modify]
  split
  · next same =>
      subst same
      simp [cancels]
  · next different =>
      simp [different]

theorem liveStop_markCanceled
    (canceledId : String)
    (now : Int) :
    (adapter.markCanceled canceledId now).LiveStop symbol orderId ↔
      adapter.LiveStop symbol orderId ∧ orderId ≠ canceledId := by
  apply liveStop_amend
  intro order
  unfold MockOrder.isLiveStop
  cases order.terms <;> rfl

theorem liveStop_retire (canceledId : String) :
    (adapter.retire canceledId).LiveStop symbol orderId ↔
      adapter.LiveStop symbol orderId ∧ orderId ≠ canceledId := by
  apply liveStop_amend
  intro order
  unfold MockOrder.isLiveStop
  cases order.terms <;> rfl

/-- Replacing a stop ends the named one and adds a new one. -/
theorem liveStop_replaceStop
    (consistent : adapter.Consistent)
    (replacement : StopReplacement)
    (now : Int) :
    (adapter.replaceStop replacement now).1.LiveStop symbol orderId ↔
      (adapter.LiveStop symbol orderId ∧
          orderId ≠ replacement.existingOrderId) ∨
        orderId = adapter.nextOrderId ∧
          symbol = upperText replacement.symbol := by
  have retired :
      (adapter.retire replacement.existingOrderId).Consistent :=
    consistent.amend _ fun _ => rfl
  rw [← liveStop_retire]
  exact liveStop_placeStop retired _ now

/-- Canceling a protection ends the stop that the ids resolve to. -/
theorem liveStop_cancelProtection
    (query : OrderQuery)
    (now : Int) :
    (adapter.cancelProtection query now).1.LiveStop symbol orderId ↔
      adapter.LiveStop symbol orderId ∧
        ∀ order, adapter.resolve? query ≠ some (orderId, order) := by
  rw [cancelProtection_fst]
  cases resolved : adapter.resolve? query with
  | none =>
      simp [LiveStop, unprotect]
  | some entry =>
      obtain ⟨canceledId, canceled⟩ := entry
      refine (liveStop_markCanceled canceledId now).trans
        (and_congr Iff.rfl ?_)
      constructor
      · intro different order same
        cases same
        exact different rfl
      · intro unresolved same
        subst same
        exact unresolved canceled rfl

/-- A live stop does not have the next order id. -/
theorem LiveStop.ne_next
    (live : adapter.LiveStop symbol orderId)
    (consistent : adapter.Consistent) :
    orderId ≠ adapter.nextOrderId := by
  obtain ⟨order, stored, _⟩ := live
  exact consistent.ne_next stored

/-- A resolved live stop is live under its symbol. -/
theorem liveStop_of_resolve
    {query : OrderQuery}
    {order : MockOrder}
    (resolved : adapter.resolve? query = some (orderId, order))
    (live : order.isLiveStop = true) :
    adapter.LiveStop order.symbol orderId :=
  ⟨order, (resolve?_eq_some_iff.mp resolved).2, live, rfl⟩

end Live

section Entries

/-- A new stop becomes the protection of its symbol. -/
theorem placeStop_entries
    (request : StopRequest)
    (now : Int)
    (symbol : String) :
    (adapter.placeStop request now).1.protections.get? symbol =
      if symbol = upperText request.symbol then
        some adapter.nextOrderId
      else
        adapter.protections.get? symbol :=
  OrderedDict.get?_set _ _ _ _

/-- A replacing stop becomes the protection of its symbol. -/
theorem replaceStop_entries
    (replacement : StopReplacement)
    (now : Int)
    (symbol : String) :
    (adapter.replaceStop replacement now).1.protections.get? symbol =
      if symbol = upperText replacement.symbol then
        some adapter.nextOrderId
      else
        adapter.protections.get? symbol :=
  OrderedDict.get?_set _ _ _ _

/-- A canceled protection leaves its symbol without an entry. -/
theorem cancelProtection_entries
    (query : OrderQuery)
    (now : Int)
    (symbol : String) :
    (adapter.cancelProtection query now).1.protections.get? symbol =
      if symbol = upperText query.symbol then
        none
      else
        adapter.protections.get? symbol := by
  rw [cancelProtection_fst]
  cases adapter.resolve? query with
  | none => exact OrderedDict.get?_erase _ _ _
  | some entry => exact OrderedDict.get?_erase _ _ _

end Entries

section Steps

/-- Canceling an order, with entries that are exactly the live stops. -/
theorem cancelOrder_keeps
    (matched : adapter.Matched)
    (query : OrderQuery)
    (now : Int) :
    (adapter.KeepsProtections (.cancelOrder query now) →
        (adapter.cancelOrder query now).1.Matched) ∧
      ((adapter.cancelOrder query now).1.Bookkept →
        adapter.KeepsProtections (.cancelOrder query now)) := by
  rw [cancelOrder_fst]
  cases resolved : adapter.resolve? query with
  | none =>
      refine ⟨fun _ => matched, ?_⟩
      intro _ orderId order found
      rw [resolved] at found
      cases found
  | some entry =>
      obtain ⟨canceledId, canceled⟩ := entry
      constructor
      · intro keeps symbol orderId
        have notLive := keeps canceledId canceled resolved
        rw [liveStop_markCanceled]
        refine (matched symbol orderId).trans ?_
        constructor
        · intro live
          refine ⟨live, ?_⟩
          intro same
          subst same
          obtain ⟨order, stored, isLive, _⟩ := live
          rw [(resolve?_eq_some_iff.mp resolved).2] at stored
          cases stored
          rw [notLive] at isLive
          cases isLive
        · exact And.left
      · intro bookkept orderId order found
        rw [resolved] at found
        cases found
        cases live : canceled.isLiveStop with
        | false =>
            rfl
        | true =>
            have entry :=
              (matched _ _).mpr (liveStop_of_resolve resolved live)
            have survives := (bookkept canceled.symbol).2 canceledId entry
            rw [liveStop_markCanceled] at survives
            exact absurd rfl survives.2

/-- A new stop, with entries that are exactly the live stops. -/
theorem placeStop_keeps
    (consistent : adapter.Consistent)
    (matched : adapter.Matched)
    (request : StopRequest)
    (now : Int) :
    (adapter.KeepsProtections (.placeStop request now) →
        (adapter.placeStop request now).1.Matched) ∧
      ((adapter.placeStop request now).1.Bookkept →
        adapter.KeepsProtections (.placeStop request now)) := by
  constructor
  · intro keeps symbol orderId
    rw [placeStop_entries, liveStop_placeStop consistent]
    split
    · next here =>
        subst here
        simp [keeps orderId, eq_comm]
    · next elsewhere =>
        simp only [elsewhere, and_false, or_false]
        exact matched symbol orderId
  · intro bookkept orderId live
    have unique :=
      (bookkept (upperText request.symbol)).1.mp
        (by rw [placeStop_entries, if_pos rfl]; rfl)
    have sameId :=
      unique.unique
        ((liveStop_placeStop consistent request now).mpr (Or.inl live))
        ((liveStop_placeStop consistent request now).mpr
          (Or.inr ⟨rfl, rfl⟩))
    exact live.ne_next consistent sameId

/-- A replaced stop, with entries that are exactly the live stops. -/
theorem replaceStop_keeps
    (consistent : adapter.Consistent)
    (matched : adapter.Matched)
    (replacement : StopReplacement)
    (now : Int) :
    (adapter.KeepsProtections (.replaceStop replacement now) →
        (adapter.replaceStop replacement now).1.Matched) ∧
      ((adapter.replaceStop replacement now).1.Bookkept →
        adapter.KeepsProtections (.replaceStop replacement now)) := by
  have live {symbol orderId : String} :=
    @liveStop_replaceStop adapter symbol orderId consistent replacement now
  constructor
  · intro keeps symbol orderId
    rw [replaceStop_entries, live]
    split
    · next here =>
        subst here
        have noOther :
            ¬ (adapter.LiveStop (upperText replacement.symbol) orderId ∧
              orderId ≠ replacement.existingOrderId) :=
          fun other => other.2 (keeps.2 orderId other.1)
        simp [noOther, eq_comm]
    · next elsewhere =>
        simp only [elsewhere, and_false, or_false]
        refine (matched symbol orderId).trans ?_
        constructor
        · intro isLive
          refine ⟨isLive, ?_⟩
          intro same
          subst same
          exact elsewhere (keeps.1 symbol isLive)
        · exact And.left
  · intro bookkept
    constructor
    · intro symbol isLive
      by_contra elsewhere
      have entry :
          (adapter.replaceStop replacement now).1.protections.get? symbol =
            some replacement.existingOrderId := by
        rw [replaceStop_entries, if_neg elsewhere]
        exact (matched _ _).mpr isLive
      rcases live.mp ((bookkept symbol).2 _ entry) with old | new
      · exact old.2 rfl
      · exact elsewhere new.2
    · intro orderId isLive
      by_contra different
      have unique :=
        (bookkept (upperText replacement.symbol)).1.mp
          (by rw [replaceStop_entries, if_pos rfl]; rfl)
      have sameId :=
        unique.unique (live.mpr (Or.inl ⟨isLive, different⟩))
          (live.mpr (Or.inr ⟨rfl, rfl⟩))
      exact isLive.ne_next consistent sameId

/-- A canceled protection, with entries that are exactly the live stops. -/
theorem cancelProtection_keeps
    (matched : adapter.Matched)
    (query : OrderQuery)
    (now : Int) :
    (adapter.KeepsProtections (.cancelProtection query now) →
        (adapter.cancelProtection query now).1.Matched) ∧
      ((adapter.cancelProtection query now).1.Bookkept →
        adapter.KeepsProtections (.cancelProtection query now)) := by
  have live {symbol orderId : String} :=
    @liveStop_cancelProtection adapter symbol orderId query now
  constructor
  · intro keeps symbol orderId
    rw [cancelProtection_entries, live]
    split
    · next here =>
        subst here
        refine iff_of_false (by simp) ?_
        intro isLive
        obtain ⟨order, resolved⟩ := keeps.1 orderId isLive.1
        exact isLive.2 order resolved
    · next elsewhere =>
        refine (matched symbol orderId).trans ?_
        constructor
        · intro isLive
          refine ⟨isLive, ?_⟩
          intro order resolved
          obtain ⟨stored, isStored, stopLive, onSymbol⟩ := isLive
          rw [(resolve?_eq_some_iff.mp resolved).2] at isStored
          cases isStored
          exact elsewhere
            (onSymbol.symm.trans (keeps.2 orderId order resolved stopLive))
        · exact And.left
  · intro bookkept
    constructor
    · intro orderId isLive
      by_contra unresolved
      have noEntry := (bookkept (upperText query.symbol)).1
      rw [cancelProtection_entries, if_pos rfl] at noEntry
      have remains :=
        noEntry.mpr ⟨orderId,
          live.mpr ⟨isLive, fun order resolved =>
            unresolved ⟨order, resolved⟩⟩, by
          intro other otherLive
          have entry := (matched _ _).mpr isLive
          rw [(matched _ _).mpr (live.mp otherLive).1] at entry
          exact Option.some.inj entry⟩
      cases remains
    · intro orderId order resolved stopLive
      by_contra elsewhere
      have entry :
          (adapter.cancelProtection query now).1.protections.get?
              order.symbol = some orderId := by
        rw [cancelProtection_entries, if_neg elsewhere]
        exact (matched _ _).mpr (liveStop_of_resolve resolved stopLive)
      exact (live.mp ((bookkept _).2 _ entry)).2 order resolved

end Steps

/--
A call keeps the entries exactly the live stops if its arguments allow it, and
whenever it keeps the bookkeeping right.
-/
theorem step_keeps
    (consistent : adapter.Consistent)
    (matched : adapter.Matched)
    (op : MockOp) :
    (adapter.KeepsProtections op → (adapter.step op).1.Matched) ∧
      ((adapter.step op).1.Bookkept → adapter.KeepsProtections op) := by
  cases op with
  | placeOrder request now =>
      refine ⟨fun _ => ?_, fun _ => trivial⟩
      simp only [step]
      cases known : adapter.clientToOrder.get? request.clientOrderId with
      | some orderId =>
          rw [placeOrder_known known]
          exact matched
      | none =>
          have notLive : (adapter.orderOf request now).isLiveStop = false := by
            unfold orderOf MockOrder.isLiveStop
            cases request.isMarket <;> rfl
          have recorded :
              (adapter.record (adapter.orderOf request now)).Matched := by
            intro symbol orderId
            rw [liveStop_record_order consistent rfl notLive]
            exact matched symbol orderId
          rw [placeOrder_fresh known]
          dsimp only
          split
          · intro symbol orderId
            rw [applyFill_protections, LiveStop, applyFill_orders]
            exact recorded symbol orderId
          · exact recorded
  | cancelOrder query now =>
      exact cancelOrder_keeps matched query now
  | placeStop request now =>
      exact placeStop_keeps consistent matched request now
  | replaceStop replacement now =>
      exact replaceStop_keeps consistent matched replacement now
  | cancelProtection query now =>
      exact cancelProtection_keeps matched query now
  | setMarkPrice symbol price =>
      exact ⟨fun _ => matched, fun _ => trivial⟩

section Runs

variable {defaultMark : Decimal}
variable {ops : List MockOp}

/-- A run whose states are all kept right has its entries matched throughout. -/
theorem matched_of_bookkept
    (bookkept : ∀ earlier later, ops = earlier ++ later →
      (mockMachine.final (create defaultMark) earlier).Bookkept)
    (earlier later : List MockOp)
    (shape : ops = earlier ++ later) :
    (mockMachine.final (create defaultMark) earlier).Matched := by
  induction earlier using List.reverseRecOn generalizing later with
  | nil =>
      intro symbol orderId
      simp [create, LiveStop]
  | append_singleton earlier op inductionHypothesis =>
      have matched :=
        inductionHypothesis (op :: later)
          (by rw [shape, List.append_assoc]; rfl)
      have kept := bookkept (earlier ++ [op]) later shape
      rw [mockMachine.final_append] at kept ⊢
      have keeps :=
        step_keeps (MockReachable.of_run defaultMark earlier).consistent
          matched op
      exact keeps.1 (keeps.2 kept)

end Runs

end MockBinanceAdapter

/--
The protection entries are right in every state of a run exactly if every call
keeps them: no live stop is canceled as an order, a stop is placed only on a
symbol without one, and a stop is replaced, and a protection canceled, only
through the live stop of the symbol.
-/
theorem protectionsBookkept_iff
    (defaultMark : Decimal)
    (ops : List MockOp) :
    (∀ earlier later, ops = earlier ++ later →
        (mockMachine.final (.create defaultMark) earlier).Bookkept) ↔
      ∀ executed ∈ mockMachine.trace (.create defaultMark) ops,
        executed.before.KeepsProtections executed.op := by
  rw [mockMachine.forall_mem_trace_iff]
  have matchedIff :
      (∀ earlier later, ops = earlier ++ later →
          (mockMachine.final (.create defaultMark) earlier).Matched) ↔
        ∀ earlier op later, ops = earlier ++ op :: later →
          (mockMachine.final (.create defaultMark)
            earlier).KeepsProtections op := by
    apply forall_prefix_iff
    · intro symbol orderId
      simp [MockBinanceAdapter.create, MockBinanceAdapter.LiveStop]
    · intro earlier op later _ matched
      have keeps :=
        MockBinanceAdapter.step_keeps
          (MockReachable.of_run defaultMark earlier).consistent matched op
      rw [mockMachine.final_append]
      exact ⟨fun after => keeps.2 after.bookkept, keeps.1⟩
  rw [← matchedIff]
  constructor
  · exact MockBinanceAdapter.matched_of_bookkept
  · intro matched earlier later shape
    exact (matched earlier later shape).bookkept

/-- A stop on `BTCUSDT`, to sell one. -/
def btcStop (clientOrderId : String) : StopRequest where
  symbol := "BTCUSDT"
  side := .sell
  stopPrice := 90
  quantity := 1
  clientOrderId := clientOrderId
  reduceOnly := true

/--
Canceling the protection of a symbol by its name deletes the entry and leaves
the stop live.
-/
theorem live_stop_outlives_protection :
    ¬ ∀ adapter, MockReachable adapter → adapter.Bookkept := by
  intro bookkept
  let ops : List MockOp :=
    [.placeStop (btcStop "stop") 0,
      .cancelProtection ⟨"BTCUSDT", none, none⟩ 1]
  have onlyOrder :
      (mockMachine.final (.create 100) ops).orders.keys = ["1"] := by
    decide +kernel
  have isLive :
      ((mockMachine.final (.create 100) ops).orders.get? "1").map
          (fun order => (order.isLiveStop, order.symbol)) =
        some (true, "BTCUSDT") := by
    decide +kernel
  have noEntry :
      (mockMachine.final (.create 100) ops).protections.get? "BTCUSDT" =
        none := by
    decide +kernel
  obtain ⟨order, stored, live⟩ := Option.map_eq_some_iff.mp isLive
  have hasEntry :=
    (bookkept _ (MockReachable.of_run 100 ops) "BTCUSDT").1.mpr
      ⟨"1", ⟨order, stored, congrArg Prod.fst live, congrArg Prod.snd live⟩,
        by
          intro other otherLive
          obtain ⟨otherOrder, otherStored, _⟩ := otherLive
          by_contra different
          have absent :
              other ∉ (mockMachine.final (.create 100) ops).orders.keys := by
            rw [onlyOrder, List.mem_singleton]
            exact different
          rw [← OrderedDict.get?_eq_none_iff, otherStored] at absent
          cases absent⟩
  rw [noEntry] at hasEntry
  cases hasEntry

end SafeSignalTrader
