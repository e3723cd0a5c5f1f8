import SafeSignalTrader.ConflictSets
import SafeSignalTrader.RunSemantics

/-!
# Open trades over whole runs

A caller that opens a trade whenever the resolver lets it, and closes trades at
any time.  Every open trade was accepted next to all earlier ones that are
still open, so a relation the resolver ensures between a new trade and the open
ones holds pairwise, in order of acceptance, in every state of a run.
-/

namespace SafeSignalTrader

open RunSemantics

/-- One step of the caller. -/
inductive TradeOp where
  | submit
      (signal : NormalizedSignal) (policy : ConflictPolicy)
      (sourcePriority : Option (OrderedDict String Int))
      (tradeId accountId : String)
  | close (index : Nat)

namespace TradeOp

/-- The decision on a submitted signal is made under one of some policies. -/
def UsesPolicy (allowed : ConflictPolicy → Prop) : TradeOp → Prop
  | .submit _ policy _ _ _ => allowed policy
  | .close _ => True

/-- A submitted signal is decided by source priority under a fixed map. -/
def UsesPriority
    (fixed : Option (OrderedDict String Int)) : TradeOp → Prop
  | .submit _ policy sourcePriority _ _ =>
      policy = .sourcePriority ∧ sourcePriority = fixed
  | .close _ => True

end TradeOp

/-- The trade opened for a signal. -/
def NormalizedSignal.openTrade
    (signal : NormalizedSignal)
    (tradeId accountId : String) : OpenTradeRef where
  tradeId := tradeId
  sourceId := signal.sourceId
  symbol := signal.symbol
  side := signal.side
  accountId := accountId

/-- The caller as a machine over the open trades, oldest first. -/
def tradeMachine :
    Machine (List OpenTradeRef) TradeOp (Option ConflictDecision) where
  step := fun openTrades op =>
    match op with
    | .submit signal policy sourcePriority tradeId accountId =>
        let decision :=
          ConflictResolver.resolve signal policy openTrades sourcePriority
        if decision.action.opensTrade then
          (openTrades ++ [signal.openTrade tradeId accountId], some decision)
        else
          (openTrades, some decision)
    | .close index => (openTrades.eraseIdx index, none)
  admits := fun _ _ => True

/--
A relation between each open trade and a newly accepted one holds pairwise
after every step: closing a trade leaves a sublist, opening one appends it.
-/
theorem tradeMachine_pairwise
    {related : OpenTradeRef → OpenTradeRef → Prop}
    {openTrades : List OpenTradeRef}
    {op : TradeOp}
    (pairwise : openTrades.Pairwise related)
    (opened : ∀ signal policy sourcePriority tradeId accountId,
      op = .submit signal policy sourcePriority tradeId accountId →
      (ConflictResolver.resolve signal policy openTrades
        sourcePriority).action.opensTrade = true →
      ∀ trade ∈ openTrades,
        related trade (signal.openTrade tradeId accountId)) :
    ((tradeMachine.step openTrades op).1).Pairwise related := by
  cases op with
  | submit signal policy sourcePriority tradeId accountId =>
      simp only [tradeMachine]
      split
      · next opens =>
          rw [List.pairwise_append]
          refine ⟨pairwise, List.pairwise_singleton _ _, ?_⟩
          intro trade member new isNew
          rw [List.mem_singleton.mp isNew]
          exact opened _ _ _ _ _ rfl opens trade member
      · exact pairwise
  | close index =>
      exact pairwise.sublist (List.eraseIdx_sublist ..)

/-- Open trades on one symbol have one side, whatever the policies. -/
theorem sameSide_final (ops : List TradeOp) :
    (tradeMachine.final [] ops).Pairwise fun first second =>
      first.symbol = second.symbol → first.side = second.side := by
  apply tradeMachine.invariant
    (fun openTrades => openTrades.Pairwise fun first second =>
      first.symbol = second.symbol → first.side = second.side)
  · intro openTrades op pairwise _
    apply tradeMachine_pairwise pairwise
    intro signal policy sourcePriority tradeId accountId _ opens trade member
      sameSymbol
    have tolerates :=
      ConflictResolver.resolve_opensTrade_iff.mp opens trade member sameSymbol
    exact tolerates.sameSide
  · exact List.Pairwise.nil
  · exact tradeMachine.admitted_of_always (fun _ _ => trivial) _ ops

/-- Policies that never add a second trade keep the symbols apart. -/
theorem distinctSymbols_final
    {ops : List TradeOp}
    (exclusive : ∀ op ∈ ops, op.UsesPolicy fun policy =>
      policy = .rejectSecond ∨ policy = .manualReview) :
    (tradeMachine.final [] ops).Pairwise fun first second =>
      first.symbol ≠ second.symbol := by
  apply tradeMachine.invariant_of_ops
    (fun openTrades => openTrades.Pairwise fun first second =>
      first.symbol ≠ second.symbol) _ List.Pairwise.nil exclusive
  intro openTrades op pairwise usesExclusive
  apply tradeMachine_pairwise pairwise
  intro signal policy sourcePriority tradeId accountId submitted opens trade
    member sameSymbol
  subst submitted
  have tolerates :=
    ConflictResolver.resolve_opensTrade_iff.mp opens trade member sameSymbol
  rcases usesExclusive with isReject | isReview
  · exact tolerates.sharesSymbol.1 isReject
  · exact tolerates.sharesSymbol.2 isReview

/-- Under one priority map a later trade outranks the earlier ones. -/
theorem outranked_final
    {ops : List TradeOp}
    {fixed : Option (OrderedDict String Int)}
    (byPriority : ∀ op ∈ ops, op.UsesPriority fixed) :
    (tradeMachine.final [] ops).Pairwise fun first second =>
      first.symbol = second.symbol →
        ConflictResolver.priorityOf fixed first.sourceId <
          ConflictResolver.priorityOf fixed second.sourceId := by
  apply tradeMachine.invariant_of_ops
    (fun openTrades => openTrades.Pairwise fun first second =>
      first.symbol = second.symbol →
        ConflictResolver.priorityOf fixed first.sourceId <
          ConflictResolver.priorityOf fixed second.sourceId)
    _ List.Pairwise.nil byPriority
  intro openTrades op pairwise usesPriority
  apply tradeMachine_pairwise pairwise
  intro signal policy sourcePriority tradeId accountId submitted opens trade
    member sameSymbol
  subst submitted
  obtain ⟨isPriority, sameMap⟩ := usesPriority
  subst sameMap
  have tolerates :=
    ConflictResolver.resolve_opensTrade_iff.mp opens trade member sameSymbol
  exact tolerates.outranked isPriority

/-- The open trades on a symbol, in order of acceptance. -/
def tradesOn
    (symbol : String)
    (openTrades : List OpenTradeRef) : List OpenTradeRef :=
  openTrades.filter fun trade => trade.symbol = symbol

/-- What holds pairwise for equal symbols holds pairwise on each symbol. -/
theorem pairwise_tradesOn
    {related : OpenTradeRef → OpenTradeRef → Prop}
    {openTrades : List OpenTradeRef}
    (pairwise : openTrades.Pairwise fun first second =>
      first.symbol = second.symbol → related first second)
    (symbol : String) :
    (tradesOn symbol openTrades).Pairwise related := by
  apply (pairwise.filter fun trade => trade.symbol = symbol).imp_of_mem
  intro first second firstMember secondMember relatedIfSame
  have firstOn := of_decide_eq_true (List.mem_filter.mp firstMember).2
  have secondOn := of_decide_eq_true (List.mem_filter.mp secondMember).2
  exact relatedIfSame (firstOn.trans secondOn.symm)

/--
No opposite positions.  After every run, open trades on one symbol have the
same side; if every decision is made under `REJECT_SECOND` or `MANUAL_REVIEW`,
a symbol has at most one open trade; if every decision is made by one priority
map, the trades on a symbol have strictly increasing priorities in order of
acceptance, so at most one for each source.
-/
theorem noOppositePositions (ops : List TradeOp) :
    let openTrades := tradeMachine.final [] ops
    (∀ first ∈ openTrades, ∀ second ∈ openTrades,
        first.symbol = second.symbol → first.side = second.side) ∧
      ((∀ op ∈ ops, op.UsesPolicy fun policy =>
          policy = .rejectSecond ∨ policy = .manualReview) →
        ∀ symbol, (tradesOn symbol openTrades).length ≤ 1) ∧
      ∀ fixed, (∀ op ∈ ops, op.UsesPriority fixed) →
        ∀ symbol,
          (tradesOn symbol openTrades).Pairwise
              (fun first second =>
                ConflictResolver.priorityOf fixed first.sourceId <
                  ConflictResolver.priorityOf fixed second.sourceId) ∧
            ((tradesOn symbol openTrades).map
              OpenTradeRef.sourceId).Nodup := by
  intro openTrades
  refine ⟨?_, ?_, ?_⟩
  · have oneSide := sameSide_final ops
    intro first firstOpen second secondOpen
    apply List.Pairwise.forall_of_forall_of_flip _ oneSide _ firstOpen
      secondOpen
    · intro trade _ _
      rfl
    · apply oneSide.imp
      intro earlier later sameSide sameSymbol
      exact (sameSide sameSymbol.symm).symm
  · intro exclusive symbol
    have apart : (tradesOn symbol openTrades).Pairwise fun _ _ => False :=
      pairwise_tradesOn (distinctSymbols_final exclusive) symbol
    rcases shape : tradesOn symbol openTrades with _ | ⟨first, _ | ⟨second, rest⟩⟩
    · exact Nat.zero_le 1
    · exact le_refl 1
    · rw [shape] at apart
      exact (List.rel_of_pairwise_cons apart List.mem_cons_self).elim
  · intro fixed byPriority symbol
    have increasing :=
      pairwise_tradesOn (outranked_final byPriority) symbol
    refine ⟨increasing, ?_⟩
    rw [List.Nodup, List.pairwise_map]
    apply increasing.imp
    intro first second outranked sameSource
    rw [sameSource] at outranked
    exact lt_irrefl _ outranked

end SafeSignalTrader
