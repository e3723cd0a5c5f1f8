import Mathlib.Data.Set.Basic
import SafeSignalTrader.ConflictResolver

/-!
# Conflicts with a set of open trades

What the resolver is for, as a decision about the set of trades held on the
symbol of a signal.  The code works on a list and returns early; it decides as
the set does, so neither order nor repetition nor other symbols matter, and a
larger set never permits more.
-/

namespace SafeSignalTrader

namespace ConflictResolver

variable {signal : NormalizedSignal}
variable {policy : ConflictPolicy}
variable {sourcePriority : Option (OrderedDict String Int)}

/-- The open trades held on a symbol. -/
def heldOn
    (symbol : String)
    (openTrades : List OpenTradeRef) : Set OpenTradeRef :=
  {trade | trade ∈ openTrades ∧ trade.symbol = symbol}

open Classical in
/-- The action on a signal over a set of trades held on its symbol. -/
noncomputable def actionOver
    (signal : NormalizedSignal)
    (policy : ConflictPolicy)
    (sourcePriority : Option (OrderedDict String Int))
    (held : Set OpenTradeRef) : ConflictAction :=
  if held = ∅ then
    .accept
  else if ∃ trade ∈ held, trade.side ≠ signal.side then
    .reject
  else
    match policy with
    | .rejectSecond => .reject
    | .allowSameDirectionScaleIn => .scaleIn
    | .dedicatedAccount => .accept
    | .sourcePriority =>
        if ∃ trade ∈ held,
            priorityOf sourcePriority signal.sourceId ≤
              priorityOf sourcePriority trade.sourceId then
          .reject
        else
          .accept
    | .manualReview => .manualReview

/-- A held trade that does not keep a signal from opening a trade. -/
structure Tolerates
    (signal : NormalizedSignal)
    (policy : ConflictPolicy)
    (sourcePriority : Option (OrderedDict String Int))
    (trade : OpenTradeRef) : Prop where
  sameSide : trade.side = signal.side
  sharesSymbol : policy ≠ .rejectSecond ∧ policy ≠ .manualReview
  outranked :
    policy = .sourcePriority →
      priorityOf sourcePriority trade.sourceId <
        priorityOf sourcePriority signal.sourceId

/-- A trade is opened exactly if every held trade tolerates it. -/
theorem actionOver_opensTrade_iff (held : Set OpenTradeRef) :
    (actionOver signal policy sourcePriority held).opensTrade = true ↔
      ∀ trade ∈ held, Tolerates signal policy sourcePriority trade := by
  unfold actionOver
  by_cases empty : held = ∅
  · simp [empty, ConflictAction.opensTrade]
  · obtain ⟨witness, isHeld⟩ := Set.nonempty_iff_ne_empty.mpr empty
    rw [if_neg empty]
    by_cases opposite : ∃ trade ∈ held, trade.side ≠ signal.side
    · obtain ⟨trade, tradeHeld, otherSide⟩ := opposite
      rw [if_pos ⟨trade, tradeHeld, otherSide⟩]
      refine iff_of_false (by decide) ?_
      intro tolerates
      exact otherSide (tolerates trade tradeHeld).sameSide
    · rw [if_neg opposite]
      push Not at opposite
      cases policy with
      | rejectSecond =>
          refine iff_of_false Bool.false_ne_true ?_
          intro tolerates
          exact (tolerates witness isHeld).sharesSymbol.1 rfl
      | manualReview =>
          refine iff_of_false Bool.false_ne_true ?_
          intro tolerates
          exact (tolerates witness isHeld).sharesSymbol.2 rfl
      | allowSameDirectionScaleIn =>
          refine iff_of_true rfl ?_
          intro trade tradeHeld
          exact ⟨opposite trade tradeHeld, ⟨nofun, nofun⟩, nofun⟩
      | dedicatedAccount =>
          refine iff_of_true rfl ?_
          intro trade tradeHeld
          exact ⟨opposite trade tradeHeld, ⟨nofun, nofun⟩, nofun⟩
      | sourcePriority =>
          dsimp only
          split
          · next ranked =>
              obtain ⟨trade, tradeHeld, ranks⟩ := ranked
              refine iff_of_false (by decide) ?_
              intro tolerates
              exact not_lt.mpr ranks ((tolerates trade tradeHeld).outranked rfl)
          · next unranked =>
              push Not at unranked
              refine iff_of_true rfl ?_
              intro trade tradeHeld
              exact ⟨opposite trade tradeHeld, ⟨nofun, nofun⟩,
                fun _ => unranked trade tradeHeld⟩

/-- Fewer held trades permit no less. -/
theorem actionOver_opensTrade_mono
    {fewer held : Set OpenTradeRef}
    (subset : fewer ⊆ held)
    (opens :
      (actionOver signal policy sourcePriority held).opensTrade = true) :
    (actionOver signal policy sourcePriority fewer).opensTrade = true := by
  rw [actionOver_opensTrade_iff] at opens ⊢
  intro trade isHeld
  exact opens trade (subset isHeld)

/-- A held trade of the other side is refused under every policy. -/
theorem actionOver_of_opposite
    {held : Set OpenTradeRef}
    {trade : OpenTradeRef}
    (isHeld : trade ∈ held)
    (opposite : trade.side ≠ signal.side) :
    actionOver signal policy sourcePriority held = .reject := by
  have nonempty : held ≠ ∅ :=
    Set.nonempty_iff_ne_empty.mp ⟨trade, isHeld⟩
  unfold actionOver
  rw [if_neg nonempty, if_pos ⟨trade, isHeld, opposite⟩]

section Lists

variable {openTrades : List OpenTradeRef}

theorem mem_filter_symbol_iff {trade : OpenTradeRef} :
    (trade ∈ openTrades.filter fun trade => trade.symbol = signal.symbol) ↔
      trade ∈ heldOn signal.symbol openTrades := by
  simp [heldOn]

/-- The priority branch looks for one trade that is not outranked. -/
theorem resolvePriority_action (sameDir : List OpenTradeRef) :
    (resolvePriority signal sourcePriority sameDir).action =
      if ∃ trade ∈ sameDir,
          priorityOf sourcePriority signal.sourceId ≤
            priorityOf sourcePriority trade.sourceId then
        .reject
      else
        .accept := by
  unfold resolvePriority
  split
  · next trade found =>
      have ranks := List.find?_some found
      rw [if_pos ⟨trade, List.mem_of_find?_eq_some found,
        of_decide_eq_true ranks⟩]
  · next noneFound =>
      have unranked := List.find?_eq_none.mp noneFound
      rw [if_neg]
      rintro ⟨trade, member, ranks⟩
      exact unranked trade member (decide_eq_true ranks)

/-- The code decides about the set of trades on the symbol. -/
theorem resolve_action
    (signal : NormalizedSignal)
    (policy : ConflictPolicy)
    (openTrades : List OpenTradeRef)
    (sourcePriority : Option (OrderedDict String Int)) :
    (resolve signal policy openTrades sourcePriority).action =
      actionOver signal policy sourcePriority
        (heldOn signal.symbol openTrades) := by
  have held := @mem_filter_symbol_iff signal openTrades
  unfold resolve actionOver
  dsimp only
  generalize (openTrades.filter fun trade =>
    decide (trade.symbol = signal.symbol)) = sameSymbol at held ⊢
  have emptyIff : heldOn signal.symbol openTrades = ∅ ↔ sameSymbol = [] := by
    rw [Set.eq_empty_iff_forall_notMem, List.eq_nil_iff_forall_not_mem]
    exact forall_congr' fun trade => not_congr held.symm
  by_cases empty : sameSymbol = []
  · rw [if_pos empty, if_pos (emptyIff.mpr empty)]
  · rw [if_neg empty, if_neg (mt emptyIff.mp empty)]
    have oppositeIff :
        (sameSymbol.filter fun trade => trade.side ≠ signal.side) ≠ [] ↔
          ∃ trade ∈ heldOn signal.symbol openTrades,
            trade.side ≠ signal.side := by
      simp [List.filter_eq_nil_iff, ← held]
    by_cases opposite :
        ∃ trade ∈ heldOn signal.symbol openTrades,
          trade.side ≠ signal.side
    · rw [if_pos (oppositeIff.mpr opposite), if_pos opposite]
    · rw [if_neg (mt oppositeIff.mp opposite), if_neg opposite]
      push Not at opposite
      have allSame :
          (sameSymbol.filter fun trade => trade.side = signal.side) =
            sameSymbol := by
        rw [List.filter_eq_self]
        intro trade member
        exact decide_eq_true (opposite trade (held.mp member))
      rw [allSame, if_neg empty]
      cases policy with
      | rejectSecond => rfl
      | allowSameDirectionScaleIn => rfl
      | dedicatedAccount => rfl
      | manualReview => rfl
      | sourcePriority =>
          have sameTest :
              (∃ trade ∈ sameSymbol,
                  priorityOf sourcePriority signal.sourceId ≤
                    priorityOf sourcePriority trade.sourceId) ↔
                ∃ trade ∈ heldOn signal.symbol openTrades,
                  priorityOf sourcePriority signal.sourceId ≤
                    priorityOf sourcePriority trade.sourceId := by
            simp only [held]
          dsimp only
          rw [resolvePriority_action]
          by_cases ranked : ∃ trade ∈ sameSymbol,
              priorityOf sourcePriority signal.sourceId ≤
                priorityOf sourcePriority trade.sourceId
          · rw [if_pos ranked, if_pos (sameTest.mp ranked)]
          · rw [if_neg ranked, if_neg (mt sameTest.mpr ranked)]

/-- The code opens a trade exactly if all on the symbol tolerate it. -/
theorem resolve_opensTrade_iff :
    (resolve signal policy openTrades sourcePriority).action.opensTrade =
        true ↔
      ∀ trade ∈ openTrades, trade.symbol = signal.symbol →
        Tolerates signal policy sourcePriority trade := by
  rw [resolve_action, actionOver_opensTrade_iff]
  constructor
  · intro tolerates trade member onSymbol
    exact tolerates trade ⟨member, onSymbol⟩
  · intro tolerates trade isHeld
    exact tolerates trade isHeld.1 isHeld.2

end Lists

/--
Conflict decisions depend only on the set of open trades on the symbol and are
fail-closed in it: fewer open trades permit no less, and an open trade of the
other side is rejected under every policy.
-/
theorem conflictDecisions_failClosed
    (signal : NormalizedSignal)
    (policy : ConflictPolicy)
    (sourcePriority : Option (OrderedDict String Int)) :
    (∀ first second : List OpenTradeRef,
        (∀ trade : OpenTradeRef, trade.symbol = signal.symbol →
          (trade ∈ first ↔ trade ∈ second)) →
        (resolve signal policy first sourcePriority).action =
          (resolve signal policy second sourcePriority).action) ∧
      (∀ fewer openTrades : List OpenTradeRef,
        fewer.Sublist openTrades →
        (resolve signal policy openTrades sourcePriority).action.opensTrade =
          true →
        (resolve signal policy fewer sourcePriority).action.opensTrade =
          true) ∧
      ∀ openTrades : List OpenTradeRef,
        (∃ trade ∈ openTrades, trade.symbol = signal.symbol ∧
          trade.side ≠ signal.side) →
        (resolve signal policy openTrades sourcePriority).action =
          .reject := by
  refine ⟨?_, ?_, ?_⟩
  · intro first second sameTrades
    have sameSet :
        heldOn signal.symbol first = heldOn signal.symbol second := by
      ext trade
      exact and_congr_left (sameTrades trade)
    rw [resolve_action, resolve_action, sameSet]
  · intro fewer openTrades sublist opens
    rw [resolve_action] at opens ⊢
    apply actionOver_opensTrade_mono _ opens
    intro trade isHeld
    exact ⟨sublist.subset isHeld.1, isHeld.2⟩
  · intro openTrades opposite
    obtain ⟨trade, member, onSymbol, otherSide⟩ := opposite
    rw [resolve_action]
    exact actionOver_of_opposite ⟨member, onSymbol⟩ otherSide

end ConflictResolver

end SafeSignalTrader
