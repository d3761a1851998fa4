import BdPay.Ledger.Position.Caps

namespace BdPay.Ledger.Position

open Platform Data Effect PositionAccount PositionStore PositionService Option

/-! What movements do to the positions. -/

variable {store later : PositionStore} {service : PositionService} {now : DateTime} {participantId windowId : String}

/-! Position accounts are found by participant and window, and updated by identifier. -/

def PositionAccount.place (row : PositionAccount) : String × String := (row.participantId, row.settlementWindowId)

/-- Accounts under their identifiers, one for each participant and window. -/
structure PositionStore.Sound (store : PositionStore) : Prop where
  keyed : store.positions.Keyed positionAccountId
  distinct : (store.positions.values.map place).Nodup

variable {row : PositionAccount}

theorem getPositionAccount_some (found : store.getPositionAccount participantId windowId = some row) :
    row ∈ store.positions.values ∧ row.participantId = participantId ∧ row.settlementWindowId = windowId := by
  have holds := List.find?_some found
  simp only [Bool.and_eq_true, decide_eq_true_eq] at holds
  exact ⟨List.mem_of_find?_eq_some found, holds⟩

theorem getPositionAccount_none (absent : store.getPositionAccount participantId windowId = none)
    (member : row ∈ store.positions.values) :
    ¬ (row.participantId = participantId ∧ row.settlementWindowId = windowId) := by
  have fails := List.find?_eq_none.mp absent row member
  simpa using fails

theorem PositionStore.Sound.getPositionAccount_of_mem (sound : store.Sound) (member : row ∈ store.positions.values) :
    store.getPositionAccount row.participantId row.settlementWindowId = some row := by
  cases found : store.getPositionAccount row.participantId row.settlementWindowId with
  | none => exact absurd ⟨rfl, rfl⟩ (getPositionAccount_none found member)
  | some other =>
    obtain ⟨inside, sameParticipant, sameWindow⟩ := getPositionAccount_some found
    have same : other.place = row.place := by
      simp [place, sameParticipant, sameWindow]
    rw [List.inj_on_of_nodup_map sound.distinct inside member same]

theorem PositionStore.Sound.get? (sound : store.Sound)
    (found : store.getPositionAccount participantId windowId = some row) :
    store.positions.get? row.positionAccountId = some row :=
  sound.keyed.get?_of_mem (getPositionAccount_some found).1

theorem sound_empty : empty.Sound := ⟨Dict.keyed_empty, by simp [empty]⟩

/-- The store with one account replaced. -/
def PositionStore.putPosition (store : PositionStore) (row : PositionAccount) : PositionStore :=
  { store with positions := store.positions.set row.positionAccountId row }

/-- What may become of an account: who it is for does not change. -/
structure SameHolder (old new : PositionAccount) : Prop where
  positionAccountId : new.positionAccountId = old.positionAccountId
  participantId : new.participantId = old.participantId
  settlementWindowId : new.settlementWindowId = old.settlementWindowId

section Update

variable (sound : store.Sound) (found : store.positions.get? old.positionAccountId = some old) (holder : SameHolder old new)
include sound found holder

theorem positions_putPosition :
    (store.putPosition new).positions = store.positions.mapValues fun row => if row = old then new else row := by
  rw [putPosition, holder.positionAccountId]
  change store.positions.set old.positionAccountId new = _
  rw [sound.keyed.set_eq_mapValues found]
  refine Dict.mapValues_congr fun row member => ?_
  have only : row.positionAccountId = old.positionAccountId ↔ row = old :=
    ⟨sound.keyed.inj member (Dict.mem_values_of_get? found), fun same => by rw [same]⟩
  simp only [only]

theorem PositionStore.Sound.putPosition : (store.putPosition new).Sound := by
  constructor
  · exact sound.keyed.set rfl
  · rw [positions_putPosition sound found holder, Dict.values_mapValues, List.map_map]
    have pairs : store.positions.values.map (place ∘ fun row => if row = old then new else row) =
        store.positions.values.map place := by
      refine List.map_congr_left fun row member => ?_
      rw [Function.comp_apply]
      split_ifs with same
      · rw [same, place, holder.participantId, holder.settlementWindowId, place]
      · rfl
    rw [pairs]
    exact sound.distinct

theorem getPositionAccount_putPosition :
    (store.putPosition new).getPositionAccount participantId windowId =
      (store.getPositionAccount participantId windowId).map fun row => if row = old then new else row := by
  rw [getPositionAccount, positions_putPosition sound found holder, Dict.values_mapValues, List.find?_map,
    getPositionAccount]
  congr 2
  funext row
  rw [Function.comp_apply]
  split_ifs with same
  · rw [same, holder.participantId, holder.settlementWindowId]
  · rfl

end Update

section Insert

theorem PositionStore.Sound.insert (sound : store.Sound) (fresh : store.positions.get? new.positionAccountId = none)
    (absent : store.getPositionAccount new.participantId new.settlementWindowId = none) :
    (store.putPosition new).Sound := by
  constructor
  · exact sound.keyed.set rfl
  · rw [PositionStore.putPosition, Dict.values_set_of_fresh fresh, List.map_append, List.nodup_append]
    refine ⟨sound.distinct, by simp, ?_⟩
    intro pair one other two same
    obtain ⟨row, member, rfl⟩ := List.mem_map.mp one
    obtain rfl : other = new.place := by simpa using two
    apply getPositionAccount_none absent member
    exact ⟨congrArg Prod.fst same, congrArg Prod.snd same⟩

theorem getPositionAccount_insert (fresh : store.positions.get? new.positionAccountId = none)
    (absent : store.getPositionAccount new.participantId new.settlementWindowId = none) :
    (store.putPosition new).getPositionAccount participantId windowId =
      if new.participantId = participantId ∧ new.settlementWindowId = windowId then some new
      else store.getPositionAccount participantId windowId := by
  rw [getPositionAccount, putPosition, Dict.values_set_of_fresh fresh, List.find?_append]
  change (store.getPositionAccount participantId windowId).or _ = _
  split_ifs with own
  · obtain ⟨rfl, rfl⟩ := own
    simp [absent]
  · cases store.getPositionAccount participantId windowId with
    | some => rfl
    | none => simpa using own

end Insert

/-! Programs. -/

/-- The account of a participant in a window, and the store once it is there. -/
inductive Opened (service : PositionService) (participantId : String) (window : SettlementWindow) (capMinor : Int)
    (now : DateTime) (store : PositionStore) : PositionAccount → PositionStore → Prop
  | existing (position : PositionAccount) (found : store.getPositionAccount participantId window.windowId = some position) :
      Opened service participantId window capMinor now store position store
  | fresh (absent : store.getPositionAccount participantId window.windowId = none)
      (unused : store.positions.get? (service.positionAccountIdFor participantId window.windowId) = none) :
      Opened service participantId window capMinor now store
        (service.newPositionAccount participantId window capMinor now)
        (store.putPosition (service.newPositionAccount participantId window capMinor now))

theorem stops_openPositionAccount (refused : ∀ message, raises (.ndc message) store)
    (opened : ∀ position later, Opened service participantId window capMinor now store position later → returns position later) :
    Stops (service.openPositionAccount participantId window capMinor now) store returns raises := by
  rw [openPositionAccount, stops_bind, stops_get]
  cases found : store.getPositionAccount participantId window.windowId with
  | some position => exact stops_pure.mpr (opened _ _ (.existing position found))
  | none =>
    simp only [insertPositionAccount, stops_bind, stops_get, stops_raiseIf, stops_set, stops_pure]
    refine ⟨fun _ => refused _, fun unused => ⟨fun _ => refused _, fun _ => ?_⟩⟩
    apply opened
    apply Opened.fresh found
    exact Dict.contains_eq_false_iff.mp (Bool.eq_false_iff.mpr unused)

variable {amountMinor : Int}

theorem Opened.sound (sound : store.Sound)
    (opened : Opened service participantId window capMinor now store position later) :
    later.Sound ∧ later.getPositionAccount participantId window.windowId = some position := by
  cases opened with
  | existing _ found => exact ⟨sound, found⟩
  | fresh absent unused =>
    refine ⟨sound.insert unused absent, ?_⟩
    rw [getPositionAccount_insert unused absent, if_pos ⟨rfl, rfl⟩]

/-- Net, number of debits and number of credits of a participant in a window: nothing if there is no account. -/
def PositionStore.standing (store : PositionStore) (participantId windowId : String) : Int × Nat × Nat :=
  match store.getPositionAccount participantId windowId with
  | none => (0, 0, 0)
  | some row => (row.netPositionMinor, row.debitCount, row.creditCount)

section

variable (opened : Opened service participantId window capMinor now store position later)
include opened

theorem Opened.standing (other otherWindow : String) :
    later.standing other otherWindow = store.standing other otherWindow := by
  cases opened with
  | existing => rfl
  | fresh absent unused =>
    rw [standing, getPositionAccount_insert unused absent]
    split_ifs with own
    · obtain ⟨rfl, rfl⟩ := own
      have none : store.getPositionAccount participantId window.windowId = none := absent
      rw [standing]
      simp only [newPositionAccount, none]
    · rfl

theorem Opened.mem (member : row ∈ store.positions.values) : row ∈ later.positions.values := by
  cases opened with
  | existing => exact member
  | fresh _ unused =>
    have added := @Dict.values_set_of_fresh _ _ _ _ _
      (service.newPositionAccount participantId window capMinor now) unused
    exact added ▸ List.mem_append_left _ member

theorem Opened.frame : later.windows = store.windows ∧ later.caps = store.caps ∧ later.breaches = store.breaches := by
  cases opened <;> exact ⟨rfl, rfl, rfl⟩

end

/-- An account after a debit. -/
def PositionAccount.debited (row : PositionAccount) (amountMinor : Int) (now : DateTime) : PositionAccount :=
  { row with
    netPositionMinor := row.netPositionMinor - amountMinor, debitCount := row.debitCount + 1, lastMovementAt := some now }

/-- An account after a credit. -/
def PositionAccount.credited (row : PositionAccount) (amountMinor : Int) (now : DateTime) : PositionAccount :=
  { row with
    netPositionMinor := row.netPositionMinor + amountMinor, creditCount := row.creditCount + 1, lastMovementAt := some now }

theorem debited_holder : SameHolder row (row.debited amountMinor now) := ⟨rfl, rfl, rfl⟩

theorem credited_holder : SameHolder row (row.credited amountMinor now) := ⟨rfl, rfl, rfl⟩

theorem stops_updatePosition (found : store.positions.get? position.positionAccountId = some position)
    (same : (change position).positionAccountId = position.positionAccountId) :
    Stops (updatePositionAccount position.positionAccountId change) store returns raises ↔
      returns (change position) (store.putPosition (change position)) := by
  rw [updatePositionAccount, stops_bind, stops_get]
  simp only [found, stops_bind, stops_set, stops_pure, putPosition, same]

/-- An error that leaves a row in the breach log. -/
def PositionError.logged : PositionError → Bool
  | .ndcBreach .. => true
  | .noOpenWindow _ => true
  | _ => false

/-- Everything a debit may do. -/
theorem stops_postDebit (sound : store.Sound) (refused : ∀ error, error.logged = false →
      (∀ participant, error = .ndcNotConfigured participant → store.activeCap participantId = none) → raises error store)
    (stray : store.findAccumulatingWindow = none → raises (.noOpenWindow participantId) { store with
      breaches := store.breaches ++ [service.strayBreach participantId amountMinor entryId sourcePaymentId now] })
    (breached : ∀ window cap position opened, store.findAccumulatingWindow = some window →
      store.activeCap participantId = some cap →
      Opened service participantId window cap.capAmountMinor now store position opened →
      headroom cap (position.netPositionMinor - amountMinor) < 0 →
      raises (.ndcBreach participantId amountMinor (headroom cap (position.netPositionMinor - amountMinor)))
        { opened with breaches :=
          opened.breaches ++ [service.breach participantId position cap window amountMinor entryId sourcePaymentId now] })
    (posted : ∀ window cap position opened, 0 < amountMinor → store.findAccumulatingWindow = some window →
      store.activeCap participantId = some cap →
      Opened service participantId window cap.capAmountMinor now store position opened →
      0 ≤ headroom cap (position.netPositionMinor - amountMinor) →
      returns (position.debited amountMinor now) (opened.putPosition (position.debited amountMinor now))) :
    Stops (service.postDebit participantId amountMinor entryId sourcePaymentId now) store returns raises := by
  simp only [postDebit, requirePso, stops_bind, stops_raiseIf, stops_get]
  refine ⟨fun _ => refused _ rfl (by intro _ same; cases same),
    fun _ => ⟨fun _ => refused _ rfl (by intro _ same; cases same), fun positive => ?_⟩⟩
  cases window : store.findAccumulatingWindow with
  | none =>
    simp only [insertBreach, stops_bind, stops_modify, stops_throw]
    exact stray window
  | some =>
    simp only [stops_bind, stops_get]
    cases cap : store.activeCap participantId with
    | none => exact stops_throw.mpr (refused _ rfl fun _ _ => cap)
    | some =>
      simp only [stops_bind]
      refine stops_openPositionAccount (fun _ => refused _ rfl (by intro _ same; cases same))
        fun position opened opening => ?_
      obtain ⟨sound', there⟩ := opening.sound sound
      simp only [debitPosition, stops_ite, insertBreach, stops_bind, stops_modify, stops_throw]
      refine ⟨fun short => breached _ _ _ _ window cap opening short, fun enough => ?_⟩
      refine (stops_updatePosition (sound'.get? there) rfl).mpr ?_
      exact posted _ _ _ _ (by omega) window cap opening (by omega)

theorem stops_postCredit (sound : store.Sound) (refused : ∀ error, raises error store)
    (posted : ∀ window cap position opened, 0 < amountMinor → store.findAccumulatingWindow = some window →
      store.activeCap participantId = some cap →
      Opened service participantId window cap.capAmountMinor now store position opened →
      returns (position.credited amountMinor now) (opened.putPosition (position.credited amountMinor now))) :
    Stops (service.postCredit participantId amountMinor now) store returns raises := by
  simp only [postCredit, requirePso, stops_bind, stops_raiseIf, stops_get]
  refine ⟨fun _ => refused _, fun _ => ⟨fun _ => refused _, fun positive => ?_⟩⟩
  cases window : store.findAccumulatingWindow with
  | none => exact stops_throw.mpr (refused _)
  | some =>
    simp only [stops_bind, stops_get]
    cases cap : store.activeCap participantId with
    | none => exact stops_throw.mpr (refused _)
    | some =>
      simp only [stops_bind]
      refine stops_openPositionAccount (fun _ => refused _) fun position opened opening => ?_
      obtain ⟨sound', there⟩ := opening.sound sound
      refine (stops_updatePosition (sound'.get? there) rfl).mpr ?_
      exact posted _ _ _ _ (by omega) window cap opening

/-! Runs. -/

/-- An accepted debit or credit. -/
structure Movement where
  (participantId windowId : String)
  side : Side
  amountMinor : Int

/-- The movement an operation has made, by the account it returned. -/
def Operation.moved : Operation → Option PositionAccount → Option Movement
  | .postDebit participantId amountMinor _ _, some row => some ⟨participantId, row.settlementWindowId, .debit, amountMinor⟩
  | .postCredit participantId amountMinor, some row => some ⟨participantId, row.settlementWindowId, .credit, amountMinor⟩
  | _, _ => none

namespace PositionService

/-- The movement a step makes, if it is one that is accepted. -/
def movement? (service : PositionService) (store : PositionStore) (step : Step) : Option Movement :=
  (value? (service.perform step) store).bind step.operation.moved

/-- The movements accepted in the course of a run. -/
def movements (service : PositionService) (store : PositionStore) : List Step → List Movement
  | [] => []
  | step :: rest => (service.movement? store step).toList ++ service.movements (service.after store step) rest

end PositionService

/-- The movements of a participant in a window on one side. -/
def movedOn (side : Side) (participantId windowId : String) (moved : List Movement) : List Movement :=
  moved.filter fun movement => movement.side = side ∧ movement.participantId = participantId ∧ movement.windowId = windowId

def movedTotal (moved : List Movement) : Int := (moved.map Movement.amountMinor).sum

/-- Credits minus debits, the number of debits, the number of credits. -/
def tally (participantId windowId : String) (moved : List Movement) : Int × Nat × Nat :=
  (movedTotal (movedOn .credit participantId windowId moved) - movedTotal (movedOn .debit participantId windowId moved),
    (movedOn .debit participantId windowId moved).length, (movedOn .credit participantId windowId moved).length)

@[simp] theorem tally_nil (participantId windowId : String) : tally participantId windowId [] = 0 := rfl

theorem tally_append (participantId windowId : String) (first second : List Movement) :
    tally participantId windowId (first ++ second) =
      tally participantId windowId first + tally participantId windowId second := by
  simp only [tally, movedOn, movedTotal, List.filter_append, List.map_append, List.sum_append, List.length_append]
  ext <;> simp
  omega

/-- What a step does: the accounts stay sound, and the standing of everybody grows by the movement it makes. -/
def Moves (moved : List Movement) (store later : PositionStore) : Prop :=
  later.Sound ∧ ∀ participantId windowId, later.standing participantId windowId =
    store.standing participantId windowId + tally participantId windowId moved

theorem moves_nothing (sound : store.Sound) (same : later.positions = store.positions) : Moves [] store later := by
  have accounts : ∀ participantId windowId, later.getPositionAccount participantId windowId =
      store.getPositionAccount participantId windowId := by
    intro participantId windowId
    rw [getPositionAccount, same, getPositionAccount]
  refine ⟨⟨same ▸ sound.keyed, same ▸ sound.distinct⟩, fun participantId windowId => ?_⟩
  rw [standing, accounts, tally_nil, add_zero]
  rfl

theorem Opened.moves (sound : store.Sound)
    (opened : Opened service participantId window capMinor now store position later) : Moves [] store later := by
  refine ⟨(opened.sound sound).1, fun other otherWindow => ?_⟩
  rw [opened.standing, tally_nil, add_zero]

/-- A movement on an account that is open. -/
theorem moves_put
    (sound : store.Sound) (opening : Opened service participantId window capMinor now store position opened)
    (holder : SameHolder position new) (own : movement.participantId = participantId)
    (there : movement.windowId = window.windowId) (counted : (new.netPositionMinor, new.debitCount, new.creditCount) =
      (position.netPositionMinor, position.debitCount, position.creditCount) + tally participantId window.windowId [movement]) :
    Moves [movement] store (opened.putPosition new) := by
  obtain ⟨sound', found⟩ := opening.sound sound
  have bound := sound'.get? found
  refine ⟨sound'.putPosition bound holder, fun other otherWindow => ?_⟩
  rw [← opening.standing, standing, getPositionAccount_putPosition sound' bound holder, standing]
  by_cases mine : other = participantId ∧ otherWindow = window.windowId
  · obtain ⟨rfl, rfl⟩ := mine
    simp only [found, map_some, if_true]
    exact counted
  · have apart : tally other otherWindow [movement] = 0 := by
      have none : ∀ side, movedOn side other otherWindow [movement] = [] := by
        intro side
        rw [movedOn, List.filter_eq_nil_iff]
        intro candidate member holds
        rw [List.mem_singleton.mp member] at holds
        simp only [decide_eq_true_eq] at holds
        exact mine ⟨holds.2.1.symm.trans own, holds.2.2.symm.trans there⟩
      rw [tally, none, none]
      rfl
    rw [apart, add_zero]
    cases account : opened.getPositionAccount other otherWindow with
    | none => rfl
    | some row =>
      have different : row ≠ position := by
        rintro rfl
        obtain ⟨_, isOther, isWindow⟩ := getPositionAccount_some account
        obtain ⟨_, isOwn, isThere⟩ := getPositionAccount_some found
        exact mine ⟨isOther.symm.trans isOwn, isWindow.symm.trans isThere⟩
      simp only [map_some, if_neg different]

theorem tally_debit (amountMinor : Int) :
    tally participantId windowId [⟨participantId, windowId, .debit, amountMinor⟩] = (-amountMinor, 1, 0) := by
  simp [tally, movedOn, movedTotal]

theorem tally_credit (amountMinor : Int) :
    tally participantId windowId [⟨participantId, windowId, .credit, amountMinor⟩] = (amountMinor, 0, 1) := by
  simp [tally, movedOn, movedTotal]

/-! Step by step. -/

theorem stops_requireWindow {returns : SettlementWindow → PositionStore → Prop} :
    Stops (requireWindow windowId) store returns raises ↔
      (∀ row, store.windows.get? windowId = some row → returns row store) ∧
        (store.windows.get? windowId = none → raises (.ndc s!"unknown window {windowId}") store) := by
  rw [requireWindow, stops_bind, stops_get]
  cases store.windows.get? windowId <;> simp [stops_pure, stops_throw]

theorem stops_updateWindow
    {returns : SettlementWindow → PositionStore → Prop} (refused : ∀ message, raises (.ndc message) store)
    (changed : ∀ row, store.windows.get? windowId = some row → changes.unknown = [] → returns (row.changed status changes)
      { store with windows := store.windows.set windowId (row.changed status changes) }) :
    Stops (updateWindow windowId status changes) store returns raises := by
  rw [updateWindow, stops_bind, stops_get]
  cases found : store.windows.get? windowId with
  | none => exact stops_throw.mpr (refused _)
  | some row =>
    simp only [stops_bind, stops_raiseIf, stops_set, stops_pure]
    exact ⟨fun _ => refused _, fun known => changed row found (by simpa using known)⟩

/-- Everything a transition may do. -/
theorem stops_transitionWindow
    {returns : SettlementWindow → PositionStore → Prop} (refused : ∀ error, raises error store)
    (changed : ∀ row, store.windows.get? windowId = some row → target ∈ windowTransitions row.status trigger →
      returns (row.changed target changes)
        { store with windows := store.windows.set windowId (row.changed target changes) }) :
    Stops (service.transitionWindow windowId trigger target changes) store returns raises := by
  simp only [transitionWindow, requirePso, denyWindow, stops_bind, stops_raiseIf,
    stops_requireWindow, not_not]
  refine ⟨fun _ => refused _, fun _ => ⟨fun row found => ⟨fun _ => refused _, fun allowed => ?_⟩, fun _ => refused _⟩⟩
  refine stops_updateWindow (fun _ => refused _) fun other there _ => ?_
  obtain rfl := some.inj (found.symm.trans there)
  exact changed row found allowed

theorem stops_openWindow {returns : SettlementWindow → PositionStore → Prop} (refused : ∀ error, raises error store)
    (opened : ∀ row, store.windows.get? row.windowId = none → row.status = .windowOpen →
      returns row { store with windows := store.windows.set row.windowId row }) :
    Stops (service.openWindow windowDate dnsSession now) store returns raises := by
  simp only [openWindow, requirePso, insertWindow, stops_bind, stops_raiseIf, stops_get,
    stops_set, stops_pure]
  refine ⟨fun _ => refused _, fun _ => ⟨fun _ => refused _, fun unused => ⟨fun _ => refused _, fun _ => ?_⟩⟩⟩
  apply opened _ _ rfl
  exact Dict.contains_eq_false_iff.mp (Bool.eq_false_iff.mpr unused)

section

variable (service) (sound : store.Sound) (capped : store.Capped)

include sound capped

theorem stops_perform (step : Step) : Stops (service.perform step) store
      (fun row? later => Moves (step.operation.moved row?).toList store later ∧ CapsChange service step store later)
      fun _ later => Moves [] store later ∧ CapsChange service step store later := by
  obtain ⟨now, operation⟩ := step
  have idle : ∀ later : PositionStore, later.positions = store.positions → later.caps = store.caps →
      Moves [] store later ∧ CapsChange service ⟨now, operation⟩ store later :=
    fun later positions caps => ⟨moves_nothing sound positions, .kept caps⟩
  cases operation with
  | openWindow =>
    simp only [perform, stops_bind, stops_pure]
    exact stops_openWindow (fun _ => idle _ rfl rfl) fun _ _ _ => idle _ rfl rfl
  | windowTick id =>
    simp only [perform, stops_bind, stops_pure]
    change Stops (service.transitionWindow id .windowOpenTick .accumulatingPositions {}) store _ _
    exact stops_transitionWindow (fun _ => idle _ rfl rfl) fun _ _ _ => idle _ rfl rfl
  | transitionWindow =>
    simp only [perform, stops_bind, stops_pure]
    exact stops_transitionWindow (fun _ => idle _ rfl rfl) fun _ _ _ => idle _ rfl rfl
  | setNetDebitCap participantId capAmountMinor approvedBy approvalRequestId rationale effectiveFrom =>
    simp only [perform, stops_bind, stops_pure]
    let call : CapCall := ⟨participantId, capAmountMinor, approvedBy, approvalRequestId, rationale, effectiveFrom⟩
    refine stops_capCall capped call (fun _ _ => idle _ rfl rfl) (fun _ accepted collides => ?_) fun accepted _ => ?_
    · exact ⟨moves_nothing sound positions_superseded, .collided call rfl accepted collides rfl⟩
    · exact ⟨moves_nothing sound positions_superseded, .replaced call rfl accepted rfl⟩
  | postDebit participantId amountMinor =>
    simp only [perform, stops_bind, stops_pure]
    refine stops_postDebit sound (fun _ _ _ => idle _ rfl rfl) (fun _ => idle _ rfl rfl) ?_ ?_
    · intro window cap position opened _ _ opening _
      obtain ⟨sound', standing⟩ := opening.moves sound
      exact ⟨⟨⟨sound'.keyed, sound'.distinct⟩, standing⟩, .kept opening.frame.2.1⟩
    · intro window cap position opened _ _ _ opening _
      obtain ⟨sound', found⟩ := opening.sound sound
      obtain ⟨_, _, there⟩ := getPositionAccount_some found
      refine ⟨(moves_put sound opening debited_holder rfl there ?_ :
        Moves [⟨participantId, position.settlementWindowId, .debit, amountMinor⟩] store _), .kept opening.frame.2.1⟩
      rw [there, tally_debit, debited]
      ext <;> simp
      omega
  | postCredit participantId amountMinor =>
    simp only [perform, stops_bind, stops_pure]
    refine stops_postCredit sound (fun _ => idle _ rfl rfl) ?_
    intro window cap position opened _ _ _ opening
    obtain ⟨sound', found⟩ := opening.sound sound
    obtain ⟨_, _, there⟩ := getPositionAccount_some found
    refine ⟨(moves_put sound opening credited_holder rfl there ?_ :
      Moves [⟨participantId, position.settlementWindowId, .credit, amountMinor⟩] store _), .kept opening.frame.2.1⟩
    rw [there, tally_credit, credited]
    ext <;> simp

theorem moves_after (step : Step) : Moves (service.movement? store step).toList store (service.after store step) ∧
      CapsChange service step store (service.after store step) := by
  have told := stops_perform service sound capped step
  rw [movement?, after]
  cases ran : service.perform step store with
  | ok row? later =>
    rw [leaves_of_ok ran, value?, ran]
    exact (stops_iff_of_ok ran).mp told
  | error =>
    rw [leaves_of_error ran, value?, ran]
    exact (stops_iff_of_error ran).mp told

theorem moves_run (steps : List Step) : Moves (service.movements store steps) store (steps.foldl service.after store) ∧
      (steps.foldl service.after store).Capped := by
  induction steps generalizing store with
  | nil => exact ⟨moves_nothing sound rfl, capped⟩
  | cons step _ ih =>
    obtain ⟨⟨sound', here⟩, change⟩ := moves_after service sound capped step
    obtain ⟨⟨final, onward⟩, last⟩ := ih sound' (change.capped capped)
    refine ⟨⟨final, fun participantId windowId => ?_⟩, last⟩
    rw [List.foldl_cons, onward, here, movements, tally_append, add_assoc]

end

theorem PositionService.run_moves (service : PositionService) (steps : List Step) :
    Moves (service.movements .empty steps) .empty (service.run steps) ∧ (service.run steps).Capped :=
  moves_run service sound_empty capped_empty steps

/-! Debits. -/

/-- What a refused debit leaves: nobody's position is changed, and the log has one more row exactly if the
debit was stopped by the cap or found no open window. -/
structure Refused (participantId : String) (amountMinor : Int) (error : PositionError) (store later : PositionStore) :
    Prop where
  standing : ∀ other windowId, later.standing other windowId = store.standing other windowId
  kept : ∀ row ∈ store.positions.values, row ∈ later.positions.values
  breaches : if error.logged then ∃ row, later.breaches = store.breaches ++ [row] ∧ row.participantId = participantId ∧
      row.attemptedDebitMinor = amountMinor
    else later.breaches = store.breaches

/-- What an accepted debit leaves: the participant's net debit is within the cap that is active. -/
structure WithinCap (participantId : String) (row : PositionAccount) (store later : PositionStore) : Prop where
  found : later.getPositionAccount participantId row.settlementWindowId = some row
  capped : ∃ cap, store.activeCap participantId = some cap ∧ later.activeCap participantId = some cap ∧
    max 0 (-row.netPositionMinor) ≤ cap.capAmountMinor

theorem stops_postDebit_checked (service : PositionService) (sound : store.Sound) (participantId : String)
    (amountMinor : Int) (entryId sourcePaymentId : Option String) (now : DateTime) :
    Stops (service.postDebit participantId amountMinor entryId sourcePaymentId now) store
      (fun row later => WithinCap participantId row store later)
      fun error later => Refused participantId amountMinor error store later := by
  apply stops_postDebit sound
  · intro error unlogged _
    exact ⟨fun _ _ => rfl, fun _ => id, by simp [unlogged]⟩
  · intro _
    exact ⟨fun _ _ => rfl, fun _ => id, ⟨_, rfl, rfl, rfl⟩⟩
  · intro window cap position opened _ _ opening _
    obtain ⟨_, _, breaches⟩ := opening.frame
    exact ⟨fun other windowId => opening.standing other windowId, fun row member => opening.mem member,
      ⟨_, by rw [breaches], rfl, rfl⟩⟩
  · intro window cap position opened _ _ active opening enough
    obtain ⟨sound', found⟩ := opening.sound sound
    obtain ⟨_, caps, _⟩ := opening.frame
    constructor
    · have there := (getPositionAccount_some found).2.2
      rw [getPositionAccount_putPosition sound' (sound'.get? found) debited_holder]
      change (opened.getPositionAccount participantId position.settlementWindowId).map _ = _
      rw [there, found, map_some, if_pos rfl]
    · have same : (opened.putPosition (position.debited amountMinor now)).activeCap participantId =
          store.activeCap participantId := by
        simp only [activeCap, putPosition, caps]
      refine ⟨cap, active, same.trans active, ?_⟩
      simp only [headroom] at enough
      simp only [debited]
      omega

/-- Over every run of the service: positions are what the accepted movements make them, and every debit is
within the cap or refused without a trace but the breach log. -/
theorem positions_follow_movements (service : PositionService) (steps : List Step) :
    (∀ row ∈ (service.run steps).positions.values, (row.netPositionMinor, row.debitCount, row.creditCount) =
      tally row.participantId row.settlementWindowId (service.movements .empty steps)) ∧
    ∀ participantId amountMinor entryId sourcePaymentId now,
      match service.postDebit participantId amountMinor entryId sourcePaymentId now (service.run steps) with
      | .ok row later => WithinCap participantId row (service.run steps) later
      | .error error later => Refused participantId amountMinor error (service.run steps) later := by
  obtain ⟨⟨sound, stands⟩, -⟩ := service.run_moves steps
  constructor
  · intro row member
    have standing := stands row.participantId row.settlementWindowId
    change (service.run steps).standing _ _ = 0 + _ at standing
    rw [PositionStore.standing, sound.getPositionAccount_of_mem member, zero_add] at standing
    exact standing
  · intro participantId amountMinor entryId sourcePaymentId now
    have checked := stops_postDebit_checked service sound participantId amountMinor entryId sourcePaymentId now
    cases ran : service.postDebit participantId amountMinor entryId sourcePaymentId now (service.run steps) with
    | ok => exact (stops_iff_of_ok ran).mp checked
    | error => exact (stops_iff_of_error ran).mp checked

end BdPay.Ledger.Position
